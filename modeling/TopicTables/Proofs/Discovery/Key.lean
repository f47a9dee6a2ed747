import TopicTables.Discovery.Key
import TopicTables.Proofs.Identifier

/-! The grammar of settings keys.

A name ends where the next dot outside it stands, so a text can be cut behind its first
name in one way only. A name read backwards is a name, so the same holds for the cut in
front of its last name. A topic may hold dots, but keyspace, table and setting are cut
off from the right: no key belongs to two tables (`Address.pathOf_inj`), and the cut
that reading settles on is the only one there is (`SettingKey.read?_eq_some_iff`). -/
namespace TopicTables

/-- A name as it is written in a key. -/
inductive IsName : Text → Prop where
  /-- A text without dots and quotes. -/
  | plain {t : Text} : t ≠ [] → '.' ∉ t → '"' ∉ t → IsName t
  /-- A text between quotes, its own quotes doubled. -/
  | quoted {exact : Text} : exact ≠ [] → IsName (Quoted.enclose (Quoted.double exact))

/-- An address that keys can be written for. -/
structure Address.Admissible (a : Address) : Prop where
  topic_ne_nil : a.topic ≠ []
  topic : ∀ c ∈ a.topic, SettingKey.isTopicChar c = true
  keyspace : IsName a.keyspace
  table : IsName a.table

/-! ### Names backwards -/

namespace Quoted

theorem double_append (t u : Text) : double (t ++ u) = double t ++ double u := by
  rw [double, double, double, List.flatMap_append]

theorem double_reverse (t : Text) : double t.reverse = (double t).reverse := by
  induction t with
  | nil => rfl
  | cons c t ih =>
    rw [List.reverse_cons, double_append, ih, double_cons c t, List.reverse_append]
    congr 1
    by_cases hc : c = '"'
    · subst hc
      rfl
    · simp [double, hc]

theorem enclose_reverse (body : Text) : (enclose body).reverse = enclose body.reverse := by
  simp [enclose]

end Quoted

theorem IsName.reverse {t : Text} (h : IsName t) : IsName t.reverse := by
  cases h with
  | plain hne hdot hquote =>
    exact .plain (by simpa using hne) (by simpa using hdot) (by simpa using hquote)
  | quoted hne =>
    rw [Quoted.enclose_reverse, ← Quoted.double_reverse]
    exact .quoted (by simpa using hne)

namespace SettingKey

/-! ### Reading one name -/

theorem takeBody?_pair (t : Text) :
    takeBody? ('"' :: '"' :: t) = (takeBody? t).map fun (body, rest) => ('"' :: '"' :: body, rest) := by
  rw [takeBody?]

theorem takeBody?_cons {c : Char} (hc : c ≠ '"') (t : Text) :
    takeBody? (c :: t) = (takeBody? t).map fun (body, rest) => (c :: body, rest) := by
  rw [takeBody?, if_neg hc]
  exact fun _ h => absurd h hc

/-- A quote that no second one follows ends the body. -/
theorem takeBody?_close {rest : Text} (h : rest.head? ≠ some '"') :
    takeBody? ('"' :: rest) = some ([], rest) := by
  rw [takeBody?, if_pos rfl]
  intro t _ ht
  exact h (by rw [ht]; rfl)

theorem takeBody?_double (exact : Text) {rest : Text} (h : rest.head? ≠ some '"') :
    takeBody? (Quoted.double exact ++ '"' :: rest) = some (Quoted.double exact, rest) := by
  induction exact with
  | nil => exact takeBody?_close h
  | cons c exact ih =>
    rw [Quoted.double_cons]
    by_cases hc : c = '"'
    · rw [if_pos hc, List.append_assoc]
      show takeBody? ('"' :: '"' :: (Quoted.double exact ++ '"' :: rest)) = _
      rw [takeBody?_pair, ih]
      rfl
    · rw [if_neg hc, List.append_assoc, List.singleton_append, takeBody?_cons hc, ih]
      rfl

theorem double_of_takeBody? {t body rest : Text} (h : takeBody? t = some (body, rest)) :
    ∃ exact, body = Quoted.double exact ∧ t = body ++ '"' :: rest := by
  fun_induction takeBody? t generalizing body rest with
  | case1 => cases h
  | case2 t ih =>
    obtain ⟨⟨body', rest'⟩, h', heq⟩ := Option.map_eq_some_iff.1 h
    cases heq
    obtain ⟨exact, rfl, rfl⟩ := ih h'
    exact ⟨'"' :: exact, rfl, rfl⟩
  | case3 t =>
    cases h
    exact ⟨[], rfl, rfl⟩
  | case4 c t _ hc ih =>
    obtain ⟨⟨body', rest'⟩, h', heq⟩ := Option.map_eq_some_iff.1 h
    cases heq
    obtain ⟨exact, rfl, rfl⟩ := ih h'
    refine ⟨c :: exact, ?_, rfl⟩
    rw [Quoted.double_cons, if_neg hc]
    rfl

theorem isNameChar_iff {c : Char} : isNameChar c = true ↔ c ≠ '.' ∧ c ≠ '"' := by
  simp [isNameChar]

theorem takeName?_of_head_ne {t : Text} (h : t.head? ≠ some '"') :
    takeName? t = if t.takeWhile isNameChar = [] then none
      else some (t.takeWhile isNameChar, t.dropWhile isNameChar) := by
  rw [takeName?]
  intro rest ht
  exact h (by rw [ht]; rfl)

theorem takeName?_of_takeBody? {t body rest : Text} {c : Char}
    (h : takeBody? t = some (c :: body, rest)) :
    takeName? ('"' :: t) = some (Quoted.enclose (c :: body), rest) := by
  rw [takeName?, h]

theorem isName_of_takeName? {t name rest : Text} (h : takeName? t = some (name, rest)) :
    IsName name ∧ t = name ++ rest := by
  by_cases hhead : t.head? = some '"'
  · obtain ⟨t, rfl⟩ := List.head?_eq_some_iff.1 hhead
    rw [takeName?] at h
    split at h
    · next c body rest' hbody =>
      cases h
      obtain ⟨exact, hexact, rfl⟩ := double_of_takeBody? hbody
      refine ⟨?_, by simp [Quoted.enclose]⟩
      rw [hexact]
      refine .quoted fun he => ?_
      rw [he] at hexact
      cases hexact
    · cases h
  · rw [takeName?_of_head_ne hhead] at h
    split at h
    · cases h
    · next hne =>
      cases h
      have hchar : ∀ c ∈ t.takeWhile isNameChar, c ≠ '.' ∧ c ≠ '"' := fun c hc =>
        isNameChar_iff.1 (List.mem_takeWhile_imp hc)
      exact ⟨.plain hne (fun hc => (hchar _ hc).1 rfl) fun hc => (hchar _ hc).2 rfl,
        List.takeWhile_append_dropWhile.symm⟩

/-- A name is read up to the dot behind it, or up to the end of the text. -/
theorem takeName?_append {name : Text} (h : IsName name) {rest : Text}
    (hrest : ∀ c ∈ rest.head?, c = '.') : takeName? (name ++ rest) = some (name, rest) := by
  cases h with
  | plain hne hdot hquote =>
    have hchar : ∀ c ∈ name, isNameChar c = true := fun c hc =>
      isNameChar_iff.2 ⟨fun h => hdot (h ▸ hc), fun h => hquote (h ▸ hc)⟩
    have hhead : (name ++ rest).head? ≠ some '"' := by
      rw [List.head?_append_of_ne_nil _ hne]
      exact fun h => hquote (List.mem_of_mem_head? h)
    have hend : rest.takeWhile isNameChar = [] ∧ rest.dropWhile isNameChar = rest := by
      cases rest with
      | nil => exact ⟨rfl, rfl⟩
      | cons c rest =>
        obtain rfl : c = '.' := hrest c rfl
        exact ⟨rfl, rfl⟩
    rw [takeName?_of_head_ne hhead, List.takeWhile_append_of_pos hchar,
      List.dropWhile_append_of_pos hchar, hend.1, hend.2, List.append_nil, if_neg hne]
  | @quoted exact hne =>
    have hbody : Quoted.double exact ≠ [] := fun h => hne (Quoted.double_eq_nil_iff.1 h)
    obtain ⟨c, body, hcons⟩ := List.exists_cons_of_ne_nil hbody
    have hquote : rest.head? ≠ some '"' := fun h => absurd (hrest '"' h) (by decide)
    have hread := takeBody?_double exact hquote
    rw [hcons] at hread ⊢
    show takeName? ('"' :: ((c :: body ++ ['"']) ++ rest)) = _
    rw [List.append_assoc]
    exact takeName?_of_takeBody? hread

/-- **A text is read as one name exactly if it is one.** -/
theorem takeName?_whole_iff {t : Text} : takeName? t = some (t, []) ↔ IsName t := by
  refine ⟨fun h => (isName_of_takeName? h).1, fun h => ?_⟩
  have hread : takeName? (t ++ []) = some (t, []) := takeName?_append h fun _ hc => by cases hc
  rwa [List.append_nil] at hread

/-- **A text is cut behind its first name in one way only**, at the dot that follows. -/
theorem takeNameDot?_eq_some_iff {t name rest : Text} :
    takeNameDot? t = some (name, rest) ↔ IsName name ∧ t = name ++ '.' :: rest := by
  constructor
  · intro h
    rw [takeNameDot?] at h
    split at h
    · next hname =>
      cases h
      exact isName_of_takeName? hname
    · cases h
  · intro h
    obtain ⟨hname, rfl⟩ := h
    have hdot : ∀ c ∈ ('.' :: rest).head?, c = '.' := fun c hc => (Option.some.inj hc).symm
    rw [takeNameDot?, takeName?_append hname hdot]
    rfl

end SettingKey

/-! ### One cut only -/

theorem IsName.cancel_left {m n t u : Text} (hm : IsName m) (hn : IsName n)
    (h : m ++ '.' :: t = n ++ '.' :: u) : m = n ∧ t = u := by
  have hread := SettingKey.takeNameDot?_eq_some_iff.2 ⟨hm, h.symm⟩
  rw [SettingKey.takeNameDot?_eq_some_iff.2 ⟨hn, rfl⟩] at hread
  cases hread
  exact ⟨rfl, rfl⟩

theorem IsName.cancel_right {m n t u : Text} (hm : IsName m) (hn : IsName n)
    (h : t ++ '.' :: m = u ++ '.' :: n) : t = u ∧ m = n := by
  have hreverse := congrArg List.reverse h
  rw [List.reverse_append, List.reverse_append, List.reverse_cons, List.reverse_cons,
    List.append_assoc, List.append_assoc] at hreverse
  obtain ⟨hname, hrest⟩ := hm.reverse.cancel_left hn.reverse hreverse
  exact ⟨List.reverse_injective hrest, List.reverse_injective hname⟩

namespace Address

theorem pathOf_eq (a : Address) (t : Text) :
    a.pathOf t = "topic.".toList ++
      (((a.topic ++ '.' :: a.keyspace) ++ '.' :: a.table) ++ '.' :: t) := by
  simp [pathOf, stem, joinWith]

theorem stem_eq (a : Address) : a.stem =
    "topic.".toList ++ ((a.topic ++ '.' :: a.keyspace) ++ '.' :: a.table) := by
  simp [stem, joinWith]

/-- Cut from the right, the text in front of the settings tells the two names, and what is
left is the topic. -/
theorem stem_inj {a b : Address} (ha : IsName a.keyspace) (ha' : IsName a.table)
    (hb : IsName b.keyspace) (hb' : IsName b.table) (h : a.stem = b.stem) : a = b := by
  rw [stem_eq, stem_eq] at h
  obtain ⟨hkeyspaces, htable⟩ := ha'.cancel_right hb' (List.append_cancel_left h)
  obtain ⟨htopic, hkeyspace⟩ := ha.cancel_right hb hkeyspaces
  cases a
  cases b
  cases htopic
  cases hkeyspace
  cases htable
  rfl

/-- **No key belongs to two tables**: cut from the right, only the topic is left. -/
theorem pathOf_inj {a b : Address} (ha : a.Admissible) (hb : b.Admissible) {t u : Text}
    (ht : IsName t) (hu : IsName u) (h : a.pathOf t = b.pathOf u) : a = b ∧ t = u := by
  obtain ⟨hstem, hlast⟩ := ht.cancel_right hu h
  exact ⟨stem_inj ha.keyspace ha.table hb.keyspace hb.table hstem, hlast⟩

end Address

/-! ### Reading a key -/

namespace SettingKey

theorem readSetting?_eq_some_iff {t : Text} {s : TableSetting} :
    readSetting? t = some s ↔ t = s.name ∨ t = s.name ++ ['\n'] := by
  constructor
  · intro h
    rw [readSetting?] at h
    simpa using List.find?_some h
  · intro h
    rcases h with rfl | rfl <;> cases s <;> decide

theorem isName_of_readSetting? {t : Text} {s : TableSetting} (h : readSetting? t = some s) :
    IsName t := by
  rcases readSetting?_eq_some_iff.1 h with rfl | rfl <;> cases s <;>
    exact .plain (by decide) (by decide) (by decide)

theorem readNames?_eq_some_iff {topic t : Text} {k : SettingKey} :
    readNames? topic t = some k ↔ k.address.topic = topic ∧ IsName k.address.keyspace ∧
      IsName k.address.table ∧ ∃ u, readSetting? u = some k.setting ∧
        t = k.address.keyspace ++ '.' :: (k.address.table ++ '.' :: u) := by
  constructor
  · intro h
    rw [readNames?] at h
    split at h
    · cases h
    · next keyspace t' hkeyspace =>
      split at h
      · cases h
      · next table u htable =>
        obtain ⟨s, hs, rfl⟩ := Option.map_eq_some_iff.1 h
        obtain ⟨hisKeyspace, rfl⟩ := takeNameDot?_eq_some_iff.1 hkeyspace
        obtain ⟨hisTable, rfl⟩ := takeNameDot?_eq_some_iff.1 htable
        exact ⟨rfl, hisKeyspace, hisTable, u, hs, rfl⟩
  · obtain ⟨⟨topic', keyspace, table⟩, s⟩ := k
    intro h
    obtain ⟨rfl, hkeyspace, htable, u, hs, rfl⟩ := h
    rw [readNames?, takeNameDot?_eq_some_iff.2 ⟨hkeyspace, rfl⟩]
    simp only
    rw [takeNameDot?_eq_some_iff.2 ⟨htable, rfl⟩]
    simp only [hs, Option.map_some]

theorem mem_dotCuts {before after t : Text} :
    (before, after) ∈ dotCuts t ↔ t = before ++ '.' :: after := by
  induction t generalizing before with
  | nil => simp [dotCuts]
  | cons c t ih =>
    cases before with
    | nil =>
      by_cases hc : c = '.' <;> simp [dotCuts, hc, eq_comm]
    | cons d before =>
      have hdot : (d :: before, after) ∉ (if c = '.' then [([], t)] else [] : List (Text × Text)) := by
        split <;> simp
      rw [dotCuts, List.mem_append, or_iff_right hdot, List.mem_map, List.cons_append,
        List.cons_eq_cons, ← ih]
      constructor
      · intro h
        obtain ⟨⟨before', after'⟩, hmem, heq⟩ := h
        cases heq
        exact ⟨rfl, hmem⟩
      · intro h
        obtain ⟨rfl, hmem⟩ := h
        exact ⟨_, hmem, rfl⟩

theorem readCut?_eq_some_iff {cut : Text × Text} {k : SettingKey} :
    readCut? cut = some k ↔ k.address.Admissible ∧ k.address.topic = cut.1 ∧
      ∃ u, readSetting? u = some k.setting ∧
        cut.2 = k.address.keyspace ++ '.' :: (k.address.table ++ '.' :: u) := by
  rw [readCut?]
  split
  · next h =>
    rw [readNames?_eq_some_iff]
    constructor
    · intro hnames
      obtain ⟨htopic, hkeyspace, htable, hrest⟩ := hnames
      have hall := List.all_eq_true.1 h.2
      rw [← htopic] at h hall
      exact ⟨⟨h.1, hall, hkeyspace, htable⟩, htopic, hrest⟩
    · intro hcut
      obtain ⟨ha, htopic, hrest⟩ := hcut
      exact ⟨htopic, ha.keyspace, ha.table, hrest⟩
  · next h =>
    constructor
    · intro hnone
      cases hnone
    · intro hcut
      obtain ⟨ha, htopic, -⟩ := hcut
      rw [← htopic] at h
      exact absurd ⟨ha.topic_ne_nil, List.all_eq_true.2 ha.topic⟩ h

/-- What is read from a key is a way to write it. -/
theorem pathOf_of_read? {key : Text} {k : SettingKey} (h : read? key = some k) :
    k.address.Admissible ∧ ∃ u, readSetting? u = some k.setting ∧ key = k.address.pathOf u := by
  unfold read? at h
  split at h
  · next rest =>
    obtain ⟨⟨before, after⟩, hcut, hread⟩ := List.exists_of_findSome?_eq_some h
    have hrest := mem_dotCuts.1 (List.mem_reverse.1 hcut)
    obtain ⟨ha, htopic, u, hu, hafter⟩ := readCut?_eq_some_iff.1 hread
    refine ⟨ha, u, hu, ?_⟩
    simp only at htopic hafter
    rw [Address.pathOf_eq, hrest, hafter, ← htopic]
    simp
  · cases h

/-- A key that can be written for an address is read as that, whichever cut is tried
first: another cut would be another way to write the key. -/
theorem read?_pathOf {k : SettingKey} (ha : k.address.Admissible) {u : Text}
    (hu : readSetting? u = some k.setting) : read? (k.address.pathOf u) = some k := by
  have hsome : (read? (k.address.pathOf u)).isSome = true := by
    rw [Address.pathOf_eq]
    show (List.findSome? readCut? (dotCuts _).reverse).isSome = true
    rw [List.findSome?_isSome_iff]
    refine ⟨(k.address.topic, k.address.keyspace ++ '.' :: (k.address.table ++ '.' :: u)),
      List.mem_reverse.2 (mem_dotCuts.2 (by simp)), ?_⟩
    rw [readCut?_eq_some_iff.2 ⟨ha, rfl, u, hu, rfl⟩]
    rfl
  obtain ⟨k', hk'⟩ := Option.isSome_iff_exists.1 hsome
  obtain ⟨ha', u', hu', hpath⟩ := pathOf_of_read? hk'
  obtain ⟨haddress, rfl⟩ :=
    Address.pathOf_inj ha ha' (isName_of_readSetting? hu) (isName_of_readSetting? hu') hpath
  have hsetting : k.setting = k'.setting := Option.some.inj (hu.symm.trans hu')
  rw [hk']
  cases k
  cases k'
  cases haddress
  cases hsetting
  rfl

/-- **A key is read as the one setting of the one table that it is written for**, with
or without a line break behind it. -/
theorem read?_eq_some_iff {key : Text} {k : SettingKey} :
    read? key = some k ↔ k.address.Admissible ∧
      (key = k.address.path k.setting ∨ key = k.address.path k.setting ++ ['\n']) := by
  have hpath : ∀ t, k.address.pathOf t = k.address.stem ++ '.' :: t := fun _ => rfl
  constructor
  · intro h
    obtain ⟨ha, u, hu, rfl⟩ := pathOf_of_read? h
    refine ⟨ha, ?_⟩
    rcases readSetting?_eq_some_iff.1 hu with rfl | rfl
    · exact .inl rfl
    · exact .inr (by simp [Address.path, hpath])
  · intro h
    obtain ⟨ha, rfl | rfl⟩ := h
    · exact read?_pathOf ha (readSetting?_eq_some_iff.2 (.inl rfl))
    · have hread := read?_pathOf ha (readSetting?_eq_some_iff.2 (.inr rfl))
      simpa [Address.path, hpath] using hread

end SettingKey
end TopicTables
