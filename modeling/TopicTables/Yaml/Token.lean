import TopicTables.Yaml.Spot

/-! The tokens of a document. -/
namespace TopicTables.Yaml

/-- A line that starts with a percent sign. -/
inductive Directive where
  | yaml (major : Nat)
  /-- A handle that abbreviates the start of tags. -/
  | tag (handle expansion : Text)
  | other
  deriving DecidableEq, Repr

/-- The pieces that documents are made of. -/
inductive Token where
  | directive (d : Directive)
  | documentStart
  | documentEnd
  | blockSequenceStart
  | blockMappingStart
  | blockEnd
  | flowSequenceStart
  | flowSequenceEnd
  | flowMappingStart
  | flowMappingEnd
  | blockEntry
  | flowEntry
  | key
  | value
  | alias (name : Text)
  | anchor (name : Text)
  | tag (handle : Option Text) (suffix : Text)
  | scalar (text : Text) (plain : Bool)
  deriving DecidableEq, Repr

/-- The tokens of a document, up to its end or to a fault that comes up behind them. -/
structure TokenStream where
  tokens : List Token
  fault : Option SyntaxFault

end TopicTables.Yaml
