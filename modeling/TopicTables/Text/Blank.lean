import TopicTables.Text.Basic
import TopicTables.Text.Ranges

/-! White space, and texts without it at their ends.

`strip` takes the white space off both ends of a text and leaves the rest as it is:
what `stripEnd` takes off is white space (`stripEnd_append`). -/
namespace TopicTables

/-- Closed ranges of white-space code points, ascending and apart: the Unicode
property and the four separators from U+001C to U+001F. -/
def blankRanges : List (Nat × Nat) :=
  [(0x9, 0xD), (0x1C, 0x20), (0x85, 0x85), (0xA0, 0xA0), (0x1680, 0x1680), (0x2000, 0x200A),
   (0x2028, 0x2029), (0x202F, 0x202F), (0x205F, 0x205F), (0x3000, 0x3000)]

/-- The character is white space. -/
def isBlank (c : Char) : Bool := inRanges blankRanges c.toNat

/-- What is left of a text without the white space at its end. -/
def stripEnd (t : Text) : Text := (t.reverse.dropWhile isBlank).reverse

/-- What is left of a text without the white space at both ends. -/
def strip (t : Text) : Text := stripEnd (t.dropWhile isBlank)

/-- Only white space is taken off the end of a text. -/
theorem stripEnd_append (t : Text) :
    stripEnd t ++ (t.reverse.takeWhile isBlank).reverse = t := by
  rw [stripEnd, ← List.reverse_append, List.takeWhile_append_dropWhile, List.reverse_reverse]

end TopicTables
