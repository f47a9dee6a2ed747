import TopicTables.Text.Code
import TopicTables.Text.Printable

/-! Texts and bytes as quoted literals.

A literal stands between single quotes, or between double quotes when the text
holds a single quote and no double one. A backslash, the quote in use and three
control characters have short escapes; any other code point that is not printable
is escaped in hexadecimal. Of bytes, all that are no visible ASCII are. -/
namespace TopicTables

/-- Lower-case hexadecimal digits, filled up with zeros to a width. -/
def hexPadded (width n : Nat) : Text :=
  List.replicate (width - (Nat.toDigits 16 n).length) '0' ++ Nat.toDigits 16 n

/-- The quote that a literal of the text stands between. -/
def literalQuote (t : Text) : Char := if t.contains '\'' && !t.contains '"' then '"' else '\''

/-- The escape of a code point: the shortest of three widths that holds it. -/
def escapeCodePoint (n : Nat) : Text :=
  if n < 0x100 then '\\' :: 'x' :: hexPadded 2 n
  else if n < 0x10000 then '\\' :: 'u' :: hexPadded 4 n
  else '\\' :: 'U' :: hexPadded 8 n

/-- The character of a code point stands for itself in a literal. -/
def isPrintableCode (n : Nat) : Bool := !isSurrogate n && isPrintable (Char.ofNat n)

/-- A code point as it stands inside a literal between the given quotes, where some code
points stand for themselves. -/
def escapeCode (quote : Char) (standsForItself : Nat → Bool) (n : Nat) : Text :=
  if n = quote.toNat then ['\\', quote]
  else if n = '\\'.toNat then ['\\', '\\']
  else if n = '\n'.toNat then ['\\', 'n']
  else if n = '\r'.toNat then ['\\', 'r']
  else if n = '\t'.toNat then ['\\', 't']
  else if standsForItself n then [Char.ofNat n]
  else escapeCodePoint n

/-- The quoted literal of a text. -/
def literal (t : Text) : Text :=
  literalQuote t :: (codes t).flatMap (escapeCode (literalQuote t) isPrintableCode)
    ++ [literalQuote t]

/-- The quoted literal of bytes. -/
def bytesLiteral (bytes : List UInt8) : Text :=
  let quote := literalQuote (bytes.map fun b => Char.ofNat b.toNat)
  'b' :: quote
    :: bytes.flatMap (fun b => escapeCode quote (fun n => 0x20 ≤ n && n < 0x7F) b.toNat) ++ [quote]

/-- The text between plain single quotes, with nothing escaped. -/
def echoed (t : Text) : Text := '\'' :: t ++ ['\'']

end TopicTables
