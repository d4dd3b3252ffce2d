import Blueprint.Json.Basic
import Blueprint.Double.Form
import Blueprint.Text.Numeral

/-!
# Writing JSON

JSON text in two layouts: on one line without blanks, or indented by two spaces per level.  Strings
escape quotes, backslashes and control characters and leave everything else as it is.
-/

namespace Blueprint

namespace Json

/-- Floating-point numbers in JSON: an exponent below `10 ^ (-5)` and from `10 ^ 16` on, else at
least one place after the point. -/
def numberForm : DecimalForm where
  tie := .even
  positional := fun leading => decide (-5 ≤ leading) && decide (leading < 16)
  pointZero := true
  plusSign := true

/-- A floating-point number; JSON has only `null` for those that are not finite. -/
def ofDouble (x : Double) : Json := if x.isFinite then .number (numberForm.write x) else .null

/-- One character of a string. -/
def escapeChar (c : Char) : List Char :=
  if c = '"' then ['\\', '"']
  else if c = '\\' then ['\\', '\\']
  else if c = '\x08' then ['\\', 'b']
  else if c = '\x0c' then ['\\', 'f']
  else if c = '\n' then ['\\', 'n']
  else if c = '\r' then ['\\', 'r']
  else if c = '\t' then ['\\', 't']
  else if c.toNat < 0x20 then '\\' :: 'u' :: Text.hexDigits 4 c.toNat
  else [c]

/-- A string in quotes.  What spells no text is written as an unpaired surrogate. -/
def writeText : Spelled → List Char
  | some text => '"' :: text.toList.flatMap escapeChar ++ ['"']
  | none => "\"\\ud800\"".toList

/-- The blanks of a layout. -/
structure Layout where
  /-- What stands before an item at a level of nesting. -/
  lineBreak : Nat → List Char
  /-- What stands between a key and its value. -/
  colon : List Char

/-- No blanks at all. -/
def Layout.compact : Layout := ⟨fun _ => [], [':']⟩

/-- One item a line, two spaces per level. -/
def Layout.indented : Layout :=
  ⟨fun level => '\n' :: List.replicate (2 * level) ' ', [':', ' ']⟩

mutual

/-- A value at a level of nesting. -/
def write (layout : Layout) (level : Nat) : Json → List Char
  | .null => ['n', 'u', 'l', 'l']
  | .bool true => ['t', 'r', 'u', 'e']
  | .bool false => ['f', 'a', 'l', 's', 'e']
  | .number numeral => numeral.toList
  | .string text => writeText text
  | .array [] => ['[', ']']
  | .array (item :: rest) =>
    '[' :: layout.lineBreak (level + 1) ++ write layout (level + 1) item
      ++ writeItems layout (level + 1) rest ++ layout.lineBreak level ++ [']']
  | .object [] => ['\x7b', '\x7d']
  | .object ((key, value) :: rest) =>
    '\x7b' :: layout.lineBreak (level + 1) ++ writeText key ++ layout.colon
      ++ write layout (level + 1) value
      ++ writeFields layout (level + 1) rest ++ layout.lineBreak level ++ ['\x7d']

/-- The items of an array after the first. -/
def writeItems (layout : Layout) (level : Nat) : List Json → List Char
  | [] => []
  | item :: rest =>
    ',' :: layout.lineBreak level ++ write layout level item ++ writeItems layout level rest

/-- The fields of an object after the first. -/
def writeFields (layout : Layout) (level : Nat) : List (Spelled × Json) → List Char
  | [] => []
  | (key, value) :: rest =>
    ',' :: layout.lineBreak level ++ writeText key ++ layout.colon ++ write layout level value
      ++ writeFields layout level rest

end

/-- The text of a value on one line. -/
def compact (json : Json) : String := String.ofList (json.write .compact 0)

/-- The text of a value, indented. -/
def pretty (json : Json) : String := String.ofList (json.write .indented 0)

end Json

end Blueprint
