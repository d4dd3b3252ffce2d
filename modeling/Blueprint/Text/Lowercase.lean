import Blueprint.Text.LetterCase

/-!
# Lower case

Full lower-casing of a text.  Two letters do not map to one fixed character: a capital I with a dot
becomes `i` and a combining dot, and a capital sigma takes its final form at the end of a word.
-/

namespace Blueprint.Text

/-- The lower-case form of a letter that has one of a single character, else the letter. -/
def lowerChar (c : Char) : Char :=
  if c.toNat < 0x80 then c.toLower
  else match lowerRuns.find? (·.covers c.toNat) with
    | some run => Char.ofNat ((c.toNat : Int) + run.shift).toNat
    | none => c

/-- The first character that counts, read away from the sigma, is a letter with case. -/
def meetsCased (text : List Char) : Bool :=
  match text.dropWhile caseIgnorableRanges.contains with
  | c :: _ => casedRanges.contains c
  | [] => false

/-- The lower-case form of `c`, where `before` (reversed) and `after` surround it. -/
def lowerAt (before : List Char) (c : Char) (after : List Char) : List Char :=
  if c = 'İ' then ['i', '\u0307']
  else if c = 'Σ' then (if meetsCased before && !meetsCased after then ['ς'] else ['σ'])
  else [lowerChar c]

/-- Lower-cases a text whose earlier part, reversed, is `before`. -/
def lowerFrom (before : List Char) : List Char → List Char
  | [] => []
  | c :: after => lowerAt before c after ++ lowerFrom (c :: before) after

/-- The text in lower case. -/
def lower (text : String) : String := String.ofList (lowerFrom [] text.toList)

end Blueprint.Text
