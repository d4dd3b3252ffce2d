import Blueprint.Double.Reading

/-!
# JSON values

The syntax tree of a JSON text.  It keeps what a reader may still object to: numbers as written,
repeated keys, and strings whose escapes name half of a surrogate pair.  Readers that skip part of
a value look at none of that; `Json.isSound` is the check of the whole tree.
-/

namespace Blueprint

/-- The text that a JSON string spells; nothing if an escape leaves half of a surrogate pair. -/
abbrev Spelled := Option String

/-- A JSON value. -/
inductive Json where
  /-- The value `null`. -/
  | null
  /-- A truth value. -/
  | bool (b : Bool)
  /-- A number as written. -/
  | number (numeral : String)
  /-- A string. -/
  | string (text : Spelled)
  /-- An array. -/
  | array (items : List Json)
  /-- An object, its fields as written. -/
  | object (fields : List (Spelled × Json))
  deriving Inhabited

namespace Json

/-- A string value. -/
def ofText (text : String) : Json := .string (some text)

/-- An object with the given fields. -/
def ofFields (fields : List (String × Json)) : Json :=
  .object (fields.map fun (key, value) => (some key, value))

/-! ### Soundness -/

/-- The finite number that a numeral denotes; nothing if it overflows. -/
def finite? (numeral : String) : Option Double :=
  (Double.read? numeral.toList).filter Double.isFinite

mutual

/-- How many containers are nested in one another, at the deepest place. -/
def depth : Json → Nat
  | .array items => depthItems items + 1
  | .object fields => depthFields fields + 1
  | _ => 0

/-- The greatest depth of a list of values. -/
def depthItems : List Json → Nat
  | [] => 0
  | item :: rest => max (depth item) (depthItems rest)

/-- The greatest depth of the values of a list of fields. -/
def depthFields : List (Spelled × Json) → Nat
  | [] => 0
  | (_, value) :: rest => max (depth value) (depthFields rest)

end

mutual

/-- Every string and key spells a text, and every number is finite. -/
def isSpelledOut : Json → Bool
  | .number numeral => (finite? numeral).isSome
  | .string text => text.isSome
  | .array items => itemsSpelledOut items
  | .object fields => fieldsSpelledOut fields
  | _ => true

/-- All values of a list are spelled out. -/
def itemsSpelledOut : List Json → Bool
  | [] => true
  | item :: rest => isSpelledOut item && itemsSpelledOut rest

/-- All keys and values of a list of fields are spelled out. -/
def fieldsSpelledOut : List (Spelled × Json) → Bool
  | [] => true
  | (key, value) :: rest => key.isSome && isSpelledOut value && fieldsSpelledOut rest

end

/-- The value is meaningful as a whole: nothing in it is misspelled or out of range, and fewer
than 128 containers are nested. -/
def isSound (json : Json) : Bool := json.isSpelledOut && decide (json.depth < 128)

/-! ### Repeated keys -/

mutual

/-- Keeps only the last field of each key, at every level. -/
def collapse : Json → Json
  | .array items => .array (collapseItems items)
  | .object fields => .object (collapseFields fields)
  | json => json

/-- Collapses each value of a list. -/
def collapseItems : List Json → List Json
  | [] => []
  | item :: rest => collapse item :: collapseItems rest

/-- Collapses each field of a list, and drops those whose key comes again. -/
def collapseFields : List (Spelled × Json) → List (Spelled × Json)
  | [] => []
  | (key, value) :: rest =>
    if rest.any (·.1 == key) then collapseFields rest
    else (key, collapse value) :: collapseFields rest

end

end Json

end Blueprint
