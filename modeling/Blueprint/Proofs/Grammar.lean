import Mathlib.Data.List.Basic
import Blueprint.Proofs.Json.Tokens
import Blueprint.Proofs.Text.Words

/-!
# Expressions in full parentheses

The expressions of a script are operator trees over leaves (`Expression`).  Each operator is written
in parentheses of its own; only the index of the last element is written behind its operand without
any (`Expression.write`).  A reader goes from left to right and never looks back
(`Expression.read?`): a parenthesis tells an operator from a leaf, and the word behind it a negation
from an operator between two operands.

An operand is read up to where it ends, and all indices behind it belong to it.  So what reading
gives is said with the text that follows: it is the tree that was written, with those indices around
it (`Expression.readWithin_write`).

* `Expression.read?_write` : **the text of a tree reads back as the tree**, provided that its leaves
  are proper.
* `Expression.Proper.balanced_write` : its parentheses are balanced.
-/

namespace Blueprint

/-! ### Trees and their texts -/

/-- An operator between two operands. -/
inductive Operator where
  /-- The left side is greater. -/
  | greater
  /-- The left side is less. -/
  | less
  /-- Both sides are equal. -/
  | equal
  /-- The left side is greater or equal. -/
  | greaterEqual
  /-- The left side is less or equal. -/
  | lessEqual
  /-- Both sides hold. -/
  | and
  /-- One of the sides holds. -/
  | or
  /-- The sum. -/
  | add
  /-- The difference. -/
  | subtract
  /-- The product. -/
  | multiply
  /-- The quotient. -/
  | divide
  deriving DecidableEq, Repr

namespace Operator

/-- The sign of an operator. -/
def symbol : Operator → String
  | .greater => ">"
  | .less => "<"
  | .equal => "=="
  | .greaterEqual => ">="
  | .lessEqual => "<="
  | .and => "and"
  | .or => "or"
  | .add => "+"
  | .subtract => "-"
  | .multiply => "*"
  | .divide => "/"

/-- Every operator. -/
def all : List Operator :=
  [.greater, .less, .equal, .greaterEqual, .lessEqual, .and, .or, .add, .subtract, .multiply,
    .divide]

/-- The sign between two operands. -/
def write (operator : Operator) : List Char := ' ' :: operator.symbol.toList ++ [' ']

/-- An operator between two operands, and what follows it. -/
def read? (text : List Char) : Option (Operator × List Char) :=
  all.findSome? fun operator => (text.dropPrefix? operator.write).map (operator, ·)

end Operator

/-- Whose state an accessor reads. -/
inductive Subject where
  /-- The current bar. -/
  | bar
  /-- The strategy. -/
  | strategy
  deriving DecidableEq, Repr

/-- The name of a subject. -/
def Subject.name : Subject → String
  | .bar => "bar"
  | .strategy => "self"

/-- An expression without operators. -/
inductive Leaf where
  /-- A part of the state that the script offers. -/
  | accessor (subject : Subject) (field : String)
  /-- A variable that a node binds. -/
  | var (name : String)
  /-- A field of such a variable. -/
  | member (name field : String)
  /-- A number, as it is written. -/
  | number (numeral : String)
  /-- A truth value. -/
  | boolean (b : Bool)
  /-- The placeholder for what is missing. -/
  | absent
  deriving DecidableEq, Repr

/-- An operator tree. -/
inductive Expression where
  /-- An expression without operators. -/
  | atom (leaf : Leaf)
  /-- The last element of a series. -/
  | last (series : Expression)
  /-- The negation of a condition. -/
  | negation (operand : Expression)
  /-- An operator between two operands. -/
  | binary (operator : Operator) (left right : Expression)
  deriving DecidableEq, Repr

namespace Leaf

/-- The text of a leaf. -/
def write : Leaf → List Char
  | .accessor subject field => subject.name.toList ++ '.' :: field.toList
  | .var name => name.toList
  | .member name field => name.toList ++ '.' :: field.toList
  | .number numeral => numeral.toList
  | .boolean b => if b then "True".toList else "False".toList
  | .absent => "None".toList

/-- The leaves that are words of their own, among them the numbers that are not finite. -/
def words : List Leaf :=
  [.boolean true, .boolean false, .absent, .number "float('nan')", .number "float('inf')",
    .number "-float('inf')"]

/-- A variable is a word that starts with an underscore. -/
structure IsVariable (name : String) : Prop where
  /-- It is made of word characters. -/
  isWord : ∀ c ∈ name.toList, Text.isWord c = true
  /-- It starts with an underscore. -/
  head?_eq : name.toList.head? = some '_'

/-- The leaf is what its kind says. -/
inductive Proper : Leaf → Prop where
  /-- A word of its own. -/
  | word {leaf : Leaf} (h : leaf ∈ words) : Proper leaf
  /-- A field of a subject. -/
  | accessor (subject : Subject) {field : String}
    (hfield : ∀ c ∈ field.toList, Text.isWord c = true) : Proper (.accessor subject field)
  /-- A variable. -/
  | var {name : String} (hname : IsVariable name) : Proper (.var name)
  /-- A field of a variable. -/
  | member {name field : String} (hname : IsVariable name)
    (hfield : ∀ c ∈ field.toList, Text.isWord c = true) : Proper (.member name field)
  /-- A numeral behind an optional minus sign. -/
  | number {numeral : String} (h : Json.IsNumeral numeral) : Proper (.number numeral)

/-- A word of its own. -/
def readWord? (text : List Char) : Option (Leaf × List Char) :=
  words.findSome? fun leaf => (text.dropPrefix? leaf.write).map (leaf, ·)

/-- A field of a subject. -/
def readAccessor? (text : List Char) : Option (Leaf × List Char) :=
  [Subject.bar, .strategy].findSome? fun subject =>
    (text.dropPrefix? (subject.name.toList ++ ['.'])).map fun rest =>
      (.accessor subject (.ofList (rest.span Text.isWord).1), (rest.span Text.isWord).2)

/-- A variable or a field of a variable. -/
def readVariable? (text : List Char) : Option (Leaf × List Char) :=
  match text.span Text.isWord with
  | ('_' :: name, '.' :: rest) =>
    some (.member (.ofList ('_' :: name)) (.ofList (rest.span Text.isWord).1),
      (rest.span Text.isWord).2)
  | ('_' :: name, rest) => some (.var (.ofList ('_' :: name)), rest)
  | _ => none

/-- A numeral. -/
def readNumber? (text : List Char) : Option (Leaf × List Char) :=
  (Json.scanNumber text).map fun (numeral, rest) => (.number (.ofList numeral), rest)

/-- A leaf at the beginning of a text, and what follows it. -/
def read? (text : List Char) : Option (Leaf × List Char) :=
  readNumber? text <|> readWord? text <|> readAccessor? text <|> readVariable? text

end Leaf

namespace Expression

/-- The text of a tree. -/
def write : Expression → List Char
  | .atom leaf => leaf.write
  | .last series => series.write ++ "[-1]".toList
  | .negation operand => "(not ".toList ++ (operand.write ++ ")".toList)
  | .binary operator left right =>
    "(".toList ++ (left.write ++ (operator.write ++ (right.write ++ ")".toList)))

/-- All leaves are what their kinds say. -/
inductive Proper : Expression → Prop where
  /-- A leaf. -/
  | atom {leaf : Leaf} (h : leaf.Proper) : Proper (.atom leaf)
  /-- The last element. -/
  | last {series : Expression} (h : Proper series) : Proper (.last series)
  /-- A negation. -/
  | negation {operand : Expression} (h : Proper operand) : Proper (.negation operand)
  /-- A binary operator. -/
  | binary (operator : Operator) {left right : Expression} (hleft : Proper left)
    (hright : Proper right) : Proper (.binary operator left right)

/-- The indices behind an operand belong to it. -/
def readIndices (operand : Expression) : List Char → Expression × List Char
  | '[' :: '-' :: '1' :: ']' :: rest => readIndices (.last operand) rest
  | text => (operand, text)

/-- An operand at the beginning of a text, through so many levels of parentheses, and what follows
it. -/
def readWithin : Nat → List Char → Option (Expression × List Char)
  | 0, _ => none
  | levels + 1, text =>
    match text.dropPrefix? "(".toList with
    | none => (Leaf.read? text).map fun (leaf, rest) => readIndices (.atom leaf) rest
    | some inner =>
      match inner.dropPrefix? "not ".toList with
      | some inner => do
        let (operand, rest) ← readWithin levels inner
        let rest ← rest.dropPrefix? ")".toList
        return readIndices (.negation operand) rest
      | none => do
        let (left, rest) ← readWithin levels inner
        let (operator, rest) ← Operator.read? rest
        let (right, rest) ← readWithin levels rest
        let rest ← rest.dropPrefix? ")".toList
        return readIndices (.binary operator left right) rest

/-- The tree that a text spells.  Each level of parentheses takes up a character, so there are no
more of them than characters. -/
def read? (text : List Char) : Option Expression :=
  match readWithin (text.length + 1) text with
  | some (tree, []) => some tree
  | _ => none

end Expression

/-! ### Reading leaves -/

namespace Operator

theorem read?_write (operator : Operator) (rest : List Char) :
    read? (operator.write ++ rest) = some (operator, rest) := by
  cases operator <;> cases rest <;> rfl

end Operator

namespace Leaf

/-- The text does not continue a leaf. -/
def Ends (text : List Char) : Prop := ∀ c ∈ text.head?, Text.isWord c = false ∧ c ≠ '.'

variable {leaf : Leaf} {rest : List Char}

theorem ends_cons {c : Char} (h : Text.isWord c = false ∧ c ≠ '.') (rest : List Char) :
    Ends (c :: rest) := by
  rintro d ⟨⟩
  exact h

theorem Ends.endsNumber (h : Ends rest) : Json.EndsNumber rest := by
  intro c hc
  obtain ⟨hword, hpoint⟩ := h c hc
  refine ⟨?_, hpoint, ?_, ?_⟩
  · simp only [Text.isWord, Char.isAlphanum, Bool.or_eq_false_iff] at hword
    exact hword.1.2
  · rintro rfl
    cases hword
  · rintro rfl
    cases hword

theorem span_isWord {word : String} (hword : ∀ c ∈ word.toList, Text.isWord c = true)
    (hrest : Ends rest) : (word.toList ++ rest).span Text.isWord = (word.toList, rest) :=
  Text.span_append hword fun c hc => (hrest c hc).1

theorem read?_word (h : leaf ∈ words) (rest : List Char) :
    read? (leaf.write ++ rest) = some (leaf, rest) := by
  simp only [words, List.mem_cons, List.not_mem_nil, or_false] at h
  rcases h with rfl | rfl | rfl | rfl | rfl | rfl <;> cases rest <;> rfl

theorem read?_accessor (subject : Subject) {field : String}
    (hfield : ∀ c ∈ field.toList, Text.isWord c = true) (hrest : Ends rest) :
    read? ((accessor subject field).write ++ rest) = some (.accessor subject field, rest) := by
  have hspan := span_isWord hfield hrest
  have hread : read? ((accessor subject field).write ++ rest) =
      some (.accessor subject (.ofList ((field.toList ++ rest).span Text.isWord).1),
        ((field.toList ++ rest).span Text.isWord).2) := by
    rw [write, List.append_assoc, List.cons_append]
    generalize field.toList ++ rest = more
    cases subject <;> cases more <;> rfl
  rw [hread, hspan, String.ofList_toList]

theorem read?_number {numeral : String} (h : Json.IsNumeral numeral) (hrest : Ends rest) :
    read? ((number numeral).write ++ rest) = some (.number numeral, rest) := by
  have hread : readNumber? (numeral.toList ++ rest) = some (.number numeral, rest) := by
    rw [readNumber?, Json.scanNumber_of_isNumeral h hrest.endsNumber]
    exact congrArg (fun text => some (Leaf.number text, rest)) (String.ofList_toList)
  rw [read?, write, hread]
  rfl

/-- Nothing but a variable starts with an underscore. -/
theorem read?_underscore (text : List Char) : read? ('_' :: text) = readVariable? ('_' :: text) :=
  rfl

theorem read?_var {name : String} (hname : IsVariable name) (hrest : Ends rest) :
    read? ((var name).write ++ rest) = some (.var name, rest) := by
  obtain ⟨tail, htail⟩ := List.head?_eq_some_iff.1 hname.head?_eq
  have hspan := span_isWord hname.isWord hrest
  rw [htail, List.cons_append] at hspan
  rw [write, htail, List.cons_append, read?_underscore, readVariable?, hspan]
  split
  · next heq =>
    cases heq
    exact absurd rfl (hrest '.' rfl).2
  · next heq =>
    cases heq
    rw [← htail, String.ofList_toList]
  · next hother => exact absurd rfl (hother tail rest)

theorem read?_member {name field : String} (hname : IsVariable name)
    (hfield : ∀ c ∈ field.toList, Text.isWord c = true) (hrest : Ends rest) :
    read? ((member name field).write ++ rest) = some (.member name field, rest) := by
  obtain ⟨tail, htail⟩ := List.head?_eq_some_iff.1 hname.head?_eq
  have hspan : (name.toList ++ '.' :: (field.toList ++ rest)).span Text.isWord =
      (name.toList, '.' :: (field.toList ++ rest)) :=
    Text.span_append hname.isWord (by rintro c ⟨⟩; rfl)
  rw [htail, List.cons_append] at hspan
  rw [write, List.append_assoc, List.cons_append, htail, List.cons_append, read?_underscore,
    readVariable?, hspan]
  change some (member (.ofList ('_' :: tail)) (.ofList ((field.toList ++ rest).span _).1),
    ((field.toList ++ rest).span _).2) = _
  rw [span_isWord hfield hrest, ← htail, String.ofList_toList, String.ofList_toList]

/-- A leaf opens no parentheses and does not look like a negation. -/
theorem Proper.head?_write (h : leaf.Proper) : ∃ c ∈ leaf.write.head?, c ≠ '(' ∧ c ≠ 'n' := by
  cases h with
  | word h =>
    simp only [words, List.mem_cons, List.not_mem_nil, or_false] at h
    rcases h with rfl | rfl | rfl | rfl | rfl | rfl
    · exact ⟨'T', rfl, by decide⟩
    · exact ⟨'F', rfl, by decide⟩
    · exact ⟨'N', rfl, by decide⟩
    · exact ⟨'f', rfl, by decide⟩
    · exact ⟨'f', rfl, by decide⟩
    · exact ⟨'-', rfl, by decide⟩
  | accessor subject hfield =>
    cases subject with
    | bar => exact ⟨'b', rfl, by decide⟩
    | strategy => exact ⟨'s', rfl, by decide⟩
  | var hname => exact ⟨'_', hname.head?_eq, by decide⟩
  | member hname hfield =>
    exact ⟨'_', List.mem_head?_append_of_mem_head? hname.head?_eq, by decide⟩
  | number h =>
    obtain ⟨negative, n, htext⟩ := h
    obtain ⟨c, rest, hn, hc⟩ := n.exists_text_eq_cons
    rw [write, htext, hn]
    cases negative with
    | true => exact ⟨'-', rfl, by decide⟩
    | false =>
      refine ⟨c, rfl, ?_, ?_⟩
      · rintro rfl
        cases hc
      · rintro rfl
        cases hc

/-- **A proper leaf is read up to where it ends.** -/
theorem Proper.read?_write (h : leaf.Proper) (hrest : Ends rest) :
    read? (leaf.write ++ rest) = some (leaf, rest) := by
  cases h with
  | word h => exact read?_word h rest
  | accessor subject hfield => exact read?_accessor subject hfield hrest
  | var hname => exact read?_var hname hrest
  | member hname hfield => exact read?_member hname hfield hrest
  | number h => exact read?_number h hrest

end Leaf

/-! ### Reading trees -/

namespace Expression

variable {left right operand : Expression} {operator : Operator} {fuel : Nat}
  {text inner rest : List Char}

theorem readIndices_of_head? (operand : Expression) (h : rest.head? ≠ some '[') :
    readIndices operand rest = (operand, rest) := by
  unfold readIndices
  split
  · exact absurd rfl h
  · rfl

theorem readIndices_last (operand : Expression) (rest : List Char) :
    readIndices operand ("[-1]".toList ++ rest) = readIndices (.last operand) rest :=
  rfl

theorem dropPrefix?_of_head? {c : Char} (start : List Char) (h : text.head? ≠ some c) :
    text.dropPrefix? (c :: start) = none := by
  cases text with
  | nil => rfl
  | cons d text =>
    have hne : ¬(d == c) = true := fun heq => h (congrArg some (eq_of_beq heq))
    exact if_neg hne

theorem dropPrefix?_close (rest : List Char) :
    (')' :: rest).dropPrefix? ")".toList = some rest := by
  cases rest <;> rfl

theorem readWithin_atom {leaf : Leaf} (hopen : text.head? ≠ some '(')
    (hleaf : Leaf.read? text = some (leaf, rest)) :
    readWithin (fuel + 1) text = some (readIndices (.atom leaf) rest) := by
  have hdrop : text.dropPrefix? "(".toList = none := dropPrefix?_of_head? [] hopen
  rw [readWithin, hdrop]
  simp only [hleaf, Option.map_some]

theorem readWithin_negation (hoperand : readWithin fuel inner = some (operand, ')' :: rest)) :
    readWithin (fuel + 1) ("(not ".toList ++ inner) =
      some (readIndices (.negation operand) rest) := by
  have hopen : ("(not ".toList ++ inner).dropPrefix? "(".toList = some ("not ".toList ++ inner) :=
    rfl
  have hnot : ("not ".toList ++ inner).dropPrefix? "not ".toList = some inner :=
    List.dropPrefix?_append_of_beq inner BEq.rfl
  rw [readWithin, hopen]
  simp only [hnot, hoperand, dropPrefix?_close, Option.bind_eq_bind, Option.bind_some,
    Option.pure_def]

theorem readWithin_binary {more : List Char} (hnot : inner.head? ≠ some 'n')
    (hleft : readWithin fuel inner = some (left, operator.write ++ more))
    (hright : readWithin fuel more = some (right, ')' :: rest)) :
    readWithin (fuel + 1) ("(".toList ++ inner) =
      some (readIndices (.binary operator left right) rest) := by
  have hopen : ("(".toList ++ inner).dropPrefix? "(".toList = some inner :=
    List.dropPrefix?_append_of_beq inner BEq.rfl
  have hword : inner.dropPrefix? "not ".toList = none := dropPrefix?_of_head? _ hnot
  rw [readWithin, hopen]
  simp only [hword, hleft, Operator.read?_write, hright, dropPrefix?_close, Option.bind_eq_bind,
    Option.bind_some, Option.pure_def]

/-- How many levels of parentheses a reader goes through. -/
def levels : Expression → Nat
  | .atom _ => 1
  | .last series => series.levels
  | .negation operand => operand.levels + 1
  | .binary _ left right => max left.levels right.levels + 1

theorem levels_le_length (tree : Expression) : tree.levels ≤ tree.write.length + 1 := by
  induction tree with
  | atom leaf => simp [levels]
  | last series ih =>
    simp only [levels, write, List.length_append]
    omega
  | negation operand ih =>
    have hopen : "(not ".toList.length = 5 := rfl
    simp only [levels, write, List.length_append]
    omega
  | binary operator left right ihleft ihright =>
    have hopen : "(".toList.length = 1 := rfl
    simp only [levels, write, List.length_append]
    omega

theorem Proper.head?_write {tree : Expression} (h : tree.Proper) :
    ∃ c ∈ tree.write.head?, c ≠ 'n' := by
  induction h with
  | atom h =>
    obtain ⟨c, hc, -, hne⟩ := h.head?_write
    exact ⟨c, hc, hne⟩
  | last h ih =>
    obtain ⟨c, hc, hne⟩ := ih
    exact ⟨c, List.mem_head?_append_of_mem_head? hc, hne⟩
  | negation h ih => exact ⟨'(', rfl, by decide⟩
  | binary operator hleft hright ihleft ihright => exact ⟨'(', rfl, by decide⟩

/-- **An operand is read up to where it ends**, with all the indices that follow it. -/
theorem readWithin_write {tree : Expression} (h : tree.Proper) :
    ∀ {fuel : Nat} {rest : List Char}, tree.levels ≤ fuel → Leaf.Ends rest →
      readWithin fuel (tree.write ++ rest) = some (readIndices tree rest) := by
  induction h with
  | atom h =>
    intro fuel rest hfuel hrest
    obtain ⟨fuel, rfl⟩ := Nat.exists_eq_add_of_le' hfuel
    obtain ⟨c, hc, hopen, -⟩ := h.head?_write
    refine readWithin_atom ?_ (h.read?_write hrest)
    rw [write, List.mem_head?_append_of_mem_head? hc]
    simpa using hopen
  | last h ih =>
    -- The index goes to the operand, which is read with everything behind it.
    intro fuel rest hfuel hrest
    have hindex : Leaf.Ends ("[-1]".toList ++ rest) := Leaf.ends_cons (by decide) _
    rw [write, List.append_assoc, ih hfuel hindex, readIndices_last]
  | negation h ih =>
    intro fuel rest hfuel hrest
    obtain ⟨fuel, rfl⟩ := Nat.exists_eq_add_of_le' (Nat.le_of_add_left_le hfuel)
    have hclose : Leaf.Ends (')' :: rest) := Leaf.ends_cons (by decide) _
    have hoperand := ih (Nat.le_of_succ_le_succ hfuel) hclose
    rw [readIndices_of_head? _ (by simp)] at hoperand
    rw [write, List.append_assoc, List.append_assoc]
    exact readWithin_negation hoperand
  | @binary operator left right hleft hright ihleft ihright =>
    intro fuel rest hfuel hrest
    obtain ⟨fuel, rfl⟩ := Nat.exists_eq_add_of_le' (Nat.le_of_add_left_le hfuel)
    obtain ⟨hfuelLeft, hfuelRight⟩ := Nat.max_le.1 (Nat.le_of_succ_le_succ hfuel)
    obtain ⟨c, hc, hne⟩ := hleft.head?_write
    have hclose : Leaf.Ends (')' :: rest) := Leaf.ends_cons (by decide) _
    have hreadRight := ihright hfuelRight hclose
    rw [readIndices_of_head? _ (by simp)] at hreadRight
    have hsign : Leaf.Ends (operator.write ++ (right.write ++ ')' :: rest)) :=
      Leaf.ends_cons (by decide) _
    have hreadLeft := ihleft hfuelLeft hsign
    rw [readIndices_of_head? _ (by simp [Operator.write])] at hreadLeft
    simp only [write, List.append_assoc]
    refine readWithin_binary ?_ hreadLeft hreadRight
    rw [List.mem_head?_append_of_mem_head? hc]
    simpa using hne

/-- **The text of a tree reads back as the tree.** -/
theorem read?_write {tree : Expression} (h : tree.Proper) : read? tree.write = some tree := by
  have hends : Leaf.Ends [] := nofun
  have hread := readWithin_write h tree.levels_le_length hends
  rw [List.append_nil] at hread
  rw [read?, hread]
  rfl

end Expression

example : Expression.read? "((not _x.k[-1]) > -0.5)".toList =
    some (.binary .greater (.negation (.last (.atom (.member "_x" "k"))))
      (.atom (.number "-0.5"))) := by
  decide +kernel

/-! ### Balance -/

namespace Text

/-- Every parenthesis has its partner. -/
inductive Balanced : List Char → Prop where
  /-- The empty text. -/
  | nil : Balanced []
  /-- A character that is no parenthesis. -/
  | cons {c : Char} {text : List Char} (hc : c ≠ '(' ∧ c ≠ ')') (h : Balanced text) :
    Balanced (c :: text)
  /-- A balanced text in parentheses, and another one behind it. -/
  | group {inner text : List Char} (hinner : Balanced inner) (h : Balanced text) :
    Balanced ('(' :: (inner ++ ')' :: text))

namespace Balanced

variable {text other : List Char}

theorem of_notMem (hopen : '(' ∉ text) (hclose : ')' ∉ text) : Balanced text := by
  induction text with
  | nil => exact .nil
  | cons c text ih =>
    rw [List.mem_cons, not_or] at hopen hclose
    exact .cons ⟨Ne.symm hopen.1, Ne.symm hclose.1⟩ (ih hopen.2 hclose.2)

theorem append (h : Balanced text) (hother : Balanced other) : Balanced (text ++ other) := by
  induction h with
  | nil => exact hother
  | cons hc h ih => exact .cons hc ih
  | group hinner h ihinner ih =>
    rw [List.cons_append, List.append_assoc, List.cons_append]
    exact .group hinner ih

theorem wrap (h : Balanced text) : Balanced ("(".toList ++ (text ++ ")".toList)) := .group h .nil

theorem of_isWord (h : ∀ c ∈ text, isWord c = true) : Balanced text :=
  of_notMem (fun hopen => Bool.false_ne_true (h _ hopen))
    (fun hclose => Bool.false_ne_true (h _ hclose))

end Balanced

end Text

open Text

theorem Leaf.Proper.balanced_write {leaf : Leaf} (h : leaf.Proper) : Balanced leaf.write := by
  cases h with
  | word h =>
    have hfloat : Balanced "float".toList := .of_notMem (by decide) (by decide)
    have hnan : Balanced "'nan'".toList := .of_notMem (by decide) (by decide)
    have hinf : Balanced "'inf'".toList := .of_notMem (by decide) (by decide)
    simp only [words, List.mem_cons, List.not_mem_nil, or_false] at h
    rcases h with rfl | rfl | rfl | rfl | rfl | rfl
    · exact .of_notMem (by decide) (by decide)
    · exact .of_notMem (by decide) (by decide)
    · exact .of_notMem (by decide) (by decide)
    · exact hfloat.append hnan.wrap
    · exact hfloat.append hinf.wrap
    · exact .cons (by decide) (hfloat.append hinf.wrap)
  | accessor subject hfield =>
    have hname : Balanced subject.name.toList := by
      cases subject with
      | bar => exact .of_notMem (by decide) (by decide)
      | strategy => exact .of_notMem (by decide) (by decide)
    exact hname.append (.cons (by decide) (.of_isWord hfield))
  | var hname => exact .of_isWord hname.isWord
  | member hname hfield =>
    exact (Balanced.of_isWord hname.isWord).append (.cons (by decide) (.of_isWord hfield))
  | number h =>
    obtain ⟨negative, n, htext⟩ := h
    have hn : Balanced n.text := .of_notMem
      (fun hopen => absurd (n.isDigit_or_mem_marks hopen) (by decide))
      (fun hclose => absurd (n.isDigit_or_mem_marks hclose) (by decide))
    rw [write, htext]
    cases negative with
    | true => exact .cons (by decide) hn
    | false => exact hn

/-- **The parentheses of a tree are balanced.** -/
theorem Expression.Proper.balanced_write {tree : Expression} (h : tree.Proper) :
    Balanced tree.write := by
  induction h with
  | atom h => exact h.balanced_write
  | last h ih => exact ih.append (.of_notMem (by decide) (by decide))
  | negation h ih =>
    have hnot : Balanced "not ".toList := .of_notMem (by decide) (by decide)
    exact (hnot.append ih).wrap
  | binary operator hleft hright ihleft ihright =>
    have hsign : Balanced operator.write :=
      .of_notMem (by cases operator <;> decide) (by cases operator <;> decide)
    have hwrap := (ihleft.append (hsign.append ihright)).wrap
    simpa only [write, List.append_assoc] using hwrap

end Blueprint
