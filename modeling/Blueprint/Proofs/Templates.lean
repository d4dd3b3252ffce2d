import Mathlib.Tactic.MkIffOfInductiveProp
import Blueprint.Proofs.Rendering
import Blueprint.Resolution

/-!
# Names in filled templates

A template is closed over some suffixes (`Template.Closed`) if the only names that it can bring in
are variables with these suffixes: its fixed texts have none, and its pieces do not run into each
other.  All other names of the filled template come with the expressions that feed its inputs
(`Template.names_fill`).

A statement that binds variables lists them before ` = ` (`Template.binding?`), and they are the
targets of the filled statement (`Template.targets_fill`).  A variant is closed (`Variant.Closed`)
if its expressions mention no variables but those that its statements bind.  All of this can be
decided by evaluation.
-/

namespace Blueprint

namespace Piece

/-- The piece brings in no names but variables with the given suffixes. -/
def Closed (bound : List String) : Piece → Prop
  | .text s | .input _ s => Text.startsName false s.toList = false
  | .var suffix => suffix ∈ bound
  | .output => False
  | .parameter _ value => value.isText = false

instance (bound : List String) : DecidablePred (Closed bound)
  | .text _ | .input _ _ => inferInstanceAs (Decidable (_ = false))
  | .var _ => inferInstanceAs (Decidable (_ ∈ bound))
  | .output => inferInstanceAs (Decidable False)
  | .parameter _ _ => inferInstanceAs (Decidable (_ = false))

/-- A fixed text that does not end within a word. -/
def endsApart : Piece → Bool
  | .text s => s.toList.getLast?.any (!Text.isWord ·)
  | _ => false

/-- A fixed text that does not start within a word. -/
def startsApart : Piece → Bool
  | .text s => s.toList.head?.any (!Text.isWord ·)
  | _ => false

end Piece

namespace Template

/-- The template brings in no names but variables with the given suffixes. -/
def Closed (bound : List String) (template : Template) : Prop :=
  (∀ piece ∈ template, piece.Closed bound) ∧
    template.IsChain fun p q => p.endsApart = true ∨ q.startsApart = true

instance (bound : List String) : DecidablePred (Closed bound) :=
  fun _ => inferInstanceAs (Decidable (_ ∧ _))

/-- The suffixes of the variables that a statement binds, and what follows them. -/
def binding? : Template → Option (List String × Template)
  | .var suffix :: .text s :: rest =>
    if s = ", " then (binding? rest).map fun (suffixes, right) => (suffix :: suffixes, right)
    else if [' ', '=', ' '].isPrefixOf s.toList then some ([suffix], .text s :: rest)
    else none
  | _ => none

/-- The suffixes of the variables that a statement binds. -/
def bound (statement : Template) : List String := (statement.binding?.map Prod.fst).getD []

/-- The part of a statement that reads. -/
def read (statement : Template) : Template := (statement.binding?.map Prod.snd).getD statement

end Template

/-- The suffixes of the variables that the statements of a variant bind. -/
def Variant.bound (variant : Variant) : List String := variant.statements.flatMap Template.bound

/-- The expressions of a variant mention no variables but those that its statements bind, what its
statements read mentions none, and no default is a text. -/
@[mk_iff]
structure Variant.Closed (variant : Variant) : Prop where
  /-- Suffixes are made of word characters. -/
  bound : ∀ suffix ∈ variant.bound, suffix.toList.all Text.isWord = true
  /-- What statements read mentions no variables. -/
  statements : ∀ statement ∈ variant.statements, statement.read.Closed []
  /-- The expressions of outputs that have one of their own. -/
  expressions : ∀ entry ∈ variant.expressions, Template.Closed variant.bound entry.2
  /-- The expression of every other output. -/
  expression : Template.Closed variant.bound variant.expression
  /-- The values of inputs that nothing else feeds. -/
  defaults : ∀ port ∈ variant.inputs, port.default.all (!·.isText) = true

instance : DecidablePred Variant.Closed := fun variant =>
  decidable_of_iff _ variant.closed_iff.symm

/-! ### Names -/

section Names

variable {P : List Char → Prop} {node : Node} {asked : String} {resolve : String → Option String}
  {bound : List String} {piece next : Piece} {template : Template}

theorem Template.toList_fill_cons (piece : Piece) (rest : Template) :
    (Template.fill node asked resolve (piece :: rest)).toList =
      (piece.fill node asked resolve).toList ++ (rest.fill node asked resolve).toList := by
  rw [fill, fill, String.toList_join, String.toList_join, List.map_cons, List.flatMap_cons]

theorem Piece.names_fill (hpiece : piece.Closed bound)
    (hresolve : ∀ port expression, resolve port = some expression →
      Text.Names P expression.toList)
    (hvalues : ∀ key value, node.parameters.get? key = some value → value.isText = false)
    (hbound : ∀ suffix ∈ bound, Text.Names P (node.variableName suffix).toList) :
    Text.Names P (piece.fill node asked resolve).toList := by
  cases piece with
  | text s => exact .of_startsName hpiece
  | input port otherwise =>
    rw [fill]
    split
    · split_ifs
      · exact .of_startsName hpiece
      · rename_i expression hexpression _
        exact hresolve port expression hexpression
    · exact .of_startsName hpiece
  | var suffix => exact hbound suffix hpiece
  | output => exact hpiece.elim
  | parameter key otherwise =>
    refine .of_notMem (Value.underscore_notMem_render ?_)
    cases hvalue : node.parameters.get? key with
    | none => exact hpiece
    | some value => exact hvalues key value hvalue

theorem Piece.apart_fill (h : piece.endsApart = true ∨ next.startsApart = true) :
    Text.Apart (piece.fill node asked resolve).toList
      (Template.fill node asked resolve (next :: template)).toList := by
  rcases h with h | h
  · cases piece with
    | text s =>
      obtain ⟨c, hc, hword⟩ := (Option.any_eq_true ..).1 h
      exact .inl ⟨c, hc, by simpa using hword⟩
    | input _ _ | var _ | output | parameter _ _ => cases h
  · cases next with
    | text s =>
      obtain ⟨c, hc, hword⟩ := (Option.any_eq_true ..).1 h
      refine .inr ⟨c, ?_, by simpa using hword⟩
      rw [Template.toList_fill_cons, List.head?_append, fill, Option.mem_def.1 hc]
      rfl
    | input _ _ | var _ | output | parameter _ _ => cases h

/-- **The names of a filled template are those of its inputs and the variables that it is closed
over.** -/
theorem Template.names_fill (h : template.Closed bound)
    (hresolve : ∀ port expression, resolve port = some expression →
      Text.Names P expression.toList)
    (hvalues : ∀ key value, node.parameters.get? key = some value → value.isText = false)
    (hbound : ∀ suffix ∈ bound, Text.Names P (node.variableName suffix).toList) :
    Text.Names P (template.fill node asked resolve).toList := by
  obtain ⟨hpieces, hchain⟩ := h
  induction template with
  | nil => exact .of_notMem (by simp [fill])
  | cons piece rest ih =>
    have hpiece : Text.Names P (piece.fill node asked resolve).toList :=
      Piece.names_fill (hpieces piece List.mem_cons_self) hresolve hvalues hbound
    rw [toList_fill_cons]
    cases rest with
    | nil => simpa [fill] using hpiece
    | cons next rest =>
      obtain ⟨hmeet, hrest⟩ := List.isChain_cons_cons.1 hchain
      exact hpiece.append (Piece.apart_fill hmeet)
        (ih (fun piece hmem => hpieces piece (List.mem_cons_of_mem _ hmem)) hrest)

end Names

/-! ### Statements that bind -/

namespace Template

variable {node : Node} {asked : String} {resolve : String → Option String}
  {statement right : Template} {suffixes : List String}

variable (node asked resolve) in
/-- A statement that binds is filled in to its variables, separated by commas, and the rest, which
starts with ` = `. -/
theorem toList_fill_of_binding? (h : statement.binding? = some (suffixes, right)) :
    suffixes ≠ [] ∧ [' ', '=', ' '] <+: (right.fill node asked resolve).toList ∧
      (statement.fill node asked resolve).toList =
        [',', ' '].intercalate (suffixes.map fun suffix => (node.variableName suffix).toList) ++
          (right.fill node asked resolve).toList := by
  fun_induction binding? statement generalizing suffixes right with
  | case1 suffix rest ih =>
    obtain ⟨⟨more, right⟩, hrest, heq⟩ := Option.map_eq_some_iff.1 h
    cases heq
    obtain ⟨hne, hright, heq⟩ := ih hrest
    refine ⟨List.cons_ne_nil _ _, hright, ?_⟩
    obtain ⟨next, more, rfl⟩ := List.exists_cons_of_ne_nil hne
    rw [toList_fill_cons, toList_fill_cons, heq]
    simp [Piece.fill, List.intercalate_cons_cons]
  | case2 suffix s rest hne hprefix =>
    cases h
    refine ⟨by simp, ?_, ?_⟩
    · rw [toList_fill_cons]
      exact (List.isPrefixOf_iff_prefix.1 hprefix).trans (List.prefix_append _ _)
    · rw [toList_fill_cons]
      simp [Piece.fill]
  | case3 => cases h
  | case4 => cases h

theorem isWord_of_mem_variables
    (hsuffixes : ∀ suffix ∈ suffixes, suffix.toList.all Text.isWord = true) :
    ∀ name ∈ suffixes.map (fun suffix => (node.variableName suffix).toList), ∀ c ∈ name,
      Text.isWord c = true := by
  intro name hname
  obtain ⟨suffix, hmem, rfl⟩ := List.mem_map.1 hname
  exact Node.isWord_of_mem_variableName (hsuffixes suffix hmem)

/-- **A statement assigns to the variables that it binds.** -/
theorem targets_fill (h : statement.binding? = some (suffixes, right))
    (hsuffixes : ∀ suffix ∈ suffixes, suffix.toList.all Text.isWord = true) :
    Text.targets (statement.fill node asked resolve).toList =
      suffixes.map fun suffix => (node.variableName suffix).toList := by
  obtain ⟨hne, ⟨rest, hrest⟩, heq⟩ := toList_fill_of_binding? node asked resolve h
  rw [heq, ← hrest, ← List.append_assoc]
  exact Text.targets_assignment rest (by simpa using hne) (isWord_of_mem_variables hsuffixes)

theorem mem_targets_fill {suffix : String} (hsuffix : suffix ∈ statement.bound)
    (hbound : ∀ suffix ∈ statement.bound, suffix.toList.all Text.isWord = true) :
    (node.variableName suffix).toList ∈
      Text.targets (statement.fill node asked resolve).toList := by
  rw [bound] at hsuffix hbound
  cases hbinding : statement.binding? with
  | none =>
    rw [hbinding] at hsuffix
    cases hsuffix
  | some binding =>
    rw [hbinding] at hsuffix hbound
    rw [targets_fill hbinding hbound]
    exact List.mem_map.2 ⟨suffix, hsuffix, rfl⟩

/-- **Each name of a statement is one that it assigns to there, or comes with its inputs.** -/
theorem run_fill_cases {P : List Char → Prop} {before name after : List Char}
    (hread : statement.read.Closed [])
    (hbound : ∀ suffix ∈ statement.bound, suffix.toList.all Text.isWord = true)
    (hresolve : ∀ port expression, resolve port = some expression →
      Text.Names P expression.toList)
    (hvalues : ∀ key value, node.parameters.get? key = some value → value.isText = false)
    (hrun : Text.Run (statement.fill node asked resolve).toList before ('_' :: name) after) :
    Text.Assigns (statement.fill node asked resolve).toList before ('_' :: name) ∨
      P ('_' :: name) := by
  have hnames : Text.Names P (statement.read.fill node asked resolve).toList :=
    names_fill hread hresolve hvalues (by simp)
  rw [read] at hnames
  rw [bound] at hbound
  cases hbinding : statement.binding? with
  | none =>
    rw [hbinding] at hnames
    exact .inr (hnames _ _ _ hrun)
  | some binding =>
    rw [hbinding] at hnames hbound
    obtain ⟨hne, ⟨rest, hrest⟩, heq⟩ := toList_fill_of_binding? node asked resolve hbinding
    change Text.Names P (binding.2.fill node asked resolve).toList at hnames
    rw [← hrest] at hnames
    rw [heq, ← hrest, ← List.append_assoc] at hrun ⊢
    exact hrun.assignment_cases rest (by simpa using hne) (isWord_of_mem_variables hbound) hnames

end Template

end Blueprint
