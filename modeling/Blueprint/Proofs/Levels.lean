import Blueprint.Proofs.ClosedBody
import Blueprint.Proofs.Literals
import Blueprint.Proofs.Text.Rows

/-!
# Statements on full levels

The lines of a built-in statement stand in by full levels of four spaces
(`Graph.four_dvd_leading`), whatever feeds its inputs, as long as no text among the parameters has a
line feed.  Line feeds then come from the fixed texts of statements only, since expressions have
none (`Graph.newline_notMem_inputWithin`), and these texts are levelled (`Text.Levelled`).  A filled
template is levelled if its pieces are and no hole follows the spaces of a new line
(`Template.levelled_fill`).
-/

namespace Blueprint

/-! ### Levelled texts -/

namespace Text

/-- Each line feed is followed by full levels of four spaces. -/
def Levelled : List Char → Prop
  | [] => True
  | c :: rest => (c = '\n' → 4 ∣ (rest.takeWhile (· == ' ')).length) ∧ Levelled rest

instance : DecidablePred Levelled
  | [] => inferInstanceAs (Decidable True)
  | _ :: rest =>
    have := instDecidablePredListCharLevelled rest
    inferInstanceAs (Decidable (_ ∧ _))

variable {chars first second : List Char}

theorem takeWhile_append_cons {c : Char} (hc : c ≠ ' ') (chars rest : List Char) :
    (chars ++ c :: rest).takeWhile (· == ' ') = chars.takeWhile (· == ' ') := by
  rw [List.takeWhile_append, List.takeWhile_cons_of_neg (by simpa using hc), List.append_nil]
  split_ifs with h
  · exact ((List.takeWhile_prefix _).eq_of_length h).symm
  · rfl

namespace Levelled

theorem of_notMem (h : '\n' ∉ chars) : Levelled chars := by
  induction chars with
  | nil => trivial
  | cons c rest ih =>
    rw [List.mem_cons, not_or] at h
    exact ⟨fun hc => absurd hc.symm h.1, ih h.2⟩

theorem of_append (h : Levelled (first ++ second)) : Levelled second := by
  induction first with
  | nil => exact h
  | cons c rest ih => exact ih h.2

/-- The second text does not go on with the spaces of a new line. -/
theorem append (hfirst : Levelled first) (hsecond : Levelled second)
    (hmeet : '\n' ∉ first ∨ second.head? ≠ some ' ') : Levelled (first ++ second) := by
  induction first with
  | nil => exact hsecond
  | cons c rest ih =>
    refine ⟨fun hc => ?_, ih hfirst.2 (hmeet.imp_left (mt (List.mem_cons_of_mem c)))⟩
    have hhead := hmeet.resolve_left fun h => h (hc ▸ List.mem_cons_self)
    change 4 ∣ ((rest ++ second).takeWhile (· == ' ')).length
    cases second with
    | nil => simpa using hfirst.1 hc
    | cons next second =>
      have hnext : next ≠ ' ' := fun hnext => hhead (hnext ▸ rfl)
      rw [takeWhile_append_cons hnext]
      exact hfirst.1 hc

theorem four_dvd_of_mem_linesFrom {current line : List Char}
    (h : Levelled ('\n' :: (current.reverse ++ chars))) (hline : line ∈ linesFrom current chars) :
    4 ∣ (line.takeWhile (· == ' ')).length := by
  induction chars generalizing current with
  | nil =>
    rw [linesFrom] at hline
    split_ifs at hline
    · cases hline
    · rw [List.mem_singleton.1 hline]
      simpa using h.1 rfl
  | cons c chars ih =>
    rw [linesFrom] at hline
    split_ifs at hline with hc
    · subst hc
      rcases List.mem_cons.1 hline with rfl | hline
      · have hfirst := h.1 rfl
        rw [takeWhile_append_cons (by decide)] at hfirst
        unfold dropReturn
        split
        · rwa [List.reverse_cons, takeWhile_append_cons (by decide)] at hfirst
        · exact hfirst
      · have hrest : Levelled ('\n' :: ([].reverse ++ chars)) := h.2.of_append
        exact ih hrest hline
    · refine ih ?_ hline
      rwa [List.reverse_cons, List.append_assoc]

end Levelled

theorem four_dvd_leading_of_mem_lines {text line : String} (h : Levelled ('\n' :: text.toList))
    (hline : line ∈ lines text) : 4 ∣ leading line := by
  obtain ⟨chars, hchars, rfl⟩ := List.mem_map.1 hline
  rw [leading, String.toList_ofList]
  exact Levelled.four_dvd_of_mem_linesFrom h hchars

end Text

theorem Value.newline_notMem_render {value : Value} (h : value.isText = false) :
    '\n' ∉ value.render.toList := by
  cases value with
  | bool b => exact newline_notMem_literal (.bool b)
  | int i => exact newline_notMem_literal (.int i)
  | float x => exact newline_notMem_literal (.float x)
  | text s => cases h

theorem Node.newline_notMem_variableName {node : Node} {suffix : String}
    (h : suffix.toList.all Text.isWord = true) : '\n' ∉ (node.variableName suffix).toList :=
  fun hmem => absurd (isWord_of_mem_variableName h _ hmem) (by decide)

/-! ### Filled templates -/

namespace Piece

/-- The piece has no line feed of its own. -/
def Unbroken : Piece → Prop
  | .text s | .input _ s => '\n' ∉ s.toList
  | .var suffix => suffix.toList.all Text.isWord = true
  | .output => False
  | .parameter _ value => value.isText = false

instance : DecidablePred Unbroken
  | .text _ | .input _ _ => inferInstanceAs (Decidable (_ ∉ _))
  | .var _ => inferInstanceAs (Decidable (_ = true))
  | .output => inferInstanceAs (Decidable False)
  | .parameter _ _ => inferInstanceAs (Decidable (_ = false))

/-- A piece without line feeds or a levelled text. -/
def Levelled : Piece → Prop
  | .text s => Text.Levelled s.toList
  | piece => piece.Unbroken

instance : DecidablePred Levelled
  | .text s => inferInstanceAs (Decidable (Text.Levelled s.toList))
  | .input port s => inferInstanceAs (Decidable (Unbroken (.input port s)))
  | .var suffix => inferInstanceAs (Decidable (Unbroken (.var suffix)))
  | .output => inferInstanceAs (Decidable (Unbroken .output))
  | .parameter key value => inferInstanceAs (Decidable (Unbroken (.parameter key value)))

/-- The piece starts with another character than a space, whatever fills it. -/
def startsSolid : Piece → Bool
  | .text s => s.toList.head?.any (· != ' ')
  | .var _ => true
  | _ => false

end Piece

/-- A new line that starts with the template stands on full levels, and so do all lines in it. -/
def Template.Levelled (template : Template) : Prop :=
  (∀ piece ∈ template, piece.Levelled) ∧
    (Piece.text "\n" :: template).IsChain fun p q => p.Unbroken ∨ q.startsSolid = true

instance : DecidablePred Template.Levelled := fun _ => inferInstanceAs (Decidable (_ ∧ _))

section Filling

variable {node : Node} {asked : String} {resolve : String → Option String} {piece next : Piece}
  {template : Template}

theorem Piece.head?_fill_ne_space (h : next.startsSolid = true) :
    (Template.fill node asked resolve (next :: template)).toList.head? ≠ some ' ' := by
  rw [Template.toList_fill_cons, List.head?_append]
  cases next with
  | text s =>
    obtain ⟨c, hc, hsolid⟩ := (Option.any_eq_true ..).1 h
    rw [fill, Option.mem_def.1 hc]
    rintro ⟨⟩
    cases hsolid
  | var suffix =>
    rw [fill, Node.variableName, String.toList_ofList]
    rintro ⟨⟩
  | input _ _ | output | parameter _ _ => cases h

variable
  (hresolve : ∀ port expression, resolve port = some expression → '\n' ∉ expression.toList)
  (hvalues : ∀ key value, node.parameters.get? key = some value → '\n' ∉ value.render.toList)

include hresolve hvalues

theorem Piece.newline_notMem_fill (hpiece : piece.Unbroken) :
    '\n' ∉ (piece.fill node asked resolve).toList := by
  cases piece with
  | text s => exact hpiece
  | input port otherwise =>
    rw [fill]
    split
    · split_ifs
      · exact hpiece
      · rename_i expression hexpression _
        exact hresolve port expression hexpression
    · exact hpiece
  | var suffix => exact Node.newline_notMem_variableName hpiece
  | output => exact hpiece.elim
  | parameter key otherwise =>
    rw [fill]
    cases hvalue : node.parameters.get? key with
    | none => exact Value.newline_notMem_render hpiece
    | some value => exact hvalues key value hvalue

theorem Template.newline_notMem_fill (h : ∀ piece ∈ template, piece.Unbroken) :
    '\n' ∉ (template.fill node asked resolve).toList := by
  rw [fill, String.toList_join, List.mem_flatMap]
  rintro ⟨_, hmem, hnewline⟩
  obtain ⟨piece, hpiece, rfl⟩ := List.mem_map.1 hmem
  exact Piece.newline_notMem_fill hresolve hvalues (h piece hpiece) hnewline

theorem Piece.levelled_fill (hpiece : piece.Levelled) :
    Text.Levelled (piece.fill node asked resolve).toList := by
  cases piece with
  | text s => exact hpiece
  | input _ _ | var _ | output | parameter _ _ =>
    exact .of_notMem (newline_notMem_fill hresolve hvalues hpiece)

/-- Lines of the template start in the fixed texts and go on there. -/
theorem Template.levelled_fill_of_isChain (hpieces : ∀ piece ∈ template, piece.Levelled)
    (hchain : template.IsChain fun p q => p.Unbroken ∨ q.startsSolid = true) :
    Text.Levelled (template.fill node asked resolve).toList := by
  induction template with
  | nil => exact .of_notMem (by simp [fill])
  | cons piece rest ih =>
    have hpiece : Text.Levelled (piece.fill node asked resolve).toList :=
      Piece.levelled_fill hresolve hvalues (hpieces piece List.mem_cons_self)
    rw [toList_fill_cons]
    cases rest with
    | nil => simpa [fill] using hpiece
    | cons next rest =>
      obtain ⟨hmeet, hrest⟩ := List.isChain_cons_cons.1 hchain
      exact hpiece.append (ih (fun piece hmem => hpieces piece (List.mem_cons_of_mem _ hmem)) hrest)
        (hmeet.imp (Piece.newline_notMem_fill hresolve hvalues) Piece.head?_fill_ne_space)

/-- **A levelled template fills to lines on full levels.** -/
theorem Template.levelled_fill (h : template.Levelled) :
    Text.Levelled ('\n' :: (template.fill node asked resolve).toList) := by
  have hnewline : (Piece.text "\n").Levelled := ⟨fun _ => Nat.dvd_zero 4, trivial⟩
  have hfill : Text.Levelled (fill node asked resolve (.text "\n" :: template)).toList :=
    levelled_fill_of_isChain hresolve hvalues (List.forall_mem_cons.2 ⟨hnewline, h.1⟩) h.2
  have hchars : (Piece.fill node asked resolve (.text "\n")).toList = ['\n'] := by
    rw [Piece.fill]
    decide
  rwa [toList_fill_cons, hchars] at hfill

end Filling

/-! ### Levelled catalogs -/

/-- Statements are levelled, and expressions and the values of inputs have no line feeds. -/
@[mk_iff]
structure Variant.Levelled (variant : Variant) : Prop where
  /-- The statements. -/
  statements : ∀ statement ∈ variant.statements, statement.Levelled
  /-- The expressions of outputs that have one of their own. -/
  expressions : ∀ entry ∈ variant.expressions, ∀ piece ∈ entry.2, piece.Unbroken
  /-- The expression of every other output. -/
  expression : ∀ piece ∈ variant.expression, piece.Unbroken
  /-- The values of inputs that nothing else feeds. -/
  defaults : ∀ port ∈ variant.inputs, port.default.all (!·.isText) = true

instance : DecidablePred Variant.Levelled := fun variant =>
  decidable_of_iff _ variant.levelled_iff.symm

theorem Catalog.levelled_of_mem_builtinVariants :
    ∀ variant ∈ builtinVariants, variant.Levelled := by
  decide +kernel

theorem Catalog.builtin_levelled {tag : String} {variant : Variant}
    (h : builtin.get? tag = some variant) : variant.Levelled :=
  levelled_of_mem_builtinVariants variant (mem_builtinVariants h)

namespace Graph

variable {catalog : Catalog} {g : Graph} {node : Node}

/-- No parameter has a line feed. -/
def Unbroken (g : Graph) : Prop :=
  ∀ node ∈ g.nodes, ∀ entry ∈ node.parameters.entries, '\n' ∉ entry.2.render.toList

section Builtin

variable (h : WellFormed Catalog.builtin g) (hunbroken : g.Unbroken)

include h hunbroken

/-- **Expressions have no line feeds** if no parameter has one. -/
theorem newline_notMem_inputWithin (depth : Nat) {port expression : String} (hnode : node ∈ g.nodes)
    (hexpression : g.inputWithin depth node port = some expression) :
    '\n' ∉ expression.toList := by
  refine inputWithin_induction (P := fun _ expression => '\n' ∉ expression.toList) ?_ ?_ depth hnode
    hexpression
  · intro node hnode port value hvalue
    rcases h.fallback?_cases hnode hvalue with
      ⟨key, hvalue⟩ | ⟨variant, hvariant, spec, hmem, hdefault⟩
    · exact value_of_forall (P := fun value => '\n' ∉ value.render.toList) hunbroken hnode key value
        hvalue
    · have hlevelled := Catalog.builtin_levelled hvariant
      have htext := (Option.all_eq_true ..).1 (hlevelled.defaults spec hmem) value hdefault
      exact Value.newline_notMem_render (by simpa using htext)
  · intro node _ producer variant hfound hvariant _ asked resolve hresolve
    have hlevelled := Catalog.builtin_levelled (h.get?_of_variantOf? hvariant)
    exact Template.newline_notMem_fill hresolve (value_of_forall hunbroken (node?_eq_some hfound).1)
      (Variant.expressionAt_of_forall (P := fun template => ∀ piece ∈ template, piece.Unbroken)
        hlevelled.expressions hlevelled.expression asked)

/-- **The lines of built-in statements stand on full levels** if no parameter has a line feed. -/
theorem four_dvd_leading {options : Options} {name : String} {strategy : Strategy}
    (hcompile : g.compile options name = .ok strategy) {statement : String}
    (hstatement : statement ∈ strategy.statements) {line : String}
    (hline : line ∈ Text.lines statement) : 4 ∣ Text.leading line := by
  rw [statements_of_compile h hcompile] at hstatement
  obtain ⟨id, -, hstatement⟩ := List.mem_flatMap.1 hstatement
  obtain ⟨node, variant, hfound, hvariant, template, htemplate, rfl⟩ :=
    exists_node_of_mem_statements hstatement
  have hnode := (node?_eq_some hfound).1
  have hlevelled := Catalog.builtin_levelled (h.get?_of_variantOf? hvariant)
  refine Text.four_dvd_leading_of_mem_lines (Template.levelled_fill ?_
    (value_of_forall hunbroken hnode) (hlevelled.statements template htemplate)) hline
  exact fun port expression => newline_notMem_inputWithin h hunbroken _ hnode

end Builtin

end Graph

end Blueprint
