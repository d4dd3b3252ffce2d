import Blueprint.Proofs.Acceptance
import Blueprint.Proofs.ClosedBody

/-!
# Placeholders for missing inputs

Two tests decide whether a required input is met.  Validation asks for a connection or a value.
Filling in a template asks for an expression that is not empty, and writes a placeholder if there is
none.  The tests differ on the empty text: an input that reads it (`Graph.readsBlank`), as its own
value or as the value of the constant that feeds it, passes validation and is filled in with the
placeholder (`Graph.blankOrder_placeholder`).  They differ on nothing else, since every other
expression of a built-in variant has a part that is never empty (`Catalog.builtin_voiced`).

That no placeholder is used, at whatever depth of nested expressions, is said by changing it: with
any other text for required inputs that are missing (`Graph.rephrase`), statements and expressions
are the same.

Main statement: in a graph without issues, all required inputs are filled with expressions exactly
if none of them reads the empty text, and then no placeholder is used
(`Graph.required_inputs_filled`).
-/

namespace Blueprint

/-! ### Other placeholders -/

namespace Piece

/-- The piece with another text for a required input that is missing. -/
def rephrase (required : String → Bool) (text : String) : Piece → Piece
  | .input port otherwise => .input port (if required port then text else otherwise)
  | piece => piece

/-- The piece is never filled in with nothing. -/
def isSolid : Piece → Bool
  | .text s => !s.isEmpty
  | .var _ => true
  | _ => false

end Piece

namespace Template

/-- The template with another text for required inputs that are missing. -/
def rephrase (required : String → Bool) (text : String) (template : Template) : Template :=
  template.map (Piece.rephrase required text)

/-- The parameter that a template stands for, with the value if it is not set. -/
def readout? : Template → Option (String × Value)
  | [.parameter key otherwise] => some (key, otherwise)
  | _ => none

end Template

namespace Variant

/-- The variant has a required input of this name. -/
def requires (variant : Variant) (name : String) : Bool :=
  variant.inputs.any fun port => port.required && port.name == name

/-- The variant with another text for required inputs that are missing. -/
def rephrase (text : String) (variant : Variant) : Variant :=
  { variant with
    statements := variant.statements.map (Template.rephrase variant.requires text)
    expressions := variant.expressions.map fun entry =>
      (entry.1, Template.rephrase variant.requires text entry.2)
    expression := variant.expression.rephrase variant.requires text }

/-- At each output the variant offers a parameter or an expression that is never empty. -/
def Voiced (variant : Variant) : Prop :=
  ∀ port ∈ variant.outputs, (variant.expressionAt port.name).any Piece.isSolid = true ∨
    (variant.expressionAt port.name).readout?.isSome = true

instance : DecidablePred Voiced := fun _ => inferInstanceAs (Decidable (∀ _ ∈ _, _ ∨ _))

end Variant

namespace Catalog

/-- The catalog with another text for required inputs that are missing. -/
def rephrase (text : String) (catalog : Catalog) : Catalog :=
  ⟨catalog.entries.map fun entry => (entry.1, entry.2.rephrase text)⟩

/-- All variants of a catalog are voiced. -/
def Voiced (catalog : Catalog) : Prop :=
  ∀ tag variant, catalog.get? tag = some variant → variant.Voiced

theorem voiced_of_mem_builtinVariants : ∀ variant ∈ builtinVariants, variant.Voiced := by
  decide +kernel

/-- **All built-in variants are voiced.** -/
theorem builtin_voiced : builtin.Voiced := fun _ variant h =>
  voiced_of_mem_builtinVariants variant (mem_builtinVariants h)

end Catalog

namespace Graph

/-- The graph over the catalog with another text for required inputs that are missing. -/
def rephrase (text : String) (g : Graph) : Graph := { g with catalog := g.catalog.rephrase text }

/-- The input reads the empty text: it is the value of the input, or the parameter that the output
which feeds it stands for. -/
def readsBlank (g : Graph) (node : Node) (port : String) : Bool :=
  match g.feed? node port with
  | none => node.fallback? port = some (.text "")
  | some c => (g.producer? c).any fun (producer, variant) =>
      (variant.expressionAt c.source.port).readout?.any fun (key, otherwise) =>
        (producer.parameters.get? key).getD otherwise = .text ""

/-- No required input reads the empty text. -/
def BlankFree (g : Graph) : Prop :=
  ∀ node ∈ g.nodes, ∀ port ∈ node.inputs, port.required = true → g.readsBlank node port.name = false

instance (g : Graph) : Decidable g.BlankFree :=
  inferInstanceAs (Decidable (∀ _ ∈ _, ∀ _ ∈ _, _ → _))

end Graph

/-! ### Filling in templates -/

section

variable {node : Node} {asked : String} {resolve : String → Option String} {template : Template}

theorem Template.fill_ne_empty (h : template.any Piece.isSolid = true) :
    template.fill node asked resolve ≠ "" := by
  obtain ⟨piece, hmem, hsolid⟩ := List.any_eq_true.1 h
  have hpiece : (piece.fill node asked resolve).toList ≠ [] := by
    cases piece with
    | text s => simpa [Piece.isSolid, Piece.fill] using hsolid
    | var suffix => simp [Piece.fill, Node.variableName]
    | input _ _ | output | parameter _ _ => cases hsolid
  intro hempty
  have hlist := congrArg String.toList hempty
  rw [fill, String.toList_join] at hlist
  exact hpiece (List.flatMap_eq_nil_iff.1 hlist _ (List.mem_map.2 ⟨piece, hmem, rfl⟩))

theorem Template.fill_readout {key : String} {otherwise : Value}
    (h : template.readout? = some (key, otherwise)) :
    template.fill node asked resolve = ((node.parameters.get? key).getD otherwise).render := by
  match template, h with
  | [.parameter _ _], rfl => simp [fill, Piece.fill]

theorem Template.readout?_eq_none (h : template.any Piece.isSolid = true) :
    template.readout? = none := by
  unfold readout?
  split
  · cases h
  · rfl

/-- If all required inputs have expressions, it does not matter what else would be written. -/
theorem Template.fill_rephrase {required : String → Bool}
    (h : ∀ port, required port = true → ∃ e, resolve port = some e ∧ e ≠ "") (text : String) :
    (template.rephrase required text).fill node asked resolve =
      template.fill node asked resolve := by
  have hpiece : ∀ piece : Piece, (piece.rephrase required text).fill node asked resolve =
      piece.fill node asked resolve := by
    intro piece
    cases piece with
    | input port otherwise =>
      by_cases hport : required port = true
      · obtain ⟨e, he, hne⟩ := h port hport
        simp [Piece.rephrase, Piece.fill, he, hne]
      · simp [Piece.rephrase, hport]
    | text _ | var _ | output | parameter _ _ => rfl
  rw [fill, rephrase, List.map_map, fill]
  exact congrArg String.join (List.map_congr_left fun piece _ => hpiece piece)

end

theorem Variant.expressionAt_rephrase (variant : Variant) (text port : String) :
    (variant.rephrase text).expressionAt port =
      (variant.expressionAt port).rephrase variant.requires text := by
  rw [expressionAt, rephrase, lookup_map_value, expressionAt]
  cases variant.expressions.lookup port <;> rfl

/-! ### Expressions of inputs -/

namespace Graph

variable {catalog : Catalog} {g : Graph} {node : Node}

theorem variantOf?_rephrase (g : Graph) (text : String) (node : Node) :
    (g.rephrase text).variantOf? node = (g.variantOf? node).map (Variant.rephrase text) :=
  lookup_map_value (Variant.rephrase text) node.type g.catalog.entries

theorem producer?_rephrase (g : Graph) (text : String) (c : Connection) :
    (g.rephrase text).producer? c =
      (g.producer? c).map fun producer => (producer.1, producer.2.rephrase text) := by
  unfold producer?
  change (g.node? c.source.node).bind _ = _
  cases g.node? c.source.node with
  | none => rfl
  | some node =>
    simp only [Option.bind_some, variantOf?_rephrase, Option.map_map]
    rfl

theorem WellFormed.exists_producer? (h : WellFormed catalog g) {c : Connection}
    (hc : c ∈ g.connections) : ∃ producer variant, g.producer? c = some (producer, variant) ∧
      producer ∈ g.nodes ∧ ∃ port ∈ variant.outputs, port.name = c.source.port := by
  obtain ⟨spec, _, hjoin⟩ := h.joined c hc
  obtain ⟨producer, hfound, hport⟩ := Option.bind_eq_some_iff.1 hjoin.source_port
  have hmem := (node?_eq_some hfound).1
  obtain ⟨variant, hvariant, -, houtputs⟩ := h.registered producer hmem
  rw [hjoin.source_output, Node.port?, houtputs] at hport
  refine ⟨producer, variant, ?_, hmem, spec, List.mem_of_find?_eq_some hport,
    by simpa using List.find?_some hport⟩
  rw [producer?, hfound, Option.bind_some, variantOf?, h.catalog_eq, hvariant]
  rfl

theorem mem_of_feed? {port : String} {c : Connection} (h : g.feed? node port = some c) :
    c ∈ g.connections := (List.mem_filter.1 (List.mem_of_mem_head? h)).1

section Resolution

variable (h : WellFormed catalog g) (hvoiced : catalog.Voiced)

include h hvoiced

/-- **An input that has a connection or a value has an expression, and it is empty exactly if the
input reads the empty text.** -/
theorem exists_inputWithin (depth : Nat) {port : String} (hfed : g.isFed node port = true) :
    ∃ e, g.inputWithin (depth + 1) node port = some e ∧ (e = "" ↔ g.readsBlank node port = true) := by
  unfold inputWithin readsBlank
  cases hfeed : g.feed? node port with
  | none =>
    have hunconnected : g.incoming (.input node.id port) = [] := List.head?_eq_none_iff.1 hfeed
    rw [isFed, hunconnected] at hfed
    obtain ⟨value, hvalue⟩ := Option.isSome_iff_exists.1 hfed
    refine ⟨value.render, by rw [hvalue]; rfl, ?_⟩
    rw [Value.render_eq_empty_iff, hvalue]
    simp
  | some c =>
    obtain ⟨producer, variant, hproducer, -, spec, hspec, hname⟩ :=
      h.exists_producer? (mem_of_feed? hfeed)
    have hvariant : catalog.get? producer.type = some variant := by
      rw [← h.catalog_eq]
      exact (of_producer? hproducer).2
    simp only [hproducer, Option.map_some, Option.any_some]
    refine ⟨_, rfl, ?_⟩
    -- The expression has a part that is never empty, or it is a parameter.
    rw [← hname]
    rcases hvoiced _ _ hvariant spec hspec with hsolid | hreadout
    · simp [Template.fill_ne_empty hsolid, Template.readout?_eq_none hsolid]
    · obtain ⟨⟨key, otherwise⟩, hreadout⟩ := Option.isSome_iff_exists.1 hreadout
      rw [Template.fill_readout hreadout, Value.render_eq_empty_iff, hreadout]
      simp

variable (hready : g.Ready) (hblank : g.BlankFree)

include hready

/-- The expression of a required input is empty exactly if the input reads the empty text. -/
theorem Ready.exists_inputWithin (depth : Nat) (hnode : node ∈ g.nodes) {port : PortSpec}
    (hport : port ∈ node.inputs) (hrequired : port.required = true) :
    ∃ e, g.inputWithin (depth + 1) node port.name = some e ∧
      (e = "" ↔ g.readsBlank node port.name = true) :=
  Graph.exists_inputWithin h hvoiced depth
    (isFed_eq_true_iff.2 (hready.met node hnode port hport hrequired))

include hblank

theorem Ready.exists_inputWithin_ne_empty (hnode : node ∈ g.nodes) {variant : Variant}
    (hvariant : g.variantOf? node = some variant) {depth : Nat} (hdepth : 0 < depth) {port : String}
    (hport : variant.requires port = true) :
    ∃ e, g.inputWithin depth node port = some e ∧ e ≠ "" := by
  obtain ⟨depth, rfl⟩ := Nat.exists_eq_succ_of_ne_zero (Nat.ne_of_gt hdepth)
  obtain ⟨spec, hspec, hrequires⟩ := List.any_eq_true.1 hport
  rw [Bool.and_eq_true, beq_iff_eq] at hrequires
  obtain ⟨hrequired, rfl⟩ := hrequires
  -- The inputs of a node are those that its variant declares.
  obtain ⟨declared, hdeclared, hinputs, -⟩ := h.registered node hnode
  rw [variantOf?, h.catalog_eq, hdeclared] at hvariant
  obtain rfl := Option.some.inj hvariant
  rw [← hinputs] at hspec
  obtain ⟨e, he, hempty⟩ := hready.exists_inputWithin h hvoiced depth hnode hspec hrequired
  rw [hblank node hnode spec hspec hrequired] at hempty
  exact ⟨e, he, fun h => Bool.false_ne_true (hempty.1 h)⟩

/-- **Other placeholders do not change the expression of an input**, as long as the depth allows for
all nodes before this one in the order of execution. -/
theorem Ready.inputWithin_rephrase (text : String) (depth : Nat) (hnode : node ∈ g.nodes)
    (hdepth : g.topologicalOrder.order.idxOf node.id < depth) (port : String) :
    (g.rephrase text).inputWithin depth node port = g.inputWithin depth node port := by
  induction depth generalizing node port with
  | zero => exact absurd hdepth (Nat.not_lt_zero _)
  | succ depth ih =>
    have hsame : (g.rephrase text).feed? node port = g.feed? node port := rfl
    unfold inputWithin
    rw [hsame]
    cases hfeed : g.feed? node port with
    | none => rfl
    | some c =>
      obtain ⟨producer, variant, hproducer, hmem, -⟩ := h.exists_producer? (mem_of_feed? hfeed)
      have hvariant := (of_producer? hproducer).2
      -- The producer comes before the node, so the depth that is left allows for it.
      have hrank : g.topologicalOrder.order.idxOf producer.id < depth := by
        have hbefore := idxOf_lt_of_acyclic h hready.acyclic (feeds_of_producer? hfeed hproducer)
        omega
      have hresolve : (g.rephrase text).inputWithin depth producer = g.inputWithin depth producer :=
        funext fun port => ih hmem hrank port
      simp only [producer?_rephrase, hproducer, Option.map_some, hresolve,
        Variant.expressionAt_rephrase]
      rw [Template.fill_rephrase fun port hport => hready.exists_inputWithin_ne_empty h hvoiced hblank
        hmem hvariant (Nat.zero_lt_of_lt hrank) hport]

/-- **Other placeholders do not change what a template of a node is filled in with.** -/
theorem Ready.fill_rephrase (text : String) (hnode : node ∈ g.nodes) {variant : Variant}
    (hvariant : g.variantOf? node = some variant) (asked : String) (template : Template) :
    (g.rephrase text).fill node asked (template.rephrase variant.requires text) =
      g.fill node asked template := by
  have hrank : g.topologicalOrder.order.idxOf node.id < g.depthAllowance := by
    have hlt := List.idxOf_lt_length_of_mem (mem_order h hready.acyclic hnode)
    rw [(order_perm h hready.acyclic).length_eq, ids, List.length_map] at hlt
    exact Nat.lt_succ_of_lt hlt
  have hresolve : (g.rephrase text).inputValue node = g.inputValue node :=
    funext fun port => hready.inputWithin_rephrase h hvoiced hblank text _ hnode hrank port
  unfold fill
  rw [hresolve]
  exact Template.fill_rephrase (fun port hport => hready.exists_inputWithin_ne_empty h hvoiced hblank
    hnode hvariant (Nat.succ_pos _) hport) text

end Resolution

/-! ### Graphs without issues -/

/-- **In a graph without issues, every required input has an expression, and all of them are filled
in exactly if none reads the empty text.**  Then no placeholder for a required input is used in a
statement or in the expression at an output: with another text in place of the placeholders they are
the same. -/
theorem required_inputs_filled (h : Reachable Catalog.builtin g) (hvalid : g.validate = []) :
    (∀ node ∈ g.nodes, ∀ port ∈ node.inputs, port.required = true →
      ∃ e, g.inputValue node port.name = some e ∧
        (e = "" ↔ g.readsBlank node port.name = true)) ∧
    ((∀ node ∈ g.nodes, ∀ port ∈ node.inputs, port.required = true →
      ∃ e, g.inputValue node port.name = some e ∧ e ≠ "") ↔ g.BlankFree) ∧
    (g.BlankFree → ∀ text, ∀ node ∈ g.nodes, ∀ variant, g.variantOf? node = some variant →
      (g.rephrase text).statementsOf node (variant.rephrase text) = g.statementsOf node variant ∧
      ∀ port, (g.rephrase text).outputExpression node (variant.rephrase text) port =
        g.outputExpression node variant port) := by
  have hwf := h.wellFormed
  have hready := (validate_eq_nil_iff hwf).1 hvalid
  have hvoiced := Catalog.builtin_voiced
  have hresolved : ∀ node ∈ g.nodes, ∀ port ∈ node.inputs, port.required = true →
      ∃ e, g.inputValue node port.name = some e ∧ (e = "" ↔ g.readsBlank node port.name = true) :=
    fun node hnode port hport hrequired =>
      hready.exists_inputWithin hwf hvoiced g.nodeCount hnode hport hrequired
  refine ⟨hresolved, ⟨fun hfilled node hnode port hport hrequired => ?_,
    fun hblank node hnode port hport hrequired => ?_⟩, fun hblank text node hnode variant hvariant =>
      ⟨?_, fun port => ?_⟩⟩
  · obtain ⟨e, he, hne⟩ := hfilled node hnode port hport hrequired
    obtain ⟨e', he', hempty⟩ := hresolved node hnode port hport hrequired
    obtain rfl := Option.some.inj (he.symm.trans he')
    exact Bool.eq_false_iff.2 fun hreads => hne (hempty.2 hreads)
  · obtain ⟨e, he, hempty⟩ := hresolved node hnode port hport hrequired
    rw [hblank node hnode port hport hrequired] at hempty
    exact ⟨e, he, fun h => Bool.false_ne_true (hempty.1 h)⟩
  · rw [statementsOf, Variant.rephrase, List.map_map, statementsOf]
    exact List.map_congr_left fun template _ =>
      hready.fill_rephrase hwf hvoiced hblank text hnode hvariant "" template
  · rw [outputExpression, Variant.expressionAt_rephrase, outputExpression]
    exact hready.fill_rephrase hwf hvoiced hblank text hnode hvariant port _

/-- No required input of the order and its signal reads the empty text, so no placeholder is used. -/
theorem trend_filled :
    Reachable Catalog.builtin Sample.trend ∧ Sample.trend.validate = [] ∧ Sample.trend.BlankFree ∧
    ∀ text, ∀ node ∈ Sample.trend.nodes, ∀ variant, Sample.trend.variantOf? node = some variant →
      (Sample.trend.rephrase text).statementsOf node (variant.rephrase text) =
        Sample.trend.statementsOf node variant := by
  have h : Reachable Catalog.builtin Sample.trend := .loaded (by decide +kernel)
  have hvalid : Sample.trend.validate = [] := by decide +kernel
  have hblank : Sample.trend.BlankFree := by decide +kernel
  refine ⟨h, hvalid, hblank, fun text node hnode variant hvariant => ?_⟩
  exact ((required_inputs_filled h hvalid).2.2 hblank text node hnode variant hvariant).1

end Graph

namespace Sample

/-- An order whose condition has the empty text as its value. -/
def blankOrder : Graph := (Graph.ofDocument Catalog.builtin
  { nodes := [⟨"b", "trade.buy", {}, .ofList [("_input_condition", .text "")]⟩] }).graph

end Sample

namespace Graph

/-- The order passes validation, but its condition is filled in with the placeholder: with another
placeholder, the statement is another. -/
theorem blankOrder_placeholder :
    Reachable Catalog.builtin Sample.blankOrder ∧ Sample.blankOrder.validate = [] ∧
    ∃ node ∈ Sample.blankOrder.nodes, ∃ port ∈ node.inputs, port.required = true ∧
      Sample.blankOrder.inputValue node port.name = some "" ∧
      (Sample.blankOrder.variantOf? node).map (Sample.blankOrder.statementsOf node) =
        some ["if False:\n    if self.position == 0:\n        self.buy(bar.close, 100)"] ∧
      ((Sample.blankOrder.rephrase "?").variantOf? node).map
          ((Sample.blankOrder.rephrase "?").statementsOf node) =
        some ["if ?:\n    if self.position == 0:\n        self.buy(bar.close, 100)"] :=
  ⟨.loaded (by decide +kernel), by decide +kernel, by decide +kernel⟩

end Graph

end Blueprint
