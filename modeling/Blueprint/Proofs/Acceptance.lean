import Blueprint.Catalog.Builtin
import Blueprint.Proofs.Emission

/-!
# Which graphs become strategies

A graph is ready (`Graph.Ready`) if its connections form no cycle, all its required inputs are met
and some node places orders.  Readiness speaks of paths of connections, not of the sweep that looks
for them; validation reports exactly what it lacks (`Graph.validate_eq`), and a graph without issues
always has an order of execution.

Main statement: the ready graphs are those that compile, and all others are refused with the list of
what they lack (`Graph.compile_outcome`).
-/

namespace Blueprint

namespace Graph

variable {catalog : Catalog} {g : Graph} {node : Node} {port : PortSpec}

/-- A required input of a node that has neither a connection nor a value. -/
structure Unmet (g : Graph) (node : Node) (port : PortSpec) : Prop where
  /-- The input is required. -/
  required : port.required = true
  /-- No connection runs into it. -/
  unconnected : ∀ c ∈ g.connections, c.target ≠ .input node.id port.name
  /-- The node has no value for it. -/
  valueless : node.fallback? port.name = none

/-- Some node is of a variant that places orders. -/
def Trades (g : Graph) : Prop :=
  ∃ node ∈ g.nodes, ∃ variant, g.catalog.get? node.type = some variant ∧ variant.category = .trade

/-- The graph has all that a strategy needs. -/
structure Ready (g : Graph) : Prop where
  /-- No node can be reached from itself along connections. -/
  acyclic : ¬∃ id, Relation.TransGen g.Feeds id id
  /-- Every required input of a node has a connection or a value. -/
  met : ∀ node ∈ g.nodes, ∀ port ∈ node.inputs, port.required = true →
    (∃ c ∈ g.connections, c.target = .input node.id port.name) ∨
      ∃ value, node.fallback? port.name = some value
  /-- Some node places orders. -/
  trades : g.Trades

/-! ### What validation reports -/

theorem isFed_eq_true_iff {name : String} :
    g.isFed node name = true ↔ (∃ c ∈ g.connections, c.target = .input node.id name) ∨
      ∃ value, node.fallback? name = some value := by
  simp [isFed, incoming, ← Option.isSome_iff_exists]

theorem unmet_iff : g.Unmet node port ↔ (port.required && !g.isFed node port.name) = true := by
  rw [Bool.and_eq_true, Bool.not_eq_true', Bool.eq_false_iff, ne_eq, isFed_eq_true_iff]
  constructor
  · rintro ⟨hrequired, hconnected, hvalue⟩
    refine ⟨hrequired, ?_⟩
    rintro (⟨c, hc, htarget⟩ | ⟨value, hsome⟩)
    · exact hconnected c hc htarget
    · rw [hvalue] at hsome
      cases hsome
  · rintro ⟨hrequired, hno⟩
    refine ⟨hrequired, fun c hc htarget => hno (.inl ⟨c, hc, htarget⟩), ?_⟩
    exact Option.eq_none_iff_forall_ne_some.2 fun value hvalue => hno (.inr ⟨value, hvalue⟩)

instance : Decidable (g.Unmet node port) := decidable_of_iff _ unmet_iff.symm

theorem nodesIn_trade_eq_nil_iff : (g.nodesIn .trade).isEmpty = true ↔ ¬g.Trades := by
  simp [nodesIn, Trades, variantOf?, List.isEmpty_iff, List.filter_eq_nil_iff,
    Option.any_eq_true]

/-- The issues for the inputs that are not met: by node in insertion order, then by port in
declaration order. -/
def unmetIssues (g : Graph) : List Issue :=
  g.nodes.flatMap fun node => (node.inputs.filter (g.Unmet node ·)).map fun port =>
    .unfedInput (g.titleOf node) node.id port.name

theorem flatMap_nodeIssues (g : Graph) : g.nodes.flatMap g.nodeIssues = g.unmetIssues := by
  refine List.flatMap_congr fun node _ => ?_
  rw [nodeIssues]
  congr 1
  refine List.filter_congr fun port _ => ?_
  rw [Bool.eq_iff_iff, decide_eq_true_iff, unmet_iff]

open Classical in
/-- **Validation reports what a graph lacks:** a cycle, then the unmet inputs, then the lack of an
order. -/
theorem validate_eq (h : WellFormed catalog g) :
    g.validate = (if g.Cyclic then [.cycle] else []) ++ g.unmetIssues ++
      (if g.Trades then [] else [.noTrade]) := by
  rw [validate, flatMap_nodeIssues]
  simp only [hasCycle_iff h, nodesIn_trade_eq_nil_iff, ite_not]

theorem unmetIssues_eq_nil_iff :
    g.unmetIssues = [] ↔ ∀ node ∈ g.nodes, ∀ port ∈ node.inputs, ¬g.Unmet node port := by
  simp [unmetIssues, List.flatMap_eq_nil_iff, List.filter_eq_nil_iff]

theorem validate_eq_nil_iff (h : WellFormed catalog g) : g.validate = [] ↔ g.Ready := by
  rw [validate_eq h, List.append_eq_nil_iff, List.append_eq_nil_iff, unmetIssues_eq_nil_iff]
  constructor
  · rintro ⟨⟨hcycle, hunmet⟩, htrades⟩
    have hcyclic : ¬g.Cyclic := by simpa using hcycle
    refine ⟨hcyclic, fun node hnode port hport hrequired => ?_, by simpa using htrades⟩
    rw [← isFed_eq_true_iff]
    simpa [unmet_iff, hrequired] using hunmet node hnode port hport
  · rintro ⟨hacyclic, hmet, htrades⟩
    have hcyclic : ¬g.Cyclic := hacyclic
    refine ⟨⟨by simp [hcyclic], fun node hnode port hport hunmet => ?_⟩, by simp [htrades]⟩
    rw [unmet_iff, Bool.and_eq_true, Bool.not_eq_true'] at hunmet
    have hfed := isFed_eq_true_iff.2 (hmet node hnode port hport hunmet.1)
    rw [hunmet.2] at hfed
    cases hfed

/-! ### What compilation does -/

theorem compile_of_issues {options : Options} {name : String} (h : g.validate ≠ []) :
    g.compile options name = .error (.invalid g.validate) := by
  rw [compile, Emitter.compile]
  split
  · exact absurd ‹_› h
  · rfl

open Classical in
/-- **A graph compiles exactly if it is ready**, whatever the name and the options.  Otherwise it is
refused as invalid, never for its order, and the issues are the cycle if there is one, then one
for each required input that is not met, by node in insertion order and by port in declaration
order, and then the lack of an order if no node places any. -/
theorem compile_outcome (h : Reachable catalog g) (options : Options) (name : String) :
    ((∃ strategy, g.compile options name = .ok strategy) ↔ g.Ready) ∧
    (¬g.Ready → g.compile options name = .error (.invalid (
      (if ∃ id, Relation.TransGen g.Feeds id id then [.cycle] else []) ++
      (g.nodes.flatMap fun node => (node.inputs.filter (g.Unmet node ·)).map fun port =>
        .unfedInput (g.titleOf node) node.id port.name) ++
      (if g.Trades then [] else [.noTrade])))) := by
  have hwf := h.wellFormed
  have hrefused : ¬g.Ready → g.compile options name = .error (.invalid g.validate) :=
    fun hready => compile_of_issues fun hvalid => hready ((validate_eq_nil_iff hwf).1 hvalid)
  refine ⟨⟨?_, fun hready => ?_⟩, fun hready => (hrefused hready).trans ?_⟩
  · rintro ⟨strategy, hcompile⟩
    by_contra hready
    rw [hrefused hready] at hcompile
    cases hcompile
  · exact ⟨_, compile_of_valid ((validate_eq_nil_iff hwf).2 hready)
      (executionOrder_eq_ok hwf hready.acyclic)⟩
  · rw [validate_eq hwf]
    rfl

end Graph

namespace Sample

/-- A conjunction and a negation in a cycle, with an input that nothing feeds and no order. -/
def flawed : Graph := (Graph.ofDocument Catalog.builtin
  { nodes := [⟨"x", "logic.and", {}, .empty⟩, ⟨"y", "logic.not", {}, .empty⟩]
    connections := [⟨"x", "result", "y", "input"⟩, ⟨"y", "result", "x", "a"⟩] }).graph

end Sample

namespace Graph

/-- All three flaws are reported. -/
theorem flawed_refused :
    Reachable Catalog.builtin Sample.flawed ∧ ¬Sample.flawed.Ready ∧
    Sample.flawed.compile {} "Flawed" =
      .error (.invalid [.cycle, .unfedInput "And" "x" "b", .noTrade]) := by
  have h : Reachable Catalog.builtin Sample.flawed := .loaded (by decide +kernel)
  have hissues : Sample.flawed.validate = [.cycle, .unfedInput "And" "x" "b", .noTrade] := by
    decide +kernel
  obtain ⟨-, hrefused⟩ := compile_outcome h {} "Flawed"
  have hready : ¬Sample.flawed.Ready := by
    intro hready
    rw [(validate_eq_nil_iff h.wellFormed).2 hready] at hissues
    cases hissues
  refine ⟨h, hready, (hrefused hready).trans ?_⟩
  rw [← hissues, validate_eq h.wellFormed]
  rfl

end Graph

end Blueprint
