import Blueprint.Proofs.ClosedBody

/-!
# Depth of nested expressions

To resolve an input is to ask the node that feeds it for an expression, and that node may resolve
inputs of its own for it.  Resolution counts how deep it is nested and follows no connection beyond a
depth of the number of nodes.  All that matters here is along which connections it nests, and not
what a variant makes of the expressions of its inputs.  So the statements are for any way to make
expressions (`Composer`), of which filling in templates is one (`Composer.templates`).

`Graph.Resolves` says what a resolution does from start to end, with its depth counted and with a
bound on all depths that occur.  It has a derivation only if the resolution comes to an end,
whichever inputs the variants read.

* `Graph.resolves_of_invariant` : a condition on the depth at each node that is kept along
  connections bounds a resolution.  On every graph the count alone is such a condition; without
  cycles, so is that the depth and the place in the order of execution are together at most the
  number of nodes.
* `Resolves.eq_resolved` : a resolution that is never deeper than the number of nodes gives what the
  recursion without a count gives (`Graph.resolved`), which is well-founded without cycles.
* `Graph.resolution_bounded` : **so the count cuts off cycles and nothing else.**
-/

namespace Blueprint

/-- A way to make the expression at an output of a node of a variant out of the expressions that
feed its inputs. -/
abbrev Composer := Variant → Node → String → (String → Option String) → String

/-- Expressions are templates, filled in. -/
def Composer.templates : Composer := fun variant node asked resolve =>
  (variant.expressionAt asked).fill node asked resolve

namespace Graph

section Definitions

variable (g : Graph) (compose : Composer)

/-- The expression that feeds an input, through at most `depth` connections. -/
def composeWithin : Nat → Node → String → Option String
  | 0, node, port =>
    match g.feed? node port with
    | some _ => none
    | none => (node.fallback? port).map Value.render
  | depth + 1, node, port =>
    match g.feed? node port with
    | some c => (g.producer? c).map fun producer =>
        compose producer.2 producer.1 c.source.port (composeWithin depth producer.1)
    | none => (node.fallback? port).map Value.render

/-- With templates this is how inputs are resolved. -/
theorem inputWithin_eq_composeWithin (depth : Nat) :
    g.inputWithin depth = g.composeWithin .templates depth := by
  induction depth with
  | zero => rfl
  | succ depth ih =>
    funext node port
    unfold inputWithin composeWithin
    rw [ih]
    rfl

/-- The resolution of an input, nested at a depth, comes to an end with a result, and neither it nor
any resolution within it is nested deeper than `deepest`. -/
inductive Resolves (deepest : Nat) : Nat → Node → String → Option String → Prop where
  /-- An input that is not connected has its own value. -/
  | value {depth : Nat} {node : Node} {port : String} (hdepth : depth ≤ deepest)
    (hfeed : g.feed? node port = none) :
    Resolves deepest depth node port ((node.fallback? port).map Value.render)
  /-- Beyond a depth of the number of nodes, a connection is not followed. -/
  | cutOff {depth : Nat} {node : Node} {port : String} {c : Connection} (hdepth : depth ≤ deepest)
    (hfeed : g.feed? node port = some c) (hbeyond : g.nodeCount < depth) :
    Resolves deepest depth node port none
  /-- There is no expression if the source of a connection does not exist. -/
  | lost {depth : Nat} {node : Node} {port : String} {c : Connection} (hdepth : depth ≤ deepest)
    (hfeed : g.feed? node port = some c) (hwithin : depth ≤ g.nodeCount)
    (hproducer : g.producer? c = none) : Resolves deepest depth node port none
  /-- The source of a connection makes the expression, and may resolve any of its inputs for it. -/
  | expression {depth : Nat} {node producer : Node} {port : String} {c : Connection}
    {variant : Variant} {resolve : String → Option String} (hdepth : depth ≤ deepest)
    (hfeed : g.feed? node port = some c) (hwithin : depth ≤ g.nodeCount)
    (hproducer : g.producer? c = some (producer, variant))
    (hinputs : ∀ input, Resolves deepest (depth + 1) producer input (resolve input)) :
    Resolves deepest depth node port (some (compose variant producer c.source.port resolve))

/-- The expression that feeds an input, by recursion along connections with no count of depth. -/
def resolved (hwf : WellFounded g.Feeds) (node : Node) (port : String) : Option String :=
  match hfeed : g.feed? node port with
  | none => (node.fallback? port).map Value.render
  | some c =>
    match hproducer : g.producer? c with
    | none => none
    | some (producer, variant) =>
      have : g.Feeds producer.id node.id := feeds_of_producer? hfeed hproducer
      some (compose variant producer c.source.port fun input => resolved hwf producer input)
termination_by hwf.wrap node.id
decreasing_by exact this

end Definitions

variable {catalog : Catalog} {g : Graph} {compose : Composer} {deepest depth left : Nat}
  {node : Node} {port : String} {result : Option String}

/-! ### Without a count -/

section

variable {hwf : WellFounded g.Feeds} {c : Connection}

theorem resolved_of_unconnected (hfeed : g.feed? node port = none) :
    g.resolved compose hwf node port = (node.fallback? port).map Value.render := by
  unfold resolved
  split
  · rfl
  · simp_all

theorem resolved_of_lost (hfeed : g.feed? node port = some c) (hproducer : g.producer? c = none) :
    g.resolved compose hwf node port = none := by
  unfold resolved
  split
  case h_1 hnone => simp [hnone] at hfeed
  case h_2 found hfound =>
    obtain rfl : found = c := Option.some.inj (hfound.symm.trans hfeed)
    split
    · rfl
    · simp_all

theorem resolved_of_producer? {producer : Node} {variant : Variant}
    (hfeed : g.feed? node port = some c) (hproducer : g.producer? c = some (producer, variant)) :
    g.resolved compose hwf node port =
      some (compose variant producer c.source.port (g.resolved compose hwf producer)) := by
  conv_lhs => unfold resolved
  split
  case h_1 hnone => simp [hnone] at hfeed
  case h_2 found hfound =>
    obtain rfl : found = c := Option.some.inj (hfound.symm.trans hfeed)
    split
    · simp_all
    · simp_all

end

/-! ### With a count -/

/-- **A bound on the depth at each node that is kept along connections bounds a resolution.**  The
induction is on the connections that are left to follow. -/
theorem resolves_of_invariant (Fits : Nat → NodeId → Prop)
    (hbound : ∀ depth id, Fits depth id → depth ≤ deepest)
    (hstep : ∀ depth u v, Fits depth v → depth ≤ g.nodeCount → g.Feeds u v → Fits (depth + 1) u)
    (hleft : depth + left = g.depthAllowance) (hfits : Fits depth node.id) :
    g.Resolves compose deepest depth node port (g.composeWithin compose left node port) := by
  have hdepth := hbound depth node.id hfits
  induction left generalizing depth node port with
  | zero =>
    unfold composeWithin
    cases hfeed : g.feed? node port with
    | none => exact .value hdepth hfeed
    | some c =>
      refine .cutOff hdepth hfeed ?_
      rw [depthAllowance] at hleft
      omega
  | succ left ih =>
    have hwithin : depth ≤ g.nodeCount := by
      rw [depthAllowance] at hleft
      omega
    unfold composeWithin
    cases hfeed : g.feed? node port with
    | none => exact .value hdepth hfeed
    | some c =>
      simp only
      cases hproducer : g.producer? c with
      | none => exact .lost hdepth hfeed hwithin hproducer
      | some producer =>
        have hnext := hstep depth producer.1.id node.id hfits hwithin
          (feeds_of_producer? hfeed hproducer)
        exact .expression hdepth hfeed hwithin hproducer fun input =>
          ih (by omega) hnext (hbound _ _ hnext)

/-- On every graph, no resolution is nested deeper than the number of nodes and one. -/
theorem resolves_composeWithin (g : Graph) (compose : Composer) (node : Node) (port : String) :
    g.Resolves compose (g.nodeCount + 1) 0 node port
      (g.composeWithin compose g.depthAllowance node port) := by
  refine resolves_of_invariant (fun depth _ => depth ≤ g.nodeCount + 1)
    (fun _ _ h => h) (fun depth _ _ _ hdepth _ => ?_) (Nat.zero_add _) (Nat.zero_le _)
  omega

/-- **Without cycles, no resolution is nested deeper than the number of nodes.**  Each connection
leads to an earlier place in the order of execution. -/
theorem resolves_of_acyclic (h : WellFormed catalog g) (hacyclic : ¬g.Cyclic) (compose : Composer)
    (node : Node) (port : String) :
    g.Resolves compose g.nodeCount 0 node port
      (g.composeWithin compose g.depthAllowance node port) := by
  have hlength : g.topologicalOrder.order.length = g.nodeCount := by
    rw [(order_perm h hacyclic).length_eq, ids, List.length_map]
    rfl
  refine resolves_of_invariant
    (fun depth id => depth + g.topologicalOrder.order.idxOf id ≤ g.nodeCount)
    (fun depth id hfits => by omega) (fun depth u v hfits _ hfeeds => ?_) (Nat.zero_add _) ?_
  · have hearlier := idxOf_lt_of_acyclic h hacyclic hfeeds
    omega
  · have hle := List.idxOf_le_length (a := node.id) (l := g.topologicalOrder.order)
    omega

/-! ### What a resolution gives -/

/-- Within a depth of the number of nodes, there is a connection left to follow. -/
theorem exists_left (hwithin : depth ≤ g.nodeCount) (hleft : depth + left = g.depthAllowance) :
    ∃ rest, left = rest + 1 := by
  rw [depthAllowance] at hleft
  exact ⟨left - 1, by omega⟩

namespace Resolves

theorem eq_composeWithin (h : g.Resolves compose deepest depth node port result)
    (hleft : depth + left = g.depthAllowance) :
    result = g.composeWithin compose left node port := by
  induction h generalizing left with
  | value _ hfeed => cases left <;> simp [composeWithin, hfeed]
  | cutOff _ hfeed hbeyond =>
    obtain rfl : left = 0 := by
      rw [depthAllowance] at hleft
      omega
    simp [composeWithin, hfeed]
  | lost _ hfeed hwithin hproducer =>
    obtain ⟨left, rfl⟩ := exists_left hwithin hleft
    simp [composeWithin, hfeed, hproducer]
  | @expression depth node producer port c variant resolve _ hfeed hwithin hproducer _ ih =>
    obtain ⟨left, rfl⟩ := exists_left hwithin hleft
    have hresolve : resolve = g.composeWithin compose left producer :=
      funext fun input => ih input (by omega)
    simp [composeWithin, hfeed, hproducer, hresolve]

/-- **A resolution that is never deeper than the number of nodes gives what the recursion without a
count gives**, since no connection is cut off in it. -/
theorem eq_resolved (h : g.Resolves compose g.nodeCount depth node port result)
    (hwf : WellFounded g.Feeds) : result = g.resolved compose hwf node port := by
  induction h with
  | value _ hfeed => exact (resolved_of_unconnected hfeed).symm
  | cutOff hdepth _ hbeyond => omega
  | lost _ hfeed _ hproducer => exact (resolved_of_lost hfeed hproducer).symm
  | @expression depth node producer port c variant resolve _ hfeed _ hproducer _ ih =>
    have hresolve : resolve = g.resolved compose hwf producer := funext ih
    rw [resolved_of_producer? hfeed hproducer, hresolve]

theorem cutOffsWithin_eq_nil (h : g.Resolves .templates g.nodeCount depth node port result)
    (hleft : depth + left = g.depthAllowance) : g.cutOffsWithin left node port = [] := by
  induction h generalizing left with
  | value _ hfeed => cases left <;> simp [cutOffsWithin, hfeed]
  | cutOff hdepth _ hbeyond => omega
  | lost _ hfeed hwithin hproducer =>
    obtain ⟨left, rfl⟩ := exists_left hwithin hleft
    simp [cutOffsWithin, hfeed, hproducer]
  | expression _ hfeed hwithin hproducer _ ih =>
    obtain ⟨left, rfl⟩ := exists_left hwithin hleft
    simp only [cutOffsWithin, hfeed, hproducer, Option.bind_some, Option.map_some,
      List.flatMap_eq_nil_iff]
    intro input _
    exact ih input (by omega)

end Resolves

/-! ### Inputs, expressions and statements -/

theorem inputValue_eq_composeWithin (g : Graph) :
    g.inputValue = g.composeWithin .templates g.depthAllowance := by
  funext node port
  rw [inputValue, inputWithin_eq_composeWithin]

theorem composeWithin_eq_resolved (h : WellFormed catalog g) (hacyclic : ¬g.Cyclic)
    (hwf : WellFounded g.Feeds) (compose : Composer) :
    g.composeWithin compose g.depthAllowance = g.resolved compose hwf := by
  funext node port
  exact (resolves_of_acyclic h hacyclic compose node port).eq_resolved hwf

theorem inputNotes_of_acyclic (h : WellFormed catalog g) (hacyclic : ¬g.Cyclic) (node : Node)
    (port : String) : g.inputNotes node port = [] := by
  have hresolves := resolves_of_acyclic h hacyclic .templates node port
  rw [inputNotes, hresolves.cutOffsWithin_eq_nil (Nat.zero_add _), List.map_nil]

theorem fillNotes_of_acyclic (h : WellFormed catalog g) (hacyclic : ¬g.Cyclic) (node : Node)
    (template : Template) : g.fillNotes node template = [] :=
  List.flatMap_eq_nil_iff.2 fun port _ => inputNotes_of_acyclic h hacyclic node port

/-- **The count of depth cuts off cycles and nothing else.**  Inputs are resolved by filling in
templates, but let expressions be made of inputs in any way.  On every reachable graph, the
resolution of an input comes to an end with one result, nested no deeper than the number of nodes and
one.  If there is no cycle, going back along connections is well-founded, and no resolution is nested
deeper than the number of nodes, so none is cut off: inputs, expressions and statements are those of
the recursion without a count, and nothing is noted. -/
theorem resolution_bounded (h : Reachable catalog g) :
    g.inputValue = g.composeWithin .templates g.depthAllowance ∧
    (∀ compose node port result, g.Resolves compose (g.nodeCount + 1) 0 node port result ↔
      result = g.composeWithin compose g.depthAllowance node port) ∧
    (¬g.Cyclic → ∃ hwf : WellFounded g.Feeds,
      (∀ compose, g.composeWithin compose g.depthAllowance = g.resolved compose hwf ∧
        ∀ node port,
          g.Resolves compose g.nodeCount 0 node port (g.resolved compose hwf node port)) ∧
      g.inputValue = g.resolved .templates hwf ∧
      (∀ node variant port, g.outputExpression node variant port =
        (variant.expressionAt port).fill node port (g.resolved .templates hwf node)) ∧
      (∀ node variant, g.statementsOf node variant =
        variant.statements.map (Template.fill node "" (g.resolved .templates hwf node))) ∧
      (∀ node port, g.inputNotes node port = []) ∧
      (∀ node variant port, g.expressionNotes node variant port = []) ∧
      ∀ node variant, g.statementNotes node variant = []) := by
  have hwellFormed := h.wellFormed
  refine ⟨inputValue_eq_composeWithin g, fun compose node port result => ?_, fun hacyclic => ?_⟩
  · constructor
    · intro hresolves
      exact hresolves.eq_composeWithin (Nat.zero_add _)
    · rintro rfl
      exact resolves_composeWithin g compose node port
  · have hwf := wellFounded_feeds hwellFormed hacyclic
    have hcompose := composeWithin_eq_resolved hwellFormed hacyclic hwf
    have hvalue : g.inputValue = g.resolved .templates hwf :=
      (inputValue_eq_composeWithin g).trans (hcompose .templates)
    refine ⟨hwf, fun compose => ⟨hcompose compose, fun node port => ?_⟩, hvalue,
      fun node variant port => ?_, fun node variant => ?_, inputNotes_of_acyclic hwellFormed hacyclic,
      fun node variant port => fillNotes_of_acyclic hwellFormed hacyclic node _,
      fun node variant => ?_⟩
    · rw [← hcompose compose]
      exact resolves_of_acyclic hwellFormed hacyclic compose node port
    · rw [outputExpression, fill, hvalue]
    · refine List.map_congr_left fun template _ => ?_
      rw [fill, hvalue]
    · exact List.flatMap_eq_nil_iff.2 fun template _ =>
        fillNotes_of_acyclic hwellFormed hacyclic node template

end Graph

namespace Sample

/-- Two sums that feed each other. -/
def ring : Graph := (Graph.ofDocument Catalog.builtin
  { nodes := [⟨"x", "param.add", {}, .empty⟩, ⟨"y", "param.add", {}, .empty⟩]
    connections := [⟨"x", "result", "y", "a"⟩, ⟨"y", "result", "x", "a"⟩] }).graph

end Sample

namespace Graph

/-- The condition of the order nests through three nodes without being cut off.  Each of the two sums
is cut off after three connections. -/
theorem ring_resolved :
    Reachable Catalog.builtin Sample.trend ∧ ¬Sample.trend.Cyclic ∧
    (∃ hwf, Sample.trend.inputValue = Sample.trend.resolved .templates hwf) ∧
    (Sample.trend.nodes.map fun node => Sample.trend.inputValue node "condition").head? =
      some (some "(_indicator_dmi_x_dmi_adx[-1] > 70)") ∧
    Reachable Catalog.builtin Sample.ring ∧ Sample.ring.nodeCount = 2 ∧
    ∀ node ∈ Sample.ring.nodes, Sample.ring.inputNotes node "a" ≠ [] ∧
      Sample.ring.Resolves .templates (Sample.ring.nodeCount + 1) 0 node "a"
        (some "(((0 + 0) + 0) + 0)") := by
  have htrend : Reachable Catalog.builtin Sample.trend := .loaded (by decide +kernel)
  have hring : Reachable Catalog.builtin Sample.ring := .loaded (by decide +kernel)
  have horder : Sample.trend.hasCycle = false ∧
      (Sample.trend.nodes.map fun node => Sample.trend.inputValue node "condition").head? =
        some (some "(_indicator_dmi_x_dmi_adx[-1] > 70)") := by decide +kernel
  have hsums : Sample.ring.nodeCount = 2 ∧ ∀ node ∈ Sample.ring.nodes,
      Sample.ring.inputNotes node "a" ≠ [] ∧
        some "(((0 + 0) + 0) + 0)" = Sample.ring.inputValue node "a" := by decide +kernel
  have hacyclic : ¬Sample.trend.Cyclic := by
    rw [← hasCycle_iff htrend.wellFormed, horder.1]
    exact Bool.false_ne_true
  obtain ⟨-, -, hfree⟩ := resolution_bounded htrend
  obtain ⟨hvalue, hends, -⟩ := resolution_bounded hring
  obtain ⟨hwf, -, hresolved, -⟩ := hfree hacyclic
  refine ⟨htrend, hacyclic, ⟨hwf, hresolved⟩, horder.2, hring, hsums.1, fun node hnode => ?_⟩
  obtain ⟨hnoted, htext⟩ := hsums.2 node hnode
  refine ⟨hnoted, (hends _ _ _ _).2 ?_⟩
  rw [← hvalue]
  exact htext

end Graph

end Blueprint
