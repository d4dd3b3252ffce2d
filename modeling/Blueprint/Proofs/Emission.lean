import Blueprint.Proofs.ExecutionOrder
import Blueprint.Proofs.Text.Sorted
import Blueprint.Strategy.Compile

/-!
# What a strategy consists of

The walk that emits a strategy goes to the producers of a node before the node and skips what it
has marked.  Along an order of execution all producers of a node are marked when the walk gets to
it, so the walk is the plain one that emits the nodes of the order one after the other
(`Emitter.walkAll_eq`).  It does not matter how nodes emit, as long as each adds its statements at
the end and its import lines at their places, whatever was emitted before (`Emitter.Appends`).  The
templates of variants do (`Emitter.templates_appends`).

Main statement: a strategy consists of what its nodes emit on their own
(`Emitter.compile_eq_plainWalk`).
-/

namespace Blueprint

namespace Emission

variable (emission : Emission)

theorem foldl_addStatement (statements : List String) :
    statements.foldl addStatement emission =
      { emission with statements := emission.statements ++ statements } := by
  induction statements generalizing emission with
  | nil => simp
  | cons statement rest ih => rw [List.foldl_cons, ih]; simp [addStatement]

theorem foldl_addImport (lines : List String) :
    lines.foldl addImport emission = { emission with
      imports := lines.foldl (fun sorted line => Text.insertSorted line sorted)
        emission.imports } := by
  induction lines generalizing emission with
  | nil => rfl
  | cons line rest ih => rw [List.foldl_cons, ih]; rfl

theorem isMarked_iff {id : NodeId} : emission.isMarked id = true ↔ id ∈ emission.marked :=
  List.contains_iff_mem

end Emission

namespace Graph

variable {g : Graph} {id : NodeId}

theorem feeds_of_mem_producers {producer : NodeId} (h : producer ∈ g.producers id) :
    g.Feeds producer id := by
  rw [producers] at h
  split at h
  · cases h
  · obtain ⟨port, -, hport⟩ := List.mem_flatMap.1 h
    obtain ⟨c, hc, hsource⟩ := List.mem_map.1 (List.mem_filter.1 hport).1
    obtain ⟨hmem, htarget⟩ := List.mem_filter.1 hc
    have htarget : c.target = .input id port.name := by simpa using htarget
    exact ⟨c, hmem, hsource, by rw [htarget]; rfl⟩

end Graph

namespace Emitter

/-- The nodes of a graph add statements and import lines to the emission, the same ones whatever it
has already. -/
def Appends (emit : Emitter) (g : Graph) : Prop :=
  ∀ node ∈ g.nodes, ∀ variant, g.variantOf? node = some variant →
    ∃ statements lines : List String, ∀ emission, emit g variant node emission =
      statements.foldl Emission.addStatement (lines.foldl Emission.addImport emission)

theorem templates_appends (g : Graph) : templates.Appends g := fun node _ variant _ =>
  ⟨g.statementsOf node variant, variant.imports, fun _ => rfl⟩

variable {emit : Emitter} {catalog : Catalog} {g : Graph} {id : NodeId}

/-! ### What one node adds -/

namespace Appends

theorem visit (h : emit.Appends g) (id : NodeId) : ∃ statements lines : List String, ∀ emission,
    emit.visit g emission id = { emission with
      statements := emission.statements ++ statements
      imports := lines.foldl (fun sorted line => Text.insertSorted line sorted)
        emission.imports } := by
  cases hnode : g.node? id with
  | none => exact ⟨[], [], fun emission => by simp [Emitter.visit, hnode]⟩
  | some node =>
    cases hvariant : g.variantOf? node with
    | none => exact ⟨[], [], fun emission => by simp [Emitter.visit, hnode, hvariant]⟩
    | some variant =>
      obtain ⟨statements, lines, hemit⟩ := h node (Graph.node?_eq_some hnode).1 variant hvariant
      refine ⟨statements, lines, fun emission => ?_⟩
      simp only [Emitter.visit, hnode, hvariant, hemit, Emission.foldl_addImport,
        Emission.foldl_addStatement]

theorem statements_visit (h : emit.Appends g) (emission : Emission) :
    (emit.visit g emission id).statements =
      emission.statements ++ (emit.visit g {} id).statements := by
  obtain ⟨statements, lines, hvisit⟩ := h.visit id
  simp [hvisit]

theorem mem_imports_visit (h : emit.Appends g) {emission : Emission} {line : String} :
    line ∈ (emit.visit g emission id).imports ↔
      line ∈ emission.imports ∨ line ∈ (emit.visit g {} id).imports := by
  obtain ⟨statements, lines, hvisit⟩ := h.visit id
  simp [hvisit, Text.mem_foldl_insertSorted]

theorem pairwise_imports_visit (h : emit.Appends g) {emission : Emission}
    (hs : emission.imports.Pairwise (· < ·)) :
    (emit.visit g emission id).imports.Pairwise (· < ·) := by
  obtain ⟨statements, lines, hvisit⟩ := h.visit id
  rw [hvisit]
  exact Text.pairwise_foldl_insertSorted _ hs

theorem visit_with_marked (h : emit.Appends g) (emission : Emission) (marked : List NodeId) :
    emit.visit g { emission with marked } id = { emit.visit g emission id with marked } := by
  obtain ⟨statements, lines, hvisit⟩ := h.visit id
  simp [hvisit]

/-! ### What the nodes of a list add -/

theorem statements_foldl_visit (h : emit.Appends g) (ids : List NodeId) (emission : Emission) :
    (ids.foldl (emit.visit g) emission).statements =
      emission.statements ++ ids.flatMap fun id => (emit.visit g {} id).statements := by
  induction ids generalizing emission with
  | nil => simp
  | cons id rest ih =>
    rw [List.foldl_cons, ih, h.statements_visit, List.flatMap_cons, List.append_assoc]

theorem mem_imports_foldl_visit (h : emit.Appends g) {line : String} (ids : List NodeId)
    (emission : Emission) :
    line ∈ (ids.foldl (emit.visit g) emission).imports ↔
      line ∈ emission.imports ∨ ∃ id ∈ ids, line ∈ (emit.visit g {} id).imports := by
  induction ids generalizing emission with
  | nil => simp
  | cons id rest ih =>
    rw [List.foldl_cons, ih, h.mem_imports_visit, List.exists_mem_cons_iff, or_assoc]

theorem pairwise_imports_foldl_visit (h : emit.Appends g) (ids : List NodeId) {emission : Emission}
    (hs : emission.imports.Pairwise (· < ·)) :
    (ids.foldl (emit.visit g) emission).imports.Pairwise (· < ·) := by
  induction ids generalizing emission with
  | nil => exact hs
  | cons id rest ih => exact ih (h.pairwise_imports_visit hs)

theorem foldl_visit_with_marked (h : emit.Appends g) (ids : List NodeId) (emission : Emission)
    (marked : List NodeId) :
    ids.foldl (emit.visit g) { emission with marked } =
      { ids.foldl (emit.visit g) emission with marked } := by
  induction ids generalizing emission with
  | nil => rfl
  | cons id rest ih => rw [List.foldl_cons, h.visit_with_marked, ih, List.foldl_cons]

end Appends

/-! ### The walk -/

theorem walk_of_marked {emission : Emission} (hmarked : id ∈ emission.marked) (depth : Nat) :
    emit.walk g depth emission id = emission := by
  cases depth with
  | zero => rfl
  | succ depth => exact if_pos (emission.isMarked_iff.2 hmarked)

theorem foldl_walk_of_marked {emission : Emission} (depth : Nat) {ids : List NodeId}
    (hmarked : ∀ id ∈ ids, id ∈ emission.marked) :
    ids.foldl (emit.walk g depth) emission = emission := by
  induction ids with
  | nil => rfl
  | cons id rest ih =>
    rw [List.foldl_cons, walk_of_marked (hmarked id List.mem_cons_self)]
    exact ih fun id hid => hmarked id (List.mem_cons_of_mem _ hid)

/-- Where all producers are marked, the walk emits the node and nothing else. -/
theorem walk_of_producers_marked (h : emit.Appends g) {emission : Emission} (depth : Nat)
    (hid : id ∉ emission.marked) (hproducers : ∀ p ∈ g.producers id, p ∈ emission.marked) :
    emit.walk g (depth + 1) emission id =
      { emit.visit g emission id with marked := emission.marked ++ [id] } := by
  have hmark : emission.mark id = { emission with marked := emission.marked ++ [id] } :=
    if_neg fun h => hid (emission.isMarked_iff.1 h)
  have hwalk : emit.walk g (depth + 1) emission id =
      emit.visit g ((g.producers id).foldl (emit.walk g depth) (emission.mark id)) id :=
    if_neg fun h => hid (emission.isMarked_iff.1 h)
  rw [hwalk, hmark, foldl_walk_of_marked, h.visit_with_marked]
  exact fun p hp => List.mem_append_left _ (hproducers p hp)

/-- Along a list in which producers come first, a walk that has marked what precedes emits node
after node. -/
theorem foldl_walk (h : emit.Appends g) (depth : Nat) {before rest : List NodeId}
    {emission : Emission} (hmarked : emission.marked = before) (hnodup : (before ++ rest).Nodup)
    (hordered : ∀ done id todo, before ++ rest = done ++ id :: todo →
      ∀ p ∈ g.producers id, p ∈ done) :
    rest.foldl (emit.walk g (depth + 1)) emission =
      { rest.foldl (emit.visit g) emission with marked := before ++ rest } := by
  induction rest generalizing before emission with
  | nil => simp [← hmarked]
  | cons id rest ih =>
    -- Exactly the nodes in `before` are marked here, and the producers of `id` are among them.
    have hid : id ∉ emission.marked := by
      rw [hmarked]
      exact fun hmem => List.disjoint_of_nodup_append hnodup hmem List.mem_cons_self
    have hproducers : ∀ p ∈ g.producers id, p ∈ emission.marked := by
      rw [hmarked]
      exact hordered before id rest rfl
    have happend : before ++ id :: rest = before ++ [id] ++ rest := by simp
    rw [happend] at hnodup hordered ⊢
    rw [List.foldl_cons, walk_of_producers_marked h depth hid hproducers, hmarked,
      ih rfl hnodup hordered, h.foldl_visit_with_marked, List.foldl_cons]

/-- **The walk along the order of execution emits the nodes of the order one after the other.** -/
theorem walkAll_eq (hwf : g.WellFormed catalog) (h : emit.Appends g) :
    emit.walkAll g g.topologicalOrder.order =
      { g.topologicalOrder.order.foldl (emit.visit g) {} with
        marked := g.topologicalOrder.order } := by
  refine foldl_walk h g.nodeCount rfl (Graph.order_nodup hwf) fun done id todo horder p hp => ?_
  exact Graph.producer_before hwf horder (Graph.feeds_of_mem_producers hp)

/-! ### Compilation -/

section

variable {options : Options} {name : String} {strategy : Strategy} {order : List NodeId}

theorem of_compile (hwf : g.WellFormed catalog)
    (hcompile : emit.compile g options name = .ok strategy) :
    ¬g.Cyclic ∧ strategy = emit.strategyOf g options name g.topologicalOrder.order := by
  rw [compile] at hcompile
  split at hcompile
  · rename_i hvalid
    have hcyclic : ¬g.Cyclic := by
      intro hcyclic
      rw [Graph.validate, if_pos ((Graph.hasCycle_iff hwf).2 hcyclic)] at hvalid
      cases hvalid
    rw [Graph.executionOrder_eq_ok hwf hcyclic] at hcompile
    cases hcompile
    exact ⟨hcyclic, rfl⟩
  · cases hcompile

theorem compile_of_valid (hvalid : g.validate = []) (horder : g.executionOrder = .ok order) :
    emit.compile g options name = .ok (emit.strategyOf g options name order) := by
  rw [compile, hvalid, horder]

theorem exists_strategyOf_of_compile (h : emit.compile g options name = .ok strategy) :
    ∃ order, strategy = emit.strategyOf g options name order := by
  rw [compile] at h
  split at h
  · split at h
    · cases h
      exact ⟨_, rfl⟩
    · cases h
  · cases h

theorem statements_of_compile (hwf : g.WellFormed catalog) (h : emit.Appends g)
    (hcompile : emit.compile g options name = .ok strategy) :
    strategy.statements =
      g.topologicalOrder.order.flatMap fun id => (emit.visit g {} id).statements := by
  rw [(of_compile hwf hcompile).2, strategyOf, walkAll_eq hwf h]
  exact h.statements_foldl_visit _ _

theorem mem_imports_of_compile (hwf : g.WellFormed catalog) (h : emit.Appends g)
    (hcompile : emit.compile g options name = .ok strategy) {line : String} :
    line ∈ strategy.imports ↔
      line ≠ options.baseImport ∧ ∃ id ∈ g.ids, line ∈ (emit.visit g {} id).imports := by
  obtain ⟨hcyclic, rfl⟩ := of_compile hwf hcompile
  rw [strategyOf, List.mem_filter, walkAll_eq hwf h, h.mem_imports_foldl_visit, and_comm]
  simp [(Graph.order_perm hwf hcyclic).mem_iff]

theorem imports_increasing_of_compile (hwf : g.WellFormed catalog) (h : emit.Appends g)
    (hcompile : emit.compile g options name = .ok strategy) :
    strategy.imports.Pairwise (· < ·) := by
  rw [(of_compile hwf hcompile).2, strategyOf, walkAll_eq hwf h]
  exact (h.pairwise_imports_foldl_visit _ List.Pairwise.nil).filter _

end

/-- **A strategy consists of what its nodes emit on their own**, in whichever way they emit, if they
only append to what was emitted; and templates do.  The walk with its marks is the plain walk along
the order of execution, which has every node once.  The statements are those of the nodes in that
order.  The import lines are those of the nodes without that of the base class, and they increase
strictly by their bytes. -/
theorem compile_eq_plainWalk (h : Graph.Reachable catalog g) :
    templates.Appends g ∧ ∀ emit : Emitter, emit.Appends g → ∀ options name strategy,
      emit.compile g options name = .ok strategy →
      ∃ order, g.executionOrder = .ok order ∧ order.Perm g.ids ∧ order.Nodup ∧
        emit.walkAll g order = { order.foldl (emit.visit g) {} with marked := order } ∧
        strategy.statements = order.flatMap (fun id => (emit.visit g {} id).statements) ∧
        (strategy.imports.map Text.bytes).Pairwise (· < ·) ∧
        ∀ line, line ∈ strategy.imports ↔
          line ≠ options.baseImport ∧ ∃ id ∈ g.ids, line ∈ (emit.visit g {} id).imports := by
  have hwf := h.wellFormed
  refine ⟨templates_appends g, fun emit happends options name strategy hcompile => ?_⟩
  obtain ⟨hcyclic, -⟩ := of_compile hwf hcompile
  have hincreasing := imports_increasing_of_compile hwf happends hcompile
  exact ⟨g.topologicalOrder.order, Graph.executionOrder_eq_ok hwf hcyclic,
    Graph.order_perm hwf hcyclic, Graph.order_nodup hwf, walkAll_eq hwf happends,
    statements_of_compile hwf happends hcompile,
    List.pairwise_map.2 (hincreasing.imp Text.bytes_lt_bytes),
    fun line => mem_imports_of_compile hwf happends hcompile⟩

end Emitter

namespace Sample

/-- Nodes emit how many of the graph there are, and an import line of their own. -/
def census : Emitter := fun g _ node emission =>
  (emission.addStatement (node.id ++ " of " ++ Nat.repr g.nodeCount)).addImport
    ("import " ++ node.id)

end Sample

namespace Emitter

/-- A node that feeds all others emits once, its template or anything else. -/
theorem diamond_compiled :
    Graph.Reachable Sample.catalog Sample.diamond ∧
    (∃ strategy, Sample.diamond.compile { baseImport := "import base" } "Diamond" = .ok strategy ∧
      strategy.statements = ["_joint_s = join(, 0)", "_joint_a = join(, _joint_s)",
        "_joint_b = join(, _joint_s)", "_joint_d = join(_joint_a, _joint_s)"] ∧
      "import joint" ∈ strategy.imports ∧ "import base" ∉ strategy.imports) ∧
    Sample.census.Appends Sample.diamond ∧
    ∃ strategy, Sample.census.compile Sample.diamond { baseImport := "import b" } "Diamond" =
        .ok strategy ∧
      strategy.statements = ["s of 4", "a of 4", "b of 4", "d of 4"] ∧
      "import a" ∈ strategy.imports ∧ "import b" ∉ strategy.imports := by
  have h : Graph.Reachable Sample.catalog Sample.diamond := .loaded (by decide +kernel)
  have horder : Sample.diamond.executionOrder = .ok ["s", "a", "b", "d"] := by decide +kernel
  have hvalid : Sample.diamond.validate = [] := by decide +kernel
  have hcensus : Sample.census.Appends Sample.diamond := fun node _ variant _ =>
    ⟨[node.id ++ " of " ++ Nat.repr Sample.diamond.nodeCount], ["import " ++ node.id], fun _ => rfl⟩
  obtain ⟨happends, hplain⟩ := compile_eq_plainWalk h
  refine ⟨h, ?_, hcensus, ?_⟩
  · have hcompile : templates.compile Sample.diamond { baseImport := "import base" } "Diamond" =
        .ok _ := compile_of_valid hvalid horder
    obtain ⟨order, hok, -, -, -, hstatements, -, himports⟩ := hplain _ happends _ _ _ hcompile
    obtain rfl : order = ["s", "a", "b", "d"] := Except.ok.inj (hok.symm.trans horder)
    exact ⟨_, hcompile, hstatements.trans (by decide +kernel),
      (himports _).2 ⟨by decide, "d", by decide +kernel, by decide +kernel⟩,
      fun hmem => ((himports _).1 hmem).1 rfl⟩
  · have hcompile : Sample.census.compile Sample.diamond { baseImport := "import b" } "Diamond" =
        .ok _ := compile_of_valid hvalid horder
    obtain ⟨order, hok, -, -, -, hstatements, -, himports⟩ := hplain _ hcensus _ _ _ hcompile
    obtain rfl : order = ["s", "a", "b", "d"] := Except.ok.inj (hok.symm.trans horder)
    exact ⟨_, hcompile, hstatements.trans (by decide +kernel),
      (himports _).2 ⟨by decide, "a", by decide +kernel, by decide +kernel⟩,
      fun hmem => ((himports _).1 hmem).1 rfl⟩

end Emitter

/-! ### Templates -/

namespace Graph

variable {catalog : Catalog} {g : Graph} {options : Options} {name : String} {strategy : Strategy}
  {order : List NodeId}

theorem statements_strategyOf (options : Options) (name : String) (order : List NodeId) :
    (g.strategyOf options name order).statements = (g.emitAll order).statements := rfl

theorem parameters_strategyOf (options : Options) (name : String) (order : List NodeId) :
    (g.strategyOf options name order).parameters = g.parameterBlock := rfl

theorem of_compile (h : WellFormed catalog g) (hcompile : g.compile options name = .ok strategy) :
    ¬g.Cyclic ∧ strategy = g.strategyOf options name g.topologicalOrder.order :=
  Emitter.of_compile h hcompile

theorem compile_of_valid (hvalid : g.validate = []) (horder : g.executionOrder = .ok order) :
    g.compile options name = .ok (g.strategyOf options name order) :=
  Emitter.compile_of_valid hvalid horder

theorem exists_strategyOf_of_compile (h : g.compile options name = .ok strategy) :
    ∃ order, strategy = g.strategyOf options name order :=
  Emitter.exists_strategyOf_of_compile h

theorem statements_of_compile (h : WellFormed catalog g)
    (hcompile : g.compile options name = .ok strategy) :
    strategy.statements =
      g.topologicalOrder.order.flatMap fun id => (g.emitId {} id).statements :=
  Emitter.statements_of_compile h (Emitter.templates_appends g) hcompile

end Graph

end Blueprint
