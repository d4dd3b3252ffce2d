import Blueprint.Analysis.Order
import Blueprint.Proofs.Connectivity

/-!
# Correctness of the order of execution

The sweep runs nodes from a queue and counts, for each node, the connections into it whose producer
has not run yet.  Its invariant (`Sweep.Invariant`) ties the counts, with multiplicity, to the list
of nodes that have run: a count is the number of connections from outside that list
(`Graph.pending`), and the nodes with count zero are those that have run or are queued.

* `Graph.foldl_release` : releasing the connections of one node subtracts their number, without
  ever subtracting from zero, and queues each node whose count becomes zero once.
* `Sweep.Invariant.step` : running a node keeps the invariant.
* `Graph.sweep_finished` : after as many steps as there are nodes the queue is empty.
* `Graph.mem_order_iff` : the nodes that run are those that are not blocked by a cycle.
* `Graph.topologicalOrder_correct` : **all properties of the order together.**
-/

namespace Blueprint

namespace Graph

variable {catalog : Catalog} {g : Graph}

/-! ### Counting connections -/

/-- In a well-formed graph every connection is attached on both sides. -/
theorem WellFormed.attached_eq (h : WellFormed catalog g) : g.attached = g.connections := by
  refine List.filter_eq_self.2 fun c hc => ?_
  rw [hasNode_iff.2 (h.source_mem hc), hasNode_iff.2 (h.target_mem hc), Bool.and_self]

/-- The number of connections into a node from nodes that are not in `done`. -/
def pending (g : Graph) (done : List NodeId) (id : NodeId) : Nat :=
  g.attached.countP fun c => c.target.node == id && !done.contains c.source.node

theorem pending_nil (id : NodeId) : g.pending [] id = g.inDegree id := by
  simp [pending, inDegree, List.countP_eq_length_filter]

theorem WellFormed.pending_eq_zero_iff (h : WellFormed catalog g) {done : List NodeId}
    {id : NodeId} :
    g.pending done id = 0 ↔ ∀ c ∈ g.connections, c.target.node = id → c.source.node ∈ done := by
  simp [pending, h.attached_eq, List.countP_eq_zero]

theorem pending_append {done : List NodeId} {id : NodeId} (hid : id ∉ done) (x : NodeId) :
    g.pending done x = g.pending (done ++ [id]) x + (g.consumers id).count x := by
  simp only [pending, consumers, List.count_eq_countP, List.countP_map, List.countP_filter]
  induction g.attached with
  | nil => rfl
  | cons c cs ih =>
    simp only [List.countP_cons, ih]
    by_cases ht : c.target.node = x <;> by_cases hs : c.source.node = id <;>
      by_cases hd : c.source.node ∈ done <;> simp_all <;> omega

theorem mem_ids_of_mem_consumers {id x : NodeId} (h : x ∈ g.consumers id) : x ∈ g.ids := by
  obtain ⟨c, hc, rfl⟩ := List.mem_map.1 h
  have hends := (List.mem_filter.1 (List.mem_filter.1 hc).1).2
  exact hasNode_iff.1 (Bool.and_eq_true_iff.1 hends).2

/-- **Releasing a list of connections** subtracts their number from each count, and queues the
nodes whose count becomes zero, each once. -/
theorem foldl_release (base : NodeId → Nat) (released : List NodeId) (s : Sweep)
    (hwaiting : ∀ x, s.waiting x = base x + released.count x) :
    ∃ new, released.foldl Sweep.release s = ⟨base, s.queue ++ new, s.order⟩ ∧ new.Nodup ∧
      ∀ x, x ∈ new ↔ x ∈ released ∧ base x = 0 := by
  induction released generalizing s with
  | nil =>
    refine ⟨[], ?_, List.nodup_nil, by simp⟩
    have : s.waiting = base := funext fun x => by simpa using hwaiting x
    simp [← this]
  | cons a released ih =>
    have hleft : s.waiting a - 1 = base a + released.count a := by
      rw [hwaiting a, List.count_cons_self]; omega
    have hwaiting' : ∀ x, (s.release a).waiting x = base x + released.count x := by
      intro x
      simp only [Sweep.release]
      split_ifs with hx
      · rw [hx, hleft]
      · rw [hwaiting x, List.count_cons_of_ne (Ne.symm hx)]
    obtain ⟨new, hfold, hnodup, hnew⟩ := ih (s.release a) hwaiting'
    rw [List.foldl_cons, hfold]
    by_cases hzero : base a + released.count a = 0
    · have ha : a ∉ released := List.count_eq_zero.1 (by omega)
      refine ⟨a :: new, ?_, List.nodup_cons.2 ⟨fun h => ha ((hnew a).1 h).1, hnodup⟩, fun x => ?_⟩
      · simp [Sweep.release, hleft, hzero]
      · rw [List.mem_cons, List.mem_cons, hnew]
        constructor
        · rintro (rfl | ⟨hx, hb⟩)
          · exact ⟨.inl rfl, by omega⟩
          · exact ⟨.inr hx, hb⟩
        · rintro ⟨rfl | hx, hb⟩
          · exact .inl rfl
          · exact .inr ⟨hx, hb⟩
    · refine ⟨new, ?_, hnodup, fun x => ?_⟩
      · simp only [Sweep.release, hleft, if_neg hzero]
      · rw [hnew, List.mem_cons]
        constructor
        · exact fun ⟨hx, hb⟩ => ⟨.inr hx, hb⟩
        · rintro ⟨rfl | hx, hb⟩
          · exact ⟨List.count_pos_iff.1 (by omega), hb⟩
          · exact ⟨hx, hb⟩

end Graph

/-! ### The invariant of the sweep -/

/-- What holds of a sweep before and after every node that runs. -/
structure Sweep.Invariant (g : Graph) (s : Sweep) : Prop where
  /-- No node runs twice or is queued twice. -/
  nodup : (s.order ++ s.queue).Nodup
  /-- Only nodes of the graph run. -/
  known : ∀ id ∈ s.order ++ s.queue, id ∈ g.ids
  /-- A count is the number of connections from nodes that have not run. -/
  waiting : s.waiting = g.pending s.order
  /-- A node waits for nothing exactly if it has run or is queued. -/
  ready : ∀ id ∈ g.ids, g.pending s.order id = 0 ↔ id ∈ s.order ++ s.queue
  /-- What ran waited for nothing at that time. -/
  ordered : ∀ before id after, s.order = before ++ id :: after → g.pending before id = 0

namespace Sweep.Invariant

open Blueprint.Graph

variable {catalog : Catalog} {g : Graph} {s : Sweep}

theorem start (h : WellFormed catalog g) : Sweep.Invariant g g.sweepStart where
  nodup := by simpa [sweepStart] using h.ids_nodup.filter _
  known id hid := by
    rw [sweepStart, List.nil_append] at hid
    exact (List.mem_filter.1 hid).1
  waiting := funext fun id => (pending_nil id).symm
  ready id hid := by simp [sweepStart, pending_nil, hid]
  ordered before id after horder := by simp [sweepStart] at horder

theorem notMem_order (h : Sweep.Invariant g s) {id : NodeId} {queue : List NodeId}
    (hqueue : s.queue = id :: queue) : id ∉ s.order := by
  intro hmem
  have hnodup := h.nodup
  rw [hqueue] at hnodup
  exact List.disjoint_of_nodup_append hnodup hmem List.mem_cons_self

theorem step_eq (h : Sweep.Invariant g s) {id : NodeId} {queue : List NodeId}
    (hqueue : s.queue = id :: queue) :
    ∃ new, g.sweepStep s id queue = ⟨g.pending (s.order ++ [id]), queue ++ new, s.order ++ [id]⟩ ∧
      new.Nodup ∧ ∀ x, x ∈ new ↔ x ∈ g.consumers id ∧ g.pending (s.order ++ [id]) x = 0 := by
  refine foldl_release (g.pending (s.order ++ [id])) (g.consumers id)
    { s with queue, order := s.order ++ [id] } fun x => ?_
  rw [h.waiting]
  exact pending_append (h.notMem_order hqueue) x

/-- **Running a node keeps the invariant.** -/
theorem step (h : Sweep.Invariant g s) {id : NodeId} {queue : List NodeId}
    (hqueue : s.queue = id :: queue) : Sweep.Invariant g (g.sweepStep s id queue) := by
  obtain ⟨new, heq, hnodup, hnew⟩ := h.step_eq hqueue
  have hold : s.order ++ s.queue = (s.order ++ [id]) ++ queue := by simp [hqueue]
  have hpending := pending_append (g := g) (h.notMem_order hqueue)
  have hknown : ∀ x ∈ new, x ∈ g.ids := fun x hx => mem_ids_of_mem_consumers ((hnew x).1 hx).1
  rw [heq]
  constructor
  · -- A node that is queued now was waiting before, so it is not among the old ones.
    have hdisjoint : List.Disjoint ((s.order ++ [id]) ++ queue) new := by
      intro x hxold hxnew
      have hcount := List.count_pos_iff.2 ((hnew x).1 hxnew).1
      have hzero := (h.ready x (hknown x hxnew)).2 (hold ▸ hxold)
      have := hpending x
      omega
    rw [← List.append_assoc]
    exact List.nodup_append'.2 ⟨hold ▸ h.nodup, hnodup, hdisjoint⟩
  · intro x hx
    rw [← List.append_assoc, ← hold] at hx
    rcases List.mem_append.1 hx with hx | hx
    · exact h.known x hx
    · exact hknown x hx
  · rfl
  · intro x hx
    change g.pending (s.order ++ [id]) x = 0 ↔ x ∈ (s.order ++ [id]) ++ (queue ++ new)
    rw [← List.append_assoc, ← hold, List.mem_append, ← h.ready x hx, hnew]
    have hcount : x ∈ g.consumers id ↔ (g.consumers id).count x ≠ 0 := by
      rw [← List.count_pos_iff]; omega
    rw [hcount]
    have := hpending x
    omega
  · intro before x after horder
    rcases List.eq_nil_or_concat after with rfl | ⟨after, last, rfl⟩
    · -- Here `x` is the node that has just run.
      obtain ⟨rfl, hx⟩ := List.append_inj' horder rfl
      obtain rfl : id = x := by simpa using hx
      exact (h.ready id (h.known id (by simp [hqueue]))).2 (by simp [hqueue])
    · have hsplit : s.order ++ [id] = (before ++ x :: after) ++ [last] := by simpa using horder
      exact h.ordered before x after (List.append_inj' hsplit rfl).1

theorem sweepFrom (h : Sweep.Invariant g s) (steps : Nat) :
    Sweep.Invariant g (g.sweepFrom steps s) := by
  induction steps generalizing s with
  | zero => exact h
  | succ steps ih =>
    rw [Graph.sweepFrom]
    split
    · exact h
    · exact ih (h.step ‹_›)

end Sweep.Invariant

namespace Graph

variable {catalog : Catalog} {g : Graph}

/-! ### The end of the sweep -/

theorem order_foldl_release (released : List NodeId) (s : Sweep) :
    (released.foldl Sweep.release s).order = s.order := by
  induction released generalizing s with
  | nil => rfl
  | cons a released ih => exact ih (s.release a)

/-- The sweep stops early, or it has run one node in each step. -/
theorem sweepFrom_progress (g : Graph) (steps : Nat) (s : Sweep) :
    (g.sweepFrom steps s).queue = [] ∨
      (g.sweepFrom steps s).order.length = s.order.length + steps := by
  induction steps generalizing s with
  | zero => exact .inr rfl
  | succ steps ih =>
    rw [sweepFrom]
    split
    case h_1 hqueue => exact .inl hqueue
    case h_2 id queue hqueue =>
      refine (ih _).imp_right fun hlength => ?_
      rw [hlength, sweepStep, order_foldl_release, List.length_append, List.length_singleton]
      omega

theorem sweepFrom_of_queue_nil {s : Sweep} (h : s.queue = []) (steps : Nat) :
    g.sweepFrom steps s = s := by
  cases steps with
  | zero => rfl
  | succ steps => rw [sweepFrom, h]

theorem sweepFrom_add (g : Graph) (m n : Nat) (s : Sweep) :
    g.sweepFrom (m + n) s = g.sweepFrom n (g.sweepFrom m s) := by
  induction m generalizing s with
  | zero => rw [Nat.zero_add]; rfl
  | succ m ih =>
    rw [Nat.add_right_comm, sweepFrom]
    conv_rhs => rw [sweepFrom]
    split
    case h_1 hqueue => exact (sweepFrom_of_queue_nil hqueue n).symm
    case h_2 id queue hqueue => exact ih _

/-- **As many steps as there are nodes empty the queue.** -/
theorem sweep_finished (h : WellFormed catalog g) :
    (g.sweepFrom g.nodeCount g.sweepStart).queue = [] := by
  rcases sweepFrom_progress g g.nodeCount g.sweepStart with hnil | hlength
  · exact hnil
  · have hinv := (Sweep.Invariant.start h).sweepFrom g.nodeCount
    have hle := (hinv.nodup.subperm hinv.known).length_le
    rw [List.length_append, hlength] at hle
    have hids : g.ids.length = g.nodeCount := List.length_map ..
    exact List.length_eq_zero_iff.1 (by omega)

/-! ### Which nodes run, and in which order -/

theorem finalInvariant (h : WellFormed catalog g) :
    Sweep.Invariant g (g.sweepFrom g.nodeCount g.sweepStart) :=
  (Sweep.Invariant.start h).sweepFrom g.nodeCount

theorem order_nodup (h : WellFormed catalog g) : g.topologicalOrder.order.Nodup :=
  (List.nodup_append.1 (finalInvariant h).nodup).1

theorem mem_ids_of_mem_order (h : WellFormed catalog g) {id : NodeId}
    (hid : id ∈ g.topologicalOrder.order) : id ∈ g.ids :=
  (finalInvariant h).known id (List.mem_append_left _ hid)

/-- A node runs exactly if all nodes that feed it run. -/
theorem mem_order_iff_fed (h : WellFormed catalog g) {id : NodeId} (hid : id ∈ g.ids) :
    id ∈ g.topologicalOrder.order ↔
      ∀ c ∈ g.connections, c.target.node = id → c.source.node ∈ g.topologicalOrder.order := by
  have hready := (finalInvariant h).ready id hid
  rw [sweep_finished h, List.append_nil, h.pending_eq_zero_iff] at hready
  exact hready.symm

theorem producer_before (h : WellFormed catalog g) {before after : List NodeId} {id : NodeId}
    (horder : g.topologicalOrder.order = before ++ id :: after) {u : NodeId}
    (hfeeds : g.Feeds u id) : u ∈ before := by
  obtain ⟨c, hc, rfl, htarget⟩ := hfeeds
  exact h.pending_eq_zero_iff.1 ((finalInvariant h).ordered before id after horder) c hc htarget

theorem idxOf_lt_of_feeds (h : WellFormed catalog g) {u v : NodeId} (hfeeds : g.Feeds u v)
    (hv : v ∈ g.topologicalOrder.order) :
    u ∈ g.topologicalOrder.order ∧
      g.topologicalOrder.order.idxOf u < g.topologicalOrder.order.idxOf v := by
  obtain ⟨before, after, horder⟩ := List.append_of_mem hv
  have hu := producer_before h horder hfeeds
  have hnodup := order_nodup h
  rw [horder] at hnodup ⊢
  have hvb : v ∉ before := fun hmem => List.disjoint_of_nodup_append hnodup hmem List.mem_cons_self
  refine ⟨List.mem_append_left _ hu, ?_⟩
  rw [List.idxOf_append_of_mem hu, List.idxOf_append_of_notMem hvb, List.idxOf_cons_self]
  exact Nat.lt_of_lt_of_le (List.idxOf_lt_length_of_mem hu) (Nat.le_add_right _ _)

theorem upstream_before (h : WellFormed catalog g) {before after : List NodeId} {u id : NodeId}
    (horder : g.topologicalOrder.order = before ++ id :: after)
    (hpath : Relation.TransGen g.Feeds u id) : u ∈ before := by
  induction hpath generalizing before after with
  | single hfeeds => exact producer_before h horder hfeeds
  | @tail v w _ hfeeds ih =>
    obtain ⟨front, back, rfl⟩ := List.append_of_mem (producer_before h horder hfeeds)
    rw [List.append_assoc, List.cons_append] at horder
    exact List.mem_append_left _ (ih horder)

/-- **The nodes that run are those that no cycle blocks.** -/
theorem mem_order_iff (h : WellFormed catalog g) {id : NodeId} :
    id ∈ g.topologicalOrder.order ↔ id ∈ g.ids ∧ ¬g.Blocked id := by
  constructor
  · refine fun hid => ⟨mem_ids_of_mem_order h hid, ?_⟩
    rintro ⟨start, hcycle, hpath⟩
    have hstart : start ∈ g.topologicalOrder.order := by
      rcases Relation.reflTransGen_iff_eq_or_transGen.1 hpath with heq | hpath
      · exact heq ▸ hid
      · obtain ⟨before, after, horder⟩ := List.append_of_mem hid
        rw [horder]
        exact List.mem_append_left _ (upstream_before h horder hpath)
    obtain ⟨before, after, horder⟩ := List.append_of_mem hstart
    have hnodup := order_nodup h
    rw [horder] at hnodup
    exact List.disjoint_of_nodup_append hnodup (upstream_before h horder hcycle)
      List.mem_cons_self
  · rintro ⟨hid, hblocked⟩
    by_contra hmem
    -- The nodes that do not run feed each other.
    refine hblocked (blocked_of_forall_fed (g.ids.filter (· ∉ g.topologicalOrder.order))
      (fun v hv => ?_) (List.mem_filter.2 ⟨hid, by simpa using hmem⟩))
    obtain ⟨hvids, hv⟩ := List.mem_filter.1 hv
    have hv : v ∉ g.topologicalOrder.order := by simpa using hv
    rw [mem_order_iff_fed h hvids] at hv
    push Not at hv
    obtain ⟨c, hc, htarget, hsource⟩ := hv
    exact ⟨c.source.node, List.mem_filter.2 ⟨h.source_mem hc, by simpa using hsource⟩,
      c, hc, rfl, htarget⟩

theorem Blocked.cyclic {id : NodeId} (h : g.Blocked id) : g.Cyclic :=
  let ⟨start, hcycle, _⟩ := h
  ⟨start, hcycle⟩

theorem order_perm (h : WellFormed catalog g) (hcyclic : ¬g.Cyclic) :
    g.topologicalOrder.order.Perm g.ids :=
  (List.perm_ext_iff_of_nodup (order_nodup h) h.ids_nodup).2 fun _ =>
    (mem_order_iff h).trans (and_iff_left fun hb => hcyclic hb.cyclic)

theorem mem_order (h : WellFormed catalog g) (hcyclic : ¬g.Cyclic) {node : Node}
    (hnode : node ∈ g.nodes) : node.id ∈ g.topologicalOrder.order :=
  (order_perm h hcyclic).mem_iff.2 (List.mem_map.2 ⟨node, hnode, rfl⟩)

theorem idxOf_lt_of_acyclic (h : WellFormed catalog g) (hacyclic : ¬g.Cyclic) {u v : NodeId}
    (hfeeds : g.Feeds u v) :
    g.topologicalOrder.order.idxOf u < g.topologicalOrder.order.idxOf v := by
  have hmem : v ∈ g.topologicalOrder.order := by
    obtain ⟨c, hc, -, rfl⟩ := hfeeds
    exact (order_perm h hacyclic).mem_iff.2 (h.target_mem hc)
  exact (idxOf_lt_of_feeds h hfeeds hmem).2

/-- **Without cycles, going back along connections comes to an end.** -/
theorem wellFounded_feeds (h : WellFormed catalog g) (hacyclic : ¬g.Cyclic) :
    WellFounded g.Feeds :=
  Subrelation.wf (idxOf_lt_of_acyclic h hacyclic)
    (InvImage.wf (g.topologicalOrder.order.idxOf ·) Nat.lt_wfRel.wf)

theorem hasCycle_iff (h : WellFormed catalog g) : g.hasCycle = true ↔ g.Cyclic := by
  have hids : g.ids.length = g.nodeCount := List.length_map ..
  have hlength : g.hasCycle = true ↔ g.topologicalOrder.order.length < g.nodeCount :=
    decide_eq_true_iff
  rw [hlength, ← hids]
  constructor
  · intro hlt
    by_contra hcyclic
    exact absurd (order_perm h hcyclic).length_eq (Nat.ne_of_lt hlt)
  · rintro ⟨id, hcycle⟩
    -- A node on a cycle does not run, so the order misses a node of the graph.
    have hid : id ∉ g.topologicalOrder.order := fun hmem =>
      ((mem_order_iff h).1 hmem).2 ⟨id, hcycle, .refl⟩
    have hsub : id :: g.topologicalOrder.order ⊆ g.ids := by
      intro x hx
      rcases List.mem_cons.1 hx with rfl | hx
      · exact h.mem_of_path hcycle
      · exact mem_ids_of_mem_order h hx
    exact ((List.nodup_cons.2 ⟨hid, order_nodup h⟩).subperm hsub).length_le

theorem executionOrder_eq_ok (h : WellFormed catalog g) (hcyclic : ¬g.Cyclic) :
    g.executionOrder = .ok g.topologicalOrder.order := by
  rw [executionOrder]
  exact if_neg fun hc => hcyclic ((hasCycle_iff h).1 hc)

theorem executionOrder_eq_error (h : WellFormed catalog g) (hcyclic : g.Cyclic) :
    g.executionOrder = .error ⟨g.ids.filter fun id => !g.topologicalOrder.order.contains id⟩ := by
  rw [executionOrder]
  exact if_pos ((hasCycle_iff h).2 hcyclic)

/-- While a node releases its connections, no count is zero when it is lowered. -/
theorem waiting_pos (h : WellFormed catalog g) (steps : Nat) {id next : NodeId}
    {queue released rest : List NodeId}
    (hqueue : (g.sweepFrom steps g.sweepStart).queue = id :: queue)
    (hconsumers : g.consumers id = released ++ next :: rest) :
    0 < (released.foldl Sweep.release { g.sweepFrom steps g.sweepStart with
      queue, order := (g.sweepFrom steps g.sweepStart).order ++ [id] }).waiting next := by
  have hinv := (Sweep.Invariant.start h).sweepFrom steps
  generalize g.sweepFrom steps g.sweepStart = s at hqueue hinv ⊢
  obtain ⟨new, hfold, -⟩ := foldl_release
    (fun x => g.pending (s.order ++ [id]) x + (next :: rest).count x) released
    { s with queue, order := s.order ++ [id] } fun x => by
      rw [hinv.waiting, pending_append (hinv.notMem_order hqueue), hconsumers, List.count_append]
      omega
  rw [hfold]
  have hcount : 0 < (next :: rest).count next := List.count_pos_iff.2 List.mem_cons_self
  exact Nat.add_pos_right _ hcount

/-- **The order of execution is correct on every reachable graph, cyclic or not.**  The sweep ends
by itself and never lowers a count of zero.  No node runs twice, and those that run are exactly the
ones that are neither on a cycle nor behind one.  What feeds a node that runs has run before it.  So
a cycle is reported exactly if there is one; without a cycle all nodes run, and otherwise the error
lists the others in insertion order. -/
theorem topologicalOrder_correct (h : Reachable catalog g) :
    ((g.sweepFrom g.nodeCount g.sweepStart).queue = [] ∧ ∀ steps, g.nodeCount ≤ steps →
      g.sweepFrom steps g.sweepStart = g.sweepFrom g.nodeCount g.sweepStart) ∧
    (∀ steps id queue released next rest,
      (g.sweepFrom steps g.sweepStart).queue = id :: queue →
      g.consumers id = released ++ next :: rest →
      0 < (released.foldl Sweep.release { g.sweepFrom steps g.sweepStart with
        queue, order := (g.sweepFrom steps g.sweepStart).order ++ [id] }).waiting next) ∧
    g.topologicalOrder.order.Nodup ∧
    (∀ id, id ∈ g.topologicalOrder.order ↔ id ∈ g.ids ∧
      ¬∃ start, Relation.TransGen g.Feeds start start ∧ Relation.ReflTransGen g.Feeds start id) ∧
    (∀ c ∈ g.connections, c.target.node ∈ g.topologicalOrder.order →
      c.source.node ∈ g.topologicalOrder.order ∧
        g.topologicalOrder.order.idxOf c.source.node <
          g.topologicalOrder.order.idxOf c.target.node) ∧
    (g.hasCycle = true ↔ ∃ id, Relation.TransGen g.Feeds id id) ∧
    ((¬∃ id, Relation.TransGen g.Feeds id id) → g.topologicalOrder.order.Perm g.ids ∧
      g.executionOrder = .ok g.topologicalOrder.order) ∧
    ((∃ id, Relation.TransGen g.Feeds id id) → g.executionOrder =
      .error ⟨g.ids.filter fun id => !g.topologicalOrder.order.contains id⟩) := by
  have hwf := h.wellFormed
  refine ⟨⟨sweep_finished hwf, fun steps hsteps => ?_⟩,
    fun steps id queue released next rest hqueue hconsumers =>
      waiting_pos hwf steps hqueue hconsumers,
    order_nodup hwf, fun id => mem_order_iff hwf,
    fun c hc htarget => idxOf_lt_of_feeds hwf ⟨c, hc, rfl, rfl⟩ htarget, hasCycle_iff hwf,
    fun hcyclic => ⟨order_perm hwf hcyclic, executionOrder_eq_ok hwf hcyclic⟩,
    executionOrder_eq_error hwf⟩
  obtain ⟨extra, rfl⟩ := Nat.exists_eq_add_of_le hsteps
  rw [sweepFrom_add, sweepFrom_of_queue_nil (sweep_finished hwf)]

/-- Only the node before the cycle runs. -/
theorem knot_order :
    Reachable Sample.catalog Sample.knot ∧ Sample.knot.topologicalOrder.order = ["s"] ∧
    (∃ id, Relation.TransGen Sample.knot.Feeds id id) ∧
    Sample.knot.executionOrder = .error ⟨["a", "b", "d"]⟩ := by
  have h : Reachable Sample.catalog Sample.knot := .loaded (by decide +kernel)
  obtain ⟨_, _, _, _, _, hcycle, _, herror⟩ := topologicalOrder_correct h
  have hcyclic := hcycle.1 (by decide +kernel)
  exact ⟨h, by decide +kernel, hcyclic, (herror hcyclic).trans (by decide +kernel)⟩

end Graph

end Blueprint
