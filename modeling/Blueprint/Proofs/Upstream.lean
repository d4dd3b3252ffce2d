import Blueprint.Analysis.Order
import Blueprint.Proofs.Connecting
import Blueprint.Proofs.Emission

/-!
# Upstream of a node

The dependencies of a node are found by a walk against the connections that visits the producers of
a node one after the other, each followed at once by its own producers, and skips what it has seen.
The walk as such has no bound on its depth: `Graph.Explores` says what it does from start to end, so
it relates only walks that come to an end.  Every node that is visited was not seen before, so the
walk ends within the depth that `Graph.dependencies` allows (`Graph.explores_explore`).

What a walk finds is closed against the connections (`Explores.closed`), since each node it visits is
followed by all its producers, seen or not.  No path has to be kept free of seen nodes for this.

Main statements:

* `Graph.dependencies_correct` : the dependencies of a node are the other nodes from which a path
  leads to it, each once.
* `Graph.hasCycle_connect_iff` : connecting an output to an input of a graph without cycles closes a
  cycle exactly if the node of the input is a dependency of the node of the output.
-/

namespace Blueprint

namespace Graph

variable {catalog : Catalog} {g : Graph} {id u v : NodeId} {pending seen found : List NodeId}

/-! ### Producers -/

theorem mem_ids_of_mem_producers (h : u ∈ g.producers id) : u ∈ g.ids := by
  unfold producers at h
  split at h
  · cases h
  · obtain ⟨port, -, hport⟩ := List.mem_flatMap.1 h
    exact hasNode_iff.1 (List.mem_filter.1 hport).2

/-- **The producers of a node are the nodes that feed it.**  Each connection into a node arrives at
one of the inputs that the node declares, so going through these misses none. -/
theorem WellFormed.mem_producers_iff (h : WellFormed catalog g) :
    u ∈ g.producers id ↔ g.Feeds u id := by
  refine ⟨feeds_of_mem_producers, ?_⟩
  rintro ⟨c, hc, rfl, rfl⟩
  obtain ⟨a, b, hjoin⟩ := h.joined c hc
  obtain ⟨node, hnode, hport⟩ := Option.bind_eq_some_iff.1 hjoin.target_port
  rw [hjoin.target_input, Node.port?] at hport
  have hname : b.name = c.target.port := by simpa using List.find?_some hport
  have htarget : c.target = .input c.target.node b.name := by
    rw [hname, PortRef.input, ← hjoin.target_input]
  have hin : c ∈ g.incoming (.input c.target.node b.name) := by
    rw [← htarget]
    exact List.mem_filter.2 ⟨hc, beq_self_eq_true _⟩
  unfold producers
  rw [hnode]
  exact List.mem_flatMap.2 ⟨b, List.mem_of_find?_eq_some hport, List.mem_filter.2
    ⟨List.mem_map.2 ⟨c, hin, rfl⟩, hasNode_iff.2 (h.source_mem hc)⟩⟩

/-! ### The walk without a bound -/

/-- A walk that visits the nodes of the first list, having seen the second, ends with having seen
the third. -/
inductive Explores (g : Graph) : List NodeId → List NodeId → List NodeId → Prop where
  /-- There is nothing to visit. -/
  | done (seen : List NodeId) : Explores g [] seen seen
  /-- A node that was seen is skipped. -/
  | skip {id : NodeId} {rest seen found : List NodeId} (hseen : id ∈ seen)
    (hrest : Explores g rest seen found) : Explores g (id :: rest) seen found
  /-- After a new node its producers are visited, and then the other nodes. -/
  | visit {id : NodeId} {rest seen above found : List NodeId} (hnew : id ∉ seen)
    (habove : Explores g (g.producers id) (seen ++ [id]) above)
    (hrest : Explores g rest above found) : Explores g (id :: rest) seen found

namespace Explores

/-- A walk keeps what it has seen and adds at the end. -/
theorem exists_append (h : g.Explores pending seen found) : ∃ new, found = seen ++ new := by
  induction h with
  | done seen => exact ⟨[], by simp⟩
  | skip _ _ ih => exact ih
  | @visit id rest seen above found _ _ _ ihabove ihrest =>
    obtain ⟨first, rfl⟩ := ihabove
    obtain ⟨second, rfl⟩ := ihrest
    exact ⟨id :: first ++ second, by simp⟩

theorem mem_of_mem_seen (h : g.Explores pending seen found) (hu : u ∈ seen) : u ∈ found := by
  obtain ⟨new, rfl⟩ := h.exists_append
  exact List.mem_append_left _ hu

theorem nodup (h : g.Explores pending seen found) (hseen : seen.Nodup) : found.Nodup := by
  induction h with
  | done _ => exact hseen
  | skip _ _ ih => exact ih hseen
  | visit hnew _ _ ihabove ihrest =>
    exact ihrest (ihabove (List.nodup_append'.2 ⟨hseen, List.nodup_singleton _, by simpa using hnew⟩))

theorem unique (h : g.Explores pending seen found) {other : List NodeId}
    (hother : g.Explores pending seen other) : found = other := by
  induction h generalizing other with
  | done _ =>
    cases hother
    rfl
  | skip hseen _ ih =>
    cases hother with
    | skip _ hrest => exact ih hrest
    | visit hnew _ _ => exact absurd hseen hnew
  | visit hnew _ _ ihabove ihrest =>
    cases hother with
    | skip hseen _ => exact absurd hseen hnew
    | visit _ habove hrest =>
      obtain rfl := ihabove habove
      exact ihrest hrest

/-- What is found was seen before, or a path leads from it to one of the nodes to visit. -/
theorem sound (h : g.Explores pending seen found) (hu : u ∈ found) :
    u ∈ seen ∨ ∃ v ∈ pending, Relation.ReflTransGen g.Feeds u v := by
  induction h with
  | done _ => exact .inl hu
  | skip _ _ ih =>
    refine (ih hu).imp_right ?_
    rintro ⟨v, hv, hpath⟩
    exact ⟨v, List.mem_cons_of_mem _ hv, hpath⟩
  | @visit id rest seen above found _ _ _ ihabove ihrest =>
    rcases ihrest hu with habove | ⟨v, hv, hpath⟩
    · rcases ihabove habove with hseen | ⟨v, hv, hpath⟩
      · rcases List.mem_append.1 hseen with hold | hid
        · exact .inl hold
        · rw [List.mem_singleton.1 hid]
          exact .inr ⟨id, List.mem_cons_self, .refl⟩
      · exact .inr ⟨id, List.mem_cons_self, hpath.tail (feeds_of_mem_producers hv)⟩
    · exact .inr ⟨v, List.mem_cons_of_mem _ hv, hpath⟩

/-- **A walk finds all that it has to visit, and with each new node all its producers.** -/
theorem closed (h : g.Explores pending seen found) :
    (∀ u ∈ pending, u ∈ found) ∧
      ∀ v ∈ found, v ∉ seen → ∀ u ∈ g.producers v, u ∈ found := by
  induction h with
  | done _ => exact ⟨by simp, fun v hv hnew => absurd hv hnew⟩
  | skip hseen hrest ih =>
    exact ⟨List.forall_mem_cons.2 ⟨hrest.mem_of_mem_seen hseen, ih.1⟩, ih.2⟩
  | @visit id rest seen above found _ habove hrest ihabove ihrest =>
    have hid : id ∈ above := habove.mem_of_mem_seen (by simp)
    refine ⟨List.forall_mem_cons.2 ⟨hrest.mem_of_mem_seen hid, ihrest.1⟩, ?_⟩
    intro v hv hnew u hu
    by_cases hvabove : v ∈ above
    · -- The node was found above `id`, or it is `id`; its producers were found then.
      refine hrest.mem_of_mem_seen ?_
      by_cases hvid : v = id
      · exact ihabove.1 u (hvid ▸ hu)
      · exact ihabove.2 v hvabove (by simp [hnew, hvid]) u hu
    · exact ihrest.2 v hv hvabove u hu

end Explores

/-! ### The walk within a bound -/

/-- The nodes that were not seen. -/
def unseen (g : Graph) (seen : List NodeId) : List NodeId := g.ids.filter (· ∉ seen)

theorem length_unseen_append_le (seen new : List NodeId) :
    (g.unseen (seen ++ new)).length ≤ (g.unseen seen).length := by
  refine (List.monotone_filter_right g.ids ?_).length_le
  intro u hu
  simp only [List.mem_append, not_or, decide_eq_true_eq] at hu ⊢
  exact hu.1

theorem length_unseen_visit_lt (hid : id ∈ g.ids) (hnew : id ∉ seen) :
    (g.unseen (seen ++ [id])).length < (g.unseen seen).length := by
  have hsplit : g.unseen (seen ++ [id]) = (g.unseen seen).filter (· ≠ id) := by
    simp only [unseen, List.filter_filter]
    refine List.filter_congr fun u _ => ?_
    simp [not_or, and_comm]
  rw [hsplit]
  refine List.length_filter_lt_length_iff_exists.2 ⟨id, ?_, by simp⟩
  exact List.mem_filter.2 ⟨hid, by simpa using hnew⟩

/-- **A walk comes to an end within a depth that is greater than the number of nodes not seen.**
The induction is on the depth; each producer that is visited leaves one node less to be seen. -/
theorem explores_explore (depth : Nat) (id : NodeId) (seen : List NodeId)
    (hdepth : (g.unseen seen).length < depth) :
    g.Explores (g.producers id) seen (g.explore depth id seen) := by
  induction depth generalizing id seen with
  | zero => exact absurd hdepth (Nat.not_lt_zero _)
  | succ depth ih =>
    unfold explore
    have hknown : ∀ u ∈ g.producers id, u ∈ g.ids := fun u hu => mem_ids_of_mem_producers hu
    generalize g.producers id = pending at hknown ⊢
    induction pending generalizing seen with
    | nil => exact .done seen
    | cons next rest ihrest =>
      obtain ⟨hnext, hrest⟩ := List.forall_mem_cons.1 hknown
      rw [List.foldl_cons]
      by_cases hseen : next ∈ seen
      · rw [if_pos (List.contains_iff_mem.2 hseen)]
        exact .skip hseen (ihrest seen hdepth hrest)
      · rw [if_neg fun h => hseen (List.contains_iff_mem.1 h)]
        have hless := length_unseen_visit_lt hnext hseen
        have habove := ih next (seen ++ [next]) (by omega)
        refine .visit hseen habove (ihrest _ ?_ hrest)
        obtain ⟨new, hnew⟩ := habove.exists_append
        have hle := length_unseen_append_le (g := g) (seen ++ [next]) new
        rw [← hnew] at hle
        omega

theorem explores_explore_self (id : NodeId) {depth : Nat} (hdepth : g.nodeCount < depth) :
    g.Explores (g.producers id) [id] (g.explore depth id [id]) := by
  refine explores_explore depth id [id] ?_
  have hle : (g.unseen [id]).length ≤ g.ids.length := List.length_filter_le ..
  have hids : g.ids.length = g.nodeCount := List.length_map ..
  omega

/-- **The dependencies of a node are what the walk without a bound finds.** -/
theorem explores_dependencies (g : Graph) (id : NodeId) :
    g.Explores (g.producers id) [id] (id :: g.dependencies id) := by
  have h := explores_explore_self (g := g) id (Nat.lt_succ_self _)
  obtain ⟨new, hnew⟩ := h.exists_append
  have hdrop : g.dependencies id = new := by rw [dependencies, hnew]; rfl
  rw [hdrop]
  rw [hnew] at h
  exact h

theorem nodup_cons_dependencies (g : Graph) (id : NodeId) : (id :: g.dependencies id).Nodup :=
  (explores_dependencies g id).nodup (List.nodup_singleton id)

/-- **The dependencies of a node are the other nodes from which a path leads to it.** -/
theorem WellFormed.mem_dependencies_iff (h : WellFormed catalog g) :
    u ∈ g.dependencies id ↔ u ≠ id ∧ Relation.TransGen g.Feeds u id := by
  have hwalk := explores_dependencies g id
  constructor
  · intro hu
    have hne : u ≠ id := by
      rintro rfl
      exact (List.nodup_cons.1 (nodup_cons_dependencies g u)).1 hu
    rcases hwalk.sound (List.mem_cons_of_mem _ hu) with hid | ⟨v, hv, hpath⟩
    · exact absurd (List.mem_singleton.1 hid) hne
    · exact ⟨hne, .tail' hpath (feeds_of_mem_producers hv)⟩
  · rintro ⟨hne, hpath⟩
    obtain ⟨hproducers, hclosed⟩ := hwalk.closed
    -- With each node that is found, the nodes that feed it are found.
    have hback : ∀ v ∈ id :: g.dependencies id, ∀ u, g.Feeds u v →
        u ∈ id :: g.dependencies id := by
      intro v hv u hfeeds
      have hu := h.mem_producers_iff.2 hfeeds
      by_cases hvid : v = id
      · exact hproducers u (hvid ▸ hu)
      · exact hclosed v hv (by simpa using hvid) u hu
    have hfound : u ∈ id :: g.dependencies id := by
      clear hne
      induction hpath using Relation.TransGen.head_induction_on with
      | single hfeeds => exact hback id List.mem_cons_self _ hfeeds
      | head hfeeds _ ih => exact hback _ ih _ hfeeds
    exact (List.mem_cons.1 hfound).resolve_left hne

/-- **The dependencies of a node of a reachable graph, cyclic or not.**  The walk without a bound
comes to an end, with the node and its dependencies as its only result, and any greater bound gives
the same.  No node is listed twice, and not the node itself.  The others are exactly the nodes from
which a path of one or more connections leads to the node.  An id that is not in use has no
dependencies. -/
theorem dependencies_correct (h : Reachable catalog g) (id : NodeId) :
    (∀ found, g.Explores (g.producers id) [id] found ↔ found = id :: g.dependencies id) ∧
    (∀ depth, g.nodeCount < depth → g.explore depth id [id] = id :: g.dependencies id) ∧
    (g.dependencies id).Nodup ∧ id ∉ g.dependencies id ∧
    (∀ u, u ∈ g.dependencies id ↔ u ∈ g.ids ∧ u ≠ id ∧ Relation.TransGen g.Feeds u id) ∧
    (id ∉ g.ids → g.dependencies id = []) := by
  have hwf := h.wellFormed
  have hwalk := explores_dependencies g id
  obtain ⟨hself, hnodup⟩ := List.nodup_cons.1 (nodup_cons_dependencies g id)
  refine ⟨fun found => ⟨fun hfound => hfound.unique hwalk, ?_⟩,
    fun depth hdepth => (explores_explore_self id hdepth).unique hwalk, hnodup, hself,
    fun u => ?_, fun hid => ?_⟩
  · rintro rfl
    exact hwalk
  · rw [hwf.mem_dependencies_iff]
    exact ⟨fun ⟨hne, hpath⟩ => ⟨hwf.mem_of_path hpath, hne, hpath⟩, And.right⟩
  · refine List.eq_nil_iff_forall_not_mem.2 fun u hu => hid ?_
    obtain ⟨w, -, c, hc, -, rfl⟩ :=
      Relation.TransGen.tail'_iff.1 (hwf.mem_dependencies_iff.1 hu).2
    exact hwf.target_mem hc

/-- Both nodes on the cycle depend on each other and on the node before it, and the walk from one of
them comes back to it. -/
theorem knot_dependencies :
    Reachable Sample.catalog Sample.knot ∧
    Relation.TransGen Sample.knot.Feeds "a" "a" ∧
    Sample.knot.dependencies "a" = ["s", "b"] ∧ Sample.knot.dependencies "d" = ["b", "a", "s"] ∧
    Relation.TransGen Sample.knot.Feeds "s" "d" ∧ Sample.knot.dependencies "ghost" = [] := by
  have h : Reachable Sample.catalog Sample.knot := .loaded (by decide +kernel)
  obtain ⟨-, -, -, -, hloop, -⟩ := dependencies_correct h "b"
  obtain ⟨-, -, -, -, hpath, -⟩ := dependencies_correct h "d"
  obtain ⟨-, -, -, -, -, hghost⟩ := dependencies_correct h "ghost"
  have hfeeds : Sample.knot.Feeds "b" "a" :=
    feeds_of_mem_producers (by decide +kernel : "b" ∈ Sample.knot.producers "a")
  have hback : Relation.TransGen Sample.knot.Feeds "a" "b" :=
    ((hloop "a").1 (by decide +kernel)).2.2
  exact ⟨h, hback.tail hfeeds, by decide +kernel, by decide +kernel,
    ((hpath "s").1 (by decide +kernel)).2.2, hghost (by decide +kernel)⟩

/-! ### Closing a cycle -/

section Join

variable {source target : PortRef} {b : PortSpec}

theorem feeds_iff_connected :
    g.Feeds u v ↔ ∃ p q, g.Connected p q ∧ p.node = u ∧ q.node = v := by
  constructor
  · rintro ⟨c, hc, hsource, htarget⟩
    exact ⟨c.source, c.target, ⟨c, hc, rfl, rfl⟩, hsource, htarget⟩
  · rintro ⟨p, q, ⟨c, hc, rfl, rfl⟩, hsource, htarget⟩
    exact ⟨c, hc, hsource, htarget⟩

theorem feeds_join_self (multi : Bool) :
    (g.join source target multi).Feeds source.node target.node :=
  feeds_iff_connected.2 ⟨source, target, connected_join_self multi, rfl, rfl⟩

variable (h : WellFormed catalog g) (hport : g.port? target = some b)

include h hport

theorem WellFormed.feeds_of_join (hfeeds : (g.join source target b.multi).Feeds u v) :
    g.Feeds u v ∨ (u = source.node ∧ v = target.node) := by
  obtain ⟨p, q, hpq, rfl, rfl⟩ := feeds_iff_connected.1 hfeeds
  rcases (h.connected_join_iff hport).1 hpq with ⟨rfl, rfl⟩ | ⟨hold, -⟩
  · exact .inr ⟨rfl, rfl⟩
  · exact .inl (feeds_iff_connected.2 ⟨p, q, hold, rfl, rfl⟩)

/-- What connecting removes runs into the node of the input. -/
theorem WellFormed.feeds_join_of_ne (hfeeds : g.Feeds u v) (hne : v ≠ target.node) :
    (g.join source target b.multi).Feeds u v := by
  obtain ⟨p, q, hpq, rfl, rfl⟩ := feeds_iff_connected.1 hfeeds
  have hq : q ≠ target := fun heq => hne (congrArg PortRef.node heq)
  exact feeds_iff_connected.2 ⟨p, q, (h.connected_join_iff hport).2 (.inr ⟨hpq, .inr hq⟩), rfl, rfl⟩

/-- A path after connecting was there before, or it uses the new connection. -/
theorem WellFormed.path_of_join
    (hpath : Relation.TransGen (g.join source target b.multi).Feeds u v) :
    Relation.TransGen g.Feeds u v ∨
      (Relation.ReflTransGen g.Feeds u source.node ∧
        Relation.ReflTransGen g.Feeds target.node v) := by
  induction hpath with
  | single hfeeds =>
    rcases h.feeds_of_join hport hfeeds with hold | ⟨rfl, rfl⟩
    · exact .inl (.single hold)
    · exact .inr ⟨.refl, .refl⟩
  | tail _ hfeeds ih =>
    rcases h.feeds_of_join hport hfeeds with hold | ⟨rfl, rfl⟩
    · rcases ih with hpath | ⟨hfirst, hlast⟩
      · exact .inl (hpath.tail hold)
      · exact .inr ⟨hfirst, hlast.tail hold⟩
    · rcases ih with hpath | ⟨hfirst, -⟩
      · exact .inr ⟨hpath.to_reflTransGen, .refl⟩
      · exact .inr ⟨hfirst, .refl⟩

/-- **Without a cycle, connecting keeps every path that starts at the node of the input.**  Such a
path never comes back to this node, so it does not use what connecting removes. -/
theorem WellFormed.path_join (hacyclic : ¬g.Cyclic)
    (hpath : Relation.TransGen g.Feeds target.node v) :
    Relation.TransGen (g.join source target b.multi).Feeds target.node v := by
  have hne : ∀ {w}, Relation.TransGen g.Feeds target.node w → w ≠ target.node := by
    rintro w hw rfl
    exact hacyclic ⟨_, hw⟩
  induction hpath with
  | single hfeeds => exact .single (h.feeds_join_of_ne hport hfeeds (hne (.single hfeeds)))
  | tail hpath hfeeds ih =>
    exact ih.tail (h.feeds_join_of_ne hport hfeeds (hne (hpath.tail hfeeds)))

/-- **Connecting two nodes of a graph without cycles closes one** exactly if a path leads from the
second node to the first. -/
theorem WellFormed.cyclic_join_iff (hacyclic : ¬g.Cyclic) (hnodes : source.node ≠ target.node) :
    (g.join source target b.multi).Cyclic ↔
      Relation.TransGen g.Feeds target.node source.node := by
  constructor
  · rintro ⟨w, hcycle⟩
    rcases h.path_of_join hport hcycle with hold | ⟨hfirst, hlast⟩
    · exact absurd ⟨w, hold⟩ hacyclic
    · rcases Relation.reflTransGen_iff_eq_or_transGen.1 (hlast.trans hfirst) with heq | hpath
      · exact absurd heq hnodes
      · exact hpath
  · intro hpath
    exact ⟨target.node, (h.path_join hport hacyclic hpath).tail (feeds_join_self _)⟩

end Join

/-- **Connecting closes a cycle exactly along a dependency.**  If a graph without cycles takes a
connection, be it a new one, one in place of another or one that is there, the graph then has a
cycle exactly if the node of the input was a dependency of the node of the output. -/
theorem hasCycle_connect_iff (h : Reachable catalog g) (hacyclic : g.hasCycle = false)
    {source target : PortRef} {connection : ConnectionId}
    (hok : ((Edit.connect source target).apply g).outcome = .ok connection) :
    ((Edit.connect source target).apply g).graph.hasCycle = true ↔
      target.node ∈ g.dependencies source.node := by
  have hwf := h.wellFormed
  have hcyclic : ¬g.Cyclic := by
    rw [← hasCycle_iff hwf, hacyclic]
    exact Bool.false_ne_true
  obtain ⟨a, b, hjoin⟩ := (Edit.connect_ok_iff hwf.uniqueNumbers).1 ⟨connection, hok⟩
  obtain ⟨number, notes, hrun⟩ :=
    Edit.run_connect_of_joinable (s := ⟨g, []⟩) hwf.uniqueNumbers hjoin
  have hgraph : ((Edit.connect source target).apply g).graph = g.join source target b.multi := by
    rw [Edit.apply, hrun]
  have hkept : WellFormed catalog ((Edit.connect source target).apply g).graph :=
    (Edit.connect_wellFormed source target).apply hwf
  rw [hasCycle_iff hkept, hgraph, hwf.cyclic_join_iff hjoin.target_port hcyclic hjoin.node_ne,
    hwf.mem_dependencies_iff]
  exact ⟨fun hpath => ⟨hjoin.node_ne.symm, hpath⟩, And.right⟩

/-- In the diamond, a connection back to a node on the way takes the place of the one from the
source and closes a cycle.  A connection along the way takes the place of the same one and closes
none, nor does one that is there. -/
theorem diamond_closed :
    Reachable Sample.catalog Sample.diamond ∧ Sample.diamond.hasCycle = false ∧
    Sample.diamond.Connected (.output "s" "out") (.input "a" "one") ∧
    "a" ∈ Sample.diamond.dependencies "d" ∧
    ((Edit.connect (.output "d" "out") (.input "a" "one")).apply Sample.diamond).graph.hasCycle =
      true ∧
    ¬((Edit.connect (.output "d" "out") (.input "a" "one")).apply Sample.diamond).graph.Connected
      (.output "s" "out") (.input "a" "one") ∧
    ((Edit.connect (.output "b" "out") (.input "a" "one")).apply Sample.diamond).graph.hasCycle =
      false ∧
    ((Edit.connect (.output "s" "out") (.input "a" "one")).apply Sample.diamond).graph.hasCycle =
      false := by
  have h : Reachable Sample.catalog Sample.diamond := .loaded (by decide +kernel)
  have hacyclic : Sample.diamond.hasCycle = false := by decide +kernel
  have hback : ((Edit.connect (.output "d" "out") (.input "a" "one")).apply
      Sample.diamond).outcome = .ok 6 := by decide +kernel
  have hacross : ((Edit.connect (.output "b" "out") (.input "a" "one")).apply
      Sample.diamond).outcome = .ok 6 := by decide +kernel
  have hsame : ((Edit.connect (.output "s" "out") (.input "a" "one")).apply
      Sample.diamond).outcome = .ok 1 := by decide +kernel
  have hdependency : "a" ∈ Sample.diamond.dependencies "d" := by decide +kernel
  refine ⟨h, hacyclic, by decide +kernel, hdependency,
    (hasCycle_connect_iff h hacyclic hback).2 hdependency, by decide +kernel, ?_, ?_⟩
  · rw [Bool.eq_false_iff]
    intro hcycle
    exact absurd ((hasCycle_connect_iff h hacyclic hacross).1 hcycle) (by decide +kernel)
  · rw [Bool.eq_false_iff]
    intro hcycle
    exact absurd ((hasCycle_connect_iff h hacyclic hsame).1 hcycle) (by decide +kernel)

end Graph

end Blueprint
