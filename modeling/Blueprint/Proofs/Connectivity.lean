import Mathlib.Data.Fintype.Pigeonhole
import Mathlib.Data.Set.Finite.List
import Mathlib.Logic.Function.Iterate
import Mathlib.Logic.Relation
import Blueprint.Proofs.WellFormed

/-!
# Paths of connections

One node feeds another if a connection runs from the first to the second (`Graph.Feeds`).  Paths
and cycles are those of this relation.  A node is blocked if it is on a cycle or behind one
(`Graph.Blocked`).

Main statement: if every node of a list is fed by a node of the list, every one of them is blocked
(`Graph.blocked_of_forall_fed`).  Going back from feeder to feeder has to repeat a node.
-/

namespace Blueprint

namespace Graph

/-- A connection runs from `producer` to `consumer`. -/
def Feeds (g : Graph) (producer consumer : NodeId) : Prop :=
  ∃ c ∈ g.connections, c.source.node = producer ∧ c.target.node = consumer

/-- Some node can be reached from itself along connections. -/
def Cyclic (g : Graph) : Prop := ∃ id, Relation.TransGen g.Feeds id id

/-- The node is on a cycle of connections or downstream of one. -/
def Blocked (g : Graph) (id : NodeId) : Prop :=
  ∃ start, Relation.TransGen g.Feeds start start ∧ Relation.ReflTransGen g.Feeds start id

variable {catalog : Catalog} {g : Graph}

theorem WellFormed.source_mem (h : WellFormed catalog g) {c : Connection} (hc : c ∈ g.connections) :
    c.source.node ∈ g.ids := by
  obtain ⟨s, t, hj⟩ := h.joined c hc
  exact port?_node_mem hj.source_port

theorem WellFormed.target_mem (h : WellFormed catalog g) {c : Connection} (hc : c ∈ g.connections) :
    c.target.node ∈ g.ids := by
  obtain ⟨s, t, hj⟩ := h.joined c hc
  exact port?_node_mem hj.target_port

theorem WellFormed.mem_of_path (h : WellFormed catalog g) {u v : NodeId}
    (huv : Relation.TransGen g.Feeds u v) : u ∈ g.ids := by
  obtain ⟨w, ⟨c, hc, rfl, -⟩, -⟩ := Relation.TransGen.head'_iff.1 huv
  exact h.source_mem hc

/-- **Going back from feeder to feeder within finitely many nodes runs into a cycle.** -/
theorem blocked_of_forall_fed (stuck : List NodeId)
    (hfed : ∀ id ∈ stuck, ∃ u ∈ stuck, g.Feeds u id) {id : NodeId} (hid : id ∈ stuck) :
    g.Blocked id := by
  choose! feeder hmem hfeeds using hfed
  have hin : ∀ n, feeder^[n] id ∈ stuck := by
    intro n
    induction n with
    | zero => exact hid
    | succ n ih => rw [Function.iterate_succ_apply']; exact hmem _ ih
  have hback : ∀ m n, Relation.TransGen g.Feeds (feeder^[m + (n + 1)] id) (feeder^[m] id) := by
    intro m n
    induction n with
    | zero =>
      rw [Function.iterate_succ_apply']
      exact .single (hfeeds _ (hin m))
    | succ n ih =>
      rw [← Nat.add_assoc, Function.iterate_succ_apply']
      exact .head (hfeeds _ (hin _)) ih
  have hstart : ∀ m, Relation.ReflTransGen g.Feeds (feeder^[m] id) id := by
    intro m
    cases m with
    | zero => exact .refl
    | succ m => simpa using (hback 0 m).to_reflTransGen
  have key : ∀ m n, m < n → feeder^[m] id = feeder^[n] id → g.Blocked id := by
    intro m n hlt heq
    obtain ⟨k, rfl⟩ := Nat.exists_eq_add_of_lt hlt
    have hcycle := hback m k
    rw [← Nat.add_assoc, ← heq] at hcycle
    exact ⟨_, hcycle, hstart m⟩
  have hfinite : Finite {x // x ∈ stuck} := (List.finite_toSet stuck).to_subtype
  obtain ⟨m, n, hne, heq⟩ := Finite.exists_ne_map_eq_of_infinite
    fun n => (⟨feeder^[n] id, hin n⟩ : {x // x ∈ stuck})
  have heq : feeder^[m] id = feeder^[n] id := congrArg Subtype.val heq
  rcases Nat.lt_or_gt_of_ne hne with hlt | hlt
  · exact key m n hlt heq
  · exact key n m hlt heq.symm

end Graph

end Blueprint
