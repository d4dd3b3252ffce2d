import Blueprint.Proofs.Effects
import Blueprint.Proofs.History

/-!
# The lookback is the longest window

The lookback is gathered node by node: each window that a node's own parameters set may lengthen it.
All of it can be done in 64-bit words, with sums that stop at the greatest word
(`Graph.wordLookback`), and the order of the nodes does not matter.

Main statement: the lookback is the greatest of one and of the windows with their margins; 64-bit
words are wide enough to gather it; it does not depend on the order of the nodes; and a new node
never lowers it (`Graph.lookback_longest`).
-/

namespace Blueprint

/-! ### Words -/

/-- The sum of two words that are not negative, or the greatest word if the sum is beyond it. -/
def wordAdd (a b : Int64) : Int64 := if Int64.maxValue - b < a then Int64.maxValue else a + b

theorem toInt_wordAdd {a b : Int64} (ha : 0 ≤ a.toInt) (hb : 0 ≤ b.toInt) :
    (wordAdd a b).toInt = saturatingAdd a.toInt b.toInt := by
  have hmax : Int64.maxValue.toInt = 9223372036854775807 := rfl
  have hroom : (Int64.maxValue - b).toInt = Int64.maxValue.toInt - b.toInt :=
    Int64.toInt_sub_of_le _ _ (Int64.le_iff_toInt_le.2 hb) (Int64.le_iff_toInt_le.2 b.toInt_le)
  rw [wordAdd, saturatingAdd]
  split_ifs with hlt
  · rw [Int64.lt_iff_toInt_lt, hroom] at hlt
    exact (min_eq_right (by omega)).symm
  · rw [Int64.lt_iff_toInt_lt, hroom] at hlt
    rw [Int64.toInt_add, Int.bmod_eq_of_le (by omega) (by omega), min_eq_left (by omega)]

theorem toInt_max (a b : Int64) : (max a b).toInt = max a.toInt b.toInt := by
  change (if a ≤ b then b else a).toInt = _
  split_ifs with hle
  · exact (max_eq_right (Int64.le_iff_toInt_le.1 hle)).symm
  · rw [Int64.le_iff_toInt_le] at hle
    exact (max_eq_left (by omega)).symm

namespace Node

variable {node : Node} {bars : Int}

/-- The node's own parameters ask for so many bars: one more than a period, a count, or ten more
than a slow window, as far as 64 bits go. -/
inductive Asks (node : Node) : Int → Prop where
  /-- A period. -/
  | period {length : Int64} (h : node.Sets "period" length) :
    node.Asks (min (length.toInt + 1) Int64.maxValue.toInt)
  /-- A count. -/
  | count {length : Int64} (h : node.Sets "count" length) : node.Asks length.toInt
  /-- A slow window. -/
  | slow {length : Int64} (h : node.Sets "slow" length) :
    node.Asks (min (length.toInt + 10) Int64.maxValue.toInt)

theorem mem_windows_iff_asks : bars ∈ node.windows ↔ node.Asks bars := by
  rw [mem_windows_iff]
  constructor
  · rintro ⟨key, margin, length, hmargin, hsets, rfl⟩
    simp only [windowMargins, List.mem_cons, Prod.mk.injEq, List.not_mem_nil, or_false] at hmargin
    rcases hmargin with ⟨rfl, rfl⟩ | ⟨rfl, rfl⟩ | ⟨rfl, rfl⟩
    · exact .period hsets
    · rw [Graph.saturatingAdd_zero]
      exact .count hsets
    · exact .slow hsets
  · rintro (hsets | hsets | hsets)
    · exact ⟨"period", 1, _, by decide, hsets, rfl⟩
    · exact ⟨"count", 0, _, by decide, hsets, Graph.saturatingAdd_zero _⟩
    · exact ⟨"slow", 10, _, by decide, hsets, rfl⟩

/-- The lookback after one more window of a node, in words. -/
def widenBy (node : Node) (key : String) (margin lookback : Int64) : Int64 :=
  (((node.parameters.get? key).bind Value.toInt?).filter (0 < ·)).elim lookback fun length =>
    max lookback (wordAdd length margin)

/-- The lookback after the windows of one more node, in words. -/
def widen (lookback : Int64) (node : Node) : Int64 :=
  node.widenBy "slow" 10 (node.widenBy "count" 0 (node.widenBy "period" 1 lookback))

theorem toInt_widenBy {margin : Int64} (hmargin : 0 ≤ margin.toInt) (key : String)
    (lookback : Int64) :
    (node.widenBy key margin lookback).toInt =
      ((node.window? key).map (saturatingAdd · margin.toInt)).toList.foldl max lookback.toInt := by
  rw [widenBy, window?]
  cases (node.parameters.get? key).bind Value.toInt? with
  | none => rfl
  | some length =>
    by_cases hpositive : 0 < length.toInt
    · have hword : (0 : Int64) < length := Int64.lt_iff_toInt_lt.2 hpositive
      simp [Option.filter, hpositive, hword, toInt_max, toInt_wordAdd hpositive.le hmargin]
    · have hword : ¬(0 : Int64) < length := fun h => hpositive (Int64.lt_iff_toInt_lt.1 h)
      simp [Option.filter, hpositive, hword]

/-- **One more node lengthens the lookback to its longest window**, and no word overflows. -/
theorem toInt_widen (lookback : Int64) (node : Node) :
    (widen lookback node).toInt = node.windows.foldl max lookback.toInt := by
  rw [widen, toInt_widenBy (by decide), toInt_widenBy (by decide), toInt_widenBy (by decide),
    ← List.foldl_append, ← List.foldl_append, windows, List.filterMap_eq_flatMap_toList]
  simp [windowMargins]

end Node

namespace Graph

variable {g g' : Graph}

/-- The lookback, gathered in words. -/
def wordLookback (g : Graph) : Int64 := g.nodes.foldl Node.widen 1

/-- **Words are wide enough for the lookback.** -/
theorem toInt_wordLookback (g : Graph) : g.wordLookback.toInt = g.lookback := by
  have hloop : ∀ (nodes : List Node) (lookback : Int64), (nodes.foldl Node.widen lookback).toInt =
      (nodes.flatMap Node.windows).foldl max lookback.toInt := by
    intro nodes
    induction nodes with
    | nil => exact fun _ => rfl
    | cons node rest ih =>
      intro lookback
      rw [List.foldl_cons, ih, Node.toInt_widen, List.flatMap_cons, List.foldl_append]
  rw [wordLookback, hloop, cast_lookback]
  rfl

theorem lookback_mono (h : g.nodes ⊆ g'.nodes) : g.lookback ≤ g'.lookback := by
  obtain ⟨hone, hcovers⟩ := lookback_le_iff.1 (le_refl g'.lookback)
  exact lookback_le_iff.2 ⟨hone, fun node hnode => hcovers node (h hnode)⟩

theorem nodes_subset_insertNode (s : Session) (id : NodeId) (type : String) (position : Point) :
    s.graph.nodes ⊆ (Edit.after s (Edit.insertNode id type position)).graph.nodes := by
  obtain ⟨error, hrun⟩ | ⟨node, hrun⟩ := Action.insertNode_cases (s := s) id type position
  · rw [Edit.after_of_error hrun]
    exact List.Subset.refl _
  · rw [Edit.after_of_ok hrun]
    exact List.subset_append_left _ _

theorem nodes_subset_addNode (g : Graph) (type : String) (position : Point) :
    g.nodes ⊆ ((Edit.addNode type position).apply g).graph.nodes := by
  rw [Edit.graph_apply, Edit.after, Edit.run_addNode]
  exact nodes_subset_insertNode ⟨{ g with nodeSeq := Edit.nextNumber g }, []⟩ _ type position

theorem nodes_subset_addNodeAs (g : Graph) (id : NodeId) (type : String) (position : Point) :
    g.nodes ⊆ ((Edit.addNodeAs id type position).apply g).graph.nodes := by
  rw [Edit.graph_apply, Edit.after, Edit.run_addNodeAs]
  split_ifs
  · exact List.Subset.refl _
  · exact nodes_subset_insertNode ⟨g, []⟩ id type position

/-- **The lookback is the longest window.**  It is the greatest of one, the periods with one bar
more, the counts, and the slow windows with ten bars more, of all nodes whose own parameter of that
name has a positive integer reading; a sum beyond 64 bits counts as the greatest 64-bit integer.
Gathered in 64-bit words, node by node, it is the same number.  It does not depend on the order of
the nodes, and adding a node does not lower it. -/
theorem lookback_longest (g : Graph) :
    IsGreatest {bars : Int | bars = 1 ∨ ∃ node ∈ g.nodes, node.Asks bars} g.lookback ∧
    g.wordLookback.toInt = g.lookback ∧
    (∀ g' : Graph, g'.nodes.Perm g.nodes → g'.lookback = g.lookback) ∧
    ∀ type position, g.lookback ≤ ((Edit.addNode type position).apply g).graph.lookback ∧
      ∀ id, g.lookback ≤ ((Edit.addNodeAs id type position).apply g).graph.lookback := by
  have hgreatest := g.lookback_isGreatest
  simp only [Node.mem_windows_iff_asks] at hgreatest
  refine ⟨hgreatest, g.toInt_wordLookback, fun g' hperm => ?_, fun type position =>
    ⟨lookback_mono (g.nodes_subset_addNode type position), fun id =>
      lookback_mono (g.nodes_subset_addNodeAs id type position)⟩⟩
  exact le_antisymm (lookback_mono hperm.subset) (lookback_mono hperm.symm.subset)

end Graph

namespace Sample

/-- A count that is given as a text.  The other windows have no reading or are not positive. -/
def counted : Graph := (Graph.ofDocument Catalog.builtin
  { nodes := [⟨"c", "data.close_prices", {}, .ofList [("count", .text " 1e3 ")]⟩,
      ⟨"m", "indicator.macd", {}, .ofList [("period", .bool true), ("slow", .int (-5))]⟩] }).graph

/-- A period that is the greatest 64-bit integer. -/
def limitless : Graph := (Graph.ofDocument Catalog.builtin
  { nodes := [⟨"m", "indicator.ma", {},
      .ofList [("period", .text "9223372036854775807")]⟩] }).graph

end Sample

namespace Graph

/-- The text counts, and the longest period there can be does not overflow. -/
theorem counted_longest :
    (IsGreatest {bars : Int | bars = 1 ∨ ∃ node ∈ Sample.counted.nodes, node.Asks bars} 1000 ∧
      1000 ≤ ((Edit.addNode "indicator.ma" {}).apply Sample.counted).graph.lookback) ∧
    Sample.limitless.wordLookback.toInt = 9223372036854775807 := by
  have hcounted : Sample.counted.lookback = 1000 := by decide +kernel
  have hlimitless : Sample.limitless.lookback = 9223372036854775807 := by decide +kernel
  obtain ⟨hgreatest, -, -, hadd⟩ := lookback_longest Sample.counted
  rw [hcounted] at hgreatest hadd
  refine ⟨⟨hgreatest, (hadd _ _).1⟩, ?_⟩
  rw [(lookback_longest Sample.limitless).2.1, hlimitless]
  rfl

end Graph

end Blueprint
