import Mathlib.Order.Bounds.Basic
import Blueprint.Catalog.Builtin
import Blueprint.Proofs.Emission

/-!
# How much history a strategy asks for

A strategy does nothing until there are as many past bars as its lookback says.  The lookback is
read off the nodes' own parameters: it is the longest window which these set
(`Graph.lookback_isGreatest`), and so the least number that covers all of them
(`Graph.lookback_isLeast`).  The body is filled in with the value of an input, and that is its own
parameter only if nothing is set on the input itself and the parameter has not been removed.

* `Graph.compile_lookback` : **the lookback of a strategy covers each window that a node's own
  parameter sets**, and no more.
* `Graph.overridden_uncovered` : a window that is set on the input itself, or that is the default of
  the port, may be longer.
-/

namespace Blueprint

theorem foldl_max_isGreatest (l : List Int) (a : Int) :
    IsGreatest {x | x = a ∨ x ∈ l} (l.foldl max a) := by
  induction l generalizing a with
  | nil => exact ⟨.inl rfl, fun x hx => hx.elim le_of_eq fun hmem => absurd hmem List.not_mem_nil⟩
  | cons x l ih =>
    obtain ⟨hmem, hbound⟩ := ih (max a x)
    have hmax : max a x ≤ l.foldl max (max a x) := hbound (.inl rfl)
    rw [List.foldl_cons]
    constructor
    · rcases hmem with heq | hmem
      · rw [heq]
        rcases max_choice a x with hmax | hmax
        · exact .inl hmax
        · rw [hmax]
          exact .inr List.mem_cons_self
      · exact .inr (List.mem_cons_of_mem _ hmem)
    · rintro y (rfl | hy)
      · exact (le_max_left _ _).trans hmax
      · rcases List.mem_cons.1 hy with rfl | hy
        · exact (le_max_right _ _).trans hmax
        · exact hbound (.inr hy)

namespace Node

variable {node : Node} {key : String} {length : Int64}

/-- The length of a window that a parameter of the node sets. -/
structure Sets (node : Node) (key : String) (length : Int64) : Prop where
  /-- The integer reading of the parameter. -/
  reading : (node.parameters.get? key).bind Value.toInt? = some length
  /-- It is positive. -/
  positive : 0 < length.toInt

theorem window?_eq_some_iff {window : Int} :
    node.window? key = some window ↔ ∃ length, node.Sets key length ∧ length.toInt = window := by
  simp only [window?, Option.filter_eq_some_iff, Option.map_eq_some_iff, decide_eq_true_eq]
  constructor
  · rintro ⟨⟨length, hreading, rfl⟩, hpositive⟩
    exact ⟨length, ⟨hreading, hpositive⟩, rfl⟩
  · rintro ⟨length, ⟨hreading, hpositive⟩, rfl⟩
    exact ⟨⟨length, hreading, rfl⟩, hpositive⟩

theorem mem_windows_iff {bars : Int} :
    bars ∈ node.windows ↔ ∃ key margin length, (key, margin) ∈ windowMargins ∧
      node.Sets key length ∧ saturatingAdd length.toInt margin = bars := by
  simp only [windows, List.mem_filterMap, Option.map_eq_some_iff, window?_eq_some_iff, Prod.exists]
  constructor
  · rintro ⟨key, margin, hmargin, _, ⟨length, hsets, rfl⟩, hbars⟩
    exact ⟨key, margin, length, hmargin, hsets, hbars⟩
  · rintro ⟨key, margin, length, hmargin, hsets, hbars⟩
    exact ⟨key, margin, hmargin, _, ⟨length, hsets, rfl⟩, hbars⟩

end Node

namespace Graph

variable {g : Graph} {options : Options} {name : String} {strategy : Strategy}

/-- So many bars cover every window that a parameter sets, with its margin. -/
def Covers (g : Graph) (bars : Nat) : Prop :=
  ∀ node ∈ g.nodes, ∀ key margin, (key, margin) ∈ windowMargins → ∀ length, node.Sets key length →
    saturatingAdd length.toInt margin ≤ bars

/-- The body asks for a window of this length at an input that is not connected. -/
structure Requests (g : Graph) (node : Node) (key : String) (length : Int64) : Prop where
  /-- No connection runs into the input. -/
  unconnected : g.incoming (.input node.id key) = []
  /-- The integer reading of the value of the input. -/
  reading : (node.fallback? key).bind Value.toInt? = some length
  /-- It is positive. -/
  positive : 0 < length.toInt

theorem cast_lookback (g : Graph) :
    (g.lookback : Int) = (g.nodes.flatMap Node.windows).foldl max 1 := by
  have hone : 1 ≤ (g.nodes.flatMap Node.windows).foldl max 1 :=
    (foldl_max_isGreatest _ 1).2 (.inl rfl)
  rw [lookback, Int.toNat_of_nonneg (by omega)]

/-- **The lookback is the greatest of one and the windows.** -/
theorem lookback_isGreatest (g : Graph) :
    IsGreatest {bars : Int | bars = 1 ∨ ∃ node ∈ g.nodes, bars ∈ node.windows} g.lookback := by
  have hgreatest := foldl_max_isGreatest (g.nodes.flatMap Node.windows) 1
  rw [← cast_lookback] at hgreatest
  simpa only [List.mem_flatMap] using hgreatest

theorem lookback_le_iff {bars : Nat} : g.lookback ≤ bars ↔ 1 ≤ bars ∧ g.Covers bars := by
  rw [← Int.ofNat_le, isLUB_le_iff g.lookback_isGreatest.isLUB]
  constructor
  · intro h
    refine ⟨Int.ofNat_le.1 (h (.inl rfl)), fun node hnode key margin hmargin length hsets => ?_⟩
    exact h (.inr ⟨node, hnode, Node.mem_windows_iff.2 ⟨key, margin, length, hmargin, hsets, rfl⟩⟩)
  · rintro ⟨hone, hcovers⟩ _ (rfl | ⟨node, hnode, hwindow⟩)
    · exact Int.ofNat_le.2 hone
    · obtain ⟨key, margin, length, hmargin, hsets, rfl⟩ := Node.mem_windows_iff.1 hwindow
      exact hcovers node hnode key margin hmargin length hsets

/-- **The lookback is the least number of bars, at least one, that covers all windows.** -/
theorem lookback_isLeast : IsLeast {bars | 1 ≤ bars ∧ g.Covers bars} g.lookback :=
  ⟨lookback_le_iff.1 (Nat.le_refl _), fun _ h => lookback_le_iff.2 h⟩

theorem lookback_of_compile (h : g.compile options name = .ok strategy) :
    strategy.lookback = g.lookback := by
  obtain ⟨_, rfl⟩ := exists_strategyOf_of_compile h
  rfl

/-- The body is filled in with the value that the input falls back to. -/
theorem Requests.inputValue {node : Node} {key : String} {length : Int64}
    (h : g.Requests node key length) :
    g.inputValue node key = (node.fallback? key).map Value.render := by
  have hfeed : g.feed? node key = none := List.head?_eq_none_iff.2 h.unconnected
  rw [Graph.inputValue, depthAllowance, inputWithin, hfeed]

theorem saturatingAdd_zero (length : Int64) : saturatingAdd length.toInt 0 = length.toInt := by
  rw [saturatingAdd, Int.add_zero]
  exact min_eq_left length.toInt_le

/-- **The lookback of a strategy is the least number of bars that covers the windows of the nodes'
own parameters.**  At an input that is not connected the body asks for the window that the input
falls back to; if that is the parameter of the node, the lookback covers it, for a period with one
bar more. -/
theorem compile_lookback (h : g.compile options name = .ok strategy) :
    IsLeast {bars | 1 ≤ bars ∧ g.Covers bars} strategy.lookback ∧
    ∀ node ∈ g.nodes, ∀ key length, g.Requests node key length →
      g.inputValue node key = (node.fallback? key).map Value.render ∧
      (node.fallback? key = node.parameters.get? key →
        (key = "count" → length.toInt ≤ strategy.lookback) ∧
        (key = "period" → min (length.toInt + 1) Int64.maxValue.toInt ≤ strategy.lookback)) := by
  rw [lookback_of_compile h]
  refine ⟨lookback_isLeast, fun node hnode key length hrequest =>
    ⟨hrequest.inputValue, fun hown => ?_⟩⟩
  have hsets : node.Sets key length := ⟨hown ▸ hrequest.reading, hrequest.positive⟩
  have hcovers := (lookback_isLeast (g := g)).1.2 node hnode key
  constructor
  · rintro rfl
    have hle := hcovers 0 (by decide) length hsets
    rwa [saturatingAdd_zero] at hle
  · rintro rfl
    exact hcovers 1 (by decide) length hsets

end Graph

namespace Sample

/-- An order that is always placed. -/
def standingOrder : NodeRecord :=
  ⟨"b", "trade.buy", {}, .ofList [("_input_condition", .bool true)]⟩

/-- An average of close prices over a period that is given as a text. -/
def averaged : Graph := (Graph.ofDocument Catalog.builtin
  { nodes := [⟨"c", "data.close_prices", {}, .ofList [("count", .int 30)]⟩,
      ⟨"m", "indicator.ma", {}, .ofList [("period", .text " 40 ")]⟩, standingOrder]
    connections := [⟨"c", "prices", "m", "data"⟩] }).graph

/-- Close prices of 20 bars, with another number set on the input itself. -/
def overridden : Graph := (Graph.ofDocument Catalog.builtin
  { nodes := [⟨"c", "data.close_prices", {},
      .ofList [("count", .int 20), ("_input_count", .int 500)]⟩, standingOrder] }).graph

/-- Close prices without a parameter. -/
def stripped : Graph := (Graph.ofDocument Catalog.builtin
  { nodes := [⟨"c", "data.close_prices", {}, .empty⟩, standingOrder] }).graph

end Sample

namespace Graph

instance (g : Graph) (node : Node) (key : String) (length : Int64) :
    Decidable (g.Requests node key length) :=
  decidable_of_iff (_ ∧ _ ∧ _)
    ⟨fun ⟨a, b, c⟩ => ⟨a, b, c⟩, fun ⟨a, b, c⟩ => ⟨a, b, c⟩⟩

/-- The average needs one bar more than its period, and these bars cover the prices too. -/
theorem averaged_lookback :
    ∃ strategy, Sample.averaged.compile {} "Averaged" = .ok strategy ∧ strategy.lookback = 41 ∧
      ∃ c ∈ Sample.averaged.nodes, ∃ m ∈ Sample.averaged.nodes,
        Sample.averaged.Requests c "count" 30 ∧ (30 : Int64).toInt ≤ strategy.lookback ∧
        Sample.averaged.Requests m "period" 40 ∧
        min ((40 : Int64).toInt + 1) Int64.maxValue.toInt ≤ strategy.lookback := by
  have hgraph : Sample.averaged.validate = [] ∧
      Sample.averaged.executionOrder = .ok ["c", "b", "m"] ∧ Sample.averaged.lookback = 41 ∧
      ∃ c ∈ Sample.averaged.nodes, ∃ m ∈ Sample.averaged.nodes,
        (Sample.averaged.Requests c "count" 30 ∧
          c.fallback? "count" = c.parameters.get? "count") ∧
        Sample.averaged.Requests m "period" 40 ∧
          m.fallback? "period" = m.parameters.get? "period" := by
    decide +kernel
  obtain ⟨hvalid, horder, hlookback, c, hc, m, hm, ⟨hcount, hcountOwn⟩, hperiod, hperiodOwn⟩ :=
    hgraph
  have hcompile : Sample.averaged.compile {} "Averaged" = .ok _ := compile_of_valid hvalid horder
  obtain ⟨-, hcovered⟩ := compile_lookback hcompile
  exact ⟨_, hcompile, (lookback_of_compile hcompile).trans hlookback, c, hc, m, hm, hcount,
    ((hcovered c hc _ _ hcount).2 hcountOwn).1 rfl, hperiod,
    ((hcovered m hm _ _ hperiod).2 hperiodOwn).2 rfl⟩

/-- **A window that is set on the input itself is not covered, nor is the default of the port once
the parameter is removed.**  The body asks for 500 and for 20 bars, the strategies for 20 and for
one. -/
theorem overridden_uncovered :
    (Reachable Catalog.builtin Sample.overridden ∧
      ∃ strategy, Sample.overridden.compile {} "Priced" = .ok strategy ∧ strategy.lookback = 20 ∧
        "_data_close_prices_c_closes = self.get_close_prices(500)" ∈ strategy.statements ∧
        ∃ c ∈ Sample.overridden.nodes, Sample.overridden.Requests c "count" 500) ∧
    Reachable Catalog.builtin Sample.stripped ∧
      ∃ strategy, Sample.stripped.compile {} "Priced" = .ok strategy ∧ strategy.lookback = 1 ∧
        "_data_close_prices_c_closes = self.get_close_prices(20)" ∈ strategy.statements ∧
        ∃ c ∈ Sample.stripped.nodes, Sample.stripped.Requests c "count" 20 := by
  refine ⟨⟨.loaded (by decide +kernel), ?_⟩, .loaded (by decide +kernel), ?_⟩
  · have hgraph : Sample.overridden.validate = [] ∧
        Sample.overridden.executionOrder = .ok ["c", "b"] ∧ Sample.overridden.lookback = 20 ∧
        "_data_close_prices_c_closes = self.get_close_prices(500)" ∈
          (Sample.overridden.emitAll ["c", "b"]).statements ∧
        ∃ c ∈ Sample.overridden.nodes, Sample.overridden.Requests c "count" 500 := by
      decide +kernel
    obtain ⟨hvalid, horder, hlookback, hbody, hrequest⟩ := hgraph
    exact ⟨_, compile_of_valid hvalid horder, hlookback, hbody, hrequest⟩
  · have hgraph : Sample.stripped.validate = [] ∧
        Sample.stripped.executionOrder = .ok ["c", "b"] ∧ Sample.stripped.lookback = 1 ∧
        "_data_close_prices_c_closes = self.get_close_prices(20)" ∈
          (Sample.stripped.emitAll ["c", "b"]).statements ∧
        ∃ c ∈ Sample.stripped.nodes, Sample.stripped.Requests c "count" 20 := by
      decide +kernel
    obtain ⟨hvalid, horder, hlookback, hbody, hrequest⟩ := hgraph
    exact ⟨_, compile_of_valid hvalid horder, hlookback, hbody, hrequest⟩

end Graph

end Blueprint
