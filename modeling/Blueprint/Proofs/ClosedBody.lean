import Blueprint.Catalog.Builtin
import Blueprint.Proofs.Emission
import Blueprint.Proofs.Templates

/-!
# Generated bodies are closed

Over a catalog of closed variants, every name in an expression is a variable that some node
upstream binds (`Graph.names_inputWithin`): a variable comes into an expression at the output of a
node whose statements bind it, and expressions pass along connections only.  Nodes upstream emit
first, so every name in a statement is one that the statement assigns to at this place or a target
of an earlier statement (`Graph.body_closed`).  The built-in catalog is such a catalog
(`Catalog.builtin_closed`).
-/

namespace Blueprint

/-! ### Closed catalogs -/

namespace Catalog

/-- All variants of a catalog are closed. -/
def Closed (catalog : Catalog) : Prop :=
  ∀ tag variant, catalog.get? tag = some variant → variant.Closed

theorem mem_builtinVariants {tag : String} {variant : Variant}
    (h : builtin.get? tag = some variant) : variant ∈ builtinVariants := by
  have hinserted := mem_of_mem_foldl OrderedMap.entries
    (fun variant : Variant => (variant.tag, variant)) (fun _ _ _ => OrderedMap.mem_insertEntry)
    (mem_of_lookup h)
  rcases hinserted with hnone | ⟨found, hfound, heq⟩
  · cases hnone
  · cases heq
    exact hfound

theorem closed_of_mem_builtinVariants : ∀ variant ∈ builtinVariants, variant.Closed := by
  decide +kernel

/-- **All built-in variants are closed.** -/
theorem builtin_closed : builtin.Closed := fun _ variant h =>
  closed_of_mem_builtinVariants variant (mem_builtinVariants h)

end Catalog

/-- What holds of all expressions of a variant holds of the one at an output. -/
theorem Variant.expressionAt_of_forall {variant : Variant} {P : Template → Prop}
    (hexpressions : ∀ entry ∈ variant.expressions, P entry.2) (hexpression : P variant.expression)
    (port : String) : P (variant.expressionAt port) := by
  rw [Variant.expressionAt]
  cases hlookup : variant.expressions.lookup port with
  | none => exact hexpression
  | some template => exact hexpressions (port, template) (mem_of_lookup hlookup)

namespace Graph

variable {catalog : Catalog} {g : Graph} {id : NodeId} {node : Node}

/-- No parameter of a node is a text. -/
def Textless (g : Graph) : Prop :=
  ∀ node ∈ g.nodes, ∀ entry ∈ node.parameters.entries, entry.2.isText = false

/-- A statement of the node assigns to the name. -/
def Binds (g : Graph) (id : NodeId) (name : List Char) : Prop :=
  ∃ statement ∈ (g.emitId {} id).statements, name ∈ Text.targets statement.toList

/-- A node upstream binds the name. -/
def BoundAbove (g : Graph) (id : NodeId) (name : List Char) : Prop :=
  ∃ above, Relation.TransGen g.Feeds above id ∧ g.Binds above name

theorem value_of_forall {P : Value → Prop}
    (h : ∀ node ∈ g.nodes, ∀ entry ∈ node.parameters.entries, P entry.2) (hnode : node ∈ g.nodes)
    (key : String) (value : Value) (hvalue : node.parameters.get? key = some value) : P value :=
  h node hnode (key, value) (mem_of_lookup hvalue)

theorem WellFormed.get?_of_variantOf? (h : WellFormed catalog g) {variant : Variant}
    (hvariant : g.variantOf? node = some variant) : catalog.get? node.type = some variant := by
  rwa [variantOf?, h.catalog_eq] at hvariant

theorem BoundAbove.trans {above : NodeId} {name : List Char} (h : g.BoundAbove above name)
    (hfeeds : g.Feeds above id) : g.BoundAbove id name :=
  let ⟨binder, hpath, hbinds⟩ := h
  ⟨binder, hpath.tail hfeeds, hbinds⟩

/-! ### Statements of one node -/

theorem statements_emitId_of_node {variant : Variant} (hnode : g.node? id = some node)
    (hvariant : g.variantOf? node = some variant) :
    (g.emitId {} id).statements = g.statementsOf node variant := by
  simp only [emitId, Emitter.visit, Emitter.templates, hnode, hvariant, emitNode,
    Emission.foldl_addStatement, Emission.foldl_addImport, List.nil_append]

theorem exists_node_of_mem_statements {statement : String}
    (h : statement ∈ (g.emitId {} id).statements) :
    ∃ node variant, g.node? id = some node ∧ g.variantOf? node = some variant ∧
      ∃ template ∈ variant.statements, g.fill node "" template = statement := by
  cases hnode : g.node? id with
  | none => simp [emitId, Emitter.visit, hnode] at h
  | some node =>
    cases hvariant : g.variantOf? node with
    | none => simp [emitId, Emitter.visit, hnode, hvariant] at h
    | some variant =>
      rw [statements_emitId_of_node hnode hvariant] at h
      exact ⟨node, variant, rfl, hvariant, List.mem_map.1 h⟩

theorem binds_of_mem_bound {variant : Variant} (hnode : g.node? id = some node)
    (hvariant : g.variantOf? node = some variant) (hclosed : variant.Closed) {suffix : String}
    (hsuffix : suffix ∈ variant.bound) : g.Binds id (node.variableName suffix).toList := by
  obtain ⟨template, htemplate, hsuffix⟩ := List.mem_flatMap.1 hsuffix
  refine ⟨g.fill node "" template, ?_, Template.mem_targets_fill hsuffix fun suffix hmem =>
    hclosed.bound suffix (List.mem_flatMap.2 ⟨template, htemplate, hmem⟩)⟩
  rw [statements_emitId_of_node hnode hvariant]
  exact List.mem_map.2 ⟨template, htemplate, rfl⟩

/-! ### Expressions -/

theorem feeds_of_feed? {port : String} {c : Connection} (h : g.feed? node port = some c) :
    g.Feeds c.source.node node.id := by
  obtain ⟨hmem, htarget⟩ := List.mem_filter.1 (List.mem_of_mem_head? h)
  have htarget : c.target = .input node.id port := by simpa using htarget
  exact ⟨c, hmem, rfl, by rw [htarget]; rfl⟩

theorem of_producer? {c : Connection} {producer : Node} {variant : Variant}
    (h : g.producer? c = some (producer, variant)) :
    g.node? c.source.node = some producer ∧ g.variantOf? producer = some variant := by
  obtain ⟨found, hfound, h⟩ := Option.bind_eq_some_iff.1 h
  obtain ⟨variant, hvariant, heq⟩ := Option.map_eq_some_iff.1 h
  cases heq
  exact ⟨hfound, hvariant⟩

theorem feeds_of_producer? {port : String} {c : Connection} {producer : Node} {variant : Variant}
    (hfeed : g.feed? node port = some c)
    (hproducer : g.producer? c = some (producer, variant)) : g.Feeds producer.id node.id := by
  rw [(node?_eq_some (of_producer? hproducer).1).2]
  exact feeds_of_feed? hfeed

/-- An input that nothing feeds has the value of a parameter or the default of its port. -/
theorem WellFormed.fallback?_cases (h : WellFormed catalog g) (hnode : node ∈ g.nodes)
    {port : String} {value : Value} (hvalue : node.fallback? port = some value) :
    (∃ key, node.parameters.get? key = some value) ∨
      ∃ variant, catalog.get? node.type = some variant ∧
        ∃ spec ∈ variant.inputs, spec.default = some value := by
  rw [Node.fallback?, Option.or_eq_some_iff, Option.or_eq_some_iff] at hvalue
  rcases hvalue with hvalue | ⟨-, hvalue | ⟨-, hvalue⟩⟩
  · exact .inl ⟨_, hvalue⟩
  · exact .inl ⟨_, hvalue⟩
  · obtain ⟨spec, hspec, hdefault⟩ := Option.bind_eq_some_iff.1 hvalue
    obtain ⟨variant, hvariant, hinputs, -⟩ := h.registered node hnode
    exact .inr ⟨variant, hvariant, spec, hinputs ▸ List.mem_of_find?_eq_some hspec, hdefault⟩

/-- **Expressions by induction.**  What holds of the values of inputs that nothing feeds, and of the
expressions of a producer if it holds of those that feed the producer, holds of all expressions. -/
theorem inputWithin_induction {P : Node → String → Prop}
    (hvalue : ∀ node ∈ g.nodes, ∀ port value, node.fallback? port = some value →
      P node value.render)
    (hfill : ∀ node ∈ g.nodes, ∀ producer variant, g.node? producer.id = some producer →
      g.variantOf? producer = some variant → g.Feeds producer.id node.id → ∀ asked resolve,
      (∀ port expression, resolve port = some expression → P producer expression) →
      P node ((variant.expressionAt asked).fill producer asked resolve))
    (depth : Nat) {port expression : String} (hnode : node ∈ g.nodes)
    (hexpression : g.inputWithin depth node port = some expression) : P node expression := by
  have hfallback {node : Node} {port expression : String} (hnode : node ∈ g.nodes)
      (h : (node.fallback? port).map Value.render = some expression) : P node expression := by
    obtain ⟨value, hfound, rfl⟩ := Option.map_eq_some_iff.1 h
    exact hvalue node hnode port value hfound
  induction depth generalizing node port expression with
  | zero =>
    rw [inputWithin] at hexpression
    split at hexpression
    · cases hexpression
    · exact hfallback hnode hexpression
  | succ depth ih =>
    rw [inputWithin] at hexpression
    split at hexpression
    · rename_i c hfeed
      obtain ⟨⟨producer, variant⟩, hproducer, rfl⟩ := Option.map_eq_some_iff.1 hexpression
      obtain ⟨hfound, hvariant⟩ := of_producer? hproducer
      obtain ⟨hmem, hid⟩ := node?_eq_some hfound
      exact hfill node hnode producer variant (by rw [hid, hfound]) hvariant
        (feeds_of_producer? hfeed hproducer) _ _ fun port expression => ih hmem
    · exact hfallback hnode hexpression

section Resolution

variable (h : WellFormed catalog g) (hclosed : catalog.Closed) (htextless : g.Textless)

include h hclosed htextless

theorem fallback?_not_text (hnode : node ∈ g.nodes) {port : String} {value : Value}
    (hvalue : node.fallback? port = some value) : value.isText = false := by
  rcases h.fallback?_cases hnode hvalue with
    ⟨key, hvalue⟩ | ⟨variant, hvariant, spec, hmem, hdefault⟩
  · exact value_of_forall (P := (·.isText = false)) htextless hnode _ _ hvalue
  · have hvalue := (Option.all_eq_true ..).1 ((hclosed _ _ hvariant).defaults spec hmem) value
    simpa using hvalue hdefault

/-- **The names in an expression are variables that nodes upstream bind.** -/
theorem names_inputWithin (depth : Nat) {port expression : String} (hnode : node ∈ g.nodes)
    (hexpression : g.inputWithin depth node port = some expression) :
    Text.Names (g.BoundAbove node.id) expression.toList := by
  refine inputWithin_induction (P := fun node expression =>
    Text.Names (g.BoundAbove node.id) expression.toList) ?_ ?_ depth hnode hexpression
  · intro node hnode port value hvalue
    exact .of_notMem (Value.underscore_notMem_render
      (fallback?_not_text h hclosed htextless hnode hvalue))
  · intro node _ producer variant hfound hvariant hfeeds asked resolve hresolve
    have hvclosed := hclosed _ _ (h.get?_of_variantOf? hvariant)
    refine Template.names_fill
      (Variant.expressionAt_of_forall hvclosed.expressions hvclosed.expression _) ?_
      (value_of_forall htextless (node?_eq_some hfound).1) ?_
    · -- What is upstream of the producer is upstream of the node.
      intro port expression hexpression
      exact (hresolve port expression hexpression).mono fun _ hbound => hbound.trans hfeeds
    · -- The producer itself binds the variables of its expressions.
      intro suffix hsuffix
      exact .of_forall_isWord (Node.isWord_of_mem_variableName (hvclosed.bound suffix hsuffix))
        ⟨producer.id, .single hfeeds, binds_of_mem_bound hfound hvariant hvclosed hsuffix⟩

/-- **Each name in a statement of a node is one that it assigns to there, or a variable that a node
upstream binds.** -/
theorem run_statement_cases {statement : String} (hmem : statement ∈ (g.emitId {} id).statements)
    {before name after : List Char}
    (hrun : Text.Run statement.toList before ('_' :: name) after) :
    Text.Assigns statement.toList before ('_' :: name) ∨ g.BoundAbove id ('_' :: name) := by
  obtain ⟨node, variant, hfound, hvariant, template, htemplate, rfl⟩ :=
    exists_node_of_mem_statements hmem
  obtain ⟨hnode, rfl⟩ := node?_eq_some hfound
  have hvclosed := hclosed _ _ (h.get?_of_variantOf? hvariant)
  refine Template.run_fill_cases (hvclosed.statements template htemplate) ?_ ?_
    (value_of_forall htextless hnode) hrun
  · exact fun suffix hsuffix =>
      hvclosed.bound suffix (List.mem_flatMap.2 ⟨template, htemplate, hsuffix⟩)
  · exact fun port expression hexpression =>
      names_inputWithin h hclosed htextless _ hnode hexpression

end Resolution

/-! ### The body of a strategy -/

theorem exists_of_getElem?_flatMap {α β : Type} {f : α → List β} {l : List α} {k : Nat} {b : β}
    (h : (l.flatMap f)[k]? = some b) :
    ∃ before a after, l = before ++ a :: after ∧ b ∈ f a ∧ (before.flatMap f).length ≤ k := by
  induction l generalizing k with
  | nil => simp at h
  | cons a l ih =>
    rw [List.flatMap_cons] at h
    by_cases hk : k < (f a).length
    · rw [List.getElem?_append_left hk] at h
      exact ⟨[], a, l, rfl, List.mem_of_getElem? h, Nat.zero_le _⟩
    · rw [List.getElem?_append_right (Nat.le_of_not_lt hk)] at h
      obtain ⟨before, b, after, rfl, hmem, hlength⟩ := ih h
      refine ⟨a :: before, b, after, rfl, hmem, ?_⟩
      rw [List.flatMap_cons, List.length_append]
      omega

/-- Each statement is of a node, and what nodes upstream bind are targets of earlier statements. -/
theorem exists_node_of_statement (h : WellFormed catalog g) {options : Options} {name : String}
    {strategy : Strategy} (hcompile : g.compile options name = .ok strategy) {k : Nat}
    {statement : String} (hk : strategy.statements[k]? = some statement) :
    ∃ id, statement ∈ (g.emitId {} id).statements ∧ ∀ name, g.BoundAbove id name →
      ∃ j < k, ∃ earlier, strategy.statements[j]? = some earlier ∧
        name ∈ Text.targets earlier.toList := by
  rw [statements_of_compile h hcompile] at hk ⊢
  obtain ⟨before, id, after, horder, hmem, hlength⟩ := exists_of_getElem?_flatMap hk
  refine ⟨id, hmem, ?_⟩
  rintro name ⟨above, hpath, earlier, hearlier, htarget⟩
  -- The nodes in `before` have emitted all their statements before number `k`.
  have hbefore : earlier ∈ before.flatMap fun id => (g.emitId {} id).statements :=
    List.mem_flatMap.2 ⟨above, upstream_before h horder hpath, hearlier⟩
  obtain ⟨j, hj, hget⟩ := List.getElem_of_mem hbefore
  refine ⟨j, hj.trans_le hlength, earlier, ?_, htarget⟩
  rw [horder, List.flatMap_append, List.getElem?_append_left hj, List.getElem?_eq_getElem hj, hget]

/-- **Generated bodies are closed.**  Over the built-in catalog, if no parameter is a text, each
name in a statement of a strategy is one that the statement assigns to at this place, or one that
an earlier statement assigns to. -/
theorem body_closed (h : Reachable Catalog.builtin g) (htextless : g.Textless) {options : Options}
    {name : String} {strategy : Strategy} (hcompile : g.compile options name = .ok strategy)
    {k : Nat} {statement : String} (hk : strategy.statements[k]? = some statement)
    {before rest after : List Char}
    (hrun : Text.Run statement.toList before ('_' :: rest) after) :
    Text.Assigns statement.toList before ('_' :: rest) ∨
      ∃ j < k, ∃ earlier, strategy.statements[j]? = some earlier ∧
        '_' :: rest ∈ Text.targets earlier.toList := by
  have hwf := h.wellFormed
  obtain ⟨id, hmem, hearlier⟩ := exists_node_of_statement hwf hcompile hk
  exact (run_statement_cases hwf Catalog.builtin_closed htextless hmem hrun).imp_right
    (hearlier _)

end Graph

namespace Sample

/-- An order that waits for the strength of a trend. -/
def trend : Graph := (Graph.ofDocument Catalog.builtin
  { nodes := [("b", "trade.buy"), ("o", "signal.overbought"), ("v", "param.get_last"),
      ("x", "indicator.dmi"), ("c", "data.close_prices")].map fun (id, type) =>
        ⟨id, type, {}, .empty⟩
    connections := [⟨"c", "prices", "x", "high"⟩, ⟨"c", "prices", "x", "low"⟩,
      ⟨"c", "prices", "x", "close"⟩, ⟨"x", "adx", "v", "series"⟩, ⟨"v", "value", "o", "value"⟩,
      ⟨"o", "signal", "b", "condition"⟩] }).graph

/-- The statement that places the order. -/
def trendOrder : String := "if (_indicator_dmi_x_dmi_adx[-1] > 70):\n    " ++
  "if self.position == 0:\n        self.buy(bar.close, 100)"

end Sample

namespace Graph

/-- The order reads one of three variables that an earlier statement binds together. -/
theorem trend_closed :
    Reachable Catalog.builtin Sample.trend ∧ Sample.trend.Textless ∧
    ∃ strategy, Sample.trend.compile {} "Trend" = .ok strategy ∧
      strategy.statements[2]? = some Sample.trendOrder ∧
      ∃ j < 2, ∃ earlier, strategy.statements[j]? = some earlier ∧
        "_indicator_dmi_x_dmi_adx".toList ∈ Text.targets earlier.toList := by
  have h : Reachable Catalog.builtin Sample.trend := .loaded (by decide +kernel)
  have hvalues : (∀ node ∈ Sample.trend.nodes, ∀ entry ∈ node.parameters.entries,
      entry.2.isText = false) ∧ Sample.trend.validate = [] ∧
      Sample.trend.executionOrder = .ok ["c", "x", "v", "o", "b"] ∧
      (Sample.trend.emitAll ["c", "x", "v", "o", "b"]).statements[2]? =
        some Sample.trendOrder := by decide +kernel
  obtain ⟨htextless, hvalid, horder, hstatement⟩ := hvalues
  have hcompile : Sample.trend.compile {} "Trend" = .ok (Sample.trend.strategyOf {} "Trend"
      ["c", "x", "v", "o", "b"]) := compile_of_valid hvalid horder
  rw [← statements_strategyOf {} "Trend"] at hstatement
  have hrun : Text.Run Sample.trendOrder.toList "if (".toList "_indicator_dmi_x_dmi_adx".toList
      ("[-1] > 70):\n    if self.position == 0:\n        self.buy(bar.close, 100)").toList :=
    ⟨by decide +kernel, by decide, List.all_eq_true.1 (by decide +kernel), by rintro c ⟨⟩; rfl,
      by rintro c ⟨⟩; rfl⟩
  refine ⟨h, htextless, _, hcompile, hstatement, ?_⟩
  rcases body_closed h htextless hcompile hstatement hrun with hassigns | hearlier
  · exact absurd hassigns.1 (by decide +kernel)
  · exact hearlier

end Graph

end Blueprint
