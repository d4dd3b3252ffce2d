import Blueprint.Proofs.ClosedBody
import Blueprint.Proofs.VariableNames

/-!
# No variable is bound twice

Histories, indicators and crossings bind variables.  Their statements list the variables before
` = `, so the names that a node assigns to are its variables with the suffixes of its variant
(`Graph.targetsAt_eq`).  Within the built-in catalog no tag of such a variant begins like another
one (`Catalog.tagPart_inj`), and the suffixes of one variant are equally long, so the names of
different nodes differ.

Main statement: all names that the nodes of a strategy bind are distinct
(`Graph.bindings_distinct`).
-/

namespace Blueprint

/-! ### Variants that bind -/

/-- The variant emits one statement, and this binds variables with distinct suffixes of one
length. -/
@[mk_iff]
structure Variant.BindsOnce (variant : Variant) : Prop where
  /-- There is one statement. -/
  single : variant.statements.length = 1
  /-- It binds variables. -/
  binds : ∀ statement ∈ variant.statements, statement.binding?.isSome = true
  /-- No suffix is empty. -/
  ne_empty : ∀ suffix ∈ variant.bound, suffix ≠ ""
  /-- Suffixes are made of word characters. -/
  word : ∀ suffix ∈ variant.bound, suffix.toList.all Text.isWord = true
  /-- They are distinct. -/
  nodup : variant.bound.Nodup
  /-- They are equally long. -/
  length_eq : ∀ s ∈ variant.bound, ∀ t ∈ variant.bound, s.toList.length = t.toList.length

instance : DecidablePred Variant.BindsOnce := fun variant =>
  decidable_of_iff _ variant.bindsOnce_iff.symm

namespace Catalog

/-- The tags of the built-in variants that bind variables: histories, indicators and crossings. -/
def bindingTags : List String :=
  ["data.close_prices", "data.open_prices", "data.high_prices", "data.low_prices",
    "data.volume_series"] ++ indicators.map (·.tag) ++ ["signal.cross_over", "signal.cross_under"]

theorem bindsOnce_of_mem_bindingTags {tag : String} (htag : tag ∈ bindingTags) {variant : Variant}
    (hvariant : builtin.get? tag = some variant) : variant.BindsOnce := by
  have hall : ∀ tag ∈ bindingTags, (builtin.get? tag).all (fun v => decide v.BindsOnce) = true := by
    decide +kernel
  have hbinds := hall tag htag
  rw [hvariant] at hbinds
  exact of_decide_eq_true hbinds

/-- **No tag of a variant that binds begins like another one**, the closing underscore included. -/
theorem tagPart_inj : ∀ a ∈ bindingTags, ∀ b ∈ bindingTags,
    Node.tagPart a <+: Node.tagPart b ∨ Node.tagPart b <+: Node.tagPart a → a = b := by
  decide +kernel

end Catalog

namespace Graph

variable {g : Graph} {id : NodeId} {node other : Node} {variant otherVariant : Variant}

/-- The node is a history, an indicator or a crossing. -/
def isBinder (g : Graph) (id : NodeId) : Bool :=
  (g.node? id).any fun node => Catalog.bindingTags.contains node.type

/-- The names that the statements of a node assign to. -/
def targetsAt (g : Graph) (id : NodeId) : List (List Char) :=
  (g.emitId {} id).statements.flatMap fun statement => Text.targets statement.toList

/-! ### The names of one node -/

/-- **A node that binds assigns to its variables with the suffixes of its variant.** -/
theorem targetsAt_eq (hnode : g.node? id = some node) (hvariant : g.variantOf? node = some variant)
    (hbinds : variant.BindsOnce) :
    g.targetsAt id = variant.bound.map fun suffix => (node.variableName suffix).toList := by
  have hstatement : ∀ statement ∈ variant.statements,
      Text.targets (g.fill node "" statement).toList =
        statement.bound.map fun suffix => (node.variableName suffix).toList := by
    intro statement hmem
    obtain ⟨⟨suffixes, right⟩, hbinding⟩ := Option.isSome_iff_exists.1 (hbinds.binds _ hmem)
    have hbound : statement.bound = suffixes := by rw [Template.bound, hbinding]; rfl
    rw [hbound]
    refine Template.targets_fill hbinding fun suffix hsuffix => hbinds.word suffix ?_
    exact List.mem_flatMap.2 ⟨statement, hmem, hbound ▸ hsuffix⟩
  rw [targetsAt, statements_emitId_of_node hnode hvariant, statementsOf, List.flatMap_map,
    Variant.bound, List.map_flatMap]
  exact List.flatMap_congr hstatement

theorem exists_statement (hnode : g.node? id = some node)
    (hvariant : g.variantOf? node = some variant) (hbinds : variant.BindsOnce) :
    ∃ statement, (g.emitId {} id).statements = [statement] ∧
      Text.targets statement.toList ≠ [] := by
  obtain ⟨template, htemplate⟩ := List.length_eq_one_iff.1 hbinds.single
  have hmem : template ∈ variant.statements := by simp [htemplate]
  obtain ⟨⟨suffixes, right⟩, hbinding⟩ := Option.isSome_iff_exists.1 (hbinds.binds _ hmem)
  have hne := (Template.toList_fill_of_binding? node "" (g.inputValue node) hbinding).1
  have hstatements : (g.emitId {} id).statements = [g.fill node "" template] := by
    rw [statements_emitId_of_node hnode hvariant, statementsOf, htemplate]
    rfl
  refine ⟨_, hstatements, ?_⟩
  have htargets := targetsAt_eq hnode hvariant hbinds
  rw [targetsAt, hstatements, List.flatMap_singleton] at htargets
  rw [htargets, Variant.bound, htemplate, List.flatMap_singleton, Template.bound, hbinding]
  simpa using hne

/-- Two binders with one variable are one node, and the suffixes agree. -/
theorem binder_inj (hnode : node.type ∈ Catalog.bindingTags)
    (hother : other.type ∈ Catalog.bindingTags)
    (hvariant : Catalog.builtin.get? node.type = some variant)
    (hotherVariant : Catalog.builtin.get? other.type = some otherVariant) {suffix t : String}
    (hsuffix : suffix ∈ variant.bound) (ht : t ∈ otherVariant.bound)
    (h : node.variableName suffix = other.variableName t) : node.id = other.id ∧ suffix = t := by
  have hbinds := Catalog.bindsOnce_of_mem_bindingTags hnode hvariant
  have hotherBinds := Catalog.bindsOnce_of_mem_bindingTags hother hotherVariant
  refine Node.variableName_inj (hbinds.ne_empty _ hsuffix) (hotherBinds.ne_empty _ ht)
    (Catalog.tagPart_inj _ hnode _ hother) (fun htype => ?_) h
  -- Equal tags have one variant, and its suffixes are equally long.
  rw [← htype, hvariant] at hotherVariant
  cases hotherVariant
  exact hbinds.length_eq _ hsuffix _ ht

/-! ### The names of a strategy -/

section Builtin

variable (h : WellFormed Catalog.builtin g)

include h

theorem of_isBinder (hbinder : g.isBinder id = true) :
    ∃ node variant, g.node? id = some node ∧ node.id = id ∧ node.type ∈ Catalog.bindingTags ∧
      Catalog.builtin.get? node.type = some variant ∧ g.variantOf? node = some variant ∧
      variant.BindsOnce := by
  obtain ⟨node, hnode, htag⟩ := (Option.any_eq_true ..).1 hbinder
  have htag : node.type ∈ Catalog.bindingTags := List.contains_iff_mem.1 htag
  obtain ⟨hmem, hid⟩ := node?_eq_some hnode
  obtain ⟨variant, hvariant, -⟩ := h.registered node hmem
  refine ⟨node, variant, hnode, hid, htag, hvariant, ?_,
    Catalog.bindsOnce_of_mem_bindingTags htag hvariant⟩
  rw [variantOf?, h.catalog_eq, hvariant]

theorem targetsAt_nodup (hbinder : g.isBinder id = true) : (g.targetsAt id).Nodup := by
  obtain ⟨node, variant, hnode, -, htag, hget, hvariant, hbinds⟩ := of_isBinder h hbinder
  rw [targetsAt_eq hnode hvariant hbinds]
  refine hbinds.nodup.map_on fun s hs t ht heq => ?_
  exact (binder_inj htag htag hget hget hs ht (String.toList_injective heq)).2

theorem targetsAt_disjoint {a b : NodeId} (ha : g.isBinder a = true) (hb : g.isBinder b = true)
    (hne : a ≠ b) : List.Disjoint (g.targetsAt a) (g.targetsAt b) := by
  obtain ⟨node, variant, hnode, hid, htag, hget, hvariant, hbinds⟩ := of_isBinder h ha
  obtain ⟨node', variant', hnode', hid', htag', hget', hvariant', hbinds'⟩ := of_isBinder h hb
  rw [targetsAt_eq hnode hvariant hbinds, targetsAt_eq hnode' hvariant' hbinds']
  intro name hname hname'
  obtain ⟨s, hs, rfl⟩ := List.mem_map.1 hname
  obtain ⟨t, ht, heq⟩ := List.mem_map.1 hname'
  have hids := (binder_inj htag' htag hget' hget ht hs (String.toList_injective heq)).1
  exact hne (hid.symm.trans (hids.symm.trans hid'))

theorem isWord_of_mem_targetsAt (hbinder : g.isBinder id = true) {name : List Char}
    (hname : name ∈ g.targetsAt id) : ∃ rest, name = '_' :: rest ∧ ∀ c ∈ name, Text.isWord c := by
  obtain ⟨node, variant, hnode, -, -, -, hvariant, hbinds⟩ := of_isBinder h hbinder
  rw [targetsAt_eq hnode hvariant hbinds] at hname
  obtain ⟨suffix, hsuffix, rfl⟩ := List.mem_map.1 hname
  refine ⟨_, Node.toList_variableName node (hbinds.ne_empty _ hsuffix), ?_⟩
  exact Node.isWord_of_mem_variableName (hbinds.word _ hsuffix)

end Builtin

/-- **No node overwrites the variable of another.**  Over the built-in catalog the statements of a
strategy are those of its nodes in the order of execution.  Each history, indicator and crossing
emits one statement, which assigns to some names.  All of these names are distinct, and each is made
of letters, digits and underscores and starts with an underscore. -/
theorem bindings_distinct (h : Reachable Catalog.builtin g) {options : Options} {name : String}
    {strategy : Strategy} (hcompile : g.compile options name = .ok strategy) :
    ∃ order, g.executionOrder = .ok order ∧
      strategy.statements = order.flatMap (fun id => (g.emitId {} id).statements) ∧
      (∀ id ∈ order, g.isBinder id = true → ∃ statement,
        (g.emitId {} id).statements = [statement] ∧ Text.targets statement.toList ≠ []) ∧
      ((order.filter g.isBinder).flatMap g.targetsAt).Nodup ∧
      ∀ target ∈ (order.filter g.isBinder).flatMap g.targetsAt,
        ∃ rest, target = '_' :: rest ∧ ∀ c ∈ target, c.isAlphanum = true ∨ c = '_' := by
  have hwf := h.wellFormed
  obtain ⟨hcyclic, -⟩ := of_compile hwf hcompile
  refine ⟨_, executionOrder_eq_ok hwf hcyclic, statements_of_compile hwf hcompile, ?_, ?_, ?_⟩
  · intro id _ hbinder
    obtain ⟨node, variant, hnode, -, -, -, hvariant, hbinds⟩ := of_isBinder hwf hbinder
    exact exists_statement hnode hvariant hbinds
  · refine List.nodup_flatMap.2 ⟨fun id hid => ?_, ?_⟩
    · exact targetsAt_nodup hwf (List.mem_filter.1 hid).2
    · refine ((order_nodup hwf).filter _).imp_of_mem fun ha hb hne => ?_
      exact targetsAt_disjoint hwf (List.mem_filter.1 ha).2 (List.mem_filter.1 hb).2 hne
  · intro target htarget
    obtain ⟨id, hid, htarget⟩ := List.mem_flatMap.1 htarget
    obtain ⟨rest, hrest, hword⟩ := isWord_of_mem_targetsAt hwf (List.mem_filter.1 hid).2 htarget
    refine ⟨rest, hrest, fun c hc => ?_⟩
    simpa [Text.isWord] using hword c hc

end Graph

namespace Sample

/-- Two histories whose ids differ in punctuation only, one of them the escape of the other, feed an
indicator with three results and an id beyond ASCII. -/
def punctuation : Graph := (Graph.ofDocument Catalog.builtin
  { nodes := [("a-1", "data.close_prices"), ("a_2d1", "data.close_prices"), ("é",
      "indicator.dmi"), ("gt", "logic.greater"), ("buy", "trade.buy")].map fun (id, type) =>
        ⟨id, type, {}, .empty⟩
    connections := [⟨"a-1", "prices", "é", "high"⟩, ⟨"a_2d1", "prices", "é", "low"⟩,
      ⟨"a-1", "prices", "é", "close"⟩, ⟨"a-1", "current", "gt", "a"⟩,
      ⟨"a_2d1", "current", "gt", "b"⟩, ⟨"gt", "result", "buy", "condition"⟩] }).graph

end Sample

namespace Graph

/-- Five names are bound, and they differ. -/
theorem punctuation_bindings :
    Reachable Catalog.builtin Sample.punctuation ∧
    ∃ strategy, Sample.punctuation.compile {} "Names" = .ok strategy ∧
      ∃ order, Sample.punctuation.executionOrder = .ok order ∧
        (order.filter Sample.punctuation.isBinder).flatMap Sample.punctuation.targetsAt =
          ["_data_close_prices_a_2d1_closes", "_data_close_prices_a_5f2d1_closes",
            "_indicator_dmi__c3_a9_dmi_pdi", "_indicator_dmi__c3_a9_dmi_mdi",
            "_indicator_dmi__c3_a9_dmi_adx"].map String.toList ∧
        ((order.filter Sample.punctuation.isBinder).flatMap
          Sample.punctuation.targetsAt).Nodup := by
  have h : Reachable Catalog.builtin Sample.punctuation := .loaded (by decide +kernel)
  have hvalues : Sample.punctuation.validate = [] ∧
      Sample.punctuation.executionOrder = .ok ["a-1", "a_2d1", "é", "gt", "buy"] := by
    decide +kernel
  obtain ⟨hvalid, horder⟩ := hvalues
  have hcompile : Sample.punctuation.compile {} "Names" = .ok (Sample.punctuation.strategyOf {}
      "Names" ["a-1", "a_2d1", "é", "gt", "buy"]) := compile_of_valid hvalid horder
  obtain ⟨order, hok, -, -, hnodup, -⟩ := bindings_distinct h hcompile
  obtain rfl : order = ["a-1", "a_2d1", "é", "gt", "buy"] :=
    Except.ok.inj (hok.symm.trans horder)
  exact ⟨h, _, hcompile, _, hok, by decide +kernel, hnodup⟩

end Graph

end Blueprint
