import Blueprint.Document.Load
import Blueprint.Proofs.DocumentText
import Blueprint.Proofs.Loading

/-!
# Which graphs store finite numbers only

A number that is not finite has no form in a text: it is written as `null`, which does not read back
(`Document.parse?_render_isSome_iff`), and no text brings such a number in
(`Document.isFinite_of_parse?`).  Actions check the places and values that they are given.  Two
doors stay open: a new node takes the defaults of its variant as they are, and a document that is no
text keeps the parameters that it has.

Main statement: all sequences of actions on a graph keep its numbers finite exactly if they are
finite at the start and the defaults of the catalog are finite; and a reachable graph can be stored
as a text exactly if its numbers are finite (`Graph.stores_finite_iff`).
-/

namespace Blueprint

/-! ### Only finite numbers are read -/

theorem SortedMap.mem_of_mem_ofList {α : Type} {bindings : List (String × α)} {entry : String × α}
    (h : entry ∈ (ofList bindings).entries) : entry ∈ bindings := by
  rcases mem_of_mem_foldl entries (fun binding => binding) (fun _ _ _ => mem_insertEntry) h with
    hnone | ⟨binding, hmem, rfl⟩
  · cases hnone
  · exact hmem

namespace Json

theorem map_eq_of_mapM {α β : Type} {read : α → Option β} {l : List α} {r : List β}
    (h : l.mapM read = some r) : l.map read = r.map some := by
  induction l generalizing r with
  | nil =>
    obtain rfl : [] = r := Option.some.inj h
    rfl
  | cons a l ih =>
    rw [List.mapM_cons] at h
    obtain ⟨b, hb, h⟩ := Option.bind_eq_some_iff.1 h
    obtain ⟨bs, hbs, h⟩ := Option.bind_eq_some_iff.1 h
    obtain rfl := Option.some.inj h
    rw [List.map_cons, List.map_cons, hb, ih hbs]

theorem exists_read_of_mem {α β : Type} {read : α → Option β} {l : List α} {r : List β}
    (h : l.mapM read = some r) {a : α} (ha : a ∈ l) : ∃ b, read a = some b := by
  have hmem := List.mem_map_of_mem (f := read) ha
  rw [map_eq_of_mapM h] at hmem
  obtain ⟨b, -, hb⟩ := List.mem_map.1 hmem
  exact ⟨b, hb.symm⟩

theorem exists_mem_of_read {α β : Type} {read : α → Option β} {l : List α} {r : List β}
    (h : l.mapM read = some r) {b : β} (hb : b ∈ r) : ∃ a ∈ l, read a = some b := by
  have hmem := List.mem_map_of_mem (f := some) hb
  rw [← map_eq_of_mapM h] at hmem
  exact List.mem_map.1 hmem

theorem list?_eq_some {α : Type} {read : Json → Option α} {json : Json} {r : List α}
    (h : json.list? read = some r) {a : α} (ha : a ∈ r) : ∃ item, read item = some a := by
  cases json with
  | array items =>
    obtain ⟨item, -, hitem⟩ := exists_mem_of_read h ha
    exact ⟨item, hitem⟩
  | _ => cases h

theorem orElse_eq_some {α : Type} {read : Json → Option α} {default a : α} {field : Option Json}
    (h : orElse read default field = some a) : a = default ∨ ∃ json, read json = some a := by
  cases field with
  | none => exact .inl (Option.some.inj h).symm
  | some json => exact .inr ⟨json, h⟩

theorem isFinite_of_finite? {numeral : String} {x : Double} (h : finite? numeral = some x) :
    x.isFinite = true :=
  (Option.filter_eq_some_iff.1 h).2

theorem isFinite_of_needed {field : Option Json} {x : Double} (h : needed double? field = some x) :
    x.isFinite = true := by
  obtain ⟨json, -, h⟩ := Option.bind_eq_some_iff.1 h
  cases json with
  | number numeral => exact isFinite_of_finite? h
  | _ => cases h

end Json

/-- The values of the parameters are finite. -/
def Parameters.IsFinite (parameters : Parameters) : Prop :=
  ∀ entry ∈ parameters.entries, entry.2.isFinite = true

instance (parameters : Parameters) : Decidable parameters.IsFinite :=
  inferInstanceAs (Decidable (∀ entry ∈ parameters.entries, entry.2.isFinite = true))

theorem Value.isFinite_of_ofJson? {json : Json} {v : Value} (h : ofJson? json = some v) :
    v.isFinite = true := by
  cases json with
  | bool b =>
    obtain rfl := Option.some.inj h
    rfl
  | number numeral =>
    rw [ofJson?] at h
    split at h
    · obtain rfl := Option.some.inj h
      rfl
    · obtain ⟨x, hx, rfl⟩ := Option.map_eq_some_iff.1 h
      exact Json.isFinite_of_finite? hx
  | string spelled =>
    obtain ⟨text, -, rfl⟩ := Option.map_eq_some_iff.1 h
    rfl
  | _ => cases h

theorem Point.isFinite_of_ofJson? {json : Json} {p : Point} (h : ofJson? json = some p) :
    p.isFinite = true := by
  obtain ⟨fields, -, h⟩ := Option.bind_eq_some_iff.1 h
  split at h
  · obtain ⟨x, hx, h⟩ := Option.bind_eq_some_iff.1 h
    obtain ⟨y, hy, h⟩ := Option.bind_eq_some_iff.1 h
    obtain rfl := Option.some.inj h
    exact Bool.and_eq_true_iff.2 ⟨Json.isFinite_of_needed hx, Json.isFinite_of_needed hy⟩
  · cases h

theorem Parameters.isFinite_of_ofJson? {json : Json} {parameters : Parameters}
    (h : ofJson? json = some parameters) : parameters.IsFinite := by
  cases json with
  | object fields =>
    obtain ⟨bindings, hbindings, h⟩ := Option.bind_eq_some_iff.1 h
    obtain rfl := Option.some.inj h
    intro entry hentry
    obtain ⟨field, -, hfield⟩ :=
      Json.exists_mem_of_read hbindings (SortedMap.mem_of_mem_ofList hentry)
    obtain ⟨key, -, hpair⟩ := Option.bind_eq_some_iff.1 hfield
    obtain ⟨value, hvalue, hpair⟩ := Option.bind_eq_some_iff.1 hpair
    obtain rfl := Option.some.inj hpair
    exact Value.isFinite_of_ofJson? hvalue
  | _ => cases h

theorem NodeRecord.isFinite_of_ofJson? {json : Json} {record : NodeRecord}
    (h : ofJson? json = some record) : record.IsFinite := by
  obtain ⟨fields, -, h⟩ := Option.bind_eq_some_iff.1 h
  split at h
  · obtain ⟨id, -, h⟩ := Option.bind_eq_some_iff.1 h
    obtain ⟨type, -, h⟩ := Option.bind_eq_some_iff.1 h
    obtain ⟨position, hposition, h⟩ := Option.bind_eq_some_iff.1 h
    obtain ⟨parameters, hparameters, h⟩ := Option.bind_eq_some_iff.1 h
    obtain rfl := Option.some.inj h
    constructor
    · rcases Json.orElse_eq_some hposition with rfl | ⟨json, hposition⟩
      · show Point.isFinite {} = true
        decide
      · exact Point.isFinite_of_ofJson? hposition
    · rcases Json.orElse_eq_some hparameters with rfl | ⟨json, hparameters⟩
      · exact fun _ hentry => (nomatch hentry)
      · exact Parameters.isFinite_of_ofJson? hparameters
  · cases h

/-- **The numbers of a document that is read from a text are finite.** -/
theorem Document.isFinite_of_parse? {text : String} {document : Document}
    (h : parse? text = some document) : document.IsFinite := by
  obtain ⟨json, -, h⟩ := Option.bind_eq_some_iff.1 h
  obtain ⟨fields, -, h⟩ := Option.bind_eq_some_iff.1 h
  split at h
  · obtain ⟨nodes, hnodes, h⟩ := Option.bind_eq_some_iff.1 h
    obtain ⟨connections, -, h⟩ := Option.bind_eq_some_iff.1 h
    obtain rfl := Option.some.inj h
    intro record hrecord
    rcases Json.orElse_eq_some hnodes with rfl | ⟨json, hnodes⟩
    · cases hrecord
    · obtain ⟨item, hitem⟩ := Json.list?_eq_some hnodes hrecord
      exact NodeRecord.isFinite_of_ofJson? hitem
  · cases h

/-! ### Other numbers do not read back -/

theorem Json.isFinite_of_double?_ofDouble {x y : Double} (h : (ofDouble x).double? = some y) :
    x.isFinite = true := by
  by_contra hx
  rw [ofDouble, if_neg hx] at h
  cases h

theorem Value.isFinite_of_ofJson?_toJson {v w : Value} (h : ofJson? v.toJson = some w) :
    v.isFinite = true := by
  cases v with
  | float x =>
    show x.isFinite = true
    by_contra hx
    rw [toJson, Json.ofDouble, if_neg hx] at h
    cases h
  | _ => rfl

theorem Point.isFinite_of_ofJson?_toJson {p q : Point} (h : ofJson? p.toJson = some q) :
    p.isFinite = true := by
  have hrecord : p.toJson.record? ["x", "y"] = some [some (.ofDouble p.x), some (.ofDouble p.y)] :=
    Json.record?_ofFields (by decide) rfl
  rw [ofJson?, hrecord, Option.bind_eq_bind, Option.bind_some] at h
  obtain ⟨x, hx, h⟩ := Option.bind_eq_some_iff.1 h
  obtain ⟨y, hy, h⟩ := Option.bind_eq_some_iff.1 h
  exact Bool.and_eq_true_iff.2
    ⟨Json.isFinite_of_double?_ofDouble hx, Json.isFinite_of_double?_ofDouble hy⟩

theorem Parameters.isFinite_of_ofJson?_toJson {parameters restored : Parameters}
    (h : ofJson? parameters.toJson = some restored) : parameters.IsFinite := by
  obtain ⟨bindings, hbindings, h⟩ := Option.bind_eq_some_iff.1 h
  intro entry hentry
  obtain ⟨binding, hbinding⟩ := Json.exists_read_of_mem hbindings
    (List.mem_map_of_mem (List.mem_map_of_mem hentry))
  obtain ⟨key, -, hpair⟩ := Option.bind_eq_some_iff.1 hbinding
  obtain ⟨value, hvalue, -⟩ := Option.bind_eq_some_iff.1 hpair
  exact Value.isFinite_of_ofJson?_toJson hvalue

theorem NodeRecord.isFinite_of_ofJson?_toJson {record restored : NodeRecord}
    (h : ofJson? record.toJson = some restored) : record.IsFinite := by
  have hrecord : record.toJson.record? ["node_id", "node_type", "position", "parameters"] =
      some [some (.ofText record.id), some (.ofText record.type), some record.position.toJson,
        some record.parameters.toJson] :=
    Json.record?_ofFields (by decide) rfl
  rw [ofJson?, hrecord, Option.bind_eq_bind, Option.bind_some] at h
  obtain ⟨id, -, h⟩ := Option.bind_eq_some_iff.1 h
  obtain ⟨type, -, h⟩ := Option.bind_eq_some_iff.1 h
  obtain ⟨position, hposition, h⟩ := Option.bind_eq_some_iff.1 h
  obtain ⟨parameters, hparameters, h⟩ := Option.bind_eq_some_iff.1 h
  exact ⟨Point.isFinite_of_ofJson?_toJson hposition,
    Parameters.isFinite_of_ofJson?_toJson hparameters⟩

namespace Document

theorem parse?_render_eq (document : Document) :
    parse? document.render = ofJson? document.toJson := by
  rw [parse?, render, Json.pretty,
    Json.parse?_write Json.Layout.addsBlanks_indented document.hasNumerals_toJson,
    Option.bind_some]

theorem isFinite_of_parse?_render {document restored : Document}
    (h : parse? document.render = some restored) : document.IsFinite := by
  have hrecord : document.toJson.record? ["nodes", "connections"] =
      some [some (.array (document.nodes.map NodeRecord.toJson)),
        some (.array (document.connections.map ConnectionRecord.toJson))] :=
    Json.record?_ofFields (by decide) rfl
  rw [parse?_render_eq, ofJson?, hrecord, Option.bind_eq_bind, Option.bind_some] at h
  obtain ⟨nodes, hnodes, h⟩ := Option.bind_eq_some_iff.1 h
  intro record hmem
  obtain ⟨node, hnode⟩ := Json.exists_read_of_mem hnodes (List.mem_map_of_mem hmem)
  exact NodeRecord.isFinite_of_ofJson?_toJson hnode

/-- **The text of a document can be read exactly if its numbers are finite.** -/
theorem parse?_render_isSome_iff {document : Document} :
    (parse? document.render).isSome ↔ document.IsFinite := by
  constructor
  · intro h
    obtain ⟨restored, hrestored⟩ := Option.isSome_iff_exists.1 h
    exact isFinite_of_parse?_render hrestored
  · intro h
    rw [parse?_render_eq, ofJson?_toJson h]
    rfl

end Document

/-! ### Actions -/

/-- The parameters of new nodes are finite. -/
def Catalog.FiniteDefaults (catalog : Catalog) : Prop :=
  ∀ tag variant, catalog.get? tag = some variant →
    Parameters.IsFinite (.ofSchema variant.schema)

namespace Graph

variable {catalog : Catalog} {document : Document} {g g' : Graph}

/-- All numbers that the graph stores are finite. -/
structure IsFinite (g : Graph) : Prop where
  /-- The places of nodes are finite. -/
  placed : ∀ node ∈ g.nodes, node.position.isFinite = true
  /-- The parameters of nodes are finite. -/
  parameters : ∀ node ∈ g.nodes, node.parameters.IsFinite

instance (g : Graph) : Decidable g.IsFinite :=
  decidable_of_iff ((∀ node ∈ g.nodes, node.position.isFinite = true) ∧
    ∀ node ∈ g.nodes, node.parameters.IsFinite) ⟨fun h => ⟨h.1, h.2⟩, fun h => ⟨h.1, h.2⟩⟩

theorem isFinite_empty (catalog : Catalog) : (empty catalog).IsFinite :=
  ⟨fun _ hnode => (nomatch hnode), fun _ hnode => (nomatch hnode)⟩

theorem isFinite_toDocument_iff : g.toDocument.IsFinite ↔ g.IsFinite := by
  rw [toDocument_eq]
  constructor
  · intro h
    exact ⟨fun node hnode => (h _ (List.mem_map_of_mem hnode)).1,
      fun node hnode => (h _ (List.mem_map_of_mem hnode)).2⟩
  · intro h
    exact List.forall_mem_map.2 fun node hnode => ⟨h.placed node hnode, h.parameters node hnode⟩

theorem isFinite_ofDocument_iff (hok : (ofDocument catalog document).outcome = .ok ()) :
    (ofDocument catalog document).graph.IsFinite ↔ document.IsFinite := by
  rw [← isFinite_toDocument_iff, toDocument_eq, nodes_ofDocument hok, Edit.map_record_node]
  rfl

/-- What an action does to the nodes keeps their numbers finite, if those of new nodes are. -/
theorem IsFinite.of_nodesChange (hdefaults : catalog.FiniteDefaults) (h : g.IsFinite)
    (hchange : NodesChange catalog g.nodes g'.nodes) : g'.IsFinite := by
  refine ⟨Placed.of_nodesChange h.placed hchange, ?_⟩
  intro node hnode
  cases hchange with
  | fewer hsub => exact h.parameters node (hsub.subset hnode)
  | added _ hvariant heq =>
    rw [heq] at hnode
    rcases List.mem_append.1 hnode with hnode | hnode
    · exact h.parameters node hnode
    · rw [List.mem_singleton.1 hnode]
      exact hdefaults _ _ hvariant
  | tuned id change hvalues heq =>
    rw [heq] at hnode
    obtain ⟨old, hold, rfl⟩ := List.mem_map.1 hnode
    split_ifs
    · intro entry hentry
      rcases hvalues _ entry hentry with hentry | hfinite
      · exact h.parameters old hold entry hentry
      · exact hfinite
    · exact h.parameters old hold
  | moved _ heq =>
    rw [heq] at hnode
    obtain ⟨old, hold, rfl⟩ := List.mem_map.1 hnode
    have hparameters := h.parameters old hold
    split_ifs <;> exact hparameters

end Graph

theorem Action.keeps_isFinite {catalog : Catalog} (hdefaults : catalog.FiniteDefaults)
    (action : Action) : action.edit.Keeps fun g => g.WellFormed catalog ∧ g.IsFinite := by
  intro s hs
  have hchange := action.nodesChange hs.1.uniqueNumbers
  rw [hs.1.catalog_eq] at hchange
  exact ⟨action.keeps_wellFormed s hs.1, hs.2.of_nodesChange hdefaults hchange⟩

/-! ### Sequences of actions -/

namespace Graph

variable {catalog : Catalog} {document : Document} {g : Graph}

/-- **Sequences of actions keep numbers finite**, if those of new nodes are. -/
theorem isFinite_performAll (hdefaults : catalog.FiniteDefaults) (hwf : g.WellFormed catalog)
    (h : g.IsFinite) (actions : List Action) : (g.performAll actions).IsFinite := by
  induction actions generalizing g with
  | nil => exact h
  | cons action rest ih =>
    obtain ⟨hwf, h⟩ := (action.keeps_isFinite hdefaults).apply ⟨hwf, h⟩
    exact ih hwf h

theorem nodes_clear_addNodeAs {type : String} {variant : Variant}
    (hvariant : g.catalog.get? type = some variant) :
    (g.performAll [.clear, .addNodeAs "" type {}]).nodes = [.ofVariant "" type {} variant] := by
  show ((Action.addNodeAs "" type {}).perform
    { g with nodes := [], connections := [], drag := .idle }).nodes = _
  have hfree : hasNode { g with nodes := [], connections := [], drag := .idle } "" = false := rfl
  have hfinite : Point.isFinite {} = true := by decide
  simp [Action.perform, Action.edit, Edit.graph_apply, Edit.after,
    Edit.run_addNodeAs, Edit.run_insertNode, hfree, hfinite, hvariant]

/-- **Every sequence of actions on a graph keeps its numbers finite** exactly if they are finite and
those of new nodes are. -/
theorem isFinite_performAll_iff (hwf : g.WellFormed catalog) :
    (∀ actions, (g.performAll actions).IsFinite) ↔ g.IsFinite ∧ catalog.FiniteDefaults := by
  constructor
  · intro h
    refine ⟨h [], fun type variant hvariant => ?_⟩
    have hnodes := nodes_clear_addNodeAs (hwf.catalog_eq.symm ▸ hvariant)
    refine (h [.clear, .addNodeAs "" type {}]).parameters (.ofVariant "" type {} variant) ?_
    rw [hnodes]
    exact List.mem_singleton_self _
  · rintro ⟨h, hdefaults⟩
    exact isFinite_performAll hdefaults hwf h

/-! ### Texts -/

theorem ofText_render (h : Reachable catalog g) (hfinite : g.IsFinite) :
    ofText catalog g.toDocument.render = ⟨.ok (renewed catalog g), g.renewalNotes⟩ := by
  have hload : ofDocument catalog g.toDocument = ⟨.ok (), renewed catalog g, g.renewalNotes⟩ := by
    rw [ofDocument, Edit.apply, run_load_toDocument h.wellFormed h.placed]
  rw [ofText, Document.parse?_render_eq,
    Document.ofJson?_toJson (isFinite_toDocument_iff.2 hfinite), ofDocument?, hload]

theorem ofText_render_of_not_isFinite (h : ¬g.IsFinite) :
    ofText catalog g.toDocument.render = ⟨.error .malformed, []⟩ := by
  have hnone : Document.parse? g.toDocument.render = none := by
    rw [← Option.not_isSome_iff_eq_none, Document.parse?_render_isSome_iff, isFinite_toDocument_iff]
    exact h
  rw [ofText, hnone]
  rfl

theorem exists_document_of_ofText {text : String} (h : (ofText catalog text).outcome = .ok g) :
    ∃ document : Document, document.IsFinite ∧ (ofDocument catalog document).outcome = .ok () ∧
      (ofDocument catalog document).graph = g := by
  cases hparse : Document.parse? text with
  | none =>
    rw [ofText, hparse] at h
    cases h
  | some document =>
    rw [ofText, hparse, ofDocument?] at h
    refine ⟨document, Document.isFinite_of_parse? hparse, ?_⟩
    cases houtcome : (ofDocument catalog document).outcome with
    | error e =>
      simp only [houtcome] at h
      cases h
    | ok u =>
      simp only [houtcome] at h
      exact ⟨rfl, Except.ok.inj h⟩

/-- **When all numbers of a graph stay finite.**  The nodes of reachable graphs are always at finite
places.  Every sequence of actions keeps the parameters finite too, starting from the empty graph or
from a text, exactly if the defaults of the catalog are finite, and starting from a document,
exactly if its numbers are finite as well.  A reachable graph whose numbers are finite can be
stored as a text, which gives back its nodes and connections; the text of any other is refused. -/
theorem stores_finite_iff (catalog : Catalog) :
    (∀ g, Reachable catalog g → ∀ node ∈ g.nodes, node.position.isFinite = true) ∧
    ((∀ actions, ((empty catalog).performAll actions).IsFinite) ↔ catalog.FiniteDefaults) ∧
    (∀ text g, (ofText catalog text).outcome = .ok g →
      ((∀ actions, (g.performAll actions).IsFinite) ↔ catalog.FiniteDefaults)) ∧
    (∀ document, (ofDocument catalog document).outcome = .ok () →
      ((∀ actions, ((ofDocument catalog document).graph.performAll actions).IsFinite) ↔
        document.IsFinite ∧ catalog.FiniteDefaults)) ∧
    ∀ g, Reachable catalog g →
      (g.IsFinite → ∃ g', (ofText catalog g.toDocument.render).outcome = .ok g' ∧
        g'.nodes = g.nodes ∧
        g'.connections.map Connection.ends = g.connections.map Connection.ends) ∧
      (¬g.IsFinite → (ofText catalog g.toDocument.render).outcome = .error .malformed) := by
  have hdocument : ∀ document, (ofDocument catalog document).outcome = .ok () →
      ((∀ actions, ((ofDocument catalog document).graph.performAll actions).IsFinite) ↔
        document.IsFinite ∧ catalog.FiniteDefaults) := by
    intro document hok
    rw [isFinite_performAll_iff (Reachable.loaded hok).wellFormed, isFinite_ofDocument_iff hok]
  refine ⟨fun g h => h.placed, ?_, ?_, hdocument,
    fun g h => ⟨fun hfinite => ?_, fun hinfinite => ?_⟩⟩
  · rw [isFinite_performAll_iff (wellFormed_empty catalog)]
    exact and_iff_right (isFinite_empty catalog)
  · intro text g h
    obtain ⟨document, hfinite, hok, rfl⟩ := exists_document_of_ofText h
    rw [hdocument document hok]
    exact and_iff_right hfinite
  · rw [ofText_render h hfinite]
    exact ⟨_, rfl, rfl, Connection.map_ends_renumber 0 g.connections⟩
  · rw [ofText_render_of_not_isFinite hinfinite]

end Graph

theorem Catalog.finiteDefaults_of_entries {catalog : Catalog}
    (h : ∀ entry ∈ catalog.entries, Parameters.IsFinite (.ofSchema entry.2.schema)) :
    catalog.FiniteDefaults := by
  exact fun tag variant hvariant => h (tag, variant) (mem_of_lookup hvariant)

namespace Sample

/-- A factor that is not a number to begin with. -/
def gain : Variant where
  tag := "gain"
  category := .param
  title := "Gain"
  inputs := []
  outputs := [.output "out" .number "Out"]
  schema := [⟨"factor", .float, "Factor", .float (.nan false), none, none⟩]

/-- A new node of this kind. -/
def gained : Graph :=
  (Action.addNodeAs "n" "gain" {}).perform (.empty (Catalog.empty.register gain))

/-- A node with an infinite period. -/
def endless : Document where
  nodes := [⟨"n", "indicator.ma", {}, .ofList [("period", .float (.infinity false))]⟩]
  connections := []

end Sample

namespace Graph

/-- Over the built-in catalog all graphs that start empty keep finite numbers, and a graph with a
replaced connection reads back. -/
theorem builtin_stores_finite :
    Catalog.builtin.FiniteDefaults ∧
    (∀ actions, ((empty Catalog.builtin).performAll actions).IsFinite) ∧
    Reachable Sample.catalog Sample.rewired ∧ Sample.rewired.IsFinite ∧
    ∃ g', (ofText Sample.catalog Sample.rewired.toDocument.render).outcome = .ok g' ∧
      g'.nodes = Sample.rewired.nodes := by
  have hdefaults : Catalog.builtin.FiniteDefaults :=
    Catalog.finiteDefaults_of_entries (by decide +kernel)
  have h : Reachable Sample.catalog Sample.rewired :=
    ((Reachable.loaded (by decide +kernel)).step _).step _
  have hfinite : Sample.rewired.IsFinite := by decide +kernel
  obtain ⟨-, hruns, -⟩ := stores_finite_iff Catalog.builtin
  obtain ⟨-, -, -, -, htext⟩ := stores_finite_iff Sample.catalog
  obtain ⟨g', hread, hnodes, -⟩ := (htext _ h).1 hfinite
  exact ⟨hdefaults, hruns.2 hdefaults, h, hfinite, g', hread, hnodes⟩

/-- A default that is not a number comes in with a new node, and an infinite parameter with a
document, and the texts of these graphs are refused. -/
theorem gained_unreadable :
    Reachable (Catalog.empty.register Sample.gain) Sample.gained ∧ ¬Sample.gained.IsFinite ∧
    (ofText (Catalog.empty.register Sample.gain) Sample.gained.toDocument.render).outcome =
      .error .malformed ∧
    (ofDocument Catalog.builtin Sample.endless).outcome = .ok () ∧
    (ofText Catalog.builtin
      (ofDocument Catalog.builtin Sample.endless).graph.toDocument.render).outcome =
        .error .malformed := by
  have hgained : ¬Sample.gained.IsFinite := by decide +kernel
  have hendless : ¬(ofDocument Catalog.builtin Sample.endless).graph.IsFinite := by
    decide +kernel
  refine ⟨Reachable.empty.step _, hgained, ?_, by decide +kernel, ?_⟩
  · rw [ofText_render_of_not_isFinite hgained]
  · rw [ofText_render_of_not_isFinite hendless]

end Graph

end Blueprint
