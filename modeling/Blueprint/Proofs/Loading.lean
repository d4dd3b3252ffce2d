import Blueprint.Proofs.Connecting

/-!
# Which documents load

A document is loaded in two passes.  Its nodes are added one after the other, and if their ids are
distinct, their types registered and their places finite, they become the nodes of a graph
(`Graph.ofRecords`).  Then its connections are made one after the other.  What becomes of a stored
connection depends on the nodes alone (`Graph.attach`): it is refused if it joins a node to itself,
dropped if one of its ends does not exist, refused if its types do not fit, and else made.  These
reasons come in this order, so a connection of a node to itself is refused even if its ends do not
exist.

Main statement: a document loads exactly if none of its connections is refused, and the ones that
are dropped might as well not be there (`Graph.load_ok_iff`).
-/

namespace Blueprint

/-- The node that a stored node becomes over a catalog. -/
def NodeRecord.node (catalog : Catalog) (record : NodeRecord) : Node where
  id := record.id
  type := record.type
  position := record.position
  parameters := record.parameters
  inputs := ((catalog.get? record.type).map (·.inputs)).getD []
  outputs := ((catalog.get? record.type).map (·.outputs)).getD []

/-- The nodes of the document can be added: their ids are distinct, their types are registered and
their places are finite. -/
structure Document.Buildable (catalog : Catalog) (document : Document) : Prop where
  /-- No two nodes share an id. -/
  ids_nodup : (document.nodes.map (·.id)).Nodup
  /-- The types are registered. -/
  registered : ∀ record ∈ document.nodes, (catalog.get? record.type).isSome
  /-- The places are finite. -/
  placed : ∀ record ∈ document.nodes, record.position.isFinite = true

namespace ConnectionRecord

@[simp] theorem source_node (record : ConnectionRecord) : record.source.node = record.sourceNode :=
  rfl

@[simp] theorem target_node (record : ConnectionRecord) : record.target.node = record.targetNode :=
  rfl

end ConnectionRecord

namespace Graph

/-- The graph of stored nodes, without connections. -/
def ofRecords (catalog : Catalog) (records : List NodeRecord) : Graph :=
  { empty catalog with nodes := records.map (NodeRecord.node catalog) }

/-- What a stored connection makes of a graph. -/
def attach (g : Graph) (record : ConnectionRecord) : Except EditError Graph :=
  if record.sourceNode = record.targetNode then
    .error (.rejected record.source record.target .sameNode)
  else
    match g.port? record.source, g.port? record.target with
    | some a, some b =>
      if a.type.canConnect b.type then .ok (g.join record.source record.target b.multi)
      else .error (.rejected record.source record.target (.types a.type b.type))
    | _, _ => .ok g

/-- A stored connection has an end that does not exist. -/
def Dangling (g : Graph) (record : ConnectionRecord) : Prop :=
  g.port? record.source = none ∨ g.port? record.target = none

/-- A stored connection joins two nodes, and its types fit if it has both ends. -/
structure Admissible (g : Graph) (record : ConnectionRecord) : Prop where
  /-- The nodes are different. -/
  node_ne : record.sourceNode ≠ record.targetNode
  /-- The types fit. -/
  types : ∀ a b, g.port? record.source = some a → g.port? record.target = some b →
    a.type.canConnect b.type = true

/-! ### Stored connections -/

section

variable {g g' : Graph} {record : ConnectionRecord}

theorem port?_of_nodes_eq (h : g'.nodes = g.nodes) : g'.port? = g.port? := by
  funext ref
  simp only [port?, node?, h]

theorem Dangling.of_nodes_eq (h : g.Dangling record) (hnodes : g'.nodes = g.nodes) :
    g'.Dangling record := by
  unfold Dangling
  rw [port?_of_nodes_eq hnodes]
  exact h

theorem Admissible.of_nodes_eq (h : g.Admissible record) (hnodes : g'.nodes = g.nodes) :
    g'.Admissible record where
  node_ne := h.node_ne
  types := port?_of_nodes_eq hnodes ▸ h.types

/-- A dangling connection between different nodes changes nothing. -/
theorem attach_of_dangling (hne : record.sourceNode ≠ record.targetNode) (h : g.Dangling record) :
    g.attach record = .ok g := by
  unfold attach
  rw [if_neg hne]
  rcases h with hsource | htarget
  · rw [hsource]
  · rw [htarget]
    cases g.port? record.source <;> rfl

theorem nodes_of_attach (h : g.attach record = .ok g') : g'.nodes = g.nodes := by
  unfold attach at h
  split_ifs at h
  split at h
  · split_ifs at h
    rw [← Except.ok.inj h, join_nodes]
  · rw [← Except.ok.inj h]

theorem attach_ok_iff : (∃ g', g.attach record = .ok g') ↔ g.Admissible record := by
  constructor
  · rintro ⟨g', h⟩
    unfold attach at h
    split_ifs at h with hne
    refine ⟨hne, fun a b hsource htarget => ?_⟩
    rw [hsource, htarget] at h
    simp only at h
    split_ifs at h with htypes
    exact htypes
  · intro h
    unfold attach
    rw [if_neg h.node_ne]
    cases hsource : g.port? record.source with
    | none => exact ⟨g, rfl⟩
    | some a =>
      cases htarget : g.port? record.target with
      | none => exact ⟨g, rfl⟩
      | some b => exact ⟨_, if_pos (h.types a b hsource htarget)⟩

/-- **Stored connections can be attached one after the other** exactly if each of them is admissible
from the start. -/
theorem foldlM_attach_ok_iff {records : List ConnectionRecord} :
    (∃ g', records.foldlM attach g = .ok g') ↔ ∀ record ∈ records, g.Admissible record := by
  induction records generalizing g with
  | nil => exact ⟨fun _ _ hmem => (nomatch hmem), fun _ => ⟨g, rfl⟩⟩
  | cons record rest ih =>
    rw [List.foldlM_cons, List.forall_mem_cons, ← attach_ok_iff]
    cases hattach : g.attach record with
    | error e =>
      constructor
      · rintro ⟨g', h⟩
        cases h
      · rintro ⟨⟨g', h⟩, -⟩
        cases h
    | ok g' =>
      -- What is admissible is decided by the nodes, which stay as they are.
      have hnodes := nodes_of_attach hattach
      constructor
      · intro h
        exact ⟨⟨g', rfl⟩, fun other hmem => (ih.1 h other hmem).of_nodes_eq hnodes.symm⟩
      · rintro ⟨-, h⟩
        exact ih.2 fun other hmem => (h other hmem).of_nodes_eq hnodes

theorem nodes_of_foldlM_attach {records : List ConnectionRecord}
    (h : records.foldlM attach g = .ok g') : g'.nodes = g.nodes := by
  induction records generalizing g with
  | nil => rw [← Except.ok.inj h]
  | cons record rest ih =>
    rw [List.foldlM_cons] at h
    cases hattach : g.attach record with
    | error e =>
      rw [hattach] at h
      cases h
    | ok next =>
      rw [hattach] at h
      exact (ih h).trans (nodes_of_attach hattach)

/-- A dangling connection between different nodes might as well not be there. -/
theorem foldlM_attach_dangling (hne : record.sourceNode ≠ record.targetNode)
    (h : g.Dangling record) (before after : List ConnectionRecord) :
    (before ++ record :: after).foldlM attach g = (before ++ after).foldlM attach g := by
  rw [List.foldlM_append, List.foldlM_append]
  cases hbefore : before.foldlM attach g with
  | error e => rfl
  | ok next =>
    have hnext := attach_of_dangling hne (h.of_nodes_eq (nodes_of_foldlM_attach hbefore))
    show (record :: after).foldlM attach next = after.foldlM attach next
    rw [List.foldlM_cons, hnext]
    rfl

end

end Graph

namespace Edit

open Blueprint.Graph

variable {catalog : Catalog} {s : Session}

/-- A connection is dropped, with a note, if connecting misses one of its ends. -/
theorem run_loadConnection_of_absence {record : ConnectionRecord} {port : PortRef}
    (h : (connect record.source record.target).run s = .error (s.graph.absence port) s) :
    (loadConnection record).run s =
      .ok () ⟨s.graph, s.notes ++ [.connectionDropped record.source record.target]⟩ := by
  rw [loadConnection, run_tryCatch, run_discard, h, absence]
  cases s.graph.node? port.node <;> rfl

/-- **Loading a connection attaches it**, or it is refused before it changes anything.  A dangling
connection that is not refused is noted. -/
theorem run_loadConnection_cases (hnum : s.graph.UniqueNumbers) (record : ConnectionRecord) :
    (∃ e, s.graph.attach record = .error e ∧ (loadConnection record).run s = .error e s) ∨
    ∃ g notes, s.graph.attach record = .ok g ∧
      (loadConnection record).run s = .ok () ⟨g, s.notes ++ notes⟩ ∧
      (s.graph.Dangling record → .connectionDropped record.source record.target ∈ notes) := by
  have hconnect := run_connect s record.source record.target hnum
  rw [if_pos ⟨rfl, rfl⟩, ConnectionRecord.source_node, ConnectionRecord.target_node] at hconnect
  unfold attach
  by_cases hnode : record.sourceNode = record.targetNode
  · rw [if_pos hnode] at hconnect ⊢
    refine .inl ⟨_, rfl, ?_⟩
    rw [loadConnection, run_tryCatch, run_discard, hconnect]
    rfl
  rw [if_neg hnode] at hconnect ⊢
  cases hsource : s.graph.port? record.source with
  | none =>
    rw [hsource] at hconnect
    exact .inr ⟨_, _, rfl, run_loadConnection_of_absence hconnect,
      fun _ => List.mem_singleton_self _⟩
  | some a =>
    cases htarget : s.graph.port? record.target with
    | none =>
      rw [hsource, htarget] at hconnect
      exact .inr ⟨_, _, rfl, run_loadConnection_of_absence hconnect,
        fun _ => List.mem_singleton_self _⟩
    | some b =>
      by_cases htypes : a.type.canConnect b.type = true
      · obtain ⟨id, notes, hrun⟩ :=
          run_connect_of_joinable hnum ⟨rfl, rfl, hnode, hsource, htarget, htypes⟩
        refine .inr ⟨_, notes, if_pos htypes, ?_, ?_⟩
        · rw [loadConnection, run_tryCatch, run_discard, hrun]
        · rintro (hnone | hnone)
          · rw [hsource] at hnone
            cases hnone
          · rw [htarget] at hnone
            cases hnone
      · rw [hsource, htarget] at hconnect
        simp only [htypes] at hconnect
        refine .inl ⟨_, if_neg htypes, ?_⟩
        rw [loadConnection, run_tryCatch, run_discard, hconnect]
        rfl

theorem wellFormed_attach {g g' : Graph} (h : WellFormed catalog g) {record : ConnectionRecord}
    (hattach : g.attach record = .ok g') : WellFormed catalog g' := by
  have hkept := Keeps.loadConnection connect_wellFormed record ⟨g, []⟩ h
  obtain ⟨e, hrefused, -⟩ | ⟨next, notes, hnext, hrun, -⟩ :=
    run_loadConnection_cases (s := ⟨g, []⟩) h.uniqueNumbers record
  · rw [hattach] at hrefused
    cases hrefused
  · obtain rfl : g' = next := Except.ok.inj (hattach.symm.trans hnext)
    rw [after_of_ok hrun] at hkept
    exact hkept

/-- **Loading connections attaches them one after the other**, up to the first that is refused. -/
theorem run_forM_loadConnection_cases (hwf : WellFormed catalog s.graph)
    (records : List ConnectionRecord) :
    (∃ e t, records.foldlM attach s.graph = .error e ∧
      (records.forM loadConnection).run s = .error e t) ∨
    ∃ g notes, records.foldlM attach s.graph = .ok g ∧
      (records.forM loadConnection).run s = .ok () ⟨g, s.notes ++ notes⟩ ∧
      ∀ record ∈ records, s.graph.Dangling record →
        .connectionDropped record.source record.target ∈ notes := by
  induction records generalizing s with
  | nil =>
    refine .inr ⟨s.graph, [], rfl, ?_, fun _ hmem => (nomatch hmem)⟩
    rw [List.append_nil]
    rfl
  | cons record rest ih =>
    rw [List.foldlM_cons, List.forM_eq_forM, List.forM_cons, EStateM.run_bind]
    obtain ⟨e, hattach, hrun⟩ | ⟨g, notes, hattach, hrun, hnoted⟩ :=
      run_loadConnection_cases hwf.uniqueNumbers record
    · rw [hattach, hrun]
      exact .inl ⟨e, s, rfl, rfl⟩
    · rw [hattach, hrun]
      obtain ⟨e, t, hrest, hrun'⟩ | ⟨g', notes', hrest, hrun', hnoted'⟩ :=
        ih (s := ⟨g, s.notes ++ notes⟩) (wellFormed_attach hwf hattach)
      · exact .inl ⟨e, t, hrest, hrun'⟩
      · refine .inr ⟨g', notes ++ notes', hrest, ?_, ?_⟩
        · rw [← List.append_assoc]
          exact hrun'
        · intro other hmem hdangling
          rcases List.mem_cons.1 hmem with rfl | hmem
          · exact List.mem_append_left _ (hnoted hdangling)
          · exact List.mem_append_right _
              (hnoted' other hmem (hdangling.of_nodes_eq (nodes_of_attach hattach)))

/-! ### Stored nodes -/

theorem map_record_node (records : List NodeRecord) :
    (records.map (NodeRecord.node catalog)).map Node.record = records := by
  rw [List.map_map]
  exact List.map_id' records

theorem map_id_node (records : List NodeRecord) :
    (records.map (NodeRecord.node catalog)).map (·.id) = records.map (·.id) := by
  rw [List.map_map]
  rfl

/-- The stored form of a node of a registered type has the ports that its variant declares. -/
theorem exists_variant_node {record : NodeRecord} (h : (catalog.get? record.type).isSome) :
    ∃ variant, catalog.get? record.type = some variant ∧
      (record.node catalog).inputs = variant.inputs ∧
      (record.node catalog).outputs = variant.outputs := by
  obtain ⟨variant, hvariant⟩ := Option.isSome_iff_exists.1 h
  refine ⟨variant, hvariant, ?_, ?_⟩
  · rw [NodeRecord.node, hvariant]
    rfl
  · rw [NodeRecord.node, hvariant]
    rfl

theorem run_forM_loadNode_of_buildable {document : Document} (h : document.Buildable catalog) :
    (document.nodes.forM loadNode).run ⟨empty catalog, []⟩ = .ok ()
      ⟨ofRecords catalog document.nodes,
        document.nodes.map fun record => .event (.nodeAdded record.id)⟩ := by
  have hregistered : ∀ node ∈ document.nodes.map (NodeRecord.node catalog), ∃ variant,
      catalog.get? node.type = some variant ∧ node.inputs = variant.inputs ∧
        node.outputs = variant.outputs :=
    List.forall_mem_map.2 fun record hmem => exists_variant_node (h.registered record hmem)
  have hadded := run_forM_loadNode (s := ⟨empty catalog, []⟩) hregistered
    (List.forall_mem_map.2 h.placed) (by rw [map_id_node]; exact h.ids_nodup)
  rw [map_record_node, List.map_map] at hadded
  exact hadded

theorem wellFormed_ofRecords {document : Document} (h : document.Buildable catalog) :
    WellFormed catalog (ofRecords catalog document.nodes) := by
  have hset : ∀ id parameters, (changeNode id fun node => { node with parameters }).Keeps
      (WellFormed catalog) := fun id _ => changeNode_wellFormed id fun _ => ⟨rfl, rfl, rfl, rfl⟩
  have hkept := Keeps.forM (Keeps.loadNode addNodeAs_wellFormed hset) document.nodes
    ⟨empty catalog, []⟩ (wellFormed_empty catalog)
  rw [after_of_ok (run_forM_loadNode_of_buildable h)] at hkept
  exact hkept

theorem of_run_loadNode {record : NodeRecord} {t : Session}
    (h : (loadNode record).run s = .ok () t) :
    record.id ∉ s.graph.ids ∧ (s.graph.catalog.get? record.type).isSome ∧
      record.position.isFinite = true ∧
      t.graph = { s.graph with nodes := s.graph.nodes ++ [record.node s.graph.catalog] } := by
  have hrun := h
  rw [loadNode, EStateM.run_bind, run_addNodeAs, run_insertNode] at h
  by_cases hid : s.graph.hasNode record.id = true
  · rw [if_pos hid] at h
    cases h
  by_cases hfinite : record.position.isFinite = true
  · cases hvariant : s.graph.catalog.get? record.type with
    | none =>
      rw [if_neg hid, if_pos hfinite, hvariant] at h
      cases h
    | some variant =>
      have hfree : record.id ∉ s.graph.ids := fun hmem => hid (hasNode_iff.2 hmem)
      obtain ⟨variant, hget, hinputs, houtputs⟩ :=
        exists_variant_node (Option.isSome_iff_exists.2 ⟨variant, hvariant⟩)
      have hadded : (loadNode (record.node s.graph.catalog).record).run s = .ok () _ :=
        run_loadNode hget hinputs houtputs hfinite hfree
      injection hadded.symm.trans hrun with _ ht
      rw [← ht]
      exact ⟨hfree, rfl, hfinite, rfl⟩
  · rw [if_neg hid, if_neg hfinite] at h
    cases h

theorem of_run_forM_loadNode {records : List NodeRecord} {t : Session}
    (h : (records.forM loadNode).run s = .ok () t) :
    (∀ record ∈ records, record.id ∉ s.graph.ids ∧ (s.graph.catalog.get? record.type).isSome ∧
      record.position.isFinite = true) ∧ (records.map (·.id)).Nodup := by
  induction records generalizing s with
  | nil => exact ⟨fun _ hmem => (nomatch hmem), List.nodup_nil⟩
  | cons record rest ih =>
    rw [List.forM_eq_forM, List.forM_cons, EStateM.run_bind] at h
    cases hfirst : (loadNode record).run s with
    | error e t =>
      rw [hfirst] at h
      cases h
    | ok u next =>
      rw [hfirst] at h
      obtain ⟨hfree, hregistered, hfinite, hgraph⟩ := of_run_loadNode hfirst
      obtain ⟨hrest, hnodup⟩ := ih h
      rw [hgraph] at hrest
      -- The nodes that come later meet the new id among those in use.
      have hids : ids { s.graph with nodes := s.graph.nodes ++ [record.node s.graph.catalog] } =
          s.graph.ids ++ [record.id] := List.map_append
      rw [hids] at hrest
      refine ⟨List.forall_mem_cons.2 ⟨⟨hfree, hregistered, hfinite⟩, fun other hmem => ?_⟩, ?_⟩
      · obtain ⟨hother, hothers⟩ := hrest other hmem
        exact ⟨fun hold => hother (List.mem_append_left _ hold), hothers⟩
      · rw [List.map_cons, List.nodup_cons]
        refine ⟨fun hmem => ?_, hnodup⟩
        obtain ⟨other, hother, hid⟩ := List.mem_map.1 hmem
        exact (hrest other hother).1 (List.mem_append_right _ (List.mem_singleton.2 hid))

end Edit

/-! ### Documents -/

namespace Graph

variable {catalog : Catalog} {document : Document}

theorem buildable_of_outcome_ok (h : (ofDocument catalog document).outcome = .ok ()) :
    document.Buildable catalog := by
  rw [ofDocument, Edit.apply, Edit.load, EStateM.run_bind] at h
  cases hnodes : (document.nodes.forM Edit.loadNode).run ⟨empty catalog, []⟩ with
  | error e t =>
    rw [hnodes] at h
    cases h
  | ok u t =>
    obtain ⟨hadded, hnodup⟩ := Edit.of_run_forM_loadNode hnodes
    exact ⟨hnodup, fun record hmem => (hadded record hmem).2.1,
      fun record hmem => (hadded record hmem).2.2⟩

/-- **Loading a buildable document attaches its connections to its nodes**, up to the first that is
refused, and notes the ones that it drops. -/
theorem ofDocument_cases (h : document.Buildable catalog) :
    (∃ e, document.connections.foldlM attach (ofRecords catalog document.nodes) = .error e ∧
      (ofDocument catalog document).outcome = .error e) ∨
    (document.connections.foldlM attach (ofRecords catalog document.nodes) =
        .ok (ofDocument catalog document).graph ∧
      (ofDocument catalog document).outcome = .ok () ∧
      ∀ record ∈ document.connections, (ofRecords catalog document.nodes).Dangling record →
        .connectionDropped record.source record.target ∈ (ofDocument catalog document).notes) := by
  have hrun : (Edit.load document).run ⟨empty catalog, []⟩ =
      (document.connections.forM Edit.loadConnection).run ⟨ofRecords catalog document.nodes,
        document.nodes.map fun record => .event (.nodeAdded record.id)⟩ := by
    rw [Edit.load, EStateM.run_bind, Edit.run_forM_loadNode_of_buildable h]
  obtain ⟨e, t, hattach, hconnections⟩ | ⟨g, notes, hattach, hconnections, hnoted⟩ :=
    Edit.run_forM_loadConnection_cases (s := ⟨ofRecords catalog document.nodes,
      document.nodes.map fun record => .event (.nodeAdded record.id)⟩)
      (Edit.wellFormed_ofRecords h) document.connections
  · refine .inl ⟨e, hattach, ?_⟩
    rw [ofDocument, Edit.apply, hrun, hconnections]
  · rw [ofDocument, Edit.apply, hrun, hconnections]
    exact .inr ⟨hattach, rfl, fun record hmem hdangling =>
      List.mem_append_right _ (hnoted record hmem hdangling)⟩

theorem outcome_ofDocument (h : document.Buildable catalog) :
    (ofDocument catalog document).outcome =
      (document.connections.foldlM attach (ofRecords catalog document.nodes)).map fun _ => () := by
  obtain ⟨e, hattach, houtcome⟩ | ⟨hattach, houtcome, -⟩ := ofDocument_cases h
  · rw [houtcome, hattach]
    rfl
  · rw [houtcome, hattach]
    rfl

theorem attach_of_outcome_ok (h : document.Buildable catalog)
    (hok : (ofDocument catalog document).outcome = .ok ()) :
    document.connections.foldlM attach (ofRecords catalog document.nodes) =
        .ok (ofDocument catalog document).graph ∧
      ∀ record ∈ document.connections, (ofRecords catalog document.nodes).Dangling record →
        .connectionDropped record.source record.target ∈ (ofDocument catalog document).notes := by
  obtain ⟨e, -, houtcome⟩ | ⟨hattach, -, hnoted⟩ := ofDocument_cases h
  · rw [houtcome] at hok
    cases hok
  · exact ⟨hattach, hnoted⟩

theorem nodes_ofDocument (hok : (ofDocument catalog document).outcome = .ok ()) :
    (ofDocument catalog document).graph.nodes = document.nodes.map (NodeRecord.node catalog) :=
  nodes_of_foldlM_attach (attach_of_outcome_ok (buildable_of_outcome_ok hok) hok).1

theorem outcome_ok_iff_admissible (h : document.Buildable catalog) :
    (ofDocument catalog document).outcome = .ok () ↔
      ∀ record ∈ document.connections, (ofRecords catalog document.nodes).Admissible record := by
  rw [← foldlM_attach_ok_iff, outcome_ofDocument h]
  cases document.connections.foldlM attach (ofRecords catalog document.nodes) with
  | error e => exact ⟨fun hok => (nomatch hok), fun ⟨_, hok⟩ => (nomatch hok)⟩
  | ok g => exact ⟨fun _ => ⟨g, rfl⟩, fun _ => rfl⟩

/-- **A document loads exactly if none of its connections is refused.**  Let the ids of its nodes be
distinct, their types registered and their places finite.  Then it loads exactly if each of its
connections joins two different nodes, and has types that fit if both its ends exist.  A connection
between different nodes that has an end that does not exist is dropped, with a note: without this
connection the document has the same outcome, and if it loads, it is the same graph. -/
theorem load_ok_iff (h : document.Buildable catalog) :
    ((ofDocument catalog document).outcome = .ok () ↔
      ∀ record ∈ document.connections, record.sourceNode ≠ record.targetNode ∧
        ∀ a b, (ofRecords catalog document.nodes).port? record.source = some a →
          (ofRecords catalog document.nodes).port? record.target = some b →
            a.type.canConnect b.type = true) ∧
    ∀ before record after, document.connections = before ++ record :: after →
      record.sourceNode ≠ record.targetNode →
      ((ofRecords catalog document.nodes).port? record.source = none ∨
        (ofRecords catalog document.nodes).port? record.target = none) →
      (ofDocument catalog document).outcome =
        (ofDocument catalog { document with connections := before ++ after }).outcome ∧
      ((ofDocument catalog document).outcome = .ok () →
        (ofDocument catalog document).graph =
          (ofDocument catalog { document with connections := before ++ after }).graph ∧
        .connectionDropped record.source record.target ∈ (ofDocument catalog document).notes) := by
  constructor
  · rw [outcome_ok_iff_admissible h]
    exact forall₂_congr fun record _ => ⟨fun hrecord => ⟨hrecord.node_ne, hrecord.types⟩,
      fun hrecord => ⟨hrecord.1, hrecord.2⟩⟩
  · intro before record after hconnections hne hdangling
    -- Without the connection the document has the same nodes, and attaching gives the same.
    have hwithout : { document with connections := before ++ after }.Buildable catalog :=
      ⟨h.ids_nodup, h.registered, h.placed⟩
    have hsame := foldlM_attach_dangling hne hdangling before after
    rw [← hconnections] at hsame
    have houtcome : (ofDocument catalog document).outcome =
        (ofDocument catalog { document with connections := before ++ after }).outcome := by
      rw [outcome_ofDocument h, outcome_ofDocument hwithout, hsame]
    refine ⟨houtcome, fun hok => ?_⟩
    obtain ⟨hgraph, hnoted⟩ := attach_of_outcome_ok h hok
    have hgraph' := (attach_of_outcome_ok hwithout (houtcome ▸ hok)).1
    refine ⟨Except.ok.inj (hgraph.symm.trans (hsame.trans hgraph')), hnoted record ?_ hdangling⟩
    rw [hconnections]
    exact List.mem_append_right _ List.mem_cons_self

end Graph

namespace Sample

/-- Two joints that feed each other. -/
def loop : Document := document ["s", "a"] [⟨"s", "out", "a", "one"⟩, ⟨"a", "out", "s", "many"⟩]

/-- The loop with a connection to a node that is not there. -/
def stray : Document := document ["s", "a"]
  [⟨"s", "out", "a", "one"⟩, ⟨"s", "out", "ghost", "one"⟩, ⟨"a", "out", "s", "many"⟩]

end Sample

namespace Graph

theorem stray_loads :
    Sample.stray.Buildable Sample.catalog ∧
    (ofDocument Sample.catalog Sample.stray).outcome = .ok () ∧
    (ofDocument Sample.catalog Sample.stray).graph =
      (ofDocument Sample.catalog Sample.loop).graph ∧
    .connectionDropped (.output "s" "out") (.input "ghost" "one") ∈
      (ofDocument Sample.catalog Sample.stray).notes := by
  have hbuildable : Sample.stray.Buildable Sample.catalog :=
    ⟨by decide, by decide, by decide⟩
  have hok : (ofDocument Sample.catalog Sample.stray).outcome = .ok () := by
    decide +kernel
  obtain ⟨-, hdropped⟩ := load_ok_iff hbuildable
  exact ⟨hbuildable, hok, (hdropped [⟨"s", "out", "a", "one"⟩] ⟨"s", "out", "ghost", "one"⟩
    [⟨"a", "out", "s", "many"⟩] rfl (by decide) (.inr (by decide +kernel))).2 hok⟩

/-- A connection of a node to itself from an output that it does not have, and one between the ports
of a node that does not exist, are both refused and not dropped. -/
theorem self_record_refused :
    (ofRecords Catalog.builtin [⟨"a", "logic.greater", {}, .empty⟩]).port?
      (.output "a" "nope") = none ∧
    (ofDocument Catalog.builtin ⟨[⟨"a", "logic.greater", {}, .empty⟩],
      [⟨"a", "nope", "a", "b"⟩]⟩).outcome =
        .error (.rejected (.output "a" "nope") (.input "a" "b") .sameNode) ∧
    (ofDocument Catalog.builtin ⟨[], [⟨"ghost", "x", "ghost", "y"⟩]⟩).outcome =
      .error (.rejected (.output "ghost" "x") (.input "ghost" "y") .sameNode) := by
  decide +kernel

end Graph

end Blueprint
