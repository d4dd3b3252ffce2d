import Blueprint.Proofs.Reachable

/-!
# Well-formed graphs

Nodes, connections, numbers and the gesture of a graph have to agree with each other
(`Graph.WellFormed`).  Edits do one of two things to the connections: they keep some of them
(`WellFormed.restrict`), or they add one at the end (`WellFormed.append`).  A connection that
replaces another does both.

Main statement: every reachable graph is well formed (`Graph.Reachable.wellFormed`).
-/

namespace Blueprint

namespace Graph

/-- The parts of a graph over a catalog agree with each other. -/
structure WellFormed (catalog : Catalog) (g : Graph) : Prop where
  /-- The graph is over this catalog. -/
  catalog_eq : g.catalog = catalog
  /-- No two nodes share an id. -/
  ids_nodup : g.ids.Nodup
  /-- A node has a registered type and the ports that its variant declares. -/
  registered : ∀ node ∈ g.nodes, ∃ variant, catalog.get? node.type = some variant ∧
    node.inputs = variant.inputs ∧ node.outputs = variant.outputs
  /-- A connection runs from an output to an input of another node, and the types fit. -/
  joined : ∀ c ∈ g.connections, ∃ s t, g.Joinable c.source c.target s t
  /-- Two connections into one input need an input for several. -/
  singular : g.connections.Pairwise fun a b =>
    a.target = b.target → ∃ t, g.port? b.target = some t ∧ t.multi = true
  /-- No two connections join the same ports. -/
  pairs : g.connections.Pairwise fun a b => ¬(a.source = b.source ∧ a.target = b.target)
  /-- Younger connections have greater numbers. -/
  increasing : g.connections.Pairwise fun a b => a.id < b.id
  /-- The last number given away is the greatest. -/
  numbers_le : ∀ c ∈ g.connections, c.id ≤ g.connectionSeq
  /-- A gesture started on a port that exists. -/
  origin : ∀ port, g.drag.origin? = some port → ∃ spec, g.port? port = some spec

/-! ### Looking up nodes and ports -/

section

variable {g : Graph}

theorem node?_eq_some {id : NodeId} {node : Node} (h : g.node? id = some node) :
    node ∈ g.nodes ∧ node.id = id :=
  ⟨List.mem_of_find?_eq_some h, by simpa using List.find?_some h⟩

theorem node?_isSome_iff {id : NodeId} : (g.node? id).isSome ↔ id ∈ g.ids := by
  simp [node?, ids, List.find?_isSome]

theorem hasNode_iff {id : NodeId} : g.hasNode id = true ↔ id ∈ g.ids := by
  simp [hasNode, ids]

theorem port?_node_mem {ref : PortRef} {spec : PortSpec} (h : g.port? ref = some spec) :
    ref.node ∈ g.ids := by
  rw [← node?_isSome_iff]
  rw [port?] at h
  cases hn : g.node? ref.node with
  | none => simp [hn] at h
  | some node => rfl

theorem node?_append {g' : Graph} {node : Node} (hnodes : g'.nodes = g.nodes ++ [node])
    {id : NodeId} {found : Node} (h : g.node? id = some found) : g'.node? id = some found := by
  rw [node?] at h
  rw [node?, hnodes, List.find?_append, h]
  rfl

theorem node?_amend {id : NodeId} {change : Node → Node}
    (hchange : ∀ node, (change node).id = node.id) (other : NodeId) :
    (g.amend id change).node? other =
      (g.node? other).map fun node => if node.id = id then change node else node := by
  rw [node?, amend, List.find?_map, node?]
  congr 2
  funext node
  by_cases hid : node.id = id <;> simp [hid, hchange node]

theorem ids_amend {id : NodeId} {change : Node → Node}
    (hchange : ∀ node, (change node).id = node.id) : (g.amend id change).ids = g.ids := by
  rw [ids, ids, amend, List.map_map]
  refine List.map_congr_left fun node _ => ?_
  by_cases hid : node.id = id <;> simp [hid, hchange node]

theorem node?_without {id other : NodeId} (h : other ≠ id) :
    (g.without id).node? other = g.node? other := by
  rw [node?, without, List.find?_filter, node?]
  congr 1
  funext node
  by_cases hid : node.id = other <;> simp [hid, h]

theorem port?_append {g' : Graph} {node : Node} (hnodes : g'.nodes = g.nodes ++ [node])
    {ref : PortRef} {spec : PortSpec} (h : g.port? ref = some spec) : g'.port? ref = some spec := by
  rw [port?] at h
  cases hn : g.node? ref.node with
  | none => simp [hn] at h
  | some found =>
    rw [port?, node?_append hnodes hn, ← hn]
    exact h

/-- A change that leaves id and ports alone leaves all ports of the graph alone. -/
theorem port?_amend {id : NodeId} {change : Node → Node}
    (hchange : ∀ node, (change node).id = node.id ∧ (change node).inputs = node.inputs ∧
      (change node).outputs = node.outputs) (ref : PortRef) :
    (g.amend id change).port? ref = g.port? ref := by
  rw [port?, node?_amend fun node => (hchange node).1, port?]
  cases g.node? ref.node with
  | none => rfl
  | some node =>
    obtain ⟨-, hin, hout⟩ := hchange node
    by_cases hid : node.id = id
    · cases hd : ref.direction <;> simp [hid, Node.port?, hin, hout]
    · simp [hid]

theorem port?_without {id : NodeId} {ref : PortRef} (h : ref.node ≠ id) :
    (g.without id).port? ref = g.port? ref := by
  rw [port?, node?_without h, port?]

end

namespace WellFormed

variable {catalog : Catalog} {g : Graph}

theorem uniqueNumbers (h : WellFormed catalog g) : g.UniqueNumbers :=
  List.pairwise_map.2 (h.increasing.imp Nat.ne_of_lt)

/-- Keeping some connections, with the ports at their ends, keeps a graph well formed. -/
theorem restrict (h : WellFormed catalog g) {g' : Graph} (hcatalog : g'.catalog = g.catalog)
    (hids : g'.ids.Nodup)
    (hregistered : ∀ node ∈ g'.nodes, ∃ variant, catalog.get? node.type = some variant ∧
      node.inputs = variant.inputs ∧ node.outputs = variant.outputs)
    (hsub : g'.connections.Sublist g.connections) (hseq : g'.connectionSeq = g.connectionSeq)
    (hports : ∀ c ∈ g'.connections, ∀ ref spec, ref = c.source ∨ ref = c.target →
      g.port? ref = some spec → g'.port? ref = some spec)
    (horigin : ∀ port, g'.drag.origin? = some port → ∃ spec, g'.port? port = some spec) :
    WellFormed catalog g' where
  catalog_eq := hcatalog.trans h.catalog_eq
  ids_nodup := hids
  registered := hregistered
  joined c hc := by
    obtain ⟨s, t, hj⟩ := h.joined c (hsub.subset hc)
    exact ⟨s, t, hj.source_output, hj.target_input, hj.node_ne,
      hports c hc _ _ (.inl rfl) hj.source_port, hports c hc _ _ (.inr rfl) hj.target_port,
      hj.types⟩
  singular := by
    refine (h.singular.sublist hsub).imp_of_mem fun _ hb hab heq => ?_
    obtain ⟨t, ht, hmulti⟩ := hab heq
    exact ⟨t, hports _ hb _ _ (.inr rfl) ht, hmulti⟩
  pairs := h.pairs.sublist hsub
  increasing := h.increasing.sublist hsub
  numbers_le c hc := hseq ▸ h.numbers_le c (hsub.subset hc)
  origin := horigin

/-- A new connection between ports that fit, into an input that has room, keeps a graph well
formed. -/
theorem append (h : WellFormed catalog g) {source target : PortRef} {s t : PortSpec}
    (hjoin : g.Joinable source target s t)
    (hnew : ∀ c ∈ g.connections, ¬(c.source = source ∧ c.target = target))
    (hroom : t.multi = true ∨ ∀ c ∈ g.connections, c.target ≠ target) :
    WellFormed catalog { g with
      connections := g.connections ++ [⟨g.connectionSeq + 1, source, target⟩]
      connectionSeq := g.connectionSeq + 1 } where
  catalog_eq := h.catalog_eq
  ids_nodup := h.ids_nodup
  registered := h.registered
  joined c hc := by
    rcases List.mem_append.1 hc with hc | hc
    · obtain ⟨s, t, hj⟩ := h.joined c hc
      exact ⟨s, t, hj.1, hj.2, hj.3, hj.4, hj.5, hj.6⟩
    · rw [List.mem_singleton.1 hc]
      exact ⟨s, t, hjoin.1, hjoin.2, hjoin.3, hjoin.4, hjoin.5, hjoin.6⟩
  singular := by
    refine List.pairwise_append.2 ⟨h.singular, List.pairwise_singleton _ _, fun a ha b hb heq => ?_⟩
    rw [List.mem_singleton.1 hb] at heq ⊢
    rcases hroom with hmulti | hroom
    · exact ⟨t, hjoin.target_port, hmulti⟩
    · exact absurd heq (hroom a ha)
  pairs := by
    refine List.pairwise_append.2 ⟨h.pairs, List.pairwise_singleton _ _, fun a ha b hb => ?_⟩
    rw [List.mem_singleton.1 hb]
    exact hnew a ha
  increasing := by
    refine List.pairwise_append.2 ⟨h.increasing, List.pairwise_singleton _ _, fun a ha b hb => ?_⟩
    rw [List.mem_singleton.1 hb]
    exact Nat.lt_succ_of_le (h.numbers_le a ha)
  numbers_le c hc := by
    rcases List.mem_append.1 hc with hc | hc
    · exact Nat.le_succ_of_le (h.numbers_le c hc)
    · rw [List.mem_singleton.1 hc]
  origin := h.origin

/-! ### What edits do to a graph -/

/-- Nodes and connections are what counts: number of nodes drawn and observers do not. -/
theorem congr (h : WellFormed catalog g) {g' : Graph} (hcatalog : g'.catalog = g.catalog)
    (hnodes : g'.nodes = g.nodes) (hsub : g'.connections.Sublist g.connections)
    (hseq : g'.connectionSeq = g.connectionSeq)
    (horigin : ∀ port, g'.drag.origin? = some port → ∃ spec, g.port? port = some spec) :
    WellFormed catalog g' := by
  have hport : ∀ ref, g'.port? ref = g.port? ref := fun ref => by rw [port?, node?, hnodes]; rfl
  refine h.restrict hcatalog ?_ ?_ hsub hseq (fun c _ ref spec _ hs => (hport ref).trans hs) ?_
  · rw [ids, hnodes]
    exact h.ids_nodup
  · exact fun node hnode => h.registered node (hnodes ▸ hnode)
  · intro port hp
    rw [hport]
    exact horigin port hp

theorem addNode (h : WellFormed catalog g) {id : NodeId} (hfree : id ∉ g.ids) {type : String}
    {variant : Variant} (hvariant : g.catalog.get? type = some variant) (position : Point) :
    WellFormed catalog { g with nodes := g.nodes ++ [.ofVariant id type position variant] } := by
  have hport : ∀ {ref spec}, g.port? ref = some spec →
      port? { g with nodes := g.nodes ++ [.ofVariant id type position variant] } ref = some spec :=
    port?_append rfl
  refine h.restrict rfl ?_ ?_ (List.Sublist.refl _) rfl (fun _ _ _ _ _ hs => hport hs) ?_
  · rw [ids, List.map_append]
    refine List.nodup_append.2 ⟨h.ids_nodup, List.nodup_singleton _, fun a ha b hb => ?_⟩
    rw [List.mem_singleton.1 hb]
    rintro (rfl : a = id)
    exact hfree ha
  · intro node hnode
    rcases List.mem_append.1 hnode with hnode | hnode
    · exact h.registered node hnode
    · rw [List.mem_singleton.1 hnode]
      exact ⟨variant, h.catalog_eq ▸ hvariant, rfl, rfl⟩
  · intro port hp
    obtain ⟨spec, hs⟩ := h.origin port hp
    exact ⟨spec, hport hs⟩

theorem amend (h : WellFormed catalog g) (id : NodeId) {change : Node → Node}
    (hchange : ∀ node, (change node).id = node.id ∧ (change node).type = node.type ∧
      (change node).inputs = node.inputs ∧ (change node).outputs = node.outputs) :
    WellFormed catalog (g.amend id change) := by
  have hport : ∀ ref, (g.amend id change).port? ref = g.port? ref :=
    port?_amend fun node => ⟨(hchange node).1, (hchange node).2.2⟩
  refine h.restrict rfl ?_ ?_ (List.Sublist.refl _) rfl
    (fun _ _ ref _ _ hs => (hport ref).trans hs) ?_
  · rw [ids_amend fun node => (hchange node).1]
    exact h.ids_nodup
  · intro node hnode
    obtain ⟨old, hold, rfl⟩ := List.mem_map.1 hnode
    obtain ⟨variant, hv, hin, hout⟩ := h.registered old hold
    obtain ⟨-, htype, hin', hout'⟩ := hchange old
    refine ⟨variant, ?_⟩
    split_ifs
    · rw [htype, hin', hout']
      exact ⟨hv, hin, hout⟩
    · exact ⟨hv, hin, hout⟩
  · intro port hp
    rw [hport]
    exact h.origin port hp

theorem without (h : WellFormed catalog g) (id : NodeId) : WellFormed catalog (g.without id) := by
  refine h.restrict rfl ?_ ?_ List.filter_sublist rfl ?_ ?_
  · exact h.ids_nodup.sublist (List.filter_sublist.map _)
  · exact fun node hnode => h.registered node (List.mem_filter.1 hnode).1
  · -- A connection that stays does not touch the node, so the ports at its ends stay.
    intro c hc ref spec href hs
    have htouch := (List.mem_filter.1 hc).2
    simp only [Connection.touches, Bool.not_or, Bool.and_eq_true, Bool.not_eq_true',
      beq_eq_false_iff_ne, ne_eq] at htouch
    have hne : ref.node ≠ id := by rcases href with rfl | rfl <;> [exact htouch.1; exact htouch.2]
    exact (port?_without hne).trans hs
  · intro port hp
    simp only [Graph.without] at hp
    split_ifs at hp with hdrag
    · cases hp
    · have hne : port.node ≠ id := by simpa [hp] using hdrag
      rw [port?_without hne]
      exact h.origin port hp

theorem ids_without (h : WellFormed catalog g) (id : NodeId) :
    (g.without id).ids = g.ids.erase id := by
  rw [h.ids_nodup.erase_eq_filter, ids, ids, List.filter_map]
  rfl

theorem clear (h : WellFormed catalog g) :
    WellFormed catalog { g with nodes := [], connections := [], drag := .idle } :=
  h.restrict rfl List.nodup_nil (fun _ hn => by cases hn) (List.nil_sublist _) rfl
    (fun _ hc => by cases hc) (fun _ hp => by cases hp)

/-- A new connection that vacates a singular input first keeps a graph well formed. -/
theorem link (h : WellFormed catalog g) {source target : PortRef} {s t : PortSpec}
    (hjoin : g.Joinable source target s t)
    (hnew : ∀ c ∈ g.connections, ¬(c.source = source ∧ c.target = target)) :
    WellFormed catalog (g.link source target t.multi) := by
  cases hmulti : t.multi with
  | true => exact h.append hjoin hnew (.inl hmulti)
  | false =>
    -- The input is vacated first, and then it has room.
    have hvacant : WellFormed catalog
        { g with connections := g.connections.filter (·.target != target) } :=
      h.congr rfl rfl List.filter_sublist rfl h.origin
    refine hvacant.append ⟨hjoin.1, hjoin.2, hjoin.3, hjoin.4, hjoin.5, hjoin.6⟩ ?_ (.inr ?_)
    · exact fun c hc => hnew c (List.mem_filter.1 hc).1
    · exact fun c hc => by simpa using (List.mem_filter.1 hc).2

end WellFormed

end Graph

/-! ### Every action -/

namespace Edit

open Blueprint.Graph

variable {catalog : Catalog}

theorem insertNode_wellFormed {s : Session} (h : WellFormed catalog s.graph) {id : NodeId}
    (hfree : id ∉ s.graph.ids) (type : String) (position : Point) :
    WellFormed catalog (after s (insertNode id type position)).graph := by
  rw [after, run_insertNode]
  split_ifs
  · cases hv : s.graph.catalog.get? type with
    | none => exact h
    | some variant => exact h.addNode hfree hv position
  · exact h

theorem addNode_wellFormed (type : String) (position : Point) :
    (addNode type position).Keeps (WellFormed catalog) := by
  intro s h
  have hdrawn : WellFormed catalog { s.graph with nodeSeq := nextNumber s.graph } :=
    h.congr rfl rfl (List.Sublist.refl _) rfl h.origin
  rw [after, run_addNode]
  exact insertNode_wellFormed (s := ⟨_, s.notes⟩) hdrawn (generatedId_nextNumber_notMem s.graph) _ _

theorem addNodeAs_wellFormed (id : NodeId) (type : String) (position : Point) :
    (addNodeAs id type position).Keeps (WellFormed catalog) := by
  intro s h
  rw [after, run_addNodeAs]
  split_ifs with hid
  · exact h
  · exact insertNode_wellFormed h (fun hmem => hid (hasNode_iff.2 hmem)) type position

theorem changeNode_wellFormed (id : NodeId) {change : Node → Node}
    (hchange : ∀ node, (change node).id = node.id ∧ (change node).type = node.type ∧
      (change node).inputs = node.inputs ∧ (change node).outputs = node.outputs) :
    (changeNode id change).Keeps (WellFormed catalog) := fun _ h => h.amend id hchange

theorem removeNode_wellFormed (id : NodeId) : (removeNode id).Keeps (WellFormed catalog) := by
  intro s h
  rw [after, run_removeNode s id h.uniqueNumbers]
  cases s.graph.node? id with
  | none => exact h
  | some node => exact h.without id

theorem setParameter_wellFormed (id : NodeId) (key : String) (value : Value) :
    (setParameter id key value).Keeps (WellFormed catalog) := by
  intro s h
  rw [after, run_setParameter]
  split_ifs
  · cases s.graph.node? id with
    | none => exact h
    | some node => exact h.amend id fun _ => ⟨rfl, rfl, rfl, rfl⟩
  · exact h

theorem removeParameter_wellFormed (id : NodeId) (key : String) :
    (removeParameter id key).Keeps (WellFormed catalog) := by
  intro s h
  rw [after, run_removeParameter]
  cases s.graph.node? id with
  | none => exact h
  | some node =>
    cases hv : node.parameters.get? key with
    | none => simpa only [hv] using h
    | some value =>
      simp only [hv]
      exact h.amend id fun _ => ⟨rfl, rfl, rfl, rfl⟩

theorem moveNode_wellFormed (id : NodeId) (position : Point) :
    (moveNode id position).Keeps (WellFormed catalog) := by
  intro s h
  rw [after, run_moveNode]
  split_ifs
  · cases s.graph.node? id with
    | none => exact h
    | some node => exact h.amend id fun _ => ⟨rfl, rfl, rfl, rfl⟩
  · exact h

theorem connect_wellFormed (source target : PortRef) :
    (connect source target).Keeps (WellFormed catalog) := by
  intro s h
  obtain ⟨-, e, hrun⟩ | ⟨a, b, hjoin, ⟨c, -, -, -, hrun⟩ | ⟨hnew, hrun⟩⟩ :=
    connect_cases s source target h.uniqueNumbers
  · rw [after_of_error hrun]
    exact h
  · rw [after_of_ok hrun]
    exact h
  · rw [after_of_ok hrun]
    exact h.link hjoin hnew

theorem disconnect_wellFormed (id : ConnectionId) : (disconnect id).Keeps (WellFormed catalog) := by
  intro s h
  rw [after, run_disconnect]
  cases s.graph.connection? id with
  | none => exact h
  | some c => exact h.congr rfl rfl List.eraseP_sublist rfl h.origin

theorem startDrag_wellFormed (port : PortRef) : (startDrag port).Keeps (WellFormed catalog) := by
  intro s h
  rw [after, run_startDrag]
  cases hp : s.graph.port? port with
  | none => exact h
  | some spec =>
    refine h.congr rfl rfl (List.Sublist.refl _) rfl fun origin ho => ?_
    obtain rfl : port = origin := by simpa [Drag.origin?] using ho
    exact ⟨spec, hp⟩

theorem moveDrag_wellFormed (cursor : Point) : (moveDrag cursor).Keeps (WellFormed catalog) := by
  intro s h
  rw [after, run_moveDrag]
  cases hd : s.graph.drag with
  | idle => exact h
  | dragging origin _ =>
    exact h.congr rfl rfl (List.Sublist.refl _) rfl fun port hp =>
      h.origin port (by rw [hd]; exact hp)

theorem cancelDrag_wellFormed : cancelDrag.Keeps (WellFormed catalog) := fun _ h =>
  h.congr rfl rfl (List.Sublist.refl _) rfl fun _ hp => by cases hp

theorem finishDrag_wellFormed (target : PortRef) :
    (finishDrag target).Keeps (WellFormed catalog) := by
  intro s h
  have hidle := cancelDrag_wellFormed s h
  rw [after_of_ok (run_cancelDrag s)] at hidle
  rcases after_finishDrag s target with hsame | ⟨source, sink, hjoined⟩
  · rw [hsame]
    exact hidle
  · rw [hjoined]
    exact connect_wellFormed source sink _ hidle

end Edit

/-- Every action keeps a graph well formed. -/
theorem Action.keeps_wellFormed {catalog : Catalog} (action : Action) :
    action.edit.Keeps (Graph.WellFormed catalog) := by
  cases action with
  | addNode type position => exact (Edit.addNode_wellFormed type position).discard
  | addNodeAs id type position => exact (Edit.addNodeAs_wellFormed id type position).discard
  | removeNode id => exact (Edit.removeNode_wellFormed id).discard
  | setParameter id key value => exact Edit.setParameter_wellFormed id key value
  | removeParameter id key => exact (Edit.removeParameter_wellFormed id key).discard
  | moveNode id position => exact Edit.moveNode_wellFormed id position
  | clear => exact fun _ h => h.clear
  | connect source target => exact (Edit.connect_wellFormed source target).discard
  | disconnect id => exact (Edit.disconnect_wellFormed id).discard
  | startDrag port => exact Edit.startDrag_wellFormed port
  | moveDrag cursor => exact Edit.moveDrag_wellFormed cursor
  | finishDrag target => exact (Edit.finishDrag_wellFormed target).discard
  | cancelDrag => exact Edit.cancelDrag_wellFormed
  | copy =>
    exact fun _ h => h.congr rfl rfl (List.Sublist.refl _) rfl fun _ hp => by cases hp
  | subscribe observer => exact fun _ h => h.congr rfl rfl (List.Sublist.refl _) rfl h.origin

namespace Graph

variable {catalog : Catalog} {g : Graph}

theorem wellFormed_empty (catalog : Catalog) : WellFormed catalog (.empty catalog) where
  catalog_eq := rfl
  ids_nodup := List.nodup_nil
  registered _ hn := by cases hn
  joined _ hc := by cases hc
  singular := List.Pairwise.nil
  pairs := List.Pairwise.nil
  increasing := List.Pairwise.nil
  numbers_le _ hc := by cases hc
  origin _ hp := by cases hp

/-- **Every reachable graph is well formed.** -/
theorem Reachable.wellFormed (h : Reachable catalog g) : WellFormed catalog g :=
  h.invariant (wellFormed_empty catalog)
    (fun id _ => Edit.changeNode_wellFormed id fun _ => ⟨rfl, rfl, rfl, rfl⟩)
    Action.keeps_wellFormed

theorem WellFormed.length_incoming_le (h : WellFormed catalog g) {port : PortRef} {spec : PortSpec}
    (hport : g.port? port = some spec) (hsingular : spec.multi = false) :
    (g.incoming port).length ≤ 1 := by
  -- Two connections into the port would need an input for several.
  have hpair : (g.incoming port).Pairwise fun _ _ => False := by
    refine (h.singular.filter _).imp_of_mem fun {a b} ha hb hab => ?_
    have ha : a.target = port := by simpa using (List.mem_filter.1 ha).2
    have hb : b.target = port := by simpa using (List.mem_filter.1 hb).2
    obtain ⟨t, ht, hmulti⟩ := hab (ha.trans hb.symm)
    rw [hb, hport] at ht
    rw [Option.some.inj ht, hmulti] at hsingular
    cases hsingular
  match hin : g.incoming port, hpair with
  | [], _ => simp
  | [_], _ => simp
  | a :: b :: rest, hpair => exact (List.rel_of_pairwise_cons hpair List.mem_cons_self).elim

end Graph

end Blueprint
