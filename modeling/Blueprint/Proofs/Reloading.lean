import Blueprint.Proofs.Placement

/-!
# Storing and loading again

Loading replays a document through edits that check, that skip what is there already and that
replace.  On the document of a reachable graph none of this happens.  Node after node is added as it
was (`Edit.run_forM_loadNode`), since positions are finite in every reachable graph
(`Graph.Reachable.placed`).  Connection after connection is made anew
(`Edit.run_forM_loadConnection`), since no two of them join the same ports, and none of them runs
into a singular input that is filled.

Main statement: a stored graph loads, and it is the same graph (`Graph.reload_same`).
-/

namespace Blueprint

/-! ### Loading nodes -/

/-- The stored form of a node. -/
def Node.record (node : Node) : NodeRecord := ⟨node.id, node.type, node.position, node.parameters⟩

namespace Edit

variable {s : Session}

theorem run_loadNode {node : Node} {variant : Variant}
    (hvariant : s.graph.catalog.get? node.type = some variant)
    (hinputs : node.inputs = variant.inputs) (houtputs : node.outputs = variant.outputs)
    (hfinite : node.position.isFinite = true) (hfree : node.id ∉ s.graph.ids) :
    (loadNode node.record).run s = .ok ()
      ⟨{ s.graph with nodes := s.graph.nodes ++ [node] },
        s.notes ++ [.event (.nodeAdded node.id)]⟩ := by
  have hhas : s.graph.hasNode node.id = false := by
    rw [Bool.eq_false_iff]
    exact fun h => hfree (Graph.hasNode_iff.1 h)
  have hadd : (addNodeAs node.record.id node.record.type node.record.position).run s =
      .ok node.id ⟨{ s.graph with
        nodes := s.graph.nodes ++ [.ofVariant node.id node.type node.position variant] },
        s.notes ++ [.event (.nodeAdded node.id)]⟩ := by
    rw [run_addNodeAs, run_insertNode]
    simp [Node.record, hhas, hfinite, hvariant]
  -- The change of parameters meets the new node only.
  have hold : ∀ old ∈ s.graph.nodes, old.id ≠ node.id := fun old hmem heq =>
    hfree (List.mem_map.2 ⟨old, hmem, heq⟩)
  have hkept : s.graph.nodes.map (fun old =>
      if old.id = node.id then { old with parameters := node.parameters } else old) =
      s.graph.nodes := by
    conv_rhs => rw [← List.map_id s.graph.nodes]
    exact List.map_congr_left fun old hmem => if_neg (hold old hmem)
  rw [loadNode, EStateM.run_bind, hadd]
  simp only [run_changeNode, Graph.amend, Node.record, List.map_append, hkept, List.map_cons,
    List.map_nil, Node.ofVariant, if_true, ← hinputs, ← houtputs]

/-- **Stored nodes become the nodes again**, one after the other. -/
theorem run_forM_loadNode {nodes : List Node}
    (hregistered : ∀ node ∈ nodes, ∃ variant, s.graph.catalog.get? node.type = some variant ∧
      node.inputs = variant.inputs ∧ node.outputs = variant.outputs)
    (hfinite : ∀ node ∈ nodes, node.position.isFinite = true)
    (hids : (s.graph.ids ++ nodes.map (·.id)).Nodup) :
    ((nodes.map Node.record).forM loadNode).run s = .ok ()
      ⟨{ s.graph with nodes := s.graph.nodes ++ nodes },
        s.notes ++ nodes.map fun node => .event (.nodeAdded node.id)⟩ := by
  induction nodes generalizing s with
  | nil => simp
  | cons node rest ih =>
    obtain ⟨variant, hvariant, hinputs, houtputs⟩ := hregistered node List.mem_cons_self
    have hfree : node.id ∉ s.graph.ids := fun hmem =>
      List.disjoint_of_nodup_append hids hmem (by simp)
    have hstep := run_loadNode hvariant hinputs houtputs (hfinite node List.mem_cons_self) hfree
    have hrest := ih (s := ⟨{ s.graph with nodes := s.graph.nodes ++ [node] },
        s.notes ++ [.event (.nodeAdded node.id)]⟩)
      (fun other hmem => hregistered other (List.mem_cons_of_mem _ hmem))
      (fun other hmem => hfinite other (List.mem_cons_of_mem _ hmem))
      (by simpa [Graph.ids] using hids)
    rw [List.forM_eq_forM] at hrest ⊢
    rw [List.map_cons, List.forM_cons, EStateM.run_bind, hstep]
    simpa using hrest

end Edit

/-! ### Loading connections -/

namespace Connection

/-- The stored form of a connection. -/
def record (c : Connection) : ConnectionRecord :=
  ⟨c.source.node, c.source.port, c.target.node, c.target.port⟩

theorem source_record {c : Connection} (h : c.source.direction = .output) :
    c.record.source = c.source := by
  rw [ConnectionRecord.source, PortRef.output, ← h]
  rfl

theorem target_record {c : Connection} (h : c.target.direction = .input) :
    c.record.target = c.target := by
  rw [ConnectionRecord.target, PortRef.input, ← h]
  rfl

/-- The two ports that a connection joins. -/
def ends (c : Connection) : PortRef × PortRef := (c.source, c.target)

/-- The same connections, numbered from `n + 1` on. -/
def renumber : Nat → List Connection → List Connection
  | _, [] => []
  | n, c :: cs => ⟨n + 1, c.source, c.target⟩ :: renumber (n + 1) cs

theorem map_ends_renumber (n : Nat) (cs : List Connection) :
    (renumber n cs).map ends = cs.map ends := by
  induction cs generalizing n with
  | nil => rfl
  | cons c cs ih => rw [renumber, List.map_cons, ih, List.map_cons]; rfl

end Connection

theorem Graph.Joinable.of_nodes_eq {g g' : Graph} {source target : PortRef} {a b : PortSpec}
    (h : g.Joinable source target a b) (hnodes : g'.nodes = g.nodes) :
    g'.Joinable source target a b := by
  have hport : g'.port? = g.port? := by
    funext ref
    simp only [port?, node?, hnodes]
  exact ⟨h.source_output, h.target_input, h.node_ne, hport ▸ h.source_port,
    hport ▸ h.target_port, h.types⟩

namespace Edit

open Blueprint.Graph

variable {catalog : Catalog} {s : Session}

/-- A stored connection becomes a new connection, if its ports can be joined, are not connected yet
and have room. -/
theorem run_loadConnection (hnum : s.graph.UniqueNumbers) {c : Connection} {a b : PortSpec}
    (hjoin : s.graph.Joinable c.source c.target a b)
    (hnew : c.ends ∉ s.graph.connections.map Connection.ends)
    (hroom : b.multi = true ∨ ∀ d ∈ s.graph.connections, d.target ≠ c.target) :
    (loadConnection c.record).run s = .ok ()
      ⟨{ s.graph with
          connections := s.graph.connections ++ [⟨s.graph.connectionSeq + 1, c.source, c.target⟩]
          connectionSeq := s.graph.connectionSeq + 1 },
        s.notes ++ [.event (.connectionAdded (s.graph.connectionSeq + 1))]⟩ := by
  have hsource := Connection.source_record hjoin.source_output
  have htarget := Connection.target_record hjoin.target_input
  have hlink : s.graph.link c.source c.target b.multi = { s.graph with
      connections := s.graph.connections ++ [⟨s.graph.connectionSeq + 1, c.source, c.target⟩]
      connectionSeq := s.graph.connectionSeq + 1 } ∧
      (if b.multi then [] else s.graph.replacementNotes c.target) = [] := by
    rcases hroom with hmulti | hroom
    · simp [link, hmulti]
    · -- Vacating the input removes nothing.
      have hkept : s.graph.connections.filter (·.target != c.target) = s.graph.connections :=
        List.filter_eq_self.2 fun d hd => by simpa using hroom d hd
      have hnone : s.graph.incoming c.target = [] :=
        List.filter_eq_nil_iff.2 fun d hd => by simpa using hroom d hd
      simp [link, hkept, replacementNotes, hnone]
  -- Of the ways in which connecting can end, only the new connection is left.
  rw [loadConnection, hsource, htarget, run_tryCatch, run_discard]
  obtain ⟨hno, -⟩ | ⟨a', b', hjoin', ⟨d, hd, hds, hdt, -⟩ | ⟨-, hrun⟩⟩ :=
    connect_cases s c.source c.target hnum
  · exact absurd hjoin (hno a b)
  · refine absurd (List.mem_map.2 ⟨d, hd, ?_⟩) hnew
    rw [Connection.ends, hds, hdt]
    rfl
  · obtain rfl : b = b' := Option.some.inj (hjoin.target_port.symm.trans hjoin'.target_port)
    rw [hrun, hlink.1, hlink.2, List.append_nil]

/-- **Stored connections become connections again**, one after the other, if they join different
ports and only inputs for several are joined more than once. -/
theorem run_forM_loadConnection {cs : List Connection} (hwf : WellFormed catalog s.graph)
    (hjoined : ∀ c ∈ cs, ∃ a b, s.graph.Joinable c.source c.target a b)
    (hpairs : ((s.graph.connections ++ cs).map Connection.ends).Nodup)
    (hsingular : ((s.graph.connections ++ cs).map Connection.ends).Pairwise fun p q =>
      p.2 = q.2 → ∃ t, s.graph.port? q.2 = some t ∧ t.multi = true) :
    ((cs.map Connection.record).forM loadConnection).run s = .ok ()
      ⟨{ s.graph with
          connections := s.graph.connections ++ Connection.renumber s.graph.connectionSeq cs
          connectionSeq := s.graph.connectionSeq + cs.length },
        s.notes ++ (List.range' (s.graph.connectionSeq + 1) cs.length).map fun k =>
          .event (.connectionAdded k)⟩ := by
  induction cs generalizing s with
  | nil => simp [Connection.renumber]
  | cons c rest ih =>
    obtain ⟨a, b, hjoin⟩ := hjoined c List.mem_cons_self
    have hnew : c.ends ∉ s.graph.connections.map Connection.ends := by
      intro hmem
      rw [List.map_append] at hpairs
      exact List.disjoint_of_nodup_append hpairs hmem (by simp)
    have hroom : b.multi = true ∨ ∀ d ∈ s.graph.connections, d.target ≠ c.target := by
      by_cases hfilled : ∃ d ∈ s.graph.connections, d.target = c.target
      · obtain ⟨d, hd, htarget⟩ := hfilled
        rw [List.map_append] at hsingular
        obtain ⟨t, ht, hmulti⟩ := (List.pairwise_append.1 hsingular).2.2 d.ends
          (List.mem_map.2 ⟨d, hd, rfl⟩) c.ends (by simp) htarget
        obtain rfl : b = t := Option.some.inj (hjoin.target_port.symm.trans ht)
        exact .inl hmulti
      · exact .inr fun d hd htarget => hfilled ⟨d, hd, htarget⟩
    have hstep := run_loadConnection hwf.uniqueNumbers hjoin hnew hroom
    have hwf' := hwf.append hjoin (fun d hd hends => hnew (List.mem_map.2 ⟨d, hd,
      Prod.ext hends.1 hends.2⟩)) hroom
    -- The new connection has the ports of the stored one, so the conditions are as before.
    have hends : (s.graph.connections ++ [(⟨s.graph.connectionSeq + 1, c.source, c.target⟩ :
        Connection)] ++ rest).map Connection.ends =
          (s.graph.connections ++ c :: rest).map Connection.ends := by
      simp [Connection.ends]
    have hrest := ih (s := ⟨_, s.notes ++ [.event (.connectionAdded (s.graph.connectionSeq + 1))]⟩)
      hwf' (fun d hd => ?_) (by rwa [hends]) (by rw [hends]; exact hsingular)
    · rw [List.forM_eq_forM] at hrest ⊢
      rw [List.map_cons, List.forM_cons, EStateM.run_bind, hstep]
      refine hrest.trans ?_
      simp [Connection.renumber, List.range'_succ, Nat.add_comm, Nat.add_left_comm]
    · obtain ⟨a, b, hjoin⟩ := hjoined d (List.mem_cons_of_mem _ hd)
      exact ⟨a, b, hjoin.of_nodes_eq rfl⟩

end Edit

/-! ### The same graph -/

namespace Graph

variable {catalog : Catalog} {g : Graph}

theorem toDocument_eq (g : Graph) :
    g.toDocument = ⟨g.nodes.map Node.record, g.connections.map Connection.record⟩ := rfl

theorem WellFormed.nodesOnly (h : WellFormed catalog g) :
    WellFormed catalog { empty catalog with nodes := g.nodes } where
  catalog_eq := rfl
  ids_nodup := h.ids_nodup
  registered := h.registered
  joined _ hc := by cases hc
  singular := List.Pairwise.nil
  pairs := List.Pairwise.nil
  increasing := List.Pairwise.nil
  numbers_le _ hc := by cases hc
  origin _ hp := by cases hp

/-- The nodes and connections of a graph, made anew over a catalog. -/
def renewed (catalog : Catalog) (g : Graph) : Graph :=
  { empty catalog with
    nodes := g.nodes
    connections := Connection.renumber 0 g.connections
    connectionSeq := g.connections.length }

/-- The notes of making them. -/
def renewalNotes (g : Graph) : List Note :=
  (g.nodes.map fun node => .event (.nodeAdded node.id)) ++
    (List.range' 1 g.connections.length).map fun k => .event (.connectionAdded k)

/-- **Loading the document of a graph makes its nodes and connections anew** and nothing else. -/
theorem run_load_toDocument (h : WellFormed catalog g) (hplaced : g.Placed) :
    (Edit.load g.toDocument).run ⟨empty catalog, []⟩ =
      .ok () ⟨renewed catalog g, g.renewalNotes⟩ := by
  have hnodes := Edit.run_forM_loadNode (s := ⟨empty catalog, []⟩) h.registered hplaced
    (by simpa [empty, ids] using h.ids_nodup)
  have hjoined : ∀ c ∈ g.connections, ∃ a b, Joinable { empty catalog with nodes := g.nodes }
      c.source c.target a b := by
    intro c hc
    obtain ⟨a, b, hjoin⟩ := h.joined c hc
    exact ⟨a, b, hjoin.of_nodes_eq rfl⟩
  have hconnections := Edit.run_forM_loadConnection
    (s := ⟨{ empty catalog with nodes := g.nodes },
      g.nodes.map fun node => .event (.nodeAdded node.id)⟩) h.nodesOnly hjoined
    (List.pairwise_map.2 (h.pairs.imp fun hne heq => hne (Prod.mk.inj heq)))
    (List.pairwise_map.2 h.singular)
  rw [Edit.load, toDocument_eq, EStateM.run_bind, hnodes]
  simpa [renewed, renewalNotes, empty] using hconnections

theorem toDocument_renewed (catalog : Catalog) (g : Graph) :
    (renewed catalog g).toDocument = g.toDocument := by
  have hrecord : ∀ cs : List Connection, cs.map Connection.record =
      (cs.map Connection.ends).map fun p => ⟨p.1.node, p.1.port, p.2.node, p.2.port⟩ := by
    intro cs
    rw [List.map_map]
    rfl
  rw [toDocument_eq, toDocument_eq, hrecord, hrecord, renewed, Connection.map_ends_renumber]

/-- **A stored graph loads, and it is the same graph.**  Nothing is refused and no connection is
dropped.  The nodes are the same in the same order, with the same types, places and parameters, bit
for bit, and the same ports; the connections join the same ports in the same order; so the document
is the same.  No gesture goes on. -/
theorem reload_same (h : Reachable catalog g) :
    (ofDocument catalog g.toDocument).outcome = .ok () ∧
    (∀ source target,
      .connectionDropped source target ∉ (ofDocument catalog g.toDocument).notes) ∧
    (ofDocument catalog g.toDocument).graph.toDocument = g.toDocument ∧
    (ofDocument catalog g.toDocument).graph.nodes = g.nodes ∧
    (ofDocument catalog g.toDocument).graph.connections.map (fun c => (c.source, c.target)) =
      g.connections.map (fun c => (c.source, c.target)) ∧
    (ofDocument catalog g.toDocument).graph.drag = .idle := by
  have hload : ofDocument catalog g.toDocument = ⟨.ok (), renewed catalog g, g.renewalNotes⟩ := by
    rw [ofDocument, Edit.apply, run_load_toDocument h.wellFormed h.placed]
  rw [hload]
  refine ⟨rfl, fun source target hmem => ?_, toDocument_renewed catalog g, rfl,
    Connection.map_ends_renumber 0 g.connections, rfl⟩
  simp [renewalNotes] at hmem

/-- A connection was replaced and a gesture went on when the graph was stored. -/
theorem rewired_reloaded :
    Reachable Sample.catalog Sample.rewired ∧ Sample.rewired.drag.isActive = true ∧
    (ofDocument Sample.catalog Sample.rewired.toDocument).outcome = .ok () ∧
    (ofDocument Sample.catalog Sample.rewired.toDocument).graph.toDocument =
      Sample.rewired.toDocument ∧
    (ofDocument Sample.catalog Sample.rewired.toDocument).graph.nodes = Sample.rewired.nodes ∧
    (ofDocument Sample.catalog Sample.rewired.toDocument).graph.drag = .idle := by
  have h : Reachable Sample.catalog Sample.rewired :=
    ((Reachable.loaded (by decide +kernel)).step _).step _
  obtain ⟨hok, -, hdocument, hnodes, -, hdrag⟩ := reload_same h
  exact ⟨h, by decide +kernel, hok, hdocument, hnodes, hdrag⟩

end Graph

end Blueprint
