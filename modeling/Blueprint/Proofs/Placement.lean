import Blueprint.Proofs.WellFormed

/-!
# What happens to nodes

An action does one of few things to the nodes of a graph (`NodesChange`): it removes some, adds one
at the end, sets or removes a parameter of one, or moves one.  What all of these keep holds of the
nodes of every reachable graph.  One such property is that nodes are at finite places
(`Graph.Reachable.placed`).
-/

namespace Blueprint

/-- What one action can do to the nodes of a graph over a catalog. -/
inductive NodesChange (catalog : Catalog) (before after : List Node) : Prop where
  /-- Some nodes stay, in their order. -/
  | fewer (h : after.Sublist before)
  /-- A node of a registered type is added at the end, at a finite place. -/
  | added {id : NodeId} {type : String} {position : Point} {variant : Variant}
    (hfinite : position.isFinite = true) (hvariant : catalog.get? type = some variant)
    (h : after = before ++ [.ofVariant id type position variant])
  /-- Parameters of a node change, and no number that is not finite comes in. -/
  | tuned (id : NodeId) (change : Parameters → Parameters)
    (hchange : ∀ parameters, ∀ entry ∈ (change parameters).entries,
      entry ∈ parameters.entries ∨ entry.2.isFinite = true)
    (h : after = before.map fun node =>
      if node.id = id then { node with parameters := change node.parameters } else node)
  /-- A node moves to a finite place. -/
  | moved {id : NodeId} {position : Point} (hfinite : position.isFinite = true)
    (h : after = before.map fun node => if node.id = id then { node with position } else node)

namespace NodesChange

variable {catalog : Catalog} {before after : List Node}

theorem refl : NodesChange catalog before before := .fewer (List.Sublist.refl _)

theorem of_eq (h : after = before) : NodesChange catalog before after := h ▸ refl

end NodesChange

namespace Edit

variable {s : Session}

theorem insertNode_nodes (id : NodeId) (type : String) (position : Point) :
    NodesChange s.graph.catalog s.graph.nodes
      (after s (insertNode id type position)).graph.nodes := by
  rw [after, run_insertNode]
  split_ifs with hfinite
  · cases hvariant : s.graph.catalog.get? type with
    | none => exact .refl
    | some variant => exact .added hfinite hvariant rfl
  · exact .refl

theorem connect_nodes (hnum : s.graph.UniqueNumbers) (source target : PortRef) :
    (after s (connect source target)).graph.nodes = s.graph.nodes := by
  obtain ⟨-, e, hrun⟩ | ⟨a, b, -, ⟨c, -, -, -, hrun⟩ | ⟨-, hrun⟩⟩ :=
    connect_cases s source target hnum
  · rw [after_of_error hrun]
  · rw [after_of_ok hrun]
  · rw [after_of_ok hrun]
    rfl

theorem finishDrag_nodes (hnum : s.graph.UniqueNumbers) (target : PortRef) :
    (after s (finishDrag target)).graph.nodes = s.graph.nodes := by
  rcases after_finishDrag s target with hsame | ⟨source, sink, hjoined⟩
  · rw [hsame]
  · rw [hjoined]
    exact connect_nodes (s := { s with graph := { s.graph with drag := .idle } }) hnum source sink

end Edit

/-- **An action removes nodes, adds one at a finite place, sets a parameter of one to a finite value
or removes it, or moves one to a finite place.** -/
theorem Action.nodesChange {s : Session} (hnum : s.graph.UniqueNumbers) (action : Action) :
    NodesChange s.graph.catalog s.graph.nodes (Edit.after s action.edit).graph.nodes := by
  cases action with
  | addNode type position =>
    rw [edit, Edit.after_discard, Edit.after, Edit.run_addNode]
    exact Edit.insertNode_nodes
      (s := { s with graph := { s.graph with nodeSeq := Edit.nextNumber s.graph } }) _ type position
  | addNodeAs id type position =>
    rw [edit, Edit.after_discard, Edit.after, Edit.run_addNodeAs]
    split_ifs
    · exact .refl
    · exact Edit.insertNode_nodes id type position
  | removeNode id =>
    rw [edit, Edit.after_discard, Edit.after, Edit.run_removeNode s id hnum]
    cases s.graph.node? id with
    | none => exact .refl
    | some node => exact .fewer List.filter_sublist
  | setParameter id key value =>
    rw [edit, Edit.after, Edit.run_setParameter]
    split_ifs with hfinite
    · cases s.graph.node? id with
      | none => exact .refl
      | some node =>
        refine .tuned id (·.insert key value) (fun parameters entry hentry => ?_) rfl
        rcases SortedMap.mem_insertEntry hentry with rfl | hold
        · exact .inr hfinite
        · exact .inl hold
    · exact .refl
  | removeParameter id key =>
    rw [edit, Edit.after_discard, Edit.after, Edit.run_removeParameter]
    cases s.graph.node? id with
    | none => exact .refl
    | some node =>
      cases hvalue : node.parameters.get? key with
      | none => simpa only [hvalue] using .refl
      | some value =>
        simp only [hvalue]
        exact .tuned id (·.erase key) (fun parameters entry hentry =>
          .inl (List.mem_filter.1 hentry).1) rfl
  | moveNode id position =>
    rw [edit, Edit.after, Edit.run_moveNode]
    split_ifs with hfinite
    · cases s.graph.node? id with
      | none => exact .refl
      | some node => exact .moved hfinite rfl
    · exact .refl
  | clear => exact .fewer (List.nil_sublist _)
  | connect source target =>
    rw [edit, Edit.after_discard]
    exact .of_eq (Edit.connect_nodes hnum source target)
  | disconnect id =>
    rw [edit, Edit.after_discard, Edit.after, Edit.run_disconnect]
    cases s.graph.connection? id <;> exact .refl
  | startDrag port =>
    rw [edit, Edit.after, Edit.run_startDrag]
    cases s.graph.port? port <;> exact .refl
  | moveDrag cursor =>
    rw [edit, Edit.after, Edit.run_moveDrag]
    cases s.graph.drag <;> exact .refl
  | finishDrag target =>
    rw [edit, Edit.after_discard]
    exact .of_eq (Edit.finishDrag_nodes hnum target)
  | cancelDrag => exact .refl
  | copy => exact .refl
  | subscribe observer => exact .refl

namespace Graph

/-- All nodes are at finite places. -/
def Placed (g : Graph) : Prop := ∀ node ∈ g.nodes, node.position.isFinite = true

theorem Placed.amend {g : Graph} (h : g.Placed) (id : NodeId) (change : Node → Node)
    (hchange : ∀ node ∈ g.nodes, (change node).position.isFinite = true) :
    (g.amend id change).Placed := by
  intro node hnode
  obtain ⟨old, hold, rfl⟩ := List.mem_map.1 hnode
  split_ifs
  · exact hchange old hold
  · exact h old hold

theorem Placed.of_nodesChange {catalog : Catalog} {g g' : Graph} (h : g.Placed)
    (hchange : NodesChange catalog g.nodes g'.nodes) : g'.Placed := by
  cases hchange with
  | fewer hsub => exact fun node hnode => h node (hsub.subset hnode)
  | added hfinite _ heq =>
    intro node hnode
    rw [heq] at hnode
    rcases List.mem_append.1 hnode with hnode | hnode
    · exact h node hnode
    · rw [List.mem_singleton.1 hnode]
      exact hfinite
  | tuned id change _ heq =>
    intro node hnode
    rw [heq] at hnode
    exact h.amend id (fun node => { node with parameters := change node.parameters }) h node hnode
  | moved hfinite heq =>
    intro node hnode
    rw [heq] at hnode
    exact h.amend _ _ (fun _ _ => hfinite) node hnode

/-- **Nodes of reachable graphs are at finite places.** -/
theorem Reachable.placed {catalog : Catalog} {g : Graph} (h : Reachable catalog g) : g.Placed := by
  -- Removing connections one by one needs their numbers to be unique.
  refine (h.invariant (P := fun g => WellFormed catalog g ∧ g.Placed)
    ⟨wellFormed_empty catalog, fun _ hn => by cases hn⟩ ?_ ?_).2
  · intro id parameters s hs
    exact ⟨hs.1.amend id fun _ => ⟨rfl, rfl, rfl, rfl⟩, hs.2.amend id _ hs.2⟩
  · intro action s hs
    exact ⟨action.keeps_wellFormed s hs.1,
      hs.2.of_nodesChange (action.nodesChange hs.1.uniqueNumbers)⟩

end Graph

end Blueprint
