import Blueprint.Proofs.WellFormed

/-!
# What an action does

An action is refused, or it has one of a few effects on nodes and connections and reports them by
events (`Effect`).  A refusal comes before the first change: all that a refused action may leave
behind is the number that it drew for a generated id (`Action.run_cases`).  Removing a node and
replacing a connection remove connections one by one, and each of these steps could be refused; it
never is, since the numbers that they collect are those of connections that are still there.

Main statement: a refused action changes nothing and reports nothing (`Graph.refused_unchanged`).
-/

namespace Blueprint

/-! ### Parameters -/

namespace SortedMap

variable {α : Type} {key other : String}

theorem get?_insert_of_ne (m : SortedMap α) (value : α) (h : other ≠ key) :
    (m.insert key value).get? other = m.get? other := by
  have hne : (other == key) = false := beq_false_of_ne h
  have hentries : ∀ entries : List (String × α),
      (insertEntry key value entries).lookup other = entries.lookup other := by
    intro entries
    induction entries with
    | nil => rw [insertEntry, List.lookup_cons, hne]
    | cons entry rest ih =>
      obtain ⟨first, old⟩ := entry
      rw [insertEntry]
      split_ifs with hlt heq
      · rw [List.lookup_cons, hne]
      · obtain rfl : key = first := heq
        simp only [List.lookup_cons, hne]
      · simp only [List.lookup_cons, ih]
  exact hentries m.entries

theorem get?_erase_of_ne (m : SortedMap α) (h : other ≠ key) :
    (m.erase key).get? other = m.get? other := by
  have hentries : ∀ entries : List (String × α),
      (entries.filter (·.1 != key)).lookup other = entries.lookup other := by
    intro entries
    induction entries with
    | nil => rfl
    | cons entry rest ih =>
      obtain ⟨first, value⟩ := entry
      by_cases hkey : first = key
      · have hne : (other == first) = false := beq_false_of_ne (hkey ▸ h)
        rw [List.filter_cons_of_neg (by simpa using hkey), List.lookup_cons, hne, ih]
      · rw [List.filter_cons_of_pos (by simpa using hkey), List.lookup_cons, List.lookup_cons, ih]
  exact hentries m.entries

end SortedMap

/-! ### Effects -/

/-- What an action that is not refused makes of a graph, with the events that report it. -/
inductive Effect (g : Graph) : Graph → List Event → Prop where
  /-- Nodes and connections stay as they are. -/
  | aside {g' : Graph} (hnodes : g'.nodes = g.nodes) (hconnections : g'.connections = g.connections) :
    Effect g g' []
  /-- A node is added at the end. -/
  | added {g' : Graph} {node : Node} (hnodes : g'.nodes = g.nodes ++ [node])
    (hconnections : g'.connections = g.connections) : Effect g g' [.nodeAdded node.id]
  /-- A node is removed, after the connections on it. -/
  | removed (id : NodeId) : Effect g (g.without id)
    (((g.incident id).map fun c => .connectionRemoved c.id) ++ [.nodeRemoved id])
  /-- The parameters of a node change at one key. -/
  | tuned {id : NodeId} {key : String} {change : Parameters → Parameters}
    (hothers : ∀ parameters other, other ≠ key →
      (change parameters).get? other = parameters.get? other) :
    Effect g (g.amend id fun node => { node with parameters := change node.parameters })
      [.parameterChanged id key]
  /-- A node moves. -/
  | moved (id : NodeId) (position : Point) : Effect g (g.amend id fun node => { node with position }) []
  /-- Everything is removed. -/
  | cleared : Effect g { g with nodes := [], connections := [], drag := .idle } [.cleared]
  /-- A connection is added at the end, after those that give way to it are removed. -/
  | linked {g' : Graph} {source target : PortRef} (multi : Bool) (hnodes : g'.nodes = g.nodes)
    (hconnections : g'.connections = (g.link source target multi).connections) :
    Effect g g' ((if multi then [] else (g.incoming target).map fun c => .connectionRemoved c.id) ++
      [.connectionAdded (g.connectionSeq + 1)])
  /-- A connection is removed. -/
  | unlinked (id : ConnectionId) :
    Effect g { g with connections := g.connections.eraseP (·.id == id) } [.connectionRemoved id]

namespace Action

/-- What a refused action leaves behind: the graph as it was, but for the number that was drawn for
a generated id. -/
def refusal : Action → Graph → Graph
  | .addNode _ _, g => { g with nodeSeq := Edit.nextNumber g }
  | _, g => g

/-- Who hears about changes after an action. -/
def audience : Action → List Nat → List Nat
  | .copy, _ => []
  | .subscribe observer, observers => observers ++ [observer]
  | _, observers => observers

/-- The action is refused, and nothing has happened. -/
def Refused (action : Action) (s : Session) : Prop :=
  ∃ error, action.edit.run s = .error error ⟨action.refusal s.graph, s.notes⟩

/-- The action succeeds with an effect, and its notes report it. -/
def Succeeds (action : Action) (s : Session) : Prop :=
  ∃ t notes, action.edit.run s = .ok () t ∧ t.notes = s.notes ++ notes ∧
    Effect s.graph t.graph (notes.filterMap Note.event?) ∧
    t.graph.observers = action.audience s.graph.observers

end Action

/-! ### Connections -/

namespace Edit

variable {s : Session}

/-- Notes that report the removal of connections, whatever else they say. -/
theorem events_flatMap {notes : Connection → List Note}
    (h : ∀ c, (notes c).filterMap Note.event? = [.connectionRemoved c.id]) (cs : List Connection) :
    (cs.flatMap notes).filterMap Note.event? = cs.map fun c => .connectionRemoved c.id := by
  induction cs with
  | nil => rfl
  | cons c cs ih =>
    rw [List.flatMap_cons, List.filterMap_append, h, ih]
    rfl

theorem events_link (g : Graph) (target : PortRef) (multi : Bool) (number : ConnectionId) :
    ((if multi then [] else g.replacementNotes target) ++
      [Note.event (.connectionAdded number)]).filterMap Note.event? =
        (if multi then [] else (g.incoming target).map fun c => .connectionRemoved c.id) ++
          [.connectionAdded number] := by
  cases multi with
  | true => rfl
  | false =>
    rw [List.filterMap_append]
    exact congrArg (· ++ [Event.connectionAdded number]) (events_flatMap (fun _ => rfl) _)

/-- Connecting two ports, whatever gesture goes on, is refused before it changes anything, or it has
an effect. -/
theorem connect_effect (hnum : s.graph.UniqueNumbers) (drag : Drag) (source target : PortRef) :
    (∃ error, (connect source target).run { s with graph := { s.graph with drag } } =
      .error error { s with graph := { s.graph with drag } }) ∨
    ∃ id t notes, (connect source target).run { s with graph := { s.graph with drag } } = .ok id t ∧
      t.notes = s.notes ++ notes ∧ Effect s.graph t.graph (notes.filterMap Note.event?) ∧
      t.graph.observers = s.graph.observers := by
  obtain ⟨-, error, hrun⟩ | ⟨a, b, -, ⟨c, -, -, -, hrun⟩ | ⟨-, hrun⟩⟩ :=
    connect_cases { s with graph := { s.graph with drag } } source target hnum
  · exact .inl ⟨error, hrun⟩
  · exact .inr ⟨_, _, [], hrun, (List.append_nil _).symm, .aside rfl rfl, rfl⟩
  · refine .inr ⟨_, _, _, hrun, List.append_assoc .., ?_, rfl⟩
    rw [events_link]
    exact .linked b.multi rfl rfl

end Edit

/-! ### Every action -/

namespace Action

variable {s : Session}

theorem insertNode_cases (id : NodeId) (type : String) (position : Point) :
    (∃ error, (Edit.insertNode id type position).run s = .error error s) ∨
      ∃ node : Node, (Edit.insertNode id type position).run s = .ok id
        ⟨{ s.graph with nodes := s.graph.nodes ++ [node] },
          s.notes ++ [.event (.nodeAdded node.id)]⟩ := by
  rw [Edit.run_insertNode]
  split_ifs
  · cases s.graph.catalog.get? type with
    | none => exact .inl ⟨_, rfl⟩
    | some variant => exact .inr ⟨.ofVariant id type position variant, rfl⟩
  · exact .inl ⟨_, rfl⟩

theorem addNode_cases (type : String) (position : Point) :
    (addNode type position).Refused s ∨ (addNode type position).Succeeds s := by
  unfold Refused Succeeds
  rw [edit, Edit.run_discard, Edit.run_addNode]
  obtain ⟨error, hrun⟩ | ⟨node, hrun⟩ := insertNode_cases
    (s := { s with graph := { s.graph with nodeSeq := Edit.nextNumber s.graph } })
    (Edit.generatedId (Edit.nextNumber s.graph)) type position
  · rw [hrun]
    exact .inl ⟨error, rfl⟩
  · rw [hrun]
    exact .inr ⟨_, [.event (.nodeAdded node.id)], rfl, rfl, .added rfl rfl, rfl⟩

theorem addNodeAs_cases (id : NodeId) (type : String) (position : Point) :
    (addNodeAs id type position).Refused s ∨ (addNodeAs id type position).Succeeds s := by
  unfold Refused Succeeds
  rw [edit, Edit.run_discard, Edit.run_addNodeAs]
  split_ifs
  · exact .inl ⟨_, rfl⟩
  · obtain ⟨error, hrun⟩ | ⟨node, hrun⟩ := insertNode_cases (s := s) id type position
    · rw [hrun]
      exact .inl ⟨error, rfl⟩
    · rw [hrun]
      exact .inr ⟨_, [.event (.nodeAdded node.id)], rfl, rfl, .added rfl rfl, rfl⟩

theorem removeNode_cases (hnum : s.graph.UniqueNumbers) (id : NodeId) :
    (removeNode id).Refused s ∨ (removeNode id).Succeeds s := by
  unfold Refused Succeeds
  rw [edit, Edit.run_discard, Edit.run_removeNode s id hnum]
  cases s.graph.node? id with
  | none => exact .inl ⟨_, rfl⟩
  | some node =>
    refine .inr ⟨_, _, rfl, List.append_assoc .., ?_, rfl⟩
    rw [List.filterMap_append, Edit.events_flatMap fun _ => rfl]
    exact .removed id

theorem setParameter_cases (id : NodeId) (key : String) (value : Value) :
    (setParameter id key value).Refused s ∨ (setParameter id key value).Succeeds s := by
  unfold Refused Succeeds
  rw [edit, Edit.run_setParameter]
  split_ifs
  · cases s.graph.node? id with
    | none => exact .inl ⟨_, rfl⟩
    | some node =>
      refine .inr ⟨_, [.event (.parameterChanged id key)], rfl, rfl, ?_, rfl⟩
      exact .tuned fun parameters other hne => parameters.get?_insert_of_ne value hne
  · exact .inl ⟨_, rfl⟩

theorem removeParameter_cases (id : NodeId) (key : String) :
    (removeParameter id key).Refused s ∨ (removeParameter id key).Succeeds s := by
  unfold Refused Succeeds
  rw [edit, Edit.run_discard, Edit.run_removeParameter]
  cases s.graph.node? id with
  | none => exact .inl ⟨_, rfl⟩
  | some node =>
    simp only
    cases node.parameters.get? key with
    | none => exact .inr ⟨_, [], rfl, (List.append_nil _).symm, .aside rfl rfl, rfl⟩
    | some value =>
      refine .inr ⟨_, [.event (.parameterChanged id key)], rfl, rfl, ?_, rfl⟩
      exact .tuned fun parameters other hne => parameters.get?_erase_of_ne hne

theorem moveNode_cases (id : NodeId) (position : Point) :
    (moveNode id position).Refused s ∨ (moveNode id position).Succeeds s := by
  unfold Refused Succeeds
  rw [edit, Edit.run_moveNode]
  split_ifs
  · cases s.graph.node? id with
    | none => exact .inl ⟨_, rfl⟩
    | some node => exact .inr ⟨_, [], rfl, (List.append_nil _).symm, .moved id position, rfl⟩
  · exact .inl ⟨_, rfl⟩

theorem connect_cases (hnum : s.graph.UniqueNumbers) (source target : PortRef) :
    (connect source target).Refused s ∨ (connect source target).Succeeds s := by
  unfold Refused Succeeds
  rw [edit, Edit.run_discard]
  obtain ⟨error, hrun⟩ | ⟨id, t, notes, hrun, hnotes, heffect, hobservers⟩ :=
    Edit.connect_effect hnum s.graph.drag source target
  · rw [hrun]
    exact .inl ⟨error, rfl⟩
  · rw [hrun]
    exact .inr ⟨t, notes, rfl, hnotes, heffect, hobservers⟩

theorem disconnect_cases (id : ConnectionId) :
    (disconnect id).Refused s ∨ (disconnect id).Succeeds s := by
  unfold Refused Succeeds
  rw [edit, Edit.run_discard, Edit.run_disconnect]
  cases s.graph.connection? id with
  | none => exact .inl ⟨_, rfl⟩
  | some c => exact .inr ⟨_, [.event (.connectionRemoved id)], rfl, rfl, .unlinked id, rfl⟩

theorem startDrag_cases (port : PortRef) :
    (startDrag port).Refused s ∨ (startDrag port).Succeeds s := by
  unfold Refused Succeeds
  rw [edit, Edit.run_startDrag]
  cases s.graph.port? port with
  | none => exact .inl ⟨_, rfl⟩
  | some spec => exact .inr ⟨_, [], rfl, (List.append_nil _).symm, .aside rfl rfl, rfl⟩

theorem moveDrag_succeeds (cursor : Point) : (moveDrag cursor).Succeeds s := by
  unfold Succeeds
  rw [edit, Edit.run_moveDrag]
  cases s.graph.drag with
  | idle => exact ⟨_, [], rfl, (List.append_nil _).symm, .aside rfl rfl, rfl⟩
  | dragging origin _ => exact ⟨_, [], rfl, (List.append_nil _).symm, .aside rfl rfl, rfl⟩

theorem finishDrag_succeeds (hnum : s.graph.UniqueNumbers) (target : PortRef) :
    (finishDrag target).Succeeds s := by
  unfold Succeeds
  rw [edit, Edit.run_discard, Edit.run_finishDrag]
  cases s.graph.drag with
  | idle => exact ⟨_, [], rfl, (List.append_nil _).symm, .aside rfl rfl, rfl⟩
  | dragging origin cursor =>
    simp only
    split_ifs
    · obtain ⟨error, hrun⟩ | ⟨id, t, notes, hrun, hnotes, heffect, hobservers⟩ :=
        Edit.connect_effect hnum .idle (Edit.ends origin target).1 (Edit.ends origin target).2
      · rw [hrun]
        exact ⟨_, [], rfl, (List.append_nil _).symm, .aside rfl rfl, rfl⟩
      · rw [hrun]
        exact ⟨t, notes, rfl, hnotes, heffect, hobservers⟩
    · exact ⟨_, [.dragRejected origin target], rfl, rfl, .aside rfl rfl, rfl⟩

/-- **An action is refused before it changes anything, or it has an effect.** -/
theorem run_cases (hnum : s.graph.UniqueNumbers) (action : Action) :
    action.Refused s ∨ action.Succeeds s := by
  cases action with
  | addNode type position => exact addNode_cases type position
  | addNodeAs id type position => exact addNodeAs_cases id type position
  | removeNode id => exact removeNode_cases hnum id
  | setParameter id key value => exact setParameter_cases id key value
  | removeParameter id key => exact removeParameter_cases id key
  | moveNode id position => exact moveNode_cases id position
  | clear => exact .inr ⟨_, [.event .cleared], rfl, rfl, .cleared, rfl⟩
  | connect source target => exact connect_cases hnum source target
  | disconnect id => exact disconnect_cases id
  | startDrag port => exact startDrag_cases port
  | moveDrag cursor => exact .inr (moveDrag_succeeds cursor)
  | finishDrag target => exact .inr (finishDrag_succeeds hnum target)
  | cancelDrag => exact .inr ⟨_, [], rfl, (List.append_nil _).symm, .aside rfl rfl, rfl⟩
  | copy => exact .inr ⟨_, [], rfl, (List.append_nil _).symm, .aside rfl rfl, rfl⟩
  | subscribe observer => exact .inr ⟨_, [], rfl, (List.append_nil _).symm, .aside rfl rfl, rfl⟩

theorem apply_cases {g : Graph} (hnum : g.UniqueNumbers) (action : Action) :
    (∃ error, action.edit.apply g = ⟨.error error, action.refusal g, []⟩) ∨
      ∃ g' notes, action.edit.apply g = ⟨.ok (), g', notes⟩ ∧
        Effect g g' (notes.filterMap Note.event?) ∧ g'.observers = action.audience g.observers := by
  rcases action.run_cases (s := ⟨g, []⟩) hnum with
    ⟨error, hrun⟩ | ⟨t, notes, hrun, hnotes, heffect, hobservers⟩
  · refine .inl ⟨error, ?_⟩
    rw [Edit.apply, hrun]
  · refine .inr ⟨t.graph, notes, ?_, heffect, hobservers⟩
    rw [Edit.apply, hrun]
    exact congrArg (Edited.mk _ _) hnotes

end Action

namespace Graph

variable {catalog : Catalog} {g : Graph}

/-- **A refused action changes nothing and reports nothing.**  The graph is exactly as it was, with
its nodes and connections in their order, the numbers given away, the gesture in progress and the
observers, except that adding a node under a generated id may have drawn a number for it.  No note is
taken, so no observer hears of anything. -/
theorem refused_unchanged (h : Reachable catalog g) (action : Action) {error : EditError}
    (hrefused : (action.edit.apply g).outcome = .error error) :
    ((action.edit.apply g).graph = g ∨
      ∃ type position n, action = .addNode type position ∧ g.nodeSeq < n ∧
        (action.edit.apply g).graph = { g with nodeSeq := n }) ∧
    (action.edit.apply g).notes = [] := by
  rcases action.apply_cases h.wellFormed.uniqueNumbers with ⟨reason, happly⟩ | ⟨_, _, happly, -⟩
  · rw [happly]
    refine ⟨?_, rfl⟩
    cases action with
    | addNode type position =>
      exact .inr ⟨type, position, _, rfl, (Edit.firstFree_spec _ _ _).1, rfl⟩
    | _ => exact .inl rfl
  · rw [happly] at hrefused
    cases hrefused

/-- While a gesture goes on, a connection that would replace another one is refused, and so is a
node of an unknown type under a generated id. -/
theorem rewired_refusals :
    Reachable Sample.catalog Sample.rewired ∧
    ((Action.connect (.output "s" "in") (.input "d" "one")).edit.apply Sample.rewired).outcome =
      .error (.portNotFound "s" "in") ∧
    (Action.connect (.output "s" "in") (.input "d" "one")).perform Sample.rewired =
      Sample.rewired ∧
    ((Action.addNode "gate" {}).edit.apply Sample.rewired).outcome = .error (.unknownType "gate") ∧
    ∃ n, Sample.rewired.nodeSeq < n ∧
      (Action.addNode "gate" {}).perform Sample.rewired = { Sample.rewired with nodeSeq := n } := by
  have h : Reachable Sample.catalog Sample.rewired :=
    ((Reachable.loaded (by decide +kernel)).step _).step _
  have hport : ((Action.connect (.output "s" "in") (.input "d" "one")).edit.apply
      Sample.rewired).outcome = .error (.portNotFound "s" "in") := by decide +kernel
  have htype : ((Action.addNode "gate" {}).edit.apply Sample.rewired).outcome =
      .error (.unknownType "gate") := by decide +kernel
  refine ⟨h, hport, ?_, htype, ?_⟩
  · rcases (refused_unchanged h _ hport).1 with heq | ⟨_, _, _, hadd, -⟩
    · exact heq
    · cases hadd
  · rcases (refused_unchanged h _ htype).1 with heq | ⟨_, _, n, -, hlt, heq⟩
    · exact absurd (congrArg nodeSeq heq) (by decide +kernel)
    · exact ⟨n, hlt, heq⟩

end Graph

end Blueprint
