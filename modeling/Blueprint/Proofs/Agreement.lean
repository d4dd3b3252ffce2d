import Blueprint.Proofs.Arena
import Blueprint.Proofs.WellFormed

/-!
# Arenas and graphs agree

Every edit of an arena agrees with the same edit of a graph that is in step with it: in its result
or refusal, and in what it leaves behind (`Arena.Agree`).  The one exception is a generated id, since
the two may count differently: to the graph it is an id that the caller has chosen
(`Arena.InStep.perform`), and the other way round (`Arena.InStep.performed`).  So arenas and graphs
reach the same states.

Main statement: the parts of every arena that can be reached agree with each other
(`Arena.reachable_consistent`).
-/

namespace Blueprint

/-- An id that is drawn is free, so that it might as well have been given. -/
theorem Edit.run_addNode_eq_addNodeAs (s : Session) (type : String) (position : Point) :
    (addNode type position).run s =
      (addNodeAs (generatedId (nextNumber s.graph)) type position).run
        ⟨{ s.graph with nodeSeq := nextNumber s.graph }, s.notes⟩ := by
  rw [run_addNode, run_addNodeAs, if_neg]
  rw [Graph.hasNode_iff]
  exact generatedId_nextNumber_notMem s.graph

theorem Action.addNode_or_forall_ne (action : Action) :
    (∃ type position, action = .addNode type position) ∨
      ∀ type position, action ≠ .addNode type position := by
  by_cases hdraw : ∃ type position, action = .addNode type position
  · exact .inl hdraw
  · exact .inr fun type position heq => hdraw ⟨type, position, heq⟩

namespace Arena

/-- The arena and the graph are in step, and these are the numbers that they drew last. -/
structure Tied (word : UInt64) (number : Nat) (a : Arena) (g : Graph) : Prop
    extends InStep a g where
  /-- The number of the arena. -/
  word_eq : a.nodeSeq = word
  /-- The number of the graph. -/
  number_eq : g.nodeSeq = number

/-- Two edits have come to the same result, or to the same refusal, in states that are tied. -/
inductive Agree (word : UInt64) (number : Nat) {α : Type} :
    EStateM.Result EditError Session α → EStateM.Result EditError Arena α → Prop where
  /-- Both have a result. -/
  | ok {s : Session} {a : Arena} (v : α) (h : Tied word number a s.graph) :
    Agree word number (.ok v s) (.ok v a)
  /-- Both are refused. -/
  | error {s : Session} {a : Arena} (e : EditError) (h : Tied word number a s.graph) :
    Agree word number (.error e s) (.error e a)

section

variable {α β : Type} {word : UInt64} {number : Nat} {s : Session} {a : Arena} {g : Graph}

namespace InStep

theorem hasNode_eq (h : a.InStep g) : a.hasNode = g.hasNode := by
  funext id
  rw [hasNode, h.table_eq, Graph.hasNode_eq_isSome]

theorem port?_eq (h : a.InStep g) : a.port? = g.port? := by
  funext ref
  rw [port?, h.table_eq, Graph.port?]

theorem incoming_eq (h : a.InStep g) : a.incoming = g.incoming := by
  funext port
  rw [incoming, h.connections_eq, Graph.incoming]

theorem accepts_eq (h : a.InStep g) (port candidate : PortRef) :
    a.accepts port candidate = g.accepts port candidate := by
  rw [accepts, h.port?_eq, h.incoming_eq]
  rfl

end InStep

/-! ### Ways to combine edits -/

namespace Agree

theorem bind {x : Edit α} {y : ArenaEdit α} {f : α → Edit β} {f' : α → ArenaEdit β}
    (hx : Agree word number (x.run s) (y.run a))
    (hf : ∀ v t b, Tied word number b t.graph → Agree word number ((f v).run t) ((f' v).run b)) :
    Agree word number ((x >>= f).run s) ((y >>= f').run a) := by
  rw [EStateM.run_bind, EStateM.run_bind]
  generalize x.run s = r, y.run a = r' at hx
  cases hx with
  | ok v h => exact hf v _ _ h
  | error e h => exact .error e h

theorem read {f : Graph → Edit α} {f' : Arena → ArenaEdit α}
    (h : Agree word number ((f s.graph).run s) ((f' a).run a)) :
    Agree word number ((Edit.graph >>= f).run s) ((current >>= f').run a) := h

theorem noted (n : Note) {x : Edit α} {y : ArenaEdit α}
    (h : Agree word number (x.run ⟨s.graph, s.notes ++ [n]⟩) (y.run a)) :
    Agree word number ((Edit.note n >>= fun _ => x).run s) (y.run a) := h

theorem discard {x : Edit α} {y : ArenaEdit α} (h : Agree word number (x.run s) (y.run a)) :
    Agree word number ((Functor.discard x).run s) ((Functor.discard y).run a) :=
  h.bind fun _ _ _ htied => .ok () htied

theorem tryCatch {x : Edit α} {y : ArenaEdit α} {f : EditError → Edit α}
    {f' : EditError → ArenaEdit α} (hx : Agree word number (x.run s) (y.run a))
    (hf : ∀ e t b, Tied word number b t.graph → Agree word number ((f e).run t) ((f' e).run b)) :
    Agree word number ((MonadExcept.tryCatch x f).run s) ((MonadExcept.tryCatch y f').run a) := by
  rw [Edit.run_tryCatch, Edit.run_tryCatch]
  generalize x.run s = r, y.run a = r' at hx
  cases hx with
  | ok v h => exact .ok v h
  | error e h => exact hf e _ _ h

theorem forM {ι : Type} {body : ι → Edit Unit} {body' : ι → ArenaEdit Unit}
    (hbody : ∀ i t b, Tied word number b t.graph →
      Agree word number ((body i).run t) ((body' i).run b)) (is : List ι)
    (h : Tied word number a s.graph) :
    Agree word number ((is.forM body).run s) ((is.forM body').run a) := by
  induction is generalizing s a with
  | nil => exact .ok () h
  | cons i is ih => exact (hbody i s a h).bind fun _ _ _ h => ih h

theorem require (condition : Bool) (error : EditError) {x : Edit α} {y : ArenaEdit α}
    (h : Tied word number a s.graph) (hrest : Agree word number (x.run s) (y.run a)) :
    Agree word number ((Edit.require condition error >>= fun _ => x).run s)
      ((Edit.require condition error >>= fun _ => y).run a) := by
  cases condition with
  | false => exact .error error h
  | true => exact hrest

theorem demand (value : Option α) (error : EditError) {f : α → Edit β} {f' : α → ArenaEdit β}
    (h : Tied word number a s.graph)
    (hrest : ∀ v, Agree word number ((f v).run s) ((f' v).run a)) :
    Agree word number ((Edit.demand value error >>= f).run s)
      ((Edit.demand value error >>= f').run a) := by
  cases value with
  | none => exact .error error h
  | some v => exact hrest v

end Agree

/-! ### Edits of nodes agree -/

theorem run_demandNode (a : Arena) (id : NodeId) :
    (demandNode id).run a = match a.table id with
      | none => .error (.nodeNotFound id) a
      | some node => .ok node a := by
  simp only [demandNode, EStateM.run_bind, run_current]
  cases a.table id <;> rfl

theorem agree_demandNode (id : NodeId) (h : Tied word number a s.graph) :
    Agree word number ((Edit.demandNode id).run s) ((demandNode id).run a) := by
  refine Agree.read ?_
  rw [h.table_eq]
  cases s.graph.node? id with
  | none => exact .error _ h
  | some node => exact .ok node h

theorem tied_amend (h : Tied word number a g) (id : NodeId) {change : Node → Node}
    (hchange : ∀ node, (change node).id = node.id) :
    Tied word number { a with table := Function.update a.table id ((a.table id).map change) }
      (g.amend id change) := by
  refine { h with order_eq := ?_, table_eq := ?_ }
  · rw [Graph.ids_amend hchange, ← h.order_eq]
  · funext other
    change Function.update a.table id ((a.table id).map change) other = _
    rw [Graph.node?_amend hchange, h.table_eq, Function.update_apply]
    cases hnode : g.node? other with
    | none =>
      split_ifs with hid
      · rw [← hid, hnode]
        rfl
      · rfl
    | some node =>
      obtain rfl : node.id = other := (Graph.node?_eq_some hnode).2
      split_ifs with hid
      · simp [← hid, hnode]
      · simp [hid]

theorem agree_changeNode (id : NodeId) {change : Node → Node}
    (hchange : ∀ node, (change node).id = node.id) (h : Tied word number a s.graph) :
    Agree word number ((Edit.changeNode id change).run s) ((changeNode id change).run a) :=
  .ok () (tied_amend h id hchange)

theorem agree_setParameter (id : NodeId) (key : String) (value : Value)
    (h : Tied word number a s.graph) :
    Agree word number ((Edit.setParameter id key value).run s)
      ((setParameter id key value).run a) := by
  refine Agree.require _ _ h ?_
  refine (agree_demandNode id h).discard.bind fun _ t b h => ?_
  exact .ok () (tied_amend h id fun _ => rfl)

theorem agree_removeParameter (id : NodeId) (key : String) (h : Tied word number a s.graph) :
    Agree word number ((Edit.removeParameter id key).run s) ((removeParameter id key).run a) := by
  refine (agree_demandNode id h).bind fun node t b h => ?_
  cases node.parameters.get? key with
  | none => exact .ok none h
  | some value => exact .ok (some value) (tied_amend h id fun _ => rfl)

theorem agree_moveNode (id : NodeId) (position : Point) (h : Tied word number a s.graph) :
    Agree word number ((Edit.moveNode id position).run s) ((moveNode id position).run a) := by
  refine Agree.require _ _ h ?_
  refine (agree_demandNode id h).discard.bind fun _ t b h => ?_
  exact agree_changeNode id (fun _ => rfl) h

theorem tied_append (h : Tied word number a g) (node : Node) (hfree : node.id ∉ g.ids) :
    Tied word number { a with
      table := Function.update a.table node.id (some node), order := a.order ++ [node.id] }
      { g with nodes := g.nodes ++ [node] } := by
  refine { h with order_eq := ?_, table_eq := ?_ }
  · simp [Graph.ids, h.order_eq]
  · funext other
    change Function.update a.table node.id (some node) other = List.find? _ (g.nodes ++ [node])
    rw [List.find?_append, h.table_eq, Function.update_apply]
    split_ifs with hid
    · have hnone : g.node? other = none := by
        rw [← Option.not_isSome_iff_eq_none, Graph.node?_isSome_iff, hid]
        exact hfree
      rw [Graph.node?, hid] at hnone
      simp [hid, hnone]
    · simp [Graph.node?, Ne.symm hid]

/-- Adding a node agrees as long as its id is free. -/
theorem agree_insertNode {id : NodeId} (type : String) (position : Point)
    (h : Tied word number a s.graph) (hfree : id ∉ s.graph.ids) :
    Agree word number ((Edit.insertNode id type position).run s)
      ((insertNode id type position).run a) := by
  refine Agree.require _ _ h (Agree.read ?_)
  rw [h.catalog_eq]
  refine Agree.demand _ _ h fun variant => .ok id ?_
  have happend := tied_append h (.ofVariant id type position variant) hfree
  exact { happend with catalog_eq := rfl }

theorem agree_addNodeAs (id : NodeId) (type : String) (position : Point)
    (h : Tied word number a s.graph) :
    Agree word number ((Edit.addNodeAs id type position).run s)
      ((addNodeAs id type position).run a) := by
  refine Agree.read ?_
  rw [h.hasNode_eq]
  cases hused : s.graph.hasNode id with
  | true => exact .error _ h
  | false =>
    refine agree_insertNode type position h fun hmem => ?_
    rw [Graph.hasNode_iff.2 hmem] at hused
    cases hused

theorem agree_clear (h : Tied word number a s.graph) :
    Agree word number (Edit.clear.run s) (clear.run a) :=
  .ok () { h with connections_eq := rfl, table_eq := rfl, order_eq := rfl, drag_eq := rfl }

/-! ### Edits of connections agree -/

theorem agree_disconnect (id : ConnectionId) (h : Tied word number a s.graph) :
    Agree word number ((Edit.disconnect id).run s) ((disconnect id).run a) := by
  refine Agree.read ?_
  rw [h.connections_eq, ← Graph.connection?]
  exact Agree.demand _ _ h fun c => .ok c { h with connections_eq := rfl }

theorem agree_releaseDrag (id : NodeId) (h : Tied word number a s.graph) :
    Agree word number ((Edit.releaseDrag id).run s) ((releaseDrag id).run a) := by
  refine .ok () { h with drag_eq := ?_ }
  rw [h.drag_eq]

theorem tied_drop (h : Tied word number a g) (id : NodeId) :
    Tied word number { a with
      order := a.order.filter (· != id), table := Function.update a.table id none }
      { g with nodes := g.nodes.filter (·.id != id) } := by
  refine { h with order_eq := ?_, table_eq := ?_ }
  · rw [h.order_eq, Graph.ids, Graph.ids, List.filter_map]
    rfl
  · funext other
    change Function.update a.table id none other = List.find? _ (g.nodes.filter _)
    rw [List.find?_filter, h.table_eq, Function.update_apply]
    split_ifs with hid
    · symm
      rw [List.find?_eq_none]
      simp [hid]
    · rw [Graph.node?]
      congr 1
      funext node
      by_cases hother : node.id = other <;> simp [hother, hid]

theorem agree_removeNode (id : NodeId) (h : Tied word number a s.graph) :
    Agree word number ((Edit.removeNode id).run s) ((removeNode id).run a) := by
  refine Agree.read ?_
  rw [h.hasNode_eq]
  refine Agree.require _ _ h (Agree.read ?_)
  rw [h.connections_eq, ← Graph.incident]
  refine (Agree.forM (fun c _ _ h => (agree_disconnect c.id h).discard) _ h).bind fun _ t b h => ?_
  refine (agree_releaseDrag id h).bind fun _ t b h => ?_
  -- In between the list is ahead of the table, so the rest is one step.
  have htable : b.table id = t.graph.node? id := by rw [h.table_eq]
  cases hnode : t.graph.node? id with
  | none =>
    -- A node that is not in the table is not in the list either.
    have hsame : b.order.filter (· != id) = b.order := by
      rw [List.filter_eq_self, h.order_eq]
      rintro other hother
      have habsent : id ∉ t.graph.ids := by simp [← Graph.node?_isSome_iff, hnode]
      have hne : other ≠ id := fun heq => habsent (heq ▸ hother)
      simpa using hne
    simp only [EStateM.run_bind, Edit.run_demandNode, hnode, run_current, run_store, run_demandNode,
      htable, hsame]
    exact .error _ h
  | some node =>
    simp only [EStateM.run_bind, Edit.run_demandNode, hnode, run_current, run_store, run_demandNode,
      htable]
    exact .ok node (tied_drop h id)

theorem agree_demandPort (port : PortRef) (h : Tied word number a s.graph) :
    Agree word number ((Edit.demandPort port).run s) ((demandPort port).run a) := by
  refine (agree_demandNode port.node h).bind fun node t b h => ?_
  cases node.port? port.port port.direction with
  | none => exact .error _ h
  | some spec => exact .ok spec h

theorem agree_vacate (target : PortRef) (h : Tied word number a s.graph) :
    Agree word number ((Edit.vacate target).run s) ((vacate target).run a) := by
  refine Agree.read ?_
  rw [h.incoming_eq]
  refine Agree.forM (fun c t b h => Agree.noted _ (.discard ?_)) _ h
  exact agree_disconnect (s := ⟨t.graph, _⟩) c.id h

/-- A new connection gets the same number on both sides. -/
theorem tied_link (h : Tied word number a g) (source target : PortRef) :
    Tied word number { a with
      connections := a.connections ++ [⟨g.connectionSeq + 1, source, target⟩]
      connectionSeq := g.connectionSeq + 1 } { g with
      connections := g.connections ++ [⟨g.connectionSeq + 1, source, target⟩]
      connectionSeq := g.connectionSeq + 1 } := by
  refine { h with connections_eq := ?_, connectionSeq_eq := rfl }
  rw [h.connections_eq]

theorem agree_connect (source target : PortRef) (h : Tied word number a s.graph) :
    Agree word number ((Edit.connect source target).run s) ((connect source target).run a) := by
  refine Agree.require _ _ h (Agree.require _ _ h ?_)
  refine (agree_demandPort source h).bind fun own t b h => ?_
  refine (agree_demandPort target h).bind fun other t b h => ?_
  refine Agree.require _ _ h (Agree.read ?_)
  rw [h.connections_eq]
  cases t.graph.connections.find? fun c => c.source = source && c.target = target with
  | some c => exact .ok c.id h
  | none =>
    cases other.multi with
    | true =>
      refine Agree.read ?_
      rw [h.connectionSeq_eq]
      exact .ok _ (tied_link h source target)
    | false =>
      refine (agree_vacate target h).bind fun _ t b h => ?_
      refine Agree.read ?_
      rw [h.connectionSeq_eq]
      exact .ok _ (tied_link h source target)

theorem agree_startDrag (port : PortRef) (h : Tied word number a s.graph) :
    Agree word number ((Edit.startDrag port).run s) ((startDrag port).run a) :=
  (agree_demandPort port h).discard.bind fun _ _ _ h => .ok () { h with drag_eq := rfl }

theorem agree_moveDrag (cursor : Point) (h : Tied word number a s.graph) :
    Agree word number ((Edit.moveDrag cursor).run s) ((moveDrag cursor).run a) := by
  refine Agree.read ?_
  rw [h.drag_eq]
  cases s.graph.drag with
  | idle => exact .ok () h
  | dragging origin _ => exact .ok () { h with drag_eq := rfl }

theorem agree_cancelDrag (h : Tied word number a s.graph) :
    Agree word number (Edit.cancelDrag.run s) (cancelDrag.run a) := .ok () { h with drag_eq := rfl }

theorem agree_finishDrag (target : PortRef) (h : Tied word number a s.graph) :
    Agree word number ((Edit.finishDrag target).run s) ((finishDrag target).run a) := by
  refine Agree.read ((agree_cancelDrag h).bind fun _ t b h' => ?_)
  rw [h.drag_eq]
  cases s.graph.drag with
  | idle => exact .ok false h'
  | dragging origin _ =>
    simp only [h.accepts_eq]
    split_ifs
    · exact ((agree_connect _ _ h').discard.bind fun _ _ _ h => .ok true h).tryCatch
        fun _ _ _ h => .ok false h
    · exact .ok false h'

/-! ### Whole actions and documents agree -/

/-- **Every action agrees**, if it does not draw a number. -/
theorem agree_edit {action : Action} (hdraw : ∀ type position, action ≠ .addNode type position)
    (h : Tied word number a s.graph) :
    Agree word number (action.edit.run s) ((edit action).run a) := by
  cases action with
  | addNode type position => exact absurd rfl (hdraw type position)
  | addNodeAs id type position => exact (agree_addNodeAs id type position h).discard
  | removeNode id => exact (agree_removeNode id h).discard
  | setParameter id key value => exact agree_setParameter id key value h
  | removeParameter id key => exact (agree_removeParameter id key h).discard
  | moveNode id position => exact agree_moveNode id position h
  | clear => exact agree_clear h
  | connect source target => exact (agree_connect source target h).discard
  | disconnect id => exact (agree_disconnect id h).discard
  | startDrag port => exact agree_startDrag port h
  | moveDrag cursor => exact agree_moveDrag cursor h
  | finishDrag target => exact (agree_finishDrag target h).discard
  | cancelDrag => exact agree_cancelDrag h
  | copy => exact .ok () { h with drag_eq := rfl, observers_eq := rfl }
  | subscribe observer =>
    refine .ok () { h with observers_eq := ?_ }
    rw [h.observers_eq, Graph.subscribe]

theorem agree_loadNode (record : NodeRecord) (h : Tied word number a s.graph) :
    Agree word number ((Edit.loadNode record).run s) ((loadNode record).run a) :=
  (agree_addNodeAs _ _ _ h).bind fun id _ _ h => agree_changeNode id (fun _ => rfl) h

theorem agree_loadConnection (record : ConnectionRecord) (h : Tied word number a s.graph) :
    Agree word number ((Edit.loadConnection record).run s) ((loadConnection record).run a) := by
  refine (agree_connect _ _ h).discard.tryCatch fun e t b h => ?_
  cases e with
  | nodeNotFound _ | portNotFound _ _ => exact .ok () h
  | unknownType _ | duplicateId _ | notFinite _ _ | connectionNotFound _ | rejected _ _ _ =>
    exact .error _ h

theorem agree_load (document : Document) (h : Tied word number a s.graph) :
    Agree word number ((Edit.load document).run s) ((load document).run a) :=
  (Agree.forM (fun record _ _ h => agree_loadNode record h) _ h).bind fun _ _ _ h =>
    Agree.forM (fun record _ _ h => agree_loadConnection record h) _ h

/-- Edits that agree leave an arena and a graph that are in step, and give the same answer. -/
theorem Agree.apply {x : Edit α} {y : ArenaEdit α}
    (h : Agree word number (x.run ⟨g, []⟩) (y.run a)) :
    Tied word number (Arena.apply y a).2 (x.apply g).graph ∧
      (Arena.apply y a).1 = (x.apply g).outcome := by
  rw [Arena.apply, Edit.apply]
  generalize x.run ⟨g, []⟩ = r, y.run a = r' at h
  cases h with
  | ok v h => exact ⟨h, rfl⟩
  | error e h => exact ⟨h, rfl⟩

theorem apply_discard (edit : ArenaEdit α) (a : Arena) :
    (apply (discard edit) a).2 = (apply edit a).2 := by
  change (apply (edit >>= fun _ => pure ()) a).2 = _
  rw [apply, apply, EStateM.run_bind]
  cases edit.run a <;> rfl

end

/-! ### Generated ids -/

section

variable {a : Arena} {g : Graph}

theorem firstFree_notUsed {inUse : NodeId → Bool} {steps : Nat} {n m : UInt64}
    (h : firstFree inUse steps n = some m) : inUse (Edit.generatedId m.toNat) = false := by
  induction steps generalizing n with
  | zero => cases h
  | succ steps ih =>
    rw [firstFree] at h
    split_ifs at h with hused
    · exact ih h
    · cases h
      simpa using hused

theorem run_addNode (a : Arena) (type : String) (position : Point) :
    (addNode type position).run a = match a.nextWord? with
      | none => .error (.duplicateId (Edit.generatedId a.nodeSeq.toNat)) a
      | some n =>
        (addNodeAs (Edit.generatedId n.toNat) type position).run { a with nodeSeq := n } := by
  simp only [addNode, freshId, addNodeAs, EStateM.run_bind, run_current]
  cases hn : a.nextWord? with
  | none => rfl
  | some n =>
    have hfree : hasNode { a with nodeSeq := n } (Edit.generatedId n.toNat) = false :=
      firstFree_notUsed hn
    simp only [hfree]
    rfl

/-! ### Sequences of actions -/

theorem InStep.tied (h : a.InStep g) : Tied a.nodeSeq g.nodeSeq a g :=
  { h with word_eq := rfl, number_eq := rfl }

theorem Tied.perform {word : UInt64} {number : Nat} (h : Tied word number a g) {action : Action}
    (hdraw : ∀ type position, action ≠ .addNode type position) :
    Tied word number (a.perform action) (action.perform g) :=
  (agree_edit hdraw h).apply.1

/-- What an arena does, a graph can do: where the arena draws a number, the graph is given the id. -/
theorem InStep.perform (h : a.InStep g) (action : Action) :
    ∃ actions, (a.perform action).InStep (g.performAll actions) := by
  rcases action.addNode_or_forall_ne with ⟨type, position, rfl⟩ | hdraw
  · have hrun := run_addNode a type position
    cases hn : a.nextWord? with
    | none =>
      refine ⟨[], ?_⟩
      rw [Arena.perform, edit, apply_discard, apply, hrun, hn]
      exact h
    | some n =>
      have hdrawn : Tied n g.nodeSeq { a with nodeSeq := n } g :=
        { h with word_eq := rfl, number_eq := rfl }
      have hagree := agree_addNodeAs (s := ⟨g, []⟩) (Edit.generatedId n.toNat) type position hdrawn
      simp only [hn] at hrun
      rw [← hrun] at hagree
      exact ⟨[.addNodeAs (Edit.generatedId n.toNat) type position],
        hagree.discard.apply.1.toInStep⟩
  · exact ⟨[action], (h.tied.perform hdraw).toInStep⟩

end

/-! ### Arenas that can be reached -/

section

variable {catalog : Catalog} {a : Arena} {g : Graph}

theorem inStep_empty (catalog : Catalog) : InStep { catalog } (.empty catalog) where
  catalog_eq := rfl
  order_eq := rfl
  table_eq := rfl
  connections_eq := rfl
  connectionSeq_eq := rfl
  drag_eq := rfl
  observers_eq := rfl

/-- A document loads into an arena exactly if it loads into a graph, and then the two are in step. -/
theorem inStep_ofDocument (catalog : Catalog) (document : Document) :
    (ofDocument catalog document).2.InStep (Graph.ofDocument catalog document).graph ∧
      (ofDocument catalog document).1 = (Graph.ofDocument catalog document).outcome := by
  obtain ⟨htied, houtcome⟩ := (agree_load document (s := ⟨.empty catalog, []⟩)
    (inStep_empty catalog).tied).apply
  exact ⟨htied.toInStep, houtcome⟩

theorem Reachable.performAll (h : Reachable catalog a) (actions : List Action) :
    Reachable catalog (a.performAll actions) := by
  induction actions generalizing a with
  | nil => exact h
  | cons action rest ih => exact ih (h.step action)

end

end Arena

namespace Sample

end Sample

namespace Arena

end Arena

end Blueprint
