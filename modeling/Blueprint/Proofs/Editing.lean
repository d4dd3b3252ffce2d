import Mathlib.Data.List.Perm.Subperm
import Mathlib.Data.List.Range
import Blueprint.Document.Basic
import Blueprint.Proofs.Text.Hexadecimal

/-!
# What each edit does

An edit is described by its run: on a session it either succeeds with a result and a new session,
or it is refused.  The lemmas `run_*` give the whole run of each edit as a function of the graph,
so that later proofs never open the edits themselves.  Two of them need the numbers of connections
to be unique (`Graph.UniqueNumbers`): removing connections one by one by their numbers removes
exactly the listed ones (`run_forM_disconnect`).

An edit keeps a property of graphs (`Edit.Keeps`) if the graph it leaves behind has the property
whenever the graph before has it, refused or not.
-/

namespace Blueprint

namespace Graph

/-- No two connections share a number. -/
def UniqueNumbers (g : Graph) : Prop := (g.connections.map (·.id)).Nodup

/-- Two ports that may be connected, with their declarations. -/
structure Joinable (g : Graph) (source target : PortRef) (s t : PortSpec) : Prop where
  /-- The source is an output. -/
  source_output : source.direction = .output
  /-- The target is an input. -/
  target_input : target.direction = .input
  /-- The two are on different nodes. -/
  node_ne : source.node ≠ target.node
  /-- The source exists. -/
  source_port : g.port? source = some s
  /-- The target exists. -/
  target_port : g.port? target = some t
  /-- The types fit. -/
  types : s.type.canConnect t.type = true

/-- The graph with a new connection.  A singular input loses the one that it had. -/
def link (g : Graph) (source target : PortRef) (multi : Bool) : Graph :=
  { g with
    connections := (if multi then g.connections else g.connections.filter (·.target != target))
      ++ [⟨g.connectionSeq + 1, source, target⟩]
    connectionSeq := g.connectionSeq + 1 }

/-- The graph without a node and the connections on it. -/
def without (g : Graph) (id : NodeId) : Graph :=
  { g with
    nodes := g.nodes.filter (·.id != id)
    connections := g.connections.filter fun c => !c.touches id
    drag := if g.drag.origin?.any (·.node == id) then .idle else g.drag }

/-- The graph with the node of an id changed. -/
def amend (g : Graph) (id : NodeId) (change : Node → Node) : Graph :=
  { g with nodes := g.nodes.map fun node => if node.id = id then change node else node }

/-- The notes of vacating a singular input: each connection is replaced, then removed. -/
def replacementNotes (g : Graph) (target : PortRef) : List Note :=
  (g.incoming target).flatMap fun c => [.replacing c.id target, .event (.connectionRemoved c.id)]

/-- Why a port that does not exist cannot be used. -/
def absence (g : Graph) (port : PortRef) : EditError :=
  match g.node? port.node with
  | some _ => .portNotFound port.node port.port
  | none => .nodeNotFound port.node

theorem eraseP_id_eq_filter {cs : List Connection} (h : (cs.map (·.id)).Nodup) (id : ConnectionId) :
    cs.eraseP (·.id == id) = cs.filter (·.id != id) := by
  induction cs with
  | nil => rfl
  | cons c cs ih =>
    obtain ⟨hc, hcs⟩ := List.nodup_cons.1 h
    by_cases hid : c.id = id
    · -- The numbers after the first match are all different from it.
      rw [List.eraseP_cons_of_pos (by simpa using hid),
        List.filter_cons_of_neg (by simpa using hid)]
      refine (List.filter_eq_self.2 fun d hd => ?_).symm
      have : d.id ≠ c.id := fun he => hc (List.mem_map.2 ⟨d, hd, he⟩)
      simpa [hid] using this
    · rw [List.eraseP_cons_of_neg (by simpa using hid),
        List.filter_cons_of_pos (by simpa using hid), ih hcs]

theorem connection?_of_mem {g : Graph} (h : g.UniqueNumbers) {c : Connection}
    (hc : c ∈ g.connections) : g.connection? c.id = some c := by
  have hfirst : ∀ cs : List Connection, (cs.map (·.id)).Nodup → c ∈ cs →
      cs.find? (·.id == c.id) = some c := by
    intro cs hcs hmem
    induction cs with
    | nil => cases hmem
    | cons d cs ih =>
      obtain ⟨hd, hcs⟩ := List.nodup_cons.1 hcs
      rcases List.mem_cons.1 hmem with rfl | hmem
      · simp
      · have hne : d.id ≠ c.id := fun he => hd (List.mem_map.2 ⟨c, hmem, he.symm⟩)
        rw [List.find?_cons_of_neg (by simpa using hne)]
        exact ih hcs hmem
  exact hfirst _ h hc

theorem hasNode_eq_isSome (g : Graph) (id : NodeId) : g.hasNode id = (g.node? id).isSome := by
  rw [hasNode, node?, List.isSome_find?]

end Graph

namespace Edit

variable {α β : Type} (s : Session)

/-! ### Ways to combine edits -/

@[simp] theorem run_map (f : α → β) (edit : Edit α) :
    (f <$> edit).run s = match edit.run s with
      | .ok a t => .ok (f a) t
      | .error e t => .error e t := by
  change EStateM.map f edit s = _
  rw [EStateM.map, EStateM.run]
  cases edit s <;> rfl

@[simp] theorem run_discard (edit : Edit α) :
    (discard edit).run s = match edit.run s with
      | .ok _ t => .ok () t
      | .error e t => .error e t :=
  run_map s (Function.const α ()) edit

theorem run_tryCatch {σ : Type} (s : σ) (edit : EStateM EditError σ α)
    (handle : EditError → EStateM EditError σ α) :
    (tryCatch edit handle).run s = match edit.run s with
      | .ok a t => .ok a t
      | .error e t => (handle e).run t := by
  change EStateM.tryCatch edit handle s = _
  rw [EStateM.tryCatch, EStateM.run]
  cases edit s <;> rfl

/-! ### Nodes -/

theorem run_insertNode (id : NodeId) (type : String) (position : Point) :
    (insertNode id type position).run s =
      if position.isFinite then
        match s.graph.catalog.get? type with
        | some variant => .ok id
          ⟨{ s.graph with nodes := s.graph.nodes ++ [.ofVariant id type position variant] },
            s.notes ++ [.event (.nodeAdded id)]⟩
        | none => .error (.unknownType type) s
      else .error (.notFinite id "position") s := by
  simp only [insertNode, EStateM.run_bind, run_require]
  cases position.isFinite
  · rfl
  · cases hv : s.graph.catalog.get? type <;> simp [hv]

/-- The number that the next generated node id is made of. -/
def nextNumber (g : Graph) : Nat := firstFree g.ids g.nodeCount (g.nodeSeq + 1)

theorem generatedId_injective : Function.Injective generatedId := fun _ _ h =>
  Text.hexDigits_injective 8 (String.ofList_injective h)

/-- The search for a free id passes over ids in use only. -/
theorem firstFree_spec (inUse : List NodeId) (steps n : Nat) :
    n ≤ firstFree inUse steps n ∧
      (∀ m, n ≤ m → m < firstFree inUse steps n → generatedId m ∈ inUse) ∧
      (generatedId (firstFree inUse steps n) ∈ inUse → firstFree inUse steps n = n + steps) := by
  induction steps generalizing n with
  | zero => exact ⟨le_rfl, fun m h h' => absurd h' (by rw [firstFree]; omega), fun _ => rfl⟩
  | succ steps ih =>
    rw [firstFree]
    split_ifs with hn
    · obtain ⟨hle, hpassed, hlast⟩ := ih (n + 1)
      refine ⟨by omega, fun m hm hlt => ?_, fun h => by rw [hlast h]; omega⟩
      rcases Nat.eq_or_lt_of_le hm with rfl | hm
      · exact List.contains_iff_mem.1 hn
      · exact hpassed m hm hlt
    · exact ⟨le_rfl, fun m h h' => absurd h' (by omega),
        fun h => absurd (List.contains_iff_mem.2 h) hn⟩

/-- **A generated id is free.**  If not, one more id than there are nodes would be in use. -/
theorem generatedId_nextNumber_notMem (g : Graph) : generatedId (nextNumber g) ∉ g.ids := by
  intro hmem
  obtain ⟨-, hpassed, hlast⟩ := firstFree_spec g.ids g.nodeCount (g.nodeSeq + 1)
  have heq := hlast hmem
  -- The search has tried `nodeCount + 1` different ids.
  have hsub : (List.range' (g.nodeSeq + 1) (g.nodeCount + 1)).map generatedId ⊆ g.ids := by
    intro id hid
    obtain ⟨m, hm, rfl⟩ := List.mem_map.1 hid
    rw [List.mem_range'_1] at hm
    rcases Nat.lt_or_ge m (nextNumber g) with hlt | hge
    · exact hpassed m hm.1 hlt
    · rw [nextNumber] at hge hmem
      have : m = firstFree g.ids g.nodeCount (g.nodeSeq + 1) := by omega
      exact this ▸ hmem
  have hnodup : ((List.range' (g.nodeSeq + 1) (g.nodeCount + 1)).map generatedId).Nodup :=
    (List.nodup_range' ..).map generatedId_injective
  have hlen := (hnodup.subperm hsub).length_le
  simp only [List.length_map, List.length_range', Graph.ids, Graph.nodeCount] at hlen
  omega

theorem run_addNode (type : String) (position : Point) :
    (addNode type position).run s =
      (insertNode (generatedId (nextNumber s.graph)) type position).run
        { s with graph := { s.graph with nodeSeq := nextNumber s.graph } } := rfl

theorem run_addNodeAs (id : NodeId) (type : String) (position : Point) :
    (addNodeAs id type position).run s =
      if s.graph.hasNode id then .error (.duplicateId id) s
      else (insertNode id type position).run s := by
  simp only [addNodeAs, EStateM.run_bind, run_graph, run_require]
  cases s.graph.hasNode id <;> rfl

theorem run_demandNode (id : NodeId) :
    (demandNode id).run s = match s.graph.node? id with
      | some node => .ok node s
      | none => .error (.nodeNotFound id) s := by
  simp only [demandNode, EStateM.run_bind, run_graph]
  cases s.graph.node? id <;> rfl

@[simp] theorem run_changeNode (id : NodeId) (change : Node → Node) :
    (changeNode id change).run s = .ok () { s with graph := s.graph.amend id change } := rfl

theorem run_setParameter (id : NodeId) (key : String) (value : Value) :
    (setParameter id key value).run s =
      if value.isFinite then
        match s.graph.node? id with
        | some _ => .ok ()
          ⟨s.graph.amend id fun node =>
              { node with parameters := node.parameters.insert key value },
            s.notes ++ [.event (.parameterChanged id key)]⟩
        | none => .error (.nodeNotFound id) s
      else .error (.notFinite id key) s := by
  simp only [setParameter, EStateM.run_bind, run_require]
  cases value.isFinite
  · rfl
  · cases hn : s.graph.node? id <;> simp [run_demandNode, hn]

theorem run_removeParameter (id : NodeId) (key : String) :
    (removeParameter id key).run s = match s.graph.node? id with
      | none => .error (.nodeNotFound id) s
      | some node => match node.parameters.get? key with
        | none => .ok none s
        | some value => .ok (some value)
          ⟨s.graph.amend id fun node => { node with parameters := node.parameters.erase key },
            s.notes ++ [.event (.parameterChanged id key)]⟩ := by
  simp only [removeParameter, EStateM.run_bind, run_demandNode]
  cases hn : s.graph.node? id with
  | none => rfl
  | some node => cases hv : node.parameters.get? key <;> simp [hv]

theorem run_moveNode (id : NodeId) (position : Point) :
    (moveNode id position).run s =
      if position.isFinite then
        match s.graph.node? id with
        | some _ => .ok () { s with graph := s.graph.amend id fun node => { node with position } }
        | none => .error (.nodeNotFound id) s
      else .error (.notFinite id "position") s := by
  simp only [moveNode, EStateM.run_bind, run_require]
  cases position.isFinite
  · rfl
  · cases hn : s.graph.node? id <;> simp [run_demandNode, hn]

/-! ### Connections -/

theorem run_disconnect (id : ConnectionId) :
    (disconnect id).run s = match s.graph.connection? id with
      | some c => .ok c
        ⟨{ s.graph with connections := s.graph.connections.eraseP (·.id == id) },
          s.notes ++ [.event (.connectionRemoved id)]⟩
      | none => .error (.connectionNotFound id) s := by
  simp only [disconnect, EStateM.run_bind, run_graph]
  cases hc : s.graph.connection? id <;> simp

/-- **Removing connections one by one removes exactly the listed ones**, whatever notes each
removal takes. -/
theorem run_forM_disconnect (body : Connection → Edit Unit) (noteOf : Connection → List Note)
    (hbody : ∀ c s, s.graph.connection? c.id = some c → (body c).run s = .ok ()
      ⟨{ s.graph with connections := s.graph.connections.eraseP (·.id == c.id) },
        s.notes ++ noteOf c⟩)
    (cs : List Connection) (hnum : s.graph.UniqueNumbers) (hcs : cs.Nodup)
    (hmem : ∀ c ∈ cs, c ∈ s.graph.connections) :
    (cs.forM body).run s = .ok ()
      ⟨{ s.graph with connections := s.graph.connections.filter fun c => !cs.contains c },
        s.notes ++ cs.flatMap noteOf⟩ := by
  induction cs generalizing s with
  | nil =>
    simp only [List.contains_nil, Bool.not_false, List.filter_true, List.flatMap_nil,
      List.append_nil]
    rfl
  | cons c cs ih =>
    obtain ⟨hc, hcs⟩ := List.nodup_cons.1 hcs
    have hin := hmem c List.mem_cons_self
    have hinj : ∀ d ∈ s.graph.connections, d.id = c.id → d = c := fun d hd he =>
      List.inj_on_of_nodup_map hnum hd hin he
    -- The first step removes `c` alone, and the others are still there after it.
    have hstep := hbody c s (Graph.connection?_of_mem hnum hin)
    rw [Graph.eraseP_id_eq_filter hnum] at hstep
    rw [List.forM_eq_forM, List.forM_cons, EStateM.run_bind, hstep]
    have hleft : ∀ d ∈ cs, d ∈ s.graph.connections.filter (·.id != c.id) := by
      intro d hd
      refine List.mem_filter.2 ⟨hmem d (List.mem_cons_of_mem _ hd), ?_⟩
      simp only [bne_iff_ne, ne_eq]
      intro he
      exact hc (hinj d (hmem d (List.mem_cons_of_mem _ hd)) he ▸ hd)
    have hnum' : Graph.UniqueNumbers
        { s.graph with connections := s.graph.connections.filter (·.id != c.id) } :=
      hnum.sublist (List.filter_sublist.map _)
    have := ih ⟨_, s.notes ++ noteOf c⟩ hnum' hcs hleft
    rw [List.forM_eq_forM] at this
    simp only [this, List.filter_filter, List.flatMap_cons, List.append_assoc]
    congr 3
    refine List.filter_congr fun d hd => ?_
    by_cases he : d.id = c.id
    · simp [hinj d hd he]
    · have hne : d ≠ c := fun h => he (h ▸ rfl)
      simp [he, hne]

theorem run_vacate (target : PortRef) (hnum : s.graph.UniqueNumbers) :
    (vacate target).run s = .ok ()
      ⟨{ s.graph with connections := s.graph.connections.filter (·.target != target) },
        s.notes ++ s.graph.replacementNotes target⟩ := by
  have hloop := run_forM_disconnect s
    (fun c => do note (.replacing c.id target); discard (disconnect c.id))
    (fun c => [.replacing c.id target, .event (.connectionRemoved c.id)])
    ?_ (s.graph.incoming target) hnum (hnum.of_map.filter _)
    (fun c hc => (List.mem_filter.1 hc).1)
  · simp only [vacate, EStateM.run_bind, run_graph, hloop, Graph.replacementNotes]
    congr 3
    refine List.filter_congr fun c hc => ?_
    by_cases ht : c.target = target <;> simp [Graph.incoming, hc, ht]
  · intro c s h
    simp [run_disconnect, h]

@[simp] theorem run_releaseDrag (id : NodeId) :
    (releaseDrag id).run s = .ok () { s with graph := { s.graph with
      drag := if s.graph.drag.origin?.any (·.node == id) then .idle else s.graph.drag } } := rfl

/-- The second look-up of the node finds what the first one has found. -/
theorem run_removeNode (id : NodeId) (hnum : s.graph.UniqueNumbers) :
    (removeNode id).run s = match s.graph.node? id with
      | none => .error (.nodeNotFound id) s
      | some node => .ok node ⟨s.graph.without id,
          s.notes ++ ((s.graph.incident id).flatMap fun c => [.event (.connectionRemoved c.id)])
            ++ [.event (.nodeRemoved id)]⟩ := by
  have hloop := run_forM_disconnect s (fun c => discard (disconnect c.id))
    (fun c => [.event (.connectionRemoved c.id)])
    ?_ (s.graph.incident id) hnum (hnum.of_map.filter _)
    (fun c hc => (List.mem_filter.1 hc).1)
  · have hkept : (s.graph.connections.filter fun c => !(s.graph.incident id).contains c)
        = s.graph.connections.filter fun c => !c.touches id := by
      refine List.filter_congr fun c hc => ?_
      simp [Graph.incident, hc]
    simp only [removeNode, EStateM.run_bind, run_graph, run_require, Graph.hasNode_eq_isSome]
    cases hn : s.graph.node? id with
    | none => rfl
    | some node =>
      have hagain : Graph.node? { s.graph with
          connections := s.graph.connections.filter fun c => !c.touches id
          drag := if s.graph.drag.origin?.any (·.node == id) then .idle else s.graph.drag } id =
            some node := hn
      simp only [Option.isSome_some, if_true, hloop, hkept, run_releaseDrag, run_demandNode, hagain]
      rfl
  · intro c s h
    simp [run_disconnect, h]

theorem run_demandPort (port : PortRef) :
    (demandPort port).run s = match s.graph.port? port with
      | some spec => .ok spec s
      | none => .error (s.graph.absence port) s := by
  simp only [demandPort, EStateM.run_bind, run_demandNode, Graph.port?, Graph.absence]
  cases s.graph.node? port.node with
  | none => rfl
  | some node =>
    simp only [Option.bind_some]
    cases node.port? port.port port.direction <;> rfl

/-- The whole run of `connect`: the checks in their order, then the connection. -/
theorem run_connect (source target : PortRef) (hnum : s.graph.UniqueNumbers) :
    (connect source target).run s =
      if source.direction = .output ∧ target.direction = .input then
        if source.node = target.node then .error (.rejected source target .sameNode) s
        else match s.graph.port? source, s.graph.port? target with
          | none, _ => .error (s.graph.absence source) s
          | some _, none => .error (s.graph.absence target) s
          | some a, some b =>
            if a.type.canConnect b.type then
              match s.graph.connections.find? fun c => c.source = source && c.target = target with
              | some c => .ok c.id s
              | none => .ok (s.graph.connectionSeq + 1) ⟨s.graph.link source target b.multi,
                  s.notes ++ (if b.multi then [] else s.graph.replacementNotes target)
                    ++ [.event (.connectionAdded (s.graph.connectionSeq + 1))]⟩
            else .error (.rejected source target (.types a.type b.type)) s
      else .error (.rejected source target .directions) s := by
  simp only [connect, EStateM.run_bind, run_require, run_demandPort]
  by_cases hdir : source.direction = .output ∧ target.direction = .input
  · by_cases hnode : source.node = target.node
    · simp [hdir, hnode]
    · cases ha : s.graph.port? source with
      | none => simp [hdir, hnode, ha]
      | some a =>
        cases hb : s.graph.port? target with
        | none => simp [hdir, hnode, ha, hb]
        | some b =>
          by_cases htype : a.type.canConnect b.type = true
          · cases hfind : s.graph.connections.find? fun c =>
                c.source = source && c.target = target with
            | some c => simp [hdir, hnode, ha, hb, htype, hfind]
            | none =>
              cases hmulti : b.multi with
              | true => simp [hdir, hnode, ha, hb, htype, hfind, hmulti, Graph.link]
              | false =>
                simp [hdir, hnode, ha, hb, htype, hfind, hmulti, Graph.link,
                  run_vacate s target hnum]
          · simp [hdir, hnode, ha, hb, htype]
  · simp [hdir]

/-- **Connecting two ports has three outcomes:** the ports cannot be joined and nothing happens,
they are connected already and nothing happens, or a new connection is made. -/
theorem connect_cases (source target : PortRef) (hnum : s.graph.UniqueNumbers) :
    ((∀ a b, ¬s.graph.Joinable source target a b) ∧
      ∃ e, (connect source target).run s = .error e s) ∨
    ∃ a b, s.graph.Joinable source target a b ∧
      ((∃ c ∈ s.graph.connections, c.source = source ∧ c.target = target ∧
          (connect source target).run s = .ok c.id s) ∨
        (∀ c ∈ s.graph.connections, ¬(c.source = source ∧ c.target = target)) ∧
          (connect source target).run s = .ok (s.graph.connectionSeq + 1)
            ⟨s.graph.link source target b.multi,
              s.notes ++ (if b.multi then [] else s.graph.replacementNotes target)
                ++ [.event (.connectionAdded (s.graph.connectionSeq + 1))]⟩) := by
  rw [run_connect s source target hnum]
  by_cases hdir : source.direction = .output ∧ target.direction = .input
  · by_cases hnode : source.node = target.node
    · exact .inl ⟨fun a b h => h.node_ne hnode, _, by rw [if_pos hdir, if_pos hnode]⟩
    · rw [if_pos hdir, if_neg hnode]
      cases ha : s.graph.port? source with
      | none => exact .inl ⟨fun a b h => (nomatch ha.symm.trans h.source_port), _, rfl⟩
      | some a =>
        cases hb : s.graph.port? target with
        | none => exact .inl ⟨fun a b h => (nomatch hb.symm.trans h.target_port), _, rfl⟩
        | some b =>
          by_cases htype : a.type.canConnect b.type = true
          · refine .inr ⟨a, b, ⟨hdir.1, hdir.2, hnode, ha, hb, htype⟩, ?_⟩
            simp only [htype, if_true]
            cases hfind : s.graph.connections.find? fun c =>
              c.source = source && c.target = target with
            | some c =>
              have hpair : c.source = source ∧ c.target = target := by
                simpa using List.find?_some hfind
              exact .inl ⟨c, List.mem_of_find?_eq_some hfind, hpair.1, hpair.2, rfl⟩
            | none =>
              refine .inr ⟨fun c hc hpair => ?_, rfl⟩
              have := List.find?_eq_none.1 hfind c hc
              simp [hpair] at this
          · refine .inl ⟨fun a' b' h => htype ?_, _, by simp only [htype]; rfl⟩
            obtain rfl : a = a' := Option.some.inj (ha.symm.trans h.source_port)
            obtain rfl : b = b' := Option.some.inj (hb.symm.trans h.target_port)
            exact h.types
  · exact .inl ⟨fun a b h => hdir ⟨h.source_output, h.target_input⟩, _, by rw [if_neg hdir]⟩

/-! ### Drawing a connection -/

theorem run_startDrag (port : PortRef) :
    (startDrag port).run s = match s.graph.port? port with
      | some _ => .ok () { s with graph := { s.graph with drag := .dragging port {} } }
      | none => .error (s.graph.absence port) s := by
  simp only [startDrag, EStateM.run_bind, run_discard, run_demandPort]
  cases s.graph.port? port <;> rfl

theorem run_moveDrag (cursor : Point) :
    (moveDrag cursor).run s = match s.graph.drag with
      | .idle => .ok () s
      | .dragging origin _ =>
        .ok () { s with graph := { s.graph with drag := .dragging origin cursor } } := by
  simp only [moveDrag, EStateM.run_bind, run_graph]
  cases s.graph.drag <;> rfl

@[simp] theorem run_cancelDrag :
    cancelDrag.run s = .ok () { s with graph := { s.graph with drag := .idle } } := rfl

/-- The source and the target of the connection that a gesture draws. -/
def ends (origin target : PortRef) : PortRef × PortRef :=
  match origin.direction with
  | .output => (origin, target)
  | .input => (target, origin)

theorem run_finishDrag (target : PortRef) :
    (finishDrag target).run s =
      let idle : Session := { s with graph := { s.graph with drag := .idle } }
      match s.graph.drag with
      | .idle => .ok false idle
      | .dragging origin _ =>
        if s.graph.accepts target origin then
          match (connect (ends origin target).1 (ends origin target).2).run idle with
          | .ok _ t => .ok true t
          | .error _ t => .ok false t
        else .ok false { idle with notes := s.notes ++ [.dragRejected origin target] } := by
  simp only [finishDrag, EStateM.run_bind, run_graph, run_cancelDrag]
  cases s.graph.drag with
  | idle => rfl
  | dragging origin cursor =>
    by_cases h : s.graph.accepts target origin = true
    · simp only [h, ite_true, run_tryCatch, EStateM.run_bind, run_discard, ends]
      cases origin.direction <;> generalize EStateM.run (connect _ _) _ = r <;> cases r <;> rfl
    · simp [h]

/-! ### Properties that an edit keeps -/

/-- The session that an edit leaves behind, refused or not. -/
def after (edit : Edit α) : Session :=
  match edit.run s with
  | .ok _ t => t
  | .error _ t => t

variable {s} in
theorem after_of_ok {edit : Edit α} {a : α} {t : Session} (h : edit.run s = .ok a t) :
    after s edit = t := by rw [after, h]

variable {s} in
theorem after_of_error {edit : Edit α} {e : EditError} {t : Session} (h : edit.run s = .error e t) :
    after s edit = t := by rw [after, h]

@[simp] theorem after_discard (edit : Edit α) : after s (discard edit) = after s edit := by
  rw [after, after, run_discard]
  cases edit.run s <;> rfl

/-- **Ending a gesture leaves the graph without it**, or with a connection that was tried then. -/
theorem after_finishDrag (target : PortRef) :
    (after s (finishDrag target)).graph = { s.graph with drag := .idle } ∨
      ∃ source sink, after s (finishDrag target) =
        after { s with graph := { s.graph with drag := .idle } } (connect source sink) := by
  rw [after, run_finishDrag]
  cases s.graph.drag with
  | idle => exact .inl rfl
  | dragging origin cursor =>
    simp only
    split_ifs
    · refine .inr ⟨(ends origin target).1, (ends origin target).2, ?_⟩
      rw [after]
      generalize EStateM.run (connect _ _) _ = r
      cases r <;> rfl
    · exact .inl rfl

theorem graph_apply (edit : Edit α) (g : Graph) :
    (edit.apply g).graph = (after ⟨g, []⟩ edit).graph := by
  rw [apply, after]
  cases edit.run ⟨g, []⟩ <;> rfl

/-- The edit keeps a property of graphs. -/
def Keeps (P : Graph → Prop) (edit : Edit α) : Prop :=
  ∀ s : Session, P s.graph → P (after s edit).graph

namespace Keeps

variable {P : Graph → Prop}

theorem apply {edit : Edit α} (h : edit.Keeps P) {g : Graph} (hg : P g) :
    P (edit.apply g).graph := by
  rw [graph_apply]
  exact h _ hg

theorem pure (a : α) : (Pure.pure a : Edit α).Keeps P := fun _ h => h

theorem throw (e : EditError) : (MonadExcept.throw e : Edit α).Keeps P := fun _ h => h

theorem note (n : Note) : (Edit.note n).Keeps P := fun _ h => h

theorem bind {edit : Edit α} {next : α → Edit β} (h : edit.Keeps P)
    (hnext : ∀ a, (next a).Keeps P) : (edit >>= next).Keeps P := by
  intro s hs
  have hfirst := h s hs
  rw [after] at hfirst ⊢
  rw [EStateM.run_bind]
  cases hr : edit.run s with
  | ok a t =>
    rw [hr] at hfirst
    exact hnext a t hfirst
  | error e t =>
    rw [hr] at hfirst
    exact hfirst

theorem discard {edit : Edit α} (h : edit.Keeps P) : (Functor.discard edit).Keeps P := by
  intro s hs
  rw [after_discard]
  exact h s hs

theorem tryCatch {edit : Edit α} {handle : EditError → Edit α} (h : edit.Keeps P)
    (hhandle : ∀ e, (handle e).Keeps P) : (MonadExcept.tryCatch edit handle).Keeps P := by
  intro s hs
  have hfirst := h s hs
  rw [after] at hfirst ⊢
  rw [run_tryCatch]
  cases hr : edit.run s with
  | ok a t =>
    rw [hr] at hfirst
    exact hfirst
  | error e t =>
    rw [hr] at hfirst
    exact hhandle e t hfirst

theorem forM {β : Type} {body : β → Edit Unit} (h : ∀ b, (body b).Keeps P) (bs : List β) :
    (bs.forM body).Keeps P := by
  induction bs with
  | nil => exact Keeps.pure ()
  | cons b bs ih => exact (h b).bind fun _ => ih

theorem of_graph_eq {edit : Edit α} (h : ∀ s, (after s edit).graph = s.graph) : edit.Keeps P := by
  intro s hs
  rw [h]
  exact hs

theorem graph : Edit.graph.Keeps P := of_graph_eq fun _ => rfl

theorem require (condition : Bool) (error : EditError) :
    Edit.Keeps P (Edit.require condition error : Edit Unit) :=
  of_graph_eq fun _ => by cases condition <;> rfl

theorem demandNode (id : NodeId) : (Edit.demandNode id).Keeps P := by
  refine of_graph_eq fun s => ?_
  rw [after, run_demandNode]
  cases s.graph.node? id <;> rfl

theorem demandPort (port : PortRef) : (Edit.demandPort port).Keeps P := by
  refine of_graph_eq fun s => ?_
  rw [after, run_demandPort]
  cases s.graph.port? port <;> rfl

end Keeps

end Edit

end Blueprint
