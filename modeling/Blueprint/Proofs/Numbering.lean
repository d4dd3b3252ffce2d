import Blueprint.Proofs.Finiteness

/-!
# Numbers of connections are not given away twice

A graph counts the connections that it has made, and a new connection gets the next number.  No
action sets the count back, not even removing everything, and so one state of a graph leads to
another only as `Graph.Continues` says: a connection is still the one from before, or its number is
beyond all that were given away before.  This holds of each action (`Action.continues`) and hence of
every run of actions (`Graph.WellFormed.continues`).

Main statement: the number of a connection belongs to it for good, whether it is still there or not
(`Graph.number_owned`).
-/

namespace Blueprint

namespace Graph

/-- The graph may have become `later`: numbers that were given away are not given away again. -/
structure Continues (g later : Graph) : Prop where
  /-- The last number given away does not go back. -/
  seq_le : g.connectionSeq ≤ later.connectionSeq
  /-- A connection is one from before, or its number is new. -/
  old_or_new : ∀ c ∈ later.connections, c ∈ g.connections ∨ g.connectionSeq < c.id

/-- The number of a connection of the graph is its own in every later state, and when the connection
is gone, nothing has that number any more. -/
structure Owns (g : Graph) (c : Connection) : Prop where
  /-- The connection is there. -/
  present : c ∈ g.connections
  /-- Whatever happens, only this connection has the number. -/
  same : ∀ actions, ∀ d ∈ (g.performAll actions).connections, d.id = c.id → d = c
  /-- Once the connection is gone, whatever happens then, no connection has the number. -/
  gone : ∀ actions, c ∉ (g.performAll actions).connections → ∀ more,
    ∀ d ∈ ((g.performAll actions).performAll more).connections, d.id ≠ c.id
  /-- To remove it again is then refused. -/
  refused : ∀ actions, c ∉ (g.performAll actions).connections → ∀ more,
    (Edit.disconnect c.id).apply ((g.performAll actions).performAll more) =
      ⟨.error (.connectionNotFound c.id), (g.performAll actions).performAll more, []⟩

namespace Continues

variable {a b c : Graph}

theorem of_sublist (hseq : b.connectionSeq = a.connectionSeq)
    (hsub : b.connections.Sublist a.connections) : a.Continues b :=
  ⟨hseq.ge, fun _ hc => .inl (hsub.subset hc)⟩

theorem refl (g : Graph) : g.Continues g := of_sublist rfl (List.Sublist.refl _)

theorem trans (hab : a.Continues b) (hbc : b.Continues c) : a.Continues c where
  seq_le := hab.seq_le.trans hbc.seq_le
  old_or_new d hd := by
    rcases hbc.old_or_new d hd with hold | hnew
    · exact hab.old_or_new d hold
    · exact .inr (hab.seq_le.trans_lt hnew)

theorem link (g : Graph) (source target : PortRef) (multi : Bool) :
    g.Continues (g.link source target multi) where
  seq_le := Nat.le_succ _
  old_or_new c hc := by
    rcases List.mem_append.1 hc with hold | hnew
    · cases multi with
      | true => exact .inl hold
      | false => exact .inl (List.mem_filter.1 hold).1
    · rw [List.mem_singleton.1 hnew]
      exact .inr (Nat.lt_succ_self _)

end Continues

end Graph

/-! ### One action -/

namespace Edit

variable {s : Session}

theorem insertNode_continues (id : NodeId) (type : String) (position : Point) :
    s.graph.Continues (after s (insertNode id type position)).graph := by
  rw [after, run_insertNode]
  split_ifs
  · cases s.graph.catalog.get? type with
    | none => exact .refl _
    | some variant => exact .of_sublist rfl (List.Sublist.refl _)
  · exact .refl _

theorem connect_continues (hnum : s.graph.UniqueNumbers) (source target : PortRef) :
    s.graph.Continues (after s (connect source target)).graph := by
  obtain ⟨-, e, hrun⟩ | ⟨a, b, -, ⟨c, -, -, -, hrun⟩ | ⟨-, hrun⟩⟩ :=
    connect_cases s source target hnum
  · rw [after_of_error hrun]
    exact .refl _
  · rw [after_of_ok hrun]
    exact .refl _
  · rw [after_of_ok hrun]
    exact .link s.graph source target b.multi

theorem finishDrag_continues (hnum : s.graph.UniqueNumbers) (target : PortRef) :
    s.graph.Continues (after s (finishDrag target)).graph := by
  have hidle : s.graph.Continues { s.graph with drag := .idle } :=
    .of_sublist rfl (List.Sublist.refl _)
  rcases after_finishDrag s target with hsame | ⟨source, sink, hjoined⟩
  · rw [hsame]
    exact hidle
  · rw [hjoined]
    exact hidle.trans (connect_continues
      (s := { s with graph := { s.graph with drag := .idle } }) hnum source sink)

end Edit

/-- **No action gives a number away again.** -/
theorem Action.continues {s : Session} (hnum : s.graph.UniqueNumbers) (action : Action) :
    s.graph.Continues (Edit.after s action.edit).graph := by
  -- Most actions leave the connections and their count alone.
  have hsame : ∀ g' : Graph, g'.connectionSeq = s.graph.connectionSeq →
      g'.connections = s.graph.connections → s.graph.Continues g' := fun _ hseq hconnections =>
    .of_sublist hseq (hconnections ▸ List.Sublist.refl _)
  cases action with
  | addNode type position =>
    rw [edit, Edit.after_discard, Edit.after, Edit.run_addNode]
    exact (hsame { s.graph with nodeSeq := Edit.nextNumber s.graph } rfl rfl).trans
      (Edit.insertNode_continues (s := ⟨_, s.notes⟩) _ type position)
  | addNodeAs id type position =>
    rw [edit, Edit.after_discard, Edit.after, Edit.run_addNodeAs]
    split_ifs
    · exact .refl _
    · exact Edit.insertNode_continues id type position
  | removeNode id =>
    rw [edit, Edit.after_discard, Edit.after, Edit.run_removeNode s id hnum]
    cases s.graph.node? id with
    | none => exact .refl _
    | some node => exact .of_sublist rfl List.filter_sublist
  | setParameter id key value =>
    rw [edit, Edit.after, Edit.run_setParameter]
    split_ifs
    · cases s.graph.node? id <;> exact hsame _ rfl rfl
    · exact .refl _
  | removeParameter id key =>
    rw [edit, Edit.after_discard, Edit.after, Edit.run_removeParameter]
    cases s.graph.node? id with
    | none => exact .refl _
    | some node =>
      cases hvalue : node.parameters.get? key with
      | none => simpa only [hvalue] using .refl _
      | some value =>
        simp only [hvalue]
        exact hsame _ rfl rfl
  | moveNode id position =>
    rw [edit, Edit.after, Edit.run_moveNode]
    split_ifs
    · cases s.graph.node? id <;> exact hsame _ rfl rfl
    · exact .refl _
  | clear => exact .of_sublist rfl (List.nil_sublist _)
  | connect source target =>
    rw [edit, Edit.after_discard]
    exact Edit.connect_continues hnum source target
  | disconnect id =>
    rw [edit, Edit.after_discard, Edit.after, Edit.run_disconnect]
    cases s.graph.connection? id with
    | none => exact .refl _
    | some c => exact .of_sublist rfl List.eraseP_sublist
  | startDrag port =>
    rw [edit, Edit.after, Edit.run_startDrag]
    cases s.graph.port? port <;> exact hsame _ rfl rfl
  | moveDrag cursor =>
    rw [edit, Edit.after, Edit.run_moveDrag]
    cases s.graph.drag <;> exact hsame _ rfl rfl
  | finishDrag target =>
    rw [edit, Edit.after_discard]
    exact Edit.finishDrag_continues hnum target
  | cancelDrag => exact hsame _ rfl rfl
  | copy => exact hsame _ rfl rfl
  | subscribe observer => exact hsame _ rfl rfl

/-! ### Runs of actions -/

namespace Graph

variable {catalog : Catalog} {g later : Graph} {c d : Connection}

/-- **No run of actions gives a number away again.** -/
theorem WellFormed.continues (h : WellFormed catalog g) (actions : List Action) :
    WellFormed catalog (g.performAll actions) ∧ g.Continues (g.performAll actions) := by
  induction actions generalizing g with
  | nil => exact ⟨h, .refl g⟩
  | cons action rest ih =>
    have hstep : g.Continues (action.perform g) := by
      rw [Action.perform, Edit.graph_apply]
      exact action.continues (s := ⟨g, []⟩) h.uniqueNumbers
    obtain ⟨hwf, hrest⟩ := ih (action.keeps_wellFormed.apply h)
    exact ⟨hwf, hstep.trans hrest⟩

theorem Continues.eq_of_id_eq (hlater : g.Continues later) (h : WellFormed catalog g)
    (hc : c ∈ g.connections) (hd : d ∈ later.connections) (hid : d.id = c.id) : d = c := by
  rcases hlater.old_or_new d hd with hold | hnew
  · exact List.inj_on_of_nodup_map h.uniqueNumbers hold hc hid
  · exact absurd (h.numbers_le c hc) (Nat.not_le.2 (hid ▸ hnew))

/-- **Every connection owns its number.** -/
theorem WellFormed.owns (h : WellFormed catalog g) (hc : c ∈ g.connections) : g.Owns c := by
  have hgone : ∀ actions, c ∉ (g.performAll actions).connections → ∀ more,
      ∀ d ∈ ((g.performAll actions).performAll more).connections, d.id ≠ c.id := by
    intro actions hnot more d hd hid
    obtain ⟨hwf, hlater⟩ := h.continues actions
    obtain ⟨-, hmore⟩ := hwf.continues more
    -- The connection with this number would be new, or the one that is gone.
    rcases hmore.old_or_new d hd with hold | hnew
    · exact hnot (hlater.eq_of_id_eq h hc hold hid ▸ hold)
    · exact absurd ((h.numbers_le c hc).trans hlater.seq_le) (Nat.not_le.2 (hid ▸ hnew))
  refine ⟨hc, fun actions d hd hid => ?_, hgone, fun actions hnot more => ?_⟩
  · exact (h.continues actions).2.eq_of_id_eq h hc hd hid
  · have hnone : ((g.performAll actions).performAll more).connection? c.id = none := by
      rw [connection?, List.find?_eq_none]
      intro d hd
      simpa using hgone actions hnot more d hd
    rw [Edit.apply, Edit.run_disconnect]
    simp only [hnone]

/-- Ports that were connected with success are joined by a connection of the number returned. -/
theorem mem_connections_of_connect (h : WellFormed catalog g) {source target : PortRef}
    {id : ConnectionId} (hok : ((Edit.connect source target).apply g).outcome = .ok id) :
    ⟨id, source, target⟩ ∈ ((Edit.connect source target).apply g).graph.connections := by
  rw [Edit.apply] at hok ⊢
  obtain ⟨-, e, hrun⟩ | ⟨a, b, -, ⟨c, hc, rfl, rfl, hrun⟩ | ⟨-, hrun⟩⟩ :=
    Edit.connect_cases ⟨g, []⟩ source target h.uniqueNumbers
  · rw [hrun] at hok
    cases hok
  · rw [hrun] at hok ⊢
    cases hok
    exact hc
  · rw [hrun] at hok ⊢
    cases hok
    exact List.mem_append_right _ (List.mem_singleton_self _)

/-- **The number of a connection is never given to another one.**  A number that connecting two
ports returns is that of a connection between these ports, and this connection owns it: in every
later state, whatever actions lead there, a connection with this number joins these ports, and when
it is gone, no connection ever has the number again and removing it is refused.  The same holds of
all connections that the graph has, however they came about. -/
theorem number_owned (h : Reachable catalog g) :
    (∀ source target id, ((Edit.connect source target).apply g).outcome = .ok id →
      ((Edit.connect source target).apply g).graph.Owns ⟨id, source, target⟩) ∧
    ∀ c ∈ g.connections, g.Owns c := by
  have hwf := h.wellFormed
  refine ⟨fun source target id hok => ?_, fun c hc => hwf.owns hc⟩
  exact ((Edit.connect_wellFormed source target).apply hwf).owns
    (mem_connections_of_connect hwf hok)

end Graph

namespace Sample

/-- Another node takes the place of a node at an input for one connection. -/
def displace : Action := .connect (.output "s" "out") (.input "d" "one")

/-- The first node takes its place again. -/
def restore : Action := .connect (.output "b" "out") (.input "d" "one")

end Sample

namespace Graph

/-- The two ports of connection 4 are joined again by connection 7. -/
theorem knot_numbers :
    Reachable Sample.catalog Sample.knot ∧
    (((Edit.connect (.output "s" "out") (.input "d" "one")).apply Sample.knot).outcome = .ok 6 ∧
      ((Edit.connect (.output "s" "out") (.input "d" "one")).apply Sample.knot).graph.Owns
        ⟨6, .output "s" "out", .input "d" "one"⟩) ∧
    ∃ c ∈ Sample.knot.connections, c = ⟨4, .output "b" "out", .input "d" "one"⟩ ∧
      (Sample.knot.performAll [Sample.displace]).connections.map (·.id) = [1, 2, 3, 5, 6] ∧
      ((Sample.knot.performAll [Sample.displace]).performAll
        [Sample.restore]).connections.map (·.id) = [1, 2, 3, 5, 7] ∧
      (Edit.disconnect 4).apply ((Sample.knot.performAll [Sample.displace]).performAll
          [Sample.restore]) =
        ⟨.error (.connectionNotFound 4),
          (Sample.knot.performAll [Sample.displace]).performAll [Sample.restore], []⟩ := by
  have h : Reachable Sample.catalog Sample.knot := .loaded (by decide +kernel)
  have hok : ((Edit.connect (.output "s" "out") (.input "d" "one")).apply
      Sample.knot).outcome = .ok 6 := by decide +kernel
  have hc : ⟨4, .output "b" "out", .input "d" "one"⟩ ∈ Sample.knot.connections := by
    decide +kernel
  have hgone : ⟨4, .output "b" "out", .input "d" "one"⟩ ∉
      (Sample.knot.performAll [Sample.displace]).connections := by
    decide +kernel
  obtain ⟨hconnect, howns⟩ := number_owned h
  exact ⟨h, ⟨hok, hconnect _ _ _ hok⟩, _, hc, rfl, by decide +kernel, by decide +kernel,
    (howns _ hc).refused _ hgone _⟩

end Graph

end Blueprint
