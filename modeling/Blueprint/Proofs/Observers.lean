import Blueprint.Proofs.Effects

/-!
# What observers know

An observer can keep a copy of the outline of a graph, the ids of its nodes and the numbers of its
connections, by following the events that it hears (`Mirror.follow`).  One action sends the events
that lead from the outline before to the outline after (`Effect.mirror`), whatever it removes or
replaces on the way, and an event for each parameter that it changes (`Effect.tells`).

Main statement: along every run of actions an observer has the outline of the graph, and it hears of
every change of a parameter (`Graph.observer_mirrors`).
-/

namespace Blueprint

/-- What an observer knows of a graph. -/
structure Mirror where
  /-- The ids of the nodes, in insertion order. -/
  ids : List NodeId
  /-- The numbers of the connections, by age. -/
  numbers : List ConnectionId
  deriving DecidableEq

/-- What an observer knows after an event. -/
def Mirror.follow (mirror : Mirror) : Event → Mirror
  | .nodeAdded id => { mirror with ids := mirror.ids ++ [id] }
  | .nodeRemoved id => { mirror with ids := mirror.ids.erase id }
  | .connectionAdded id => { mirror with numbers := mirror.numbers ++ [id] }
  | .connectionRemoved id => { mirror with numbers := mirror.numbers.erase id }
  | .parameterChanged _ _ => mirror
  | .cleared => ⟨[], []⟩

/-- What there is to know of a graph. -/
def Graph.outline (g : Graph) : Mirror := ⟨g.ids, g.connections.map (·.id)⟩

/-! ### The events of an effect -/

theorem Mirror.follow_removals (mirror : Mirror) (cs : List Connection) :
    (cs.map fun c => Event.connectionRemoved c.id).foldl follow mirror =
      { mirror with numbers := mirror.numbers.diff (cs.map (·.id)) } := by
  induction cs generalizing mirror with
  | nil => rfl
  | cons c cs ih =>
    rw [List.map_cons, List.foldl_cons, ih, List.map_cons, List.diff_cons]
    rfl

namespace Graph

variable {g : Graph}

theorem UniqueNumbers.diff (h : g.UniqueNumbers) (p : Connection → Bool) :
    (g.connections.map (·.id)).diff ((g.connections.filter p).map (·.id)) =
      (g.connections.filter fun c => !p c).map (·.id) := by
  rw [List.Nodup.sdiff_eq_filter h, List.filter_map]
  congr 1
  refine List.filter_congr fun c hc => ?_
  -- A number is among those taken away exactly if its connection is.
  have hmem : c.id ∈ (g.connections.filter p).map (·.id) ↔ p c = true := by
    constructor
    · intro hid
      obtain ⟨d, hd, heq⟩ := List.mem_map.1 hid
      obtain ⟨hd, hp⟩ := List.mem_filter.1 hd
      exact List.inj_on_of_nodup_map h hd hc heq ▸ hp
    · exact fun hp => List.mem_map.2 ⟨c, List.mem_filter.2 ⟨hc, hp⟩, rfl⟩
  rw [Function.comp_apply, decide_not, Bool.eq_iff_iff]
  simp only [Bool.not_eq_true', decide_eq_false_iff_not, hmem, Bool.not_eq_true]

theorem outline_amend {id : NodeId} {change : Node → Node}
    (hchange : ∀ node, (change node).id = node.id) : (g.amend id change).outline = g.outline := by
  rw [outline, ids_amend hchange]
  rfl

theorem eq_of_node?_amend {id other : NodeId} {change : Node → Node} {a b : Node}
    (ha : g.node? id = some a) (hb : (g.amend other change).node? id = some b)
    (hchange : ∀ node, (change node).id = node.id) : b = if id = other then change a else a := by
  rw [node?_amend hchange, ha, Option.map_some, (node?_eq_some ha).2] at hb
  exact (Option.some.inj hb).symm

end Graph

namespace Effect

variable {catalog : Catalog} {g g' : Graph} {events : List Event}

/-- **The events of an effect lead from the outline before to the outline after.** -/
theorem mirror (heffect : Effect g g' events) (h : g.WellFormed catalog) :
    events.foldl Mirror.follow g.outline = g'.outline := by
  have hnum := h.uniqueNumbers
  cases heffect with
  | aside hnodes hconnections =>
    unfold Graph.outline Graph.ids
    rw [hnodes, hconnections]
    rfl
  | added hnodes hconnections =>
    unfold Graph.outline Graph.ids
    rw [hnodes, hconnections, List.map_append]
    rfl
  | removed id =>
    rw [List.foldl_append, Mirror.follow_removals, Graph.outline, Graph.incident, hnum.diff]
    exact congrArg (Mirror.mk · _) (h.ids_without id).symm
  | tuned _ => exact Eq.symm (Graph.outline_amend fun _ => rfl)
  | moved id position => exact Eq.symm (Graph.outline_amend fun _ => rfl)
  | cleared => rfl
  | linked multi hnodes hconnections =>
    unfold Graph.outline Graph.ids
    rw [hnodes, hconnections, Graph.link, List.foldl_append, List.map_append]
    cases multi with
    | true => rfl
    | false =>
      rw [if_neg Bool.false_ne_true, if_neg Bool.false_ne_true, Mirror.follow_removals,
        Graph.incoming, hnum.diff]
      rfl
  | unlinked id =>
    have hnumbers : (g.connections.map (·.id)).erase id =
        (g.connections.eraseP (·.id == id)).map (·.id) := by
      rw [List.Nodup.erase_eq_filter hnum, Graph.eraseP_id_eq_filter hnum, List.filter_map]
      rfl
    exact congrArg (Mirror.mk g.ids) hnumbers

/-- **An effect that changes a parameter of a node tells so.** -/
theorem tells (heffect : Effect g g' events) {id : NodeId} {a b : Node} {key : String}
    (ha : g.node? id = some a) (hb : g'.node? id = some b)
    (hne : a.parameters.get? key ≠ b.parameters.get? key) : .parameterChanged id key ∈ events := by
  -- The node is another one now, so the effect is one that changes it.
  have hnode : g'.node? id ≠ some a := by
    rw [hb]
    rintro ⟨⟩
    exact hne rfl
  cases heffect with
  | aside hnodes => exact absurd (by rw [Graph.node?, hnodes]; exact ha) hnode
  | added hnodes => exact absurd (Graph.node?_append hnodes ha) hnode
  | removed other =>
    by_cases hid : id = other
    · have hmem := (List.mem_filter.1 (Graph.node?_eq_some hb).1).2
      simp [(Graph.node?_eq_some hb).2, hid] at hmem
    · exact absurd ((Graph.node?_without hid).trans ha) hnode
  | tuned hothers =>
    obtain rfl := Graph.eq_of_node?_amend ha hb fun _ => rfl
    split_ifs at hne with hid
    · by_contra hmem
      refine hne (hothers a.parameters key fun hkey => hmem ?_).symm
      rw [hid, hkey]
      exact List.mem_singleton_self _
    · exact absurd rfl hne
  | moved other position =>
    obtain rfl := Graph.eq_of_node?_amend ha hb fun _ => rfl
    split_ifs at hne <;> exact absurd rfl hne
  | cleared => cases hb
  | linked _ hnodes => exact absurd (by rw [Graph.node?, hnodes]; exact ha) hnode
  | unlinked _ => exact absurd ha hnode

end Effect

/-! ### Runs -/

/-- What an action does to the graph that it is taken on.  A copy is a graph of its own, so making
one does nothing to this graph. -/
def Action.on (action : Action) (g : Graph) : Edited Unit :=
  match action with
  | .copy => ⟨.ok (), g, []⟩
  | action => action.edit.apply g

/-- The events that go to an observer. -/
def eventsFor (observer : Nat) (deliveries : List (Nat × Event)) : List Event :=
  (deliveries.filter (·.1 == observer)).map Prod.snd

namespace Graph

/-- The graph after a sequence of actions on it. -/
def play (g : Graph) (actions : List Action) : Graph :=
  actions.foldl (fun g action => (action.on g).graph) g

/-- What an observer hears during a sequence of actions. -/
def heard (observer : Nat) : Graph → List Action → List Event
  | _, [] => []
  | g, action :: rest =>
    eventsFor observer (g.deliveries (action.on g).notes) ++ heard observer (action.on g).graph rest

/-- An observer that subscribed once is listening to a well-formed graph. -/
structure Listened (catalog : Catalog) (observer : Nat) (g : Graph) : Prop where
  /-- The graph is well formed. -/
  wellFormed : g.WellFormed catalog
  /-- The observer subscribed once. -/
  once : g.observers.count observer = 1

end Graph

/-- An observer that subscribed once hears each event once. -/
theorem eventsFor_deliveries {g : Graph} {observer : Nat} (h : g.observers.count observer = 1)
    (notes : List Note) : eventsFor observer (g.deliveries notes) = notes.filterMap Note.event? := by
  unfold eventsFor Graph.deliveries
  induction notes.filterMap Note.event? with
  | nil => rfl
  | cons event events ih =>
    have hfirst : ((g.observers.map (·, event)).filter (·.1 == observer)).map Prod.snd = [event] := by
      rw [List.filter_map, Function.comp_def, List.filter_beq, h]
      rfl
    rw [List.flatMap_cons, List.filter_append, List.map_append, ih, hfirst]
    rfl

namespace Action

variable {catalog : Catalog} {g : Graph}

/-- An action has an effect on the graph that it is taken on, refused or not, and adds an observer
only if it is a subscription. -/
theorem on_effect (hnum : g.UniqueNumbers) (action : Action) :
    Effect g (action.on g).graph ((action.on g).notes.filterMap Note.event?) ∧
      ((action.on g).graph.observers = g.observers ∨
        ∃ observer, action = .subscribe observer ∧
          (action.on g).graph.observers = g.observers ++ [observer]) := by
  by_cases hcopy : action = .copy
  · rw [hcopy]
    exact ⟨.aside rfl rfl, .inl rfl⟩
  · have hon : action.on g = action.edit.apply g := by
      cases action with
      | copy => exact absurd rfl hcopy
      | _ => rfl
    rw [hon]
    rcases action.apply_cases hnum with ⟨reason, happly⟩ | ⟨g', notes, happly, heffect, hobservers⟩
    · rw [happly]
      cases action <;> exact ⟨.aside rfl rfl, .inl rfl⟩
    · rw [happly]
      refine ⟨heffect, ?_⟩
      cases action with
      | copy => exact absurd rfl hcopy
      | subscribe observer => exact .inr ⟨observer, rfl, hobservers⟩
      | _ => exact .inl hobservers

theorem on_wellFormed (h : g.WellFormed catalog) (action : Action) :
    (action.on g).graph.WellFormed catalog := by
  cases action with
  | copy => exact h
  | _ => exact (keeps_wellFormed _).apply h

end Action

namespace Graph

variable {catalog : Catalog} {g : Graph} {observer : Nat}

theorem Listened.step (h : g.Listened catalog observer) {action : Action}
    (hother : action ≠ .subscribe observer) : (action.on g).graph.Listened catalog observer where
  wellFormed := action.on_wellFormed h.wellFormed
  once := by
    rcases (action.on_effect h.wellFormed.uniqueNumbers).2 with hsame | ⟨other, rfl, hmore⟩
    · rw [hsame]
      exact h.once
    · have hne : other ≠ observer := fun heq => hother (heq ▸ rfl)
      rw [hmore, List.count_append, h.once, List.count_singleton, if_neg (by simpa using hne)]

theorem Listened.play (h : g.Listened catalog observer) {actions : List Action}
    (hothers : .subscribe observer ∉ actions) : (g.play actions).Listened catalog observer := by
  induction actions generalizing g with
  | nil => exact h
  | cons action rest ih =>
    rw [List.mem_cons, not_or] at hothers
    exact ih (h.step (Ne.symm hothers.1)) hothers.2

/-- **Following what it hears, an observer has the outline of the graph** after every run. -/
theorem Listened.mirror (h : g.Listened catalog observer) {actions : List Action}
    (hothers : .subscribe observer ∉ actions) :
    (g.heard observer actions).foldl Mirror.follow g.outline = (g.play actions).outline := by
  induction actions generalizing g with
  | nil => rfl
  | cons action rest ih =>
    rw [List.mem_cons, not_or] at hothers
    have heffect := (action.on_effect h.wellFormed.uniqueNumbers).1
    rw [heard, eventsFor_deliveries h.once, List.foldl_append, heffect.mirror h.wellFormed]
    exact ih (h.step (Ne.symm hothers.1)) hothers.2

theorem Reachable.listened (h : Reachable catalog g) (hnew : observer ∉ g.observers) :
    (g.subscribe observer).Listened catalog observer where
  wellFormed := h.wellFormed.congr rfl rfl (List.Sublist.refl _) rfl h.wellFormed.origin
  once := by
    rw [subscribe, List.count_append, List.count_eq_zero.2 hnew, List.count_singleton_self]

/-- **An observer can mirror a graph.**  Take any graph and an observer that subscribes to it under a
number of its own, and let any actions follow.  Following the events that it hears, from the ids of
the nodes and the numbers of the connections at the time of its subscription, it has those of the
graph at the end.  And each of the actions that makes a node that is there before and after it have
another value at a key, or a value where it had none or none where it had one, tells the observer
about this node and key. -/
theorem observer_mirrors (h : Reachable catalog g) (hnew : observer ∉ g.observers)
    {actions : List Action} (hothers : .subscribe observer ∉ actions) :
    ((g.subscribe observer).heard observer actions).foldl Mirror.follow
        ⟨g.ids, g.connections.map (·.id)⟩ =
      ⟨((g.subscribe observer).play actions).ids,
        ((g.subscribe observer).play actions).connections.map (·.id)⟩ ∧
    ∀ before action rest, actions = before ++ action :: rest → ∀ id key a b,
      ((g.subscribe observer).play before).node? id = some a →
      ((g.subscribe observer).play (before ++ [action])).node? id = some b →
      a.parameters.get? key ≠ b.parameters.get? key →
      .parameterChanged id key ∈ ((g.subscribe observer).play before).heard observer [action] := by
  have hlistened := h.listened hnew
  refine ⟨hlistened.mirror hothers, ?_⟩
  rintro before action rest rfl id key a b ha hb hne
  have hnow := hlistened.play fun hmem => hothers (List.mem_append_left _ hmem)
  rw [play, List.foldl_append] at hb
  rw [heard, heard, List.append_nil, eventsFor_deliveries hnow.once]
  exact (action.on_effect hnow.wellFormed.uniqueNumbers).1.tells ha hb hne

end Graph

namespace Sample

/-- A connection gives way to another one, a parameter is set, a node is removed with the
connections on it, and a node is added. -/
def revision : List Action :=
  [.connect (.output "s" "out") (.input "d" "one"), .setParameter "a" "gain" (.int 5),
    .removeNode "b", .addNode "joint" {}]

end Sample

namespace Graph

/-- The observer of a graph that is revised. -/
theorem knot_mirrored :
    Reachable Sample.catalog Sample.knot ∧
    (Sample.knot.subscribe 7).heard 7 Sample.revision =
      [.connectionRemoved 4, .connectionAdded 6, .parameterChanged "a" "gain",
        .connectionRemoved 2, .connectionRemoved 3, .connectionRemoved 5, .nodeRemoved "b",
        .nodeAdded "00000001"] ∧
    ((Sample.knot.subscribe 7).heard 7 Sample.revision).foldl Mirror.follow
        ⟨["s", "a", "b", "d"], [1, 2, 3, 4, 5]⟩ =
      ⟨((Sample.knot.subscribe 7).play Sample.revision).ids,
        ((Sample.knot.subscribe 7).play Sample.revision).connections.map (·.id)⟩ := by
  have h : Reachable Sample.catalog Sample.knot := .loaded (by decide +kernel)
  have houtline : Sample.knot.ids = ["s", "a", "b", "d"] ∧
      Sample.knot.connections.map (·.id) = [1, 2, 3, 4, 5] := by decide +kernel
  have hnew : 7 ∉ Sample.knot.observers := by decide +kernel
  have hothers : Action.subscribe 7 ∉ Sample.revision := by simp [Sample.revision]
  have hmirror := (observer_mirrors h hnew hothers).1
  rw [houtline.1, houtline.2] at hmirror
  exact ⟨h, by decide +kernel, hmirror⟩

end Graph

end Blueprint
