import Blueprint.Catalog.Builtin
import Blueprint.Proofs.Effects
import Blueprint.Proofs.Reloading

/-!
# Connecting ports by name and by gesture

Two ports can be connected by name, or by a gesture that starts on one of them and ends on the
other.  Whether a gesture succeeds is checked by `Graph.accepts`, from the side of the port where
the gesture ends, and then the ports are connected by name.  The two have different rules for an
input that takes one connection and has it (`Graph.Occupied`): connecting by name replaces the
connection, the check refuses, but only if the gesture ends on that input.

Main statements:

* `Graph.accepts_iff_connects` : the check accepts exactly what can be connected, less the inputs
  that are occupied, and a gesture does what the check says.
* `Graph.draw_reversed_iff` : a gesture and its reverse come to the same, unless they join an output
  and an occupied input.
-/

namespace Blueprint

namespace Graph

variable {catalog : Catalog} {g : Graph} {source target : PortRef} {a b : PortSpec}

/-- A connection runs from the first port to the second. -/
def Connected (g : Graph) (source target : PortRef) : Prop :=
  ∃ c ∈ g.connections, c.source = source ∧ c.target = target

instance : Decidable (g.Connected source target) :=
  inferInstanceAs (Decidable (∃ c ∈ g.connections, c.source = source ∧ c.target = target))

/-- The input takes one connection and has it. -/
structure Occupied (g : Graph) (port : PortRef) : Prop where
  /-- The port takes one connection. -/
  singular : ∃ spec, g.port? port = some spec ∧ spec.multi = false
  /-- A connection runs into it. -/
  filled : ∃ c ∈ g.connections, c.target = port

/-- The ports can be connected, but the input is occupied. -/
structure Contested (g : Graph) (source target : PortRef) : Prop where
  /-- The ports can be connected. -/
  joinable : ∃ a b, g.Joinable source target a b
  /-- The input is occupied. -/
  occupied : g.Occupied target

/-- The graph after two ports were connected: as it was, if they were connected before. -/
def join (g : Graph) (source target : PortRef) (multi : Bool) : Graph :=
  if g.Connected source target then g else g.link source target multi

/-! ### What a new connection changes -/

theorem incoming_eq_nil_iff : g.incoming target = [] ↔ ∀ c ∈ g.connections, c.target ≠ target := by
  simp [incoming, List.filter_eq_nil_iff]

/-- A new connection adds its pair of ports, and takes all other pairs from a singular input. -/
theorem connected_link_iff {multi : Bool} {p q : PortRef} :
    (g.link source target multi).Connected p q ↔
      (p = source ∧ q = target) ∨ (g.Connected p q ∧ (multi = true ∨ q ≠ target)) := by
  have hkept : ∀ c, c ∈ (if multi then g.connections else
      g.connections.filter (·.target != target)) ↔
        c ∈ g.connections ∧ (multi = true ∨ c.target ≠ target) := by
    intro c
    cases multi <;> simp
  constructor
  · rintro ⟨c, hc, rfl, rfl⟩
    rcases List.mem_append.1 hc with hc | hc
    · obtain ⟨hold, hroom⟩ := (hkept c).1 hc
      exact .inr ⟨⟨c, hold, rfl, rfl⟩, hroom⟩
    · rw [List.mem_singleton.1 hc]
      exact .inl ⟨rfl, rfl⟩
  · rintro (⟨rfl, rfl⟩ | ⟨⟨c, hc, rfl, rfl⟩, hroom⟩)
    · exact ⟨_, List.mem_append_right _ (List.mem_singleton_self _), rfl, rfl⟩
    · exact ⟨c, List.mem_append_left _ ((hkept c).2 ⟨hc, hroom⟩), rfl, rfl⟩

theorem WellFormed.source_unique (h : WellFormed catalog g) (hport : g.port? target = some b)
    (hsingular : b.multi = false) {p q : PortRef} (hp : g.Connected p target)
    (hq : g.Connected q target) : p = q := by
  obtain ⟨c, hc, rfl, hct⟩ := hp
  obtain ⟨d, hd, rfl, hdt⟩ := hq
  have hcin : c ∈ g.incoming target := List.mem_filter.2 ⟨hc, by simpa using hct⟩
  have hdin : d ∈ g.incoming target := List.mem_filter.2 ⟨hd, by simpa using hdt⟩
  obtain ⟨e, he⟩ := List.length_eq_one_iff.1 (Nat.le_antisymm
    (h.length_incoming_le hport hsingular) (List.length_pos_of_mem hcin))
  rw [he, List.mem_singleton] at hcin hdin
  rw [hcin, hdin]

@[simp] theorem join_nodes (multi : Bool) : (g.join source target multi).nodes = g.nodes := by
  unfold join
  split_ifs <;> rfl

@[simp] theorem join_drag (multi : Bool) : (g.join source target multi).drag = g.drag := by
  unfold join
  split_ifs <;> rfl

theorem connected_join_self (multi : Bool) :
    (g.join source target multi).Connected source target := by
  unfold join
  split_ifs with hold
  · exact hold
  · exact connected_link_iff.2 (.inl ⟨rfl, rfl⟩)

/-- **Connecting two ports adds their pair**, and takes all other pairs from a singular input. -/
theorem WellFormed.connected_join_iff (h : WellFormed catalog g)
    (hport : g.port? target = some b) {p q : PortRef} :
    (g.join source target b.multi).Connected p q ↔
      (p = source ∧ q = target) ∨ (g.Connected p q ∧ (b.multi = true ∨ q ≠ target)) := by
  unfold join
  split_ifs with hold
  · constructor
    · intro hpq
      by_cases hroom : b.multi = true ∨ q ≠ target
      · exact .inr ⟨hpq, hroom⟩
      · -- The pair in question runs into the singular input, so it is the one that is there.
        obtain ⟨hsingular, rfl⟩ : b.multi = false ∧ q = target := by simpa using hroom
        exact .inl ⟨h.source_unique hport hsingular hpq hold, rfl⟩
    · rintro (⟨rfl, rfl⟩ | ⟨hpq, -⟩)
      · exact hold
      · exact hpq
  · exact connected_link_iff

/-- **Connecting two ports removes a connection** exactly if they are not connected yet and the
input is singular and filled. -/
theorem WellFormed.exists_removed_join_iff (h : WellFormed catalog g) {multi : Bool} :
    (∃ c ∈ g.connections, c ∉ (g.join source target multi).connections) ↔
      multi = false ∧ (∃ c ∈ g.connections, c.target = target) ∧ ¬g.Connected source target := by
  unfold join
  split_ifs with hold
  · constructor
    · rintro ⟨c, hc, hremoved⟩
      exact absurd hc hremoved
    · rintro ⟨-, -, hnew⟩
      exact absurd hold hnew
  · constructor
    · rintro ⟨c, hc, hremoved⟩
      cases multi with
      | true => exact absurd (List.mem_append_left _ hc) hremoved
      | false =>
        refine ⟨rfl, ⟨c, hc, ?_⟩, hold⟩
        by_contra htarget
        exact hremoved (List.mem_append_left _ (List.mem_filter.2 ⟨hc, by simpa using htarget⟩))
    · rintro ⟨rfl, ⟨c, hc, htarget⟩, -⟩
      refine ⟨c, hc, fun hmem => ?_⟩
      rcases List.mem_append.1 hmem with hmem | hmem
      · simp [htarget] at hmem
      · -- The new connection has a number that none of the old ones has.
        have hle := h.numbers_le c hc
        rw [List.mem_singleton.1 hmem] at hle
        exact Nat.not_succ_le_self _ hle

end Graph

/-! ### Connecting by name -/

namespace Edit

variable {catalog : Catalog} {g : Graph} {s : Session} {source target : PortRef} {a b : PortSpec}

/-- **Ports that can be joined are connected.** -/
theorem run_connect_of_joinable (hnum : s.graph.UniqueNumbers)
    (hjoin : s.graph.Joinable source target a b) :
    ∃ id notes, (connect source target).run s =
      .ok id ⟨s.graph.join source target b.multi, s.notes ++ notes⟩ := by
  unfold Graph.join
  obtain ⟨hno, -⟩ | ⟨a', b', hjoin', ⟨c, hc, hcs, hct, hrun⟩ | ⟨hnew, hrun⟩⟩ :=
    connect_cases s source target hnum
  · exact absurd hjoin (hno a b)
  · refine ⟨c.id, [], ?_⟩
    rw [hrun, if_pos ⟨c, hc, hcs, hct⟩, List.append_nil]
  · obtain rfl : b = b' := Option.some.inj (hjoin.target_port.symm.trans hjoin'.target_port)
    have hnone : ¬s.graph.Connected source target := fun ⟨c, hc, hpair⟩ => hnew c hc hpair
    rw [if_neg hnone, hrun, List.append_assoc]
    exact ⟨_, _, rfl⟩

theorem connect_ok_iff (hnum : g.UniqueNumbers) :
    (∃ id, ((connect source target).apply g).outcome = .ok id) ↔
      ∃ a b, g.Joinable source target a b := by
  constructor
  · rintro ⟨id, hok⟩
    obtain ⟨-, e, hrun⟩ | ⟨a, b, hjoin, -⟩ := connect_cases ⟨g, []⟩ source target hnum
    · rw [apply, hrun] at hok
      cases hok
    · exact ⟨a, b, hjoin⟩
  · rintro ⟨a, b, hjoin⟩
    obtain ⟨id, notes, hrun⟩ := run_connect_of_joinable (s := ⟨g, []⟩) hnum hjoin
    exact ⟨id, by rw [apply, hrun]⟩

end Edit

/-! ### The check of a gesture -/

namespace Graph

variable {catalog : Catalog} {g : Graph} {port candidate : PortRef}

theorem accepts_of_input (hport : port.direction = .input) :
    g.accepts port candidate = true ↔
      ∃ a b, g.Joinable candidate port a b ∧ (b.multi = true ∨ g.incoming port = []) := by
  constructor
  · intro h
    unfold accepts at h
    split at h
    case h_2 => cases h
    case h_1 own other hown hother =>
      split_ifs at h with hends
      obtain ⟨hdirections, hnodes⟩ : port.direction ≠ candidate.direction ∧
          port.node ≠ candidate.node := by simpa using hends
      rw [hport] at hdirections h
      have houtput : candidate.direction = .output := by
        cases hc : candidate.direction with
        | input => exact absurd hc.symm hdirections
        | output => rfl
      obtain ⟨hroom, htypes⟩ : (own.multi = true ∨ g.incoming port = []) ∧
          other.type.canConnect own.type = true := by simpa using h
      exact ⟨other, own, ⟨houtput, hport, hnodes.symm, hother, hown, htypes⟩, hroom⟩
  · rintro ⟨a, b, hjoin, hroom⟩
    simp [accepts, hjoin.source_port, hjoin.target_port, hjoin.source_output, hjoin.target_input,
      hjoin.types, Ne.symm hjoin.node_ne, hroom]

theorem accepts_of_output (hport : port.direction = .output) :
    g.accepts port candidate = true ↔ ∃ a b, g.Joinable port candidate a b := by
  constructor
  · intro h
    unfold accepts at h
    split at h
    case h_2 => cases h
    case h_1 own other hown hother =>
      split_ifs at h with hends
      obtain ⟨hdirections, hnodes⟩ : port.direction ≠ candidate.direction ∧
          port.node ≠ candidate.node := by simpa using hends
      rw [hport] at hdirections h
      have hinput : candidate.direction = .input := by
        cases hc : candidate.direction with
        | input => rfl
        | output => exact absurd hc.symm hdirections
      exact ⟨own, other, hport, hinput, hnodes, hown, hother, h⟩
  · rintro ⟨a, b, hjoin⟩
    simp [accepts, hjoin.source_port, hjoin.target_port, hjoin.source_output, hjoin.target_input,
      hjoin.types, hjoin.node_ne]

theorem Joinable.room_iff {source target : PortRef} {a b : PortSpec}
    (h : g.Joinable source target a b) :
    (b.multi = true ∨ g.incoming target = []) ↔ ¬g.Occupied target := by
  rw [incoming_eq_nil_iff]
  constructor
  · rintro hroom ⟨⟨spec, hspec, hsingular⟩, c, hc, htarget⟩
    obtain rfl : b = spec := Option.some.inj (h.target_port.symm.trans hspec)
    rcases hroom with hmulti | hvacant
    · rw [hmulti] at hsingular
      cases hsingular
    · exact hvacant c hc htarget
  · intro hfree
    by_cases hmulti : b.multi = true
    · exact .inl hmulti
    · refine .inr fun c hc htarget => hfree ⟨⟨b, h.target_port, ?_⟩, c, hc, htarget⟩
      simpa using hmulti

theorem Contested.directions (h : g.Contested port candidate) :
    port.direction = .output ∧ candidate.direction = .input := by
  obtain ⟨a, b, hjoin⟩ := h.joinable
  exact ⟨hjoin.source_output, hjoin.target_input⟩

theorem accepts_eq_false_of_directions (h : port.direction = candidate.direction) :
    g.accepts port candidate = false := by
  rw [Bool.eq_false_iff]
  intro haccept
  cases hport : port.direction with
  | input =>
    obtain ⟨a, b, hjoin, -⟩ := (accepts_of_input hport).1 haccept
    have houtput := hjoin.source_output
    rw [← h, hport] at houtput
    cases houtput
  | output =>
    obtain ⟨a, b, hjoin⟩ := (accepts_of_output hport).1 haccept
    have hinput := hjoin.target_input
    rw [← h, hport] at hinput
    cases hinput

/-- From the side of the input, the check accepts what it accepts from the other side, unless the
input is occupied. -/
theorem accepts_input_iff {source target : PortRef} (hsource : source.direction = .output)
    (htarget : target.direction = .input) :
    g.accepts target source = true ↔ g.accepts source target = true ∧ ¬g.Occupied target := by
  rw [accepts_of_input htarget, accepts_of_output hsource]
  constructor
  · rintro ⟨a, b, hjoin, hroom⟩
    exact ⟨⟨a, b, hjoin⟩, hjoin.room_iff.1 hroom⟩
  · rintro ⟨⟨a, b, hjoin⟩, hfree⟩
    exact ⟨a, b, hjoin, hjoin.room_iff.2 hfree⟩

theorem accepts_comm_of_directions {source target : PortRef} (hsource : source.direction = .output)
    (htarget : target.direction = .input) :
    g.accepts target source = g.accepts source target ↔ ¬g.Contested source target := by
  rw [Bool.eq_iff_iff, accepts_input_iff hsource htarget, and_iff_left_iff_imp]
  constructor
  · rintro hfree ⟨hjoin, hoccupied⟩
    exact hfree ((accepts_of_output hsource).2 hjoin) hoccupied
  · intro hnot haccept hoccupied
    exact hnot ⟨(accepts_of_output hsource).1 haccept, hoccupied⟩

/-- **The check depends on the side from which it is made** exactly if the ports are contested. -/
theorem accepts_comm_iff (p q : PortRef) :
    g.accepts p q = g.accepts q p ↔ ¬g.Contested p q ∧ ¬g.Contested q p := by
  have hinput : ∀ {source target : PortRef}, source.direction = .input →
      ¬g.Contested source target := by
    intro source target hsource hcontested
    rw [hcontested.directions.1] at hsource
    cases hsource
  have houtput : ∀ {source target : PortRef}, target.direction = .output →
      ¬g.Contested source target := by
    intro source target htarget hcontested
    rw [hcontested.directions.2] at htarget
    cases htarget
  cases hp : p.direction with
  | input =>
    cases hq : q.direction with
    | input =>
      have hsame : p.direction = q.direction := hp.trans hq.symm
      simp [accepts_eq_false_of_directions hsame, accepts_eq_false_of_directions hsame.symm,
        hinput hp, hinput hq]
    | output => rw [accepts_comm_of_directions hq hp, and_iff_right (hinput hp)]
  | output =>
    cases hq : q.direction with
    | input => rw [eq_comm, accepts_comm_of_directions hp hq, and_iff_left (hinput hq)]
    | output =>
      have hsame : p.direction = q.direction := hp.trans hq.symm
      simp [accepts_eq_false_of_directions hsame, accepts_eq_false_of_directions hsame.symm,
        houtput hp, houtput hq]

end Graph

/-! ### Gestures -/

namespace Edit

variable {g : Graph} {s : Session} {origin target : PortRef}

/-- A gesture from one port to another. -/
def draw (origin target : PortRef) : Edit Bool := do
  startDrag origin
  finishDrag target

theorem joinable_ends (h : g.accepts target origin = true) :
    ∃ a b, g.Joinable (ends origin target).1 (ends origin target).2 a b := by
  unfold ends
  cases htarget : target.direction with
  | input =>
    obtain ⟨a, b, hjoin, -⟩ := (Graph.accepts_of_input htarget).1 h
    rw [hjoin.source_output]
    exact ⟨a, b, hjoin⟩
  | output =>
    obtain ⟨a, b, hjoin⟩ := (Graph.accepts_of_output htarget).1 h
    rw [hjoin.target_input]
    exact ⟨a, b, hjoin⟩

/-- **What the end of a gesture does.**  If the port accepts the origin, the two are connected, and
else nothing happens; in both cases no gesture goes on. -/
theorem run_finishDrag_cases (hnum : s.graph.UniqueNumbers) (target : PortRef) :
    (∃ origin a b, s.graph.drag.origin? = some origin ∧ s.graph.accepts target origin = true ∧
      s.graph.Joinable (ends origin target).1 (ends origin target).2 a b ∧
      ∃ notes, (finishDrag target).run s = .ok true
        ⟨{ s.graph with drag := .idle }.join (ends origin target).1 (ends origin target).2 b.multi,
          s.notes ++ notes⟩) ∨
    ((∀ origin, s.graph.drag.origin? = some origin → s.graph.accepts target origin = false) ∧
      ∃ notes, notes.filterMap Note.event? = [] ∧ (finishDrag target).run s = .ok false
        ⟨{ s.graph with drag := .idle }, s.notes ++ notes⟩) := by
  rw [run_finishDrag]
  cases hdrag : s.graph.drag with
  | idle =>
    refine .inr ⟨fun origin horigin => (nomatch horigin), [], rfl, ?_⟩
    rw [List.append_nil]
  | dragging origin cursor =>
    by_cases haccept : s.graph.accepts target origin = true
    · obtain ⟨a, b, hjoin⟩ := joinable_ends haccept
      obtain ⟨id, notes, hrun⟩ := run_connect_of_joinable
        (s := { s with graph := { s.graph with drag := .idle } }) hnum (hjoin.of_nodes_eq rfl)
      refine .inl ⟨origin, a, b, rfl, haccept, hjoin, notes, ?_⟩
      simp only [haccept, if_true, hrun]
    · refine .inr ⟨fun other hother => ?_, [.dragRejected origin target], rfl, ?_⟩
      · obtain rfl : origin = other := Option.some.inj hother
        exact Bool.eq_false_iff.2 haccept
      · simp only [haccept]
        rfl

theorem ends_of_output (h : origin.direction = .output) :
    ends origin target = (origin, target) := by
  rw [ends, h]

theorem ends_of_input (h : origin.direction = .input) : ends origin target = (target, origin) := by
  rw [ends, h]

theorem ends_comm {p q : PortRef} {a b : PortSpec}
    (h : g.Joinable (ends p q).1 (ends p q).2 a b) : ends q p = ends p q := by
  cases hp : p.direction with
  | output =>
    rw [ends_of_output hp] at h ⊢
    exact ends_of_input h.target_input
  | input =>
    rw [ends_of_input hp] at h ⊢
    exact ends_of_output h.source_output

/-- **What a gesture does.**  It starts on a port that exists, so it ends with the answer of the
check. -/
theorem apply_draw_cases (hnum : g.UniqueNumbers) (horigin : (g.port? origin).isSome)
    (target : PortRef) :
    (g.accepts target origin = true ∧ ∃ a b notes,
      g.Joinable (ends origin target).1 (ends origin target).2 a b ∧
      (draw origin target).apply g = ⟨.ok true,
        { g with drag := .idle }.join (ends origin target).1 (ends origin target).2 b.multi,
        notes⟩) ∨
    (g.accepts target origin = false ∧ ∃ notes,
      (draw origin target).apply g = ⟨.ok false, { g with drag := .idle }, notes⟩) := by
  obtain ⟨spec, hspec⟩ := Option.isSome_iff_exists.1 horigin
  have hstart : (startDrag origin).run ⟨g, []⟩ =
      .ok () ⟨{ g with drag := .dragging origin {} }, []⟩ := by
    rw [run_startDrag]
    simp only [hspec]
  unfold apply draw
  rw [EStateM.run_bind, hstart]
  obtain ⟨other, a, b, hother, haccept, hjoin, notes, hrun⟩ | ⟨hrefused, notes, -, hrun⟩ :=
    run_finishDrag_cases (s := ⟨{ g with drag := .dragging origin {} }, []⟩) hnum target
  · obtain rfl : origin = other := Option.some.inj hother
    simp only [hrun]
    exact .inl ⟨haccept, a, b, notes, hjoin.of_nodes_eq rfl, rfl⟩
  · simp only [hrun]
    exact .inr ⟨hrefused origin rfl, notes, rfl⟩

theorem outcome_draw (hnum : g.UniqueNumbers) (horigin : (g.port? origin).isSome)
    (target : PortRef) :
    ((draw origin target).apply g).outcome = .ok (g.accepts target origin) := by
  obtain ⟨haccept, a, b, notes, -, happly⟩ | ⟨haccept, notes, happly⟩ :=
    apply_draw_cases hnum horigin target
  · rw [happly, haccept]
  · rw [happly, haccept]

end Edit

/-! ### Gestures against names -/

namespace Graph

variable {catalog : Catalog} {g : Graph}

/-- **The check of a gesture agrees with connecting by name.**  An output and an input can be
connected exactly if the output accepts the input, and the input accepts the output exactly if
moreover it takes many connections or has none.  The end of a gesture succeeds exactly if a gesture
goes on and the port accepts its origin, and then the output of the two is connected to the input.
If it does not succeed, nothing but the gesture changes and no event is reported.  In all cases no
gesture goes on. -/
theorem accepts_iff_connects (h : Reachable catalog g) :
    (∀ source target : PortRef, source.direction = .output → target.direction = .input →
      ((∃ id, ((Edit.connect source target).apply g).outcome = .ok id) ↔
        g.accepts source target = true) ∧
      (g.accepts target source = true ↔
        (∃ id, ((Edit.connect source target).apply g).outcome = .ok id) ∧
          ((∃ spec, g.port? target = some spec ∧ spec.multi = true) ∨ g.incoming target = []))) ∧
    ∀ target, ∃ drawn, ((Edit.finishDrag target).apply g).outcome = .ok drawn ∧
      (drawn = true ↔ ∃ origin, g.drag.origin? = some origin ∧ g.accepts target origin = true) ∧
      (drawn = true → ∀ origin, g.drag.origin? = some origin →
        (origin.direction = .output ∧ target.direction = .input ∧
          ((Edit.finishDrag target).apply g).graph.Connected origin target) ∨
        (target.direction = .output ∧ origin.direction = .input ∧
          ((Edit.finishDrag target).apply g).graph.Connected target origin)) ∧
      (drawn = false → ((Edit.finishDrag target).apply g).graph = { g with drag := .idle } ∧
        ((Edit.finishDrag target).apply g).notes.filterMap Note.event? = []) ∧
      ((Edit.finishDrag target).apply g).graph.drag = .idle := by
  have hnum := h.wellFormed.uniqueNumbers
  refine ⟨fun source target hsource htarget => ?_, fun target => ?_⟩
  · rw [Edit.connect_ok_iff hnum, accepts_of_output hsource, accepts_of_input htarget]
    refine ⟨Iff.rfl, ?_⟩
    constructor
    · rintro ⟨a, b, hjoin, hroom⟩
      exact ⟨⟨a, b, hjoin⟩, hroom.imp_left fun hmulti => ⟨b, hjoin.target_port, hmulti⟩⟩
    · rintro ⟨⟨a, b, hjoin⟩, ⟨spec, hspec, hmulti⟩ | hvacant⟩
      · obtain rfl : b = spec := Option.some.inj (hjoin.target_port.symm.trans hspec)
        exact ⟨a, b, hjoin, .inl hmulti⟩
      · exact ⟨a, b, hjoin, .inr hvacant⟩
  · unfold Edit.apply
    obtain ⟨origin, a, b, horigin, haccept, hjoin, notes, hrun⟩ |
        ⟨hrefused, notes, hsilent, hrun⟩ :=
      Edit.run_finishDrag_cases (s := ⟨g, []⟩) hnum target
    · rw [hrun]
      refine ⟨true, rfl, ⟨fun _ => ⟨origin, horigin, haccept⟩, fun _ => rfl⟩, ?_, nofun, ?_⟩
      · intro _ other hother
        obtain rfl : origin = other := Option.some.inj (horigin.symm.trans hother)
        cases hdirection : origin.direction with
        | output =>
          rw [Edit.ends_of_output hdirection] at hjoin ⊢
          exact .inl ⟨rfl, hjoin.target_input, connected_join_self _⟩
        | input =>
          rw [Edit.ends_of_input hdirection] at hjoin ⊢
          exact .inr ⟨hjoin.source_output, rfl, connected_join_self _⟩
      · rw [join_drag]
    · rw [hrun]
      refine ⟨false, rfl, ⟨nofun, ?_⟩, nofun, fun _ => ⟨rfl, hsilent⟩, rfl⟩
      rintro ⟨origin, horigin, haccept⟩
      rw [hrefused origin horigin] at haccept
      exact haccept

/-- The gesture goes on from an output: an occupied input refuses it, another input takes it, and
an occupied input could still be connected by name. -/
theorem rewired_gestures :
    Reachable Sample.catalog Sample.rewired ∧
    Sample.rewired.drag.origin? = some (.output "s" "out") ∧
    Sample.rewired.accepts (.input "d" "one") (.output "b" "out") = false ∧
    (∃ id, ((Edit.connect (.output "b" "out") (.input "d" "one")).apply Sample.rewired).outcome =
      .ok id) ∧
    ((Edit.finishDrag (.input "d" "one")).apply Sample.rewired).outcome = .ok false ∧
    ((Edit.finishDrag (.input "d" "one")).apply Sample.rewired).graph =
      { Sample.rewired with drag := .idle } ∧
    ((Edit.finishDrag (.input "b" "many")).apply Sample.rewired).outcome = .ok true ∧
    ((Edit.finishDrag (.input "b" "many")).apply Sample.rewired).graph.Connected
      (.output "s" "out") (.input "b" "many") := by
  have h : Reachable Sample.catalog Sample.rewired :=
    ((Reachable.loaded (by decide +kernel)).step _).step _
  obtain ⟨hagree, hfinish⟩ := accepts_iff_connects h
  have horigin : Sample.rewired.drag.origin? = some (.output "s" "out") := by decide +kernel
  obtain ⟨refused, hrefused, hrefusedIff, -, hunchanged, -⟩ := hfinish (.input "d" "one")
  obtain ⟨drawn, hdrawn, hdrawnIff, hconnected, -, -⟩ := hfinish (.input "b" "many")
  have hfalse : refused = false := by
    rw [Bool.eq_false_iff]
    intro htrue
    obtain ⟨origin, hother, haccept⟩ := hrefusedIff.1 htrue
    obtain rfl := Option.some.inj (horigin.symm.trans hother)
    revert haccept
    decide +kernel
  have htrue : drawn = true := hdrawnIff.2 ⟨_, horigin, by decide +kernel⟩
  subst hfalse htrue
  refine ⟨h, horigin, by decide +kernel, ?_, hrefused, (hunchanged rfl).1, hdrawn, ?_⟩
  · exact (hagree (.output "b" "out") (.input "d" "one") rfl rfl).1.2 (by decide +kernel)
  · rcases hconnected rfl _ horigin with ⟨-, -, hjoined⟩ | ⟨hdirection, -⟩
    · exact hjoined
    · cases hdirection

/-! ### A gesture and its reverse -/

theorem WellFormed.idle (h : WellFormed catalog g) : WellFormed catalog { g with drag := .idle } :=
  h.congr rfl rfl (List.Sublist.refl _) rfl nofun

theorem Contested.draw_of_output (h : WellFormed catalog g) {output input : PortRef}
    (hcontested : g.Contested output input) :
    ((Edit.draw output input).apply g).outcome = .ok false ∧
      ((Edit.draw output input).apply g).graph = { g with drag := .idle } := by
  obtain ⟨a, b, hjoin⟩ := hcontested.joinable
  have hrefused : g.accepts input output ≠ true := by
    intro haccept
    exact ((accepts_input_iff hjoin.source_output hjoin.target_input).1 haccept).2
      hcontested.occupied
  obtain ⟨haccept, -⟩ | ⟨-, notes, happly⟩ := Edit.apply_draw_cases h.uniqueNumbers
    (Option.isSome_iff_exists.2 ⟨a, hjoin.source_port⟩) input
  · exact absurd haccept hrefused
  · rw [happly]
    exact ⟨rfl, rfl⟩

theorem Contested.draw_of_input (h : WellFormed catalog g) {output input : PortRef}
    (hcontested : g.Contested output input) :
    ((Edit.draw input output).apply g).outcome = .ok true ∧
      ∀ source target, ((Edit.draw input output).apply g).graph.Connected source target ↔
        (source = output ∧ target = input) ∨ (g.Connected source target ∧ target ≠ input) := by
  obtain ⟨a, b, hjoin⟩ := hcontested.joinable
  obtain ⟨spec, hspec, hsingular⟩ := hcontested.occupied.singular
  have haccept : g.accepts output input = true :=
    (accepts_of_output hjoin.source_output).2 ⟨a, b, hjoin⟩
  obtain ⟨-, a', b', notes, hjoin', happly⟩ | ⟨hrefused, -⟩ := Edit.apply_draw_cases
    h.uniqueNumbers (Option.isSome_iff_exists.2 ⟨b, hjoin.target_port⟩) output
  · rw [Edit.ends_of_input hjoin.target_input] at hjoin' happly
    obtain rfl : spec = b' := Option.some.inj (hspec.symm.trans hjoin'.target_port)
    rw [happly]
    refine ⟨rfl, fun source target => ?_⟩
    rw [h.idle.connected_join_iff hspec]
    simp only [hsingular, Bool.false_eq_true, false_or]
    rfl
  · rw [hrefused] at haccept
    cases haccept

/-- **The end of a gesture removes a connection** exactly if the gesture started on an occupied
input and ends on an output that can be connected to it but is not. -/
theorem WellFormed.exists_removed_finishDrag_iff (h : WellFormed catalog g) (target : PortRef) :
    (∃ c ∈ g.connections, c ∉ ((Edit.finishDrag target).apply g).graph.connections) ↔
      ∃ origin, g.drag.origin? = some origin ∧ g.Contested target origin ∧
        ¬g.Connected target origin := by
  unfold Edit.apply
  obtain ⟨origin, a, b, horigin, haccept, hjoin, notes, hrun⟩ | ⟨hrefused, notes, -, hrun⟩ :=
    Edit.run_finishDrag_cases (s := ⟨g, []⟩) h.uniqueNumbers target
  · rw [hrun]
    refine h.idle.exists_removed_join_iff.trans ?_
    cases hdirection : origin.direction with
    | output =>
      -- The gesture ends on an input that has room.
      rw [Edit.ends_of_output hdirection] at hjoin ⊢
      constructor
      · rintro ⟨hsingular, hfilled, -⟩
        have hfree := ((accepts_input_iff hdirection hjoin.target_input).1 haccept).2
        exact absurd ⟨⟨b, hjoin.target_port, hsingular⟩, hfilled⟩ hfree
      · rintro ⟨other, hother, hcontested, -⟩
        obtain rfl : origin = other := Option.some.inj (horigin.symm.trans hother)
        rw [hcontested.directions.2] at hdirection
        cases hdirection
    | input =>
      rw [Edit.ends_of_input hdirection] at hjoin ⊢
      constructor
      · rintro ⟨hsingular, hfilled, hnew⟩
        exact ⟨origin, horigin,
          ⟨⟨a, b, hjoin⟩, ⟨b, hjoin.target_port, hsingular⟩, hfilled⟩, hnew⟩
      · rintro ⟨other, hother, hcontested, hnew⟩
        obtain rfl : origin = other := Option.some.inj (horigin.symm.trans hother)
        obtain ⟨spec, hspec, hsingular⟩ := hcontested.occupied.singular
        obtain rfl : b = spec := Option.some.inj (hjoin.target_port.symm.trans hspec)
        exact ⟨hsingular, hcontested.occupied.filled, hnew⟩
  · rw [hrun]
    constructor
    · rintro ⟨c, hc, hremoved⟩
      exact absurd hc hremoved
    · rintro ⟨origin, horigin, hcontested, -⟩
      have haccept := (accepts_of_output hcontested.directions.1).2 hcontested.joinable
      rw [hrefused origin horigin] at haccept
      cases haccept

/-- If the check does not depend on the side, neither does the graph that a gesture leaves. -/
theorem graph_draw_comm (hnum : g.UniqueNumbers) {p q : PortRef} (hp : (g.port? p).isSome)
    (hq : (g.port? q).isSome) (hcomm : g.accepts q p = g.accepts p q) :
    ((Edit.draw p q).apply g).graph = ((Edit.draw q p).apply g).graph := by
  obtain ⟨haccept, a, b, notes, hjoin, happly⟩ | ⟨haccept, notes, happly⟩ :=
    Edit.apply_draw_cases hnum hp q
  · obtain ⟨-, a', b', notes', hjoin', happly'⟩ | ⟨hrefused, -⟩ := Edit.apply_draw_cases hnum hq p
    · rw [Edit.ends_comm hjoin] at hjoin' happly'
      obtain rfl : b = b' := Option.some.inj (hjoin.target_port.symm.trans hjoin'.target_port)
      rw [happly, happly']
    · rw [hcomm, hrefused] at haccept
      cases haccept
  · obtain ⟨haccept', -⟩ | ⟨-, notes', happly'⟩ := Edit.apply_draw_cases hnum hq p
    · rw [hcomm, haccept'] at haccept
      cases haccept
    · rw [happly, happly']

/-- **A gesture and its reverse come to the same**, in their results and in the pairs of ports that
are connected afterwards, exactly if they do not join an output and an occupied input.  In that case
the gesture that ends on the input is refused and changes nothing, and the gesture that starts on it
succeeds and puts the new connection in place of the old one.  The end of a gesture removes a
connection in this case only. -/
theorem draw_reversed_iff (h : Reachable catalog g) :
    (∀ p q : PortRef, (g.port? p).isSome → (g.port? q).isSome →
      ((∃ drawn, ((Edit.draw p q).apply g).outcome = .ok drawn ∧
          ((Edit.draw q p).apply g).outcome = .ok drawn ∧
          ∀ source target, ((Edit.draw p q).apply g).graph.Connected source target ↔
            ((Edit.draw q p).apply g).graph.Connected source target) ↔
        ¬g.Contested p q ∧ ¬g.Contested q p)) ∧
    (∀ output input, g.Contested output input →
      ((Edit.draw output input).apply g).outcome = .ok false ∧
      ((Edit.draw output input).apply g).graph = { g with drag := .idle } ∧
      ((Edit.draw input output).apply g).outcome = .ok true ∧
      ∀ source target, ((Edit.draw input output).apply g).graph.Connected source target ↔
        (source = output ∧ target = input) ∨ (g.Connected source target ∧ target ≠ input)) ∧
    ∀ target, (∃ c ∈ g.connections, c ∉ ((Edit.finishDrag target).apply g).graph.connections) ↔
      ∃ origin, g.drag.origin? = some origin ∧ g.Contested target origin ∧
        ¬g.Connected target origin := by
  have hwf := h.wellFormed
  refine ⟨fun p q hp hq => ?_, fun output input hcontested => ?_,
    hwf.exists_removed_finishDrag_iff⟩
  · rw [Edit.outcome_draw hwf.uniqueNumbers hp, Edit.outcome_draw hwf.uniqueNumbers hq,
      ← accepts_comm_iff]
    constructor
    · rintro ⟨drawn, hforth, hback, -⟩
      rw [Except.ok.inj hforth, Except.ok.inj hback]
    · intro hcomm
      refine ⟨g.accepts p q, by rw [hcomm], rfl, fun source target => ?_⟩
      rw [graph_draw_comm hwf.uniqueNumbers hp hq hcomm.symm]
  · obtain ⟨hrefused, hunchanged⟩ := hcontested.draw_of_output hwf
    obtain ⟨hdrawn, hconnected⟩ := hcontested.draw_of_input hwf
    exact ⟨hrefused, hunchanged, hdrawn, hconnected⟩

/-- One input of the last node of the knot is occupied, and the other one is not. -/
theorem knot_draws :
    Reachable Sample.catalog Sample.knot ∧
    Sample.knot.Contested (.output "s" "out") (.input "d" "one") ∧
    ((Edit.draw (.output "s" "out") (.input "d" "one")).apply Sample.knot).outcome = .ok false ∧
    ((Edit.draw (.input "d" "one") (.output "s" "out")).apply Sample.knot).outcome = .ok true ∧
    (∃ drawn,
      ((Edit.draw (.output "s" "out") (.input "d" "many")).apply Sample.knot).outcome = .ok drawn ∧
      ((Edit.draw (.input "d" "many") (.output "s" "out")).apply Sample.knot).outcome = .ok drawn ∧
      ∀ source target,
        ((Edit.draw (.output "s" "out") (.input "d" "many")).apply Sample.knot).graph.Connected
          source target ↔
        ((Edit.draw (.input "d" "many") (.output "s" "out")).apply Sample.knot).graph.Connected
          source target) := by
  have h : Reachable Sample.catalog Sample.knot := .loaded (by decide +kernel)
  have hjoin : Sample.knot.accepts (.output "s" "out") (.input "d" "one") = true := by
    decide +kernel
  have hport : (Sample.knot.port? (.input "d" "one")).map (·.multi) = some false := by
    decide +kernel
  have hcontested : Sample.knot.Contested (.output "s" "out") (.input "d" "one") :=
    ⟨(accepts_of_output rfl).1 hjoin, Option.map_eq_some_iff.1 hport, by decide +kernel⟩
  have hsides : Sample.knot.accepts (.output "s" "out") (.input "d" "many") =
      Sample.knot.accepts (.input "d" "many") (.output "s" "out") := by decide +kernel
  obtain ⟨hreverse, hwon, -⟩ := draw_reversed_iff h
  obtain ⟨hrefused, -, hdrawn, -⟩ := hwon _ _ hcontested
  exact ⟨h, hcontested, hrefused, hdrawn, (hreverse _ _ (by decide +kernel)
    (by decide +kernel)).2 ((accepts_comm_iff _ _).1 hsides)⟩

end Graph

namespace Sample

/-- A comparison one side of which is fed, and another number that could feed it. -/
def comparison : Graph := (Graph.ofDocument Catalog.builtin
  { nodes := [⟨"bar", "data.bar", {}, .empty⟩, ⟨"cash", "data.cash", {}, .empty⟩,
      ⟨"gt", "logic.greater", {}, .empty⟩]
    connections := [⟨"bar", "close", "gt", "a"⟩] }).graph

end Sample

namespace Graph

/-- Drawn from the output, the connection is refused; drawn from the input, it is made, and the
connection that was there is lost. -/
theorem comparison_one_sided :
    Reachable Catalog.builtin Sample.comparison ∧
    Sample.comparison.Connected (.output "bar" "close") (.input "gt" "a") ∧
    ((Edit.draw (.output "cash" "cash") (.input "gt" "a")).apply Sample.comparison).outcome =
      .ok false ∧
    ((Edit.draw (.input "gt" "a") (.output "cash" "cash")).apply Sample.comparison).outcome =
      .ok true ∧
    ((Edit.draw (.output "cash" "cash") (.input "gt" "a")).apply Sample.comparison).graph.Connected
      (.output "bar" "close") (.input "gt" "a") ∧
    ¬((Edit.draw (.input "gt" "a") (.output "cash" "cash")).apply
      Sample.comparison).graph.Connected (.output "bar" "close") (.input "gt" "a") :=
  ⟨.loaded (by decide +kernel), by decide +kernel⟩

end Graph

end Blueprint
