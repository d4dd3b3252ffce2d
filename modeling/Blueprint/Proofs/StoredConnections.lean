import Blueprint.Proofs.Loading

/-!
# What a document connects

The connections of a document are made one after the other.  A connection into an input that takes
many is kept beside the others, unless it is there already.  A connection into an input that takes
one replaces what was there.  One with an end that does not exist does nothing.  So what is connected
in the end can be read off the list of stored connections: for a singular input the last one that has
both ends counts (`Graph.connected_foldlM_attach_iff`), and for all others each one does.

Main statement: the nodes of a document that loads are its stored nodes, its connected pairs of ports
follow this rule, and if no singular input has two stored connections, their order does not matter
(`Graph.loaded_connected_iff`).
-/

namespace Blueprint

/-- The document loads, as this graph. -/
structure Document.LoadsAs (catalog : Catalog) (document : Document) (g : Graph) : Prop where
  /-- No node or connection is refused. -/
  outcome : (Graph.ofDocument catalog document).outcome = .ok ()
  /-- The graph that results. -/
  graph : (Graph.ofDocument catalog document).graph = g

namespace Graph

/-- Both ends of a stored connection exist. -/
def hasEnds (g : Graph) (record : ConnectionRecord) : Bool :=
  (g.port? record.source).isSome && (g.port? record.target).isSome

/-- The port exists and takes one connection. -/
def isSingular (g : Graph) (port : PortRef) : Bool := (g.port? port).any fun spec => !spec.multi

/-- The stored connections into an input that have both ends, in order. -/
def storedInto (g : Graph) (records : List ConnectionRecord) (target : PortRef) :
    List ConnectionRecord :=
  records.filter fun record => g.hasEnds record && record.target = target

section

variable {catalog : Catalog} {g g' : Graph} {record : ConnectionRecord}
  {records : List ConnectionRecord} {source target : PortRef}

theorem hasEnds_of_nodes_eq (h : g'.nodes = g.nodes) : g'.hasEnds = g.hasEnds := by
  funext record
  simp only [hasEnds, port?_of_nodes_eq h]

theorem isSingular_of_nodes_eq (h : g'.nodes = g.nodes) : g'.isSingular = g.isSingular := by
  funext port
  simp only [isSingular, port?_of_nodes_eq h]

theorem storedInto_of_nodes_eq (h : g'.nodes = g.nodes) : g'.storedInto = g.storedInto := by
  funext records target
  simp only [storedInto, hasEnds_of_nodes_eq h]

theorem hasEnds_iff : g.hasEnds record = true ↔ ¬g.Dangling record := by
  simp [hasEnds, Dangling, Option.isSome_iff_ne_none]

theorem mem_storedInto : record ∈ g.storedInto records target ↔
    record ∈ records ∧ g.hasEnds record = true ∧ record.target = target := by
  simp [storedInto]

theorem exists_mem_storedInto : (∃ record ∈ g.storedInto records target, record.source = source) ↔
    ∃ record ∈ records, g.hasEnds record = true ∧ record.source = source ∧
      record.target = target := by
  simp only [mem_storedInto]
  constructor
  · rintro ⟨record, ⟨hmem, hends, htarget⟩, hsource⟩
    exact ⟨record, hmem, hends, hsource, htarget⟩
  · rintro ⟨record, hmem, hends, hsource, htarget⟩
    exact ⟨record, ⟨hmem, hends, htarget⟩, hsource⟩

theorem storedInto_append_of_hasEnds (h : g.hasEnds record = true) :
    g.storedInto (records ++ [record]) record.target =
      g.storedInto records record.target ++ [record] := by
  simp [storedInto, h]

theorem storedInto_append_of_not (h : ¬(g.hasEnds record = true ∧ record.target = target)) :
    g.storedInto (records ++ [record]) target = g.storedInto records target := by
  simpa [storedInto] using h

/-! ### One stored connection -/

theorem attach_of_hasEnds (hends : g.hasEnds record = true) (hattach : g.attach record = .ok g') :
    ∃ b, g.port? record.target = some b ∧ g' = g.join record.source record.target b.multi := by
  obtain ⟨hsource, htarget⟩ := Bool.and_eq_true_iff.1 hends
  obtain ⟨a, ha⟩ := Option.isSome_iff_exists.1 hsource
  obtain ⟨b, hb⟩ := Option.isSome_iff_exists.1 htarget
  unfold attach at hattach
  rw [ha, hb] at hattach
  split_ifs at hattach with hne
  simp only at hattach
  split_ifs at hattach
  exact ⟨b, hb, (Except.ok.inj hattach).symm⟩

theorem attach_of_not_hasEnds (hends : ¬g.hasEnds record = true)
    (hattach : g.attach record = .ok g') : g' = g := by
  have hne := (attach_ok_iff.1 ⟨g', hattach⟩).node_ne
  have hsame := attach_of_dangling hne (not_not.1 fun h => hends (hasEnds_iff.2 h))
  exact Except.ok.inj (hattach.symm.trans hsame)

/-- **A stored connection with both ends is made**, and nothing else stays on a singular input. -/
theorem connected_attach_iff (h : WellFormed catalog g) (hends : g.hasEnds record = true)
    (hattach : g.attach record = .ok g') :
    g'.Connected source target ↔ (source = record.source ∧ target = record.target) ∨
      (g.Connected source target ∧ (target = record.target → g.isSingular target = false)) := by
  obtain ⟨b, hb, rfl⟩ := attach_of_hasEnds hends hattach
  rw [h.connected_join_iff hb]
  have hroom : (b.multi = true ∨ target ≠ record.target) ↔
      (target = record.target → g.isSingular target = false) := by
    constructor
    · rintro (hmulti | hne) rfl
      · simp [isSingular, hb, hmulti]
      · exact absurd rfl hne
    · intro hsingular
      by_cases htarget : target = record.target
      · refine .inl ?_
        simpa [isSingular, htarget, hb] using hsingular htarget
      · exact .inr htarget
  rw [hroom]

/-! ### All stored connections -/

theorem foldlM_attach_append_singleton (h : (records ++ [record]).foldlM attach g = .ok g') :
    ∃ next, records.foldlM attach g = .ok next ∧ next.attach record = .ok g' := by
  rw [List.foldlM_append] at h
  cases hnext : records.foldlM attach g with
  | error e =>
    rw [hnext] at h
    cases h
  | ok next =>
    rw [hnext] at h
    have hlast : ([record].foldlM attach next) = .ok g' := h
    rw [List.foldlM_cons] at hlast
    cases hattach : next.attach record with
    | error e =>
      rw [hattach] at hlast
      cases hlast
    | ok last =>
      rw [hattach] at hlast
      exact ⟨next, rfl, hattach.trans hlast⟩

theorem wellFormed_foldlM_attach (h : WellFormed catalog g)
    (hfold : records.foldlM attach g = .ok g') : WellFormed catalog g' := by
  induction records using List.reverseRecOn generalizing g' with
  | nil => exact Except.ok.inj hfold ▸ h
  | append_singleton records record ih =>
    obtain ⟨next, hnext, hattach⟩ := foldlM_attach_append_singleton hfold
    exact Edit.wellFormed_attach (ih hnext) hattach

/-- **The last stored connection into a singular input counts, and all of them into another.**  The
induction is on the list from its end: the last connection decides for its own input and leaves the
others as they are. -/
theorem connected_foldlM_attach_iff (h : WellFormed catalog g) (hnone : g.connections = [])
    (hfold : records.foldlM attach g = .ok g') :
    g'.Connected source target ↔ (∃ record ∈ g.storedInto records target, record.source = source) ∧
      (g.isSingular target = true →
        (g.storedInto records target).getLast?.map (·.source) = some source) := by
  induction records using List.reverseRecOn generalizing g' with
  | nil =>
    obtain rfl : g = g' := Except.ok.inj hfold
    simp [Connected, hnone, storedInto]
  | append_singleton records record ih =>
    obtain ⟨next, hnext, hattach⟩ := foldlM_attach_append_singleton hfold
    have hnodes := nodes_of_foldlM_attach hnext
    by_cases hends : g.hasEnds record = true
    · rw [connected_attach_iff (wellFormed_foldlM_attach h hnext)
        (by rw [hasEnds_of_nodes_eq hnodes]; exact hends) hattach, ih hnext,
        isSingular_of_nodes_eq hnodes]
      by_cases htarget : record.target = target
      · subst htarget
        rw [storedInto_append_of_hasEnds hends]
        cases hsingular : g.isSingular record.target with
        | true => simp +contextual [eq_comm]
        | false => simp [eq_comm, or_comm]
      · rw [storedInto_append_of_not fun hnot => htarget hnot.2]
        simp [Ne.symm htarget]
    · rw [attach_of_not_hasEnds (by rwa [hasEnds_of_nodes_eq hnodes]) hattach, ih hnext,
        storedInto_append_of_not fun hnot => hends hnot.1]

end

/-! ### Documents -/

variable {catalog : Catalog} {document : Document} {g : Graph}

theorem toDocument_nodes_of_loadsAs (h : document.LoadsAs catalog g) :
    g.toDocument.nodes = document.nodes := by
  have hnodes := nodes_ofDocument h.outcome
  rw [h.graph] at hnodes
  have hrecords : g.toDocument.nodes = g.nodes.map Node.record := rfl
  rw [hrecords, hnodes, Edit.map_record_node]

theorem nodes_of_loadsAs (h : document.LoadsAs catalog g) :
    g.nodes = (ofRecords catalog document.nodes).nodes := by
  rw [← h.graph]
  exact nodes_ofDocument h.outcome

/-- **Which pairs of ports a document connects.** -/
theorem connected_iff_of_loadsAs (h : document.LoadsAs catalog g) {source target : PortRef} :
    g.Connected source target ↔
      (∃ record ∈ g.storedInto document.connections target, record.source = source) ∧
      (g.isSingular target = true →
        (g.storedInto document.connections target).getLast?.map (·.source) = some source) := by
  have hbuildable := buildable_of_outcome_ok h.outcome
  have hattach := (attach_of_outcome_ok hbuildable h.outcome).1
  rw [h.graph] at hattach
  rw [isSingular_of_nodes_eq (nodes_of_loadsAs h), storedInto_of_nodes_eq (nodes_of_loadsAs h)]
  exact connected_foldlM_attach_iff (Edit.wellFormed_ofRecords hbuildable) rfl hattach

/-- In another order the connections of a document that loads are not refused either. -/
theorem exists_loadsAs_of_perm (h : document.LoadsAs catalog g)
    {connections : List ConnectionRecord} (hperm : connections.Perm document.connections) :
    ∃ other, { document with connections }.LoadsAs catalog other ∧ other.nodes = g.nodes := by
  have hbuildable := buildable_of_outcome_ok h.outcome
  have hother : { document with connections }.Buildable catalog :=
    ⟨hbuildable.ids_nodup, hbuildable.registered, hbuildable.placed⟩
  have hadmissible := (outcome_ok_iff_admissible hbuildable).1 h.outcome
  have hloads : { document with connections }.LoadsAs catalog
      (ofDocument catalog { document with connections }).graph :=
    ⟨(outcome_ok_iff_admissible hother).2 fun record hmem =>
      hadmissible record (hperm.mem_iff.1 hmem), rfl⟩
  exact ⟨_, hloads, (nodes_of_loadsAs hloads).trans (nodes_of_loadsAs h).symm⟩

theorem storedInto_eq_of_perm {connections records : List ConnectionRecord} {target : PortRef}
    (hperm : connections.Perm records) (hone : (g.storedInto records target).length ≤ 1) :
    g.storedInto connections target = g.storedInto records target := by
  have hfilter : (g.storedInto connections target).Perm (g.storedInto records target) :=
    hperm.filter _
  rcases Nat.le_one_iff_eq_zero_or_eq_one.1 hone with hzero | hsingle
  · rw [List.length_eq_zero_iff.1 hzero] at hfilter ⊢
    exact hfilter.eq_nil
  · obtain ⟨record, hrecord⟩ := List.length_eq_one_iff.1 hsingle
    rw [hrecord] at hfilter ⊢
    exact List.perm_singleton.1 hfilter

/-- **What a document that loads says.**  The nodes of the graph are the stored nodes in their order,
with the ports that their types declare, so the graph is stored with the same nodes again.  Two ports
are connected exactly if a stored connection with both ends joins them and, if the input is singular,
the last such connection into it does.  If each singular input has one such connection at most, then
with the connections in any other order the document loads too and connects the same ports. -/
theorem loaded_connected_iff (h : document.LoadsAs catalog g) :
    g.nodes = document.nodes.map (NodeRecord.node catalog) ∧
    g.toDocument.nodes = document.nodes ∧
    (∀ source target, g.Connected source target ↔
      (∃ record ∈ document.connections, g.hasEnds record = true ∧ record.source = source ∧
        record.target = target) ∧
      (g.isSingular target = true → ∃ last,
        (g.storedInto document.connections target).getLast? = some last ∧
          last.source = source)) ∧
    ((∀ target, g.isSingular target = true →
        (g.storedInto document.connections target).length ≤ 1) →
      ∀ connections, connections.Perm document.connections →
        ∃ other, { document with connections }.LoadsAs catalog other ∧
          ∀ source target, other.Connected source target ↔ g.Connected source target) := by
  refine ⟨nodes_of_loadsAs h, toDocument_nodes_of_loadsAs h, fun source target => ?_,
    fun hone connections hperm => ?_⟩
  · rw [connected_iff_of_loadsAs h, exists_mem_storedInto, Option.map_eq_some_iff]
  · obtain ⟨other, hother, hnodes⟩ := exists_loadsAs_of_perm h hperm
    refine ⟨other, hother, fun source target => ?_⟩
    rw [connected_iff_of_loadsAs hother, connected_iff_of_loadsAs h,
      isSingular_of_nodes_eq hnodes, storedInto_of_nodes_eq hnodes]
    have hmem : ∀ record, record ∈ g.storedInto connections target ↔
        record ∈ g.storedInto document.connections target := fun record =>
      (hperm.filter _).mem_iff
    simp only [hmem]
    refine and_congr_right fun _ => forall_congr' fun hsingular => ?_
    rw [storedInto_eq_of_perm hperm (hone target hsingular)]

end Graph

namespace Sample

/-- Three stored connections into an input for one, the last of them from nowhere, and three into an
input for many, one of them twice. -/
def contest : Document := document ["s", "a", "d"]
  [⟨"s", "out", "d", "one"⟩, ⟨"s", "out", "d", "many"⟩, ⟨"a", "out", "d", "one"⟩,
    ⟨"ghost", "out", "d", "one"⟩, ⟨"a", "out", "d", "many"⟩, ⟨"s", "out", "d", "many"⟩]

end Sample

namespace Graph

/-- Of the contest, the last connection from a node that exists counts, and the input for many keeps
both.  The two connections of the loop may be stored in the other order. -/
theorem contest_connected :
    ∃ g, Sample.contest.LoadsAs Sample.catalog g ∧
      g.toDocument.nodes = Sample.contest.nodes ∧
      g.isSingular (.input "d" "one") = true ∧
      g.Connected (.output "a" "out") (.input "d" "one") ∧
      ¬g.Connected (.output "s" "out") (.input "d" "one") ∧
      g.Connected (.output "s" "out") (.input "d" "many") ∧
      g.Connected (.output "a" "out") (.input "d" "many") ∧
    ∃ loop, Sample.loop.LoadsAs Sample.catalog loop ∧
      ∃ other, { Sample.loop with connections := Sample.loop.connections.reverse }.LoadsAs
          Sample.catalog other ∧
        ∀ source target, other.Connected source target ↔ loop.Connected source target := by
  have hcontest : Sample.contest.LoadsAs Sample.catalog
      (ofDocument Sample.catalog Sample.contest).graph := ⟨by decide +kernel, rfl⟩
  have hloop : Sample.loop.LoadsAs Sample.catalog
      (ofDocument Sample.catalog Sample.loop).graph := ⟨by decide +kernel, rfl⟩
  obtain ⟨-, hnodes, hconnected, -⟩ := loaded_connected_iff hcontest
  obtain ⟨-, -, -, hperm⟩ := loaded_connected_iff hloop
  refine ⟨_, hcontest, hnodes, by decide +kernel, ?_, ?_, ?_, ?_, _, hloop,
    hperm (fun target _ => ?_) _ (List.reverse_perm _)⟩
  · exact (hconnected _ _).2 ⟨⟨⟨"a", "out", "d", "one"⟩, by decide +kernel⟩,
      fun _ => ⟨⟨"a", "out", "d", "one"⟩, by decide +kernel⟩⟩
  · intro hold
    obtain ⟨last, hlast, hsource⟩ := ((hconnected _ _).1 hold).2 (by decide +kernel)
    have hactual : (storedInto (ofDocument Sample.catalog Sample.contest).graph
        Sample.contest.connections (.input "d" "one")).getLast? =
          some ⟨"a", "out", "d", "one"⟩ := by decide +kernel
    obtain rfl := Option.some.inj (hactual.symm.trans hlast)
    exact absurd hsource (by decide)
  · exact (hconnected _ _).2 ⟨⟨⟨"s", "out", "d", "many"⟩, by decide +kernel⟩,
      fun hsingular => absurd hsingular (by decide +kernel)⟩
  · exact (hconnected _ _).2 ⟨⟨⟨"a", "out", "d", "many"⟩, by decide +kernel⟩,
      fun hsingular => absurd hsingular (by decide +kernel)⟩
  · -- The two stored connections of the loop have different inputs.
    by_cases htarget : target = .input "a" "one"
    · subst htarget
      decide +kernel
    · have hother : ConnectionRecord.target ⟨"s", "out", "a", "one"⟩ ≠ target := Ne.symm htarget
      have hrest : (ofDocument Sample.catalog Sample.loop).graph.storedInto
          Sample.loop.connections target = (ofDocument Sample.catalog Sample.loop).graph.storedInto
            [⟨"a", "out", "s", "many"⟩] target :=
        List.filter_cons_of_neg (by simp [hother])
      rw [hrest]
      exact List.length_filter_le ..

end Graph

end Blueprint
