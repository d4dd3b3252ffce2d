import Mathlib.Algebra.Group.Nat.Defs
import Mathlib.Order.Bounds.Basic
import Blueprint.Proofs.Agreement

/-!
# Generated ids

A node that is added without an id gets the next number, written in hexadecimal digits, whose
numeral is not in use.  Callers choose ids as they like, so that ids in use may look like generated
ones; but numbers have different numerals, and of one number more than there are nodes one is free.

The numbers are 64-bit words, and behind the last one the count fails or starts again at zero
(`Word.checked`, `Word.wrapping`).  The search for a free id itself knows no bound (`Search`).  With
checks it ends exactly at the least free word behind the one drawn last (`search_checked_iff`);
without, it ends there too if there is one, and else at the least of all (`Search.wrapping_cases`).
There is one as long as there is room for one number more than there are nodes (`Arena.HasRoom`),
and then words and unbounded numbers do the same (`Arena.Synced.performAll`).

Main statement: adding a node draws such a word, adds to the nodes that are there, and while there
is room never returns an id that it has returned before (`Arena.generated_fresh`).
-/

namespace Blueprint

/-! ### The search for a free id -/

namespace Word

/-- The next word; behind the last one comes zero. -/
def wrapping (word : UInt64) : Option UInt64 := some (word + 1)

/-- The next word; there is none behind the last one. -/
def checked (word : UInt64) : Option UInt64 := if word + 1 = 0 then none else some (word + 1)

theorem toNat_succ {word : UInt64} (h : word + 1 ≠ 0) : (word + 1).toNat = word.toNat + 1 := by
  have hne : (word + 1).toNat ≠ 0 := fun hzero => h (UInt64.toNat_inj.1 hzero)
  have hlt := word.toNat_lt
  rw [UInt64.toNat_add, UInt64.toNat_one] at hne ⊢
  omega

theorem succ_le_iff {word other : UInt64} (h : word + 1 ≠ 0) : word + 1 ≤ other ↔ word < other := by
  rw [UInt64.le_iff_toNat_le, UInt64.lt_iff_toNat_lt, toNat_succ h, Nat.succ_le_iff]

theorem not_lt_of_succ_eq_zero {word : UInt64} (h : word + 1 = 0) (other : UInt64) :
    ¬word < other := by
  have hzero : (word + 1).toNat = 0 := by rw [h, UInt64.toNat_zero]
  have hlt := other.toNat_lt
  rw [UInt64.toNat_add, UInt64.toNat_one] at hzero
  rw [UInt64.lt_iff_toNat_lt]
  omega

theorem add_ofNat_succ (word : UInt64) (i : Nat) :
    word + .ofNat (i + 1) = word + 1 + .ofNat i := by
  rw [UInt64.ofNat_add]
  grind

theorem checked_eq_some {word other : UInt64} :
    checked word = some other ↔ word + 1 ≠ 0 ∧ word + 1 = other := by
  rw [checked]
  split_ifs with h <;> simp [h]

end Word

/-- The search for a free word goes on from one to the next, as long as they are taken. -/
inductive Search (next : UInt64 → Option UInt64) (taken : UInt64 → Prop) :
    UInt64 → UInt64 → Prop where
  /-- The next word is free. -/
  | free {last n : UInt64} (hnext : next last = some n) (h : ¬taken n) : Search next taken last n
  /-- The next word is taken, and the search goes on behind it. -/
  | taken {last word n : UInt64} (hnext : next last = some word) (h : taken word)
    (rest : Search next taken word n) : Search next taken last n

section

variable {next : UInt64 → Option UInt64} {taken : UInt64 → Prop} {last n m : UInt64}

theorem Search.not_taken (h : Search next taken last n) : ¬taken n := by
  induction h with
  | free _ h => exact h
  | taken _ _ _ ih => exact ih

theorem Search.unique (hn : Search next taken last n) (hm : Search next taken last m) : n = m := by
  induction hn with
  | free hnext h =>
    cases hm with
    | free hnext' _ => exact Option.some.inj (hnext.symm.trans hnext')
    | taken hnext' h' _ =>
      obtain rfl := Option.some.inj (hnext.symm.trans hnext')
      exact absurd h' h
  | taken hnext h _ ih =>
    cases hm with
    | free hnext' h' =>
      obtain rfl := Option.some.inj (hnext.symm.trans hnext')
      exact absurd h h'
    | taken hnext' _ rest' =>
      obtain rfl := Option.some.inj (hnext.symm.trans hnext')
      exact ih rest'

/-- Passing over a taken word does not change which words are free behind. -/
theorem isLeast_succ (hlast : last + 1 ≠ 0) (htaken : taken (last + 1)) :
    IsLeast {m | last + 1 < m ∧ ¬taken m} n ↔ IsLeast {m | last < m ∧ ¬taken m} n := by
  have hset : {m | last + 1 < m ∧ ¬taken m} = {m | last < m ∧ ¬taken m} := by
    ext m
    refine and_congr_left fun hfree => ?_
    rw [← Word.succ_le_iff hlast, UInt64.lt_iff_le_and_ne]
    exact and_iff_left_of_imp fun _ heq => hfree (heq ▸ htaken)
  rw [hset]

theorem Search.isLeast (h : Search Word.checked taken last n) :
    IsLeast {m | last < m ∧ ¬taken m} n := by
  induction h with
  | free hnext hfree =>
    obtain ⟨hlast, rfl⟩ := Word.checked_eq_some.1 hnext
    exact ⟨⟨(Word.succ_le_iff hlast).1 (UInt64.le_refl _), hfree⟩,
      fun m hm => (Word.succ_le_iff hlast).2 hm.1⟩
  | taken hnext htaken _ ih =>
    obtain ⟨hlast, rfl⟩ := Word.checked_eq_some.1 hnext
    exact (isLeast_succ hlast htaken).1 ih

theorem search_of_isLeast (h : IsLeast {m | last < m ∧ ¬taken m} n) :
    Search Word.checked taken last n := by
  -- The induction is on the words that are passed over.
  have hlast : last + 1 ≠ 0 := fun hzero => Word.not_lt_of_succ_eq_zero hzero n h.1.1
  obtain ⟨steps, hsteps⟩ := Nat.exists_eq_add_of_lt (UInt64.lt_iff_toNat_lt.1 h.1.1)
  induction steps generalizing last with
  | zero =>
    obtain rfl : last + 1 = n := UInt64.toNat_inj.1 ((Word.toNat_succ hlast).trans hsteps.symm)
    exact .free (Word.checked_eq_some.2 ⟨hlast, rfl⟩) h.1.2
  | succ steps ih =>
    have hlt : last + 1 < n := by
      rw [UInt64.lt_iff_toNat_lt, Word.toNat_succ hlast]
      omega
    have htaken : taken (last + 1) := by
      by_contra hfree
      have hle := h.2 ⟨(Word.succ_le_iff hlast).1 (UInt64.le_refl _), hfree⟩
      exact UInt64.not_le.2 hlt hle
    refine .taken (Word.checked_eq_some.2 ⟨hlast, rfl⟩) htaken
      (ih ((isLeast_succ hlast htaken).2 h) (fun hzero => ?_) ?_)
    · exact Word.not_lt_of_succ_eq_zero hzero n hlt
    · rw [Word.toNat_succ hlast]
      omega

/-- **With checks, the search ends exactly at the least free word behind the last one.** -/
theorem search_checked_iff :
    Search Word.checked taken last n ↔ IsLeast {m | last < m ∧ ¬taken m} n :=
  ⟨Search.isLeast, search_of_isLeast⟩

/-- **Without checks, the search ends there too, or else at the least free word of all.** -/
theorem Search.wrapping_cases (h : Search Word.wrapping taken last n) :
    IsLeast {m | last < m ∧ ¬taken m} n ∨
      (∀ m, last < m → taken m) ∧ IsLeast {m | ¬taken m} n := by
  induction h with
  | @free last n hnext hfree =>
    obtain rfl := Option.some.inj hnext
    by_cases hlast : last + 1 = 0
    · refine .inr ⟨fun m hm => absurd hm (Word.not_lt_of_succ_eq_zero hlast m), hfree, ?_⟩
      rw [hlast]
      exact fun m _ => UInt64.zero_le
    · exact .inl (Search.free (Word.checked_eq_some.2 ⟨hlast, rfl⟩) hfree).isLeast
  | @taken last word n hnext htaken _ ih =>
    obtain rfl := Option.some.inj hnext
    by_cases hlast : last + 1 = 0
    · -- The search starts again, and zero is taken.
      refine .inr ⟨fun m hm => absurd hm (Word.not_lt_of_succ_eq_zero hlast m), ?_⟩
      rcases ih with hleast | ⟨-, hleast⟩
      · refine ⟨hleast.1.2, fun m hm => hleast.2 ⟨?_, hm⟩⟩
        rw [hlast] at htaken ⊢
        exact UInt64.pos_iff_ne_zero.2 fun hzero => hm (hzero ▸ htaken)
      · exact hleast
    · rw [isLeast_succ hlast htaken] at ih
      refine ih.imp_right fun ⟨hall, hleast⟩ => ⟨fun m hm => ?_, hleast⟩
      rcases UInt64.lt_or_eq_of_le ((Word.succ_le_iff hlast).2 hm) with hlt | rfl
      · exact hall m hlt
      · exact htaken

end

namespace Edit

theorem firstFree_le (inUse : List NodeId) (steps n : Nat) :
    firstFree inUse steps n ≤ n + steps := by
  induction steps generalizing n with
  | zero => exact le_rfl
  | succ steps ih =>
    rw [firstFree]
    split_ifs
    · exact (ih (n + 1)).trans (by omega)
    · omega

theorem isLeast_nextNumber (g : Graph) :
    IsLeast {m | g.nodeSeq < m ∧ generatedId m ∉ g.ids} (nextNumber g) := by
  obtain ⟨hle, hpassed, -⟩ := firstFree_spec g.ids g.nodeCount (g.nodeSeq + 1)
  refine ⟨⟨hle, generatedId_nextNumber_notMem g⟩, fun m hm => ?_⟩
  by_contra hlt
  exact hm.2 (hpassed m hm.1 (Nat.not_le.1 hlt))

theorem nextNumber_le (g : Graph) : nextNumber g ≤ g.nodeSeq + g.nodeCount + 1 := by
  have hle := firstFree_le g.ids g.nodeCount (g.nodeSeq + 1)
  rw [nextNumber]
  omega

end Edit

/-! ### The word that an arena draws -/

namespace Arena

/-- The id of the word is in use. -/
def Taken (a : Arena) (word : UInt64) : Prop := a.hasNode (Edit.generatedId word.toNat) = true

/-- There is room for one number more than there are nodes. -/
def HasRoom (a : Arena) : Prop := a.nodeSeq.toNat + a.order.length + 1 < 2 ^ 64

instance (a : Arena) : Decidable a.HasRoom := inferInstanceAs (Decidable (_ < _))

/-- The word of the next generated id. -/
structure Draws (a : Arena) (n : UInt64) : Prop where
  /-- The search for a free id ends at it, and nowhere else. -/
  wrapping : ∀ m, Search Word.wrapping a.Taken a.nodeSeq m ↔ m = n
  /-- With checks, the search ends at it exactly if it has not passed the last word. -/
  checked : ∀ m, Search Word.checked a.Taken a.nodeSeq m ↔ m = n ∧ a.nodeSeq < n
  /-- It is the least free word behind the last one drawn, or the least of all if there is none. -/
  least : IsLeast {m | a.nodeSeq < m ∧ ¬a.Taken m} n ∨
    (∀ m, a.nodeSeq < m → a.Taken m) ∧ IsLeast {m | ¬a.Taken m} n
  /-- The id is its numeral of at least eight digits. -/
  numeral : Text.PaddedHex 8 n.toNat (Edit.generatedId n.toNat).toList

section

variable {a : Arena} {g : Graph} {n : UInt64}

theorem InStep.hasNode_iff (h : a.InStep g) {id : NodeId} : a.hasNode id = true ↔ id ∈ a.order := by
  rw [h.hasNode_eq, h.order_eq, Graph.hasNode_iff]

theorem InStep.length_order (h : a.InStep g) : a.order.length = g.nodeCount := by
  rw [h.order_eq, Graph.ids, List.length_map, Graph.nodeCount]

theorem search_of_firstFree {inUse : NodeId → Bool} {steps : Nat} {last : UInt64}
    (h : firstFree inUse steps (last + 1) = some n) :
    Search Word.wrapping (fun word => inUse (Edit.generatedId word.toNat) = true) last n := by
  induction steps generalizing last with
  | zero => cases h
  | succ steps ih =>
    rw [firstFree] at h
    split_ifs at h with hused
    · exact .taken rfl hused (ih h)
    · exact .free (h ▸ rfl) (by cases h; exact hused)

/-- A search that finds nothing has seen as many words in use as it has looked at. -/
theorem used_of_firstFree_eq_none {inUse : NodeId → Bool} {steps : Nat} {word : UInt64}
    (h : firstFree inUse steps word = none) {i : Nat} (hi : i < steps) :
    inUse (Edit.generatedId (word + .ofNat i).toNat) = true := by
  induction steps generalizing word i with
  | zero => exact absurd hi (Nat.not_lt_zero i)
  | succ steps ih =>
    rw [firstFree] at h
    split_ifs at h with hused
    cases i with
    | zero => simpa using hused
    | succ i =>
      rw [Word.add_ofNat_succ]
      exact ih h (Nat.lt_of_succ_lt_succ hi)

/-- With fewer nodes than words, one of the ids is free. -/
theorem InStep.exists_nextWord (h : a.InStep g) (hcount : a.order.length < 2 ^ 64) :
    ∃ n, a.nextWord? = some n := by
  rw [← Option.ne_none_iff_exists']
  intro hnone
  -- The search has seen one id more than there are nodes.
  let ids := (List.range (a.order.length + 1)).map fun i =>
    Edit.generatedId (a.nodeSeq + 1 + .ofNat i).toNat
  have hsub : ids ⊆ a.order := by
    intro id hid
    obtain ⟨i, hi, rfl⟩ := List.mem_map.1 hid
    exact h.hasNode_iff.1 (used_of_firstFree_eq_none hnone (List.mem_range.1 hi))
  have hnodup : ids.Nodup := by
    refine List.Nodup.map_on (fun i hi j hj heq => ?_) List.nodup_range
    have hword := UInt64.toNat_inj.1 (Edit.generatedId_injective heq)
    have hsame := congrArg UInt64.toNat (UInt64.add_right_inj _ |>.1 hword)
    rwa [UInt64.toNat_ofNat_of_lt' (Nat.lt_of_lt_of_le (List.mem_range.1 hi) hcount),
      UInt64.toNat_ofNat_of_lt' (Nat.lt_of_lt_of_le (List.mem_range.1 hj) hcount)] at hsame
  have hle := (hnodup.subperm hsub).length_le
  rw [List.length_map, List.length_range] at hle
  omega

theorem draws_of_nextWord (h : a.nextWord? = some n) : a.Draws n := by
  have hsearch : Search Word.wrapping a.Taken a.nodeSeq n := search_of_firstFree h
  have hleast := hsearch.wrapping_cases
  refine ⟨fun m => ⟨fun hm => hm.unique hsearch, fun heq => heq ▸ hsearch⟩, fun m => ?_, hleast, ?_⟩
  · rw [search_checked_iff]
    rcases hleast with hleast | ⟨hall, -⟩
    · refine ⟨fun hm => ?_, fun ⟨hm, _⟩ => hm ▸ hleast⟩
      obtain rfl : m = n := UInt64.le_antisymm (hm.2 hleast.1) (hleast.2 hm.1)
      exact ⟨rfl, hleast.1.1⟩
    · exact ⟨fun hm => absurd (hall m hm.1.1) hm.1.2,
        fun ⟨_, hlt⟩ => absurd (hall n hlt) hsearch.not_taken⟩
  · rw [Edit.generatedId, String.toList_ofList]
    exact Text.paddedHex_hexDigits (by decide) _

/-- **While there is room, words are drawn as unbounded numbers are.** -/
theorem InStep.toNat_nextWord (h : a.InStep g) (hroom : a.HasRoom) (hn : a.nextWord? = some n) :
    n.toNat = Edit.nextNumber { g with nodeSeq := a.nodeSeq.toNat } := by
  let g' : Graph := { g with nodeSeq := a.nodeSeq.toNat }
  have hnumber : IsLeast {m | a.nodeSeq.toNat < m ∧ Edit.generatedId m ∉ g.ids}
    (Edit.nextNumber g') := Edit.isLeast_nextNumber g'
  have hle : Edit.nextNumber g' ≤ a.nodeSeq.toNat + g.nodeCount + 1 := Edit.nextNumber_le g'
  have htaken (word : UInt64) : a.Taken word ↔ Edit.generatedId word.toNat ∈ g.ids := by
    rw [Taken, h.hasNode_iff, h.order_eq]
  -- The number is a word that is free.
  have hword : (UInt64.ofNat (Edit.nextNumber g')).toNat = Edit.nextNumber g' := by
    refine UInt64.toNat_ofNat_of_lt' ?_
    rw [HasRoom, h.length_order] at hroom
    exact Nat.lt_of_le_of_lt hle hroom
  have hfree : a.nodeSeq < .ofNat (Edit.nextNumber g') ∧
      ¬a.Taken (.ofNat (Edit.nextNumber g')) := by
    rw [UInt64.lt_iff_toNat_lt, htaken, hword]
    exact hnumber.1
  rcases (draws_of_nextWord hn).least with hleast | ⟨hall, -⟩
  · refine Nat.le_antisymm ?_ (hnumber.2 ⟨UInt64.lt_iff_toNat_lt.1 hleast.1.1, ?_⟩)
    · exact hword ▸ UInt64.le_iff_toNat_le.1 (hleast.2 hfree)
    · exact fun hmem => hleast.1.2 ((htaken n).2 hmem)
  · exact absurd (hall _ hfree.1) hfree.2

theorem InStep.lt_nextWord (h : a.InStep g) (hroom : a.HasRoom) (hn : a.nextWord? = some n) :
    a.nodeSeq < n := by
  rw [UInt64.lt_iff_toNat_lt, h.toNat_nextWord hroom hn]
  exact (Edit.isLeast_nextNumber { g with nodeSeq := a.nodeSeq.toNat }).1.1

theorem InStep.exists_of_hasRoom (h : a.InStep g) (hroom : a.HasRoom) : ∃ n, a.nextWord? = some n :=
  h.exists_nextWord (by rw [HasRoom] at hroom; omega)

/-! ### Words and numbers -/

/-- The arena and the graph are in step, and they have drawn the same number. -/
structure Synced (a : Arena) (g : Graph) : Prop extends InStep a g where
  /-- The number drawn last. -/
  number_eq : g.nodeSeq = a.nodeSeq.toNat

theorem Synced.agree_addNode (h : Synced a g) (hroom : a.HasRoom) (type : String)
    (position : Point) :
    ∃ n : UInt64, Agree n n.toNat ((Edit.addNode type position).run ⟨g, []⟩)
      ((addNode type position).run a) := by
  obtain ⟨n, hn⟩ := h.exists_of_hasRoom hroom
  have hnumber : Edit.nextNumber g = n.toNat := by
    rw [h.toNat_nextWord hroom hn, ← h.number_eq]
  refine ⟨n, ?_⟩
  simp only [run_addNode, hn, Edit.run_addNode_eq_addNodeAs, hnumber]
  exact agree_addNodeAs (s := ⟨{ g with nodeSeq := n.toNat }, []⟩) _ type position
    { h with word_eq := rfl, number_eq := rfl }

/-- **While there is room, arena and graph give the same answers.** -/
theorem Synced.perform (h : Synced a g) (hroom : a.HasRoom) (action : Action) :
    Synced (a.perform action) (action.perform g) ∧
      (apply (edit action) a).1 = (action.edit.apply g).outcome := by
  have hsynced {word : UInt64} {b : Arena} {g' : Graph} (h : Tied word word.toNat b g') :
      Synced b g' :=
    { h with number_eq := h.number_eq.trans (congrArg _ h.word_eq.symm) }
  rcases action.addNode_or_forall_ne with ⟨type, position, rfl⟩ | hdraw
  · obtain ⟨n, hagree⟩ := h.agree_addNode hroom type position
    exact ⟨hsynced hagree.discard.apply.1, hagree.discard.apply.2⟩
  · have htied : Tied a.nodeSeq a.nodeSeq.toNat a g := { h with word_eq := rfl }
    obtain ⟨hkept, houtcome⟩ := (agree_edit (s := ⟨g, []⟩) hdraw htied).apply
    exact ⟨hsynced hkept, houtcome⟩

/-- The room there is along a sequence of actions. -/
def KeepsRoom (a : Arena) (actions : List Action) : Prop :=
  ∀ earlier, earlier <+: actions → (a.performAll earlier).HasRoom

theorem KeepsRoom.cons {action : Action} {rest : List Action} (h : a.KeepsRoom (action :: rest)) :
    a.HasRoom ∧ (a.perform action).KeepsRoom rest :=
  ⟨h [] List.nil_prefix, fun earlier hearlier =>
    h (action :: earlier) (List.cons_prefix_cons.2 ⟨rfl, hearlier⟩)⟩

/-- Along a sequence of actions with room they stay in step, number by number. -/
theorem Synced.performAll (h : Synced a g) {actions : List Action} (hroom : a.KeepsRoom actions) :
    Synced (a.performAll actions) (g.performAll actions) := by
  induction actions generalizing a g with
  | nil => exact h
  | cons action rest ih => exact ih (h.perform hroom.cons.1 action).1 hroom.cons.2

/-! ### Adding nodes -/

theorem run_freshId (hn : a.nextWord? = some n) :
    freshId.run a = .ok (Edit.generatedId n.toNat) { a with nodeSeq := n } := by
  simp only [freshId, EStateM.run_bind, run_current, hn, Edit.run_demand_some, run_store]
  rfl

theorem run_insertNode (a : Arena) (id : NodeId) (type : String) (position : Point) :
    (insertNode id type position).run a =
      if position.isFinite then
        match a.catalog.get? type with
        | some variant => .ok id { a with
            table := Function.update a.table id (some (.ofVariant id type position variant))
            order := a.order ++ [id] }
        | none => .error (.unknownType type) a
      else .error (.notFinite id "position") a := by
  simp only [insertNode, EStateM.run_bind, Edit.run_require]
  split_ifs
  · cases hvariant : a.catalog.get? type <;> simp [hvariant]
  · rfl

theorem nodeSeq_addNode (hn : a.nextWord? = some n) (type : String) (position : Point) :
    (apply (addNode type position) a).2.nodeSeq = n := by
  rw [apply, addNode, EStateM.run_bind, run_freshId hn]
  simp only [run_insertNode]
  split_ifs
  · cases a.catalog.get? type <;> rfl
  · rfl

theorem addNode_cases (hn : a.nextWord? = some n) (type : String) (position : Point) :
    (∃ node : Node, node.id = Edit.generatedId n.toNat ∧
      apply (addNode type position) a = (.ok (Edit.generatedId n.toNat), { a with
        nodeSeq := n
        table := Function.update a.table (Edit.generatedId n.toNat) (some node)
        order := a.order ++ [Edit.generatedId n.toNat] })) ∨
    ¬(position.isFinite = true ∧ a.catalog.contains type = true) ∧
      ∃ error, (apply (addNode type position) a).1 = .error error := by
  rw [apply, addNode, EStateM.run_bind, run_freshId hn]
  simp only [run_insertNode]
  split_ifs with hfinite
  · cases hvariant : a.catalog.get? type with
    | none => exact .inr ⟨fun h => by simp [Catalog.contains, hvariant] at h, _, rfl⟩
    | some variant => exact .inl ⟨_, rfl, rfl⟩
  · exact .inr ⟨fun h => hfinite h.1, _, rfl⟩

theorem of_addNode_ok (hn : a.nextWord? = some n) {type : String} {position : Point} {id : NodeId}
    (h : (apply (addNode type position) a).1 = .ok id) :
    id = Edit.generatedId n.toNat ∧ ∃ node : Node, node.id = id ∧
      (apply (addNode type position) a).2 = { a with
        nodeSeq := n
        table := Function.update a.table id (some node)
        order := a.order ++ [id] } := by
  obtain ⟨node, hid, happly⟩ | ⟨-, error, hrefused⟩ := addNode_cases hn type position
  · rw [happly] at h ⊢
    cases h
    exact ⟨rfl, node, hid, rfl⟩
  · rw [hrefused] at h
    cases h

theorem InStep.nodeSeq_le_perform (h : a.InStep g) (hroom : a.HasRoom) (action : Action) :
    a.nodeSeq ≤ (a.perform action).nodeSeq := by
  rcases action.addNode_or_forall_ne with ⟨type, position, rfl⟩ | hdraw
  · obtain ⟨n, hn⟩ := h.exists_of_hasRoom hroom
    rw [Arena.perform, edit, apply_discard, nodeSeq_addNode hn]
    exact UInt64.le_of_lt (h.lt_nextWord hroom hn)
  · rw [(h.tied.perform hdraw).word_eq]
    exact UInt64.le_refl _

/-- **While there is room, the number drawn last never goes back.** -/
theorem InStep.nodeSeq_le_performAll (h : a.InStep g) {actions : List Action}
    (hroom : a.KeepsRoom actions) : a.nodeSeq ≤ (a.performAll actions).nodeSeq := by
  induction actions generalizing a g with
  | nil => exact UInt64.le_refl _
  | cons action rest ih =>
    obtain ⟨_, hnext⟩ := h.perform action
    exact UInt64.le_trans (h.nodeSeq_le_perform hroom.cons.1 action) (ih hnext hroom.cons.2)

theorem InStep.exists_performAll (h : a.InStep g) (actions : List Action) :
    ∃ g', (a.performAll actions).InStep g' := by
  induction actions generalizing a g with
  | nil => exact ⟨g, h⟩
  | cons action rest ih =>
    obtain ⟨_, hnext⟩ := h.perform action
    exact ih hnext

/-- An id that was returned is not returned again while there is room. -/
theorem InStep.addNode_ne_of_ok (h : a.InStep g) (hn : a.nextWord? = some n) {type : String}
    {position : Point} {id : NodeId} (hok : (apply (addNode type position) a).1 = .ok id)
    {actions : List Action} (hroom : (apply (addNode type position) a).2.KeepsRoom actions)
    (type' : String) (position' : Point) :
    (apply (addNode type' position')
      ((apply (addNode type position) a).2.performAll actions)).1 ≠ .ok id := by
  have hperform : a.perform (.addNode type position) = (apply (addNode type position) a).2 := by
    rw [Arena.perform, edit, apply_discard]
  obtain ⟨_, hnext⟩ := h.perform (.addNode type position)
  rw [hperform] at hnext
  obtain ⟨g', hlast⟩ := hnext.exists_performAll actions
  obtain ⟨m, hm⟩ := hlast.exists_of_hasRoom (hroom actions List.prefix_rfl)
  intro hagain
  have hsame := UInt64.toNat_inj.1 (Edit.generatedId_injective
    ((of_addNode_ok hn hok).1.symm.trans (of_addNode_ok hm hagain).1))
  -- The second word is behind the one drawn last, and that is not before the first word.
  have hkept := hnext.nodeSeq_le_performAll hroom
  have hlt := hlast.lt_nextWord (hroom actions List.prefix_rfl) hm
  rw [nodeSeq_addNode hn] at hkept
  exact absurd (UInt64.lt_of_le_of_lt hkept hlt) (hsame ▸ UInt64.lt_irrefl n)

/-- **A generated id is free, and not generated again while there is room.**  Whatever ids the nodes
of an arena have, the search for a free id ends if there are fewer nodes than words, at the least
free word behind the one drawn last.  If all of these are taken it has started again at zero, or
failed, but this needs more nodes than there is room for; with room the word is a number that
unbounded counting draws too, after at most one step more than there are nodes.  A node that is
added gets this id and joins the nodes that are there, and as long as there is room its id is not
returned by adding a node again, whatever happens in between. -/
theorem generated_fresh (h : a.InStep g) (hcount : a.order.length < 2 ^ 64) :
    ∃ n, a.Draws n ∧ apply freshId a = (.ok (Edit.generatedId n.toNat), { a with nodeSeq := n }) ∧
      (a.HasRoom →
        IsLeast {m : Nat | a.nodeSeq.toNat < m ∧ Edit.generatedId m ∉ a.order} n.toNat ∧
        n.toNat ≤ a.nodeSeq.toNat + a.order.length + 1 ∧
        (g.nodeSeq = a.nodeSeq.toNat → Edit.freshId.apply g =
          ⟨.ok (Edit.generatedId n.toNat), { g with nodeSeq := n.toNat }, []⟩)) ∧
      ∀ type position,
        (position.isFinite = true → a.catalog.contains type = true →
          (apply (addNode type position) a).1 = .ok (Edit.generatedId n.toNat)) ∧
        ∀ id, (apply (addNode type position) a).1 = .ok id →
          id = Edit.generatedId n.toNat ∧ a.hasNode id = false ∧
          (∃ node : Node, node.id = id ∧ (apply (addNode type position) a).2 = { a with
            nodeSeq := n
            table := Function.update a.table id (some node)
            order := a.order ++ [id] }) ∧
          ∀ actions, (apply (addNode type position) a).2.KeepsRoom actions → ∀ type' position',
            (apply (addNode type' position')
              ((apply (addNode type position) a).2.performAll actions)).1 ≠ .ok id := by
  obtain ⟨n, hn⟩ := h.exists_nextWord hcount
  refine ⟨n, draws_of_nextWord hn, ?_, fun hroom => ?_, fun type position => ⟨?_, fun id hid => ?_⟩⟩
  · rw [apply, run_freshId hn]
  · let counted : Graph := { g with nodeSeq := a.nodeSeq.toNat }
    have hnumber : n.toNat = Edit.nextNumber counted := h.toNat_nextWord hroom hn
    rw [hnumber, h.length_order, h.order_eq]
    refine ⟨Edit.isLeast_nextNumber counted, Edit.nextNumber_le counted, fun hseq => ?_⟩
    have hcounted : counted = g := congrArg (fun seq => { g with nodeSeq := seq }) hseq.symm
    rw [hcounted]
    rfl
  · intro hfinite hcontains
    obtain ⟨_, -, happly⟩ | ⟨hnot, -⟩ := addNode_cases hn type position
    · rw [happly]
    · exact absurd ⟨hfinite, hcontains⟩ hnot
  · obtain ⟨heq, hnode⟩ := of_addNode_ok hn hid
    exact ⟨heq, heq ▸ firstFree_notUsed hn, hnode, fun _ hroom => h.addNode_ne_of_ok hn hid hroom⟩

end

end Arena

namespace Sample

/-- Ids that look like the next generated ones, the second with a digit more. -/
def crowded : Arena :=
  { (Arena.ofDocument catalog (document ["ffffffff", "100000000", "00000001"] [])).2 with
    nodeSeq := 4294967294 }

/-- No nodes, and the last word is drawn. -/
def exhausted : Arena := { catalog, nodeSeq := 18446744073709551615 }

/-- The last word is not drawn, but its id is in use. -/
def obstructed : Arena :=
  { (Arena.ofDocument catalog (document ["ffffffffffffffff"] [])).2 with
    nodeSeq := 18446744073709551614 }

/-- A node comes and goes, time and again. -/
def rounds (count : Nat) : List Action :=
  (List.replicate count [Action.addNode "joint" {}, .clear]).flatten

theorem performAll_rounds (count : Nat) (word : UInt64) :
    Arena.performAll { catalog, nodeSeq := word } (rounds count) =
      { catalog, nodeSeq := word + .ofNat count } := by
  induction count generalizing word with
  | zero => simp [rounds, Arena.performAll]
  | succ count ih =>
    calc Arena.performAll { catalog, nodeSeq := word } (rounds (count + 1))
      _ = Arena.performAll { catalog, nodeSeq := word + 1 } (rounds count) := rfl
      _ = { catalog, nodeSeq := word + .ofNat (count + 1) } := by
        rw [ih, Word.add_ofNat_succ]

/-- A node came and went. -/
def emptied : Graph :=
  (Graph.empty catalog).performAll [.addNode "joint" {}, .removeNode "00000001"]

end Sample

namespace Arena

/-- Two numbers are passed over, and the id is not generated again after its node is removed. -/
theorem crowded_fresh :
    Sample.crowded.Draws 4294967297 ∧
    (apply (addNode "joint" {}) Sample.crowded).1 = .ok "100000001" ∧
    Sample.crowded.hasNode "100000001" = false ∧
    IsLeast {m : Nat | 4294967294 < m ∧ Edit.generatedId m ∉ Sample.crowded.order} 4294967297 ∧
    (apply (addNode "joint" {}) ((apply (addNode "joint" {}) Sample.crowded).2.performAll
      [.removeNode "100000001"])).1 ≠ .ok "100000001" := by
  have hstep : Sample.crowded.InStep (Graph.ofDocument Sample.catalog
      (Sample.document ["ffffffff", "100000000", "00000001"] [])).graph :=
    { (inStep_ofDocument Sample.catalog _).1 with }
  obtain ⟨n, hdraws, hfresh, hroom, hadd⟩ := generated_fresh hstep (by decide +kernel)
  obtain rfl : 4294967297 = n := by
    have hseq : (apply freshId Sample.crowded).2.nodeSeq = 4294967297 := by decide +kernel
    rwa [hfresh, eq_comm] at hseq
  have hok : (apply (addNode "joint" {}) Sample.crowded).1 = .ok "100000001" := by decide +kernel
  obtain ⟨-, hfree, -, hnever⟩ := (hadd "joint" {}).2 _ hok
  refine ⟨hdraws, hok, hfree, (hroom (by decide +kernel)).1, hnever _ ?_ _ _⟩
  intro earlier hearlier
  rcases earlier with _ | ⟨action, rest⟩
  · decide +kernel
  · obtain ⟨rfl, hrest⟩ := List.cons_prefix_cons.1 hearlier
    obtain rfl := List.prefix_nil.1 hrest
    decide +kernel

/-- **Without room ids are generated again.**  With the last word drawn, or its id in use, the count
starts again at zero, or fails; so the first id is returned again after all words have been drawn.
Long before, it is returned again by a graph that was stored and loaded, which counts anew. -/
theorem exhausted_restarts :
    (Sample.exhausted.nodeSeq.toNat + Sample.exhausted.order.length < 2 ^ 64 ∧
      (apply freshId Sample.exhausted).1 = .ok "00000000" ∧
      ∀ m, ¬Search Word.checked Sample.exhausted.Taken Sample.exhausted.nodeSeq m) ∧
    (Sample.obstructed.nodeSeq.toNat + Sample.obstructed.order.length < 2 ^ 64 ∧
      (apply freshId Sample.obstructed).1 = .ok "00000000") ∧
    ((apply (addNode "joint" {}) { catalog := Sample.catalog }).1 = .ok "00000001" ∧
      ∃ actions, (apply (addNode "joint" {}) ((apply (addNode "joint" {})
        { catalog := Sample.catalog }).2.performAll actions)).1 = .ok "00000001") ∧
    (((Edit.addNode "joint" {}).apply (.empty Sample.catalog)).outcome = .ok "00000001" ∧
      ((Edit.addNode "joint" {}).apply Sample.emptied).outcome = .ok "00000002" ∧
      ((Edit.addNode "joint" {}).apply
        (Graph.ofDocument Sample.catalog Sample.emptied.toDocument).graph).outcome =
          .ok "00000001") := by
  refine ⟨⟨by decide +kernel, by decide +kernel, fun m hm => ?_⟩,
    ⟨by decide +kernel, by decide +kernel⟩,
    ⟨by decide +kernel, .clear :: Sample.rounds (2 ^ 64 - 1), ?_⟩,
    by decide +kernel, by decide +kernel, by decide +kernel⟩
  · have hlast : Sample.exhausted.nodeSeq + 1 = 0 := by decide
    exact Word.not_lt_of_succ_eq_zero hlast m hm.isLeast.1.1
  · have hrounds (count : Nat) :
        (apply (addNode "joint" {}) { catalog := Sample.catalog }).2.performAll
          (.clear :: Sample.rounds count) =
            { catalog := Sample.catalog, nodeSeq := 1 + .ofNat count } :=
      Sample.performAll_rounds count 1
    have hzero : 1 + UInt64.ofNat (2 ^ 64 - 1) = 0 := by decide
    rw [hrounds, hzero]
    decide +kernel

end Arena

end Blueprint
