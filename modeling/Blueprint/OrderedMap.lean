/-!
# Maps in insertion order

A finite map from strings that lists its keys in the order of their first insertion.  Inserting
under a key that is present replaces its value and leaves its place.
-/

namespace Blueprint

/-! ### Entries -/

/-- What a look-up finds is an entry. -/
theorem mem_of_lookup {α : Type} {entries : List (String × α)} {key : String} {value : α}
    (h : entries.lookup key = some value) : (key, value) ∈ entries := by
  obtain ⟨_, _, hentries, -⟩ := List.lookup_eq_some_iff.1 h
  simp [hentries]

theorem lookup_map_value {α β : Type} (change : α → β) (key : String)
    (entries : List (String × α)) :
    (entries.map fun entry => (entry.1, change entry.2)).lookup key =
      (entries.lookup key).map change := by
  induction entries with
  | nil => rfl
  | cons entry rest ih =>
    obtain ⟨first, value⟩ := entry
    rw [List.map_cons, List.lookup_cons, List.lookup_cons, ih]
    cases key == first <;> rfl

/-- What a map has after a sequence of insertions it had before, or it was inserted. -/
theorem mem_of_mem_foldl {σ α ε : Type} (entries : σ → List ε) {insert : σ → α → σ} (f : α → ε)
    (hinsert : ∀ s a e, e ∈ entries (insert s a) → e = f a ∨ e ∈ entries s) {as : List α} {s : σ}
    {e : ε} (h : e ∈ entries (as.foldl insert s)) : e ∈ entries s ∨ ∃ a ∈ as, e = f a := by
  induction as generalizing s with
  | nil => exact .inl h
  | cons a as ih =>
    rcases ih h with h | ⟨b, hb, heq⟩
    · exact (hinsert s a e h).symm.imp_right fun heq => ⟨a, List.mem_cons_self, heq⟩
    · exact .inr ⟨b, List.mem_cons_of_mem _ hb, heq⟩

/-! ### Maps -/

/-- A finite map from strings, its entries in order of first insertion. -/
structure OrderedMap (α : Type) where
  /-- The entries in order. -/
  entries : List (String × α) := []

namespace OrderedMap

variable {α : Type}

/-- The map without entries. -/
def empty : OrderedMap α := ⟨[]⟩

instance : Inhabited (OrderedMap α) := ⟨empty⟩

/-- Replaces the value of `key`, or appends a new entry. -/
def insertEntry (key : String) (value : α) : List (String × α) → List (String × α)
  | [] => [(key, value)]
  | entry :: rest =>
    if entry.1 = key then (key, value) :: rest else entry :: insertEntry key value rest

/-- The map with `key` bound to `value`. -/
def insert (m : OrderedMap α) (key : String) (value : α) : OrderedMap α :=
  ⟨insertEntry key value m.entries⟩

/-- The value of a key. -/
def get? (m : OrderedMap α) (key : String) : Option α := m.entries.lookup key

/-- The keys in order of first insertion. -/
def keys (m : OrderedMap α) : List String := m.entries.map Prod.fst

theorem mem_keys_of_get? {m : OrderedMap α} {key : String} {value : α}
    (h : m.get? key = some value) : key ∈ m.keys :=
  List.mem_map.2 ⟨_, mem_of_lookup h, rfl⟩

/-! ### What inserting changes -/

theorem mem_insertEntry {key : String} {value : α} {entries : List (String × α)}
    {entry : String × α} (h : entry ∈ insertEntry key value entries) :
    entry = (key, value) ∨ entry ∈ entries := by
  induction entries with
  | nil => exact .inl (List.mem_singleton.1 h)
  | cons first rest ih =>
    rw [insertEntry] at h
    split at h
    · exact (List.mem_cons.1 h).imp_right (List.mem_cons_of_mem _)
    · rcases List.mem_cons.1 h with rfl | h
      · exact .inr List.mem_cons_self
      · exact (ih h).imp_right (List.mem_cons_of_mem _)

theorem lookup_cons (name : String) (entry : String × α) (rest : List (String × α)) :
    (entry :: rest).lookup name = if name = entry.1 then some entry.2 else rest.lookup name := by
  obtain ⟨key, value⟩ := entry
  by_cases h : name = key
  · rw [if_pos h, h]
    exact List.lookup_cons_self
  · rw [if_neg h, List.lookup_cons, beq_false_of_ne h]

theorem lookup_insertEntry (key : String) (value : α) (entries : List (String × α))
    (name : String) :
    (insertEntry key value entries).lookup name =
      if name = key then some value else entries.lookup name := by
  induction entries with
  | nil => rw [insertEntry, lookup_cons]
  | cons entry rest ih =>
    rw [insertEntry, lookup_cons name entry rest]
    by_cases hkey : entry.1 = key
    · by_cases hname : name = key <;> simp [lookup_cons, hkey, hname]
    · rw [if_neg hkey, lookup_cons, ih]
      by_cases hname : name = entry.1 <;> simp [hkey, hname]

theorem map_fst_insertEntry (key : String) (value : α) (entries : List (String × α)) :
    (insertEntry key value entries).map Prod.fst =
      if key ∈ entries.map Prod.fst then entries.map Prod.fst
      else entries.map Prod.fst ++ [key] := by
  induction entries with
  | nil => simp [insertEntry]
  | cons entry rest ih =>
    by_cases hkey : entry.1 = key
    · simp [insertEntry, hkey]
    · rw [insertEntry, if_neg hkey, List.map_cons, ih]
      have hmem : key ∈ (entry :: rest).map Prod.fst ↔ key ∈ rest.map Prod.fst := by
        rw [List.map_cons, List.mem_cons]
        exact or_iff_right (Ne.symm hkey)
      by_cases hrest : key ∈ rest.map Prod.fst
      · rw [if_pos hrest, if_pos (hmem.2 hrest), List.map_cons]
      · rw [if_neg hrest, if_neg fun h => hrest (hmem.1 h), List.map_cons, List.cons_append]

/-- A key has the value that was inserted last. -/
theorem get?_insert (m : OrderedMap α) (key : String) (value : α) (name : String) :
    (m.insert key value).get? name = if name = key then some value else m.get? name :=
  lookup_insertEntry key value m.entries name

/-- A key that is present keeps its place, and a new one comes last. -/
theorem keys_insert (m : OrderedMap α) (key : String) (value : α) :
    (m.insert key value).keys = if key ∈ m.keys then m.keys else m.keys ++ [key] :=
  map_fst_insertEntry key value m.entries

end OrderedMap

end Blueprint
