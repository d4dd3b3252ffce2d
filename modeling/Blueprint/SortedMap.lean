/-!
# Maps in key order

A finite map from strings whose entries are listed by increasing key, each key once.  Keys compare
by code point, which is the order of their UTF-8 bytes.  Since the order is part of the type, two
maps with the same entries are equal.
-/

namespace Blueprint

namespace SortedMap

variable {α : Type}

/-- Each key is smaller than all keys after it. -/
def Increasing (entries : List (String × α)) : Prop :=
  entries.Pairwise fun a b => a.1 < b.1

/-- Puts an entry at its place, over an entry of the same key. -/
def insertEntry (key : String) (value : α) : List (String × α) → List (String × α)
  | [] => [(key, value)]
  | entry :: rest =>
    if key < entry.1 then (key, value) :: entry :: rest
    else if key = entry.1 then (key, value) :: rest
    else entry :: insertEntry key value rest

theorem mem_insertEntry {key : String} {value : α} {entries : List (String × α)}
    {e : String × α} (h : e ∈ insertEntry key value entries) : e = (key, value) ∨ e ∈ entries := by
  induction entries with
  | nil => simpa [insertEntry] using h
  | cons entry rest ih =>
    rw [insertEntry] at h
    split at h
    · simpa using h
    · split at h
      · rcases List.mem_cons.1 h with h | h
        · exact .inl h
        · exact .inr (List.mem_cons_of_mem _ h)
      · rcases List.mem_cons.1 h with h | h
        · exact .inr (h ▸ List.mem_cons_self)
        · exact (ih h).imp_right (List.mem_cons_of_mem _)

theorem increasing_insertEntry {key : String} {value : α} {entries : List (String × α)}
    (h : Increasing entries) : Increasing (insertEntry key value entries) := by
  induction entries with
  | nil => simp [insertEntry, Increasing]
  | cons entry rest ih =>
    obtain ⟨hfirst, hrest⟩ := List.pairwise_cons.1 h
    rw [insertEntry]
    split
    case isTrue hlt =>
      refine List.pairwise_cons.2 ⟨fun e he => ?_, h⟩
      rcases List.mem_cons.1 he with rfl | he
      · exact hlt
      · exact String.lt_trans hlt (hfirst e he)
    case isFalse hlt =>
      split
      case isTrue heq =>
        exact List.pairwise_cons.2 ⟨fun e he => heq ▸ hfirst e he, hrest⟩
      case isFalse hne =>
        refine List.pairwise_cons.2 ⟨fun e he => ?_, ih hrest⟩
        rcases mem_insertEntry he with rfl | he
        · rcases Std.lt_trichotomy key entry.1 with h | h | h
          · exact absurd h hlt
          · exact absurd h hne
          · exact h
        · exact hfirst e he

end SortedMap

/-- A finite map from strings, its entries by increasing key. -/
structure SortedMap (α : Type) where
  /-- The entries in key order. -/
  entries : List (String × α)
  /-- They are in key order. -/
  increasing : SortedMap.Increasing entries
  deriving DecidableEq

namespace SortedMap

variable {α : Type}

/-- The map without entries. -/
def empty : SortedMap α := ⟨[], List.Pairwise.nil⟩

instance : Inhabited (SortedMap α) := ⟨empty⟩

/-- The value of a key. -/
def get? (m : SortedMap α) (key : String) : Option α := m.entries.lookup key

/-- The map with `key` bound to `value`. -/
def insert (m : SortedMap α) (key : String) (value : α) : SortedMap α :=
  ⟨insertEntry key value m.entries, increasing_insertEntry m.increasing⟩

/-- The map without `key`. -/
def erase (m : SortedMap α) (key : String) : SortedMap α :=
  ⟨m.entries.filter (·.1 != key), List.Pairwise.filter _ m.increasing⟩

/-- The map of a list of bindings, in which the last binding of a key counts. -/
def ofList (bindings : List (String × α)) : SortedMap α :=
  bindings.foldl (fun m binding => m.insert binding.1 binding.2) empty

/-- The keys in order. -/
def keys (m : SortedMap α) : List String := m.entries.map Prod.fst

end SortedMap

end Blueprint
