import Mathlib.Data.List.Nodup
import Blueprint.Proofs.Declarations

/-!
# Registering variants

A catalog changes by calls that register a variant under its own tag, or that bind a tag to the
variant which another tag has at that moment.  Such a call adds a binding to the ledger of a catalog,
but for one that names an unknown tag (`Call.binding?`).  After any calls the catalog is what the
bindings of its ledger give when they are inserted one after the other
(`Catalog.performAll_collect`), so tags stand in the order of their first bindings and have the
variants of their last ones.  A registry in two parts, a map and a list of tags beside it, stays in
step with the catalog (`Shelf.InStep.performAll`).

Main statement: whatever calls change the empty or the built-in catalog, it records their bindings
(`Catalog.calls_recorded`).
-/

namespace Blueprint

/-- A call that changes a catalog. -/
inductive Call where
  /-- Registers a variant under its own tag, in place or in a chain of calls. -/
  | register (variant : Variant)
  /-- Binds a tag to the variant that another one has. -/
  | synonym (tag target : String)

namespace Call

/-- The tag that a call is to bind. -/
def tag : Call → String
  | .register variant => variant.tag
  | .synonym tag _ => tag

/-- The catalog after a call. -/
def perform (catalog : Catalog) : Call → Catalog
  | .register variant => catalog.register variant
  | .synonym tag target => catalog.withAlias tag target

end Call

/-- Tags with the variants that they were bound to, oldest binding first. -/
abbrev Ledger := List (String × Variant)

namespace Ledger

/-- The tags in the order of their first bindings. -/
def tags (ledger : Ledger) : List String := (ledger.map Prod.fst).eraseDups

/-- The variant that a tag was bound to last. -/
def latest? (ledger : Ledger) (tag : String) : Option Variant := ledger.reverse.lookup tag

end Ledger

/-- The bindings of variants that are registered in a row. -/
def Ledger.ofVariants (variants : List Variant) : Ledger :=
  variants.map fun variant => (variant.tag, variant)

/-- What a call binds.  A synonym needs a tag that was bound before. -/
def Call.binding? (ledger : Ledger) : Call → Option (String × Variant)
  | .register variant => some (variant.tag, variant)
  | .synonym tag target => (ledger.latest? target).map fun variant => (tag, variant)

/-- The ledger after further calls. -/
def Ledger.extend (ledger : Ledger) : List Call → Ledger
  | [] => ledger
  | call :: rest => extend (ledger ++ (call.binding? ledger).toList) rest

namespace Catalog

/-- The catalog after a sequence of calls. -/
def performAll (catalog : Catalog) (calls : List Call) : Catalog := calls.foldl Call.perform catalog

/-- The catalog records the bindings of a ledger. -/
structure Records (catalog : Catalog) (ledger : Ledger) : Prop where
  /-- No tag is listed twice. -/
  nodup : catalog.tags.Nodup
  /-- The tags that are listed are those that have a variant. -/
  mem_tags_iff : ∀ tag, tag ∈ catalog.tags ↔ catalog.contains tag = true
  /-- Tags are listed in the order of their first bindings. -/
  tags_eq : catalog.tags = ledger.tags
  /-- A tag has the variant that it was bound to last. -/
  get?_eq : ∀ tag, catalog.get? tag = ledger.latest? tag
  /-- The palette of a category has the lines of its tags. -/
  mem_byCategory_iff : ∀ category entry, entry ∈ catalog.byCategory category ↔
    catalog.entry? entry.tag = some entry ∧ entry.category = category
  /-- The palette of a category keeps the order of the tags. -/
  sublist_tags : ∀ category,
    ((catalog.byCategory category).map CatalogEntry.tag).Sublist catalog.tags
  /-- The palettes of all categories together have each tag once. -/
  perm_tags : (Category.all.flatMap fun category =>
    (catalog.byCategory category).map CatalogEntry.tag).Perm catalog.tags

/-! ### The palette by categories -/

theorem mem_tags_iff_contains (catalog : Catalog) (tag : String) :
    tag ∈ catalog.tags ↔ catalog.contains tag = true := by
  rw [contains, Option.isSome_iff_exists]
  refine ⟨fun h => ?_, fun ⟨_, h⟩ => OrderedMap.mem_keys_of_get? h⟩
  obtain ⟨entry, hentry, rfl⟩ := List.mem_map.1 h
  cases hget : catalog.get? entry.1 with
  | some variant => exact ⟨variant, rfl⟩
  | none =>
    have hne := List.lookup_eq_none_iff.1 hget entry hentry
    simp at hne

theorem tag_of_entry {catalog : Catalog} {tag : String} {entry : CatalogEntry}
    (h : catalog.entry? tag = some entry) : entry.tag = tag := by
  obtain ⟨variant, -, rfl⟩ := Option.map_eq_some_iff.1 h
  rfl

theorem mem_palette_iff {catalog : Catalog} {entry : CatalogEntry} :
    entry ∈ catalog.palette ↔ catalog.entry? entry.tag = some entry := by
  rw [palette, List.mem_filterMap]
  constructor
  · rintro ⟨tag, -, hentry⟩
    rw [tag_of_entry hentry, hentry]
  · intro hentry
    obtain ⟨variant, hvariant, -⟩ := Option.map_eq_some_iff.1 hentry
    exact ⟨entry.tag, OrderedMap.mem_keys_of_get? hvariant, hentry⟩

theorem map_tag_palette (catalog : Catalog) :
    catalog.palette.map CatalogEntry.tag = catalog.tags := by
  have hline : ∀ tag ∈ catalog.tags, (catalog.entry? tag).map CatalogEntry.tag = some tag := by
    intro tag htag
    obtain ⟨variant, hvariant⟩ :=
      Option.isSome_iff_exists.1 ((mem_tags_iff_contains catalog tag).1 htag)
    unfold entry?
    rw [hvariant]
    rfl
  rw [palette, List.map_filterMap, List.filterMap_congr hline, List.filterMap_some]

theorem mem_byCategory_iff {catalog : Catalog} {category : Category} {entry : CatalogEntry} :
    entry ∈ catalog.byCategory category ↔
      catalog.entry? entry.tag = some entry ∧ entry.category = category := by
  rw [byCategory, List.mem_filter, mem_palette_iff, beq_iff_eq]

theorem sublist_tags_byCategory (catalog : Catalog) (category : Category) :
    ((catalog.byCategory category).map CatalogEntry.tag).Sublist catalog.tags := by
  rw [← map_tag_palette]
  exact List.filter_sublist.map _

theorem flatMap_byCategory_perm (catalog : Catalog) :
    (Category.all.flatMap catalog.byCategory).Perm catalog.palette := by
  refine List.perm_iff_count.2 fun entry => ?_
  have hcount (category : Category) : (catalog.byCategory category).count entry =
      if entry.category = category then catalog.palette.count entry else 0 := by
    rw [byCategory]
    split_ifs with h
    · exact List.count_filter (beq_iff_eq.2 h)
    · exact List.count_eq_zero.2 fun hmem => h (beq_iff_eq.1 (List.mem_filter.1 hmem).2)
  cases h : entry.category <;> simp [Category.all, hcount, h]

/-- **The categories divide the tags among them.** -/
theorem flatMap_tags_perm (catalog : Catalog) :
    (Category.all.flatMap fun category =>
      (catalog.byCategory category).map CatalogEntry.tag).Perm catalog.tags := by
  rw [← List.map_flatMap, ← map_tag_palette]
  exact (flatMap_byCategory_perm catalog).map _

/-! ### Sequences of calls -/

theorem tags_collect (ledger : Ledger) : tags (.collect ledger) = ledger.tags :=
  OrderedMap.keys_collect ledger

theorem get?_collect (ledger : Ledger) (tag : String) :
    (OrderedMap.collect ledger).get? tag = ledger.latest? tag :=
  OrderedMap.get?_collect ledger tag

theorem perform_collect (ledger : Ledger) (call : Call) :
    call.perform (.collect ledger) = .collect (ledger ++ (call.binding? ledger).toList) := by
  cases call with
  | register variant => exact (OrderedMap.collect_concat ledger (variant.tag, variant)).symm
  | synonym tag target =>
    rw [Call.perform, withAlias, Call.binding?, get?_collect]
    cases ledger.latest? target with
    | none => simp
    | some variant => exact (OrderedMap.collect_concat ledger (tag, variant)).symm

/-- **After any calls a catalog is what inserting its bindings gives.** -/
theorem performAll_collect (ledger : Ledger) (calls : List Call) :
    performAll (.collect ledger) calls = .collect (ledger.extend calls) := by
  induction calls generalizing ledger with
  | nil => rfl
  | cons call rest ih =>
    rw [performAll, List.foldl_cons, perform_collect]
    exact ih _

theorem records_collect (ledger : Ledger) : Records (.collect ledger) ledger where
  nodup := OrderedMap.nodup_keys_collect ledger
  mem_tags_iff := mem_tags_iff_contains _
  tags_eq := tags_collect ledger
  get?_eq := get?_collect ledger
  mem_byCategory_iff _ _ := mem_byCategory_iff
  sublist_tags := sublist_tags_byCategory _
  perm_tags := flatMap_tags_perm _

theorem registerAll_empty (variants : List Variant) :
    empty.registerAll variants = .collect (Ledger.ofVariants variants) := by
  rw [OrderedMap.collect, Ledger.ofVariants, List.foldl_map]
  rfl

theorem get?_perform_of_ne {catalog : Catalog} {call : Call} {tag : String} (h : call.tag ≠ tag) :
    (call.perform catalog).get? tag = catalog.get? tag := by
  cases call with
  | register variant =>
    rw [Call.perform, register, OrderedMap.get?_insert]
    exact if_neg (Ne.symm h)
  | synonym name target =>
    rw [Call.perform, withAlias]
    cases catalog.get? target with
    | none => rfl
    | some variant =>
      simp only
      rw [OrderedMap.get?_insert]
      exact if_neg (Ne.symm h)

theorem get?_performAll_of_ne {catalog : Catalog} {calls : List Call} {tag : String}
    (h : ∀ call ∈ calls, call.tag ≠ tag) : (catalog.performAll calls).get? tag = catalog.get? tag := by
  induction calls generalizing catalog with
  | nil => rfl
  | cons call rest ih =>
    calc ((call.perform catalog).performAll rest).get? tag
        = (call.perform catalog).get? tag :=
          ih fun other hother => h other (List.mem_cons_of_mem _ hother)
      _ = catalog.get? tag := get?_perform_of_ne (h call List.mem_cons_self)

/-- **A synonym keeps the variant that it was made for**, whatever its target is bound to later. -/
theorem get?_synonym {catalog : Catalog} {tag target : String} {variant : Variant}
    (htarget : catalog.get? target = some variant) {later : List Call}
    (hlater : ∀ call ∈ later, call.tag ≠ tag) :
    (catalog.performAll (.synonym tag target :: later)).get? tag = some variant := by
  have hnow : (Call.perform catalog (.synonym tag target)).get? tag = some variant := by
    rw [Call.perform, withAlias, htarget]
    exact (OrderedMap.get?_insert catalog tag variant tag).trans (if_pos rfl)
  rw [← hnow]
  exact get?_performAll_of_ne hlater

end Catalog

/-! ### A registry in two parts -/

/-- A map from tags to variants, and beside it the tags in the order in which they came. -/
structure Shelf where
  /-- The variants. -/
  variants : String → Option Variant
  /-- The tags. -/
  order : List String

namespace Shelf

variable {shelf : Shelf} {catalog : Catalog}

/-- The two parts of a catalog. -/
def ofCatalog (catalog : Catalog) : Shelf := ⟨catalog.get?, catalog.tags⟩

/-- Binds a tag.  It joins the list if it had no variant. -/
def bind (shelf : Shelf) (tag : String) (variant : Variant) : Shelf where
  variants name := if name = tag then some variant else shelf.variants name
  order := if (shelf.variants tag).isNone then shelf.order ++ [tag] else shelf.order

/-- The registry after a call. -/
def perform (shelf : Shelf) : Call → Shelf
  | .register variant => shelf.bind variant.tag variant
  | .synonym tag target =>
    match shelf.variants target with
    | some variant => shelf.bind tag variant
    | none => shelf

/-- The registry after a sequence of calls. -/
def performAll (shelf : Shelf) (calls : List Call) : Shelf := calls.foldl perform shelf

/-- The two parts say what a catalog says. -/
structure InStep (shelf : Shelf) (catalog : Catalog) : Prop where
  /-- The same tags in the same order. -/
  order_eq : shelf.order = catalog.tags
  /-- The same variants. -/
  variants_eq : ∀ tag, shelf.variants tag = catalog.get? tag

theorem InStep.bind (h : shelf.InStep catalog) (tag : String) (variant : Variant) :
    (shelf.bind tag variant).InStep (catalog.insert tag variant) where
  order_eq := by
    have hnone : (shelf.variants tag).isNone = true ↔ tag ∉ catalog.tags := by
      rw [Catalog.mem_tags_iff_contains, Catalog.contains, h.variants_eq, Option.isNone_iff_eq_none,
        Option.not_isSome_iff_eq_none]
    rw [Shelf.bind, Catalog.tags, OrderedMap.keys_insert, h.order_eq]
    simp only [hnone, Catalog.tags, ite_not]
  variants_eq name := by
    rw [OrderedMap.get?_insert, ← h.variants_eq]
    rfl

theorem InStep.perform (h : shelf.InStep catalog) (call : Call) :
    (shelf.perform call).InStep (call.perform catalog) := by
  cases call with
  | register variant => exact h.bind variant.tag variant
  | synonym tag target =>
    rw [Shelf.perform, Call.perform, Catalog.withAlias, h.variants_eq]
    cases catalog.get? target with
    | none => exact h
    | some variant => exact h.bind tag variant

/-- **The two parts stay in step.** -/
theorem InStep.performAll (h : shelf.InStep catalog) (calls : List Call) :
    (shelf.performAll calls).InStep (catalog.performAll calls) := by
  induction calls generalizing shelf catalog with
  | nil => exact h
  | cons call rest ih => exact ih (h.perform call)

end Shelf

namespace Catalog

/-- **A catalog records the calls that it has seen.**  After any calls, made on the empty or on the
built-in catalog, each tag is listed once, at the place of its first binding, and exactly the tags
listed have a variant, that of their last binding; the palettes of the categories divide the tags
among them and keep their order.  A synonym keeps the variant that its target had when it was made,
as long as it is not bound itself again.  A map of variants with a list of tags beside it, changed
by the same calls, says the same. -/
theorem calls_recorded {start : Catalog} {ledger : Ledger}
    (hstart : start = empty ∧ ledger = [] ∨
      start = builtin ∧ ledger = Ledger.ofVariants builtinVariants) (calls : List Call) :
    (start.performAll calls).Records (ledger.extend calls) ∧
    (∀ tag target variant later, (start.performAll calls).get? target = some variant →
      (∀ call ∈ later, call.tag ≠ tag) →
      (start.performAll (calls ++ .synonym tag target :: later)).get? tag = some variant) ∧
    ((Shelf.ofCatalog start).performAll calls).InStep (start.performAll calls) := by
  have hcollect : start = .collect ledger := by
    rcases hstart with ⟨rfl, rfl⟩ | ⟨rfl, rfl⟩
    · rfl
    · exact registerAll_empty builtinVariants
  refine ⟨?_, fun tag target variant later htarget hlater => ?_, ?_⟩
  · rw [hcollect, performAll_collect]
    exact records_collect _
  · rw [performAll, List.foldl_append]
    exact get?_synonym htarget hlater
  · exact Shelf.InStep.performAll ⟨rfl, fun _ => rfl⟩ calls

end Catalog

namespace Sample

/-- A synonym of a synonym, a new variant for the tag behind them, and a synonym of nothing. -/
def overwriting : List Call :=
  [.synonym "Mean" "SMA", .register { joint with tag := "indicator.ma" }, .synonym "Void" "nothing"]

/-- The built-in catalog after a synonym and these calls. -/
def overwritten : Catalog :=
  Catalog.builtin.performAll (.synonym "SMA" "indicator.ma" :: overwriting)

end Sample

namespace Catalog

/-- A built-in tag is registered anew after two synonyms were made of it. -/
theorem overwritten_recorded :
    Sample.overwritten.Records ((Ledger.ofVariants builtinVariants).extend
      (.synonym "SMA" "indicator.ma" :: Sample.overwriting)) ∧
    (∃ variant, builtin.get? "indicator.ma" = some variant ∧
      Sample.overwritten.get? "SMA" = some variant) ∧
    Sample.overwritten.tags = builtin.tags ++ ["SMA", "Mean"] ∧
    ["indicator.ma", "SMA", "Mean", "Void"].map
        (fun tag => (Sample.overwritten.get? tag).map Variant.title) =
      [some "Joint", some "MA", some "MA", none] := by
  have hstart : builtin = empty ∧ Ledger.ofVariants builtinVariants = [] ∨
      builtin = builtin ∧ Ledger.ofVariants builtinVariants = Ledger.ofVariants builtinVariants :=
    .inr ⟨rfl, rfl⟩
  obtain ⟨variant, hvariant⟩ : ∃ variant, builtin.get? "indicator.ma" = some variant :=
    Option.isSome_iff_exists.1 (by decide +kernel)
  have hlater : ∀ call ∈ Sample.overwriting, call.tag ≠ "SMA" := by decide +kernel
  obtain ⟨-, hsynonym, -⟩ := calls_recorded hstart []
  exact ⟨(calls_recorded hstart _).1, ⟨variant, hvariant, hsynonym _ _ _ _ hvariant hlater⟩,
    by decide +kernel, by decide +kernel⟩

end Catalog

end Blueprint
