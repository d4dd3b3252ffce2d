import Mathlib.Data.List.TakeWhile
import Blueprint.Catalog.Builtin
import Blueprint.Proofs.Emission

/-!
# The parameters that a strategy declares

The class of a strategy declares the parameters of its nodes.  Their names are put together from the
last segment of a type tag and the key, so that nodes of one type share names, and names of
different types may meet too.  `Graph.declared` lists all that the nodes declare, repetitions
included; inserting the list into an ordered map leaves each name once (`OrderedMap.keys_collect`)
with its last value (`OrderedMap.get?_collect`).

A `Register` does the same with a growing list and a map from names to places in it.  The two stay
in step (`Register.InStep`), so no place is ever past the end of the list
(`Register.exists_collect`).

Main statement: the parameters of a strategy are the declared names in the order of their first
declarations, each with the value of its last one (`Graph.compile_parameters`).
-/

namespace Blueprint

/-! ### Maps that are filled in a row -/

namespace OrderedMap

variable {α : Type}

/-- The map of a list of bindings, inserted one after the other. -/
def collect (bindings : List (String × α)) : OrderedMap α :=
  bindings.foldl (fun m binding => m.insert binding.1 binding.2) empty

theorem collect_concat (bindings : List (String × α)) (binding : String × α) :
    collect (bindings ++ [binding]) = (collect bindings).insert binding.1 binding.2 := by
  rw [collect, List.foldl_append]
  rfl

/-- The keys are those of the bindings, in the order of their first occurrences. -/
theorem keys_collect (bindings : List (String × α)) :
    (collect bindings).keys = (bindings.map Prod.fst).eraseDups := by
  induction bindings using List.reverseRecOn with
  | nil => rfl
  | append_singleton bindings binding ih =>
    rw [collect_concat, keys_insert, ih, List.map_append, List.eraseDups_append]
    by_cases h : binding.1 ∈ bindings.map Prod.fst
    · simp [h, List.removeAll]
    · have hnew : [binding.1].eraseDups = [binding.1] := rfl
      simp [h, List.removeAll, hnew]

theorem nodup_keys_collect (bindings : List (String × α)) : (collect bindings).keys.Nodup := by
  induction bindings using List.reverseRecOn with
  | nil => exact List.nodup_nil
  | append_singleton bindings binding ih =>
    rw [collect_concat, keys_insert]
    split_ifs with h
    · exact ih
    · rw [← List.concat_eq_append]
      exact ih.concat h

theorem get?_collect (bindings : List (String × α)) (key : String) :
    (collect bindings).get? key = bindings.reverse.lookup key := by
  induction bindings using List.reverseRecOn with
  | nil => rfl
  | append_singleton bindings binding ih =>
    rw [collect_concat, get?_insert, ih, List.reverse_append, List.reverse_singleton,
      List.singleton_append, lookup_cons]

theorem exists_of_mem_collect {bindings : List (String × α)} {entry : String × α}
    (h : entry ∈ (collect bindings).entries) :
    ∃ before after, bindings = before ++ entry :: after ∧ ∀ later ∈ after, later.1 ≠ entry.1 := by
  -- No earlier entry has the key, so looking it up finds the value of this entry.
  obtain ⟨front, back, hentries⟩ := List.append_of_mem h
  have hnodup := nodup_keys_collect bindings
  rw [keys, hentries, List.map_append, List.map_cons, List.nodup_middle, List.nodup_cons,
    ← List.map_append] at hnodup
  have hget : (collect bindings).get? entry.1 = some entry.2 := by
    refine List.lookup_eq_some_iff.2 ⟨front, back, hentries, fun other hother => ?_⟩
    rw [bne_iff_ne]
    intro hsame
    exact hnodup.1 (hsame ▸ List.mem_map_of_mem (List.mem_append_left back hother))
  rw [get?_collect, List.lookup_eq_some_iff] at hget
  obtain ⟨after, before, hreverse, hlater⟩ := hget
  refine ⟨before.reverse, after.reverse, ?_, fun later hmem => ?_⟩
  · rw [← List.reverse_reverse bindings, hreverse]
    simp
  · have hne := hlater later (List.mem_reverse.1 hmem)
    rw [bne_iff_ne] at hne
    exact Ne.symm hne

theorem insertEntry_of_notMem {key : String} (value : α) {entries : List (String × α)}
    (h : key ∉ entries.map Prod.fst) :
    insertEntry key value entries = entries ++ [(key, value)] := by
  induction entries with
  | nil => rfl
  | cons entry rest ih =>
    rw [List.map_cons, List.mem_cons, not_or] at h
    rw [insertEntry, if_neg (Ne.symm h.1), ih h.2, List.cons_append]

theorem insertEntry_of_getElem? {key : String} (value : α) {entries : List (String × α)}
    {place : Nat} (hplace : (entries.map Prod.fst)[place]? = some key)
    (hfirst : ∀ earlier, (entries.map Prod.fst)[earlier]? = some key → earlier = place) :
    insertEntry key value entries = entries.modify place fun entry => (entry.1, value) := by
  induction entries generalizing place with
  | nil => cases hplace
  | cons entry rest ih =>
    by_cases hkey : entry.1 = key
    · obtain rfl : 0 = place := hfirst 0 (by simp [hkey])
      simp [insertEntry, hkey]
    · cases place with
      | zero => exact absurd (by simpa using hplace) hkey
      | succ place =>
        rw [insertEntry, if_neg hkey, List.modify_succ_cons, ih (by simpa using hplace)]
        intro earlier hearlier
        have := hfirst (earlier + 1) (by simpa using hearlier)
        omega

theorem map_fst_modify (value : α) (entries : List (String × α)) (place : Nat) :
    (entries.modify place fun entry => (entry.1, value)).map Prod.fst = entries.map Prod.fst := by
  refine List.ext_getElem? fun i => ?_
  rw [List.getElem?_map, List.getElem?_modify, List.getElem?_map]
  cases entries[i]? with
  | none => rfl
  | some entry => by_cases h : place = i <;> simp [h]

end OrderedMap

/-! ### Declaring by places -/

/-- The parameters declared so far, and the place of each name among them. -/
structure Register where
  /-- The parameters. -/
  entries : List (String × Value) := []
  /-- The places of their names. -/
  places : OrderedMap Nat := .empty

namespace Register

variable {register : Register}

/-- Overwrites the value at the place of a name; a new name gets the next place.  There is no result
if the place is past the end. -/
def declare (register : Register) (declaration : String × Value) : Option Register :=
  match register.places.get? declaration.1 with
  | some place =>
    if place < register.entries.length then
      some { register with
        entries := register.entries.modify place fun entry => (entry.1, declaration.2) }
    else none
  | none =>
    some { entries := register.entries ++ [declaration],
           places := register.places.insert declaration.1 register.entries.length }

/-- Declares one parameter after the other. -/
def collect (declarations : List (String × Value)) : Option Register :=
  declarations.foldlM declare {}

/-- The places are those where the names stand. -/
def InStep (register : Register) : Prop :=
  ∀ name place,
    register.places.get? name = some place ↔ (register.entries.map Prod.fst)[place]? = some name

theorem getElem?_concat_eq_some_iff {names : List String} {name other : String} {spot : Nat} :
    (names ++ [name])[spot]? = some other ↔
      names[spot]? = some other ∨ (spot = names.length ∧ other = name) := by
  rcases lt_trichotomy spot names.length with h | rfl | h
  · rw [List.getElem?_append_left h]
    simp [h.ne]
  · simp [eq_comm]
  · have hlong : (names ++ [name]).length ≤ spot := by
      rw [List.length_append]
      exact h
    rw [List.getElem?_eq_none hlong, List.getElem?_eq_none h.le]
    simp [h.ne']

/-- **A declaration finds its place in the list and keeps places and list in step.**  It has the
same effect as inserting into an ordered map. -/
theorem InStep.declare (h : register.InStep) (declaration : String × Value) :
    ∃ next, register.declare declaration = some next ∧ next.InStep ∧
      next.entries = OrderedMap.insertEntry declaration.1 declaration.2 register.entries := by
  obtain ⟨name, value⟩ := declaration
  cases hplaces : register.places.get? name with
  | some place =>
    have hplace := (h name place).1 hplaces
    have hbound : place < register.entries.length := by
      obtain ⟨hlt, -⟩ := List.getElem?_eq_some_iff.1 hplace
      rwa [List.length_map] at hlt
    refine ⟨_, by rw [Register.declare, hplaces]; exact if_pos hbound, ?_, ?_⟩
    · intro other spot
      rw [OrderedMap.map_fst_modify]
      exact h other spot
    · refine (OrderedMap.insertEntry_of_getElem? value hplace fun earlier hearlier => ?_).symm
      have := (h name earlier).2 hearlier
      rw [hplaces] at this
      exact (Option.some.inj this).symm
  | none =>
    have hnew : name ∉ register.entries.map Prod.fst := by
      intro hmem
      obtain ⟨place, hplace⟩ := List.getElem?_of_mem hmem
      rw [(h name place).2 hplace] at hplaces
      cases hplaces
    refine ⟨_, by rw [Register.declare, hplaces], ?_,
      (OrderedMap.insertEntry_of_notMem value hnew).symm⟩
    intro other spot
    rw [OrderedMap.get?_insert, List.map_append, List.map_singleton, getElem?_concat_eq_some_iff,
      List.length_map, ← h other spot]
    by_cases hother : other = name
    · rw [hother, if_pos rfl, hplaces, Option.some.injEq]
      simp [eq_comm]
    · simp [hother]

/-- **No declaration of a list finds a place past the end**, and the parameters are those of the
ordered map. -/
theorem exists_collect (declarations : List (String × Value)) :
    ∃ register, collect declarations = some register ∧ register.InStep ∧
      register.entries = (OrderedMap.collect declarations).entries := by
  induction declarations using List.reverseRecOn with
  | nil => exact ⟨{}, rfl, fun name place => by simp [OrderedMap.get?, OrderedMap.empty], rfl⟩
  | append_singleton declarations declaration ih =>
    obtain ⟨register, hcollect, hstep, hentries⟩ := ih
    obtain ⟨next, hdeclare, hnext, hinsert⟩ := hstep.declare declaration
    refine ⟨next, ?_, hnext, ?_⟩
    · rw [collect, List.foldlM_append, ← collect, hcollect]
      simp [hdeclare]
    · rw [hinsert, hentries, OrderedMap.collect_concat]
      rfl

end Register

/-! ### What the nodes declare -/

namespace Node

/-- What follows the last dot of a type tag. -/
def lastSegment (tag : String) : String := .ofList ((tag.toList.splitOn '.').getLastD [])

theorem shortTag_eq_lastSegment (tag : String) : shortTag tag = lastSegment tag := by
  rw [shortTag, lastSegment]
  congr 1
  have hplain {text : List Char} (h : '.' ∉ text) : ∀ c ∈ text, (c != '.') = true := fun c hc =>
    bne_iff_ne.2 (ne_of_mem_of_not_mem hc h)
  by_cases hdot : '.' ∈ tag.toList.reverse
  · -- Read from its end, the tag is a segment up to the first dot.
    obtain ⟨segment, before, hreverse, hsegment⟩ := List.eq_append_cons_of_mem hdot
    have htag : tag.toList = before.reverse ++ '.' :: segment.reverse := by
      rw [← List.reverse_reverse tag.toList, hreverse]
      simp
    have hlast : '.' ∉ segment.reverse := by simpa using hsegment
    rw [hreverse, List.takeWhile_append_of_pos (hplain hsegment), htag,
      List.splitOn_append_cons_self, List.splitOn_eq_singleton hlast, List.getLastD_concat]
    simp
  · have hone : '.' ∉ tag.toList := by simpa using hdot
    rw [List.takeWhile_eq_self_iff.2 (hplain hdot), List.reverse_reverse,
      List.splitOn_eq_singleton hone]
    rfl

end Node

namespace Graph

variable {g : Graph} {options : Options} {name : String} {strategy : Strategy}

/-- What the nodes declare, in insertion order and for each node in key order: the last segment of
its type tag with the key, and the value.  Values set on an input itself are left out. -/
def declared (g : Graph) : List (String × Value) :=
  g.nodes.flatMap fun node =>
    (node.parameters.entries.filter fun entry => ¬"_input_".toList <+: entry.1.toList).map
      fun entry => (Node.lastSegment node.type ++ "_" ++ entry.1, entry.2)

theorem flatMap_declarations (g : Graph) : g.nodes.flatMap Node.declarations = g.declared := by
  refine List.flatMap_congr fun node _ => ?_
  rw [Node.declarations, Node.shortTag_eq_lastSegment]
  congr 1
  refine List.filter_congr fun entry _ => ?_
  rw [Bool.eq_iff_iff, Bool.not_eq_true', ← Bool.not_eq_true, List.isPrefixOf_iff_prefix,
    decide_eq_true_iff]
  rfl

theorem parameters_of_compile (h : g.compile options name = .ok strategy) :
    strategy.parameters = (OrderedMap.collect g.declared).entries := by
  obtain ⟨_, rfl⟩ := exists_strategyOf_of_compile h
  rw [parameters_strategyOf, ← flatMap_declarations]
  rfl

/-- The names that a strategy declares are those of the keys of its nodes. -/
theorem mem_names_iff (h : g.compile options name = .ok strategy) {declaredName : String} :
    declaredName ∈ strategy.parameters.map Prod.fst ↔
      ∃ node ∈ g.nodes, ∃ key ∈ node.parameters.keys, ¬"_input_".toList <+: key.toList ∧
        Node.lastSegment node.type ++ "_" ++ key = declaredName := by
  rw [parameters_of_compile h, ← OrderedMap.keys, OrderedMap.keys_collect, List.mem_eraseDups,
    List.mem_map]
  constructor
  · rintro ⟨entry, hentry, rfl⟩
    obtain ⟨node, hnode, hentry⟩ := List.mem_flatMap.1 hentry
    obtain ⟨parameter, hparameter, rfl⟩ := List.mem_map.1 hentry
    obtain ⟨hparameter, hmark⟩ := List.mem_filter.1 hparameter
    exact ⟨node, hnode, parameter.1, List.mem_map_of_mem hparameter, of_decide_eq_true hmark, rfl⟩
  · rintro ⟨node, hnode, key, hkey, hmark, rfl⟩
    obtain ⟨parameter, hparameter, rfl⟩ := List.mem_map.1 hkey
    have hkept : parameter ∈ node.parameters.entries.filter
        fun entry => ¬"_input_".toList <+: entry.1.toList :=
      List.mem_filter.2 ⟨hparameter, decide_eq_true hmark⟩
    exact ⟨_, List.mem_flatMap.2 ⟨node, hnode, List.mem_map_of_mem hkept⟩, rfl⟩

/-- **A strategy declares each name once, at the place of its first declaration and with the value
of its last one.**  Nodes declare in insertion order and in the order of the bytes of their keys.
Collecting the parameters by places never reaches past the end of what is collected, and gives the
same list. -/
theorem compile_parameters (h : g.compile options name = .ok strategy) :
    (strategy.parameters.map Prod.fst).Nodup ∧
    strategy.parameters.map Prod.fst = (g.declared.map Prod.fst).eraseDups ∧
    (∀ entry ∈ strategy.parameters, ∃ before after,
      g.declared = before ++ entry :: after ∧ ∀ later ∈ after, later.1 ≠ entry.1) ∧
    (∀ node ∈ g.nodes, (node.parameters.keys.map Text.bytes).Pairwise (· < ·)) ∧
    ∃ register, Register.collect g.declared = some register ∧
      register.entries = strategy.parameters := by
  rw [parameters_of_compile h]
  obtain ⟨register, hcollect, -, hentries⟩ := Register.exists_collect g.declared
  refine ⟨OrderedMap.nodup_keys_collect _, OrderedMap.keys_collect _,
    fun entry => OrderedMap.exists_of_mem_collect, fun node _ => ?_, register, hcollect, hentries⟩
  rw [SortedMap.keys, List.map_map]
  exact List.pairwise_map.2 (node.parameters.increasing.imp Text.bytes_lt_bytes)

end Graph

namespace Sample

/-- Orders to sell, of two types whose names for a quantity can be the same. -/
def sales : Graph := (Graph.ofDocument Catalog.builtin
  { nodes := [
      ⟨"s", "trade.sell", {}, .ofList
        [("quantity", .int 5), ("all_quantity", .int 1), ("_input_condition", .bool true)]⟩,
      ⟨"a", "trade.sell_all", {}, .ofList
        [("quantity", .float (.ofInt 2)), ("_input_condition", .bool true)]⟩,
      ⟨"t", "trade.sell", {}, .ofList
        [("quantity", .text "7"), ("_input_condition", .bool false)]⟩] }).graph

end Sample

namespace Graph

theorem reachable_sales : Reachable Catalog.builtin Sample.sales := .loaded (by decide +kernel)

theorem compile_sales (options : Options) (name : String) :
    Sample.sales.compile options name =
      .ok (Sample.sales.strategyOf options name ["s", "a", "t"]) := by
  have hvalues : Sample.sales.validate = [] ∧
      Sample.sales.executionOrder = .ok ["s", "a", "t"] := by decide +kernel
  exact compile_of_valid hvalues.1 hvalues.2

theorem parameterBlock_sales : Sample.sales.parameterBlock =
    [("sell_all_quantity", .float (.ofInt 2)), ("sell_quantity", .text "7")] := by
  decide +kernel

/-- Both names are declared twice, one of them by nodes of different types. -/
theorem sales_parameters :
    Reachable Catalog.builtin Sample.sales ∧
    Sample.sales.declared = [("sell_all_quantity", .int 1), ("sell_quantity", .int 5),
      ("sell_all_quantity", .float (.ofInt 2)), ("sell_quantity", .text "7")] ∧
    ∃ strategy, Sample.sales.compile {} "Sales" = .ok strategy ∧
      strategy.parameters =
        [("sell_all_quantity", .float (.ofInt 2)), ("sell_quantity", .text "7")] ∧
      strategy.parameters.map Prod.fst = (Sample.sales.declared.map Prod.fst).eraseDups := by
  have hdeclared : Sample.sales.declared = [("sell_all_quantity", .int 1),
      ("sell_quantity", .int 5), ("sell_all_quantity", .float (.ofInt 2)),
      ("sell_quantity", .text "7")] := by decide +kernel
  obtain ⟨-, hnames, -⟩ := compile_parameters (compile_sales {} "Sales")
  refine ⟨reachable_sales, hdeclared, _, compile_sales {} "Sales", ?_, hnames⟩
  rw [parameters_strategyOf, parameterBlock_sales]

end Graph

end Blueprint
