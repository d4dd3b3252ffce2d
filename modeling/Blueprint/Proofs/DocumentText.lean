import Blueprint.Document.Json
import Blueprint.Proofs.Json.RoundTrip

/-!
# Stored documents read back

The text of a document is written for its JSON value and reads back as that value.  Each part of
the document is found again in the value: fields by their names, parameters by their keys, which are
in order already, and the kind of a parameter by its token, since only floating-point numbers are
written with a point or an exponent.

Main statement: a document whose floating-point numbers are all finite is restored exactly from its
text, so its text does not change when it is stored again (`Document.parse_render`).
-/

namespace Blueprint

/-! ### Maps -/

namespace SortedMap

variable {α : Type}

theorem insertEntry_of_lt {key : String} {value : α} {entries : List (String × α)}
    (h : ∀ entry ∈ entries, entry.1 < key) :
    insertEntry key value entries = entries ++ [(key, value)] := by
  induction entries with
  | nil => rfl
  | cons entry rest ih =>
    have hlt : entry.1 < key := h entry List.mem_cons_self
    have hnot : ¬key < entry.1 := String.lt_asymm hlt
    have hne : key ≠ entry.1 := by
      rintro rfl
      exact hnot hlt
    rw [insertEntry, if_neg hnot, if_neg hne, ih fun e he => h e (List.mem_cons_of_mem _ he)]
    rfl

theorem foldl_insert_entries (bindings : List (String × α)) (m : SortedMap α)
    (h : Increasing (m.entries ++ bindings)) :
    (bindings.foldl (fun m binding => m.insert binding.1 binding.2) m).entries =
      m.entries ++ bindings := by
  induction bindings generalizing m with
  | nil => simp
  | cons binding rest ih =>
    have hlt : ∀ entry ∈ m.entries, entry.1 < binding.1 := fun entry he =>
      (List.pairwise_append.1 h).2.2 entry he binding List.mem_cons_self
    have hinsert : (m.insert binding.1 binding.2).entries = m.entries ++ [binding] :=
      insertEntry_of_lt hlt
    have happend : m.entries ++ binding :: rest = m.entries ++ [binding] ++ rest := by simp
    rw [happend, ← hinsert] at h ⊢
    exact ih _ h

theorem ofList_entries (m : SortedMap α) : ofList m.entries = m := by
  have hentries : (ofList m.entries).entries = m.entries :=
    foldl_insert_entries m.entries empty m.increasing
  generalize ofList m.entries = restored at hentries
  cases restored
  cases m
  cases hentries
  rfl

end SortedMap

namespace Json

/-! ### Parts of a JSON value -/

theorem mapM_eq_some_map {α β : Type} {read : α → Option β} {f : α → β} {l : List α}
    (h : ∀ a ∈ l, read a = some (f a)) : l.mapM read = some (l.map f) := by
  induction l with
  | nil => rfl
  | cons a l ih =>
    rw [List.mapM_cons, h a List.mem_cons_self, ih fun b hb => h b (List.mem_cons_of_mem a hb)]
    rfl

theorem list?_map {α : Type} {read : Json → Option α} {write : α → Json} {l : List α}
    (h : ∀ a ∈ l, read (write a) = some a) : list? read (.array (l.map write)) = some l := by
  rw [list?, List.mapM_map, Function.comp_def, mapM_eq_some_map h, List.map_id']

theorem field?_of_mem {fields : List (String × Json)} (hnodup : (fields.map Prod.fst).Nodup)
    {field : String × Json} (hmem : field ∈ fields) :
    field? (fields.map fun (key, value) => (some key, value)) field.1 = some (some field.2) := by
  have hfilter : fields.filter (fun entry => some entry.1 == some field.1) = [field] := by
    induction fields with
    | nil => cases hmem
    | cons first rest ih =>
      obtain ⟨hfirst, hrest⟩ := List.nodup_cons.1 hnodup
      rcases List.mem_cons.1 hmem with rfl | hmem
      · have hnone : rest.filter (fun entry => some entry.1 == some field.1) = [] := by
          refine List.filter_eq_nil_iff.2 fun entry hentry he => hfirst ?_
          have hname : entry.1 = field.1 := by simpa using he
          exact hname ▸ List.mem_map_of_mem hentry
        rw [List.filter_cons_of_pos (by simp), hnone]
      · have hne : first.1 ≠ field.1 := fun he => hfirst (he ▸ List.mem_map_of_mem hmem)
        rw [List.filter_cons_of_neg (by simpa using hne), ih hrest hmem]
  rw [field?, List.filter_map]
  simp only [Function.comp_def, hfilter]
  rfl

/-- A record with different field names is found again in its object. -/
theorem record?_ofFields {names : List String} {fields : List (String × Json)}
    (hnames : names.Nodup) (hfields : fields.map Prod.fst = names) :
    record? names (ofFields fields) = some (fields.map fun field => some field.2) := by
  subst hfields
  rw [ofFields, record?, if_pos (by simp), List.mapM_map]
  exact mapM_eq_some_map fun field hmem => field?_of_mem hnames hmem

theorem double?_ofDouble {x : Double} (h : x.isFinite) : (ofDouble x).double? = some x := by
  rw [ofDouble, if_pos h, double?, finite?, DecimalForm.read?_write _ h, Option.filter_some,
    if_pos h]

/-! ### Numbers are written as numerals -/

theorem hasNumerals_array {items : List Json} (h : ∀ item ∈ items, item.HasNumerals) :
    (Json.array items).HasNumerals := by
  rw [HasNumerals]
  induction items with
  | nil => trivial
  | cons item items ih =>
    exact ⟨h item List.mem_cons_self, ih fun i hi => h i (List.mem_cons_of_mem _ hi)⟩

theorem hasNumerals_ofFields {fields : List (String × Json)}
    (h : ∀ field ∈ fields, field.2.HasNumerals) : (ofFields fields).HasNumerals := by
  rw [ofFields, HasNumerals]
  induction fields with
  | nil => trivial
  | cons field fields ih =>
    exact ⟨h field List.mem_cons_self, ih fun f hf => h f (List.mem_cons_of_mem _ hf)⟩

theorem hasNumerals_ofDouble (x : Double) : (ofDouble x).HasNumerals := by
  rw [ofDouble]
  split_ifs
  · exact isNumeral_write numberForm x
  · trivial

theorem hasNumerals_ofText (text : String) : (ofText text).HasNumerals := trivial

end Json

/-! ### Parameter values -/

namespace Value

theorem hasNumerals_toJson (v : Value) : v.toJson.HasNumerals := by
  cases v with
  | bool b => trivial
  | int i => exact Json.isNumeral_toString i.toInt
  | float x => exact Json.hasNumerals_ofDouble x
  | text s => trivial

theorem exactInt?_toString (i : Int64) : exactInt? (toString i.toInt).toList = some i := by
  have hmin := i.minValue_le_toInt
  have hmax := i.toInt_le
  simp only [exactInt?, Text.toList_toString, Text.readInt?_signed, hmin, hmax, decide_true,
    Bool.and_self, if_true, Int64.ofInt_toInt]

theorem toString_ne_negativeZero (i : Int) : toString i ≠ "-0" := by
  intro h
  have hread := Text.readInt?_signed false i
  rw [← Text.toList_toString, h] at hread
  have hzero : i = 0 := (Option.some.inj hread).symm
  subst hzero
  exact absurd h (by decide)

/-- A floating-point number is not written as an integer. -/
theorem exactInt?_write (x : Double) : exactInt? (Json.numberForm.write x).toList = none := by
  obtain ⟨n, htext, -, hmarked⟩ := Json.numberForm.spells_layout (x.shortest Json.numberForm.tie)
  obtain ⟨hplain, hminus⟩ := n.readInt?_text (hmarked rfl)
  have hread : Text.readInt? (Json.numberForm.write x).toList = none := by
    rw [DecimalForm.write, String.toList_ofList, ← htext]
    cases x.negative with
    | true => exact hminus
    | false => exact hplain
  rw [exactInt?, hread]

theorem ofJson?_toJson {v : Value} (h : v.isFinite) : ofJson? v.toJson = some v := by
  cases v with
  | bool b => rfl
  | int i =>
    have hne := toString_ne_negativeZero i.toInt
    simp only [toJson, ofJson?, if_neg hne, exactInt?_toString]
  | float x =>
    -- The point or exponent keeps the number from being taken for an integer.
    have hfinite : x.isFinite := h
    have hdouble := Json.double?_ofDouble hfinite
    rw [Json.ofDouble, if_pos hfinite, Json.double?] at hdouble
    simp [toJson, Json.ofDouble, hfinite, ofJson?, exactInt?_write, hdouble]
  | text s => rfl

end Value

/-! ### Records -/

theorem Point.ofJson?_toJson {p : Point} (h : p.isFinite) : Point.ofJson? p.toJson = some p := by
  obtain ⟨hx, hy⟩ := Bool.and_eq_true_iff.1 h
  have hrecord : p.toJson.record? ["x", "y"] = some [some (.ofDouble p.x), some (.ofDouble p.y)] :=
    Json.record?_ofFields (by decide) rfl
  simp [Point.ofJson?, hrecord, Json.needed, Json.double?_ofDouble hx, Json.double?_ofDouble hy]

theorem Point.hasNumerals_toJson (p : Point) : p.toJson.HasNumerals := by
  refine Json.hasNumerals_ofFields ?_
  simp [Json.hasNumerals_ofDouble]

theorem Parameters.hasNumerals_toJson (parameters : Parameters) :
    parameters.toJson.HasNumerals :=
  Json.hasNumerals_ofFields (List.forall_mem_map.2 fun entry _ => entry.2.hasNumerals_toJson)

theorem Parameters.ofJson?_toJson {parameters : Parameters}
    (h : ∀ entry ∈ parameters.entries, entry.2.isFinite = true) :
    Parameters.ofJson? parameters.toJson = some parameters := by
  have hread : ∀ entry ∈ parameters.entries,
      ((Value.ofJson? entry.2.toJson).bind fun value => some (entry.1, value)) = some entry := by
    intro entry hentry
    rw [Value.ofJson?_toJson (h entry hentry), Option.bind_some]
  have hbindings := Json.mapM_eq_some_map hread
  rw [List.map_id'] at hbindings
  simp [Parameters.toJson, Json.ofFields, Parameters.ofJson?, Function.comp_def, hbindings,
    SortedMap.ofList_entries]

/-- All floating-point numbers of the record are finite. -/
def NodeRecord.IsFinite (record : NodeRecord) : Prop :=
  record.position.isFinite = true ∧ ∀ entry ∈ record.parameters.entries, entry.2.isFinite = true

instance (record : NodeRecord) : Decidable record.IsFinite :=
  inferInstanceAs (Decidable (_ ∧ ∀ entry ∈ record.parameters.entries, entry.2.isFinite = true))

theorem NodeRecord.hasNumerals_toJson (record : NodeRecord) : record.toJson.HasNumerals := by
  refine Json.hasNumerals_ofFields ?_
  simp [Json.hasNumerals_ofText, record.position.hasNumerals_toJson,
    Parameters.hasNumerals_toJson]

theorem NodeRecord.ofJson?_toJson {record : NodeRecord} (h : record.IsFinite) :
    NodeRecord.ofJson? record.toJson = some record := by
  have hrecord : record.toJson.record? ["node_id", "node_type", "position", "parameters"] =
      some [some (.ofText record.id), some (.ofText record.type), some record.position.toJson,
        some record.parameters.toJson] :=
    Json.record?_ofFields (by decide) rfl
  simp [NodeRecord.ofJson?, hrecord, Json.needed, Json.orElse, Json.text?, Json.ofText,
    Point.ofJson?_toJson h.1, Parameters.ofJson?_toJson h.2]

theorem ConnectionRecord.hasNumerals_toJson (record : ConnectionRecord) :
    record.toJson.HasNumerals := by
  refine Json.hasNumerals_ofFields ?_
  simp [Json.hasNumerals_ofText]

theorem ConnectionRecord.ofJson?_toJson (record : ConnectionRecord) :
    ConnectionRecord.ofJson? record.toJson = some record := by
  have hrecord : record.toJson.record?
        ["source_node", "source_port", "target_node", "target_port"] =
      some [some (.ofText record.sourceNode), some (.ofText record.sourcePort),
        some (.ofText record.targetNode), some (.ofText record.targetPort)] :=
    Json.record?_ofFields (by decide) rfl
  simp [ConnectionRecord.ofJson?, hrecord, Json.needed, Json.text?, Json.ofText]

/-! ### Documents -/

namespace Document

/-- All floating-point numbers of the document are finite. -/
def IsFinite (document : Document) : Prop := ∀ record ∈ document.nodes, record.IsFinite

instance (document : Document) : Decidable document.IsFinite :=
  inferInstanceAs (Decidable (∀ record ∈ document.nodes, record.IsFinite))

theorem ofJson?_toJson {document : Document} (h : document.IsFinite) :
    ofJson? document.toJson = some document := by
  have hrecord : document.toJson.record? ["nodes", "connections"] =
      some [some (.array (document.nodes.map NodeRecord.toJson)),
        some (.array (document.connections.map ConnectionRecord.toJson))] :=
    Json.record?_ofFields (by decide) rfl
  have hnodes := Json.list?_map fun record hrecord => NodeRecord.ofJson?_toJson (h record hrecord)
  have hconnections := Json.list?_map (l := document.connections) fun record _ =>
    record.ofJson?_toJson
  simp [ofJson?, hrecord, Json.orElse, hnodes, hconnections]

theorem hasNumerals_toJson (document : Document) : document.toJson.HasNumerals := by
  have hnodes := Json.hasNumerals_array
    (List.forall_mem_map.2 fun record (_ : record ∈ document.nodes) => record.hasNumerals_toJson)
  have hconnections := Json.hasNumerals_array (List.forall_mem_map.2
    fun record (_ : record ∈ document.connections) => record.hasNumerals_toJson)
  refine Json.hasNumerals_ofFields ?_
  simp [hnodes, hconnections]

/-- **A document is restored exactly from its text**, if its floating-point numbers are finite: all
records in order, every text whatever its characters, and every parameter with its kind.  So storing
it again gives the same text. -/
theorem parse_render {document : Document} (h : document.IsFinite) :
    parse? document.render = some document ∧
      (parse? document.render).map render = some document.render := by
  have hparse : parse? document.render = some document := by
    rw [parse?, render, Json.pretty,
      Json.parse?_write Json.Layout.addsBlanks_indented document.hasNumerals_toJson,
      Option.bind_some, ofJson?_toJson h]
  exact ⟨hparse, by rw [hparse, Option.map_some]⟩

end Document

/-! ### A document with awkward contents -/

namespace Sample

/-- Ids with control characters, quotes and characters beyond the first plane, the integers at both
ends, and numbers that are hard to write: a negative zero, the least and the greatest positive
number, a whole number and one with a periodic fraction. -/
def awkward : Document where
  nodes :=
    [⟨"", "\"\\/\x00\x1f\x7f", ⟨⟨true, 0, by decide⟩, ⟨false, 1, by decide⟩⟩, .ofList
        [("\t", .int Int64.minValue), ("b", .int Int64.maxValue), ("a", .bool true),
          ("", .text "-0.0"), ("é😀", .float ⟨true, 0, by decide⟩)]⟩,
      ⟨"\ud7ff\ue000\u2028", "x", ⟨.ofInt 1, ⟨true, 0x7FEFFFFFFFFFFFFF, by decide⟩⟩, .ofList
        [("whole", .float (.ofInt 3)), ("third", .float (.ofQuotient true 1 3)),
          ("large", .float (.ofInt 10000000000000000))]⟩,
      ⟨"e", "", {}, .empty⟩]
  connections := [⟨"", "\n", "e", "\x08\x0c"⟩]

end Sample

theorem Document.awkward_restored : Sample.awkward.IsFinite ∧
    parse? Sample.awkward.render = some Sample.awkward ∧
      (parse? Sample.awkward.render).map render = some Sample.awkward.render :=
  have hfinite : Sample.awkward.IsFinite := by decide +kernel
  ⟨hfinite, parse_render hfinite⟩

end Blueprint
