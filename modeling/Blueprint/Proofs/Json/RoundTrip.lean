import Blueprint.Proofs.Json.Tokens

/-!
# Written JSON reads back

A layout puts nothing but blanks around tokens, so the reader skips what the writer adds.  The
reader's step allowance is measured against the written text: two steps for each character are
enough for a value (`Reads`), and one more for the items of an array or the fields of an object
(`ReadsItems`, `ReadsFields`).

Main statement: in every layout that adds only blanks, the text of a value whose numbers are
numerals reads back as the value (`parse?_write`).
-/

namespace Blueprint

namespace Json

/-! ### Blanks -/

/-- The text consists of blanks. -/
def IsBlank (text : List Char) : Prop := ∀ c ∈ text, isSpace c = true

/-- A layout that adds only blanks. -/
structure Layout.AddsBlanks (layout : Layout) : Prop where
  /-- Blanks stand before an item. -/
  lineBreak : ∀ level, IsBlank (layout.lineBreak level)
  /-- A colon and blanks stand between a key and its value. -/
  colon : ∃ blanks, layout.colon = ':' :: blanks ∧ IsBlank blanks

theorem Layout.addsBlanks_indented : Layout.indented.AddsBlanks where
  lineBreak level := by
    intro c hc
    rcases List.mem_cons.1 hc with rfl | hc
    · rfl
    · rw [List.eq_of_mem_replicate hc]
      rfl
  colon := ⟨[' '], rfl, by simp [IsBlank, isSpace]⟩

theorem skipSpace_append {blanks : List Char} (h : IsBlank blanks) (text : List Char) :
    skipSpace (blanks ++ text) = skipSpace text :=
  List.dropWhile_append_of_pos h

theorem skipSpace_cons {c : Char} (h : isSpace c = false) (rest : List Char) :
    skipSpace (c :: rest) = c :: rest := by
  simp [skipSpace, h]

theorem skipSpace_blanks_cons {blanks : List Char} (h : IsBlank blanks) {c : Char}
    (hc : isSpace c = false) (rest : List Char) : skipSpace (blanks ++ c :: rest) = c :: rest := by
  rw [skipSpace_append h, skipSpace_cons hc]

theorem endsNumber_blanks {blanks : List Char} (h : IsBlank blanks) {text : List Char}
    (htext : EndsNumber text) : EndsNumber (blanks ++ text) := by
  cases blanks with
  | nil => exact htext
  | cons c blanks =>
    have hc : isSpace c = true := h c List.mem_cons_self
    refine endsNumber_cons ?_ _
    simp only [isSpace, Bool.or_eq_true, decide_eq_true_eq] at hc
    rcases hc with ((rfl | rfl) | rfl) | rfl <;> decide

theorem readValue_blanks {blanks : List Char} (h : IsBlank blanks) (steps : Nat)
    (text : List Char) : readValue steps (blanks ++ text) = readValue steps text := by
  cases steps with
  | zero => rfl
  | succ steps => rw [readValue, readValue, skipSpace_append h]

theorem readItems_blanks {blanks : List Char} (h : IsBlank blanks) (steps : Nat)
    (text : List Char) : readItems steps (blanks ++ text) = readItems steps text := by
  cases steps with
  | zero => rfl
  | succ steps => rw [readItems, readItems, readValue_blanks h]

theorem readFields_blanks {blanks : List Char} (h : IsBlank blanks) (steps : Nat)
    (text : List Char) : readFields steps (blanks ++ text) = readFields steps text := by
  cases steps with
  | zero => rfl
  | succ steps => rw [readFields, readFields, skipSpace_append h]

/-! ### Values whose numbers are numerals -/

mutual

/-- Every number in the value is a numeral. -/
def HasNumerals : Json → Prop
  | .number numeral => IsNumeral numeral
  | .array items => ItemsHaveNumerals items
  | .object fields => FieldsHaveNumerals fields
  | _ => True

/-- Every number in the values of a list is a numeral. -/
def ItemsHaveNumerals : List Json → Prop
  | [] => True
  | item :: rest => HasNumerals item ∧ ItemsHaveNumerals rest

/-- Every number in the values of a list of fields is a numeral. -/
def FieldsHaveNumerals : List (Spelled × Json) → Prop
  | [] => True
  | (_, value) :: rest => HasNumerals value ∧ FieldsHaveNumerals rest

end

/-- The character starts a number. -/
def StartsNumber (c : Char) : Prop := c = '-' ∨ c.isDigit = true

theorem StartsNumber.ne {c d : Char} (hc : StartsNumber c) (hd : d.isDigit = false ∧ d ≠ '-') :
    c ≠ d := by
  rintro rfl
  rcases hc with hc | hc
  · exact hd.2 hc
  · rw [hd.1] at hc
    cases hc

theorem StartsNumber.isSpace_eq_false {c : Char} (hc : StartsNumber c) : isSpace c = false := by
  have hspace := hc.ne (d := ' ') (by decide)
  have htab := hc.ne (d := '\t') (by decide)
  have hnewline := hc.ne (d := '\n') (by decide)
  have hreturn := hc.ne (d := '\r') (by decide)
  simp [isSpace, hspace, htab, hnewline, hreturn]

theorem IsNumeral.exists_cons {text : String} (h : IsNumeral text) :
    ∃ c rest, text.toList = c :: rest ∧ StartsNumber c := by
  obtain ⟨negative, n, hn⟩ := h
  rw [hn]
  cases negative with
  | true => exact ⟨'-', n.text, rfl, .inl rfl⟩
  | false =>
    obtain ⟨c, rest, htext, hc⟩ := n.exists_text_eq_cons
    exact ⟨c, rest, htext, .inr hc⟩

/-- A written value starts with neither a blank nor a closing bracket. -/
theorem exists_write_eq_cons (layout : Layout) (level : Nat) {json : Json} (h : json.HasNumerals) :
    ∃ c rest, json.write layout level = c :: rest ∧ isSpace c = false ∧ c ≠ ']' := by
  match json with
  | .null => exact ⟨_, _, rfl, by decide⟩
  | .bool true => exact ⟨_, _, rfl, by decide⟩
  | .bool false => exact ⟨_, _, rfl, by decide⟩
  | .number numeral =>
    have h : IsNumeral numeral := h
    obtain ⟨c, rest, htext, hc⟩ := h.exists_cons
    exact ⟨c, rest, htext, hc.isSpace_eq_false, hc.ne (by decide)⟩
  | .string spelled =>
    obtain ⟨body, hbody, -⟩ := readString_writeText spelled
    exact ⟨_, _, hbody, by decide⟩
  | .array [] => exact ⟨_, _, rfl, by decide⟩
  | .array (item :: rest) => exact ⟨'[', _, by rw [write]; rfl, by decide⟩
  | .object [] => exact ⟨_, _, rfl, by decide⟩
  | .object ((key, value) :: rest) => exact ⟨'\x7b', _, by rw [write]; rfl, by decide⟩

/-! ### One step of the reader -/

theorem readValue_number {c : Char} (hc : StartsNumber c) (steps : Nat) (rest : List Char) :
    readValue (steps + 1) (c :: rest) =
      (scanNumber (c :: rest)).map fun (numeral, rest) =>
        (.number (String.ofList numeral), rest) := by
  rw [readValue, skipSpace_cons hc.isSpace_eq_false]
  split
  case h_1 h => cases h; exact absurd rfl (hc.ne (by decide))
  case h_2 h => cases h; exact absurd rfl (hc.ne (by decide))
  case h_3 h => cases h; exact absurd rfl (hc.ne (by decide))
  case h_4 h => cases h; exact absurd rfl (hc.ne (by decide))
  case h_5 h => cases h; exact absurd rfl (hc.ne (by decide))
  case h_6 h => cases h; exact absurd rfl (hc.ne (by decide))
  case h_7 => rfl

theorem readValue_string {body rest : List Char} {spelled : Spelled}
    (h : readString body = some (spelled, rest)) (steps : Nat) :
    readValue (steps + 1) ('"' :: body) = some (.string spelled, rest) := by
  rw [readValue, skipSpace_cons (by decide)]
  simp [h]

theorem readValue_array {text rest : List Char} {c : Char} {tail : List Char} {items : List Json}
    {steps : Nat} (hskip : skipSpace text = c :: tail) (hc : c ≠ ']')
    (hitems : readItems steps (c :: tail) = some (items, rest)) :
    readValue (steps + 1) ('[' :: text) = some (.array items, rest) := by
  rw [readValue, skipSpace_cons (by decide)]
  simp [hskip, hc, hitems]

theorem readValue_object {text rest : List Char} {c : Char} {tail : List Char}
    {fields : List (Spelled × Json)} {steps : Nat} (hskip : skipSpace text = c :: tail)
    (hc : c ≠ '\x7d') (hfields : readFields steps (c :: tail) = some (fields, rest)) :
    readValue (steps + 1) ('\x7b' :: text) = some (.object fields, rest) := by
  rw [readValue, skipSpace_cons (by decide)]
  simp [hskip, hc, hfields]

theorem readItems_last {text rest tail : List Char} {item : Json} {steps : Nat}
    (hitem : readValue steps text = some (item, rest)) (hskip : skipSpace rest = ']' :: tail) :
    readItems (steps + 1) text = some ([item], tail) := by
  rw [readItems, hitem]
  simp [hskip]

theorem readItems_more {text rest tail tail' : List Char} {item : Json} {items : List Json}
    {steps : Nat} (hitem : readValue steps text = some (item, rest))
    (hskip : skipSpace rest = ',' :: tail) (hitems : readItems steps tail = some (items, tail')) :
    readItems (steps + 1) text = some (item :: items, tail') := by
  rw [readItems, hitem]
  simp [hskip, hitems]

theorem readFields_last {text body colon value rest tail : List Char} {key : Spelled}
    {json : Json} {steps : Nat} (hquote : skipSpace text = '"' :: body)
    (hkey : readString body = some (key, colon)) (hcolon : skipSpace colon = ':' :: value)
    (hvalue : readValue steps value = some (json, rest)) (hskip : skipSpace rest = '\x7d' :: tail) :
    readFields (steps + 1) text = some ([(key, json)], tail) := by
  rw [readFields, hquote]
  simp [hkey, hcolon, hvalue, hskip]

theorem readFields_more {text body colon value rest tail tail' : List Char} {key : Spelled}
    {json : Json} {fields : List (Spelled × Json)} {steps : Nat}
    (hquote : skipSpace text = '"' :: body) (hkey : readString body = some (key, colon))
    (hcolon : skipSpace colon = ':' :: value) (hvalue : readValue steps value = some (json, rest))
    (hskip : skipSpace rest = ',' :: tail)
    (hfields : readFields steps tail = some (fields, tail')) :
    readFields (steps + 1) text = some ((key, json) :: fields, tail') := by
  rw [readFields, hquote]
  simp [hkey, hcolon, hvalue, hskip, hfields]

/-! ### Values, items and fields -/

/-- The value reads back at every level, before everything that does not continue a number. -/
def Reads (layout : Layout) (json : Json) : Prop :=
  ∀ level steps rest, EndsNumber rest → 2 * (json.write layout level).length ≤ steps →
    readValue steps (json.write layout level ++ rest) = some (json, rest)

/-- The items read back behind their first comma, up to a closing bracket. -/
def ReadsItems (layout : Layout) (items : List Json) : Prop :=
  ∀ level steps text blanks rest, writeItems layout level items = ',' :: text → IsBlank blanks →
    2 * text.length + 1 ≤ steps →
    readItems steps (text ++ (blanks ++ ']' :: rest)) = some (items, rest)

/-- The fields read back behind their first comma, up to a closing brace. -/
def ReadsFields (layout : Layout) (fields : List (Spelled × Json)) : Prop :=
  ∀ level steps text blanks rest, writeFields layout level fields = ',' :: text → IsBlank blanks →
    2 * text.length + 1 ≤ steps →
    readFields steps (text ++ (blanks ++ '\x7d' :: rest)) = some (fields, rest)

/-- What follows the items written so far does not continue a number. -/
theorem endsNumber_writeItems (layout : Layout) (level : Nat) (items : List Json)
    {rest : List Char} (hrest : EndsNumber rest) :
    EndsNumber (writeItems layout level items ++ rest) := by
  cases items with
  | nil => exact hrest
  | cons item items =>
    rw [writeItems]
    exact endsNumber_cons (by decide) _

theorem endsNumber_writeFields (layout : Layout) (level : Nat) (fields : List (Spelled × Json))
    {rest : List Char} (hrest : EndsNumber rest) :
    EndsNumber (writeFields layout level fields ++ rest) := by
  cases fields with
  | nil => exact hrest
  | cons field fields =>
    rw [writeFields]
    exact endsNumber_cons (by decide) _

theorem writeItems_cons (layout : Layout) (level : Nat) (item : Json) (items : List Json) :
    writeItems layout level (item :: items) = ',' :: (layout.lineBreak level ++
      (item.write layout level ++ writeItems layout level items)) := by
  simp [writeItems]

theorem writeFields_cons (layout : Layout) (level : Nat) (key : Spelled) (value : Json)
    (fields : List (Spelled × Json)) :
    writeFields layout level ((key, value) :: fields) = ',' :: (layout.lineBreak level ++
      (writeText key ++ (layout.colon ++
        (value.write layout level ++ writeFields layout level fields)))) := by
  simp [writeFields]

variable {layout : Layout}

/-- A value that is read in one step reads back. -/
theorem reads_of_step {json : Json} (hne : ∀ level, json.write layout level ≠ [])
    (hstep : ∀ level steps rest, EndsNumber rest →
      readValue (steps + 1) (json.write layout level ++ rest) = some (json, rest)) :
    Reads layout json := by
  intro level steps rest hrest hsteps
  have hlength := List.length_pos_iff.2 (hne level)
  obtain ⟨steps, rfl⟩ := Nat.exists_eq_add_one_of_ne_zero (n := steps) (by omega)
  exact hstep level steps rest hrest

theorem reads_number {numeral : String} (h : IsNumeral numeral) :
    Reads layout (.number numeral) := by
  obtain ⟨c, tail, htext, hc⟩ := h.exists_cons
  refine reads_of_step (fun level => by simp [write, htext]) fun level steps rest hrest => ?_
  have hscan := scanNumber_of_isNumeral h hrest
  rw [htext, List.cons_append] at hscan
  rw [write, htext, List.cons_append, readValue_number hc, hscan, ← htext]
  simp

theorem reads_string (spelled : Spelled) : Reads layout (.string spelled) := by
  obtain ⟨body, hbody, hread⟩ := readString_writeText spelled
  refine reads_of_step (fun level => by simp [write, hbody]) fun level steps rest _ => ?_
  rw [write, hbody]
  exact readValue_string (hread rest) steps

theorem ReadsItems.array (hlayout : layout.AddsBlanks) {item : Json} {items : List Json}
    (hnumerals : item.HasNumerals) (h : ReadsItems layout (item :: items)) :
    Reads layout (.array (item :: items)) := by
  intro level steps rest _ hsteps
  have hwrite : write layout level (.array (item :: items)) ++ rest =
      '[' :: (layout.lineBreak (level + 1) ++ (item.write layout (level + 1) ++
        (writeItems layout (level + 1) items ++ (layout.lineBreak level ++ ']' :: rest)))) := by
    simp [write]
  have hlength := congrArg List.length hwrite
  simp only [List.length_append, List.length_cons] at hlength
  obtain ⟨steps, rfl⟩ := Nat.exists_eq_add_one_of_ne_zero (n := steps) (by omega)
  have hblanks := hlayout.lineBreak (level + 1)
  have hitems := h (level + 1) steps _ (layout.lineBreak level) rest
    (writeItems_cons layout (level + 1) item items) (hlayout.lineBreak level)
    (by simp only [List.length_append]; omega)
  -- The reader skips the blanks before it looks for the first item.
  obtain ⟨c, tail, htext, hspace, hc⟩ := exists_write_eq_cons layout (level + 1) hnumerals
  rw [List.append_assoc, readItems_blanks hblanks, List.append_assoc, htext] at hitems
  rw [hwrite, htext]
  exact readValue_array (skipSpace_blanks_cons hblanks hspace _) hc hitems

theorem ReadsFields.object (hlayout : layout.AddsBlanks) {key : Spelled} {value : Json}
    {fields : List (Spelled × Json)} (h : ReadsFields layout ((key, value) :: fields)) :
    Reads layout (.object ((key, value) :: fields)) := by
  intro level steps rest _ hsteps
  have hwrite : write layout level (.object ((key, value) :: fields)) ++ rest =
      '\x7b' :: (layout.lineBreak (level + 1) ++ (writeText key ++ (layout.colon ++
        (value.write layout (level + 1) ++ (writeFields layout (level + 1) fields ++
          (layout.lineBreak level ++ '\x7d' :: rest)))))) := by
    simp [write]
  have hlength := congrArg List.length hwrite
  simp only [List.length_append, List.length_cons] at hlength
  obtain ⟨steps, rfl⟩ := Nat.exists_eq_add_one_of_ne_zero (n := steps) (by omega)
  have hblanks := hlayout.lineBreak (level + 1)
  have hfields := h (level + 1) steps _ (layout.lineBreak level) rest
    (writeFields_cons layout (level + 1) key value fields) (hlayout.lineBreak level)
    (by simp only [List.length_append]; omega)
  -- The first key shows at once that the object does not end here.
  obtain ⟨body, hbody, -⟩ := readString_writeText key
  simp only [List.append_assoc] at hfields
  rw [readFields_blanks hblanks, hbody] at hfields
  rw [hwrite, hbody]
  exact readValue_object (skipSpace_blanks_cons hblanks rfl _) (by decide) hfields

theorem ReadsItems.cons (hlayout : layout.AddsBlanks) {item : Json} {items : List Json}
    (hitem : Reads layout item) (hitems : ReadsItems layout items) :
    ReadsItems layout (item :: items) := by
  intro level steps text blanks rest htext hblanks hsteps
  rw [writeItems_cons] at htext
  cases htext
  simp only [List.length_append] at hsteps
  -- This step reads one item.  The step that it takes from the items after it is made good by
  -- their comma.
  obtain ⟨steps, rfl⟩ := Nat.exists_eq_add_one_of_ne_zero (n := steps) (by omega)
  have hends : EndsNumber (blanks ++ ']' :: rest) :=
    endsNumber_blanks hblanks (endsNumber_cons (by decide) _)
  have hfirst := hitem level steps _ (endsNumber_writeItems layout level items hends) (by omega)
  rw [List.append_assoc, readItems_blanks (hlayout.lineBreak level), List.append_assoc]
  cases items with
  | nil => exact readItems_last hfirst (skipSpace_blanks_cons hblanks rfl _)
  | cons next items =>
    have hnext := writeItems_cons layout level next items
    rw [hnext] at hfirst hsteps ⊢
    simp only [List.length_cons, List.length_append] at hsteps
    have hrest := hitems level steps _ blanks rest hnext hblanks
      (by simp only [List.length_append]; omega)
    exact readItems_more hfirst (skipSpace_cons rfl _) hrest

theorem ReadsFields.cons (hlayout : layout.AddsBlanks) {key : Spelled} {value : Json}
    {fields : List (Spelled × Json)} (hvalue : Reads layout value)
    (hfields : ReadsFields layout fields) : ReadsFields layout ((key, value) :: fields) := by
  intro level steps text blanks rest htext hblanks hsteps
  rw [writeFields_cons] at htext
  cases htext
  simp only [List.length_append] at hsteps
  obtain ⟨steps, rfl⟩ := Nat.exists_eq_add_one_of_ne_zero (n := steps) (by omega)
  obtain ⟨body, hbody, hkey⟩ := readString_writeText key
  obtain ⟨spaces, hcolon, hspaces⟩ := hlayout.colon
  have hends : EndsNumber (blanks ++ '\x7d' :: rest) :=
    endsNumber_blanks hblanks (endsNumber_cons (by decide) _)
  have hfirst := hvalue level steps _ (endsNumber_writeFields layout level fields hends) (by omega)
  rw [← readValue_blanks hspaces] at hfirst
  simp only [List.append_assoc]
  rw [readFields_blanks (hlayout.lineBreak level), hbody, hcolon]
  cases fields with
  | nil =>
    exact readFields_last (skipSpace_cons rfl _) (hkey _) (skipSpace_cons rfl _) hfirst
      (skipSpace_blanks_cons hblanks rfl _)
  | cons next fields =>
    obtain ⟨nextKey, nextValue⟩ := next
    have hnext := writeFields_cons layout level nextKey nextValue fields
    rw [hnext] at hfirst hsteps ⊢
    simp only [List.length_cons, List.length_append] at hsteps
    have hrest := hfields level steps _ blanks rest hnext hblanks
      (by simp only [List.length_append]; omega)
    exact readFields_more (skipSpace_cons rfl _) (hkey _) (skipSpace_cons rfl _) hfirst
      (skipSpace_cons rfl _) hrest

-- The recursion is the writer's: over the value, and over the items and fields after a comma.
mutual

theorem reads_of_hasNumerals (hlayout : layout.AddsBlanks) :
    ∀ json : Json, json.HasNumerals → Reads layout json
  | .null, _ => reads_of_step (fun _ => by simp [write]) fun _ _ _ _ => rfl
  | .bool true, _ => reads_of_step (fun _ => by simp [write]) fun _ _ _ _ => rfl
  | .bool false, _ => reads_of_step (fun _ => by simp [write]) fun _ _ _ _ => rfl
  | .number _, h => reads_number h
  | .string spelled, _ => reads_string spelled
  | .array [], _ => reads_of_step (fun _ => by simp [write]) fun _ _ _ _ => rfl
  | .array (item :: items), h =>
    ReadsItems.array hlayout h.1 (readsItems_of_haveNumerals hlayout (item :: items) h)
  | .object [], _ => reads_of_step (fun _ => by simp [write]) fun _ _ _ _ => rfl
  | .object ((key, value) :: fields), h =>
    ReadsFields.object hlayout (readsFields_of_haveNumerals hlayout ((key, value) :: fields) h)

theorem readsItems_of_haveNumerals (hlayout : layout.AddsBlanks) :
    ∀ items : List Json, ItemsHaveNumerals items → ReadsItems layout items
  | [], _ => by rintro _ _ _ _ _ ⟨⟩
  | item :: items, h =>
    .cons hlayout (reads_of_hasNumerals hlayout item h.1)
      (readsItems_of_haveNumerals hlayout items h.2)

theorem readsFields_of_haveNumerals (hlayout : layout.AddsBlanks) :
    ∀ fields : List (Spelled × Json), FieldsHaveNumerals fields → ReadsFields layout fields
  | [], _ => by rintro _ _ _ _ _ ⟨⟩
  | (_, value) :: fields, h =>
    .cons hlayout (reads_of_hasNumerals hlayout value h.1)
      (readsFields_of_haveNumerals hlayout fields h.2)

end

/-- **The written text of a value reads back as the value**, in every layout that adds only
blanks. -/
theorem parse?_write (hlayout : layout.AddsBlanks) {json : Json} (h : json.HasNumerals) :
    parse? (String.ofList (json.write layout 0)) = some json := by
  have hread := reads_of_hasNumerals hlayout json h 0
    (2 * (json.write layout 0).length + 2) [] (by rintro _ ⟨⟩) (by omega)
  rw [List.append_nil] at hread
  simp [parse?, hread, skipSpace]

end Json

end Blueprint
