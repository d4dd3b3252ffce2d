import Blueprint.Catalog.Builtin
import Blueprint.Proofs.VariableNames
import Blueprint.Proofs.WellFormed

/-!
# Variables that two nodes share

In a variable an underscore ends the tag, and an underscore starts an escape within the id.  Where
the tag of one node is that of another with one more word, the tag can therefore take in the
beginning of the other id: the word, and the underscore of an escape.  What is left of the escape,
its two digits, is then the beginning of an id of letters and digits.

An escaped id is read from the left.  Letters and digits in front stand for themselves
(`Node.escapeId_eq_append_iff`), and what follows an underscore is an escaped id again only if the
underscore starts the escape of an ASCII character (`Node.escapeId_eq_underscore_iff`): the second
byte of a longer encoding is not the beginning of a text.

* `Graph.variableName_eq_iff` : over the built-in catalog, **two nodes share their variables exactly
  if the tag of one takes in the beginning of the other's id**.
* `Graph.selling_shared` : there are such nodes.
-/

namespace Blueprint

namespace Text

theorem isFirstByte_of_head? {text : List Char} {byte : UInt8}
    (h : (text.flatMap String.utf8EncodeChar).head? = some byte) : byte.IsUTF8FirstByte := by
  cases text with
  | nil => cases h
  | cons c rest =>
    rw [List.flatMap_cons, List.head?_append_of_ne_nil _ String.utf8EncodeChar_ne_nil,
      List.head?_eq_getElem?, List.getElem?_eq_some_iff] at h
    obtain ⟨_, hbyte⟩ := h
    rw [← hbyte, UInt8.isUTF8FirstByte_getElem_utf8EncodeChar]

theorem not_isFirstByte_of_second {c : Char} {first byte : UInt8} {rest : List UInt8}
    (h : String.utf8EncodeChar c = first :: byte :: rest) : ¬byte.IsUTF8FirstByte := by
  have hsecond : (String.utf8EncodeChar c)[1]? = some byte := by rw [h]; rfl
  obtain ⟨_, hbyte⟩ := List.getElem?_eq_some_iff.1 hsecond
  rw [← hbyte, UInt8.isUTF8FirstByte_getElem_utf8EncodeChar]
  exact Nat.one_ne_zero

theorem utf8EncodeChar_eq_singleton_iff {c : Char} {byte : UInt8} :
    String.utf8EncodeChar c = [byte] ↔ c.toNat < 128 ∧ byte.toNat = c.toNat := by
  rw [String.utf8EncodeChar]
  by_cases hsmall : c.val.toNat ≤ 0x7f
  · have hvalue : (UInt8.ofNat c.val.toNat).toNat = c.toNat :=
      Node.toNat_byte_ofNat (by omega)
    simp only [hsmall, if_true, List.cons.injEq, and_true]
    rw [← UInt8.toNat_inj, hvalue]
    exact ⟨fun h => ⟨Nat.lt_succ_of_le hsmall, h.symm⟩, fun h => h.2.symm⟩
  · have hlarge : ¬c.toNat < 128 := fun h => hsmall (Nat.le_of_lt_succ h)
    simp only [hsmall, if_false, hlarge, false_and, iff_false]
    split_ifs <;> simp

end Text

namespace Node

/-! ### Escaped ids from the left -/

theorem isPlain_of_mem_hexDigits {width n : Nat} :
    ∀ c ∈ Text.hexDigits width n, isPlain c = true := fun _ => Text.isAlphanum_of_mem_hexDigits

/-- The escape of a character is its underscore and the digits of the first byte, and the escapes of
further bytes. -/
theorem escapeChar_of_not_isPlain {c : Char} (h : isPlain c = false) :
    ∃ byte rest, String.utf8EncodeChar c = byte :: rest ∧
      escapeChar c = '_' :: (Text.hexDigits 2 byte.toNat ++ rest.flatMap escapeByte) := by
  obtain ⟨byte, rest, hbytes⟩ := List.exists_cons_of_ne_nil (String.utf8EncodeChar_ne_nil (c := c))
  refine ⟨byte, rest, hbytes, ?_⟩
  rw [escapeChar, h, hbytes]
  rfl

theorem escapeId_cons (c : Char) (id : List Char) :
    escapeId (c :: id) = escapeChar c ++ escapeId id := List.flatMap_cons

theorem escapeId_eq_cons_iff {p : Char} (hp : isPlain p = true) {id rest : List Char} :
    escapeId id = p :: rest ↔ ∃ tail, id = p :: tail ∧ escapeId tail = rest := by
  cases id with
  | nil => simp [escapeId]
  | cons c tail =>
    rw [escapeId_cons]
    cases hc : isPlain c with
    | true => simp [escapeChar, hc]
    | false =>
      -- The id starts with an escape, and the text with a letter or digit.
      obtain ⟨byte, bytes, -, hescape⟩ := escapeChar_of_not_isPlain hc
      have hne : p ≠ '_' := (toNat_of_isPlain hp).2.2
      have hcp : c ≠ p := fun heq => by rw [heq, hp] at hc; cases hc
      simp [hescape, hne.symm, hcp]

/-- **Letters and digits in front of an escaped id stand for themselves.** -/
theorem escapeId_eq_append_iff {word : List Char} (hword : ∀ c ∈ word, isPlain c = true)
    {id rest : List Char} :
    escapeId id = word ++ rest ↔ ∃ tail, id = word ++ tail ∧ escapeId tail = rest := by
  induction word generalizing id with
  | nil => simp
  | cons p word ih =>
    obtain ⟨hp, hword⟩ := List.forall_mem_cons.1 hword
    rw [List.cons_append, escapeId_eq_cons_iff hp]
    constructor
    · rintro ⟨tail, rfl, htail⟩
      obtain ⟨tail, rfl, hrest⟩ := (ih hword).1 htail
      exact ⟨tail, rfl, hrest⟩
    · rintro ⟨tail, rfl, hrest⟩
      exact ⟨word ++ tail, rfl, (ih hword).2 ⟨tail, rfl, hrest⟩⟩

/-- The escapes of further bytes of a character are not the beginning of an escaped id. -/
theorem escapeId_ne_of_tail {c : Char} (hc : isPlain c = false) {first byte : UInt8}
    {bytes : List UInt8} (hbytes : String.utf8EncodeChar c = first :: byte :: bytes)
    (id rest : List Char) : escapeId id ≠ escapeByte byte ++ rest := by
  intro h
  have hmem : byte ∈ String.utf8EncodeChar c := by simp [hbytes]
  have hunit : escapeUnit byte = escapeByte byte := by
    rw [escapeUnit, isPlain_byte hc hmem]
    rfl
  -- Read back, the id would start with that byte.
  have hread := congrArg unescape h
  rw [unescape_escapeId, ← hunit, unescape_escapeUnit] at hread
  exact Text.not_isFirstByte_of_second hbytes (Text.isFirstByte_of_head? (by rw [hread]; rfl))

/-- **What follows an underscore is an escaped id if the underscore starts the escape of an ASCII
character.** -/
theorem escapeId_eq_underscore_iff {id other : List Char} :
    escapeId id = '_' :: escapeId other ↔ ∃ c tail, isPlain c = false ∧ c.toNat < 128 ∧
      id = c :: tail ∧ other = Text.hexDigits 2 c.toNat ++ tail := by
  constructor
  · intro h
    cases id with
    | nil => cases h
    | cons c tail =>
      rw [escapeId_cons] at h
      cases hc : isPlain c with
      | true =>
        rw [escapeChar, hc] at h
        exact absurd (List.cons.inj h).1 (toNat_of_isPlain hc).2.2
      | false =>
        obtain ⟨byte, bytes, hbytes, hescape⟩ := escapeChar_of_not_isPlain hc
        rw [hescape, List.cons_append, List.append_assoc] at h
        -- The two digits stand for themselves, so the other id starts with them.
        obtain ⟨rest, rfl, hrest⟩ :=
          (escapeId_eq_append_iff isPlain_of_mem_hexDigits).1 (List.cons.inj h).2.symm
        cases bytes with
        | nil =>
          obtain ⟨hsmall, hbyte⟩ := Text.utf8EncodeChar_eq_singleton_iff.1 hbytes
          obtain rfl : rest = tail := escapeId_injective hrest
          exact ⟨c, rest, hc, hsmall, rfl, by rw [hbyte]⟩
        | cons second bytes =>
          -- A text cannot go on with the second byte of a character.
          rw [List.flatMap_cons, List.append_assoc] at hrest
          exact absurd hrest (escapeId_ne_of_tail hc hbytes _ _)
  · rintro ⟨c, tail, hc, hsmall, rfl, rfl⟩
    obtain ⟨byte, bytes, hbytes, hescape⟩ := escapeChar_of_not_isPlain hc
    have hbyte : (UInt8.ofNat c.toNat).toNat = c.toNat := toNat_byte_ofNat (by omega)
    rw [Text.utf8EncodeChar_eq_singleton_iff.2 ⟨hsmall, hbyte⟩] at hbytes
    obtain ⟨rfl, rfl⟩ := List.cons.inj hbytes
    have hdigits : escapeId (Text.hexDigits 2 c.toNat ++ tail) =
        Text.hexDigits 2 c.toNat ++ escapeId tail :=
      (escapeId_eq_append_iff isPlain_of_mem_hexDigits).2 ⟨tail, rfl, rfl⟩
    rw [hdigits, escapeId_cons, hescape, hbyte, List.flatMap_nil, List.append_nil,
      List.cons_append]

end Node

/-! ### Tags with one more word -/

/-- A tag that is another tag and one more word. -/
structure TagExtension where
  /-- The other tag. -/
  short : String
  /-- The word. -/
  word : String
  /-- The tag. -/
  long : String
  /-- Inside a variable, the tag is the other one, the word and an underscore. -/
  tagPart_long : Node.tagPart long = Node.tagPart short ++ (word.toList ++ ['_']) := by
    decide +kernel
  /-- The word is made of letters and digits. -/
  plain : word.toList.all Node.isPlain = true := by decide +kernel

namespace Catalog

/-- The built-in tags that are other built-in tags and one more word. -/
def tagExtensions : List TagExtension :=
  [.mk "logic.greater" "equal" "logic.greater_equal",
    .mk "logic.less" "equal" "logic.less_equal",
    .mk "trade.sell" "all" "trade.sell_all"]

/-- **A built-in tag begins like another one only if this is the tag and one more word.** -/
theorem eq_or_extension : ∀ a ∈ builtin.tags, ∀ b ∈ builtin.tags,
    Node.tagPart a <+: Node.tagPart b →
      a = b ∨ ∃ extension ∈ tagExtensions, extension.short = a ∧ extension.long = b := by
  decide +kernel

end Catalog

namespace Node

variable {node other : Node} {suffix : String}

/-- The tag of the node takes in the beginning of the id of another: the word that it has more, and
the underscore that starts the escape of a character.  The two digits of the escape are then the
beginning of the id of the node. -/
def Absorbs (node other : Node) : Prop :=
  ∃ extension ∈ Catalog.tagExtensions, other.type = extension.short ∧ node.type = extension.long ∧
    ∃ c tail, isPlain c = false ∧ c.toNat < 128 ∧
      other.id.toList = extension.word.toList ++ c :: tail ∧
      node.id.toList = Text.hexDigits 2 c.toNat ++ tail

theorem variableName_eq_variableName_iff :
    node.variableName suffix = other.variableName suffix ↔
      tagPart node.type ++ escapeId node.id.toList =
        tagPart other.type ++ escapeId other.id.toList := by
  have htext : ∀ node : Node, (node.variableName suffix).toList =
      (tagPart node.type ++ escapeId node.id.toList) ++
        (if suffix.isEmpty then [] else '_' :: suffix.toList) := by
    intro node
    simp [variableName, tagPart]
  rw [← String.toList_inj, htext, htext, List.append_left_inj]

theorem Absorbs.variableName_eq (h : node.Absorbs other) (suffix : String) :
    node.variableName suffix = other.variableName suffix := by
  obtain ⟨extension, -, hshort, hlong, c, tail, hc, hsmall, hid, hother⟩ := h
  have hescape := escapeId_eq_underscore_iff.2 ⟨c, tail, hc, hsmall, rfl, rfl⟩
  rw [variableName_eq_variableName_iff, hshort, hlong, extension.tagPart_long, hother, hid,
    (escapeId_eq_append_iff (List.all_eq_true.1 extension.plain)).2 ⟨c :: tail, rfl, hescape⟩,
    List.append_assoc, List.append_assoc]
  rfl

/-- If the tag of a node begins the tag of another, and they have a variable in common, they are
one node, or the other one absorbs it. -/
theorem eq_or_absorbs (hnode : node.type ∈ Catalog.builtin.tags)
    (hother : other.type ∈ Catalog.builtin.tags)
    (hbegins : tagPart node.type <+: tagPart other.type)
    (h : node.variableName suffix = other.variableName suffix) :
    node.id = other.id ∨ other.Absorbs node := by
  rw [variableName_eq_variableName_iff] at h
  rcases Catalog.eq_or_extension _ hnode _ hother hbegins with
    htype | ⟨extension, hmem, hshort, hlong⟩
  · rw [htype] at h
    exact .inl (String.toList_injective (escapeId_injective (List.append_cancel_left h)))
  · rw [← hshort, ← hlong, extension.tagPart_long, List.append_assoc, List.append_assoc] at h
    -- Past the shorter tag, the id of the node starts with the word and an escape.
    obtain ⟨rest, hid, hrest⟩ :=
      (escapeId_eq_append_iff (List.all_eq_true.1 extension.plain)).1 (List.append_cancel_left h)
    obtain ⟨c, tail, hc, hsmall, rfl, hotherId⟩ := escapeId_eq_underscore_iff.1 hrest
    exact .inr ⟨extension, hmem, hshort.symm, hlong.symm, c, tail, hc, hsmall, hid, hotherId⟩

end Node

namespace Graph

variable {g : Graph} {node other : Node}

theorem WellFormed.mem_tags (h : WellFormed Catalog.builtin g) (hnode : node ∈ g.nodes) :
    node.type ∈ Catalog.builtin.tags := by
  obtain ⟨variant, hvariant, -⟩ := h.registered node hnode
  exact OrderedMap.mem_keys_of_get? hvariant

/-- **Two nodes share their variables exactly if the tag of one absorbs the beginning of the other's
id.**  So two nodes of a graph over the built-in catalog have different variables, with every suffix
and whatever their ids, unless one is `logic.greater` and the other `logic.greater_equal`, or one
`logic.less` and the other `logic.less_equal`, or one `trade.sell` and the other `trade.sell_all`,
and the ids are as `Node.Absorbs` says. -/
theorem variableName_eq_iff (h : Reachable Catalog.builtin g) (hnode : node ∈ g.nodes)
    (hother : other ∈ g.nodes) (hne : node.id ≠ other.id) (suffix : String) :
    node.variableName suffix = other.variableName suffix ↔
      node.Absorbs other ∨ other.Absorbs node := by
  have htag := h.wellFormed.mem_tags hnode
  have hotherTag := h.wellFormed.mem_tags hother
  constructor
  · intro heq
    have htext := Node.variableName_eq_variableName_iff.1 heq
    -- Both tags begin the same text, so one begins the other.
    have hbegins := List.prefix_append (Node.tagPart other.type) (Node.escapeId other.id.toList)
    rw [← htext] at hbegins
    rcases List.prefix_or_prefix_of_prefix (List.prefix_append _ _) hbegins with hfirst | hsecond
    · exact .inr ((Node.eq_or_absorbs htag hotherTag hfirst heq).resolve_left hne)
    · exact .inl ((Node.eq_or_absorbs hotherTag htag hsecond heq.symm).resolve_left
        hne.symm)
  · rintro (habsorbs | habsorbs)
    · exact habsorbs.variableName_eq suffix
    · exact (habsorbs.variableName_eq suffix).symm

end Graph

namespace Sample

/-- Two orders to sell, and one to sell everything whose id is the escape of an underscore. -/
def selling : Graph := (Graph.ofDocument Catalog.builtin
  { nodes := [("all_", "trade.sell"), ("5f", "trade.sell_all"), ("all-", "trade.sell")].map
      fun (id, type) => ⟨id, type, {}, .empty⟩ }).graph

end Sample

namespace Graph

theorem reachable_selling : Reachable Catalog.builtin Sample.selling := .loaded (by decide +kernel)

/-- The first two orders share their variables, and the last two do not. -/
theorem selling_variables :
    Reachable Catalog.builtin Sample.selling ∧
    ∃ a ∈ Sample.selling.nodes, ∃ b ∈ Sample.selling.nodes, ∃ c ∈ Sample.selling.nodes,
      (a.id ≠ b.id ∧ a.variableName "lot" = "_trade_sell_all_5f_lot" ∧
        b.variableName "lot" = "_trade_sell_all_5f_lot" ∧ (a.Absorbs b ∨ b.Absorbs a)) ∧
      c.id ≠ b.id ∧ c.variableName "lot" = "_trade_sell_all_2d_lot" ∧
        ¬(c.Absorbs b ∨ b.Absorbs c) := by
  have h := reachable_selling
  have hnodes : ∃ a ∈ Sample.selling.nodes, ∃ b ∈ Sample.selling.nodes,
      ∃ c ∈ Sample.selling.nodes, (a.id ≠ b.id ∧ c.id ≠ b.id) ∧
        a.variableName "lot" = "_trade_sell_all_5f_lot" ∧
        b.variableName "lot" = "_trade_sell_all_5f_lot" ∧
        c.variableName "lot" = "_trade_sell_all_2d_lot" := by
    decide +kernel
  obtain ⟨a, ha, b, hb, c, hc, ⟨hab, hcb⟩, haName, hbName, hcName⟩ := hnodes
  have hshared := (variableName_eq_iff h ha hb hab "lot").1 (haName.trans hbName.symm)
  have hapart : ¬(c.Absorbs b ∨ b.Absorbs c) := by
    rw [← variableName_eq_iff h hc hb hcb "lot", hcName, hbName]
    decide
  exact ⟨h, a, ha, b, hb, c, hc, ⟨hab, haName, hbName, hshared⟩, hcb, hcName, hapart⟩

/-- **Nodes with different ids may share all their variables.** -/
theorem selling_shared :
    Reachable Catalog.builtin Sample.selling ∧
    ∃ a ∈ Sample.selling.nodes, ∃ b ∈ Sample.selling.nodes, a.id ≠ b.id ∧
      ∀ suffix, a.variableName suffix = b.variableName suffix := by
  have hnodes : ∃ a ∈ Sample.selling.nodes, ∃ b ∈ Sample.selling.nodes, a.id ≠ b.id ∧
      Node.tagPart a.type ++ Node.escapeId a.id.toList =
        Node.tagPart b.type ++ Node.escapeId b.id.toList := by
    decide +kernel
  obtain ⟨a, ha, b, hb, hne, htext⟩ := hnodes
  exact ⟨reachable_selling, a, ha, b, hb, hne,
    fun _ => Node.variableName_eq_variableName_iff.2 htext⟩

end Graph

end Blueprint
