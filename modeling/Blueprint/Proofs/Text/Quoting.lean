import Blueprint.Json.Reader
import Blueprint.Proofs.Text.Hexadecimal
import Blueprint.Proofs.Text.Words
import Blueprint.Value

/-!
# Texts between quotes

A reader of a quoted text goes from left to right, and a backslash takes the next character with it.
The text ends at the first closing delimiter that is met so (`Text.closeAt`).  It is enough that
each quote of the body stands behind a backslash (`Text.Guarded`), and that can be said character by
character: where a guarded body ends, whatever stands before and after, does not matter to it.

* `Text.Guarded.closeAt_append` : **a guarded body ends at the delimiter behind it**, of one quote
  or of several.
* `Text.unquote_flatMap` : undoing the escapes of a literal gives back its text.
* `Value.literal_text` : **the literal of a text is one line that denotes the text**, so distinct
  texts have distinct literals.
-/

namespace Blueprint

namespace Text

/-! ### Where a quoted text ends -/

/-- What stands before and behind the first delimiter of a text, if a backslash takes the next
character with it. -/
def closeAt (delimiter : List Char) : List Char → Option (List Char × List Char)
  | '\\' :: c :: rest => (closeAt delimiter rest).map (Prod.map ('\\' :: c :: ·) id)
  | c :: rest =>
    if delimiter.isPrefixOf (c :: rest) then some ([], (c :: rest).drop delimiter.length)
    else (closeAt delimiter rest).map (Prod.map (c :: ·) id)
  | [] => none

/-- Each quote stands behind a backslash, and no backslash is the last character. -/
inductive Guarded (quote : Char) : List Char → Prop where
  /-- There is no character. -/
  | nil : Guarded quote []
  /-- A character that is neither a backslash nor the quote. -/
  | plain {c : Char} {rest : List Char} (hslash : c ≠ '\\') (hquote : c ≠ quote)
    (hrest : Guarded quote rest) : Guarded quote (c :: rest)
  /-- A backslash and any character. -/
  | escaped (c : Char) {rest : List Char} (hrest : Guarded quote rest) :
    Guarded quote ('\\' :: c :: rest)

namespace Guarded

variable {quote : Char} {body text : List Char}

theorem append (hbody : Guarded quote body) (htext : Guarded quote text) :
    Guarded quote (body ++ text) := by
  induction hbody with
  | nil => exact htext
  | plain hslash hquote _ ih => exact .plain hslash hquote ih
  | escaped c _ ih => exact .escaped c ih

theorem of_forall (h : ∀ c ∈ text, c ≠ '\\' ∧ c ≠ quote) : Guarded quote text := by
  induction text with
  | nil => exact .nil
  | cons c text ih =>
    obtain ⟨⟨hslash, hquote⟩, htext⟩ := List.forall_mem_cons.1 h
    exact .plain hslash hquote (ih htext)

theorem flatMap {α : Type} {f : α → List Char} (h : ∀ a, Guarded quote (f a)) (l : List α) :
    Guarded quote (l.flatMap f) := by
  induction l with
  | nil => exact .nil
  | cons a l ih =>
    rw [List.flatMap_cons]
    exact (h a).append ih

/-- **A guarded body ends at the delimiter behind it.**  The first quote that is not taken by a
backslash is the first one of the delimiter. -/
theorem closeAt_append (hbody : Guarded quote body) (hquote : quote ≠ '\\')
    (more rest : List Char) :
    closeAt (quote :: more) (body ++ (quote :: more ++ rest)) = some (body, rest) := by
  induction hbody with
  | nil =>
    have hprefix : (quote :: more).isPrefixOf (quote :: more ++ rest) = true :=
      List.isPrefixOf_iff_prefix.2 (List.prefix_append _ _)
    rw [List.nil_append, List.cons_append, closeAt, ← List.cons_append, if_pos hprefix,
      List.drop_left]
    exact fun _ _ h _ => hquote h
  | @plain c text hslash hne _ ih =>
    have hprefix : ¬(quote :: more).isPrefixOf (c :: (text ++ (quote :: more ++ rest))) = true := by
      rw [List.isPrefixOf_iff_prefix, List.cons_prefix_cons]
      exact fun h => hne h.1.symm
    rw [List.cons_append, closeAt, if_neg hprefix, ih]
    · rfl
    · exact fun _ _ h _ => hslash h
  | escaped c _ ih =>
    rw [List.cons_append, List.cons_append, closeAt, ih]
    rfl

end Guarded

/-! ### Undoing the escapes of a literal -/

/-- The character that a one-letter escape stands for. -/
def escapedChar? : Char → Option Char
  | '\\' => some '\\'
  | 'n' => some '\n'
  | 'r' => some '\r'
  | 't' => some '\t'
  | '\'' => some '\''
  | '"' => some '"'
  | _ => none

/-- The character that two hexadecimal digits stand for. -/
def hexChar? (a b : Char) : Option Char := do
  let high ← Json.hexValue? a
  let low ← Json.hexValue? b
  return Char.ofNat (16 * high + low)

/-- The text that stands between the quotes of a literal, its escapes undone. -/
def unquote : List Char → Option (List Char)
  | [] => some []
  | '\\' :: 'x' :: a :: b :: rest => do
    let c ← hexChar? a b
    (unquote rest).map (c :: ·)
  | '\\' :: d :: rest => do
    let c ← escapedChar? d
    (unquote rest).map (c :: ·)
  | c :: rest => if c = '\\' then none else (unquote rest).map (c :: ·)

/-- A control character. -/
def isControl (c : Char) : Bool :=
  decide (c.toNat < 0x20) || (decide (0x7F ≤ c.toNat) && decide (c.toNat ≤ 0x9F))

theorem hexDigits_two : ∀ n ≤ 0xA0,
    hexDigits 2 n = [(n / 16).digitChar, (n % 16).digitChar] ∧
      hexChar? (n / 16).digitChar (n % 16).digitChar = some (Char.ofNat n) := by
  decide +kernel

section

variable {c d : Char}

theorem unquote_escape (h : escapedChar? d = some c) (rest : List Char) :
    unquote ('\\' :: d :: rest) = (unquote rest).map (c :: ·) := by
  rw [unquote, h]
  · rfl
  · rintro _ _ _ ⟨⟩
    cases h

theorem unquote_hex {a b : Char} (h : hexChar? a b = some c) (rest : List Char) :
    unquote ('\\' :: 'x' :: a :: b :: rest) = (unquote rest).map (c :: ·) := by
  rw [unquote, h]
  rfl

theorem unquote_plain (h : c ≠ '\\') (rest : List Char) :
    unquote (c :: rest) = (unquote rest).map (c :: ·) := by
  rw [unquote, if_neg h]
  · exact fun _ _ _ hc _ => h hc
  · exact fun _ _ hc _ => h hc

end

/-! ### The characters of a literal -/

theorem quoteFor_cases (text : List Char) : quoteFor text = '\'' ∨ quoteFor text = '"' := by
  rw [quoteFor]
  split_ifs
  · exact .inr rfl
  · exact .inl rfl

theorem le_of_isHexEscaped {c : Char} (h : isHexEscaped c = true) : c.toNat ≤ 0xA0 := by
  simp only [isHexEscaped, Bool.or_eq_true, Bool.and_eq_true, decide_eq_true_eq] at h
  omega

theorem isControl_of_isHexEscaped {c : Char} (h : isHexEscaped c = false) :
    isControl c = false := by
  simp only [isHexEscaped, isControl, Bool.or_eq_false_iff, Bool.and_eq_false_iff,
    decide_eq_false_iff_not] at h ⊢
  omega

theorem isControl_of_isWord {c : Char} (h : isWord c = true) : isControl c = false := by
  have hrange := toNat_of_isWord h
  simp only [isControl, Bool.or_eq_false_iff, Bool.and_eq_false_iff, decide_eq_false_iff_not]
  omega

theorem isWord_of_mem_hexDigits {width n : Nat} {c : Char} (h : c ∈ hexDigits width n) :
    isWord c = true :=
  Bool.or_eq_true_iff.2 (.inl (isAlphanum_of_mem_hexDigits h))

section

variable {quote : Char} (hquote : quote = '\'' ∨ quote = '"')

include hquote

theorem unquote_quoteChar (c : Char) (rest : List Char) :
    unquote (quoteChar quote c ++ rest) = (unquote rest).map (c :: ·) := by
  rw [quoteChar]
  split_ifs with hslash hnewline hreturn htab hsame hhex
  · rw [hslash]; exact unquote_escape rfl rest
  · rw [hnewline]; exact unquote_escape rfl rest
  · rw [hreturn]; exact unquote_escape rfl rest
  · rw [htab]; exact unquote_escape rfl rest
  · refine unquote_escape ?_ rest
    rcases hquote with h | h <;> rw [hsame, h] <;> rfl
  · obtain ⟨hdigits, hchar⟩ := hexDigits_two c.toNat (le_of_isHexEscaped hhex)
    rw [Char.ofNat_toNat] at hchar
    rw [hdigits]
    exact unquote_hex hchar rest
  · exact unquote_plain hslash rest

/-- **Undoing the escapes of a literal gives back its text.** -/
theorem unquote_flatMap (text : List Char) :
    unquote (text.flatMap (quoteChar quote)) = some text := by
  induction text with
  | nil => rfl
  | cons c text ih =>
    rw [List.flatMap_cons, unquote_quoteChar hquote, ih]
    rfl

theorem guarded_quoteChar (c : Char) : Guarded quote (quoteChar quote c) := by
  rw [quoteChar]
  split_ifs with hslash hnewline hreturn htab hsame hhex
  · exact .escaped _ .nil
  · exact .escaped _ .nil
  · exact .escaped _ .nil
  · exact .escaped _ .nil
  · exact .escaped _ .nil
  · -- The digits behind the mark are neither backslashes nor quotes.
    refine .escaped 'x' (.of_forall fun d hd => ?_)
    have hword := isWord_of_mem_hexDigits hd
    constructor
    · rintro rfl
      cases hword
    · rintro rfl
      rcases hquote with rfl | rfl <;> cases hword
  · exact .plain hslash hsame .nil

theorem isControl_of_mem_quoteChar {c d : Char} (h : d ∈ quoteChar quote c) :
    isControl d = false := by
  rw [quoteChar] at h
  split_ifs at h with hslash hnewline hreturn htab hsame hhex
  · rcases List.mem_pair.1 h with rfl | rfl <;> rfl
  · rcases List.mem_pair.1 h with rfl | rfl <;> rfl
  · rcases List.mem_pair.1 h with rfl | rfl <;> rfl
  · rcases List.mem_pair.1 h with rfl | rfl <;> rfl
  · rcases List.mem_pair.1 h with rfl | rfl
    · rfl
    · rcases hquote with hc | hc <;> rw [hsame, hc] <;> rfl
  · rcases List.mem_cons.1 h with rfl | h
    · rfl
    · rcases List.mem_cons.1 h with rfl | h
      · rfl
      · exact isControl_of_isWord (isWord_of_mem_hexDigits h)
  · rw [List.mem_singleton.1 h]
    exact isControl_of_isHexEscaped (Bool.eq_false_iff.2 hhex)

end

/-! ### Literals -/

/-- What stands between the quotes of the literal of a text. -/
def quotedBody (text : String) : List Char :=
  text.toList.flatMap (quoteChar (quoteFor text.toList))

theorem toList_quoted (text : String) :
    (quoted text).toList =
      quoteFor text.toList :: (quotedBody text ++ [quoteFor text.toList]) := by
  rw [quoted, String.toList_ofList]
  rfl

theorem unquote_quotedBody (text : String) : unquote (quotedBody text) = some text.toList :=
  unquote_flatMap (quoteFor_cases _) _

/-- Distinct texts have distinct literals, also if their quotes differ. -/
theorem quoted_injective : Function.Injective quoted := by
  intro s t h
  have hlist := congrArg String.toList h
  rw [toList_quoted, toList_quoted] at hlist
  obtain ⟨hquote, hrest⟩ := List.cons.inj hlist
  rw [hquote] at hrest
  have hbody := congrArg unquote (List.append_cancel_right hrest)
  rw [unquote_quotedBody, unquote_quotedBody] at hbody
  exact String.toList_injective (Option.some.inj hbody)

end Text

/-- **The literal of a text is a string on one line that denotes the text.**  It stands between two
quotes of one kind and has no control characters, its body ends at the last quote and not before,
and undoing the escapes of the body gives back the text.  So the literal determines the text. -/
theorem Value.literal_text (s : String) :
    ∃ quote body, (quote = '\'' ∨ quote = '"') ∧
      (Value.text s).literal.toList = quote :: (body ++ [quote]) ∧
      (∀ c ∈ (Value.text s).literal.toList, Text.isControl c = false) ∧
      Text.closeAt [quote] (body ++ [quote]) = some (body, []) ∧
      Text.unquote body = some s.toList ∧
      ∀ t, (Value.text t).literal = (Value.text s).literal → t = s := by
  have hquote := Text.quoteFor_cases s.toList
  have hcontrol : Text.isControl (Text.quoteFor s.toList) = false := by
    rcases hquote with h | h <;> rw [h] <;> rfl
  have hguarded : Text.Guarded (Text.quoteFor s.toList) (Text.quotedBody s) :=
    .flatMap (Text.guarded_quoteChar hquote) _
  refine ⟨Text.quoteFor s.toList, Text.quotedBody s, hquote, Text.toList_quoted s, fun c hc => ?_,
    ?_, Text.unquote_quotedBody s, fun t ht => Text.quoted_injective ht⟩
  · rw [literal, Text.toList_quoted] at hc
    rcases List.mem_cons.1 hc with rfl | hc
    · exact hcontrol
    · rcases List.mem_append.1 hc with hc | hc
      · obtain ⟨d, -, hd⟩ := List.mem_flatMap.1 hc
        exact Text.isControl_of_mem_quoteChar hquote hd
      · rw [List.mem_singleton.1 hc]
        exact hcontrol
  · refine hguarded.closeAt_append ?_ [] []
    rcases hquote with h | h <;> rw [h] <;> decide

end Blueprint
