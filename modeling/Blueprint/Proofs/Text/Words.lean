import Mathlib.Data.List.Basic
import Blueprint.Text.Basic

/-!
# Words and assignments in a text

A word is a maximal run of letters, digits and underscores (`Text.Run`), and a name is a word that
starts with an underscore.  `Text.Names P text` says that all names of a text have a property.

* Where texts meet at a character that is in no word, the names of the whole are those of the parts
  (`Text.Names.append`).
* A statement assigns to the names before its first ` = ` (`Text.targets`); if these are words
  separated by commas, they are read back (`Text.targets_assignment`).
-/

namespace Blueprint.Text

/-- Letters, digits and the underscore. -/
def isWord (c : Char) : Bool := c.isAlphanum || c == '_'

/-- `word` stands in a text between `before` and `after` and can be extended on neither side. -/
structure Run (text before word after : List Char) : Prop where
  /-- The place. -/
  eq : text = before ++ word ++ after
  /-- It is not empty. -/
  ne_nil : word ≠ []
  /-- It is made of word characters. -/
  word : ∀ c ∈ word, isWord c = true
  /-- It does not go on to the left. -/
  left : ∀ c ∈ before.getLast?, isWord c = false
  /-- It does not go on to the right. -/
  right : ∀ c ∈ after.head?, isWord c = false

/-- All names in a text have a property. -/
def Names (P : List Char → Prop) (text : List Char) : Prop :=
  ∀ before name after, Run text before ('_' :: name) after → P ('_' :: name)

/-- No word goes across the place where two texts meet. -/
def Apart (s t : List Char) : Prop :=
  (∃ c ∈ s.getLast?, isWord c = false) ∨ ∃ c ∈ t.head?, isWord c = false

variable {P Q : List Char → Prop} {s t text before word after : List Char}

/-! ### Where texts meet -/

/-- A word of two texts is a word of one of them. -/
theorem Run.append_cases (hapart : Apart s t) (h : Run (s ++ t) before word after) :
    (∃ rest, Run s before word rest) ∨ ∃ rest, Run t rest word after := by
  obtain ⟨heq, hne, hword, hleft, hright⟩ := h
  rcases List.append_eq_append_iff.1 heq with ⟨middle, hs, ht⟩ | ⟨rest, hs, hafter⟩
  · rcases List.append_eq_append_iff.1 hs with ⟨front, rfl, rfl⟩ | ⟨rest, hbefore, rfl⟩
    · -- The word is `front ++ middle`, and the texts meet between the two.
      rcases List.eq_nil_or_concat front with rfl | ⟨front, c, rfl⟩
      · exact .inr ⟨[], by simpa using ht, hne, hword, by simp, hright⟩
      · cases middle with
        | nil => exact .inl ⟨[], by simp, hne, hword, hleft, by simp⟩
        | cons d middle =>
          have hc := hword c (by simp)
          have hd := hword d (by simp)
          simp [Apart, ht, hc, hd] at hapart
    · refine .inr ⟨rest, ht, hne, hword, fun c hc => hleft c ?_, hright⟩
      rw [hbefore, List.getLast?_append, Option.mem_def.1 hc]
      rfl
  · refine .inl ⟨rest, hs, hne, hword, hleft, fun c hc => hright c ?_⟩
    rw [hafter, List.head?_append, Option.mem_def.1 hc]
    rfl

theorem Names.append (hapart : Apart s t) (hs : Names P s) (ht : Names P t) : Names P (s ++ t) := by
  intro before name after h
  rcases h.append_cases hapart with ⟨rest, h⟩ | ⟨rest, h⟩
  · exact hs _ _ _ h
  · exact ht _ _ _ h

theorem Names.mono (h : Names P text) (himp : ∀ name, P name → Q name) : Names Q text :=
  fun before name after hrun => himp _ (h before name after hrun)

/-! ### Texts with at most one name -/

theorem Names.of_notMem (h : '_' ∉ text) : Names P text := by
  intro before name after hrun
  rw [hrun.eq] at h
  simp at h

theorem Run.eq_text (htext : ∀ c ∈ text, isWord c = true) (h : Run text before word after) :
    word = text := by
  have hbefore : before = [] := by
    rcases List.eq_nil_or_concat before with hnil | ⟨front, c, rfl⟩
    · exact hnil
    · have hc := h.left c (by simp)
      rw [htext c (by simp [h.eq])] at hc
      cases hc
  have hafter : after = [] := by
    cases after with
    | nil => rfl
    | cons c rest =>
      have hc := h.right c (by simp)
      rw [htext c (by simp [h.eq])] at hc
      cases hc
  simpa [hbefore, hafter] using h.eq.symm

theorem Names.of_forall_isWord (htext : ∀ c ∈ text, isWord c = true) (h : P text) :
    Names P text := by
  intro before name after hrun
  rwa [hrun.eq_text htext]

/-- Some word starts with an underscore; `inWord` tells whether a word goes on from before. -/
def startsName (inWord : Bool) : List Char → Bool
  | [] => false
  | c :: rest => (!inWord && c == '_') || startsName (isWord c) rest

theorem startsName_of_run (name : List Char) {inWord : Bool}
    (hin : before = [] → inWord = false)
    (hleft : ∀ c ∈ before.getLast?, isWord c = false) :
    startsName inWord (before ++ '_' :: name) = true := by
  induction before generalizing inWord with
  | nil => simp [startsName, hin rfl]
  | cons c before ih =>
    have hrest : startsName (isWord c) (before ++ '_' :: name) = true := by
      refine ih (fun hnil => hleft c (by simp [hnil])) fun d hd => hleft d ?_
      rw [List.getLast?_cons, Option.mem_def.1 hd]
      rfl
    simp [startsName, hrest]

theorem Names.of_startsName (h : startsName false text = false) : Names P text := by
  intro before name after hrun
  have hstarts := startsName_of_run (name ++ after) (fun _ => rfl) hrun.left
  rw [hrun.eq, List.append_assoc, List.cons_append, hstarts] at h
  cases h

/-! ### Assignments -/

/-- The two sides of the first ` = ` of a text. -/
def assignment? : List Char → Option (List Char × List Char)
  | [] => none
  | c :: rest =>
    if [' ', '=', ' '].isPrefixOf (c :: rest) then some ([], rest.drop 2)
    else (assignment? rest).map fun (left, right) => (c :: left, right)

/-- The names that a statement assigns to: those before its first ` = `, separated by commas. -/
def targets (statement : List Char) : List (List Char) :=
  match assignment? statement with
  | none => []
  | some (left, _) => (left.splitOn ',').map trim

/-- The word after `before` is one of the names that a statement assigns to, at a place where the
statement does so. -/
def Assigns (statement before word : List Char) : Prop :=
  word ∈ targets statement ∧
    ∃ left right, assignment? statement = some (left, right) ∧ before ++ word <+: left

variable {left : List Char} (right : List Char) {names : List (List Char)}

theorem assignment?_append (hleft : '=' ∉ left) :
    assignment? (left ++ [' ', '=', ' '] ++ right) = some (left, right) := by
  induction left with
  | nil => rfl
  | cons c left ih =>
    obtain ⟨-, hrest⟩ := not_or.1 (mt List.mem_cons.2 hleft)
    have hno : [' ', '=', ' '].isPrefixOf (c :: (left ++ [' ', '=', ' '] ++ right)) = false := by
      cases left with
      | nil => simp [List.isPrefixOf]
      | cons d left => simp_all [List.isPrefixOf]
    rw [List.cons_append, List.cons_append, assignment?, hno, ih hrest]
    rfl

theorem toNat_of_isWord {c : Char} (h : isWord c = true) :
    48 ≤ c.toNat ∧ c.toNat ≤ 57 ∨ 65 ≤ c.toNat ∧ c.toNat ≤ 90 ∨ c.toNat = 95 ∨
      97 ≤ c.toNat ∧ c.toNat ≤ 122 := by
  rcases Bool.or_eq_true_iff.1 h with h | h
  · rcases Bool.or_eq_true_iff.1 h with h | h
    · rcases Bool.or_eq_true_iff.1 h with h | h
      · obtain ⟨hlow, hhigh⟩ := of_decide_eq_true h
        exact .inr (.inl ⟨UInt32.le_iff_toNat_le.1 hlow, UInt32.le_iff_toNat_le.1 hhigh⟩)
      · obtain ⟨hlow, hhigh⟩ := Bool.and_eq_true_iff.1 h
        exact .inr (.inr (.inr ⟨UInt32.le_iff_toNat_le.1 (of_decide_eq_true hlow),
          UInt32.le_iff_toNat_le.1 (of_decide_eq_true hhigh)⟩))
    · exact .inl (Char.isDigit_iff_toNat.1 h)
  · rw [beq_iff_eq.1 h]
    exact .inr (.inr (.inl rfl))

theorem isBlank_of_isWord {c : Char} (h : isWord c = true) : isBlank c = false := by
  have hrange := toNat_of_isWord h
  simp only [isBlank, Ranges.contains, blankRanges, List.any_cons, List.any_nil, Bool.or_false,
    Bool.or_eq_false_iff, Bool.and_eq_false_iff, decide_eq_false_iff_not]
  omega

theorem dropWhile_isBlank (h : ∀ c ∈ text, isWord c = true) : text.dropWhile isBlank = text := by
  cases text with
  | nil => rfl
  | cons c rest => simp [isBlank_of_isWord (h c (by simp))]

theorem trim_of_forall_isWord (h : ∀ c ∈ text, isWord c = true) : trim text = text := by
  rw [trim, dropWhile_isBlank h, dropWhile_isBlank (by simpa using h), List.reverse_reverse]

theorem map_trim_splitOn_cons_blank (text : List Char) :
    ((' ' :: text).splitOn ',').map trim = (text.splitOn ',').map trim := by
  rw [List.splitOn_cons_eq_if_modifyHead, if_neg (by decide)]
  cases text.splitOn ',' with
  | nil => rfl
  | cons first rest => rfl

theorem map_trim_splitOn_intercalate (hne : names ≠ [])
    (hnames : ∀ name ∈ names, ∀ c ∈ name, isWord c = true) :
    (([',', ' '].intercalate names).splitOn ',').map trim = names := by
  induction names with
  | nil => contradiction
  | cons name rest ih =>
    have hname : ',' ∉ name := fun hmem => absurd (hnames name (by simp) _ hmem) (by decide)
    have htrim := trim_of_forall_isWord (hnames name (by simp))
    cases rest with
    | nil =>
      rw [List.intercalate_singleton, List.splitOn_eq_singleton hname]
      simp [htrim]
    | cons next rest =>
      rw [List.intercalate_cons_cons, List.append_assoc, List.cons_append,
        List.splitOn_append_cons_self_of_not_mem hname, List.map_cons, htrim]
      exact congrArg _ ((map_trim_splitOn_cons_blank _).trans
        (ih (by simp) fun name hmem => hnames name (List.mem_cons_of_mem _ hmem)))

theorem equals_notMem_intercalate (hnames : ∀ name ∈ names, ∀ c ∈ name, isWord c = true) :
    '=' ∉ [',', ' '].intercalate names := by
  induction names with
  | nil => simp
  | cons name rest ih =>
    have hname : '=' ∉ name := fun hmem => absurd (hnames name (by simp) _ hmem) (by decide)
    have hrest := ih fun name hmem => hnames name (List.mem_cons_of_mem _ hmem)
    cases rest with
    | nil => rwa [List.intercalate_singleton]
    | cons next rest =>
      rw [List.intercalate_cons_cons]
      simp [hname, hrest]

theorem Names.intercalate (hnames : ∀ name ∈ names, ∀ c ∈ name, isWord c = true) :
    Names (· ∈ names) ([',', ' '].intercalate names) := by
  induction names with
  | nil => exact .of_notMem (by simp)
  | cons name rest ih =>
    have hname : Names (· ∈ name :: rest) name :=
      .of_forall_isWord (hnames name (by simp)) List.mem_cons_self
    have hrest := (ih fun name hmem => hnames name (List.mem_cons_of_mem _ hmem)).mono
      fun _ => List.mem_cons_of_mem name
    cases rest with
    | nil => rwa [List.intercalate_singleton]
    | cons next rest =>
      rw [List.intercalate_cons_cons, List.append_assoc]
      exact hname.append (.inr ⟨',', by simp, rfl⟩)
        (.append (.inl ⟨' ', by simp, rfl⟩) (.of_notMem (by decide)) hrest)

/-- **The names that an assignment is written with are its targets.** -/
theorem targets_assignment (hne : names ≠ [])
    (hnames : ∀ name ∈ names, ∀ c ∈ name, isWord c = true) :
    targets ([',', ' '].intercalate names ++ [' ', '=', ' '] ++ right) = names := by
  rw [targets, assignment?_append right]
  · exact map_trim_splitOn_intercalate hne hnames
  · exact equals_notMem_intercalate hnames

/-- Each name of an assignment is a target or a name of its right side. -/
theorem Run.assignment_cases (hne : names ≠ [])
    (hnames : ∀ name ∈ names, ∀ c ∈ name, isWord c = true) {name : List Char}
    (h : Run ([',', ' '].intercalate names ++ [' ', '=', ' '] ++ right) before ('_' :: name) after)
    (hright : Names P ([' ', '=', ' '] ++ right)) :
    Assigns ([',', ' '].intercalate names ++ [' ', '=', ' '] ++ right) before ('_' :: name) ∨
      P ('_' :: name) := by
  have hapart : Apart ([',', ' '].intercalate names) ([' ', '=', ' '] ++ right) :=
    .inr ⟨' ', by simp, rfl⟩
  have hrun := h
  rw [List.append_assoc] at hrun
  rcases hrun.append_cases hapart with ⟨rest, hleft⟩ | ⟨rest, hrest⟩
  · refine .inl ⟨?_, _, _, assignment?_append right (equals_notMem_intercalate hnames), rest, ?_⟩
    · rw [targets_assignment right hne hnames]
      exact Names.intercalate hnames _ _ _ hleft
    · exact hleft.eq.symm
  · exact .inr (hright _ _ _ hrest)

end Blueprint.Text
