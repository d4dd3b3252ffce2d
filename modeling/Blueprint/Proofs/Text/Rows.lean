import Mathlib.Data.List.TakeWhile
import Blueprint.Text.Basic

/-!
# Rows of a text

A text is split at each of its line feeds (`Text.rows`), so that it has one row more than line feeds
(`Text.length_rows`) and no row has one.  Texts that are joined by line feeds keep their rows
(`Text.rows_intercalate`): a text without a line feed is one row of the whole, and another one takes
as many rows as it has by itself.

The lines of a statement have no line feeds either (`Text.newline_notMem_of_mem_lines`).
-/

namespace Blueprint.Text

variable {text : String}

/-- The rows of a text, which is split at each line feed. -/
def rows (text : String) : List String := (text.toList.splitOn '\n').map .ofList

theorem rows_of_notMem (h : '\n' ∉ text.toList) : rows text = [text] := by
  rw [rows, List.splitOn_eq_singleton h, List.map_singleton, String.ofList_toList]

theorem length_rows (text : String) : (rows text).length = text.toList.count '\n' + 1 := by
  rw [rows, List.length_map]
  induction text.toList with
  | nil => rfl
  | cons c chars ih =>
    rw [List.splitOn_cons_eq_if_modifyHead]
    by_cases h : c = '\n'
    · simp [h, ih]
    · simp [h, ih]

theorem newline_notMem_of_mem_splitOn {chars row : List Char} (h : row ∈ chars.splitOn '\n') :
    '\n' ∉ row := by
  induction chars generalizing row with
  | nil =>
    rw [List.mem_singleton.1 h]
    exact List.not_mem_nil
  | cons c chars ih =>
    obtain ⟨first, others, hsplit⟩ := List.exists_cons_of_ne_nil (List.splitOn_ne_nil '\n' chars)
    rw [List.splitOn_cons_eq_if_modifyHead, hsplit] at h
    rw [hsplit] at ih
    by_cases hc : c = '\n'
    · rw [if_pos (beq_iff_eq.2 hc)] at h
      rcases List.mem_cons.1 h with rfl | h
      · exact List.not_mem_nil
      · exact ih h
    · -- The character stands at the beginning of the first row.
      rw [if_neg (mt beq_iff_eq.1 hc), List.modifyHead_cons] at h
      rcases List.mem_cons.1 h with rfl | h
      · rw [List.mem_cons, not_or]
        exact ⟨Ne.symm hc, ih List.mem_cons_self⟩
      · exact ih (List.mem_cons_of_mem _ h)

theorem newline_notMem_of_mem_rows {row : String} (h : row ∈ rows text) : '\n' ∉ row.toList := by
  obtain ⟨chars, hchars, rfl⟩ := List.mem_map.1 h
  rw [String.toList_ofList]
  exact newline_notMem_of_mem_splitOn hchars

/-- **Joined texts keep their rows.** -/
theorem rows_intercalate {texts : List String} (h : texts ≠ []) :
    rows ("\n".intercalate texts) = texts.flatMap rows := by
  induction texts with
  | nil => exact absurd rfl h
  | cons text rest ih =>
    cases rest with
    | nil => simp
    | cons next rest =>
      rw [String.intercalate_cons_cons, List.flatMap_cons, ← ih (List.cons_ne_nil _ _), rows,
        String.toList_append, String.toList_append, List.append_assoc]
      show (List.splitOn '\n' (text.toList ++ '\n' :: _)).map String.ofList = _
      rw [List.splitOn_append_cons_self, List.map_append]
      rfl

theorem flatMap_rows_of_notMem {texts : List String} (h : ∀ text ∈ texts, '\n' ∉ text.toList) :
    texts.flatMap rows = texts := by
  induction texts with
  | nil => rfl
  | cons text rest ih =>
    rw [List.forall_mem_cons] at h
    rw [List.flatMap_cons, rows_of_notMem h.1, ih h.2, List.singleton_append]

/-! ### Lines of a statement -/

theorem mem_of_mem_dropReturn {c : Char} {line : List Char} (h : c ∈ dropReturn line) :
    c ∈ line := by
  unfold dropReturn at h
  split at h
  · exact List.mem_cons_of_mem _ h
  · exact h

theorem newline_notMem_of_mem_linesFrom {chars current line : List Char} (hcurrent : '\n' ∉ current)
    (h : line ∈ linesFrom current chars) : '\n' ∉ line := by
  induction chars generalizing current with
  | nil =>
    rw [linesFrom] at h
    split_ifs at h
    · cases h
    · rw [List.mem_singleton.1 h, List.mem_reverse]
      exact hcurrent
  | cons c chars ih =>
    rw [linesFrom] at h
    split_ifs at h with hc
    · rcases List.mem_cons.1 h with rfl | h
      · rw [List.mem_reverse]
        exact fun hmem => hcurrent (mem_of_mem_dropReturn hmem)
      · exact ih List.not_mem_nil h
    · refine ih ?_ h
      rw [List.mem_cons, not_or]
      exact ⟨Ne.symm hc, hcurrent⟩

theorem newline_notMem_of_mem_lines {line : String} (h : line ∈ lines text) :
    '\n' ∉ line.toList := by
  obtain ⟨chars, hchars, rfl⟩ := List.mem_map.1 h
  rw [String.toList_ofList]
  exact newline_notMem_of_mem_linesFrom List.not_mem_nil hchars

/-! ### Leading spaces -/

/-- The number of spaces that a line starts with. -/
def leading (line : String) : Nat := (line.toList.takeWhile (· == ' ')).length

theorem takeWhile_replicate_append (count : Nat) (rest : List Char) :
    (List.replicate count ' ' ++ rest).takeWhile (· == ' ') =
      List.replicate count ' ' ++ rest.takeWhile (· == ' ') :=
  List.takeWhile_append_of_pos fun c hc => by simp [List.eq_of_mem_replicate hc]

theorem takeWhile_dropWhile (chars : List Char) :
    (chars.dropWhile (· == ' ')).takeWhile (· == ' ') = [] := by
  induction chars with
  | nil => rfl
  | cons c chars ih =>
    by_cases h : c = ' '
    · simpa [h] using ih
    · simp [h]

theorem leading_ofList_append (count : Nat) (line : String) :
    leading (String.ofList (List.replicate count ' ') ++ line) = count + leading line := by
  rw [leading, String.toList_append, String.toList_ofList, takeWhile_replicate_append,
    List.length_append, List.length_replicate, leading]

end Blueprint.Text
