import Blueprint.Proofs.Acceptance
import Blueprint.Proofs.Text.Quoting

/-!
# Diagnostic texts

If a graph is refused, the text that stands for its script is one string in triple quotes.  Ids,
port names and captions come into it as they are, with whatever quotes and backslashes they have, so
each issue is escaped.

A text is a string in triple quotes that denotes a content (`Text.IsDocstring`) if it ends at its
last three quotes and not before, and undoing the escapes between them gives the content.  What
stands there is put together from fixed texts and escaped ones; each part is guarded and denotes its
own content (`Text.Denotes`), and so is the whole.

Main statement: the text for a refused graph denotes its issues (`Graph.generate_refused`).
-/

namespace Blueprint

namespace Text

/-- The delimiter of a string over several lines. -/
def tripleQuote : List Char := ['"', '"', '"']

/-- The text without the backslashes in front of quotes and backslashes. -/
def unescapeDocstring : List Char → List Char
  | '\\' :: '\\' :: rest => '\\' :: unescapeDocstring rest
  | '\\' :: '"' :: rest => '"' :: unescapeDocstring rest
  | c :: rest => c :: unescapeDocstring rest
  | [] => []

/-- The text is one string in triple quotes and nothing else, and it denotes `content`. -/
def IsDocstring (text content : String) : Prop :=
  ∃ body, text.toList = tripleQuote ++ (body ++ tripleQuote) ∧
    closeAt tripleQuote (body ++ tripleQuote) = some (body, []) ∧
    unescapeDocstring body = content.toList

/-- Between triple quotes the text denotes `content`, whatever follows. -/
structure Denotes (text content : String) : Prop where
  /-- No quote of the text ends the string. -/
  guarded : Guarded '"' text.toList
  /-- Undoing the escapes of the text gives the content. -/
  unescape : ∀ rest,
    unescapeDocstring (text.toList ++ rest) = content.toList ++ unescapeDocstring rest

theorem unescapeDocstring_cons {c : Char} (h : c ≠ '\\') (rest : List Char) :
    unescapeDocstring (c :: rest) = c :: unescapeDocstring rest := by
  rw [unescapeDocstring]
  · exact fun _ hc _ => h hc
  · exact fun _ hc _ => h hc

theorem unescapeDocstring_append {chars : List Char} (h : '\\' ∉ chars) (rest : List Char) :
    unescapeDocstring (chars ++ rest) = chars ++ unescapeDocstring rest := by
  induction chars with
  | nil => rfl
  | cons c chars ih =>
    rw [List.mem_cons, not_or] at h
    rw [List.cons_append, unescapeDocstring_cons (Ne.symm h.1), ih h.2, List.cons_append]

/-- A character inside triple quotes. -/
def docstringChar (c : Char) : String :=
  if c = '\\' then "\\\\" else if c = '"' then "\\\"" else .singleton c

/-- A text is escaped character by character: the second replacement does not touch the backslashes
of the first. -/
theorem escapeDocstring_eq_join (text : String) :
    escapeDocstring text = String.join (text.toList.map docstringChar) := by
  refine String.toList_injective ?_
  rw [escapeDocstring, String.toList_ofList, String.toList_join, List.flatMap_map, escapeEach,
    escapeEach, List.flatMap_assoc]
  refine List.flatMap_congr fun c _ => ?_
  rw [docstringChar]
  split_ifs with hslash hquote
  · subst hslash
    decide
  · subst hquote
    decide
  · simp [hquote]

theorem join_singletons (text : String) : String.join (text.toList.map .singleton) = text := by
  refine String.toList_injective ?_
  simp [String.toList_join, List.flatMap_map]

namespace Denotes

variable {text content text' content' : String}

theorem append (h : Denotes text content) (h' : Denotes text' content') :
    Denotes (text ++ text') (content ++ content') where
  guarded := by
    rw [String.toList_append]
    exact h.guarded.append h'.guarded
  unescape rest := by
    rw [String.toList_append, String.toList_append, List.append_assoc, h.unescape, h'.unescape,
      List.append_assoc]

theorem fixed (hslash : '\\' ∉ text.toList) (hquote : '"' ∉ text.toList) : Denotes text text where
  guarded := .of_forall fun _ hc => ⟨ne_of_mem_of_not_mem hc hslash, ne_of_mem_of_not_mem hc hquote⟩
  unescape := unescapeDocstring_append hslash

theorem join {α : Type} {f f' : α → String} (h : ∀ a, Denotes (f a) (f' a)) (l : List α) :
    Denotes (String.join (l.map f)) (String.join (l.map f')) := by
  induction l with
  | nil => exact ⟨.nil, fun _ => rfl⟩
  | cons a l ih =>
    rw [List.map_cons, List.map_cons, String.join_cons, String.join_cons]
    exact (h a).append ih

theorem escapeChar (c : Char) : Denotes (docstringChar c) (.singleton c) := by
  rw [docstringChar]
  split_ifs with hslash hquote
  · rw [hslash]
    exact ⟨.escaped _ .nil, fun _ => rfl⟩
  · rw [hquote]
    exact ⟨.escaped _ .nil, fun _ => rfl⟩
  · refine fixed ?_ ?_
    · simpa using Ne.symm hslash
    · simpa using Ne.symm hquote

theorem escape (text : String) : Denotes (escapeDocstring text) text := by
  have hchars := join escapeChar text.toList
  rwa [← escapeDocstring_eq_join, join_singletons] at hchars

/-- **In triple quotes, a text that denotes a content is a string that does.** -/
theorem isDocstring (h : Denotes text content) :
    IsDocstring ("\"\"\"" ++ (text ++ "\"\"\"")) content := by
  refine ⟨text.toList, ?_, h.guarded.closeAt_append (by decide) ['"', '"'] [], ?_⟩
  · rw [String.toList_append, String.toList_append]
    rfl
  · have hall := h.unescape []
    rwa [List.append_nil, unescapeDocstring, List.append_nil] at hall

end Denotes

end Text

/-! ### The two texts -/

/-- What is said about a graph with issues. -/
def issueReport (messages : List String) : String :=
  "\nBlueprint validation failed:\n"
    ++ String.join (messages.map fun message => "# Error: " ++ message ++ "\n")

theorem isDocstring_failureText (messages : List String) :
    Text.IsDocstring (failureText messages) (issueReport messages) := by
  have hheading : Text.Denotes "\nBlueprint validation failed:\n" _ :=
    .fixed (by decide) (by decide)
  have hlabel : Text.Denotes "# Error: " _ := .fixed (by decide) (by decide)
  have hend : Text.Denotes "\n" _ := .fixed (by decide) (by decide)
  have hlines := Text.Denotes.join
    (fun message => (hlabel.append (.escape message)).append hend) messages
  have hopening : "\"\"\"\nBlueprint validation failed:\n" =
      "\"\"\"" ++ "\nBlueprint validation failed:\n" := by decide
  have hstring := (hheading.append hlines).isDocstring
  rwa [← String.append_assoc, ← String.append_assoc, ← hopening] at hstring

theorem isDocstring_blockedText (message : String) :
    Text.IsDocstring (blockedText message) ("\n" ++ message ++ "\n") := by
  have hend : Text.Denotes "\n" _ := .fixed (by decide) (by decide)
  have hopening : "\"\"\"\n" = "\"\"\"" ++ "\n" := by decide
  have hclosing : "\n\"\"\"" = "\n" ++ "\"\"\"" := by decide
  have hstring := ((hend.append (.escape message)).append hend).isDocstring
  rw [blockedText, hopening, hclosing]
  simpa only [String.append_assoc] using hstring

namespace Graph

variable {g : Graph} {options : Options} {name : String}

/-- A graph is refused for its issues only: without a cycle it has an order of execution. -/
theorem compile_eq_error_iff {error : CompileError} :
    g.compile options name = .error error ↔ g.validate ≠ [] ∧ error = .invalid g.validate := by
  by_cases hvalid : g.validate = []
  · have hcycle : g.hasCycle = false := by
      rw [validate, List.append_eq_nil_iff, List.append_eq_nil_iff] at hvalid
      simpa using hvalid.1.1
    have horder : g.executionOrder = .ok g.topologicalOrder.order := by
      rw [executionOrder]
      exact if_neg (by rw [← hasCycle, hcycle]; exact Bool.false_ne_true)
    rw [compile_of_valid hvalid horder]
    constructor
    · intro hrefused
      cases hrefused
    · intro hissues
      exact absurd hvalid hissues.1
  · rw [compile_of_issues hvalid]
    constructor
    · rintro ⟨⟩
      exact ⟨hvalid, rfl⟩
    · rintro ⟨-, rfl⟩
      rfl

/-- **The text for a refused graph is one string in triple quotes that denotes its issues**,
whatever the ids, ports and captions in them.  So is the text for a graph that could not be
ordered. -/
theorem generate_refused {error : CompileError} (h : g.compile options name = .error error) :
    Text.IsDocstring (g.generate options name) (issueReport (g.validate.map Issue.message)) ∧
    ∀ reason, Text.IsDocstring (blockedText reason) ("\n" ++ reason ++ "\n") := by
  obtain ⟨-, rfl⟩ := compile_eq_error_iff.1 h
  refine ⟨?_, isDocstring_blockedText⟩
  have htext : g.generate options name = failureText (g.validate.map Issue.message) := by
    rw [compile] at h
    rw [generate, Emitter.generate, h]
  rw [htext]
  exact isDocstring_failureText _

end Graph

namespace Sample

/-- An order whose caption, input and id have quotes and backslashes at their ends. -/
def hostile : Graph := (Graph.ofDocument
  (Catalog.empty.register
    { tag := "order", category := .trade, title := "\"\"\"\\",
      inputs := [.input "\\\"" .boolean "Condition"], outputs := [] })
  { nodes := [⟨"\\\n\"\"\"", "order", {}, .empty⟩] }).graph

end Sample

namespace Graph

/-- The quotes and backslashes in the issue do not end the string. -/
theorem hostile_reported :
    Sample.hostile.compile {} "Hostile" =
      .error (.invalid [.unfedInput "\"\"\"\\" "\\\n\"\"\"" "\\\""]) ∧
    Text.IsDocstring (Sample.hostile.generate {} "Hostile")
      ("\nBlueprint validation failed:\n# Error: node '\"\"\"\\' (\\\n\"\"\") " ++
        "has unconnected required input '\\\"'\n") := by
  have hissues : Sample.hostile.validate =
      [.unfedInput "\"\"\"\\" "\\\n\"\"\"" "\\\""] := by decide +kernel
  have hrefused : Sample.hostile.compile {} "Hostile" = .error (.invalid Sample.hostile.validate) :=
    compile_of_issues (by rw [hissues]; exact List.cons_ne_nil _ _)
  have hdenotes := (generate_refused hrefused).1
  rw [hissues] at hrefused hdenotes
  exact ⟨hrefused, hdenotes⟩

end Graph

end Blueprint
