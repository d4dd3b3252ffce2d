import Blueprint.Proofs.Declarations
import Blueprint.Proofs.Levels

/-!
# The rows of a script

A script is put together from lines, but a part that comes into it as it is may have line feeds of
its own.  `Graph.rows_of_compile` gives the rows of a script as those of its parts.

* `Graph.parameter_rows` : **the rows of the parameters are their declarations**, one for each,
  exactly if no declared key has a line feed.  Values never break a row.
* `Graph.statement_indentation` : **of two lines of a statement, the deeper one is the deeper one in
  the script**, exactly if the spaces that are left over after full levels do not reach over the
  indents between the lines.  They never do if an indent has four spaces or more, or if the lines
  stand on full levels, as those of built-in statements do.
-/

namespace Blueprint

open Text

/-! ### Rows of the parts -/

/-- The parts that the script of a strategy is assembled from. -/
def Strategy.sections (strategy : Strategy) : Sections where
  name := strategy.name
  imports := strategy.imports
  parameters := strategy.parameters
  lookback := strategy.lookback
  statements := strategy.statements

namespace Sections

variable {options : Options} {sections : Sections}

/-- The line that heads the parameters. -/
def parameterHeading (options : Options) : String := options.margin 1 ++ "# Strategy parameters"

/-- The declaration of a parameter. -/
def declaration (options : Options) (parameter : String × Value) : String :=
  options.margin 1 ++ parameter.1 ++ " = " ++ parameter.2.literal

/-- A line of a statement in the script. -/
def placed (options : Options) (line : String) : String := options.margin 2 ++ reindent options line

theorem parameterLines_eq (h : sections.parameters ≠ []) :
    sections.parameterLines options =
      parameterHeading options :: (sections.parameters.map (declaration options) ++ [""]) := by
  rw [parameterLines, if_neg (by simpa using h)]
  rfl

theorem bodyLines_eq (h : sections.statements ≠ []) :
    sections.bodyLines options = (sections.statements.flatMap lines).map (placed options) := by
  rw [bodyLines, if_neg (by simpa using h)]
  rfl

theorem newline_notMem_margin (options : Options) (level : Nat) :
    '\n' ∉ (options.margin level).toList := by
  rw [Options.margin, String.toList_ofList]
  exact fun h => absurd (List.eq_of_mem_replicate h) (by decide)

theorem newline_notMem_placed {line : String} (h : '\n' ∉ line.toList) :
    '\n' ∉ (placed options line).toList := by
  have hblank {count : Nat} : '\n' ∉ List.replicate count ' ' := fun hmem =>
    absurd (List.eq_of_mem_replicate hmem) (by decide)
  rw [placed, reindent, String.toList_append, String.toList_ofList, List.mem_append,
    List.mem_append, List.mem_append]
  rintro (hmem | (hmem | hmem) | hmem)
  · exact newline_notMem_margin options 2 hmem
  · exact hblank hmem
  · exact hblank hmem
  · exact h ((List.dropWhile_sublist _).subset hmem)

/-- A declaration takes a row more than its name has line feeds; its value has none. -/
theorem length_rows_declaration (options : Options) (parameter : String × Value) :
    (rows (declaration options parameter)).length = parameter.1.toList.count '\n' + 1 := by
  have hmargin := List.count_eq_zero.2 (newline_notMem_margin options 1)
  have hvalue := List.count_eq_zero.2 (Value.newline_notMem_literal parameter.2)
  have hequals : " = ".toList.count '\n' = 0 := by decide
  rw [length_rows, declaration, String.toList_append, String.toList_append, String.toList_append,
    List.count_append, List.count_append, List.count_append, hmargin, hvalue, hequals,
    Nat.zero_add, Nat.add_zero, Nat.add_zero]

theorem newline_notMem_declaration_iff {parameter : String × Value} :
    '\n' ∉ (declaration options parameter).toList ↔ '\n' ∉ parameter.1.toList := by
  have hlength := length_rows_declaration options parameter
  rw [length_rows] at hlength
  rw [← List.count_eq_zero, ← List.count_eq_zero]
  omega

/-! ### Indentation -/

/-- How far a line stands in that has `spaces` leading spaces in its statement: each four of them
make an indent. -/
def width (options : Options) (spaces : Nat) : Nat :=
  spaces / 4 * max options.indent 1 + spaces % 4

theorem leading_reindent (options : Options) (line : String) :
    leading (reindent options line) = width options (leading line) := by
  rw [leading, reindent, String.toList_ofList, List.append_assoc, takeWhile_replicate_append,
    takeWhile_replicate_append, takeWhile_dropWhile, List.append_nil, List.length_append,
    List.length_replicate, List.length_replicate]
  rfl

theorem leading_placed (options : Options) (line : String) :
    leading (placed options line) = 2 * max options.indent 1 + width options (leading line) := by
  rw [placed, Options.margin, leading_ofList_append, leading_reindent]

/-- What a line with `m` leading spaces has left over after its full levels reaches over all indents
up to a line with `n` of them. -/
def Overshoots (options : Options) (m n : Nat) : Prop :=
  m / 4 < n / 4 ∧ (n / 4 - m / 4) * max options.indent 1 + n % 4 ≤ m % 4

/-- The second line is the deeper one in the script exactly if it is in the statement. -/
def KeepsOrder (options : Options) (first second : String) : Prop :=
  leading (placed options first) < leading (placed options second) ↔ leading first < leading second

theorem width_le_iff {m n : Nat} (hlevel : m / 4 < n / 4) :
    width options n ≤ width options m ↔ Overshoots options m n := by
  have hindents : n / 4 * max options.indent 1 =
      m / 4 * max options.indent 1 + (n / 4 - m / 4) * max options.indent 1 := by
    rw [← Nat.add_mul, Nat.add_sub_cancel' hlevel.le]
  rw [width, width, hindents, Overshoots, and_iff_right hlevel]
  omega

/-- **The order of two lines is kept exactly if neither overshoots the other.** -/
theorem keepsOrder_iff (options : Options) (first second : String) :
    (KeepsOrder options first second ∧ KeepsOrder options second first) ↔
      ¬Overshoots options (leading first) (leading second) ∧
        ¬Overshoots options (leading second) (leading first) := by
  have hnot {m n : Nat} (h : n / 4 ≤ m / 4) : ¬Overshoots options m n := fun hover =>
    absurd hover.1 (Nat.not_lt.2 h)
  rw [KeepsOrder, KeepsOrder, leading_placed, leading_placed]
  generalize leading first = m, leading second = n
  rcases lt_trichotomy (m / 4) (n / 4) with h | h | h
  · rw [← width_le_iff h, and_iff_left (hnot h.le)]
    omega
  · -- On one level only the spaces that are left over count.
    rw [and_iff_left (hnot h.le), iff_true_right (hnot h.ge), width, width, h]
    omega
  · rw [← width_le_iff h, and_iff_right (hnot h.le)]
    omega

/-- A line does not overshoot if fewer spaces are left over than make an indent. -/
theorem not_overshoots {m : Nat} (h : m % 4 < max options.indent 1) (n : Nat) :
    ¬Overshoots options m n := by
  rintro ⟨hlevel, hover⟩
  have hone : 1 * max options.indent 1 ≤ (n / 4 - m / 4) * max options.indent 1 :=
    Nat.mul_le_mul_right _ (by omega)
  omega

end Sections

namespace Graph

variable {g : Graph} {options : Options} {name : String} {strategy : Strategy}

theorem rows_of_compile (h : g.compile options name = .ok strategy) :
    rows strategy.source =
      (strategy.sections.headLines options ++ strategy.sections.classLines options
        ++ strategy.sections.parameterLines options ++ strategy.sections.entryLines options
        ++ strategy.sections.bodyLines options ++ [""]).flatMap rows := by
  obtain ⟨_, rfl⟩ := exists_strategyOf_of_compile h
  exact rows_intercalate (by simp)

/-! ### The rows of the parameters -/

/-- The rows between the heading of the parameters and a blank row are the declarations, one for
each parameter. -/
def DeclaresByRow (options : Options) (strategy : Strategy) : Prop :=
  ∃ before after, rows strategy.source =
    before ++ Sections.parameterHeading options ::
      (strategy.parameters.map (Sections.declaration options) ++ "" :: after)

/-- The parameters take the rows of their declarations, under a row of their own. -/
theorem rows_parameters (h : g.compile options name = .ok strategy)
    (hne : strategy.parameters ≠ []) :
    ∃ before after, rows strategy.source =
      before ++ Sections.parameterHeading options ::
        ((strategy.parameters.map (Sections.declaration options)).flatMap rows ++ "" :: after) := by
  have hheading : rows (Sections.parameterHeading options) =
      [Sections.parameterHeading options] := by
    refine rows_of_notMem ?_
    rw [Sections.parameterHeading, String.toList_append, List.mem_append, not_or]
    exact ⟨Sections.newline_notMem_margin options 1, by decide⟩
  have hblank : rows "" = [""] := rows_of_notMem (by decide)
  have hlines : strategy.sections.parameterLines options =
      Sections.parameterHeading options ::
        (strategy.parameters.map (Sections.declaration options) ++ [""]) :=
    Sections.parameterLines_eq hne
  refine ⟨(strategy.sections.headLines options
      ++ strategy.sections.classLines options).flatMap rows,
    (strategy.sections.entryLines options ++ strategy.sections.bodyLines options
      ++ [""]).flatMap rows, ?_⟩
  rw [rows_of_compile h, hlines]
  simp only [List.flatMap_append, List.flatMap_cons, List.flatMap_nil, List.append_nil,
    List.append_assoc, List.cons_append, List.nil_append, hheading, hblank]

/-- A name with a line feed breaks its declaration, and nothing else does. -/
theorem declaresByRow_iff (h : g.compile options name = .ok strategy)
    (hne : strategy.parameters ≠ []) :
    DeclaresByRow options strategy ↔
      ∀ declaredName ∈ strategy.parameters.map Prod.fst, '\n' ∉ declaredName.toList := by
  rw [List.forall_mem_map]
  constructor
  · rintro ⟨before, after, hrows⟩ parameter hparameter
    have hrow : Sections.declaration options parameter ∈ rows strategy.source := by
      rw [hrows]
      refine List.mem_append_right _ (List.mem_cons_of_mem _ (List.mem_append_left _ ?_))
      exact List.mem_map_of_mem hparameter
    exact Sections.newline_notMem_declaration_iff.1 (newline_notMem_of_mem_rows hrow)
  · intro hnames
    obtain ⟨before, after, hrows⟩ := rows_parameters h hne
    have hone : (strategy.parameters.map (Sections.declaration options)).flatMap rows =
        strategy.parameters.map (Sections.declaration options) :=
      flatMap_rows_of_notMem (List.forall_mem_map.2 fun parameter hparameter =>
        Sections.newline_notMem_declaration_iff.2 (hnames parameter hparameter))
    rw [hone] at hrows
    exact ⟨before, after, hrows⟩

theorem newline_notMem_lastSegment {tag : String} {variant : Variant}
    (h : Catalog.builtin.get? tag = some variant) : '\n' ∉ (Node.lastSegment tag).toList := by
  have hall : ∀ tag ∈ Catalog.builtin.keys, '\n' ∉ (Node.shortTag tag).toList := by
    decide +kernel
  rw [← Node.shortTag_eq_lastSegment]
  exact hall tag (OrderedMap.mem_keys_of_get? h)

theorem newline_notMem_names_iff (hg : Reachable Catalog.builtin g)
    (h : g.compile options name = .ok strategy) :
    (∀ declaredName ∈ strategy.parameters.map Prod.fst, '\n' ∉ declaredName.toList) ↔
      ∀ node ∈ g.nodes, ∀ key ∈ node.parameters.keys, ¬"_input_".toList <+: key.toList →
        '\n' ∉ key.toList := by
  have hname {node : Node} (hnode : node ∈ g.nodes) (key : String) :
      '\n' ∉ (Node.lastSegment node.type ++ "_" ++ key).toList ↔ '\n' ∉ key.toList := by
    obtain ⟨variant, hvariant, -⟩ := hg.wellFormed.registered node hnode
    have htag := newline_notMem_lastSegment hvariant
    have hunderscore : '\n' ∉ "_".toList := by decide
    rw [String.toList_append, String.toList_append, List.mem_append, List.mem_append,
      or_iff_right (not_or.2 ⟨htag, hunderscore⟩)]
  constructor
  · intro hnames node hnode key hkey hmark
    exact (hname hnode key).1 (hnames _ ((mem_names_iff h).2 ⟨node, hnode, key, hkey, hmark, rfl⟩))
  · intro hkeys declaredName hdeclared
    obtain ⟨node, hnode, key, hkey, hmark, rfl⟩ := (mem_names_iff h).1 hdeclared
    exact (hname hnode key).2 (hkeys node hnode key hkey hmark)

/-- **The parameters take the rows of their declarations.**  A declaration takes a row more than its
name has line feeds, whatever its value is.  Over the built-in catalog there is one row for each
parameter exactly if no declared key has a line feed. -/
theorem parameter_rows (hg : Reachable Catalog.builtin g)
    (h : g.compile options name = .ok strategy) (hne : strategy.parameters ≠ []) :
    (∃ before after, rows strategy.source =
      before ++ Sections.parameterHeading options ::
        ((strategy.parameters.map (Sections.declaration options)).flatMap rows ++ "" :: after)) ∧
    (∀ parameter ∈ strategy.parameters,
      (rows (Sections.declaration options parameter)).length =
        parameter.1.toList.count '\n' + 1) ∧
    (DeclaresByRow options strategy ↔
      ∀ node ∈ g.nodes, ∀ key ∈ node.parameters.keys, ¬"_input_".toList <+: key.toList →
        '\n' ∉ key.toList) :=
  ⟨rows_parameters h hne, fun parameter _ => Sections.length_rows_declaration options parameter,
    (declaresByRow_iff h hne).trans (newline_notMem_names_iff hg h)⟩

/-- No key has a line feed, so the sales declare each name on a row of its own. -/
theorem sales_rows :
    Reachable Catalog.builtin Sample.sales ∧
    ∃ strategy, Sample.sales.compile {} "Sales" = .ok strategy ∧
      strategy.parameters =
        [("sell_all_quantity", .float (.ofInt 2)), ("sell_quantity", .text "7")] ∧
      DeclaresByRow {} strategy := by
  have hkeys : ∀ node ∈ Sample.sales.nodes, ∀ key ∈ node.parameters.keys, '\n' ∉ key.toList := by
    decide +kernel
  have hparameters : (Sample.sales.strategyOf {} "Sales" ["s", "a", "t"]).parameters =
      [("sell_all_quantity", .float (.ofInt 2)), ("sell_quantity", .text "7")] := by
    rw [parameters_strategyOf, parameterBlock_sales]
  have hne : (Sample.sales.strategyOf {} "Sales" ["s", "a", "t"]).parameters ≠ [] := by
    rw [hparameters]
    exact List.cons_ne_nil _ _
  obtain ⟨-, -, hrows⟩ := parameter_rows reachable_sales (compile_sales {} "Sales") hne
  exact ⟨reachable_sales, _, compile_sales {} "Sales", hparameters,
    hrows.2 fun node hnode key hkey _ => hkeys node hnode key hkey⟩

end Graph

namespace Sample

/-- An order with a parameter whose key goes on after a line feed. -/
def spilled : Graph := (Graph.ofDocument Catalog.builtin
  { nodes := [⟨"b", "trade.buy", {}, .ofList
      [("_input_condition", .bool true), ("x = 0\n    import os\n    y", .int 1)]⟩] }).graph

end Sample

namespace Graph

/-- **A key can bring in rows of its own**: the class imports a module. -/
theorem spilled_import :
    Reachable Catalog.builtin Sample.spilled ∧
    ∃ strategy, Sample.spilled.compile {} "Spilled" = .ok strategy ∧
      strategy.parameters = [("buy_x = 0\n    import os\n    y", .int 1)] ∧
      ¬DeclaresByRow {} strategy ∧ "    import os" ∈ rows strategy.source := by
  have hvalues : Sample.spilled.validate = [] ∧ Sample.spilled.executionOrder = .ok ["b"] ∧
      Sample.spilled.parameterBlock = [("buy_x = 0\n    import os\n    y", .int 1)] ∧
      '\n' ∈ "buy_x = 0\n    import os\n    y".toList ∧
      "    import os" ∈
        rows (Sections.declaration {} ("buy_x = 0\n    import os\n    y", .int 1)) := by
    decide +kernel
  obtain ⟨hvalid, horder, hblock, hnewline, hrow⟩ := hvalues
  have hcompile : Sample.spilled.compile {} "Spilled" =
      .ok (Sample.spilled.strategyOf {} "Spilled" ["b"]) := compile_of_valid hvalid horder
  have hparameters : (Sample.spilled.strategyOf {} "Spilled" ["b"]).parameters =
      [("buy_x = 0\n    import os\n    y", .int 1)] := by rw [parameters_strategyOf, hblock]
  have hne : (Sample.spilled.strategyOf {} "Spilled" ["b"]).parameters ≠ [] := by
    rw [hparameters]
    exact List.cons_ne_nil _ _
  refine ⟨.loaded (by decide +kernel), _, hcompile, hparameters, ?_, ?_⟩
  · rw [declaresByRow_iff hcompile hne, hparameters]
    exact fun hnames => hnames _ List.mem_cons_self hnewline
  · obtain ⟨before, after, hrows⟩ := rows_parameters hcompile hne
    rw [hrows, hparameters]
    refine List.mem_append_right _ (List.mem_cons_of_mem _ (List.mem_append_left _ ?_))
    exact List.mem_flatMap.2 ⟨_, List.mem_cons_self, hrow⟩

/-! ### The rows of a statement -/

variable {g : Graph} {options : Options} {name : String} {strategy : Strategy}

/-- The lines of a statement are rows of the script, one after another. -/
theorem rows_statement (h : g.compile options name = .ok strategy) {statement : String}
    (hstatement : statement ∈ strategy.statements) :
    ∃ before after, rows strategy.source =
      before ++ ((lines statement).map (Sections.placed options) ++ after) := by
  obtain ⟨earlier, later, hsplit⟩ := List.append_of_mem hstatement
  have hlines : strategy.sections.bodyLines options =
      (strategy.statements.flatMap lines).map (Sections.placed options) :=
    Sections.bodyLines_eq (List.ne_nil_of_mem hstatement)
  have hrows : ((lines statement).map (Sections.placed options)).flatMap rows =
      (lines statement).map (Sections.placed options) :=
    flatMap_rows_of_notMem (List.forall_mem_map.2 fun line hline =>
      Sections.newline_notMem_placed (newline_notMem_of_mem_lines hline))
  refine ⟨(strategy.sections.headLines options ++ strategy.sections.classLines options
      ++ strategy.sections.parameterLines options ++ strategy.sections.entryLines options
      ++ (earlier.flatMap lines).map (Sections.placed options)).flatMap rows,
    ((later.flatMap lines).map (Sections.placed options) ++ [""]).flatMap rows, ?_⟩
  rw [rows_of_compile h, hlines, hsplit]
  simp only [List.flatMap_append, List.flatMap_cons, List.map_append, List.append_assoc, hrows]

/-- **Of two lines of a statement, the deeper one is the deeper one in the script, exactly if
neither overshoots the other.**  With four spaces or more to an indent no line does.  Over the
built-in catalog none does at any indent, unless a text among the parameters has a line feed. -/
theorem statement_indentation (h : g.compile options name = .ok strategy) {statement : String}
    (hstatement : statement ∈ strategy.statements) :
    (∃ before after, rows strategy.source =
      before ++ ((lines statement).map (Sections.placed options) ++ after)) ∧
    (∀ first ∈ lines statement, ∀ second ∈ lines statement,
      (Sections.KeepsOrder options first second ∧ Sections.KeepsOrder options second first) ↔
        ¬Sections.Overshoots options (leading first) (leading second) ∧
          ¬Sections.Overshoots options (leading second) (leading first)) ∧
    (4 ≤ options.indent → ∀ first ∈ lines statement, ∀ second ∈ lines statement,
      Sections.KeepsOrder options first second) ∧
    (Reachable Catalog.builtin g → g.Unbroken → ∀ first ∈ lines statement,
      ∀ second ∈ lines statement, Sections.KeepsOrder options first second) := by
  refine ⟨rows_statement h hstatement, fun first _ second _ =>
    Sections.keepsOrder_iff options first second, fun hindent first _ second _ => ?_,
    fun hg hunbroken first hfirst second hsecond => ?_⟩
  · have hrest (line : String) : leading line % 4 < max options.indent 1 := by omega
    exact ((Sections.keepsOrder_iff options first second).2
      ⟨Sections.not_overshoots (hrest first) _, Sections.not_overshoots (hrest second) _⟩).1
  · have hrest {line : String} (hline : line ∈ lines statement) :
        leading line % 4 < max options.indent 1 := by
      have hlevel := four_dvd_leading hg.wellFormed hunbroken h hstatement hline
      omega
    exact ((Sections.keepsOrder_iff options first second).2
      ⟨Sections.not_overshoots (hrest hfirst) _, Sections.not_overshoots (hrest hsecond) _⟩).1

end Graph

namespace Sample

/-- The statement of the first sale. -/
def saleStatement : String :=
  "if True:\n    if self.position > 0:\n        self.sell(bar.close, 5)"

end Sample

namespace Graph

/-- With two spaces to an indent, the test of the position stays within the first one. -/
theorem sales_indentation :
    Reachable Catalog.builtin Sample.sales ∧ Sample.sales.Unbroken ∧
    ∃ strategy, Sample.sales.compile { indent := 2 } "Sales" = .ok strategy ∧
      Sample.saleStatement ∈ strategy.statements ∧
      (∃ before after, rows strategy.source = before ++ (["    if True:",
        "      if self.position > 0:", "        self.sell(bar.close, 5)"] ++ after)) ∧
      ∀ first ∈ lines Sample.saleStatement, ∀ second ∈ lines Sample.saleStatement,
        Sections.KeepsOrder { indent := 2 } first second := by
  have hvalues : (∀ node ∈ Sample.sales.nodes, ∀ entry ∈ node.parameters.entries,
        '\n' ∉ entry.2.render.toList) ∧
      Sample.saleStatement ∈ (Sample.sales.emitAll ["s", "a", "t"]).statements ∧
      (lines Sample.saleStatement).map (Sections.placed { indent := 2 }) = ["    if True:",
        "      if self.position > 0:", "        self.sell(bar.close, 5)"] := by
    decide +kernel
  obtain ⟨hunbroken, hstatement, hplaced⟩ := hvalues
  rw [← statements_strategyOf { indent := 2 } "Sales"] at hstatement
  have hcompile := compile_sales { indent := 2 } "Sales"
  obtain ⟨hrows, -, -, hkeeps⟩ := statement_indentation hcompile hstatement
  rw [hplaced] at hrows
  exact ⟨reachable_sales, hunbroken, _, hcompile, hstatement, hrows,
    hkeeps reachable_sales hunbroken⟩

end Graph

namespace Sample

/-- An order within two tests, in steps of three spaces and one. -/
def nestedStatement : String :=
  "if self.position == 0:\n   if self.cash > 0:\n    self.buy(bar.close, 1)"

/-- The catalog with a variant that emits this statement. -/
def nestedCatalog : Catalog := Catalog.empty.register
  { tag := "trade.nested", category := .trade, title := "Nested Order", inputs := [], outputs := [],
    statements := [[.text nestedStatement]] }

/-- One such order. -/
def nested : Graph :=
  (Graph.ofDocument nestedCatalog { nodes := [⟨"n", "trade.nested", {}, .empty⟩] }).graph

end Sample

namespace Graph

/-- **Indents of two spaces can undo a block**: the order stands out from the test that it stands
within. -/
theorem nested_dedented :
    Reachable Sample.nestedCatalog Sample.nested ∧
    ∃ strategy, Sample.nested.compile { indent := 2 } "Nested" = .ok strategy ∧
      Sample.nestedStatement ∈ strategy.statements ∧
      (∃ before after, rows strategy.source = before ++ (["    if self.position == 0:",
        "       if self.cash > 0:", "      self.buy(bar.close, 1)"] ++ after)) ∧
      ∃ first ∈ lines Sample.nestedStatement, ∃ second ∈ lines Sample.nestedStatement,
        leading first < leading second ∧ ¬Sections.KeepsOrder { indent := 2 } first second := by
  have hvalues : Sample.nested.validate = [] ∧ Sample.nested.executionOrder = .ok ["n"] ∧
      Sample.nestedStatement ∈ (Sample.nested.emitAll ["n"]).statements ∧
      lines Sample.nestedStatement = ["if self.position == 0:", "   if self.cash > 0:",
        "    self.buy(bar.close, 1)"] ∧
      (lines Sample.nestedStatement).map (Sections.placed { indent := 2 }) =
        ["    if self.position == 0:", "       if self.cash > 0:", "      self.buy(bar.close, 1)"] ∧
      leading "   if self.cash > 0:" = 3 ∧ leading "    self.buy(bar.close, 1)" = 4 := by
    decide +kernel
  obtain ⟨hvalid, horder, hstatement, hlines, hplaced, hfirst, hsecond⟩ := hvalues
  have hcompile : Sample.nested.compile { indent := 2 } "Nested" =
      .ok (Sample.nested.strategyOf { indent := 2 } "Nested" ["n"]) :=
    compile_of_valid hvalid horder
  rw [← statements_strategyOf { indent := 2 } "Nested"] at hstatement
  have hrows := rows_statement hcompile hstatement
  rw [hplaced] at hrows
  refine ⟨.loaded (by decide +kernel), _, hcompile, hstatement, hrows, ?_⟩
  rw [hlines]
  refine ⟨"   if self.cash > 0:", by simp, "    self.buy(bar.close, 1)", by simp, ?_⟩
  rw [Sections.KeepsOrder, Sections.leading_placed, Sections.leading_placed, hfirst, hsecond]
  decide

end Graph

end Blueprint
