import Blueprint.Proofs.Grammar
import Blueprint.Proofs.Nesting
import Blueprint.Proofs.Placeholders

/-!
# Expressions are unambiguous

What a node of a built-in type computes at an output is an operator tree, and this is said here
apart from texts: a table gives the shape of the expression at each output (`Catalog.shapes`), and
the holes of a shape are filled in with the trees at the other ends of the connections
(`Graph.operatorTree`).  The recursion goes back along connections, so it is well-founded without
cycles.

The templates of the catalog are those of the shapes (`Catalog.shape_of_mem_builtin`), so the
expression at an output is the text of its tree (`Graph.exists_operatorTree`).

Main statement: without cycles and text parameters, **the expression at an output has balanced
parentheses and reads back as its operator tree and no other** (`Graph.expression_unambiguous`).
-/

namespace Blueprint

/-! ### Values and variables as leaves -/

/-- The numeral of a natural number that shows its point. -/
def Numeral.pointed (k : Nat) : Numeral :=
  { ofNat k with
    fraction := some ['0']
    fraction_isDigits := by
      rintro _ ⟨⟩
      exact Text.isDigits_zero }

theorem Numeral.text_pointed (k : Nat) : (pointed k).text = (Nat.repr k).toList ++ ".0".toList :=
  rfl

namespace Leaf

/-- The leaf of a value. -/
def ofValue : Value → Leaf
  | .bool b => .boolean b
  | value => .number value.render

/-- The leaf of a value that may be missing. -/
def ofValue? (value : Option Value) : Leaf := (value.map ofValue).getD .absent

theorem write_ofValue (value : Value) : (ofValue value).write = value.render.toList := by
  cases value with
  | bool b => cases b <;> rfl
  | int _ | float _ | text _ => rfl

theorem proper_renderDouble (x : Double) : (Leaf.number (Value.renderDouble x)).Proper := by
  rw [Value.renderDouble]
  split_ifs with hnan hinfinite hnegative hwhole hnegative
  · exact .word (by decide)
  · exact .word (by decide)
  · exact .word (by decide)
  · exact .number ⟨true, .pointed x.truncate.natAbs, by simp [Numeral.text_pointed]⟩
  · exact .number ⟨false, .pointed x.truncate.natAbs, by simp [Numeral.text_pointed]⟩
  · exact .number (Json.isNumeral_write _ x)

theorem proper_ofValue {value : Value} (h : value.isText = false) : (ofValue value).Proper := by
  cases value with
  | bool b => cases b <;> exact .word (by decide)
  | int i => exact .number (Json.isNumeral_toString i.toInt)
  | float x => exact proper_renderDouble x
  | text s => cases h

theorem proper_ofValue? {value : Option Value} (h : value.all (!·.isText) = true) :
    (ofValue? value).Proper := by
  cases value with
  | none => exact .word (by decide)
  | some value => exact proper_ofValue (by simpa using h)

end Leaf

theorem Node.isVariable_variableName (node : Node) {suffix : String}
    (hsuffix : suffix.toList.all Text.isWord = true) :
    Leaf.IsVariable (node.variableName suffix) where
  isWord := isWord_of_mem_variableName hsuffix
  head?_eq := by
    rw [variableName, String.toList_ofList]
    rfl

/-! ### Shapes -/

/-- What an expression at an output looks like, with holes for what differs between nodes. -/
inductive Shape where
  /-- A part of the state that the script offers. -/
  | accessor (subject : Subject) (field : String)
  /-- A fixed value. -/
  | literal (value : Value)
  /-- The variable of the node with a suffix. -/
  | var (suffix : String)
  /-- A field of such a variable. -/
  | member (suffix field : String)
  /-- The node's own parameter, or a fixed value if it is not set. -/
  | parameter (key : String) (otherwise : Value)
  /-- What feeds an input, or a fixed value if nothing does. -/
  | input (port : String) (otherwise : Option Value)
  /-- The last element of a series. -/
  | last (series : Shape)
  /-- The negation of a condition. -/
  | negation (operand : Shape)
  /-- An operator between two operands. -/
  | binary (operator : Operator) (left right : Shape)
  deriving DecidableEq

/-- The text is that of a proper tree. -/
structure Expression.Spells (tree : Expression) (text : String) : Prop where
  /-- The leaves are what their kinds say. -/
  proper : tree.Proper
  /-- The tree is written so. -/
  toList_eq : text.toList = tree.write

theorem Expression.Spells.isEmpty_eq_false {tree : Expression} {text : String}
    (h : tree.Spells text) : text.isEmpty = false := by
  obtain ⟨c, hc, -⟩ := h.proper.head?_write
  rw [← h.toList_eq] at hc
  cases hempty : text.isEmpty with
  | false => rfl
  | true =>
    rw [String.isEmpty_iff.1 hempty] at hc
    cases hc

namespace Template

variable {node : Node} {asked : String} {resolve : String → Option String}

theorem toList_fill_append (s t : Template) :
    (Template.fill node asked resolve (s ++ t)).toList =
      (s.fill node asked resolve).toList ++ (t.fill node asked resolve).toList := by
  rw [fill, fill, fill, String.toList_join, String.toList_join, String.toList_join, List.map_append,
    List.flatMap_append]

theorem fill_singleton (piece : Piece) :
    Template.fill node asked resolve [piece] = piece.fill node asked resolve := by
  simp [fill]

end Template

namespace Shape

/-- The tree of a shape for one node, with the trees that feed its inputs. -/
def fill (node : Node) (operand : String → Option Expression) : Shape → Expression
  | .accessor subject field => .atom (.accessor subject field)
  | .literal value => .atom (.ofValue value)
  | .var suffix => .atom (.var (node.variableName suffix))
  | .member suffix field => .atom (.member (node.variableName suffix) field)
  | .parameter key otherwise => .atom (.ofValue ((node.parameters.get? key).getD otherwise))
  | .input port otherwise => (operand port).getD (.atom (.ofValue? otherwise))
  | .last series => .last (series.fill node operand)
  | .negation inner => .negation (inner.fill node operand)
  | .binary operator left right =>
    .binary operator (left.fill node operand) (right.fill node operand)

/-- The template of a shape. -/
def template : Shape → Template
  | .accessor subject field => [.text (subject.name ++ "." ++ field)]
  | .literal value => [.text value.render]
  | .var suffix => [.var suffix]
  | .member suffix field => [.var suffix, .text ("." ++ field)]
  | .parameter key otherwise => [.parameter key otherwise]
  | .input port otherwise => [.input port (.ofList (Leaf.ofValue? otherwise).write)]
  | .last series => series.template ++ [.text "[-1]"]
  | .negation operand => [.text "(not "] ++ (operand.template ++ [.text ")"])
  | .binary operator left right =>
    [.text "("] ++ (left.template ++ ([.text (.ofList operator.write)] ++
      (right.template ++ [.text ")"])))

/-- Names are words and no value is a text. -/
def isProper : Shape → Bool
  | .accessor _ field => field.toList.all Text.isWord
  | .literal value => !value.isText
  | .var suffix => suffix.toList.all Text.isWord
  | .member suffix field => suffix.toList.all Text.isWord && field.toList.all Text.isWord
  | .parameter _ otherwise => !otherwise.isText
  | .input _ otherwise => otherwise.all (!·.isText)
  | .last series => series.isProper
  | .negation operand => operand.isProper
  | .binary _ left right => left.isProper && right.isProper

variable {node : Node} {asked : String} {operand : String → Option Expression}
  {resolve : String → Option String}

/-- **The template of a shape is filled in with the text of its tree.** -/
theorem spells_fill {shape : Shape} (hproper : shape.isProper = true)
    (hoperand : ∀ port, Option.Rel Expression.Spells (operand port) (resolve port))
    (hvalues : ∀ key value, node.parameters.get? key = some value → value.isText = false) :
    (shape.fill node operand).Spells (shape.template.fill node asked resolve) := by
  induction shape with
  | accessor subject field =>
    refine ⟨.atom (.accessor subject (List.all_eq_true.1 hproper)), ?_⟩
    rw [template, Template.fill_singleton]
    simp [fill, Piece.fill, Expression.write, Leaf.write]
  | literal value =>
    have hvalue : value.isText = false := by simpa [isProper] using hproper
    refine ⟨.atom (Leaf.proper_ofValue hvalue), ?_⟩
    rw [template, Template.fill_singleton, fill, Expression.write, Leaf.write_ofValue]
    rfl
  | var suffix =>
    refine ⟨.atom (.var (node.isVariable_variableName hproper)), ?_⟩
    rw [template, Template.fill_singleton]
    rfl
  | member suffix field =>
    obtain ⟨hsuffix, hfield⟩ := Bool.and_eq_true_iff.1 hproper
    have hname := node.isVariable_variableName hsuffix
    refine ⟨.atom (.member hname (List.all_eq_true.1 hfield)), ?_⟩
    rw [template, Template.toList_fill_cons, Template.fill_singleton]
    simp [fill, Piece.fill, Expression.write, Leaf.write]
  | parameter key otherwise =>
    have hvalue : ((node.parameters.get? key).getD otherwise).isText = false := by
      cases hget : node.parameters.get? key with
      | none => simpa [isProper] using hproper
      | some value => exact hvalues key value hget
    refine ⟨.atom (Leaf.proper_ofValue hvalue), ?_⟩
    rw [template, Template.fill_singleton, fill, Expression.write, Leaf.write_ofValue]
    rfl
  | input port otherwise =>
    have hrel := hoperand port
    rw [template, Template.fill_singleton, Piece.fill, fill]
    generalize operand port = tree, resolve port = text at hrel
    cases hrel with
    | none =>
      refine ⟨.atom (Leaf.proper_ofValue? hproper), ?_⟩
      simp [Expression.write]
    | some hspells =>
      -- A tree is never written as nothing, so its text is not taken for a missing one.
      have hne := hspells.isEmpty_eq_false
      simpa [hne] using hspells
  | last series ih =>
    have hseries := ih hproper
    refine ⟨.last hseries.proper, ?_⟩
    rw [template, Template.toList_fill_append, hseries.toList_eq, Template.fill_singleton]
    rfl
  | negation inner ih =>
    have hinner := ih hproper
    refine ⟨.negation hinner.proper, ?_⟩
    simp only [template, Template.toList_fill_append, hinner.toList_eq, Template.fill_singleton]
    rfl
  | binary operator left right ihleft ihright =>
    obtain ⟨hleft, hright⟩ := Bool.and_eq_true_iff.1 hproper
    have hleft := ihleft hleft
    have hright := ihright hright
    refine ⟨.binary operator hleft.proper hright.proper, ?_⟩
    simp only [template, Template.toList_fill_append, hleft.toList_eq, hright.toList_eq,
      Template.fill_singleton, Piece.fill, String.toList_ofList]
    rfl

end Shape

/-! ### The built-in shapes -/

namespace Catalog

/-- A history or an indicator binds a series, and offers its last element too. -/
def seriesShapes (port suffix : String) : List (String × Shape) :=
  [(port, .var suffix), ("current", .last (.var suffix))]

/-- An indicator binds a record of series. -/
def recordShapes (suffix : String) (ports : List String) : List (String × Shape) :=
  ports.map fun port => (port, .member suffix port)

/-- An operator between two inputs, with values for the inputs that nothing feeds. -/
def operatorShapes (port : String) (operator : Operator) (left right : String × Option Value) :
    List (String × Shape) :=
  [(port, .binary operator (.input left.1 left.2) (.input right.1 right.2))]

/-- The size of the position. -/
def positionShape : Shape := .accessor .strategy "position"

/-- The shapes of the expressions at the outputs of the built-in types. -/
def shapes : List (String × List (String × Shape)) := [
  ("data.bar", ["open", "high", "low", "close", "volume"].map fun field =>
    (field, .accessor .bar field)),
  ("data.position", [("quantity", positionShape),
    ("has_position", .binary .greater positionShape (.literal (.int 0)))]),
  ("data.cash", [("cash", .accessor .strategy "cash"),
    ("total", .accessor .strategy "total_value")]),
  ("data.close_prices", seriesShapes "prices" "closes"),
  ("data.open_prices", seriesShapes "prices" "opens"),
  ("data.high_prices", seriesShapes "prices" "highs"),
  ("data.low_prices", seriesShapes "prices" "lows"),
  ("data.volume_series", seriesShapes "volumes" "volumes"),
  ("indicator.ma", seriesShapes "ma" "ma"),
  ("indicator.ema", seriesShapes "ema" "ema"),
  ("indicator.wma", seriesShapes "wma" "wma"),
  ("indicator.macd", recordShapes "macd_result" ["dif", "dea", "macd"]),
  ("indicator.rsi", seriesShapes "rsi" "rsi"),
  ("indicator.boll", recordShapes "boll" ["upper", "middle", "lower"]),
  ("indicator.kdj", recordShapes "kdj" ["k", "d", "j"]),
  ("indicator.atr", seriesShapes "atr" "atr"),
  ("indicator.cci", seriesShapes "cci" "cci"),
  ("indicator.obv", seriesShapes "obv" "obv"),
  ("indicator.vwap", seriesShapes "vwap" "vwap"),
  ("indicator.dmi", [("pdi", .var "dmi_pdi"), ("mdi", .var "dmi_mdi"), ("adx", .var "dmi_adx")]),
  ("logic.not", [("result", .negation (.input "input" none))]),
  ("logic.greater", operatorShapes "result" .greater ("a", none) ("b", none)),
  ("logic.less", operatorShapes "result" .less ("a", none) ("b", none)),
  ("logic.equal", operatorShapes "result" .equal ("a", none) ("b", none)),
  ("logic.greater_equal", operatorShapes "result" .greaterEqual ("a", none) ("b", none)),
  ("logic.less_equal", operatorShapes "result" .lessEqual ("a", none) ("b", none)),
  ("logic.and", operatorShapes "result" .and ("a", none) ("b", none)),
  ("logic.or", operatorShapes "result" .or ("a", none) ("b", none)),
  ("signal.cross_over", [("signal", .var "cross_over")]),
  ("signal.cross_under", [("signal", .var "cross_under")]),
  ("signal.break_up", operatorShapes "signal" .greater ("price", none) ("level", none)),
  ("signal.break_down", operatorShapes "signal" .less ("price", none) ("level", none)),
  ("signal.oversold",
    operatorShapes "signal" .less ("value", none) ("threshold", some (.int 30))),
  ("signal.overbought",
    operatorShapes "signal" .greater ("value", none) ("threshold", some (.int 70))),
  ("param.number", [("value", .parameter "value" (.int 0))]),
  ("param.period", [("period", .parameter "period" (.int 20))]),
  ("param.quantity", [("quantity", .parameter "quantity" (.int 100))]),
  ("param.percent", [("percent", .parameter "percent" (.float (.ofInt 5)))]),
  ("param.add", operatorShapes "result" .add ("a", some (.int 0)) ("b", some (.int 0))),
  ("param.sub", operatorShapes "result" .subtract ("a", some (.int 0)) ("b", some (.int 0))),
  ("param.mul", operatorShapes "result" .multiply ("a", some (.int 0)) ("b", some (.int 0))),
  ("param.div", operatorShapes "result" .divide ("a", some (.int 0)) ("b", some (.int 1))),
  ("param.get_last", [("value", .last (.input "series" none))])]

/-- The shape of the expression at an output of a built-in type. -/
def shape? (type port : String) : Option Shape := (shapes.lookup type).bind (·.lookup port)

end Catalog

/-- The template with neighbouring texts joined. -/
def Template.joined : Template → Template
  | [] => []
  | .text s :: template =>
    match joined template with
    | .text t :: rest => .text (s ++ t) :: rest
    | rest => .text s :: rest
  | piece :: template => piece :: joined template

theorem Template.fill_joined (node : Node) (asked : String) (resolve : String → Option String)
    (template : Template) : template.joined.fill node asked resolve =
      template.fill node asked resolve := by
  fun_induction joined template with
  | case1 => rfl
  | case2 s template t rest heq ih =>
    rw [heq] at ih
    simp only [fill, List.map_cons, String.join_cons, Piece.fill] at ih ⊢
    rw [String.append_assoc, ih]
  | case3 s template hne ih =>
    simp only [fill, List.map_cons, String.join_cons] at ih ⊢
    rw [ih]
  | case4 piece template hpiece ih =>
    simp only [fill, List.map_cons, String.join_cons] at ih ⊢
    rw [ih]

/-- **The built-in templates are those of the shapes**, up to where a text is divided. -/
theorem Catalog.shape_of_mem_builtin : ∀ entry ∈ builtin.entries, ∀ port ∈ entry.2.outputs,
    ∃ shape ∈ shape? entry.1 port.name, shape.isProper = true ∧
      (entry.2.expressionAt port.name).joined = shape.template.joined := by
  decide +kernel

namespace Graph

variable {g : Graph} {node : Node} {port : String}

/-! ### Operator trees -/

/-- The operator tree that feeds an input: the tree at the other end of the connection, or else the
value of the input. -/
def operand (g : Graph) (hwf : WellFounded g.Feeds) (node : Node) (port : String) :
    Option Expression :=
  match hfeed : g.feed? node port with
  | none => (node.fallback? port).map fun value => .atom (.ofValue value)
  | some c =>
    match hproducer : g.producer? c with
    | none => none
    | some (producer, _) =>
      have : g.Feeds producer.id node.id := feeds_of_producer? hfeed hproducer
      (Catalog.shape? producer.type c.source.port).map
        (·.fill producer fun input => operand g hwf producer input)
termination_by hwf.wrap node.id
decreasing_by exact this

/-- The operator tree at an output. -/
def operatorTree (g : Graph) (hwf : WellFounded g.Feeds) (node : Node) (port : String) :
    Option Expression :=
  (Catalog.shape? node.type port).map (·.fill node (g.operand hwf node))

section

variable {hwf : WellFounded g.Feeds} {c : Connection}

theorem operand_of_unconnected (hfeed : g.feed? node port = none) :
    g.operand hwf node port = (node.fallback? port).map fun value => .atom (.ofValue value) := by
  unfold operand
  split
  · rfl
  · simp_all

theorem operand_of_producer? {producer : Node} {variant : Variant}
    (hfeed : g.feed? node port = some c) (hproducer : g.producer? c = some (producer, variant)) :
    g.operand hwf node port = g.operatorTree hwf producer c.source.port := by
  conv_lhs => unfold operand
  split
  case h_1 hnone => simp [hnone] at hfeed
  case h_2 found hfound =>
    obtain rfl : found = c := Option.some.inj (hfound.symm.trans hfeed)
    split
    · simp_all
    · simp_all [operatorTree]

end

section

variable (h : WellFormed Catalog.builtin g) (htextless : g.Textless) {hwf : WellFounded g.Feeds}

include h htextless

/-- **The expression at an output is the text of its tree**, if the inputs are resolved to the texts
of theirs. -/
theorem exists_operatorTree (hnode : node ∈ g.nodes) {variant : Variant}
    (hvariant : g.variantOf? node = some variant) {spec : PortSpec} (hspec : spec ∈ variant.outputs)
    {resolve : String → Option String}
    (hinputs : ∀ input, Option.Rel Expression.Spells (g.operand hwf node input) (resolve input)) :
    ∃ tree, g.operatorTree hwf node spec.name = some tree ∧
      tree.Spells ((variant.expressionAt spec.name).fill node spec.name resolve) := by
  have hmem : (node.type, variant) ∈ Catalog.builtin.entries :=
    mem_of_lookup (h.get?_of_variantOf? hvariant)
  obtain ⟨shape, hshape, hproper, htemplate⟩ := Catalog.shape_of_mem_builtin _ hmem spec hspec
  refine ⟨shape.fill node (g.operand hwf node), by rw [operatorTree, hshape]; rfl, ?_⟩
  rw [← Template.fill_joined, htemplate, Template.fill_joined]
  exact Shape.spells_fill hproper hinputs (value_of_forall htextless hnode)

/-- **What feeds an input is the text of a tree.**  The induction goes back along connections. -/
theorem rel_operand (hnode : node ∈ g.nodes) (port : String) :
    Option.Rel Expression.Spells (g.operand hwf node port)
      (g.resolved .templates hwf node port) := by
  induction hid : node.id using hwf.induction generalizing node port with
  | _ id ih =>
    subst hid
    cases hfeed : g.feed? node port with
    | none =>
      rw [operand_of_unconnected hfeed, resolved_of_unconnected hfeed]
      cases hvalue : node.fallback? port with
      | none => exact .none
      | some value =>
        have htext := fallback?_not_text h Catalog.builtin_closed htextless hnode hvalue
        exact .some ⟨.atom (Leaf.proper_ofValue htext), (Leaf.write_ofValue value).symm⟩
    | some c =>
      obtain ⟨producer, variant, hproducer, hmem, spec, hspec, hname⟩ :=
        h.exists_producer? (mem_of_feed? hfeed)
      have hfeeds := feeds_of_producer? hfeed hproducer
      have hinputs := fun input => ih producer.id hfeeds hmem input rfl
      obtain ⟨tree, htree, hspells⟩ :=
        exists_operatorTree h htextless hmem (of_producer? hproducer).2 hspec hinputs
      rw [operand_of_producer? hfeed hproducer, resolved_of_producer? hfeed hproducer, ← hname,
        htree]
      exact .some hspells

end

/-- **Expressions are unambiguous.**  Over the built-in catalog, without cycles and text parameters,
every output of a node has an operator tree.  The expression at the output is the text of this tree;
its parentheses are balanced, it reads back as this tree, and it is the text of no other one. -/
theorem expression_unambiguous (h : Reachable Catalog.builtin g) (hacyclic : ¬g.Cyclic)
    (htextless : g.Textless) :
    ∃ hwf : WellFounded g.Feeds, ∀ node ∈ g.nodes, ∃ variant, g.variantOf? node = some variant ∧
      ∀ port ∈ node.outputs, ∃ tree, g.operatorTree hwf node port.name = some tree ∧
        let text := (g.outputExpression node variant port.name).toList
        text = tree.write ∧ Text.Balanced text ∧ Expression.read? text = some tree ∧
          ∀ other : Expression, other.Proper → other.write = text → other = tree := by
  have hwellFormed := h.wellFormed
  have hwf := wellFounded_feeds hwellFormed hacyclic
  have hvalue : g.inputValue = g.resolved .templates hwf :=
    (inputValue_eq_composeWithin g).trans (composeWithin_eq_resolved hwellFormed hacyclic hwf _)
  refine ⟨hwf, fun node hnode => ?_⟩
  obtain ⟨variant, hregistered, -, houtputs⟩ := hwellFormed.registered node hnode
  have hvariant : g.variantOf? node = some variant := by
    rw [variantOf?, hwellFormed.catalog_eq, hregistered]
  refine ⟨variant, hvariant, fun port hport => ?_⟩
  rw [houtputs] at hport
  obtain ⟨tree, htree, hproper, htext⟩ := exists_operatorTree hwellFormed htextless hnode hvariant
    hport (rel_operand hwellFormed htextless hnode)
  rw [outputExpression, Graph.fill, hvalue, htext]
  refine ⟨tree, htree, rfl, hproper.balanced_write, Expression.read?_write hproper, ?_⟩
  intro other hother heq
  have hread := Expression.read?_write hother
  rw [heq, Expression.read?_write hproper] at hread
  exact (Option.some.inj hread).symm

end Graph

namespace Sample

/-- A condition that asks for a strong trend and for no position. -/
def entry : Graph := (Graph.ofDocument Catalog.builtin
  { nodes := [⟨"w", "logic.and", {}, .empty⟩, ⟨"o", "signal.overbought", {}, .empty⟩,
      ⟨"k", "param.number", {}, .ofList [("value", .float (.ofQuotient true 1 2))]⟩,
      ⟨"v", "param.get_last", {}, .empty⟩, ⟨"x", "indicator.dmi", {}, .empty⟩,
      ⟨"n", "logic.not", {}, .empty⟩, ⟨"p", "data.position", {}, .empty⟩]
    connections := [⟨"o", "signal", "w", "a"⟩, ⟨"n", "result", "w", "b"⟩,
      ⟨"v", "value", "o", "value"⟩, ⟨"k", "value", "o", "threshold"⟩, ⟨"x", "adx", "v", "series"⟩,
      ⟨"p", "has_position", "n", "input"⟩] }).graph

/-- The condition as a text. -/
def entryText : String :=
  "((_indicator_dmi_x_dmi_adx[-1] > -0.5) and (not (self.position > 0)))"

/-- The condition as a tree. -/
def entryTree : Expression :=
  .binary .and
    (.binary .greater (.last (.atom (.var "_indicator_dmi_x_dmi_adx"))) (.atom (.number "-0.5")))
    (.negation (.binary .greater (.atom (.accessor .strategy "position")) (.atom (.number "0"))))

end Sample

namespace Graph

/-- The minus sign of a number and that of an index are no operators. -/
theorem entry_unambiguous :
    Reachable Catalog.builtin Sample.entry ∧ ¬Sample.entry.Cyclic ∧ Sample.entry.Textless ∧
    ∃ hwf, ∃ node ∈ Sample.entry.nodes, ∃ variant, Sample.entry.variantOf? node = some variant ∧
      Sample.entry.outputExpression node variant "result" = Sample.entryText ∧
      Sample.entry.operatorTree hwf node "result" = some Sample.entryTree ∧
      Text.Balanced Sample.entryText.toList := by
  have h : Reachable Catalog.builtin Sample.entry := .loaded (by decide +kernel)
  have hgraph : Sample.entry.hasCycle = false ∧
      (∀ node ∈ Sample.entry.nodes, ∀ entry ∈ node.parameters.entries, entry.2.isText = false) ∧
      ∃ node ∈ Sample.entry.nodes, (∃ port ∈ node.outputs, port.name = "result") ∧
        ∀ variant ∈ Sample.entry.variantOf? node,
          Sample.entry.outputExpression node variant "result" = Sample.entryText := by
    decide +kernel
  have hread : Expression.read? Sample.entryText.toList = some Sample.entryTree := by decide +kernel
  obtain ⟨hcycle, htextless, node, hnode, ⟨port, hport, hname⟩, hexpression⟩ := hgraph
  have hacyclic : ¬Sample.entry.Cyclic := by
    rw [← hasCycle_iff h.wellFormed, hcycle]
    exact Bool.false_ne_true
  obtain ⟨hwf, hall⟩ := expression_unambiguous h hacyclic htextless
  obtain ⟨variant, hvariant, houtputs⟩ := hall node hnode
  obtain ⟨tree, htree, -, hbalanced, htext, -⟩ := houtputs port hport
  have hexpression := hexpression variant hvariant
  rw [hname] at htree hbalanced htext
  rw [hexpression] at hbalanced htext
  obtain rfl : tree = Sample.entryTree := Option.some.inj (htext.symm.trans hread)
  exact ⟨h, hacyclic, htextless, hwf, node, hnode, variant, hvariant, hexpression, htree, hbalanced⟩

end Graph

end Blueprint
