import Blueprint.Analysis.Order
import Blueprint.Proofs.Reloading
import Blueprint.Strategy.Compile

/-!
# What analysis and generated text depend on

A graph can be recast into one without all that only its history decides: the places of nodes, the
numbers of connections, the numbers given away, the gesture and the observers (`Graph.recast`).  Its
parameters may be changed on the way.  Analysis only asks which parameters there are and how they
read as integers, so it gives the same on a graph and on its recast if these stay
(`Parameters.Faithful`); the lemmas `*_recast` say so, function by function.  Generated text needs
the parameters as they are (`Graph.content`), and nodes that write nothing but what the content has
(`Emitter.ReadsContent`).  Templates do so (`Emitter.templates_readsContent`).

The recast of a reachable graph can be read off its document without the places
(`Graph.recast_eq_of_document`), since the ports of a node are those that its type declares and the
ends of a connection have the directions that it needs.

Main statement: two reachable graphs whose documents agree, places aside, have the same analyses; and
if they agree bit for bit, also the same strategies and the same previews
(`Graph.results_eq_of_document`).  Numbers that are merely equal may be written differently
(`Graph.zeros_compiled`).
-/

namespace Blueprint

/-! ### Numerical agreement -/

/-- The number, with the sign of zero left out. -/
def Double.unsigned (x : Double) : Double := if x.magnitude = 0 then .zero else x

theorem Double.unsigned_eq_of_equals {x y : Double} (h : x.equals y = true) :
    x.unsigned = y.unsigned := by
  have hrank : x.rank = y.rank := by
    rw [equals, Bool.and_eq_true, decide_eq_true_eq] at h
    exact h.2
  obtain ⟨negative, magnitude, hlt⟩ := x
  obtain ⟨negative', magnitude', hlt'⟩ := y
  simp only [rank] at hrank
  by_cases hsign : negative = negative'
  · -- Of numbers with the same sign, the magnitudes are equal.
    subst hsign
    obtain rfl : magnitude = magnitude' := by split_ifs at hrank <;> omega
    rfl
  · -- Of numbers with different signs, both are zero.
    have hzero : magnitude = 0 ∧ magnitude' = 0 := by
      cases negative <;> cases negative' <;> simp at hsign hrank <;> omega
    rw [unsigned, unsigned, if_pos hzero.1, if_pos hzero.2]

namespace Value

/-- The values are the same, or numerically equal. -/
def Agrees (v w : Value) : Prop := v = w ∨ v.equals w = true

/-- The value, with the sign of zero left out. -/
def unsigned : Value → Value
  | .float x => .float x.unsigned
  | value => value

theorem Agrees.unsigned_eq {v w : Value} (h : v.Agrees w) : v.unsigned = w.unsigned := by
  rcases h with rfl | h
  · rfl
  · cases v with
    | float x =>
      cases w with
      | float y => exact congrArg Value.float (Double.unsigned_eq_of_equals h)
      | _ => simp [equals] at h
    | _ => exact congrArg unsigned (by simpa [equals] using h)

theorem toInt?_unsigned (value : Value) : value.unsigned.toInt? = value.toInt? := by
  cases value with
  | float x =>
    obtain ⟨negative, magnitude, hlt⟩ := x
    by_cases hzero : magnitude = 0
    · subst hzero
      cases negative <;> decide +revert
    · rw [unsigned, Double.unsigned, if_neg hzero]
  | _ => rfl

end Value

namespace SortedMap

variable {α β : Type}

/-- The map with all values changed. -/
def mapValues (f : α → β) (m : SortedMap α) : SortedMap β where
  entries := m.entries.map (Prod.map id f)
  increasing := by
    rw [Increasing, List.pairwise_map]
    exact m.increasing

theorem get?_mapValues (f : α → β) (m : SortedMap α) (key : String) :
    (m.mapValues f).get? key = (m.get? key).map f :=
  lookup_map_value f key m.entries

end SortedMap

theorem map_eq_map_of_forall₂ {α β : Type} {R : α → α → Prop} {f : α → β} {as bs : List α}
    (hf : ∀ a b, R a b → f a = f b) (h : List.Forall₂ R as bs) : as.map f = bs.map f := by
  induction h with
  | nil => rfl
  | cons hab _ ih => rw [List.map_cons, List.map_cons, hf _ _ hab, ih]

namespace Parameters

/-- The parameters have the same keys, and values that agree. -/
def Agrees (p q : Parameters) : Prop :=
  List.Forall₂ (fun a b => a.1 = b.1 ∧ a.2.Agrees b.2) p.entries q.entries

/-- A change of parameters that analysis does not notice: the keys stay, and the integers that values
read as. -/
def Faithful (change : Parameters → Parameters) : Prop :=
  ∀ p key, ((change p).get? key).map Value.toInt? = (p.get? key).map Value.toInt?

theorem Agrees.mapValues_unsigned_eq {p q : Parameters} (h : p.Agrees q) :
    p.mapValues Value.unsigned = q.mapValues Value.unsigned := by
  have hentries : p.entries.map (Prod.map id Value.unsigned) =
      q.entries.map (Prod.map id Value.unsigned) :=
    map_eq_map_of_forall₂ (fun _ _ hab => Prod.ext hab.1 hab.2.unsigned_eq) h
  simp only [SortedMap.mapValues, hentries]

theorem faithful_unsigned : Faithful (SortedMap.mapValues Value.unsigned) := by
  intro p key
  rw [SortedMap.get?_mapValues, Option.map_map]
  congr 1
  exact funext Value.toInt?_unsigned

end Parameters

/-! ### Recasting a graph -/

/-- The node at the origin, with other parameters. -/
def Node.recast (change : Parameters → Parameters) (node : Node) : Node :=
  { node with position := {}, parameters := change node.parameters }

/-- The connection without its number. -/
def Connection.unnumbered (c : Connection) : Connection := { c with id := 0 }

namespace Graph

/-- The graph without what only its history decides, with other parameters. -/
def recast (change : Parameters → Parameters) (g : Graph) : Graph :=
  { empty g.catalog with
    nodes := g.nodes.map (Node.recast change)
    connections := g.connections.map Connection.unnumbered }

section

variable {change : Parameters → Parameters} (g : Graph)

/-! ### Nodes and connections -/

@[simp] theorem ids_recast : (g.recast change).ids = g.ids := by
  rw [ids, recast, List.map_map]
  rfl

@[simp] theorem nodeCount_recast : (g.recast change).nodeCount = g.nodeCount := List.length_map ..

@[simp] theorem isEmpty_recast : (g.recast change).isEmpty = g.isEmpty := List.isEmpty_map ..

@[simp] theorem node?_recast (id : NodeId) :
    (g.recast change).node? id = (g.node? id).map (Node.recast change) := List.find?_map ..

@[simp] theorem hasNode_recast : (g.recast change).hasNode = g.hasNode := by
  funext id
  exact List.any_map ..

@[simp] theorem incoming_recast (port : PortRef) :
    (g.recast change).incoming port = (g.incoming port).map Connection.unnumbered :=
  List.filter_map ..

@[simp] theorem attached_recast :
    (g.recast change).attached = g.attached.map Connection.unnumbered := by
  rw [attached, hasNode_recast, recast, List.filter_map]
  rfl

theorem nodesIn_recast (category : Category) :
    (g.recast change).nodesIn category = (g.nodesIn category).map (Node.recast change) :=
  List.filter_map ..

@[simp] theorem producers_recast (id : NodeId) :
    (g.recast change).producers id = g.producers id := by
  unfold producers
  rw [node?_recast]
  cases g.node? id with
  | none => rfl
  | some node =>
    refine List.flatMap_congr fun port _ => ?_
    rw [incoming_recast, List.map_map, hasNode_recast]
    rfl

/-! ### Order and dependencies -/

@[simp] theorem inDegree_recast : (g.recast change).inDegree = g.inDegree := by
  funext id
  rw [inDegree, attached_recast, List.filter_map, List.length_map]
  rfl

@[simp] theorem consumers_recast (id : NodeId) :
    (g.recast change).consumers id = g.consumers id := by
  rw [consumers, attached_recast, List.filter_map, List.map_map]
  rfl

theorem sweepFrom_recast (steps : Nat) (sweep : Sweep) :
    (g.recast change).sweepFrom steps sweep = g.sweepFrom steps sweep := by
  induction steps generalizing sweep with
  | zero => rfl
  | succ steps ih =>
    unfold sweepFrom sweepStep
    simp only [consumers_recast, ih]

@[simp] theorem topologicalOrder_recast :
    (g.recast change).topologicalOrder = g.topologicalOrder := by
  unfold topologicalOrder sweepStart
  simp only [sweepFrom_recast, nodeCount_recast, inDegree_recast, ids_recast]

@[simp] theorem executionOrder_recast : (g.recast change).executionOrder = g.executionOrder := by
  unfold executionOrder
  rw [topologicalOrder_recast, ids_recast]

theorem explore_recast (depth : Nat) (id : NodeId) (seen : List NodeId) :
    (g.recast change).explore depth id seen = g.explore depth id seen := by
  induction depth generalizing id seen with
  | zero => rfl
  | succ depth ih =>
    unfold explore
    simp only [producers_recast, ih]

theorem dependencies_recast (id : NodeId) :
    (g.recast change).dependencies id = g.dependencies id := by
  rw [dependencies, explore_recast, nodeCount_recast, dependencies]

/-! ### Validation and lookback -/

theorem isSome_fallback?_recast (hchange : Parameters.Faithful change) (node : Node)
    (port : String) :
    ((node.recast change).fallback? port).isSome = (node.fallback? port).isSome := by
  have hget (key : String) : ((change node.parameters).get? key).isSome =
      (node.parameters.get? key).isSome := by
    simpa using congrArg Option.isSome (hchange node.parameters key)
  simp only [Node.fallback?, Option.isSome_or, Node.recast, hget]
  rfl

theorem windows_recast (hchange : Parameters.Faithful change) (node : Node) :
    (node.recast change).windows = node.windows := by
  have hget (key : String) : ((change node.parameters).get? key).bind Value.toInt? =
      (node.parameters.get? key).bind Value.toInt? := by
    have hread := hchange node.parameters key
    cases hnew : (change node.parameters).get? key <;>
      cases hold : node.parameters.get? key <;> simp_all
  have hwindow : (node.recast change).window? = node.window? := by
    funext key
    simp only [Node.window?, Node.recast, hget]
  rw [Node.windows, hwindow, Node.windows]

theorem nodeIssues_recast (hchange : Parameters.Faithful change) (node : Node) :
    (g.recast change).nodeIssues (node.recast change) = g.nodeIssues node := by
  have hfed : ∀ port, (g.recast change).isFed (node.recast change) port = g.isFed node port := by
    intro port
    rw [isFed, incoming_recast, List.isEmpty_map, isSome_fallback?_recast hchange]
    rfl
  unfold nodeIssues
  simp only [hfed]
  rfl

theorem validate_recast (hchange : Parameters.Faithful change) :
    (g.recast change).validate = g.validate := by
  have hissues : (g.recast change).nodes.flatMap (g.recast change).nodeIssues =
      g.nodes.flatMap g.nodeIssues := by
    rw [recast, List.flatMap_map]
    exact List.flatMap_congr fun node _ => g.nodeIssues_recast hchange node
  rw [validate, hasCycle, topologicalOrder_recast, hissues, nodesIn_recast, List.isEmpty_map]
  rfl

theorem lookback_recast (hchange : Parameters.Faithful change) :
    (g.recast change).lookback = g.lookback := by
  rw [lookback, recast, List.flatMap_map]
  simp only [windows_recast hchange]
  rfl

end

/-- The graph without what only its history decides. -/
abbrev content (g : Graph) : Graph := g.recast fun parameters => parameters

end Graph

/-- The node at the origin. -/
abbrev Node.unplaced (node : Node) : Node := node.recast fun parameters => parameters

theorem Parameters.faithful_same : Faithful fun parameters => parameters := fun _ _ => rfl

namespace Graph

variable (g : Graph)

/-! ### Expressions -/

theorem feed?_content (node : Node) (port : String) :
    g.content.feed? node.unplaced port = (g.feed? node port).map Connection.unnumbered := by
  rw [feed?, incoming_recast, List.head?_map]
  rfl

theorem producer?_content (c : Connection) :
    g.content.producer? c.unnumbered =
      (g.producer? c).map fun producer => (producer.1.unplaced, producer.2) := by
  unfold producer?
  rw [node?_recast]
  change (g.node? c.source.node |>.map _).bind _ = _
  cases g.node? c.source.node with
  | none => rfl
  | some node =>
    simp only [Option.map_some, Option.bind_some, Option.map_map]
    rfl

theorem fill_unplaced (node : Node) (asked : String) (resolve : String → Option String)
    (template : Template) :
    template.fill node.unplaced asked resolve = template.fill node asked resolve := by
  have hpiece : Piece.fill node.unplaced asked resolve = Piece.fill node asked resolve := by
    funext piece
    cases piece <;> rfl
  rw [Template.fill, hpiece, Template.fill]

theorem inputWithin_content (depth : Nat) (node : Node) (port : String) :
    g.content.inputWithin depth node.unplaced port = g.inputWithin depth node port := by
  induction depth generalizing node port with
  | zero =>
    unfold inputWithin
    rw [feed?_content]
    cases g.feed? node port <;> rfl
  | succ depth ih =>
    unfold inputWithin
    rw [feed?_content]
    cases g.feed? node port with
    | none => rfl
    | some c =>
      simp only [Option.map_some, producer?_content, Option.map_map]
      congr 1
      funext producer
      have hresolve : g.content.inputWithin depth producer.1.unplaced =
          g.inputWithin depth producer.1 := funext fun port => ih producer.1 port
      simp only [Function.comp_apply, hresolve, fill_unplaced]
      rfl

theorem statementsOf_content (node : Node) (variant : Variant) :
    g.content.statementsOf node.unplaced variant = g.statementsOf node variant := by
  have hresolve : g.content.inputValue node.unplaced = g.inputValue node := by
    funext port
    rw [inputValue, depthAllowance, nodeCount_recast]
    exact g.inputWithin_content _ node port
  unfold statementsOf
  refine List.map_congr_left fun template _ => ?_
  rw [fill, hresolve, fill_unplaced, fill]

end Graph

/-! ### Strategies -/

namespace Emitter

/-- What nodes emit depends on the content of the graph, and not on their places. -/
def ReadsContent (emit : Emitter) : Prop := ∀ g variant node emission,
  emit g.content variant node.unplaced emission = emit g variant node emission

theorem templates_readsContent : templates.ReadsContent := by
  intro g variant node emission
  rw [templates, Graph.emitNode, Graph.statementsOf_content, templates, Graph.emitNode]

namespace ReadsContent

variable {emit : Emitter}

theorem visit_content (h : emit.ReadsContent) (g : Graph) (emission : Emission) (id : NodeId) :
    emit.visit g.content emission id = emit.visit g emission id := by
  unfold visit
  rw [Graph.node?_recast]
  cases g.node? id with
  | none => rfl
  | some node =>
    have hvariant : g.content.variantOf? node.unplaced = g.variantOf? node := rfl
    simp only [Option.map_some, hvariant]
    cases g.variantOf? node with
    | none => rfl
    | some variant => exact h g variant node emission

theorem walk_content (h : emit.ReadsContent) (g : Graph) (depth : Nat) (emission : Emission)
    (id : NodeId) :
    emit.walk g.content depth emission id = emit.walk g depth emission id := by
  induction depth generalizing emission id with
  | zero => rfl
  | succ depth ih =>
    have hwalk : emit.walk g.content depth = emit.walk g depth :=
      funext fun emission => funext fun id => ih emission id
    unfold walk
    rw [Graph.producers_recast, hwalk, h.visit_content]

theorem walkAll_content (h : emit.ReadsContent) (g : Graph) (ids : List NodeId) :
    emit.walkAll g.content ids = emit.walkAll g ids := by
  have hwalk : emit.walk g.content = emit.walk g :=
    funext fun depth => funext fun emission => funext fun id => h.walk_content g depth emission id
  rw [walkAll, hwalk, Graph.nodeCount_recast, walkAll]

end ReadsContent

end Emitter

theorem Graph.parameterBlock_content (g : Graph) :
    g.content.parameterBlock = g.parameterBlock := by
  rw [parameterBlock, content, recast, List.flatMap_map]
  rfl

namespace Emitter.ReadsContent

variable {emit : Emitter}

theorem compile_content (h : emit.ReadsContent) (g : Graph) (options : Options) (name : String) :
    emit.compile g.content options name = emit.compile g options name := by
  have hstrategy : emit.strategyOf g.content options name = emit.strategyOf g options name := by
    funext order
    unfold strategyOf
    rw [h.walkAll_content, g.parameterBlock_content, g.lookback_recast Parameters.faithful_same]
  unfold compile
  rw [g.validate_recast Parameters.faithful_same, Graph.executionOrder_recast, hstrategy]

theorem preview_content (h : emit.ReadsContent) (g : Graph) (options : Options) :
    emit.preview g.content options = emit.preview g options := by
  unfold preview generate
  rw [Graph.isEmpty_recast, h.compile_content]

end Emitter.ReadsContent

/-! ### Documents -/

namespace NodeRecord

/-- The records agree but for their places. -/
structure Agrees (a b : NodeRecord) : Prop where
  /-- The same id. -/
  id_eq : a.id = b.id
  /-- The same type. -/
  type_eq : a.type = b.type
  /-- Parameters of the same keys that agree. -/
  parameters : Parameters.Agrees a.parameters b.parameters

/-- The record without its place. -/
def unplaced (record : NodeRecord) : NodeRecord := { record with position := {} }

end NodeRecord

/-- The documents agree but for places, floating-point numbers by value. -/
structure Document.Agrees (a b : Document) : Prop where
  /-- The nodes agree in order. -/
  nodes : List.Forall₂ NodeRecord.Agrees a.nodes b.nodes
  /-- The same connections in order. -/
  connections_eq : a.connections = b.connections

theorem Document.agrees_of_unplaced {a b : Document}
    (hnodes : a.nodes.map NodeRecord.unplaced = b.nodes.map NodeRecord.unplaced)
    (hconnections : a.connections = b.connections) : a.Agrees b where
  nodes := by
    rw [← List.forall₂_eq_eq_eq, List.forall₂_map_left_iff, List.forall₂_map_right_iff] at hnodes
    refine hnodes.imp fun x y hxy => ⟨congrArg (·.id) hxy, congrArg (·.type) hxy, ?_⟩
    have hsame : x.parameters = y.parameters := congrArg (·.parameters) hxy
    rw [hsame]
    exact List.forall₂_same.2 fun _ _ => ⟨rfl, .inl rfl⟩
  connections_eq := hconnections

namespace Graph

variable {catalog : Catalog} {g g' : Graph} {change : Parameters → Parameters}

/-- The nodes of a well-formed graph, places aside, can be made of their ids, types and
parameters. -/
theorem WellFormed.map_recast (h : WellFormed catalog g) :
    g.nodes.map (Node.recast change) =
      (g.nodes.map fun node => (node.id, node.type, change node.parameters)).map
        fun (id, type, parameters) =>
          { id, type, position := {}, parameters
            inputs := ((catalog.get? type).map (·.inputs)).getD []
            outputs := ((catalog.get? type).map (·.outputs)).getD [] } := by
  rw [List.map_map]
  refine List.map_congr_left fun node hnode => ?_
  obtain ⟨variant, hvariant, hinputs, houtputs⟩ := h.registered node hnode
  simp [Node.recast, hvariant, hinputs, houtputs]

theorem WellFormed.map_unnumbered (h : WellFormed catalog g) :
    g.connections.map Connection.unnumbered =
      (g.connections.map Connection.record).map fun record => ⟨0, record.source, record.target⟩ := by
  rw [List.map_map]
  refine List.map_congr_left fun c hc => ?_
  obtain ⟨_, _, hjoin⟩ := h.joined c hc
  rw [Function.comp_apply, Connection.source_record hjoin.source_output,
    Connection.target_record hjoin.target_input]
  rfl

/-- **A document, places aside, determines the recast.** -/
theorem recast_eq_of_document (h : WellFormed catalog g) (h' : WellFormed catalog g')
    (hnodes : g.toDocument.nodes.map
        (fun record => (record.id, record.type, change record.parameters)) =
      g'.toDocument.nodes.map fun record => (record.id, record.type, change record.parameters))
    (hconnections : g.toDocument.connections = g'.toDocument.connections) :
    g.recast change = g'.recast change := by
  rw [toDocument_eq, toDocument_eq, List.map_map, List.map_map] at hnodes
  rw [toDocument_eq, toDocument_eq] at hconnections
  have hrecast : g.nodes.map (Node.recast change) = g'.nodes.map (Node.recast change) := by
    rw [h.map_recast, h'.map_recast]
    exact congrArg _ hnodes
  have hunnumbered : g.connections.map Connection.unnumbered =
      g'.connections.map Connection.unnumbered := by
    rw [h.map_unnumbered, h'.map_unnumbered]
    exact congrArg _ hconnections
  rw [recast, recast, hrecast, hunnumbered, h.catalog_eq, h'.catalog_eq]

/-- Documents that agree determine the graph but for the signs of zeros. -/
theorem recast_eq_of_agrees (h : WellFormed catalog g) (h' : WellFormed catalog g')
    (hdocument : g.toDocument.Agrees g'.toDocument) :
    g.recast (SortedMap.mapValues Value.unsigned) =
      g'.recast (SortedMap.mapValues Value.unsigned) := by
  refine recast_eq_of_document h h' ?_ hdocument.connections_eq
  refine map_eq_map_of_forall₂ (fun a b hab => ?_) hdocument.nodes
  rw [hab.id_eq, hab.type_eq, hab.parameters.mapValues_unsigned_eq]

/-- **Analysis and generated text depend on the document alone, and not on the places in it.**  Two
graphs over one catalog, whatever led to them, whose documents have the same ids, types and
parameters in the same order and the same connections in the same order, floating-point numbers by
value, have the same order of execution, the same dependencies of every node, the same issues and the
same lookback.  If also the numbers are the same bit for bit, and what nodes emit depends on the
content alone, as it does with templates, then they compile to the same strategy or are refused for
the same reason, under every name and with every options; and they have the same preview. -/
theorem results_eq_of_document (h : Reachable catalog g) (h' : Reachable catalog g')
    (hdocument : g.toDocument.Agrees g'.toDocument) :
    (g.topologicalOrder = g'.topologicalOrder ∧ g.executionOrder = g'.executionOrder ∧
      (∀ id, g.dependencies id = g'.dependencies id) ∧ g.validate = g'.validate ∧
      g.lookback = g'.lookback) ∧
    (g.toDocument.nodes.map NodeRecord.unplaced = g'.toDocument.nodes.map NodeRecord.unplaced →
      Emitter.templates.ReadsContent ∧ ∀ emit : Emitter, emit.ReadsContent →
        (∀ options name, emit.compile g options name = emit.compile g' options name) ∧
        ∀ options, emit.preview g options = emit.preview g' options) := by
  have hrecast := recast_eq_of_agrees h.wellFormed h'.wellFormed hdocument
  have hfaithful := Parameters.faithful_unsigned
  refine ⟨⟨?_, ?_, fun id => ?_, ?_, ?_⟩, fun hexact =>
    ⟨Emitter.templates_readsContent, fun emit hemit => ?_⟩⟩
  · rw [← topologicalOrder_recast, hrecast, topologicalOrder_recast]
  · rw [← executionOrder_recast, hrecast, executionOrder_recast]
  · rw [← dependencies_recast, hrecast, dependencies_recast]
  · rw [← validate_recast g hfaithful, hrecast, validate_recast g' hfaithful]
  · rw [← lookback_recast g hfaithful, hrecast, lookback_recast g' hfaithful]
  · have hnodes := congrArg
      (List.map fun record : NodeRecord => (record.id, record.type, record.parameters)) hexact
    rw [List.map_map, List.map_map] at hnodes
    have hcontent : g.content = g'.content :=
      recast_eq_of_document h.wellFormed h'.wellFormed hnodes hdocument.connections_eq
    refine ⟨fun options name => ?_, fun options => ?_⟩
    · rw [← hemit.compile_content, hcontent, hemit.compile_content]
    · rw [← hemit.preview_content, hcontent, hemit.preview_content]

end Graph

namespace Sample

/-- The diamond after a life of its own: a connection was made anew, a node was moved, a node came
and went, an observer joined and a gesture goes on. -/
def wornDiamond : Graph := diamond.performAll [.subscribe 3, .disconnect 5,
  .connect (.output "s" "out") (.input "d" "one"), .moveNode "a" ⟨.ofInt 40, .ofInt (-8)⟩,
  .addNode "joint" {}, .removeNode "00000001", .startDrag (.output "s" "out")]

/-- The diamond with a zero of a sign as a parameter. -/
def zeroed (negative : Bool) : Graph :=
  (Action.setParameter "s" "gain" (.float (.ofMagnitude negative 0))).perform diamond

/-- Nodes emit where they are. -/
def placard : Emitter := fun _ _ node emission =>
  emission.addStatement (node.id ++ " at " ++ Value.renderDouble node.position.x)

end Sample

namespace Graph

/-- Graphs with different histories that compile to the same strategy. -/
theorem wornDiamond_compiled :
    Reachable Sample.catalog Sample.diamond ∧ Reachable Sample.catalog Sample.wornDiamond ∧
    Sample.diamond.toDocument ≠ Sample.wornDiamond.toDocument ∧
    Sample.diamond.connections.map (·.id) = [1, 2, 3, 4, 5] ∧
    Sample.wornDiamond.connections.map (·.id) = [1, 2, 3, 4, 6] ∧
    Sample.wornDiamond.drag.isActive = true ∧
    Sample.diamond.topologicalOrder = Sample.wornDiamond.topologicalOrder ∧
    Sample.diamond.compile {} "Diamond" = Sample.wornDiamond.compile {} "Diamond" ∧
    Sample.diamond.preview {} = Sample.wornDiamond.preview {} := by
  have h : Reachable Sample.catalog Sample.diamond := .loaded (by decide +kernel)
  have h' : Reachable Sample.catalog Sample.wornDiamond := h.performAll _
  have hexact : Sample.diamond.toDocument.nodes.map NodeRecord.unplaced =
      Sample.wornDiamond.toDocument.nodes.map NodeRecord.unplaced := by decide +kernel
  have hdocument : Sample.diamond.toDocument.Agrees Sample.wornDiamond.toDocument :=
    Document.agrees_of_unplaced hexact (by decide +kernel)
  obtain ⟨⟨horder, -⟩, htext⟩ := results_eq_of_document h h' hdocument
  obtain ⟨htemplates, hemit⟩ := htext hexact
  obtain ⟨hcompile, hpreview⟩ := hemit _ htemplates
  exact ⟨h, h', by decide +kernel, by decide +kernel, by decide +kernel, by decide +kernel, horder,
    hcompile {} "Diamond", hpreview {}⟩

/-- **Numbers that are equal may be written differently, and nodes may write their places.**  The
documents of two graphs are equal, by value, but one has a negative zero, and their scripts differ;
and with nodes that emit where they are, so do the scripts of two graphs that differ in places. -/
theorem zeros_compiled :
    (Reachable Sample.catalog (Sample.zeroed false) ∧ Reachable Sample.catalog (Sample.zeroed true) ∧
      (Sample.zeroed false).toDocument.equals (Sample.zeroed true).toDocument = true ∧
      (Sample.zeroed false).preview {} ≠ (Sample.zeroed true).preview {}) ∧
    Sample.placard.preview Sample.diamond {} ≠ Sample.placard.preview Sample.wornDiamond {} := by
  have h : Reachable Sample.catalog Sample.diamond := .loaded (by decide +kernel)
  exact ⟨⟨h.step _, h.step _, by decide +kernel, by decide +kernel⟩, by decide +kernel⟩

end Graph

end Blueprint
