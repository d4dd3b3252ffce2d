import Blueprint.Double.Form
import Blueprint.Note

/-!
# Graphs in diagnostic output
-/

namespace Blueprint

/-- Floating-point numbers in diagnostic output. -/
def Double.inspectForm : DecimalForm where
  tie := .away
  positional := fun leading => decide (-4 ≤ leading) && decide (leading < 16)
  pointZero := true
  plusSign := false

/-- A floating-point number in diagnostic output. -/
def Double.inspect (x : Double) : String :=
  if x.isNaN then "NaN"
  else if x.isInfinite then if x.negative then "-inf" else "inf"
  else Double.inspectForm.write x

/-- A place in diagnostic output. -/
def Point.inspect (p : Point) : String :=
  "Point \x7b x: " ++ p.x.inspect ++ ", y: " ++ p.y.inspect ++ " \x7d"

/-- A direction in diagnostic output. -/
def Direction.inspect : Direction → String
  | .input => "Input"
  | .output => "Output"

/-- A port in diagnostic output. -/
def PortRef.inspect (ref : PortRef) : String :=
  "PortRef \x7b node: " ++ NodeId.inspect ref.node ++ ", port: " ++ Text.inspected ref.port
    ++ ", direction: " ++ ref.direction.inspect ++ " \x7d"

/-- A connection in diagnostic output. -/
def Connection.inspect (c : Connection) : String :=
  "Connection \x7b id: " ++ ConnectionId.inspect c.id ++ ", source: " ++ c.source.inspect
    ++ ", target: " ++ c.target.inspect ++ " \x7d"

/-- A gesture in diagnostic output. -/
def Drag.inspect : Drag → String
  | .idle => "Idle"
  | .dragging origin cursor =>
    "Dragging \x7b origin: " ++ origin.inspect ++ ", cursor: " ++ cursor.inspect ++ " \x7d"

/-- A graph in diagnostic output. -/
def Graph.inspect (g : Graph) : String :=
  "Graph \x7b nodes: [" ++ ", ".intercalate (g.ids.map NodeId.inspect)
    ++ "], connections: [" ++ ", ".intercalate (g.connections.map Connection.inspect)
    ++ "], drag: " ++ g.drag.inspect ++ ", observers: " ++ Nat.repr g.observers.length ++ " \x7d"

end Blueprint
