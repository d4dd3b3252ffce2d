import Blueprint.Catalog

/-!
# Market and account data

Sources read the state that the surrounding script offers: the current bar, the position, the
account.  They take no inputs and emit nothing.  A history binds a window of past bars to a
variable and offers the whole window and its last element.
-/

namespace Blueprint.Catalog

/-- A readout of a source: the output's name, type and caption, and what it reads. -/
structure Readout where
  /-- The name of the output. -/
  port : String
  /-- Its type. -/
  type : DataType
  /-- Its caption. -/
  label : String
  /-- The expression that reads it. -/
  accessor : String

/-- A variant that reads the state of the script; outputs it does not have read `otherwise`. -/
def source (tag title description otherwise : String) (readouts : List Readout) : Variant where
  tag
  category := .data
  title
  description
  inputs := []
  outputs := readouts.map fun r => .output r.port r.type r.label
  expressions := readouts.map fun r => (r.port, [.text r.accessor])
  expression := [.text otherwise]

/-- How many bars a history asks for unless told otherwise. -/
def defaultCount : Int64 := 20

/-- A variant that binds a window of past bars to a variable.  The call that fetches the window is
`opening`, the number of bars, `closing`. -/
def history (tag title description port label suffix opening closing : String) : Variant where
  tag
  category := .data
  title
  description
  inputs := [(PortSpec.input "count" .number "Count").withDefault (.int defaultCount)]
  outputs := [.output port .series label, .output "current" .number "Current"]
  schema := [.int "count" "Count" defaultCount 1 500]
  statements := [[.var suffix, .text " = ", .text opening,
    .input "count" (toString defaultCount.toInt), .text closing]]
  expressions := [("current", [.var suffix, .text "[-1]"])]
  expression := [.var suffix]

/-- A history of one field of the bars. -/
def barHistory (tag title description port label suffix field : String) : Variant :=
  history tag title description port label suffix
    ("[b." ++ field ++ " for b in self.get_bars(") ")]"

/-- The variants that supply data. -/
def marketData : List Variant := [
  source "data.bar" "Bar" "Open, high, low, close and volume of the current bar" "bar.close" [
    ⟨"open", .number, "Open", "bar.open"⟩,
    ⟨"high", .number, "High", "bar.high"⟩,
    ⟨"low", .number, "Low", "bar.low"⟩,
    ⟨"close", .number, "Close", "bar.close"⟩,
    ⟨"volume", .number, "Volume", "bar.volume"⟩],
  source "data.position" "Position" "Size of the currently held position" "self.position" [
    ⟨"quantity", .number, "Quantity", "self.position"⟩,
    ⟨"has_position", .boolean, "Has position", "(self.position > 0)"⟩],
  source "data.cash" "Cash" "Available cash and total account value" "self.cash" [
    ⟨"cash", .number, "Cash", "self.cash"⟩,
    ⟨"total", .number, "Total value", "self.total_value"⟩],
  history "data.close_prices" "Close Prices" "The most recent N close prices" "prices" "Prices"
    "closes" "self.get_close_prices(" ")",
  barHistory "data.open_prices" "Open Prices" "The most recent N open prices" "prices" "Prices"
    "opens" "open",
  barHistory "data.high_prices" "High Prices" "The most recent N high prices" "prices" "Prices"
    "highs" "high",
  barHistory "data.low_prices" "Low Prices" "The most recent N low prices" "prices" "Prices"
    "lows" "low",
  barHistory "data.volume_series" "Volume Series" "The most recent N volumes" "volumes" "Volumes"
    "volumes" "volume"]

end Blueprint.Catalog
