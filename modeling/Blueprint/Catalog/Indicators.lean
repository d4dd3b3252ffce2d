import Blueprint.Catalog

/-!
# Technical indicators

An indicator emits one call into the indicator library, with its series first and its tuning
numbers after them.  Its result is a series, a record of series or a tuple of series.
-/

namespace Blueprint.Catalog

/-- The import line of the indicator library. -/
def indicatorImport : String := "from core.indicators.technical import TechnicalIndicators"

/-- A port's name and caption. -/
abbrev Caption := String × String

/-- How an indicator's result is read. -/
inductive ResultShape where
  /-- One series, with its last element at the output `current`. -/
  | series (port label : String)
  /-- A record: each output is a field of one variable. -/
  | fields (ports : List Caption)
  /-- A tuple: each output is a variable of its own. -/
  | tuple (ports : List Caption)

namespace ResultShape

/-- The outputs. -/
def outputs : ResultShape → List PortSpec
  | .series port label => [.output port .series label, .output "current" .number "Current"]
  | .fields ports | .tuple ports => ports.map fun (name, label) => .output name .series label

/-- The variables that the result is bound to, separated by commas. -/
def targets (suffix : String) : ResultShape → Template
  | .series _ _ | .fields _ => [.var suffix]
  | .tuple ports =>
    (ports.map fun (name, _) => [Piece.var (suffix ++ "_" ++ name)]).intersperse [.text ", "]
      |>.flatten

/-- The outputs with an expression of their own. -/
def expressions (suffix : String) : ResultShape → List (String × Template)
  | .series _ _ => [("current", [.var suffix, .text "[-1]"])]
  | .fields ports => ports.map fun (name, _) => (name, [.var suffix, .text ("." ++ name)])
  | .tuple ports => ports.map fun (name, _) => (name, [.var (suffix ++ "_" ++ name)])

/-- The expression of other outputs: the variable, or the first one of a tuple. -/
def expression (suffix : String) : ResultShape → Template
  | .series _ _ | .fields _ => [.var suffix]
  | .tuple ((name, _) :: _) => [.var (suffix ++ "_" ++ name)]
  | .tuple [] => [.var suffix, .text "_", .output]

end ResultShape

/-- The call of an indicator function on the node's inputs. -/
def indicatorCall (function : String) (series : List Caption) (tuning : List ParameterSpec) :
    Template :=
  let arguments := (series.map fun (name, _) => Piece.input name "None")
    ++ tuning.map fun spec => Piece.input spec.name spec.default.render
  .text ("TechnicalIndicators." ++ function ++ "(") :: arguments.intersperse (.text ", ")
    ++ [.text ")"]

/-- A technical indicator.  Each tuning number is a parameter and an input of the same name. -/
def indicator (tag title description function suffix : String) (series : List Caption)
    (tuning : List ParameterSpec) (shape : ResultShape) : Variant where
  tag
  category := .indicator
  title
  description
  inputs := (series.map fun (name, label) => .input name .series label)
    ++ tuning.map fun spec =>
      (PortSpec.input spec.name .number spec.label).withDefault spec.default
  outputs := shape.outputs
  schema := tuning
  imports := [indicatorImport]
  statements := [shape.targets suffix ++ .text " = " :: indicatorCall function series tuning]
  expressions := shape.expressions suffix
  expression := shape.expression suffix

/-- An indicator of one series with a series as its result. -/
def movingIndicator (tag title description suffix : String) (tuning : List ParameterSpec) :
    Variant :=
  indicator tag title description title suffix [("data", "Data")] tuning (.series suffix title)

/-- The highs, lows and closes of the bars. -/
def barSeries : List Caption := [("high", "High"), ("low", "Low"), ("close", "Close")]

/-- A period within bounds. -/
def periodSpec (default min max : Int64) : ParameterSpec := .int "period" "Period" default min max

/-- The indicator variants. -/
def indicators : List Variant := [
  movingIndicator "indicator.ma" "MA" "Simple moving average" "ma" [periodSpec 20 1 500],
  movingIndicator "indicator.ema" "EMA" "Exponential moving average" "ema" [periodSpec 20 1 500],
  movingIndicator "indicator.wma" "WMA" "Weighted moving average" "wma" [periodSpec 20 1 500],
  indicator "indicator.macd" "MACD" "Moving average convergence divergence" "MACD" "macd_result"
    [("data", "Data")]
    [.int "fast" "Fast period" 12 1 100, .int "slow" "Slow period" 26 1 200,
     .int "signal" "Signal period" 9 1 50]
    (.fields [("dif", "DIF"), ("dea", "DEA"), ("macd", "MACD histogram")]),
  movingIndicator "indicator.rsi" "RSI" "Relative strength index" "rsi" [periodSpec 14 1 100],
  indicator "indicator.boll" "Bollinger Bands" "Bollinger bands around a moving average" "BOLL"
    "boll" [("data", "Data")]
    [periodSpec 20 1 200,
     .float "std" "Std multiplier" (.float (.ofInt 2)) (.ofQuotient false 1 2) (.ofInt 5)]
    (.fields [("upper", "Upper"), ("middle", "Middle"), ("lower", "Lower")]),
  indicator "indicator.kdj" "KDJ" "Stochastic oscillator" "KDJ" "kdj" barSeries
    [.int "n" "Period" 9 1 100] (.fields [("k", "K"), ("d", "D"), ("j", "J")]),
  indicator "indicator.atr" "ATR" "Average true range" "ATR" "atr" barSeries
    [periodSpec 14 1 100] (.series "atr" "ATR"),
  indicator "indicator.cci" "CCI" "Commodity channel index" "CCI" "cci" barSeries
    [periodSpec 20 1 200] (.series "cci" "CCI"),
  indicator "indicator.obv" "OBV" "On-balance volume" "OBV" "obv"
    [("close", "Close"), ("volume", "Volume")] [] (.series "obv" "OBV"),
  indicator "indicator.vwap" "VWAP" "Volume weighted average price" "VWAP" "vwap"
    (barSeries ++ [("volume", "Volume")]) [] (.series "vwap" "VWAP"),
  indicator "indicator.dmi" "DMI" "Directional movement index (PDI, MDI and ADX)" "DMI" "dmi"
    barSeries [periodSpec 14 2 200] (.tuple [("pdi", "PDI"), ("mdi", "MDI"), ("adx", "ADX")])]

end Blueprint.Catalog
