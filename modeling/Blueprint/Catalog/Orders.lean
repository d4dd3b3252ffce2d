import Blueprint.Catalog

/-!
# Orders

Variants that place an order when a condition holds and the position allows it.  They have no
outputs, so nothing depends on them.
-/

namespace Blueprint.Catalog

/-- Which way an order trades. -/
inductive Side where
  /-- Opens a position. -/
  | buy
  /-- Reduces a position. -/
  | sell

namespace Side

/-- The state of the position in which the order makes sense. -/
def guard : Side → String
  | .buy => "self.position == 0"
  | .sell => "self.position > 0"

/-- The call that places the order. -/
def action : Side → String
  | .buy => "self.buy"
  | .sell => "self.sell"

end Side

/-- How large an order is. -/
inductive Sizing where
  /-- As the input `quantity` says, else a fixed lot. -/
  | lot (quantity : Int64)
  /-- As the input `quantity` says, else the whole position. -/
  | orPosition
  /-- The whole position. -/
  | wholePosition

namespace Sizing

/-- The input that the size is read from. -/
def inputs : Sizing → List PortSpec
  | .lot quantity => [(PortSpec.input "quantity" .number "Quantity").withDefault (.int quantity)]
  | .orPosition => [(PortSpec.input "quantity" .number "Quantity").optional]
  | .wholePosition => []

/-- The parameter that the size is read from. -/
def schema : Sizing → List ParameterSpec
  | .lot quantity => [.int "quantity" "Quantity" quantity 100 10000]
  | _ => []

/-- The size in the order. -/
def piece : Sizing → Piece
  | .lot quantity => .input "quantity" (toString quantity.toInt)
  | .orPosition => .input "quantity" "self.position"
  | .wholePosition => .text "self.position"

end Sizing

/-- The statement that places an order, its two tests nested or joined in one line. -/
def orderStatement (side : Side) (sizing : Sizing) (joined : Bool) : Template :=
  let condition := Piece.input "condition" "False"
  let order := [.text (side.action ++ "("), .input "price" "bar.close", .text ", ", sizing.piece,
    .text ")"]
  if joined then
    [.text ("if " ++ side.guard ++ " and "), condition, .text ":\n    "] ++ order
  else
    [.text "if ", condition, .text (":\n    if " ++ side.guard ++ ":\n        ")] ++ order

/-- A variant that places an order. -/
def order (tag title description : String) (side : Side) (sizing : Sizing) (joined : Bool) :
    Variant where
  tag
  category := .trade
  title
  description
  inputs := [.input "condition" .boolean "Condition",
    (PortSpec.input "price" .number "Price").optional] ++ sizing.inputs
  outputs := []
  schema := sizing.schema
  statements := [orderStatement side sizing joined]

/-- The order variants. -/
def orders : List Variant := [
  order "trade.buy" "Buy" "Buy when the condition holds and nothing is held"
    .buy (.lot 100) false,
  order "trade.sell" "Sell" "Sell when the condition holds and a position is open"
    .sell .orPosition false,
  order "trade.sell_all" "Sell All" "Close the whole position when the condition holds"
    .sell .wholePosition false,
  order "trade.conditional_buy" "Buy If Flat" "Buy when flat and the condition holds"
    .buy (.lot 100) true,
  order "trade.conditional_sell" "Sell If Long"
    "Close the position when long and the condition holds" .sell .wholePosition true]

end Blueprint.Catalog
