import DiceBot.Dice.Term
import DiceBot.Text.Decimal

namespace DiceBot.Dice

open Text

def modifierText (m : Int64) : String :=
  if m = 0 then ""
  else if 0 < m then " + " ++ Decimal.ofInt m.toInt
  else " - " ++ Decimal.ofInt m.toInt.natAbs

def Outcome.text (o : Outcome) : String :=
  "(" ++ String.intercalate ") + (" (o.rolls.map fun r => Decimal.ofInt r.toInt) ++ ")" ++
    modifierText o.modifier

/-- A step as it is shown in the chat: `(3) + (5) - 2 = 6`. -/
def Step.text (s : Step) : String :=
  String.intercalate " + " (s.rolls.map Outcome.text) ++ " = " ++ Decimal.ofInt s.total.toInt

end DiceBot.Dice
