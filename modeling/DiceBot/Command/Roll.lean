import DiceBot.Dice.Format
import DiceBot.Dice.Notation
import DiceBot.Service

namespace DiceBot.Command

variable {m : Type → Type} [Monad m]

def notationRejected : Message :=
  .ephemeral "Sorry bud, I don't know how to roll that..."

def rollFailed : Message :=
  .ephemeral "That roll is messed up..."

/-- Reads, rolls and shows an expression. It never fails: whatever goes wrong becomes a message
that only the user sees. -/
def rollExpression (s : Services m) (raw : String) : m Message := do
  match Dice.Notation.parse raw with
  | .error _ => return notationRejected
  | .ok dice =>
    match ← (s.evaluate (.once dice)).run with
    | .error _ => return rollFailed
    | .ok result =>
      match result.firstStep? with
      | some step => return .visible step.text
      | none => return rollFailed

def roll (s : Services m) (c : Command) : ExceptT Failure m Message :=
  ExceptT.lift (rollExpression s (c.firstOption?.getD ""))

end DiceBot.Command
