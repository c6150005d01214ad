import DiceBot.Command.Route

namespace DiceBot.Command

variable {m : Type → Type} [Monad m]

/-- Puts a message in the place of the placeholder. The placeholder is there for everyone, so for
a flagged message it is deleted and a new one posted. -/
def deliver (s : Services m) (token : String) (p : Message) : ExceptT Failure m Unit :=
  if p.isFlagged then do
    s.delete token
    s.create token p
  else
    s.edit token p.content

def execute (s : Services m) (c : Command) : ExceptT Failure m Unit := do
  let p ← route s c
  deliver s c.token p

end DiceBot.Command
