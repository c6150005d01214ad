import DiceBot.Command.Roll

namespace DiceBot.Command

variable {m : Type → Type} [Monad m]

/-- There is no message to fall back to, so a failing service fails the command. -/
def emojify (s : Services m) (c : Command) : ExceptT Failure m Message :=
  match c.firstOption? with
  | none => throw .noMessageOption
  | some message => do
    let content ← s.emojify message
    return .visible content

abbrev Handler (m : Type → Type) :=
  Services m → Command → ExceptT Failure m Message

def handlers : List (String × Handler m) :=
  [("roll", roll), ("emojify", emojify)]

def unknownCommand : Message :=
  .ephemeral "Unknown slash command"

def route (s : Services m) (c : Command) : ExceptT Failure m Message :=
  match handlers.lookup c.name with
  | some handler => handler s c
  | none => pure unknownCommand

end DiceBot.Command
