import DiceBot.Interaction.Wire
import DiceBot.Service

namespace DiceBot.Interaction

inductive Error where
  | verification
  | validation (reason : String)
  | handOff (reason : String)
  deriving DecidableEq, Repr

def Error.message : Error → String
  | .verification => "bad signature"
  | .validation reason => "invalid interaction payload: " ++ reason
  | .handOff reason => "failed to hand off interaction: " ++ reason

inductive Disposition where
  | pong
  | reply (p : Message)
  | defer (c : Command)
  deriving DecidableEq, Repr

def malformedCommand : Message :=
  .ephemeral "Something went wrong."

def classify (i : Interaction) : Disposition :=
  if i.kind = .ping then .pong
  else
    match i.toCommand with
    | .ok c => .defer c
    | .error _ => .reply malformedCommand

variable {m : Type → Type} [Monad m]

/-- Replies to an interaction. Only the hand-off of a command is waited for, not what comes of
it. -/
def dispatch (s : Services m) (body : Bytes) : ExceptT Error m Reply := do
  match codec.decode? body with
  | none => throw (.validation "not an interaction")
  | some i =>
    match classify i with
    | .pong => return .pong
    | .reply p => return .message p
    | .defer c =>
      match ← (s.handOff c).run with
      | .ok () => return .deferred
      | .error failure => throw (.handOff failure.message)

end DiceBot.Interaction
