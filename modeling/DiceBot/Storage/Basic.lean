import DiceBot.Storage.Path
import DiceBot.Text.Utf8

namespace DiceBot

inductive Storage.Error where
  | notFound
  | exists
  | notDirectory
  | isDirectory
  | nameTooLong
  | other (message : String)
  deriving DecidableEq, Repr

def Storage.Error.message : Storage.Error → String
  | .notFound => "No such file or directory (os error 2)"
  | .exists => "File exists (os error 17)"
  | .notDirectory => "Not a directory (os error 20)"
  | .isDirectory => "Is a directory (os error 21)"
  | .nameTooLong => "File name too long (os error 36)"
  | .other message => message

structure Storage (m : Type → Type) where
  isPresent : Storage.Path → m Bool
  isDirectory : Storage.Path → m Bool
  makeDirectory : Storage.Path → ExceptT Storage.Error m Unit
  write : Storage.Path → Bytes → ExceptT Storage.Error m Unit
  read : Storage.Path → ExceptT Storage.Error m Bytes

namespace Storage

variable {m : Type → Type} [Monad m]

def ensureDirectory (s : Storage m) (p : Path) : ExceptT Error m Unit :=
  tryCatch (s.makeDirectory p) fun e => do
    if !(← (s.isDirectory p : m Bool)) then throw e

/-- Makes a directory; where the way to it is missing, that is made first. -/
def ensureAfter (s : Storage m) (p : Path) (way : Unit → ExceptT Error m Unit) :
    ExceptT Error m Unit :=
  tryCatch (s.ensureDirectory p) fun e => do
    if e = .notFound then
      way ()
      s.ensureDirectory p
    else throw e

def ensureEach (s : Storage m) : List Path → ExceptT Error m Unit
  | [] => pure ()
  | p :: outer => s.ensureAfter p fun _ => s.ensureEach outer

def makeDirectories (s : Storage m) (p : Path) : ExceptT Error m Unit :=
  if p.isHere then pure () else s.ensureAfter p fun _ => s.ensureEach p.parents

end Storage

end DiceBot
