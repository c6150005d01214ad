import DiceBot.Settings.Source
import DiceBot.Storage.Basic

namespace DiceBot.Configuration

inductive LoadError where
  | noVariable
  | storage (e : Storage.Error)
  | notText
  | notToml
  | missing (s : Setting)
  deriving DecidableEq, Repr

def LoadError.message : LoadError → String
  | .noVariable => "environment variable not found"
  | .storage e => e.message
  | .notText => "stream did not contain valid UTF-8"
  | .notToml => "TOML"
  | .missing s => s.missingMessage

def directoryVariable : String :=
  "CONFIG_DIRECTORY"

def fileVariable : String :=
  "CONFIG_FILE_NAME"

variable {m : Type → Type} [Monad m]

def orThrow {α : Type} (e : LoadError) : Option α → ExceptT LoadError m α
  | some a => pure a
  | none => throw e

def stored {α : Type} (x : ExceptT Storage.Error m α) : ExceptT LoadError m α :=
  x.adapt LoadError.storage

/-- Reads the configuration file; where there is none, writes the template and takes the
defaults. -/
def readFile (storage : Storage m) (lookup : String → Option String) :
    ExceptT LoadError m Configuration := do
  let directory ← orThrow .noVariable (lookup directoryVariable)
  if !(← storage.isPresent ⟨directory⟩) then
    stored (storage.makeDirectories ⟨directory⟩)
  let name ← orThrow .noVariable (lookup fileVariable)
  let path : Storage.Path := ⟨Storage.Path.join directory name⟩
  if !(← storage.isPresent path) then
    stored (storage.write path (Text.Utf8.ofString template))
    return default
  else
    let content ← stored (storage.read path)
    let text ← orThrow .notText (Text.Utf8.toString? content)
    orThrow .notToml (ofToml? text)

/-- The configuration to run with: the file's, with what the environment overrides, and complete. -/
def load (storage : Storage m) (lookup : String → Option String) :
    ExceptT LoadError m Configuration := do
  let c := (← readFile storage lookup).applyOverrides lookup
  match c.missing? with
  | some s => throw (.missing s)
  | none => return c

end DiceBot.Configuration
