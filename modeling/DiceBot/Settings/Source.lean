import DiceBot.Settings.Configuration
import DiceBot.Toml.Reader

namespace DiceBot.Configuration

def inTable? (es : Toml.Entries) (s : Setting) : Option String :=
  match es.get? s.name with
  | none => some s.default
  | some (.string v) => some v
  | some _ => none

/-- Reads a configuration file. Entries that are no settings do not count. -/
def ofToml? (text : String) : Option Configuration :=
  Toml.read? text >>= fun es => ofSettings? (inTable? es)

def fileText (f : Setting → String) : String :=
  String.join (Setting.all.map fun s => s.name ++ " = \"" ++ f s ++ "\"\n")

def template : String :=
  fileText Setting.default

end DiceBot.Configuration
