import DiceBot.Json.Record
import DiceBot.Text.Blank

namespace DiceBot

inductive Setting where
  | serverBindPoint
  | logLevel
  | applicationPublicKey
  | applicationId
  | discordRootEndpoint
  | commandEndpoint
  | invocationSecret
  | rollEndpoint
  | emojifyEndpoint
  deriving DecidableEq, Repr

namespace Setting

def all : List Setting :=
  [.serverBindPoint, .logLevel, .applicationPublicKey, .applicationId, .discordRootEndpoint,
    .commandEndpoint, .invocationSecret, .rollEndpoint, .emojifyEndpoint]

def name : Setting → String
  | .serverBindPoint => "server_bind_point"
  | .logLevel => "log_level"
  | .applicationPublicKey => "application_public_key"
  | .applicationId => "application_id"
  | .discordRootEndpoint => "discord_root_endpoint"
  | .commandEndpoint => "command_endpoint"
  | .invocationSecret => "invocation_secret"
  | .rollEndpoint => "roll_endpoint"
  | .emojifyEndpoint => "emojify_endpoint"

def default : Setting → String
  | .serverBindPoint => "0.0.0.0:80"
  | .logLevel => "DEBUG"
  | .discordRootEndpoint => "https://discord.com/api/v10"
  | .commandEndpoint => "http://localhost:80/api/discord/command"
  | _ => ""

def environmentName? : Setting → Option String
  | .applicationPublicKey => some "APPLICATION_PUBLIC_KEY"
  | .applicationId => some "DISCORD_APPLICATION_ID"
  | .commandEndpoint => some "COMMAND_ENDPOINT"
  | .invocationSecret => some "INVOCATION_SECRET"
  | .rollEndpoint => some "ROLL_ENDPOINT"
  | .emojifyEndpoint => some "EMOJIFY_ENDPOINT"
  | _ => none

def missingMessage (s : Setting) : String :=
  "missing required configuration value: " ++ s.name

/-- The program runs with any log level, so that one may be blank. -/
def isRequired (s : Setting) : Bool :=
  s != .logLevel

end Setting

structure Configuration where
  serverBindPoint : String
  logLevel : String
  applicationPublicKey : String
  applicationId : String
  discordRootEndpoint : String
  commandEndpoint : String
  invocationSecret : String
  rollEndpoint : String
  emojifyEndpoint : String
  deriving DecidableEq, Repr

namespace Configuration

def get (c : Configuration) : Setting → String
  | .serverBindPoint => c.serverBindPoint
  | .logLevel => c.logLevel
  | .applicationPublicKey => c.applicationPublicKey
  | .applicationId => c.applicationId
  | .discordRootEndpoint => c.discordRootEndpoint
  | .commandEndpoint => c.commandEndpoint
  | .invocationSecret => c.invocationSecret
  | .rollEndpoint => c.rollEndpoint
  | .emojifyEndpoint => c.emojifyEndpoint

def ofSettings (f : Setting → String) : Configuration :=
  ⟨f .serverBindPoint, f .logLevel, f .applicationPublicKey, f .applicationId,
    f .discordRootEndpoint, f .commandEndpoint, f .invocationSecret, f .rollEndpoint,
    f .emojifyEndpoint⟩

theorem get_ofSettings (f : Setting → String) (s : Setting) : (ofSettings f).get s = f s := by
  cases s <;> rfl

theorem ofSettings_get (c : Configuration) : ofSettings c.get = c :=
  rfl

def ofSettings? (f : Setting → Option String) : Option Configuration :=
  if Setting.all.all fun s => (f s).isSome then some (ofSettings fun s => (f s).getD "") else none

def default : Configuration :=
  ofSettings Setting.default

def field (s : Setting) : Json.Field String :=
  .withDefault s.name .text s.default

def codec : Json.Codec Configuration :=
  (Json.Shape.field (field .serverBindPoint) <| .field (field .logLevel) <|
    .field (field .applicationPublicKey) <| .field (field .applicationId) <|
    .field (field .discordRootEndpoint) <| .field (field .commandEndpoint) <|
    .field (field .invocationSecret) <| .field (field .rollEndpoint) <|
    .field (field .emojifyEndpoint) .done).codec
    (fun (a, b, c, d, e, f, g, h, i, _) => ⟨a, b, c, d, e, f, g, h, i⟩)
    (fun c => (c.serverBindPoint, c.logLevel, c.applicationPublicKey, c.applicationId,
      c.discordRootEndpoint, c.commandEndpoint, c.invocationSecret, c.rollEndpoint,
      c.emojifyEndpoint, ()))

/-- The value of a setting that the environment has for it; an empty one counts as none. -/
def override? (lookup : String → Option String) (s : Setting) : Option String :=
  (s.environmentName? >>= lookup).filter fun v => !v.isEmpty

def applyOverrides (lookup : String → Option String) (c : Configuration) : Configuration :=
  ofSettings fun s => (override? lookup s).getD (c.get s)

/-- The first required setting, as declared, that is blank. -/
def missing? (c : Configuration) : Option Setting :=
  Setting.all.find? fun s => s.isRequired && Text.isAllBlank (c.get s)

end Configuration

end DiceBot
