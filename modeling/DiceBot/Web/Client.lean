import DiceBot.Dice.Wire
import DiceBot.Interaction.Wire
import DiceBot.Service
import DiceBot.Settings.Configuration
import DiceBot.Web.Address
import DiceBot.Web.Webhook

namespace DiceBot.Web

open Text Json

structure Request where
  method : String
  address : Address
  headers : List (String × Bytes)
  body : Option Bytes
  deriving DecidableEq, Repr

structure Response where
  status : Nat
  body : Bytes := []
  deriving DecidableEq, Repr

/-- Sends a request and gives the final response, if there is a connection. -/
abbrev Transport (m : Type → Type) :=
  Request → m (Option Response)

def userAgent : String :=
  "DiscordBot (https://github.com/dice-herald/dice-herald, 0.1.0)"

def isHeaderByte (b : UInt8) : Bool :=
  b == 0x09 || (0x20 ≤ b && b != 0x7F)

def request? (method url : String) (headers : List (String × String)) (body : Option Bytes) :
    Option Request := do
  let address := (← Address.parse? url).withoutCredentials
  let headers := headers.map fun (name, value) => (name, Utf8.ofString value)
  let contentType := body.toList.map fun _ => ("content-type", Utf8.ofString "application/json")
  if address.isSendable && headers.all fun h => h.2.all isHeaderByte then
    return ⟨method, address, ("user-agent", Utf8.ofString userAgent) :: contentType ++ headers, body⟩
  else none

variable {m : Type → Type} [Monad m]

def isErrorStatus (status : Nat) : Bool :=
  400 ≤ status && status < 600

/-- Sends a request. Only an error status is a failure; any other one is as good as another. -/
def send (t : Transport m) (r : Option Request) : ExceptT Failure m Response :=
  match r with
  | none => throw .unsendable
  | some r => do
    match ← (t r : m (Option Response)) with
    | none => throw .unreachable
    | some response =>
      if isErrorStatus response.status then throw (.refused response.status) else return response

def receive {α : Type} (c : Codec α) (r : Response) : ExceptT Failure m α :=
  match c.decode? r.body with
  | some a => pure a
  | none => throw .unreadable

def post (url : String) (body : Bytes) : Option Request :=
  request? "POST" url [] (some body)

def wrapped (name : String) : Codec String :=
  (Shape.field (.required name .text) .done).codec (fun (s, _) => s) (fun s => (s, ()))

def handOffRequest (c : Configuration) (id : String) (command : Command) : Option Request :=
  request? "POST" c.commandEndpoint
    [("x-invocation-secret", c.invocationSecret), ("x-invocation-id", id)]
    (some (Command.codec.encode command))

def placeholderAddress (c : Configuration) (token : String) : String :=
  webhookAddress c.discordRootEndpoint c.applicationId placeholderTemplate token

def followupAddress (c : Configuration) (token : String) : String :=
  webhookAddress c.discordRootEndpoint c.applicationId followupTemplate token

def editRequest (c : Configuration) (token content : String) : Option Request :=
  request? "PATCH" (placeholderAddress c token) [] (some ((wrapped "content").encode content))

def deleteRequest (c : Configuration) (token : String) : Option Request :=
  request? "DELETE" (placeholderAddress c token) [] none

def createRequest (c : Configuration) (token : String) (p : Message) : Option Request :=
  post (followupAddress c token) (Message.codec.encode p)

/-- The services of a configuration, reached over the network. Every hand-off gets an id of its
own. -/
def services (c : Configuration) (t : Transport m) (newId : m String) : Services m where
  evaluate r := do
    receive Dice.Result.codec (← send t (post c.rollEndpoint (Dice.Request.codec.encode r)))
  emojify s := do
    receive (wrapped "message") (← send t (post c.emojifyEndpoint ((wrapped "message").encode s)))
  handOff command := do
    let id ← (newId : m String)
    let _ ← send t (handOffRequest c id command)
  edit token content := do
    let _ ← send t (editRequest c token content)
  delete token := do
    let _ ← send t (deleteRequest c token)
  create token p := do
    let _ ← send t (createRequest c token p)

end DiceBot.Web
