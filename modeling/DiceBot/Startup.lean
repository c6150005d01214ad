import DiceBot.Settings.Load

namespace DiceBot

inductive LogLevel where
  | trace
  | debug
  | info
  | warn
  | error
  deriving DecidableEq, Repr

namespace LogLevel

def ofName (name : String) : LogLevel :=
  match name with
  | "TRACE" => .trace
  | "INFO" => .info
  | "WARN" => .warn
  | "ERROR" => .error
  | _ => .debug

def rank : LogLevel → Nat
  | .trace => 0
  | .debug => 1
  | .info => 2
  | .warn => 3
  | .error => 4

def admits (limit l : LogLevel) : Bool :=
  limit.rank ≤ l.rank

end LogLevel

inductive AddressError where
  | invalidAddress
  | invalidPort
  deriving DecidableEq, Repr

def AddressError.message : AddressError → String
  | .invalidAddress => "invalid socket address"
  | .invalidPort => "invalid port value"

def isPort (cs : List Char) : Bool :=
  let ds := match cs with
    | '+' :: ds => ds
    | ds => ds
  !ds.isEmpty && (ds.mapM Text.Decimal.digit? >>= Text.Decimal.valueUpTo 65535).isSome

/-- What is wrong with a bind address whatever its host is: it needs a port after its last
colon. -/
def addressError? (address : String) : Option AddressError :=
  let reversed := address.toList.reverse
  match reversed.dropWhile (· != ':') with
  | [] => some .invalidAddress
  | _ => if isPort (reversed.takeWhile (· != ':')).reverse then none else some .invalidPort

inductive StartError where
  | load (e : Configuration.LoadError)
  | address (e : AddressError)
  deriving DecidableEq, Repr

def StartError.message : StartError → String
  | .load e => e.message
  | .address e => e.message

structure Launch where
  log : List String
  result : Except StartError Configuration

def listeningLine (c : Configuration) : String :=
  "Listening on " ++ c.serverBindPoint

/-- Starts up to the point where the listener is bound. The address is logged before it is looked
at. -/
def start {m : Type → Type} [Monad m] (storage : Storage m) (lookup : String → Option String) :
    m Launch := do
  match ← (Configuration.load storage lookup).run with
  | .error e => return ⟨[], .error (.load e)⟩
  | .ok c =>
    let log := if (LogLevel.ofName c.logLevel).admits .info then [listeningLine c] else []
    match addressError? c.serverBindPoint with
    | some e => return ⟨log, .error (.address e)⟩
    | none => return ⟨log, .ok c⟩

end DiceBot
