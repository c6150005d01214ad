import DiceBot.Text.Utf8

namespace DiceBot.Http

/-- A request as it comes in. If `fault` is there, the body breaks off with it after its bytes. -/
structure Request where
  method : String := "POST"
  target : String
  headers : List (String × Bytes) := []
  body : Bytes := []
  fault : Option String := none
  deriving DecidableEq, Repr

namespace Request

/-- The path of a request target: no query, no fragment, and no scheme and host. -/
def path (r : Request) : List Char :=
  let whole := r.target.toList.takeWhile fun c => c != '?' && c != '#'
  let afterScheme := whole.dropWhile (· != ':')
  if whole.head? = some '/' then whole
  else if afterScheme.take 3 = "://".toList then
    match (afterScheme.drop 3).dropWhile (· != '/') with
    | [] => ['/']
    | path => path
  else whole

def lowerAscii (s : String) : List Char :=
  s.toList.map Char.toLower

def isTextByte (b : UInt8) : Bool :=
  b == 0x09 || (0x20 ≤ b && b < 0x7F)

/-- The first header of a name, if it is text. Names are compared without regard to case. -/
def headerText? (r : Request) (name : String) : Option String :=
  match r.headers.find? fun h => lowerAscii h.1 == lowerAscii name with
  | some (_, value) =>
    if value.all isTextByte then some (String.ofList (value.map Char.ofUInt8)) else none
  | none => none

end Request

structure Response where
  status : Nat
  contentType : Option String := none
  allow : Option String := none
  body : Bytes := []
  deriving DecidableEq, Repr

namespace Response

def ofStatus (status : Nat) : Response :=
  { status }

def text (status : Nat) (s : String) : Response :=
  { status, contentType := some "text/plain; charset=utf-8", body := Text.Utf8.ofString s }

def json (status : Nat) (body : Bytes) : Response :=
  { status, contentType := some "application/json", body }

end Response

end DiceBot.Http
