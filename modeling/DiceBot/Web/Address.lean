import DiceBot.Web.Host

namespace DiceBot.Web

open Text

structure Address where
  isSecure : Bool
  user : List Char
  password : List Char
  host : Host
  port : Option Nat
  path : List (List Char)
  query : Option (List Char)
  fragment : Option (List Char)
  deriving DecidableEq, Repr

namespace Address

def isTrimmed (c : Char) : Bool :=
  c.toNat ≤ 0x20

def clean (cs : List Char) : List Char :=
  let cs := ((cs.dropWhile isTrimmed).reverse.dropWhile isTrimmed).reverse
  cs.filter fun c => c != '\t' && c != '\n' && c != '\r'

def isSlash (c : Char) : Bool :=
  c == '/' || c == '\\'

def isSchemeChar (c : Char) : Bool :=
  c.isAlphanum || c == '+' || c == '-' || c == '.'

def afterScheme? (cs : List Char) : Option (Bool × List Char) :=
  let scheme := (cs.takeWhile isSchemeChar).map Char.toLower
  match cs.dropWhile isSchemeChar with
  | ':' :: rest =>
    if scheme = "http".toList then some (false, rest)
    else if scheme = "https".toList then some (true, rest)
    else none
  | _ => none

def defaultPort (isSecure : Bool) : Nat :=
  if isSecure then 443 else 80

def splitPort (cs : List Char) : List Char × Option (List Char) :=
  let bracketed := if cs.head? = some '[' then cs.takeWhile (· != ']') else []
  let rest := cs.drop bracketed.length
  match rest.dropWhile (· != ':') with
  | [] => (cs, none)
  | _ :: port => (bracketed ++ rest.takeWhile (· != ':'), some port)

/-- A port, unless it is the one that goes without saying. -/
def port? (isSecure : Bool) (cs : List Char) : Option (Option Nat) :=
  match cs.mapM Decimal.digit? >>= Decimal.valueUpTo 65535 with
  | none => none
  | some n => some (if cs.isEmpty ∨ n = defaultPort isSecure then none else some n)

def splitCredentials (cs : List Char) : List Char × List Char × List Char :=
  let rest := (cs.reverse.takeWhile (· != '@')).reverse
  let credentials := cs.take (cs.length - rest.length - 1)
  (percentEncode isCredentialEncoded (credentials.takeWhile (· != ':')),
    percentEncode isCredentialEncoded ((credentials.dropWhile (· != ':')).drop 1), rest)

def lowerPercent (cs : List Char) : List Char :=
  cs.map Char.toLower

def isSingleDot (segment : List Char) : Bool :=
  lowerPercent segment ∈ [".".toList, "%2e".toList]

def isDoubleDot (segment : List Char) : Bool :=
  lowerPercent segment ∈ ["..".toList, ".%2e".toList, "%2e.".toList, "%2e%2e".toList]

/-- Appends a segment to those before it, the latest first. A dot adds nothing and two take one
away, but at the end of a path either leaves an empty segment. -/
def addSegment (done : List (List Char)) (segment : List Char) (isLast : Bool) : List (List Char) :=
  if isDoubleDot segment then if isLast then [] :: done.tail else done.tail
  else if isSingleDot segment then if isLast then [] :: done else done
  else percentEncode isPathEncoded segment :: done

def resolveSegments (done : List (List Char)) : List (List Char) → List (List Char)
  | [] => done
  | [s] => addSegment done s true
  | s :: ss => resolveSegments (addSegment done s false) ss

def pathSegments (cs : List Char) : List (List Char) :=
  (resolveSegments [] (pieces isSlash cs)).reverse

def splitAtFirst (mark : Char) (cs : List Char) : List Char × Option (List Char) :=
  match cs.dropWhile (· != mark) with
  | [] => (cs, none)
  | _ :: rest => (cs.takeWhile (· != mark), some rest)

def parse? (text : String) : Option Address := do
  let (isSecure, cs) ← afterScheme? (clean text.toList)
  let (cs, fragment) := splitAtFirst '#' (cs.dropWhile isSlash)
  let (cs, query) := splitAtFirst '?' cs
  let (user, password, place) := splitCredentials (cs.takeWhile fun c => !isSlash c)
  let (hostText, portText) := splitPort place
  let host ← Host.ofText? hostText
  let port ← match portText with
    | none => some none
    | some t => port? isSecure t
  return {
    isSecure, user, password, host, port
    path := pathSegments ((cs.dropWhile fun c => !isSlash c).drop 1)
    query := query.map (percentEncode isQueryEncoded)
    fragment := fragment.map (percentEncode isFragmentEncoded) }

def target (a : Address) : List Char :=
  a.path.flatMap (fun s => '/' :: s) ++
    a.query.elim [] fun q => '?' :: q

def credentialsText (a : Address) : List Char :=
  if a.user.isEmpty && a.password.isEmpty then []
  else a.user ++ (if a.password.isEmpty then [] else ':' :: a.password) ++ ['@']

def text (a : Address) : List Char :=
  (if a.isSecure then "https://".toList else "http://".toList) ++ a.credentialsText ++ a.host.text ++
    (a.port.elim [] fun p => ':' :: Decimal.signed p) ++ a.target ++
    a.fragment.elim [] fun f => '#' :: f

/-- Takes the credentials out, which are sent apart from the address. It is done only if they are
text: the user in any case, and the password if there is no user. -/
def withoutCredentials (a : Address) : Address :=
  let isText (cs : List Char) := (Utf8.decode? (percentDecode cs)).isSome
  if isText a.user && (!a.user.isEmpty || isText a.password) then { a with user := [], password := [] }
  else a

def lengthLimit : Nat :=
  65534

/-- Whether a request to the address can be put together: it is not too long, and its host has no
character that needs an escape and cannot have one. -/
def isSendable (a : Address) : Bool :=
  a.text.length ≤ lengthLimit &&
    match a.host with
    | .name s => s.all fun c => !(c ∈ ['"', '\x60', '\x7b', '\x7d'])
    | _ => true

end Address

end DiceBot.Web
