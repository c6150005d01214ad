import DiceBot.Text.Decimal
import DiceBot.Text.Pieces
import DiceBot.Web.Domain.Name
import DiceBot.Web.Percent

namespace DiceBot.Web

open Text

inductive Host where
  | name (s : List Char)
  | ipv4 (address : Nat)
  | ipv6 (groups : List Nat)
  deriving DecidableEq, Repr

def numberIn? (base : Nat) (cs : List Char) : Option Nat :=
  cs.foldlM (fun n c => (Hex.digit? c).bind fun d => if d < base then some (base * n + d) else none) 0

def ipv4Part? (cs : List Char) : Option Nat :=
  match cs with
  | [] => none
  | '0' :: 'x' :: ds => numberIn? 16 ds
  | '0' :: 'X' :: ds => numberIn? 16 ds
  | '0' :: ds => numberIn? 8 ds
  | ds => numberIn? 10 ds

def dottedParts (cs : List Char) : List (List Char) :=
  let parts := pieces (· == '.') cs
  if 1 < parts.length ∧ parts.getLast? = some [] then parts.dropLast else parts

def endsInNumber (cs : List Char) : Bool :=
  match (dottedParts cs).getLast? with
  | none | some [] => false
  | some part => part.all Char.isDigit || (ipv4Part? part).isSome

/-- Every part but the last is one byte, and the last one fills up the rest. -/
def ipv4? (cs : List Char) : Option Nat := do
  let parts ← (dottedParts cs).mapM ipv4Part?
  let last ← parts.getLast?
  let bytes := parts.dropLast
  if 4 < parts.length ∨ bytes.any (255 < ·) ∨ Nat.pow 256 (4 - bytes.length) ≤ last then none
  else
    let high := (bytes.zipIdx).foldl (fun n (b, i) => n + b * Nat.pow 256 (3 - i)) 0
    return high + last

def hexGroup? (cs : List Char) : Option Nat :=
  if cs.isEmpty ∨ 4 < cs.length then none else numberIn? 16 cs

def decimalByte? (cs : List Char) : Option Nat :=
  if cs.isEmpty ∨ (cs.head? = some '0' ∧ cs ≠ ['0']) then none
  else cs.mapM Decimal.digit? >>= Decimal.valueUpTo 255

/-- The groups between colons; the last one may be an IPv4 address, which makes two. -/
def ipv6Groups? (cs : List Char) (atEnd : Bool) : Option (List Nat) :=
  if cs.isEmpty then some []
  else do
    let parts := pieces (· == ':') cs
    let last ← parts.getLast?
    if atEnd && last.contains '.' then
      let groups ← parts.dropLast.mapM hexGroup?
      match ← (pieces (· == '.') last).mapM decimalByte? with
      | [a, b, c, d] => return groups ++ [256 * a + b, 256 * c + d]
      | _ => none
    else parts.mapM hexGroup?

def splitAtGap? : List Char → Option (List Char × List Char)
  | ':' :: ':' :: cs => some ([], cs)
  | c :: cs => (splitAtGap? cs).map fun (before, after) => (c :: before, after)
  | [] => none

/-- Eight groups; two colons once stand for one or more groups of zero. -/
def ipv6? (cs : List Char) : Option (List Nat) :=
  match splitAtGap? cs with
  | none => (ipv6Groups? cs true).filter fun gs => gs.length = 8
  | some (before, after) => do
    let high ← ipv6Groups? before false
    let low ← ipv6Groups? after true
    if high.length + low.length ≤ 7 then
      return high ++ List.replicate (8 - high.length - low.length) 0 ++ low
    else none

def isForbiddenInName (c : Char) : Bool :=
  c.toNat ≤ 0x20 || c.toNat == 0x7F ||
    c ∈ ['#', '%', '/', ':', '<', '>', '?', '@', '[', '\\', ']', '^', '|']

def longestZeros (groups : List Nat) : Nat × Nat :=
  (List.range groups.length).foldl (fun (start, length) i =>
    let zeros := ((groups.drop i).takeWhile (· == 0)).length
    if length < zeros then (i, zeros) else (start, length)) (0, 0)

def ipv6Text (groups : List Nat) : List Char :=
  let spell (gs : List Nat) := List.intercalate [':'] (gs.map (Nat.toDigits 16))
  let (start, length) := longestZeros groups
  if length < 2 then spell groups
  else spell (groups.take start) ++ "::".toList ++ spell (groups.drop (start + length))

def ipv4Text (address : Nat) : List Char :=
  List.intercalate ['.'] ([16777216, 65536, 256, 1].map fun u => Decimal.signed (address / u % 256))

def Host.text : Host → List Char
  | .name s => s
  | .ipv4 address => ipv4Text address
  | .ipv6 groups => '[' :: (ipv6Text groups ++ [']'])

/-- Reads a host. A name is looked up in ASCII, and what it is taken for is decided there. -/
def Host.ofText? (cs : List Char) : Option Host :=
  match cs with
  | [] => none
  | '[' :: cs =>
    if cs.getLast? = some ']' then (ipv6? cs.dropLast).map .ipv6 else none
  | cs =>
    match Domain.toAscii? (Utf8.decodeLossy (percentDecode cs)) with
    | none => none
    | some ascii =>
      if ascii.isEmpty ∨ ascii.any isForbiddenInName then none
      else if endsInNumber ascii then (ipv4? ascii).map .ipv4
      else some (.name ascii)

end DiceBot.Web
