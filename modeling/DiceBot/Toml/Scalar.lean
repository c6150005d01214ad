import DiceBot.Text.Decimal
import DiceBot.Toml.Document
import DiceBot.Toml.Text

namespace DiceBot.Toml

open Text

def digitsOnto (isDigit : Char → Bool) (done : List Char) : List Char → List Char × List Char
  | '_' :: c :: cs => if isDigit c then digitsOnto isDigit (c :: done) cs else (done, '_' :: c :: cs)
  | c :: cs => if isDigit c then digitsOnto isDigit (c :: done) cs else (done, c :: cs)
  | [] => (done, [])

def digits (isDigit : Char → Bool) : Parser (List Char)
  | c :: cs =>
    if isDigit c then
      let (done, rest) := digitsOnto isDigit [c] cs
      some (done.reverse, rest)
    else none
  | [] => none

def sign : List Char → Bool × List Char
  | '+' :: cs => (false, cs)
  | '-' :: cs => (true, cs)
  | cs => (false, cs)

def wholePart : Parser (List Char)
  | '0' :: cs => some (['0'], cs)
  | cs => digits Char.isDigit cs

def decimalValue (ds : List Char) : Nat :=
  Decimal.value (ds.map fun c => c.toNat - 48)

def spelled (negative : Bool) (ds : List Char) : List Char :=
  if negative then '-' :: ds else ds

def decimalInteger : Parser Node := fun cs => do
  let (negative, cs) := sign cs
  let (ds, rest) ← wholePart cs
  let _ ← Decimal.valueUpTo (if negative then Nat.pow 2 63 else Nat.pow 2 63 - 1) (ds.map fun c => c.toNat - 48)
  return (.number (spelled negative ds), rest)

def basedInteger (base : Nat) (mark : Char) : Parser Node := fun cs => do
  let isDigit (c : Char) := (Hex.digit? c).any (· < base)
  let (ds, rest) ← digits isDigit cs
  let n := ds.foldl (fun n c => base * n + (Hex.digit? c).getD 0) 0
  if n < Nat.pow 2 63 then return (.number ('0' :: mark :: ds), rest) else none

def integer : Parser Node
  | '0' :: 'x' :: cs => basedInteger 16 'x' cs
  | '0' :: 'o' :: cs => basedInteger 8 'o' cs
  | '0' :: 'b' :: cs => basedInteger 2 'b' cs
  | cs => decimalInteger cs

def exponent : Parser (List Char × Int)
  | [] => none
  | e :: cs =>
    if e = 'e' ∨ e = 'E' then do
      let (negative, cs) := sign cs
      let (ds, rest) ← digits Char.isDigit cs
      let n : Int := decimalValue ds
      return (('e' :: spelled negative ds, if negative then -n else n), rest)
    else none

def fraction : Parser (List Char)
  | '.' :: cs => digits Char.isDigit cs
  | _ => none

/-- Whether a decimal of these digits and this power of ten rounds to no finite number of double
precision. -/
def isHuge (ds : List Char) (power : Int) : Bool :=
  let ds := ds.dropWhile (· == '0')
  let places : Int := ds.length + power
  if ds.isEmpty ∨ places < 300 then false
  else if 310 < places then true
  else
    let limit := Nat.pow 2 1024 - Nat.pow 2 970
    if 0 ≤ power then decide (limit ≤ decimalValue ds * Nat.pow 10 power.toNat)
    else decide (limit * Nat.pow 10 (-power).toNat ≤ decimalValue ds)

def decimalFloat : Parser Node := fun cs => do
  let (negative, cs) := sign cs
  let (ds, cs) ← wholePart cs
  let (fs, es, power, rest) ←
    match fraction cs with
    | some (fs, cs) =>
      match exponent cs with
      | some ((es, power), rest) => some (fs, es, power, rest)
      | none => some (fs, [], 0, cs)
    | none => (exponent cs).map fun ((es, power), rest) => ([], es, power, rest)
  if !negative && isHuge (ds ++ fs) (power - fs.length) then none
  else return (.number (spelled negative (ds ++ '.' :: fs ++ es)), rest)

def specialFloat : Parser Node := fun cs =>
  let (negative, cs) := sign cs
  match cs with
  | 'i' :: 'n' :: 'f' :: rest => some (.number (spelled negative "inf".toList), rest)
  | 'n' :: 'a' :: 'n' :: rest => some (.number (spelled negative "nan".toList), rest)
  | _ => none

def two (low high : Nat) : Parser (List Char)
  | a :: b :: cs =>
    if a.isDigit && b.isDigit && low ≤ decimalValue [a, b] && decimalValue [a, b] ≤ high then
      some ([a, b], cs)
    else none
  | _ => none

def daysIn (year month : Nat) : Nat :=
  if month = 2 then
    if year % 4 = 0 ∧ (year % 100 ≠ 0 ∨ year % 400 = 0) then 29 else 28
  else if month = 4 ∨ month = 6 ∨ month = 9 ∨ month = 11 then 30
  else 31

def date : Parser (List Char)
  | a :: b :: c :: d :: '-' :: cs =>
    if [a, b, c, d].all Char.isDigit then
      match two 1 12 cs with
      | some (month, '-' :: cs) =>
        (two 1 (daysIn (decimalValue [a, b, c, d]) (decimalValue month)) cs).map fun (day, rest) =>
          ([a, b, c, d, '-'] ++ month ++ '-' :: day, rest)
      | _ => none
    else none
  | _ => none

def secondFraction : List Char → List Char × List Char
  | '.' :: c :: cs =>
    if c.isDigit then ('.' :: c :: cs.takeWhile Char.isDigit, cs.dropWhile Char.isDigit)
    else ([], '.' :: c :: cs)
  | cs => ([], cs)

def timeOfDay : Parser (List Char) := fun cs => do
  match ← two 0 23 cs with
  | (hour, ':' :: cs) =>
    match ← two 0 59 cs with
    | (minute, ':' :: cs) =>
      let (second, cs) ← two 0 60 cs
      let (more, rest) := secondFraction cs
      return (hour ++ ':' :: minute ++ ':' :: second ++ more, rest)
    | _ => none
  | _ => none

def zone : Parser (List Char)
  | [] => none
  | c :: cs =>
    if c = 'Z' ∨ c = 'z' then some ([c], cs)
    else if c = '+' ∨ c = '-' then
      match two 0 23 cs with
      | some (hour, ':' :: cs) => (two 0 59 cs).map fun (minute, rest) => (c :: hour ++ ':' :: minute, rest)
      | _ => none
    else none

def time : Parser Node := fun cs =>
  match date cs with
  | none => (timeOfDay cs).map fun (t, rest) => (.time t, rest)
  | some (d, rest) =>
    match rest with
    | [] => some (.time d, [])
    | c :: cs =>
      if c = 'T' ∨ c = 't' ∨ c = ' ' then
        match timeOfDay cs with
        | none => some (.time d, rest)
        | some (t, cs) =>
          match zone cs with
          | some (z, rest) => some (.time (d ++ c :: t ++ z), rest)
          | none => some (.time (d ++ c :: t), cs)
      else some (.time d, rest)

def number : Parser Node := fun cs =>
  decimalFloat cs <|> specialFloat cs <|> integer cs

/-- A value that holds no other one. Where a time and a number begin alike, it is a time; of two
numbers it is the longer one. -/
def scalar : Parser Node
  | 't' :: 'r' :: 'u' :: 'e' :: rest => some (.boolean true, rest)
  | 'f' :: 'a' :: 'l' :: 's' :: 'e' :: rest => some (.boolean false, rest)
  | '"' :: cs => (string ('"' :: cs)).map fun (s, rest) => (.string s, rest)
  | '\'' :: cs => (string ('\'' :: cs)).map fun (s, rest) => (.string s, rest)
  | cs => time cs <|> number cs

end DiceBot.Toml
