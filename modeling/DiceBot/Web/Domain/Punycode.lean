namespace DiceBot.Web.Domain.Punycode

def isAscii (c : Char) : Bool :=
  c.toNat < 0x80

def firstCode : Nat :=
  0x80

def firstBias : Nat :=
  72

def numberLimit : Nat :=
  Nat.pow 2 32

def threshold (bias place : Nat) : Nat :=
  max 1 (min 26 (36 * (place + 1) - bias))

theorem threshold_pos (bias place : Nat) : 0 < threshold bias place := by
  unfold threshold
  omega

def scaleDown (n : Nat) : Nat × Nat :=
  if n ≤ 455 then (0, n)
  else
    let (times, rest) := scaleDown (n / 35)
    (times + 1, rest)
termination_by n
decreasing_by omega

def adapt (number length : Nat) (isFirst : Bool) : Nat :=
  let n := if isFirst then number / 700 else number / 2
  let (times, rest) := scaleDown (n + n / length)
  36 * times + 36 * rest / (rest + 38)

def digit? (c : Char) : Option Nat :=
  if 'a' ≤ c ∧ c ≤ 'z' then some (c.toNat - 97)
  else if '0' ≤ c ∧ c ≤ '9' then some (c.toNat - 22)
  else none

def ofDigit (d : Nat) : Char :=
  Char.ofNat (if d < 26 then 97 + d else 22 + d)

/-- A text on the way to being read. The number that is being read counts on from `start`: the
characters put in so far tell which character comes next, and where. -/
structure Reading where
  text : List Char
  code : Nat := firstCode
  start : Nat := 0
  bias : Nat := firstBias
  number : Nat := 0
  weight : Nat := 1
  place : Nat := 0

namespace Reading

def put (r : Reading) (number : Nat) : Option Reading :=
  let length := r.text.length + 1
  let code := r.code + number / length
  let next := number % length
  if code.isValidChar then
    some {
      text := r.text.insertIdx next (Char.ofNat code)
      code
      start := next + 1
      number := next + 1
      bias := adapt (number - r.start) length (r.start == 0) }
  else none

def feed (r : Reading) (c : Char) : Option Reading := do
  let d ← digit? c
  let number := r.number + d * r.weight
  let t := threshold r.bias r.place
  if numberLimit ≤ number then none
  else if d < t then r.put number
  else if numberLimit ≤ r.weight * (36 - t) then none
  else return { r with number, weight := r.weight * (36 - t), place := r.place + 1 }

end Reading

def splitAtHyphen (cs : List Char) : List Char × List Char :=
  let after := (cs.reverse.takeWhile (· != '-')).reverse
  (cs.take (cs.length - after.length - 1), after)

/-- The text that a spelling stands for: its ASCII characters come before the last hyphen, and
numbers that tell the others after it. There must be others. -/
def decode? (cs : List Char) : Option (List Char) :=
  let (plain, numbers) := splitAtHyphen cs
  if plain.all isAscii && !numbers.isEmpty then
    match numbers.foldlM Reading.feed { text := plain } with
    | some r => if r.place = 0 then some r.text else none
    | none => none
  else none

def numeral (bias place number : Nat) : List Char :=
  let t := threshold bias place
  if number < t then [ofDigit number]
  else
    ofDigit (t + (number - t) % (36 - t)) :: numeral bias (place + 1) ((number - t) / (36 - t))
termination_by number
decreasing_by
  have := threshold_pos bias place
  have := Nat.div_le_self (number - threshold bias place) (36 - threshold bias place)
  omega

/-- A text on the way to being written: the digits so far are in `written`, and `handled` characters
are told by them and by the ASCII ones. -/
structure Writing where
  written : List Char := []
  handled : Nat
  number : Nat := 0
  bias : Nat := firstBias

def Writing.pass (plainCount code : Nat) (w : Writing) (c : Char) : Writing :=
  if c.toNat < code then { w with number := w.number + 1 }
  else if c.toNat = code then
    { written := w.written ++ numeral w.bias 0 w.number
      handled := w.handled + 1
      number := 0
      bias := adapt w.number (w.handled + 1) (w.handled == plainCount) }
  else w

def writeCodes (cs : List Char) (plainCount next : Nat) (w : Writing) : List Nat → List Char
  | [] => w.written
  | code :: codes =>
    let w := { w with number := w.number + (code - next) * (w.handled + 1) }
    let w := cs.foldl (Writing.pass plainCount code) w
    writeCodes cs plainCount (code + 1) { w with number := w.number + 1 } codes

def encode (cs : List Char) : List Char :=
  let plain := cs.filter isAscii
  let others := (cs.filter fun c => !isAscii c).map Char.toNat
  let numbers := writeCodes cs plain.length firstCode { handled := plain.length }
    (others.mergeSort (· ≤ ·)).eraseReps
  if plain.isEmpty then numbers else plain ++ '-' :: numbers

end DiceBot.Web.Domain.Punycode
