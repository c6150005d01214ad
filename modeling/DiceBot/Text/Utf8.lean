namespace DiceBot

abbrev Bytes := List UInt8

namespace Text.Utf8

def encodeChar (c : Char) : Bytes :=
  let n := c.toNat
  if n < 0x80 then [UInt8.ofNat n]
  else if n < 0x800 then [UInt8.ofNat (0xC0 + n / 64), UInt8.ofNat (0x80 + n % 64)]
  else if n < 0x10000 then
    [UInt8.ofNat (0xE0 + n / 4096), UInt8.ofNat (0x80 + n / 64 % 64), UInt8.ofNat (0x80 + n % 64)]
  else
    [UInt8.ofNat (0xF0 + n / 262144), UInt8.ofNat (0x80 + n / 4096 % 64),
      UInt8.ofNat (0x80 + n / 64 % 64), UInt8.ofNat (0x80 + n % 64)]

def encode (cs : List Char) : Bytes :=
  cs.flatMap encodeChar

def ofString (s : String) : Bytes :=
  encode s.toList

/-- Where a reading stands between two bytes: between characters, or inside one of which `value`
is read and `missing + 1` bytes are to come, the next of them from `low` to `high`. -/
inductive Place where
  | between
  | inside (missing value : Nat) (low high : UInt8)
  deriving DecidableEq, Repr

/-- The first byte of a character. The bounds on the second one shut out the overlong forms, the
surrogates and everything above U+10FFFF. -/
def lead (b : UInt8) : Option (Option Char × Place) :=
  let n := b.toNat
  if n < 0x80 then some (some (Char.ofNat n), .between)
  else if n < 0xC2 then none
  else if n < 0xE0 then some (none, .inside 0 (n - 0xC0) 0x80 0xBF)
  else if n < 0xF0 then
    some (none, .inside 1 (n - 0xE0) (if n = 0xE0 then 0xA0 else 0x80) (if n = 0xED then 0x9F else 0xBF))
  else if n < 0xF5 then
    some (none, .inside 2 (n - 0xF0) (if n = 0xF0 then 0x90 else 0x80) (if n = 0xF4 then 0x8F else 0xBF))
  else none

def Place.step (p : Place) (b : UInt8) : Option (Option Char × Place) :=
  match p with
  | .between => lead b
  | .inside missing value low high =>
    if low ≤ b && b ≤ high then
      let value := value * 64 + (b.toNat - 0x80)
      match missing with
      | 0 => some (some (Char.ofNat value), .between)
      | missing + 1 => some (none, .inside missing value 0x80 0xBF)
    else none

structure Reading where
  done : List Char := []
  place : Place := .between

def Reading.feed (r : Reading) (b : UInt8) : Option Reading :=
  (r.place.step b).map fun (c, place) => ⟨c.toList ++ r.done, place⟩

def decode? (bs : Bytes) : Option (List Char) :=
  match bs.foldlM Reading.feed {} with
  | some ⟨done, .between⟩ => some done.reverse
  | _ => none

def toString? (bs : Bytes) : Option String :=
  (decode? bs).map String.ofList

def replacement : Char :=
  '\uFFFD'

/-- What cannot be continued is shown as one replacement character, and the byte that does not
continue it is read anew. -/
def Reading.feedLossy (r : Reading) (b : UInt8) : Reading :=
  match r.feed b with
  | some r => r
  | none =>
    match r.place with
    | .between => { r with done := replacement :: r.done }
    | .inside .. =>
      let cut : Reading := ⟨replacement :: r.done, .between⟩
      (cut.feed b).getD { cut with done := replacement :: cut.done }

def decodeLossy (bs : Bytes) : List Char :=
  match bs.foldl Reading.feedLossy {} with
  | ⟨done, .between⟩ => done.reverse
  | ⟨done, .inside ..⟩ => (replacement :: done).reverse

def toStringLossy (bs : Bytes) : String :=
  String.ofList (decodeLossy bs)

end Text.Utf8

end DiceBot
