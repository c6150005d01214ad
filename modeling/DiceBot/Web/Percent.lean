import DiceBot.Text.Hex

namespace DiceBot.Web

open Text

def upperHexDigit (d : Nat) : Char :=
  Char.ofNat (if d < 10 then 48 + d else 55 + d)

def percentByte (b : UInt8) : List Char :=
  ['%', upperHexDigit (b.toNat / 16), upperHexDigit (b.toNat % 16)]

def percentEncode (isEncoded : Char → Bool) (cs : List Char) : List Char :=
  cs.flatMap fun c =>
    if isEncoded c || 0x7E < c.toNat then (Utf8.encodeChar c).flatMap percentByte else [c]

/-- The bytes of a text in which `%41` stands for a byte. A percent sign without two hex digits
stands for itself. `skip` characters have been read already. -/
def percentDecodeFrom (skip : Nat) : List Char → List Bytes
  | [] => []
  | c :: cs =>
    match skip with
    | skip + 1 => percentDecodeFrom skip cs
    | 0 =>
      match c, cs with
      | '%', h :: l :: _ =>
        match Hex.digit? h, Hex.digit? l with
        | some h, some l => [UInt8.ofNat (16 * h + l)] :: percentDecodeFrom 2 cs
        | _, _ => [0x25] :: percentDecodeFrom 0 cs
      | c, _ => Utf8.encodeChar c :: percentDecodeFrom 0 cs

def percentDecode (cs : List Char) : Bytes :=
  (percentDecodeFrom 0 cs).flatten

def isControl (c : Char) : Bool :=
  c.toNat < 0x20

def isPathEncoded (c : Char) : Bool :=
  isControl c || c ∈ [' ', '"', '#', '<', '>', '?', '\x60', '\x7b', '\x7d']

def isCredentialEncoded (c : Char) : Bool :=
  isPathEncoded c || c ∈ ['/', ':', ';', '=', '@', '[', '\\', ']', '^', '|']

def isQueryEncoded (c : Char) : Bool :=
  isControl c || c ∈ [' ', '"', '#', '<', '>', '\'']

def isFragmentEncoded (c : Char) : Bool :=
  isControl c || c ∈ [' ', '"', '<', '>', '\x60']

end DiceBot.Web
