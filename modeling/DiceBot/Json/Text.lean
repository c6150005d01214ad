import DiceBot.Json.Basic
import DiceBot.Text.Hex

namespace DiceBot.Json

open Text

def hexByte (d : Nat) : UInt8 :=
  UInt8.ofNat (if d < 10 then 48 + d else 87 + d)

def escapeChar (c : Char) : Bytes :=
  match c with
  | '"' => [0x5C, 0x22]
  | '\\' => [0x5C, 0x5C]
  | '\x08' => [0x5C, 0x62]
  | '\x0c' => [0x5C, 0x66]
  | '\n' => [0x5C, 0x6E]
  | '\r' => [0x5C, 0x72]
  | '\t' => [0x5C, 0x74]
  | c =>
    if c.toNat < 0x20 then
      [0x5C, 0x75, 0x30, 0x30, hexByte (c.toNat / 16), hexByte (c.toNat % 16)]
    else Utf8.encodeChar c

def ofString (s : String) : Json :=
  .string (s.toList.flatMap escapeChar)

def shortEscape? (c : Char) : Option Char :=
  match c with
  | '"' => some '"'
  | '\\' => some '\\'
  | '/' => some '/'
  | 'b' => some '\x08'
  | 'f' => some '\x0c'
  | 'n' => some '\n'
  | 'r' => some '\r'
  | 't' => some '\t'
  | _ => none

def isHighSurrogate (u : Nat) : Bool :=
  0xD800 ≤ u && u < 0xDC00

def isLowSurrogate (u : Nat) : Bool :=
  0xDC00 ≤ u && u < 0xE000

/-- Where the reading of a string's spelling stands. A high surrogate is held until the low one is
there; in `unit` so many and one more hex digits are missing. -/
inductive TextPlace where
  | plain
  | escape (high : Option Nat)
  | unit (high : Option Nat) (missing value : Nat)
  | afterHigh (high : Nat)
  deriving DecidableEq, Repr

structure TextReading where
  done : Bytes := []
  place : TextPlace := .plain

namespace TextReading

def push (r : TextReading) (c : Char) : TextReading :=
  ⟨(Utf8.encodeChar c).reverse ++ r.done, .plain⟩

def unit (r : TextReading) (high : Option Nat) (u : Nat) : Option TextReading :=
  match high with
  | some h =>
    if isLowSurrogate u then some (r.push (Char.ofNat (0x10000 + (h - 0xD800) * 1024 + (u - 0xDC00))))
    else none
  | none =>
    if isHighSurrogate u then some { r with place := .afterHigh u }
    else if isLowSurrogate u then none
    else some (r.push (Char.ofNat u))

def feed (r : TextReading) (b : UInt8) : Option TextReading :=
  match r.place with
  | .plain => if b = 0x5C then some { r with place := .escape none } else some ⟨b :: r.done, .plain⟩
  | .escape high =>
    if b = 0x75 then some { r with place := .unit high 3 0 }
    else
      match high, shortEscape? (Char.ofUInt8 b) with
      | none, some c => some (r.push c)
      | _, _ => none
  | .unit high missing value =>
    match Hex.digit? (Char.ofUInt8 b), missing with
    | none, _ => none
    | some d, 0 => r.unit high (16 * value + d)
    | some d, missing + 1 => some { r with place := .unit high missing (16 * value + d) }
  | .afterHigh high => if b = 0x5C then some { r with place := .escape (some high) } else none

end TextReading

/-- The text that a string's spelling stands for, if it stands for one: no surrogate may be left
alone, and the bytes must be UTF-8. -/
def textOf? (spelling : Bytes) : Option String :=
  match spelling.foldlM TextReading.feed {} with
  | some ⟨done, .plain⟩ => Utf8.toString? done.reverse
  | _ => none

def toString? : Json → Option String
  | .string spelling => textOf? spelling
  | _ => none

end DiceBot.Json
