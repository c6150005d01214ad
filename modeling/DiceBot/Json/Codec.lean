import DiceBot.Json.Integer
import DiceBot.Json.Reader
import DiceBot.Json.Text

namespace DiceBot.Json

structure Codec (α : Type) where
  read : Json → Option α
  write : α → Json

namespace Codec

variable {α β : Type}

def decode? (c : Codec α) (bs : Bytes) : Option α :=
  Json.read? bs >>= c.read

def encode (c : Codec α) (a : α) : Bytes :=
  (c.write a).write

def map (c : Codec α) (f : α → β) (g : β → α) : Codec β where
  read v := (c.read v).map f
  write b := c.write (g b)

def text : Codec String where
  read := Json.toString?
  write := Json.ofString

def int32 : Codec Int32 where
  read v := (Json.integer? Int32.minValue.toInt Int32.maxValue.toInt v).map Int32.ofInt
  write n := Json.ofInt n.toInt

def int64 : Codec Int64 where
  read v := (Json.integer? Int64.minValue.toInt Int64.maxValue.toInt v).map Int64.ofInt
  write n := Json.ofInt n.toInt

def uint32 : Codec UInt32 where
  read v := (Json.integer? 0 (UInt32.size - 1) v).map fun n => UInt32.ofNat n.toNat
  write n := Json.ofInt n.toNat

def uint64 : Codec UInt64 where
  read v := (Json.integer? 0 (UInt64.size - 1) v).map fun n => UInt64.ofNat n.toNat
  write n := Json.ofInt n.toNat

def list (c : Codec α) : Codec (List α) where
  read
    | .array items => items.mapM c.read
    | _ => none
  write as := .array (as.map c.write)

def nullable (c : Codec α) : Codec (Option α) where
  read
    | .null => some none
    | v => (c.read v).map some
  write
    | none => .null
    | some a => c.write a

end Codec

end DiceBot.Json
