import DiceBot.Json.Basic
import DiceBot.Text.Decimal

namespace DiceBot.Json

open Text

def magnitude? (limit : Nat) (spelling : Bytes) : Option Nat :=
  (spelling.mapM fun b => Decimal.digit? (Char.ofUInt8 b)) >>= Decimal.valueUpTo limit

/-- An integer from `low` to `high`. It has neither fraction nor exponent, and zero no sign. -/
def integer? (low high : Int) : Json → Option Int
  | .number (0x2D :: spelling) =>
    match magnitude? low.natAbs spelling with
    | some n => if n ≠ 0 ∧ low ≤ -n ∧ -n ≤ high then some (-n) else none
    | none => none
  | .number spelling =>
    match magnitude? high.natAbs spelling with
    | some n => if low ≤ n ∧ n ≤ high then some n else none
    | none => none
  | _ => none

def ofInt (i : Int) : Json :=
  .number (Utf8.encode (Decimal.signed i))

end DiceBot.Json
