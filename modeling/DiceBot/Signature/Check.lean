import DiceBot.Signature.Ed25519
import DiceBot.Text.Hex

namespace DiceBot.Signature

open Text

/-- Whether a signature, in hex, is one of the timestamp followed by the body under a key in hex.
What is not the hex of 64 and of 32 bytes is no signature and no key. -/
def verify (timestamp : String) (body : Bytes) (signature publicKey : String) : Bool :=
  match Hex.decode? signature, Hex.decode? publicKey with
  | some s, some k =>
    s.length == 64 && k.length == 32 && Ed25519.verify k (Utf8.ofString timestamp ++ body) s
  | _, _ => false

end DiceBot.Signature
