import DiceBot.Signature.Curve
import DiceBot.Signature.Sha512

namespace DiceBot.Signature.Ed25519

def order : Nat :=
  Nat.pow 2 252 + 27742317777372353535851937790883648493

def littleEndian (bs : Bytes) : Nat :=
  bs.foldr (fun b n => 256 * n + b.toNat) 0

def toLittleEndian (n v : Nat) : Bytes :=
  (List.range n).map fun i => UInt8.ofNat (v / Nat.pow 256 i)

/-- The point that 32 bytes name: y, and the parity of x in the topmost bit. A y above the modulus
counts as its remainder. -/
def decodePoint? (bs : Bytes) : Option Point :=
  let n := littleEndian bs
  Point.ofY? (n % Nat.pow 2 255) (Nat.pow 2 255 ≤ n)

def encodePoint (p : Point) : Bytes :=
  let i := PrimeField.inv p.z
  toLittleEndian 32 (PrimeField.mul p.y i + PrimeField.mul p.x i % 2 * Nat.pow 2 255)

/-- Whether `signature`, the bytes of R and S, is a signature of the message under the key A: R is
S B - h A, where h is the hash of R, A and the message. Of S only the topmost three bits must be
clear. -/
def verify (publicKey message signature : Bytes) : Bool :=
  let r := signature.take 32
  let s := littleEndian (signature.drop 32)
  match decodePoint? publicKey with
  | none => false
  | some a =>
    let h := littleEndian (Sha512.digest (r ++ publicKey ++ message)) % order
    decide (s < Nat.pow 2 253) && encodePoint ((Point.scale s .base).add (Point.scale h a.neg)) == r

end DiceBot.Signature.Ed25519
