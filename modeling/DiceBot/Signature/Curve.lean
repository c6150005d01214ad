namespace DiceBot.Signature

namespace PrimeField

def modulus : Nat :=
  Nat.pow 2 255 - 19

def add (x y : Nat) : Nat :=
  (x + y) % modulus

def sub (x y : Nat) : Nat :=
  (x + (modulus - y)) % modulus

def mul (x y : Nat) : Nat :=
  x * y % modulus

def pow (x n : Nat) : Nat :=
  if n = 0 then 1
  else
    let r := pow (mul x x) (n / 2)
    if n % 2 = 1 then mul x r else r
termination_by n
decreasing_by omega

def inv (x : Nat) : Nat :=
  pow x (modulus - 2)

def rootOfMinusOne : Nat :=
  19681161376707505956807079304988542015446066515923890162744021073123829784752

end PrimeField

open PrimeField

/-- A point (x, y) of the curve -x² + y² = 1 + d x² y², as x = `x` / `z`, y = `y` / `z` and
x y = `t` / `z`. -/
structure Point where
  x : Nat
  y : Nat
  z : Nat
  t : Nat

namespace Point

/-- The `d` of the curve, -121665 / 121666. -/
def curveConstant : Nat :=
  37095705934669439343138083508754565189542113879843219016388785533085940283555

def ofAffine (x y : Nat) : Point :=
  ⟨x, y, 1, mul x y⟩

def zero : Point :=
  ⟨0, 1, 1, 0⟩

def base : Point :=
  ofAffine 15112221349535400772501151409588531511454012693041857206046113283949847762202
    46316835694926478169428394003475163141307993866256225615783033603165251855960

/-- The addition law; it has no exceptions on this curve. -/
def add (p q : Point) : Point :=
  let a := mul (sub p.y p.x) (sub q.y q.x)
  let b := mul (PrimeField.add p.y p.x) (PrimeField.add q.y q.x)
  let c := mul (mul p.t q.t) (2 * curveConstant)
  let d := mul (2 * p.z) q.z
  let e := sub b a
  let f := sub d c
  let g := PrimeField.add d c
  let h := PrimeField.add b a
  ⟨mul e f, mul g h, mul f g, mul e h⟩

def scale (n : Nat) (p : Point) : Point :=
  if n = 0 then zero
  else
    let q := scale (n / 2) (add p p)
    if n % 2 = 1 then add q p else q
termination_by n
decreasing_by omega

def neg (p : Point) : Point :=
  { p with x := sub 0 p.x, t := sub 0 p.t }

/-- The point of a given y and a given parity of x, if there is one. An x of zero counts as of
either parity. -/
def ofY? (y : Nat) (odd : Bool) : Option Point :=
  let y := y % modulus
  let y2 := mul y y
  let u := sub y2 1
  let v := PrimeField.add (mul curveConstant y2) 1
  let v3 := mul (mul v v) v
  let r := mul (mul u v3) (pow (mul u (mul (mul v3 v3) v)) ((modulus - 5) / 8))
  let r := if mul v (mul r r) = u then r else mul r rootOfMinusOne
  if mul v (mul r r) = u then
    some (ofAffine (if (r % 2 = 1) = odd then r else sub 0 r) y)
  else none

end Point

end DiceBot.Signature
