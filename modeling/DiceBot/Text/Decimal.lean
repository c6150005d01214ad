namespace DiceBot.Text.Decimal

def digitsOnto (n : Nat) (low : List Nat) : List Nat :=
  if n < 10 then n :: low else digitsOnto (n / 10) (n % 10 :: low)
termination_by n
decreasing_by omega

def digits (n : Nat) : List Nat :=
  digitsOnto n []

def value (ds : List Nat) : Nat :=
  ds.foldl (fun n d => 10 * n + d) 0

def appendUpTo (limit n d : Nat) : Option Nat :=
  if 10 * n + d ≤ limit then some (10 * n + d) else none

/-- The value of the digits if it is at most `limit`. A further digit never makes a number
smaller, so the reading may stop at the first value that is too large. -/
def valueUpTo (limit : Nat) (ds : List Nat) : Option Nat :=
  ds.foldlM (appendUpTo limit) 0

def ofDigit (d : Nat) : Char :=
  Char.ofNat (48 + d)

def digit? (c : Char) : Option Nat :=
  if c.isDigit then some (c.toNat - 48) else none

def isLeadingDigit (c : Char) : Bool :=
  c.isDigit && c != '0'

def isNumeral : List Char → Bool
  | [] => false
  | c :: cs => isLeadingDigit c && cs.all Char.isDigit

def numeralUpTo (limit : Nat) (cs : List Char) : Option Nat :=
  cs.mapM digit? >>= valueUpTo limit

def signed (i : Int) : List Char :=
  let magnitude := (digits i.natAbs).map ofDigit
  if i < 0 then '-' :: magnitude else magnitude

def ofInt (i : Int) : String :=
  String.ofList (signed i)

end DiceBot.Text.Decimal
