namespace DiceBot.Text

abbrev Ranges :=
  List (Nat × Nat)

def Ranges.has : Ranges → Char → Bool
  | [], _ => false
  | (low, high) :: rs, c => low ≤ c.toNat && (c.toNat ≤ high || has rs c)

def valueAt? {α : Type} : List (Nat × Nat × α) → Char → Option α
  | [], _ => none
  | (low, high, a) :: rs, c =>
    if c.toNat < low then none else if c.toNat ≤ high then some a else valueAt? rs c

/-- The last entry that starts at or before a code point, of entries in ascending order; `found` is
the last one so far. -/
def lastAt? {α : Type} (n : Nat) (found : Option (Nat × α)) : List (Nat × α) → Option (Nat × α)
  | [] => found
  | e :: es => if n < e.1 then found else lastAt? n (some e) es

end DiceBot.Text
