import DiceBot.Proofs.Dice.Grammar

namespace DiceBot.Dice.Notation

open Text Decimal

def numeralValue (n : List Char) : Nat :=
  Nat.ofDigits 10 (n.reverse.map fun c => c.toNat - '0'.toNat)

/-- A numeral where it stands in an expression: as the count or the sides of a group, or behind a
sign as a modifier. -/
inductive Figure where
  | size (numeral : List Char)
  | modifier (sign : Sign) (numeral : List Char)
  deriving DecidableEq, Repr

namespace Figure

def value : Figure → Int
  | .size n => numeralValue n
  | .modifier .plus n => numeralValue n
  | .modifier .minus n => -numeralValue n

/-- Counts and sides have 32 bits without a sign, modifiers 64 bits with one. -/
def Fits : Figure → Prop
  | .size n => numeralValue n ≤ 4294967295
  | f => -9223372036854775808 ≤ f.value ∧ f.value ≤ 9223372036854775807

instance (f : Figure) : Decidable f.Fits := by
  unfold Fits
  split <;> infer_instance

def spelling : Figure → List Char
  | .size n => n
  | .modifier .plus n => n
  | .modifier .minus n => '-' :: n

end Figure

def Group.figures (g : Group) : List Figure :=
  .size g.count :: .size g.sides :: g.modifier.elim [] fun (s, n) => [.modifier s n]

theorem numeralUpTo_eq (limit : Nat) {n : List Char} (hn : Numeral n) :
    numeralUpTo limit n = if numeralValue n ≤ limit then some (numeralValue n) else none := by
  have hvalue : value (n.map fun c => c.toNat - 48) = numeralValue n := by
    rw [value_eq_ofDigits, ← List.map_reverse]
    rfl
  rw [numeralUpTo, mapM_digit? hn.isDigit, ← hvalue]
  exact valueUpTo_eq limit _

def Figure.outOfRange (f : Figure) : Error :=
  .outOfRange (String.ofList f.spelling)

theorem word_of_fits {n : List Char} (hn : Numeral n) (h : (Figure.size n).Fits) :
    ∃ w, word n = .ok w ∧ w.toNat = numeralValue n := by
  have hle : numeralValue n ≤ 4294967295 := h
  refine ⟨UInt32.ofNat (numeralValue n), ?_, ?_⟩
  · rw [word, numeralUpTo_eq _ hn, if_pos (by omega)]
  · rw [UInt32.toNat_ofNat_of_lt']
    exact Nat.lt_of_le_of_lt hle (by decide)

theorem word_of_not_fits {n : List Char} (hn : Numeral n) (h : ¬(Figure.size n).Fits) :
    word n = .error (Figure.size n).outOfRange := by
  have hlt : ¬numeralValue n ≤ 4294967295 := h
  rw [word, numeralUpTo_eq _ hn, if_neg (by omega)]
  rfl

theorem modifier_of_fits {s : Sign} {n : List Char} (hn : Numeral n)
    (h : (Figure.modifier s n).Fits) :
    ∃ m, modifier (some s.char) n = .ok m ∧ m.toInt = (Figure.modifier s n).value := by
  cases s with
  | plus =>
    have hle : (numeralValue n : Int) ≤ 9223372036854775807 := h.2
    refine ⟨Int64.ofNat (numeralValue n), ?_, ?_⟩
    · rw [modifier, if_neg (by decide), numeralUpTo_eq _ hn, if_pos (by omega)]
    · exact Int64.toInt_ofNat_of_lt (by omega)
  | minus =>
    have hle : -9223372036854775808 ≤ -(numeralValue n : Int) := h.1
    refine ⟨Int64.ofInt (-numeralValue n), ?_, ?_⟩
    · rw [modifier, if_pos (by decide), numeralUpTo_eq _ hn, if_pos (by omega)]
    · exact Int64.toInt_ofInt_of_le (by omega) (by omega)

theorem modifier_of_not_fits {s : Sign} {n : List Char} (hn : Numeral n)
    (h : ¬(Figure.modifier s n).Fits) :
    modifier (some s.char) n = .error (Figure.modifier s n).outOfRange := by
  cases s with
  | plus =>
    have hlt : ¬numeralValue n ≤ 9223372036854775807 := by
      intro hle
      exact h ⟨by simp only [Figure.value]; omega, by simp only [Figure.value]; omega⟩
    rw [modifier, if_neg (by decide), numeralUpTo_eq _ hn, if_neg hlt]
    rfl
  | minus =>
    have hlt : ¬numeralValue n ≤ 9223372036854775808 := by
      intro hle
      exact h ⟨by simp only [Figure.value]; omega, by simp only [Figure.value]; omega⟩
    rw [modifier, if_pos (by decide), numeralUpTo_eq _ hn, if_neg hlt]
    rfl

end DiceBot.Dice.Notation
