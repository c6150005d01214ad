import DiceBot.Dice.Notation
import DiceBot.Proofs.Text.Blank

namespace DiceBot.Dice.Notation

open Text Decimal

def Blanks (w : List Char) : Prop :=
  ∀ c ∈ w, ∃ range ∈ blankRanges, range.1 ≤ c.toNat ∧ c.toNat ≤ range.2

/-- `int := [1-9][0-9]*` -/
inductive Numeral : List Char → Prop
  | mk {c : Char} {cs : List Char} (first : '1' ≤ c ∧ c ≤ '9')
      (further : ∀ d ∈ cs, '0' ≤ d ∧ d ≤ '9') : Numeral (c :: cs)

inductive Sign where
  | plus
  | minus
  deriving DecidableEq, Repr

def Sign.char : Sign → Char
  | .plus => '+'
  | .minus => '-'

structure Group where
  count : List Char
  sides : List Char
  modifier : Option (Sign × List Char) := none
  deriving DecidableEq, Repr

/-- `dice := int 'd' int ws` -/
inductive DiceText (count sides : List Char) : List Char → Prop
  | mk {w : List Char} (hn : Numeral count) (hs : Numeral sides) (hw : Blanks w) :
      DiceText count sides (count ++ 'd' :: (sides ++ w))

/-- `(('+'|'-') ws int ws)?` -/
inductive ModifierText : Option (Sign × List Char) → List Char → Prop
  | none : ModifierText none []
  | some {s : Sign} {w n v : List Char} (hw : Blanks w) (hn : Numeral n) (hv : Blanks v) :
      ModifierText (some (s, n)) (s.char :: (w ++ n ++ v))

/-- `dice (('+'|'-') ws int ws)?` -/
inductive GroupText : Group → List Char → Prop
  | mk {count sides d t : List Char} {m : Option (Sign × List Char)} (hd : DiceText count sides d)
      (hm : ModifierText m t) : GroupText ⟨count, sides, m⟩ (d ++ t)

/-- `('+' ws dice (('+'|'-') ws int ws)?)*` -/
inductive FurtherGroups : List Group → List Char → Prop
  | nil : FurtherGroups [] []
  | cons {g : Group} {gs : List Group} {w t rest : List Char} (hw : Blanks w)
      (hg : GroupText g t) (hgs : FurtherGroups gs rest) :
      FurtherGroups (g :: gs) ('+' :: (w ++ t ++ rest))

/-- `expr := ws dice (('+'|'-') ws int ws)? ('+' ws dice (('+'|'-') ws int ws)?)*`, with the groups
that a text is derived from. -/
inductive Derives : List Group → List Char → Prop
  | mk {g : Group} {gs : List Group} {w t rest : List Char} (hw : Blanks w)
      (hg : GroupText g t) (hgs : FurtherGroups gs rest) : Derives (g :: gs) (w ++ t ++ rest)

theorem blanks_iff (w : List Char) : Blanks w ↔ ∀ c ∈ w, isBlank c = true := by
  simp only [Blanks, isBlank_iff]

instance (w : List Char) : Decidable (Blanks w) :=
  decidable_of_iff (w.all isBlank = true) (List.all_eq_true.trans (blanks_iff w).symm)

theorem Blanks.nil : Blanks [] :=
  fun _ hc => absurd hc List.not_mem_nil

theorem Blanks.append {w w' : List Char} (hw : Blanks w) (hw' : Blanks w') : Blanks (w ++ w') :=
  fun c hc => (List.mem_append.mp hc).elim (hw c) (hw' c)

theorem blanks_singleton {c : Char} (hc : isBlank c = true) : Blanks [c] := by
  rw [blanks_iff]
  intro d hd
  rwa [List.mem_singleton.mp hd]

theorem numeral_cons_iff (c : Char) (cs : List Char) :
    Numeral (c :: cs) ↔ isLeadingDigit c = true ∧ ∀ d ∈ cs, d.isDigit = true := by
  simp only [isLeadingDigit_iff, isDigit_iff]
  constructor
  · rintro ⟨first, further⟩
    exact ⟨first, further⟩
  · rintro ⟨first, further⟩
    exact .mk first further

theorem numeral_iff (n : List Char) : Numeral n ↔ isNumeral n = true := by
  cases n with
  | nil => exact ⟨nofun, nofun⟩
  | cons c cs => rw [numeral_cons_iff, isNumeral, Bool.and_eq_true, List.all_eq_true]

instance (n : List Char) : Decidable (Numeral n) :=
  decidable_of_iff _ (numeral_iff n).symm

theorem numeral_singleton {c : Char} (hc : isLeadingDigit c = true) : Numeral [c] :=
  (numeral_cons_iff c []).mpr ⟨hc, fun _ hd => absurd hd List.not_mem_nil⟩

theorem Numeral.snoc {n : List Char} {c : Char} (hn : Numeral n) (hc : c.isDigit = true) :
    Numeral (n ++ [c]) := by
  cases n with
  | nil => cases hn
  | cons d ds =>
    rw [numeral_cons_iff] at hn
    rw [List.cons_append, numeral_cons_iff]
    refine ⟨hn.1, fun e he => ?_⟩
    obtain he | he := List.mem_append.mp he
    · exact hn.2 e he
    · rwa [List.mem_singleton.mp he]

theorem Numeral.isDigit {n : List Char} (hn : Numeral n) : ∀ c ∈ n, c.isDigit = true := by
  cases n with
  | nil => cases hn
  | cons d ds =>
    obtain ⟨hd, hds⟩ := (numeral_cons_iff d ds).mp hn
    intro c hc
    obtain rfl | hc := List.mem_cons.mp hc
    · exact isDigit_of_isLeadingDigit hd
    · exact hds c hc

theorem Numeral.not_mem {n : List Char} {c : Char} (hn : Numeral n) (hc : c.isDigit = false) :
    c ∉ n := by
  intro h
  rw [hn.isDigit c h] at hc
  cases hc

theorem DiceText.snoc {n s d : List Char} {c : Char} (hd : DiceText n s d) (hc : isBlank c = true) :
    DiceText n s (d ++ [c]) := by
  obtain ⟨hn, hs, hw⟩ := hd
  simpa using DiceText.mk hn hs (hw.append (blanks_singleton hc))

theorem GroupText.ofDice {n s d : List Char} (hd : DiceText n s d) : GroupText ⟨n, s, none⟩ d := by
  simpa using GroupText.mk hd .none

theorem FurtherGroups.append {gs gs' : List Group} {t t' : List Char} (h : FurtherGroups gs t)
    (h' : FurtherGroups gs' t') : FurtherGroups (gs ++ gs') (t ++ t') := by
  induction h with
  | nil => exact h'
  | cons hw hg _ ih => simpa using FurtherGroups.cons hw hg ih

inductive BeforeGroup : List Group → List Char → Prop
  | first {w : List Char} (hw : Blanks w) : BeforeGroup [] w
  | next {gs : List Group} {e w : List Char} (he : Derives gs e) (hw : Blanks w) :
      BeforeGroup gs (e ++ '+' :: w)

theorem BeforeGroup.derives {gs : List Group} {g : Group} {b t : List Char} (hb : BeforeGroup gs b)
    (hg : GroupText g t) : Derives (gs ++ [g]) (b ++ t) := by
  cases hb with
  | first hw => simpa using Derives.mk hw hg .nil
  | next he hw =>
    obtain ⟨hv, hf, hfs⟩ := he
    simpa using Derives.mk hv hf (hfs.append (.cons hw hg .nil))

end DiceBot.Dice.Notation
