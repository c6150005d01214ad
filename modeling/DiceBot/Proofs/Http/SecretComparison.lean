import DiceBot.Http.Server
import DiceBot.Proofs.Text.Utf8
import Mathlib.Data.List.Forall2

namespace DiceBot.Http

open Text

variable {provided expected : String}

theorem difference_step_eq_zero_iff {difference a b : UInt8} :
    difference ||| (a ^^^ b) = 0 ↔ difference = 0 ∧ a = b := by
  rw [UInt8.or_eq_zero_iff, UInt8.xor_eq_zero_iff]

/-- A later byte never takes back a difference that an earlier one made. -/
theorem foldl_difference_eq_zero_iff (ps : List (UInt8 × UInt8)) (difference : UInt8) :
    ps.foldl (fun difference p => difference ||| (p.1 ^^^ p.2)) difference = 0 ↔
      difference = 0 ∧ ∀ p ∈ ps, p.1 = p.2 := by
  induction ps generalizing difference with
  | nil => simp
  | cons p ps ih =>
    rw [List.foldl_cons, ih, difference_step_eq_zero_iff, List.forall_mem_cons, and_assoc]

theorem secretMatches_iff_pairs :
    secretMatches provided expected = true ↔ provided ≠ "" ∧
      (Utf8.ofString provided).length = (Utf8.ofString expected).length ∧
      ∀ p ∈ (Utf8.ofString provided).zip (Utf8.ofString expected), p.1 = p.2 := by
  simp only [secretMatches]
  split
  · next hguard =>
    rw [Bool.or_eq_true, List.isEmpty_iff, Utf8.ofString_eq_nil_iff, bne_iff_ne] at hguard
    simp only [Bool.false_eq_true, false_iff]
    rintro ⟨hne, hlength, -⟩
    exact hguard.elim hne fun h => h hlength
  · next hguard =>
    rw [Bool.or_eq_true, List.isEmpty_iff, Utf8.ofString_eq_nil_iff, bne_iff_ne, not_or,
      not_not] at hguard
    rw [beq_iff_eq, foldl_difference_eq_zero_iff]
    exact ⟨fun h => ⟨hguard.1, hguard.2, h.2⟩, fun h => ⟨rfl, h.2.2⟩⟩

theorem secretMatches_iff_bytes :
    secretMatches provided expected = true ↔
      provided ≠ "" ∧ Utf8.ofString provided = Utf8.ofString expected := by
  -- The pairs stop at the end of the shorter text, so the lengths are needed too.
  have hpairs : ∀ p e : Bytes,
      (p.length = e.length ∧ ∀ q ∈ p.zip e, q.1 = q.2) ↔ p = e := by
    intro p e
    rw [← List.forall₂_eq_eq_eq, List.forall₂_iff_zip]
    exact ⟨fun h => ⟨h.1, h.2 _⟩, fun h => ⟨h.1, fun q hq => h.2 hq⟩⟩
  rw [secretMatches_iff_pairs, hpairs]

theorem secretMatches_iff :
    secretMatches provided expected = true ↔ expected ≠ "" ∧ provided = expected := by
  rw [secretMatches_iff_bytes]
  constructor
  · rintro ⟨hne, hbytes⟩
    cases Utf8.eq_of_ofString_eq hbytes
    exact ⟨hne, rfl⟩
  · rintro ⟨hne, rfl⟩
    exact ⟨hne, rfl⟩

/-- Secrets match exactly if they are one text and not the empty one. One place where the bytes
differ, or where only one of the two has ended, is enough to keep them from matching. -/
theorem secretMatches_iff_same_text (provided expected : String) :
    (secretMatches provided expected = true ↔ provided ≠ "" ∧ provided = expected) ∧
      (secretMatches provided expected = false ↔ provided = "" ∨
        ∃ i : Nat, (Utf8.ofString provided)[i]? ≠ (Utf8.ofString expected)[i]?) := by
  constructor
  · rw [secretMatches_iff]
    exact and_congr_left fun h => by rw [h]
  · rw [← Bool.not_eq_true, secretMatches_iff_bytes, not_and_or, not_not, List.ext_getElem?_iff,
      not_forall]

-- Two differences do not make up for each other, even if they are the same.
example : secretMatches "ab" "ba" = false := by
  decide

end DiceBot.Http
