import DiceBot.Proofs.Text.Decimal
import DiceBot.Text.Blank

namespace DiceBot.Text

theorem Ranges.has_iff (rs : Ranges) (hrs : rs.Pairwise fun r s => r.1 ≤ s.1) (c : Char) :
    rs.has c = true ↔ ∃ r ∈ rs, r.1 ≤ c.toNat ∧ c.toNat ≤ r.2 := by
  induction rs with
  | nil => simp [Ranges.has]
  | cons r rs ih =>
    obtain ⟨hr, hrs⟩ := List.pairwise_cons.mp hrs
    have hlow : (∃ s ∈ rs, s.1 ≤ c.toNat ∧ c.toNat ≤ s.2) → r.1 ≤ c.toNat :=
      fun ⟨s, hs, hc, _⟩ => Nat.le_trans (hr s hs) hc
    simp only [Ranges.has, Bool.and_eq_true, Bool.or_eq_true, decide_eq_true_eq, ih hrs,
      List.mem_cons, exists_eq_or_imp]
    constructor
    · rintro ⟨h, h' | h'⟩
      · exact .inl ⟨h, h'⟩
      · exact .inr h'
    · rintro (⟨h, h'⟩ | h')
      · exact ⟨h, .inl h'⟩
      · exact ⟨hlow h', .inr h'⟩

theorem isBlank_iff (c : Char) :
    isBlank c = true ↔ ∃ r ∈ blankRanges, r.1 ≤ c.toNat ∧ c.toNat ≤ r.2 :=
  blankRanges.has_iff (by decide) c

theorem isAllBlank_iff {s : String} : isAllBlank s = true ↔ ∀ c ∈ s.toList, isBlank c = true :=
  List.all_eq_true

theorem isAllBlank_eq_false_iff {s : String} :
    isAllBlank s = false ↔ ∃ c ∈ s.toList, isBlank c = false := by
  simp [isAllBlank]

theorem isBlank_eq_false_of_isDigit {c : Char} (h : c.isDigit = true) : isBlank c = false := by
  have hc := (Decimal.isDigit_iff c).mp h
  have hranges : ∀ r ∈ blankRanges, r.2 < 48 ∨ 57 < r.1 := by decide
  rw [Bool.eq_false_iff, ne_eq, isBlank_iff]
  rintro ⟨r, hr, hlow, hhigh⟩
  obtain h | h := hranges r hr <;> omega

end DiceBot.Text
