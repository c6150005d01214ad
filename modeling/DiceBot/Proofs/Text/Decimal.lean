import DiceBot.Text.Decimal
import Mathlib.Data.Nat.Digits.Lemmas

namespace DiceBot.Text.Decimal

theorem isDigit_iff (c : Char) : c.isDigit = true ↔ 48 ≤ c.toNat ∧ c.toNat ≤ 57 := by
  simp only [Char.isDigit, Bool.and_eq_true, decide_eq_true_eq, ge_iff_le, UInt32.le_iff_toNat_le]
  exact Iff.rfl

theorem isLeadingDigit_iff (c : Char) :
    isLeadingDigit c = true ↔ 49 ≤ c.toNat ∧ c.toNat ≤ 57 := by
  have h0 : c = '0' ↔ c.toNat = 48 := Char.toNat_inj.symm
  simp only [isLeadingDigit, Bool.and_eq_true, isDigit_iff, bne_iff_ne, ne_eq, h0]
  omega

theorem isDigit_of_isLeadingDigit {c : Char} (h : isLeadingDigit c = true) : c.isDigit = true := by
  rw [isLeadingDigit, Bool.and_eq_true] at h
  exact h.1

theorem mapM_digit? {cs : List Char} (h : ∀ c ∈ cs, c.isDigit = true) :
    cs.mapM digit? = some (cs.map fun c => c.toNat - 48) := by
  induction cs with
  | nil => rfl
  | cons c cs ih =>
    have hc : digit? c = some (c.toNat - 48) := if_pos (h c (by simp))
    have hcs := ih fun d hd => h d (by simp [hd])
    simp [List.mapM_cons, hc, hcs]

theorem le_foldl_append (n : Nat) (ds : List Nat) : n ≤ ds.foldl (fun n d => 10 * n + d) n := by
  induction ds generalizing n with
  | nil => exact Nat.le_refl n
  | cons d ds ih => exact Nat.le_trans (by omega) (ih (10 * n + d))

theorem foldlM_appendUpTo (limit n : Nat) (ds : List Nat) (hn : n ≤ limit) :
    ds.foldlM (appendUpTo limit) n =
      if ds.foldl (fun n d => 10 * n + d) n ≤ limit then
        some (ds.foldl (fun n d => 10 * n + d) n) else none := by
  induction ds generalizing n with
  | nil => simp [hn]
  | cons d ds ih =>
    rw [List.foldlM_cons, List.foldl_cons]
    by_cases h : 10 * n + d ≤ limit
    · rw [appendUpTo, if_pos h]
      exact ih (10 * n + d) h
    · have hlarge := le_foldl_append (10 * n + d) ds
      rw [appendUpTo, if_neg h, if_neg (by omega)]
      rfl

/-- Stopping at the first value above the limit loses no number below it. -/
theorem valueUpTo_eq (limit : Nat) (ds : List Nat) :
    valueUpTo limit ds = if value ds ≤ limit then some (value ds) else none :=
  foldlM_appendUpTo limit 0 ds (Nat.zero_le limit)

theorem value_append (ds : List Nat) (d : Nat) : value (ds ++ [d]) = 10 * value ds + d := by
  simp [value]

theorem value_eq_ofDigits (ds : List Nat) : value ds = Nat.ofDigits 10 ds.reverse := by
  induction ds using List.reverseRecOn with
  | nil => rfl
  | append_singleton ds d ih =>
    rw [value_append, List.reverse_append, List.reverse_singleton, List.singleton_append,
      Nat.ofDigits_cons, ih]
    simp [Nat.add_comm]

theorem digitsOnto_of_lt {n : Nat} (h : n < 10) (low : List Nat) : digitsOnto n low = n :: low := by
  rw [digitsOnto, if_pos h]

theorem digitsOnto_of_le {n : Nat} (h : 10 ≤ n) (low : List Nat) :
    digitsOnto n low = digitsOnto (n / 10) (n % 10 :: low) := by
  rw [digitsOnto, if_neg (by omega)]

theorem digitsOnto_eq (n : Nat) (low : List Nat) : digitsOnto n low = digits n ++ low := by
  induction n using Nat.strong_induction_on generalizing low with
  | _ n ih =>
    by_cases h : n < 10
    · rw [digits, digitsOnto_of_lt h, digitsOnto_of_lt h, List.singleton_append]
    · have hn : 10 ≤ n := by omega
      rw [digits, digitsOnto_of_le hn, digitsOnto_of_le hn [], ih (n / 10) (by omega),
        ih (n / 10) (by omega) [n % 10], List.append_assoc, List.singleton_append]

theorem digits_of_lt {n : Nat} (h : n < 10) : digits n = [n] :=
  digitsOnto_of_lt h []

theorem digits_of_le {n : Nat} (h : 10 ≤ n) : digits n = digits (n / 10) ++ [n % 10] := by
  rw [digits, digitsOnto_of_le h, digitsOnto_eq]

theorem value_digits (n : Nat) : value (digits n) = n := by
  induction n using Nat.strong_induction_on with
  | _ n ih =>
    by_cases h : n < 10
    · rw [digits_of_lt h]
      simp [value]
    · rw [digits_of_le (by omega), value_append, ih (n / 10) (by omega)]
      omega

theorem lt_of_mem_digits {n d : Nat} (h : d ∈ digits n) : d < 10 := by
  induction n using Nat.strong_induction_on with
  | _ n ih =>
    by_cases hn : n < 10
    · rw [digits_of_lt hn, List.mem_singleton] at h
      omega
    · rw [digits_of_le (by omega), List.mem_append, List.mem_singleton] at h
      obtain h | h := h
      · exact ih (n / 10) (by omega) h
      · omega

theorem digits_cons (n : Nat) : ∃ d ds, digits n = d :: ds ∧ (d = 0 → n = 0) := by
  induction n using Nat.strong_induction_on with
  | _ n ih =>
    by_cases hn : n < 10
    · exact ⟨n, [], digits_of_lt hn, id⟩
    · obtain ⟨d, ds, hd, h0⟩ := ih (n / 10) (by omega)
      refine ⟨d, ds ++ [n % 10], by rw [digits_of_le (by omega), hd, List.cons_append], ?_⟩
      intro h
      have := h0 h
      omega

theorem value_cons_pos {d : Nat} (hd : 0 < d) (ds : List Nat) : 0 < value (d :: ds) := by
  have hle : 10 * 0 + d ≤ value (d :: ds) := le_foldl_append (10 * 0 + d) ds
  omega

theorem digits_value {d : Nat} {ds : List Nat} (hd : 0 < d) (hlt : ∀ e ∈ d :: ds, e < 10) :
    digits (value (d :: ds)) = d :: ds := by
  induction ds using List.reverseRecOn with
  | nil =>
    have hvalue : value [d] = d := by simp [value]
    rw [hvalue, digits_of_lt (hlt d (by simp))]
  | append_singleton ds e ih =>
    have he : e < 10 := hlt e (by simp)
    have hds : ∀ f ∈ d :: ds, f < 10 := by
      intro f hf
      apply hlt
      rw [← List.cons_append]
      exact List.mem_append_left [e] hf
    have hpos := value_cons_pos hd ds
    have hdiv : (10 * value (d :: ds) + e) / 10 = value (d :: ds) := by omega
    have hmod : (10 * value (d :: ds) + e) % 10 = e := by omega
    rw [← List.cons_append, value_append, digits_of_le (by omega), hdiv, hmod, ih hds]

theorem signed_natCast (n : Nat) : signed n = (digits n).map ofDigit := by
  rw [signed, if_neg (by omega), Int.natAbs_natCast]

theorem signed_of_neg {i : Int} (h : i < 0) : signed i = '-' :: (digits i.natAbs).map ofDigit := by
  rw [signed, if_pos h]

theorem eq_minus_or_isDigit_of_mem_signed {i : Int} {c : Char} (h : c ∈ signed i) :
    c = '-' ∨ c.isDigit = true := by
  have hdigit : ∀ d < 10, (ofDigit d).isDigit = true := by decide
  have hmagnitude : ∀ c ∈ (digits i.natAbs).map ofDigit, c.isDigit = true :=
    List.forall_mem_map.mpr fun d hd => hdigit d (lt_of_mem_digits hd)
  by_cases hi : i < 0
  · rw [signed_of_neg hi] at h
    exact (List.mem_cons.mp h).imp_right (hmagnitude c)
  · rw [signed, if_neg hi] at h
    exact .inr (hmagnitude c h)

theorem notMem_signed {c : Char} (hminus : c ≠ '-') (hdigit : c.isDigit = false) (i : Int) :
    c ∉ signed i := by
  intro h
  obtain h | h := eq_minus_or_isDigit_of_mem_signed h
  · exact hminus h
  · rw [hdigit] at h
    cases h

end DiceBot.Text.Decimal
