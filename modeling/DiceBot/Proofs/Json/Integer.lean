import DiceBot.Json.Integer
import DiceBot.Proofs.Json.Spelling
import DiceBot.Proofs.Text.Decimal

namespace DiceBot.Json

open Text

def digitByte (d : Nat) : UInt8 :=
  UInt8.ofNat (48 + d)

def numeralBytes (n : Nat) : Bytes :=
  (Decimal.digits n).map digitByte

theorem encodeChar_ofDigit : ∀ {d : Nat}, d < 10 →
    Utf8.encodeChar (Decimal.ofDigit d) = [digitByte d] := by
  decide

theorem digit?_digitByte : ∀ {d : Nat}, d < 10 →
    Decimal.digit? (Char.ofUInt8 (digitByte d)) = some d := by
  decide

theorem isDigit_digitByte : ∀ {d : Nat}, d < 10 →
    (Char.ofUInt8 (digitByte d)).isDigit = true ∧ digitByte d ≠ 0x2D := by
  decide

theorem encode_map_ofDigit {ds : List Nat} (hds : ∀ d ∈ ds, d < 10) :
    Utf8.encode (ds.map Decimal.ofDigit) = ds.map digitByte := by
  induction ds with
  | nil => rfl
  | cons d ds ih =>
    obtain ⟨hd, hds⟩ := List.forall_mem_cons.mp hds
    rw [List.map_cons, Utf8.encode, List.flatMap_cons, encodeChar_ofDigit hd]
    exact congrArg _ (ih hds)

theorem mapM_digit?_digitByte {ds : List Nat} (hds : ∀ d ∈ ds, d < 10) :
    (ds.map digitByte).mapM (fun b => Decimal.digit? (Char.ofUInt8 b)) = some ds := by
  induction ds with
  | nil => rfl
  | cons d ds ih =>
    obtain ⟨hd, hds⟩ := List.forall_mem_cons.mp hds
    rw [List.map_cons, List.mapM_cons, digit?_digitByte hd, ih hds]
    rfl

theorem encode_digits (n : Nat) :
    Utf8.encode ((Decimal.digits n).map Decimal.ofDigit) = numeralBytes n :=
  encode_map_ofDigit fun _ => Decimal.lt_of_mem_digits

theorem ofInt_of_neg {i : Int} (h : i < 0) : ofInt i = .number (0x2D :: numeralBytes i.natAbs) := by
  rw [← encode_digits, ofInt, Decimal.signed, if_pos h]
  rfl

theorem ofInt_of_nonneg {i : Int} (h : 0 ≤ i) : ofInt i = .number (numeralBytes i.natAbs) := by
  rw [← encode_digits, ofInt, Decimal.signed, if_neg (Int.not_lt.mpr h)]

theorem magnitude?_numeralBytes {limit n : Nat} (h : n ≤ limit) :
    magnitude? limit (numeralBytes n) = some n := by
  rw [magnitude?, numeralBytes, mapM_digit?_digitByte fun _ => Decimal.lt_of_mem_digits]
  apply (Decimal.valueUpTo_eq limit _).trans
  rw [Decimal.value_digits, if_pos h]

theorem numeralBytes_cons (n : Nat) :
    ∃ d ds, numeralBytes n = digitByte d :: ds.map digitByte ∧ d < 10 ∧ (∀ e ∈ ds, e < 10) ∧
      (d = 0 → ds = []) := by
  obtain ⟨d, ds, hn, h0⟩ := Decimal.digits_cons n
  have hlt : ∀ e ∈ d :: ds, e < 10 := fun e he => Decimal.lt_of_mem_digits (n := n) (hn ▸ he)
  obtain ⟨hd, hds⟩ := List.forall_mem_cons.mp hlt
  refine ⟨d, ds, by rw [numeralBytes, hn, List.map_cons], hd, hds, ?_⟩
  intro hzero
  have hn0 := h0 hzero
  subst hn0
  rw [Decimal.digits_of_lt (by omega)] at hn
  exact (List.cons.inj hn).2.symm

/-- An integer within the limits is read as it was written. -/
theorem integer?_ofInt {low high i : Int} (hlow : low ≤ i) (hhigh : i ≤ high) :
    integer? low high (ofInt i) = some i := by
  by_cases hi : i < 0
  · have hm : magnitude? low.natAbs (numeralBytes i.natAbs) = some i.natAbs :=
      magnitude?_numeralBytes (by omega)
    have hrange : i.natAbs ≠ 0 ∧ low ≤ -(i.natAbs : Int) ∧ -(i.natAbs : Int) ≤ high := by omega
    rw [ofInt_of_neg hi]
    simp only [integer?, hm, if_pos hrange, Option.some.injEq]
    omega
  · have hm : magnitude? high.natAbs (numeralBytes i.natAbs) = some i.natAbs :=
      magnitude?_numeralBytes (by omega)
    have hrange : low ≤ (i.natAbs : Int) ∧ (i.natAbs : Int) ≤ high := by omega
    obtain ⟨d, ds, hn, hd, -⟩ := numeralBytes_cons i.natAbs
    have hsign : ∀ spelling, numeralBytes i.natAbs ≠ 0x2D :: spelling := by
      intro spelling h
      rw [hn] at h
      exact (isDigit_digitByte hd).2 (List.cons.inj h).1
    rw [ofInt_of_nonneg (Int.not_lt.mp hi)]
    unfold integer?
    split
    case h_1 spelling h => exact absurd (Json.number.inj h) (hsign spelling)
    case h_2 spelling _ h =>
      cases h
      simp only [hm, if_pos hrange, Option.some.injEq]
      omega
    case h_3 _ h => exact absurd rfl (h _)

theorem NumberPart.run_whole {ds : List Nat} (h : ∀ d ∈ ds, d < 10) :
    NumberPart.whole.run (ds.map digitByte) = some .whole := by
  induction ds with
  | nil => rfl
  | cons d ds ih =>
    obtain ⟨hd, hds⟩ := List.forall_mem_cons.mp h
    have hstep : NumberPart.whole.step (Char.ofUInt8 (digitByte d)) = some .whole := by
      rw [step, if_pos (isDigit_digitByte hd).1]
    rw [run, List.map_cons, List.foldlM_cons, hstep]
    exact ih hds

theorem NumberPart.run_numeralBytes (n : Nat) :
    ∃ p, NumberPart.minus.run (numeralBytes n) = some p ∧ p.isEnd = true := by
  obtain ⟨d, ds, hn, hd, hds, h0⟩ := numeralBytes_cons n
  have hfirst : ∀ d < 10, d ≠ 0 →
      NumberPart.minus.step (Char.ofUInt8 (digitByte d)) = some .whole := by
    decide
  rw [hn]
  by_cases hzero : d = 0
  · subst hzero
    rw [h0 rfl]
    exact ⟨.zero, rfl, rfl⟩
  · rw [run, List.foldlM_cons, hfirst d hd hzero]
    exact ⟨.whole, run_whole hds, rfl⟩

theorem isSpelled_ofInt (i : Int) : ∀ t ∈ (ofInt i).tokens, t.IsSpelled := by
  obtain ⟨p, hp, hend⟩ := NumberPart.run_numeralBytes i.natAbs
  by_cases hi : i < 0
  · rw [ofInt_of_neg hi, tokens, List.forall_mem_singleton]
    exact ⟨p, hp, hend⟩
  · obtain ⟨d, ds, hn, hd, -⟩ := numeralBytes_cons i.natAbs
    rw [ofInt_of_nonneg (Int.not_lt.mp hi), tokens, List.forall_mem_singleton]
    refine ⟨p, ?_, hend⟩
    rw [hn] at hp ⊢
    rwa [numberPart?, if_neg (isDigit_digitByte hd).2]

end DiceBot.Json
