import DiceBot.Text.Hex

namespace DiceBot.Text.Hex

def IsDigit (c : Char) (d : Nat) : Prop :=
  "0123456789abcdef".toList[d]? = some c ∨ "0123456789ABCDEF".toList[d]? = some c

instance (c : Char) (d : Nat) : Decidable (IsDigit c d) := by
  unfold IsDigit
  infer_instance

/-- A text has two digits for each byte. -/
inductive Denotes : List Char → Bytes → Prop
  | nil : Denotes [] []
  | cons {h l : Char} {m n : Nat} {b : UInt8} {cs : List Char} {bs : Bytes} (hh : IsDigit h m)
      (hl : IsDigit l n) (hb : b.toNat = 16 * m + n) (hcs : Denotes cs bs) :
      Denotes (h :: l :: cs) (b :: bs)

variable {c : Char} {cs : List Char} {bs : Bytes} {d : Nat}

theorem IsDigit.lt (h : IsDigit c d) : d < 16 := by
  obtain h | h := h <;> exact (List.getElem?_eq_some_iff.mp h).1

theorem toNat_lt_of_digit? (h : digit? c = some d) : c.toNat < 128 := by
  simp only [digit?] at h
  have hle : ∀ e : Char, c ≤ e → c.toNat ≤ e.toNat := fun e he => he
  split at h
  · next hc => exact Nat.lt_of_le_of_lt (hle _ hc.2) (by decide)
  split at h
  · next hc => exact Nat.lt_of_le_of_lt (hle _ hc.2) (by decide)
  split at h
  · next hc => exact Nat.lt_of_le_of_lt (hle _ hc.2) (by decide)
  · cases h

theorem digit?_eq_some_iff : digit? c = some d ↔ IsDigit c d := by
  constructor
  · intro h
    have hascii : ∀ n < 128, ∀ d, digit? (Char.ofNat n) = some d → IsDigit (Char.ofNat n) d := by
      have hall : ∀ n < 128, (digit? (Char.ofNat n)).all
          (fun d => decide (IsDigit (Char.ofNat n) d)) = true := by decide +kernel
      intro n hn d hd
      simpa [hd] using hall n hn
    have hc := hascii c.toNat (toNat_lt_of_digit? h)
    rw [Char.ofNat_toNat] at hc
    exact hc d h
  · intro h
    have hd := h.lt
    have hlower : ∀ d < 16, "0123456789abcdef".toList[d]?.all (digit? · == some d) = true := by
      decide +kernel
    have hupper : ∀ d < 16, "0123456789ABCDEF".toList[d]?.all (digit? · == some d) = true := by
      decide +kernel
    obtain h | h := h
    · have hc := hlower d hd
      rw [h] at hc
      exact beq_iff_eq.mp hc
    · have hc := hupper d hd
      rw [h] at hc
      exact beq_iff_eq.mp hc

theorem toNat_ofNat_digits {h l : Char} {m n : Nat} (hm : digit? h = some m)
    (hn : digit? l = some n) : (UInt8.ofNat (16 * m + n)).toNat = 16 * m + n := by
  have hm := (digit?_eq_some_iff.mp hm).lt
  have hn := (digit?_eq_some_iff.mp hn).lt
  have hlt : 16 * m + n < 256 := by omega
  exact UInt8.toNat_ofNat_of_lt' hlt

theorem decodeOnto_of_denotes (h : Denotes cs bs) (done : Bytes) :
    decodeOnto done cs = some (done.reverse ++ bs) := by
  induction h generalizing done with
  | nil => simp [decodeOnto]
  | cons hh hl hb _ ih =>
    simp only [decodeOnto, digit?_eq_some_iff.mpr hh, digit?_eq_some_iff.mpr hl, ← hb,
      UInt8.ofNat_toNat, ih]
    simp

theorem exists_denotes_of_decodeOnto {done : Bytes} (h : decodeOnto done cs = some bs) :
    ∃ more, Denotes cs more ∧ bs = done.reverse ++ more := by
  induction done, cs using decodeOnto.induct with
  | case1 done =>
    rw [decodeOnto] at h
    cases h
    exact ⟨[], .nil, (List.append_nil _).symm⟩
  | case2 done c =>
    rw [decodeOnto] at h
    cases h
  | case3 done high low rest m n hn hm ih =>
    simp only [decodeOnto, hm, hn] at h
    obtain ⟨more, hmore, rfl⟩ := ih h
    exact ⟨_, .cons (digit?_eq_some_iff.mp hm) (digit?_eq_some_iff.mp hn)
      (toNat_ofNat_digits hm hn) hmore, by simp⟩
  | case4 done high low rest hnone =>
    rw [decodeOnto] at h
    split at h
    · next m n hm hn => exact absurd hn (hnone m n hm)
    · cases h

theorem decode?_eq_some_iff {s : String} : decode? s = some bs ↔ Denotes s.toList bs := by
  constructor
  · intro h
    obtain ⟨more, hmore, rfl⟩ := exists_denotes_of_decodeOnto h
    exact hmore
  · exact fun h => decodeOnto_of_denotes h []

theorem decode?_congr {s t : String} (h : ∀ bs, Denotes s.toList bs ↔ Denotes t.toList bs) :
    decode? s = decode? t := by
  apply Option.ext
  intro bs
  rw [decode?_eq_some_iff, decode?_eq_some_iff, h]

theorem Denotes.length_eq (h : Denotes cs bs) : cs.length = 2 * bs.length := by
  induction h with
  | nil => rfl
  | cons _ _ _ _ ih =>
    simp only [List.length_cons]
    omega

theorem Denotes.isDigit (h : Denotes cs bs) : ∀ c ∈ cs, ∃ d, IsDigit c d := by
  induction h with
  | nil => exact fun c hc => absurd hc List.not_mem_nil
  | cons hh hl _ _ ih =>
    exact List.forall_mem_cons.mpr ⟨⟨_, hh⟩, List.forall_mem_cons.mpr ⟨⟨_, hl⟩, ih⟩⟩

theorem exists_denotes_iff (n : Nat) :
    (∃ bs, Denotes cs bs ∧ bs.length = n) ↔ cs.length = 2 * n ∧ ∀ c ∈ cs, ∃ d, IsDigit c d := by
  constructor
  · rintro ⟨bs, h, rfl⟩
    exact ⟨h.length_eq, h.isDigit⟩
  · rintro ⟨hlength, hdigits⟩
    induction n generalizing cs with
    | zero =>
      rw [List.length_eq_zero_iff.mp hlength]
      exact ⟨[], .nil, rfl⟩
    | succ n ih =>
      match cs, hlength, hdigits with
      | h :: l :: cs, hlength, hdigits =>
        obtain ⟨⟨m, hm⟩, hdigits⟩ := List.forall_mem_cons.mp hdigits
        obtain ⟨⟨k, hk⟩, hdigits⟩ := List.forall_mem_cons.mp hdigits
        have hlength : cs.length = 2 * n := by
          simp only [List.length_cons] at hlength
          omega
        obtain ⟨bs, hbs, hn⟩ := ih hlength hdigits
        have hb := toNat_ofNat_digits (digit?_eq_some_iff.mpr hm) (digit?_eq_some_iff.mpr hk)
        exact ⟨_, .cons hm hk hb hbs, congrArg (· + 1) hn⟩

theorem digit?_toLower (c : Char) : digit? c.toLower = digit? c := by
  have hascii : ∀ n < 128, digit? (Char.ofNat n).toLower = digit? (Char.ofNat n) := by
    decide +kernel
  by_cases hc : c.toNat < 128
  · have h := hascii c.toNat hc
    rwa [Char.ofNat_toNat] at h
  · have hupper : ¬(c.val ≥ 'A'.val ∧ c.val ≤ 'Z'.val) := by
      rintro ⟨-, h⟩
      exact hc (Nat.lt_of_le_of_lt (UInt32.le_iff_toNat_le.mp h) (by decide))
    have hlower : c.toLower = c := dif_neg hupper
    rw [hlower]

theorem isDigit_iff_of_toLower_eq {e : Char} (h : c.toLower = e.toLower) :
    IsDigit c d ↔ IsDigit e d := by
  rw [← digit?_eq_some_iff, ← digit?_toLower, h, digit?_toLower, digit?_eq_some_iff]

theorem Denotes.of_map_toLower_eq (h : Denotes cs bs) {es : List Char}
    (he : cs.map Char.toLower = es.map Char.toLower) : Denotes es bs := by
  induction h generalizing es with
  | nil =>
    rw [List.map_eq_nil_iff.mp he.symm]
    exact .nil
  | cons hh hl hb _ ih =>
    obtain ⟨h', _, rfl, hhigh, he⟩ := List.map_eq_cons_iff.mp he.symm
    obtain ⟨l', es, rfl, hlow, he⟩ := List.map_eq_cons_iff.mp he
    exact .cons ((isDigit_iff_of_toLower_eq hhigh).mpr hh)
      ((isDigit_iff_of_toLower_eq hlow).mpr hl) hb (ih he.symm)

theorem toList_toLower (s : String) : s.toLower.toList = s.toList.map Char.toLower :=
  String.toList_map

/-- The case of its letters makes no difference to what a text denotes. -/
theorem denotes_iff_of_toLower_eq {s t : String} (h : s.toLower = t.toLower) :
    Denotes s.toList bs ↔ Denotes t.toList bs := by
  have hmap : s.toList.map Char.toLower = t.toList.map Char.toLower := by
    rw [← toList_toLower, ← toList_toLower, h]
  exact ⟨fun hs => hs.of_map_toLower_eq hmap, fun ht => ht.of_map_toLower_eq hmap.symm⟩

end DiceBot.Text.Hex
