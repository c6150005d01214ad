import DiceBot.Text.Utf8

namespace DiceBot.Text.Utf8

theorem toNat_ofNat {n : Nat} (h : n < 256) : (UInt8.ofNat n).toNat = n :=
  UInt8.toNat_ofNat_of_lt' h

theorem isValid_toNat (c : Char) : c.toNat < 0xD800 ∨ 0xDFFF < c.toNat ∧ c.toNat < 0x110000 :=
  c.valid

theorem step_inside {missing value k : Nat} {low high b : UInt8} (hb : b.toNat = 0x80 + k)
    (hlow : low.toNat ≤ 0x80 + k) (hhigh : 0x80 + k ≤ high.toNat) :
    (Place.inside missing value low high).step b =
      match missing with
      | 0 => some (some (Char.ofNat (value * 64 + k)), .between)
      | missing + 1 => some (none, .inside missing (value * 64 + k) 0x80 0xBF) := by
  have hin : (low ≤ b && b ≤ high) = true := by
    simp only [Bool.and_eq_true, decide_eq_true_eq, UInt8.le_iff_toNat_le, hb]
    exact ⟨hlow, hhigh⟩
  cases missing <;> simp only [Place.step, hin, if_true, hb, Nat.add_sub_cancel_left]

theorem lead_one {n : Nat} (h : n < 0x80) :
    lead (UInt8.ofNat n) = some (some (Char.ofNat n), .between) := by
  simp only [lead, toNat_ofNat (show n < 256 by omega), if_pos h]

theorem lead_two {k : Nat} (h : 2 ≤ k) (h' : k < 32) :
    lead (UInt8.ofNat (0xC0 + k)) = some (none, .inside 0 k 0x80 0xBF) := by
  simp only [lead, toNat_ofNat (show 0xC0 + k < 256 by omega)]
  rw [if_neg (by omega), if_neg (by omega), if_pos (by omega), Nat.add_sub_cancel_left]

theorem lead_three {k : Nat} (h : k < 16) :
    lead (UInt8.ofNat (0xE0 + k)) =
      some (none, .inside 1 k (if k = 0 then 0xA0 else 0x80) (if k = 13 then 0x9F else 0xBF)) := by
  have hlow : 0xE0 + k = 0xE0 ↔ k = 0 := by omega
  have hhigh : 0xE0 + k = 0xED ↔ k = 13 := by omega
  simp only [lead, toNat_ofNat (show 0xE0 + k < 256 by omega), hlow, hhigh]
  rw [if_neg (by omega), if_neg (by omega), if_neg (by omega), if_pos (by omega),
    Nat.add_sub_cancel_left]

theorem lead_four {k : Nat} (h : k < 5) :
    lead (UInt8.ofNat (0xF0 + k)) =
      some (none, .inside 2 k (if k = 0 then 0x90 else 0x80) (if k = 4 then 0x8F else 0xBF)) := by
  have hlow : 0xF0 + k = 0xF0 ↔ k = 0 := by omega
  have hhigh : 0xF0 + k = 0xF4 ↔ k = 4 := by omega
  simp only [lead, toNat_ofNat (show 0xF0 + k < 256 by omega), hlow, hhigh]
  rw [if_neg (by omega), if_neg (by omega), if_neg (by omega), if_neg (by omega),
    if_pos (by omega), Nat.add_sub_cancel_left]

theorem foldlM_feed_cons {p q : Place} {b : UInt8} {c : Option Char} (h : p.step b = some (c, q))
    (bs : Bytes) (done : List Char) :
    (b :: bs).foldlM Reading.feed ⟨done, p⟩ = bs.foldlM Reading.feed ⟨c.toList ++ done, q⟩ := by
  have hfeed : Reading.feed ⟨done, p⟩ b = some ⟨c.toList ++ done, q⟩ := by
    simp only [Reading.feed, h, Option.map_some]
  rw [List.foldlM_cons, hfeed]
  rfl

theorem foldlM_feed_encodeChar (c : Char) (done : List Char) :
    (encodeChar c).foldlM Reading.feed ⟨done, .between⟩ = some ⟨c :: done, .between⟩ := by
  have hvalid := isValid_toNat c
  have hc : ∀ n, n = c.toNat → Char.ofNat n = c := by
    rintro n rfl
    exact Char.ofNat_toNat c
  -- Every byte after the first one holds six bits of the character.
  have hbyte : ∀ n, (UInt8.ofNat (0x80 + n % 64)).toNat = 0x80 + n % 64 :=
    fun n => toNat_ofNat (by omega)
  simp only [encodeChar]
  split
  · next h =>
    rw [foldlM_feed_cons (p := .between) (lead_one h), hc _ rfl]
    rfl
  split
  · next h =>
    have hlead := lead_two (k := c.toNat / 64) (by omega) (by omega)
    rw [foldlM_feed_cons (p := .between) hlead,
      foldlM_feed_cons (step_inside (hbyte _) (by simp) (by simp; omega)), hc _ (by omega)]
    rfl
  split
  · next h =>
    have hlead := lead_three (k := c.toNat / 4096) (by omega)
    have hlow : (if c.toNat / 4096 = 0 then 0xA0 else 0x80 : UInt8).toNat ≤
        0x80 + c.toNat / 64 % 64 := by
      split <;> simp
      omega
    have hhigh : 0x80 + c.toNat / 64 % 64 ≤
        (if c.toNat / 4096 = 13 then 0x9F else 0xBF : UInt8).toNat := by
      split <;> simp <;> omega
    rw [foldlM_feed_cons (p := .between) hlead,
      foldlM_feed_cons (step_inside (hbyte _) hlow hhigh),
      foldlM_feed_cons (step_inside (hbyte _) (by simp) (by simp; omega)), hc _ (by omega)]
    rfl
  · next h =>
    have hlead := lead_four (k := c.toNat / 262144) (by omega)
    have hlow : (if c.toNat / 262144 = 0 then 0x90 else 0x80 : UInt8).toNat ≤
        0x80 + c.toNat / 4096 % 64 := by
      split <;> simp
      omega
    have hhigh : 0x80 + c.toNat / 4096 % 64 ≤
        (if c.toNat / 262144 = 4 then 0x8F else 0xBF : UInt8).toNat := by
      split <;> simp <;> omega
    rw [foldlM_feed_cons (p := .between) hlead,
      foldlM_feed_cons (step_inside (hbyte _) hlow hhigh),
      foldlM_feed_cons (step_inside (hbyte _) (by simp) (by simp; omega)),
      foldlM_feed_cons (step_inside (hbyte _) (by simp) (by simp; omega)), hc _ (by omega)]
    rfl

theorem foldlM_feed_encode (cs done : List Char) :
    (encode cs).foldlM Reading.feed ⟨done, .between⟩ = some ⟨cs.reverse ++ done, .between⟩ := by
  induction cs generalizing done with
  | nil => rfl
  | cons c cs ih =>
    rw [encode, List.flatMap_cons, List.foldlM_append, foldlM_feed_encodeChar, List.reverse_cons,
      List.append_assoc]
    exact ih (c :: done)

theorem decode?_encode (cs : List Char) : decode? (encode cs) = some cs := by
  rw [decode?, foldlM_feed_encode cs [], List.append_nil]
  exact congrArg some (List.reverse_reverse cs)

theorem toString?_ofString (s : String) : toString? (ofString s) = some s := by
  rw [toString?, ofString, decode?_encode, Option.map_some, String.ofList_toList]

theorem eq_of_ofString_eq {s t : String} (h : ofString s = ofString t) : s = t := by
  have hs := toString?_ofString s
  rw [h, toString?_ofString] at hs
  exact (Option.some.inj hs).symm

theorem ofString_eq_nil_iff {s : String} : ofString s = [] ↔ s = "" :=
  ⟨fun h => eq_of_ofString_eq (h.trans rfl), fun h => h ▸ rfl⟩

/-- Only a character of ASCII has a byte below 0x80, and it has no other. -/
theorem toNat_of_mem_encodeChar {c : Char} {b : UInt8} (h : b ∈ encodeChar c) :
    b.toNat = c.toNat ∨ 0x80 ≤ b.toNat := by
  have hvalid := isValid_toNat c
  have hbyte : ∀ n, 0x80 ≤ n → n < 256 → 0x80 ≤ (UInt8.ofNat n).toNat := by
    intro n hlow hhigh
    rwa [toNat_ofNat hhigh]
  simp only [encodeChar] at h
  split at h
  · next hc =>
    rw [List.mem_singleton] at h
    rw [h, toNat_ofNat (by omega)]
    exact .inl rfl
  right
  split at h
  · simp only [List.mem_cons, List.not_mem_nil, or_false] at h
    obtain rfl | rfl := h <;> exact hbyte _ (by omega) (by omega)
  split at h
  · simp only [List.mem_cons, List.not_mem_nil, or_false] at h
    obtain rfl | rfl | rfl := h <;> exact hbyte _ (by omega) (by omega)
  · simp only [List.mem_cons, List.not_mem_nil, or_false] at h
    obtain rfl | rfl | rfl | rfl := h <;> exact hbyte _ (by omega) (by omega)

theorem encodeChar_ne_nil (c : Char) : encodeChar c ≠ [] := by
  simp only [encodeChar]
  split
  · exact List.cons_ne_nil _ _
  split
  · exact List.cons_ne_nil _ _
  split <;> exact List.cons_ne_nil _ _

theorem encodeChar_of_ascii {c : Char} (h : ∀ b ∈ encodeChar c, b.toNat < 0x80) :
    (encodeChar c).map Char.ofUInt8 = [c] := by
  obtain ⟨b, hb⟩ := List.exists_mem_of_ne_nil _ (encodeChar_ne_nil c)
  have hc : c.toNat < 0x80 := by
    have hlt := h b hb
    have hbyte := toNat_of_mem_encodeChar hb
    omega
  have hbyte : Char.ofUInt8 (UInt8.ofNat c.toNat) = c := by
    have hn : (UInt8.ofNat c.toNat).toNat = c.toNat := toNat_ofNat (by omega)
    exact Char.toNat_inj.mp hn
  simp only [encodeChar, if_pos hc, List.map_cons, List.map_nil, hbyte]

theorem map_ofUInt8_encode {cs : List Char} (h : ∀ b ∈ encode cs, b.toNat < 0x80) :
    (encode cs).map Char.ofUInt8 = cs := by
  induction cs with
  | nil => rfl
  | cons c cs ih =>
    rw [encode, List.flatMap_cons] at h ⊢
    obtain ⟨hc, hcs⟩ := List.forall_mem_append.mp h
    rw [List.map_append, encodeChar_of_ascii hc, List.singleton_append]
    exact congrArg _ (ih hcs)

theorem encode_map_ofUInt8 {bs : Bytes} (h : ∀ b ∈ bs, b.toNat < 0x80) :
    encode (bs.map Char.ofUInt8) = bs := by
  induction bs with
  | nil => rfl
  | cons b bs ih =>
    obtain ⟨hb, hbs⟩ := List.forall_mem_cons.mp h
    have hchar : encodeChar (Char.ofUInt8 b) = [b] := by
      have hn : (Char.ofUInt8 b).toNat = b.toNat := rfl
      simp only [encodeChar, hn, if_pos hb, UInt8.ofNat_toNat]
    rw [List.map_cons, encode, List.flatMap_cons, hchar]
    exact congrArg (b :: ·) (ih hbs)

end DiceBot.Text.Utf8
