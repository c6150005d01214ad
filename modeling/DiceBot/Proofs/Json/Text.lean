import DiceBot.Json.Text
import DiceBot.Proofs.Json.Spelling
import DiceBot.Proofs.Text.Utf8

namespace DiceBot.Json

open Text

theorem digit?_hexByte : ∀ {d : Nat}, d < 16 → Hex.digit? (Char.ofUInt8 (hexByte d)) = some d := by
  decide

theorem mem_encodeChar {c : Char} (hcontrol : 0x20 ≤ c.toNat) (hquote : c ≠ '"')
    (hbackslash : c ≠ '\\') {b : UInt8} (hb : b ∈ Utf8.encodeChar c) :
    ¬b < 0x20 ∧ b ≠ 0x22 ∧ b ≠ 0x5C := by
  have hq : c.toNat ≠ 0x22 := fun h => hquote (Char.toNat_inj.mp h)
  have hs : c.toNat ≠ 0x5C := fun h => hbackslash (Char.toNat_inj.mp h)
  have hbyte := Utf8.toNat_of_mem_encodeChar hb
  rw [UInt8.lt_iff_toNat_lt, ne_eq, ne_eq, ← UInt8.toNat_inj, ← UInt8.toNat_inj]
  simp
  omega

theorem foldlM_feed_plain {bs : Bytes} (h : ∀ b ∈ bs, b ≠ 0x5C) (done : Bytes) :
    bs.foldlM TextReading.feed ⟨done, .plain⟩ = some ⟨bs.reverse ++ done, .plain⟩ := by
  induction bs generalizing done with
  | nil => rfl
  | cons b bs ih =>
    obtain ⟨hb, hbs⟩ := List.forall_mem_cons.mp h
    have hfeed : TextReading.feed ⟨done, .plain⟩ b = some ⟨b :: done, .plain⟩ := if_neg hb
    rw [List.foldlM_cons, hfeed, List.reverse_cons, List.append_assoc]
    exact ih hbs (b :: done)

theorem TextReading.feed_unit {high : Option Nat} {missing value d : Nat} {b : UInt8}
    (h : Hex.digit? (Char.ofUInt8 b) = some d) (done : Bytes) :
    TextReading.feed ⟨done, .unit high missing value⟩ b =
      match missing with
      | 0 => TextReading.unit ⟨done, .unit high 0 value⟩ high (16 * value + d)
      | missing + 1 => some ⟨done, .unit high missing (16 * value + d)⟩ := by
  cases missing <;> simp only [TextReading.feed, h]

theorem foldlM_feed_control {c : Char} (h : c.toNat < 0x20) (done : Bytes) :
    [0x5C, 0x75, 0x30, 0x30, hexByte (c.toNat / 16), hexByte (c.toNat % 16)].foldlM
      TextReading.feed ⟨done, .plain⟩ = some ⟨(Utf8.encodeChar c).reverse ++ done, .plain⟩ := by
  have hdigit : ∀ d, d < 16 → Hex.digit? (Char.ofUInt8 (hexByte d)) = some d :=
    fun d hd => digit?_hexByte hd
  have hhigh : TextReading.feed ⟨done, .unit none 1 0⟩ (hexByte (c.toNat / 16)) =
      some ⟨done, .unit none 0 (c.toNat / 16)⟩ := by
    simp only [TextReading.feed_unit (hdigit _ (by omega : c.toNat / 16 < 16)), Nat.mul_zero,
      Nat.zero_add]
  have hlow : TextReading.feed ⟨done, .unit none 0 (c.toNat / 16)⟩ (hexByte (c.toNat % 16)) =
      some ⟨(Utf8.encodeChar c).reverse ++ done, .plain⟩ := by
    have hvalue : 16 * (c.toNat / 16) + c.toNat % 16 = c.toNat := Nat.div_add_mod c.toNat 16
    have hh : isHighSurrogate c.toNat = false := by simp [isHighSurrogate]; omega
    have hl : isLowSurrogate c.toNat = false := by simp [isLowSurrogate]; omega
    simp only [TextReading.feed_unit (hdigit _ (by omega : c.toNat % 16 < 16)), hvalue,
      TextReading.unit, hh, hl, TextReading.push, Char.ofNat_toNat, Bool.false_eq_true, if_false]
  calc
    _ = [hexByte (c.toNat / 16), hexByte (c.toNat % 16)].foldlM TextReading.feed
          ⟨done, .unit none 1 0⟩ := rfl
    _ = _ := by
      rw [List.foldlM_cons, hhigh]
      exact congrArg (· >>= some) hlow

/-- The spelling of a character stands for it. -/
theorem foldlM_feed_escapeChar (c : Char) (done : Bytes) :
    (escapeChar c).foldlM TextReading.feed ⟨done, .plain⟩ =
      some ⟨(Utf8.encodeChar c).reverse ++ done, .plain⟩ := by
  unfold escapeChar
  split
  case h_8 hquote hbackslash _ _ _ _ _ =>
    split
    · next hc => exact foldlM_feed_control hc done
    · next hc =>
      exact foldlM_feed_plain
        (fun b hb => (mem_encodeChar (Nat.le_of_not_lt hc) hquote hbackslash hb).2.2) done
  all_goals rfl

theorem foldlM_feed_escape (cs : List Char) (done : Bytes) :
    (cs.flatMap escapeChar).foldlM TextReading.feed ⟨done, .plain⟩ =
      some ⟨(Utf8.encode cs).reverse ++ done, .plain⟩ := by
  induction cs generalizing done with
  | nil => rfl
  | cons c cs ih =>
    rw [List.flatMap_cons, List.foldlM_append, foldlM_feed_escapeChar, Utf8.encode,
      List.flatMap_cons, List.reverse_append, List.append_assoc]
    exact ih ((Utf8.encodeChar c).reverse ++ done)

theorem textOf?_escape (cs : List Char) :
    textOf? (cs.flatMap escapeChar) = some (String.ofList cs) := by
  have h := foldlM_feed_escape cs []
  rw [List.append_nil] at h
  simp only [textOf?, h, List.reverse_reverse, Utf8.toString?, Utf8.decode?_encode,
    Option.map_some]

theorem toString?_ofString (s : String) : (ofString s).toString? = some s := by
  rw [ofString, toString?, textOf?_escape, String.ofList_toList]

theorem StringPart.run_plain {bs : Bytes} (h : ∀ b ∈ bs, ¬b < 0x20 ∧ b ≠ 0x22 ∧ b ≠ 0x5C) :
    StringPart.plain.run bs = some .plain := by
  induction bs with
  | nil => rfl
  | cons b bs ih =>
    obtain ⟨⟨hcontrol, hquote, hbackslash⟩, hbs⟩ := List.forall_mem_cons.mp h
    have hstep : StringPart.plain.stepInside b = some .plain := by
      simp [stepInside, step, hcontrol, hquote, hbackslash]
    rw [run, List.foldlM_cons, hstep]
    exact ih hbs

theorem StringPart.run_escapeChar (c : Char) :
    StringPart.plain.run (escapeChar c) = some .plain := by
  unfold escapeChar
  split
  case h_8 hquote hbackslash _ _ _ _ _ =>
    split
    · next hc =>
      have hcode : ∀ n < 0x20, StringPart.plain.run
          [0x5C, 0x75, 0x30, 0x30, hexByte (n / 16), hexByte (n % 16)] = some .plain := by
        decide
      exact hcode c.toNat hc
    · next hc =>
      exact run_plain fun b hb => mem_encodeChar (Nat.le_of_not_lt hc) hquote hbackslash hb
  all_goals rfl

theorem isSpelled_escape (cs : List Char) : (Token.string (cs.flatMap escapeChar)).IsSpelled := by
  rw [Token.IsSpelled]
  induction cs with
  | nil => rfl
  | cons c cs ih =>
    rw [List.flatMap_cons, StringPart.run_append, StringPart.run_escapeChar]
    exact ih

end DiceBot.Json
