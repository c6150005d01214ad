import DiceBot.Proofs.Text.Utf8
import DiceBot.Web.Percent

namespace DiceBot.Web

open Text

variable {isEncoded : Char → Bool} {cs ds : List Char}

theorem percentEncode_append (isEncoded : Char → Bool) (cs ds : List Char) :
    percentEncode isEncoded (cs ++ ds) = percentEncode isEncoded cs ++ percentEncode isEncoded ds :=
  List.flatMap_append

theorem percentEncode_cons (isEncoded : Char → Bool) (c : Char) (cs : List Char) :
    percentEncode isEncoded (c :: cs) = percentEncode isEncoded [c] ++ percentEncode isEncoded cs :=
  percentEncode_append isEncoded [c] cs

theorem digit?_upperHexDigit : ∀ d < 16, Hex.digit? (upperHexDigit d) = some d := by
  decide

theorem percentDecodeFrom_percentByte (b : UInt8) (cs : List Char) :
    percentDecodeFrom 0 (percentByte b ++ cs) = [b] :: percentDecodeFrom 0 cs := by
  have hb : b.toNat < 256 := b.toNat_lt
  have hhigh := digit?_upperHexDigit (b.toNat / 16) (by omega)
  have hlow := digit?_upperHexDigit (b.toNat % 16) (by omega)
  have hbyte : UInt8.ofNat (16 * (b.toNat / 16) + b.toNat % 16) = b := by
    rw [Nat.div_add_mod, UInt8.ofNat_toNat]
  simp only [percentByte, List.cons_append, List.nil_append, percentDecodeFrom, hhigh, hlow, hbyte]

theorem flatten_percentDecodeFrom_bytes (bs : Bytes) (cs : List Char) :
    (percentDecodeFrom 0 (bs.flatMap percentByte ++ cs)).flatten =
      bs ++ (percentDecodeFrom 0 cs).flatten := by
  induction bs with
  | nil => rfl
  | cons b bs ih =>
    rw [List.flatMap_cons, List.append_assoc, percentDecodeFrom_percentByte, List.flatten_cons, ih]
    rfl

theorem percentDecodeFrom_cons {c : Char} (hc : c ≠ '%') (cs : List Char) :
    percentDecodeFrom 0 (c :: cs) = Utf8.encodeChar c :: percentDecodeFrom 0 cs := by
  rw [percentDecodeFrom]
  exact fun _ _ _ h => absurd h hc

/-- Whatever the set is, the bytes of a text come back, unless a percent sign in it was taken for
an encoded byte. -/
theorem percentDecode_percentEncode (isEncoded : Char → Bool) (h : '%' ∉ cs) :
    percentDecode (percentEncode isEncoded cs) = Utf8.encode cs := by
  induction cs with
  | nil => rfl
  | cons c cs ih =>
    have hc : c ≠ '%' := fun hc => h (hc ▸ List.mem_cons_self ..)
    have hrest := ih fun hmem => h (List.mem_cons_of_mem _ hmem)
    rw [percentDecode, percentEncode] at hrest
    rw [percentDecode, percentEncode, List.flatMap_cons, Utf8.encode, List.flatMap_cons]
    split
    · rw [flatten_percentDecodeFrom_bytes, hrest, Utf8.encode]
    · rw [List.singleton_append, percentDecodeFrom_cons hc, List.flatten_cons, hrest, Utf8.encode]

theorem eq_of_percentEncode_eq (hcs : '%' ∉ cs) (hds : '%' ∉ ds)
    (h : percentEncode isEncoded cs = percentEncode isEncoded ds) : cs = ds := by
  have hbytes : Utf8.encode cs = Utf8.encode ds := by
    rw [← percentDecode_percentEncode isEncoded hcs, h, percentDecode_percentEncode isEncoded hds]
  have htext := congrArg Utf8.decode? hbytes
  rw [Utf8.decode?_encode, Utf8.decode?_encode] at htext
  exact Option.some.inj htext

end DiceBot.Web
