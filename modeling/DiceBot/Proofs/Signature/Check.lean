import DiceBot.Proofs.Text.Hex
import DiceBot.Signature.Check

namespace DiceBot.Signature

open Text

variable {timestamp signature publicKey : String} {body : Bytes}

theorem verify_eq_true_iff :
    verify timestamp body signature publicKey = true ↔
      ∃ s k, Hex.Denotes signature.toList s ∧ s.length = 64 ∧
        Hex.Denotes publicKey.toList k ∧ k.length = 32 ∧
        Ed25519.verify k (Utf8.ofString timestamp ++ body) s = true := by
  rw [verify]
  constructor
  · intro h
    split at h
    · next s k hs hk =>
      simp only [Bool.and_eq_true, beq_iff_eq] at h
      exact ⟨s, k, Hex.decode?_eq_some_iff.mp hs, h.1.1, Hex.decode?_eq_some_iff.mp hk, h.1.2, h.2⟩
    · cases h
  · rintro ⟨s, k, hs, hslen, hk, hklen, hv⟩
    simp only [Hex.decode?_eq_some_iff.mpr hs, Hex.decode?_eq_some_iff.mpr hk, hslen, hklen, hv]
    rfl

theorem verify_eq_of_denotes_iff {timestamp' signature' publicKey' : String} {body' : Bytes}
    (hsigned : Utf8.ofString timestamp ++ body = Utf8.ofString timestamp' ++ body')
    (hs : ∀ bs, Hex.Denotes signature.toList bs ↔ Hex.Denotes signature'.toList bs)
    (hk : ∀ bs, Hex.Denotes publicKey.toList bs ↔ Hex.Denotes publicKey'.toList bs) :
    verify timestamp body signature publicKey = verify timestamp' body' signature' publicKey' := by
  rw [verify, verify, hsigned, Hex.decode?_congr hs, Hex.decode?_congr hk]

/-- A signature is good exactly if the two texts denote 64 and 32 bytes that are good for the signed
bytes; neither the case of a letter nor the place where the timestamp ends makes a difference. -/
theorem verify_depends_on_bytes (timestamp : String) (body : Bytes) (signature publicKey : String) :
    (verify timestamp body signature publicKey = true ↔
      ∃ s k, Hex.Denotes signature.toList s ∧ s.length = 64 ∧
        Hex.Denotes publicKey.toList k ∧ k.length = 32 ∧
        Ed25519.verify k (Utf8.ofString timestamp ++ body) s = true) ∧
    (∀ (text : String) n, (∃ bs, Hex.Denotes text.toList bs ∧ bs.length = n) ↔
      text.length = 2 * n ∧ ∀ c ∈ text.toList, ∃ d, Hex.IsDigit c d) ∧
    ∀ (timestamp' : String) (body' : Bytes) (signature' publicKey' : String),
      Utf8.ofString timestamp ++ body = Utf8.ofString timestamp' ++ body' →
      ((∀ bs, Hex.Denotes signature.toList bs ↔ Hex.Denotes signature'.toList bs) ∧
          (∀ bs, Hex.Denotes publicKey.toList bs ↔ Hex.Denotes publicKey'.toList bs) ∨
        signature.toLower = signature'.toLower ∧ publicKey.toLower = publicKey'.toLower) →
      verify timestamp body signature publicKey =
        verify timestamp' body' signature' publicKey' := by
  refine ⟨verify_eq_true_iff, fun text n => ?_, ?_⟩
  · rw [← String.length_toList]
    exact Hex.exists_denotes_iff n
  · rintro t b s k hsigned (⟨hs, hk⟩ | ⟨hs, hk⟩)
    · exact verify_eq_of_denotes_iff hsigned hs hk
    · exact verify_eq_of_denotes_iff hsigned (fun _ => Hex.denotes_iff_of_toLower_eq hs)
        fun _ => Hex.denotes_iff_of_toLower_eq hk

theorem verify_depends_on_bytes_shifted :
    let lower := String.ofList (List.replicate 128 'a')
    let upper := String.ofList (List.replicate 128 'A')
    let key := "197f6b23e16c8532c6abc838facd5ea789be0c76b2920334039bfa8b3d368d61"
    lower.toLower = upper.toLower ∧
      verify "17" (Utf8.ofString "\x7b\x7d") lower key =
        verify "1" (Utf8.ofString "7\x7b\x7d") upper key := by
  intro lower upper key
  have hcase : lower.toLower = upper.toLower := by
    apply String.toList_inj.mp
    rw [Hex.toList_toLower, Hex.toList_toLower, String.toList_ofList, String.toList_ofList]
    decide
  have hsigned : Utf8.ofString "17" ++ Utf8.ofString "\x7b\x7d" =
      Utf8.ofString "1" ++ Utf8.ofString "7\x7b\x7d" := by
    decide
  exact ⟨hcase, (verify_depends_on_bytes "17" (Utf8.ofString "\x7b\x7d") lower key).2.2 "1"
    (Utf8.ofString "7\x7b\x7d") upper key hsigned (.inr ⟨hcase, rfl⟩)⟩

end DiceBot.Signature
