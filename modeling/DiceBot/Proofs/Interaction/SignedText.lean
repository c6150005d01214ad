import DiceBot.Proofs.Http.InteractionRoute
import DiceBot.Proofs.Json.Suffix

namespace DiceBot.Interaction

open Http Json Text

theorem decode?_of_append_eq {t u b c : Bytes} {i j : Interaction} (h : t ++ b = u ++ c)
    (hi : codec.decode? b = some i) (hj : codec.decode? c = some j) :
    i = j ∧ ∃ w, (∀ x ∈ w, isSpace x = true) ∧ (b = w ++ c ∨ c = w ++ b) := by
  obtain ⟨w, -, rfl⟩ | ⟨w, -, rfl⟩ := List.append_eq_append_iff.mp h
  · obtain ⟨hij, hw⟩ := Shape.decode?_append hi hj
    exact ⟨hij, w, hw, .inl rfl⟩
  · obtain ⟨hij, hw⟩ := Shape.decode?_append hj hi
    exact ⟨hij.symm, w, hw, .inr rfl⟩

theorem dispatch_congr {m : Type → Type} [Monad m] (s : Services m) {b c : Bytes}
    (h : codec.decode? b = codec.decode? c) : dispatch s b = dispatch s c := by
  rw [dispatch, dispatch, h]

theorem verify_congr {t u signature publicKey : String} {b c : Bytes}
    (h : Utf8.ofString t ++ b = Utf8.ofString u ++ c) :
    Signature.verify t b signature publicKey = Signature.verify u c signature publicKey := by
  simp only [Signature.verify, h]

/-- A signature is good for one interaction only, wherever in the signed text its timestamp ends. -/
theorem eq_of_signed_text_eq {r r' : Request} {signature timestamp timestamp' : String}
    {i j : Interaction}
    (hs : r.headerText? signatureHeader = some signature)
    (hs' : r'.headerText? signatureHeader = some signature)
    (ht : r.headerText? timestampHeader = some timestamp)
    (ht' : r'.headerText? timestampHeader = some timestamp')
    (htext : Utf8.ofString timestamp ++ r.body = Utf8.ofString timestamp' ++ r'.body)
    (hi : codec.decode? r.body = some i) (hj : codec.decode? r'.body = some j) :
    i = j ∧ classify i = classify j ∧
    (∃ w, (∀ b ∈ w, isSpace b = true) ∧ (r.body = w ++ r'.body ∨ r'.body = w ++ r.body)) ∧
    (∀ (m : Type → Type) [Monad m] (s : Services m), dispatch s r.body = dispatch s r'.body) ∧
    ∀ (c : Configuration) (a : Answers),
      r.path = interactionPath.toList → r'.path = interactionPath.toList →
      r.method = "POST" → r'.method = "POST" → r.fault = none → r'.fault = none →
      r.body.length ≤ bodyLimit → r'.body.length ≤ bodyLimit →
      exchange c a r = exchange c a r' := by
  obtain ⟨rfl, hspace⟩ := decode?_of_append_eq htext hi hj
  have hdispatch : ∀ (m : Type → Type) [Monad m] (s : Services m),
      dispatch s r.body = dispatch s r'.body :=
    fun m _ s => dispatch_congr s (hi.trans hj.symm)
  refine ⟨rfl, rfl, hspace, hdispatch, ?_⟩
  intro c a hpath hpath' hmethod hmethod' hfault hfault' hlimit hlimit'
  have hanswer : answerInteraction c.applicationPublicKey a.recorded r =
      answerInteraction c.applicationPublicKey a.recorded r' := by
    rw [answerInteraction, answerInteraction,
      admitInteraction_of_headers hs ht hfault hmethod hlimit,
      admitInteraction_of_headers hs' ht' hfault' hmethod' hlimit', verify_congr htext]
    cases Signature.verify timestamp' r'.body signature c.applicationPublicKey with
    | false => rfl
    | true => simp only [if_true, hdispatch]
  rw [exchange_of_interactionPath hpath, exchange_of_interactionPath hpath', hanswer, hmethod,
    hmethod']

theorem eq_of_signed_text_eq_shifted :
    let body := Utf8.ofString "\x7b\"type\":2,\"data\":\x7b\"name\":\"roll\"\x7d\x7d"
    let r : Request := ⟨"POST", interactionPath,
      [(signatureHeader, Utf8.ofString "ab"), (timestampHeader, Utf8.ofString "1")],
      0x20 :: body, none⟩
    let r' : Request := ⟨"POST", interactionPath,
      [(signatureHeader, Utf8.ofString "ab"), (timestampHeader, Utf8.ofString "1 ")], body, none⟩
    codec.decode? r.body = some ⟨.command, "", some ⟨none, "roll", []⟩⟩ ∧
      ∀ (c : Configuration) (a : Answers), exchange c a r = exchange c a r' := by
  intro body r r'
  have hi : codec.decode? r.body = some ⟨.command, "", some ⟨none, "roll", []⟩⟩ := by
    decide +kernel
  have hj : codec.decode? r'.body = some ⟨.command, "", some ⟨none, "roll", []⟩⟩ := by
    decide +kernel
  have hs : r.headerText? signatureHeader = some "ab" := by decide +kernel
  have hs' : r'.headerText? signatureHeader = some "ab" := by decide +kernel
  have ht : r.headerText? timestampHeader = some "1" := by decide +kernel
  have ht' : r'.headerText? timestampHeader = some "1 " := by decide +kernel
  obtain ⟨-, -, -, -, h⟩ := eq_of_signed_text_eq hs hs' ht ht' (by decide) hi hj
  exact ⟨hi, fun c a => h c a (by decide) (by decide) rfl rfl rfl rfl (by decide) (by decide)⟩

end DiceBot.Interaction
