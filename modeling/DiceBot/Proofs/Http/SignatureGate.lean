import DiceBot.Proofs.Http.CommandRoute
import DiceBot.Proofs.Http.InteractionRoute
import DiceBot.Proofs.Http.Message
import DiceBot.Proofs.Http.Session

namespace DiceBot.Http

open Text

structure IsSigned (publicKey : String) (r : Request) : Prop where
  path : r.path = interactionPath.toList
  method : r.method = "POST"
  fault : r.fault = none
  length_le : r.body.length ≤ bodyLimit
  verified : ∃ signature timestamp, r.HasText signatureHeader signature ∧
    r.HasText timestampHeader timestamp ∧
    Signature.verify timestamp r.body signature publicKey = true

/-- How a request on the interaction route is refused: every check before the one that fails has
passed. -/
inductive RefusesInteraction (publicKey : String) (r : Request) : Response → Prop
  | header (h : r.LacksText signatureHeader ∨ r.LacksText timestampHeader) :
      RefusesInteraction publicKey r (.text 401 "bad signature")
  | stream {signature timestamp fault : String} (hs : r.HasText signatureHeader signature)
      (ht : r.HasText timestampHeader timestamp) (h : r.fault = some fault) :
      RefusesInteraction publicKey r (bodyBroken fault)
  | signature {signature timestamp : String} (hs : r.HasText signatureHeader signature)
      (ht : r.HasText timestampHeader timestamp) (hf : r.fault = none)
      (h : Signature.verify timestamp r.body signature publicKey = false) :
      RefusesInteraction publicKey r (.text 401 "bad signature")
  | method {signature timestamp : String} (hs : r.HasText signatureHeader signature)
      (ht : r.HasText timestampHeader timestamp) (hf : r.fault = none)
      (hv : Signature.verify timestamp r.body signature publicKey = true) (h : r.method ≠ "POST") :
      RefusesInteraction publicKey r (.ofStatus 405)
  | length {signature timestamp : String} (hs : r.HasText signatureHeader signature)
      (ht : r.HasText timestampHeader timestamp) (hf : r.fault = none)
      (hv : Signature.verify timestamp r.body signature publicKey = true) (hm : r.method = "POST")
      (h : bodyLimit < r.body.length) : RefusesInteraction publicKey r tooLarge

variable {publicKey : String} {r : Request} {c : Configuration}

theorem RefusesInteraction.admitInteraction_eq {refusal : Response}
    (h : RefusesInteraction publicKey r refusal) : admitInteraction publicKey r = .error refusal := by
  cases h with
  | header h =>
    rw [admitInteraction]
    obtain h | h := h
    · rw [Request.headerText?_eq_none_iff.mpr h]
      rfl
    · rw [Request.headerText?_eq_none_iff.mpr h]
      cases r.headerText? signatureHeader <;> rfl
  | stream hs ht h =>
    rw [← Request.headerText?_eq_some_iff] at hs ht
    rw [admitInteraction, hs, ht, h]
  | signature hs ht hf h =>
    rw [← Request.headerText?_eq_some_iff] at hs ht
    rw [admitInteraction_of_texts hs ht hf, if_pos h]
  | method hs ht hf hv h =>
    rw [← Request.headerText?_eq_some_iff] at hs ht
    rw [admitInteraction_of_texts hs ht hf, if_neg (ne_false_of_eq_true hv), if_pos h]
  | length hs ht hf hv hm h =>
    rw [← Request.headerText?_eq_some_iff] at hs ht
    rw [admitInteraction_of_texts hs ht hf, if_neg (ne_false_of_eq_true hv),
      if_neg (not_not_intro hm), if_pos h]

theorem IsSigned.admitInteraction_eq (h : IsSigned publicKey r) :
    admitInteraction publicKey r = .ok r.body := by
  obtain ⟨signature, timestamp, hs, ht, hv⟩ := h.verified
  rw [← Request.headerText?_eq_some_iff] at hs ht
  rw [admitInteraction_of_headers hs ht h.fault h.method h.length_le, if_pos hv]

theorem isSigned_or_refusesInteraction (publicKey : String)
    (hpath : r.path = interactionPath.toList) :
    IsSigned publicKey r ∨ ∃ refusal, RefusesInteraction publicKey r refusal := by
  -- the cases follow the order of the checks: each is split where all before it passed
  cases hs : r.headerText? signatureHeader with
  | none => exact .inr ⟨_, .header (.inl (Request.headerText?_eq_none_iff.mp hs))⟩
  | some signature =>
  cases ht : r.headerText? timestampHeader with
  | none => exact .inr ⟨_, .header (.inr (Request.headerText?_eq_none_iff.mp ht))⟩
  | some timestamp =>
  rw [Request.headerText?_eq_some_iff] at hs ht
  cases hf : r.fault with
  | some fault => exact .inr ⟨_, .stream hs ht hf⟩
  | none =>
  cases hv : Signature.verify timestamp r.body signature publicKey with
  | false => exact .inr ⟨_, .signature hs ht hf hv⟩
  | true =>
  by_cases hm : r.method = "POST"
  · by_cases hl : bodyLimit < r.body.length
    · exact .inr ⟨_, .length hs ht hf hv hm hl⟩
    · exact .inl ⟨hpath, hm, hf, Nat.not_lt.mp hl, signature, timestamp, hs, ht, hv⟩
  · exact .inr ⟨_, .method hs ht hf hv hm⟩

structure SignatureGate (c : Configuration) (a : Answers) (r : Request) (x : Exchange) : Prop where
  isSigned_of_handOff : ∀ v, .handOff v ∈ x.2 → IsSigned c.applicationPublicKey r ∧
    ∃ i, Interaction.codec.decode? r.body = some i ∧ i.toCommand = .ok v
  refused : ∀ refusal, r.path = interactionPath.toList →
    RefusesInteraction c.applicationPublicKey r refusal → x = (refusal.forMethod r.method, [])
  dispatched : IsSigned c.applicationPublicKey r → ∃ outcome,
    Leaves (Interaction.dispatch a.recorded r.body).run outcome x.2 ∧ x.1 = ofDispatch outcome
  decided : r.path = interactionPath.toList →
    IsSigned c.applicationPublicKey r ∨ ∃ refusal, RefusesInteraction c.applicationPublicKey r refusal

theorem IsSigned.exchange_eq (h : IsSigned c.applicationPublicKey r) (a : Answers) :
    exchange c a r =
      (ofDispatch (Interaction.dispatched a r.body), Interaction.handOffs r.body) := by
  rw [exchange_of_admitInteraction h.path h.admitInteraction_eq, h.method, Response.forMethod_post]

theorem isSigned_of_handOff_mem_exchange {a : Answers} {v : Command}
    (h : .handOff v ∈ (exchange c a r).2) : IsSigned c.applicationPublicKey r ∧
      ∃ i, Interaction.codec.decode? r.body = some i ∧ i.toCommand = .ok v := by
  by_cases hpath : r.path = interactionPath.toList
  · obtain hsigned | ⟨refusal, hrefusal⟩ :=
      isSigned_or_refusesInteraction c.applicationPublicKey hpath
    · rw [hsigned.exchange_eq] at h
      obtain ⟨i, w, hi, hw, hcall⟩ := Interaction.eq_handOff_of_mem_handOffs h
      cases hcall
      exact ⟨hsigned, i, hi, hw⟩
    · rw [exchange_of_refusedInteraction hpath hrefusal.admitInteraction_eq] at h
      cases h
  · by_cases hcommand : r.path = commandPath.toList
    · exact absurd h (handOff_notMem_of_commandPath hcommand v)
    · rw [exchange_of_no_route hpath hcommand] at h
      cases h

theorem exchange_signatureGate (c : Configuration) (a : Answers) (r : Request) :
    SignatureGate c a r (exchange c a r) where
  isSigned_of_handOff _ := isSigned_of_handOff_mem_exchange
  refused _ hpath h := exchange_of_refusedInteraction hpath h.admitInteraction_eq
  dispatched h := by
    rw [h.exchange_eq]
    exact ⟨_, Interaction.dispatch_leaves a r.body, rfl⟩
  decided := isSigned_or_refusesInteraction c.applicationPublicKey

/-- In no run is a command handed off that did not come with a good signature. -/
theorem run_isGatedBySignature (c : Configuration) (a : Answers) (es : List Event) :
    Throughout (SignatureGate c) a es (run c a es) :=
  throughout_run (exchange_signatureGate c) a es

def exampleKey : String :=
  "197f6b23e16c8532c6abc838facd5ea789be0c76b2920334039bfa8b3d368d61"

def exampleSignature : String :=
  "80c46abbb6fc054aebbe307f286a461a4db96c32afc9b005f04c8bba33b9a929" ++
    "c8f4c71fd76ab8472394c434889e697d064c7dc5563166614b1ed6c8b60b0809"

def signedRoll : Request where
  target := "/api/discord/interaction?retry=1"
  headers := [("X-SIGNATURE-TIMESTAMP", Utf8.ofString "17"),
    ("X-Signature-Ed25519", Utf8.ofString exampleSignature), ("x-signature-ed25519", [0xFF])]
  body := Utf8.ofString "\x7b\"type\":2,\"data\":\x7b\"name\":\"roll\"\x7d\x7d"

theorem decode?_signedRoll :
    Interaction.codec.decode? signedRoll.body = some ⟨.command, "", some ⟨none, "roll", []⟩⟩ := by
  decide +kernel

theorem isSigned_signedRoll : IsSigned exampleKey signedRoll where
  path := by decide +kernel
  method := rfl
  fault := rfl
  length_le := by decide +kernel
  verified := ⟨exampleSignature, "17", Request.headerText?_eq_some_iff.mp (by decide +kernel),
    Request.headerText?_eq_some_iff.mp (by decide +kernel), by decide +kernel⟩

theorem run_isGatedBySignature_signedRoll :
    let c : Configuration := ⟨"", "", exampleKey, "", "", "", "", "", ""⟩
    let a : Answers := ⟨fun _ => .error .unreachable, .ok, fun _ => .ok (), fun _ _ => .ok (),
      fun _ => .ok (), fun _ _ => .ok ()⟩
    let es : List Event :=
      [.request signedRoll, .change a, .request { signedRoll with method := "HEAD" }]
    Throughout (SignatureGate c) a es (run c a es) ∧
      run c a es = [some (.json 200 (Reply.codec.encode .deferred),
          [.handOff ⟨.command, "", ⟨none, "roll", []⟩⟩]), none,
        some ({ status := 405, allow := some "POST" }, [])] := by
  intro c a es
  have hsigned : IsSigned c.applicationPublicKey signedRoll := isSigned_signedRoll
  obtain ⟨signature, timestamp, hs, ht, hv⟩ := hsigned.verified
  have hhead : RefusesInteraction c.applicationPublicKey { signedRoll with method := "HEAD" }
      (.ofStatus 405) := .method hs ht rfl hv (by decide)
  have hpost : exchange c a signedRoll = (.json 200 (Reply.codec.encode .deferred),
      [.handOff ⟨.command, "", ⟨none, "roll", []⟩⟩]) := by
    rw [hsigned.exchange_eq, Interaction.dispatched, Interaction.handOffs, decode?_signedRoll]
    rfl
  have hrefused : exchange c a { signedRoll with method := "HEAD" } =
      ({ status := 405, allow := some "POST" }, []) := by
    rw [exchange_of_refusedInteraction (by decide +kernel) hhead.admitInteraction_eq]
    decide +kernel
  refine ⟨run_isGatedBySignature c a es, ?_⟩
  simp only [es, run, hpost, hrefused]

end DiceBot.Http
