import DiceBot.Proofs.Http.Server
import DiceBot.Proofs.Interaction.Dispatch

namespace DiceBot.Http

variable {c : Configuration} {a : Answers} {r : Request}

theorem admitInteraction_of_texts {publicKey signature timestamp : String}
    (hs : r.headerText? signatureHeader = some signature)
    (ht : r.headerText? timestampHeader = some timestamp) (hfault : r.fault = none) :
    admitInteraction publicKey r =
      if Signature.verify timestamp r.body signature publicKey = false then
        .error (.text 401 "bad signature")
      else if r.method ≠ "POST" then .error (.ofStatus 405)
      else if bodyLimit < r.body.length then .error tooLarge
      else .ok r.body := by
  simp only [admitInteraction, hs, ht, hfault, Bool.not_eq_true']
  rfl

/-- A whole request of the right form is admitted exactly if its signature is good. -/
theorem admitInteraction_of_headers {publicKey signature timestamp : String}
    (hs : r.headerText? signatureHeader = some signature)
    (ht : r.headerText? timestampHeader = some timestamp) (hfault : r.fault = none)
    (hmethod : r.method = "POST") (hlimit : r.body.length ≤ bodyLimit) :
    admitInteraction publicKey r =
      if Signature.verify timestamp r.body signature publicKey then .ok r.body
      else .error (ofInteractionError .verification) := by
  rw [admitInteraction_of_texts hs ht hfault, if_neg (not_not_intro hmethod),
    if_neg (Nat.not_lt.mpr hlimit)]
  cases Signature.verify timestamp r.body signature publicKey with
  | false => rfl
  | true => rfl

theorem exchange_of_interactionPath (hpath : r.path = interactionPath.toList) :
    exchange c a r = (do
      let answered ← answerInteraction c.applicationPublicKey a.recorded r
      answered.afterwards
      return (answered.forMethod r.method).response : Recorded Response).run [] := by
  rw [exchange, serve, respond, if_pos hpath]
  rfl

def ofDispatch : Except Interaction.Error Reply → Response
  | .ok reply => .json 200 (Reply.codec.encode reply)
  | .error e => ofInteractionError e

theorem serve_of_admitInteraction {m : Type → Type} [Monad m] [LawfulMonad m] (s : Services m)
    {body : Bytes} (hpath : r.path = interactionPath.toList)
    (h : admitInteraction c.applicationPublicKey r = .ok body) :
    serve c s r = (fun outcome => (ofDispatch outcome).forMethod r.method) <$>
      (Interaction.dispatch s body).run := by
  rw [serve, respond, if_pos hpath, answerInteraction, h, bind_map_left, ← bind_pure_comp]
  simp only [bind_assoc]
  refine bind_congr fun outcome => ?_
  cases outcome with
  | ok reply =>
    rw [pure_bind, Answer.response_forMethod]
    exact pure_bind ..
  | error e =>
    rw [pure_bind, Answer.response_forMethod]
    exact pure_bind ..

theorem exchange_of_admitInteraction {body : Bytes} (hpath : r.path = interactionPath.toList)
    (h : admitInteraction c.applicationPublicKey r = .ok body) :
    exchange c a r = ((ofDispatch (Interaction.dispatched a body)).forMethod r.method,
      Interaction.handOffs body) := by
  have hserve := (Interaction.dispatch_leaves a body).map fun outcome =>
    (ofDispatch outcome).forMethod r.method
  rw [exchange, serve_of_admitInteraction a.recorded hpath h, hserve, List.nil_append]

theorem exchange_of_refusedInteraction {refusal : Response}
    (hpath : r.path = interactionPath.toList)
    (h : admitInteraction c.applicationPublicKey r = .error refusal) :
    exchange c a r = (refusal.forMethod r.method, []) := by
  apply exchange_of_answerInteraction hpath
  rw [answerInteraction, h]
  exact leaves_pure _

end DiceBot.Http
