import DiceBot.Proofs.Http.InteractionReply
import DiceBot.Proofs.Web.Client

namespace DiceBot.Http

def ofHandOff : Except Failure Unit → Response
  | .ok () => .json 200 deferredText
  | .error _ => .ofStatus 500

variable {c : Configuration} {r : Request} {i : Interaction} {data : Interaction.CommandData}
variable {network : Web.Request → Option Web.Response} {id : String} {v : Command}

theorem serve_of_isSigned {m : Type → Type} [Monad m] [LawfulMonad m] (s : Services m)
    (h : IsSigned c.applicationPublicKey r) (hi : Interaction.codec.decode? r.body = some i)
    (hkind : i.kind ≠ .ping) (hdata : i.data = some data) :
    serve c s r = ofHandOff <$> (s.handOff ⟨i.kind, i.token, data⟩).run := by
  rw [serve_of_admitInteraction s h.path h.admitInteraction_eq, h.method,
    Interaction.run_dispatch_of_data s hi hkind hdata, Functor.map_map]
  congr 1
  funext outcome
  cases outcome with
  | ok _ =>
    rw [ofHandOff, ← encode_deferred]
    rfl
  | error failure => rfl

/-- What comes back on a hand-off, over a network where every request is answered alike. -/
def acknowledgment? (c : Configuration) (network : Web.Request → Option Web.Response)
    (id : String) (v : Command) : Option Web.Response :=
  (Web.handOffRequest c id v).bind network

theorem run_handOff_eq_ok_iff :
    ((Web.services (m := Id) c network id).handOff v).run = .ok () ↔
      ∃ answer, acknowledgment? c network id v = some answer ∧
        (answer.status < 400 ∨ 600 ≤ answer.status) := by
  have hsent :
      (∃ answer, (Web.send (m := Id) network (Web.handOffRequest c id v)).run = .ok answer) ↔
      ∃ answer, acknowledgment? c network id v = some answer ∧
        (answer.status < 400 ∨ 600 ≤ answer.status) := by
    simp only [Web.send_eq_ok_iff, acknowledgment?, Option.bind_eq_some_iff, exists_and_right,
      ← and_assoc]
  rw [← hsent, Web.run_handOff]
  change (Web.send (m := Id) network (Web.handOffRequest c id v)).run.map (fun _ => ()) = .ok () ↔ _
  cases (Web.send (m := Id) network (Web.handOffRequest c id v)).run with
  | ok answer => simp [Except.map]
  | error failure => simp [Except.map]

theorem ofHandOff_eq_deferred_iff {outcome : Except Failure Unit} :
    ofHandOff outcome = .json 200 deferredText ↔ outcome = .ok () := by
  cases outcome with
  | ok _ => exact ⟨fun _ => rfl, fun _ => rfl⟩
  | error failure => exact ⟨nofun, nofun⟩

theorem ofHandOff_eq_failed_iff {outcome : Except Failure Unit} :
    ofHandOff outcome = .ofStatus 500 ↔ outcome ≠ .ok () := by
  cases outcome with
  | ok _ => exact ⟨nofun, fun h => absurd rfl h⟩
  | error failure => exact ⟨fun _ => nofun, fun _ => rfl⟩

/-- A signed command is deferred exactly if its hand-off was answered, and not with an error status.
So it takes an endpoint that only answers with success or with an error for a deferred reply to
promise an acknowledgment. -/
theorem serve_defers_iff_answered (h : IsSigned c.applicationPublicKey r)
    (hi : Interaction.codec.decode? r.body = some i) (hkind : i.kind ≠ .ping)
    (hdata : i.data = some data) :
    (∀ (m : Type → Type) [Monad m] [LawfulMonad m] (s : Services m),
      serve c s r = ofHandOff <$> (s.handOff ⟨i.kind, i.token, data⟩).run) ∧
    ∀ (network : Web.Request → Option Web.Response) (id : String),
      let s : Services Id := Web.services c network id
      let v : Command := ⟨i.kind, i.token, data⟩
      ((s.handOff v).run = .ok () ↔ ∃ answer, acknowledgment? c network id v = some answer ∧
        (answer.status < 400 ∨ 600 ≤ answer.status)) ∧
      (serve c s r = .json 200 deferredText ↔ (s.handOff v).run = .ok ()) ∧
      (serve c s r = .ofStatus 500 ↔ (s.handOff v).run ≠ .ok ()) ∧
      ((∀ answer, acknowledgment? c network id v = some answer →
          200 ≤ answer.status ∧ answer.status < 300 ∨ 400 ≤ answer.status ∧ answer.status < 600) →
        (serve c s r = .json 200 deferredText ↔
          ∃ answer, acknowledgment? c network id v = some answer ∧
            200 ≤ answer.status ∧ answer.status < 300)) := by
  refine ⟨fun m _ _ s => serve_of_isSigned s h hi hkind hdata, ?_⟩
  intro network id s v
  have hserve : serve c s r = ofHandOff (s.handOff v).run := serve_of_isSigned s h hi hkind hdata
  have hdeferred : serve c s r = .json 200 deferredText ↔ (s.handOff v).run = .ok () := by
    rw [hserve, ofHandOff_eq_deferred_iff]
  have hfailed : serve c s r = .ofStatus 500 ↔ (s.handOff v).run ≠ .ok () := by
    rw [hserve, ofHandOff_eq_failed_iff]
  refine ⟨run_handOff_eq_ok_iff, hdeferred, hfailed, fun hstatus => ?_⟩
  rw [hdeferred, run_handOff_eq_ok_iff]
  refine exists_congr fun answer => and_congr_right fun hanswer => ?_
  have := hstatus answer hanswer
  omega

def relaying : Configuration :=
  ⟨"", "", exampleKey, "", "", "http://[::1]/api/discord/command", "s3cret", "", ""⟩

theorem acknowledgment?_relaying (answer : Web.Response) :
    acknowledgment? relaying (fun _ => some answer) "1" ⟨.command, "", ⟨none, "roll", []⟩⟩ =
      some answer := by
  have hsome :
      (Web.handOffRequest relaying "1" ⟨.command, "", ⟨none, "roll", []⟩⟩).isSome = true := by
    decide +kernel
  obtain ⟨out, hout⟩ := Option.isSome_iff_exists.mp hsome
  rw [acknowledgment?, hout]
  rfl

theorem serve_defers_iff_answered_noContent :
    let network : Web.Request → Option Web.Response := fun _ => some ⟨204, []⟩
    let v : Command := ⟨.command, "", ⟨none, "roll", []⟩⟩
    IsSigned relaying.applicationPublicKey signedRoll ∧
      Interaction.codec.decode? signedRoll.body = some ⟨v.kind, v.token, some v.data⟩ ∧
      v.kind ≠ .ping ∧ acknowledgment? relaying network "1" v = some ⟨204, []⟩ ∧
      serve relaying (Web.services (m := Id) relaying network "1") signedRoll =
        .json 200 deferredText := by
  intro network v
  have hkind : v.kind ≠ .ping := by
    decide
  have hanswer := acknowledgment?_relaying ⟨204, []⟩
  obtain ⟨-, h⟩ := serve_defers_iff_answered (c := relaying) isSigned_signedRoll decode?_signedRoll
    hkind rfl
  obtain ⟨hok, hdeferred, -⟩ := h network "1"
  exact ⟨isSigned_signedRoll, decode?_signedRoll, hkind, hanswer,
    hdeferred.mpr (hok.mpr ⟨_, hanswer, .inl (by decide)⟩)⟩

/-- A status that is no acknowledgment, and a deferred reply all the same. -/
theorem serve_defers_notModified :
    let network : Web.Request → Option Web.Response := fun _ => some ⟨304, []⟩
    let s : Services Id := Web.services relaying network "1"
    let v : Command := ⟨.command, "", ⟨none, "roll", []⟩⟩
    IsSigned relaying.applicationPublicKey signedRoll ∧
      Interaction.codec.decode? signedRoll.body = some ⟨v.kind, v.token, some v.data⟩ ∧
      v.kind ≠ .ping ∧ acknowledgment? relaying network "1" v = some ⟨304, []⟩ ∧
      (s.handOff v).run = .ok () ∧ serve relaying s signedRoll = .json 200 deferredText ∧
      serve relaying s signedRoll ≠ .ofStatus 500 := by
  intro network s v
  have hkind : v.kind ≠ .ping := by
    decide
  have hanswer := acknowledgment?_relaying ⟨304, []⟩
  have hok : (s.handOff v).run = .ok () :=
    run_handOff_eq_ok_iff.mpr ⟨_, hanswer, .inl (by decide)⟩
  have hserve :=
    serve_of_isSigned (c := relaying) s isSigned_signedRoll decode?_signedRoll hkind rfl
  rw [hok] at hserve
  refine ⟨isSigned_signedRoll, decode?_signedRoll, hkind, hanswer, hok, hserve, ?_⟩
  rw [hserve]
  nofun

end DiceBot.Http
