import DiceBot.Proofs.Http.SignatureGate
import DiceBot.Proofs.Interaction.Wire

namespace DiceBot.Http

open Interaction Text

inductive Ending where
  | malformed
  | pong
  | rebuff
  | handOff
  deriving DecidableEq, Repr

def pongText : Bytes :=
  Utf8.ofString "\x7b\"type\":1\x7d"

def rebuffText : Bytes :=
  Utf8.ofString
    "\x7b\"type\":4,\"data\":\x7b\"content\":\"Something went wrong.\",\"flags\":64\x7d\x7d"

def deferredText : Bytes :=
  Utf8.ofString "\x7b\"type\":5\x7d"

theorem encode_pong : Reply.codec.encode .pong = pongText := by
  decide +kernel

theorem encode_rebuff : Reply.codec.encode (.message malformedCommand) = rebuffText := by
  decide +kernel

theorem encode_deferred : Reply.codec.encode .deferred = deferredText := by
  decide +kernel

/-- What was in the body, and what response and calls it led to. -/
def Ending.Holds (a : Answers) (body : Bytes) (x : Exchange) : Ending → Prop
  | .malformed => codec.decode? body = none ∧ x = (.ofStatus 400, [])
  | .pong => ∃ i, codec.decode? body = some i ∧ i.kind.code = 1 ∧ x = (.json 200 pongText, [])
  | .rebuff => ∃ i, codec.decode? body = some i ∧ i.kind.code ≠ 1 ∧ i.data = none ∧
      x = (.json 200 rebuffText, [])
  | .handOff => ∃ i data, codec.decode? body = some i ∧ i.kind.code ≠ 1 ∧ i.data = some data ∧
      x.2 = [.handOff ⟨i.kind, i.token, data⟩] ∧
      x.1 = if (a.handOff ⟨i.kind, i.token, data⟩).isOk then .json 200 deferredText
        else .ofStatus 500

def Ending.ofBody (body : Bytes) : Ending :=
  match codec.decode? body with
  | none => .malformed
  | some i => if i.kind.code = 1 then .pong else if i.data = none then .rebuff else .handOff

theorem Ending.eq_ofBody_of_holds {a : Answers} {body : Bytes} {x : Exchange} {e : Ending}
    (h : e.Holds a body x) : e = ofBody body := by
  -- whatever the exchange was, an ending tells of which of four kinds the body is
  rw [ofBody]
  cases e with
  | malformed => rw [h.1]
  | pong =>
    obtain ⟨i, hi, hkind, -⟩ := h
    simp only [hi, if_pos hkind]
  | rebuff =>
    obtain ⟨i, hi, hkind, hdata, -⟩ := h
    simp only [hi, if_neg hkind, if_pos hdata]
  | handOff =>
    obtain ⟨i, data, hi, hkind, hdata, -⟩ := h
    have hsome : i.data ≠ none := Option.ne_none_iff_exists'.mpr ⟨data, hdata⟩
    simp only [hi, if_neg hkind, if_neg hsome]

theorem Ending.holds_ofBody (a : Answers) (body : Bytes) :
    (ofBody body).Holds a body (ofDispatch (dispatched a body), handOffs body) := by
  rw [ofBody, dispatched, handOffs]
  cases hi : codec.decode? body with
  | none => exact ⟨hi, rfl⟩
  | some i =>
    have hcode := Kind.code_eq_one_iff (codec_lawful.of_decode? hi)
    by_cases hkind : i.kind = .ping
    · simp only [hkind, if_true, ofDispatch, encode_pong]
      exact ⟨i, hi, hcode.mpr hkind, rfl⟩
    have hne : i.kind.code ≠ 1 := fun h => hkind (hcode.mp h)
    simp only [if_neg hkind, if_neg hne]
    cases hdata : i.data with
    | none =>
      simp only [ofDispatch, encode_rebuff]
      exact ⟨i, hi, hne, hdata, rfl⟩
    | some data =>
      refine ⟨i, data, hi, hne, hdata, rfl, ?_⟩
      dsimp only
      cases a.handOff ⟨i.kind, i.token, data⟩ with
      | ok _ =>
        simp only [ofDispatch, encode_deferred]
        rfl
      | error failure => rfl

theorem exists_reply_of_status_eq {a : Answers} {body : Bytes}
    (h : (ofDispatch (dispatched a body)).status = 200) :
    ∃ reply, Reply.codec.decode? (ofDispatch (dispatched a body)).body = some reply ∧
      (reply.kind.code = 1 ∨ reply.kind.code = 4 ∨ reply.kind.code = 5) ∧
      (reply.data.isSome = true ↔ reply.kind.code = 4) := by
  cases hreply : dispatched a body with
  | error e =>
    rw [hreply] at h
    cases e <;> cases h
  | ok reply =>
    have hkind : reply.kind.IsCanonical ∧
        (reply.kind.code = 1 ∨ reply.kind.code = 4 ∨ reply.kind.code = 5) ∧
        (reply.data.isSome = true ↔ reply.kind.code = 4) := by
      obtain rfl | rfl | rfl := eq_of_dispatched hreply <;>
        exact ⟨⟨nofun, nofun, nofun⟩, by decide, by decide⟩
    exact ⟨reply, Reply.codec_lawful.decode?_encode hkind.1, hkind.2⟩

/-- A deferred reply promises what one acknowledged hand-off is there to keep. -/
theorem response_eq_deferred_iff {a : Answers} {body : Bytes} {x : Exchange} {e : Ending}
    (h : e.Holds a body x) :
    x.1 = .json 200 deferredText ↔ ∃ v, x.2 = [.handOff v] ∧ (a.handOff v).isOk = true := by
  cases e with
  | malformed =>
    obtain ⟨-, rfl⟩ := h
    exact ⟨nofun, fun ⟨_, hcalls, _⟩ => nomatch hcalls⟩
  | pong =>
    obtain ⟨i, -, -, rfl⟩ := h
    refine ⟨fun hx => ?_, fun ⟨_, hcalls, _⟩ => nomatch hcalls⟩
    exact absurd hx (by decide +kernel)
  | rebuff =>
    obtain ⟨i, -, -, -, rfl⟩ := h
    refine ⟨fun hx => ?_, fun ⟨_, hcalls, _⟩ => nomatch hcalls⟩
    exact absurd hx (by decide +kernel)
  | handOff =>
    obtain ⟨i, data, -, -, -, hcalls, hresponse⟩ := h
    rw [hcalls, hresponse]
    constructor
    · intro h
      split at h
      · next hok => exact ⟨_, rfl, hok⟩
      · cases h
    · rintro ⟨v, hv, hok⟩
      cases hv
      exact if_pos hok

/-- A signed interaction ends in exactly one of four ways, with at most one hand-off. -/
theorem exchange_existsUnique_ending {c : Configuration} {r : Request}
    (h : IsSigned c.applicationPublicKey r) (a : Answers) :
    (∃! e : Ending, e.Holds a r.body (exchange c a r)) ∧
    ((exchange c a r).1.status = 200 →
      ∃ reply, Reply.codec.decode? (exchange c a r).1.body = some reply ∧
        (reply.kind.code = 1 ∨ reply.kind.code = 4 ∨ reply.kind.code = 5) ∧
        (reply.data.isSome = true ↔ reply.kind.code = 4)) ∧
    ((exchange c a r).1 = .json 200 deferredText ↔
      ∃ v, (exchange c a r).2 = [.handOff v] ∧ (a.handOff v).isOk = true) := by
  rw [h.exchange_eq]
  have hholds := Ending.holds_ofBody a r.body
  exact ⟨⟨_, hholds, fun _ => Ending.eq_ofBody_of_holds⟩, exists_reply_of_status_eq,
    response_eq_deferred_iff hholds⟩

theorem exchange_existsUnique_ending_signedRoll :
    let c : Configuration := ⟨"", "", exampleKey, "", "", "", "", "", ""⟩
    let a : Answers := ⟨fun _ => .error .unreachable, .ok, fun _ => .error .unreachable,
      fun _ _ => .ok (), fun _ => .ok (), fun _ _ => .ok ()⟩
    IsSigned c.applicationPublicKey signedRoll ∧
      (∃! e : Ending, e.Holds a signedRoll.body (exchange c a signedRoll)) ∧
      exchange c a signedRoll = (.ofStatus 500, [.handOff ⟨.command, "", ⟨none, "roll", []⟩⟩]) := by
  intro c a
  have hsigned : IsSigned c.applicationPublicKey signedRoll := isSigned_signedRoll
  refine ⟨hsigned, (exchange_existsUnique_ending hsigned a).1, ?_⟩
  rw [hsigned.exchange_eq, dispatched, handOffs, decode?_signedRoll]
  rfl

end DiceBot.Http
