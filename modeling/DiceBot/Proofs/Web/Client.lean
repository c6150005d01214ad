import DiceBot.Http.Session
import DiceBot.Proofs.Http.Message
import DiceBot.Web.Client

namespace DiceBot.Web

open Text

theorem isHeaderByte_iff {b : UInt8} :
    isHeaderByte b = true ↔ b.toNat = 0x09 ∨ 0x20 ≤ b.toNat ∧ b.toNat ≠ 0x7F := by
  rw [isHeaderByte, Bool.or_eq_true, beq_iff_eq, Bool.and_eq_true, decide_eq_true_eq, bne_iff_ne,
    UInt8.le_iff_toNat_le, ← UInt8.toNat_inj, ne_eq, ← UInt8.toNat_inj]
  rfl

theorem isHeaderByte_of_isTextByte {b : UInt8} (h : Http.Request.isTextByte b = true) :
    isHeaderByte b = true := by
  rw [Http.Request.isTextByte_iff] at h
  rw [isHeaderByte_iff]
  omega

theorem request?_eq_some_iff {method url : String} {headers : List (String × String)}
    {body : Option Bytes} {out : Request} :
    request? method url headers body = some out ↔
      ∃ address, Address.parse? url = some address ∧
        address.withoutCredentials.isSendable = true ∧
        (∀ h ∈ headers, ∀ b ∈ Utf8.ofString h.2, isHeaderByte b = true) ∧
        out = ⟨method, address.withoutCredentials, ("user-agent", Utf8.ofString userAgent) ::
          (body.toList.map fun _ => ("content-type", Utf8.ofString "application/json")) ++
          headers.map fun (name, value) => (name, Utf8.ofString value), body⟩ := by
  have hall : (headers.map fun (name, value) => (name, Utf8.ofString value)).all
      (fun h => h.2.all isHeaderByte) = true ↔
      ∀ h ∈ headers, ∀ b ∈ Utf8.ofString h.2, isHeaderByte b = true := by
    simp only [List.all_map, List.all_eq_true, Function.comp_apply]
  cases haddress : Address.parse? url with
  | none => simp [request?, haddress]
  | some address =>
    simp only [request?, haddress, Option.bind_eq_bind, Option.bind_some]
    split
    · next h =>
      rw [Bool.and_eq_true, hall] at h
      simp only [Option.some.injEq, exists_eq_left', h.1, true_and]
      constructor
      · intro hout
        cases hout
        exact ⟨h.2, rfl⟩
      · rintro ⟨-, rfl⟩
        rfl
    · next h =>
      rw [Bool.and_eq_true, hall] at h
      constructor
      · nofun
      · rintro ⟨found, hfound, hsendable, hheaders, -⟩
        cases hfound
        exact absurd ⟨hsendable, hheaders⟩ h

/-- A hand-off needs an endpoint and headers that can be sent, and brings the secret once. -/
theorem handOffRequest_eq_some_iff {c : Configuration} {id : String} {v : Command} {out : Request} :
    handOffRequest c id v = some out ↔
      ∃ address, Address.parse? c.commandEndpoint = some address ∧
        address.withoutCredentials.isSendable = true ∧
        (∀ b ∈ Utf8.ofString c.invocationSecret, isHeaderByte b = true) ∧
        (∀ b ∈ Utf8.ofString id, isHeaderByte b = true) ∧
        out = ⟨"POST", address.withoutCredentials, [("user-agent", Utf8.ofString userAgent),
          ("content-type", Utf8.ofString "application/json"),
          (Http.secretHeader, Utf8.ofString c.invocationSecret),
          ("x-invocation-id", Utf8.ofString id)], some (Command.codec.encode v)⟩ := by
  rw [handOffRequest, request?_eq_some_iff]
  simp only [List.forall_mem_cons, List.not_mem_nil, false_implies, implies_true, and_true,
    and_assoc]
  rfl

theorem handOffRequest_of_isSendable {c : Configuration} {id : String} {address : Address}
    (haddress : Address.parse? c.commandEndpoint = some address)
    (hsendable : address.withoutCredentials.isSendable = true)
    (hsecret : ∀ b ∈ Utf8.ofString c.invocationSecret, isHeaderByte b = true)
    (hid : ∀ b ∈ Utf8.ofString id, isHeaderByte b = true) (v : Command) :
    ∃ out, handOffRequest c id v = some out ∧ out.method = "POST" ∧
      out.body = some (Command.codec.encode v) ∧
      (Http.secretHeader, Utf8.ofString c.invocationSecret) ∈ out.headers := by
  refine ⟨_, handOffRequest_eq_some_iff.mpr ⟨address, haddress, hsendable, hsecret, hid, rfl⟩, rfl,
    rfl, ?_⟩
  exact List.mem_cons_of_mem _ (List.mem_cons_of_mem _ (List.mem_cons_self ..))

def settled : Option Response → Except Failure Response
  | none => .error .unreachable
  | some response =>
    if isErrorStatus response.status then .error (.refused response.status) else .ok response

theorem settled_eq_ok_iff {answer : Option Response} {response : Response} :
    settled answer = .ok response ↔
      answer = some response ∧ (response.status < 400 ∨ 600 ≤ response.status) := by
  cases answer with
  | none => exact ⟨nofun, nofun⟩
  | some given =>
    have hstatus :
        isErrorStatus given.status = false ↔ given.status < 400 ∨ 600 ≤ given.status := by
      rw [isErrorStatus, Bool.and_eq_false_iff, decide_eq_false_iff_not, decide_eq_false_iff_not,
        Nat.not_le, Nat.not_lt]
    rw [settled, Option.some.injEq]
    constructor
    · intro h
      split at h
      · cases h
      · next herror =>
        cases h
        exact ⟨rfl, hstatus.mp (eq_false_of_ne_true herror)⟩
    · rintro ⟨rfl, h⟩
      rw [hstatus.mpr h]
      rfl

section

variable {m : Type → Type} [Monad m] [LawfulMonad m]

theorem run_send (t : Transport m) (out : Request) :
    (send t (some out)).run = settled <$> t out := by
  rw [send, ExceptT.run_bind, ExceptT.run_liftM, bind_map_left, ← bind_pure_comp]
  refine bind_congr fun answer => ?_
  cases answer with
  | none => rfl
  | some response =>
    dsimp only [settled]
    split
    · rfl
    · rfl

/-- A hand-off is one request, and of what comes back only the success or the failure is kept. -/
theorem run_handOff (c : Configuration) (t : Transport m) (newId : m String) (v : Command) :
    ((services c t newId).handOff v).run = newId >>= fun id =>
      (fun (outcome : Except Failure Response) => outcome.map fun _ => ()) <$>
        (send t (handOffRequest c id v)).run := by
  dsimp only [services]
  rw [ExceptT.run_bind, ExceptT.run_liftM, bind_map_left]
  refine bind_congr fun id => ?_
  dsimp only
  rw [ExceptT.run_bind, ← bind_pure_comp]
  refine bind_congr fun outcome => ?_
  cases outcome with
  | ok response => rfl
  | error failure => rfl

end

theorem send_eq_ok_iff {network : Request → Option Response} {r : Option Request}
    {response : Response} :
    (send (m := Id) network r).run = .ok response ↔
      ∃ out, r = some out ∧ network out = some response ∧
        (response.status < 400 ∨ 600 ≤ response.status) := by
  cases r with
  | none =>
    have hrun : (send (m := Id) network none).run = .error .unsendable := rfl
    simp [hrun]
  | some out =>
    have hrun : (send (m := Id) network (some out)).run = settled (network out) := run_send _ _
    rw [hrun, settled_eq_ok_iff]
    simp

end DiceBot.Web
