import DiceBot.Interaction.Dispatch
import DiceBot.Proofs.Service

namespace DiceBot.Interaction

def handOffs (body : Bytes) : List Call :=
  match codec.decode? body with
  | none => []
  | some i =>
    if i.kind = .ping then []
    else (i.data.map fun data => .handOff ⟨i.kind, i.token, data⟩).toList

def dispatched (a : Answers) (body : Bytes) : Except Error Reply :=
  match codec.decode? body with
  | none => .error (.validation "not an interaction")
  | some i =>
    if i.kind = .ping then .ok .pong
    else
      match i.data with
      | none => .ok (.message malformedCommand)
      | some data =>
        match a.handOff ⟨i.kind, i.token, data⟩ with
        | .ok () => .ok .deferred
        | .error failure => .error (.handOff failure.message)

theorem dispatch_leaves (a : Answers) (body : Bytes) :
    Leaves (dispatch a.recorded body).run (dispatched a body) (handOffs body) := by
  rw [dispatch, dispatched, handOffs]
  cases codec.decode? body with
  | none => exact leaves_pure _
  | some i =>
    dsimp only
    rw [classify, toCommand]
    by_cases hkind : i.kind = .ping
    · rw [if_pos hkind, if_pos hkind, if_pos hkind]
      exact leaves_pure _
    rw [if_neg hkind, if_neg hkind, if_neg hkind]
    cases i.data with
    | none => exact leaves_pure _
    | some data =>
      have hcall : Leaves (a.recorded.handOff ⟨i.kind, i.token, data⟩).run
          (a.handOff ⟨i.kind, i.token, data⟩) [.handOff ⟨i.kind, i.token, data⟩] :=
        leaves_call _ _
      dsimp only
      refine Leaves.bind_ok (m := []) (hcall.map Except.ok) ?_
      cases a.handOff ⟨i.kind, i.token, data⟩ with
      | ok _ => exact leaves_pure _
      | error failure => exact leaves_pure _

/-- Nothing is done with a command but its hand-off, whatever the services are. -/
theorem run_dispatch_of_data {m : Type → Type} [Monad m] [LawfulMonad m] (s : Services m)
    {body : Bytes} {i : Interaction} {data : CommandData} (hi : codec.decode? body = some i)
    (hkind : i.kind ≠ .ping) (hdata : i.data = some data) :
    (dispatch s body).run = (fun (outcome : Except Failure Unit) =>
      (outcome.mapError fun failure => Error.handOff failure.message).map fun _ =>
        Reply.deferred) <$> (s.handOff ⟨i.kind, i.token, data⟩).run := by
  rw [dispatch, hi]
  simp only [classify, if_neg hkind, toCommand, hdata]
  rw [ExceptT.run_bind, ExceptT.run_liftM, bind_map_left, ← bind_pure_comp]
  refine bind_congr fun outcome => ?_
  cases outcome with
  | ok _ => rfl
  | error failure => rfl

theorem eq_of_dispatched {a : Answers} {body : Bytes} {reply : Reply}
    (h : dispatched a body = .ok reply) :
    reply = .pong ∨ reply = .message malformedCommand ∨ reply = .deferred := by
  rw [dispatched] at h
  split at h
  · cases h
  split at h
  · cases h
    exact .inl rfl
  split at h
  · cases h
    exact .inr (.inl rfl)
  split at h
  · cases h
    exact .inr (.inr rfl)
  · cases h

theorem eq_handOff_of_mem_handOffs {body : Bytes} {call : Call} (h : call ∈ handOffs body) :
    ∃ i v, codec.decode? body = some i ∧ i.toCommand = .ok v ∧ call = .handOff v := by
  rw [handOffs] at h
  split at h
  · cases h
  next i hi =>
  split at h
  · cases h
  obtain ⟨data, hdata, rfl⟩ := Option.map_eq_some_iff.mp (Option.mem_toList.mp h)
  exact ⟨i, _, hi, by rw [toCommand, hdata], rfl⟩

end DiceBot.Interaction
