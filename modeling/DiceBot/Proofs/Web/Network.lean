import DiceBot.Command.Delivery
import DiceBot.Interaction.Dispatch
import DiceBot.Proofs.Web.Client
import DiceBot.Web.Network

namespace DiceBot.Web.Network

/-- A network after some requests, the latest first. Where nothing listens, none arrives. -/
def heard (n : Network) (rs : List Request) : Network :=
  if n.isListening then
    { n with responses := n.responses.drop rs.length, received := rs ++ n.received }
  else n

theorem heard_nil (n : Network) : n.heard [] = n := by
  rw [heard]
  split <;> rfl

theorem heard_heard (n : Network) (rs qs : List Request) :
    (n.heard rs).heard qs = n.heard (qs ++ rs) := by
  cases hlistening : n.isListening with
  | false => simp [heard, hlistening]
  | true => simp [heard, hlistening, Nat.add_comm]

theorem exchange_eq_heard (r : Request) (n : Network) : (n.exchange r).2 = n.heard [r] := by
  rw [exchange, heard]
  split
  · simp
  · rfl

variable {α β ε : Type} {k l : Nat}

/-- A computation makes at most `k` requests, and the network changes by nothing else. -/
def SendsAtMost (k : Nat) (x : StateM Network α) : Prop :=
  ∀ n, ∃ rs : List Request, rs.length ≤ k ∧ (x.run n).2 = n.heard rs

theorem sendsAtMost_pure (a : α) : SendsAtMost k (pure a) :=
  fun n => ⟨[], Nat.zero_le k, n.heard_nil.symm⟩

theorem sendsAtMost_transport (r : Request) : SendsAtMost 1 (transport r) :=
  fun n => ⟨[r], Nat.le_refl 1, exchange_eq_heard r n⟩

namespace SendsAtMost

theorem bind {x : StateM Network α} {f : α → StateM Network β} (hx : SendsAtMost k x)
    (hf : ∀ a, SendsAtMost l (f a)) : SendsAtMost (k + l) (x >>= f) := by
  intro n
  obtain ⟨rs, hrs, hx⟩ := hx n
  obtain ⟨qs, hqs, hf⟩ := hf (x.run n).1 (x.run n).2
  refine ⟨qs ++ rs, by simp only [List.length_append]; omega, ?_⟩
  rw [← heard_heard, ← hx, ← hf]
  rfl

theorem map {x : StateM Network α} (hx : SendsAtMost k x) (f : α → β) :
    SendsAtMost k (f <$> x) :=
  hx.bind (l := 0) fun a => sendsAtMost_pure (f a)

theorem mono {x : StateM Network α} (hx : SendsAtMost k x) (h : k ≤ l) : SendsAtMost l x := by
  intro n
  obtain ⟨rs, hrs, hx⟩ := hx n
  exact ⟨rs, Nat.le_trans hrs h, hx⟩

theorem bind_run {x : ExceptT ε (StateM Network) α} {f : α → ExceptT ε (StateM Network) β}
    (hx : SendsAtMost k x.run) (hf : ∀ a, SendsAtMost l (f a).run) :
    SendsAtMost (k + l) (x >>= f).run := by
  rw [ExceptT.run_bind]
  refine hx.bind fun outcome => ?_
  cases outcome with
  | ok a => exact hf a
  | error e => exact sendsAtMost_pure _

theorem discard {x : ExceptT ε (StateM Network) α} (hx : SendsAtMost k x.run) :
    SendsAtMost k (x >>= fun _ => pure ()).run :=
  hx.bind_run (l := 0) fun _ => sendsAtMost_pure _

end SendsAtMost

theorem sendsAtMost_send (r : Option Request) : SendsAtMost 1 (send transport r).run := by
  cases r with
  | none => exact sendsAtMost_pure _
  | some r =>
    rw [run_send]
    exact (sendsAtMost_transport r).map settled

theorem sendsAtMost_receive (c : Json.Codec α) (response : Response) :
    SendsAtMost 0 (receive (m := StateM Network) c response).run := by
  rw [receive]
  split <;> exact sendsAtMost_pure _

structure AsksOnce (s : Services (StateM Network)) : Prop where
  evaluate : ∀ r, SendsAtMost 1 (s.evaluate r).run
  emojify : ∀ message, SendsAtMost 1 (s.emojify message).run
  handOff : ∀ v, SendsAtMost 1 (s.handOff v).run
  edit : ∀ token content, SendsAtMost 1 (s.edit token content).run
  delete : ∀ token, SendsAtMost 1 (s.delete token).run
  create : ∀ token p, SendsAtMost 1 (s.create token p).run

theorem asksOnce_services (c : Configuration) {newId : StateM Network String}
    (hid : SendsAtMost 0 newId) : AsksOnce (services c transport newId) where
  evaluate _ := (sendsAtMost_send _).bind_run (sendsAtMost_receive _)
  emojify _ := (sendsAtMost_send _).bind_run (sendsAtMost_receive _)
  handOff v := by
    rw [run_handOff]
    exact (hid.bind fun _ => (sendsAtMost_send _).map _).mono (by omega)
  edit _ _ := (sendsAtMost_send _).discard
  delete _ := (sendsAtMost_send _).discard
  create _ _ := (sendsAtMost_send _).discard

namespace AsksOnce

variable {s : Services (StateM Network)} (hs : AsksOnce s)
include hs

theorem dispatch (body : Bytes) : SendsAtMost 1 (Interaction.dispatch s body).run := by
  rw [Interaction.dispatch]
  split
  · exact sendsAtMost_pure _
  split
  · exact sendsAtMost_pure _
  · exact sendsAtMost_pure _
  · next v _ =>
    rw [ExceptT.run_bind, ExceptT.run_liftM, bind_map_left]
    refine (hs.handOff v).bind (l := 0) fun outcome => ?_
    cases outcome with
    | ok _ => exact sendsAtMost_pure _
    | error failure => exact sendsAtMost_pure _

theorem rollExpression (raw : String) : SendsAtMost 1 (Command.rollExpression s raw) := by
  rw [Command.rollExpression]
  split
  · exact sendsAtMost_pure _
  · next dice _ =>
    refine (hs.evaluate (.once dice)).bind (l := 0) fun outcome => ?_
    cases outcome with
    | error failure => exact sendsAtMost_pure _
    | ok result => dsimp only; split <;> exact sendsAtMost_pure _

theorem emojify_run (v : Command) : SendsAtMost 1 (Command.emojify s v).run := by
  rw [Command.emojify]
  split
  · exact sendsAtMost_pure _
  · next message _ => exact (hs.emojify message).bind_run fun _ => sendsAtMost_pure (k := 0) _

theorem route (v : Command) : SendsAtMost 1 (Command.route s v).run := by
  have hhandlers : ∀ entry ∈ Command.handlers, SendsAtMost 1 (entry.2 s v).run := by
    simp only [Command.handlers, List.forall_mem_cons]
    exact ⟨(hs.rollExpression _).map _, hs.emojify_run v, nofun⟩
  rw [Command.route]
  split
  · next handler hhandler =>
    obtain ⟨before, after, hmem, -⟩ := List.lookup_eq_some_iff.mp hhandler
    exact hhandlers (v.name, handler) (by simp [hmem])
  · exact sendsAtMost_pure _

/-- A command costs three requests at most: one for its message, and two for a message that only
the user sees. -/
theorem execute (v : Command) : SendsAtMost 3 (Command.execute s v).run := by
  refine (hs.route v).bind_run (l := 2) fun p => ?_
  rw [Command.deliver]
  split
  · exact (hs.delete v.token).bind_run fun _ => hs.create v.token p
  · exact (hs.edit v.token p.content).mono (by omega)

end AsksOnce

end DiceBot.Web.Network
