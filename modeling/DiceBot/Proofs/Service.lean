import DiceBot.Service

namespace DiceBot

variable {α β ε : Type}

@[simp] theorem isOk_ok (result : α) : (Except.ok result : Except ε α).isOk = true :=
  rfl

@[simp] theorem isOk_error (e : ε) : (Except.error e : Except ε α).isOk = false :=
  rfl

@[simp] theorem isOk_map (f : α → β) (x : Except ε α) : (x.map f).isOk = x.isOk := by
  cases x <;> rfl

/-- A computation gives `result` and notes the calls `added`, whatever was noted before. -/
def Leaves (x : Recorded α) (result : α) (added : List Call) : Prop :=
  ∀ calls, x.run calls = (result, calls ++ added)

theorem leaves_pure (result : α) : Leaves (pure result) result [] := by
  intro calls
  rw [List.append_nil]
  rfl

theorem leaves_call (call : Call) (answer : Except Failure α) :
    Leaves (Recorded.call call answer).run answer [call] :=
  fun _ => rfl

theorem Leaves.result_unique {x : Recorded α} {a b : α} {l m : List Call} (ha : Leaves x a l)
    (hb : Leaves x b m) : a = b :=
  congrArg Prod.fst ((ha []).symm.trans (hb []))

theorem Leaves.bind {x : Recorded α} {f : α → Recorded β} {a : α} {b : β} {l m : List Call}
    (hx : Leaves x a l) (hf : Leaves (f a) b m) : Leaves (x >>= f) b (l ++ m) := by
  intro calls
  have hrun : (x >>= f).run calls = (f (x.run calls).1).run (x.run calls).2 := rfl
  rw [hrun, hx, hf, List.append_assoc]

theorem Leaves.map {x : Recorded α} {a : α} {l : List Call} (hx : Leaves x a l) (f : α → β) :
    Leaves (f <$> x) (f a) l := by
  intro calls
  have hrun : (f <$> x).run calls = (f (x.run calls).1, (x.run calls).2) := rfl
  rw [hrun, hx]

theorem Leaves.bind_ok {x : ExceptT ε Recorded α} {f : α → ExceptT ε Recorded β} {a : α}
    {result : Except ε β} {l m : List Call} (hx : Leaves x.run (.ok a) l)
    (hf : Leaves (f a).run result m) : Leaves (x >>= f).run result (l ++ m) := by
  rw [ExceptT.run_bind]
  exact hx.bind hf

theorem Leaves.bind_error {x : ExceptT ε Recorded α} {f : α → ExceptT ε Recorded β} {e : ε}
    {l : List Call} (hx : Leaves x.run (.error e) l) : Leaves (x >>= f).run (.error e) l := by
  rw [ExceptT.run_bind, ← List.append_nil l]
  exact hx.bind (leaves_pure _)

theorem Leaves.calls_eq {x : Recorded α} {result : α} {l : List Call} (hx : Leaves x result l) :
    (x.run []).2 = l := by
  rw [hx, List.nil_append]

def Call.succeeds (a : Answers) : Call → Bool
  | .evaluate request => (a.evaluate request).isOk
  | .emojify message => (a.emojify message).isOk
  | .handOff command => (a.handOff command).isOk
  | .edit token content => (a.edit token content).isOk
  | .delete token => (a.delete token).isOk
  | .create token message => (a.create token message).isOk

def Call.deliveryToken? : Call → Option String
  | .edit token _ => some token
  | .delete token => some token
  | .create token _ => some token
  | _ => none

end DiceBot
