import DiceBot.Proofs.Command.Execution
import DiceBot.Proofs.Http.Server

namespace DiceBot.Http

variable {c : Configuration} {a : Answers} {r : Request}

theorem method_of_admitCommand {secret : String} {v : Command}
    (h : admitCommand secret r = .ok v) : r.method = "POST" := by
  rw [admitCommand] at h
  split at h
  · cases h
  · next hm => exact Decidable.not_not.mp hm

/-- An admitted command is acknowledged and carried out, and nothing else is done. -/
theorem serve_of_admitCommand {m : Type → Type} [Monad m] [LawfulMonad m] (s : Services m)
    {v : Command} (hpath : r.path = commandPath.toList)
    (hv : admitCommand c.invocationSecret r = .ok v) :
    serve c s r = (fun _ => .ofStatus 202) <$> (Command.execute s v).run := by
  have hroute : r.path ≠ interactionPath.toList := by
    rw [hpath]
    decide
  rw [serve, respond, if_neg hroute, if_pos hpath, answerCommand, hv]
  simp [Answer.forMethod, method_of_admitCommand hv, seqRight_eq_bind]

theorem exchange_of_admitCommand {v : Command} (hpath : r.path = commandPath.toList)
    (hv : admitCommand c.invocationSecret r = .ok v) :
    exchange c a r = (.ofStatus 202, ((Command.execute a.recorded v).run.run []).2) := by
  rw [exchange, serve_of_admitCommand a.recorded hpath hv]
  rfl

theorem exchange_of_refusedCommand {refusal : Response} (hpath : r.path = commandPath.toList)
    (h : admitCommand c.invocationSecret r = .error refusal) :
    exchange c a r = (refusal.forMethod r.method, []) := by
  have hanswer : answerCommand c.invocationSecret a.recorded r = pure (answer refusal) := by
    rw [answerCommand, h]
  exact exchange_of_answerCommand hpath hanswer (leaves_pure ())

theorem handOff_notMem_of_commandPath {a : Answers} (hpath : r.path = commandPath.toList)
    (v : Command) : .handOff v ∉ (exchange c a r).2 := by
  cases h : admitCommand c.invocationSecret r with
  | error refusal =>
    rw [exchange_of_refusedCommand hpath h]
    exact List.not_mem_nil
  | ok command =>
    rw [exchange_of_admitCommand hpath h, (Command.execute_leaves a command).calls_eq]
    exact Command.handOff_notMem a command v

end DiceBot.Http
