import DiceBot.Proofs.Command.Execution
import DiceBot.Proofs.Dice.Spelling

namespace DiceBot

open Dice.Notation

/-- What the roll service may be asked: one throw of dice that there are. -/
structure Dice.Request.IsSound (r : Request) : Prop where
  count : r.count = 1
  dice_ne : r.dice ≠ []
  one_le_count : ∀ t ∈ r.dice, 1 ≤ t.count
  one_le_sides : ∀ t ∈ r.dice, 1 ≤ t.sides
  modifier_ne : ∀ t ∈ r.dice, ∀ m, t.modifier = some m → m ≠ 0

namespace Command

variable {a : Answers} {raw : String} {dice : Dice.Expression} {result : Dice.Result}
  {step : Dice.Step}

theorem isSound_of_parse (h : parse raw = .ok dice) : (Dice.Request.once dice).IsSound := by
  obtain ⟨hne, hterms⟩ := isSpellable_of_parse h
  have hpos : ∀ n : UInt32, n ≠ 0 → 1 ≤ n := by
    intro n hn
    rw [UInt32.le_iff_toNat_le]
    exact UInt32.pos_iff_ne_zero.mpr hn
  exact ⟨rfl, hne, fun t ht => hpos _ (hterms t ht).count, fun t ht => hpos _ (hterms t ht).sides,
    fun t ht m hm h0 => (hterms t ht).modifier (h0 ▸ hm)⟩

theorem isSound_of_mem_rollCalls {request : Dice.Request} (h : .evaluate request ∈ rollCalls raw) :
    request.IsSound := by
  rw [rollCalls] at h
  split at h
  · cases h
  · next dice hdice =>
    cases List.mem_singleton.mp h
    exact isSound_of_parse hdice

theorem rollMessage_of_step (h : parse raw = .ok dice) (hresult : a.evaluate ⟨dice, 1⟩ = .ok result)
    (hstep : result.firstStep? = some step) : rollMessage a raw = .visible step.text := by
  simp only [rollMessage, h, hresult, hstep]
  rfl

theorem rollMessage_of_no_step (h : parse raw = .ok dice)
    (hresult : ∀ result, a.evaluate ⟨dice, 1⟩ = .ok result → result.firstStep? = none) :
    rollMessage a raw = rollFailed := by
  simp only [rollMessage, h]
  split
  · rfl
  · next result hok =>
    rw [hresult result hok]
    rfl

/-- What a roll can come to: the text is no expression, the service gives no step, or it does. -/
theorem rollMessage_cases (a : Answers) (raw : String) :
    (∃ e, parse raw = .error e ∧ rollMessage a raw = notationRejected) ∨
    (∃ dice, parse raw = .ok dice ∧ rollMessage a raw = rollFailed ∧
      ∀ result, a.evaluate ⟨dice, 1⟩ = .ok result → result.firstStep? = none) ∨
    ∃ dice result step, parse raw = .ok dice ∧ a.evaluate ⟨dice, 1⟩ = .ok result ∧
      result.firstStep? = some step ∧ rollMessage a raw = .visible step.text := by
  cases hparse : parse raw with
  | error e => exact .inl ⟨e, rfl, by rw [rollMessage, hparse]⟩
  | ok dice =>
    right
    by_cases hstep : ∀ result, a.evaluate ⟨dice, 1⟩ = .ok result → result.firstStep? = none
    · exact .inl ⟨dice, rfl, rollMessage_of_no_step hparse hstep, hstep⟩
    · simp only [not_forall, Option.ne_none_iff_exists'] at hstep
      obtain ⟨result, hresult, step, hstep⟩ := hstep
      exact .inr ⟨dice, result, step, rfl, hresult, hstep, rollMessage_of_step hparse hresult hstep⟩

theorem rollMessage_eq_notationRejected_iff :
    rollMessage a raw = notationRejected ↔ ∃ e, parse raw = .error e := by
  constructor
  · intro h
    obtain ⟨e, he, -⟩ | ⟨dice, -, hfailed, -⟩ | ⟨dice, result, step, -, -, -, hstep⟩ :=
      rollMessage_cases a raw
    · exact ⟨e, he⟩
    · rw [hfailed] at h
      exact absurd h (by decide)
    · rw [hstep] at h
      cases congrArg Message.flags h
  · rintro ⟨e, he⟩
    rw [rollMessage, he]

theorem rollMessage_eq_rollFailed_iff :
    rollMessage a raw = rollFailed ↔ ∃ dice, parse raw = .ok dice ∧
      ∀ result, a.evaluate ⟨dice, 1⟩ = .ok result → result.firstStep? = none := by
  constructor
  · intro h
    obtain ⟨e, -, hrejected⟩ | ⟨dice, hdice, -, hnone⟩ | ⟨dice, result, step, -, -, -, hstep⟩ :=
      rollMessage_cases a raw
    · rw [hrejected] at h
      exact absurd h (by decide)
    · exact ⟨dice, hdice, hnone⟩
    · rw [hstep] at h
      cases congrArg Message.flags h
  · rintro ⟨dice, hdice, hnone⟩
    exact rollMessage_of_no_step hdice hnone

/-- The roll service is asked once if the text is an expression and never otherwise, and each way
in which a roll can go wrong has its own message. -/
theorem rollExpression_asks_at_most_once (a : Answers) (raw : String) :
    ∃ (message : Message) (calls : List Call),
      Leaves (rollExpression a.recorded raw) message calls ∧
      (∀ e, parse raw = .error e → calls = []) ∧
      (∀ dice, parse raw = .ok dice → calls = [.evaluate ⟨dice, 1⟩]) ∧
      (∀ request, .evaluate request ∈ calls → request.IsSound) ∧
      (message = ⟨"Sorry bud, I don't know how to roll that...", some 64⟩ ↔
        ∃ e, parse raw = .error e) ∧
      (message = ⟨"That roll is messed up...", some 64⟩ ↔
        ∃ dice, parse raw = .ok dice ∧
          ((∃ failure, a.evaluate ⟨dice, 1⟩ = .error failure) ∨
            ∃ result, a.evaluate ⟨dice, 1⟩ = .ok result ∧ result.steps = [])) ∧
      (∀ dice step more, parse raw = .ok dice → a.evaluate ⟨dice, 1⟩ = .ok ⟨step :: more⟩ →
        message = ⟨step.text, none⟩) ∧
      ∀ dice step more more' (b : Answers), parse raw = .ok dice →
        a.evaluate ⟨dice, 1⟩ = .ok ⟨step :: more⟩ → b.evaluate ⟨dice, 1⟩ = .ok ⟨step :: more'⟩ →
        Leaves (rollExpression b.recorded raw) message calls := by
  refine ⟨rollMessage a raw, rollCalls raw, rollExpression_leaves a raw, ?_, ?_,
    fun _ => isSound_of_mem_rollCalls, rollMessage_eq_notationRejected_iff, ?_, ?_, ?_⟩
  · intro e he
    rw [rollCalls, he]
  · intro dice hdice
    rw [rollCalls, hdice]
  · apply rollMessage_eq_rollFailed_iff.trans
    apply exists_congr
    intro dice
    apply and_congr_right
    intro _
    cases a.evaluate ⟨dice, 1⟩ with
    | error failure => simp
    | ok result => simp [Dice.Result.firstStep?]
  · intro dice step more hdice hresult
    exact rollMessage_of_step hdice hresult rfl
  · intro dice step more more' b hdice ha hb
    have hsame : rollMessage b raw = rollMessage a raw :=
      (rollMessage_of_step hdice hb rfl).trans (rollMessage_of_step hdice ha rfl).symm
    exact hsame ▸ rollExpression_leaves b raw

end Command

end DiceBot
