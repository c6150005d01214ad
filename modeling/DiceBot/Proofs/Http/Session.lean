import DiceBot.Http.Session

namespace DiceBot.Http

variable {P : Answers → Request → Exchange → Prop}

/-- A property of every exchange of a run, with the services that were there when the request came
in. A change of services leaves no exchange. -/
inductive Throughout (P : Answers → Request → Exchange → Prop) :
    Answers → List Event → List (Option Exchange) → Prop
  | nil {a : Answers} : Throughout P a [] []
  | change {a b : Answers} {es : List Event} {xs : List (Option Exchange)}
      (h : Throughout P b es xs) : Throughout P a (.change b :: es) (none :: xs)
  | request {a : Answers} {r : Request} {x : Exchange} {es : List Event}
      {xs : List (Option Exchange)} (hx : P a r x) (h : Throughout P a es xs) :
      Throughout P a (.request r :: es) (some x :: xs)

theorem throughout_run {c : Configuration} (h : ∀ a r, P a r (exchange c a r)) (a : Answers)
    (es : List Event) : Throughout P a es (run c a es) := by
  induction es generalizing a with
  | nil => exact .nil
  | cons e es ih =>
    cases e with
    | change b => exact .change (ih b)
    | request r => exact .request (h a r) (ih a)

end DiceBot.Http
