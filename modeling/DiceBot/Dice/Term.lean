namespace DiceBot.Dice

structure Term where
  count : UInt32
  sides : UInt32
  modifier : Option Int64 := none
  deriving DecidableEq, Repr

abbrev Expression := List Term

structure Request where
  dice : Expression
  count : UInt32
  deriving DecidableEq, Repr

def Request.once (dice : Expression) : Request :=
  ⟨dice, 1⟩

structure Outcome where
  count : UInt32
  sides : UInt32
  modifier : Int64
  rolls : List Int64
  total : Int64
  deriving DecidableEq, Repr

structure Step where
  rolls : List Outcome
  total : Int64
  deriving DecidableEq, Repr

/-- The roll service's answer, one step for each time the expression was rolled. -/
structure Result where
  steps : List Step
  deriving DecidableEq, Repr

def Result.firstStep? (r : Result) : Option Step :=
  r.steps.head?

end DiceBot.Dice
