import DiceBot.Dice.Term
import DiceBot.Interaction.Basic
import DiceBot.Interaction.Message

namespace DiceBot

inductive Failure where
  | noMessageOption
  | unsendable
  | unreachable
  | refused (status : Nat)
  | unreadable
  | reported (message : String)
  deriving DecidableEq, Repr

def Failure.message : Failure → String
  | .noMessageOption => "emojify invoked without a message option"
  | .unsendable => "request cannot be sent"
  | .unreachable => "service cannot be reached"
  | .refused status => "service answered with status " ++ toString status
  | .unreadable => "answer cannot be read"
  | .reported message => message

structure Services (m : Type → Type) where
  evaluate : Dice.Request → ExceptT Failure m Dice.Result
  emojify : String → ExceptT Failure m String
  handOff : Command → ExceptT Failure m Unit
  edit : String → String → ExceptT Failure m Unit
  delete : String → ExceptT Failure m Unit
  create : String → Message → ExceptT Failure m Unit

inductive Call where
  | evaluate (request : Dice.Request)
  | emojify (message : String)
  | handOff (command : Command)
  | edit (token content : String)
  | delete (token : String)
  | create (token : String) (message : Message)
  deriving DecidableEq, Repr

/-- What services answer that always answer alike. -/
structure Answers where
  evaluate : Dice.Request → Except Failure Dice.Result
  emojify : String → Except Failure String
  handOff : Command → Except Failure Unit
  edit : String → String → Except Failure Unit
  delete : String → Except Failure Unit
  create : String → Message → Except Failure Unit

abbrev Recorded := StateM (List Call)

def Recorded.call {α : Type} (c : Call) (answer : Except Failure α) : ExceptT Failure Recorded α :=
  ExceptT.mk fun calls => (answer, calls ++ [c])

/-- Services that note every call, also one that fails. -/
def Answers.recorded (a : Answers) : Services Recorded where
  evaluate r := Recorded.call (.evaluate r) (a.evaluate r)
  emojify s := Recorded.call (.emojify s) (a.emojify s)
  handOff c := Recorded.call (.handOff c) (a.handOff c)
  edit t s := Recorded.call (.edit t s) (a.edit t s)
  delete t := Recorded.call (.delete t) (a.delete t)
  create t p := Recorded.call (.create t p) (a.create t p)

end DiceBot
