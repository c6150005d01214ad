namespace DiceBot

namespace Interaction

inductive Kind where
  | ping
  | command
  | other (code : Int32)
  deriving DecidableEq, Repr

def Kind.ofCode (code : Int32) : Kind :=
  if code = 1 then .ping else if code = 2 then .command else .other code

def Kind.code : Kind → Int32
  | .ping => 1
  | .command => 2
  | .other code => code

structure CommandOption where
  name : String
  value : String
  deriving DecidableEq, Repr

structure CommandData where
  id : Option String := none
  name : String
  options : List CommandOption := []
  deriving DecidableEq, Repr

end Interaction

structure Interaction where
  kind : Interaction.Kind
  token : String := ""
  data : Option Interaction.CommandData := none
  deriving DecidableEq, Repr

structure Command where
  kind : Interaction.Kind
  token : String
  data : Interaction.CommandData
  deriving DecidableEq, Repr

namespace Command

def name (c : Command) : String :=
  c.data.name

def firstOption? (c : Command) : Option String :=
  c.data.options.head?.map (·.value)

end Command

/-- The command in an interaction; without command data, the interaction itself. -/
def Interaction.toCommand (i : Interaction) : Except Interaction Command :=
  match i.data with
  | some data => .ok ⟨i.kind, i.token, data⟩
  | none => .error i

end DiceBot
