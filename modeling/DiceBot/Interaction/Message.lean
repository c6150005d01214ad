namespace DiceBot

def ephemeralFlag : UInt64 :=
  64

structure Message where
  content : String
  flags : Option UInt64 := none
  deriving DecidableEq, Repr

namespace Message

def visible (content : String) : Message :=
  ⟨content, none⟩

def ephemeral (content : String) : Message :=
  ⟨content, some ephemeralFlag⟩

def isFlagged (m : Message) : Bool :=
  m.flags.any (· != 0)

end Message

namespace Reply

inductive Kind where
  | pong
  | message
  | deferred
  | other (code : Int32)
  deriving DecidableEq, Repr

def Kind.ofCode (code : Int32) : Kind :=
  if code = 1 then .pong else if code = 4 then .message
  else if code = 5 then .deferred else .other code

def Kind.code : Kind → Int32
  | .pong => 1
  | .message => 4
  | .deferred => 5
  | .other code => code

end Reply

structure Reply where
  kind : Reply.Kind
  data : Option Message := none
  deriving DecidableEq, Repr

namespace Reply

def pong : Reply :=
  ⟨.pong, none⟩

/-- Promises a message; a placeholder is shown until it comes. -/
def deferred : Reply :=
  ⟨.deferred, none⟩

def message (m : Message) : Reply :=
  ⟨.message, some m⟩

end Reply

end DiceBot
