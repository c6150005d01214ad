import DiceBot.Json.Codec

namespace DiceBot.Json

/-- One member of an object type. `absent` is what a missing member stands for, and a value that
`write` sends to `none` is left out. -/
structure Field (α : Type) where
  name : String
  read : Json → Option α
  write : α → Option Json
  absent : Option α

namespace Field

variable {α : Type}

def required (name : String) (c : Codec α) : Field α :=
  ⟨name, c.read, fun a => some (c.write a), none⟩

def withDefault (name : String) (c : Codec α) (a : α) : Field α :=
  ⟨name, c.read, fun a => some (c.write a), some a⟩

def nullable (name : String) (c : Codec α) : Field (Option α) :=
  ⟨name, c.nullable.read, fun a => some (c.nullable.write a), some none⟩

def optional (name : String) (c : Codec α) : Field (Option α) :=
  ⟨name, c.nullable.read, fun a => a.map c.write, some none⟩

end Field

inductive Shape : Type → Type 1 where
  | done : Shape Unit
  | field {α β : Type} (f : Field α) (rest : Shape β) : Shape (α × β)

namespace Shape

/-- A member may stand once or, if it has a value without that, not at all; two are one too many,
whatever they hold. -/
def readMember {α : Type} (f : Field α) (members : List (String × Json)) : Option α :=
  match members.filter fun m => m.1 == f.name with
  | [] => f.absent
  | [(_, v)] => f.read v
  | _ => none

def readMembers : {α : Type} → Shape α → List (String × Json) → Option α
  | _, .done, _ => some ()
  | _, .field f rest, members => do
    let a ← readMember f members
    let b ← rest.readMembers members
    return (a, b)

def readItem {α : Type} (f : Field α) : List Json → Option α
  | [] => f.absent
  | v :: _ => f.read v

/-- The values alone, in the order of the members; only values that may be missing may be left out
at the end, and there may be none beyond it. -/
def readItems : {α : Type} → Shape α → List Json → Option α
  | _, .done, [] => some ()
  | _, .done, _ :: _ => none
  | _, .field f rest, items => do
    let a ← readItem f items
    let b ← rest.readItems items.tail
    return (a, b)

def readKeys (members : List Member) : Option (List (String × Json)) :=
  members.mapM fun (key, v) => (textOf? key).map fun name => (name, v)

def read {α : Type} (s : Shape α) : Json → Option α
  | .object members => readKeys members >>= s.readMembers
  | .array items => s.readItems items
  | _ => none

def nameSpelling (name : String) : Bytes :=
  name.toList.flatMap escapeChar

def writeMembers : {α : Type} → Shape α → α → List Member
  | _, .done, _ => []
  | _, .field f rest, (a, b) =>
    ((f.write a).map fun v => (nameSpelling f.name, v)).toList ++ rest.writeMembers b

def codec {α β : Type} (s : Shape α) (build : α → β) (parts : β → α) : Codec β where
  read v := (s.read v).map build
  write b := .object (s.writeMembers (parts b))

end Shape

end DiceBot.Json
