import DiceBot.Dice.Term
import DiceBot.Text.Blank
import DiceBot.Text.Decimal
import DiceBot.Text.Pieces

namespace DiceBot.Dice.Notation

open Text Decimal

inductive Place where
  | start
  | count
  | die
  | sides
  | afterGroup
  | plus
  | number
  | minus
  | modifier
  | afterModifier
  | next
  deriving DecidableEq, Repr

/-- After `+` a number may be a modifier or the count of another group; what follows it decides.
A modifier may only be followed by `+` and a group. -/
def Place.step (p : Place) (c : Char) : Option Place :=
  match p with
  | .start => if isBlank c then some .start else if isLeadingDigit c then some .count else none
  | .count => if c.isDigit then some .count else if c = 'd' then some .die else none
  | .die => if isLeadingDigit c then some .sides else none
  | .sides =>
    if c.isDigit then some .sides else if isBlank c then some .afterGroup
    else if c = '+' then some .plus else if c = '-' then some .minus else none
  | .afterGroup =>
    if isBlank c then some .afterGroup
    else if c = '+' then some .plus else if c = '-' then some .minus else none
  | .plus => if isBlank c then some .plus else if isLeadingDigit c then some .number else none
  | .number =>
    if c.isDigit then some .number else if c = 'd' then some .die
    else if isBlank c then some .afterModifier else if c = '+' then some .next else none
  | .minus => if isBlank c then some .minus else if isLeadingDigit c then some .modifier else none
  | .modifier =>
    if c.isDigit then some .modifier else if isBlank c then some .afterModifier
    else if c = '+' then some .next else none
  | .afterModifier =>
    if isBlank c then some .afterModifier else if c = '+' then some .next else none
  | .next => if isBlank c then some .next else if isLeadingDigit c then some .count else none

def Place.isEnd : Place → Bool
  | .sides | .afterGroup | .number | .modifier | .afterModifier => true
  | _ => false

/-- Whether a text is an expression: groups such as `2d6` joined by `+`, each with at most one
signed modifier, with blanks around the signs and at both ends but never inside a group. -/
def isExpression (cs : List Char) : Bool :=
  match cs.foldlM Place.step .start with
  | some p => p.isEnd
  | none => false

def normalize (cs : List Char) : List Char :=
  cs.filter fun c => !isBlank c

def isSign (c : Char) : Bool :=
  c = '+' || c = '-'

def signs (cs : List Char) : List Char :=
  cs.filter isSign

def signedPieces (cs : List Char) : List (Option Char × List Char) :=
  (none :: (signs cs).map some).zip (pieces isSign cs)

def group? (piece : List Char) : Option (List Char × List Char) :=
  match piece.dropWhile (· != 'd') with
  | [] => none
  | _ :: sides =>
    let count := piece.takeWhile (· != 'd')
    if isNumeral count && isNumeral sides then some (count, sides) else none

inductive Error where
  | unrecognized (raw : String)
  | outOfRange (numeral : String)
  deriving DecidableEq, Repr

def Error.message : Error → String
  | .unrecognized raw => "unrecognized dice notation: " ++ raw
  | .outOfRange numeral => "number out of range in dice notation: " ++ numeral

def word (numeral : List Char) : Except Error UInt32 :=
  match numeralUpTo 4294967295 numeral with
  | some n => .ok (UInt32.ofNat n)
  | none => .error (.outOfRange (String.ofList numeral))

def modifier (sign : Option Char) (numeral : List Char) : Except Error Int64 :=
  if sign = some '-' then
    match numeralUpTo 9223372036854775808 numeral with
    | some n => .ok (Int64.ofInt (-n))
    | none => .error (.outOfRange (String.ofList ('-' :: numeral)))
  else
    match numeralUpTo 9223372036854775807 numeral with
    | some n => .ok (Int64.ofNat n)
    | none => .error (.outOfRange (String.ofList numeral))

/-- Reads one piece onto the terms before it, the latest first: a group is a new term, a bare
numeral is the modifier of the latest one. -/
def attach (raw : String) (terms : List Term) (piece : Option Char × List Char) :
    Except Error (List Term) :=
  match group? piece.2 with
  | some (count, sides) => do
    let count ← word count
    let sides ← word sides
    return ⟨count, sides, none⟩ :: terms
  | none => do
    let m ← modifier piece.1 piece.2
    match terms with
    | term :: earlier => return { term with modifier := some m } :: earlier
    | [] => throw (.unrecognized raw)

/-- Reads a dice expression. The text is checked against the grammar first, so that the pieces
it is then cut into are groups and numerals only. -/
def parse (raw : String) : Except Error Expression :=
  if isExpression raw.toList then
    List.reverse <$> (signedPieces (normalize raw.toList)).foldlM (attach raw) []
  else
    .error (.unrecognized raw)

end DiceBot.Dice.Notation
