import DiceBot.Web.Domain.Direction
import DiceBot.Web.Domain.Joining
import DiceBot.Web.Domain.Mapping
import DiceBot.Web.Domain.Punycode

namespace DiceBot.Web.Domain

open Text Punycode

def readLimit : Nat :=
  2000

def writeLimit : Nat :=
  1000

def encodedMark : List Char :=
  "xn--".toList

def labelText? (label : List Char) : Option (List Char) :=
  if encodedMark.isPrefixOf label then
    let code := label.drop encodedMark.length
    if readLimit < code.length then none
    else (decode? code).filter fun text => normalize? text = some text
  else some label

def isSound (text : List Char) : Bool :=
  !text.head?.any isMark && joinersFit [] text && (text.all isAscii || text.length ≤ writeLimit)

def isOrderly (texts : List (List Char)) : Bool :=
  let directions := texts.map fun text => text.map Direction.of
  !(directions.any fun ds => ds.any Direction.isOpposed) || directions.all Direction.isOrderly

def asciiLabel (label : List Char) : List Char :=
  if label.all isAscii then label else encodedMark ++ encode label

/-- The name in ASCII that a name is looked up by. -/
def toAscii? (name : List Char) : Option (List Char) := do
  let normal ← normalize? name
  let labels := pieces (· == '.') normal
  let texts ← labels.mapM labelText?
  if texts.all isSound && isOrderly texts then
    return List.intercalate ['.'] (labels.map asciiLabel)
  else none

end DiceBot.Web.Domain
