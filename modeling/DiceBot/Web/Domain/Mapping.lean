import DiceBot.Text.Composition
import DiceBot.Text.Pieces
import DiceBot.Web.Domain.Barred
import DiceBot.Web.Domain.Letter
import DiceBot.Web.Domain.Word

namespace DiceBot.Web.Domain

open Text

def letter? (c : Char) : Option Char := do
  let (start, letters) ← lastAt? c.toNat none letterRuns
  letters.toList[c.toNat - start]?

def word? (c : Char) : Option (List Char) := do
  let (start, words) ← lastAt? c.toNat none wordRuns
  (pieces (· == '|') words.toList)[c.toNat - start]?

/-- What a character of a name stands for; most stand for themselves, and some may not be there. -/
def meaning? (c : Char) : Option (List Char) :=
  match letter? c, word? c with
  | some d, _ => some [d]
  | none, some ds => some ds
  | none, none =>
    if skippedRanges.has c then some [] else if barredRanges.has c then none else some [c]

def normalize? (cs : List Char) : Option (List Char) :=
  (cs.mapM meaning?).map fun meanings => compose meanings.flatten

end DiceBot.Web.Domain
