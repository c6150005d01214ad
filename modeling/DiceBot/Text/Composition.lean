import DiceBot.Text.CombiningClass
import DiceBot.Text.Composite

namespace DiceBot.Text

/-- Hangul syllables are made of a lead, a vowel and perhaps a tail, in the order of their code
points. -/
def firstSyllable : Nat :=
  0xAC00

def firstLead : Nat :=
  0x1100

def firstVowel : Nat :=
  0x1161

def noTail : Nat :=
  0x11A7

def leadCount : Nat :=
  19

def vowelCount : Nat :=
  21

def tailCount : Nat :=
  28

def syllableParts? (c : Char) : Option (Char × Char) :=
  let n := c.toNat - firstSyllable
  if c.toNat < firstSyllable ∨ leadCount * vowelCount * tailCount ≤ n then none
  else if n % tailCount = 0 then
    some (Char.ofNat (firstLead + n / tailCount / vowelCount),
      Char.ofNat (firstVowel + n / tailCount % vowelCount))
  else some (Char.ofNat (c.toNat - n % tailCount), Char.ofNat (noTail + n % tailCount))

def syllableOf? (a b : Char) : Option Char :=
  let lead := a.toNat - firstLead
  let vowel := b.toNat - firstVowel
  let tail := b.toNat - noTail
  if firstLead ≤ a.toNat ∧ lead < leadCount ∧ firstVowel ≤ b.toNat ∧ vowel < vowelCount then
    some (Char.ofNat (firstSyllable + (lead * vowelCount + vowel) * tailCount))
  else if noTail < b.toNat ∧ tail < tailCount ∧
      (syllableParts? a).any fun p => firstVowel ≤ p.2.toNat ∧ p.2.toNat < firstVowel + vowelCount then
    some (Char.ofNat (a.toNat + tail))
  else none

def parts? (c : Char) : Option (Char × Char) :=
  match syllableParts? c with
  | some parts => some parts
  | none => (composites.find? fun e => e.1 == c).map (·.2)

def compositeOf? (a b : Char) : Option Char :=
  match syllableOf? a b with
  | some c => some c
  | none => (composites.find? fun e => e.2.1 == a && e.2.2 == b).map (·.1)

def partsDepth : Nat :=
  4

def decomposeChar : Nat → Char → List Char
  | 0, c => [c]
  | depth + 1, c =>
    match parts? c with
    | some (a, b) => decomposeChar depth a ++ [b]
    | none => [c]

abbrev Classed :=
  Char × Nat

def classed (c : Char) : Classed :=
  (c, combiningClass c)

/-- Puts a mark behind the marks of its own and of lower classes, in a text that stands backwards. -/
def insertMark (m : Classed) : List Classed → List Classed
  | [] => [m]
  | d :: ds => if m.2 ≠ 0 ∧ m.2 < d.2 then d :: insertMark m ds else m :: d :: ds

def decompose (cs : List Char) : List Classed :=
  (((cs.flatMap (decomposeChar partsDepth)).map classed).foldl (fun ds m => insertMark m ds) []).reverse

structure Composing where
  done : List Char := []
  base : Option Char := none
  marks : List Classed := []

namespace Composing

def text (s : Composing) : List Char :=
  s.marks.map (·.1) ++ s.base.toList ++ s.done

/-- A character is taken into the base if no mark between them is of its class or a higher one. -/
def feed (s : Composing) (m : Classed) : Composing :=
  let isBlocked := s.marks.head?.any fun last => m.2 ≤ last.2
  match if isBlocked then none else s.base.bind fun b => compositeOf? b m.1 with
  | some c => { s with base := some c }
  | none => if m.2 = 0 then ⟨s.text, some m.1, []⟩ else { s with marks := m :: s.marks }

end Composing

/-- A text in which every character that can be written as one is (Unicode's form NFC), for texts
without those that are taken apart for good. -/
def compose (cs : List Char) : List Char :=
  ((decompose cs).foldl Composing.feed {}).text.reverse

end DiceBot.Text
