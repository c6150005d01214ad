import DiceBot.Json.Basic
import DiceBot.Text.Hex

namespace DiceBot.Json

inductive NumberPart where
  | minus
  | zero
  | whole
  | point
  | fraction
  | exponent
  | exponentSign
  | exponentDigits
  deriving DecidableEq, Repr

def NumberPart.step (p : NumberPart) (c : Char) : Option NumberPart :=
  match p with
  | .minus => if c = '0' then some .zero else if c.isDigit then some .whole else none
  | .zero => if c = '.' then some .point else if c = 'e' ∨ c = 'E' then some .exponent else none
  | .whole =>
    if c.isDigit then some .whole else if c = '.' then some .point
    else if c = 'e' ∨ c = 'E' then some .exponent else none
  | .point => if c.isDigit then some .fraction else none
  | .fraction =>
    if c.isDigit then some .fraction else if c = 'e' ∨ c = 'E' then some .exponent else none
  | .exponent =>
    if c = '+' ∨ c = '-' then some .exponentSign
    else if c.isDigit then some .exponentDigits else none
  | .exponentSign | .exponentDigits => if c.isDigit then some .exponentDigits else none

def NumberPart.isEnd : NumberPart → Bool
  | .zero | .whole | .fraction | .exponentDigits => true
  | _ => false

/-- Where a reading stands inside a string; in `unit n` it waits for `n + 1` hex digits. -/
inductive StringPart where
  | plain
  | escape
  | unit (missing : Nat)
  deriving DecidableEq, Repr

def isShortEscape (c : Char) : Bool :=
  c ∈ ['"', '\\', '/', 'b', 'f', 'n', 'r', 't']

/-- A byte inside a string that does not end it. Which characters the bytes and the escapes stand
for is not asked here. -/
def StringPart.step (p : StringPart) (b : UInt8) : Option StringPart :=
  match p with
  | .plain => if b < 0x20 then none else if b = 0x5C then some .escape else some .plain
  | .escape =>
    if isShortEscape (Char.ofUInt8 b) then some .plain else if b = 0x75 then some (.unit 3) else none
  | .unit missing =>
    match Text.Hex.digit? (Char.ofUInt8 b), missing with
    | none, _ => none
    | some _, 0 => some .plain
    | some _, missing + 1 => some (.unit missing)

inductive Scan where
  | between
  | word (next : UInt8) (rest : Bytes) (token : Token)
  | number (part : NumberPart) (read : Bytes)
  | string (part : StringPart) (read : Bytes)

structure Lexer where
  tokens : List Token := []
  scan : Scan := .between

namespace Lexer

def push (l : Lexer) (t : Token) : Lexer :=
  ⟨t :: l.tokens, .between⟩

def start (l : Lexer) (b : UInt8) : Option Lexer :=
  match Char.ofUInt8 b with
  | ' ' | '\t' | '\n' | '\r' => some l
  | '[' => some (l.push .openArray)
  | ']' => some (l.push .closeArray)
  | '\x7b' => some (l.push .openObject)
  | '\x7d' => some (l.push .closeObject)
  | ',' => some (l.push .comma)
  | ':' => some (l.push .colon)
  | '"' => some { l with scan := .string .plain [] }
  | 'n' => some { l with scan := .word 0x75 [0x6C, 0x6C] .null }
  | 't' => some { l with scan := .word 0x72 [0x75, 0x65] (.bool true) }
  | 'f' => some { l with scan := .word 0x61 [0x6C, 0x73, 0x65] (.bool false) }
  | '-' => some { l with scan := .number .minus [b] }
  | c => (NumberPart.minus.step c).map fun part => { l with scan := .number part [b] }

def feed (l : Lexer) (b : UInt8) : Option Lexer :=
  match l.scan with
  | .between => l.start b
  | .word next rest token =>
    if b = next then
      match rest with
      | [] => some (l.push token)
      | next :: rest => some { l with scan := .word next rest token }
    else none
  | .number part read =>
    match part.step (Char.ofUInt8 b) with
    | some part => some { l with scan := .number part (b :: read) }
    | none => if part.isEnd then (l.push (.number read.reverse)).start b else none
  | .string part read =>
    if part = .plain ∧ b = 0x22 then some (l.push (.string read.reverse))
    else (part.step b).map fun part => { l with scan := .string part (b :: read) }

def finish (l : Lexer) : Option (List Token) :=
  match l.scan with
  | .between => some l.tokens.reverse
  | .number part read =>
    if part.isEnd then some (l.push (.number read.reverse)).tokens.reverse else none
  | _ => none

end Lexer

def tokens? (bs : Bytes) : Option (List Token) :=
  bs.foldlM Lexer.feed {} >>= Lexer.finish

end DiceBot.Json
