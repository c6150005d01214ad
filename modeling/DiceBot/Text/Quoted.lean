import DiceBot.Text.Hex
import DiceBot.Text.Hidden

namespace DiceBot.Text

def hexDigits (n : Nat) : List Char :=
  Nat.toDigits 16 n

/-- How a character stands between quotes: hidden characters are named by their number. -/
def quoteChar (c : Char) : List Char :=
  match c with
  | '"' => ['\\', '"']
  | '\\' => ['\\', '\\']
  | '\n' => ['\\', 'n']
  | '\r' => ['\\', 'r']
  | '\t' => ['\\', 't']
  | '\x00' => ['\\', '0']
  | c => if isHidden c then ['\\', 'u', '\x7b'] ++ hexDigits c.toNat ++ ['\x7d'] else [c]

def quoted (s : String) : String :=
  String.ofList ('"' :: (s.toList.flatMap quoteChar ++ ['"']))

end DiceBot.Text
