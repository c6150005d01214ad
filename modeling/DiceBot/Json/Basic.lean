import DiceBot.Text.Utf8

namespace DiceBot

/-- A JSON value. Numbers and strings keep their spelling (a string without its quotes), so that a
value nobody asks for is held to the syntax alone. -/
inductive Json where
  | null
  | bool (b : Bool)
  | number (spelling : Bytes)
  | string (spelling : Bytes)
  | array (items : List Json)
  | object (members : List (Bytes × Json))
  deriving Inhabited

namespace Json

abbrev Member := Bytes × Json

inductive Token where
  | openArray
  | closeArray
  | openObject
  | closeObject
  | comma
  | colon
  | null
  | bool (b : Bool)
  | number (spelling : Bytes)
  | string (spelling : Bytes)
  deriving DecidableEq, Repr

def Token.spell : Token → Bytes
  | .openArray => [0x5B]
  | .closeArray => [0x5D]
  | .openObject => [0x7B]
  | .closeObject => [0x7D]
  | .comma => [0x2C]
  | .colon => [0x3A]
  | .null => Text.Utf8.ofString "null"
  | .bool true => Text.Utf8.ofString "true"
  | .bool false => Text.Utf8.ofString "false"
  | .number spelling => spelling
  | .string spelling => 0x22 :: (spelling ++ [0x22])

mutual

def tokens : Json → List Token
  | .null => [.null]
  | .bool b => [.bool b]
  | .number spelling => [.number spelling]
  | .string spelling => [.string spelling]
  | .array items => .openArray :: (itemTokens items ++ [.closeArray])
  | .object members => .openObject :: (memberTokens members ++ [.closeObject])

def itemTokens : List Json → List Token
  | [] => []
  | [v] => v.tokens
  | v :: vs => v.tokens ++ .comma :: itemTokens vs

def memberTokens : List Member → List Token
  | [] => []
  | [(k, v)] => .string k :: .colon :: v.tokens
  | (k, v) :: ms => .string k :: .colon :: (v.tokens ++ .comma :: memberTokens ms)

end

def write (v : Json) : Bytes :=
  v.tokens.flatMap Token.spell

end Json

end DiceBot
