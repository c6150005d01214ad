import DiceBot.Json.Lexer

namespace DiceBot.Json

inductive Frame where
  | array (items : List Json)
  | object (members : List Member) (key : Bytes)

/-- What a text read up to here leaves open, innermost frame first. -/
inductive Reading where
  | value (frames : List Frame)
  | firstItem (frames : List Frame)
  | firstMember (frames : List Frame)
  | member (members : List Member) (frames : List Frame)
  | colon (members : List Member) (key : Bytes) (frames : List Frame)
  | after (v : Json) (frames : List Frame)

namespace Reading

def start (frames : List Frame) : Token → Option Reading
  | .null => some (.after .null frames)
  | .bool b => some (.after (.bool b) frames)
  | .number spelling => some (.after (.number spelling) frames)
  | .string spelling => some (.after (.string spelling) frames)
  | .openArray => some (.firstItem frames)
  | .openObject => some (.firstMember frames)
  | _ => none

def feed : Reading → Token → Option Reading
  | .value frames, t => start frames t
  | .firstItem frames, .closeArray => some (.after (.array []) frames)
  | .firstItem frames, t => start (.array [] :: frames) t
  | .firstMember frames, .closeObject => some (.after (.object []) frames)
  | .firstMember frames, .string key => some (.colon [] key frames)
  | .member members frames, .string key => some (.colon members key frames)
  | .colon members key frames, .colon => some (.value (.object members key :: frames))
  | .after v (.array items :: frames), .comma => some (.value (.array (v :: items) :: frames))
  | .after v (.array items :: frames), .closeArray =>
    some (.after (.array (v :: items).reverse) frames)
  | .after v (.object members key :: frames), .comma => some (.member ((key, v) :: members) frames)
  | .after v (.object members key :: frames), .closeObject =>
    some (.after (.object ((key, v) :: members).reverse) frames)
  | _, _ => none

end Reading

def ofTokens? (ts : List Token) : Option Json :=
  match ts.foldlM Reading.feed (.value []) with
  | some (.after v []) => some v
  | _ => none

/-- Reads a text that holds one value. Neither reading is recursive, so values may nest as deep as
the text is long. -/
def read? (bs : Bytes) : Option Json :=
  tokens? bs >>= ofTokens?

end DiceBot.Json
