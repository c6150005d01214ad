import DiceBot.Toml.Scalar

namespace DiceBot.Toml

def skipSpace (cs : List Char) : List Char :=
  cs.dropWhile isSpace

def skipLines (inComment : Bool) : List Char → Option (List Char)
  | [] => some []
  | '\r' :: '\n' :: cs => skipLines false cs
  | c :: cs =>
    if c = '\n' then skipLines false cs
    else if inComment then if isText c then skipLines true cs else none
    else if isSpace c then skipLines false cs
    else if c = '#' then skipLines true cs
    else some (c :: cs)

def endOfLine (cs : List Char) : Option (List Char) :=
  let cs := skipSpace cs
  let cs := if cs.head? = some '#' then cs.tail.dropWhile isText else cs
  match cs with
  | [] => some []
  | '\n' :: cs => some cs
  | '\r' :: '\n' :: cs => some cs
  | _ => none

def isKeyChar (c : Char) : Bool :=
  c.isAlphanum || c == '_' || c == '-'

def simpleKey : Parser String
  | '"' :: cs => basicOnto [] none cs
  | '\'' :: cs => literalOnto [] cs
  | cs =>
    let key := cs.takeWhile isKeyChar
    if key.isEmpty then none else some (String.ofList key, cs.dropWhile isKeyChar)

def depthLimit : Nat :=
  79

def keysOnto (done : List String) : Nat → Parser (List String × String)
  | 0, _ => none
  | more + 1, cs =>
    match simpleKey (skipSpace cs) with
    | none => none
    | some (key, cs) =>
      match skipSpace cs with
      | '.' :: cs => keysOnto (key :: done) more cs
      | rest => some ((done.reverse, key), rest)

def key : Parser (List String × String) :=
  keysOnto [] depthLimit

def pair (value : Parser Node) : Parser ((List String × String) × Node) := fun cs =>
  match key cs with
  | some (k, '=' :: cs) => (value (skipSpace cs)).map fun (v, rest) => ((k, v), rest)
  | _ => none

/-- The items up to the closing bracket, the latest first. Every item takes a character at least,
so `more` need not be above the length of the text. -/
def itemsOnto (value : Parser Node) (done : List Node) : Nat → Parser (List Node)
  | 0, _ => none
  | more + 1, cs =>
    match skipLines false cs with
    | some (']' :: rest) => some (done.reverse, rest)
    | some cs =>
      match value cs with
      | none => none
      | some (v, cs) =>
        match skipLines false cs with
        | some (',' :: cs) => itemsOnto value (v :: done) more cs
        | some (']' :: rest) => some ((v :: done).reverse, rest)
        | _ => none
    | none => none

def pairsOnto (value : Parser Node) (es : Entries) : Nat → Parser Entries
  | 0, _ => none
  | more + 1, cs =>
    match pair value cs with
    | none => none
    | some (((path, key), v), cs) =>
      match es.insert path key v with
      | none => none
      | some es =>
        match skipSpace cs with
        | ',' :: cs => pairsOnto value es more cs
        | '\x7d' :: rest => some (es, rest)
        | _ => none

def braces (value : Parser Node) : Parser Node := fun cs =>
  match skipSpace cs with
  | '\x7d' :: rest => some (.table .braces [], rest)
  | cs => (pairsOnto value [] (cs.length + 1) cs).map fun (es, rest) => (.table .braces es, rest)

def value : Nat → Parser Node
  | 0, '[' :: _ => none
  | 0, '\x7b' :: _ => none
  | deeper + 1, '[' :: cs =>
    (itemsOnto (value deeper) [] (cs.length + 1) cs).map fun (vs, rest) => (.array vs, rest)
  | deeper + 1, '\x7b' :: cs => braces (value deeper) cs
  | _, cs => scalar cs

def line (d : Document) (cs : List Char) : Option (Document × List Char) :=
  match skipSpace cs with
  | '[' :: '[' :: cs =>
    match key cs with
    | some ((path, key), ']' :: ']' :: rest) => do return (← d.openElement path key, ← endOfLine rest)
    | _ => none
  | '[' :: cs =>
    match key cs with
    | some ((path, key), ']' :: rest) => do return (← d.openTable path key, ← endOfLine rest)
    | _ => none
  | cs =>
    if cs.head?.all fun c => c == '#' || c == '\n' || c == '\r' then
      (endOfLine cs).map fun rest => (d, rest)
    else do
      let (((path, key), v), rest) ← pair (value depthLimit) cs
      return (← d.enter path key v, ← endOfLine rest)

def lines (d : Document) : Nat → List Char → Option Document
  | 0, _ => none
  | _ + 1, [] => some d
  | more + 1, cs =>
    match line d cs with
    | some (d, rest) => lines d more rest
    | none => none

/-- Reads a document. A byte order mark may stand before it. -/
def read? (text : String) : Option Entries :=
  let cs := match text.toList with
    | '\uFEFF' :: cs => cs
    | cs => cs
  (lines {} (cs.length + 1) cs).map (·.entries)

end DiceBot.Toml
