import DiceBot.Text.Hex

namespace DiceBot.Toml

abbrev Parser (α : Type) :=
  List Char → Option (α × List Char)

def isSpace (c : Char) : Bool :=
  c == ' ' || c == '\t'

def isText (c : Char) : Bool :=
  c == '\t' || (0x20 ≤ c.toNat && c != '\x7f')

def ofCode? (n : Nat) : Option Char :=
  if n.isValidChar then some (Char.ofNat n) else none

def shortEscape? (c : Char) : Option Char :=
  match c with
  | 'b' => some '\x08'
  | 't' => some '\t'
  | 'n' => some '\n'
  | 'f' => some '\x0c'
  | 'r' => some '\r'
  | '"' => some '"'
  | '\\' => some '\\'
  | _ => none

/-- Where a reading stands in an escape; so many and one more hex digits are missing. -/
inductive Escape where
  | started
  | code (missing value : Nat)

def Escape.step (e : Escape) (c : Char) : Option (Char ⊕ Escape) :=
  match e with
  | .started =>
    if c = 'u' then some (.inr (.code 3 0))
    else if c = 'U' then some (.inr (.code 7 0))
    else (shortEscape? c).map .inl
  | .code missing value =>
    match Text.Hex.digit? c, missing with
    | none, _ => none
    | some d, 0 => (ofCode? (16 * value + d)).map .inl
    | some d, missing + 1 => some (.inr (.code missing (16 * value + d)))

def basicOnto (done : List Char) : Option Escape → Parser String
  | _, [] => none
  | none, c :: cs =>
    if c = '"' then some (String.ofList done.reverse, cs)
    else if c = '\\' then basicOnto done (some .started) cs
    else if isText c then basicOnto (c :: done) none cs
    else none
  | some e, c :: cs =>
    match e.step c with
    | some (.inl d) => basicOnto (d :: done) none cs
    | some (.inr e) => basicOnto done (some e) cs
    | none => none

def literalOnto (done : List Char) : Parser String
  | [] => none
  | c :: cs =>
    if c = '\'' then some (String.ofList done.reverse, cs)
    else if isText c then literalOnto (c :: done) cs
    else none

inductive LinesPlace where
  | plain
  | carriageReturn
  | quotes (more : Nat)
  | escape (e : Escape)
  | lineEnd
  | lineEndReturn
  | trimming
  | trimmingReturn

def LinesPlace.plainStep (quote : Char) (done : List Char) (c : Char) :
    Option (List Char × LinesPlace) :=
  if c = quote then some (done, .quotes 0)
  else if c = '\\' ∧ quote = '"' then some (done, .escape .started)
  else if c = '\n' then some ('\n' :: done, .plain)
  else if c = '\r' then some (done, .carriageReturn)
  else if isText c then some (c :: done, .plain)
  else none

/-- The characters read after one more character, the latest first; a line ends in one line feed
whichever way it is written. Three quotes end the string, and two more may stand before them. -/
def LinesPlace.step (quote : Char) (done : List Char) (p : LinesPlace) (c : Char) :
    Option (List Char × LinesPlace) :=
  match p with
  | .plain => plainStep quote done c
  | .carriageReturn => if c = '\n' then some ('\n' :: done, .plain) else none
  | .quotes more =>
    if c = quote then some (done, .quotes (more + 1))
    else plainStep quote (List.replicate (more + 1) quote ++ done) c
  | .escape e =>
    match e, isSpace c, c with
    | .started, true, _ => some (done, .lineEnd)
    | .started, _, '\n' => some (done, .trimming)
    | .started, _, '\r' => some (done, .lineEndReturn)
    | e, _, _ =>
      match e.step c with
      | some (.inl d) => some (d :: done, .plain)
      | some (.inr e) => some (done, .escape e)
      | none => none
  | .lineEnd =>
    if isSpace c then some (done, .lineEnd)
    else if c = '\n' then some (done, .trimming)
    else if c = '\r' then some (done, .lineEndReturn)
    else none
  | .lineEndReturn | .trimmingReturn => if c = '\n' then some (done, .trimming) else none
  | .trimming =>
    if isSpace c ∨ c = '\n' then some (done, .trimming)
    else if c = '\r' then some (done, .trimmingReturn)
    else plainStep quote done c

def LinesPlace.closed? (quote : Char) (done : List Char) (p : LinesPlace) (c : Option Char) :
    Option String :=
  match p with
  | .quotes more =>
    if 2 ≤ more ∧ (c ≠ some quote ∨ more = 4) then
      some (String.ofList (List.replicate (more - 2) quote ++ done).reverse)
    else none
  | _ => none

def linesOnto (quote : Char) (done : List Char) (p : LinesPlace) : Parser String
  | [] => (p.closed? quote done none).map fun s => (s, [])
  | c :: cs =>
    match p.closed? quote done (some c) with
    | some s => some (s, c :: cs)
    | none =>
      match p.step quote done c with
      | some (done, p) => linesOnto quote done p cs
      | none => none

def dropLineEnd : List Char → List Char
  | '\n' :: cs => cs
  | '\r' :: '\n' :: cs => cs
  | cs => cs

def string : Parser String
  | '"' :: '"' :: '"' :: cs => linesOnto '"' [] .plain (dropLineEnd cs)
  | '\'' :: '\'' :: '\'' :: cs => linesOnto '\'' [] .plain (dropLineEnd cs)
  | '"' :: cs => basicOnto [] none cs
  | '\'' :: cs => literalOnto [] cs
  | _ => none

end DiceBot.Toml
