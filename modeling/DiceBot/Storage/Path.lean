import DiceBot.Text.Pieces

namespace DiceBot.Storage

structure Path where
  text : String
  deriving DecidableEq, Repr

namespace Path

def isAbsolute (p : Path) : Bool :=
  p.text.toList.head? = some '/'

def endsWithSlash (p : Path) : Bool :=
  p.text.toList.getLast? = some '/'

def names (p : Path) : List String :=
  ((Text.pieces (· == '/') p.text.toList).filter fun n => !n.isEmpty).map String.ofList

def size (p : Path) : Nat :=
  p.text.utf8ByteSize

def isHere (p : Path) : Bool :=
  p.text.isEmpty

def ofNames (isAbsolute : Bool) (names : List String) : Path :=
  ⟨(if isAbsolute then "/" else "") ++ String.intercalate "/" names⟩

/-- The names that count: a dot only where a relative path starts with it. -/
def components (p : Path) : List String :=
  match p.isAbsolute, p.names with
  | false, "." :: names => "." :: names.filter (· != ".")
  | _, names => names.filter (· != ".")

def parents (p : Path) : List Path :=
  let names := p.components
  (List.range names.length).reverse.filterMap fun n =>
    if n = 0 then none else some (ofNames p.isAbsolute (names.take n))

/-- The path of a name in a directory; an absolute name leads there from anywhere. -/
def join (directory name : String) : String :=
  if name.toList.head? = some '/' ∨ directory.isEmpty then name
  else if directory.toList.getLast? = some '/' then directory ++ name
  else directory ++ "/" ++ name

end Path

end DiceBot.Storage
