import DiceBot.Storage.Basic

namespace DiceBot.Storage

inductive Entry where
  | directory (children : List (String × Entry))
  | file (content : Bytes)

abbrev Location := List String

namespace Entry

def get? : Entry → Location → Option Entry
  | e, [] => some e
  | .directory children, name :: names => children.lookup name >>= fun e => e.get? names
  | .file _, _ :: _ => none

def setChild (name : String) (e : Entry) : List (String × Entry) → List (String × Entry)
  | [] => [(name, e)]
  | c :: cs => if c.1 = name then (name, e) :: cs else c :: setChild name e cs

theorem lookup_setChild (name other : String) (e : Entry) (cs : List (String × Entry)) :
    (setChild name e cs).lookup other = if other = name then some e else cs.lookup other := by
  induction cs with
  | nil =>
    by_cases h : other = name <;> simp_all [setChild, List.lookup_cons, beq_eq_false_iff_ne.mpr]
  | cons c cs ih =>
    obtain ⟨k, d⟩ := c
    by_cases hk : k = name <;> by_cases h : other = k <;> by_cases hn : other = name <;>
      simp_all [setChild, List.lookup_cons, beq_eq_false_iff_ne.mpr]

/-- Sets the entry at a location, with the directories that lead there. A file leads nowhere. -/
def set : Entry → Location → Entry → Entry
  | _, [], new => new
  | .directory children, name :: names, new =>
    let child := (children.lookup name).getD (.directory [])
    .directory (setChild name (child.set names new) children)
  | .file content, _ :: _, _ => .file content

end Entry

structure Tree where
  root : Entry
  workingDirectory : Location := []

/-- Where a walk through a tree stands: the entry there, and the directories that it went through
with the names that it took, the latest first. -/
structure Place where
  entry : Entry
  outer : List (Entry × String) := []

namespace Place

def location (p : Place) : Location :=
  (p.outer.map (·.2)).reverse

def up (p : Place) : Place :=
  match p.outer with
  | [] => p
  | (directory, _) :: outer => ⟨directory, outer⟩

end Place

def nameLimit : Nat :=
  255

def pathLimit : Nat :=
  4095

def childNamed? (children : List (String × Entry)) (name : String) : Except Error (Option Entry) :=
  if nameLimit < name.utf8ByteSize then .error .nameTooLong else .ok (children.lookup name)

def walk : Place → List String → Except Error Place
  | p, [] => .ok p
  | p, name :: names =>
    match p.entry with
    | .file _ => .error .notDirectory
    | .directory children =>
      if name = "." then walk p names
      else if name = ".." then walk p.up names
      else do
        match ← childNamed? children name with
        | none => throw .notFound
        | some e => walk ⟨e, (p.entry, name) :: p.outer⟩ names

namespace Tree

def get? (t : Tree) (l : Location) : Option Entry :=
  t.root.get? l

def set (t : Tree) (l : Location) (e : Entry) : Tree :=
  { t with root := t.root.set l e }

def follow (t : Tree) (p : Path) (names : List String) : Except Error Place :=
  if pathLimit < p.size then .error .nameTooLong
  else walk ⟨t.root, []⟩ ((if p.isAbsolute then [] else t.workingDirectory) ++ names)

/-- The place that a path names; only a directory may be named with a slash at the end. -/
def locate (t : Tree) (p : Path) : Except Error Place :=
  if p.isHere then .error .notFound
  else t.follow p (if p.endsWithSlash then p.names ++ ["."] else p.names)

def isPresent (t : Tree) (p : Path) : Bool :=
  (t.locate p).isOk

def isDirectory (t : Tree) (p : Path) : Bool :=
  match t.locate p with
  | .ok ⟨.directory _, _⟩ => true
  | _ => false

def followToParent (t : Tree) (p : Path) : Except Error (Location × List (String × Entry)) := do
  let parent ← t.follow p p.names.dropLast
  match parent.entry with
  | .directory children => return (parent.location, children)
  | .file _ => throw .notDirectory

def isDots (name : String) : Bool :=
  name == "." || name == ".."

def makeDirectory (t : Tree) (p : Path) : Except Error Tree := do
  let (parent, children) ← t.followToParent p
  match p.names.getLast? with
  | none => throw (if p.isAbsolute then .exists else .notFound)
  | some name =>
    if isDots name then throw .exists
    match ← childNamed? children name with
    | some _ => throw .exists
    | none => return t.set (parent ++ [name]) (.directory [])

def write (t : Tree) (p : Path) (content : Bytes) : Except Error Tree := do
  let (parent, children) ← t.followToParent p
  match p.names.getLast? with
  | none => throw (if p.isAbsolute then .isDirectory else .notFound)
  | some name =>
    if p.endsWithSlash || isDots name then throw .isDirectory
    match ← childNamed? children name with
    | some (.directory _) => throw .isDirectory
    | _ => return t.set (parent ++ [name]) (.file content)

def read (t : Tree) (p : Path) : Except Error Bytes := do
  match (← t.locate p).entry with
  | .file content => return content
  | .directory _ => throw .isDirectory

end Tree

def changing (f : Tree → Except Error Tree) : ExceptT Error (StateM Tree) Unit :=
  ExceptT.mk fun t =>
    match f t with
    | .ok t => (.ok (), t)
    | .error e => (.error e, t)

def inTree : Storage (StateM Tree) where
  isPresent p := do return (← get).isPresent p
  isDirectory p := do return (← get).isDirectory p
  makeDirectory p := changing fun t => t.makeDirectory p
  write p content := changing fun t => t.write p content
  read p := ExceptT.mk fun t => (t.read p, t)

end DiceBot.Storage
