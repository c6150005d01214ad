import DiceBot.Proofs.Json.Members
import DiceBot.Proofs.Json.Suffix

namespace DiceBot.Json

inductive Schema where
  | plain
  | list (item : Schema)
  | record (fields : List (String × Schema))

/-- A place for a record in values of a schema: `fill` puts what is there into the rest of the
value. A record may be an object or the array of its values. -/
inductive Level (fields : List (String × Schema)) : Schema → (Json → Json) → Prop
  | top : Level fields (.record fields) id
  | item {s : Schema} {fill : Json → Json} (before after : List Json) (h : Level fields s fill) :
      Level fields (.list s) fun v => .array (before ++ fill v :: after)
  | member {outer : List (String × Schema)} {name : String} {s : Schema} {key : Bytes}
      {fill : Json → Json} (before after : List Member) (hname : (name, s) ∈ outer)
      (hkey : textOf? key = some name) (h : Level fields s fill) :
      Level fields (.record outer) fun v => .object (before ++ (key, fill v) :: after)
  | position {outer : List (String × Schema)} {name : String} {s : Schema}
      {fill : Json → Json} (before after : List Json)
      (hname : outer[before.length]? = some (name, s)) (h : Level fields s fill) :
      Level fields (.record outer) fun v => .array (before ++ fill v :: after)

theorem Level.isCompound {fields : List (String × Schema)} {s : Schema} {fill : Json → Json}
    (h : Level fields s fill) {v : Json} (hv : v.isCompound = true) :
    (fill v).isCompound = true := by
  cases h with
  | top => exact hv
  | _ => rfl

variable {α β γ : Type}

/-- What `read` makes of an object or an array is what it makes of a record that has these names, of
which no two are the same. -/
def ReadsRecord (names : List String) (read : Json → Option α) : Prop :=
  names.Nodup ∧ ∃ (β : Type) (s : Shape β) (next : β → Option α), s.names = names ∧
    ∀ v, v.isCompound = true → read v = s.read v >>= next

namespace ReadsRecord

variable {names : List String} {read : Json → Option α}

theorem congr {other : Json → Option α} (h : ReadsRecord names read)
    (heq : ∀ v, v.isCompound = true → other v = read v) : ReadsRecord names other := by
  obtain ⟨hnodup, β, s, next, hnames, hread⟩ := h
  exact ⟨hnodup, β, s, next, hnames, fun v hv => (heq v hv).trans (hread v hv)⟩

theorem bind (h : ReadsRecord names read) (next : α → Option β) :
    ReadsRecord names fun v => read v >>= next := by
  obtain ⟨hnodup, γ, s, first, hnames, hread⟩ := h
  refine ⟨hnodup, γ, s, fun c => first c >>= next, hnames, fun v hv => ?_⟩
  exact (congrArg (· >>= next) (hread v hv)).trans (Option.bind_assoc _ _ _)

theorem map (h : ReadsRecord names read) (f : α → β) :
    ReadsRecord names fun v => (read v).map f :=
  (h.bind (some ∘ f)).congr fun _ _ => Option.map_eq_bind

theorem const_none (h : ReadsRecord names read) : ReadsRecord names fun _ => (none : Option β) :=
  (h.bind fun _ => none).congr fun v _ => by cases read v <;> rfl

theorem bind_const (h : ReadsRecord names read) (o : Option β) (next : β → α → Option γ) :
    ReadsRecord names fun v => o >>= fun b => read v >>= next b := by
  cases o with
  | none => exact h.const_none
  | some b => exact h.bind (next b)

theorem perm (h : ReadsRecord names read) {members others : List Member}
    (hperm : members.Perm others) : read (.object members) = read (.object others) := by
  obtain ⟨-, β, s, next, -, hread⟩ := h
  rw [hread _ rfl, hread _ rfl, s.read_perm hperm]

theorem unknown (h : ReadsRecord names read) {key : Bytes} {name : String}
    (hkey : textOf? key = some name) (hname : name ∉ names) (v : Json)
    (before after : List Member) :
    read (.object (before ++ (key, v) :: after)) = read (.object (before ++ after)) := by
  obtain ⟨-, β, s, next, rfl, hread⟩ := h
  rw [hread _ rfl, hread _ rfl, s.read_unknown hkey hname]

theorem repeated (h : ReadsRecord names read) {key : Bytes} {name : String}
    (hkey : textOf? key = some name) (hname : name ∈ names) (v : Json)
    {before after : List Member} (hfirst : ∃ m ∈ before ++ after, textOf? m.1 = some name) :
    read (.object (before ++ (key, v) :: after)) = none := by
  obtain ⟨-, β, s, next, rfl, hread⟩ := h
  rw [hread _ rfl, s.read_repeated hkey hname v hfirst]
  rfl

theorem of_not_text (h : ReadsRecord names read) {members : List Member} {m : Member}
    (hm : m ∈ members) (hkey : textOf? m.1 = none) : read (.object members) = none := by
  obtain ⟨-, β, s, next, -, hread⟩ := h
  rw [hread _ rfl, s.read_of_not_text hm hkey]
  rfl

end ReadsRecord

def Follows (s : Schema) (read : Json → Option α) : Prop :=
  ∀ ⦃fields fill⦄, Level fields s fill →
    ReadsRecord (fields.map Prod.fst) fun v => read (fill v)

namespace Follows

theorem plain (read : Json → Option α) : Follows .plain read := by
  intro fields fill h
  cases h

theorem map {s : Schema} {read : Json → Option α} (h : Follows s read) (f : α → β) :
    Follows s fun v => (read v).map f :=
  fun _ _ hl => (h hl).map f

theorem nullable {s : Schema} {c : Codec α} (h : Follows s c.read) :
    Follows s c.nullable.read := by
  intro fields fill hl
  refine ((h hl).map some).congr fun v hv => ?_
  have hcompound := hl.isCompound hv
  cases hfill : fill v with
  | null => rw [hfill] at hcompound; cases hcompound
  | _ => rfl

theorem list {s : Schema} {c : Codec α} (h : Follows s c.read) :
    Follows (.list s) c.list.read := by
  intro fields fill hl
  cases hl with
  | @item _ fill before after hl =>
    refine ((h hl).bind_const (before.mapM c.read) fun as a =>
      (after.mapM c.read).map fun bs => as ++ a :: bs).congr fun v _ => ?_
    have hmapM : (before ++ fill v :: after).mapM c.read = do
        let as ← before.mapM c.read
        let bs ← (fill v :: after).mapM c.read
        return as ++ bs :=
      List.mapM_append
    apply hmapM.trans
    rw [List.mapM_cons]
    cases before.mapM c.read with
    | none => rfl
    | some as =>
      cases c.read (fill v) with
      | none => rfl
      | some a => cases after.mapM c.read <;> rfl

end Follows

namespace Field

structure Follows (name : String) (s : Schema) (f : Field α) : Prop where
  name_eq : f.name = name
  read : Json.Follows s f.read

variable {s : Schema} {c : Codec α}

theorem Follows.required (h : Json.Follows s c.read) (name : String) :
    Follows name s (required name c) :=
  ⟨rfl, h⟩

theorem Follows.withDefault (h : Json.Follows s c.read) (name : String) (a : α) :
    Follows name s (withDefault name c a) :=
  ⟨rfl, h⟩

theorem Follows.nullable (h : Json.Follows s c.read) (name : String) :
    Follows name s (nullable name c) :=
  ⟨rfl, h.nullable⟩

theorem Follows.optional (h : Json.Follows s c.read) (name : String) :
    Follows name s (optional name c) :=
  ⟨rfl, h.nullable⟩

end Field

namespace Shape

inductive Follows : List (String × Schema) → {α : Type} → Shape α → Prop
  | done : Follows [] .done
  | field {α β : Type} {f : Field α} {name : String} {s : Schema}
      {fields : List (String × Schema)} {rest : Shape β} (hf : f.Follows name s)
      (hname : name ∉ rest.names) (h : Follows fields rest) :
      Follows ((name, s) :: fields) (.field f rest)

theorem Follows.names_eq {fields : List (String × Schema)} {s : Shape α} (h : Follows fields s) :
    s.names = fields.map Prod.fst := by
  induction h with
  | done => rfl
  | field hf _ _ ih => rw [names, List.map_cons, ih, hf.name_eq]

theorem Follows.nodup {fields : List (String × Schema)} {s : Shape α} (h : Follows fields s) :
    (fields.map Prod.fst).Nodup := by
  induction h with
  | done => exact List.nodup_nil
  | field _ hname h ih =>
    rw [h.names_eq] at hname
    exact List.nodup_cons.mpr ⟨hname, ih⟩

theorem readsRecord_readMember {f : Field α} {names : List String} {fill : Json → Json}
    (h : ReadsRecord names fun v => f.read (fill v)) (before after : List (String × Json)) :
    ReadsRecord names fun v => readMember f (before ++ (f.name, fill v) :: after) := by
  have hfilter : ∀ v, (before ++ (f.name, fill v) :: after).filter (fun m => m.1 == f.name) =
      before.filter (fun m => m.1 == f.name) ++
        (f.name, fill v) :: after.filter fun m => m.1 == f.name := by
    intro v
    simp
  simp only [readMember, hfilter]
  generalize before.filter (fun m => m.1 == f.name) = as
  generalize after.filter (fun m => m.1 == f.name) = bs
  rcases as with - | ⟨a, - | ⟨c, as⟩⟩
  · cases bs with
    | nil => exact h
    | cons b bs => exact h.const_none
  · exact h.const_none
  · exact h.const_none

theorem Follows.readMembers {outer : List (String × Schema)} {shape : Shape α}
    (h : Follows outer shape) {name : String} {s : Schema} (hname : (name, s) ∈ outer)
    {fields : List (String × Schema)} {fill : Json → Json} (hl : Level fields s fill)
    (before after : List (String × Json)) :
    ReadsRecord (fields.map Prod.fst) fun v =>
      shape.readMembers (before ++ (name, fill v) :: after) := by
  induction h with
  | done => cases hname
  | @field _ _ f other t outer rest hf hfresh h ih =>
    obtain ⟨rfl, hf⟩ := hf
    obtain hname | hname := List.mem_cons.mp hname
    · cases hname
      have hrest : ∀ v, rest.readMembers (before ++ (f.name, v) :: after) =
          rest.readMembers (before ++ after) :=
        fun v => rest.readMembers_unknown hfresh v before after
      refine ((readsRecord_readMember (hf hl) before after).bind fun a =>
        (rest.readMembers (before ++ after)).map fun b => (a, b)).congr fun v _ => ?_
      simp only [Shape.readMembers, hrest, Option.map_eq_bind]
      rfl
    · have hne : name ≠ f.name := by
        rintro rfl
        rw [h.names_eq] at hfresh
        exact hfresh (List.mem_map_of_mem hname)
      have hfirst : ∀ v, readMember f (before ++ (name, v) :: after) =
          readMember f (before ++ after) := by
        intro v
        apply readMember_congr
        simp [hne]
      refine ((ih hname).bind_const (readMember f (before ++ after)) fun a b =>
        some (a, b)).congr fun v _ => ?_
      simp only [Shape.readMembers, hfirst]
      rfl

theorem Follows.readItems {outer : List (String × Schema)} {shape : Shape α}
    (h : Follows outer shape) {name : String} {s : Schema} {before : List Json}
    (hname : outer[before.length]? = some (name, s))
    {fields : List (String × Schema)} {fill : Json → Json} (hl : Level fields s fill)
    (after : List Json) :
    ReadsRecord (fields.map Prod.fst) fun v => shape.readItems (before ++ fill v :: after) := by
  induction h generalizing before with
  | done => cases hname
  | @field _ _ f other t outer rest hf hfresh h ih =>
    cases before with
    | nil =>
      cases hname
      refine ((hf.read hl).bind fun a => (rest.readItems after).map fun b => (a, b)).congr
        fun v _ => ?_
      cases hread : f.read (fill v) <;>
        simp [Shape.readItems, readItem, hread, Option.map_eq_bind]
    | cons w before =>
      refine ((ih hname).bind_const (f.read w) fun a b => some (a, b)).congr fun v _ => ?_
      rfl

/-- A record is read at each of its levels by the names that its schema has there. -/
theorem Follows.read {fields : List (String × Schema)} {shape : Shape α}
    (h : Follows fields shape) : Json.Follows (.record fields) shape.read := by
  intro inner fill hl
  cases hl with
  | top =>
    exact ⟨h.nodup, _, shape, some, h.names_eq, fun _ _ => (Option.bind_fun_some _).symm⟩
  | @member _ name s key fill before after hname hkey hl =>
    have hread : ∀ v, shape.read (.object (before ++ (key, fill v) :: after)) =
        readKeys before >>= fun ks => readKeys after >>= fun ls =>
          shape.readMembers (ks ++ (name, fill v) :: ls) := by
      intro v
      rw [Shape.read, readKeys_append, readKeys_cons hkey]
      cases readKeys before with
      | none => rfl
      | some ks => cases readKeys after <;> rfl
    simp only [hread]
    cases readKeys before with
    | none => exact (h.readMembers hname hl [] []).const_none
    | some ks =>
      cases readKeys after with
      | none => exact (h.readMembers hname hl [] []).const_none
      | some ls => exact h.readMembers hname hl ks ls
  | @position _ name s fill before after hname hl => exact h.readItems hname hl after

theorem Follows.codec {fields : List (String × Schema)} {shape : Shape α} (h : Follows fields shape)
    (build : α → β) (parts : β → α) :
    Json.Follows (.record fields) (shape.codec build parts).read :=
  h.read.map build

end Shape

end DiceBot.Json
