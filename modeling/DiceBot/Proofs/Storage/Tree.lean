import DiceBot.Storage.Tree
import Mathlib.Data.List.Basic

namespace DiceBot.Storage

inductive Kind where
  | directory
  | file (content : Bytes)
  deriving DecidableEq, Repr

namespace Entry

def kind : Entry → Kind
  | .directory _ => .directory
  | .file content => .file content

def kind? (e : Entry) (l : Location) : Option Kind :=
  (e.get? l).map kind

theorem kind?_nil (e : Entry) : e.kind? [] = some e.kind := by
  simp [kind?, get?]

theorem kind?_cons (children : List (String × Entry)) (name : String) (names : Location) :
    (directory children).kind? (name :: names) =
      children.lookup name >>= fun e => e.kind? names := by
  simp only [kind?, get?]
  cases children.lookup name <;> rfl

theorem get?_append (e : Entry) (l k : Location) :
    e.get? (l ++ k) = e.get? l >>= fun d => d.get? k := by
  induction l generalizing e with
  | nil => rfl
  | cons name names ih =>
    cases e with
    | file content => rfl
    | directory children =>
      simp only [List.cons_append, get?]
      cases children.lookup name with
      | none => rfl
      | some d => exact ih d

def IsEmpty : Entry → Prop
  | .directory children => children = []
  | .file _ => True

theorem IsEmpty.kind?_eq {e : Entry} (h : e.IsEmpty) (l : Location) :
    e.kind? l = if l = [] then some e.kind else none := by
  cases l with
  | nil => simp [kind?_nil]
  | cons name names =>
    cases e with
    | file content => rfl
    | directory children => simp [kind?_cons, show children = [] from h]

/-- A new child of a directory stands at its own place, and every other place is as it was. -/
theorem kind?_set {e new : Entry} {l : Location} {children : List (String × Entry)} {name : String}
    (hparent : e.get? l = some (.directory children)) (hfree : children.lookup name = none)
    (hnew : new.IsEmpty) (k : Location) :
    (e.set (l ++ [name]) new).kind? k = if k = l ++ [name] then some new.kind else e.kind? k := by
  induction l generalizing e k with
  | nil =>
    obtain rfl : e = .directory children := by simpa [get?] using hparent
    cases k with
    | nil => rfl
    | cons other names =>
      simp only [List.nil_append, set, kind?_cons, lookup_setChild]
      by_cases hname : other = name
      · simp [hname, hfree, hnew.kind?_eq]
      · simp [hname]
  | cons first rest ih =>
    cases e with
    | file content => simp [get?] at hparent
    | directory outer =>
      cases hchild : outer.lookup first with
      | none => simp [get?, hchild] at hparent
      | some inner =>
        have hinner : inner.get? rest = some (.directory children) := by
          simpa [get?, hchild] using hparent
        cases k with
        | nil => rfl
        | cons other names =>
          simp only [List.cons_append, set, kind?_cons, lookup_setChild, hchild, Option.getD_some]
          by_cases hname : other = first
          · simp [hname, hchild, ih hinner]
          · simp [hname]

end Entry

namespace Tree

def kind? (t : Tree) (l : Location) : Option Kind :=
  t.root.kind? l

variable {t t' t'' : Tree} {l : Location} {content : Bytes}

theorem kind?_eq_map (t : Tree) (l : Location) : t.kind? l = (t.get? l).map Entry.kind :=
  rfl

theorem get?_child {children : List (String × Entry)}
    (h : t.get? l = some (.directory children)) (name : String) :
    t.get? (l ++ [name]) = children.lookup name := by
  rw [get?, Entry.get?_append, ← get?, h]
  cases hchild : children.lookup name <;> simp [Entry.get?, hchild]

theorem kind?_eq_none_iff : t.kind? l = none ↔ t.get? l = none :=
  Option.map_eq_none_iff

theorem kind?_eq_file_iff :
    t.kind? l = some (.file content) ↔ t.get? l = some (.file content) := by
  have hkind : ∀ e : Entry, e.kind = .file content ↔ e = .file content := by
    intro e
    cases e <;> simp [Entry.kind]
  simp only [kind?, Entry.kind?, get?, Option.map_eq_some_iff, hkind, exists_eq_right]

/-- Everything that is there in one tree is there in the other, and every file is as it was. -/
structure Extends (t t' : Tree) : Prop where
  kind?_eq : ∀ {l : Location} {k : Kind}, t.kind? l = some k → t'.kind? l = some k
  workingDirectory_eq : t'.workingDirectory = t.workingDirectory

theorem Extends.rfl : t.Extends t :=
  ⟨id, Eq.refl _⟩

theorem Extends.trans (h : t.Extends t') (h' : t'.Extends t'') : t.Extends t'' :=
  ⟨fun hk => h'.kind?_eq (h.kind?_eq hk), h'.workingDirectory_eq.trans h.workingDirectory_eq⟩

theorem Extends.kind?_eq_none (h : t.Extends t') (hnone : t'.kind? l = none) :
    t.kind? l = none := by
  rw [Option.eq_none_iff_forall_ne_some] at hnone ⊢
  exact fun k hk => hnone k (h.kind?_eq hk)

/-- There is one more entry, where there was none, and nothing else is different. -/
structure Adds (t : Tree) (l : Location) (kind : Kind) (t' : Tree) : Prop where
  kind?_eq_none : t.kind? l = none
  kind?_eq : ∀ k, t'.kind? k = if k = l then some kind else t.kind? k
  workingDirectory_eq : t'.workingDirectory = t.workingDirectory

theorem Adds.kind?_self {kind : Kind} (h : t.Adds l kind t') : t'.kind? l = some kind := by
  rw [h.kind?_eq, if_pos rfl]

theorem Adds.toExtends {kind : Kind} (h : t.Adds l kind t') : t.Extends t' := by
  refine ⟨fun {k kind'} hk => ?_, h.workingDirectory_eq⟩
  have hne : k ≠ l := by
    rintro rfl
    simp [h.kind?_eq_none] at hk
  rw [h.kind?_eq, if_neg hne, hk]

structure AddsDirectories (t t' : Tree) : Prop extends t.Extends t' where
  file_of_file : ∀ {l : Location} {content : Bytes},
    t'.kind? l = some (.file content) → t.kind? l = some (.file content)

theorem AddsDirectories.rfl : t.AddsDirectories t :=
  ⟨.rfl, id⟩

theorem AddsDirectories.trans (h : t.AddsDirectories t') (h' : t'.AddsDirectories t'') :
    t.AddsDirectories t'' :=
  ⟨h.toExtends.trans h'.toExtends, fun hk => h.file_of_file (h'.file_of_file hk)⟩

theorem Adds.addsDirectories (h : t.Adds l .directory t') : t.AddsDirectories t' := by
  refine ⟨h.toExtends, fun {k content} hk => ?_⟩
  rw [h.kind?_eq] at hk
  by_cases heq : k = l
  · simp [heq] at hk
  · simpa [heq] using hk

structure AddsFile (t : Tree) (l : Location) (content : Bytes) (t' : Tree) : Prop
    extends t.Extends t' where
  kind?_eq_none : t.kind? l = none
  file_iff : ∀ {k : Location} {c : Bytes},
    t'.kind? k = some (.file c) ↔ k = l ∧ c = content ∨ t.kind? k = some (.file c)

theorem AddsDirectories.addsFile (h : t.AddsDirectories t') (h' : t'.Adds l (.file content) t'') :
    t.AddsFile l content t'' where
  toExtends := h.toExtends.trans h'.toExtends
  kind?_eq_none := h.toExtends.kind?_eq_none h'.kind?_eq_none
  file_iff := by
    intro k c
    rw [h'.kind?_eq]
    by_cases heq : k = l
    · have hnone := h.toExtends.kind?_eq_none h'.kind?_eq_none
      simp [heq, hnone, eq_comm]
    · simpa [heq] using (⟨h.file_of_file, h.kind?_eq⟩ :
        t'.kind? k = some (.file c) ↔ t.kind? k = some (.file c))

theorem adds_set {children : List (String × Entry)} {name : String} (new : Entry)
    (hparent : t.get? l = some (.directory children)) (hfree : children.lookup name = none)
    (hnew : new.IsEmpty) : t.Adds (l ++ [name]) new.kind (t.set (l ++ [name]) new) where
  kind?_eq_none := by rw [kind?_eq_none_iff, get?_child hparent, hfree]
  kind?_eq := Entry.kind?_set hparent hfree hnew
  workingDirectory_eq := rfl

end Tree

end DiceBot.Storage
