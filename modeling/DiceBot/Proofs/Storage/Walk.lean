import DiceBot.Proofs.Storage.Tree

namespace DiceBot.Storage

theorem exists_of_bind_eq_ok {α β : Type} {x : Except Error α} {f : α → Except Error β} {b : β}
    (h : x >>= f = .ok b) : ∃ a, x = .ok a ∧ f a = .ok b := by
  cases x with
  | error e => cases h
  | ok a => exact ⟨a, rfl, h⟩

theorem childNamed?_eq_ok {children : List (String × Entry)} {name : String} {child? : Option Entry}
    (h : childNamed? children name = .ok child?) :
    name.utf8ByteSize ≤ nameLimit ∧ children.lookup name = child? := by
  rw [childNamed?] at h
  split at h
  · cases h
  · rename_i hsize
    exact ⟨Nat.le_of_not_lt hsize, Except.ok.inj h⟩

/-- The entries that a walk has gone through are each a child of the one before, from the root to
where it stands. -/
def IsTrail (root : Entry) : List (Entry × String) → Entry → Prop
  | [], e => e = root
  | (directory, name) :: outer, e =>
    (∃ children, directory = .directory children ∧ children.lookup name = some e) ∧
      IsTrail root outer directory

namespace Place

theorem location_cons (e directory : Entry) (name : String) (outer : List (Entry × String)) :
    (Place.mk e ((directory, name) :: outer)).location =
      (Place.mk directory outer).location ++ [name] := by
  simp [location]

def IsIn (p : Place) (t : Tree) : Prop :=
  IsTrail t.root p.outer p.entry

theorem IsIn.get?_location {p : Place} {t : Tree} (h : p.IsIn t) :
    t.get? p.location = some p.entry := by
  obtain ⟨e, outer⟩ := p
  induction outer generalizing e with
  | nil =>
    obtain rfl : e = t.root := h
    rfl
  | cons step outer ih =>
    obtain ⟨directory, name⟩ := step
    obtain ⟨⟨children, rfl, hchild⟩, hout⟩ := h
    rw [location_cons, Tree.get?_child (ih _ hout), hchild]

theorem IsIn.kind?_location {p : Place} {t : Tree} (h : p.IsIn t) :
    t.kind? p.location = some p.entry.kind := by
  rw [Tree.kind?_eq_map, h.get?_location, Option.map_some]

theorem IsIn.up {p : Place} {t : Tree} (h : p.IsIn t) : p.up.IsIn t := by
  obtain ⟨e, outer⟩ := p
  cases outer with
  | nil => exact h
  | cons step outer => exact h.2

theorem location_up (p : Place) : p.up.location = p.location.dropLast := by
  obtain ⟨e, outer⟩ := p
  cases outer with
  | nil => rfl
  | cons step outer => simp [up, location]

end Place

namespace Tree

/-- From one location, the names lead to another. -/
inductive Leads (t : Tree) : Location → List String → Location → Prop where
  | stop (l : Location) : Leads t l [] l
  | stay {l l' : Location} {names : List String} (hl : t.kind? l = some .directory)
      (rest : Leads t l names l') : Leads t l ("." :: names) l'
  | up {l l' : Location} {names : List String} (hl : t.kind? l = some .directory)
      (rest : Leads t l.dropLast names l') : Leads t l (".." :: names) l'
  | down {l l' : Location} {name : String} {names : List String} (hdot : name ≠ ".")
      (hdots : name ≠ "..") (hsize : name.utf8ByteSize ≤ nameLimit)
      (hl : t.kind? l = some .directory) (hchild : t.kind? (l ++ [name]) ≠ none)
      (rest : Leads t (l ++ [name]) names l') : Leads t l (name :: names) l'

theorem Leads.mono {t t' : Tree} {l l' : Location} {names : List String} (h : t.Leads l names l')
    (hext : t.Extends t') : t'.Leads l names l' := by
  induction h with
  | stop l => exact .stop l
  | stay hl rest ih => exact .stay (hext.kind?_eq hl) ih
  | up hl rest ih => exact .up (hext.kind?_eq hl) ih
  | down hdot hdots hsize hl hchild rest ih =>
    obtain ⟨kind, hkind⟩ := Option.ne_none_iff_exists'.mp hchild
    exact .down hdot hdots hsize (hext.kind?_eq hl) (by simp [hext.kind?_eq hkind]) ih

theorem Leads.append {t : Tree} {l l' l'' : Location} {names more : List String}
    (h : t.Leads l names l') (h' : t.Leads l' more l'') : t.Leads l (names ++ more) l'' := by
  induction h with
  | stop l => exact h'
  | stay hl rest ih => exact .stay hl (ih h')
  | up hl rest ih => exact .up hl (ih h')
  | down hdot hdots hsize hl hchild rest ih => exact .down hdot hdots hsize hl hchild (ih h')

end Tree

section Walk

variable (children : List (String × Entry)) (outer : List (Entry × String)) (names : List String)

theorem walk_stay :
    walk ⟨.directory children, outer⟩ ("." :: names) = walk ⟨.directory children, outer⟩ names := by
  simp [walk]

theorem walk_up :
    walk ⟨.directory children, outer⟩ (".." :: names) =
      walk (Place.up ⟨.directory children, outer⟩) names := by
  simp [walk]

theorem walk_down {name : String} (hdot : name ≠ ".") (hdots : name ≠ "..")
    (hsize : name.utf8ByteSize ≤ nameLimit) {child : Entry}
    (hchild : children.lookup name = some child) :
    walk ⟨.directory children, outer⟩ (name :: names) =
      walk ⟨child, (.directory children, name) :: outer⟩ names := by
  simp [walk, hdot, hdots, childNamed?, Nat.not_lt.mpr hsize, hchild, bind, Except.bind]

theorem exists_child_of_walk {name : String} (hdot : name ≠ ".") (hdots : name ≠ "..")
    {p : Place} (h : walk ⟨.directory children, outer⟩ (name :: names) = .ok p) :
    name.utf8ByteSize ≤ nameLimit ∧ ∃ child, children.lookup name = some child := by
  simp only [walk, if_neg hdot, if_neg hdots] at h
  obtain ⟨child?, hchild, h⟩ := exists_of_bind_eq_ok h
  obtain ⟨hsize, rfl⟩ := childNamed?_eq_ok hchild
  cases hlookup : children.lookup name with
  | some child => exact ⟨hsize, child, rfl⟩
  | none =>
    rw [hlookup] at h
    cases h

end Walk

/-- A walk stays in the tree, and goes the way that the names lead. -/
theorem walk_sound {t : Tree} {p p' : Place} {names : List String} (hp : p.IsIn t)
    (h : walk p names = .ok p') : p'.IsIn t ∧ t.Leads p.location names p'.location := by
  induction names generalizing p with
  | nil =>
    obtain rfl : p = p' := by simpa [walk] using h
    exact ⟨hp, .stop _⟩
  | cons name names ih =>
    obtain ⟨e, outer⟩ := p
    cases e with
    | file content => simp [walk] at h
    | directory children =>
      have hl := hp.kind?_location
      by_cases hdot : name = "."
      · subst hdot
        rw [walk_stay] at h
        obtain ⟨hin, hway⟩ := ih hp h
        exact ⟨hin, .stay hl hway⟩
      by_cases hdots : name = ".."
      · subst hdots
        rw [walk_up] at h
        obtain ⟨hin, hway⟩ := ih hp.up h
        rw [Place.location_up] at hway
        exact ⟨hin, .up hl hway⟩
      obtain ⟨hsize, child, hchild⟩ := exists_child_of_walk _ _ _ hdot hdots h
      rw [walk_down _ _ _ hdot hdots hsize hchild] at h
      have hdown : (Place.mk child ((.directory children, name) :: outer)).IsIn t :=
        ⟨⟨children, rfl, hchild⟩, hp⟩
      obtain ⟨hin, hway⟩ := ih hdown h
      have hkind := hdown.kind?_location
      rw [Place.location_cons] at hway hkind
      exact ⟨hin, .down hdot hdots hsize hl (by simp [hkind]) hway⟩

theorem Place.IsIn.exists_children {p : Place} {t : Tree} (hp : p.IsIn t)
    (hl : t.kind? p.location = some .directory) :
    ∃ children, p = ⟨.directory children, p.outer⟩ := by
  obtain ⟨e, outer⟩ := p
  rw [hp.kind?_location] at hl
  cases e with
  | directory children => exact ⟨children, rfl⟩
  | file content => simp [Entry.kind] at hl

/-- Where the names lead, a walk arrives. -/
theorem walk_complete {t : Tree} {p : Place} {names : List String} {l : Location} (hp : p.IsIn t)
    (h : t.Leads p.location names l) : ∃ p', walk p names = .ok p' ∧ p'.location = l := by
  generalize hstart : p.location = start at h
  induction h generalizing p with
  | stop l => exact ⟨p, rfl, hstart⟩
  | stay hl rest ih =>
    obtain ⟨children, hchildren⟩ := hp.exists_children (hstart ▸ hl)
    rw [hchildren] at hp hstart ⊢
    rw [walk_stay]
    exact ih hp hstart
  | up hl rest ih =>
    obtain ⟨children, hchildren⟩ := hp.exists_children (hstart ▸ hl)
    rw [hchildren] at hp hstart ⊢
    rw [walk_up]
    exact ih hp.up (by rw [Place.location_up, hstart])
  | @down l l' name names hdot hdots hsize hl hchild rest ih =>
    obtain ⟨children, hchildren⟩ := hp.exists_children (hstart ▸ hl)
    rw [hchildren] at hp hstart ⊢
    rw [Ne, Tree.kind?_eq_none_iff, Tree.get?_child (hstart ▸ hp.get?_location)] at hchild
    obtain ⟨child, hlookup⟩ := Option.ne_none_iff_exists'.mp hchild
    rw [walk_down _ _ _ hdot hdots hsize hlookup]
    exact ih ⟨⟨children, rfl, hlookup⟩, hp⟩ (by rw [Place.location_cons, hstart])

end DiceBot.Storage
