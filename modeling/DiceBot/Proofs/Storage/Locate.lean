import DiceBot.Proofs.Storage.Walk

namespace DiceBot.Storage

namespace Path

def steps (p : Path) : List String :=
  if p.endsWithSlash then p.names ++ ["."] else p.names

theorem names_eq_nil_of_isHere {p : Path} (h : p.isHere = true) : p.names = [] := by
  obtain ⟨text⟩ := p
  obtain rfl : text = "" := by simpa [isHere] using h
  decide

end Path

namespace Tree

def start (t : Tree) (p : Path) : Location :=
  if p.isAbsolute then [] else t.workingDirectory

/-- A path names a location. -/
structure At (t : Tree) (p : Path) (l : Location) : Prop where
  isHere_eq_false : p.isHere = false
  size_le : p.size ≤ pathLimit
  leads : t.Leads [] (t.start p ++ p.steps) l

variable {t t' : Tree} {p : Path} {l : Location} {content : Bytes}

theorem Extends.start_eq (h : t.Extends t') (p : Path) : t'.start p = t.start p := by
  rw [start, start, h.workingDirectory_eq]

theorem At.mono (h : t.At p l) (hext : t.Extends t') : t'.At p l :=
  ⟨h.isHere_eq_false, h.size_le, hext.start_eq p ▸ h.leads.mono hext⟩

theorem isIn_root (t : Tree) : (Place.mk t.root []).IsIn t :=
  rfl

theorem follow_sound {names : List String} {place : Place} (h : t.follow p names = .ok place) :
    p.size ≤ pathLimit ∧ place.IsIn t ∧ t.Leads [] (t.start p ++ names) place.location := by
  rw [follow] at h
  split at h
  · simp at h
  · rename_i hsize
    exact ⟨Nat.le_of_not_lt hsize, walk_sound t.isIn_root h⟩

theorem locate_sound {place : Place} (h : t.locate p = .ok place) :
    place.IsIn t ∧ t.At p place.location := by
  rw [locate] at h
  split at h
  · simp at h
  · rename_i hhere
    obtain ⟨hsize, hin, hway⟩ := follow_sound h
    exact ⟨hin, by simpa using hhere, hsize, hway⟩

theorem At.locate_eq_ok (h : t.At p l) : ∃ place, t.locate p = .ok place ∧ place.location = l := by
  obtain ⟨place, hwalk, hl⟩ := walk_complete t.isIn_root h.leads
  refine ⟨place, ?_, hl⟩
  rw [locate, if_neg (by simp [h.isHere_eq_false]), follow, if_neg (Nat.not_lt.mpr h.size_le)]
  exact hwalk

theorem isPresent_iff : t.isPresent p = true ↔ ∃ l, t.At p l := by
  constructor
  · intro h
    rw [isPresent] at h
    cases hplace : t.locate p with
    | error e => simp [hplace, Except.isOk, Except.toBool] at h
    | ok place => exact ⟨_, (locate_sound hplace).2⟩
  · rintro ⟨l, hl⟩
    obtain ⟨place, hplace, -⟩ := hl.locate_eq_ok
    rw [isPresent, hplace]
    rfl

theorem isDirectory_iff : t.isDirectory p = true ↔ ∃ l, t.At p l ∧ t.kind? l = some .directory := by
  constructor
  · intro h
    rw [isDirectory] at h
    split at h
    · rename_i children outer hplace
      obtain ⟨hin, hat⟩ := locate_sound hplace
      exact ⟨_, hat, hin.kind?_location⟩
    · simp at h
  · rintro ⟨l, hat, hl⟩
    obtain ⟨place, hplace, rfl⟩ := hat.locate_eq_ok
    obtain ⟨children, hchildren⟩ := (locate_sound hplace).1.exists_children hl
    rw [isDirectory, hplace, hchildren]

theorem read_eq_ok_iff :
    t.read p = .ok content ↔ ∃ l, t.At p l ∧ t.kind? l = some (.file content) := by
  constructor
  · intro h
    obtain ⟨⟨e, outer⟩, hplace, h⟩ := exists_of_bind_eq_ok h
    obtain ⟨hin, hat⟩ := locate_sound hplace
    cases e with
    | directory children => cases h
    | file other =>
      obtain rfl : other = content := Except.ok.inj h
      exact ⟨_, hat, hin.kind?_location⟩
  · rintro ⟨l, hat, hl⟩
    obtain ⟨⟨e, outer⟩, hplace, rfl⟩ := hat.locate_eq_ok
    rw [(locate_sound hplace).1.kind?_location] at hl
    cases e with
    | directory children => simp [Entry.kind] at hl
    | file other =>
      obtain rfl : other = content := by simpa [Entry.kind] using hl
      rw [read, hplace]
      rfl

theorem isPresent_mono (hext : t.Extends t') (h : t.isPresent p = true) :
    t'.isPresent p = true := by
  obtain ⟨l, hl⟩ := isPresent_iff.mp h
  exact isPresent_iff.mpr ⟨l, hl.mono hext⟩

theorem isPresent_of_isDirectory (h : t.isDirectory p = true) : t.isPresent p = true := by
  obtain ⟨l, hat, -⟩ := isDirectory_iff.mp h
  exact isPresent_iff.mpr ⟨l, hat⟩

end Tree

end DiceBot.Storage
