import DiceBot.Proofs.Settings.Source
import DiceBot.Proofs.Storage.Directories
import DiceBot.Proofs.Text.Utf8
import DiceBot.Settings.Load

namespace DiceBot.Configuration

open Storage

def ofContent (content : Bytes) : Except LoadError Configuration :=
  match Text.Utf8.toString? content with
  | none => .error .notText
  | some text =>
    match ofToml? text with
    | none => .error .notToml
    | some c => .ok c

theorem ofContent_ofString {text : String} {c : Configuration} (h : ofToml? text = some c) :
    ofContent (Text.Utf8.ofString text) = .ok c := by
  rw [ofContent, Text.Utf8.toString?_ofString]
  simp only [h]

theorem ofContent_ne_missing (content : Bytes) (s : Setting) :
    ofContent content ≠ .error (.missing s) := by
  rw [ofContent]
  split
  · simp
  · split <;> simp

def prepare (directory : String) : ExceptT LoadError (StateM Tree) Unit := do
  if !(← inTree.isPresent ⟨directory⟩) then stored (inTree.makeDirectories ⟨directory⟩)

def readAt (path : Storage.Path) : ExceptT LoadError (StateM Tree) Configuration := do
  if !(← inTree.isPresent path) then
    stored (inTree.write path (Text.Utf8.ofString template))
    return default
  else
    let content ← stored (inTree.read path)
    let text ← orThrow .notText (Text.Utf8.toString? content)
    orThrow .notToml (ofToml? text)

theorem readFile_eq (lookup : String → Option String) :
    readFile inTree lookup = (do
      let directory ← orThrow .noVariable (lookup directoryVariable)
      prepare directory
      let name ← orThrow .noVariable (lookup fileVariable)
      readAt ⟨Storage.Path.join directory name⟩) := by
  rw [readFile]
  congr 1
  funext directory
  rw [prepare, bind_assoc]
  congr 1
  funext isPresent
  cases isPresent <;> rfl

section Run

variable {t t' : Tree} {directory : String} {path : Storage.Path}

theorem run_stored {α : Type} (x : ExceptT Storage.Error (StateM Tree) α) (t : Tree) :
    (stored x).run.run t = ((x.run.run t).1.mapError .storage, (x.run.run t).2) :=
  rfl

theorem run_write_ok {content : Bytes} (h : t.write path content = .ok t') :
    (stored (inTree.write path content)).run.run t = (.ok (), t') := by
  rw [run_stored, show (inTree.write path content).run.run t = _ from run_changing_ok h]
  rfl

theorem run_write_error {content : Bytes} {e : Storage.Error}
    (h : t.write path content = .error e) :
    (stored (inTree.write path content)).run.run t = (.error (.storage e), t) := by
  rw [run_stored, show (inTree.write path content).run.run t = _ from run_changing_error h]
  rfl

theorem run_orThrow_some {α : Type} (e : LoadError) (a : α) (t : Tree) :
    (orThrow e (some a) : ExceptT LoadError (StateM Tree) α).run.run t = (.ok a, t) :=
  rfl

theorem run_orThrow_none {α : Type} (e : LoadError) (t : Tree) :
    (orThrow e none : ExceptT LoadError (StateM Tree) α).run.run t = (.error e, t) :=
  rfl

/-- The directory of the configuration file is there, or is the working directory. -/
def IsReady (t : Tree) (directory : String) : Prop :=
  (Storage.Path.mk directory).isHere = true ∨ t.isPresent ⟨directory⟩ = true

theorem IsReady.mono (h : IsReady t directory) (hext : t.Extends t') : IsReady t' directory :=
  h.imp_right (Tree.isPresent_mono hext)

theorem run_prepare_of_isPresent (h : t.isPresent ⟨directory⟩ = true) :
    (prepare directory).run.run t = (.ok (), t) := by
  rw [prepare, run_bind_ok (run_isPresent _ t), h]
  rfl

theorem run_prepare_of_not_isPresent (h : t.isPresent ⟨directory⟩ = false) :
    (prepare directory).run.run t =
      (stored (inTree.makeDirectories ⟨directory⟩)).run.run t := by
  rw [prepare, run_bind_ok (run_isPresent _ t), h]
  rfl

theorem run_prepare_of_isReady (h : IsReady t directory) :
    (prepare directory).run.run t = (.ok (), t) := by
  cases hpresent : t.isPresent ⟨directory⟩ with
  | true => exact run_prepare_of_isPresent hpresent
  | false =>
    have hhere : (Storage.Path.mk directory).isHere = true := h.resolve_right (by simp [hpresent])
    rw [run_prepare_of_not_isPresent hpresent, run_stored, makeDirectories, if_pos hhere]
    rfl

theorem prepare_cases {result : Except LoadError Unit}
    (h : (prepare directory).run.run t = (result, t')) :
    t.AddsDirectories t' ∧
      ((∃ e, result = .error (.storage e)) ∨ (result = .ok () ∧ IsReady t' directory)) := by
  cases hpresent : t.isPresent ⟨directory⟩ with
  | true =>
    rw [run_prepare_of_isPresent hpresent] at h
    cases h
    exact ⟨.rfl, .inr ⟨rfl, .inr hpresent⟩⟩
  | false =>
    obtain ⟨hadds, hmade⟩ := makes_makeDirectories ⟨directory⟩ t
    rw [run_prepare_of_not_isPresent hpresent, run_stored] at h
    obtain ⟨rfl, rfl⟩ := Prod.mk.inj h
    refine ⟨hadds, ?_⟩
    cases hrun : ((inTree.makeDirectories ⟨directory⟩).run.run t).1 with
    | error e => exact .inl ⟨e, rfl⟩
    | ok _ => exact .inr ⟨rfl, (hmade hrun).imp_right Tree.isPresent_of_isDirectory⟩

theorem run_readAt_of_isPresent (h : t.isPresent path = true) :
    (readAt path).run.run t =
      (match t.read path with
        | .ok content => ofContent content
        | .error e => .error (.storage e), t) := by
  rw [readAt, run_bind_ok (run_isPresent _ t), h]
  have hrun : (stored (inTree.read path)).run.run t = ((t.read path).mapError .storage, t) := rfl
  cases hread : t.read path with
  | error e =>
    rw [hread] at hrun
    exact run_bind_error hrun _
  | ok content =>
    rw [hread] at hrun
    refine (run_bind_ok hrun _).trans ?_
    simp only [ofContent]
    cases Text.Utf8.toString? content with
    | none => rfl
    | some text =>
      refine (run_bind_ok (run_orThrow_some _ _ t) _).trans ?_
      dsimp only
      cases ofToml? text <;> rfl

theorem run_readAt_of_not_isPresent (h : t.isPresent path = false) :
    (readAt path).run.run t =
      match t.write path (Text.Utf8.ofString template) with
      | .ok t' => (.ok default, t')
      | .error e => (.error (.storage e), t) := by
  rw [readAt, run_bind_ok (run_isPresent _ t), h]
  cases hwrite : t.write path (Text.Utf8.ofString template) with
  | error e => exact run_bind_error (run_write_error hwrite) _
  | ok t' => exact run_bind_ok (run_write_ok hwrite) _

/-- All that reading the file does: it fails, it gives what is there, or it writes the template. -/
theorem readAt_cases {result : Except LoadError Configuration}
    (h : (readAt path).run.run t = (result, t')) :
    (∃ e, result = .error e ∧ (∀ s, e ≠ .missing s) ∧ t' = t) ∨
      (∃ c, result = .ok c ∧ t.isPresent path = true ∧ t' = t) ∨
      (result = .ok default ∧ t.isPresent path = false ∧
        t.write path (Text.Utf8.ofString template) = .ok t') := by
  cases hpresent : t.isPresent path with
  | true =>
    rw [run_readAt_of_isPresent hpresent] at h
    obtain ⟨hresult, rfl⟩ := Prod.mk.inj h
    cases hread : t.read path with
    | error e =>
      rw [hread] at hresult
      exact .inl ⟨.storage e, hresult.symm, by simp, rfl⟩
    | ok content =>
      rw [hread] at hresult
      cases result with
      | ok c => exact .inr (.inl ⟨c, rfl, rfl, rfl⟩)
      | error e =>
        refine .inl ⟨e, rfl, ?_, rfl⟩
        rintro s rfl
        exact ofContent_ne_missing content s hresult
  | false =>
    rw [run_readAt_of_not_isPresent hpresent] at h
    cases hwrite : t.write path (Text.Utf8.ofString template) with
    | error e =>
      rw [hwrite] at h
      obtain ⟨rfl, rfl⟩ := Prod.mk.inj h
      exact .inl ⟨.storage e, rfl, by simp, rfl⟩
    | ok t'' =>
      rw [hwrite] at h
      obtain ⟨rfl, rfl⟩ := Prod.mk.inj h
      exact .inr (.inr ⟨rfl, rfl, rfl⟩)

theorem readAt_extends {result : Except LoadError Configuration}
    (h : (readAt path).run.run t = (result, t')) : t.Extends t' := by
  obtain ⟨-, -, -, rfl⟩ | ⟨-, -, -, rfl⟩ | ⟨-, habsent, hwrite⟩ := readAt_cases h
  · exact .rfl
  · exact .rfl
  · obtain ⟨l, hadds, -⟩ := Tree.write_adds habsent hwrite
    exact hadds.toExtends

/-- The template that one run writes is what the next one reads. -/
theorem readAt_again {c : Configuration} (h : (readAt path).run.run t = (.ok c, t')) :
    (readAt path).run.run t' = (.ok c, t') := by
  obtain ⟨e, hresult, -⟩ | ⟨_, -, -, rfl⟩ | ⟨hresult, habsent, hwrite⟩ := readAt_cases h
  · cases hresult
  · exact h
  · cases hresult
    obtain ⟨l, hadds, hat⟩ := Tree.write_adds habsent hwrite
    have hread : t'.read path = .ok (Text.Utf8.ofString template) :=
      Tree.read_eq_ok_iff.mpr ⟨l, hat, hadds.kind?_self⟩
    rw [run_readAt_of_isPresent (Tree.isPresent_iff.mpr ⟨l, hat⟩), hread]
    exact congrArg (·, t') (ofContent_ofString ofToml?_template)

variable {lookup : String → Option String}

/-- All that is done before the file is read: it fails, or the path is known and its directory is
ready. -/
theorem readFile_cases {result : Except LoadError Configuration}
    (h : (readFile inTree lookup).run.run t = (result, t')) :
    (∃ e, result = .error e ∧ (∀ s, e ≠ .missing s) ∧ t.AddsDirectories t') ∨
      ∃ directory name s, lookup directoryVariable = some directory ∧
        lookup fileVariable = some name ∧ t.AddsDirectories s ∧ IsReady s directory ∧
        (readAt ⟨Storage.Path.join directory name⟩).run.run s = (result, t') := by
  rw [readFile_eq] at h
  cases hdirectory : lookup directoryVariable with
  | none =>
    rw [hdirectory, run_bind_error (run_orThrow_none _ t)] at h
    cases h
    exact .inl ⟨.noVariable, rfl, by simp, .rfl⟩
  | some directory =>
    rw [hdirectory, run_bind_ok (run_orThrow_some _ _ t)] at h
    obtain ⟨e, hprepare, rfl⟩ | ⟨_, s, hprepare, h⟩ := run_bind_cases h
    · obtain ⟨hadds, ⟨e', he⟩ | ⟨he, -⟩⟩ := prepare_cases hprepare
      · cases he
        exact .inl ⟨.storage e', rfl, by simp, hadds⟩
      · cases he
    · obtain ⟨hadds, ⟨e, he⟩ | ⟨-, hready⟩⟩ := prepare_cases hprepare
      · cases he
      cases hname : lookup fileVariable with
      | none =>
        rw [hname, run_bind_error (run_orThrow_none _ s)] at h
        cases h
        exact .inl ⟨.noVariable, rfl, by simp, hadds⟩
      | some name =>
        rw [hname, run_bind_ok (run_orThrow_some _ _ s)] at h
        exact .inr ⟨directory, name, s, rfl, rfl, hadds, hready, h⟩

theorem run_readFile_of_isReady {directory name : String}
    (hdirectory : lookup directoryVariable = some directory)
    (hname : lookup fileVariable = some name) (hready : IsReady t directory) :
    (readFile inTree lookup).run.run t = (readAt ⟨Storage.Path.join directory name⟩).run.run t := by
  rw [readFile_eq, hdirectory, run_bind_ok (run_orThrow_some _ _ t),
    run_bind_ok (run_prepare_of_isReady hready), hname, run_bind_ok (run_orThrow_some _ _ t)]

/-- No file is written but the template, where the variables say and nothing is. -/
theorem readFile_adds {result : Except LoadError Configuration}
    (h : (readFile inTree lookup).run.run t = (result, t')) :
    t.AddsDirectories t' ∨
      ∃ directory name l, lookup directoryVariable = some directory ∧
        lookup fileVariable = some name ∧ t.isPresent ⟨Storage.Path.join directory name⟩ = false ∧
        t.AddsFile l (Text.Utf8.ofString template) t' ∧
        t'.At ⟨Storage.Path.join directory name⟩ l := by
  obtain ⟨e, -, -, hadds⟩ | ⟨directory, name, s, hdirectory, hname, hadds, -, hread⟩ :=
    readFile_cases h
  · exact .inl hadds
  obtain ⟨-, -, -, rfl⟩ | ⟨-, -, -, rfl⟩ | ⟨-, habsent, hwrite⟩ := readAt_cases hread
  · exact .inl hadds
  · exact .inl hadds
  · obtain ⟨l, hfile, hat⟩ := Tree.write_adds habsent hwrite
    have hbefore : t.isPresent ⟨Storage.Path.join directory name⟩ = false := by
      rw [Bool.eq_false_iff]
      intro hpresent
      simp [Tree.isPresent_mono hadds.toExtends hpresent] at habsent
    exact .inr ⟨directory, name, l, hdirectory, hname, hbefore, hadds.addsFile hfile, hat⟩

theorem readFile_again {c : Configuration}
    (h : (readFile inTree lookup).run.run t = (.ok c, t')) :
    (readFile inTree lookup).run.run t' = (.ok c, t') := by
  obtain ⟨e, he, -⟩ | ⟨directory, name, s, hdirectory, hname, -, hready, hread⟩ :=
    readFile_cases h
  · cases he
  rw [run_readFile_of_isReady hdirectory hname (hready.mono (readAt_extends hread))]
  exact readAt_again hread

theorem readFile_ne_missing {e : LoadError}
    (h : (readFile inTree lookup).run.run t = (.error e, t')) (s : Setting) : e ≠ .missing s := by
  obtain ⟨_, he, hne, -⟩ | ⟨_, _, s', -, -, -, -, hread⟩ := readFile_cases h
  · cases he
    exact hne s
  obtain ⟨_, he, hne, -⟩ | ⟨_, he, -⟩ | ⟨he, -⟩ := readAt_cases hread
  · cases he
    exact hne s
  · cases he
  · cases he

theorem readFile_files {result : Except LoadError Configuration}
    (h : (readFile inTree lookup).run.run t = (result, t')) :
    (∀ l content, t.get? l = some (.file content) → t'.get? l = some (.file content)) ∧
      ((∀ l content, t'.get? l = some (.file content) → t.get? l = some (.file content)) ∨
        ∃ directory name place, lookup directoryVariable = some directory ∧
          lookup fileVariable = some name ∧
          t.isPresent ⟨Storage.Path.join directory name⟩ = false ∧ t.get? place.location = none ∧
          t'.locate ⟨Storage.Path.join directory name⟩ = .ok place ∧
          ∀ l content, t'.get? l = some (.file content) ↔
            l = place.location ∧ content = Text.Utf8.ofString template ∨
              t.get? l = some (.file content)) := by
  simp only [← Tree.kind?_eq_file_iff, ← Tree.kind?_eq_none_iff]
  obtain hadds | ⟨directory, name, l, hdirectory, hname, habsent, hadds, hat⟩ := readFile_adds h
  · exact ⟨fun _ _ => hadds.kind?_eq, .inl fun _ _ => hadds.file_of_file⟩
  · obtain ⟨place, hplace, rfl⟩ := hat.locate_eq_ok
    exact ⟨fun _ _ => hadds.kind?_eq, .inr ⟨directory, name, place, hdirectory, hname, habsent,
      hadds.kind?_eq_none, hplace, fun _ _ => hadds.file_iff⟩⟩

end Run

end DiceBot.Configuration
