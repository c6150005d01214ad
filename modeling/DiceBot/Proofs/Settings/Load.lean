import DiceBot.Proofs.Settings.ReadFile

namespace DiceBot.Configuration

open Storage

def completed (lookup : String → Option String) (c : Configuration) :
    Except LoadError Configuration :=
  match (c.applyOverrides lookup).missing? with
  | some s => .error (.missing s)
  | none => .ok (c.applyOverrides lookup)

theorem missing?_of_completed {lookup : String → Option String} {c d : Configuration}
    (h : completed lookup c = .ok d) : d.missing? = none := by
  rw [completed] at h
  split at h
  · cases h
  · rename_i hnone
    exact Except.ok.inj h ▸ hnone

theorem load_eq (lookup : String → Option String) :
    load inTree lookup =
      readFile inTree lookup >>= fun c => ExceptT.mk (pure (completed lookup c)) := by
  rw [load]
  congr 1
  funext c
  simp only [completed]
  cases (applyOverrides lookup c).missing? <;> rfl

section Run

variable {t t' : Tree} {lookup : String → Option String} {directory : String}

theorem run_load_of_ok {c : Configuration}
    (h : (readFile inTree lookup).run.run t = (.ok c, t')) :
    (load inTree lookup).run.run t = (completed lookup c, t') := by
  rw [load_eq, run_bind_ok h]
  rfl

theorem load_cases {result : Except LoadError Configuration}
    (h : (load inTree lookup).run.run t = (result, t')) :
    (∃ e, (readFile inTree lookup).run.run t = (.error e, t') ∧ result = .error e) ∨
      ∃ c, (readFile inTree lookup).run.run t = (.ok c, t') ∧ result = completed lookup c := by
  rcases hread : (readFile inTree lookup).run.run t with ⟨e | c, s⟩
  · rw [load_eq, run_bind_error hread] at h
    cases h
    exact .inl ⟨e, rfl, rfl⟩
  · rw [run_load_of_ok hread] at h
    cases h
    exact .inr ⟨c, rfl, rfl⟩

section Ready

variable {name : String} (hdirectory : lookup directoryVariable = some directory)
  (hname : lookup fileVariable = some name) (hready : IsReady t directory)
include hdirectory hname hready

theorem load_of_read {text : String} {c : Configuration}
    (hread : t.read ⟨Storage.Path.join directory name⟩ = .ok (Text.Utf8.ofString text))
    (hc : ofToml? text = some c) : (load inTree lookup).run.run t = (completed lookup c, t) := by
  obtain ⟨l, hat, -⟩ := Tree.read_eq_ok_iff.mp hread
  apply run_load_of_ok
  rw [run_readFile_of_isReady hdirectory hname hready,
    run_readAt_of_isPresent (Tree.isPresent_iff.mpr ⟨l, hat⟩), hread]
  exact congrArg (·, t) (ofContent_ofString hc)

theorem load_of_write (habsent : t.isPresent ⟨Storage.Path.join directory name⟩ = false)
    (hwrite : t.write ⟨Storage.Path.join directory name⟩ (Text.Utf8.ofString template) = .ok t') :
    (load inTree lookup).run.run t = (completed lookup default, t') := by
  apply run_load_of_ok
  rw [run_readFile_of_isReady hdirectory hname hready, run_readAt_of_not_isPresent habsent, hwrite]

end Ready

theorem load_finds {name : String} {result : Except LoadError Configuration}
    (h : (load inTree lookup).run.run t = (result, t'))
    (hdirectory : lookup directoryVariable = some directory)
    (hname : lookup fileVariable = some name) (hready : IsReady t directory) :
    (∀ text c, t.read ⟨Storage.Path.join directory name⟩ = .ok (Text.Utf8.ofString text) →
      ofToml? text = some c → result = completed lookup c ∧ t' = t) ∧
    ∀ s, t.isPresent ⟨Storage.Path.join directory name⟩ = false →
      t.write ⟨Storage.Path.join directory name⟩ (Text.Utf8.ofString template) = .ok s →
      result = completed lookup default ∧ t' = s := by
  constructor
  · intro text c hread hc
    exact Prod.mk.inj (h.symm.trans (load_of_read hdirectory hname hready hread hc))
  · intro s habsent hwrite
    exact Prod.mk.inj (h.symm.trans (load_of_write hdirectory hname hready habsent hwrite))

end Run

variable (lookup : String → Option String) (t : Tree)

/-- Loading damages no file and makes at most one, the template, where the variables say and
nothing is; it has a line for every setting, with the default. A run that gives a configuration,
which is complete then, or finds one incomplete leaves everything as the next run needs it to give
the same answer and change nothing. Where the directory is there, what a run gives is what the file
says, and the defaults where it writes one. -/
theorem load_keeps_files :
    Toml.read? template = some (Setting.all.map fun s => (s.name, .string s.default)) ∧
      ∃ result t', (load inTree lookup).run.run t = (result, t') ∧
      (∀ l content, t.get? l = some (.file content) → t'.get? l = some (.file content)) ∧
      ((∀ l content, t'.get? l = some (.file content) → t.get? l = some (.file content)) ∨
        ∃ directory name place, lookup directoryVariable = some directory ∧
          lookup fileVariable = some name ∧
          t.isPresent ⟨Storage.Path.join directory name⟩ = false ∧ t.get? place.location = none ∧
          t'.locate ⟨Storage.Path.join directory name⟩ = .ok place ∧
          ∀ l content, t'.get? l = some (.file content) ↔
            l = place.location ∧ content = Text.Utf8.ofString template ∨
              t.get? l = some (.file content)) ∧
      (((∃ c, result = .ok c) ∨ ∃ s, result = .error (.missing s)) →
        (load inTree lookup).run.run t' = (result, t')) ∧
      (∀ c, result = .ok c → c.missing? = none) ∧
      ∀ directory name, lookup directoryVariable = some directory →
        lookup fileVariable = some name → IsReady t directory →
        (∀ text c, t.read ⟨Storage.Path.join directory name⟩ = .ok (Text.Utf8.ofString text) →
          ofToml? text = some c → result = completed lookup c ∧ t' = t) ∧
        ∀ s, t.isPresent ⟨Storage.Path.join directory name⟩ = false →
          t.write ⟨Storage.Path.join directory name⟩ (Text.Utf8.ofString template) = .ok s →
          result = completed lookup default ∧ t' = s := by
  refine ⟨read?_template, ?_⟩
  rcases hrun : (load inTree lookup).run.run t with ⟨result, t'⟩
  obtain ⟨e, hread, rfl⟩ | ⟨c, hread, rfl⟩ := load_cases hrun
  · obtain ⟨hkeep, hmake⟩ := readFile_files hread
    refine ⟨_, _, rfl, hkeep, hmake, ?_, (fun c hc => nomatch hc), fun _ _ => load_finds hrun⟩
    rintro (⟨c, hc⟩ | ⟨s, hs⟩)
    · cases hc
    · cases hs
      exact absurd rfl (readFile_ne_missing hread s)
  · obtain ⟨hkeep, hmake⟩ := readFile_files hread
    exact ⟨_, _, rfl, hkeep, hmake, fun _ => run_load_of_ok (readFile_again hread),
      fun d hd => missing?_of_completed hd, fun _ _ => load_finds hrun⟩

-- The environment has every value that the template leaves empty, or none.
theorem load_keeps_files_twice :
    let place := fun name => if name = directoryVariable then some "conf" else
      if name = fileVariable then some "bot.toml" else none
    let before : Tree := ⟨.directory [("notes", .file [1, 2])], []⟩
    let after : Tree := ⟨.directory [("notes", .file [1, 2]),
      ("conf", .directory [("bot.toml", .file (Text.Utf8.ofString template))])], []⟩
    template = "server_bind_point = \"0.0.0.0:80\"\nlog_level = \"DEBUG\"\n" ++
      "application_public_key = \"\"\napplication_id = \"\"\n" ++
      "discord_root_endpoint = \"https://discord.com/api/v10\"\n" ++
      "command_endpoint = \"http://localhost:80/api/discord/command\"\n" ++
      "invocation_secret = \"\"\nroll_endpoint = \"\"\nemojify_endpoint = \"\"\n" ∧
    (∀ t ∈ [before, after], (load inTree fun name => some ((place name).getD "x")).run.run t =
      (.ok ⟨"0.0.0.0:80", "DEBUG", "x", "x", "https://discord.com/api/v10", "x", "x", "x", "x"⟩,
        after)) ∧
    ∀ t ∈ [before, after], (load inTree place).run.run t =
      (.error (.missing .applicationPublicKey), after) := by
  intro place before after
  have again : ∀ {lookup result}, (load inTree lookup).run.run before = (result, after) →
      ((∃ c, result = .ok c) ∨ ∃ s, result = .error (.missing s)) →
      ∀ t ∈ [before, after], (load inTree lookup).run.run t = (result, after) := by
    intro lookup result hfirst hresult
    obtain ⟨-, _, _, hrun, -, -, hagain, -⟩ := load_keeps_files lookup before
    obtain ⟨rfl, rfl⟩ := Prod.mk.inj (hfirst.symm.trans hrun)
    simpa using ⟨hfirst, hagain hresult⟩
  refine ⟨by decide +kernel, again ?_ (.inl ⟨_, rfl⟩), again ?_ (.inr ⟨_, rfl⟩)⟩ <;>
    unfold place before after <;> rfl

end DiceBot.Configuration
