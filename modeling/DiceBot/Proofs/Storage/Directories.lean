import DiceBot.Proofs.Storage.Change

namespace DiceBot.Storage

section Run

variable {ε α β : Type} {x : ExceptT ε (StateM Tree) α} {t t' : Tree} {a : α} {e : ε}

theorem run_bind_ok (h : x.run.run t = (.ok a, t')) (f : α → ExceptT ε (StateM Tree) β) :
    (x >>= f).run.run t = (f a).run.run t' := by
  rw [ExceptT.run_bind, StateT.run_bind, h]
  rfl

theorem run_bind_error (h : x.run.run t = (.error e, t')) (f : α → ExceptT ε (StateM Tree) β) :
    (x >>= f).run.run t = (.error e, t') := by
  rw [ExceptT.run_bind, StateT.run_bind, h]
  rfl

theorem run_bind_cases {f : α → ExceptT ε (StateM Tree) β} {result : Except ε β}
    (h : (x >>= f).run.run t = (result, t')) :
    (∃ e, x.run.run t = (.error e, t') ∧ result = .error e) ∨
      ∃ a s, x.run.run t = (.ok a, s) ∧ (f a).run.run s = (result, t') := by
  rcases hx : x.run.run t with ⟨e | a, s⟩
  · rw [run_bind_error hx] at h
    cases h
    exact .inl ⟨e, rfl, rfl⟩
  · rw [run_bind_ok hx] at h
    exact .inr ⟨a, s, rfl, h⟩

theorem run_tryCatch (handle : ε → ExceptT ε (StateM Tree) α) :
    (tryCatch x handle).run = x.run >>= fun
      | .ok a => pure (.ok a)
      | .error e => (handle e).run :=
  rfl

theorem run_tryCatch_ok (h : x.run.run t = (.ok a, t'))
    (handle : ε → ExceptT ε (StateM Tree) α) : (tryCatch x handle).run.run t = (.ok a, t') := by
  rw [run_tryCatch, StateT.run_bind, h]
  rfl

theorem run_tryCatch_error (h : x.run.run t = (.error e, t'))
    (handle : ε → ExceptT ε (StateM Tree) α) :
    (tryCatch x handle).run.run t = (handle e).run.run t' := by
  rw [run_tryCatch, StateT.run_bind, h]
  rfl

theorem run_isPresent (p : Path) (t : Tree) :
    (liftM (inTree.isPresent p) : ExceptT ε (StateM Tree) Bool).run.run t =
      (.ok (t.isPresent p), t) :=
  rfl

theorem run_isDirectory (p : Path) (t : Tree) :
    (liftM (inTree.isDirectory p) : ExceptT ε (StateM Tree) Bool).run.run t =
      (.ok (t.isDirectory p), t) :=
  rfl

theorem run_changing_ok {f : Tree → Except Error Tree} (h : f t = .ok t') :
    (changing f).run.run t = (.ok (), t') := by
  simp only [changing, ExceptT.run_mk, StateT.run, h]

theorem run_changing_error {f : Tree → Except Error Tree} {e : Error} (h : f t = .error e) :
    (changing f).run.run t = (.error e, t) := by
  simp only [changing, ExceptT.run_mk, StateT.run, h]

end Run

/-- A computation makes no more than directories; where it succeeds, what it leaves is as it
should be. -/
def Makes (x : ExceptT Error (StateM Tree) Unit) (Q : Tree → Prop) : Prop :=
  ∀ t, t.AddsDirectories (x.run.run t).2 ∧ ((x.run.run t).1 = .ok () → Q (x.run.run t).2)

section Rules

variable {x y : ExceptT Error (StateM Tree) Unit} {Q Q' : Tree → Prop}

theorem Makes.mono (hx : Makes x Q) (hQ : ∀ t, Q t → Q' t) : Makes x Q' :=
  fun t => ⟨(hx t).1, fun hok => hQ _ ((hx t).2 hok)⟩

theorem makes_throw (e : Error) : Makes (throw e) Q :=
  fun _ => ⟨.rfl, fun hok => nomatch hok⟩

theorem makes_changing {f : Tree → Except Error Tree}
    (hf : ∀ t t', f t = .ok t' → t.AddsDirectories t' ∧ Q t') : Makes (changing f) Q := by
  intro t
  cases hft : f t with
  | error e =>
    rw [run_changing_error hft]
    exact ⟨.rfl, fun hok => nomatch hok⟩
  | ok t' =>
    rw [run_changing_ok hft]
    exact ⟨(hf t t' hft).1, fun _ => (hf t t' hft).2⟩

theorem Makes.bind (hx : Makes x Q') (hy : Makes y Q) : Makes (x >>= fun _ => y) Q := by
  intro t
  obtain ⟨hadds, -⟩ := hx t
  rcases hxt : x.run.run t with ⟨e | ⟨⟩, t'⟩
  · rw [hxt] at hadds
    rw [run_bind_error hxt]
    exact ⟨hadds, fun hok => nomatch hok⟩
  · rw [hxt] at hadds
    rw [run_bind_ok hxt]
    exact ⟨hadds.trans (hy t').1, (hy t').2⟩

theorem Makes.tryCatch {handle : Error → ExceptT Error (StateM Tree) Unit} (hx : Makes x Q)
    (hhandle : ∀ e, Makes (handle e) Q) : Makes (MonadExcept.tryCatch x handle) Q := by
  intro t
  obtain ⟨hadds, hmade⟩ := hx t
  rcases hxt : x.run.run t with ⟨e | ⟨⟩, t'⟩
  · rw [hxt] at hadds
    rw [run_tryCatch_error hxt]
    exact ⟨hadds.trans (hhandle e t').1, (hhandle e t').2⟩
  · rw [hxt] at hadds hmade
    rw [run_tryCatch_ok hxt]
    exact ⟨hadds, hmade⟩

end Rules

theorem makes_ensureDirectory (p : Path) :
    Makes (inTree.ensureDirectory p) fun t => t.isDirectory p = true := by
  refine (makes_changing fun t t' h => ?_).tryCatch fun e => ?_
  · obtain ⟨l, hadds, hat⟩ := Tree.makeDirectory_adds h
    exact ⟨hadds.addsDirectories, Tree.isDirectory_iff.mpr ⟨l, hat, hadds.kind?_self⟩⟩
  · intro t
    rw [run_bind_ok (run_isDirectory p t)]
    cases hdirectory : t.isDirectory p with
    | true => exact ⟨.rfl, fun _ => hdirectory⟩
    | false => exact ⟨.rfl, fun hok => nomatch hok⟩

theorem makes_ensureAfter {p : Path} {way : Unit → ExceptT Error (StateM Tree) Unit}
    {Q : Tree → Prop} (hway : Makes (way ()) Q) :
    Makes (inTree.ensureAfter p way) fun t => t.isDirectory p = true := by
  refine (makes_ensureDirectory p).tryCatch fun e => ?_
  split
  · exact hway.bind (makes_ensureDirectory p)
  · exact makes_throw e

theorem makes_ensureEach (ps : List Path) : Makes (inTree.ensureEach ps) fun _ => True := by
  induction ps with
  | nil => exact fun t => ⟨.rfl, fun _ => trivial⟩
  | cons p outer ih => exact (makes_ensureAfter ih).mono fun _ _ => trivial

/-- After a directory is made it is there, unless it is the working directory that is meant. -/
theorem makes_makeDirectories (p : Path) :
    Makes (inTree.makeDirectories p) fun t => p.isHere = true ∨ t.isDirectory p = true := by
  rw [makeDirectories]
  split
  · rename_i hhere
    exact fun t => ⟨.rfl, fun _ => .inl hhere⟩
  · exact (makes_ensureAfter (makes_ensureEach p.parents)).mono fun _ => .inr

end DiceBot.Storage
