import DiceBot.Proofs.Settings.Assignment

namespace DiceBot

namespace Setting

def overridable : List (Setting × String) :=
  [(.applicationPublicKey, "APPLICATION_PUBLIC_KEY"), (.applicationId, "DISCORD_APPLICATION_ID"),
    (.commandEndpoint, "COMMAND_ENDPOINT"), (.invocationSecret, "INVOCATION_SECRET"),
    (.rollEndpoint, "ROLL_ENDPOINT"), (.emojifyEndpoint, "EMOJIFY_ENDPOINT")]

def fixed : List Setting :=
  [.serverBindPoint, .logLevel, .discordRootEndpoint]

theorem environmentName?_eq_some_iff {s : Setting} {name : String} :
    s.environmentName? = some name ↔ (s, name) ∈ overridable := by
  cases s <;> simp [environmentName?, overridable, eq_comm]

end Setting

namespace Configuration

open Setting

variable {lookup : String → Option String} {source : Source} {c : Configuration} {s : Setting}
  {v : String}

def IsUnset (lookup : String → Option String) (s : Setting) : Prop :=
  ∀ name, (s, name) ∈ overridable → lookup name = none ∨ lookup name = some ""

/-- A look-up that prefers what a later one has, unless that is empty. -/
def overriding (earlier later : String → Option String) (name : String) : Option String :=
  ((later name).filter fun v => !v.isEmpty).or (earlier name)

theorem override?_eq_some_iff :
    override? lookup s = some v ↔
      ∃ name, (s, name) ∈ overridable ∧ lookup name = some v ∧ v ≠ "" := by
  rw [override?, Option.filter_eq_some_iff, Option.bind_eq_bind, Option.bind_eq_some_iff]
  simp only [environmentName?_eq_some_iff, Bool.not_eq_true', String.isEmpty_eq_false_iff]
  constructor
  · rintro ⟨⟨name, hname, hv⟩, hne⟩
    exact ⟨name, hname, hv, hne⟩
  · rintro ⟨name, hname, hv, hne⟩
    exact ⟨⟨name, hname, hv⟩, hne⟩

theorem override?_eq_none_iff : override? lookup s = none ↔ IsUnset lookup s := by
  rw [Option.eq_none_iff_forall_ne_some]
  simp only [ne_eq, override?_eq_some_iff, not_exists, not_and, not_not]
  constructor
  · intro h name hname
    cases hv : lookup name with
    | none => exact .inl rfl
    | some v => exact .inr (congrArg some (h v name hname hv))
  · intro h v name hname hv
    obtain hnone | hempty := h name hname
    · rw [hnone] at hv
      cases hv
    · rw [hempty] at hv
      exact (Option.some.inj hv).symm

theorem override?_overriding (earlier later : String → Option String) (s : Setting) :
    override? (overriding earlier later) s = (override? later s).or (override? earlier s) := by
  simp only [override?]
  cases s.environmentName? with
  | none => rfl
  | some name =>
    simp only [Option.bind_eq_bind, Option.bind_some, overriding]
    cases later name with
    | none => rfl
    | some v => by_cases hv : v = "" <;> simp [hv, Option.filter]

theorem get_applyOverrides (lookup : String → Option String) (c : Configuration) (s : Setting) :
    (c.applyOverrides lookup).get s = (override? lookup s).getD (c.get s) :=
  get_ofSettings _ s

theorem applyOverrides_twice (earlier later : String → Option String) (c : Configuration) :
    (c.applyOverrides earlier).applyOverrides later =
      c.applyOverrides (overriding earlier later) := by
  apply ext_get
  intro s
  simp only [get_applyOverrides, override?_overriding]
  cases override? later s <;> rfl

theorem applyOverrides_again (lookup : String → Option String) (c : Configuration) :
    (c.applyOverrides lookup).applyOverrides lookup = c.applyOverrides lookup := by
  apply ext_get
  intro s
  simp only [get_applyOverrides]
  cases override? lookup s <;> rfl

/-- The value of a setting is the environment's, if that has one, else the source's, else the
default. -/
inductive Layers (source : Source) (lookup : String → Option String) (s : Setting) : String → Prop
  | environment {name v : String} (hname : (s, name) ∈ overridable) (hv : lookup name = some v)
      (hne : v ≠ "") : Layers source lookup s v
  | source {v : String} (hunset : IsUnset lookup s) (hv : source.Assigns s v) :
      Layers source lookup s v
  | default (hunset : IsUnset lookup s) (hnone : ∀ v, ¬ source.Assigns s v) :
      Layers source lookup s s.default

theorem get_applyOverrides_eq_iff (h : source.read? = some c) :
    (c.applyOverrides lookup).get s = v ↔ Layers source lookup s v := by
  obtain ⟨o, hc, hassigns⟩ := Source.exists_assigned h s
  rw [get_applyOverrides, hc]
  cases hw : override? lookup s with
  | some w =>
    have hset : ¬ IsUnset lookup s := by
      rw [← override?_eq_none_iff, hw]
      nofun
    constructor
    · rintro rfl
      obtain ⟨name, hname, hv, hne⟩ := override?_eq_some_iff.mp hw
      exact .environment hname hv hne
    · rintro (⟨hname, hv, hne⟩ | ⟨hunset, -⟩ | ⟨hunset, -⟩)
      · have hv := override?_eq_some_iff.mpr ⟨_, hname, hv, hne⟩
        exact Option.some.inj (hw.symm.trans hv)
      · exact absurd hunset hset
      · exact absurd hunset hset
  | none =>
    have hunset := override?_eq_none_iff.mp hw
    constructor
    · rintro rfl
      cases o with
      | none => exact .default hunset (by simp [hassigns])
      | some w => exact .source hunset ((hassigns w).mpr rfl)
    · rintro (⟨hname, hv, hne⟩ | ⟨-, hv⟩ | ⟨-, hnone⟩)
      · have hv := override?_eq_some_iff.mpr ⟨_, hname, hv, hne⟩
        cases hw.symm.trans hv
      · cases (hassigns v).mp hv
        rfl
      · cases o with
        | none => rfl
        | some w => exact absurd ((hassigns w).mpr rfl) (hnone w)

end Configuration

end DiceBot
