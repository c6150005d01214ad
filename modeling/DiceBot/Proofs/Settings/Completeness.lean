import DiceBot.Proofs.Settings.Acceptance
import DiceBot.Proofs.Settings.Override
import DiceBot.Proofs.Text.Blank

namespace DiceBot

namespace Setting

def required : List Setting :=
  [.serverBindPoint, .applicationPublicKey, .applicationId, .discordRootEndpoint, .commandEndpoint,
    .invocationSecret, .rollEndpoint, .emojifyEndpoint]

theorem filter_isRequired : all.filter isRequired = required :=
  rfl

end Setting

namespace Configuration

open Setting Text

variable {lookup : String → Option String} {c : Configuration} {s : Setting}

theorem missing?_eq_find? (c : Configuration) :
    c.missing? = required.find? fun s => isAllBlank (c.get s) := by
  simp only [missing?, ← filter_isRequired, List.find?_filter, Bool.decide_and, Bool.decide_eq_true]

theorem missing?_eq_none_iff :
    c.missing? = none ↔ ∀ s ∈ required, ∃ ch ∈ (c.get s).toList, isBlank ch = false := by
  simp only [missing?_eq_find?, List.find?_eq_none, Bool.not_eq_true, isAllBlank_eq_false_iff]

theorem missing?_eq_some_iff :
    c.missing? = some s ↔ (∀ ch ∈ (c.get s).toList, isBlank ch = true) ∧
      ∃ before after, required = before ++ s :: after ∧
        ∀ t ∈ before, ∃ ch ∈ (c.get t).toList, isBlank ch = false := by
  simp only [missing?_eq_find?, List.find?_eq_some_iff_append, isAllBlank_iff, Bool.not_eq_true',
    isAllBlank_eq_false_iff]

structure IsLayered (source : Source) (lookup : String → Option String) (c : Configuration) :
    Prop where
  get_iff : ∀ s v, (c.applyOverrides lookup).get s = v ↔ Layers source lookup s v
  get_eq : ∀ s ∈ fixed, ∀ other,
    (c.applyOverrides other).get s = (c.applyOverrides lookup).get s
  again : (c.applyOverrides lookup).applyOverrides lookup = c.applyOverrides lookup
  twice : ∀ later,
    (c.applyOverrides lookup).applyOverrides later = c.applyOverrides (overriding lookup later)
  complete_iff : (c.applyOverrides lookup).missing? = none ↔
    ∀ s ∈ required, ∃ ch ∈ ((c.applyOverrides lookup).get s).toList, isBlank ch = false
  missing_iff : ∀ s, (c.applyOverrides lookup).missing? = some s ↔
    (∀ ch ∈ ((c.applyOverrides lookup).get s).toList, isBlank ch = true) ∧
      ∃ before after, required = before ++ s :: after ∧
        ∀ t ∈ before, ∃ ch ∈ ((c.applyOverrides lookup).get t).toList, isBlank ch = false

/-- Every setting has the value of the first layer that has one: the environment, the source, the
defaults. -/
theorem applyOverrides_isLayered (source : Source) :
    ((∃ c, source.read? = some c) ↔ source.IsAccepted) ∧
      ∀ c lookup, source.read? = some c → IsLayered source lookup c := by
  refine ⟨Source.exists_read?_iff, fun c lookup h => ?_⟩
  have hkept : ∀ s ∈ fixed, ∀ l,
      (c.applyOverrides l).get s = c.get s := by
    simp only [fixed, List.forall_mem_cons]
    exact ⟨fun _ => rfl, fun _ => rfl, fun _ => rfl, nofun⟩
  exact {
    get_iff := fun s v => get_applyOverrides_eq_iff h
    get_eq := fun s hs other => (hkept s hs other).trans (hkept s hs lookup).symm
    again := applyOverrides_again lookup c
    twice := fun later => applyOverrides_twice lookup later c
    complete_iff := missing?_eq_none_iff
    missing_iff := fun s => missing?_eq_some_iff }

theorem applyOverrides_isLayered_partial :
    let source := Source.toml
      "emojify_endpoint = 'http://file/e'\n\"x\" = [1]\nroll_endpoint = \"http://file/r\"\n"
    let lookup := fun name => if name = "ROLL_ENDPOINT" then some "http://env/r" else
      if name = "EMOJIFY_ENDPOINT" then some "" else none
    let c : Configuration :=
      { default with rollEndpoint := "http://file/r", emojifyEndpoint := "http://file/e" }
    source.read? = some c ∧ source.IsAccepted ∧ IsLayered source lookup c ∧
      c.applyOverrides lookup = { c with rollEndpoint := "http://env/r" } ∧
      (c.applyOverrides lookup).missing? = some .applicationPublicKey := by
  intro source lookup c
  have hc : source.read? = some c := by decide +kernel
  obtain ⟨haccepted, hlayered⟩ := applyOverrides_isLayered source
  exact ⟨hc, haccepted.mp ⟨c, hc⟩, hlayered c lookup hc, by decide, by decide +kernel⟩

/-- The environment has a blank value for a setting, which counts because it is not empty. -/
def IsBlanked (lookup : String → Option String) (s : Setting) : Prop :=
  ∃ name v, (s, name) ∈ overridable ∧ lookup name = some v ∧ v ≠ "" ∧
    ∀ ch ∈ v.toList, isBlank ch = true

theorem mem_required_of_mem_overridable {p : Setting × String} (h : p ∈ overridable) :
    p.1 ∈ required := by
  have hall : ∀ p ∈ overridable, p.1 ∈ required := by decide
  exact hall p h

theorem isBlanked_iff (hs : ∃ ch ∈ (c.get s).toList, isBlank ch = false) :
    IsBlanked lookup s ↔ ∀ ch ∈ ((c.applyOverrides lookup).get s).toList, isBlank ch = true := by
  rw [get_applyOverrides]
  cases hv : override? lookup s with
  | none =>
    obtain ⟨ch, hch, hfalse⟩ := hs
    constructor
    · rintro ⟨name, v, hname, hlookup, hne, -⟩
      cases hv.symm.trans (override?_eq_some_iff.mpr ⟨name, hname, hlookup, hne⟩)
    · intro h
      rw [h ch hch] at hfalse
      cases hfalse
  | some v =>
    constructor
    · rintro ⟨name, w, hname, hlookup, hne, hblank⟩
      cases hv.symm.trans (override?_eq_some_iff.mpr ⟨name, hname, hlookup, hne⟩)
      exact hblank
    · intro h
      obtain ⟨name, hname, hlookup, hne⟩ := override?_eq_some_iff.mp hv
      exact ⟨name, v, hname, hlookup, hne, h⟩

/-- Of a complete configuration, the settings are missing afterwards that a blank value of the
environment replaces. -/
theorem missing?_applyOverrides_of_complete (hc : c.missing? = none)
    (lookup : String → Option String) :
    ((c.applyOverrides lookup).missing? = none ↔ ∀ s, ¬ IsBlanked lookup s) ∧
      ∀ s, (c.applyOverrides lookup).missing? = some s ↔ IsBlanked lookup s ∧
        ∃ before after, required = before ++ s :: after ∧ ∀ t ∈ before, ¬ IsBlanked lookup t := by
  rw [missing?_eq_none_iff] at hc
  have hblank : ∀ s ∈ required,
      ((∀ ch ∈ ((c.applyOverrides lookup).get s).toList, isBlank ch = true) ↔
        IsBlanked lookup s) := fun s hs => (isBlanked_iff (hc s hs)).symm
  have hfilled : ∀ s ∈ required,
      ((∃ ch ∈ ((c.applyOverrides lookup).get s).toList, isBlank ch = false) ↔
        ¬ IsBlanked lookup s) := by
    intro s hs
    rw [← hblank s hs]
    simp
  constructor
  · rw [missing?_eq_none_iff, forall₂_congr hfilled]
    constructor
    · rintro h s hs
      obtain ⟨name, v, hname, -⟩ := id hs
      exact h s (mem_required_of_mem_overridable hname) hs
    · exact fun h s _ => h s
  · intro s
    have hmem : ∀ {before after : List Setting}, required = before ++ s :: after →
        s ∈ required ∧ ∀ t ∈ before, t ∈ required := by
      intro before after h
      rw [h]
      exact ⟨List.mem_append_right _ (List.mem_cons_self ..), fun t ht => List.mem_append_left _ ht⟩
    rw [missing?_eq_some_iff]
    constructor
    · rintro ⟨hs, before, after, h, hbefore⟩
      obtain ⟨hmem, hmems⟩ := hmem h
      exact ⟨(hblank s hmem).mp hs, before, after, h,
        fun t ht => (hfilled t (hmems t ht)).mp (hbefore t ht)⟩
    · rintro ⟨hs, before, after, h, hbefore⟩
      obtain ⟨hmem, hmems⟩ := hmem h
      exact ⟨(hblank s hmem).mpr hs, before, after, h,
        fun t ht => (hfilled t (hmems t ht)).mpr (hbefore t ht)⟩

def deployed : Configuration :=
  { default with
    applicationPublicKey := "197f6b23e16c8532c6abc838facd5ea789be0c76b2920334039bfa8b3d368d61"
    applicationId := "1234"
    commandEndpoint := "http://[::1]/api/discord/command"
    invocationSecret := "s3cret"
    rollEndpoint := "http://roll.local/roll"
    emojifyEndpoint := "http://emojify.local/" }

theorem missing?_deployed : deployed.missing? = none := by
  decide +kernel

theorem missing?_applyOverrides_of_complete_deployed :
    let lookup := fun name => if name = "ROLL_ENDPOINT" then some "" else
      if name = "INVOCATION_SECRET" then some "an other" else none
    deployed.missing? = none ∧ (deployed.applyOverrides lookup).missing? = none := by
  intro lookup
  refine ⟨missing?_deployed,
    (missing?_applyOverrides_of_complete missing?_deployed lookup).1.mpr ?_⟩
  rintro s ⟨name, v, -, hv, hne, hblank⟩
  simp only [lookup] at hv
  split at hv
  · cases hv
    exact hne rfl
  split at hv
  · cases hv
    exact absurd (hblank 'a' (by decide)) (by decide)
  · cases hv

/-- A complete configuration is incomplete once a blank value of the environment, though it is not
empty, replaces one that is there. -/
theorem missing?_applyOverrides_blank :
    let lookup := fun name => if name = "ROLL_ENDPOINT" then some "\u3000" else none
    deployed.missing? = none ∧ deployed.rollEndpoint = "http://roll.local/roll" ∧
      (deployed.applyOverrides lookup).rollEndpoint = "\u3000" ∧
      (deployed.applyOverrides lookup).missing? = some .rollEndpoint := by
  refine ⟨missing?_deployed, rfl, rfl, ?_⟩
  decide +kernel

end Configuration

end DiceBot
