import DiceBot.Interaction.Wire
import DiceBot.Proofs.Json.Record

namespace DiceBot

open Json

namespace Interaction

/-- A code that has a name of its own is not kept as a code. -/
def Kind.IsCanonical (k : Kind) : Prop :=
  k ≠ .other 1 ∧ k ≠ .other 2

theorem Kind.ofCode_code {k : Kind} (h : k.IsCanonical) : ofCode k.code = k := by
  cases k with
  | ping => rfl
  | command => rfl
  | other code =>
    have h1 : code ≠ 1 := fun hc => h.1 (congrArg other hc)
    have h2 : code ≠ 2 := fun hc => h.2 (congrArg other hc)
    rw [Kind.code, ofCode, if_neg h1, if_neg h2]

theorem Kind.code_eq_one_iff {k : Kind} (h : k.IsCanonical) : k.code = 1 ↔ k = .ping := by
  constructor
  · intro hk
    rw [← ofCode_code h, hk]
    rfl
  · rintro rfl
    rfl

theorem Kind.isCanonical_ofCode (code : Int32) : (ofCode code).IsCanonical := by
  rw [ofCode]
  split
  · exact ⟨nofun, nofun⟩
  split
  · exact ⟨nofun, nofun⟩
  · next h1 h2 => exact ⟨fun h => h1 (Kind.other.inj h), fun h => h2 (Kind.other.inj h)⟩

theorem Kind.codec_lawful : Kind.codec.Lawful Kind.IsCanonical :=
  Codec.int32_lawful.map (fun _ => ofCode_code) (fun _ _ => trivial)
    fun code _ => isCanonical_ofCode code

theorem CommandOption.codec_lawful : CommandOption.codec.Lawful fun _ => True :=
  (Shape.Lawful.field (.required Codec.text_lawful "name") (by decide)
    (.field (.required Codec.text_lawful "value") (by decide) .done)).codec
    (fun _ => rfl) (fun _ _ => ⟨trivial, trivial, trivial⟩) (fun _ _ => trivial)

theorem CommandData.codec_lawful : CommandData.codec.Lawful fun _ => True :=
  (Shape.Lawful.field (.optional Codec.text_lawful "id") (by decide)
    (.field (.required Codec.text_lawful "name") (by decide)
      (.field (.withDefault CommandOption.codec_lawful.list "options" (by simp)) (by decide)
        .done))).codec
    (fun _ => rfl) (fun _ _ => by simp) (fun _ _ => trivial)

theorem codec_lawful : codec.Lawful fun i => i.kind.IsCanonical :=
  (Shape.Lawful.field (.required Kind.codec_lawful "type") (by decide)
    (.field (.withDefault Codec.text_lawful "token" trivial) (by decide)
      (.field (.nullable CommandData.codec_lawful "data") (by decide) .done))).codec
    (fun _ => rfl) (fun _ h => by simpa using h) (fun _ h => h.1)

end Interaction

theorem Command.codec_lawful : Command.codec.Lawful fun c => c.kind.IsCanonical :=
  (Shape.Lawful.field (.required Interaction.Kind.codec_lawful "type") (by decide)
    (.field (.required Codec.text_lawful "token") (by decide)
      (.field (.required Interaction.CommandData.codec_lawful "data") (by decide) .done))).codec
    (fun _ => rfl) (fun _ h => by simpa using h) (fun _ h => h.1)

theorem Message.codec_lawful : Message.codec.Lawful fun _ => True :=
  (Shape.Lawful.field (.required Codec.text_lawful "content") (by decide)
    (.field (.optional Codec.uint64_lawful "flags") (by decide) .done)).codec
    (fun _ => rfl) (fun _ _ => by simp) (fun _ _ => trivial)

namespace Reply

def Kind.IsCanonical (k : Kind) : Prop :=
  k ≠ .other 1 ∧ k ≠ .other 4 ∧ k ≠ .other 5

theorem Kind.ofCode_code {k : Kind} (h : k.IsCanonical) : ofCode k.code = k := by
  cases k with
  | pong => rfl
  | message => rfl
  | deferred => rfl
  | other code =>
    have h1 : code ≠ 1 := fun hc => h.1 (congrArg other hc)
    have h4 : code ≠ 4 := fun hc => h.2.1 (congrArg other hc)
    have h5 : code ≠ 5 := fun hc => h.2.2 (congrArg other hc)
    rw [Kind.code, ofCode, if_neg h1, if_neg h4, if_neg h5]

theorem Kind.isCanonical_ofCode (code : Int32) : (ofCode code).IsCanonical := by
  rw [ofCode]
  split
  · exact ⟨nofun, nofun, nofun⟩
  split
  · exact ⟨nofun, nofun, nofun⟩
  split
  · exact ⟨nofun, nofun, nofun⟩
  · next h1 h4 h5 =>
    exact ⟨fun h => h1 (Kind.other.inj h), fun h => h4 (Kind.other.inj h),
      fun h => h5 (Kind.other.inj h)⟩

theorem Kind.codec_lawful : Kind.codec.Lawful Kind.IsCanonical :=
  Codec.int32_lawful.map (fun _ => ofCode_code) (fun _ _ => trivial)
    fun code _ => isCanonical_ofCode code

theorem codec_lawful : codec.Lawful fun r => r.kind.IsCanonical :=
  (Shape.Lawful.field (.required Kind.codec_lawful "type") (by decide)
    (.field (.optional Message.codec_lawful "data") (by decide) .done)).codec
    (fun _ => rfl) (fun _ h => by simpa using h) (fun _ h => h.1)

end Reply

end DiceBot
