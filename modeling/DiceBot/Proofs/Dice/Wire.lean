import DiceBot.Dice.Wire
import DiceBot.Proofs.Json.Record

namespace DiceBot.Dice

open Json

theorem Term.codec_lawful : Term.codec.Lawful fun _ => True :=
  (Shape.Lawful.field (.required Codec.uint32_lawful "count") (by decide)
    (.field (.required Codec.uint32_lawful "sides") (by decide)
      (.field (.optional Codec.int64_lawful "modifier") (by decide) .done))).codec
    (fun _ => rfl) (fun _ _ => by simp) (fun _ _ => trivial)

theorem Expression.codec_lawful : Expression.codec.Lawful fun _ => True := by
  simpa using! Term.codec_lawful.list

theorem Request.codec_lawful : Request.codec.Lawful fun _ => True :=
  (Shape.Lawful.field (.required Expression.codec_lawful "dice") (by decide)
    (.field (.required Codec.uint32_lawful "count") (by decide) .done)).codec
    (fun _ => rfl) (fun _ _ => by simp) (fun _ _ => trivial)

theorem Outcome.codec_lawful : Outcome.codec.Lawful fun _ => True :=
  (Shape.Lawful.field (.withDefault Codec.uint32_lawful "count" trivial) (by decide)
    (.field (.withDefault Codec.uint32_lawful "sides" trivial) (by decide)
      (.field (.withDefault Codec.int64_lawful "modifier" trivial) (by decide)
        (.field (.required Codec.int64_lawful.list "rolls") (by decide)
          (.field (.required Codec.int64_lawful "total") (by decide) .done))))).codec
    (fun _ => rfl) (fun _ _ => by simp) (fun _ _ => trivial)

theorem Step.codec_lawful : Step.codec.Lawful fun _ => True :=
  (Shape.Lawful.field (.required Outcome.codec_lawful.list "rolls") (by decide)
    (.field (.required Codec.int64_lawful "total") (by decide) .done)).codec
    (fun _ => rfl) (fun _ _ => by simp) (fun _ _ => trivial)

theorem Result.codec_lawful : Result.codec.Lawful fun _ => True :=
  (Shape.Lawful.field (.required Step.codec_lawful.list "step") (by decide) .done).codec
    (fun _ => rfl) (fun _ _ => by simp) (fun _ _ => trivial)

end DiceBot.Dice
