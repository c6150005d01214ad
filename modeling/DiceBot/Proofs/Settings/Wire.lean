import DiceBot.Proofs.Json.Record
import DiceBot.Settings.Configuration

namespace DiceBot.Configuration

open Json

theorem field_lawful (s : Setting) : (field s).Lawful fun _ => True :=
  .withDefault Codec.text_lawful s.name trivial

theorem codec_lawful : codec.Lawful fun _ => True :=
  (Shape.Lawful.field (field_lawful .serverBindPoint) (by decide)
    (.field (field_lawful .logLevel) (by decide)
      (.field (field_lawful .applicationPublicKey) (by decide)
        (.field (field_lawful .applicationId) (by decide)
          (.field (field_lawful .discordRootEndpoint) (by decide)
            (.field (field_lawful .commandEndpoint) (by decide)
              (.field (field_lawful .invocationSecret) (by decide)
                (.field (field_lawful .rollEndpoint) (by decide)
                  (.field (field_lawful .emojifyEndpoint) (by decide) .done))))))))).codec
    (fun _ => rfl) (fun _ _ => by simp) (fun _ _ => trivial)

end DiceBot.Configuration
