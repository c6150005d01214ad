import DiceBot.Proofs.Interaction.HandOff
import DiceBot.Proofs.Settings.Completeness

namespace DiceBot

open Text

end DiceBot
