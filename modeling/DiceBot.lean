import DiceBot.Http.Session
import DiceBot.Main
import DiceBot.Proofs.Dice.Pieces
import DiceBot.Proofs.Dice.Recognition
import DiceBot.Proofs.Text.Blank
import DiceBot.Startup
import DiceBot.Storage.Tree
import DiceBot.Proofs.Web.Network
import DiceBot.Proofs.Dice.Meaning
import DiceBot.Proofs.Json.HasRead
import DiceBot.Proofs.Json.Lexing
import DiceBot.Proofs.Json.Reading
import DiceBot.Proofs.Text.Lossy
import DiceBot.Proofs.Json.Codec
import DiceBot.Proofs.Json.Record
import DiceBot.Proofs.Interaction.Wire
import DiceBot.Proofs.Http.CommandRoute
import DiceBot.Proofs.Interaction.HandOff
import DiceBot.Proofs.Json.Suffix
import DiceBot.Proofs.Interaction.SignedText
import DiceBot.Proofs.Command.Execution
import DiceBot.Proofs.Http.Session
import DiceBot.Proofs.Interaction.Dispatch
import DiceBot.Proofs.Http.Server
import DiceBot.Proofs.Http.SignatureGate
import DiceBot.Proofs.Http.SecretGate
import DiceBot.Proofs.Http.InteractionReply
import DiceBot.Proofs.Dice.Spelling
import DiceBot.Proofs.Wire.Basic
import DiceBot.Proofs.Wire.Members
import DiceBot.Proofs.Interaction.Agreement
import DiceBot.Proofs.Command.Roll
import DiceBot.Proofs.Dice.Format
import DiceBot.Proofs.Signature.Check
import DiceBot.Proofs.Settings.Load
import DiceBot.Proofs.Http.Acknowledgment
import DiceBot.Proofs.Interaction.Authentication
import DiceBot.Proofs.Dice.Attachment
import DiceBot.Proofs.Web.Webhook
import DiceBot.Proofs.Web.Target
import DiceBot.Proofs.Wire.Positions
