import DiceBot.Proofs.Dice.Wire
import DiceBot.Proofs.Interaction.Wire
import DiceBot.Proofs.Settings.Wire

namespace DiceBot

inductive WireType where
  | commandOption
  | commandData
  | interaction
  | command
  | message
  | reply
  | term
  | expression
  | request
  | outcome
  | step
  | result
  | configuration
  deriving DecidableEq, Repr

namespace WireType

def Value : WireType → Type
  | .commandOption => Interaction.CommandOption
  | .commandData => Interaction.CommandData
  | .interaction => Interaction
  | .command => Command
  | .message => Message
  | .reply => Reply
  | .term => Dice.Term
  | .expression => Dice.Expression
  | .request => Dice.Request
  | .outcome => Dice.Outcome
  | .step => Dice.Step
  | .result => Dice.Result
  | .configuration => Configuration

def codec : (w : WireType) → Json.Codec w.Value
  | .commandOption => Interaction.CommandOption.codec
  | .commandData => Interaction.CommandData.codec
  | .interaction => Interaction.codec
  | .command => Command.codec
  | .message => Message.codec
  | .reply => Reply.codec
  | .term => Dice.Term.codec
  | .expression => Dice.Expression.codec
  | .request => Dice.Request.codec
  | .outcome => Dice.Outcome.codec
  | .step => Dice.Step.codec
  | .result => Dice.Result.codec
  | .configuration => Configuration.codec

/-- Only kinds have codes, and a code that has a name of its own is not kept as a code. -/
def IsCanonical : (w : WireType) → w.Value → Prop
  | .interaction, (i : Interaction) => i.kind.IsCanonical
  | .command, (c : Command) => c.kind.IsCanonical
  | .reply, (r : Reply) => r.kind.IsCanonical
  | _, _ => True

theorem codec_lawful (w : WireType) : w.codec.Lawful w.IsCanonical := by
  cases w with
  | commandOption => exact Interaction.CommandOption.codec_lawful
  | commandData => exact Interaction.CommandData.codec_lawful
  | interaction => exact Interaction.codec_lawful
  | command => exact Command.codec_lawful
  | message => exact Message.codec_lawful
  | reply => exact Reply.codec_lawful
  | term => exact Dice.Term.codec_lawful
  | expression => exact Dice.Expression.codec_lawful
  | request => exact Dice.Request.codec_lawful
  | outcome => exact Dice.Outcome.codec_lawful
  | step => exact Dice.Step.codec_lawful
  | result => exact Dice.Result.codec_lawful
  | configuration => exact Configuration.codec_lawful

/-- What is written is read as what it was written for, exactly if that is canonical; and whatever
is read is canonical, so writing it and reading it again changes nothing. -/
theorem decode?_roundTrip (w : WireType) :
    (∀ a, w.codec.decode? (w.codec.encode a) = some a ↔ w.IsCanonical a) ∧
    ∀ bs a, w.codec.decode? bs = some a →
      w.IsCanonical a ∧ w.codec.decode? (w.codec.encode a) = some a := by
  have h := w.codec_lawful
  refine ⟨fun a => ⟨h.of_decode?, h.decode?_encode⟩, fun bs a ha => ?_⟩
  have hcanonical := h.of_decode? ha
  exact ⟨hcanonical, h.decode?_encode hcanonical⟩

theorem decode?_roundTrip_reply :
    reply.codec.decode? (reply.codec.encode
      (⟨.other Int32.minValue, some ⟨"\x00\"\\😀", some 0⟩⟩ : Reply)) =
        some (⟨.other Int32.minValue, some ⟨"\x00\"\\😀", some 0⟩⟩ : Reply) :=
  ((decode?_roundTrip reply).1 _).mpr ⟨by decide, by decide, by decide⟩

end WireType

end DiceBot
