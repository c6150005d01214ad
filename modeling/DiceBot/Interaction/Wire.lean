import DiceBot.Interaction.Basic
import DiceBot.Interaction.Message
import DiceBot.Json.Record

namespace DiceBot

open Json

namespace Interaction

def Kind.codec : Codec Kind :=
  Codec.int32.map Kind.ofCode Kind.code

def CommandOption.codec : Codec CommandOption :=
  (Shape.field (.required "name" .text) <| .field (.required "value" .text) .done).codec
    (fun (name, value, _) => ⟨name, value⟩)
    (fun o => (o.name, o.value, ()))

def CommandData.codec : Codec CommandData :=
  (Shape.field (.optional "id" .text) <| .field (.required "name" .text) <|
    .field (.withDefault "options" CommandOption.codec.list []) .done).codec
    (fun (id, name, options, _) => ⟨id, name, options⟩)
    (fun d => (d.id, d.name, d.options, ()))

def codec : Codec Interaction :=
  (Shape.field (.required "type" Kind.codec) <| .field (.withDefault "token" .text "") <|
    .field (.nullable "data" CommandData.codec) .done).codec
    (fun (kind, token, data, _) => ⟨kind, token, data⟩)
    (fun i => (i.kind, i.token, i.data, ()))

end Interaction

def Command.codec : Codec Command :=
  (Shape.field (.required "type" Interaction.Kind.codec) <| .field (.required "token" .text) <|
    .field (.required "data" Interaction.CommandData.codec) .done).codec
    (fun (kind, token, data, _) => ⟨kind, token, data⟩)
    (fun c => (c.kind, c.token, c.data, ()))

def Message.codec : Codec Message :=
  (Shape.field (.required "content" .text) <| .field (.optional "flags" .uint64) .done).codec
    (fun (content, flags, _) => ⟨content, flags⟩)
    (fun m => (m.content, m.flags, ()))

def Reply.Kind.codec : Codec Reply.Kind :=
  Codec.int32.map ofCode code

def Reply.codec : Codec Reply :=
  (Shape.field (.required "type" Reply.Kind.codec) <|
    .field (.optional "data" Message.codec) .done).codec
    (fun (kind, data, _) => ⟨kind, data⟩)
    (fun r => (r.kind, r.data, ()))

end DiceBot
