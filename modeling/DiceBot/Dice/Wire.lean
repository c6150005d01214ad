import DiceBot.Dice.Term
import DiceBot.Json.Record

namespace DiceBot.Dice

open Json

def Term.codec : Codec Term :=
  (Shape.field (.required "count" .uint32) <| .field (.required "sides" .uint32) <|
    .field (.optional "modifier" .int64) .done).codec
    (fun (count, sides, modifier, _) => ⟨count, sides, modifier⟩)
    (fun t => (t.count, t.sides, t.modifier, ()))

def Expression.codec : Codec Expression :=
  Term.codec.list

def Request.codec : Codec Request :=
  (Shape.field (.required "dice" Expression.codec) <|
    .field (.required "count" .uint32) .done).codec
    (fun (dice, count, _) => ⟨dice, count⟩)
    (fun r => (r.dice, r.count, ()))

def Outcome.codec : Codec Outcome :=
  (Shape.field (.withDefault "count" .uint32 0) <| .field (.withDefault "sides" .uint32 0) <|
    .field (.withDefault "modifier" .int64 0) <| .field (.required "rolls" Codec.int64.list) <|
    .field (.required "total" .int64) .done).codec
    (fun (count, sides, modifier, rolls, total, _) => ⟨count, sides, modifier, rolls, total⟩)
    (fun o => (o.count, o.sides, o.modifier, o.rolls, o.total, ()))

def Step.codec : Codec Step :=
  (Shape.field (.required "rolls" Outcome.codec.list) <|
    .field (.required "total" .int64) .done).codec
    (fun (rolls, total, _) => ⟨rolls, total⟩)
    (fun s => (s.rolls, s.total, ()))

def Result.codec : Codec Result :=
  (Shape.field (.required "step" Step.codec.list) .done).codec
    (fun (steps, _) => ⟨steps⟩)
    (fun r => (r.steps, ()))

end DiceBot.Dice
