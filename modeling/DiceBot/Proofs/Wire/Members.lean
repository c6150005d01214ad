import DiceBot.Proofs.Json.Level
import DiceBot.Proofs.Wire.Basic

namespace DiceBot

open Json Text

namespace Interaction

def CommandOption.schema : Schema :=
  .record [("name", .plain), ("value", .plain)]

def CommandData.schema : Schema :=
  .record [("id", .plain), ("name", .plain), ("options", .list CommandOption.schema)]

def schema : Schema :=
  .record [("type", .plain), ("token", .plain), ("data", CommandData.schema)]

end Interaction

def Command.schema : Schema :=
  .record [("type", .plain), ("token", .plain), ("data", Interaction.CommandData.schema)]

def Message.schema : Schema :=
  .record [("content", .plain), ("flags", .plain)]

def Reply.schema : Schema :=
  .record [("type", .plain), ("data", Message.schema)]

namespace Dice

def Term.schema : Schema :=
  .record [("count", .plain), ("sides", .plain), ("modifier", .plain)]

def Expression.schema : Schema :=
  .list Term.schema

def Request.schema : Schema :=
  .record [("dice", Expression.schema), ("count", .plain)]

def Outcome.schema : Schema :=
  .record [("count", .plain), ("sides", .plain), ("modifier", .plain), ("rolls", .list .plain),
    ("total", .plain)]

def Step.schema : Schema :=
  .record [("rolls", .list Outcome.schema), ("total", .plain)]

def Result.schema : Schema :=
  .record [("step", .list Step.schema)]

end Dice

def Configuration.schema : Schema :=
  .record (Setting.all.map fun s => (s.name, .plain))

def WireType.schema : WireType → Schema
  | .commandOption => Interaction.CommandOption.schema
  | .commandData => Interaction.CommandData.schema
  | .interaction => Interaction.schema
  | .command => Command.schema
  | .message => Message.schema
  | .reply => Reply.schema
  | .term => Dice.Term.schema
  | .expression => Dice.Expression.schema
  | .request => Dice.Request.schema
  | .outcome => Dice.Outcome.schema
  | .step => Dice.Step.schema
  | .result => Dice.Result.schema
  | .configuration => Configuration.schema

namespace Interaction

theorem CommandOption.follows : Follows CommandOption.schema CommandOption.codec.read :=
  (Shape.Follows.field (.required (.plain _) "name") (by decide)
    (.field (.required (.plain _) "value") (by decide) .done)).codec _ _

theorem CommandData.follows : Follows CommandData.schema CommandData.codec.read :=
  (Shape.Follows.field (.optional (.plain _) "id") (by decide)
    (.field (.required (.plain _) "name") (by decide)
      (.field (.withDefault CommandOption.follows.list "options" []) (by decide) .done))).codec _ _

theorem follows : Follows schema codec.read :=
  (Shape.Follows.field (.required (.plain _) "type") (by decide)
    (.field (.withDefault (.plain _) "token" "") (by decide)
      (.field (.nullable CommandData.follows "data") (by decide) .done))).codec _ _

end Interaction

theorem Command.follows : Follows Command.schema Command.codec.read :=
  (Shape.Follows.field (.required (.plain _) "type") (by decide)
    (.field (.required (.plain _) "token") (by decide)
      (.field (.required Interaction.CommandData.follows "data") (by decide) .done))).codec _ _

theorem Message.follows : Follows Message.schema Message.codec.read :=
  (Shape.Follows.field (.required (.plain _) "content") (by decide)
    (.field (.optional (.plain _) "flags") (by decide) .done)).codec _ _

theorem Reply.follows : Follows Reply.schema Reply.codec.read :=
  (Shape.Follows.field (.required (.plain _) "type") (by decide)
    (.field (.optional Message.follows "data") (by decide) .done)).codec _ _

namespace Dice

theorem Term.follows : Follows Term.schema Term.codec.read :=
  (Shape.Follows.field (.required (.plain _) "count") (by decide)
    (.field (.required (.plain _) "sides") (by decide)
      (.field (.optional (.plain _) "modifier") (by decide) .done))).codec _ _

theorem Expression.follows : Follows Expression.schema Expression.codec.read :=
  Term.follows.list

theorem Request.follows : Follows Request.schema Request.codec.read :=
  (Shape.Follows.field (.required Expression.follows "dice") (by decide)
    (.field (.required (.plain _) "count") (by decide) .done)).codec _ _

theorem Outcome.follows : Follows Outcome.schema Outcome.codec.read :=
  (Shape.Follows.field (.withDefault (.plain _) "count" 0) (by decide)
    (.field (.withDefault (.plain _) "sides" 0) (by decide)
      (.field (.withDefault (.plain _) "modifier" 0) (by decide)
        (.field (.required (.list (c := .int64) (.plain _)) "rolls") (by decide)
          (.field (.required (.plain _) "total") (by decide) .done))))).codec _ _

theorem Step.follows : Follows Step.schema Step.codec.read :=
  (Shape.Follows.field (.required Outcome.follows.list "rolls") (by decide)
    (.field (.required (.plain _) "total") (by decide) .done)).codec _ _

theorem Result.follows : Follows Result.schema Result.codec.read :=
  (Shape.Follows.field (.required Step.follows.list "step") (by decide) .done).codec _ _

end Dice

namespace Configuration

theorem field_follows (s : Setting) : (field s).Follows s.name .plain :=
  .withDefault (.plain _) s.name s.default

theorem follows : Follows schema codec.read :=
  (Shape.Follows.field (field_follows .serverBindPoint) (by decide)
    (.field (field_follows .logLevel) (by decide)
      (.field (field_follows .applicationPublicKey) (by decide)
        (.field (field_follows .applicationId) (by decide)
          (.field (field_follows .discordRootEndpoint) (by decide)
            (.field (field_follows .commandEndpoint) (by decide)
              (.field (field_follows .invocationSecret) (by decide)
                (.field (field_follows .rollEndpoint) (by decide)
                  (.field (field_follows .emojifyEndpoint) (by decide) .done))))))))).codec _ _

end Configuration

namespace WireType

theorem follows (w : WireType) : Follows w.schema w.codec.read := by
  cases w with
  | commandOption => exact Interaction.CommandOption.follows
  | commandData => exact Interaction.CommandData.follows
  | interaction => exact Interaction.follows
  | command => exact Command.follows
  | message => exact Message.follows
  | reply => exact Reply.follows
  | term => exact Dice.Term.follows
  | expression => exact Dice.Expression.follows
  | request => exact Dice.Request.follows
  | outcome => exact Dice.Outcome.follows
  | step => exact Dice.Step.follows
  | result => exact Dice.Result.follows
  | configuration => exact Configuration.follows

theorem decode?_of_spells (w : WireType) {bs : Bytes} {v : Json} (h : Spells v.tokens bs) :
    w.codec.decode? bs = w.codec.read v := by
  rw [Codec.decode?, (read?_eq_some_iff bs v).mpr h]
  rfl

/-- Only the members that a record knows count, at each of its levels: neither their order nor other
members nor white space change what is read. No known member may be there twice, and every key has
to stand for a text. -/
theorem decode?_known_members (w : WireType) {fields : List (String × Schema)}
    {fill : Json → Json} (hlevel : Level fields w.schema fill) {members : List Member}
    {bs : Bytes} {a : w.Value} (hbs : Spells (fill (.object members)).tokens bs)
    (ha : w.codec.decode? bs = some a) :
    (∀ others cs, members.Perm others → Spells (fill (.object others)).tokens cs →
      w.codec.decode? cs = some a) ∧
    (∀ before after key v cs, before ++ after = members →
      Spells (fill (.object (before ++ (key, v) :: after))).tokens cs →
      (∀ name, textOf? key = some name → name ∉ fields.map Prod.fst →
        w.codec.decode? cs = some a) ∧
      (∀ name, textOf? key = some name → name ∈ fields.map Prod.fst →
        (∃ m ∈ members, textOf? m.1 = some name) → w.codec.decode? cs = none) ∧
      (textOf? key = none → w.codec.decode? cs = none)) ∧
    ∀ cs, Spells (fill (.object members)).tokens cs → w.codec.decode? cs = some a := by
  have hrecord := w.follows hlevel
  rw [w.decode?_of_spells hbs] at ha
  refine ⟨fun others cs hperm hcs => ?_, ?_, fun cs hcs => ?_⟩
  · rw [w.decode?_of_spells hcs]
    exact (hrecord.perm hperm).symm.trans ha
  · rintro before after key v cs rfl hcs
    rw [w.decode?_of_spells hcs]
    refine ⟨fun name hkey hname => ?_, fun name hkey hname hfirst => ?_, fun hkey => ?_⟩
    · exact (hrecord.unknown hkey hname v before after).trans ha
    · exact hrecord.repeated hkey hname v hfirst
    · exact hrecord.of_not_text (List.mem_append_right before (List.mem_cons_self ..)) hkey
  · rwa [w.decode?_of_spells hcs]

def rollWith (option : Json) : Json :=
  .object [(Utf8.ofString "type", .number (Utf8.ofString "2")), (Utf8.ofString "data", .object
    [(Utf8.ofString "name", .string (Utf8.ofString "roll")), (Utf8.ofString "options", .array [option])])]

def rollText (option : String) : Bytes :=
  Utf8.ofString "\x7b\"type\":2,\"data\":\x7b\"name\":\"roll\",\"options\":[" ++ Utf8.ofString option ++
    Utf8.ofString "]\x7d\x7d"

theorem decode?_known_members_option :
    (∀ option ∈ ["\x7b\"name\":\"dice\",\"value\":\"2d6\"\x7d",
        "\x7b \"value\" : \"2d6\",\n\"name\":\"dice\"\x7d",
        "\x7b\"name\":\"dice\",\"type\":[[-1e999]],\"value\":\"2d6\"\x7d"],
      interaction.codec.decode? (rollText option) =
        some (⟨.command, "", some ⟨none, "roll", [⟨"dice", "2d6"⟩]⟩⟩ : Interaction)) ∧
    interaction.codec.decode?
      (rollText "\x7b\"name\":\"dice\",\"value\":\"2d6\",\"name\":null\x7d") = none := by
  let name : Member := (Utf8.ofString "name", .string (Utf8.ofString "dice"))
  let value : Member := (Utf8.ofString "value", .string (Utf8.ofString "2d6"))
  have hlevel : Level [("name", .plain), ("value", .plain)] interaction.schema rollWith :=
    .member [(Utf8.ofString "type", .number (Utf8.ofString "2"))] [] (.tail _ (.tail _ (.head _))) rfl
      (.member [(Utf8.ofString "name", .string (Utf8.ofString "roll"))] [] (.tail _ (.tail _ (.head _))) rfl
        (.item [] [] .top))
  have hbs : Spells (rollWith (.object [name, value])).tokens
      (rollText "\x7b\"name\":\"dice\",\"value\":\"2d6\"\x7d") :=
    (read?_eq_some_iff _ _).mp rfl
  have ha : interaction.codec.decode? (rollText "\x7b\"name\":\"dice\",\"value\":\"2d6\"\x7d") =
      some (⟨.command, "", some ⟨none, "roll", [⟨"dice", "2d6"⟩]⟩⟩ : Interaction) := rfl
  obtain ⟨hperm, hinsert, -⟩ := interaction.decode?_known_members hlevel hbs ha
  have hunknown := (hinsert [name] [value] (Utf8.ofString "type")
    (.array [.array [.number (Utf8.ofString "-1e999")]])
    (rollText "\x7b\"name\":\"dice\",\"type\":[[-1e999]],\"value\":\"2d6\"\x7d") rfl
    ((read?_eq_some_iff _ _).mp rfl)).1
  have hrepeated := (hinsert [name, value] [] (Utf8.ofString "name") .null
    (rollText "\x7b\"name\":\"dice\",\"value\":\"2d6\",\"name\":null\x7d") rfl
    ((read?_eq_some_iff _ _).mp rfl)).2.1
  simp only [List.forall_mem_cons]
  refine ⟨⟨ha, ?_, ?_, nofun⟩, ?_⟩
  · exact hperm [value, name] _ (.swap _ _ _) ((read?_eq_some_iff _ _).mp rfl)
  · exact hunknown "type" rfl (by decide)
  · exact hrepeated "name" rfl (by decide) ⟨name, by simp, rfl⟩

/-- A member is refused when its key stands for no text, though no member has that name. -/
theorem decode?_surrogate_key :
    interaction.codec.decode? (Utf8.ofString "\x7b\"type\":1\x7d") =
      some (⟨.ping, "", none⟩ : Interaction) ∧
    Spells (Json.object [(Utf8.ofString "type", .number (Utf8.ofString "1")),
        (Utf8.ofString "\\ud800", .null)]).tokens
      (Utf8.ofString "\x7b\"type\":1,\"\\ud800\":null\x7d") ∧
    (∀ name ∈ ["type", "token", "data"], textOf? (Utf8.ofString "\\ud800") ≠ some name) ∧
    interaction.codec.decode? (Utf8.ofString "\x7b\"type\":1,\"\\ud800\":null\x7d") = none := by
  have htext : textOf? (Utf8.ofString "\\ud800") = none := rfl
  refine ⟨rfl, (read?_eq_some_iff _ _).mp rfl, fun name _ => ?_, rfl⟩
  rw [htext]
  nofun

end WireType

end DiceBot
