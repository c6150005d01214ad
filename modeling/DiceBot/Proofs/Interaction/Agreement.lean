import DiceBot.Interaction.Wire
import DiceBot.Proofs.Json.Presence

namespace DiceBot

open Json Json.Shape Text

namespace Interaction

variable {ks : List (String × Json)} {items : List Json} {token : String} {data : CommandData}

theorem token_demands :
    (Field.required "token" .text).Demands (Field.withDefault "token" .text "") id :=
  .withDefault "token" .text ""

theorem data_demands :
    (Field.required "data" CommandData.codec).Demands (Field.nullable "data" CommandData.codec)
      some :=
  .nullable "data" rfl

theorem readMember_data_iff :
    readMember (.required "data" CommandData.codec) ks = some data ↔
      readMember (.nullable "data" CommandData.codec) ks = some (some data) := by
  rw [readMember_iff data_demands, and_iff_left_iff_imp]
  intro h
  obtain ⟨v, hv, -⟩ := exists_mem_of_readMember h nofun
  exact ⟨v, hv⟩

theorem readItem_token_data_iff :
    readItem (.required "token" .text) items = some token ∧
        readItem (.required "data" CommandData.codec) items.tail = some data ↔
      readItem (.withDefault "token" .text "") items = some token ∧
        readItem (.nullable "data" CommandData.codec) items.tail = some (some data) := by
  rw [readItem_iff token_demands, readItem_iff data_demands]
  rcases items with - | ⟨v, - | ⟨w, items⟩⟩
  · simp [readItem, Field.nullable]
  · simp [readItem, Field.nullable]
  · simp

theorem read_eq_some_iff {v : Json} {i : Interaction} : codec.read v = some i ↔
    (Shape.field (.required "type" Kind.codec) <| .field (.withDefault "token" .text "") <|
      .field (.nullable "data" CommandData.codec) .done).read v =
        some (i.kind, i.token, i.data, ()) :=
  codec_read_eq_some_iff (fun _ => rfl) fun _ => rfl

end Interaction

open Interaction

theorem Command.read_eq_some_iff {v : Json} {c : Command} : codec.read v = some c ↔
    (Shape.field (.required "type" Kind.codec) <| .field (.required "token" .text) <|
      .field (.required "data" CommandData.codec) .done).read v =
        some (c.kind, c.token, c.data, ()) :=
  codec_read_eq_some_iff (fun _ => rfl) fun _ => rfl

theorem Command.read_object_iff {members : List Member} {c : Command} :
    codec.read (.object members) = some c ↔
      Interaction.codec.read (.object members) = some ⟨c.kind, c.token, some c.data⟩ ∧
        ∃ m ∈ members, textOf? m.1 = some "token" := by
  rw [Command.read_eq_some_iff, Interaction.read_eq_some_iff, Shape.read, Shape.read]
  cases hks : readKeys members with
  | none => simp
  | some ks =>
    have htoken : (∃ m ∈ members, textOf? m.1 = some "token") ↔ ∃ v, ("token", v) ∈ ks := by
      simp only [mem_readKeys_iff hks]
      constructor
      · rintro ⟨m, hm, hkey⟩
        exact ⟨m.2, m, hm, hkey, rfl⟩
      · rintro ⟨-, m, hm, hkey, -⟩
        exact ⟨m, hm, hkey⟩
    simp only [Option.bind_eq_bind, Option.bind_some, readMembers_field_iff, readMember_data_iff,
      readMember_iff token_demands, htoken]
    constructor
    · rintro ⟨hkind, ⟨htext, hm⟩, hdata⟩
      exact ⟨⟨hkind, htext, hdata⟩, hm⟩
    · rintro ⟨⟨hkind, htext, hdata⟩, hm⟩
      exact ⟨hkind, ⟨htext, hm⟩, hdata⟩

theorem Command.read_array_iff {items : List Json} {c : Command} :
    codec.read (.array items) = some c ↔
      Interaction.codec.read (.array items) = some ⟨c.kind, c.token, some c.data⟩ := by
  rw [Command.read_eq_some_iff, Interaction.read_eq_some_iff, Shape.read, Shape.read]
  simp only [readItems_field_iff, ← and_assoc, and_congr_left_iff]
  intro _
  simp only [and_assoc, readItem_token_data_iff]

theorem Command.decode?_iff {bs : Bytes} {c : Command} : codec.decode? bs = some c ↔
    Interaction.codec.decode? bs = some ⟨c.kind, c.token, some c.data⟩ ∧
      ¬ LacksMember "token" bs := by
  rw [Codec.decode?, Codec.decode?]
  cases hv : read? bs with
  | none => simp
  | some v =>
    have hbs := (read?_eq_some_iff bs v).mp hv
    change codec.read v = _ ↔ Interaction.codec.read v = _ ∧ _
    cases v with
    | object members =>
      rw [Command.read_object_iff, lacksMember_object hbs]
      push Not
      rfl
    | array items => rw [Command.read_array_iff, and_iff_left (not_lacksMember_array hbs)]
    | _ =>
      refine ⟨fun h => ?_, fun h => ?_⟩
      · cases h
      · cases h.1

theorem Interaction.data_eq_none_iff {bs : Bytes} {i : Interaction}
    (h : codec.decode? bs = some i) : i.data = none ↔ LacksValue "data" 2 bs := by
  obtain ⟨v, hv, hi⟩ := Option.bind_eq_some_iff.mp h
  have hbs := (read?_eq_some_iff bs v).mp hv
  rw [Interaction.read_eq_some_iff] at hi
  cases v with
  | object members =>
    obtain ⟨ks, hks, hi⟩ := Option.bind_eq_some_iff.mp hi
    simp only [readMembers_field_iff] at hi
    rw [readMember_nullable hi.2.2.1, lacksValue_object hbs]
    simp only [mem_readKeys_iff hks]
    constructor
    · intro hnull m hm hkey
      exact hnull m.2 ⟨m, hm, hkey, rfl⟩
    · rintro hnull v ⟨m, hm, hkey, rfl⟩
      exact hnull m hm hkey
  | array items =>
    simp only [Shape.read, readItems_field_iff] at hi
    have hitem : items[2]? = items.tail.tail.head? := by simp
    rw [readItem_nullable hi.2.2.1, lacksValue_array hbs, hitem]
  | _ => cases hi

/-- A command and the command of an interaction are read alike, whatever bytes they are read from.
Only a token has to be there for the one and not for the other, in an object, and without data
neither is a command. -/
theorem Command.decode?_agrees (bs : Bytes) :
    (∀ c, codec.decode? bs = some c →
      ∃ i, Interaction.codec.decode? bs = some i ∧ i.toCommand = .ok c) ∧
    (∀ i, Interaction.codec.decode? bs = some i → ¬ LacksValue "data" 2 bs →
      ∃ c, i.toCommand = .ok c ∧
        (LacksMember "token" bs → codec.decode? bs = none) ∧
        (¬ LacksMember "token" bs → codec.decode? bs = some c)) ∧
    (LacksValue "data" 2 bs → codec.decode? bs = none ∧
      ∀ i, Interaction.codec.decode? bs = some i → i.toCommand = .error i) ∧
    ∀ i, Interaction.codec.decode? bs = some i → (i.data = none ↔ LacksValue "data" 2 bs) := by
  refine ⟨fun c hc => ?_, fun i hi hdata => ?_, fun hlacks => ⟨?_, fun i hi => ?_⟩,
    fun i hi => Interaction.data_eq_none_iff hi⟩
  · obtain ⟨hi, -⟩ := Command.decode?_iff.mp hc
    exact ⟨_, hi, rfl⟩
  · rw [← Interaction.data_eq_none_iff hi] at hdata
    obtain ⟨data, hdata⟩ := Option.ne_none_iff_exists'.mp hdata
    obtain ⟨kind, token, _⟩ := i
    cases hdata
    refine ⟨⟨kind, token, data⟩, rfl, fun htoken => ?_, fun htoken => ?_⟩
    · rw [Option.eq_none_iff_forall_ne_some]
      intro c hc
      exact (Command.decode?_iff.mp hc).2 htoken
    · exact Command.decode?_iff.mpr ⟨hi, htoken⟩
  · rw [Option.eq_none_iff_forall_ne_some]
    intro c hc
    obtain ⟨hi, -⟩ := Command.decode?_iff.mp hc
    cases (Interaction.data_eq_none_iff hi).mpr hlacks
  · rw [Interaction.toCommand, (Interaction.data_eq_none_iff hi).mpr hlacks]

theorem Command.decode?_agrees_roll :
    (∃ i, Interaction.codec.decode? (Utf8.ofString "[2,\"t\",\x7b\"name\":\"roll\"\x7d]") = some i ∧
      i.toCommand = .ok ⟨.command, "t", ⟨none, "roll", []⟩⟩) ∧
    codec.decode? (Utf8.ofString "\x7b\"type\":2,\"data\":[null,\"roll\"]\x7d") = none ∧
    codec.decode? (Utf8.ofString "\x7b\"type\":2,\"token\":\"t\",\"data\":null\x7d") = none := by
  refine ⟨(Command.decode?_agrees _).1 _ rfl, ?_, ?_⟩
  · have hi : Interaction.codec.decode?
        (Utf8.ofString "\x7b\"type\":2,\"data\":[null,\"roll\"]\x7d") =
          some ⟨.command, "", some ⟨none, "roll", []⟩⟩ :=
      rfl
    obtain ⟨c, -, hlacks, -⟩ := (Command.decode?_agrees _).2.1 _ hi
      ((Interaction.data_eq_none_iff hi).not.mp nofun)
    exact hlacks ⟨[(Utf8.ofString "type", .number (Utf8.ofString "2")),
      (Utf8.ofString "data", .array [.null, .string (Utf8.ofString "roll")])],
      (read?_eq_some_iff _ _).mp rfl, by decide⟩
  · have hi : Interaction.codec.decode?
        (Utf8.ofString "\x7b\"type\":2,\"token\":\"t\",\"data\":null\x7d") =
          some ⟨.command, "t", none⟩ :=
      rfl
    exact ((Command.decode?_agrees _).2.2.1 ((Interaction.data_eq_none_iff hi).mp rfl)).1

end DiceBot
