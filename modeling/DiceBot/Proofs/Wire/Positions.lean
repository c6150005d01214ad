import DiceBot.Proofs.Json.Positions
import DiceBot.Proofs.Wire.Members

namespace DiceBot.WireType

open Json Text

/-- At each of its levels a record may be the array of its values. That array is read as the object
with these values under the names of the record, in order, and with more values than names it is
refused. An expression has no names and is an array of terms only. -/
theorem decode?_array_iff :
    (∀ (w : WireType) {fields : List (String × Schema)} {fill : Json → Json},
      Level fields w.schema fill → ∀ {items : List Json} {bs : Bytes},
      Spells (fill (.array items)).tokens bs →
      (∀ {members : List Member} {cs : Bytes}, IsKeyed (fields.map Prod.fst) items members →
        Spells (fill (.object members)).tokens cs →
        ∀ a, w.codec.decode? bs = some a ↔
          items.length ≤ fields.length ∧ w.codec.decode? cs = some a) ∧
      (fields.length < items.length → w.codec.decode? bs = none)) ∧
    ∀ bs ts, expression.codec.decode? bs = some ts ↔
      ∃ items, Spells (Json.array items).tokens bs ∧
        List.Forall₂ (fun item t => term.codec.read item = some t) items ts := by
  refine ⟨fun w fields fill hlevel items bs hbs => ?_, fun bs ts => ?_⟩
  · have hrecord := w.follows hlevel
    rw [w.decode?_of_spells hbs]
    refine ⟨fun {members cs} hmembers hcs a => ?_, fun hlength => ?_⟩
    · rw [w.decode?_of_spells hcs, hrecord.array hmembers, List.length_map]
      split
      · next hlength => simp [hlength]
      · next hlength => simp [hlength]
    · exact hrecord.array_of_length_lt (by rwa [List.length_map])
  · constructor
    · intro h
      obtain ⟨v, hv, hread⟩ := Option.bind_eq_some_iff.mp h
      obtain ⟨items, rfl, hitems⟩ := Codec.list_read_eq_some_iff.mp hread
      exact ⟨items, (read?_eq_some_iff bs _).mp hv, hitems⟩
    · rintro ⟨items, hbs, hitems⟩
      rw [expression.decode?_of_spells hbs]
      exact Codec.list_read_eq_some_iff.mpr ⟨items, rfl, hitems⟩

theorem decode?_array_iff_option :
    interaction.codec.decode? (rollText "[\"dice\",\"2d6\"]") =
      some (⟨.command, "", some ⟨none, "roll", [⟨"dice", "2d6"⟩]⟩⟩ : Interaction) ∧
    interaction.codec.decode? (rollText "[\"dice\",\"2d6\",null]") = none ∧
    expression.codec.decode? (Utf8.ofString "[[2,6]]") =
      some ([⟨2, 6, none⟩] : Dice.Expression) := by
  let name : Json := .string (Utf8.ofString "dice")
  let value : Json := .string (Utf8.ofString "2d6")
  let members : List Member := [(Utf8.ofString "name", name), (Utf8.ofString "value", value)]
  have hlevel : Level [("name", .plain), ("value", .plain)] interaction.schema rollWith :=
    .member [(Utf8.ofString "type", .number (Utf8.ofString "2"))] [] (.tail _ (.tail _ (.head _))) rfl
      (.member [(Utf8.ofString "name", .string (Utf8.ofString "roll"))] []
        (.tail _ (.tail _ (.head _))) rfl (.item [] [] .top))
  obtain ⟨hrecord, hexpression⟩ := decode?_array_iff
  have hmembers : IsKeyed ["name", "value"] [name, value] members := rfl
  have hobject : Spells (rollWith (.object members)).tokens
      (rollText "\x7b\"name\":\"dice\",\"value\":\"2d6\"\x7d") :=
    (read?_eq_some_iff _ _).mp rfl
  have harray : Spells (rollWith (.array [name, value])).tokens (rollText "[\"dice\",\"2d6\"]") :=
    (read?_eq_some_iff _ _).mp rfl
  have hlonger : Spells (rollWith (.array [name, value, .null])).tokens
      (rollText "[\"dice\",\"2d6\",null]") :=
    (read?_eq_some_iff _ _).mp rfl
  refine ⟨?_, ?_, ?_⟩
  · exact ((hrecord interaction hlevel harray).1 hmembers hobject _).mpr ⟨by decide, rfl⟩
  · exact (hrecord interaction hlevel hlonger).2 (by decide)
  · exact (hexpression _ _).mpr ⟨[.array [.number (Utf8.ofString "2"), .number (Utf8.ofString "6")]],
      (read?_eq_some_iff _ _).mp rfl, .cons rfl .nil⟩

end DiceBot.WireType
