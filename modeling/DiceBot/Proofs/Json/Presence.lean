import DiceBot.Proofs.Json.Members

namespace DiceBot.Json

variable {α β : Type}

def LacksMember (name : String) (bs : Bytes) : Prop :=
  ∃ members, Spells (Json.object members).tokens bs ∧ ∀ m ∈ members, textOf? m.1 ≠ some name

/-- The record that a text spells has nothing but null under this name, or in this position if it
is an array. -/
def LacksValue (name : String) (position : Nat) (bs : Bytes) : Prop :=
  (∃ members, Spells (Json.object members).tokens bs ∧
    ∀ m ∈ members, textOf? m.1 = some name → m.2 = .null) ∨
  ∃ items, Spells (Json.array items).tokens bs ∧ ∀ v ∈ items[position]?, v = .null

theorem eq_of_spells {v w : Json} {bs : Bytes} (hv : Spells v.tokens bs)
    (hw : Spells w.tokens bs) : v = w :=
  Option.some_inj.mp (((read?_eq_some_iff bs v).mpr hv).symm.trans ((read?_eq_some_iff bs w).mpr hw))

section

variable {name : String} {position : Nat} {bs : Bytes} {members : List Member} {items : List Json}

theorem lacksMember_object (h : Spells (Json.object members).tokens bs) :
    LacksMember name bs ↔ ∀ m ∈ members, textOf? m.1 ≠ some name := by
  constructor
  · rintro ⟨others, hothers, hlacks⟩
    cases eq_of_spells h hothers
    exact hlacks
  · exact fun hlacks => ⟨members, h, hlacks⟩

theorem not_lacksMember_array (h : Spells (Json.array items).tokens bs) :
    ¬ LacksMember name bs := by
  rintro ⟨members, hmembers, -⟩
  cases eq_of_spells h hmembers

theorem lacksValue_object (h : Spells (Json.object members).tokens bs) :
    LacksValue name position bs ↔ ∀ m ∈ members, textOf? m.1 = some name → m.2 = .null := by
  constructor
  · rintro (⟨others, hothers, hlacks⟩ | ⟨items, hitems, -⟩)
    · cases eq_of_spells h hothers
      exact hlacks
    · cases eq_of_spells h hitems
  · exact fun hlacks => .inl ⟨members, h, hlacks⟩

theorem lacksValue_array (h : Spells (Json.array items).tokens bs) :
    LacksValue name position bs ↔ ∀ v ∈ items[position]?, v = .null := by
  constructor
  · rintro (⟨members, hmembers, -⟩ | ⟨others, hothers, hlacks⟩)
    · cases eq_of_spells h hmembers
    · cases eq_of_spells h hothers
      exact hlacks
  · exact fun hlacks => .inr ⟨items, h, hlacks⟩

end

theorem Codec.nullable_read_eq_some_iff {c : Codec α} (hnull : c.read .null = none) {v : Json}
    {a : α} : c.nullable.read v = some (some a) ↔ c.read v = some a := by
  have hread : ∀ o : Option α, o.map some = some (some a) ↔ o = some a := by simp
  cases v with
  | null => simp [nullable, hnull]
  | _ => exact hread _

theorem Codec.nullable_read_eq_none_iff {c : Codec α} {v : Json} :
    c.nullable.read v = some none ↔ v = .null := by
  have hread : ∀ o : Option α, o.map some ≠ some none := by simp
  cases v with
  | null => exact ⟨fun _ => rfl, fun _ => rfl⟩
  | _ => exact ⟨fun h => absurd h (hread _), nofun⟩

/-- What `strict` reads, `lenient` reads as `f` of it, and the reverse; only `strict` has to be
there. -/
structure Field.Demands (strict : Field α) (lenient : Field β) (f : α → β) : Prop where
  name_eq : strict.name = lenient.name
  absent : strict.absent = none
  read_iff : ∀ {v a}, strict.read v = some a ↔ lenient.read v = some (f a)

namespace Field

variable {c : Codec α}

theorem Demands.withDefault (name : String) (c : Codec α) (a : α) :
    (required name c).Demands (withDefault name c a) id where
  name_eq := rfl
  absent := rfl
  read_iff := Iff.rfl

theorem Demands.nullable (name : String) (hnull : c.read .null = none) :
    (required name c).Demands (nullable name c) some where
  name_eq := rfl
  absent := rfl
  read_iff := (Codec.nullable_read_eq_some_iff hnull).symm

end Field

namespace Shape

theorem mem_readKeys_iff {members : List Member} {ks : List (String × Json)}
    (h : readKeys members = some ks) {name : String} {v : Json} :
    (name, v) ∈ ks ↔ ∃ m ∈ members, textOf? m.1 = some name ∧ m.2 = v := by
  constructor
  · intro hv
    obtain ⟨htexts, rfl⟩ := readKeys_eq_some_iff.mp h
    obtain ⟨m, hm, heq⟩ := List.mem_map.mp hv
    obtain ⟨other, hother⟩ := Option.ne_none_iff_exists'.mp (htexts m hm)
    rw [hother] at heq
    cases heq
    exact ⟨m, hm, hother, rfl⟩
  · rintro ⟨m, hm, hkey, rfl⟩
    exact mem_of_readKeys h hm hkey

theorem readMembers_field_iff {f : Field α} {rest : Shape β} {ks : List (String × Json)} {a : α}
    {b : β} : (Shape.field f rest).readMembers ks = some (a, b) ↔
      readMember f ks = some a ∧ rest.readMembers ks = some b := by
  simp [readMembers, Option.bind_eq_some_iff]

theorem readItems_field_iff {f : Field α} {rest : Shape β} {items : List Json} {a : α} {b : β} :
    (Shape.field f rest).readItems items = some (a, b) ↔
      readItem f items = some a ∧ rest.readItems items.tail = some b := by
  simp [readItems, Option.bind_eq_some_iff]

theorem codec_read_eq_some_iff {s : Shape α} {build : α → β} {parts : β → α}
    (hparts : ∀ a, parts (build a) = a) (hbuild : ∀ b, build (parts b) = b) {v : Json} {b : β} :
    (s.codec build parts).read v = some b ↔ s.read v = some (parts b) := by
  constructor
  · intro h
    obtain ⟨a, ha, rfl⟩ := Option.map_eq_some_iff.mp h
    rwa [hparts]
  · intro h
    exact Option.map_eq_some_iff.mpr ⟨parts b, h, hbuild b⟩

variable {strict : Field α} {lenient : Field β} {f : α → β} {ks : List (String × Json)}
  {items : List Json} {a : α}

theorem readMember_eq_some_iff {f : Field α} :
    readMember f ks = some a ↔ (f.absent = some a ∧ ∀ v, (f.name, v) ∉ ks) ∨
      ∃ v, ks.filter (fun m => m.1 == f.name) = [(f.name, v)] ∧ f.read v = some a := by
  have hmem : ∀ m, m ∈ ks.filter (fun m => m.1 == f.name) ↔ m ∈ ks ∧ m.1 = f.name := by simp
  unfold readMember
  generalize ks.filter (fun m => m.1 == f.name) = ms at hmem ⊢
  match ms with
  | [] =>
    have hnone : ∀ v, (f.name, v) ∉ ks := fun v hv => nomatch (hmem (f.name, v)).mpr ⟨hv, rfl⟩
    simp [hnone]
  | [(name, v)] =>
    obtain ⟨hv, rfl⟩ := (hmem (name, v)).mp (List.mem_singleton_self _)
    have hsome : ¬ ∀ w, (f.name, w) ∉ ks := fun h => h v hv
    simp [hsome]
  | (name, v) :: _ :: _ =>
    obtain ⟨hv, rfl⟩ := (hmem (name, v)).mp List.mem_cons_self
    have hsome : ¬ ∀ w, (f.name, w) ∉ ks := fun h => h v hv
    simp [hsome]

theorem exists_mem_of_readMember {f : Field α} (h : readMember f ks = some a)
    (habsent : f.absent ≠ some a) : ∃ v, (f.name, v) ∈ ks ∧ f.read v = some a := by
  obtain ⟨h, -⟩ | ⟨v, hks, h⟩ := readMember_eq_some_iff.mp h
  · exact absurd h habsent
  · exact ⟨v, List.mem_of_mem_filter (hks ▸ List.mem_singleton_self _), h⟩

theorem readMember_iff (h : strict.Demands lenient f) :
    readMember strict ks = some a ↔
      readMember lenient ks = some (f a) ∧ ∃ v, (strict.name, v) ∈ ks := by
  have habsent : strict.absent ≠ some a := h.absent ▸ nofun
  constructor
  · intro ha
    obtain ⟨v, hv, -⟩ := exists_mem_of_readMember ha habsent
    obtain ⟨ha, -⟩ | ⟨w, hks, ha⟩ := readMember_eq_some_iff.mp ha
    · exact absurd ha habsent
    · rw [h.name_eq] at hks
      exact ⟨readMember_eq_some_iff.mpr (.inr ⟨w, hks, h.read_iff.mp ha⟩), v, hv⟩
  · rintro ⟨ha, v, hv⟩
    obtain ⟨-, hnone⟩ | ⟨w, hks, ha⟩ := readMember_eq_some_iff.mp ha
    · exact absurd (h.name_eq ▸ hv) (hnone v)
    · rw [← h.name_eq] at hks
      exact readMember_eq_some_iff.mpr (.inr ⟨w, hks, h.read_iff.mpr ha⟩)

theorem readMember_nullable {name : String} {c : Codec α} {o : Option α}
    (h : readMember (.nullable name c) ks = some o) :
    o = none ↔ ∀ v, (name, v) ∈ ks → v = .null := by
  obtain ⟨ho, hnone⟩ | ⟨w, hks, ho⟩ := readMember_eq_some_iff.mp h
  · exact ⟨fun _ v hv => absurd hv (hnone v), fun _ => (Option.some_inj.mp ho).symm⟩
  have hmem : ∀ v, (name, v) ∈ ks ↔ v = w := by
    intro v
    have hfilter : (name, v) ∈ ks.filter (fun m => m.1 == name) ↔ (name, v) ∈ [(name, w)] :=
      iff_of_eq (congrArg _ hks)
    simpa using hfilter
  have hnull : o = none ↔ w = .null := by
    rw [← Codec.nullable_read_eq_none_iff (c := c), ← Option.some_inj, ← ho]
    rfl
  simp [hmem, hnull]

theorem readItem_nullable {name : String} {c : Codec α} {o : Option α}
    (h : readItem (.nullable name c) items = some o) :
    o = none ↔ ∀ v ∈ items.head?, v = .null := by
  cases items with
  | nil =>
    cases h
    exact ⟨fun _ => nofun, fun _ => rfl⟩
  | cons v items =>
    have hread : c.nullable.read v = some o := h
    have hnull : o = none ↔ v = .null := by
      rw [← Codec.nullable_read_eq_none_iff (c := c), hread, Option.some_inj]
    simpa using hnull

theorem readItem_iff (h : strict.Demands lenient f) :
    readItem strict items = some a ↔ readItem lenient items = some (f a) ∧ items ≠ [] := by
  cases items with
  | nil => simp [readItem, h.absent]
  | cons v items => simp [readItem, h.read_iff]

end Shape

end DiceBot.Json
