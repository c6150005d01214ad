import DiceBot.Json.Record
import DiceBot.Proofs.Json.Codec

namespace DiceBot.Json

variable {α β : Type} {P : α → Prop} {Q : β → Prop}

structure Field.Lawful (f : Field α) (P : α → Prop) : Prop where
  read_write : ∀ {a v}, P a → f.write a = some v → f.read v = some a
  absent : ∀ {a}, P a → f.write a = none → f.absent = some a
  holds : ∀ {v a}, f.read v = some a → P a
  holds_absent : ∀ {a}, f.absent = some a → P a
  isSpelled : ∀ {a v}, f.write a = some v → v.IsSpelled

namespace Field

variable {c : Codec α}

theorem Lawful.required (h : c.Lawful P) (name : String) : (required name c).Lawful P where
  read_write ha hv := by
    cases hv
    exact h.read_write ha
  absent _ hv := by cases hv
  holds hv := h.holds hv
  holds_absent ha := by cases ha
  isSpelled hv := by
    cases hv
    exact h.isSpelled _

theorem Lawful.withDefault (h : c.Lawful P) (name : String) {a : α} (ha : P a) :
    (withDefault name c a).Lawful P where
  read_write hb hv := by
    cases hv
    exact h.read_write hb
  absent _ hv := by cases hv
  holds hv := h.holds hv
  holds_absent hb := by
    cases hb
    exact ha
  isSpelled hv := by
    cases hv
    exact h.isSpelled _

theorem nullable_read_write (h : c.Lawful P) {a : α} (ha : P a) :
    c.nullable.read (c.write a) = some (some a) := by
  have hread : ∀ v, v ≠ .null → c.nullable.read v = (c.read v).map some := by
    intro v hv
    cases v with
    | null => exact absurd rfl hv
    | _ => rfl
  rw [hread _ (h.write_ne_null a), h.read_write ha, Option.map_some]

theorem holds_nullable (h : c.Lawful P) {v : Json} {o : Option α}
    (ho : c.nullable.read v = some o) : ∀ a ∈ o, P a := by
  have hread : ∀ w, (c.read w).map some = some o → ∀ a ∈ o, P a := by
    intro w hw
    obtain ⟨a, ha, rfl⟩ := Option.map_eq_some_iff.mp hw
    rintro b ⟨⟩
    exact h.holds ha
  cases v with
  | null =>
    cases ho
    rintro a ⟨⟩
  | _ => exact hread _ ho

theorem Lawful.nullable (h : c.Lawful P) (name : String) :
    (nullable name c).Lawful fun o => ∀ a ∈ o, P a where
  read_write {o v} ho hv := by
    cases hv
    cases o with
    | none => rfl
    | some a => exact nullable_read_write h (ho a rfl)
  absent _ hv := by cases hv
  holds ho := holds_nullable h ho
  holds_absent ho := by
    cases ho
    rintro a ⟨⟩
  isSpelled {o v} hv := by
    cases hv
    cases o with
    | none =>
      intro t ht
      cases List.mem_singleton.mp ht
      trivial
    | some a => exact h.isSpelled a

theorem Lawful.optional (h : c.Lawful P) (name : String) :
    (optional name c).Lawful fun o => ∀ a ∈ o, P a where
  read_write {o v} ho hv := by
    obtain ⟨a, rfl, rfl⟩ := Option.map_eq_some_iff.mp hv
    exact nullable_read_write h (ho a rfl)
  absent {o} _ hv := by
    cases Option.map_eq_none_iff.mp hv
    rfl
  holds ho := holds_nullable h ho
  holds_absent ho := by
    cases ho
    rintro a ⟨⟩
  isSpelled hv := by
    obtain ⟨a, -, rfl⟩ := Option.map_eq_some_iff.mp hv
    exact h.isSpelled a

end Field

namespace Shape

def names : {α : Type} → Shape α → List String
  | _, .done => []
  | _, .field f rest => f.name :: rest.names

def named : {α : Type} → Shape α → α → List (String × Json)
  | _, .done, _ => []
  | _, .field f rest, (a, b) => ((f.write a).map fun v => (f.name, v)).toList ++ rest.named b

/-- The members keep their laws, and no two have one name. -/
inductive Lawful : {α : Type} → Shape α → (α → Prop) → Prop
  | done : Lawful .done fun _ => True
  | field {α β : Type} {f : Field α} {rest : Shape β} {P : α → Prop} {Q : β → Prop}
      (hf : f.Lawful P) (hname : f.name ∉ rest.names) (hrest : Lawful rest Q) :
      Lawful (.field f rest) fun p => P p.1 ∧ Q p.2

theorem names_named {s : Shape α} {a : α} : ∀ m ∈ s.named a, m.1 ∈ s.names := by
  induction s with
  | done => simp [named]
  | field f rest ih =>
    obtain ⟨a, b⟩ := a
    intro m hm
    rw [named, List.mem_append] at hm
    rw [names, List.mem_cons]
    obtain hm | hm := hm
    · obtain ⟨v, -, rfl⟩ : ∃ v, f.write a = some v ∧ (f.name, v) = m := by simpa using hm
      exact .inl rfl
    · exact .inr (ih m hm)

theorem readKeys_writeMembers (s : Shape α) (a : α) :
    readKeys (s.writeMembers a) = some (s.named a) := by
  induction s with
  | done => rfl
  | field f rest ih =>
    obtain ⟨a, b⟩ := a
    have hname : textOf? (nameSpelling f.name) = some f.name := by
      rw [nameSpelling, textOf?_escape, String.ofList_toList]
    have hrest := ih b
    rw [readKeys] at hrest
    cases hf : f.write a with
    | none => simpa [readKeys, writeMembers, named, hf] using hrest
    | some v => simp [readKeys, writeMembers, named, hf, hname, hrest]

theorem filter_named_of_notMem {s : Shape α} {a : α} {name : String} (h : name ∉ s.names) :
    (s.named a).filter (fun m => m.1 == name) = [] := by
  rw [List.filter_eq_nil_iff]
  intro m hm
  have hne : m.1 ≠ name := fun heq => h (heq ▸ names_named m hm)
  simpa using hne

theorem readMember_of_filter {f : Field α} (hf : f.Lawful P) {a : α} (ha : P a)
    {members : List (String × Json)}
    (h : members.filter (fun m => m.1 == f.name) =
      ((f.write a).map fun v => (f.name, v)).toList) :
    readMember f members = some a := by
  rw [readMember, h]
  cases hw : f.write a with
  | none => exact hf.absent ha hw
  | some v => exact hf.read_write ha hw

theorem Lawful.readMembers {s : Shape α} (h : s.Lawful P) {a : α} (ha : P a)
    {members : List (String × Json)}
    (hm : ∀ name ∈ s.names, members.filter (fun m => m.1 == name) =
      (s.named a).filter fun m => m.1 == name) :
    s.readMembers members = some a := by
  induction h with
  | done => rfl
  | @field _ _ f rest P Q hf hname hrest ih =>
    obtain ⟨a, b⟩ := a
    have hfirst : members.filter (fun m => m.1 == f.name) =
        ((f.write a).map fun v => (f.name, v)).toList := by
      rw [hm f.name (by simp [names]), named, List.filter_append, filter_named_of_notMem hname,
        List.append_nil]
      cases f.write a with
      | none => rfl
      | some v => simp
    have hothers : ∀ name ∈ rest.names, members.filter (fun m => m.1 == name) =
        (rest.named b).filter fun m => m.1 == name := by
      intro name hin
      have hne : f.name ≠ name := fun heq => hname (heq ▸ hin)
      rw [hm name (by simp [names, hin]), named, List.filter_append]
      cases f.write a with
      | none => rfl
      | some v => simp [hne]
    rw [Shape.readMembers, readMember_of_filter hf ha.1 hfirst, ih ha.2 hothers]
    rfl

theorem holds_readMember {f : Field α} (hf : f.Lawful P) {members : List (String × Json)} {a : α}
    (h : readMember f members = some a) : P a := by
  unfold readMember at h
  split at h
  · exact hf.holds_absent h
  · exact hf.holds h
  · cases h

theorem Lawful.holds_readMembers {s : Shape α} (h : s.Lawful P) {members : List (String × Json)}
    {a : α} (ha : s.readMembers members = some a) : P a := by
  induction h with
  | done => trivial
  | @field _ _ f rest P Q hf hname hrest ih =>
    rw [Shape.readMembers] at ha
    obtain ⟨b, hb, ha⟩ := Option.bind_eq_some_iff.mp ha
    obtain ⟨c, hc, ha⟩ := Option.bind_eq_some_iff.mp ha
    cases ha
    exact ⟨holds_readMember hf hb, ih hc⟩

theorem holds_readItem {f : Field α} (hf : f.Lawful P) {items : List Json} {a : α}
    (h : readItem f items = some a) : P a := by
  cases items with
  | nil => exact hf.holds_absent h
  | cons v vs => exact hf.holds h

theorem Lawful.holds_readItems {s : Shape α} (h : s.Lawful P) {items : List Json}
    {a : α} (ha : s.readItems items = some a) : P a := by
  induction h generalizing items with
  | done => trivial
  | @field _ _ f rest P Q hf hname hrest ih =>
    rw [Shape.readItems] at ha
    obtain ⟨b, hb, ha⟩ := Option.bind_eq_some_iff.mp ha
    obtain ⟨c, hc, ha⟩ := Option.bind_eq_some_iff.mp ha
    cases ha
    exact ⟨holds_readItem hf hb, ih hc⟩

theorem Lawful.isSpelled_writeMembers {s : Shape α} (h : s.Lawful P) (a : α) :
    ∀ m ∈ s.writeMembers a, (Token.string m.1).IsSpelled ∧ m.2.IsSpelled := by
  induction h with
  | done => simp [writeMembers]
  | @field _ _ f rest P Q hf hname hrest ih =>
    obtain ⟨a, b⟩ := a
    intro m hm
    rw [writeMembers, List.mem_append] at hm
    obtain hm | hm := hm
    · obtain ⟨v, hv, rfl⟩ : ∃ v, f.write a = some v ∧ (nameSpelling f.name, v) = m := by
        simpa using hm
      exact ⟨isSpelled_escape f.name.toList, hf.isSpelled hv⟩
    · exact ih b m hm

theorem Lawful.holds {s : Shape α} (h : s.Lawful P) {v : Json} {a : α} (ha : s.read v = some a) :
    P a := by
  cases v with
  | object members =>
    obtain ⟨named, -, ha⟩ := Option.bind_eq_some_iff.mp ha
    exact h.holds_readMembers ha
  | array items => exact h.holds_readItems ha
  | _ => cases ha

theorem Lawful.read_write {s : Shape α} (h : s.Lawful P) {a : α} (ha : P a) :
    s.read (.object (s.writeMembers a)) = some a := by
  rw [read, readKeys_writeMembers]
  exact h.readMembers ha fun _ _ => rfl

theorem Lawful.codec {s : Shape α} (h : s.Lawful P) {build : α → β} {parts : β → α}
    (hbuild : ∀ b, build (parts b) = b) (hparts : ∀ b, Q b → P (parts b))
    (hQ : ∀ a, P a → Q (build a)) : (s.codec build parts).Lawful Q where
  read_write {b} hb := by
    change (s.read (.object (s.writeMembers (parts b)))).map build = some b
    rw [h.read_write (hparts b hb), Option.map_some, hbuild]
  holds {v b} hv := by
    obtain ⟨a, ha, rfl⟩ := Option.map_eq_some_iff.mp hv
    exact hQ a (h.holds ha)
  isSpelled b := isSpelled_object (h.isSpelled_writeMembers (parts b))
  write_ne_null _ hb := by cases hb

end Shape

end DiceBot.Json
