import DiceBot.Proofs.Json.Presence
import DiceBot.Proofs.Settings.Source

namespace DiceBot

open Json Json.Shape

namespace Setting

theorem forall_mem_all {p : Setting → Prop} : (∀ s ∈ all, p s) ↔ ∀ s, p s :=
  ⟨fun h s => h s s.mem_all, fun h s _ => h s⟩

theorem forall_iff {p : Setting → Prop} :
    (∀ s, p s) ↔ p .serverBindPoint ∧ p .logLevel ∧ p .applicationPublicKey ∧ p .applicationId ∧
      p .discordRootEndpoint ∧ p .commandEndpoint ∧ p .invocationSecret ∧ p .rollEndpoint ∧
      p .emojifyEndpoint := by
  rw [← forall_mem_all]
  simp only [all, List.forall_mem_cons, List.not_mem_nil, false_implies, implies_true, and_true]

def position (s : Setting) : Nat :=
  all.idxOf s

end Setting

namespace Configuration

theorem ext_get {c d : Configuration} (h : ∀ s, c.get s = d.get s) : c = d := by
  rw [← ofSettings_get c, ← ofSettings_get d, funext h]

theorem exists_forall_get_iff {p : Setting → String → Prop} :
    (∃ c : Configuration, ∀ s, p s (c.get s)) ↔ ∀ s, ∃ v, p s v := by
  constructor
  · rintro ⟨c, hc⟩ s
    exact ⟨c.get s, hc s⟩
  · intro h
    choose f hf using h
    refine ⟨ofSettings f, fun s => ?_⟩
    rw [get_ofSettings]
    exact hf s

inductive Source where
  | toml (text : String)
  | json (bs : Bytes)

namespace Source

def read? : Source → Option Configuration
  | .toml text => ofToml? text
  | .json bs => codec.decode? bs

def membersOf (s : Setting) (members : List Member) : List Member :=
  members.filter fun m => textOf? m.1 == some s.name

/-- A source has this text for a setting: in an entry of its document, in a member of its object, or
in the place of the setting in its array. -/
inductive Assigns : Source → Setting → String → Prop
  | entry {text : String} {es : Toml.Entries} {s : Setting} {v : String}
      (h : Toml.read? text = some es) (hv : es.get? s.name = some (.string v)) :
      Assigns (.toml text) s v
  | member {bs : Bytes} {members : List Member} {s : Setting} {v : String} {m : Member}
      (h : Spells (Json.object members).tokens bs) (hm : m ∈ membersOf s members)
      (hv : m.2.toString? = some v) : Assigns (.json bs) s v
  | item {bs : Bytes} {items : List Json} {s : Setting} {v : String} {w : Json}
      (h : Spells (Json.array items).tokens bs) (hw : items[s.position]? = some w)
      (hv : w.toString? = some v) : Assigns (.json bs) s v

/-- A source has one text at most for every setting, and nothing else. What it has under other names
does not count. -/
inductive IsAccepted : Source → Prop
  | document {text : String} {es : Toml.Entries} (h : Toml.read? text = some es)
      (hs : ∀ s : Setting, ∀ v ∈ es.get? s.name, ∃ t, v = .string t) : IsAccepted (.toml text)
  | object {bs : Bytes} {members : List Member} (h : Spells (Json.object members).tokens bs)
      (htexts : ∀ m ∈ members, textOf? m.1 ≠ none)
      (hs : ∀ s, (membersOf s members).length ≤ 1 ∧
        ∀ m ∈ membersOf s members, m.2.toString? ≠ none) : IsAccepted (.json bs)
  | array {bs : Bytes} {items : List Json} (h : Spells (Json.array items).tokens bs)
      (hlength : items.length ≤ Setting.all.length) (hs : ∀ v ∈ items, v.toString? ≠ none) :
      IsAccepted (.json bs)

end Source

theorem ofSettings?_eq_some_iff {f : Setting → Option String} {c : Configuration} :
    ofSettings? f = some c ↔ ∀ s, f s = some (c.get s) := by
  constructor
  · intro h s
    rw [ofSettings?] at h
    split at h
    · next hall =>
      cases h
      obtain ⟨v, hv⟩ := Option.isSome_iff_exists.mp (List.all_eq_true.mp hall s s.mem_all)
      rw [get_ofSettings, hv, Option.getD_some]
    · cases h
  · intro h
    rw [funext h, ofSettings?_some, ofSettings_get]

theorem ofToml?_eq_some_iff {text : String} {c : Configuration} :
    ofToml? text = some c ↔
      ∃ es, Toml.read? text = some es ∧ ∀ s, inTable? es s = some (c.get s) := by
  rw [ofToml?, Option.bind_eq_bind, Option.bind_eq_some_iff]
  simp only [ofSettings?_eq_some_iff]

theorem inTable?_eq_some_iff {es : Toml.Entries} {s : Setting} {v : String} :
    inTable? es s = some v ↔
      es.get? s.name = none ∧ v = s.default ∨ es.get? s.name = some (.string v) := by
  rw [inTable?]
  split
  · next h => simp [h, eq_comm]
  · next h => simp [h]
  · next w hstring hw =>
    have hne : w ≠ .string v := hstring v
    simp [hw, hne]

theorem read_eq_some_iff {v : Json} {c : Configuration} : codec.read v = some c ↔
    (Shape.field (field .serverBindPoint) <| .field (field .logLevel) <|
      .field (field .applicationPublicKey) <| .field (field .applicationId) <|
      .field (field .discordRootEndpoint) <| .field (field .commandEndpoint) <|
      .field (field .invocationSecret) <| .field (field .rollEndpoint) <|
      .field (field .emojifyEndpoint) .done).read v =
        some (c.serverBindPoint, c.logLevel, c.applicationPublicKey, c.applicationId,
          c.discordRootEndpoint, c.commandEndpoint, c.invocationSecret, c.rollEndpoint,
          c.emojifyEndpoint, ()) :=
  codec_read_eq_some_iff (fun _ => rfl) fun _ => rfl

theorem read_object_iff {members : List Member} {c : Configuration} :
    codec.read (.object members) = some c ↔
      ∃ ks, readKeys members = some ks ∧ ∀ s, readMember (field s) ks = some (c.get s) := by
  rw [read_eq_some_iff, Shape.read, Option.bind_eq_bind, Option.bind_eq_some_iff]
  simp only [readMembers_field_iff, Setting.forall_iff]
  simp only [readMembers, and_true]
  rfl

theorem readItems_done_iff {items : List Json} :
    Shape.done.readItems items = some () ↔ items = [] := by
  cases items <;> simp [readItems]

theorem read_array_iff {items : List Json} {c : Configuration} :
    codec.read (.array items) = some c ↔
      (∀ s, readItem (field s) (items.drop s.position) = some (c.get s)) ∧
        items.length ≤ Setting.all.length := by
  rw [read_eq_some_iff, Shape.read]
  simp only [readItems_field_iff, readItems_done_iff, ← List.drop_one, List.drop_drop,
    List.drop_eq_nil_iff, Setting.forall_iff, and_assoc]
  rfl

theorem readItem_field_iff {items : List Json} {s : Setting} {n : Nat} {v : String} :
    readItem (field s) (items.drop n) = some v ↔
      items[n]? = none ∧ v = s.default ∨ ∃ w, items[n]? = some w ∧ w.toString? = some v := by
  rw [← List.head?_drop]
  cases items.drop n with
  | nil => simp [readItem, field, Field.withDefault, eq_comm]
  | cons w rest => simp [readItem, field, Field.withDefault, Codec.text]

namespace Source

section Object

variable {members : List Member} {ks : List (String × Json)} {s : Setting}

theorem filter_readKeys (h : readKeys members = some ks) (s : Setting) :
    ks.filter (fun m => m.1 == s.name) = (membersOf s members).map fun m => (s.name, m.2) := by
  obtain ⟨htexts, rfl⟩ := readKeys_eq_some_iff.mp h
  have hname : ∀ m ∈ members,
      ((textOf? m.1).getD "" == s.name) = (textOf? m.1 == some s.name) := by
    intro m hm
    obtain ⟨name, hname⟩ := Option.ne_none_iff_exists'.mp (htexts m hm)
    simp [hname]
  rw [List.filter_map, membersOf, ← List.filter_congr hname]
  apply List.map_congr_left
  intro m hm
  have hkey : (textOf? m.1).getD "" = s.name := by simpa using (List.mem_filter.mp hm).2
  rw [hkey]

theorem readMember_field_iff (h : readKeys members = some ks) {v : String} :
    readMember (field s) ks = some v ↔
      membersOf s members = [] ∧ v = s.default ∨
        ∃ m, membersOf s members = [m] ∧ m.2.toString? = some v := by
  have hname : (field s).name = s.name := rfl
  rw [readMember, hname, filter_readKeys h]
  rcases membersOf s members with - | ⟨m, - | ⟨n, ms⟩⟩
  · simp [field, Field.withDefault, eq_comm]
  · simp [field, Field.withDefault, Codec.text]
  · simp

end Object

section Assigned

variable {text : String} {es : Toml.Entries} {bs : Bytes} {members : List Member}
  {items : List Json} {c : Configuration} {s : Setting} {v : String}

theorem assigns_entries (h : Toml.read? text = some es) :
    Assigns (.toml text) s v ↔ es.get? s.name = some (.string v) := by
  constructor
  · rintro ⟨hfs, hv⟩
    cases h.symm.trans hfs
    exact hv
  · exact .entry h

theorem assigns_members (h : Spells (Json.object members).tokens bs) :
    Assigns (.json bs) s v ↔ ∃ m ∈ membersOf s members, m.2.toString? = some v := by
  constructor
  · intro hassigns
    cases hassigns with
    | member hothers hm hv =>
      cases eq_of_spells h hothers
      exact ⟨_, hm, hv⟩
    | item hitems => cases eq_of_spells h hitems
  · rintro ⟨m, hm, hv⟩
    exact .member h hm hv

theorem assigns_items (h : Spells (Json.array items).tokens bs) :
    Assigns (.json bs) s v ↔ ∃ w, items[s.position]? = some w ∧ w.toString? = some v := by
  constructor
  · intro hassigns
    cases hassigns with
    | member hmembers => cases eq_of_spells h hmembers
    | item hothers hw hv =>
      cases eq_of_spells h hothers
      exact ⟨_, hw, hv⟩
  · rintro ⟨w, hw, hv⟩
    exact .item h hw hv

/-- An accepted source has a text for a setting, or none, and then the setting has its default. -/
theorem exists_assigned {source : Source} (h : source.read? = some c) (s : Setting) :
    ∃ o : Option String, c.get s = o.getD s.default ∧ ∀ v, source.Assigns s v ↔ o = some v := by
  cases source with
  | toml text =>
    obtain ⟨es, hes, hget⟩ := ofToml?_eq_some_iff.mp h
    simp only [assigns_entries hes]
    obtain ⟨hnone, hdefault⟩ | hstring := inTable?_eq_some_iff.mp (hget s)
    · exact ⟨none, hdefault, by simp [hnone]⟩
    · exact ⟨some (c.get s), rfl, by simp [hstring]⟩
  | json bs =>
    obtain ⟨v, hv, h⟩ := Option.bind_eq_some_iff.mp h
    have hbs := (read?_eq_some_iff bs v).mp hv
    cases v with
    | object members =>
      obtain ⟨ks, hks, hget⟩ := read_object_iff.mp h
      simp only [assigns_members hbs]
      obtain ⟨hnone, hdefault⟩ | ⟨m, hm, hv⟩ := (readMember_field_iff hks).mp (hget s)
      · exact ⟨none, hdefault, by simp [hnone]⟩
      · exact ⟨some (c.get s), rfl, by simp [hm, hv]⟩
    | array items =>
      obtain ⟨hget, -⟩ := read_array_iff.mp h
      simp only [assigns_items hbs]
      obtain ⟨hnone, hdefault⟩ | ⟨w, hw, hv⟩ := readItem_field_iff.mp (hget s)
      · exact ⟨none, hdefault, by simp [hnone]⟩
      · exact ⟨some (c.get s), rfl, by simp [hw, hv]⟩
    | _ => cases h

end Assigned

end Source

end Configuration

end DiceBot
