import DiceBot.Proofs.Settings.Assignment

namespace DiceBot.Configuration.Source

open Json Json.Shape

variable {text : String} {members : List Member} {items : List Json}

theorem exists_ofToml?_iff :
    (∃ c, ofToml? text = some c) ↔
      ∃ es, Toml.read? text = some es ∧
        ∀ s : Setting, ∀ v ∈ es.get? s.name, ∃ t, v = .string t := by
  constructor
  · rintro ⟨c, hc⟩
    obtain ⟨es, hes, hget⟩ := ofToml?_eq_some_iff.mp hc
    refine ⟨es, hes, fun s v hv => ?_⟩
    obtain ⟨hnone, -⟩ | hstring := inTable?_eq_some_iff.mp (hget s)
    · rw [hnone] at hv
      cases hv
    · rw [hstring] at hv
      cases hv
      exact ⟨_, rfl⟩
  · rintro ⟨es, hes, hs⟩
    have hget : ∀ s, ∃ v, inTable? es s = some v := by
      intro s
      simp only [inTable?_eq_some_iff]
      cases hv : es.get? s.name with
      | none => exact ⟨_, .inl ⟨rfl, rfl⟩⟩
      | some v =>
        obtain ⟨t, rfl⟩ := hs s v hv
        exact ⟨t, .inr rfl⟩
    obtain ⟨c, hc⟩ := exists_forall_get_iff.mpr hget
    exact ⟨c, ofToml?_eq_some_iff.mpr ⟨es, hes, hc⟩⟩

theorem exists_read_object_iff :
    (∃ c, codec.read (.object members) = some c) ↔ (∀ m ∈ members, textOf? m.1 ≠ none) ∧
      ∀ s, (membersOf s members).length ≤ 1 ∧ ∀ m ∈ membersOf s members, m.2.toString? ≠ none := by
  constructor
  · rintro ⟨c, hc⟩
    obtain ⟨ks, hks, hget⟩ := read_object_iff.mp hc
    refine ⟨(readKeys_eq_some_iff.mp hks).1, fun s => ?_⟩
    obtain ⟨hnone, -⟩ | ⟨m, hm, hv⟩ := (readMember_field_iff hks).mp (hget s)
    · simp [hnone]
    · simp [hm, hv]
  · rintro ⟨htexts, hs⟩
    obtain ⟨ks, hks⟩ : ∃ ks, readKeys members = some ks := ⟨_, readKeys_eq_some htexts⟩
    have hget : ∀ s, ∃ v, readMember (field s) ks = some v := by
      intro s
      obtain ⟨hlength, hstring⟩ := hs s
      simp only [readMember_field_iff hks]
      rcases hm : membersOf s members with - | ⟨m, - | ⟨n, ms⟩⟩
      · exact ⟨_, .inl ⟨rfl, rfl⟩⟩
      · rw [hm] at hstring
        obtain ⟨v, hv⟩ := Option.ne_none_iff_exists'.mp (hstring m (List.mem_singleton_self m))
        exact ⟨v, .inr ⟨m, rfl, hv⟩⟩
      · rw [hm] at hlength
        simp at hlength
    obtain ⟨c, hc⟩ := exists_forall_get_iff.mpr hget
    exact ⟨c, read_object_iff.mpr ⟨ks, hks, hc⟩⟩

theorem exists_read_array_iff :
    (∃ c, codec.read (.array items) = some c) ↔
      items.length ≤ Setting.all.length ∧ ∀ v ∈ items, v.toString? ≠ none := by
  constructor
  · rintro ⟨c, hc⟩
    obtain ⟨hget, hlength⟩ := read_array_iff.mp hc
    refine ⟨hlength, fun v hv => ?_⟩
    obtain ⟨i, hi, rfl⟩ := List.mem_iff_getElem.mp hv
    have hposition : (Setting.all[i]).position = i := Setting.nodup_all.idxOf_getElem i (by omega)
    have hget := readItem_field_iff.mp (hget Setting.all[i])
    rw [hposition, List.getElem?_eq_getElem hi] at hget
    obtain ⟨hnone, -⟩ | ⟨w, hw, hv⟩ := hget
    · cases hnone
    · cases hw
      simp [hv]
  · rintro ⟨hlength, hs⟩
    have hget : ∀ s, ∃ v, readItem (field s) (items.drop s.position) = some v := by
      intro s
      simp only [readItem_field_iff]
      cases hw : items[s.position]? with
      | none => exact ⟨_, .inl ⟨rfl, rfl⟩⟩
      | some w =>
        obtain ⟨v, hv⟩ := Option.ne_none_iff_exists'.mp (hs w (List.mem_of_getElem? hw))
        exact ⟨v, .inr ⟨w, rfl, hv⟩⟩
    obtain ⟨c, hc⟩ := exists_forall_get_iff.mpr hget
    exact ⟨c, read_array_iff.mpr ⟨hc, hlength⟩⟩

theorem exists_read?_iff {source : Source} : (∃ c, source.read? = some c) ↔ source.IsAccepted := by
  constructor
  · rintro ⟨c, hc⟩
    cases source with
    | toml text =>
      obtain ⟨es, hes, hs⟩ := exists_ofToml?_iff.mp ⟨c, hc⟩
      exact .document hes hs
    | json bs =>
      obtain ⟨v, hv, h⟩ := Option.bind_eq_some_iff.mp hc
      have hbs := (read?_eq_some_iff bs v).mp hv
      cases v with
      | object members =>
        obtain ⟨htexts, hs⟩ := exists_read_object_iff.mp ⟨c, h⟩
        exact .object hbs htexts hs
      | array items =>
        obtain ⟨hlength, hs⟩ := exists_read_array_iff.mp ⟨c, h⟩
        exact .array hbs hlength hs
      | _ => cases h
  · intro h
    have hdecode : ∀ {bs : Bytes} {v : Json} {c : Configuration}, Spells v.tokens bs →
        codec.read v = some c → read? (.json bs) = some c := by
      intro bs v c hbs hc
      exact Option.bind_eq_some_iff.mpr ⟨v, (read?_eq_some_iff bs v).mpr hbs, hc⟩
    cases h with
    | document hes hs => exact exists_ofToml?_iff.mpr ⟨_, hes, hs⟩
    | object hbs htexts hs =>
      obtain ⟨c, hc⟩ := exists_read_object_iff.mpr ⟨htexts, hs⟩
      exact ⟨c, hdecode hbs hc⟩
    | array hbs hlength hs =>
      obtain ⟨c, hc⟩ := exists_read_array_iff.mpr ⟨hlength, hs⟩
      exact ⟨c, hdecode hbs hc⟩

end DiceBot.Configuration.Source
