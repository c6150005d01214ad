import DiceBot.Proofs.Json.Record

namespace DiceBot.Json.Shape

variable {α : Type}

theorem readKeys_append (before after : List Member) :
    readKeys (before ++ after) = do
      let ks ← readKeys before
      let ls ← readKeys after
      return ks ++ ls :=
  List.mapM_append

theorem readKeys_cons {key : Bytes} {name : String} (hkey : textOf? key = some name) (v : Json)
    (members : List Member) :
    readKeys ((key, v) :: members) = (readKeys members).map ((name, v) :: ·) := by
  have hcons : readKeys ((key, v) :: members) = do
      let m ← (textOf? key).map fun name => (name, v)
      let ks ← readKeys members
      return m :: ks :=
    List.mapM_cons
  rw [hcons, hkey]
  cases readKeys members <;> rfl

theorem mem_of_readKeys {members : List Member} {ks : List (String × Json)}
    (h : readKeys members = some ks) {m : Member} (hm : m ∈ members) {name : String}
    (hkey : textOf? m.1 = some name) : (name, m.2) ∈ ks := by
  obtain ⟨before, after, rfl⟩ := List.append_of_mem hm
  rw [readKeys_append, readKeys_cons hkey] at h
  obtain ⟨ls, -, h⟩ := Option.bind_eq_some_iff.mp h
  obtain ⟨ms, hms, h⟩ := Option.bind_eq_some_iff.mp h
  obtain ⟨ns, -, rfl⟩ := Option.map_eq_some_iff.mp hms
  cases h
  simp

theorem readKeys_eq_none {members : List Member} {m : Member} (hm : m ∈ members)
    (hkey : textOf? m.1 = none) : readKeys members = none := by
  obtain ⟨before, after, rfl⟩ := List.append_of_mem hm
  have hcons : readKeys (m :: after) = do
      let m ← (textOf? m.1).map fun name => (name, m.2)
      let ks ← readKeys after
      return m :: ks :=
    List.mapM_cons
  rw [readKeys_append, hcons, hkey]
  cases readKeys before <;> rfl

theorem readKeys_eq_some {members : List Member} (h : ∀ m ∈ members, textOf? m.1 ≠ none) :
    readKeys members = some (members.map fun m => ((textOf? m.1).getD "", m.2)) := by
  induction members with
  | nil => rfl
  | cons m members ih =>
    obtain ⟨hm, hmembers⟩ := List.forall_mem_cons.mp h
    obtain ⟨name, hname⟩ := Option.ne_none_iff_exists'.mp hm
    rw [readKeys_cons hname, ih hmembers, Option.map_some, List.map_cons, hname, Option.getD_some]

theorem readKeys_eq_some_iff {members : List Member} {ks : List (String × Json)} :
    readKeys members = some ks ↔ (∀ m ∈ members, textOf? m.1 ≠ none) ∧
      ks = members.map fun m => ((textOf? m.1).getD "", m.2) := by
  constructor
  · intro h
    have htexts : ∀ m ∈ members, textOf? m.1 ≠ none := by
      intro m hm hkey
      rw [readKeys_eq_none hm hkey] at h
      cases h
    rw [readKeys_eq_some htexts] at h
    exact ⟨htexts, (Option.some.inj h).symm⟩
  · rintro ⟨htexts, rfl⟩
    exact readKeys_eq_some htexts

theorem readMember_congr {f : Field α} {ms ns : List (String × Json)}
    (h : ms.filter (fun m => m.1 == f.name) = ns.filter fun m => m.1 == f.name) :
    readMember f ms = readMember f ns := by
  rw [readMember, readMember, h]

theorem readMembers_congr (s : Shape α) {ms ns : List (String × Json)}
    (h : ∀ name ∈ s.names, ms.filter (fun m => m.1 == name) = ns.filter fun m => m.1 == name) :
    s.readMembers ms = s.readMembers ns := by
  induction s with
  | done => rfl
  | field f rest ih =>
    obtain ⟨hf, hrest⟩ := List.forall_mem_cons.mp h
    rw [readMembers, readMembers, readMember_congr hf, ih hrest]

theorem readMember_perm (f : Field α) {ms ns : List (String × Json)} (h : ms.Perm ns) :
    readMember f ms = readMember f ns := by
  have hfilter := h.filter fun m => m.1 == f.name
  unfold readMember
  generalize ms.filter (fun m => m.1 == f.name) = as at hfilter ⊢
  generalize ns.filter (fun m => m.1 == f.name) = bs at hfilter ⊢
  match as, bs, hfilter with
  | [], bs, h => rw [List.nil_perm.mp h]
  | [a], bs, h => rw [List.singleton_perm.mp h]
  | _ :: _ :: _, [], h => cases h.length_eq
  | _ :: _ :: _, [_], h => cases h.length_eq
  | _ :: _ :: _, _ :: _ :: _, _ => rfl

theorem readMembers_perm (s : Shape α) {ms ns : List (String × Json)} (h : ms.Perm ns) :
    s.readMembers ms = s.readMembers ns := by
  induction s with
  | done => rfl
  | field f rest ih => rw [readMembers, readMembers, readMember_perm f h, ih]

theorem readMembers_unknown (s : Shape α) {name : String} (hname : name ∉ s.names) (v : Json)
    (before after : List (String × Json)) :
    s.readMembers (before ++ (name, v) :: after) = s.readMembers (before ++ after) := by
  apply s.readMembers_congr
  intro other hother
  have hne : name ≠ other := fun h => hname (h ▸ hother)
  simp [List.filter_append, hne]

theorem readMembers_repeated (s : Shape α) {name : String} (hname : name ∈ s.names)
    {ms : List (String × Json)} (h : 2 ≤ (ms.filter fun m => m.1 == name).length) :
    s.readMembers ms = none := by
  induction s with
  | done => cases hname
  | field f rest ih =>
    rw [readMembers]
    obtain rfl | hname := List.mem_cons.mp hname
    · have hf : readMember f ms = none := by
        unfold readMember
        generalize ms.filter (fun m => m.1 == f.name) = as at h ⊢
        rcases as with - | ⟨m, - | ⟨n, as⟩⟩
        · cases h
        · simp at h
        · rfl
      rw [hf]
      rfl
    · rw [ih hname]
      cases readMember f ms <;> rfl

/-- The order of the members does not count. -/
theorem read_perm (s : Shape α) {members others : List Member} (h : members.Perm others) :
    s.read (.object members) = s.read (.object others) := by
  by_cases htexts : ∀ m ∈ members, textOf? m.1 ≠ none
  · have htexts' : ∀ m ∈ others, textOf? m.1 ≠ none := fun m hm => htexts m (h.mem_iff.mpr hm)
    rw [read, read, readKeys_eq_some htexts, readKeys_eq_some htexts']
    exact s.readMembers_perm (h.map _)
  · push Not at htexts
    obtain ⟨m, hm, hkey⟩ := htexts
    rw [read, read, readKeys_eq_none hm hkey, readKeys_eq_none (h.mem_iff.mp hm) hkey]

theorem read_unknown (s : Shape α) {key : Bytes} {name : String} (hkey : textOf? key = some name)
    (hname : name ∉ s.names) (v : Json) (before after : List Member) :
    s.read (.object (before ++ (key, v) :: after)) = s.read (.object (before ++ after)) := by
  rw [read, read, readKeys_append, readKeys_append, readKeys_cons hkey]
  cases readKeys before with
  | none => rfl
  | some ks =>
    cases readKeys after with
    | none => rfl
    | some ls => exact s.readMembers_unknown hname v ks ls

theorem read_of_not_text (s : Shape α) {members : List Member} {m : Member} (hm : m ∈ members)
    (hkey : textOf? m.1 = none) : s.read (.object members) = none := by
  rw [read, readKeys_eq_none hm hkey]
  rfl

/-- A second member of a name that counts is refused, whatever it holds. -/
theorem read_repeated (s : Shape α) {key : Bytes} {name : String} (hkey : textOf? key = some name)
    (hname : name ∈ s.names) (v : Json) {before after : List Member}
    (h : ∃ m ∈ before ++ after, textOf? m.1 = some name) :
    s.read (.object (before ++ (key, v) :: after)) = none := by
  obtain ⟨m, hm, hmkey⟩ := h
  rw [read, readKeys_append, readKeys_cons hkey]
  cases hbefore : readKeys before with
  | none => rfl
  | some ks =>
    cases hafter : readKeys after with
    | none => rfl
    | some ls =>
      have hkeys : readKeys (before ++ after) = some (ks ++ ls) := by
        rw [readKeys_append, hbefore, hafter]
        rfl
      have hfirst : (name, m.2) ∈ (ks ++ ls).filter fun m => m.1 == name :=
        List.mem_filter.mpr ⟨mem_of_readKeys hkeys hm hmkey, beq_self_eq_true name⟩
      have hpos := List.length_pos_of_mem hfirst
      have hsecond : ((name, v) :: ls).filter (fun m => m.1 == name) =
          (name, v) :: ls.filter fun m => m.1 == name :=
        List.filter_cons_of_pos (beq_self_eq_true name)
      apply s.readMembers_repeated hname
      rw [List.filter_append, List.length_append] at hpos ⊢
      rw [hsecond, List.length_cons]
      omega

end DiceBot.Json.Shape
