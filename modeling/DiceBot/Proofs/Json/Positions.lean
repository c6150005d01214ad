import DiceBot.Proofs.Json.Level

namespace DiceBot.Json

variable {α : Type} {names : List String} {items : List Json} {members : List Member}

def IsKeyed (names : List String) (items : List Json) (members : List Member) : Prop :=
  members.map (fun m => (textOf? m.1, m.2)) = (names.zip items).map fun p => (some p.1, p.2)

theorem IsKeyed.readKeys_eq (h : IsKeyed names items members) :
    Shape.readKeys members = some (names.zip items) := by
  refine Shape.readKeys_eq_some_iff.mpr ⟨fun m hm hkey => ?_, ?_⟩
  · have hmem : (textOf? m.1, m.2) ∈ (names.zip items).map fun p => (some p.1, p.2) :=
      h ▸ List.mem_map_of_mem hm
    obtain ⟨p, -, hp⟩ := List.mem_map.mp hmem
    rw [hkey] at hp
    cases hp
  · have hvalues := congrArg (List.map fun p : Option String × Json => (p.1.getD "", p.2)) h
    rw [List.map_map, List.map_map] at hvalues
    exact (List.map_id _).symm.trans hvalues.symm

namespace Shape

theorem readMember_cons_of_notMem {f : Field α} {ks : List (String × Json)}
    (h : f.name ∉ ks.map Prod.fst) (v : Json) : readMember f ((f.name, v) :: ks) = f.read v := by
  have hnone : ks.filter (fun m => m.1 == f.name) = [] := by
    rw [List.filter_eq_nil_iff]
    intro m hm heq
    exact h (beq_iff_eq.mp heq ▸ List.mem_map_of_mem hm)
  have hone : ((f.name, v) :: ks).filter (fun m => m.1 == f.name) =
      (f.name, v) :: ks.filter fun m => m.1 == f.name :=
    List.filter_cons_of_pos (beq_self_eq_true f.name)
  rw [readMember, hone, hnone]

/-- The items are read as members, as long as there are names for them. -/
theorem readItems_eq (s : Shape α) (h : s.names.Nodup) (items : List Json) :
    s.readItems items =
      if items.length ≤ s.names.length then s.readMembers (s.names.zip items) else none := by
  induction s generalizing items with
  | done =>
    cases items with
    | nil => rfl
    | cons v vs => rfl
  | field f rest ih =>
    obtain ⟨hfresh, hrest⟩ := List.nodup_cons.mp h
    cases items with
    | nil =>
      rw [readItems, List.tail_nil, ih hrest [], List.zip_nil_right, List.zip_nil_right]
      rfl
    | cons v vs =>
      -- No two names are the same: the first one is read from the first item alone, and the others
      -- do not see it.
      have hfirst : f.name ∉ (rest.names.zip vs).map Prod.fst := by
        intro hmem
        obtain ⟨p, hp, hname⟩ := List.mem_map.mp hmem
        exact hfresh (hname ▸ (List.of_mem_zip hp).1)
      have hothers : rest.readMembers ((f.name, v) :: rest.names.zip vs) =
          rest.readMembers (rest.names.zip vs) :=
        rest.readMembers_unknown hfresh v [] _
      rw [readItems, List.tail_cons, ih hrest vs, names, List.zip_cons_cons, readMembers,
        readMember_cons_of_notMem hfirst, hothers]
      by_cases hlength : vs.length ≤ rest.names.length
      · have hlength' : (v :: vs).length ≤ (f.name :: rest.names).length :=
          Nat.succ_le_succ hlength
        rw [if_pos hlength, if_pos hlength']
        rfl
      · have hlength' : ¬ (v :: vs).length ≤ (f.name :: rest.names).length :=
          fun h => hlength (Nat.le_of_succ_le_succ h)
        rw [if_neg hlength, if_neg hlength']
        exact Option.bind_fun_none (f.read v)

end Shape

namespace ReadsRecord

variable {read : Json → Option α}

/-- An array is read as the object of its items under the names of the record, and not at all if
there are more items than names. -/
theorem array (h : ReadsRecord names read) (hmembers : IsKeyed names items members) :
    read (.array items) = if items.length ≤ names.length then read (.object members) else none := by
  obtain ⟨hnodup, β, s, next, rfl, hread⟩ := h
  have harray : s.read (.array items) = s.readItems items := rfl
  have hobject : s.read (.object members) = s.readMembers (s.names.zip items) := by
    rw [Shape.read, hmembers.readKeys_eq]
    rfl
  rw [hread _ rfl, hread _ rfl, harray, hobject, s.readItems_eq hnodup]
  split
  · rfl
  · rfl

theorem array_of_length_lt (h : ReadsRecord names read) (hlength : names.length < items.length) :
    read (.array items) = none := by
  obtain ⟨hnodup, β, s, next, rfl, hread⟩ := h
  rw [hread _ rfl, Shape.read, s.readItems_eq hnodup, if_neg (Nat.not_le_of_lt hlength)]
  rfl

end ReadsRecord

theorem Codec.list_read_eq_some_iff {c : Codec α} {v : Json} {as : List α} :
    c.list.read v = some as ↔
      ∃ items, v = .array items ∧ List.Forall₂ (fun item a => c.read item = some a) items as := by
  have hmapM (items : List Json) (as : List α) : items.mapM c.read = some as ↔
      List.Forall₂ (fun item a => c.read item = some a) items as := by
    induction items generalizing as with
    | nil => simp [List.mapM_nil, eq_comm]
    | cons item items ih =>
      rw [List.forall₂_cons_left_iff]
      simp only [List.mapM_cons, Option.bind_eq_bind, Option.bind_eq_some_iff, ih]
      constructor
      · rintro ⟨a, ha, rest, hrest, h⟩
        cases h
        exact ⟨a, rest, ha, hrest, rfl⟩
      · rintro ⟨a, rest, ha, hrest, rfl⟩
        exact ⟨a, ha, rest, hrest, rfl⟩
  cases v with
  | array items =>
    rw [Codec.list, hmapM]
    simp
  | _ =>
    constructor
    · intro h
      cases h
    · rintro ⟨items, h, -⟩
      cases h

end DiceBot.Json
