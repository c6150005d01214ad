import DiceBot.Json.Reader
import DiceBot.Proofs.Json.HasRead
import DiceBot.Proofs.Json.Lexing

namespace DiceBot.Json

def itemsBefore (items : List Json) : List Token :=
  items.flatMap fun v => v.tokens ++ [.comma]

def membersBefore (members : List Member) : List Token :=
  members.flatMap fun m => .string m.1 :: .colon :: (m.2.tokens ++ [.comma])

def Frame.tokens : Frame → List Token
  | .array items => .openArray :: itemsBefore items.reverse
  | .object members key =>
    .openObject :: (membersBefore members.reverse ++ [.string key, .colon])

def framesTokens (frames : List Frame) : List Token :=
  frames.reverse.flatMap Frame.tokens

def Reading.consumed : Reading → List Token
  | .value frames => framesTokens frames
  | .firstItem frames => framesTokens frames ++ [.openArray]
  | .firstMember frames => framesTokens frames ++ [.openObject]
  | .member members frames => framesTokens frames ++ .openObject :: membersBefore members.reverse
  | .colon members key frames =>
    framesTokens frames ++ .openObject :: (membersBefore members.reverse ++ [.string key])
  | .after v frames => framesTokens frames ++ v.tokens

theorem framesTokens_cons (f : Frame) (frames : List Frame) :
    framesTokens (f :: frames) = framesTokens frames ++ f.tokens := by
  simp [framesTokens]

theorem itemTokens_append_singleton (items : List Json) (v : Json) :
    itemTokens (items ++ [v]) = itemsBefore items ++ v.tokens := by
  induction items with
  | nil => simp [itemTokens, itemsBefore]
  | cons w items ih =>
    cases items with
    | nil => simp [itemTokens, itemsBefore]
    | cons x items =>
      rw [List.cons_append] at ih
      rw [List.cons_append, List.cons_append, itemTokens, ih]
      · simp [itemsBefore]
      · simp

theorem memberTokens_append_singleton (members : List Member) (k : Bytes) (v : Json) :
    memberTokens (members ++ [(k, v)]) =
      membersBefore members ++ .string k :: .colon :: v.tokens := by
  induction members with
  | nil => simp [memberTokens, membersBefore]
  | cons m members ih =>
    obtain ⟨l, w⟩ := m
    cases members with
    | nil => simp [memberTokens, membersBefore]
    | cons n members =>
      rw [List.cons_append] at ih
      rw [List.cons_append, List.cons_append, memberTokens, ih]
      · simp [membersBefore]
      · simp

theorem Reading.consumed_start {frames : List Frame} {t : Token} {r : Reading}
    (h : start frames t = some r) : r.consumed = framesTokens frames ++ [t] := by
  cases t <;> cases h <;> simp [consumed, Json.tokens]

theorem Reading.consumed_feed {r s : Reading} {t : Token} (h : r.feed t = some s) :
    s.consumed = r.consumed ++ [t] := by
  unfold Reading.feed at h
  split at h
  · exact consumed_start h
  · cases h
    simp [consumed, Json.tokens, itemTokens]
  · rw [consumed_start h, framesTokens_cons]
    simp [consumed, Frame.tokens, itemsBefore]
  · cases h
    simp [consumed, Json.tokens, memberTokens]
  · cases h
    simp [consumed, membersBefore]
  · cases h
    simp [consumed]
  · cases h
    simp [consumed, framesTokens_cons, Frame.tokens]
  · cases h
    simp [consumed, framesTokens_cons, Frame.tokens, itemsBefore]
  · cases h
    simp [consumed, framesTokens_cons, Frame.tokens, Json.tokens, itemTokens_append_singleton]
  · cases h
    simp [consumed, framesTokens_cons, Frame.tokens, membersBefore]
  · cases h
    simp [consumed, framesTokens_cons, Frame.tokens, Json.tokens, memberTokens_append_singleton]
  · cases h

theorem Reading.consumed_run {r s : Reading} {ts : List Token}
    (h : ts.foldlM Reading.feed r = some s) : s.consumed = r.consumed ++ ts := by
  induction ts generalizing r with
  | nil =>
    cases h
    exact (List.append_nil _).symm
  | cons t ts ih =>
    rw [List.foldlM_cons] at h
    obtain ⟨q, hq, h⟩ := Option.bind_eq_some_iff.mp h
    rw [ih h, consumed_feed hq, List.append_assoc, List.singleton_append]

theorem tokens_eq_of_ofTokens? {ts : List Token} {v : Json} (h : ofTokens? ts = some v) :
    ts = v.tokens := by
  unfold ofTokens? at h
  split at h
  · next w hw =>
    cases h
    simpa [Reading.consumed, framesTokens] using (Reading.consumed_run hw).symm
  · cases h

theorem tokens_head (v : Json) : ∃ t ts, v.tokens = t :: ts ∧ t ≠ .closeArray := by
  cases v with
  | null => exact ⟨.null, [], by rw [tokens], nofun⟩
  | bool b => exact ⟨.bool b, [], by rw [tokens], nofun⟩
  | number s => exact ⟨.number s, [], by rw [tokens], nofun⟩
  | string s => exact ⟨.string s, [], by rw [tokens], nofun⟩
  | array items => exact ⟨.openArray, _, by rw [tokens], nofun⟩
  | object members => exact ⟨.openObject, _, by rw [tokens], nofun⟩

theorem Reading.foldlM_feed_firstItem (v : Json) (ts : List Token) (frames : List Frame) :
    (v.tokens ++ ts).foldlM Reading.feed (.firstItem frames) =
      (v.tokens ++ ts).foldlM Reading.feed (.value (.array [] :: frames)) := by
  obtain ⟨t, us, hv, ht⟩ := tokens_head v
  have hfeed : Reading.feed (.firstItem frames) t =
      Reading.feed (.value (.array [] :: frames)) t := by
    cases t <;> first | rfl | exact absurd rfl ht
  rw [hv, List.cons_append, List.foldlM_cons, List.foldlM_cons, hfeed]

theorem itemTokens_cons_cons (v w : Json) (vs : List Json) :
    itemTokens (v :: w :: vs) = v.tokens ++ .comma :: itemTokens (w :: vs) := by
  rw [itemTokens]
  simp

theorem memberTokens_cons_cons (k : Bytes) (v : Json) (m : Member) (ms : List Member) :
    memberTokens ((k, v) :: m :: ms) =
      .string k :: .colon :: (v.tokens ++ .comma :: memberTokens (m :: ms)) := by
  rw [memberTokens]
  simp

namespace Reading

mutual

theorem foldlM_feed_tokens (v : Json) (frames : List Frame) :
    v.tokens.foldlM feed (.value frames) = some (.after v frames) := by
  cases v with
  | null | bool | number | string =>
    rw [tokens]
    rfl
  | array items =>
    rw [tokens, List.foldlM_cons]
    cases items with
    | nil => rw [itemTokens]; rfl
    | cons v vs =>
      have h := foldlM_feed_items v vs [] frames
      obtain ⟨ts, hts⟩ : ∃ ts, itemTokens (v :: vs) = v.tokens ++ ts := by
        cases vs with
        | nil => exact ⟨[], by simp [itemTokens]⟩
        | cons w vs => exact ⟨_, itemTokens_cons_cons v w vs⟩
      rw [hts, List.append_assoc] at h ⊢
      exact (foldlM_feed_firstItem v _ frames).trans h
  | object members =>
    rw [tokens, List.foldlM_cons]
    cases members with
    | nil => rw [memberTokens]; rfl
    | cons m ms =>
      obtain ⟨k, v⟩ := m
      have h := foldlM_feed_members k v ms [] frames
      obtain ⟨ts, hts⟩ : ∃ ts, memberTokens ((k, v) :: ms) = .string k :: ts := by
        cases ms with
        | nil => exact ⟨_, by rw [memberTokens]⟩
        | cons m ms => exact ⟨_, memberTokens_cons_cons k v m ms⟩
      rw [hts] at h ⊢
      exact h
termination_by sizeOf v

theorem foldlM_feed_items (v : Json) (vs done : List Json) (frames : List Frame) :
    (itemTokens (v :: vs) ++ [Token.closeArray]).foldlM feed (.value (.array done :: frames)) =
      some (.after (.array (done.reverse ++ v :: vs)) frames) := by
  have hv := foldlM_feed_tokens v (.array done :: frames)
  cases vs with
  | nil =>
    rw [itemTokens, List.foldlM_append, hv]
    simp [feed]
  | cons w vs =>
    have h := foldlM_feed_items w vs (v :: done) frames
    rw [itemTokens_cons_cons, List.append_assoc, List.foldlM_append, hv]
    simpa [feed] using h
termination_by sizeOf v + sizeOf vs + 1

theorem foldlM_feed_members (k : Bytes) (v : Json) (ms done : List Member) (frames : List Frame) :
    (memberTokens ((k, v) :: ms) ++ [Token.closeObject]).foldlM feed (.member done frames) =
      some (.after (.object (done.reverse ++ (k, v) :: ms)) frames) := by
  have hv := foldlM_feed_tokens v (.object done k :: frames)
  cases ms with
  | nil =>
    rw [memberTokens]
    simp [feed, hv]
  | cons m ms =>
    obtain ⟨l, w⟩ := m
    have h := foldlM_feed_members l w ms ((k, v) :: done) frames
    rw [memberTokens_cons_cons]
    simpa [feed, hv] using h
termination_by sizeOf v + sizeOf ms + 1

end

theorem eq_after_of_number {r s : Reading} {spelling : Bytes}
    (h : r.feed (.number spelling) = some s) : ∃ frames, s = .after (.number spelling) frames := by
  cases r with
  | value frames | firstItem frames =>
    cases h
    exact ⟨_, rfl⟩
  | after v frames =>
    cases frames with
    | nil => cases h
    | cons f frames => cases f <;> cases h
  | _ => cases h

theorem feed_after_number (v : Json) (frames : List Frame) (spelling : Bytes) :
    feed (.after v frames) (.number spelling) = none := by
  cases frames with
  | nil => rfl
  | cons f frames => cases f <;> rfl

/-- A number is a whole value, so another one cannot be next to it. -/
theorem isChain_of_foldlM_feed {r s : Reading} {ts : List Token}
    (h : ts.foldlM feed r = some s) :
    ts.IsChain fun t u => t.isNumber = true → u.isNumber = false := by
  induction ts generalizing r with
  | nil => exact .nil
  | cons t ts ih =>
    rw [List.foldlM_cons] at h
    obtain ⟨q, hq, h⟩ := Option.bind_eq_some_iff.mp h
    cases ts with
    | nil => exact .singleton t
    | cons u ts =>
      refine List.isChain_cons_cons.mpr ⟨fun ht => ?_, ih h⟩
      cases t with
      | number spelling =>
        obtain ⟨frames, rfl⟩ := eq_after_of_number hq
        cases u with
        | number spelling' =>
          rw [List.foldlM_cons, feed_after_number] at h
          cases h
        | _ => rfl
      | _ => cases ht

end Reading

theorem ofTokens?_tokens (v : Json) : ofTokens? v.tokens = some v := by
  rw [ofTokens?, Reading.foldlM_feed_tokens]

/-- What is read as a value is its tokens with white space between them. -/
theorem read?_eq_some_iff (bs : Bytes) (v : Json) : read? bs = some v ↔ Spells v.tokens bs := by
  constructor
  · intro h
    obtain ⟨ts, hts, hv⟩ := Option.bind_eq_some_iff.mp h
    rw [← tokens_eq_of_ofTokens? hv]
    exact spells_of_tokens? hts
  · intro h
    have hchain := Reading.isChain_of_foldlM_feed (Reading.foldlM_feed_tokens v [])
    exact Option.bind_eq_some_iff.mpr ⟨_, tokens?_of_spells h hchain, ofTokens?_tokens v⟩

def IsSpelled (v : Json) : Prop :=
  ∀ t ∈ v.tokens, t.IsSpelled

theorem read?_write {v : Json} (h : v.IsSpelled) : read? v.write = some v :=
  (read?_eq_some_iff _ v).mpr (.flatMap_spell h)

end DiceBot.Json
