import DiceBot.Json.Record
import DiceBot.Proofs.Json.Reading

namespace DiceBot.Json

def openers : Bytes :=
  [0x20, 0x09, 0x0A, 0x0D, 0x5B, 0x7B]

theorem mem_starts_of_mem_openers {b : UInt8} (hb : b ∈ openers) : b ∈ starts := by
  have hsubset : openers.all (fun c => starts.contains c) = true := rfl
  exact List.contains_iff_mem.mp (List.all_eq_true.mp hsubset b hb)

theorem isLetter_of_mem_openers {b : UInt8} (hb : b ∈ openers) : Lexer.isLetter b = false := by
  have hall : openers.all (fun c => !Lexer.isLetter c) = true := rfl
  simpa using List.all_eq_true.mp hall b hb

theorem StringPart.step_of_mem_openers {b : UInt8} (hb : b ∈ openers) :
    StringPart.escape.step b = none ∧ ∀ n, (StringPart.unit n).step b = none := by
  have hescape : openers.all (fun c => (StringPart.escape.step c).isNone) = true := rfl
  have hdigit : openers.all (fun c => (Text.Hex.digit? (Char.ofUInt8 c)).isNone) = true := rfl
  rw [List.all_eq_true] at hescape hdigit
  refine ⟨Option.isNone_iff_eq_none.mp (hescape b hb), fun n => ?_⟩
  simp only [step, Option.isNone_iff_eq_none.mp (hdigit b hb)]

namespace Lexer

def isOutside (l : Lexer) : Bool :=
  match l.scan with
  | .string .. => false
  | _ => true

def isInText (l : Lexer) : Bool :=
  match l.scan with
  | .string .plain _ => true
  | _ => false

theorem isOutside_of_start {ts : List Token} {m : Lexer} {b : UInt8} (hb : b ≠ 0x22)
    (h : start ⟨ts, .between⟩ b = some m) : m.isOutside = true := by
  cases started_of_start h with
  | string hq => exact absurd hq hb
  | _ => rfl

theorem HasRead.feed_outside {l m : Lexer} {b : UInt8} {bs : Bytes} (h : HasRead l bs)
    (hl : l.isOutside = true) (hm : l.feed b = some m) :
    b ≠ 0x5C ∧ (b = 0x22 → m.isInText = true) ∧ (b ≠ 0x22 → m.isOutside = true) := by
  cases h with
  | between h =>
    refine ⟨?_, ?_, fun hb => isOutside_of_start hb hm⟩
    · rintro rfl
      cases hm
    · rintro rfl
      cases hm
      rfl
  | @word _ _ _ rest _ _ _ _ _ hw =>
    simp only [Lexer.feed] at hm
    split at hm
    · next hb =>
      subst hb
      have hletter := List.all_eq_true.mp hw b (List.mem_cons_self ..)
      refine ⟨?_, ?_, fun _ => ?_⟩
      · rintro rfl
        exact absurd hletter (by decide)
      · rintro rfl
        exact absurd hletter (by decide)
      · cases rest <;> cases hm <;> rfl
    · cases hm
  | @number _ _ _ p _ _ =>
    have hquote : p.step (Char.ofUInt8 0x22) = none := by cases p <;> decide
    have hbackslash : p.step (Char.ofUInt8 0x5C) = none := by cases p <;> decide
    simp only [Lexer.feed] at hm
    split at hm
    · next q hq =>
      cases hm
      refine ⟨?_, ?_, fun _ => rfl⟩
      · rintro rfl
        rw [hbackslash] at hq
        cases hq
      · rintro rfl
        rw [hquote] at hq
        cases hq
    · split at hm
      · refine ⟨?_, ?_, fun hb => isOutside_of_start hb hm⟩
        · rintro rfl
          cases hm
        · rintro rfl
          cases hm
          rfl
      · cases hm
  | string => cases hl

theorem feed_inText {l m : Lexer} {b : UInt8} (hl : l.isInText = true) (hm : l.feed b = some m)
    (hb : b ≠ 0x5C) : (b = 0x22 → m.isOutside = true) ∧ (b ≠ 0x22 → m.isInText = true) := by
  obtain ⟨ts, scan⟩ := l
  cases scan with
  | string p read =>
    cases p with
    | plain =>
      simp only [feed] at hm
      split at hm
      · next hq =>
        cases hm
        exact ⟨fun _ => rfl, fun hne => absurd hq.2 hne⟩
      · next hq =>
        refine ⟨fun h => absurd ⟨trivial, h⟩ hq, fun _ => ?_⟩
        obtain ⟨q, hq, rfl⟩ := Option.map_eq_some_iff.mp hm
        simp only [StringPart.step, if_neg hb] at hq
        split at hq
        · cases hq
        · cases hq
          rfl
    | _ => cases hl
  | _ => cases hl

/-- One of two lexers is inside a string exactly where the other is not. -/
def Opposed (l m : Lexer) : Prop :=
  l.isInText = true ∧ m.isOutside = true ∨ l.isOutside = true ∧ m.isInText = true

theorem Opposed.feed {l m l' m' : Lexer} {b : UInt8} {bs cs : Bytes} (h : Opposed l m)
    (hl : HasRead l bs) (hm : HasRead m cs) (hl' : l.feed b = some l') (hm' : m.feed b = some m') :
    Opposed l' m' := by
  obtain ⟨hin, hout⟩ | ⟨hout, hin⟩ := h
  · obtain ⟨hb, hquote, hother⟩ := hm.feed_outside hout hm'
    obtain ⟨hquote', hother'⟩ := feed_inText hin hl' hb
    by_cases hq : b = 0x22
    · exact .inr ⟨hquote' hq, hquote hq⟩
    · exact .inl ⟨hother' hq, hother hq⟩
  · obtain ⟨hb, hquote, hother⟩ := hl.feed_outside hout hl'
    obtain ⟨hquote', hother'⟩ := feed_inText hin hm' hb
    by_cases hq : b = 0x22
    · exact .inl ⟨hquote hq, hquote' hq⟩
    · exact .inr ⟨hother hq, hother' hq⟩

theorem finish_of_isInText {l : Lexer} (h : l.isInText = true) : l.finish = none := by
  obtain ⟨ts, scan⟩ := l
  cases scan with
  | string p read => rfl
  | _ => cases h

/-- Every quote that closes a string for one lexer opens one for the other, so they cannot both
come to an end. -/
theorem Opposed.finish_eq_none {l m : Lexer} {bs cs ds : Bytes} (h : Opposed l m)
    (hl : HasRead l bs) (hm : HasRead m cs) :
    ds.foldlM Lexer.feed l >>= finish = none ∨ ds.foldlM Lexer.feed m >>= finish = none := by
  induction ds generalizing l m bs cs with
  | nil =>
    obtain ⟨hin, -⟩ | ⟨-, hin⟩ := h
    · exact .inl (finish_of_isInText hin)
    · exact .inr (finish_of_isInText hin)
  | cons d ds ih =>
    rw [List.foldlM_cons, List.foldlM_cons]
    cases hl' : l.feed d with
    | none => exact .inl rfl
    | some l' =>
      cases hm' : m.feed d with
      | none => exact .inr rfl
      | some m' => exact ih (h.feed hl hm hl' hm') (hl.feed hl') (hm.feed hm')

theorem HasRead.exists_pre {l : Lexer} {p : Bytes} (h : HasRead l p) {ts us : List Token}
    {b : UInt8} {bs : Bytes} (hb : b ∈ openers) (hbs : Spells us (b :: bs))
    (hus : us.IsChain fun t u => t.isNumber = true → u.isNumber = false)
    (hts : (b :: bs).foldlM Lexer.feed l >>= Lexer.finish = some ts) :
    ∃ pre, Spells pre p ∧ ts = pre ++ us := by
  have hrun := tokens_of_spells hbs hus
  have hnumber : ∀ q : NumberPart, q.step (Char.ofUInt8 b) = none :=
    fun q => q.step_of_mem_starts (mem_starts_of_mem_openers hb)
  obtain ⟨hescape, hunit⟩ := StringPart.step_of_mem_openers hb
  -- A lexer that refuses the first byte does not come to an end.
  have hrefuse : l.feed b ≠ none := by
    intro hfeed
    rw [List.foldlM_cons, hfeed] at hts
    cases hts
  cases h with
  | @between ts' _ h =>
    rw [hrun] at hts
    exact ⟨ts'.reverse, h, (Option.some.inj hts).symm⟩
  | @word _ _ _ rest next _ _ _ _ hw =>
    refine absurd ?_ hrefuse
    have hne : b ≠ next := by
      rintro rfl
      have hletter := List.all_eq_true.mp hw b (List.mem_cons_self ..)
      exact Bool.false_ne_true ((isLetter_of_mem_openers hb).symm.trans hletter)
    simp only [Lexer.feed, if_neg hne]
  | @number ts' _ read q h hq =>
    cases hend : q.isEnd with
    | false =>
      refine absurd ?_ hrefuse
      simp only [Lexer.feed, hnumber q, hend]
      rfl
    | true =>
      have hfeed : Lexer.feed ⟨ts', .number q read⟩ b =
          Lexer.feed ⟨.number read.reverse :: ts', .between⟩ b := by
        simp only [Lexer.feed, hnumber q, hend, if_true, push]
      rw [List.foldlM_cons, hfeed, ← List.foldlM_cons, hrun, List.reverse_cons] at hts
      have ht : (Token.number read.reverse).IsSpelled := ⟨q, hq, hend⟩
      exact ⟨_, h.snoc ht, (Option.some.inj hts).symm⟩
  | @string ts' _ read q h hq =>
    cases q with
    | plain =>
      have hopposed : Opposed ⟨ts', .string .plain read⟩ ⟨[], .between⟩ := .inl ⟨rfl, rfl⟩
      obtain hnone | hnone := hopposed.finish_eq_none (.string h hq) (.between .nil)
      · rw [hts] at hnone
        cases hnone
      · rw [hrun] at hnone
        cases hnone
    | escape =>
      refine absurd ?_ hrefuse
      simp [Lexer.feed, hescape]
    | unit n =>
      refine absurd ?_ hrefuse
      simp [Lexer.feed, hunit n]

end Lexer

def isCompound : Json → Bool
  | .array _ | .object _ => true
  | _ => false

theorem tokens_of_isCompound {v : Json} (h : v.isCompound = true) :
    ∃ t ts, v.tokens = t :: ts ∧ (t = .openArray ∨ t = .openObject) := by
  cases v with
  | array items => exact ⟨.openArray, _, by rw [tokens], .inl rfl⟩
  | object members => exact ⟨.openObject, _, by rw [tokens], .inr rfl⟩
  | _ => cases h

theorem cons_of_spells {v : Json} (hv : v.isCompound = true) {bs : Bytes}
    (h : Spells v.tokens bs) : ∃ c cs, bs = c :: cs ∧ c ∈ openers := by
  obtain ⟨t, ts, hts, ht⟩ := tokens_of_isCompound hv
  rw [hts] at h
  cases h with
  | @space _ c cs hb _ =>
    refine ⟨c, cs, rfl, ?_⟩
    obtain rfl | rfl | rfl | rfl := (isSpace_iff c).mp hb <;> decide
  | token _ _ => obtain rfl | rfl := ht <;> exact ⟨_, _, rfl, by decide⟩

theorem isSpace_of_spells_nil {bs : Bytes} (h : Spells [] bs) : ∀ b ∈ bs, isSpace b = true := by
  generalize hts : ([] : List Token) = ts at h
  induction h with
  | nil => simp
  | space hb _ ih => exact List.forall_mem_cons.mpr ⟨hb, ih hts⟩
  | token => cases hts

theorem Reading.foldlM_feed_of_isCompound {v : Json} (hv : v.isCompound = true) {r s : Reading}
    (h : v.tokens.foldlM feed r = some s) :
    ∃ frames, s = .after v frames ∧ r.consumed = framesTokens frames := by
  obtain ⟨t, ts, hts, ht⟩ := tokens_of_isCompound hv
  cases r with
  | value frames =>
    rw [foldlM_feed_tokens] at h
    exact ⟨frames, (Option.some.inj h).symm, rfl⟩
  | firstItem frames =>
    have hfirst := foldlM_feed_firstItem v [] frames
    rw [List.append_nil, foldlM_feed_tokens, h] at hfirst
    refine ⟨.array [] :: frames, Option.some.inj hfirst, ?_⟩
    simp [consumed, framesTokens_cons, Frame.tokens, itemsBefore]
  | after w frames =>
    rw [hts, List.foldlM_cons] at h
    obtain rfl | rfl := ht <;> obtain _ | ⟨_ | _, _⟩ := frames <;> cases h
  | _ =>
    rw [hts, List.foldlM_cons] at h
    obtain rfl | rfl := ht <;> cases h

/-- An array or object that a text ends with is all of the text, but for white space. -/
theorem read?_append {p bs : Bytes} {v w : Json} (hv : read? (p ++ bs) = some v)
    (hw : read? bs = some w) (hcompound : w.isCompound = true) :
    v = w ∧ ∀ b ∈ p, isSpace b = true := by
  have hbs : Spells w.tokens bs := (read?_eq_some_iff bs w).mp hw
  obtain ⟨c, cs, rfl, hc⟩ := cons_of_spells hcompound hbs
  obtain ⟨ts, hts, hv⟩ := Option.bind_eq_some_iff.mp hv
  rw [tokens?, List.foldlM_append] at hts
  obtain ⟨m, hm, hts⟩ := Option.bind_eq_some_iff.mp hts
  obtain ⟨l, hl, hm⟩ := Option.bind_eq_some_iff.mp hm
  have hstart : Lexer.HasRead {} [] := .between .nil
  have hchain := Reading.isChain_of_foldlM_feed (Reading.foldlM_feed_tokens w [])
  obtain ⟨pre, hpre, rfl⟩ := (hstart.run hl).exists_pre hc hbs hchain
    (Option.bind_eq_some_iff.mpr ⟨m, hm, hts⟩)
  have hread : (pre ++ w.tokens).foldlM Reading.feed (.value []) = some (.after v []) := by
    rw [tokens_eq_of_ofTokens? hv, Reading.foldlM_feed_tokens]
  rw [List.foldlM_append] at hread
  obtain ⟨r, hr, hread⟩ := Option.bind_eq_some_iff.mp hread
  obtain ⟨frames, hafter, hconsumed⟩ := Reading.foldlM_feed_of_isCompound hcompound hread
  cases hafter
  have hnil : pre = [] := (Reading.consumed_run hr).symm.trans hconsumed
  subst hnil
  exact ⟨rfl, isSpace_of_spells_nil hpre⟩

theorem Shape.isCompound_of_read {α : Type} {s : Shape α} {v : Json} {a : α}
    (h : s.read v = some a) : v.isCompound = true := by
  cases v with
  | array | object => rfl
  | _ => cases h

theorem Shape.decode?_append {α β : Type} {s : Shape α} {build : α → β} {parts : β → α}
    {p bs : Bytes} {a b : β} (ha : (s.codec build parts).decode? (p ++ bs) = some a)
    (hb : (s.codec build parts).decode? bs = some b) :
    a = b ∧ ∀ c ∈ p, isSpace c = true := by
  obtain ⟨v, hv, ha⟩ := Option.bind_eq_some_iff.mp ha
  obtain ⟨w, hw, hb⟩ := Option.bind_eq_some_iff.mp hb
  obtain ⟨x, hx, -⟩ := Option.map_eq_some_iff.mp hb
  obtain ⟨rfl, hp⟩ := read?_append hv hw (isCompound_of_read hx)
  exact ⟨Option.some.inj (ha.symm.trans hb), hp⟩

end DiceBot.Json
