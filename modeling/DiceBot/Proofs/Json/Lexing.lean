import DiceBot.Proofs.Json.Spelling
import Mathlib.Data.List.Chain

namespace DiceBot.Json

def Token.isNumber : Token → Bool
  | .number _ => true
  | _ => false

def starts : Bytes :=
  [0x20, 0x09, 0x0A, 0x0D, 0x5B, 0x5D, 0x7B, 0x7D, 0x2C, 0x3A, 0x22, 0x6E, 0x74, 0x66]

theorem NumberPart.step_of_mem_starts (p : NumberPart) {b : UInt8} (hb : b ∈ starts) :
    p.step (Char.ofUInt8 b) = none := by
  have hall : starts.all (fun c => (p.step (Char.ofUInt8 c)).isNone) = true := by
    cases p <;> rfl
  exact Option.isNone_iff_eq_none.mp (List.all_eq_true.mp hall b hb)

theorem mem_starts_of_isSpace {b : UInt8} (hb : isSpace b = true) : b ∈ starts := by
  obtain rfl | rfl | rfl | rfl := (isSpace_iff b).mp hb <;> decide

theorem mem_starts_of_spells {ts : List Token} {b : UInt8} {bs : Bytes} (h : Spells ts (b :: bs))
    (hts : ∀ t ∈ ts.head?, t.isNumber = false) : b ∈ starts := by
  generalize hcs : b :: bs = cs at h
  cases h with
  | nil => cases hcs
  | space hb _ =>
    cases hcs
    exact mem_starts_of_isSpace hb
  | @token t ts bs' ht h =>
    have hfirst : ∃ c cs, t.spell = c :: cs ∧ c ∈ starts := by
      cases t with
      | number s => cases hts _ rfl
      | string s => exact ⟨0x22, s ++ [0x22], rfl, by decide⟩
      | null => exact ⟨0x6E, [0x75, 0x6C, 0x6C], by decide, by decide⟩
      | bool b =>
        cases b with
        | true => exact ⟨0x74, [0x72, 0x75, 0x65], by decide, by decide⟩
        | false => exact ⟨0x66, [0x61, 0x6C, 0x73, 0x65], by decide, by decide⟩
      | _ => exact ⟨_, [], rfl, by decide⟩
    obtain ⟨c, cs, hc, hmem⟩ := hfirst
    rw [hc, List.cons_append] at hcs
    cases hcs
    exact hmem

namespace Lexer

theorem start_space {b : UInt8} (hb : isSpace b = true) (l : Lexer) : l.start b = some l := by
  obtain rfl | rfl | rfl | rfl := (isSpace_iff b).mp hb <;> rfl

theorem start_number {b : UInt8} {p : NumberPart} (hp : numberPart? [b] = some p)
    (ts : List Token) : start ⟨ts, .between⟩ b = some ⟨ts, .number p [b]⟩ := by
  by_cases hb : b = 0x2D
  · subst hb
    cases hp
    rfl
  · have hstep : NumberPart.minus.step (Char.ofUInt8 b) = some p := by
      rw [numberPart?, if_neg hb] at hp
      simpa [NumberPart.run] using hp
    unfold start
    split
    case h_16 => rw [hstep]; rfl
    case h_15 hc => exact absurd ((ofUInt8_inj (b := 0x2D)).mp hc) hb
    all_goals
      next hc =>
        rw [hc] at hstep
        cases hstep

theorem foldlM_feed_number {p q : NumberPart} {bs : Bytes} (h : p.run bs = some q)
    (ts : List Token) (read : Bytes) :
    bs.foldlM feed ⟨ts, .number p read⟩ = some ⟨ts, .number q (bs.reverse ++ read)⟩ := by
  induction bs generalizing p read with
  | nil =>
    cases h
    rfl
  | cons b bs ih =>
    rw [NumberPart.run, List.foldlM_cons] at h
    obtain ⟨r, hr, h⟩ := Option.bind_eq_some_iff.mp h
    have hfeed : feed ⟨ts, .number p read⟩ b = some ⟨ts, .number r (b :: read)⟩ := by
      simp only [feed, hr]
    rw [List.foldlM_cons, hfeed, List.reverse_cons, List.append_assoc, List.singleton_append]
    exact ih h (b :: read)

theorem foldlM_feed_string {p q : StringPart} {bs : Bytes} (h : p.run bs = some q)
    (ts : List Token) (read : Bytes) :
    bs.foldlM feed ⟨ts, .string p read⟩ = some ⟨ts, .string q (bs.reverse ++ read)⟩ := by
  induction bs generalizing p read with
  | nil =>
    cases h
    rfl
  | cons b bs ih =>
    rw [StringPart.run, List.foldlM_cons] at h
    obtain ⟨r, hr, h⟩ := Option.bind_eq_some_iff.mp h
    have hfeed : feed ⟨ts, .string p read⟩ b = some ⟨ts, .string r (b :: read)⟩ := by
      rw [StringPart.stepInside] at hr
      split at hr
      · cases hr
      · next hb => simp only [feed, if_neg hb, hr, Option.map_some]
    rw [List.foldlM_cons, hfeed, List.reverse_cons, List.append_assoc, List.singleton_append]
    exact ih h (b :: read)

theorem foldlM_feed_spell {t : Token} (ht : t.IsSpelled) (hn : t.isNumber = false)
    (ts : List Token) : t.spell.foldlM feed ⟨ts, .between⟩ = some ⟨t :: ts, .between⟩ := by
  cases t with
  | number s => cases hn
  | string s =>
    have hs := foldlM_feed_string ht ts []
    have hquote : feed ⟨ts, .between⟩ 0x22 = some ⟨ts, .string .plain []⟩ := rfl
    rw [Token.spell, List.foldlM_cons, hquote]
    apply (List.foldlM_append.trans (congrArg (· >>= _) hs)).trans
    simp [feed, push]
  | bool b => cases b <;> rfl
  | _ => rfl

theorem foldlM_feed_number_spell {bs : Bytes} {p : NumberPart} (hp : numberPart? bs = some p)
    (ts : List Token) : bs.foldlM feed ⟨ts, .between⟩ = some ⟨ts, .number p bs.reverse⟩ := by
  cases bs with
  | nil => cases hp
  | cons b bs =>
    rw [numberPart?_cons] at hp
    obtain ⟨q, hq, hp⟩ := Option.bind_eq_some_iff.mp hp
    have hfeed : feed ⟨ts, .between⟩ b = some ⟨ts, .number q [b]⟩ := start_number hq ts
    rw [List.foldlM_cons, hfeed, List.reverse_cons]
    exact foldlM_feed_number hp ts [b]

/-- What is spelled is read, unless two numbers run together. -/
theorem tokens_of_spells {ts : List Token} {bs : Bytes} (h : Spells ts bs)
    (hts : ts.IsChain fun t u => t.isNumber = true → u.isNumber = false) (us : List Token) :
    bs.foldlM feed ⟨us, .between⟩ >>= finish = some (us.reverse ++ ts) := by
  induction h generalizing us with
  | nil => simp [finish]
  | @space ts b bs hb h ih =>
    have hfeed : feed ⟨us, .between⟩ b = some ⟨us, .between⟩ := start_space hb _
    rw [List.foldlM_cons, hfeed]
    exact ih hts us
  | @token t ts bs ht h ih =>
    have hrest := ih hts.tail (t :: us)
    rw [List.reverse_cons, List.append_assoc, List.singleton_append] at hrest
    cases hn : t.isNumber with
    | false =>
      rw [List.foldlM_append, foldlM_feed_spell ht hn]
      exact hrest
    | true =>
      cases t with
      | number s =>
        obtain ⟨p, hp, hend⟩ := ht
        rw [List.foldlM_append, Token.spell, foldlM_feed_number_spell hp]
        refine Eq.trans ?_ hrest
        cases bs with
        | nil => simp [finish, hend, push]
        | cons b bs =>
          -- The number ends at the first byte behind it, which is read as any first byte.
          have hstep : p.step (Char.ofUInt8 b) = none := by
            refine p.step_of_mem_starts (mem_starts_of_spells h ?_)
            intro u hu
            cases ts with
            | nil => cases hu
            | cons v ts =>
              cases hu
              exact (List.isChain_cons_cons.mp hts).1 rfl
          have hfeed : feed ⟨us, .number p s.reverse⟩ b =
              feed ⟨.number s :: us, .between⟩ b := by
            simp [feed, hstep, hend, push]
          simp only [List.foldlM_cons, hfeed, Option.bind_eq_bind, Option.bind_some]
      | _ => cases hn

end Lexer

theorem tokens?_of_spells {ts : List Token} {bs : Bytes} (h : Spells ts bs)
    (hts : ts.IsChain fun t u => t.isNumber = true → u.isNumber = false) : tokens? bs = some ts :=
  Lexer.tokens_of_spells h hts []

end DiceBot.Json
