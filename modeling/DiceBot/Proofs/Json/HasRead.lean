import DiceBot.Proofs.Json.Spelling

namespace DiceBot.Json

namespace Lexer

def isLetter (b : UInt8) : Bool :=
  0x61 ≤ b && b ≤ 0x7A

/-- What a byte between tokens makes of a lexer: it is white space, a token, or the first byte of
one. -/
inductive Started (ts : List Token) (b : UInt8) : Lexer → Prop
  | space (hb : isSpace b = true) : Started ts b ⟨ts, .between⟩
  | token {t : Token} (ht : t.spell = [b]) (hs : t.IsSpelled) : Started ts b ⟨t :: ts, .between⟩
  | string (hb : b = 0x22) : Started ts b ⟨ts, .string .plain []⟩
  | word {next : UInt8} {rest : Bytes} {t : Token} (ht : t.spell = b :: next :: rest)
      (hs : t.IsSpelled) (hw : (next :: rest).all isLetter = true) :
      Started ts b ⟨ts, .word next rest t⟩
  | number {p : NumberPart} (hp : numberPart? [b] = some p) : Started ts b ⟨ts, .number p [b]⟩

theorem started_of_start {ts : List Token} {b : UInt8} {m : Lexer}
    (h : start ⟨ts, .between⟩ b = some m) : Started ts b m := by
  have hbyte : ∀ {c : UInt8}, Char.ofUInt8 b = Char.ofUInt8 c → b = c := ofUInt8_inj.mp
  unfold start at h
  split at h
  · next hb => cases hbyte (c := 0x20) hb; cases h; exact .space rfl
  · next hb => cases hbyte (c := 0x09) hb; cases h; exact .space rfl
  · next hb => cases hbyte (c := 0x0A) hb; cases h; exact .space rfl
  · next hb => cases hbyte (c := 0x0D) hb; cases h; exact .space rfl
  · next hb => cases hbyte (c := 0x5B) hb; cases h; exact .token rfl trivial
  · next hb => cases hbyte (c := 0x5D) hb; cases h; exact .token rfl trivial
  · next hb => cases hbyte (c := 0x7B) hb; cases h; exact .token rfl trivial
  · next hb => cases hbyte (c := 0x7D) hb; cases h; exact .token rfl trivial
  · next hb => cases hbyte (c := 0x2C) hb; cases h; exact .token rfl trivial
  · next hb => cases hbyte (c := 0x3A) hb; cases h; exact .token rfl trivial
  · next hb => cases h; exact .string (hbyte (c := 0x22) hb)
  · next hb => cases hbyte (c := 0x6E) hb; cases h; exact .word (by decide) trivial rfl
  · next hb => cases hbyte (c := 0x74) hb; cases h; exact .word (by decide) trivial rfl
  · next hb => cases hbyte (c := 0x66) hb; cases h; exact .word (by decide) trivial rfl
  · next hb => cases hbyte (c := 0x2D) hb; cases h; exact .number rfl
  · next hminus =>
    obtain ⟨p, hp, rfl⟩ := Option.map_eq_some_iff.mp h
    apply Started.number
    have hb : b ≠ 0x2D := fun hb => hminus (congrArg Char.ofUInt8 hb)
    rw [numberPart?, if_neg hb, NumberPart.run, List.foldlM_cons, hp]
    rfl

/-- The text that a lexer has read. -/
inductive HasRead : Lexer → Bytes → Prop
  | between {ts : List Token} {bs : Bytes} (h : Spells ts.reverse bs) : HasRead ⟨ts, .between⟩ bs
  | word {ts : List Token} {bs cs rest : Bytes} {next : UInt8} {t : Token}
      (h : Spells ts.reverse bs) (ht : t.spell = cs ++ next :: rest) (hs : t.IsSpelled)
      (hw : (next :: rest).all isLetter = true) : HasRead ⟨ts, .word next rest t⟩ (bs ++ cs)
  | number {ts : List Token} {bs read : Bytes} {p : NumberPart} (h : Spells ts.reverse bs)
      (hp : numberPart? read.reverse = some p) :
      HasRead ⟨ts, .number p read⟩ (bs ++ read.reverse)
  | string {ts : List Token} {bs read : Bytes} {p : StringPart} (h : Spells ts.reverse bs)
      (hp : StringPart.plain.run read.reverse = some p) :
      HasRead ⟨ts, .string p read⟩ (bs ++ 0x22 :: read.reverse)

theorem Started.hasRead {ts : List Token} {b : UInt8} {m : Lexer} {bs : Bytes}
    (h : Started ts b m) (hts : Spells ts.reverse bs) : HasRead m (bs ++ [b]) := by
  cases h with
  | space hb =>
    apply HasRead.between
    simpa using hts.append (.space hb .nil)
  | token ht hs =>
    apply HasRead.between
    rw [List.reverse_cons, ← ht]
    exact hts.snoc hs
  | string hb =>
    subst hb
    exact .string hts rfl
  | word ht hs hw => exact .word hts ht hs hw
  | number hp => exact .number hts hp

theorem HasRead.feed {l m : Lexer} {b : UInt8} {bs : Bytes} (h : HasRead l bs)
    (hm : l.feed b = some m) : HasRead m (bs ++ [b]) := by
  cases h with
  | between h => exact (started_of_start hm).hasRead h
  | @word ts bs cs rest next t h ht hs hw =>
    simp only [Lexer.feed] at hm
    split at hm
    · next hb =>
      subst hb
      rw [List.append_assoc]
      cases rest with
      | nil =>
        cases hm
        apply HasRead.between
        rw [List.reverse_cons, ← ht]
        exact h.snoc hs
      | cons next rest =>
        cases hm
        exact .word h (by rw [ht, List.append_assoc, List.singleton_append]) hs
          (Bool.and_eq_true_iff.mp hw).2
    · cases hm
  | @number ts bs read p h hp =>
    simp only [Lexer.feed] at hm
    split at hm
    · next q hq =>
      cases hm
      rw [List.append_assoc, ← List.reverse_cons]
      exact .number h (by rw [List.reverse_cons, numberPart?_snoc hp, hq])
    · split at hm
      · next hend =>
        have ht : (Token.number read.reverse).IsSpelled := ⟨p, hp, hend⟩
        apply (started_of_start hm).hasRead
        rw [List.reverse_cons]
        exact h.snoc ht
      · cases hm
  | @string ts bs read p h hp =>
    simp only [Lexer.feed] at hm
    split at hm
    · next hb =>
      obtain ⟨rfl, rfl⟩ := hb
      cases hm
      apply HasRead.between
      rw [List.reverse_cons, List.append_assoc]
      exact h.snoc (t := .string read.reverse) hp
    · next hb =>
      obtain ⟨q, hq, rfl⟩ := Option.map_eq_some_iff.mp hm
      rw [List.append_assoc, List.cons_append, ← List.reverse_cons]
      apply HasRead.string h
      rw [List.reverse_cons, StringPart.run_snoc hp, StringPart.stepInside, if_neg hb, hq]

theorem HasRead.run {l m : Lexer} {bs cs : Bytes} (h : HasRead l bs)
    (hm : cs.foldlM Lexer.feed l = some m) : HasRead m (bs ++ cs) := by
  induction cs generalizing l bs with
  | nil =>
    cases hm
    rwa [List.append_nil]
  | cons c cs ih =>
    rw [List.foldlM_cons] at hm
    obtain ⟨n, hn, hm⟩ := Option.bind_eq_some_iff.mp hm
    simpa using ih (h.feed hn) hm

theorem HasRead.finish {l : Lexer} {bs : Bytes} {ts : List Token} (h : HasRead l bs)
    (hts : l.finish = some ts) : Spells ts bs := by
  cases h with
  | between h =>
    cases hts
    exact h
  | @number us bs read p h hp =>
    simp only [Lexer.finish] at hts
    split at hts
    · next hend =>
      cases hts
      have ht : (Token.number read.reverse).IsSpelled := ⟨p, hp, hend⟩
      rw [push, List.reverse_cons]
      exact h.snoc ht
    · cases hts
  | _ => cases hts

end Lexer

theorem spells_of_tokens? {bs : Bytes} {ts : List Token} (h : tokens? bs = some ts) :
    Spells ts bs := by
  obtain ⟨l, hl, hts⟩ := Option.bind_eq_some_iff.mp h
  have hstart : Lexer.HasRead {} [] := .between .nil
  exact (hstart.run hl).finish hts

end DiceBot.Json
