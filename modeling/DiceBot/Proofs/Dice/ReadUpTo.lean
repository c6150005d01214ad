import DiceBot.Proofs.Dice.Grammar

namespace DiceBot.Dice.Notation

open Text Decimal

def Place.run (p : Place) (cs : List Char) : Option Place :=
  cs.foldlM Place.step p

theorem Place.run_append (p : Place) (cs ds : List Char) :
    p.run (cs ++ ds) = p.run cs >>= fun q => q.run ds :=
  List.foldlM_append

theorem Place.run_cons (p : Place) (c : Char) (cs : List Char) :
    p.run (c :: cs) = p.step c >>= fun q => q.run cs :=
  List.foldlM_cons

theorem isExpression_iff (cs : List Char) :
    isExpression cs = true ↔ ∃ p, Place.start.run cs = some p ∧ p.isEnd = true := by
  unfold isExpression Place.run
  cases List.foldlM Place.step Place.start cs <;> simp

/-- What has been read when the reading stands at a place. -/
inductive ReadUpTo : Place → List Char → Prop
  | start {w : List Char} (hw : Blanks w) : ReadUpTo .start w
  | count {gs : List Group} {b n : List Char} (hb : BeforeGroup gs b) (hn : Numeral n) :
      ReadUpTo .count (b ++ n)
  | die {gs : List Group} {b n : List Char} (hb : BeforeGroup gs b) (hn : Numeral n) :
      ReadUpTo .die (b ++ (n ++ ['d']))
  | sides {gs : List Group} {b n s : List Char} (hb : BeforeGroup gs b) (hn : Numeral n)
      (hs : Numeral s) : ReadUpTo .sides (b ++ (n ++ 'd' :: s))
  | afterGroup {gs : List Group} {b n s d : List Char} (hb : BeforeGroup gs b)
      (hd : DiceText n s d) : ReadUpTo .afterGroup (b ++ d)
  | plus {gs : List Group} {b n s d w : List Char} (hb : BeforeGroup gs b) (hd : DiceText n s d)
      (hw : Blanks w) : ReadUpTo .plus (b ++ (d ++ '+' :: w))
  | number {gs : List Group} {b n s d w m : List Char} (hb : BeforeGroup gs b)
      (hd : DiceText n s d) (hw : Blanks w) (hm : Numeral m) :
      ReadUpTo .number (b ++ (d ++ '+' :: (w ++ m)))
  | minus {gs : List Group} {b n s d w : List Char} (hb : BeforeGroup gs b) (hd : DiceText n s d)
      (hw : Blanks w) : ReadUpTo .minus (b ++ (d ++ '-' :: w))
  | modifier {gs : List Group} {b n s d w m : List Char} (hb : BeforeGroup gs b)
      (hd : DiceText n s d) (hw : Blanks w) (hm : Numeral m) :
      ReadUpTo .modifier (b ++ (d ++ '-' :: (w ++ m)))
  | afterModifier {gs : List Group} {b n s d w m w' : List Char} (sign : Sign)
      (hb : BeforeGroup gs b) (hd : DiceText n s d) (hw : Blanks w) (hm : Numeral m)
      (hw' : Blanks w') : ReadUpTo .afterModifier (b ++ (d ++ sign.char :: (w ++ m ++ w')))
  | next {gs : List Group} {e w : List Char} (he : Derives gs e) (hw : Blanks w) :
      ReadUpTo .next (e ++ '+' :: w)

theorem readUpTo_afterDice {gs : List Group} {b n s d : List Char} {c : Char} {q : Place}
    (hb : BeforeGroup gs b) (hd : DiceText n s d)
    (hq : (if isBlank c then some Place.afterGroup else if c = '+' then some .plus
      else if c = '-' then some .minus else none) = some q) : ReadUpTo q (b ++ d ++ [c]) := by
  split at hq
  · next hc =>
    cases hq
    simpa using ReadUpTo.afterGroup hb (hd.snoc hc)
  split at hq
  · next hc =>
    cases hq
    subst hc
    simpa using ReadUpTo.plus hb hd .nil
  split at hq
  · next hc =>
    cases hq
    subst hc
    simpa using ReadUpTo.minus hb hd .nil
  cases hq

theorem readUpTo_afterModifier {gs : List Group} {b n s d w m w' : List Char} {c : Char}
    {q : Place} (sign : Sign) (hb : BeforeGroup gs b) (hd : DiceText n s d) (hw : Blanks w)
    (hm : Numeral m) (hw' : Blanks w')
    (hq : (if isBlank c then some Place.afterModifier else if c = '+' then some .next
      else none) = some q) :
    ReadUpTo q (b ++ (d ++ sign.char :: (w ++ m ++ w')) ++ [c]) := by
  split at hq
  · next hc =>
    cases hq
    simpa using ReadUpTo.afterModifier sign hb hd hw hm
      (hw'.append (blanks_singleton hc))
  split at hq
  · next hc =>
    cases hq
    subst hc
    have hg : GroupText ⟨n, s, some (sign, m)⟩ (d ++ sign.char :: (w ++ m ++ w')) :=
      .mk hd (.some hw hm hw')
    exact .next (hb.derives hg) .nil
  cases hq

/-- A place tells all of the text before it that what follows depends on. -/
theorem ReadUpTo.step {p q : Place} {cs : List Char} {c : Char} (h : ReadUpTo p cs)
    (hq : p.step c = some q) : ReadUpTo q (cs ++ [c]) := by
  cases h with
  | start hw =>
    simp only [Place.step] at hq
    split at hq
    · next hc =>
      cases hq
      exact .start (hw.append (blanks_singleton hc))
    split at hq
    · next hc =>
      cases hq
      exact .count (.first hw) (numeral_singleton hc)
    cases hq
  | count hb hn =>
    simp only [Place.step] at hq
    split at hq
    · next hc =>
      cases hq
      simpa using ReadUpTo.count hb (hn.snoc hc)
    split at hq
    · next hc =>
      cases hq
      subst hc
      simpa using ReadUpTo.die hb hn
    cases hq
  | die hb hn =>
    simp only [Place.step] at hq
    split at hq
    · next hc =>
      cases hq
      simpa using ReadUpTo.sides hb hn (numeral_singleton hc)
    cases hq
  | sides hb hn hs =>
    simp only [Place.step] at hq
    split at hq
    · next hc =>
      cases hq
      simpa using ReadUpTo.sides hb hn (hs.snoc hc)
    · have hd := DiceText.mk hn hs .nil
      rw [List.append_nil] at hd
      exact readUpTo_afterDice hb hd hq
  | afterGroup hb hd => exact readUpTo_afterDice hb hd hq
  | plus hb hd hw =>
    simp only [Place.step] at hq
    split at hq
    · next hc =>
      cases hq
      simpa using ReadUpTo.plus hb hd (hw.append (blanks_singleton hc))
    split at hq
    · next hc =>
      cases hq
      simpa using ReadUpTo.number hb hd hw (numeral_singleton hc)
    cases hq
  | number hb hd hw hm =>
    simp only [Place.step] at hq
    split at hq
    · next hc =>
      cases hq
      simpa using ReadUpTo.number hb hd hw (hm.snoc hc)
    split at hq
    · next hc =>
      -- The number was no modifier but the count of another group.
      cases hq
      subst hc
      simpa using ReadUpTo.die (.next (hb.derives (.ofDice hd)) hw) hm
    · simpa [Sign.char] using readUpTo_afterModifier .plus hb hd hw hm .nil hq
  | minus hb hd hw =>
    simp only [Place.step] at hq
    split at hq
    · next hc =>
      cases hq
      simpa using ReadUpTo.minus hb hd (hw.append (blanks_singleton hc))
    split at hq
    · next hc =>
      cases hq
      simpa using ReadUpTo.modifier hb hd hw (numeral_singleton hc)
    cases hq
  | modifier hb hd hw hm =>
    simp only [Place.step] at hq
    split at hq
    · next hc =>
      cases hq
      simpa using ReadUpTo.modifier hb hd hw (hm.snoc hc)
    · simpa [Sign.char] using readUpTo_afterModifier .minus hb hd hw hm .nil hq
  | afterModifier sign hb hd hw hm hw' => exact readUpTo_afterModifier sign hb hd hw hm hw' hq
  | next he hw =>
    simp only [Place.step] at hq
    split at hq
    · next hc =>
      cases hq
      simpa using ReadUpTo.next he (hw.append (blanks_singleton hc))
    split at hq
    · next hc =>
      cases hq
      exact .count (.next he hw) (numeral_singleton hc)
    cases hq

theorem ReadUpTo.run {p q : Place} {cs ds : List Char} (h : ReadUpTo p cs)
    (hq : p.run ds = some q) : ReadUpTo q (cs ++ ds) := by
  induction ds generalizing p cs with
  | nil =>
    cases hq
    rwa [List.append_nil]
  | cons c ds ih =>
    rw [Place.run_cons] at hq
    obtain ⟨r, hr, hq⟩ := Option.bind_eq_some_iff.mp hq
    simpa using ih (h.step hr) hq

theorem ReadUpTo.derives {p : Place} {cs : List Char} (h : ReadUpTo p cs) (hp : p.isEnd = true) :
    ∃ gs, Derives gs cs := by
  cases h with
  | sides hb hn hs =>
    have hd := DiceText.mk hn hs .nil
    rw [List.append_nil] at hd
    exact ⟨_, hb.derives (.ofDice hd)⟩
  | afterGroup hb hd => exact ⟨_, hb.derives (.ofDice hd)⟩
  | number hb hd hw hm =>
    have hg := GroupText.mk hd (.some (s := .plus) hw hm .nil)
    rw [List.append_nil] at hg
    exact ⟨_, hb.derives hg⟩
  | modifier hb hd hw hm =>
    have hg := GroupText.mk hd (.some (s := .minus) hw hm .nil)
    rw [List.append_nil] at hg
    exact ⟨_, hb.derives hg⟩
  | afterModifier sign hb hd hw hm hw' => exact ⟨_, hb.derives (.mk hd (.some hw hm hw'))⟩
  | _ => cases hp

theorem exists_derives_of_isExpression {cs : List Char} (h : isExpression cs = true) :
    ∃ gs, Derives gs cs := by
  obtain ⟨p, hp, hend⟩ := (isExpression_iff cs).mp h
  exact ReadUpTo.derives (ReadUpTo.run (.start .nil) hp) hend

end DiceBot.Dice.Notation
