import DiceBot.Proofs.Dice.ReadUpTo

namespace DiceBot.Dice.Notation

open Text Decimal

theorem Place.run_trans {p q r : Place} {cs ds : List Char} (h : p.run cs = some q)
    (h' : q.run ds = some r) : p.run (cs ++ ds) = some r := by
  rw [run_append, h]
  exact h'

theorem Place.run_loop {p : Place} {cs : List Char} (h : ∀ c ∈ cs, p.step c = some p) :
    p.run cs = some p := by
  induction cs with
  | nil => rfl
  | cons c cs ih =>
    rw [run_cons, h c (by simp)]
    exact ih fun d hd => h d (by simp [hd])

theorem Place.run_blanks {p q : Place} {w : List Char}
    (hp : ∀ c, isBlank c = true → p.step c = some q)
    (hq : ∀ c, isBlank c = true → q.step c = some q) (hw : Blanks w) :
    p.run w = some p ∨ p.run w = some q := by
  rw [blanks_iff] at hw
  cases w with
  | nil => exact .inl rfl
  | cons c cs =>
    right
    rw [run_cons, hp c (hw c (by simp))]
    exact run_loop fun d hd => hq d (hw d (by simp [hd]))

theorem Place.run_numeral {p q : Place} {n : List Char}
    (hp : ∀ c, isLeadingDigit c = true → p.step c = some q)
    (hq : ∀ c, c.isDigit = true → q.step c = some q) (hn : Numeral n) : p.run n = some q := by
  cases n with
  | nil => cases hn
  | cons c cs =>
    obtain ⟨hc, hcs⟩ := (numeral_cons_iff c cs).mp hn
    rw [run_cons, hp c hc]
    exact run_loop fun d hd => hq d (hcs d hd)

theorem not_isBlank {c : Char} (hc : isLeadingDigit c = true) : isBlank c = false :=
  isBlank_eq_false_of_isDigit (isDigit_of_isLeadingDigit hc)

theorem not_isDigit {c : Char} (hc : isBlank c = true) : c.isDigit = false := by
  rw [Bool.eq_false_iff]
  intro hd
  rw [isBlank_eq_false_of_isDigit hd] at hc
  cases hc

theorem ne_of_isBlank {c d : Char} (hc : isBlank c = true) (hd : isBlank d = false) : c ≠ d := by
  rintro rfl
  rw [hd] at hc
  cases hc

def Place.isOpen : Place → Bool
  | .start | .plus | .next => true
  | _ => false

theorem Place.run_blanks_of_isOpen {p : Place} {w : List Char} (hp : p.isOpen = true)
    (hw : Blanks w) : p.run w = some p := by
  have hstep : ∀ c, isBlank c = true → p.step c = some p := by
    intro c hc
    cases p with
    | start | plus | next => simp [step, hc]
    | _ => cases hp
  exact (or_self_iff).mp (run_blanks hstep hstep hw)

theorem Place.run_count {p : Place} {n : List Char} (hp : p.isOpen = true) (hn : Numeral n) :
    p.run (n ++ ['d']) = some .die := by
  have hcount : ∀ c, c.isDigit = true → step .count c = some .count := by
    intro c hc
    simp [step, hc]
  cases p with
  | start =>
    have h : Place.start.run n = some .count :=
      run_numeral (fun c hc => by simp [step, hc, not_isBlank hc]) hcount hn
    exact run_trans h rfl
  | next =>
    have h : Place.next.run n = some .count :=
      run_numeral (fun c hc => by simp [step, hc, not_isBlank hc]) hcount hn
    exact run_trans h rfl
  | plus =>
    have h : Place.plus.run n = some .number :=
      run_numeral (fun c hc => by simp [step, hc, not_isBlank hc])
        (fun c hc => by simp [step, hc]) hn
    exact run_trans h rfl
  | _ => cases hp

theorem Place.run_dice {p : Place} {n s d : List Char} (hp : p.isOpen = true)
    (hd : DiceText n s d) : p.run d = some .sides ∨ p.run d = some .afterGroup := by
  obtain ⟨hn, hs, hw⟩ := hd
  have hsides : Place.die.run s = some .sides :=
    run_numeral (fun c hc => by simp [step, hc]) (fun c hc => by simp [step, hc]) hs
  have hgroup := run_trans (run_count hp hn) hsides
  have hblanks := run_blanks (p := .sides) (q := .afterGroup)
    (fun c hc => by simp [step, hc, not_isDigit hc]) (fun c hc => by simp [step, hc]) hw
  rw [List.append_cons, ← List.append_assoc]
  exact hblanks.imp (run_trans hgroup) (run_trans hgroup)

/-- A sign leads to `o` and the numeral behind it to `q`, whatever blanks are between. -/
theorem Place.run_signed {p o q : Place} {c : Char} {w n v : List Char} (hc : p.step c = some o)
    (ho : ∀ c, isBlank c = true → o.step c = some o)
    (hlead : ∀ c, isLeadingDigit c = true → o.step c = some q)
    (hdigit : ∀ c, c.isDigit = true → q.step c = some q)
    (hblank : ∀ c, isBlank c = true → q.step c = some .afterModifier) (hq : q.isEnd = true)
    (hw : Blanks w) (hn : Numeral n) (hv : Blanks v) :
    ∃ r, p.run (c :: (w ++ n ++ v)) = some r ∧ r.isEnd = true := by
  have hafter : ∀ c, isBlank c = true → step .afterModifier c = some .afterModifier :=
    fun c hc => by simp [step, hc]
  have hread : o.run (w ++ n) = some q :=
    run_trans (or_self_iff.mp (run_blanks ho ho hw)) (run_numeral hlead hdigit hn)
  rw [run_cons, hc]
  obtain h | h := run_blanks hblank hafter hv
  · exact ⟨q, run_trans hread h, hq⟩
  · exact ⟨.afterModifier, run_trans hread h, rfl⟩

theorem Place.run_modifier {p : Place} {m : Option (Sign × List Char)} {t : List Char}
    (hp : p = .sides ∨ p = .afterGroup) (hm : ModifierText m t) :
    ∃ q, p.run t = some q ∧ q.isEnd = true := by
  cases hm with
  | none => exact ⟨p, rfl, by obtain rfl | rfl := hp <;> rfl⟩
  | @some s w n v hw hn hv =>
    cases s with
    | plus =>
      have hsign : p.step '+' = some .plus := by obtain rfl | rfl := hp <;> rfl
      exact run_signed (q := .number) hsign (fun c hc => by simp [step, hc])
        (fun c hc => by simp [step, hc, not_isBlank hc]) (fun c hc => by simp [step, hc])
        (fun c hc => by simp [step, hc, not_isDigit hc, ne_of_isBlank hc (d := 'd') rfl])
        rfl hw hn hv
    | minus =>
      have hsign : p.step '-' = some .minus := by obtain rfl | rfl := hp <;> rfl
      exact run_signed (q := .modifier) hsign (fun c hc => by simp [step, hc])
        (fun c hc => by simp [step, hc, not_isBlank hc]) (fun c hc => by simp [step, hc])
        (fun c hc => by simp [step, hc, not_isDigit hc]) rfl hw hn hv

theorem Place.run_group {p : Place} {g : Group} {w t : List Char} (hp : p.isOpen = true)
    (hw : Blanks w) (hg : GroupText g t) : ∃ q, p.run (w ++ t) = some q ∧ q.isEnd = true := by
  obtain ⟨hd, hm⟩ := hg
  have hblanks := run_blanks_of_isOpen hp hw
  obtain h | h := run_dice hp hd
  · obtain ⟨q, hq, hend⟩ := run_modifier (.inl rfl) hm
    exact ⟨q, run_trans hblanks (run_trans h hq), hend⟩
  · obtain ⟨q, hq, hend⟩ := run_modifier (.inr rfl) hm
    exact ⟨q, run_trans hblanks (run_trans h hq), hend⟩

theorem Place.run_further {p : Place} {gs : List Group} {t : List Char} (hp : p.isEnd = true)
    (h : FurtherGroups gs t) : ∃ q, p.run t = some q ∧ q.isEnd = true := by
  induction h generalizing p with
  | nil => exact ⟨p, rfl, hp⟩
  | cons hw hg _ ih =>
    have hplus : ∃ o, p.step '+' = some o ∧ o.isOpen = true := by
      cases p with
      | sides | afterGroup => exact ⟨.plus, rfl, rfl⟩
      | number | modifier | afterModifier => exact ⟨.next, rfl, rfl⟩
      | _ => cases hp
    obtain ⟨o, ho, hopen⟩ := hplus
    obtain ⟨q, hq, hend⟩ := run_group hopen hw hg
    obtain ⟨r, hr, hend⟩ := ih hend
    refine ⟨r, ?_, hend⟩
    rw [run_cons, ho]
    exact run_trans hq hr

theorem isExpression_of_derives {gs : List Group} {cs : List Char} (h : Derives gs cs) :
    isExpression cs = true := by
  obtain ⟨hw, hg, hgs⟩ := h
  obtain ⟨p, hp, hend⟩ := Place.run_group (p := .start) rfl hw hg
  obtain ⟨q, hq, hend⟩ := Place.run_further hend hgs
  exact (isExpression_iff _).mpr ⟨q, Place.run_trans hp hq, hend⟩

end DiceBot.Dice.Notation
