import DiceBot.Dice.Format
import DiceBot.Proofs.Dice.Spelling
import DiceBot.Proofs.Text.Sum

namespace DiceBot.Dice

open Text Decimal

inductive Mark where
  | roll (r : Int64)
  | noRoll
  | modifier (m : Int64)
  deriving DecidableEq, Repr

def rollMarks : List Int64 → List Mark
  | [] => [.noRoll]
  | rs => rs.map .roll

theorem rollMarks_cons (r : Int64) (rs : List Int64) :
    rollMarks (r :: rs) = (r :: rs).map .roll :=
  rfl

def Outcome.marks (o : Outcome) : List Mark :=
  rollMarks o.rolls ++ if o.modifier = 0 then [] else [.modifier o.modifier]

def Step.marks (s : Step) : List Mark :=
  s.rolls.flatMap Outcome.marks

namespace Mark

def sign : Mark → Char
  | .modifier m => if 0 < m then '+' else '-'
  | _ => '+'

def body : Mark → List Char
  | .roll r => '(' :: (signed r.toInt ++ [')'])
  | .noRoll => ['(', ')']
  | .modifier m => signed m.toInt.natAbs

def spelling (m : Mark) : List Char :=
  ' ' :: m.sign :: ' ' :: m.body

def value : Mark → Int
  | .roll r => r.toInt
  | .noRoll => 0
  | .modifier m => m.toInt

end Mark

theorem natAbs_of_pos {m : Int64} (h : 0 < m) : (m.toInt.natAbs : Int) = m.toInt :=
  Int.natAbs_of_nonneg (Int.le_of_lt (Int64.lt_iff_toInt_lt.mp h))

def totalSpelling (total : Int64) : List Char :=
  ' ' :: '=' :: ' ' :: signed total.toInt

theorem totalSpelling_injective {i j : Int64} (h : totalSpelling i = totalSpelling j) : i = j :=
  Int64.toInt_inj.mp (Sum.signed_injective (by simpa [totalSpelling] using h))

theorem toList_modifierText (m : Int64) :
    (modifierText m).toList = if m = 0 then [] else (Mark.modifier m).spelling := by
  rw [modifierText, Mark.spelling, Mark.sign, Mark.body]
  by_cases h0 : m = 0
  · rw [if_pos h0, if_pos h0]
    rfl
  rw [if_neg h0, if_neg h0]
  by_cases hpos : 0 < m
  · simp [hpos, natAbs_of_pos hpos, ofInt]
  · simp [hpos, ofInt]

theorem brackets_eq (cs : List Char) (rs : List Int64) :
    cs ++ (rs.flatMap fun r => ") + (".toList ++ signed r.toInt) ++ [')'] =
      cs ++ ')' :: rs.flatMap fun r => (Mark.roll r).spelling := by
  induction rs generalizing cs with
  | nil => simp
  | cons r rs ih =>
    have h := ih (cs ++ (") + (".toList ++ signed r.toInt))
    simp only [List.flatMap_cons]
    rw [← List.append_assoc cs, h]
    simp [Mark.spelling, Mark.sign, Mark.body]

theorem flatMap_rollMarks (rs : List Int64) :
    (rollMarks rs).flatMap Mark.spelling =
      " + (".toList ++ (") + (".toList.intercalate (rs.map fun r => signed r.toInt) ++ [')']) := by
  cases rs with
  | nil => rfl
  | cons r rs =>
    rw [List.map_cons, Notation.intercalate_cons, List.flatMap_map, brackets_eq, rollMarks_cons,
      List.map_cons, List.flatMap_cons, List.flatMap_map]
    simp [Mark.spelling, Mark.sign, Mark.body]

theorem Outcome.append_text (o : Outcome) :
    " + ".toList ++ o.text.toList = o.marks.flatMap Mark.spelling := by
  have hmodifier : (modifierText o.modifier).toList =
      (if o.modifier = 0 then [] else [Mark.modifier o.modifier]).flatMap Mark.spelling := by
    rw [toList_modifierText]
    split
    · rfl
    · simp
  rw [marks, List.flatMap_append, flatMap_rollMarks, ← hmodifier, text]
  simp [ofInt, Function.comp_def]

theorem Outcome.exists_text_eq (o : Outcome) : ∃ cs, o.text.toList = '(' :: cs :=
  ⟨_, by simp only [text, String.toList_append]; rfl⟩

def Step.shown (s : Step) : List Char :=
  " + ".toList.intercalate (s.rolls.map fun o => o.text.toList)

theorem Step.toList_text (s : Step) : s.text.toList = s.shown ++ totalSpelling s.total := by
  simp [text, shown, totalSpelling, ofInt, Function.comp_def]

theorem Step.append_shown {s : Step} (h : s.rolls ≠ []) :
    " + ".toList ++ s.shown = s.marks.flatMap Mark.spelling := by
  obtain ⟨rolls, total⟩ := s
  cases rolls with
  | nil => exact absurd rfl h
  | cons o os =>
    simp only [shown, marks, List.map_cons, Notation.intercalate_cons, List.flatMap_map,
      List.flatMap_cons, List.flatMap_append, ← List.append_assoc, Outcome.append_text,
      List.flatMap_assoc]

theorem Step.exists_shown_eq {s : Step} (h : s.rolls ≠ []) : ∃ cs, s.shown = '(' :: cs := by
  obtain ⟨rolls, total⟩ := s
  cases rolls with
  | nil => exact absurd rfl h
  | cons o os =>
    obtain ⟨cs, hcs⟩ := o.exists_text_eq
    simp only [shown, List.map_cons, Notation.intercalate_cons, hcs]
    exact ⟨_, rfl⟩

namespace Mark

theorem roll_body_ne (r : Int64) : (roll r).body ≠ noRoll.body := by
  intro h
  have hsigned : signed r.toInt = [] := List.append_left_eq_self.mp (List.cons.inj h).2
  have hvalue := Sum.value?_signed r.toInt
  rw [hsigned] at hvalue
  cases hvalue

theorem bracket_notMem_body (m : Int64) : '(' ∉ (modifier m).body :=
  notMem_signed (by decide) rfl (m.toInt.natAbs : Int)

theorem eq_of_body_eq {m n : Mark} (hsign : m.sign = n.sign) (hbody : m.body = n.body) : m = n := by
  cases m with
  | roll r =>
    cases n with
    | roll s =>
      have hsigned : signed r.toInt = signed s.toInt :=
        List.append_cancel_right (List.cons.inj hbody).2
      rw [Int64.toInt_inj.mp (Sum.signed_injective hsigned)]
    | noRoll => exact absurd hbody (roll_body_ne r)
    | modifier k => exact absurd (hbody ▸ List.mem_cons_self) (bracket_notMem_body k)
  | noRoll =>
    cases n with
    | roll s => exact absurd hbody.symm (roll_body_ne s)
    | noRoll => rfl
    | modifier k => exact absurd (hbody ▸ List.mem_cons_self) (bracket_notMem_body k)
  | modifier k =>
    cases n with
    | roll s | noRoll => exact absurd (hbody ▸ List.mem_cons_self) (bracket_notMem_body k)
    | modifier l =>
      have habs : (k.toInt.natAbs : Int) = l.toInt.natAbs := Sum.signed_injective hbody
      have hpos : 0 < k.toInt ↔ 0 < l.toInt := by
        rw [← Int64.toInt_zero, ← Int64.lt_iff_toInt_lt, ← Int64.lt_iff_toInt_lt]
        by_cases hk : 0 < k <;> by_cases hl : 0 < l <;> simp [sign, hk, hl] at hsign ⊢
      have hkl : k.toInt = l.toInt := by omega
      rw [Int64.toInt_inj.mp hkl]

theorem notMem_body {c : Char} (hc : c = ' ' ∨ c = '=') (m : Mark) : c ∉ m.body := by
  have hsigned : ∀ i, c ∉ signed i := by
    obtain rfl | rfl := hc <;> exact notMem_signed (by decide) rfl
  cases m with
  | roll r =>
    have := hsigned r.toInt
    obtain rfl | rfl := hc <;> simpa [body]
  | noRoll => obtain rfl | rfl := hc <;> decide
  | modifier k => exact hsigned (k.toInt.natAbs : Int)

theorem sign_ne_equals (m : Mark) : m.sign ≠ '=' := by
  cases m with
  | roll r | noRoll => exact nofun
  | modifier k =>
    rw [sign]
    split <;> decide

end Mark

theorem eq_of_append_cons_eq {c : Char} {as bs cs ds : List Char} (ha : c ∉ as) (hb : c ∉ bs)
    (h : as ++ c :: cs = bs ++ c :: ds) : as = bs ∧ cs = ds := by
  induction as generalizing bs with
  | nil =>
    cases bs with
    | nil => exact ⟨rfl, (List.cons.inj h).2⟩
    | cons b bs => exact absurd (List.cons.inj h).1 (List.ne_of_not_mem_cons hb)
  | cons a as ih =>
    cases bs with
    | nil => exact absurd (List.cons.inj h).1.symm (List.ne_of_not_mem_cons ha)
    | cons b bs =>
      obtain ⟨rfl, htail⟩ := List.cons.inj h
      obtain ⟨rfl, rfl⟩ :=
        ih (List.not_mem_of_not_mem_cons ha) (List.not_mem_of_not_mem_cons hb) htail
      exact ⟨rfl, rfl⟩

/-- No two lists of marks, each with a total behind it, are spelled alike. -/
theorem eq_of_spelling_eq {ms ns : List Mark} {i j : Int64}
    (h : ms.flatMap Mark.spelling ++ totalSpelling i =
      ns.flatMap Mark.spelling ++ totalSpelling j) : ms = ns ∧ i = j := by
  -- what follows a body starts with a blank, so the body ends at the first one
  have hblank : ∀ (ms : List Mark) (i : Int64),
      ∃ cs, ms.flatMap Mark.spelling ++ totalSpelling i = ' ' :: cs := by
    intro ms i
    cases ms with
    | nil => exact ⟨_, rfl⟩
    | cons m ms => exact ⟨_, rfl⟩
  induction ms generalizing ns with
  | nil =>
    cases ns with
    | nil => exact ⟨rfl, totalSpelling_injective h⟩
    | cons n ns =>
      simp [totalSpelling, Mark.spelling, n.sign_ne_equals.symm] at h
  | cons m ms ih =>
    cases ns with
    | nil =>
      simp [totalSpelling, Mark.spelling, m.sign_ne_equals] at h
    | cons n ns =>
      obtain ⟨cs, hcs⟩ := hblank ms i
      obtain ⟨ds, hds⟩ := hblank ns j
      simp only [List.flatMap_cons, List.append_assoc, hcs, hds, Mark.spelling, List.cons_append,
        List.cons.injEq, true_and] at h
      obtain ⟨hsign, h⟩ := h
      obtain ⟨hbody, hrest⟩ := eq_of_append_cons_eq (Mark.notMem_body (.inl rfl) m)
        (Mark.notMem_body (.inl rfl) n) h
      obtain ⟨hms, hij⟩ := ih (hcs.trans ((congrArg (' ' :: ·) hrest).trans hds.symm))
      rw [Mark.eq_of_body_eq hsign hbody, hms, hij]
      exact ⟨rfl, rfl⟩

theorem Step.head?_text (s : Step) :
    s.text.toList.head? = some (if s.rolls = [] then ' ' else '(') := by
  rw [toList_text]
  split
  · next h =>
    rw [shown, h]
    rfl
  · next h =>
    obtain ⟨cs, hcs⟩ := exists_shown_eq h
    rw [hcs]
    rfl

theorem Step.eq_of_text_eq {s t : Step} (h : s.text = t.text) :
    s.total = t.total ∧ s.marks = t.marks := by
  have htext : s.shown ++ totalSpelling s.total = t.shown ++ totalSpelling t.total := by
    rw [← toList_text, ← toList_text, h]
  have hnil : s.rolls = [] ↔ t.rolls = [] := by
    have hhead := s.head?_text
    rw [h, t.head?_text, Option.some.injEq] at hhead
    split at hhead <;> split at hhead <;> simp_all
  by_cases hs : s.rolls = []
  · have ht := hnil.mp hs
    rw [shown, hs, shown, ht] at htext
    exact ⟨totalSpelling_injective htext, by rw [marks, hs, marks, ht]⟩
  · have hspelling : s.marks.flatMap Mark.spelling ++ totalSpelling s.total =
        t.marks.flatMap Mark.spelling ++ totalSpelling t.total := by
      rw [← append_shown hs, ← append_shown (mt hnil.mpr hs), List.append_assoc, List.append_assoc,
        htext]
    exact (eq_of_spelling_eq hspelling).symm

def Step.sum (s : Step) : Int :=
  ((s.rolls.flatMap Outcome.rolls).map Int64.toInt).sum +
    (s.rolls.map fun o => o.modifier.toInt).sum

theorem Outcome.sum_marks (o : Outcome) :
    (o.marks.map Mark.value).sum = (o.rolls.map Int64.toInt).sum + o.modifier.toInt := by
  have hrolls : ((rollMarks o.rolls).map Mark.value).sum = (o.rolls.map Int64.toInt).sum := by
    cases o.rolls with
    | nil => rfl
    | cons r rs =>
      rw [rollMarks_cons, List.map_map]
      rfl
  rw [marks, List.map_append, List.sum_append, hrolls]
  by_cases h0 : o.modifier = 0
  · simp [h0]
  · simp [h0, Mark.value]

theorem Step.sum_marks (s : Step) : (s.marks.map Mark.value).sum = s.sum := by
  obtain ⟨rolls, total⟩ := s
  simp only [marks, sum]
  induction rolls with
  | nil => rfl
  | cons o os ih =>
    simp only [List.flatMap_cons, List.map_append, List.sum_append, List.map_cons, List.sum_cons,
      o.sum_marks, ih]
    omega

section Reading

variable {r : Sum.Reading} {v : Int}

theorem exists_run_spelling {m : Mark} (hm : m ≠ .noRoll)
    (hr : r.settle = ⟨⟨v, false⟩, [], .behind⟩) :
    ∃ r', r.run m.spelling = some r' ∧ r'.settle = ⟨⟨v + m.value, false⟩, [], .behind⟩ := by
  cases m with
  | noRoll => exact absurd rfl hm
  | roll i => exact ⟨_, (Sum.run_plus hr _).trans (Sum.run_bracketed (.inr rfl) i.toInt), rfl⟩
  | modifier k =>
    have hbody : (Mark.modifier k).body = (digits k.toInt.natAbs).map ofDigit :=
      signed_natCast k.toInt.natAbs
    rw [Mark.spelling, Mark.sign, hbody]
    by_cases hk : 0 < k
    · rw [if_pos hk, Sum.run_plus hr, Sum.run_numeral (.inr rfl)]
      exact ⟨_, rfl, by simp [Sum.Reading.settle, Sum.Partial.add, Mark.value, natAbs_of_pos hk]⟩
    · have habs : (k.toInt.natAbs : Int) = -k.toInt :=
        Int.ofNat_natAbs_of_nonpos (Int.not_lt.mp fun h => hk (Int64.lt_iff_toInt_lt.mpr h))
      rw [if_neg hk, Sum.run_minus hr, Sum.run_numeral (.inr rfl)]
      exact ⟨_, rfl, by simp [Sum.Reading.settle, Sum.Partial.add, Mark.value, habs]⟩

theorem exists_run_spellings {ms : List Mark} (hms : .noRoll ∉ ms)
    (hr : r.settle = ⟨⟨v, false⟩, [], .behind⟩) :
    ∃ r', r.run (ms.flatMap Mark.spelling) = some r' ∧
      r'.settle = ⟨⟨v + (ms.map Mark.value).sum, false⟩, [], .behind⟩ := by
  induction ms generalizing r v with
  | nil => exact ⟨r, rfl, by simpa using hr⟩
  | cons m ms ih =>
    rw [List.mem_cons, not_or] at hms
    obtain ⟨r', hrun, hr'⟩ := exists_run_spelling (Ne.symm hms.1) hr
    obtain ⟨r'', hrun', hr''⟩ := ih hms.2 hr'
    refine ⟨r'', ?_, ?_⟩
    · rw [List.flatMap_cons, Sum.Reading.run_append hrun, hrun']
    · rw [hr'', List.map_cons, List.sum_cons, Int.add_assoc]

end Reading

theorem Outcome.noRoll_notMem_marks {o : Outcome} (h : o.rolls ≠ []) : .noRoll ∉ o.marks := by
  rw [marks]
  cases hrolls : o.rolls with
  | nil => exact absurd hrolls h
  | cons r rs =>
    rw [rollMarks_cons]
    split <;> simp

theorem Step.exists_run_shown {s : Step} (h : s.rolls ≠ []) (hrolls : ∀ o ∈ s.rolls, o.rolls ≠ []) :
    ∃ r, Sum.Reading.run {} s.shown = some r ∧ r.settle = ⟨⟨s.sum, false⟩, [], .behind⟩ := by
  have hmarks : .noRoll ∉ s.marks := by
    intro hmem
    obtain ⟨o, ho, hmem⟩ := List.mem_flatMap.mp hmem
    exact Outcome.noRoll_notMem_marks (hrolls o ho) hmem
  let zero : Sum.Reading := { place := .behind }
  obtain ⟨r, hrun, hr⟩ := exists_run_spellings hmarks (r := zero) (v := 0) rfl
  rw [← append_shown h] at hrun
  rw [sum_marks, Int.zero_add] at hr
  refine ⟨r, ?_, hr⟩
  -- the first summand is in brackets, so that it does not matter what stands before it
  obtain ⟨cs, hcs⟩ := exists_shown_eq h
  rw [← hrun, hcs]
  rfl

theorem Mark.equals_notMem_spelling (m : Mark) : '=' ∉ m.spelling := by
  have hsign := m.sign_ne_equals
  have hbody := m.notMem_body (.inr rfl)
  simp [spelling, hsign.symm, hbody]

theorem Step.equals_notMem_shown {s : Step} (h : s.rolls ≠ []) : '=' ∉ s.shown := by
  intro hmem
  have happend : '=' ∈ s.marks.flatMap Mark.spelling := by
    rw [← append_shown h]
    exact List.mem_append_right _ hmem
  obtain ⟨m, -, hm⟩ := List.mem_flatMap.mp happend
  exact m.equals_notMem_spelling hm

/-- The text of a step tells its total and, one after the other, its rolls and modifiers, and it is
an equation that is true if they add up to the total. -/
theorem Step.text_shows_every_number :
    (∀ s t : Step, s.text = t.text → s.total = t.total ∧ s.marks = t.marks) ∧
    ∀ s : Step, s.rolls ≠ [] → (∀ o ∈ s.rolls, o.rolls ≠ []) →
      (∃ left, s.text.toList = left ++ " = ".toList ++ signed s.total.toInt ∧ '=' ∉ left ∧
        Sum.value? left = some s.sum) ∧
      Sum.holds? s.text.toList = some (decide (s.sum = s.total.toInt)) := by
  refine ⟨fun s t => Step.eq_of_text_eq, fun s h hrolls => ?_⟩
  obtain ⟨r, hrun, hr⟩ := s.exists_run_shown h hrolls
  have hne := s.equals_notMem_shown h
  have htext := s.toList_text
  constructor
  · exact ⟨s.shown, by simp [htext, totalSpelling], hne, Sum.value?_of_settle hrun hr⟩
  · rw [htext]
    exact Sum.holds?_append hne hrun hr s.total.toInt

-- One term with two rolls looks like two terms with one roll each.
theorem Step.text_shows_every_number_at_limits :
    (let s : Step := ⟨[⟨2, 6, 0, [1, 2], 3⟩], 3⟩
      let t : Step := ⟨[⟨1, 6, 0, [1], 1⟩, ⟨1, 6, 0, [2], 2⟩], 3⟩
      s ≠ t ∧ s.text = "(1) + (2) = 3" ∧ t.text = "(1) + (2) = 3" ∧
        s.total = t.total ∧ s.marks = t.marks) ∧
    let s : Step := ⟨[⟨1, 6, -9223372036854775808, [-3, 0], 0⟩, ⟨0, 0, 1, [5], 0⟩], 6⟩
    s.text = "(-3) + (0) - 9223372036854775808 + (5) + 1 = 6" ∧
      Sum.holds? s.text.toList = some false := by
  constructor
  · intro s t
    have hs : s.text = "(1) + (2) = 3" := by decide +kernel
    have ht : t.text = "(1) + (2) = 3" := by decide +kernel
    exact ⟨by decide, hs, ht, text_shows_every_number.1 s t (hs.trans ht.symm)⟩
  · intro s
    refine ⟨by decide +kernel, ?_⟩
    rw [(text_shows_every_number.2 s (by decide) (by decide)).2]
    decide +kernel

end DiceBot.Dice
