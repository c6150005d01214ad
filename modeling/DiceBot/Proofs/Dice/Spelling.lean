import DiceBot.Proofs.Dice.Meaning

namespace DiceBot.Dice

open Text Decimal Notation

def modifierSpelling (m : Int64) : List Char :=
  if 0 < m then '+' :: signed m.toInt else signed m.toInt

def Term.spelling (t : Term) : List Char :=
  signed t.count.toNat ++ 'd' :: (signed t.sides.toNat ++ t.modifier.elim [] modifierSpelling)

def Expression.spelling (e : Expression) : List Char :=
  ['+'].intercalate (e.map Term.spelling)

/-- A term that has a spelling: no numeral stands for zero. -/
structure Term.IsSpellable (t : Term) : Prop where
  count : t.count ≠ 0
  sides : t.sides ≠ 0
  modifier : t.modifier ≠ some 0

example : Expression.spelling [⟨2, 6, none⟩, ⟨1, 4, some (-3)⟩] = "2d6+1d4-3".toList := by
  decide +kernel

namespace Notation

theorem numeralValue_eq (n : List Char) : numeralValue n = value (n.map fun c => c.toNat - 48) := by
  rw [value_eq_ofDigits, ← List.map_reverse]
  rfl

theorem Numeral.value_pos {n : List Char} (hn : Numeral n) : 0 < numeralValue n := by
  cases n with
  | nil => cases hn
  | cons c cs =>
    have hc := (isLeadingDigit_iff c).mp ((numeral_cons_iff c cs).mp hn).1
    rw [numeralValue_eq]
    exact value_cons_pos (Nat.sub_pos_of_lt hc.1) _

theorem ofDigit_toNat {c : Char} (hc : c.isDigit = true) : ofDigit (c.toNat - 48) = c := by
  obtain ⟨hlow, -⟩ := (isDigit_iff c).mp hc
  rw [ofDigit, Nat.add_sub_cancel' hlow, Char.ofNat_toNat]

theorem Numeral.digits_value {n : List Char} (hn : Numeral n) :
    (digits (numeralValue n)).map ofDigit = n := by
  cases n with
  | nil => cases hn
  | cons c cs =>
    have hdigit : ∀ d ∈ c :: cs, ofDigit (d.toNat - 48) = d :=
      fun d hd => ofDigit_toNat (hn.isDigit d hd)
    have hc := (isLeadingDigit_iff c).mp ((numeral_cons_iff c cs).mp hn).1
    have hlt : ∀ d ∈ (c :: cs).map fun c => c.toNat - 48, d < 10 := by
      rw [List.forall_mem_map]
      intro d hd
      have := (isDigit_iff d).mp (hn.isDigit d hd)
      omega
    have hdigits : digits (numeralValue (c :: cs)) = (c :: cs).map fun c => c.toNat - 48 := by
      rw [numeralValue_eq]
      exact Decimal.digits_value (Nat.sub_pos_of_lt hc.1) hlt
    rw [hdigits, List.map_map]
    exact (List.map_congr_left hdigit).trans (List.map_id _)

theorem numeral_digits {n : Nat} (hn : 0 < n) : Numeral ((digits n).map ofDigit) := by
  obtain ⟨d, ds, hds, h0⟩ := digits_cons n
  have hlt : ∀ e ∈ d :: ds, e < 10 := fun e he => lt_of_mem_digits (n := n) (hds ▸ he)
  obtain ⟨hd, hlt⟩ := List.forall_mem_cons.mp hlt
  have hlead : ∀ d < 10, d ≠ 0 → isLeadingDigit (ofDigit d) = true := by decide
  have hdigit : ∀ d < 10, (ofDigit d).isDigit = true := by decide
  rw [hds, List.map_cons, numeral_cons_iff, List.forall_mem_map]
  refine ⟨hlead d hd fun hzero => ?_, fun e he => hdigit e (hlt e he)⟩
  have := h0 hzero
  omega

theorem numeralValue_digits (n : Nat) : numeralValue ((digits n).map ofDigit) = n := by
  have hdigit : ∀ d < 10, (ofDigit d).toNat - 48 = d := by decide
  have hsame : (digits n).map (fun d => (ofDigit d).toNat - 48) = digits n :=
    (List.map_congr_left fun d hd => hdigit d (lt_of_mem_digits hd)).trans (List.map_id _)
  rw [numeralValue_eq, List.map_map]
  exact (congrArg value hsame).trans (value_digits n)

theorem Group.Means.unique {g : Group} {t u : Term} (ht : g.Means t) (hu : g.Means u) : t = u := by
  obtain ⟨count, sides, modifier⟩ := t
  obtain ⟨count', sides', modifier'⟩ := u
  have hcount : count = count' := UInt32.toNat_inj.mp (ht.count.trans hu.count.symm)
  have hsides : sides = sides' := UInt32.toNat_inj.mp (ht.sides.trans hu.sides.symm)
  have hmodifier : modifier = modifier' :=
    Option.map_injective (fun _ _ => Int64.toInt_inj.mp) (ht.modifier.trans hu.modifier.symm)
  rw [hcount, hsides, hmodifier]

theorem modifierSpelling_eq {s : Sign} {n : List Char} (hn : Numeral n) {m : Int64}
    (hm : m.toInt = (Figure.modifier s n).value) : modifierSpelling m = s.char :: n := by
  have hpos := hn.value_pos
  cases s with
  | plus =>
    have hm : m.toInt = numeralValue n := hm
    have h0 : 0 < m := by
      rw [Int64.lt_iff_toInt_lt, hm]
      exact Int.natCast_pos.mpr hpos
    rw [modifierSpelling, if_pos h0, hm, signed_natCast, hn.digits_value]
    rfl
  | minus =>
    have hm : m.toInt = -numeralValue n := hm
    have h0 : ¬0 < m := by
      rw [Int64.lt_iff_toInt_lt, hm, Int64.toInt_zero]
      omega
    rw [modifierSpelling, if_neg h0, hm, signed_of_neg (by omega), Int.natAbs_neg,
      Int.natAbs_natCast, hn.digits_value]
    rfl

theorem Group.WellFormed.compact_eq {g : Group} (hg : g.WellFormed) {t : Term} (ht : g.Means t) :
    g.compact = t.spelling := by
  obtain ⟨n, s, m⟩ := g
  have hn : signed t.count.toNat = n := by
    rw [ht.count, signed_natCast]
    exact hg.count.digits_value
  have hs : signed t.sides.toNat = s := by
    rw [ht.sides, signed_natCast]
    exact hg.sides.digits_value
  have hm := ht.modifier
  rw [Term.spelling, hn, hs, Group.compact]
  cases m with
  | none =>
    rw [Option.map_none, Option.map_eq_none_iff] at hm
    rw [hm]
    rfl
  | some m =>
    obtain ⟨m', hm', hvalue⟩ := Option.map_eq_some_iff.mp hm
    have hspelling := modifierSpelling_eq (hg.modifier m.1 m.2 rfl) hvalue
    rw [hm']
    exact congrArg (fun cs => n ++ 'd' :: (s ++ cs)) hspelling.symm

theorem intercalate_cons (sep cs : List Char) (css : List (List Char)) :
    sep.intercalate (cs :: css) = cs ++ css.flatMap (sep ++ ·) := by
  induction css generalizing cs with
  | nil => simp
  | cons ds css ih =>
    rw [List.intercalate_cons_cons, ih, List.flatMap_cons, List.append_assoc, List.append_assoc]

/-- An expression without its blanks is spelled as what it means. -/
theorem Derives.normalize_eq {gs : List Group} {raw : List Char} {ts : Expression}
    (h : Derives gs raw) (hts : List.Forall₂ Group.Means gs ts) :
    Notation.normalize raw = Expression.spelling ts := by
  cases hts with
  | nil => cases h
  | @cons g t gs ts ht hts =>
    obtain ⟨hg, hgs⟩ := List.forall_mem_cons.mp h.wellFormed
    have hrest : (gs.flatMap fun g => '+' :: g.compact) =
        ts.flatMap fun t => '+' :: t.spelling := by
      clear h
      induction hts with
      | nil => rfl
      | cons hu _ ih =>
        obtain ⟨hk, hks⟩ := List.forall_mem_cons.mp hgs
        rw [List.flatMap_cons, List.flatMap_cons, hk.compact_eq hu, ih hks]
    rw [h.normalize, hg.compact_eq ht, hrest, Expression.spelling, List.map_cons, intercalate_cons,
      List.flatMap_map]
    rfl

theorem Group.WellFormed.groupText {g : Group} (hg : g.WellFormed) : GroupText g g.compact := by
  obtain ⟨n, s, m⟩ := g
  have hdice : DiceText n s (n ++ 'd' :: s) := by simpa using DiceText.mk hg.count hg.sides .nil
  cases m with
  | none => simpa [Group.compact] using GroupText.ofDice hdice
  | some m =>
    have hm : ModifierText (some m) (m.1.char :: m.2) := by
      simpa using ModifierText.some (s := m.1) .nil (hg.modifier m.1 m.2 rfl) .nil
    simpa [Group.compact] using GroupText.mk hdice hm

theorem derives_compact {g : Group} {gs : List Group} (hg : g.WellFormed)
    (hgs : ∀ h ∈ gs, h.WellFormed) :
    Derives (g :: gs) (g.compact ++ gs.flatMap fun g => '+' :: g.compact) := by
  have hfurther : FurtherGroups gs (gs.flatMap fun g => '+' :: g.compact) := by
    induction gs with
    | nil => exact .nil
    | cons h hs ih =>
      obtain ⟨hh, hhs⟩ := List.forall_mem_cons.mp hgs
      simpa using FurtherGroups.cons .nil hh.groupText (ih hhs)
  simpa using Derives.mk .nil hg.groupText hfurther

theorem Derives.of_normalize {gs : List Group} {raw : List Char} (h : Derives gs raw) :
    Derives gs (Notation.normalize raw) := by
  cases gs with
  | nil => cases h
  | cons g gs =>
    obtain ⟨hg, hgs⟩ := List.forall_mem_cons.mp h.wellFormed
    rw [h.normalize]
    exact derives_compact hg hgs

theorem ne_unrecognized_of_parse {raw : String} {ts : Expression} (h : parse raw = .ok ts)
    (r : String) : parse raw ≠ .error (.unrecognized r) := by
  rw [h]
  nofun

theorem exists_derives_of_parse {raw : String} (h : ∀ r, parse raw ≠ .error (.unrecognized r)) :
    ∃ gs, Derives gs raw.toList := by
  apply exists_derives_of_isExpression
  by_contra hraw
  exact h raw (if_neg hraw)

theorem parse_normalize {raw : String} (h : ∀ r, parse raw ≠ .error (.unrecognized r)) :
    parse (String.ofList (Notation.normalize raw.toList)) = parse raw := by
  obtain ⟨gs, hgs⟩ := exists_derives_of_parse h
  have hnormal := hgs.of_normalize
  rw [← String.toList_ofList (l := Notation.normalize raw.toList)] at hnormal
  rw [parse_eq_mapM hgs, parse_eq_mapM hnormal]

theorem means_of_mapM_read {gs : List Group} (hgs : ∀ g ∈ gs, g.WellFormed) {ts : List Term}
    (h : gs.mapM Group.read = .ok ts) : List.Forall₂ Group.Means gs ts := by
  cases hfind : (gs.flatMap Group.figures).find? (¬·.Fits) with
  | none =>
    have hfits : ∀ f ∈ gs.flatMap Group.figures, f.Fits := by
      simpa using List.find?_eq_none.mp hfind
    obtain ⟨us, hus, hmeans⟩ := mapM_read_of_fits hgs hfits
    cases h.symm.trans hus
    exact hmeans
  | some f =>
    rw [mapM_read_of_find? hgs hfind] at h
    cases h

theorem normalize_of_parse {raw : String} {ts : Expression} (h : parse raw = .ok ts) :
    Notation.normalize raw.toList = Expression.spelling ts := by
  obtain ⟨gs, hgs⟩ := exists_derives_of_parse (ne_unrecognized_of_parse h)
  rw [parse_eq_mapM hgs] at h
  exact hgs.normalize_eq (means_of_mapM_read hgs.wellFormed h)

theorem Group.Means.isSpellable {g : Group} {t : Term} (h : g.Means t) (hg : g.WellFormed) :
    t.IsSpellable where
  count := by
    have hpos := hg.count.value_pos
    rw [← h.count] at hpos
    exact UInt32.pos_iff_ne_zero.mp hpos
  sides := by
    have hpos := hg.sides.value_pos
    rw [← h.sides] at hpos
    exact UInt32.pos_iff_ne_zero.mp hpos
  modifier := by
    intro h0
    have hvalue := h.modifier
    rw [h0] at hvalue
    obtain ⟨⟨s, n⟩, hm, hn⟩ := Option.map_eq_some_iff.mp hvalue.symm
    have hpos := (hg.modifier s n hm).value_pos
    cases s with
    | plus => exact absurd hn (Int.ne_of_gt (Int.natCast_pos.mpr hpos))
    | minus => exact absurd hn (Int.ne_of_lt (Int.neg_neg_of_pos (Int.natCast_pos.mpr hpos)))

theorem isSpellable_of_means {gs : List Group} {ts : List Term}
    (h : List.Forall₂ Group.Means gs ts) (hgs : ∀ g ∈ gs, g.WellFormed) :
    ∀ t ∈ ts, t.IsSpellable := by
  induction h with
  | nil => exact fun t ht => absurd ht List.not_mem_nil
  | cons ht _ ih =>
    obtain ⟨hg, hgs⟩ := List.forall_mem_cons.mp hgs
    exact List.forall_mem_cons.mpr ⟨ht.isSpellable hg, ih hgs⟩

theorem isSpellable_of_parse {raw : String} {ts : Expression} (h : parse raw = .ok ts) :
    ts ≠ [] ∧ ∀ t ∈ ts, t.IsSpellable := by
  obtain ⟨gs, hgs⟩ := exists_derives_of_parse (ne_unrecognized_of_parse h)
  rw [parse_eq_mapM hgs] at h
  have hmeans := means_of_mapM_read hgs.wellFormed h
  refine ⟨?_, isSpellable_of_means hmeans hgs.wellFormed⟩
  rintro rfl
  cases hmeans
  cases hgs

theorem Group.Means.fits {g : Group} {t : Term} (h : g.Means t) : ∀ f ∈ g.figures, f.Fits := by
  obtain ⟨n, s, m⟩ := g
  have hn : (Figure.size n).Fits := by
    have hlt := t.count.toNat_lt
    rw [h.count] at hlt
    exact Nat.le_of_lt_succ hlt
  have hs : (Figure.size s).Fits := by
    have hlt := t.sides.toNat_lt
    rw [h.sides] at hlt
    exact Nat.le_of_lt_succ hlt
  cases m with
  | none => simpa [figures] using ⟨hn, hs⟩
  | some m =>
    obtain ⟨k, -, hk⟩ := Option.map_eq_some_iff.mp h.modifier
    have hm : (Figure.modifier m.1 m.2).Fits := by
      have hlow := k.le_toInt
      have hhigh := k.toInt_lt
      rw [hk] at hlow hhigh
      exact ⟨hlow, Int.le_of_lt_add_one hhigh⟩
    simpa [figures] using ⟨hn, hs, hm⟩

theorem mapM_read_of_means {gs : List Group} (hgs : ∀ g ∈ gs, g.WellFormed) {ts : List Term}
    (h : List.Forall₂ Group.Means gs ts) : gs.mapM Group.read = .ok ts := by
  induction h with
  | nil => rfl
  | @cons g t gs ts ht _ ih =>
    obtain ⟨hg, hgs⟩ := List.forall_mem_cons.mp hgs
    obtain ⟨u, hu, hmeans⟩ := hg.read_of_fits ht.fits
    rw [List.mapM_cons, hu, ih hgs, hmeans.unique ht]
    rfl

end Notation

def Term.group (t : Term) : Group where
  count := (digits t.count.toNat).map ofDigit
  sides := (digits t.sides.toNat).map ofDigit
  modifier := t.modifier.map fun m =>
    (if 0 < m then .plus else .minus, (digits m.toInt.natAbs).map ofDigit)

theorem Term.means_group (t : Term) : t.group.Means t where
  count := (numeralValue_digits _).symm
  sides := (numeralValue_digits _).symm
  modifier := by
    rw [group, Option.map_map]
    congr 1
    funext m
    by_cases hm : 0 < m
    · have hpos := Int64.lt_iff_toInt_lt.mp hm
      simp only [Function.comp_apply, if_pos hm, Figure.value, numeralValue_digits]
      exact (Int.natAbs_of_nonneg (Int.le_of_lt hpos)).symm
    · have hneg : m.toInt ≤ 0 := Int.not_lt.mp fun h => hm (Int64.lt_iff_toInt_lt.mpr h)
      simp only [Function.comp_apply, if_neg hm, Figure.value, numeralValue_digits]
      omega

theorem Term.IsSpellable.wellFormed {t : Term} (h : t.IsSpellable) : t.group.WellFormed where
  count := numeral_digits (UInt32.pos_iff_ne_zero.mpr h.count)
  sides := numeral_digits (UInt32.pos_iff_ne_zero.mpr h.sides)
  modifier := by
    intro s n hm
    obtain ⟨m, hmodifier, hm⟩ := Option.map_eq_some_iff.mp hm
    have hne : m.toInt ≠ 0 := by
      intro h0
      have hm0 : m = 0 := Int64.toInt_inj.mp h0
      exact h.modifier (hm0 ▸ hmodifier)
    cases hm
    exact numeral_digits (Int.natAbs_pos.mpr hne)

theorem Notation.parse_spelling {ts : Expression} (hne : ts ≠ [])
    (hts : ∀ t ∈ ts, t.IsSpellable) : parse (String.ofList (Expression.spelling ts)) = .ok ts := by
  have hgroups : ∀ g ∈ ts.map Term.group, g.WellFormed :=
    List.forall_mem_map.mpr fun t ht => (hts t ht).wellFormed
  have hmeans : List.Forall₂ Group.Means (ts.map Term.group) ts :=
    List.forall₂_map_left_iff.mpr (List.forall₂_same.mpr fun t _ => t.means_group)
  cases ts with
  | nil => exact absurd rfl hne
  | cons t ts =>
    obtain ⟨ht, hts⟩ := List.forall_mem_cons.mp hgroups
    have h := derives_compact ht hts
    have hspelling := h.of_normalize
    rw [h.normalize_eq hmeans] at hspelling
    rw [← String.toList_ofList (l := Expression.spelling (t :: ts))] at hspelling
    rw [parse_eq_mapM hspelling]
    exact mapM_read_of_means hgroups hmeans

/-- Blanks are all that the reading of an expression forgets, and everything that can be spelled is
what its spelling is read as. -/
theorem Notation.parse_forgets_only_blanks :
    (∀ raw, (∀ r, parse raw ≠ .error (.unrecognized r)) →
      (∀ r, parse (String.ofList (normalize raw.toList)) ≠ .error (.unrecognized r)) ∧
      parse (String.ofList (normalize raw.toList)) = parse raw) ∧
    (∀ a b ts us, parse a = .ok ts → parse b = .ok us →
      (parse a = parse b ↔ normalize a.toList = normalize b.toList)) ∧
    ∀ ts : Expression, ts ≠ [] → (∀ t ∈ ts, t.IsSpellable) →
      normalize (Expression.spelling ts) = Expression.spelling ts ∧
      parse (String.ofList (Expression.spelling ts)) = .ok ts := by
  refine ⟨fun raw h => ?_, fun a b ts us ha hb => ?_, fun ts hne hts => ?_⟩
  · have hparse := parse_normalize h
    exact ⟨fun r hr => h r (hparse.symm.trans hr), hparse⟩
  · constructor
    · intro hab
      have hts : ts = us := Except.ok.inj (ha.symm.trans (hab.trans hb))
      rw [normalize_of_parse ha, normalize_of_parse hb, hts]
    · intro hab
      rw [← parse_normalize (ne_unrecognized_of_parse ha),
        ← parse_normalize (ne_unrecognized_of_parse hb), hab]
  · have hparse := parse_spelling hne hts
    have hnormal := normalize_of_parse hparse
    rw [String.toList_ofList] at hnormal
    exact ⟨hnormal, hparse⟩

theorem Notation.parse_forgets_only_blanks_at_limits :
    parse "4294967295d1-9223372036854775808" =
      .ok [⟨4294967295, 1, some (-9223372036854775808)⟩] ∧
    parse " 4294967295d1 -\t9223372036854775808" = parse "4294967295d1-9223372036854775808" ∧
    parse "4294967296d1" = parse " 4294967296d1 " := by
  have hspell := (parse_forgets_only_blanks.2.2 [⟨4294967295, 1, some (-9223372036854775808)⟩]
    (by decide) (List.forall_mem_singleton.mpr ⟨by decide, by decide, by decide⟩)).2
  have hspelling : String.ofList (Expression.spelling
      [⟨4294967295, 1, some (-9223372036854775808)⟩]) = "4294967295d1-9223372036854775808" := by
    decide +kernel
  have hblanks : parse " 4294967295d1 -\t9223372036854775808" =
      .ok [⟨4294967295, 1, some (-9223372036854775808)⟩] := by decide +kernel
  have hlarge : parse " 4294967296d1 " = .error (.outOfRange "4294967296") := by decide +kernel
  rw [hspelling] at hspell
  refine ⟨hspell, (parse_forgets_only_blanks.2.1 _ _ _ _ hblanks hspell).mpr (by decide), ?_⟩
  apply (parse_forgets_only_blanks.1 " 4294967296d1 " _).2
  intro r hr
  cases hlarge.symm.trans hr

end DiceBot.Dice
