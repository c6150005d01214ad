import DiceBot.Proofs.Dice.Figure
import DiceBot.Proofs.Dice.Pieces
import DiceBot.Proofs.Dice.Recognition
import Mathlib.Data.List.Forall2
import Mathlib.Data.List.TakeWhile

namespace DiceBot.Dice.Notation

open Text Decimal

/-- A term has the values of a group, and a modifier exactly if the group has one. -/
structure Group.Means (g : Group) (t : Term) : Prop where
  count : t.count.toNat = numeralValue g.count
  sides : t.sides.toNat = numeralValue g.sides
  modifier : t.modifier.map Int64.toInt = g.modifier.map fun (s, n) => (Figure.modifier s n).value

def Group.read (g : Group) : Except Error Term := do
  let count ← word g.count
  let sides ← word g.sides
  match g.modifier with
  | none => return ⟨count, sides, none⟩
  | some (s, n) => return ⟨count, sides, some (← Notation.modifier (some s.char) n)⟩

theorem Numeral.ne_d {n : List Char} (hn : Numeral n) : ∀ c ∈ n, (c != 'd') = true := by
  intro c hc
  rw [bne_iff_ne]
  rintro rfl
  exact hn.not_mem rfl hc

theorem group?_dice {n s : List Char} (hn : Numeral n) (hs : Numeral s) :
    group? (n ++ 'd' :: s) = some (n, s) := by
  have hdrop : (n ++ 'd' :: s).dropWhile (· != 'd') = 'd' :: s := by
    rw [List.dropWhile_append_of_pos hn.ne_d]
    rfl
  have htake : (n ++ 'd' :: s).takeWhile (· != 'd') = n := by
    rw [List.takeWhile_append_of_pos hn.ne_d]
    exact List.append_nil n
  rw [group?, hdrop]
  simp only [htake, (numeral_iff _).mp hn, (numeral_iff _).mp hs, Bool.and_self, if_true]

theorem group?_numeral {n : List Char} (hn : Numeral n) : group? n = none := by
  have hdrop : n.dropWhile (· != 'd') = [] := by
    rw [List.dropWhile_eq_nil_iff]
    exact hn.ne_d
  rw [group?, hdrop]

theorem Group.WellFormed.foldlM_pieces {g : Group} (hg : g.WellFormed) (raw : String)
    (before : Option Char) (terms : List Term) :
    (g.pieces before).foldlM (attach raw) terms = (· :: terms) <$> g.read := by
  obtain ⟨n, s, m⟩ := g
  have hdice : attach raw terms (before, n ++ 'd' :: s) = do
      let count ← word n
      let sides ← word s
      return ⟨count, sides, none⟩ :: terms := by
    simp only [attach, group?_dice hg.count hg.sides]
  cases m with
  | none =>
    simp only [pieces, Option.elim, List.foldlM_cons, List.foldlM_nil, hdice, Group.read]
    cases word n <;> cases word s <;> rfl
  | some m =>
    obtain ⟨sign, k⟩ := m
    have hk : group? k = none := group?_numeral (hg.modifier sign k rfl)
    simp only [pieces, Option.elim, List.foldlM_cons, List.foldlM_nil, hdice, Group.read]
    cases word n <;> cases word s <;> try rfl
    simp only [attach, hk]
    cases Notation.modifier (some sign.char) k <;> rfl

theorem foldlM_groups {gs : List Group} (hgs : ∀ g ∈ gs, g.WellFormed) (raw : String)
    (before : Option Char) (terms : List Term) :
    (gs.flatMap (Group.pieces before)).foldlM (attach raw) terms =
      (fun ts => ts.reverse ++ terms) <$> gs.mapM Group.read := by
  induction gs generalizing terms with
  | nil => rfl
  | cons g gs ih =>
    obtain ⟨hg, hgs⟩ := List.forall_mem_cons.mp hgs
    rw [List.flatMap_cons, List.foldlM_append, hg.foldlM_pieces, List.mapM_cons]
    cases g.read with
    | error e => rfl
    | ok t =>
      apply (ih hgs (t :: terms)).trans
      cases gs.mapM Group.read with
      | error e => rfl
      | ok ts => simp [Functor.map, Except.map, bind, Except.bind, pure, Except.pure]

theorem parse_eq_mapM {gs : List Group} {raw : String} (h : Derives gs raw.toList) :
    parse raw = gs.mapM Group.read := by
  have hraw := isExpression_of_derives h
  cases gs with
  | nil => cases h
  | cons g gs =>
    have hg := h.wellFormed g (by simp)
    rw [parse, if_pos hraw, h.signedPieces, List.foldlM_append, hg.foldlM_pieces,
      ← hg.foldlM_pieces raw (some '+'), ← List.foldlM_append, ← List.flatMap_cons,
      foldlM_groups h.wellFormed]
    cases (g :: gs).mapM Group.read with
    | error e => rfl
    | ok ts => simp [Functor.map, Except.map]

theorem Group.WellFormed.read_of_fits {g : Group} (hg : g.WellFormed)
    (h : ∀ f ∈ g.figures, f.Fits) : ∃ t, g.read = .ok t ∧ g.Means t := by
  obtain ⟨n, s, m⟩ := g
  obtain ⟨count, hcount, hn⟩ := word_of_fits hg.count (h _ (by simp [figures]))
  obtain ⟨sides, hsides, hs⟩ := word_of_fits hg.sides (h _ (by simp [figures]))
  cases m with
  | none =>
    refine ⟨⟨count, sides, none⟩, ?_, hn, hs, rfl⟩
    simp only [Group.read, hcount, hsides]
    rfl
  | some m =>
    obtain ⟨sign, k⟩ := m
    have hfits : (Figure.modifier sign k).Fits := h _ (by simp [figures])
    obtain ⟨m, hm, hk⟩ := modifier_of_fits (hg.modifier sign k rfl) hfits
    refine ⟨⟨count, sides, some m⟩, ?_, hn, hs, congrArg some hk⟩
    simp only [Group.read, hcount, hsides, hm]
    rfl

theorem Group.WellFormed.read_of_find? {g : Group} (hg : g.WellFormed) {f : Figure}
    (h : g.figures.find? (¬·.Fits) = some f) : g.read = .error f.outOfRange := by
  obtain ⟨n, s, m⟩ := g
  by_cases hn : (Figure.size n).Fits
  · obtain ⟨count, hcount, -⟩ := word_of_fits hg.count hn
    by_cases hs : (Figure.size s).Fits
    · obtain ⟨sides, hsides, -⟩ := word_of_fits hg.sides hs
      cases m with
      | none => simp [figures, hn, hs] at h
      | some m =>
        obtain ⟨sign, k⟩ := m
        by_cases hk : (Figure.modifier sign k).Fits
        · simp [figures, hn, hs, hk] at h
        · have hf : Figure.modifier sign k = f := by simpa [figures, hn, hs, hk] using h
          subst hf
          simp only [Group.read, hcount, hsides, modifier_of_not_fits (hg.modifier sign k rfl) hk]
          rfl
    · have hf : Figure.size s = f := by simpa [figures, hn, hs] using h
      subst hf
      simp only [Group.read, hcount, word_of_not_fits hg.sides hs]
      rfl
  · have hf : Figure.size n = f := by simpa [figures, hn] using h
    subst hf
    simp only [Group.read, word_of_not_fits hg.count hn]
    rfl

theorem mapM_read_of_fits {gs : List Group} (hgs : ∀ g ∈ gs, g.WellFormed)
    (h : ∀ f ∈ gs.flatMap Group.figures, f.Fits) :
    ∃ ts, gs.mapM Group.read = .ok ts ∧ List.Forall₂ Group.Means gs ts := by
  induction gs with
  | nil => exact ⟨[], rfl, .nil⟩
  | cons g gs ih =>
    obtain ⟨hg, hgs⟩ := List.forall_mem_cons.mp hgs
    obtain ⟨hf, hfs⟩ := List.forall_mem_append.mp h
    obtain ⟨t, ht, hm⟩ := hg.read_of_fits hf
    obtain ⟨ts, hts, hms⟩ := ih hgs hfs
    refine ⟨t :: ts, ?_, .cons hm hms⟩
    rw [List.mapM_cons, ht, hts]
    rfl

theorem mapM_read_of_find? {gs : List Group} (hgs : ∀ g ∈ gs, g.WellFormed) {f : Figure}
    (h : (gs.flatMap Group.figures).find? (¬·.Fits) = some f) :
    gs.mapM Group.read = .error f.outOfRange := by
  induction gs with
  | nil => cases h
  | cons g gs ih =>
    obtain ⟨hg, hgs⟩ := List.forall_mem_cons.mp hgs
    rw [List.flatMap_cons, List.find?_append, Option.or_eq_some_iff] at h
    rw [List.mapM_cons]
    obtain h | ⟨hnone, h⟩ := h
    · rw [hg.read_of_find? h]
      rfl
    · have hfits : ∀ f ∈ g.figures, f.Fits := by simpa using List.find?_eq_none.mp hnone
      obtain ⟨t, ht, -⟩ := hg.read_of_fits hfits
      rw [ht, ih hgs h]
      rfl

/-- An expression is read as its derivation says: one term for each group with the values written,
or, if a numeral does not fit, the leftmost such one is named. -/
theorem parse_of_derives {gs : List Group} {raw : String} (h : Derives gs raw.toList) :
    ((∀ f ∈ gs.flatMap Group.figures, f.Fits) →
      ∃ terms, parse raw = .ok terms ∧ List.Forall₂ Group.Means gs terms) ∧
    ∀ before f after, gs.flatMap Group.figures = before ++ f :: after →
      (∀ e ∈ before, e.Fits) → ¬f.Fits →
      parse raw = .error (.outOfRange (String.ofList f.spelling)) := by
  rw [parse_eq_mapM h]
  constructor
  · exact mapM_read_of_fits h.wellFormed
  · intro before f after hfigures hbefore hf
    apply mapM_read_of_find? h.wellFormed
    rw [List.find?_eq_some_iff_append]
    exact ⟨by simpa using hf, before, after, hfigures, by simpa using hbefore⟩

theorem parse_of_derives_at_limits :
    Derives [⟨['1'], ['6'], some (.minus, "9223372036854775808".toList)⟩,
        ⟨['2'], "20".toList, some (.plus, "9223372036854775808".toList)⟩]
      "1d6 - 9223372036854775808+2d20+9223372036854775808".toList ∧
    parse "1d6 - 9223372036854775808+2d20+9223372036854775808" =
      .error (.outOfRange "9223372036854775808") := by
  have h : Derives [⟨['1'], ['6'], some (.minus, "9223372036854775808".toList)⟩,
        ⟨['2'], "20".toList, some (.plus, "9223372036854775808".toList)⟩]
      "1d6 - 9223372036854775808+2d20+9223372036854775808".toList :=
    .mk (w := []) (by decide)
      (.mk (.mk (w := [' ']) (by decide) (by decide) (by decide))
        (.some (w := [' ']) (v := []) (by decide) (by decide) (by decide)))
      (.cons (w := []) (by decide)
        (.mk (.mk (w := []) (by decide) (by decide) (by decide))
          (.some (w := []) (v := []) (by decide) (by decide) (by decide))) .nil)
  refine ⟨h, (parse_of_derives h).2 [.size ['1'], .size ['6'],
    .modifier .minus "9223372036854775808".toList, .size ['2'], .size "20".toList]
    (.modifier .plus "9223372036854775808".toList) [] rfl ?_ ?_⟩
  · decide
  · decide

theorem parse_cases (raw : String) :
    ((∀ gs, ¬Derives gs raw.toList) ∧ parse raw = .error (.unrecognized raw)) ∨
      ∃ gs, Derives gs raw.toList ∧
        (((∀ f ∈ gs.flatMap Group.figures, f.Fits) ∧ ∃ terms, parse raw = .ok terms) ∨
          ∃ f, (gs.flatMap Group.figures).find? (¬·.Fits) = some f ∧
            parse raw = .error (.outOfRange (String.ofList f.spelling))) := by
  by_cases h : ∃ gs, Derives gs raw.toList
  · obtain ⟨gs, hgs⟩ := h
    refine .inr ⟨gs, hgs, ?_⟩
    rw [parse_eq_mapM hgs]
    cases hfind : (gs.flatMap Group.figures).find? (¬·.Fits) with
    | none =>
      have hfits : ∀ f ∈ gs.flatMap Group.figures, f.Fits := by
        simpa using List.find?_eq_none.mp hfind
      obtain ⟨terms, hterms, -⟩ := mapM_read_of_fits hgs.wellFormed hfits
      exact .inl ⟨hfits, terms, hterms⟩
    | some f => exact .inr ⟨f, rfl, mapM_read_of_find? hgs.wellFormed hfind⟩
  · refine .inl ⟨not_exists.mp h, ?_⟩
    have hexpr : isExpression raw.toList = false := by
      rw [Bool.eq_false_iff]
      exact fun he => h (exists_derives_of_isExpression he)
    rw [parse, hexpr]
    rfl

/-- What is recognized is what the grammar derives, and what is not is handed back as it was. -/
theorem parse_recognizes_iff (raw : String) :
    ((∀ r, parse raw ≠ .error (.unrecognized r)) ↔ ∃ gs, Derives gs raw.toList) ∧
    ∀ r, parse raw = .error (.unrecognized r) → r = raw := by
  obtain ⟨hnone, hparse⟩ | ⟨gs, hgs, ⟨-, terms, hparse⟩ | ⟨f, -, hparse⟩⟩ := parse_cases raw
  · rw [hparse]
    refine ⟨⟨fun h => absurd rfl (h raw), fun ⟨gs, hgs⟩ => absurd hgs (hnone gs)⟩, ?_⟩
    rintro r ⟨rfl⟩
    rfl
  · rw [hparse]
    exact ⟨⟨fun _ => ⟨gs, hgs⟩, fun _ => nofun⟩, nofun⟩
  · rw [hparse]
    exact ⟨⟨fun _ => ⟨gs, hgs⟩, fun _ => nofun⟩, nofun⟩

/-- The message of an error shows the whole text, or the leftmost numeral that does not fit. -/
theorem message_of_parse {raw : String} {e : Error} (h : parse raw = .error e) :
    ((∀ gs, ¬Derives gs raw.toList) ∧ e.message = "unrecognized dice notation: " ++ raw) ∨
      ∃ gs f, Derives gs raw.toList ∧ (gs.flatMap Group.figures).find? (¬·.Fits) = some f ∧
        e.message = "number out of range in dice notation: " ++ String.ofList f.spelling := by
  obtain ⟨hnone, hparse⟩ | ⟨gs, hgs, ⟨-, terms, hparse⟩ | ⟨f, hf, hparse⟩⟩ := parse_cases raw
  · cases hparse.symm.trans h
    exact .inl ⟨hnone, rfl⟩
  · cases hparse.symm.trans h
  · cases hparse.symm.trans h
    exact .inr ⟨gs, f, hgs, hf, rfl⟩

end DiceBot.Dice.Notation
