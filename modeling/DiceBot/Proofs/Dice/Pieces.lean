import DiceBot.Proofs.Dice.Grammar

namespace DiceBot.Dice.Notation

open Text Decimal

def Group.compact (g : Group) : List Char :=
  g.count ++ 'd' :: (g.sides ++ g.modifier.elim [] fun (s, n) => s.char :: n)

def Group.pieces (before : Option Char) (g : Group) : List (Option Char × List Char) :=
  (before, g.count ++ 'd' :: g.sides) :: g.modifier.elim [] fun (s, n) => [(some s.char, n)]

structure Group.WellFormed (g : Group) : Prop where
  count : Numeral g.count
  sides : Numeral g.sides
  modifier : ∀ s n, g.modifier = some (s, n) → Numeral n

theorem Numeral.isSign_eq_false {n : List Char} (hn : Numeral n) : ∀ c ∈ n, isSign c = false := by
  intro c hc
  have hplus : c ≠ '+' := fun h => hn.not_mem (c := '+') rfl (h ▸ hc)
  have hminus : c ≠ '-' := fun h => hn.not_mem (c := '-') rfl (h ▸ hc)
  simp [isSign, hplus, hminus]

theorem isSign_char (s : Sign) : isSign s.char = true := by
  cases s <;> rfl

theorem GroupText.wellFormed {g : Group} {t : List Char} (h : GroupText g t) : g.WellFormed := by
  obtain ⟨⟨hn, hs, _⟩, hm⟩ := h
  refine ⟨hn, hs, ?_⟩
  rintro s n rfl
  cases hm with
  | some _ hn _ => exact hn

theorem FurtherGroups.wellFormed {gs : List Group} {t : List Char} (h : FurtherGroups gs t) :
    ∀ g ∈ gs, g.WellFormed := by
  induction h with
  | nil => exact fun g hg => absurd hg List.not_mem_nil
  | cons _ hg _ ih => exact List.forall_mem_cons.mpr ⟨hg.wellFormed, ih⟩

theorem Derives.wellFormed {gs : List Group} {t : List Char} (h : Derives gs t) :
    ∀ g ∈ gs, g.WellFormed := by
  obtain ⟨_, hg, hgs⟩ := h
  exact List.forall_mem_cons.mpr ⟨hg.wellFormed, hgs.wellFormed⟩

theorem normalize_append (cs ds : List Char) :
    normalize (cs ++ ds) = normalize cs ++ normalize ds :=
  List.filter_append cs ds

theorem normalize_cons {c : Char} (hc : isBlank c = false) (cs : List Char) :
    normalize (c :: cs) = c :: normalize cs := by
  simp [normalize, hc]

theorem Blanks.normalize {w : List Char} (hw : Blanks w) : normalize w = [] := by
  rw [blanks_iff] at hw
  rw [Notation.normalize, List.filter_eq_nil_iff]
  intro c hc
  simp [hw c hc]

theorem Numeral.normalize {n : List Char} (hn : Numeral n) : normalize n = n := by
  rw [Notation.normalize, List.filter_eq_self]
  intro c hc
  simp [isBlank_eq_false_of_isDigit (hn.isDigit c hc)]

theorem GroupText.normalize {g : Group} {t : List Char} (hg : GroupText g t) :
    normalize t = g.compact := by
  obtain ⟨⟨hn, hs, hw⟩, hm⟩ := hg
  have hd : isBlank 'd' = false := rfl
  cases hm with
  | none =>
    simp [normalize_append, normalize_cons hd, hn.normalize, hs.normalize, hw.normalize,
      Group.compact]
  | @some s _ _ _ hbefore hm hafter =>
    have hsign : isBlank s.char = false := by cases s <;> rfl
    simp [normalize_append, normalize_cons hd, normalize_cons hsign, hn.normalize, hs.normalize,
      hw.normalize, hbefore.normalize, hm.normalize, hafter.normalize, Group.compact]

theorem FurtherGroups.normalize {gs : List Group} {t : List Char} (h : FurtherGroups gs t) :
    normalize t = gs.flatMap fun g => '+' :: g.compact := by
  induction h with
  | nil => rfl
  | cons hw hg _ ih =>
    have hplus : isBlank '+' = false := rfl
    simp [normalize_append, normalize_cons hplus, hw.normalize, hg.normalize, ih]

theorem Derives.normalize {g : Group} {gs : List Group} {raw : List Char}
    (h : Derives (g :: gs) raw) :
    normalize raw = g.compact ++ gs.flatMap fun g => '+' :: g.compact := by
  obtain ⟨hw, hg, hgs⟩ := h
  simp [normalize_append, hw.normalize, hg.normalize, hgs.normalize]

def piecesAfter (before : Option Char) (cs : List Char) : List (Option Char × List Char) :=
  (before :: (signs cs).map some).zip (pieces isSign cs)

theorem signs_eq_nil {cs : List Char} (hcs : ∀ c ∈ cs, isSign c = false) : signs cs = [] := by
  rw [signs, List.filter_eq_nil_iff]
  intro c hc
  simp [hcs c hc]

theorem pieces_append {cs : List Char} (hcs : ∀ c ∈ cs, isSign c = false) (ds : List Char) :
    pieces isSign (cs ++ ds) = (pieces isSign ds).modifyHead (cs ++ ·) := by
  induction cs with
  | nil => exact (congrFun List.modifyHead_id _).symm
  | cons c cs ih =>
    obtain ⟨hc, hcs⟩ := List.forall_mem_cons.mp hcs
    have h := ih hcs
    rw [pieces] at h
    rw [pieces, List.cons_append, List.foldr_cons, h, hc]
    simp [pieces, List.modifyHead_modifyHead, Function.comp_def]

theorem piecesAfter_append (before : Option Char) (c : Char) (cs ds : List Char)
    (hcs : ∀ d ∈ cs, isSign d = false) (hc : isSign c = true) :
    piecesAfter before (cs ++ c :: ds) = (before, cs) :: piecesAfter (some c) ds := by
  have hsigns : signs (cs ++ c :: ds) = c :: signs ds := by
    have happend : signs (cs ++ c :: ds) = signs cs ++ signs (c :: ds) :=
      List.filter_append cs (c :: ds)
    rw [happend, signs_eq_nil hcs]
    exact List.filter_cons_of_pos hc
  have hpieces : pieces isSign (cs ++ c :: ds) = cs :: pieces isSign ds := by
    have hfirst : pieces isSign (c :: ds) = [] :: pieces isSign ds := if_pos hc
    rw [pieces_append hcs, hfirst, List.modifyHead_cons, List.append_nil]
  rw [piecesAfter, hsigns, hpieces]
  rfl

theorem piecesAfter_of_no_sign (before : Option Char) (cs : List Char)
    (hcs : ∀ c ∈ cs, isSign c = false) : piecesAfter before cs = [(before, cs)] := by
  have hpieces : pieces isSign cs = [cs] := by
    have happend := pieces_append hcs []
    have hnil : pieces isSign [] = [[]] := rfl
    rwa [List.append_nil, hnil, List.modifyHead_cons, List.append_nil] at happend
  rw [piecesAfter, signs_eq_nil hcs, hpieces]
  rfl

theorem Group.WellFormed.isSign_eq_false {g : Group} (hg : g.WellFormed) :
    ∀ c ∈ g.count ++ 'd' :: g.sides, isSign c = false := by
  intro c hc
  obtain hc | hc := List.mem_append.mp hc
  · exact hg.count.isSign_eq_false c hc
  · obtain rfl | hc := List.mem_cons.mp hc
    · rfl
    · exact hg.sides.isSign_eq_false c hc

theorem piecesAfter_compact (before : Option Char) {g : Group} (hg : g.WellFormed) :
    piecesAfter before g.compact = g.pieces before := by
  obtain ⟨n, s, m⟩ := g
  cases m with
  | none =>
    have h := piecesAfter_of_no_sign before _ hg.isSign_eq_false
    simpa [Group.compact, Group.pieces] using h
  | some m =>
    have hm := (hg.modifier m.1 m.2 rfl).isSign_eq_false
    have h := piecesAfter_append before m.1.char _ m.2 hg.isSign_eq_false (isSign_char m.1)
    rw [piecesAfter_of_no_sign _ _ hm] at h
    simpa [Group.compact, Group.pieces] using h

theorem piecesAfter_compact_append (before : Option Char) {g : Group} (hg : g.WellFormed)
    (cs : List Char) :
    piecesAfter before (g.compact ++ '+' :: cs) = g.pieces before ++ piecesAfter (some '+') cs := by
  obtain ⟨n, s, m⟩ := g
  cases m with
  | none =>
    have h := piecesAfter_append before '+' _ cs hg.isSign_eq_false rfl
    simpa [Group.compact, Group.pieces] using h
  | some m =>
    have hm := (hg.modifier m.1 m.2 rfl).isSign_eq_false
    have h := piecesAfter_append before m.1.char _ (m.2 ++ '+' :: cs) hg.isSign_eq_false
      (isSign_char m.1)
    rw [piecesAfter_append _ '+' _ cs hm rfl] at h
    simpa [Group.compact, Group.pieces] using h

/-- An expression without blanks is cut into the pieces of its groups. -/
theorem piecesAfter_groups (before : Option Char) {g : Group} {gs : List Group}
    (hg : g.WellFormed) (hgs : ∀ h ∈ gs, h.WellFormed) :
    piecesAfter before (g.compact ++ gs.flatMap fun g => '+' :: g.compact) =
      g.pieces before ++ gs.flatMap (Group.pieces (some '+')) := by
  induction gs generalizing before g with
  | nil => simpa using piecesAfter_compact before hg
  | cons h hs ih =>
    obtain ⟨hh, hhs⟩ := List.forall_mem_cons.mp hgs
    rw [List.flatMap_cons, List.cons_append, piecesAfter_compact_append before hg, ih _ hh hhs,
      List.flatMap_cons]

theorem Derives.signedPieces {g : Group} {gs : List Group} {raw : List Char}
    (h : Derives (g :: gs) raw) :
    signedPieces (Notation.normalize raw) =
      g.pieces none ++ gs.flatMap (Group.pieces (some '+')) := by
  obtain ⟨hg, hgs⟩ := List.forall_mem_cons.mp h.wellFormed
  rw [h.normalize]
  exact piecesAfter_groups none hg hgs

end DiceBot.Dice.Notation
