import DiceBot.Proofs.Dice.Meaning
import DiceBot.Proofs.Text.Pieces

namespace DiceBot.Dice.Notation

open Text Decimal

inductive IsDice : List Char → Prop
  | mk {count sides : List Char} (hn : Numeral count) (hs : Numeral sides) :
      IsDice (count ++ 'd' :: sides)

def IsOpen (terms : List Term) : Prop :=
  ∃ term earlier, terms = term :: earlier ∧ term.modifier = none

/-- Pieces that can be read one after the other. A group is never behind a minus, and a bare numeral
comes with its sign and only where a term is open for it. -/
inductive Orderly : Bool → List (Option Char × List Char) → Prop
  | nil {isOpen : Bool} : Orderly isOpen []
  | dice {isOpen : Bool} {before : Option Char} {piece : List Char}
      {rest : List (Option Char × List Char)} (hbefore : before = none ∨ before = some '+')
      (hd : IsDice piece) (h : Orderly true rest) : Orderly isOpen ((before, piece) :: rest)
  | modifier {s : Sign} {n : List Char} {rest : List (Option Char × List Char)} (hn : Numeral n)
      (h : Orderly false rest) : Orderly true ((some s.char, n) :: rest)

def Ready (terms : List Term) (rest : List (Option Char × List Char)) : Prop :=
  ∃ isOpen, Orderly isOpen rest ∧ (isOpen = true → IsOpen terms)

theorem word_outcome (n : List Char) :
    (∃ w, word n = .ok w) ∨ ∃ numeral, word n = .error (.outOfRange numeral) := by
  rw [word]
  split
  · exact .inl ⟨_, rfl⟩
  · exact .inr ⟨_, rfl⟩

theorem modifier_outcome (sign : Option Char) (n : List Char) :
    (∃ m, modifier sign n = .ok m) ∨ ∃ numeral, modifier sign n = .error (.outOfRange numeral) := by
  rw [modifier]
  split
  · split
    · exact .inl ⟨_, rfl⟩
    · exact .inr ⟨_, rfl⟩
  · split
    · exact .inl ⟨_, rfl⟩
    · exact .inr ⟨_, rfl⟩

theorem attach_dice {piece : List Char} (hd : IsDice piece) (raw : String) (terms : List Term)
    (before : Option Char) :
    (∃ term : Term, term.modifier = none ∧
      attach raw terms (before, piece) = .ok (term :: terms)) ∨
    ∃ numeral, attach raw terms (before, piece) = .error (.outOfRange numeral) := by
  obtain ⟨hn, hs⟩ := hd
  simp only [attach, group?_dice hn hs]
  obtain ⟨count, hcount⟩ | ⟨numeral, hcount⟩ := word_outcome _
  · obtain ⟨sides, hsides⟩ | ⟨numeral, hsides⟩ := word_outcome _
    · rw [hcount, hsides]
      exact .inl ⟨⟨count, sides, none⟩, rfl, rfl⟩
    · rw [hcount, hsides]
      exact .inr ⟨numeral, rfl⟩
  · rw [hcount]
    exact .inr ⟨numeral, rfl⟩

theorem attach_numeral {n : List Char} (hn : Numeral n) (raw : String) (term : Term)
    (earlier : List Term) (sign : Option Char) :
    (∃ m, attach raw (term :: earlier) (sign, n) =
      .ok ({ term with modifier := some m } :: earlier)) ∨
    ∃ numeral, attach raw (term :: earlier) (sign, n) = .error (.outOfRange numeral) := by
  simp only [attach, group?_numeral hn]
  obtain ⟨m, hm⟩ | ⟨numeral, hm⟩ := modifier_outcome sign n
  · rw [hm]
    exact .inl ⟨m, rfl⟩
  · rw [hm]
    exact .inr ⟨numeral, rfl⟩

/-- Reading one piece leaves the others readable, and the only thing that can go wrong is a number
that does not fit. -/
theorem Ready.attach {terms : List Term} {piece : Option Char × List Char}
    {rest : List (Option Char × List Char)} (h : Ready terms (piece :: rest)) (raw : String) :
    (∃ terms', attach raw terms piece = .ok terms' ∧ Ready terms' rest) ∨
    ∃ numeral, attach raw terms piece = .error (.outOfRange numeral) := by
  obtain ⟨isOpen, h, hopen⟩ := h
  cases h with
  | dice _ hd h =>
    refine (attach_dice hd raw terms _).imp_left ?_
    rintro ⟨term, hterm, hok⟩
    exact ⟨_, hok, true, h, fun _ => ⟨term, terms, rfl, hterm⟩⟩
  | modifier hn h =>
    obtain ⟨term, earlier, rfl, -⟩ := hopen rfl
    refine (attach_numeral hn raw term earlier _).imp_left ?_
    rintro ⟨m, hok⟩
    exact ⟨_, hok, false, h, nofun⟩

theorem Ready.foldlM {raw : String} {terms terms' : List Term}
    {before rest : List (Option Char × List Char)} (h : Ready terms (before ++ rest))
    (hterms : before.foldlM (Notation.attach raw) terms = .ok terms') : Ready terms' rest := by
  induction before generalizing terms with
  | nil =>
    cases hterms
    exact h
  | cons piece before ih =>
    rw [List.foldlM_cons] at hterms
    obtain ⟨next, hnext, hready⟩ | ⟨numeral, herror⟩ := h.attach raw
    · rw [hnext] at hterms
      exact ih hready hterms
    · rw [herror] at hterms
      cases hterms

theorem IsDice.group?_ne_none {piece : List Char} (h : IsDice piece) : group? piece ≠ none := by
  obtain ⟨hn, hs⟩ := h
  rw [group?_dice hn hs]
  nofun

theorem Orderly.shape {isOpen : Bool} {ps : List (Option Char × List Char)} (h : Orderly isOpen ps) :
    ∀ p ∈ ps, (IsDice p.2 ∧ (p.1 = none ∨ p.1 = some '+')) ∨ Numeral p.2 := by
  induction h with
  | nil => exact fun p hp => absurd hp List.not_mem_nil
  | dice hbefore hd _ ih => exact List.forall_mem_cons.mpr ⟨.inl ⟨hd, hbefore⟩, ih⟩
  | modifier hn _ ih => exact List.forall_mem_cons.mpr ⟨.inr hn, ih⟩

theorem Ready.isOpen {terms : List Term} {piece : Option Char × List Char}
    {rest : List (Option Char × List Char)} (h : Ready terms (piece :: rest))
    (hnone : group? piece.2 = none) : piece.1 ≠ none ∧ IsOpen terms := by
  obtain ⟨isOpen, h, hopen⟩ := h
  cases h with
  | dice _ hd _ => exact absurd hnone hd.group?_ne_none
  | modifier _ _ => exact ⟨nofun, hopen rfl⟩

section Expression

variable {raw : String} {cs token : List Char} {terms : List Term} {i : Nat}

end Expression

end DiceBot.Dice.Notation
