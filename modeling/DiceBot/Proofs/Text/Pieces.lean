import DiceBot.Text.Pieces
import Mathlib.Data.List.TakeWhile

namespace DiceBot.Text

variable {p : Char → Bool} {c : Char}

theorem pieces_cons_of_pos (hc : p c = true) (cs : List Char) :
    pieces p (c :: cs) = [] :: pieces p cs :=
  if_pos hc

theorem pieces_cons_of_neg (hc : p c = false) (cs : List Char) :
    pieces p (c :: cs) = (pieces p cs).modifyHead (c :: ·) :=
  if_neg (Bool.eq_false_iff.mp hc)

theorem pieces_ne_nil (p : Char → Bool) (cs : List Char) : pieces p cs ≠ [] := by
  rw [← List.length_pos_iff, length_pieces]
  exact Nat.succ_pos _

theorem pieces_append_cons (hc : p c = true) (cs ds : List Char) :
    pieces p (cs ++ c :: ds) = pieces p cs ++ pieces p ds := by
  induction cs with
  | nil => exact pieces_cons_of_pos hc ds
  | cons d cs ih =>
    obtain ⟨piece, rest, hpieces⟩ := List.exists_cons_of_ne_nil (pieces_ne_nil p cs)
    rw [hpieces] at ih
    cases hd : p d with
    | true =>
      rw [List.cons_append, pieces_cons_of_pos hd, pieces_cons_of_pos hd, ih, hpieces]
      rfl
    | false =>
      rw [List.cons_append, pieces_cons_of_neg hd, pieces_cons_of_neg hd, ih, hpieces]
      rfl

theorem dropWhile_append_cons (hc : p c = false) (cs ds : List Char) :
    (cs ++ c :: ds).dropWhile p = cs.dropWhile p ++ c :: ds := by
  induction cs with
  | nil => exact List.dropWhile_cons_of_neg (Bool.eq_false_iff.mp hc)
  | cons d cs ih =>
    rw [List.cons_append, List.dropWhile_cons, List.dropWhile_cons, ih]
    split
    · rfl
    · rfl

theorem takeWhile_append_cons (hc : p c = false) (cs ds : List Char) :
    (cs ++ c :: ds).takeWhile p = cs.takeWhile p := by
  induction cs with
  | nil => exact List.takeWhile_cons_of_neg (Bool.eq_false_iff.mp hc)
  | cons d cs ih => rw [List.cons_append, List.takeWhile_cons, List.takeWhile_cons, ih]

end DiceBot.Text
