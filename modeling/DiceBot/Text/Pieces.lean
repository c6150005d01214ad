namespace DiceBot.Text

def pieces (isSeparator : Char → Bool) (cs : List Char) : List (List Char) :=
  cs.foldr (fun c ps => if isSeparator c then [] :: ps else ps.modifyHead (c :: ·)) [[]]

theorem length_pieces (isSeparator : Char → Bool) (cs : List Char) :
    (pieces isSeparator cs).length = cs.countP isSeparator + 1 := by
  induction cs with
  | nil => rfl
  | cons c cs ih =>
    simp only [pieces, List.foldr_cons, List.countP_cons] at ih ⊢
    split <;> simp [ih]

end DiceBot.Text
