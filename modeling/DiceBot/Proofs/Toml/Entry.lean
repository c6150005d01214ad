import DiceBot.Toml.Reader
import Mathlib.Data.List.Nodup

namespace DiceBot.Toml

def isPlain (c : Char) : Bool :=
  isText c && c != '"' && c != '\\'

/-- A key that may stand without quotes, and a value that needs no escapes. -/
structure IsEntry (e : String × String) : Prop where
  key_ne_nil : e.1.toList ≠ []
  isKeyChar_of_mem : ∀ c ∈ e.1.toList, isKeyChar c = true
  isPlain_of_mem : ∀ c ∈ e.2.toList, isPlain c = true

def entryLine (e : String × String) : List Char :=
  e.1.toList ++ ' ' :: '=' :: ' ' :: '"' :: (e.2.toList ++ ['"', '\n'])

theorem ne_of_isKeyChar {c d : Char} (hc : isKeyChar c = true) (hd : isKeyChar d = false) :
    c ≠ d := by
  rintro rfl
  simp [hc] at hd

theorem basicOnto_of_isPlain {cs : List Char} (h : ∀ c ∈ cs, isPlain c = true)
    (done rest : List Char) :
    basicOnto done none (cs ++ '"' :: rest) = some (String.ofList (done.reverse ++ cs), rest) := by
  induction cs generalizing done with
  | nil => simp [basicOnto]
  | cons c cs ih =>
    have hc : (isText c = true ∧ c ≠ '"') ∧ c ≠ '\\' := by simpa [isPlain] using h c (by simp)
    rw [List.cons_append, basicOnto, if_neg hc.1.2, if_neg hc.2, if_pos hc.1.1,
      ih fun d hd => h d (by simp [hd])]
    simp

/-- The string ends with its line, so that two quotes for an empty one do not start a string of
several lines. -/
theorem string_of_isPlain {cs : List Char} (h : ∀ c ∈ cs, isPlain c = true) (rest : List Char) :
    string ('"' :: (cs ++ '"' :: '\n' :: rest)) = some (String.ofList cs, '\n' :: rest) := by
  have hbasic := basicOnto_of_isPlain h [] ('\n' :: rest)
  cases cs with
  | nil => exact hbasic
  | cons c cs =>
    have hc : c ≠ '"' := by
      rintro rfl
      exact absurd (h '"' (by simp)) (by decide)
    simpa [string, hc] using hbasic

theorem value_of_isPlain {cs : List Char} (h : ∀ c ∈ cs, isPlain c = true) (deeper : Nat)
    (rest : List Char) :
    value deeper ('"' :: (cs ++ '"' :: '\n' :: rest)) =
      some (.string (String.ofList cs), '\n' :: rest) := by
  have hscalar : scalar ('"' :: (cs ++ '"' :: '\n' :: rest)) = _ :=
    congrArg (Option.map fun p : String × List Char => (Node.string p.1, p.2))
      (string_of_isPlain h rest)
  cases deeper <;> exact hscalar

theorem skipSpace_cons {c : Char} (hc : isSpace c = false) (cs : List Char) :
    skipSpace (c :: cs) = c :: cs := by
  simp [skipSpace, hc]

section Key

variable {c : Char} {cs : List Char} (hc : isKeyChar c = true) (hcs : ∀ d ∈ cs, isKeyChar d = true)
include hc hcs

theorem simpleKey_of_isKeyChar (rest : List Char) :
    simpleKey (c :: cs ++ ' ' :: rest) = some (String.ofList (c :: cs), ' ' :: rest) := by
  have hall : ∀ d ∈ c :: cs, isKeyChar d = true := List.forall_mem_cons.mpr ⟨hc, hcs⟩
  have htake : (c :: cs ++ ' ' :: rest).takeWhile isKeyChar = c :: cs := by
    rw [List.takeWhile_append_of_pos hall]
    simp [isKeyChar]
  have hdrop : (c :: cs ++ ' ' :: rest).dropWhile isKeyChar = ' ' :: rest := by
    rw [List.dropWhile_append_of_pos hall]
    simp [isKeyChar]
  have hquote : c ≠ '"' := ne_of_isKeyChar hc (by decide)
  have hquote' : c ≠ '\'' := ne_of_isKeyChar hc (by decide)
  rw [List.cons_append] at htake hdrop ⊢
  simp [simpleKey, hquote, hquote', htake, hdrop]

omit hcs in
theorem isSpace_of_isKeyChar : isSpace c = false := by
  simp [isSpace, ne_of_isKeyChar hc (show isKeyChar ' ' = false by decide),
    ne_of_isKeyChar hc (show isKeyChar '\t' = false by decide)]

theorem key_of_isKeyChar (rest : List Char) :
    key (c :: cs ++ ' ' :: '=' :: rest) = some (([], String.ofList (c :: cs)), '=' :: rest) := by
  have hskip : skipSpace (c :: cs ++ ' ' :: '=' :: rest) = c :: cs ++ ' ' :: '=' :: rest :=
    skipSpace_cons (isSpace_of_isKeyChar hc) _
  have hequals : skipSpace (' ' :: '=' :: rest) = '=' :: rest := rfl
  rw [key, depthLimit, keysOnto, hskip, simpleKey_of_isKeyChar hc hcs]
  simp [hequals]

theorem line_of_isKeyChar (d : Document) (rest : List Char) :
    line d (c :: cs ++ ' ' :: '=' :: rest) = do
      let (v, rest) ← value depthLimit (skipSpace rest)
      return (← d.enter [] (String.ofList (c :: cs)) v, ← endOfLine rest) := by
  have hskip : skipSpace (c :: (cs ++ ' ' :: '=' :: rest)) = c :: (cs ++ ' ' :: '=' :: rest) :=
    skipSpace_cons (isSpace_of_isKeyChar hc) _
  have hbracket : c ≠ '[' := ne_of_isKeyChar hc (by decide)
  have hcomment : c ≠ '#' := ne_of_isKeyChar hc (by decide)
  have hfeed : c ≠ '\n' := ne_of_isKeyChar hc (by decide)
  have hreturn : c ≠ '\r' := ne_of_isKeyChar hc (by decide)
  have hpair : pair (value depthLimit) (c :: (cs ++ ' ' :: '=' :: rest)) =
      (value depthLimit (skipSpace rest)).map
        fun (v, rest) => ((([], String.ofList (c :: cs)), v), rest) := by
    rw [pair, ← List.cons_append, key_of_isKeyChar hc hcs rest]
    rfl
  rw [List.cons_append]
  simp only [line, hskip]
  split
  · rename_i heq
    exact absurd (List.cons.inj heq).1 hbracket
  · rename_i heq
    exact absurd (List.cons.inj heq).1 hbracket
  · simp only [List.head?_cons, hpair]
    cases value depthLimit (skipSpace rest) <;> simp [hcomment, hfeed, hreturn]

end Key

theorem line_entryLine {e : String × String} (h : IsEntry e) (d : Document) (rest : List Char) :
    line d (entryLine e ++ rest) = (d.enter [] e.1 (.string e.2)).map fun d => (d, rest) := by
  obtain ⟨hne, hkey, hplain⟩ := h
  obtain ⟨c, cs, hcs⟩ := List.exists_cons_of_ne_nil hne
  rw [hcs, List.forall_mem_cons] at hkey
  have htext : entryLine e ++ rest =
      c :: cs ++ ' ' :: '=' :: (' ' :: '"' :: (e.2.toList ++ '"' :: '\n' :: rest)) := by
    simp [entryLine, hcs]
  have hskip : skipSpace (' ' :: '"' :: (e.2.toList ++ '"' :: '\n' :: rest)) =
      '"' :: (e.2.toList ++ '"' :: '\n' :: rest) := rfl
  rw [htext, line_of_isKeyChar hkey.1 hkey.2, hskip, value_of_isPlain hplain, ← hcs]
  have hend : endOfLine ('\n' :: rest) = some rest := rfl
  simp only [String.ofList_toList, Option.bind_eq_bind, Option.bind_some, hend, Option.map_eq_bind]
  rfl

end DiceBot.Toml
