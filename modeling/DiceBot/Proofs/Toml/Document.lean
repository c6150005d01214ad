import DiceBot.Proofs.Toml.Entry

namespace DiceBot.Toml

section Free

variable {es : Entries} {key : String} (h : key ∉ es.map (·.1)) (v : Node)
include h

theorem get?_of_notMem : es.get? key = none := by
  rw [Entries.get?, List.lookup_eq_none_iff]
  intro e he
  have hne : key ≠ e.1 := fun heq => h (heq ▸ List.mem_map_of_mem he)
  simpa using hne

theorem set_of_notMem : es.set key v = es ++ [(key, v)] := by
  induction es with
  | nil => rfl
  | cons e es ih =>
    rw [List.map_cons, List.mem_cons, not_or] at h
    rw [Entries.set, if_neg (Ne.symm h.1), ih h.2, List.cons_append]

theorem enter_of_notMem : Document.enter ⟨es, []⟩ [] key v = some ⟨es ++ [(key, v)], []⟩ := by
  simp [Document.enter, Entries.change, Entries.insert, get?_of_notMem h, set_of_notMem h]

end Free

theorem get?_map_of_injective {α : Type} {key : α → String} (hkey : Function.Injective key)
    (v : α → Node) {l : List α} {a : α} (ha : a ∈ l) :
    Entries.get? (l.map fun a => (key a, v a)) (key a) = some (v a) := by
  induction l with
  | nil => simp at ha
  | cons b l ih =>
    by_cases hab : a = b
    · simp [Entries.get?, hab]
    · have hne : (key a == key b) = false := by simpa using fun h => hab (hkey h)
      have hmem : a ∈ l := (List.mem_cons.mp ha).resolve_left hab
      simpa [Entries.get?, List.lookup_cons, hne] using ih hmem

def stringEntry (e : String × String) : String × Node :=
  (e.1, .string e.2)

theorem lines_of_line {d d' : Document} {cs rest : List Char} {more : Nat} (hne : cs ≠ [])
    (h : line d cs = some (d', rest)) : lines d (more + 1) cs = lines d' more rest := by
  obtain ⟨c, cs, rfl⟩ := List.exists_cons_of_ne_nil hne
  rw [lines, h]
  simp

theorem lines_flatMap_entryLine {pairs : List (String × String)} (hpairs : ∀ e ∈ pairs, IsEntry e)
    {es : Entries} (hnodup : (es.map (·.1) ++ pairs.map (·.1)).Nodup) {more : Nat}
    (hmore : (pairs.flatMap entryLine).length < more) :
    lines ⟨es, []⟩ more (pairs.flatMap entryLine) = some ⟨es ++ pairs.map stringEntry, []⟩ := by
  induction pairs generalizing es more with
  | nil =>
    obtain ⟨more, rfl⟩ := Nat.exists_eq_add_one_of_ne_zero (Nat.ne_of_gt hmore)
    simp [lines]
  | cons e pairs ih =>
    obtain ⟨more, rfl⟩ := Nat.exists_eq_add_one_of_ne_zero (Nat.ne_of_gt (Nat.zero_lt_of_lt hmore))
    have hfree : e.1 ∉ es.map (·.1) := fun hmem =>
      (List.nodup_append.mp hnodup).2.2 e.1 hmem e.1 (by simp) rfl
    have hline := line_entryLine (hpairs e (by simp)) ⟨es, []⟩ (pairs.flatMap entryLine)
    rw [enter_of_notMem hfree, Option.map_some] at hline
    rw [List.flatMap_cons] at hmore ⊢
    rw [lines_of_line (by simp [entryLine]) hline,
      ih (fun e he => hpairs e (by simp [he])) (by simpa using hnodup)
        (by simp [entryLine] at hmore ⊢; omega)]
    simp [stringEntry]

/-- A document of plain entries is read as it was written. -/
theorem read?_flatMap_entryLine {pairs : List (String × String)} (hpairs : ∀ e ∈ pairs, IsEntry e)
    (hnodup : (pairs.map (·.1)).Nodup) {text : String}
    (htext : text.toList = pairs.flatMap entryLine) :
    read? text = some (pairs.map stringEntry) := by
  have hlines : lines {} ((pairs.flatMap entryLine).length + 1) (pairs.flatMap entryLine) =
      some ⟨[] ++ pairs.map stringEntry, []⟩ :=
    lines_flatMap_entryLine hpairs (by simpa using hnodup) (Nat.lt_succ_self _)
  have hmark : ∀ cs, pairs.flatMap entryLine ≠ '\uFEFF' :: cs := by
    intro cs hcs
    cases pairs with
    | nil => simp at hcs
    | cons e pairs =>
      obtain ⟨hne, hkey, -⟩ := hpairs e (by simp)
      obtain ⟨c, key, hc⟩ := List.exists_cons_of_ne_nil hne
      obtain rfl : c = '\uFEFF' := by simpa [entryLine, hc] using congrArg List.head? hcs
      exact absurd (hkey '\uFEFF' (by simp [hc])) (by decide)
  rw [read?, htext]
  split
  · rename_i cs hcs
    exact absurd hcs (hmark cs)
  · rw [hlines, List.nil_append, Option.map_some]

end DiceBot.Toml
