import DiceBot.Proofs.Text.Decimal

namespace DiceBot.Text.Sum

open Decimal

structure Partial where
  value : Int := 0
  isNegative : Bool := false
  deriving DecidableEq, Repr

def Partial.add (p : Partial) (v : Int) : Partial :=
  ⟨if p.isNegative then p.value - v else p.value + v, false⟩

/-- Where a reading stands in a sum: before the first summand, before a further one, in a numeral,
or behind a summand. -/
inductive Place where
  | first
  | further
  | numeral (n : Nat)
  | behind
  deriving DecidableEq, Repr

structure Reading where
  current : Partial := {}
  outer : List Partial := []
  place : Place := .first
  deriving DecidableEq, Repr

namespace Reading

def settle (r : Reading) : Reading :=
  match r.place with
  | .numeral n => { r with current := r.current.add n, place := .behind }
  | _ => r

def feedSummand (r : Reading) (c : Char) : Option Reading :=
  if c = '(' then some { outer := r.current :: r.outer }
  else (digit? c).map fun d => { r with place := .numeral d }

def feedBehind (r : Reading) (c : Char) : Option Reading :=
  if c = ' ' then some r
  else if c = '+' then some { r with current.isNegative := false, place := .further }
  else if c = '-' then some { r with current.isNegative := true, place := .further }
  else if c = ')' then
    match r.outer with
    | [] => none
    | p :: outer => some ⟨p.add r.current.value, outer, .behind⟩
  else none

/-- Only before the first summand may a minus sign stand that takes it away from nothing. -/
def feed (r : Reading) (c : Char) : Option Reading :=
  match r.place with
  | .first =>
    if c = ' ' then some r
    else if c = '-' then some { r with current.isNegative := true, place := .further }
    else r.feedSummand c
  | .further => if c = ' ' then some r else r.feedSummand c
  | .numeral n =>
    match digit? c with
    | some d => some { r with place := .numeral (10 * n + d) }
    | none => r.settle.feedBehind c
  | .behind => r.feedBehind c

def run (r : Reading) (cs : List Char) : Option Reading :=
  cs.foldlM feed r

end Reading

/-- The value of a sum over all integers, written with brackets, plus and minus signs. -/
def value? (cs : List Char) : Option Int :=
  match (Reading.run {} cs).map Reading.settle with
  | some ⟨p, [], .behind⟩ => some p.value
  | _ => none

def holds? (cs : List Char) : Option Bool :=
  match cs.dropWhile (· != '=') with
  | [] => none
  | _ :: right => do return (← value? (cs.takeWhile (· != '='))) == (← value? right)

example : value? "1 - (2 - (-3) + 40)".toList = some (-44) := by decide +kernel
example : holds? "(3) + (5) - 2 = 6".toList = some true := by decide +kernel

variable {p : Partial} {outer : List Partial} {place : Place} {r r' : Reading} {c : Char}

theorem Reading.run_cons (h : r.feed c = some r') (cs : List Char) :
    r.run (c :: cs) = r'.run cs := by
  rw [run, List.foldlM_cons, h]
  rfl

theorem Reading.run_append {cs : List Char} (h : r.run cs = some r') (ds : List Char) :
    r.run (cs ++ ds) = r'.run ds := by
  rw [run] at h
  rw [run, List.foldlM_append, h]
  rfl

theorem digit?_ofDigit {d : Nat} (hd : d < 10) : digit? (ofDigit d) = some d := by
  have h : ∀ d < 10, digit? (ofDigit d) = some d := by decide
  exact h d hd

theorem run_digits {ds : List Nat} (hds : ∀ d ∈ ds, d < 10) (n : Nat) :
    Reading.run ⟨p, outer, .numeral n⟩ (ds.map ofDigit) =
      some ⟨p, outer, .numeral (ds.foldl (fun n d => 10 * n + d) n)⟩ := by
  induction ds generalizing n with
  | nil => rfl
  | cons d ds ih =>
    obtain ⟨hd, hds⟩ := List.forall_mem_cons.mp hds
    have hfeed : Reading.feed ⟨p, outer, .numeral n⟩ (ofDigit d) =
        some ⟨p, outer, .numeral (10 * n + d)⟩ := by
      simp only [Reading.feed, digit?_ofDigit hd]
    rw [List.map_cons, Reading.run_cons hfeed]
    exact ih hds (10 * n + d)

theorem run_numeral (h : place = .first ∨ place = .further) (n : Nat) :
    Reading.run ⟨p, outer, place⟩ ((digits n).map ofDigit) = some ⟨p, outer, .numeral n⟩ := by
  obtain ⟨d, ds, hds, -⟩ := digits_cons n
  have hlt : ∀ e ∈ d :: ds, e < 10 := fun e he => lt_of_mem_digits (n := n) (hds ▸ he)
  have hvalue : ds.foldl (fun n d => 10 * n + d) d = n := by
    have hn := value_digits n
    rw [hds, value, List.foldl_cons] at hn
    simpa using hn
  obtain ⟨hd, hlt⟩ := List.forall_mem_cons.mp hlt
  have hplain : ∀ e < 10, ofDigit e ≠ ' ' ∧ ofDigit e ≠ '-' ∧ ofDigit e ≠ '(' := by decide
  obtain ⟨hspace, hminus, hbracket⟩ := hplain d hd
  have hfeed : Reading.feed ⟨p, outer, place⟩ (ofDigit d) = some ⟨p, outer, .numeral d⟩ := by
    obtain rfl | rfl := h <;>
      simp [Reading.feed, Reading.feedSummand, hspace, hminus, hbracket, digit?_ofDigit hd]
  rw [hds, List.map_cons, Reading.run_cons hfeed, run_digits hlt d, hvalue]

theorem Partial.add_natAbs (i : Int) : Partial.add ⟨0, decide (i < 0)⟩ i.natAbs = ⟨i, false⟩ := by
  by_cases hi : i < 0
  · simp only [add, decide_eq_true hi, if_true, Partial.mk.injEq, and_true]
    omega
  · simp only [add, decide_eq_false hi, Bool.false_eq_true, if_false, Partial.mk.injEq, and_true]
    omega

theorem exists_run_signed (i : Int) (outer : List Partial) :
    ∃ r, Reading.run ⟨{}, outer, .first⟩ (signed i) = some r ∧
      r.settle = ⟨⟨i, false⟩, outer, .behind⟩ := by
  refine ⟨⟨⟨0, decide (i < 0)⟩, outer, .numeral i.natAbs⟩, ?_, ?_⟩
  · by_cases hi : i < 0
    · have hfeed : Reading.feed ⟨{}, outer, .first⟩ '-' = some ⟨⟨0, true⟩, outer, .further⟩ := rfl
      rw [signed_of_neg hi, Reading.run_cons hfeed, decide_eq_true hi]
      exact run_numeral (.inr rfl) i.natAbs
    · rw [signed, if_neg hi, decide_eq_false hi]
      exact run_numeral (.inl rfl) i.natAbs
  · simp only [Reading.settle, Partial.add_natAbs]

theorem value?_of_settle {cs : List Char} {v : Int} (h : Reading.run {} cs = some r)
    (hr : r.settle = ⟨⟨v, false⟩, [], .behind⟩) : value? cs = some v := by
  simp only [value?, h, Option.map_some, hr]

theorem value?_signed (i : Int) : value? (signed i) = some i := by
  obtain ⟨r, hrun, hr⟩ := exists_run_signed i []
  exact value?_of_settle hrun hr

theorem signed_injective : Function.Injective signed := by
  intro i j h
  have hi := value?_signed i
  rw [h, value?_signed] at hi
  exact (Option.some.inj hi).symm

theorem feed_of_settle (hr : r.settle = ⟨p, outer, .behind⟩) (hc : digit? c = none) :
    r.feed c = Reading.feedBehind ⟨p, outer, .behind⟩ c := by
  rw [← hr]
  obtain ⟨q, outer', place⟩ := r
  cases place with
  | first | further => cases hr
  | numeral n => simp only [Reading.feed, hc]
  | behind => rfl

theorem feed_space (hr : r.settle = ⟨p, outer, .behind⟩) :
    r.feed ' ' = some ⟨p, outer, .behind⟩ :=
  feed_of_settle hr rfl

theorem run_bracketed (h : place = .first ∨ place = .further) (i : Int) :
    Reading.run ⟨p, outer, place⟩ ('(' :: (signed i ++ [')'])) =
      some ⟨p.add i, outer, .behind⟩ := by
  have hopen : Reading.feed ⟨p, outer, place⟩ '(' = some ⟨{}, p :: outer, .first⟩ := by
    obtain rfl | rfl := h <;> rfl
  obtain ⟨r, hrun, hr⟩ := exists_run_signed i (p :: outer)
  have hclose : r.feed ')' = some ⟨p.add i, outer, .behind⟩ := feed_of_settle hr rfl
  rw [Reading.run_cons hopen, Reading.run_append hrun, Reading.run_cons hclose]
  rfl

theorem run_plus (hr : r.settle = ⟨p, outer, .behind⟩) (cs : List Char) :
    r.run (' ' :: '+' :: ' ' :: cs) = Reading.run ⟨⟨p.value, false⟩, outer, .further⟩ cs := by
  rw [Reading.run_cons (feed_space hr)]
  rfl

theorem run_minus (hr : r.settle = ⟨p, outer, .behind⟩) (cs : List Char) :
    r.run (' ' :: '-' :: ' ' :: cs) = Reading.run ⟨⟨p.value, true⟩, outer, .further⟩ cs := by
  rw [Reading.run_cons (feed_space hr)]
  rfl

theorem holds?_append {left : List Char} {v : Int} (hleft : '=' ∉ left)
    (hrun : Reading.run {} left = some r) (hr : r.settle = ⟨⟨v, false⟩, [], .behind⟩) (i : Int) :
    holds? (left ++ ' ' :: '=' :: ' ' :: signed i) = some (decide (v = i)) := by
  have hne : ∀ c ∈ left ++ [' '], (c != '=') = true := by
    intro c hc
    rw [bne_iff_ne]
    rintro rfl
    simp [hleft] at hc
  have hcut : left ++ ' ' :: '=' :: ' ' :: signed i =
      (left ++ [' ']) ++ '=' :: ' ' :: signed i := by
    simp
  have hvalue : value? (left ++ [' ']) = some v := by
    apply value?_of_settle (r := ⟨⟨v, false⟩, [], .behind⟩) _ rfl
    rw [Reading.run_append hrun, Reading.run_cons (feed_space hr)]
    rfl
  have hsigned : value? (' ' :: signed i) = some i := value?_signed i
  rw [holds?, hcut, List.dropWhile_append_of_pos hne, List.takeWhile_append_of_pos hne]
  simp [hvalue, hsigned, beq_eq_decide]

end DiceBot.Text.Sum
