import DiceBot.Json.Lexer

namespace DiceBot.Json

theorem ofUInt8_inj {a b : UInt8} : Char.ofUInt8 a = Char.ofUInt8 b ↔ a = b := by
  constructor
  · intro h
    have hn : (Char.ofUInt8 a).toNat = (Char.ofUInt8 b).toNat := congrArg Char.toNat h
    exact UInt8.toNat_inj.mp hn
  · exact congrArg Char.ofUInt8

def isSpace (b : UInt8) : Bool :=
  b == 0x20 || b == 0x09 || b == 0x0A || b == 0x0D

theorem isSpace_iff (b : UInt8) :
    isSpace b = true ↔ b = 0x20 ∨ b = 0x09 ∨ b = 0x0A ∨ b = 0x0D := by
  simp only [isSpace, Bool.or_eq_true, beq_iff_eq, or_assoc]

def NumberPart.run (p : NumberPart) (bs : Bytes) : Option NumberPart :=
  bs.foldlM (fun p b => p.step (Char.ofUInt8 b)) p

theorem NumberPart.run_append (p : NumberPart) (bs cs : Bytes) :
    p.run (bs ++ cs) = p.run bs >>= fun q => q.run cs :=
  List.foldlM_append

theorem NumberPart.run_snoc {p q : NumberPart} {bs : Bytes} (h : p.run bs = some q) (b : UInt8) :
    p.run (bs ++ [b]) = q.step (Char.ofUInt8 b) := by
  rw [run_append, h]
  simp [run]

/-- The part of a number that its spelling ends with; a minus stands at its start only. -/
def numberPart? : Bytes → Option NumberPart
  | [] => none
  | b :: bs => if b = 0x2D then NumberPart.minus.run bs else NumberPart.minus.run (b :: bs)

def StringPart.stepInside (p : StringPart) (b : UInt8) : Option StringPart :=
  if p = .plain ∧ b = 0x22 then none else p.step b

def StringPart.run (p : StringPart) (bs : Bytes) : Option StringPart :=
  bs.foldlM StringPart.stepInside p

theorem StringPart.run_append (p : StringPart) (bs cs : Bytes) :
    p.run (bs ++ cs) = p.run bs >>= fun q => q.run cs :=
  List.foldlM_append

theorem StringPart.run_snoc {p q : StringPart} {bs : Bytes} (h : p.run bs = some q) (b : UInt8) :
    p.run (bs ++ [b]) = q.stepInside b := by
  rw [run_append, h]
  simp [run]

def Token.IsSpelled : Token → Prop
  | .number spelling => ∃ p, numberPart? spelling = some p ∧ p.isEnd = true
  | .string spelling => StringPart.plain.run spelling = some .plain
  | _ => True

/-- A text is a list of tokens with white space between them. -/
inductive Spells : List Token → Bytes → Prop
  | nil : Spells [] []
  | space {ts : List Token} {b : UInt8} {bs : Bytes} (hb : isSpace b = true) (h : Spells ts bs) :
      Spells ts (b :: bs)
  | token {t : Token} {ts : List Token} {bs : Bytes} (ht : t.IsSpelled) (h : Spells ts bs) :
      Spells (t :: ts) (t.spell ++ bs)

theorem Spells.append {ts us : List Token} {bs cs : Bytes} (h : Spells ts bs) (h' : Spells us cs) :
    Spells (ts ++ us) (bs ++ cs) := by
  induction h with
  | nil => exact h'
  | space hb _ ih => exact .space hb ih
  | token ht _ ih => simpa using Spells.token ht ih

theorem Spells.snoc {ts : List Token} {t : Token} {bs : Bytes} (h : Spells ts bs)
    (ht : t.IsSpelled) : Spells (ts ++ [t]) (bs ++ t.spell) := by
  simpa using h.append (.token ht .nil)

theorem Spells.flatMap_spell {ts : List Token} (h : ∀ t ∈ ts, t.IsSpelled) :
    Spells ts (ts.flatMap Token.spell) := by
  induction ts with
  | nil => exact .nil
  | cons t ts ih =>
    obtain ⟨ht, hts⟩ := List.forall_mem_cons.mp h
    exact .token ht (ih hts)

theorem numberPart?_cons (b : UInt8) (bs : Bytes) :
    numberPart? (b :: bs) = numberPart? [b] >>= fun p => p.run bs := by
  simp only [numberPart?]
  split
  · rfl
  · exact NumberPart.run_append .minus [b] bs

theorem numberPart?_snoc {bs : Bytes} {p : NumberPart} (h : numberPart? bs = some p) (b : UInt8) :
    numberPart? (bs ++ [b]) = p.step (Char.ofUInt8 b) := by
  cases bs with
  | nil => cases h
  | cons c cs =>
    rw [numberPart?] at h
    rw [List.cons_append, numberPart?]
    split at h
    · next hc => rw [if_pos hc, NumberPart.run_snoc h]
    · next hc => rw [if_neg hc, ← List.cons_append, NumberPart.run_snoc h]

end DiceBot.Json
