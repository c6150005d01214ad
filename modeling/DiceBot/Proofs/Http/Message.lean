import DiceBot.Http.Message
import DiceBot.Proofs.Text.Utf8

namespace DiceBot.Http

open Text

namespace Request

variable {r : Request} {name s : String}

def FirstHeader (r : Request) (name : String) (value : Bytes) : Prop :=
  ∃ before key after, r.headers = before ++ (key, value) :: after ∧
    lowerAscii key = lowerAscii name ∧ ∀ h ∈ before, lowerAscii h.1 ≠ lowerAscii name

def HasText (r : Request) (name s : String) : Prop :=
  r.FirstHeader name (Utf8.ofString s) ∧ ∀ b ∈ Utf8.ofString s, isTextByte b = true

/-- There is no header of a name, or the first one is no text; others do not count. -/
def LacksText (r : Request) (name : String) : Prop :=
  ∀ value, r.FirstHeader name value → ∃ b ∈ value, isTextByte b = false

theorem isTextByte_iff {b : UInt8} :
    isTextByte b = true ↔ b.toNat = 0x09 ∨ 0x20 ≤ b.toNat ∧ b.toNat < 0x7F := by
  rw [isTextByte, Bool.or_eq_true, beq_iff_eq, Bool.and_eq_true, decide_eq_true_eq,
    decide_eq_true_eq, UInt8.le_iff_toNat_le, UInt8.lt_iff_toNat_lt, ← UInt8.toNat_inj]
  rfl

theorem toNat_lt_of_isTextByte {b : UInt8} (h : isTextByte b = true) :
    b.toNat < 0x80 := by
  rw [isTextByte_iff] at h
  omega

theorem find?_eq_some_iff {key : String} {value : Bytes} :
    r.headers.find? (fun h => lowerAscii h.1 == lowerAscii name) = some (key, value) ↔
      ∃ before after, r.headers = before ++ (key, value) :: after ∧
        lowerAscii key = lowerAscii name ∧ ∀ h ∈ before, lowerAscii h.1 ≠ lowerAscii name := by
  simp only [List.find?_eq_some_iff_append, beq_iff_eq, Bool.not_eq_true', beq_eq_false_iff_ne]
  constructor
  · rintro ⟨hkey, before, after, happ, hbefore⟩
    exact ⟨before, after, happ, hkey, hbefore⟩
  · rintro ⟨before, after, happ, hkey, hbefore⟩
    exact ⟨hkey, before, after, happ, hbefore⟩

theorem firstHeader_iff {value : Bytes} :
    r.FirstHeader name value ↔
      ∃ key, r.headers.find? (fun h => lowerAscii h.1 == lowerAscii name) = some (key, value) := by
  simp only [find?_eq_some_iff]
  exact ⟨fun ⟨before, key, after, h⟩ => ⟨key, before, after, h⟩,
    fun ⟨key, before, after, h⟩ => ⟨before, key, after, h⟩⟩

theorem ofString_of_isTextByte {value : Bytes} (h : ∀ b ∈ value, isTextByte b = true) :
    Utf8.ofString (String.ofList (value.map Char.ofUInt8)) = value := by
  rw [Utf8.ofString, String.toList_ofList]
  exact Utf8.encode_map_ofUInt8 fun b hb => toNat_lt_of_isTextByte (h b hb)

theorem headerText?_of_firstHeader {value : Bytes} (h : r.FirstHeader name value) :
    r.headerText? name =
      if value.all isTextByte then some (String.ofList (value.map Char.ofUInt8)) else none := by
  obtain ⟨key, hfind⟩ := firstHeader_iff.mp h
  rw [headerText?, hfind]

theorem headerText?_eq_some_iff : r.headerText? name = some s ↔ r.HasText name s := by
  constructor
  · intro h
    rw [headerText?] at h
    split at h
    · next key value hfind =>
      split at h
      · next htext =>
        cases h
        rw [List.all_eq_true] at htext
        rw [HasText, ofString_of_isTextByte htext]
        exact ⟨firstHeader_iff.mpr ⟨key, hfind⟩, htext⟩
      · cases h
    · cases h
  · rintro ⟨hfirst, htext⟩
    have hs : (Utf8.ofString s).map Char.ofUInt8 = s.toList :=
      Utf8.map_ofUInt8_encode fun b hb => toNat_lt_of_isTextByte (htext b hb)
    rw [headerText?_of_firstHeader hfirst, if_pos (List.all_eq_true.mpr htext), hs,
      String.ofList_toList]

theorem headerText?_eq_none_iff : r.headerText? name = none ↔ r.LacksText name := by
  constructor
  · intro h value hvalue
    rw [headerText?_of_firstHeader hvalue] at h
    split at h
    · cases h
    · next htext => simpa using htext
  · intro h
    cases hs : r.headerText? name with
    | none => rfl
    | some s =>
      obtain ⟨hfirst, htext⟩ := headerText?_eq_some_iff.mp hs
      obtain ⟨b, hb, hfalse⟩ := h _ hfirst
      rw [htext b hb] at hfalse
      cases hfalse

end Request

end DiceBot.Http
