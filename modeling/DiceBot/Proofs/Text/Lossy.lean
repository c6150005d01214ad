import DiceBot.Proofs.Text.Utf8

namespace DiceBot.Text.Utf8

variable {bs : Bytes} {b : UInt8} {c : Char} {r s : Reading}

theorem feedLossy_of_feed (h : r.feed b = some s) : r.feedLossy b = s := by
  rw [Reading.feedLossy, h]

theorem foldl_feedLossy_of_foldlM (h : bs.foldlM Reading.feed r = some s) :
    bs.foldl Reading.feedLossy r = s := by
  induction bs generalizing r with
  | nil => exact Option.some.inj h
  | cons b bs ih =>
    obtain ⟨r', hfeed, hrest⟩ := Option.bind_eq_some_iff.mp h
    rw [List.foldl_cons, feedLossy_of_feed hfeed]
    exact ih hrest

theorem decodeLossy_of_decode? {cs : List Char} (h : decode? bs = some cs) :
    decodeLossy bs = cs := by
  rw [decode?] at h
  split at h
  · next hrun =>
    rw [decodeLossy, foldl_feedLossy_of_foldlM hrun]
    exact Option.some.inj h
  · cases h

/-- Of bytes that are a text nothing is replaced. -/
theorem toStringLossy_of_toString? {text : String} (h : toString? bs = some text) :
    toStringLossy bs = text := by
  obtain ⟨cs, hcs, rfl⟩ := Option.map_eq_some_iff.mp h
  rw [toStringLossy, decodeLossy_of_decode? hcs]

theorem done_of_feed (h : r.feed b = some s) : ∃ shown, s.done = shown ++ r.done := by
  obtain ⟨⟨c, place⟩, -, rfl⟩ := Option.map_eq_some_iff.mp h
  exact ⟨c.toList, rfl⟩

theorem done_feedLossy (r : Reading) (b : UInt8) :
    ∃ shown, (r.feedLossy b).done = shown ++ r.done ∧ (r.feed b = none → replacement ∈ shown) := by
  cases hfeed : r.feed b with
  | some s =>
    obtain ⟨shown, hs⟩ := done_of_feed hfeed
    exact ⟨shown, by rw [feedLossy_of_feed hfeed, hs], nofun⟩
  | none =>
    obtain ⟨done, place⟩ := r
    cases place with
    | between => exact ⟨[replacement], by simp [Reading.feedLossy, hfeed], by simp⟩
    | inside missing value low high =>
      simp only [Reading.feedLossy, hfeed]
      cases hcut : Reading.feed ⟨replacement :: done, .between⟩ b with
      | none => exact ⟨[replacement, replacement], rfl, by simp⟩
      | some s =>
        obtain ⟨shown, hs⟩ := done_of_feed hcut
        exact ⟨shown ++ [replacement], by simp [hs], by simp⟩

theorem mem_done_foldl (hc : c ∈ r.done) : c ∈ (bs.foldl Reading.feedLossy r).done := by
  induction bs generalizing r with
  | nil => exact hc
  | cons b bs ih =>
    obtain ⟨shown, hdone, -⟩ := done_feedLossy r b
    exact ih (hdone ▸ List.mem_append_right shown hc)

theorem replacement_mem_foldl (h : bs.foldlM Reading.feed r = none) :
    replacement ∈ (bs.foldl Reading.feedLossy r).done := by
  induction bs generalizing r with
  | nil => cases h
  | cons b bs ih =>
    rw [List.foldlM_cons] at h
    cases hfeed : r.feed b with
    | none =>
      obtain ⟨shown, hdone, hshown⟩ := done_feedLossy r b
      rw [List.foldl_cons]
      exact mem_done_foldl (hdone ▸ List.mem_append_left _ (hshown hfeed))
    | some s =>
      rw [List.foldl_cons, feedLossy_of_feed hfeed]
      rw [hfeed] at h
      exact ih h

/-- Bytes that are no text do not pass for one. -/
theorem replacement_mem_decodeLossy (h : decode? bs = none) : replacement ∈ decodeLossy bs := by
  rw [decodeLossy]
  rw [decode?] at h
  cases hrun : bs.foldlM Reading.feed {} with
  | none =>
    have hmem := replacement_mem_foldl hrun
    split <;> simp_all
  | some s =>
    obtain ⟨done, place⟩ := s
    rw [foldl_feedLossy_of_foldlM hrun]
    cases place with
    | between => simp [hrun] at h
    | inside missing value low high => simp

end DiceBot.Text.Utf8
