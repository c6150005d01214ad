import DiceBot.Proofs.Text.Pieces
import DiceBot.Web.Address

namespace DiceBot.Web.Address

open Text

def isKept (c : Char) : Bool :=
  c != '\t' && c != '\n' && c != '\r'

def cleanEnd (cs : List Char) : List Char :=
  (cs.reverse.dropWhile isTrimmed).reverse.filter isKept

/-- Blanks are only looked for at the ends, and a slash is not one. -/
theorem exists_clean_append_slash (cs : List Char) :
    ∃ front, ∀ ds, clean (cs ++ '/' :: ds) = front ++ '/' :: cleanEnd ds := by
  refine ⟨(cs.dropWhile isTrimmed).filter isKept, fun ds => ?_⟩
  have htrim : (((cs ++ '/' :: ds).dropWhile isTrimmed).reverse.dropWhile isTrimmed).reverse =
      cs.dropWhile isTrimmed ++ '/' :: (ds.reverse.dropWhile isTrimmed).reverse := by
    rw [dropWhile_append_cons (by decide), List.reverse_append, List.reverse_cons,
      List.append_assoc, List.singleton_append, dropWhile_append_cons (by decide),
      List.reverse_append, List.reverse_cons, List.reverse_reverse, List.append_assoc,
      List.singleton_append]
  have hclean : clean (cs ++ '/' :: ds) =
      (((cs ++ '/' :: ds).dropWhile isTrimmed).reverse.dropWhile isTrimmed).reverse.filter isKept :=
    rfl
  rw [hclean, htrim, List.filter_append, List.filter_cons_of_pos (by decide), cleanEnd]

theorem afterScheme?_eq_some_iff {cs rest : List Char} {isSecure : Bool} :
    afterScheme? cs = some (isSecure, rest) ↔
      cs.dropWhile isSchemeChar = ':' :: rest ∧
        (cs.takeWhile isSchemeChar).map Char.toLower =
          if isSecure then "https".toList else "http".toList := by
  rw [afterScheme?]
  constructor
  · intro h
    split at h
    · next heq =>
      split at h
      · next hscheme =>
        cases h
        exact ⟨heq, hscheme⟩
      · split at h
        · next hscheme =>
          cases h
          exact ⟨heq, hscheme⟩
        · cases h
    · cases h
  · rintro ⟨hrest, hscheme⟩
    rw [hrest, hscheme]
    cases isSecure with
    | false => rfl
    | true => rfl

theorem afterScheme?_append_slash {cs ds whole : List Char} {isSecure : Bool} :
    afterScheme? (cs ++ '/' :: ds) = some (isSecure, whole) ↔
      ∃ rest, afterScheme? cs = some (isSecure, rest) ∧ whole = rest ++ '/' :: ds := by
  simp only [afterScheme?_eq_some_iff]
  rw [takeWhile_append_cons (by decide), dropWhile_append_cons (by decide)]
  constructor
  · rintro ⟨hwhole, hscheme⟩
    obtain ⟨-, hslash⟩ | ⟨rest, hrest, hwhole⟩ := List.append_eq_cons_iff.mp hwhole
    · exact absurd (List.cons.inj hslash).1 (by decide)
    · exact ⟨rest, ⟨hrest, hscheme⟩, hwhole⟩
  · rintro ⟨rest, ⟨hrest, hscheme⟩, rfl⟩
    exact ⟨by rw [hrest]; rfl, hscheme⟩

def place? (isSecure : Bool) (cs : List Char) : Option Address := do
  let (user, password, place) := splitCredentials cs
  let (hostText, portText) := splitPort place
  let host ← Host.ofText? hostText
  let port ← match portText with
    | none => some none
    | some t => port? isSecure t
  return ⟨isSecure, user, password, host, port, [], none, none⟩

def afterSlashes? (isSecure : Bool) (cs : List Char) : Option Address :=
  let body := splitAtFirst '#' cs
  let text := splitAtFirst '?' body.1
  (place? isSecure (text.1.takeWhile fun c => !isSlash c)).map fun place =>
    { place with
      path := pathSegments ((text.1.dropWhile fun c => !isSlash c).drop 1)
      query := text.2.map (percentEncode isQueryEncoded)
      fragment := body.2.map (percentEncode isFragmentEncoded) }

theorem parse?_eq (text : String) :
    parse? text = (afterScheme? (clean text.toList)).bind fun (isSecure, rest) =>
      afterSlashes? isSecure (rest.dropWhile isSlash) := by
  refine Option.bind_congr fun scheme _ => ?_
  obtain ⟨isSecure, rest⟩ := scheme
  dsimp only [afterSlashes?]
  generalize splitAtFirst '#' (rest.dropWhile isSlash) = body
  generalize splitAtFirst '?' body.1 = text
  obtain ⟨cs, query⟩ := text
  unfold place?
  dsimp only
  generalize splitCredentials (cs.takeWhile fun c => !isSlash c) = credentials
  generalize splitPort credentials.2.2 = place
  obtain ⟨hostText, portText⟩ := place
  cases hhost : Host.ofText? hostText with
  | none => rfl
  | some host =>
    cases portText with
    | none => rfl
    | some t =>
      cases hport : port? isSecure t with
      | none => simp only [hport]; rfl
      | some port => simp only [hport]; rfl

section

variable {mark : Char} {cs : List Char}

theorem splitAtFirst_append (h : mark ∉ cs) (ds : List Char) :
    splitAtFirst mark (cs ++ ds) = (cs ++ (splitAtFirst mark ds).1, (splitAtFirst mark ds).2) := by
  have hcs : ∀ c ∈ cs, (c != mark) = true := fun c hc =>
    bne_iff_ne.mpr fun heq => h (heq ▸ hc)
  rw [splitAtFirst, splitAtFirst, List.dropWhile_append_of_pos hcs, List.takeWhile_append_of_pos hcs]
  split
  · rfl
  · rfl

theorem splitAtFirst_of_notMem (h : mark ∉ cs) : splitAtFirst mark cs = (cs, none) := by
  have hsplit := splitAtFirst_append h []
  rw [List.append_nil] at hsplit
  exact hsplit.trans (congrArg (fun ds => (ds, none)) (List.append_nil cs))

theorem notMem_of_splitAtFirst (h : (splitAtFirst mark cs).2 = none) : mark ∉ cs := by
  rw [splitAtFirst] at h
  split at h
  · next hdrop =>
    intro hmem
    have hne := List.dropWhile_eq_nil_iff.mp hdrop mark hmem
    exact absurd rfl (bne_iff_ne.mp hne)
  · cases h

end

theorem resolveSegments_append {bs : List (List Char)} (hbs : bs ≠ []) (as done : List (List Char)) :
    resolveSegments done (as ++ bs) =
      resolveSegments (as.foldl (fun done s => addSegment done s false) done) bs := by
  induction as generalizing done with
  | nil => rfl
  | cons a as ih =>
    obtain ⟨s, ss, h⟩ := List.exists_cons_of_ne_nil (List.append_ne_nil_of_right_ne_nil as hbs)
    rw [List.foldl_cons, ← ih, List.cons_append, h, resolveSegments]
    exact List.cons_ne_nil s ss

/-- What a path says of where it leads before its last slash is not touched by what follows. -/
theorem exists_pathSegments_append_slash (cs : List Char) :
    ∃ done, ∀ ds, pathSegments (((cs ++ '/' :: ds).dropWhile fun c => !isSlash c).drop 1) =
      (resolveSegments done (pieces isSlash ds)).reverse := by
  cases h : cs.dropWhile fun c => !isSlash c with
  | nil =>
    refine ⟨[], fun ds => ?_⟩
    rw [dropWhile_append_cons (by decide), h]
    rfl
  | cons c rest =>
    refine ⟨(pieces isSlash rest).foldl (fun done s => addSegment done s false) [], fun ds => ?_⟩
    rw [dropWhile_append_cons (by decide), h, List.cons_append, List.drop_one, List.tail_cons,
      pathSegments, pieces_append_cons (by decide), resolveSegments_append (pieces_ne_nil isSlash ds)]

end DiceBot.Web.Address
