import DiceBot.Proofs.Web.Address
import DiceBot.Proofs.Web.Percent
import Mathlib.Data.List.Basic

namespace DiceBot.Web.Address

open Text

/-- With one slash at its end, a root is an address that has no query and no fragment. -/
structure IsFolder (root : List Char) (folder : Address) : Prop where
  parse : parse? (String.ofList (root ++ ['/'])) = some folder
  query : folder.query = none
  fragment : folder.fragment = none

def within (folder : Address) (cs : List Char) : Address :=
  let body := splitAtFirst '#' cs
  let text := splitAtFirst '?' body.1
  { folder with
    path := (resolveSegments folder.path.dropLast.reverse (pieces isSlash text.1)).reverse
    query := text.2.map (percentEncode isQueryEncoded)
    fragment := body.2.map (percentEncode isFragmentEncoded) }

section

variable {folder : Address}

theorem afterSlashes?_append_slash {isSecure : Bool} {cs : List Char}
    (hfolder : afterSlashes? isSecure (cs ++ ['/']) = some folder) (hquery : folder.query = none)
    (hfragment : folder.fragment = none) :
    folder.path.getLast? = some [] ∧
      ∀ ds, afterSlashes? isSecure (cs ++ '/' :: ds) = some (folder.within ds) := by
  obtain ⟨place, hplace, rfl⟩ := Option.map_eq_some_iff.mp hfolder
  -- Neither mark is in the folder, so what follows is cut as if it stood alone.
  have hbody : '#' ∉ cs ++ ['/'] :=
    notMem_of_splitAtFirst (Option.map_eq_none_iff.mp hfragment)
  rw [splitAtFirst_of_notMem hbody] at hplace hquery
  have htext : '?' ∉ cs ++ ['/'] := notMem_of_splitAtFirst (Option.map_eq_none_iff.mp hquery)
  rw [splitAtFirst_of_notMem htext, takeWhile_append_cons (by decide)] at hplace
  obtain ⟨done, hdone⟩ := exists_pathSegments_append_slash cs
  have hpath : pathSegments (((cs ++ ['/']).dropWhile fun c => !isSlash c).drop 1) =
      done.reverse ++ [[]] := by
    rw [hdone]
    exact List.reverse_cons
  dsimp only
  rw [splitAtFirst_of_notMem hbody, splitAtFirst_of_notMem htext, hpath]
  refine ⟨List.getLast?_concat, fun ds => ?_⟩
  rw [afterSlashes?, List.append_cons, splitAtFirst_append hbody, splitAtFirst_append htext]
  dsimp only
  rw [← List.append_cons, takeWhile_append_cons (by decide), hplace, hdone, within]
  dsimp only
  rw [List.dropLast_concat, List.reverse_reverse]
  rfl

variable {root : List Char}

theorem IsFolder.parse?_append (h : IsFolder root folder) :
    folder.path.getLast? = some [] ∧
      ∀ cs, parse? (String.ofList (root ++ '/' :: cs)) = some (folder.within (cleanEnd cs)) := by
  obtain ⟨hfolder, hquery, hfragment⟩ := h
  obtain ⟨front, hfront⟩ := exists_clean_append_slash root
  rw [parse?_eq, String.toList_ofList, hfront] at hfolder
  obtain ⟨⟨isSecure, whole⟩, hwhole, hread⟩ := Option.bind_eq_some_iff.mp hfolder
  obtain ⟨rest, hscheme, rfl⟩ := afterScheme?_append_slash.mp hwhole
  dsimp only at hread
  -- Slashes alone behind the scheme would leave no host.
  have hname : rest.dropWhile isSlash ≠ [] := by
    intro hslashes
    rw [List.dropWhile_append, if_pos (List.isEmpty_iff.mpr hslashes)] at hread
    cases hread
  have hrest (cs : List Char) :
      (rest ++ '/' :: cs).dropWhile isSlash = rest.dropWhile isSlash ++ '/' :: cs := by
    rw [List.dropWhile_append, if_neg (by rwa [List.isEmpty_iff])]
  rw [hrest] at hread
  obtain ⟨hlast, hwithin⟩ := afterSlashes?_append_slash hread hquery hfragment
  refine ⟨hlast, fun cs => ?_⟩
  rw [parse?_eq, String.toList_ofList, hfront, afterScheme?_append_slash.mpr ⟨rest, hscheme, rfl⟩,
    Option.bind_some]
  dsimp only
  rw [hrest, hwithin]

end

/-- A text that stands in a path as it is, whether its characters are encoded there or not. None of
them is dropped, ends the path or is read as another one, and no segment is one or two dots. -/
structure IsPlain (cs : List Char) : Prop where
  stands : ∀ c ∈ cs, isKept c = true ∧ c ∉ ['\\', '?', '#']
  leads : ∀ s ∈ pieces isSlash cs, isSingleDot s = false ∧ isDoubleDot s = false

theorem isPlain_iff {cs : List Char} :
    IsPlain cs ↔ (cs.all fun c => isKept c && !(c ∈ ['\\', '?', '#'])) = true ∧
      ((pieces isSlash cs).all fun s => !isSingleDot s && !isDoubleDot s) = true := by
  simp only [List.all_eq_true, Bool.and_eq_true, Bool.not_eq_true', decide_eq_false_iff_not]
  exact ⟨fun h => ⟨h.stands, h.leads⟩, fun h => ⟨h.1, h.2⟩⟩

instance (cs : List Char) : Decidable (IsPlain cs) :=
  decidable_of_iff' _ isPlain_iff

theorem IsPlain.append_slash {cs ds : List Char} (hcs : IsPlain cs) (hds : IsPlain ds) :
    IsPlain (cs ++ '/' :: ds) := by
  constructor
  · rw [List.forall_mem_append, List.forall_mem_cons]
    exact ⟨hcs.stands, by decide, hds.stands⟩
  · rw [pieces_append_cons (by decide), List.forall_mem_append]
    exact ⟨hcs.leads, hds.leads⟩

theorem IsPlain.filter_isKept {cs : List Char} (h : IsPlain cs) : cs.filter isKept = cs :=
  List.filter_eq_self.mpr fun c hc => (h.stands c hc).1

theorem cleanEnd_of_getLast? {cs : List Char} (hlast : ∀ c ∈ cs.getLast?, isTrimmed c = false) :
    cleanEnd cs = cs.filter isKept := by
  rw [cleanEnd]
  rw [← List.head?_reverse] at hlast
  cases h : cs.reverse with
  | nil => rw [List.reverse_eq_nil_iff.mp h]; rfl
  | cons c rest =>
    rw [h] at hlast
    rw [List.dropWhile_cons_of_neg (Bool.eq_false_iff.mp (hlast c rfl)), ← h, List.reverse_reverse]

theorem resolveSegments_of_leads {ss : List (List Char)}
    (h : ∀ s ∈ ss, isSingleDot s = false ∧ isDoubleDot s = false) (done : List (List Char)) :
    resolveSegments done ss = (ss.map (percentEncode isPathEncoded)).reverse ++ done := by
  induction ss generalizing done with
  | nil => rfl
  | cons s ss ih =>
    obtain ⟨hs, hss⟩ := List.forall_mem_cons.mp h
    have hadd (isLast : Bool) : addSegment done s isLast = percentEncode isPathEncoded s :: done := by
      rw [addSegment, hs.1, hs.2]
      rfl
    rw [List.map_cons, List.reverse_cons, List.append_assoc, List.singleton_append]
    cases ss with
    | nil => exact hadd true
    | cons t ss =>
      rw [resolveSegments, hadd, ih hss]
      exact List.cons_ne_nil t ss

theorem flatMap_pieces {cs : List Char} (h : '\\' ∉ cs) :
    (pieces isSlash cs).flatMap (fun s => '/' :: percentEncode isPathEncoded s) =
      '/' :: percentEncode isPathEncoded cs := by
  induction cs with
  | nil => rfl
  | cons c cs ih =>
    have hcs := ih fun hmem => h (List.mem_cons_of_mem _ hmem)
    cases hslash : isSlash c with
    | true =>
      have hc : c = '/' := by
        rw [isSlash, Bool.or_eq_true, beq_iff_eq, beq_iff_eq] at hslash
        exact hslash.resolve_right fun heq => h (heq ▸ List.mem_cons_self ..)
      rw [pieces_cons_of_pos hslash, List.flatMap_cons, hcs, hc]
      rfl
    | false =>
      obtain ⟨piece, rest, hpieces⟩ := List.exists_cons_of_ne_nil (pieces_ne_nil isSlash cs)
      rw [hpieces, List.flatMap_cons, List.cons_append] at hcs
      rw [pieces_cons_of_neg hslash, hpieces, List.modifyHead_cons, List.flatMap_cons,
        percentEncode_cons, percentEncode_cons _ c cs, ← (List.cons.inj hcs).2, List.cons_append,
        List.append_assoc]

section

variable {root cs : List Char} {folder : Address}

theorem IsPlain.within (h : IsPlain cs) (hfolder : IsFolder root folder) :
    folder.within cs = { folder with
      path := folder.path.dropLast ++ (pieces isSlash cs).map (percentEncode isPathEncoded) } := by
  have hmark : '#' ∉ cs := fun hmem => (h.stands _ hmem).2 (by decide)
  have hquestion : '?' ∉ cs := fun hmem => (h.stands _ hmem).2 (by decide)
  rw [Address.within, splitAtFirst_of_notMem hmark]
  dsimp only
  rw [splitAtFirst_of_notMem hquestion, resolveSegments_of_leads h.leads, List.reverse_append,
    List.reverse_reverse, List.reverse_reverse, Option.map_none, Option.map_none]
  obtain ⟨-, hquery, hfragment⟩ := hfolder
  cases folder
  cases hquery
  cases hfragment
  rfl

/-- A plain text is asked for behind what its folder is asked for by. -/
theorem IsPlain.target_within (h : IsPlain cs) (hfolder : IsFolder root folder) :
    (folder.within cs).target = folder.target ++ percentEncode isPathEncoded cs := by
  have hbackslash : '\\' ∉ cs := fun hmem => (h.stands _ hmem).2 (by decide)
  have hpath : folder.path = folder.path.dropLast ++ [[]] :=
    (List.dropLast_append_getLast? [] hfolder.parse?_append.1).symm
  rw [h.within hfolder, target, target, hfolder.query, List.flatMap_append, List.flatMap_map,
    flatMap_pieces hbackslash]
  conv => rhs; rw [hpath]
  simp

end

theorem target_within_of_mark (folder : Address) (cs ds es : List Char) :
    (folder.within (cs ++ '#' :: ds)).target = (folder.within (cs ++ '#' :: es)).target := by
  have hcut (ds : List Char) :
      (splitAtFirst '#' (cs ++ '#' :: ds)).1 = cs.takeWhile (· != '#') := by
    rw [splitAtFirst, dropWhile_append_cons (by decide), takeWhile_append_cons (by decide)]
    cases cs.dropWhile (· != '#') with
    | nil => rfl
    | cons c rest => rfl
  rw [target, target, Address.within, Address.within, hcut, hcut]

theorem target_withoutCredentials (a : Address) : a.withoutCredentials.target = a.target := by
  rw [withoutCredentials]
  split
  · rfl
  · rfl

theorem withoutCredentials_of_path (a : Address) (path : List (List Char)) :
    { a with path }.withoutCredentials = { a.withoutCredentials with path } := by
  rw [withoutCredentials, withoutCredentials]
  split
  · rfl
  · rfl

end DiceBot.Web.Address
