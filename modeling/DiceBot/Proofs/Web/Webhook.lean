import DiceBot.Web.Client
import Mathlib.Data.List.DropRight
import Mathlib.Data.List.Infix
import Mathlib.Data.List.TakeWhile

namespace DiceBot.Web

variable {pattern replacement cs ds : List Char} {c : Char}

theorem isPrefixOf_append_cons (hc : c ∉ pattern) :
    pattern.isPrefixOf (cs ++ c :: ds) = pattern.isPrefixOf cs := by
  rw [Bool.eq_iff_iff, List.isPrefixOf_iff_prefix, List.isPrefixOf_iff_prefix]
  constructor
  · intro h
    have hcut : cs ++ [c] <+: cs ++ c :: ds := ⟨ds, by simp⟩
    obtain h | h := List.prefix_or_prefix_of_prefix h hcut
    · obtain rfl | h := List.prefix_concat_iff.mp h
      · exact absurd (by simp) hc
      · exact h
    · exact absurd (h.subset (by simp)) hc
  · exact fun h => h.trans (List.prefix_append cs _)

theorem replaceFrom_zero (c : Char) (cs : List Char) :
    replaceFrom pattern replacement 0 (c :: cs) =
      if pattern.isPrefixOf (c :: cs) then
        replacement ++ replaceFrom pattern replacement (pattern.length - 1) cs
      else c :: replaceFrom pattern replacement 0 cs :=
  rfl

theorem replaceFrom_append_cons (hne : pattern ≠ []) (hc : c ∉ pattern) {skip : Nat}
    (hskip : skip ≤ cs.length) :
    replaceFrom pattern replacement skip (cs ++ c :: ds) =
      replaceFrom pattern replacement skip cs ++ c :: replaceAll pattern replacement ds := by
  induction cs generalizing skip with
  | nil =>
    have hfirst : pattern.isPrefixOf (c :: ds) = false := by
      rw [← List.nil_append (c :: ds), isPrefixOf_append_cons hc]
      cases pattern with
      | nil => exact absurd rfl hne
      | cons _ _ => rfl
    rw [Nat.le_zero.mp hskip, List.nil_append, replaceFrom_zero, hfirst]
    rfl
  | cons d cs ih =>
    cases skip with
    | succ skip => exact ih (Nat.le_of_succ_le_succ hskip)
    | zero =>
      rw [List.cons_append, replaceFrom_zero, replaceFrom_zero, ← List.cons_append,
        isPrefixOf_append_cons hc]
      split
      · next h =>
        have hlength := (List.isPrefixOf_iff_prefix.mp h).length_le
        rw [List.length_cons] at hlength
        rw [ih (by omega), List.append_assoc]
      · rw [ih (Nat.zero_le _)]
        rfl

/-- Between the places of a character that the pattern does not have, each stretch is replaced by
itself. -/
theorem replaceAll_append_cons (hne : pattern ≠ []) (hc : c ∉ pattern) (cs ds : List Char) :
    replaceAll pattern replacement (cs ++ c :: ds) =
      replaceAll pattern replacement cs ++ c :: replaceAll pattern replacement ds :=
  replaceFrom_append_cons hne hc (Nat.zero_le _)

theorem replaceAll_of_absent (cs : List Char) (h : ¬ pattern <:+: cs) :
    replaceAll pattern replacement cs = cs := by
  induction cs with
  | nil => rfl
  | cons c cs ih =>
    have hfirst : ¬ pattern.isPrefixOf (c :: cs) = true :=
      fun hprefix => h (List.isPrefixOf_iff_prefix.mp hprefix).isInfix
    have hrest : replaceAll pattern replacement cs = cs :=
      ih fun hinside => h (hinside.trans (List.suffix_cons c cs).isInfix)
    rw [replaceAll, replaceFrom_zero, if_neg hfirst]
    exact congrArg (c :: ·) hrest

theorem replaceFrom_length (cs : List Char) :
    replaceFrom pattern replacement cs.length cs = [] := by
  induction cs with
  | nil => rfl
  | cons c cs ih => exact ih

theorem replaceAll_self (hne : pattern ≠ []) : replaceAll pattern replacement pattern = replacement := by
  cases pattern with
  | nil => exact absurd rfl hne
  | cons c cs =>
    have hself : (c :: cs).isPrefixOf (c :: cs) = true :=
      List.isPrefixOf_iff_prefix.mpr List.prefix_rfl
    rw [replaceAll, replaceFrom_zero, if_pos hself, List.length_cons, Nat.add_sub_cancel,
      replaceFrom_length, List.append_nil]

theorem replaceAll_path (hne : pattern ≠ []) (hslash : '/' ∉ pattern) (parts : List (List Char)) :
    replaceAll pattern replacement (parts.flatMap ('/' :: ·)) =
      parts.flatMap fun part => '/' :: replaceAll pattern replacement part := by
  have hfirst : ∀ ds, replaceAll pattern replacement ('/' :: ds) =
      '/' :: replaceAll pattern replacement ds :=
    replaceAll_append_cons hne hslash []
  induction parts with
  | nil => rfl
  | cons part parts ih =>
    rw [List.flatMap_cons, List.flatMap_cons, ← ih, List.cons_append, hfirst, List.cons_append]
    cases parts with
    | nil => simp [replaceAll, replaceFrom]
    | cons next parts =>
      rw [List.flatMap_cons, List.cons_append, replaceAll_append_cons hne hslash, hfirst]

theorem webhookAddress_eq (root template token : String) (rest : List (List Char)) {id : String}
    (hid : ¬ "$INTERACTION_TOKEN".toList <:+: id.toList)
    (htemplate : template.toList = ("webhooks".toList :: "$APPLICATION_ID".toList ::
      "$INTERACTION_TOKEN".toList :: rest).flatMap ('/' :: ·))
    (hrest : ∀ part ∈ rest, ¬ "$APPLICATION_ID".toList <:+: part ∧
      ¬ "$INTERACTION_TOKEN".toList <:+: part) :
    webhookAddress root id template token = String.ofList (dropEndSlashes root.toList ++
      ("webhooks".toList :: id.toList :: token.toList :: rest).flatMap ('/' :: ·)) := by
  have hfirst : rest.flatMap (fun part =>
      '/' :: replaceAll "$APPLICATION_ID".toList id.toList part) = rest.flatMap ('/' :: ·) :=
    List.flatMap_congr fun part hpart =>
      congrArg ('/' :: ·) (replaceAll_of_absent part (hrest part hpart).1)
  have hsecond : rest.flatMap (fun part =>
      '/' :: replaceAll "$INTERACTION_TOKEN".toList token.toList part) = rest.flatMap ('/' :: ·) :=
    List.flatMap_congr fun part hpart =>
      congrArg ('/' :: ·) (replaceAll_of_absent part (hrest part hpart).2)
  have hids : replaceAll "$APPLICATION_ID".toList id.toList template.toList =
      ("webhooks".toList :: id.toList :: "$INTERACTION_TOKEN".toList :: rest).flatMap
        ('/' :: ·) := by
    rw [htemplate, replaceAll_path (by decide) (by decide)]
    simp only [List.flatMap_cons, hfirst]
    rw [replaceAll_of_absent "webhooks".toList (by decide), replaceAll_self (by decide),
      replaceAll_of_absent "$INTERACTION_TOKEN".toList (by decide)]
  rw [webhookAddress, hids, replaceAll_path (by decide) (by decide)]
  simp only [List.flatMap_cons, hsecond]
  rw [replaceAll_of_absent "webhooks".toList (by decide), replaceAll_of_absent id.toList hid,
    replaceAll_self (by decide)]

theorem eq_dropEndSlashes_append (cs : List Char) :
    ∃ n, cs = dropEndSlashes cs ++ List.replicate n '/' := by
  have hslash : ∀ c ∈ (cs.reverse.takeWhile (· == '/')).reverse, c = '/' := by
    intro c hc
    have h := List.mem_takeWhile_imp (List.mem_reverse.mp hc)
    exact beq_iff_eq.mp h
  refine ⟨(cs.reverse.takeWhile (· == '/')).reverse.length, ?_⟩
  rw [← List.eq_replicate_of_mem hslash, dropEndSlashes, ← List.reverse_append,
    List.takeWhile_append_dropWhile, List.reverse_reverse]

theorem getLast?_dropEndSlashes (cs : List Char) : (dropEndSlashes cs).getLast? ≠ some '/' := by
  rw [dropEndSlashes, List.getLast?_reverse]
  intro h
  have hhead := List.head?_dropWhile_not (· == '/') cs.reverse
  rw [h] at hhead
  cases hhead

theorem dropEndSlashes_append (cs : List Char) (n : Nat) :
    dropEndSlashes (cs ++ List.replicate n '/') = dropEndSlashes cs := by
  have hslash : ∀ c ∈ List.replicate n '/', (c == '/') = true := by
    intro c hc
    rw [List.eq_of_mem_replicate hc]
    rfl
  rw [dropEndSlashes, List.reverse_append, List.reverse_replicate,
    List.dropWhile_append_of_pos hslash, dropEndSlashes]

theorem dropEndSlashes_of_getLast? {cs : List Char} (h : cs.getLast? ≠ some '/') :
    dropEndSlashes cs = cs := by
  refine List.rdropWhile_eq_self_iff.mpr fun hne hlast => h ?_
  rw [List.getLast?_eq_some_getLast hne, beq_iff_eq.mp hlast]

section

variable {c : Configuration} {root : String}

theorem placeholderAddress_eq (hid : ¬ "$INTERACTION_TOKEN".toList <:+: c.applicationId.toList)
    (hroot : dropEndSlashes c.discordRootEndpoint.toList = root.toList) (token : String) :
    placeholderAddress c token =
      root ++ "/webhooks/" ++ c.applicationId ++ "/" ++ token ++ "/messages/@original" := by
  have h := webhookAddress_eq c.discordRootEndpoint placeholderTemplate token
    ["messages".toList, "@original".toList] hid (by decide) (by decide)
  rw [placeholderAddress, h, hroot, ← String.toList_inj]
  simp

theorem followupAddress_eq (hid : ¬ "$INTERACTION_TOKEN".toList <:+: c.applicationId.toList)
    (hroot : dropEndSlashes c.discordRootEndpoint.toList = root.toList) (token : String) :
    followupAddress c token = root ++ "/webhooks/" ++ c.applicationId ++ "/" ++ token := by
  have h := webhookAddress_eq c.discordRootEndpoint followupTemplate token [] hid (by decide) nofun
  rw [followupAddress, h, hroot, ← String.toList_inj]
  simp

end

/-- The addresses of an interaction's messages are the root without its slashes at the end, and the
application and the token put in as they are, whatever the root and the token. -/
theorem requests_follow_template (c : Configuration) :
    (¬ "$INTERACTION_TOKEN".toList <:+: c.applicationId.toList →
      ∃ root n, c.discordRootEndpoint = root ++ String.ofList (List.replicate n '/') ∧
        root.toList.getLast? ≠ some '/' ∧
        ∀ token,
          placeholderAddress c token =
            root ++ "/webhooks/" ++ c.applicationId ++ "/" ++ token ++ "/messages/@original" ∧
          followupAddress c token = root ++ "/webhooks/" ++ c.applicationId ++ "/" ++ token ∧
          (∀ content, editRequest c token content = request? "PATCH"
            (root ++ "/webhooks/" ++ c.applicationId ++ "/" ++ token ++ "/messages/@original") []
            (some ((wrapped "content").encode content))) ∧
          deleteRequest c token = request? "DELETE"
            (root ++ "/webhooks/" ++ c.applicationId ++ "/" ++ token ++ "/messages/@original") []
            none ∧
          ∀ p, createRequest c token p = request? "POST"
            (root ++ "/webhooks/" ++ c.applicationId ++ "/" ++ token) []
            (some (Message.codec.encode p))) ∧
    ∀ root m n token,
      let one := { c with discordRootEndpoint := root ++ String.ofList (List.replicate m '/') }
      let other := { c with discordRootEndpoint := root ++ String.ofList (List.replicate n '/') }
      placeholderAddress one token = placeholderAddress other token ∧
        followupAddress one token = followupAddress other token := by
  constructor
  · intro hid
    obtain ⟨n, hn⟩ := eq_dropEndSlashes_append c.discordRootEndpoint.toList
    have hroot : dropEndSlashes c.discordRootEndpoint.toList =
        (String.ofList (dropEndSlashes c.discordRootEndpoint.toList)).toList :=
      String.toList_ofList.symm
    refine ⟨String.ofList (dropEndSlashes c.discordRootEndpoint.toList), n, ?_, ?_, fun token => ?_⟩
    · rw [← String.ofList_append, ← hn, String.ofList_toList]
    · rw [String.toList_ofList]
      exact getLast?_dropEndSlashes _
    · have hplaceholder := placeholderAddress_eq hid hroot token
      have hfollowup := followupAddress_eq hid hroot token
      refine ⟨hplaceholder, hfollowup, fun content => ?_, ?_, fun p => ?_⟩
      · rw [editRequest, hplaceholder]
      · rw [deleteRequest, hplaceholder]
      · rw [createRequest, post, hfollowup]
  · intro root m n token
    have hroot : dropEndSlashes (root ++ String.ofList (List.replicate m '/')).toList =
        dropEndSlashes (root ++ String.ofList (List.replicate n '/')).toList := by
      rw [String.toList_append, String.toList_append, String.toList_ofList, String.toList_ofList,
        dropEndSlashes_append, dropEndSlashes_append]
    constructor
    · simp only [placeholderAddress, webhookAddress, hroot]
    · simp only [followupAddress, webhookAddress, hroot]

/-- A root that is no absolute address, and placeholders in the application and in the token. -/
theorem requests_follow_template_placeholders :
    let c := { Configuration.default with discordRootEndpoint := "h/api//"
                                          applicationId := "$APPLICATION_ID" }
    ¬ "$INTERACTION_TOKEN".toList <:+: c.applicationId.toList ∧
      placeholderAddress c "$INTERACTION_TOKEN$APPLICATION_ID" =
        "h/api/webhooks/$APPLICATION_ID/$INTERACTION_TOKEN$APPLICATION_ID/messages/@original" ∧
      followupAddress c "" = "h/api/webhooks/$APPLICATION_ID/" := by
  intro c
  have hid : ¬ "$INTERACTION_TOKEN".toList <:+: c.applicationId.toList := by
    decide
  obtain ⟨root, n, hroot, hlast, h⟩ := (requests_follow_template c).1 hid
  have hslashes : c.discordRootEndpoint.toList = root.toList ++ List.replicate n '/' := by
    rw [hroot, String.toList_append, String.toList_ofList]
  obtain rfl : root = "h/api" := by
    rw [← String.toList_inj, ← dropEndSlashes_of_getLast? hlast, ← dropEndSlashes_append _ n,
      ← hslashes]
    decide
  exact ⟨hid, (h _).1.trans (by decide), (h "").2.1⟩

end DiceBot.Web
