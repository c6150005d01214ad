import DiceBot.Proofs.Web.Client
import DiceBot.Proofs.Web.Folder
import DiceBot.Proofs.Web.Webhook

namespace DiceBot.Web

open Text

theorem map_address_request? (method url : String) (body : Option Bytes) :
    (request? method url [] body).map Request.address =
      (Address.parse? url).bind fun a => Option.guard Address.isSendable a.withoutCredentials := by
  rw [request?]
  cases Address.parse? url with
  | none => rfl
  | some a =>
    rw [Option.bind_some, Option.guard]
    cases h : a.withoutCredentials.isSendable with
    | false => simp [h]
    | true => simp [h]

def IsSentTo (r : Option Request) (folder : Address) (target : List Char) : Prop :=
  ∃ path, { folder.withoutCredentials with path }.target = target ∧
    r.map Request.address =
      Option.guard Address.isSendable { folder.withoutCredentials with path }

theorem IsSentTo.target_eq {r : Option Request} {folder : Address} {target : List Char}
    (h : IsSentTo r folder target) {sent : Request} (hsent : r = some sent) :
    sent.address.target = target := by
  obtain ⟨path, htarget, haddress⟩ := h
  rw [hsent, Option.map_some, eq_comm, Option.guard_eq_some_iff] at haddress
  rw [← haddress.1, htarget]

def webhookPath (id rest : List Char) : List Char :=
  "webhooks".toList ++ '/' :: (id ++ '/' :: rest)

-- Rewriting with the definition itself makes Lean spell out the characters of the name.
theorem webhookPath_eq (id rest : List Char) :
    webhookPath id rest = "webhooks".toList ++ '/' :: (id ++ '/' :: rest) :=
  rfl

theorem webhookPath_inj {id rest rest' : List Char}
    (h : webhookPath id rest = webhookPath id rest') : rest = rest' := by
  rw [webhookPath_eq, webhookPath_eq] at h
  have hid := (List.cons.inj (List.append_cancel_left h)).2
  exact (List.cons.inj (List.append_cancel_left hid)).2

theorem percentEncode_webhookPath (id rest : List Char) :
    percentEncode isPathEncoded (webhookPath id rest) =
      webhookPath (percentEncode isPathEncoded id) (percentEncode isPathEncoded rest) := by
  have hname : percentEncode isPathEncoded "webhooks".toList = "webhooks".toList := by
    decide
  rw [webhookPath_eq, percentEncode_append, hname, percentEncode_cons, percentEncode_append,
    percentEncode_cons _ '/' rest]
  rfl

theorem isPlain_webhookPath {id rest : List Char} (hid : Address.IsPlain id)
    (hrest : Address.IsPlain rest) : Address.IsPlain (webhookPath id rest) :=
  Address.IsPlain.append_slash (by decide) (hid.append_slash hrest)

theorem getLast?_webhookPath (id rest : List Char) :
    (webhookPath id rest).getLast? = rest.getLast?.or (some '/') := by
  rw [webhookPath_eq, List.getLast?_append, List.getLast?_cons, List.getLast?_append,
    List.getLast?_cons]
  cases rest.getLast? with
  | none => rfl
  | some d => rfl

theorem getLast?_messages (cs : List Char) :
    (cs ++ '/' :: "messages/@original".toList).getLast? = some 'l' := by
  rw [List.getLast?_append]
  rfl

theorem isTrimmed_getLast?_messages (cs : List Char) :
    ∀ d ∈ (cs ++ '/' :: "messages/@original".toList).getLast?, Address.isTrimmed d = false := by
  rw [getLast?_messages]
  rintro d ⟨⟩
  rfl

section

variable {c : Configuration} (hname : ¬ "$INTERACTION_TOKEN".toList <:+: c.applicationId.toList)

include hname

theorem placeholderAddress_eq_webhookPath (token : String) :
    placeholderAddress c token = String.ofList (dropEndSlashes c.discordRootEndpoint.toList ++
      '/' :: webhookPath c.applicationId.toList (token.toList ++
        '/' :: "messages/@original".toList)) := by
  rw [placeholderAddress_eq hname String.toList_ofList.symm, ← String.toList_inj, webhookPath_eq]
  simp

theorem followupAddress_eq_webhookPath (token : String) :
    followupAddress c token = String.ofList (dropEndSlashes c.discordRootEndpoint.toList ++
      '/' :: webhookPath c.applicationId.toList token.toList) := by
  rw [followupAddress_eq hname String.toList_ofList.symm, ← String.toList_inj, webhookPath_eq]
  simp

end

section

variable {root id rest : List Char} {folder : Address}

theorem isTrimmed_getLast?_webhookPath (id : List Char)
    (hlast : ∀ d ∈ rest.getLast?, Address.isTrimmed d = false) :
    ∀ d ∈ (webhookPath id rest).getLast?, Address.isTrimmed d = false := by
  rw [getLast?_webhookPath]
  cases h : rest.getLast? with
  | none =>
    rintro d ⟨⟩
    rfl
  | some d =>
    rw [h] at hlast
    exact hlast

theorem isSentTo_of_isPlain (hfolder : Address.IsFolder root folder) (hid : Address.IsPlain id)
    (hrest : Address.IsPlain rest) (hlast : ∀ d ∈ rest.getLast?, Address.isTrimmed d = false)
    (method : String) (body : Option Bytes) :
    IsSentTo (request? method (String.ofList (root ++ '/' :: webhookPath id rest)) [] body) folder
      (folder.target ++
        webhookPath (percentEncode isPathEncoded id) (percentEncode isPathEncoded rest)) := by
  have hplain := isPlain_webhookPath hid hrest
  have hend := Address.cleanEnd_of_getLast? (isTrimmed_getLast?_webhookPath id hlast)
  have hwithin := hplain.within hfolder
  have htarget := hplain.target_within hfolder
  rw [hwithin, ← Address.target_withoutCredentials, Address.withoutCredentials_of_path,
    percentEncode_webhookPath] at htarget
  refine ⟨_, htarget, ?_⟩
  rw [map_address_request?, hfolder.parse?_append.2, hend, hplain.filter_isKept, hwithin,
    Option.bind_some, Address.withoutCredentials_of_path]

end

section

variable {c : Configuration} {folder : Address}
  (hfolder : Address.IsFolder (dropEndSlashes c.discordRootEndpoint.toList) folder)
  (hname : ¬ "$INTERACTION_TOKEN".toList <:+: c.applicationId.toList)

include hfolder hname

theorem target_editRequest {token content : String} {sent : Request}
    (hsent : editRequest c token content = some sent) :
    sent.address.target = (folder.within ((webhookPath c.applicationId.toList (token.toList ++
      '/' :: "messages/@original".toList)).filter Address.isKept)).target := by
  -- The path ends with the name of the message, so nothing of the token is trimmed.
  have hend := Address.cleanEnd_of_getLast? (isTrimmed_getLast?_webhookPath
    c.applicationId.toList (isTrimmed_getLast?_messages token.toList))
  have hparse := hfolder.parse?_append.2
    (webhookPath c.applicationId.toList (token.toList ++ '/' :: "messages/@original".toList))
  rw [← placeholderAddress_eq_webhookPath hname, hend] at hparse
  obtain ⟨address, haddress, -, -, rfl⟩ := request?_eq_some_iff.mp hsent
  cases hparse.symm.trans haddress
  exact Address.target_withoutCredentials _

/-- What stands behind a number sign in a token is not asked for. -/
theorem target_editRequest_of_mark {token rest rest' content content' : String}
    {sent sent' : Request} (hsent : editRequest c (token ++ "#" ++ rest) content = some sent)
    (hsent' : editRequest c (token ++ "#" ++ rest') content' = some sent') :
    sent.address.target = sent'.address.target := by
  have hcut (rest : String) : (webhookPath c.applicationId.toList ((token ++ "#" ++ rest).toList ++
      '/' :: "messages/@original".toList)).filter Address.isKept =
      (webhookPath c.applicationId.toList token.toList).filter Address.isKept ++
        '#' :: (rest.toList ++ '/' :: "messages/@original".toList).filter Address.isKept := by
    rw [← List.filter_cons_of_pos (a := '#') (by decide), ← List.filter_append, webhookPath_eq,
      webhookPath_eq]
    simp
  rw [target_editRequest hfolder hname hsent, target_editRequest hfolder hname hsent', hcut, hcut]
  exact Address.target_within_of_mark _ _ _ _

variable (hid : Address.IsPlain c.applicationId.toList) {token : String}
  (htoken : Address.IsPlain token.toList)

include hid htoken

theorem isSentTo_placeholderAddress (method : String) (body : Option Bytes) :
    IsSentTo (request? method (placeholderAddress c token) [] body) folder
      (folder.target ++ webhookPath (percentEncode isPathEncoded c.applicationId.toList)
        (percentEncode isPathEncoded token.toList ++ '/' :: "messages/@original".toList)) := by
  have hmessages : percentEncode isPathEncoded ('/' :: "messages/@original".toList) =
      '/' :: "messages/@original".toList := by
    decide
  have hrest : Address.IsPlain (token.toList ++ '/' :: "messages/@original".toList) :=
    htoken.append_slash (by decide)
  have hsent := isSentTo_of_isPlain hfolder hid hrest (isTrimmed_getLast?_messages token.toList)
    method body
  rwa [← placeholderAddress_eq_webhookPath hname, percentEncode_append, hmessages] at hsent

theorem isSentTo_followupAddress
    (hlast : ∀ d ∈ token.toList.getLast?, Address.isTrimmed d = false) (method : String)
    (body : Option Bytes) :
    IsSentTo (request? method (followupAddress c token) [] body) folder
      (folder.target ++ webhookPath (percentEncode isPathEncoded c.applicationId.toList)
        (percentEncode isPathEncoded token.toList)) := by
  have hsent := isSentTo_of_isPlain hfolder hid htoken hlast method body
  rwa [← followupAddress_eq_webhookPath hname] at hsent

theorem target_editRequest_inj {other content content' : String} {sent sent' : Request}
    (hother : Address.IsPlain other.toList) (hpercent : '%' ∉ token.toList)
    (hpercent' : '%' ∉ other.toList) (hsent : editRequest c token content = some sent)
    (hsent' : editRequest c other content' = some sent')
    (h : sent.address.target = sent'.address.target) : token = other := by
  have htarget := (isSentTo_placeholderAddress hfolder hname hid htoken _ _).target_eq hsent
  have htarget' := (isSentTo_placeholderAddress hfolder hname hid hother _ _).target_eq hsent'
  rw [htarget, htarget'] at h
  have hencoded := List.append_cancel_right (webhookPath_inj (List.append_cancel_left h))
  exact String.toList_inj.mp (eq_of_percentEncode_eq hpercent hpercent' hencoded)

end

/-- A token is read as a part of a path under the root. Where it stands for itself there, the requests
of an interaction go below the application's path, and two interactions never meet. Behind a number
sign a token can be anything. -/
theorem requests_keep_token {c : Configuration} {folder : Address}
    (hfolder : Address.IsFolder (dropEndSlashes c.discordRootEndpoint.toList) folder)
    (hid : Address.IsPlain c.applicationId.toList)
    (hname : ¬ "$INTERACTION_TOKEN".toList <:+: c.applicationId.toList) :
    let path (rest : List Char) :=
      folder.target ++ webhookPath (percentEncode isPathEncoded c.applicationId.toList) rest
    (∀ token content sent, editRequest c token content = some sent →
      sent.address.target = (folder.within ((webhookPath c.applicationId.toList (token.toList ++
        '/' :: "messages/@original".toList)).filter Address.isKept)).target) ∧
    (∀ token : String, Address.IsPlain token.toList →
      let encoded := percentEncode isPathEncoded token.toList
      (∀ content, IsSentTo (editRequest c token content) folder
        (path (encoded ++ '/' :: "messages/@original".toList))) ∧
      IsSentTo (deleteRequest c token) folder
        (path (encoded ++ '/' :: "messages/@original".toList)) ∧
      ((∀ d ∈ token.toList.getLast?, Address.isTrimmed d = false) →
        ∀ p, IsSentTo (createRequest c token p) folder (path encoded))) ∧
    (∀ token other content content' sent sent',
      Address.IsPlain token.toList → Address.IsPlain other.toList →
      '%' ∉ token.toList → '%' ∉ other.toList →
      editRequest c token content = some sent → editRequest c other content' = some sent' →
      token ≠ other → sent.address.target ≠ sent'.address.target) ∧
    ∀ token rest rest' content content' sent sent',
      editRequest c (token ++ "#" ++ rest) content = some sent →
      editRequest c (token ++ "#" ++ rest') content' = some sent' →
      sent.address.target = sent'.address.target := by
  refine ⟨fun token content sent hsent => target_editRequest hfolder hname hsent,
    fun token htoken => ⟨fun content => ?_, ?_, fun hlast p => ?_⟩, ?_, ?_⟩
  · exact isSentTo_placeholderAddress hfolder hname hid htoken _ _
  · exact isSentTo_placeholderAddress hfolder hname hid htoken _ _
  · exact isSentTo_followupAddress hfolder hname hid htoken hlast _ _
  · intro token other content content' sent sent' htoken hother hpercent hpercent' hsent hsent' hne h
    exact hne (target_editRequest_inj hfolder hname hid htoken hother hpercent hpercent' hsent
      hsent' h)
  · intro token rest rest' content content' sent sent' hsent hsent'
    exact target_editRequest_of_mark hfolder hname hsent hsent'

theorem requests_keep_token_encoded :
    let c := { Configuration.default with discordRootEndpoint := "http://[::1]/api/"
                                          applicationId := "1234" }
    ∃ folder sent, Address.IsFolder (dropEndSlashes c.discordRootEndpoint.toList) folder ∧
      Address.IsPlain c.applicationId.toList ∧
      ¬ "$INTERACTION_TOKEN".toList <:+: c.applicationId.toList ∧
      Address.IsPlain "tök en".toList ∧ editRequest c "tök en" "hi" = some sent ∧
      sent.address.target = "/api/webhooks/1234/t%C3%B6k%20en/messages/@original".toList := by
  intro c
  have hfolder : Address.IsFolder (dropEndSlashes c.discordRootEndpoint.toList)
      ⟨false, [], [], .ipv6 [0, 0, 0, 0, 0, 0, 0, 1], none, ["api".toList, []], none, none⟩ :=
    ⟨by decide +kernel, rfl, rfl⟩
  have hsome : (editRequest c "tök en" "hi").isSome = true := by
    decide +kernel
  obtain ⟨sent, hsent⟩ := Option.isSome_iff_exists.mp hsome
  have hid : Address.IsPlain c.applicationId.toList := by
    decide
  have hname : ¬ "$INTERACTION_TOKEN".toList <:+: c.applicationId.toList := by
    decide
  have htoken : Address.IsPlain "tök en".toList := by
    decide
  have h := ((requests_keep_token hfolder hid hname).2.1 "tök en" htoken).1 "hi"
  exact ⟨_, sent, hfolder, hid, hname, htoken, hsent, (h.target_eq hsent).trans (by decide)⟩

/-- Two tokens with one target, and one that leads to the path of another application. -/
theorem editRequest_loses_token :
    let c := { Configuration.default with discordRootEndpoint := "http://[::1]/api/"
                                          applicationId := "1234" }
    let target (token : String) := (editRequest c token "hi").map fun sent => sent.address.target
    (∃ folder, Address.IsFolder (dropEndSlashes c.discordRootEndpoint.toList) folder ∧
      folder.target = "/api/".toList) ∧ "a#b" ≠ "a#c" ∧
      target "a#b" = some "/api/webhooks/1234/a".toList ∧ target "a#c" = target "a#b" ∧
      target "../7/tok" = some "/api/webhooks/7/tok/messages/@original".toList := by
  refine ⟨⟨⟨false, [], [], .ipv6 [0, 0, 0, 0, 0, 0, 0, 1], none, ["api".toList, []], none, none⟩,
    ⟨by decide +kernel, rfl, rfl⟩, by decide⟩, ?_⟩
  decide +kernel

end DiceBot.Web
