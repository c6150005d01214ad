import DiceBot.Proofs.Http.SecretGate
import DiceBot.Proofs.Interaction.Wire
import DiceBot.Proofs.Web.Client

namespace DiceBot

open Text

/-- A request comes in on the command route as it was sent. Other headers may have joined those
that were sent, but none stands before one of its own name. -/
structure ArrivesAtCommandRoute (out : Web.Request) (r : Http.Request) : Prop where
  path : r.path = Http.commandPath.toList
  method : r.method = out.method
  body : some r.body = out.body
  fault : r.fault = none
  headers : ∀ h ∈ out.headers,
    r.headers.find? (fun k => Http.Request.lowerAscii k.1 == Http.Request.lowerAscii h.1) = some h

theorem Interaction.dispatch_of_command {body : Bytes} {i : Interaction} {data : CommandData}
    (hi : codec.decode? body = some i) (hkind : i.kind ≠ .ping) (hdata : i.data = some data)
    (a : Answers) (calls : List Call) :
    (dispatch a.recorded body).run.run calls =
      ((a.handOff ⟨i.kind, i.token, data⟩).mapError (fun failure => .handOff failure.message)
        |>.map fun _ => .deferred, calls ++ [.handOff ⟨i.kind, i.token, data⟩]) := by
  rw [dispatch_leaves, dispatched, handOffs, hi]
  simp only [if_neg hkind, hdata]
  cases a.handOff ⟨i.kind, i.token, data⟩ with
  | ok _ => rfl
  | error failure => rfl

theorem Http.admitCommand_of_arrives {secret : String} {v : Command} {out : Web.Request}
    {r : Request} (hsecret : secret ≠ "")
    (htext : ∀ b ∈ Utf8.ofString secret, Request.isTextByte b = true) (hv : v.kind.IsCanonical)
    (hr : ArrivesAtCommandRoute out r) (hmethod : out.method = "POST")
    (hbody : out.body = some (Command.codec.encode v))
    (hheader : (secretHeader, Utf8.ofString secret) ∈ out.headers)
    (hlimit : (Command.codec.encode v).length ≤ bodyLimit) :
    admitCommand secret r = .ok v := by
  have hbody' : r.body = Command.codec.encode v := Option.some.inj (hr.body.trans hbody)
  have hfirst := Request.firstHeader_iff.mpr ⟨_, hr.headers _ hheader⟩
  have hdecoded : Command.codec.decode? r.body = some v := by
    rw [hbody']
    exact Command.codec_lawful.decode?_encode hv
  have hauthorized : IsAuthorized secret r v :=
    ⟨hr.path, hr.method.trans hmethod, hbody' ▸ hlimit, hr.fault, hsecret, ⟨hfirst, htext⟩, hdecoded⟩
  exact hauthorized.admitCommand_eq

/-- A command is handed off as the interaction tells it and carried out as it was handed off. -/
theorem handOff_preserves_command {body : Bytes} {i : Interaction}
    {data : Interaction.CommandData} (hi : Interaction.codec.decode? body = some i)
    (hkind : i.kind ≠ .ping) (hdata : i.data = some data) :
    (∀ (a : Answers) calls, ((Interaction.dispatch a.recorded body).run.run calls).2 =
      calls ++ [.handOff ⟨i.kind, i.token, data⟩]) ∧
    Command.codec.decode? (Command.codec.encode ⟨i.kind, i.token, data⟩) =
      some ⟨i.kind, i.token, data⟩ ∧
    ∀ (sender receiver : Configuration) (id : String) (address : Web.Address),
      Web.Address.parse? sender.commandEndpoint = some address →
      address.withoutCredentials.isSendable = true →
      (∀ b ∈ Utf8.ofString id, Web.isHeaderByte b = true) →
      sender.invocationSecret = receiver.invocationSecret → receiver.invocationSecret ≠ "" →
      (∀ b ∈ Utf8.ofString receiver.invocationSecret, Http.Request.isTextByte b = true) →
      ∃ out, Web.handOffRequest sender id ⟨i.kind, i.token, data⟩ = some out ∧
        out.body = some (Command.codec.encode ⟨i.kind, i.token, data⟩) ∧
        ∀ r, ArrivesAtCommandRoute out r → r.body.length ≤ Http.bodyLimit →
          (∀ (m : Type → Type) [Monad m] [LawfulMonad m] (s : Services m),
            Http.serve receiver s r =
              (fun _ => .ofStatus 202) <$> (Command.execute s ⟨i.kind, i.token, data⟩).run) ∧
          ∀ a : Answers, Http.exchange receiver a r = (.ofStatus 202,
            ((Command.execute a.recorded ⟨i.kind, i.token, data⟩).run.run []).2) := by
  have hv : i.kind.IsCanonical := Interaction.codec_lawful.of_decode? hi
  refine ⟨fun a calls => congrArg Prod.snd (Interaction.dispatch_of_command hi hkind hdata a calls),
    Command.codec_lawful.decode?_encode hv, ?_⟩
  intro sender receiver id address haddress hsendable hid hsame hsecret htext
  obtain ⟨out, hout, hmethod, hbody, hheader⟩ := Web.handOffRequest_of_isSendable haddress hsendable
    (fun b hb => Web.isHeaderByte_of_isTextByte (htext b (hsame ▸ hb))) hid ⟨i.kind, i.token, data⟩
  refine ⟨out, hout, hbody, ?_⟩
  intro r hr hlimit
  rw [Option.some.inj (hr.body.trans hbody)] at hlimit
  have hadmit := Http.admitCommand_of_arrives hsecret htext hv hr hmethod hbody (hsame ▸ hheader)
    hlimit
  exact ⟨fun m _ _ s => Http.serve_of_admitCommand s hr.path hadmit,
    fun a => Http.exchange_of_admitCommand hr.path hadmit⟩

theorem handOff_preserves_roll :
    let body := Utf8.ofString
      "\x7b\"type\":2,\"token\":\"\\ud83c\\udfb2\\\"\",\"data\":\x7b\"name\":\"roll\"\x7d\x7d"
    let v : Command := ⟨.command, "🎲\"", ⟨none, "roll", []⟩⟩
    let c : Configuration :=
      ⟨"", "", "", "", "", "http://[::1]/api/discord/command", "s3cret", "", ""⟩
    let a : Answers := ⟨fun _ => .error .unreachable, .ok, fun _ => .ok (), fun _ _ => .ok (),
      fun _ => .ok (), fun _ _ => .ok ()⟩
    Interaction.codec.decode? body = some ⟨.command, "🎲\"", some v.data⟩ ∧
    ∃ out r, Web.handOffRequest c "1" v = some out ∧ ArrivesAtCommandRoute out r ∧
      Http.exchange c a r = (.ofStatus 202,
        [.delete "🎲\"", .create "🎲\"" Command.notationRejected]) := by
  intro body v c a
  have hi : Interaction.codec.decode? body = some ⟨.command, "🎲\"", some v.data⟩ := by
    decide +kernel
  let address : Web.Address := ⟨false, [], [], .ipv6 [0, 0, 0, 0, 0, 0, 0, 1], none,
    ["api".toList, "discord".toList, "command".toList], none, none⟩
  obtain ⟨-, -, h⟩ := handOff_preserves_command hi (by decide) rfl
  obtain ⟨out, hout, hbody, h⟩ := h c c "1" address (by decide +kernel) (by decide +kernel)
    (List.all_eq_true.mp (by decide)) rfl (by decide) (List.all_eq_true.mp (by decide))
  let headers := [("user-agent", Utf8.ofString Web.userAgent),
    ("content-type", Utf8.ofString "application/json"),
    ("x-invocation-secret", Utf8.ofString "s3cret"), ("x-invocation-id", Utf8.ofString "1")]
  have hsent : Web.handOffRequest c "1" v =
      some ⟨"POST", address, headers, some (Command.codec.encode v)⟩ := by
    decide +kernel
  cases hout.symm.trans hsent
  let r : Http.Request :=
    ⟨"POST", "/api/discord/command", headers, Command.codec.encode v, none⟩
  have harrives : ArrivesAtCommandRoute ⟨"POST", address, headers, some r.body⟩ r :=
    ⟨by decide, rfl, rfl, rfl, by decide⟩
  refine ⟨hi, _, r, hout, harrives, ?_⟩
  rw [(h r harrives (by decide +kernel)).2 a]
  rfl

end DiceBot
