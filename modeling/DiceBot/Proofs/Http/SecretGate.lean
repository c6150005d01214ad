import DiceBot.Proofs.Http.CommandRoute
import DiceBot.Proofs.Http.InteractionRoute
import DiceBot.Proofs.Http.Message
import DiceBot.Proofs.Http.SecretComparison
import DiceBot.Proofs.Http.Session

namespace DiceBot.Http

open Text

structure IsAuthorized (secret : String) (r : Request) (v : Command) : Prop where
  path : r.path = commandPath.toList
  method : r.method = "POST"
  length_le : r.body.length ≤ bodyLimit
  fault : r.fault = none
  secret_ne : secret ≠ ""
  hasSecret : r.HasText secretHeader secret
  decoded : Command.codec.decode? r.body = some v

/-- How a POST request on the command route is refused: every check before the one that fails has
passed. -/
inductive RefusesCommand (secret : String) (r : Request) : Response → Prop
  | length (h : bodyLimit < r.body.length) : RefusesCommand secret r tooLarge
  | stream {fault : String} (hl : r.body.length ≤ bodyLimit) (h : r.fault = some fault) :
      RefusesCommand secret r (bodyRefused 400 fault)
  | secret (hl : r.body.length ≤ bodyLimit) (hf : r.fault = none)
      (h : secret = "" ∨ ¬r.HasText secretHeader secret) : RefusesCommand secret r (.ofStatus 401)
  | payload (hl : r.body.length ≤ bodyLimit) (hf : r.fault = none) (hs : secret ≠ "")
      (ht : r.HasText secretHeader secret) (h : Command.codec.decode? r.body = none) :
      RefusesCommand secret r (.ofStatus 400)

variable {secret : String} {r : Request} {c : Configuration}

theorem secretMatches_headerText?_iff :
    secretMatches ((r.headerText? secretHeader).getD "") secret = true ↔
      secret ≠ "" ∧ r.HasText secretHeader secret := by
  rw [secretMatches_iff, ← Request.headerText?_eq_some_iff]
  cases r.headerText? secretHeader with
  | none =>
    simp only [Option.getD_none, reduceCtorEq, and_false, iff_false, not_and]
    exact fun hne h => hne h.symm
  | some s => simp

theorem RefusesCommand.admitCommand_eq {refusal : Response} (hmethod : r.method = "POST")
    (h : RefusesCommand secret r refusal) : admitCommand secret r = .error refusal := by
  rw [admitCommand, if_neg (not_not_intro hmethod)]
  cases h with
  | length h => rw [if_pos h]
  | stream hl h => rw [if_neg (Nat.not_lt.mpr hl), h]
  | secret hl hf h =>
    have hmatch : ¬secretMatches ((r.headerText? secretHeader).getD "") secret = true := by
      rw [secretMatches_headerText?_iff]
      rintro ⟨hs, ht⟩
      exact h.elim hs fun hlacks => hlacks ht
    rw [if_neg (Nat.not_lt.mpr hl), hf]
    simp only [hmatch]
    rfl
  | payload hl hf hs ht h =>
    rw [if_neg (Nat.not_lt.mpr hl), hf]
    simp only [secretMatches_headerText?_iff.mpr ⟨hs, ht⟩, h]
    rfl

theorem IsAuthorized.admitCommand_eq {v : Command} (h : IsAuthorized secret r v) :
    admitCommand secret r = .ok v := by
  rw [admitCommand, if_neg (not_not_intro h.method), if_neg (Nat.not_lt.mpr h.length_le), h.fault]
  simp only [secretMatches_headerText?_iff.mpr ⟨h.secret_ne, h.hasSecret⟩, h.decoded]
  rfl

theorem isAuthorized_or_refusesCommand (secret : String) (hpath : r.path = commandPath.toList)
    (hmethod : r.method = "POST") :
    (∃ v, IsAuthorized secret r v) ∨ ∃ refusal, RefusesCommand secret r refusal := by
  by_cases hl : bodyLimit < r.body.length
  · exact .inr ⟨_, .length hl⟩
  have hl := Nat.not_lt.mp hl
  cases hf : r.fault with
  | some fault => exact .inr ⟨_, .stream hl hf⟩
  | none =>
  by_cases hs : secret = ""
  · exact .inr ⟨_, .secret hl hf (.inl hs)⟩
  by_cases ht : r.HasText secretHeader secret
  · cases hv : Command.codec.decode? r.body with
    | none => exact .inr ⟨_, .payload hl hf hs ht hv⟩
    | some v => exact .inl ⟨v, hpath, hmethod, hl, hf, hs, ht, hv⟩
  · exact .inr ⟨_, .secret hl hf (.inr ht)⟩

theorem isAuthorized_of_admitCommand {v : Command} (hpath : r.path = commandPath.toList)
    (h : admitCommand secret r = .ok v) : IsAuthorized secret r v := by
  obtain ⟨w, hw⟩ | ⟨refusal, hrefusal⟩ :=
    isAuthorized_or_refusesCommand secret hpath (method_of_admitCommand h)
  · rw [hw.admitCommand_eq] at h
    cases h
    exact hw
  · rw [hrefusal.admitCommand_eq (method_of_admitCommand h)] at h
    cases h

structure SecretGate (c : Configuration) (a : Answers) (r : Request) (x : Exchange) : Prop where
  isAuthorized_of_call : ∀ call ∈ x.2, (∀ v, call ≠ .handOff v) →
    ∃ v, IsAuthorized c.invocationSecret r v
  refused : ∀ refusal, r.path = commandPath.toList → r.method = "POST" →
    RefusesCommand c.invocationSecret r refusal → x = (refusal, [])
  accepted : ∀ v, IsAuthorized c.invocationSecret r v → x.1 = .ofStatus 202 ∧
    ∃ result, Leaves (Command.execute a.recorded v).run result x.2
  decided : r.path = commandPath.toList → r.method = "POST" →
    (∃ v, IsAuthorized c.invocationSecret r v) ∨
      ∃ refusal, RefusesCommand c.invocationSecret r refusal
  response_eq : r.path = commandPath.toList → ∀ b, (exchange c b r).1 = x.1
  handOff_notMem : r.path = commandPath.toList → ∀ v, .handOff v ∉ x.2

theorem isAuthorized_of_mem_exchange {a : Answers} {call : Call} (h : call ∈ (exchange c a r).2)
    (hcall : ∀ v, call ≠ .handOff v) : ∃ v, IsAuthorized c.invocationSecret r v := by
  by_cases hpath : r.path = interactionPath.toList
  · cases hadmit : admitInteraction c.applicationPublicKey r with
    | error refusal =>
      rw [exchange_of_refusedInteraction hpath hadmit] at h
      cases h
    | ok body =>
      rw [exchange_of_admitInteraction hpath hadmit] at h
      obtain ⟨-, v, -, -, hv⟩ := Interaction.eq_handOff_of_mem_handOffs h
      exact absurd hv (hcall v)
  by_cases hcommand : r.path = commandPath.toList
  · cases hadmit : admitCommand c.invocationSecret r with
    | error refusal =>
      rw [exchange_of_refusedCommand hcommand hadmit] at h
      cases h
    | ok v => exact ⟨v, isAuthorized_of_admitCommand hcommand hadmit⟩
  · rw [exchange_of_no_route hpath hcommand] at h
    cases h

theorem response_exchange_eq (hpath : r.path = commandPath.toList) (a b : Answers) :
    (exchange c b r).1 = (exchange c a r).1 := by
  cases hadmit : admitCommand c.invocationSecret r with
  | error refusal =>
    rw [exchange_of_refusedCommand hpath hadmit, exchange_of_refusedCommand hpath hadmit]
  | ok v => rw [exchange_of_admitCommand hpath hadmit, exchange_of_admitCommand hpath hadmit]

theorem exchange_secretGate (c : Configuration) (a : Answers) (r : Request) :
    SecretGate c a r (exchange c a r) where
  isAuthorized_of_call _ := isAuthorized_of_mem_exchange
  refused refusal hpath hmethod h := by
    rw [exchange_of_refusedCommand hpath (h.admitCommand_eq hmethod), hmethod,
      Response.forMethod_post]
  accepted v h := by
    rw [exchange_of_admitCommand h.path h.admitCommand_eq, (Command.execute_leaves a v).calls_eq]
    exact ⟨rfl, _, Command.execute_leaves a v⟩
  decided := isAuthorized_or_refusesCommand c.invocationSecret
  response_eq hpath := response_exchange_eq hpath a
  handOff_notMem := handOff_notMem_of_commandPath

/-- In no run is anything done for a command that did not come with the secret. -/
theorem run_isGatedBySecret (c : Configuration) (a : Answers) (es : List Event) :
    Throughout (SecretGate c) a es (run c a es) :=
  throughout_run (exchange_secretGate c) a es

def authorizedRoll : Request where
  target := commandPath
  headers := [("X-Invocation-Secret", Utf8.ofString "s3cret"),
    ("x-invocation-secret", Utf8.ofString "guess")]
  body := Utf8.ofString "\x7b\"type\":2,\"token\":\"t\",\"data\":\x7b\"name\":\"Roll\"\x7d\x7d"

theorem run_isGatedBySecret_authorizedRoll :
    let c : Configuration := ⟨"", "", "", "", "", "", "s3cret", "", ""⟩
    let a : Answers := ⟨fun _ => .error .unreachable, .ok, fun _ => .ok (), fun _ _ => .ok (),
      fun _ => .ok (), fun _ _ => .error .unreachable⟩
    let es : List Event := [.request authorizedRoll,
      .request { authorizedRoll with headers := authorizedRoll.headers.reverse }]
    Throughout (SecretGate c) a es (run c a es) ∧
      run c a es = [some (.ofStatus 202, [.delete "t", .create "t" Command.unknownCommand]),
        some (.ofStatus 401, [])] := by
  intro c a es
  exact ⟨run_isGatedBySecret c a es, by decide +kernel⟩

end DiceBot.Http
