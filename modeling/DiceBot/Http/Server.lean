import DiceBot.Command.Delivery
import DiceBot.Http.Message
import DiceBot.Interaction.Dispatch
import DiceBot.Settings.Configuration
import DiceBot.Signature.Check
import DiceBot.Text.Quoted

namespace DiceBot.Http

open Text

def signatureHeader : String :=
  "x-signature-ed25519"

def timestampHeader : String :=
  "x-signature-timestamp"

def secretHeader : String :=
  "x-invocation-secret"

def interactionPath : String :=
  "/api/discord/interaction"

def commandPath : String :=
  "/api/discord/command"

def bodyLimit : Nat :=
  2097152

def ofInteractionError : Interaction.Error → Response
  | .verification => .text 401 (Interaction.Error.verification).message
  | .validation _ => .ofStatus 400
  | .handOff _ => .ofStatus 500

def bodyRefused (status : Nat) (reason : String) : Response :=
  .text status ("Failed to buffer the request body: " ++ reason)

def tooLarge : Response :=
  bodyRefused 413 "length limit exceeded"

def bodyBroken (fault : String) : Response :=
  .text 500 ("Internal server error when collecting body bytes: Error \x7b inner: Error \x7b inner: " ++
    quoted fault ++ " \x7d \x7d")

/-- The body of a request to the interaction route, once everything that can refuse it has passed.
The signature is checked first, whatever the method, on a body of any length. -/
def admitInteraction (publicKey : String) (r : Request) : Except Response Bytes :=
  match r.headerText? signatureHeader, r.headerText? timestampHeader with
  | some signature, some timestamp =>
    match r.fault with
    | some fault => .error (bodyBroken fault)
    | none =>
      if !Signature.verify timestamp r.body signature publicKey then
        .error (ofInteractionError .verification)
      else if r.method ≠ "POST" then .error (.ofStatus 405)
      else if r.body.length > bodyLimit then .error tooLarge
      else .ok r.body
  | _, _ => .error (ofInteractionError .verification)

/-- Whether a secret is the expected one and not empty. All bytes are compared wherever the first
difference is. -/
def secretMatches (provided expected : String) : Bool :=
  let p := Utf8.ofString provided
  let e := Utf8.ofString expected
  if p.isEmpty || p.length != e.length then false
  else (p.zip e).foldl (fun difference (a, b) => difference ||| (a ^^^ b)) (0 : UInt8) == 0

def admitCommand (secret : String) (r : Request) : Except Response Command :=
  if r.method ≠ "POST" then .error (.ofStatus 405)
  else if r.body.length > bodyLimit then .error tooLarge
  else
    match r.fault with
    | some fault => .error (bodyRefused 400 fault)
    | none =>
      if !secretMatches ((r.headerText? secretHeader).getD "") secret then .error (.ofStatus 401)
      else
        match Command.codec.decode? r.body with
        | some c => .ok c
        | none => .error (ofInteractionError (.validation "not a command"))

structure Answer (m : Type → Type) where
  response : Response
  afterwards : m Unit

variable {m : Type → Type} [Monad m]

def answer (r : Response) : Answer m :=
  ⟨r, pure ()⟩

def answerInteraction (publicKey : String) (s : Services m) (r : Request) : m (Answer m) := do
  match admitInteraction publicKey r with
  | .error refusal => return answer refusal
  | .ok body =>
    match ← (Interaction.dispatch s body).run with
    | .ok reply => return answer (.json 200 (Reply.codec.encode reply))
    | .error e => return answer (ofInteractionError e)

/-- A command is acknowledged before it runs, and what becomes of it is not told. -/
def answerCommand (secret : String) (s : Services m) (r : Request) : m (Answer m) :=
  match admitCommand secret r with
  | .error refusal => pure (answer refusal)
  | .ok c => pure ⟨.ofStatus 202, (Command.execute s c).run *> pure ()⟩

/-- What holds of every response on a route: other methods than POST are told that it is the only
one, and a HEAD request gets no body. -/
def Answer.forMethod (method : String) (a : Answer m) : Answer m :=
  let allowed := if method = "POST" then a.response else { a.response with allow := some "POST" }
  { a with response := if method = "HEAD" then { allowed with body := [] } else allowed }

def respond (c : Configuration) (s : Services m) (r : Request) : m (Answer m) :=
  if r.path = interactionPath.toList then
    Answer.forMethod r.method <$> answerInteraction c.applicationPublicKey s r
  else if r.path = commandPath.toList then
    Answer.forMethod r.method <$> answerCommand c.invocationSecret s r
  else pure (answer (.ofStatus 404))

def serve (c : Configuration) (s : Services m) (r : Request) : m Response := do
  let a ← respond c s r
  a.afterwards
  return a.response

end DiceBot.Http
