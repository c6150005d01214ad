import DiceBot.Web.Client

namespace DiceBot.Web

/-- A network with one server, which answers from a list and then knows nothing more. It may not
listen at all. -/
structure Network where
  isListening : Bool
  responses : List Response
  received : List Request := []

namespace Network

def isBodiless (status : Nat) : Bool :=
  status == 204 || status == 304

def exchange (r : Request) (n : Network) : Option Response × Network :=
  if n.isListening then
    let response := n.responses.headD ⟨404, []⟩
    (some (if isBodiless response.status then { response with body := [] } else response),
      { n with responses := n.responses.tail, received := r :: n.received })
  else (none, n)

def transport : Transport (StateM Network) :=
  fun r n => n.exchange r

end Network

end DiceBot.Web
