import DiceBot.Http.Server

namespace DiceBot.Http

inductive Event where
  | change (services : Answers)
  | request (r : Request)

abbrev Exchange :=
  Response × List Call

def exchange (c : Configuration) (a : Answers) (r : Request) : Exchange :=
  (serve c a.recorded r).run []

/-- A run of the server: an exchange for each request, none for a change. -/
def run (c : Configuration) : Answers → List Event → List (Option Exchange)
  | _, [] => []
  | _, .change a :: es => none :: run c a es
  | a, .request r :: es => some (exchange c a r) :: run c a es

end DiceBot.Http
