import DiceBot.Http.Session
import DiceBot.Proofs.Service

namespace DiceBot.Http

variable {c : Configuration} {a : Answers} {r : Request}

def Response.forMethod (response : Response) (method : String) : Response :=
  { response with
    allow := if method = "POST" then response.allow else some "POST"
    body := if method = "HEAD" then [] else response.body }

theorem Response.forMethod_post (response : Response) : response.forMethod "POST" = response :=
  rfl

theorem Answer.response_forMethod {m : Type → Type} (method : String) (answered : Answer m) :
    (answered.forMethod method).response = answered.response.forMethod method := by
  rw [Answer.forMethod, Response.forMethod]
  by_cases hpost : method = "POST"
  · subst hpost
    rfl
  by_cases hhead : method = "HEAD"
  · subst hhead
    rfl
  · simp only [if_neg hpost, if_neg hhead]

theorem exchange_of_respond {x : Recorded (Answer Recorded)} {answered : Answer Recorded}
    {calls later : List Call} (hx : respond c a.recorded r = Answer.forMethod r.method <$> x)
    (hanswered : Leaves x answered calls) (hlater : Leaves answered.afterwards () later) :
    exchange c a r = (answered.response.forMethod r.method, calls ++ later) := by
  have hserve : Leaves (serve c a.recorded r) (answered.response.forMethod r.method)
      (calls ++ (later ++ [])) := by
    rw [serve, hx, ← Answer.response_forMethod]
    exact (hanswered.map _).bind (hlater.bind (leaves_pure _))
  rw [exchange, hserve, List.append_nil, List.nil_append]

theorem exchange_of_answerInteraction {response : Response} {calls : List Call}
    (hpath : r.path = interactionPath.toList)
    (h : Leaves (answerInteraction c.applicationPublicKey a.recorded r) (answer response) calls) :
    exchange c a r = (response.forMethod r.method, calls) := by
  have hx : respond c a.recorded r =
      Answer.forMethod r.method <$> answerInteraction c.applicationPublicKey a.recorded r := by
    rw [respond, if_pos hpath]
  rw [exchange_of_respond hx h (leaves_pure ()), List.append_nil]
  rfl

theorem exchange_of_answerCommand {answered : Answer Recorded} {calls : List Call}
    (hpath : r.path = commandPath.toList)
    (h : answerCommand c.invocationSecret a.recorded r = pure answered)
    (hlater : Leaves answered.afterwards () calls) :
    exchange c a r = (answered.response.forMethod r.method, calls) := by
  have hroute : r.path ≠ interactionPath.toList := by
    rw [hpath]
    decide
  have hx : respond c a.recorded r = Answer.forMethod r.method <$> pure answered := by
    rw [respond, if_neg hroute, if_pos hpath, h]
  rw [exchange_of_respond hx (leaves_pure _) hlater, List.nil_append]

theorem exchange_of_no_route (hinteraction : r.path ≠ interactionPath.toList)
    (hcommand : r.path ≠ commandPath.toList) : exchange c a r = (.ofStatus 404, []) := by
  rw [exchange, serve, respond, if_neg hinteraction, if_neg hcommand]
  rfl

end DiceBot.Http
