namespace DiceBot.Web

/-- Puts `replacement` for every occurrence of a non-empty pattern, from the left; what has been
put in is not looked at again. `skip` characters belong to an occurrence that has been replaced. -/
def replaceFrom (pattern replacement : List Char) (skip : Nat) : List Char → List Char
  | [] => []
  | c :: cs =>
    match skip with
    | skip + 1 => replaceFrom pattern replacement skip cs
    | 0 =>
      if pattern.isPrefixOf (c :: cs) then
        replacement ++ replaceFrom pattern replacement (pattern.length - 1) cs
      else c :: replaceFrom pattern replacement 0 cs

def replaceAll (pattern replacement : List Char) (cs : List Char) : List Char :=
  replaceFrom pattern replacement 0 cs

def followupTemplate : String :=
  "/webhooks/$APPLICATION_ID/$INTERACTION_TOKEN"

def placeholderTemplate : String :=
  "/webhooks/$APPLICATION_ID/$INTERACTION_TOKEN/messages/@original"

def dropEndSlashes (cs : List Char) : List Char :=
  (cs.reverse.dropWhile (· == '/')).reverse

def webhookAddress (root applicationId template token : String) : String :=
  let path := replaceAll "$INTERACTION_TOKEN".toList token.toList
    (replaceAll "$APPLICATION_ID".toList applicationId.toList template.toList)
  String.ofList (dropEndSlashes root.toList ++ path)

end DiceBot.Web
