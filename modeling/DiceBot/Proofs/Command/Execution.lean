import DiceBot.Command.Delivery
import DiceBot.Proofs.Service

namespace DiceBot

theorem Message.isFlagged_eq_false_iff {p : Message} :
    p.isFlagged = false ↔ p.flags = none ∨ p.flags = some 0 := by
  rw [isFlagged]
  cases p.flags with
  | none => simp
  | some flags => simp

namespace Command

variable {a : Answers} {c : Command} {call : Call}

def rollMessage (a : Answers) (raw : String) : Message :=
  match Dice.Notation.parse raw with
  | .error _ => notationRejected
  | .ok dice =>
    match a.evaluate ⟨dice, 1⟩ with
    | .error _ => rollFailed
    | .ok result => (result.firstStep?.map fun step => .visible step.text).getD rollFailed

def rollCalls (raw : String) : List Call :=
  match Dice.Notation.parse raw with
  | .error _ => []
  | .ok dice => [.evaluate ⟨dice, 1⟩]

theorem rollExpression_leaves (a : Answers) (raw : String) :
    Leaves (rollExpression a.recorded raw) (rollMessage a raw) (rollCalls raw) := by
  rw [rollExpression, rollMessage, rollCalls]
  cases Dice.Notation.parse raw with
  | error e => exact leaves_pure _
  | ok dice =>
    dsimp only
    refine (leaves_call (.evaluate ⟨dice, 1⟩) (a.evaluate ⟨dice, 1⟩)).bind (m := []) ?_
    cases a.evaluate ⟨dice, 1⟩ with
    | error failure => exact leaves_pure _
    | ok result =>
      dsimp only
      cases result.firstStep? with
      | none => exact leaves_pure _
      | some step => exact leaves_pure _

def rollText : List Interaction.CommandOption → String
  | [] => ""
  | option :: _ => option.value

def emojifyCalls : List Interaction.CommandOption → List Call
  | [] => []
  | option :: _ => [.emojify option.value]

def emojified (a : Answers) : List Interaction.CommandOption → Except Failure Message
  | [] => .error .noMessageOption
  | option :: _ => (a.emojify option.value).map .visible

theorem roll_leaves (a : Answers) (c : Command) :
    Leaves (roll a.recorded c).run (.ok (rollMessage a (rollText c.data.options)))
      (rollCalls (rollText c.data.options)) := by
  have htext : c.firstOption?.getD "" = rollText c.data.options := by
    rw [firstOption?]
    cases c.data.options <;> rfl
  rw [← htext]
  exact (rollExpression_leaves a _).map Except.ok

theorem emojify_leaves (a : Answers) (c : Command) :
    Leaves (emojify a.recorded c).run (emojified a c.data.options)
      (emojifyCalls c.data.options) := by
  rw [emojify, firstOption?]
  cases c.data.options with
  | nil => exact leaves_pure _
  | cons option options =>
    have hcall : Leaves (a.recorded.emojify option.value).run (a.emojify option.value)
        [.emojify option.value] := leaves_call _ _
    dsimp only [List.head?_cons, Option.map_some, emojified, emojifyCalls]
    cases hanswer : a.emojify option.value with
    | error failure =>
      rw [hanswer] at hcall
      exact hcall.bind_error
    | ok content =>
      rw [hanswer] at hcall
      exact hcall.bind_ok (leaves_pure _)

def routed (a : Answers) (data : Interaction.CommandData) : Except Failure Message :=
  if data.name = "roll" then .ok (rollMessage a (rollText data.options))
  else if data.name = "emojify" then emojified a data.options
  else .ok unknownCommand

/-- The calls by which the message of a command is worked out, from the name and the options that it
came with. -/
def computeCalls (data : Interaction.CommandData) : List Call :=
  if data.name = "roll" then rollCalls (rollText data.options)
  else if data.name = "emojify" then emojifyCalls data.options
  else []

theorem route_leaves (a : Answers) (c : Command) :
    Leaves (route a.recorded c).run (routed a c.data) (computeCalls c.data) := by
  rw [route, name, routed, computeCalls]
  by_cases hroll : c.data.name = "roll"
  · simp only [hroll, if_true]
    exact roll_leaves a c
  by_cases hemojify : c.data.name = "emojify"
  · simp only [hemojify]
    exact emojify_leaves a c
  · have hlookup : (handlers (m := Recorded)).lookup c.data.name = none := by
      rw [List.lookup_eq_none_iff]
      simp [handlers, hroll, hemojify]
    rw [hlookup, if_neg hroll, if_neg hemojify, if_neg hroll, if_neg hemojify]
    exact leaves_pure _

/-- Only `emojify` can fail, for want of a message or of the service. -/
theorem routed_isOk_eq_false_iff {data : Interaction.CommandData} :
    (routed a data).isOk = false ↔ data.name = "emojify" ∧
      ∀ option ∈ data.options.head?, (Call.emojify option.value).succeeds a = false := by
  rw [routed]
  by_cases hroll : data.name = "roll"
  · simp [hroll]
  by_cases hemojify : data.name = "emojify"
  · simp only [hemojify, Call.succeeds]
    cases data.options with
    | nil => simp [emojified]
    | cons option options => simp [emojified]
  · simp [hroll, hemojify]

theorem mem_computeCalls {data : Interaction.CommandData} (h : call ∈ computeCalls data) :
    (∃ request, call = .evaluate request) ∨ ∃ message, call = .emojify message := by
  rw [computeCalls, rollCalls] at h
  split at h
  · split at h
    · cases h
    · exact .inl ⟨_, List.mem_singleton.mp h⟩
  split at h
  · cases hoptions : data.options with
    | nil =>
      rw [hoptions] at h
      cases h
    | cons option options =>
      rw [hoptions] at h
      exact .inr ⟨_, List.mem_singleton.mp h⟩
  · cases h

theorem deliveryToken?_of_mem_computeCalls {data : Interaction.CommandData}
    (h : call ∈ computeCalls data) : call.deliveryToken? = none := by
  obtain ⟨request, rfl⟩ | ⟨message, rfl⟩ := mem_computeCalls h <;> rfl

def delivered (a : Answers) (token : String) (p : Message) : Except Failure Unit :=
  if p.flags = none ∨ p.flags = some 0 then a.edit token p.content
  else
    match a.delete token with
    | .error failure => .error failure
    | .ok () => a.create token p

def deliveryCalls (a : Answers) (token : String) (p : Message) : List Call :=
  if p.flags = none ∨ p.flags = some 0 then [.edit token p.content]
  else if (Call.delete token).succeeds a then [.delete token, .create token p]
  else [.delete token]

section Delivery

variable {token content t : String} {p : Message}

theorem deliver_leaves (a : Answers) (token : String) (p : Message) :
    Leaves (deliver a.recorded token p).run (delivered a token p) (deliveryCalls a token p) := by
  have hedit : Leaves (a.recorded.edit token p.content).run (a.edit token p.content)
      [.edit token p.content] := leaves_call _ _
  have hdelete : Leaves (a.recorded.delete token).run (a.delete token) [.delete token] :=
    leaves_call _ _
  have hcreate : Leaves (a.recorded.create token p).run (a.create token p) [.create token p] :=
    leaves_call _ _
  rw [deliver, delivered, deliveryCalls, Call.succeeds]
  by_cases hflags : p.flags = none ∨ p.flags = some 0
  · rw [Message.isFlagged_eq_false_iff.mpr hflags, if_pos hflags, if_pos hflags]
    exact hedit
  · have hflagged : p.isFlagged = true := by
      rwa [← Bool.not_eq_false, Message.isFlagged_eq_false_iff]
    rw [hflagged, if_neg hflags, if_neg hflags]
    cases hanswer : a.delete token with
    | error failure =>
      rw [hanswer] at hdelete
      exact hdelete.bind_error
    | ok _ =>
      rw [hanswer] at hdelete
      exact hdelete.bind_ok hcreate

theorem delivered_isOk_iff :
    (delivered a token p).isOk = true ↔
      ∀ call ∈ deliveryCalls a token p, call.succeeds a = true := by
  rw [delivered, deliveryCalls]
  split
  · simp [Call.succeeds]
  · cases hdelete : a.delete token with
    | error failure => simp [Call.succeeds, hdelete]
    | ok _ => simp [Call.succeeds, hdelete]

theorem deliveryToken?_of_mem_deliveryCalls (h : call ∈ deliveryCalls a token p) :
    call.deliveryToken? = some token := by
  rw [deliveryCalls] at h
  split at h
  · cases List.mem_singleton.mp h
    rfl
  split at h
  · simp only [List.mem_cons, List.not_mem_nil, or_false] at h
    obtain rfl | rfl := h <;> rfl
  · cases List.mem_singleton.mp h
    rfl

theorem eq_edit_of_mem_deliveryCalls (h : .edit token content ∈ deliveryCalls a t p)
    (hcall : call ∈ deliveryCalls a t p) : call = .edit token content := by
  rw [deliveryCalls] at h hcall
  split at h
  · next hflags =>
    rw [if_pos hflags] at hcall
    rw [List.mem_singleton.mp h, List.mem_singleton.mp hcall]
  · split at h <;> simp at h

end Delivery

def executed (a : Answers) (c : Command) : Except Failure Unit :=
  match routed a c.data with
  | .error failure => .error failure
  | .ok p => delivered a c.token p

def finalCalls (a : Answers) (c : Command) : List Call :=
  match routed a c.data with
  | .error _ => []
  | .ok p => deliveryCalls a c.token p

theorem execute_leaves (a : Answers) (c : Command) :
    Leaves (execute a.recorded c).run (executed a c) (computeCalls c.data ++ finalCalls a c) := by
  have hroute := route_leaves a c
  rw [execute, executed, finalCalls]
  cases hrouted : routed a c.data with
  | error failure =>
    rw [hrouted] at hroute
    rw [List.append_nil]
    exact hroute.bind_error
  | ok p =>
    rw [hrouted] at hroute
    exact hroute.bind_ok (deliver_leaves a c.token p)

theorem executed_isOk_iff :
    (executed a c).isOk = true ↔
      (routed a c.data).isOk = true ∧ ∀ call ∈ finalCalls a c, call.succeeds a = true := by
  rw [executed, finalCalls]
  cases routed a c.data with
  | error failure => simp
  | ok p => simpa using delivered_isOk_iff

theorem exists_message_of_mem_finalCalls (h : call ∈ finalCalls a c) :
    ∃ p, finalCalls a c = deliveryCalls a c.token p := by
  rw [finalCalls] at h ⊢
  split at h
  · cases h
  · next p _ => exact ⟨p, rfl⟩

theorem deliveryToken?_of_mem_finalCalls (h : call ∈ finalCalls a c) :
    call.deliveryToken? = some c.token := by
  obtain ⟨p, hp⟩ := exists_message_of_mem_finalCalls h
  exact deliveryToken?_of_mem_deliveryCalls (hp ▸ h)

theorem mem_finalCalls_of_deliveryToken? {token : String}
    (htoken : call.deliveryToken? = some token)
    (h : call ∈ computeCalls c.data ++ finalCalls a c) : call ∈ finalCalls a c := by
  obtain h | h := List.mem_append.mp h
  · rw [deliveryToken?_of_mem_computeCalls h] at htoken
    cases htoken
  · exact h

theorem eq_edit_of_deliveryToken? {token content t : String}
    (hedit : .edit token content ∈ computeCalls c.data ++ finalCalls a c)
    (htoken : call.deliveryToken? = some t) (h : call ∈ computeCalls c.data ++ finalCalls a c) :
    call = .edit token content := by
  -- neither call can work out the message, so both are of the one delivery
  have hedit := mem_finalCalls_of_deliveryToken? rfl hedit
  have h := mem_finalCalls_of_deliveryToken? htoken h
  obtain ⟨p, hp⟩ := exists_message_of_mem_finalCalls hedit
  rw [hp] at hedit h
  exact eq_edit_of_mem_deliveryCalls hedit h

theorem handOff_notMem (a : Answers) (c v : Command) :
    .handOff v ∉ computeCalls c.data ++ finalCalls a c := by
  intro h
  obtain h | h := List.mem_append.mp h
  · obtain ⟨request, h⟩ | ⟨message, h⟩ := mem_computeCalls h <;> cases h
  · cases deliveryToken?_of_mem_finalCalls h

/-- A command is carried out in two parts: its message is worked out, and then it is delivered to
the placeholder of the command's own token. -/
theorem execute_computes_then_delivers (a : Answers) (c : Command) :
    ∃ (message : Except Failure Message) (result : Except Failure Unit) (delivery : List Call),
      Leaves (route a.recorded c).run message (computeCalls c.data) ∧
      Leaves (execute a.recorded c).run result (computeCalls c.data ++ delivery) ∧
      (∀ failure, message = .error failure → delivery = []) ∧
      (∀ p, message = .ok p → delivery = deliveryCalls a c.token p) ∧
      (message.isOk = false ↔ c.data.name = "emojify" ∧
        ∀ option ∈ c.data.options.head?, (Call.emojify option.value).succeeds a = false) ∧
      (∀ call ∈ delivery, call.deliveryToken? = some c.token) ∧
      (∀ token content, .edit token content ∈ computeCalls c.data ++ delivery →
        (∀ t, .delete t ∉ computeCalls c.data ++ delivery) ∧
        ∀ t p, .create t p ∉ computeCalls c.data ++ delivery) ∧
      (result.isOk = true ↔
        message.isOk = true ∧ ∀ call ∈ delivery, call.succeeds a = true) := by
  refine ⟨routed a c.data, executed a c, finalCalls a c, route_leaves a c, execute_leaves a c,
    ?_, ?_, routed_isOk_eq_false_iff, fun _ => deliveryToken?_of_mem_finalCalls, ?_,
    executed_isOk_iff⟩
  · intro failure h
    rw [finalCalls, h]
  · intro p h
    rw [finalCalls, h]
  · intro token content hedit
    constructor
    · intro t hdelete
      cases eq_edit_of_deliveryToken? hedit rfl hdelete
    · intro t p hcreate
      cases eq_edit_of_deliveryToken? hedit rfl hcreate

/-- Of two options only the first one is looked at. A failed roll is told in a message of its own,
and a placeholder that cannot be edited makes the command fail. -/
theorem execute_computes_then_delivers_first_option :
    let a : Answers := ⟨fun _ => .error .unreachable, fun s => .ok (s ++ "!"), fun _ => .ok (),
      fun _ _ => .error (.refused 404), fun _ => .ok (), fun _ _ => .ok ()⟩
    let given := fun name => Command.mk .command "t" ⟨none, name, [⟨"x", "2d6"⟩, ⟨"y", "1d4"⟩]⟩
    (∃ result, Leaves (execute a.recorded (given "roll")).run result
        [.evaluate ⟨[⟨2, 6, none⟩], 1⟩, .delete "t", .create "t" rollFailed] ∧
      result.isOk = true) ∧
    ∃ result, Leaves (execute a.recorded (given "emojify")).run result
        [.emojify "2d6", .edit "t" "2d6!"] ∧ result.isOk = false := by
  intro a given
  constructor
  · obtain ⟨message, result, delivery, hroute, hexecute, -, hdelivery, -, -, -, hresult⟩ :=
      execute_computes_then_delivers a (given "roll")
    have hcalls : computeCalls (given "roll").data = [.evaluate ⟨[⟨2, 6, none⟩], 1⟩] := by
      decide +kernel
    have hrolled : rollMessage a "2d6" = rollFailed := by decide +kernel
    have hmessage : message = .ok rollFailed :=
      (hroute.result_unique (route_leaves a _)).trans (congrArg Except.ok hrolled)
    obtain rfl := hdelivery rollFailed hmessage
    rw [hcalls] at hexecute
    exact ⟨result, hexecute, hresult.mpr ⟨by rw [hmessage]; rfl, by decide +kernel⟩⟩
  · obtain ⟨message, result, delivery, hroute, hexecute, -, hdelivery, -, -, -, hresult⟩ :=
      execute_computes_then_delivers a (given "emojify")
    have hmessage : message = .ok (.visible "2d6!") :=
      hroute.result_unique (route_leaves a _)
    obtain rfl := hdelivery _ hmessage
    refine ⟨result, hexecute, ?_⟩
    rw [Bool.eq_false_iff, ne_eq, hresult]
    intro h
    exact absurd (h.2 (.edit "t" "2d6!") (by decide +kernel)) (by decide +kernel)

end Command

end DiceBot
