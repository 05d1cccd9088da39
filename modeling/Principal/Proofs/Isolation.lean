import Principal.Proofs.Frame

/-!
# Requests side by side

A service answers a turn from the attempt that it works on and from what comes with the turn, and
keeps nothing else of it. So what is answered to one attempt stays the same where work on another
one is left out. The steps of a session also share a directory and faults, which no work on an
attempt changes, so the same goes for them.
-/

namespace Principal

namespace Session

/-- The answers that belong to a name, of answers that belong to the names of a list. -/
def answersAt (name : String) (names : List String) (answers : List Answer) : List Answer :=
  (names.zip answers).filterMap fun (other, answer) => if other = name then some answer else none

/-- The second list is the first one with some of the turns on the attempt of a name left out. -/
inductive LeavesOut (other : String) : List Turn → List Turn → Prop where
  | nil : LeavesOut other [] []
  | keep {turns rest : List Turn} (turn : Turn) (h : LeavesOut other turns rest) :
      LeavesOut other (turn :: turns) (turn :: rest)
  | drop {turns rest : List Turn} (turn : Turn) (hn : turn.attempt = other)
      (h : LeavesOut other turns rest) : LeavesOut other (turn :: turns) rest

/-- The attempts of all names but one are the same. -/
def AgreeBeside (other : String) (attempts attempts' : Fields Attempt) : Prop :=
  ∀ name, name ≠ other → attemptIn attempts' name = attemptIn attempts name

section AgreeBeside

variable {other : String} {attempts attempts' : Fields Attempt}

theorem AgreeBeside.put_left (h : AgreeBeside other attempts attempts') (attempt : Attempt) :
    AgreeBeside other (Fields.put other attempt attempts) attempts' := by
  intro name hn
  rw [attemptIn_put_of_ne hn]
  exact h name hn

theorem AgreeBeside.put (h : AgreeBeside other attempts attempts') {name : String}
    {attempt attempt' : Attempt} (ha : name ≠ other → attempt' = attempt) :
    AgreeBeside other (Fields.put name attempt attempts) (Fields.put name attempt' attempts') := by
  intro asked hn
  by_cases heq : asked = name
  · subst heq
    rw [attemptIn_put_self, attemptIn_put_self, ha hn]
  · rw [attemptIn_put_of_ne heq, attemptIn_put_of_ne heq]
    exact h asked hn

end AgreeBeside

namespace Setup

variable (setup : Setup)

/-- Of the attempts, a turn reads its own only. -/
theorem answer_congr {turn : Turn} {attempts attempts' : Fields Attempt}
    (h : attemptIn attempts' turn.attempt = attemptIn attempts turn.attempt) :
    setup.answer turn attempts' = setup.answer turn attempts := by
  change Answer.of (setup.action turn (attemptIn attempts' turn.attempt)
    ⟨attemptIn attempts' turn.attempt, {}⟩) = _
  rw [h]
  rfl

/-- What the turns on the attempt of a name are answered. -/
def answersTo (name : String) (attempts : Fields Attempt) (turns : List Turn) : List Answer :=
  answersAt name (turns.map (·.attempt)) (setup.serve attempts turns)

theorem answersTo_cons (name : String) (attempts : Fields Attempt) (turn : Turn)
    (turns : List Turn) :
    setup.answersTo name attempts (turn :: turns) =
      let answer := setup.answer turn attempts
      let answers := setup.answersTo name (Fields.put turn.attempt answer.attempt attempts) turns
      if turn.attempt = name then answer :: answers else answers := by
  by_cases hn : turn.attempt = name <;> simp [answersTo, answersAt, serve, hn]

/-- Where turns on the attempt of a name are left out, the attempts of the other names are found as
they are with these turns, and so the answers to them are the same. -/
theorem answersTo_of_leavesOut {name other : String} (hne : name ≠ other) {turns rest : List Turn}
    (h : LeavesOut other turns rest) {attempts attempts' : Fields Attempt}
    (ha : AgreeBeside other attempts attempts') :
    setup.answersTo name attempts' rest = setup.answersTo name attempts turns := by
  induction h generalizing attempts attempts' with
  | nil => rfl
  | drop turn hn h ih =>
      subst hn
      rw [answersTo_cons, if_neg hne.symm]
      exact ih (ha.put_left _)
  | keep turn h ih =>
      have hanswer : turn.attempt ≠ other →
          setup.answer turn attempts' = setup.answer turn attempts :=
        fun hn => setup.answer_congr (ha _ hn)
      have hrest := ih (ha.put fun hn => congrArg (·.attempt) (hanswer hn))
      rw [answersTo_cons, answersTo_cons]
      dsimp only
      rw [hrest]
      by_cases hn : turn.attempt = name
      · rw [if_pos hn, if_pos hn, hanswer (hn ▸ hne)]
      · rw [if_neg hn, if_neg hn]

end Setup

/-- A step that changes what the attempts of a session share. Every other step is work on the
attempt that it is made on. -/
def Step.isShared : Step → Bool
  | .setFault .. => true
  | .registerOrganization .. => true
  | .registerTenant .. => true
  | .registerStore .. => true
  | .addUser .. => true
  | .registerUserId .. => true
  | _ => false

section Steps

variable (s : Session)

theorem change_of_not_isShared {step : Step} (h : step.isShared = false) : s.change step = s := by
  cases step with
  | setFault | registerOrganization | registerTenant | registerStore | addUser | registerUserId =>
      cases h
  | _ => rfl

/-- The steps of a run without the work on the attempt of a name. -/
def without (other : String) (steps : List (String × Step)) : List (String × Step) :=
  steps.filter fun (name, step) => name ≠ other ∨ step.isShared

/-- What the steps made on the attempt of a name are answered. -/
def answersTo (name : String) (steps : List (String × Step)) : List Answer :=
  answersAt name (steps.map Prod.fst) (s.run steps)

theorem map_attempt_turns (steps : List (String × Step)) :
    (s.turns steps).map (·.attempt) = steps.map Prod.fst := by
  induction steps generalizing s with
  | nil => rfl
  | cons head steps ih => exact congrArg (head.1 :: ·) (ih (s.change head.2))

theorem answersTo_eq (name : String) (steps : List (String × Step)) :
    s.answersTo name steps = s.setup.answersTo name s.attempts (s.turns steps) := by
  simp only [answersTo, Setup.answersTo, map_attempt_turns, run_eq_serve]

/-- To leave out work on an attempt is to leave out its turns: what the attempts share is the same
in every turn that is left. -/
theorem leavesOut_turns (other : String) (steps : List (String × Step)) :
    LeavesOut other (s.turns steps) (s.turns (without other steps)) := by
  induction steps generalizing s with
  | nil => exact .nil
  | cons head steps ih =>
      obtain ⟨name, step⟩ := head
      by_cases hk : name ≠ other ∨ step.isShared = true
      · have hcons : without other ((name, step) :: steps) = (name, step) :: without other steps :=
          List.filter_cons_of_pos (decide_eq_true hk)
        rw [hcons]
        exact .keep _ (ih (s.change step))
      · have hcons : without other ((name, step) :: steps) = without other steps :=
          List.filter_cons_of_neg (by simpa using hk)
        obtain ⟨hn, hs⟩ := not_or.1 hk
        have hrest := ih (s.change step)
        rw [hcons]
        refine .drop _ (Decidable.not_not.1 hn) ?_
        rwa [s.change_of_not_isShared (Bool.eq_false_iff.2 hs)] at hrest ⊢

end Steps

/-- Requests that share a resolver and a handler do not influence each other. If the work on the
attempt of one name is left out of a run, every step made on that of another name has the same
result or failure, leaves the same attempt, makes the same calls and logs the same records. The
same goes for a service whose turns come with any strategies, collaborators and faults, whichever
of the other's turns are left out. -/
theorem answersTo_without {name other : String} (h : name ≠ other) (s : Session) :
    (∀ steps, s.answersTo name (without other steps) = s.answersTo name steps) ∧
    ∀ attempts turns rest, LeavesOut other turns rest →
      s.setup.answersTo name attempts rest = s.setup.answersTo name attempts turns := by
  refine ⟨fun steps => ?_, fun attempts turns rest hr => ?_⟩
  · rw [answersTo_eq, answersTo_eq]
    exact s.setup.answersTo_of_leavesOut h (s.leavesOut_turns other steps) fun _ _ => rfl
  · exact s.setup.answersTo_of_leavesOut h hr fun _ _ => rfl

/-- Bob's publication is interrupted and his username overwritten. What alice is answered follows
from her own steps and from the user id that is registered for her in between. -/
theorem answersTo_without_interrupted :
    let success : Outcome := ⟨.success, none⟩
    let stop : Failure := .plain .interrupt "stop"
    let sent (username : String) : Session.Script :=
      { identity? := some (some { username, tenantDomain := some "ACME.com" })
        verdict := .ok success }
    let request : RequestContext := { tenantDomain := some "acme.com" }
    let s : Session := {
      directory := { userIds? := some {} }
      attempts := [("alice", { request }), ("bob", { request })] }
    let fail : String × Step := ("bob", .setFault .userIds (some stop))
    let heal : String × Step := ("bob", .setFault .userIds none)
    let register : String × Step := ("bob", .registerUserId "u-1" "alice" (some "acme.com") none)
    let first : String × Step := ("alice", .authenticate (sent "alice"))
    let second : String × Step := ("alice", .postAuthenticate none (.ok success))
    let steps : List (String × Step) :=
      [fail, ("bob", .authenticate (sent "bob")), heal, first, register,
        ("bob", .setContext [("username", some "eve")]), second]
    let left : List (String × Step) := [fail, heal, first, register, second]
    "alice" ≠ "bob" ∧ (s.answersTo "bob" steps)[1]?.map (·.result) = some (.error stop) ∧
      s.answersTo "alice" left = s.answersTo "alice" steps ∧
      (s.answersTo "alice" steps).map (·.result) =
        [.ok (.verdict success true none),
          .ok (.report { applied := true, updatedFields := ["user_id"] })] ∧
      s.setup.answersTo "alice" s.attempts (s.turns left) =
        s.setup.answersTo "alice" s.attempts (s.turns steps) := by
  intro success stop sent request s fail heal register first second steps left
  have hne : "alice" ≠ "bob" := by decide
  obtain ⟨hsteps, hturns⟩ := answersTo_without hne s
  have hleft : without "bob" steps = left := by rfl
  refine ⟨hne, by rfl, ?_, by rfl, ?_⟩
  · rw [← hleft]
    exact hsteps steps
  · rw [← hleft]
    exact hturns _ _ _ (s.leavesOut_turns "bob" steps)

end Session

end Principal
