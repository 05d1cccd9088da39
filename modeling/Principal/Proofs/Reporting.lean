import Principal.Proofs.Handling

/-!
# What a report tells

A report tells the truth about a call if it says whether there was an identity to publish and names
the fields that have another value than before. The last event of a call accounts for what the call
did: that it was skipped, or that it changed something. The reports that a handler returns tell the
truth about exactly those calls whose account could be noted.
-/

namespace Principal

namespace RequestContext

/-- The value of the field of a name, the tenant domain included; other names are no fields. -/
def named? (c : RequestContext) (name : String) : Option (Option String) :=
  if name = "tenant_domain" then some c.tenantDomain
  else (Field.ofName? name).map c.get

theorem Field.name_ne_tenant_domain (field : Field) : field.name ≠ "tenant_domain" := by
  cases field <;> decide

/-- Where the tenant domain stays, the names whose value differs are those of the fields whose value
does. -/
theorem named?_ne_iff {c d : RequestContext} (ht : d.tenantDomain = c.tenantDomain)
    (name : String) :
    d.named? name ≠ c.named? name ↔
      ∃ field : Field, field.name = name ∧ d.get field ≠ c.get field := by
  unfold named?
  by_cases hn : name = "tenant_domain"
  · rw [if_pos hn, if_pos hn, ht]
    have hf : ¬ ∃ field : Field, field.name = name ∧ d.get field ≠ c.get field := by
      rintro ⟨field, hfield, _⟩
      exact field.name_ne_tenant_domain (hfield.trans hn)
    exact iff_of_false (fun h => h rfl) hf
  · rw [if_neg hn, if_neg hn]
    cases ho : Field.ofName? name with
    | none =>
        refine iff_of_false (fun h => h rfl) ?_
        rintro ⟨field, rfl, _⟩
        rw [Field.ofName?_name] at ho
        cases ho
    | some field =>
        have hfield : field.name = name := Field.name_of_ofName?_eq_some ho
        constructor
        · intro h
          exact ⟨field, hfield, fun he => h (congrArg some he)⟩
        · rintro ⟨other, hother, h⟩ he
          have heq : other = field := Field.name_injective (hother.trans hfield.symm)
          subst heq
          exact h (Option.some.inj he)

theorem nodup_changes (c : RequestContext) (u : Update) : (c.changes u).Nodup := by
  have hall : Field.all.Nodup := by decide
  exact hall.filter _

end RequestContext

/-- A report is truthful about a call if it says whether there was an identity to publish and names,
once each, the fields whose value differs after the call. -/
structure Report.Truthful (report : Report) (outcome : Outcome) (identity? : Option Identity)
    (before after : RequestContext) : Prop where
  applied : report.applied = true ↔ outcome.isSuccess = true ∧ identity? ≠ none
  nodup : report.updatedFields.Nodup
  updatedFields : ∀ name, name ∈ report.updatedFields ↔ after.named? name ≠ before.named? name

namespace Resolver

/-- The names of the fields of which two contexts have different values. -/
def differing (before after : RequestContext) : List String :=
  (RequestContext.Field.all.filter fun field => after.get field ≠ before.get field).map (·.name)

/-- The event that accounts for what a call did, if it did not leave everything as it was. -/
def account? (outcome : Outcome) (identity? : Option Identity) (before after : RequestContext) :
    Option Event :=
  match skipReason? outcome identity? with
  | some reason => some (.resolutionSkipped reason)
  | none => if after = before then none else some (.contextUpdated (differing before after))

/-- The event that accounts for a call, if there is one, can be noted. -/
def Accounts (r : Resolver) (event? : Option Event) : Prop :=
  ∀ event, event? = some event → ∀ t, ∃ u, r.probe.note event t = .ok () u

theorem accounts_iff {r : Resolver} {event? : Option Event} :
    r.Accounts event? ↔ ∀ event, event? = some event → r.probe.failure? event = none :=
  forall₂_congr fun _ _ => Probe.failure?_eq_none_iff.symm

theorem account?_of_skipped {outcome : Outcome} {identity? : Option Identity} {reason : String}
    (h : skipReason? outcome identity? = some reason) (before after : RequestContext) :
    account? outcome identity? before after = some (.resolutionSkipped reason) := by
  simp only [account?, h]

theorem account?_of_unchanged {outcome : Outcome} {identity? : Option Identity}
    (h : skipReason? outcome identity? = none) (c : RequestContext) :
    account? outcome identity? c c = none := by
  simp only [account?, h, if_true]

theorem account?_of_changed {outcome : Outcome} {identity? : Option Identity}
    {before after : RequestContext} (h : skipReason? outcome identity? = none)
    (hne : after ≠ before) :
    account? outcome identity? before after = some (.contextUpdated (differing before after)) := by
  simp only [account?, h, if_neg hne]

section Reported

variable {request : RequestContext} {d : Decision}

theorem changedNames_eq_nil_iff :
    changedNames request d = [] ↔ request.overlay d.update = request := by
  rw [changedNames, List.map_eq_nil_iff, RequestContext.changes_eq_nil_iff]

theorem nodup_changedNames (request : RequestContext) (d : Decision) :
    (changedNames request d).Nodup := by
  apply List.Pairwise.map _ _ (request.nodup_changes d.update)
  intro _ _ hne he
  exact hne (RequestContext.Field.name_injective he)

theorem mem_changedNames_iff {name : String} :
    name ∈ changedNames request d ↔
      (request.overlay d.update).named? name ≠ request.named? name := by
  have ht : (request.overlay d.update).tenantDomain = request.tenantDomain := rfl
  rw [RequestContext.named?_ne_iff ht]
  simp only [changedNames, RequestContext.changes, List.mem_map, List.mem_filter,
    decide_eq_true_eq]
  constructor
  · rintro ⟨field, ⟨_, hd⟩, hn⟩
    exact ⟨field, hn, hd⟩
  · rintro ⟨field, hn, hd⟩
    exact ⟨field, ⟨field.mem_all, hd⟩, hn⟩

end Reported

section Calls

variable {r : Resolver} {outcome : Outcome} {identity? : Option Identity} {s t : Scene}
  {request : RequestContext}

/-- The report of a call that returns is truthful, and the account of the call was noted. -/
theorem truthful_of_resolve_eq_ok {report : Report}
    (h : r.resolve outcome identity? s = .ok report t) :
    report.Truthful outcome identity? s.attempt.request t.attempt.request ∧
      ∀ event, account? outcome identity? s.attempt.request t.attempt.request = some event →
        r.probe.failure? event = none := by
  obtain ⟨d?, hd, hp, rfl, rfl⟩ := resolve_eq_ok h
  cases hs : skipReason? outcome identity? with
  | some reason =>
      rw [callCourse_of_skipped hs] at hd
      cases hd
      have hn : ¬ (outcome.isSuccess = true ∧ identity? ≠ none) := by
        rw [← skipReason?_eq_none_iff, hs]
        nofun
      refine ⟨⟨iff_of_false nofun hn, List.nodup_nil, fun name => ?_⟩, ?_⟩
      · exact iff_of_false List.not_mem_nil (fun hne => hne rfl)
      · intro event he
        rw [account?_of_skipped hs] at he
        cases he
        apply hp
        simp [acts, callCourse_of_skipped hs]
  | none =>
      obtain ⟨d, rfl⟩ := exists_some_of_ending_callCourse hs hd
      refine ⟨⟨?_, nodup_changedNames _ d, fun name => mem_changedNames_iff⟩, ?_⟩
      · exact iff_of_true rfl (skipReason?_eq_none_iff.1 hs)
      · intro event he
        by_cases hne : s.attempt.request.overlay d.update = s.attempt.request
        · rw [written, hne, account?_of_unchanged hs] at he
          cases he
        · rw [written, account?_of_changed hs hne] at he
          cases he
          have hc : (changedNames s.attempt.request d).isEmpty = false := by
            rw [List.isEmpty_eq_false_iff]
            exact fun hnil => hne (changedNames_eq_nil_iff.1 hnil)
          apply hp
          simp only [acts, hd, closing, hc, Act.events_append, List.mem_append]
          exact .inr (List.mem_singleton.2 rfl)

/-- What the handler reports of a failure is truthful about a call that had an identity to publish
and changed nothing. -/
theorem truthful_of_unchanged (h : skipReason? outcome identity? = none)
    (diagnostics : List Failure) (c : RequestContext) :
    ({ applied := true, diagnostics } : Report).Truthful outcome identity? c c where
  applied := iff_of_true rfl (skipReason?_eq_none_iff.1 h)
  nodup := List.nodup_nil
  updatedFields _ := iff_of_false List.not_mem_nil fun hne => hne rfl

theorem not_truthful_of_skipped {reason : String} (h : skipReason? outcome identity? = some reason)
    (diagnostics : List Failure) (before after : RequestContext) :
    ¬ ({ applied := true, diagnostics } : Report).Truthful outcome identity? before after := by
  intro ht
  have hn : skipReason? outcome identity? = none := skipReason?_eq_none_iff.2 (ht.applied.1 rfl)
  rw [h] at hn
  cases hn

theorem not_truthful_of_changed {d : Decision} (hne : request.overlay d.update ≠ request)
    (diagnostics : List Failure) :
    ¬ ({ applied := true, diagnostics } : Report).Truthful outcome identity? request
        (request.overlay d.update) := by
  intro ht
  have hc : changedNames request d ≠ [] := fun hnil => hne (changedNames_eq_nil_iff.1 hnil)
  obtain ⟨name, hname⟩ := List.exists_mem_of_ne_nil _ hc
  exact List.not_mem_nil ((ht.updatedFields name).2 (mem_changedNames_iff.1 hname))

theorem truthful_iff_of_unchanged (r : Resolver) (h : skipReason? outcome identity? = none)
    (diagnostics : List Failure) (c : RequestContext) :
    ({ applied := true, diagnostics } : Report).Truthful outcome identity? c c ↔
      ∀ event, account? outcome identity? c c = some event → r.probe.failure? event = none := by
  refine iff_of_true (truthful_of_unchanged h diagnostics c) fun event hevent => ?_
  rw [account?_of_unchanged h] at hevent
  cases hevent

/-- The only event of a call that is skipped says why. -/
theorem eq_resolutionSkipped_of_callCourse {reason : String} {before after : List Act}
    {event : Event} {handling : Bool} (h : skipReason? outcome identity? = some reason)
    (ha : (r.callCourse outcome identity? request).acts =
      before ++ .event event handling :: after) :
    event = .resolutionSkipped reason := by
  rw [callCourse_of_skipped h] at ha
  have hsingle : [Act.event (.resolutionSkipped reason)] =
      before ++ .event event handling :: after := ha
  have hmem : Act.event event handling ∈ [Act.event (.resolutionSkipped reason)] := by
    rw [hsingle]
    exact List.mem_append_right _ List.mem_cons_self
  exact (Act.event.inj (List.mem_singleton.1 hmem)).1

/-- What the handler reports of a recoverable failure that escaped a call is truthful exactly if the
account of the call can be noted. -/
theorem truthful_iff_of_resolve_eq_error {e : Failure} (diagnostics : List Failure)
    (he : e.isRecoverable = true) (h : r.resolve outcome identity? s = .error e t) :
    ({ applied := true, diagnostics } : Report).Truthful outcome identity? s.attempt.request
        t.attempt.request ↔
      ∀ event, account? outcome identity? s.attempt.request t.attempt.request = some event →
        r.probe.failure? event = none := by
  have hk := r.keeps_callCourse outcome identity? s.attempt.request
  rcases r.resolve_cases outcome identity? s with
    hp | ⟨before, event, handling, after, e', ha, hf, hr⟩ | ⟨d, e', hd, hf, hr⟩
  · -- Only an interrupt ends a call whose notes all pass.
    rw [resolve_of_passes hp] at h
    cases hx : (r.callCourse outcome identity? s.attempt.request).ending with
    | ok d? =>
        rw [hx] at h
        cases h
    | error e' =>
        rw [hx] at h
        cases h
        obtain ⟨_, _, _, _, hfatal⟩ := hk.fails e hx
        rw [hfatal] at he
        cases he
  · -- A note raised before the writing: nothing has changed, so only a skip is left untold.
    rw [hr] at h
    cases h
    cases hs : skipReason? outcome identity? with
    | none => exact truthful_iff_of_unchanged r hs diagnostics _
    | some reason =>
        have hevent : event = .resolutionSkipped reason :=
          eq_resolutionSkipped_of_callCourse hs ha
        refine iff_of_false (not_truthful_of_skipped hs diagnostics _ _) fun hall => ?_
        have hnone := hall _ (account?_of_skipped hs _ _)
        rw [← hevent] at hnone
        cases hf.symm.trans (Probe.failure?_amid_eq_none_iff.2 hnone)
  · -- The note after the writing raised: the fields are left untold if there are any.
    rw [hr] at h
    cases h
    cases hs : skipReason? outcome identity? with
    | some reason =>
        rw [callCourse_of_skipped hs] at hd
        cases hd
    | none =>
        by_cases hne : s.attempt.request.overlay d.update = s.attempt.request
        · simpa only [written, hne] using truthful_iff_of_unchanged r hs diagnostics _
        · refine iff_of_false (not_truthful_of_changed hne diagnostics) fun hall => ?_
          have hnone :
              r.probe.failure? (.contextUpdated (changedNames s.attempt.request d)) = none :=
            hall _ (account?_of_changed hs hne)
          rw [hf] at hnone
          cases hnone

end Calls

end Resolver

namespace Handler

open Resolver (account?)

variable {r : Resolver} {s t : Scene} {outcome : Outcome} {report : Report}

theorem postAuthenticate_truthful_iff (h : Handler)
    (hr : h.postAuthenticate r.resolve outcome s = .ok report t) :
    report.Truthful outcome s.attempt.identity? s.attempt.request t.attempt.request ↔
      r.Accounts (account? outcome s.attempt.identity? s.attempt.request t.attempt.request) := by
  rw [Resolver.accounts_iff]
  cases hx : r.resolve outcome s.attempt.identity? s with
  | ok report' t' =>
      rw [postAuthenticate_of_ok hx] at hr
      cases hr
      obtain ⟨htruthful, hall⟩ := Resolver.truthful_of_resolve_eq_ok hx
      exact iff_of_true htruthful hall
  | error e t' =>
      cases he : e.isRecoverable with
      | false =>
          rw [postAuthenticate_of_interrupt hx he] at hr
          cases hr
      | true =>
          rw [postAuthenticate_of_error hx he] at hr
          cases hn : h.probe.amid.note (.publicationFailed h.name e) t'.trace with
          | error e' u =>
              rw [hn] at hr
              cases hr
          | ok _ u =>
              rw [hn] at hr
              cases hr
              have hiff := Resolver.truthful_iff_of_resolve_eq_error [escaped e] he hx
              exact hiff

/-- A report that the handler returns is truthful exactly if the resolver can note the account of
the call: that it was skipped, or which fields it changed. With a strategy, the call is the one on
the attempt as the strategy leaves it. -/
theorem report_truthful_iff (h : Handler) (r : Resolver) (outcome : Outcome) (s t : Scene)
    (report : Report) :
    (h.postAuthenticate r.resolve outcome s = .ok report t →
      (report.Truthful outcome s.attempt.identity? s.attempt.request t.attempt.request ↔
        r.Accounts (account? outcome s.attempt.identity? s.attempt.request t.attempt.request))) ∧
    ∀ strategy : Strategy,
      h.authenticateWithReport strategy r.resolve s = .ok (outcome, report) t →
        ∃ a, strategy s.attempt = .ok outcome a ∧
          (report.Truthful outcome a.identity? a.request t.attempt.request ↔
            r.Accounts (account? outcome a.identity? a.request t.attempt.request)) := by
  refine ⟨postAuthenticate_truthful_iff h, fun strategy hr => ?_⟩
  obtain ⟨a, u, hs, hp⟩ := authenticateWithReport_eq_ok hr
  have hiff := postAuthenticate_truthful_iff h hp
  exact ⟨a, hs, hiff⟩

/-- Entries named like the fields of the two accounts make a rejection look applied and leave the
fields that a success has written out of its report. -/
theorem report_untruthful :
    let o : Observation := { extra := [("reason", .str "sso"), ("fields", .str "all")] }
    let h : Handler := { name := "basic", probe := { observation? := o } }
    let r : Resolver :=
      { collaborators :=
          { tenantDomain := fun _ => .ok "acme.com"
            tenantId := fun _ => .ok 1
            userStore := fun _ => .ok none }
        probe := { observation? := o } }
    let alice : Identity :=
      { username := "alice", tenantDomain := some "acme.com"
        capabilities? := some { userId := some "u-1" } }
    let request : RequestContext := { tenantDomain := some "acme.com" }
    (∃ report t, h.postAuthenticate r.resolve ⟨.failed, none⟩ ⟨{}, {}⟩ = .ok report t ∧
        report.applied = true ∧
        ¬ report.Truthful ⟨.failed, none⟩ none {} t.attempt.request) ∧
      ∃ report t,
        h.authenticateWithReport (fun a => .ok ⟨.success, none⟩ { a with identity? := alice })
            r.resolve ⟨{ request }, {}⟩ = .ok (⟨.success, none⟩, report) t ∧
          report.updatedFields = [] ∧
          t.attempt.request = ⟨some "acme.com", some "alice", some "u-1", none⟩ ∧
          ¬ report.Truthful ⟨.success, none⟩ alice request t.attempt.request := by
  intro o h r alice request
  refine ⟨⟨_, _, rfl, rfl, ?_⟩, ⟨_, _, rfl, rfl, rfl, ?_⟩⟩
  · intro ht
    have hn := (ht.applied.1 rfl).2
    exact hn rfl
  · intro ht
    have hd : (RequestContext.mk (some "acme.com") (some "alice") (some "u-1") none).named?
        "username" ≠ request.named? "username" := by decide
    exact List.not_mem_nil ((ht.updatedFields "username").2 hd)

/-- An entry named like a field of an earlier event stops the call before it has changed anything,
so the report of the failure is truthful. -/
theorem report_truthful_of_stopped_call :
    let o : Observation := { extra := [("organization_user", .str "no")] }
    let h : Handler := { name := "basic", probe := { observation? := o } }
    let r : Resolver :=
      { collaborators :=
          { tenantDomain := fun _ => .ok "acme.com"
            tenantId := fun _ => .ok 1
            userStore := fun _ => .ok none }
        probe := { observation? := o } }
    let alice : Identity :=
      { username := "alice", tenantDomain := some "acme.com"
        capabilities? := some { userId := some "u-1" } }
    let s : Scene := ⟨{ request := { tenantDomain := some "acme.com" }, identity? := alice }, {}⟩
    ∃ report t, h.postAuthenticate r.resolve ⟨.success, none⟩ s = .ok report t ∧
      report.diagnostics ≠ [] ∧
      report.Truthful ⟨.success, none⟩ alice s.attempt.request t.attempt.request := by
  intro o h r alice s
  obtain ⟨report, t, hr, hd, ht⟩ :
      ∃ report t, h.postAuthenticate r.resolve ⟨.success, none⟩ s = .ok report t ∧
        report.diagnostics ≠ [] ∧ t.attempt.request = s.attempt.request :=
    ⟨_, _, rfl, List.cons_ne_nil _ _, rfl⟩
  refine ⟨report, t, hr, hd, ((report_truthful_iff h r _ s t report).1 hr).2 ?_⟩
  rw [ht]
  exact nofun

end Handler

end Principal
