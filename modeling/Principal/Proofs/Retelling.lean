import Principal.Proofs.Diagnosis
import Principal.Proofs.Repetition
import Principal.Proofs.Reporting

/-!
# What the log retells

The events of a call that decide the value of a field tell that value, in the order in which the
decisions are made. The records of these events are enough to get from the context before a call to
the one after it: of each field the last record that tells it is right, and an untold field has not
changed.
-/

namespace Principal

open RequestContext (Field)

/-- The decision that an event tells of. -/
def Event.told? : Event → Option (Field × Option String)
  | usernamePropagated username _ => some (.username, username)
  | realUsernameFound _ username _ => some (.username, username)
  | userIdPropagated userId _ => some (.userId, userId)
  | residentOrganizationPropagated resident _ => some (.residentOrganization, resident)
  | _ => none

/-- The names of the events that tell of a decision on a field. -/
def RequestContext.Field.tellers : Field → List String
  | .username => ["identity_username_propagated", "identity_organization_sso_username_resolved"]
  | .userId => ["identity_user_id_propagated"]
  | .residentOrganization => ["identity_resident_organization_propagated"]

section Values

variable (field : Field)

/-- The values that decisions have for a field, in order. -/
def RequestContext.Field.values (told : List (Field × Option String)) : List (Option String) :=
  (told.filter fun told => told.1 = field).map Prod.snd

theorem RequestContext.Field.values_append (told more : List (Field × Option String)) :
    field.values (told ++ more) = field.values told ++ field.values more := by
  simp [values]

theorem RequestContext.Field.values_cons (other : Field) (value : Option String)
    (told : List (Field × Option String)) :
    field.values ((other, value) :: told) =
      if other = field then value :: field.values told else field.values told := by
  by_cases h : other = field <;> simp [values, h]

theorem RequestContext.Field.values_toList (other : Field) (value : Option String) :
    field.values (value.map fun value => (other, some value)).toList =
      if other = field then value.toList.map some else [] := by
  cases value with
  | none => simp [values]
  | some value => exact values_cons field other (some value) []

end Values

/-- The value that a field of a record stands for; an absent one is shown as null. -/
def Json.text? : Json → Option String
  | .str s => some s
  | _ => none

theorem Json.text?_ofOption (value : Option String) : (Json.ofOption value).text? = value := by
  cases value <;> rfl

namespace Update

/-- The decision on a field that the last of the records to tell of one gives. -/
def lastTold (records : List Record) (field : Field) : Option (Option String) :=
  (records.filter fun record => record.name ∈ field.tellers).getLast?.map fun record =>
    (Fields.get? field.name record.fields).bind Json.text?

/-- The update that records tell of. -/
def ofLog (records : List Record) : Update where
  username := lastTold records .username
  userId := lastTold records .userId
  residentOrganization := lastTold records .residentOrganization

theorem get?_ofLog (records : List Record) (field : Field) :
    (ofLog records).get? field = lastTold records field := by
  cases field <;> rfl

end Update

namespace Event

variable {event : Event} {field : Field}

theorem name_mem_tellers_iff :
    event.name ∈ field.tellers ↔ ∃ value, event.told? = some (field, value) := by
  cases event <;> cases field <;> simp [name, Field.tellers, told?]

/-- An event carries the value that it tells, under the name of the field. -/
theorem get?_of_told? {value : Option String} (h : event.told? = some (field, value)) :
    Fields.get? field.name (event.fields false) = some (.ofOption value) := by
  cases event <;> cases h <;> rfl

end Event

section Unmasked

variable {p : Probe} (hm : p.masked = false) (ho : p.observation? = none)

include hm ho

theorem Probe.fields_record (event : Event) : (p.record event).fields = event.fields false := by
  simp [record, observed, hm, ho]

theorem Probe.get?_record {event : Event} {field : Field} {value : Option String}
    (h : event.told? = some (field, value)) :
    Fields.get? field.name (p.record event).fields = some (.ofOption value) := by
  rw [fields_record hm ho, Event.get?_of_told? h]

/-- The records that tell of a field, one by one, are those of the events that tell of it. -/
theorem Probe.map_get?_filter (events : List Event) (field : Field) :
    (((events.map p.record).filter fun record => record.name ∈ field.tellers).map fun record =>
        Fields.get? field.name record.fields) =
      (field.values (events.filterMap Event.told?)).map fun value => some (.ofOption value) := by
  induction events with
  | nil => rfl
  | cons event events ih =>
      have hname : (p.record event).name = event.name := rfl
      rw [List.map_cons]
      cases ht : event.told? with
      | none =>
          -- Neither list takes notice of an event that tells nothing.
          have hn : ¬ event.name ∈ field.tellers := by
            rw [Event.name_mem_tellers_iff, ht]
            nofun
          rw [List.filter_cons_of_neg (by simpa [hname] using hn), List.filterMap_cons_none ht, ih]
      | some told =>
          obtain ⟨other, value⟩ := told
          rw [List.filterMap_cons_some ht, Field.values_cons]
          by_cases hf : other = field
          · subst hf
            have hn : event.name ∈ other.tellers := Event.name_mem_tellers_iff.2 ⟨value, ht⟩
            rw [List.filter_cons_of_pos (by simpa [hname] using hn), if_pos rfl, List.map_cons,
              List.map_cons, ih, Probe.get?_record hm ho ht]
          · have hn : ¬ event.name ∈ field.tellers := by
              rw [Event.name_mem_tellers_iff, ht]
              rintro ⟨_, hv⟩
              exact hf (congrArg Prod.fst (Option.some.inj hv))
            rw [List.filter_cons_of_neg (by simpa [hname] using hn), if_neg hf, ih]

theorem Probe.lastTold_map_record (events : List Event) (field : Field) :
    Update.lastTold (events.map p.record) field =
      (field.values (events.filterMap Event.told?)).getLast? := by
  have hmap := congrArg List.getLast? (Probe.map_get?_filter hm ho events field)
  rw [List.getLast?_map, List.getLast?_map] at hmap
  have hbind := congrArg (Option.map fun value? : Option Json => value?.bind Json.text?) hmap
  have htext : ((fun value? : Option Json => value?.bind Json.text?) ∘
      fun value => some (.ofOption value)) = id := funext Json.text?_ofOption
  rw [Option.map_map, Option.map_map, htext, Option.map_id] at hbind
  exact hbind

end Unmasked

namespace Resolver

variable {r : Resolver} {identity : Identity} {request : RequestContext} {d d' : Decision}

theorem told_of_usernameCourse (r : Resolver) (identity : Identity) (request : RequestContext)
    (d : Decision) :
    (Act.events (r.usernameCourse identity request d).acts).filterMap Event.told? =
      ((r.ownUsername identity request).map fun username => (.username, some username)).toList := by
  unfold usernameCourse ownUsername
  simp only [← sameTenant_iff]
  cases sameTenant identity.tenantDomain request.tenantDomain <;> rfl

theorem told_of_userIdCourse (h : (r.userIdCourse identity d).ending = .ok d') :
    (Act.events (r.userIdCourse identity d).acts).filterMap Event.told? =
      ((nonempty? (r.foundUserId identity)).map fun userId => (.userId, some userId)).toList := by
  obtain ⟨found, hfound, h⟩ := Course.ending_bind_eq_ok.1 h
  have hu := toOption_userIdOf identity found
  rw [← Course.ending_of_caught hfound, toOption_ending_findCourse] at hu
  rw [← hu, Course.ending_of_caught hfound]
  unfold userIdCourse
  rw [Course.bind_of_ok hfound, Act.events_append, r.events_findCourse]
  cases userIdOf identity found <;> rfl

/-- The decision that a search comes to. -/
def Finding.told? (finding : Finding) : Option (Field × Option String) :=
  finding.username?.map fun username => (.username, some username)

section Search

variable {store : UserStore} {domain : String} {tenant : Int} {finding : Finding}

theorem told_of_storeCourse {userId : String}
    (h : (storeCourse store domain tenant userId).ending = .ok finding) :
    (Act.events (storeCourse store domain tenant userId).acts).filterMap Event.told? =
      finding.told?.toList := by
  obtain ⟨found, hfound, h⟩ := Course.ending_bind_eq_ok.1 h
  unfold storeCourse
  rw [Course.bind_of_ok hfound]
  match found with
  | .error e =>
      cases h
      rfl
  | .ok user =>
      dsimp only at h ⊢
      cases hn : nonempty? (user.bind (·.username)) with
      | none =>
          rw [hn] at h
          cases h
          rfl
      | some username =>
          rw [hn] at h
          cases h
          rfl

theorem told_of_tenantCourse {userId : Option String}
    (h : (r.tenantCourse domain tenant userId).ending = .ok finding) :
    (Act.events (r.tenantCourse domain tenant userId).acts).filterMap Event.told? =
      finding.told?.toList := by
  obtain ⟨found, hfound, h⟩ := Course.ending_bind_eq_ok.1 h
  unfold tenantCourse
  rw [Course.bind_of_ok hfound]
  match found with
  | .error e =>
      cases h
      rfl
  | .ok none =>
      cases h
      rfl
  | .ok (some store) =>
      dsimp only at h ⊢
      cases hu : nonempty? userId with
      | none =>
          rw [hu] at h
          cases h
          rfl
      | some userId =>
          rw [hu] at h
          exact told_of_storeCourse h

theorem told_of_searchCourse {resident userId : Option String}
    (h : (r.searchCourse resident userId).ending = .ok finding) :
    (Act.events (r.searchCourse resident userId).acts).filterMap Event.told? =
      finding.told?.toList := by
  unfold searchCourse at h ⊢
  cases ho : nonempty? resident with
  | none =>
      rw [ho] at h
      cases h
      rfl
  | some organization =>
      rw [ho] at h
      obtain ⟨place, hplace, h⟩ := Course.ending_bind_eq_ok.1 h
      dsimp only
      rw [Course.bind_of_ok hplace, Act.events_append, r.events_locateCourse]
      cases place with
      | error e =>
          cases h
          rfl
      | ok place => exact told_of_tenantCourse h

end Search

theorem told_of_organizationCourse (h : (r.organizationCourse identity request d).ending = .ok d') :
    (Act.events (r.organizationCourse identity request d).acts).filterMap Event.told? =
      if identity.capabilities.accessesOrganization then
        (.residentOrganization, identity.capabilities.residentOrganization) ::
          ((if identity.capabilities.federated then
              r.storedUsername identity.capabilities.residentOrganization
                (d.update.userId.getD request.userId)
            else none).map fun username => (.username, some username)).toList
      else [] := by
  unfold organizationCourse at h ⊢
  unfold Capabilities.accessesOrganization
  dsimp only at h ⊢
  cases ha : nonempty? identity.capabilities.accessingOrganization with
  | none => rfl
  | some accessing =>
      rw [ha] at h
      obtain ⟨_, _, h⟩ := Course.ending_bind_eq_ok.1 h
      dsimp only
      cases hf : identity.capabilities.federated with
      | false => rfl
      | true =>
          rw [hf] at h
          obtain ⟨finding, hfinding, h⟩ := Course.ending_bind_eq_ok.1 h
          have htold : (Event.residentOrganizationPropagated
              identity.capabilities.residentOrganization accessing).told? =
                some (.residentOrganization, identity.capabilities.residentOrganization) := rfl
          -- The search tells of the username that it comes to, which the answers determine.
          have hsearch := told_of_searchCourse hfinding
          unfold Finding.told? at hsearch
          rw [r.username?_of_searchCourse hfinding] at hsearch
          simp only [if_true]
          rw [Course.acts_note_bind, Course.acts_bind hfinding, Course.acts_pure, List.append_nil,
            Act.events_event, List.filterMap_cons_some htold, hsearch]
          rfl

/-- The decisions of a resolution in the order in which they are made. -/
def tellings (r : Resolver) (identity : Identity) (request : RequestContext) :
    List (Field × Option String) :=
  ((r.ownUsername identity request).map fun username => (.username, some username)).toList ++
    ((nonempty? (r.foundUserId identity)).map fun userId => (.userId, some userId)).toList ++
      if identity.capabilities.accessesOrganization then
        (.residentOrganization, identity.capabilities.residentOrganization) ::
          ((r.realUsername identity request).map fun username => (.username, some username)).toList
      else []

theorem told_of_course (h : (r.course identity request).ending = .ok d) :
    (Act.events (r.course identity request).acts).filterMap Event.told? =
      r.tellings identity request := by
  obtain ⟨named, hnamed, h⟩ := Course.ending_bind_eq_ok.1 h
  obtain ⟨known, hknown, h⟩ := Course.ending_bind_eq_ok.1 h
  unfold course
  rw [Course.acts_bind hnamed, Course.acts_bind hknown, Act.events_append, Act.events_append,
    List.filterMap_append, List.filterMap_append, told_of_usernameCourse,
    told_of_userIdCourse hknown, told_of_organizationCourse h,
    r.userId_of_userIdCourse hnamed hknown, r.getD_foundUserId, ← List.append_assoc]
  unfold tellings realUsername
  cases identity.capabilities.accessesOrganization <;> simp

/-- The values that a resolution decides for a field, in order. -/
def valuesTold (r : Resolver) (identity : Identity) (request : RequestContext) :
    Field → List (Option String)
  | .username =>
      ((r.ownUsername identity request).toList ++ (r.realUsername identity request).toList).map some
  | .userId => (nonempty? (r.foundUserId identity)).toList.map some
  | .residentOrganization =>
      if identity.capabilities.accessesOrganization then
        [identity.capabilities.residentOrganization]
      else []

theorem values_tellings (r : Resolver) (identity : Identity) (request : RequestContext)
    (field : Field) :
    field.values (r.tellings identity request) = r.valuesTold identity request field := by
  unfold tellings
  rw [Field.values_append, Field.values_append, Field.values_toList, Field.values_toList]
  cases ha : identity.capabilities.accessesOrganization with
  | true =>
      simp only [if_true, Field.values_cons, Field.values_toList]
      cases field <;> simp [valuesTold, ha]
  | false =>
      -- Without an organization there is no search, so the second username is missing too.
      have hnone : r.realUsername identity request = none := by simp [realUsername, ha]
      cases field <;> simp [valuesTold, ha, hnone, Field.values]

/-- Of each field, the last telling is the decision to write. -/
theorem getLast?_valuesTold (h : (r.course identity request).ending = .ok d) (field : Field) :
    (r.valuesTold identity request field).getLast? = d.update.get? field := by
  rw [r.update_of_course h]
  cases field with
  | username =>
      -- The real username comes after the identity's own and is preferred to it.
      simp only [valuesTold, Update.get?, List.map_append]
      cases r.realUsername identity request with
      | none => cases r.ownUsername identity request <;> rfl
      | some username => exact List.getLast?_concat
  | userId => cases hu : nonempty? (r.foundUserId identity) <;> simp [valuesTold, Update.get?, hu]
  | residentOrganization =>
      cases ha : identity.capabilities.accessesOrganization <;> simp [valuesTold, Update.get?, ha]

/-- Only the username is decided twice, if at all. -/
theorem length_valuesTold_le (r : Resolver) (identity : Identity) (request : RequestContext)
    {field : Field} (h : field ≠ .username) :
    (r.valuesTold identity request field).length ≤ 1 := by
  cases field with
  | username => exact absurd rfl h
  | userId => cases hu : nonempty? (r.foundUserId identity) <;> simp [valuesTold, hu]
  | residentOrganization =>
      cases ha : identity.capabilities.accessesOrganization <;> simp [valuesTold, ha]

section Calls

variable {outcome : Outcome} {identity? : Option Identity}

/-- What a call tells on its course: nothing if it is skipped, and otherwise the decision. -/
theorem told_of_callCourse {d? : Option Decision}
    (h : (r.callCourse outcome identity? request).ending = .ok d?) (field : Field) :
    let told := (Act.events (r.callCourse outcome identity? request).acts).filterMap Event.told?
    ((field.values told).getLast? = d?.bind fun d => d.update.get? field) ∧
      (field ≠ .username → (field.values told).length ≤ 1) := by
  cases hs : skipReason? outcome identity? with
  | some reason =>
      rw [callCourse_of_skipped hs] at h ⊢
      cases h
      exact ⟨rfl, fun _ => Nat.zero_le 1⟩
  | none =>
      obtain ⟨d, rfl⟩ := exists_some_of_ending_callCourse hs h
      obtain ⟨hsuccess, hidentity⟩ := skipReason?_eq_none_iff.1 hs
      obtain ⟨identity, rfl⟩ := Option.ne_none_iff_exists'.1 hidentity
      rw [callCourse_of_success hsuccess] at h ⊢
      obtain ⟨d', hd, hd'⟩ := Course.ending_bind_eq_ok.1 h
      cases hd'
      rw [Course.acts_bind hd, Course.acts_pure, List.append_nil, told_of_course hd]
      dsimp only
      rw [values_tellings]
      exact ⟨getLast?_valuesTold hd field, r.length_valuesTold_le identity request⟩

end Calls

/-- The log of a call tells the whole of what the call does to the request context: of each field,
the last of the records to tell of it gives its new value. The record of the update itself is there
exactly if the context has changed, and is the last. -/
structure Tells (records : List Record) (before after : RequestContext) (report : Report) :
    Prop where
  retold : after = before.overlay (Update.ofLog records)
  carried : ∀ field : Field, ∀ record ∈ records, record.name ∈ field.tellers →
    ∃ value, Fields.get? field.name record.fields = some (.ofOption value)
  once : ∀ field : Field, field ≠ .username →
    (records.filter fun record => record.name ∈ field.tellers).length ≤ 1
  updatedFields : report.updatedFields = differing before after
  closed : ∃ decided, (∀ record ∈ decided, record.name ≠ "identity_request_context_updated") ∧
    records = decided ++
      if after = before then []
      else
        [⟨.debug, "identity_request_context_updated",
          [("fields", .strings report.updatedFields)]⟩]

section Told

variable {outcome : Outcome} {identity? : Option Identity} {d? : Option Decision}

/-- The closing of a call tells of no decision. -/
theorem told_of_acts (h : (r.callCourse outcome identity? request).ending = .ok d?) :
    (Act.events (r.acts outcome identity? request)).filterMap Event.told? =
      (Act.events (r.callCourse outcome identity? request).acts).filterMap Event.told? := by
  rw [acts_of_ending h, Act.events_append, List.filterMap_append,
    filterMap_closing _ fun _ => rfl, List.append_nil]

theorem ofLog_of_callCourse (hm : r.probe.masked = false) (ho : r.probe.observation? = none)
    (h : (r.callCourse outcome identity? request).ending = .ok d?) :
    written request d? =
      request.overlay
        (.ofLog ((Act.events (r.acts outcome identity? request)).map r.probe.record)) := by
  have hlast (field : Field) : Update.lastTold
      ((Act.events (r.acts outcome identity? request)).map r.probe.record) field =
        d?.bind fun d => d.update.get? field := by
    rw [Probe.lastTold_map_record hm ho, told_of_acts h]
    exact (told_of_callCourse h field).1
  refine RequestContext.ext_get ?_ fun field => ?_
  · cases d? <;> rfl
  · rw [RequestContext.get_overlay, Update.get?_ofLog, hlast]
    cases d? with
    | none => rfl
    | some d => exact RequestContext.get_overlay request d.update field

/-- A call that has changed nothing closes silently, and any other with the record of what it
changed. -/
theorem map_record_closing (hm : r.probe.masked = false) (ho : r.probe.observation? = none)
    (request : RequestContext) (d? : Option Decision) :
    (Act.events (closing request d?)).map r.probe.record =
      if written request d? = request then []
      else
        [⟨.debug, "identity_request_context_updated",
          [("fields", .strings (reported request d?).updatedFields)]⟩] := by
  cases d? with
  | none => simp [closing, written]
  | some d =>
      unfold closing
      by_cases hc : changedNames request d = []
      · simp [hc, written, changedNames_eq_nil_iff.1 hc]
      · have hw : ¬ written request (some d) = request := fun h =>
          hc (changedNames_eq_nil_iff.2 h)
        have hrecord : r.probe.record (.contextUpdated (changedNames request d)) =
            ⟨.debug, "identity_request_context_updated",
              (Event.contextUpdated (changedNames request d)).fields false⟩ := by
          rw [← Probe.fields_record hm ho]
          rfl
        rw [if_neg hw]
        dsimp only
        rw [if_neg (by simpa using hc), Act.events_event, Act.events_nil, List.map_cons, hrecord]
        rfl

theorem tells_of_callCourse (hm : r.probe.masked = false) (ho : r.probe.observation? = none)
    (h : (r.callCourse outcome identity? request).ending = .ok d?) :
    Tells ((Act.events (r.acts outcome identity? request)).map r.probe.record) request
      (written request d?) (reported request d?) := by
  refine ⟨ofLog_of_callCourse hm ho h, ?_, ?_, ?_, ?_⟩
  · intro field record hmem hname
    obtain ⟨event, _, rfl⟩ := List.mem_map.1 hmem
    obtain ⟨value, hvalue⟩ := Event.name_mem_tellers_iff.1 hname
    exact ⟨value, Probe.get?_record hm ho hvalue⟩
  · intro field hfield
    have hlength := congrArg List.length
      (Probe.map_get?_filter hm ho (Act.events (r.acts outcome identity? request)) field)
    rw [List.length_map, List.length_map, told_of_acts h] at hlength
    rw [hlength]
    exact (told_of_callCourse h field).2 hfield
  · cases d? with
    | none => simp [reported, Report.skipped, differing, written]
    | some d => rfl
  · refine ⟨(Act.events (r.callCourse outcome identity? request).acts).map r.probe.record,
      ?_, ?_⟩
    · intro record hmem hname
      obtain ⟨event, hevent, rfl⟩ := List.mem_map.1 hmem
      obtain ⟨fields, rfl⟩ := Event.name_eq_iff_contextUpdated.1 hname
      exact (r.keeps_callCourse outcome identity? request).notes _ hevent fields rfl
    · rw [acts_of_ending h, Act.events_append, List.map_append, map_record_closing hm ho]

end Told

/-- A call that logs unmasked under no observation can be read off its log: the context that it
leaves is the one before it with the decisions written over that the records tell of, and the record
of the update names the fields that differ. The log is what the logger keeps of the records, and
consists of the records themselves where the logger keeps them all. -/
theorem resolve_retold (r : Resolver) (hm : r.probe.masked = false)
    (ho : r.probe.observation? = none) (hp : r.probe.Steady)
    (hc : r.collaborators.Recoverable) (outcome : Outcome) (identity? : Option Identity)
    (s : Scene) :
    ∃ report t, r.resolve outcome identity? s = .ok report t ∧
      let records := (Act.events (r.acts outcome identity? s.attempt.request)).map r.probe.record
      t.trace.log = s.trace.log ++ records.flatMap r.probe.logger.kept ∧
        (r.probe.logger.Recording → t.trace.log = s.trace.log ++ records) ∧
        Tells records s.attempt.request t.attempt.request report := by
  obtain ⟨d?, hd⟩ := r.exists_decision? hc outcome identity? s.attempt.request
  rw [resolve_of_passes (Probe.passes_of_steady hp _), hd]
  have hlog : (r.probe.traceOf s.trace (r.acts outcome identity? s.attempt.request)).log =
      s.trace.log ++ ((Act.events (r.acts outcome identity? s.attempt.request)).map
        r.probe.record).flatMap r.probe.logger.kept := by
    rw [List.flatMap_map, ← funext fun event => Probe.kept_of_unobserved ho event]
    rfl
  refine ⟨_, _, rfl, hlog, fun hrecording => ?_, tells_of_callCourse hm ho hd⟩
  refine hlog.trans ?_
  rw [funext hrecording.kept_eq]
  simp

/-- The username of a federated identity of the request's own tenant is told twice, the second time
as its user store knows it. -/
theorem resolve_retold_twice :
    let r : Resolver :=
      { collaborators :=
          { tenantDomain := fun _ => .ok "hosting.org"
            tenantId := fun _ => .ok 7
            userStore := fun _ =>
              .ok (some fun userId _ => .ok (some ⟨userId, some "bob", none⟩)) } }
    let identity : Identity :=
      { username := "alice", tenantDomain := some "ACME.com"
        capabilities? := some
          { userId := some "uid-1", federated := true, accessingOrganization := some "org-7"
            residentOrganization := some "org-42" } }
    let request : RequestContext := { tenantDomain := some "acme.com", userId := some "uid-1" }
    let s : Scene := ⟨{ request }, {}⟩
    r.probe.masked = false ∧ r.probe.observation? = none ∧ r.probe.Steady ∧
      r.collaborators.Recoverable ∧
      ∃ report t, r.resolve ⟨.success, none⟩ (some identity) s = .ok report t ∧
        t.trace.log.map (·.name) =
          ["identity_username_propagated", "identity_user_id_propagated",
            "identity_resident_organization_propagated",
            "identity_organization_sso_username_resolved", "identity_request_context_updated"] ∧
        Update.ofLog t.trace.log =
          ⟨some (some "bob"), some (some "uid-1"), some (some "org-42")⟩ ∧
        t.attempt.request = ⟨some "acme.com", some "bob", some "uid-1", some "org-42"⟩ ∧
        report.updatedFields = ["username", "resident_organization_id"] := by
  intro r identity request s
  have hl : r.probe.logger.Recording := Logger.recording_default
  have hp : r.probe.Steady := Probe.steady_of_logger hl.steady rfl
  have hc : r.collaborators.Recoverable := by
    intro call e h
    cases call <;> simp [Collaborators.Raises, r] at h
  obtain ⟨report, t, hr, _, hrecords, htells⟩ :=
    resolve_retold r rfl rfl hp hc ⟨.success, none⟩ (some identity) s
  have hlog := hrecords hl
  have hrequest : t.attempt.request = ⟨some "acme.com", some "bob", some "uid-1", some "org-42"⟩ :=
    htells.retold.trans rfl
  refine ⟨rfl, rfl, hp, hc, report, t, hr, ?_, ?_, hrequest, ?_⟩
  · rw [hlog]
    rfl
  · rw [hlog]
    rfl
  · rw [htells.updatedFields, hrequest]
    rfl

end Resolver

end Principal
