import Principal.Proofs.Registration
import Principal.Proofs.Repetition

/-!
# Tenants match up to case

A call compares tenant domains three times: the identity's with the request's, and each of them with
what the directories of tenants and of user ids hold. All three compare foldings, so replacing
domains by others of the same folding, each on its own, changes neither what a call writes and
reports nor whom it asks.
-/

namespace Principal

open RequestContext (Field)

/-- The call with the tenant domain that it names folded. -/
def Call.folded : Call → Call
  | .tenantId domain => .tenantId (foldCase domain)
  | .userId username domain storeDomain => .userId username (domain.map foldCase) storeDomain
  | call => call

theorem Failure.kind_within {e e' : Failure} (h : e.kind = e'.kind) (kind : Kind)
    (message message' : String) :
    (e.within kind message).kind = (e'.within kind message').kind := by
  unfold within isA
  rw [h]
  cases e'.kind.isA kind with
  | true => exact h
  | false => rfl

namespace Course

variable {α β γ δ : Type} {R : α → β → Prop} {S : γ → δ → Prop}

/-- Two courses make the same calls up to the case of tenant domains, and agree in how they end.
What they note is left open. -/
structure Alike (R : α → β → Prop) (x : Course α) (y : Course β) : Prop where
  calls : (Act.calls x.acts).map Call.folded = (Act.calls y.acts).map Call.folded
  ending : Agree R x.ending y.ending

variable {x : Course α} {y : Course β}

theorem alike_pure {a : α} {b : β} (h : R a b) : Alike R (pure a) (pure b) where
  calls := rfl
  ending := .ok h

theorem alike_ask {call call' : Call} {answer : Except Failure α} {answer' : Except Failure β}
    (hc : call.folded = call'.folded) (h : Agree R answer answer') :
    Alike R (ask call answer) (ask call' answer') where
  calls := congrArg (fun call => [call]) hc
  ending := h

theorem alike_note (event event' : Event) {handling handling' : Bool} :
    Alike Eq (note event handling) (note event' handling') where
  calls := rfl
  ending := .ok rfl

theorem Alike.bind {f : α → Course γ} {g : β → Course δ} (h : Alike R x y)
    (hf : ∀ a b, R a b → Alike S (f a) (g b)) : Alike S (x >>= f) (y >>= g) := by
  obtain ⟨hcalls, hending⟩ := h
  generalize hx : x.ending = ending at hending
  generalize hy : y.ending = ending' at hending
  cases hending with
  | error he =>
      rw [bind_of_error hx, bind_of_error hy]
      exact ⟨hcalls, .error he⟩
  | ok hab =>
      obtain ⟨hcalls', hending'⟩ := hf _ _ hab
      rw [bind_of_ok hx, bind_of_ok hy]
      refine ⟨?_, hending'⟩
      rw [Act.calls_append, Act.calls_append, List.map_append, List.map_append, hcalls, hcalls']

theorem alike_noted (event event' : Event) {handling handling' : Bool} {a : α} {b : β}
    (h : R a b) :
    Alike R (note event handling >>= fun _ => pure a)
      (note event' handling' >>= fun _ => pure b) :=
  (alike_note event event').bind fun _ _ _ => alike_pure h

/-- Of two failures of one kind, both are recovered from or none is. -/
theorem Alike.caught (h : Alike R x y) : Alike (Agree R) x.caught y.caught := by
  obtain ⟨hcalls, hending⟩ := h
  refine ⟨hcalls, ?_⟩
  unfold Course.caught
  generalize x.ending = ending at hending ⊢
  generalize y.ending = ending' at hending ⊢
  cases hending with
  | ok h => exact .ok (.ok h)
  | @error e e' h =>
      have hr : e.isRecoverable = e'.isRecoverable := congrArg Failure.Kind.isRecoverable h
      dsimp only
      rw [hr]
      cases e'.isRecoverable with
      | true => exact .ok (.error h)
      | false => exact .error h

end Course

section Domains

variable {a a' b b' : Option String}

theorem sameTenant_of_map_eq (ha : a.map foldCase = a'.map foldCase)
    (hb : b.map foldCase = b'.map foldCase) (h : sameTenant a b = true) :
    sameTenant a' b' = true := by
  obtain ⟨x, y, ⟨rfl, hx⟩, ⟨rfl, hy⟩, hxy⟩ := sameTenant_iff.1 h
  obtain ⟨x', rfl, hx', hxx'⟩ := exists_of_map_foldCase_eq hx ha
  obtain ⟨y', rfl, hy', hyy'⟩ := exists_of_map_foldCase_eq hy hb
  exact sameTenant_iff.2 ⟨x', y', ⟨rfl, hx'⟩, ⟨rfl, hy'⟩, hxx'.trans (hxy.trans hyy'.symm)⟩

theorem sameTenant_eq (ha : a.map foldCase = a'.map foldCase)
    (hb : b.map foldCase = b'.map foldCase) : sameTenant a b = sameTenant a' b' :=
  Bool.eq_iff_iff.2 ⟨sameTenant_of_map_eq ha hb, sameTenant_of_map_eq ha.symm hb.symm⟩

end Domains

/-- Two identities that differ in the case of their tenant domains at most. -/
structure Identity.Alike (i i' : Identity) : Prop where
  tenantDomain : i.tenantDomain.map foldCase = i'.tenantDomain.map foldCase
  username : i.username = i'.username
  storeDomain : i.storeDomain = i'.storeDomain
  capabilities? : i.capabilities? = i'.capabilities?

theorem Identity.Alike.capabilities {i i' : Identity} (h : i.Alike i') :
    i.capabilities = i'.capabilities := by
  unfold Identity.capabilities
  rw [h.capabilities?]

/-- Two contexts that differ in the case of their tenant domains at most. -/
structure RequestContext.Alike (c c' : RequestContext) : Prop where
  tenantDomain : c.tenantDomain.map foldCase = c'.tenantDomain.map foldCase
  get : ∀ field, c.get field = c'.get field

/-- Two decisions write the same and have met failures of the same kinds. -/
structure Decision.Alike (d d' : Decision) : Prop where
  update : d.update = d'.update
  kinds : d.diagnostics.map (·.kind) = d'.diagnostics.map (·.kind)

/-- Two reports tell of the same fields and of failures of the same kinds. -/
structure Report.Alike (report report' : Report) : Prop where
  applied : report.applied = report'.applied
  updatedFields : report.updatedFields = report'.updatedFields
  kinds : report.diagnostics.map (·.kind) = report'.diagnostics.map (·.kind)

namespace Decision.Alike

variable {d d' : Decision} (h : d.Alike d')

include h

theorem set (field : Field) (value : Option String) :
    (d.set field value).Alike (d'.set field value) where
  update := congrArg (·.set field value) h.update
  kinds := h.kinds

theorem diagnose {e e' : Failure} (he : e.kind = e'.kind) :
    (d.diagnose e).Alike (d'.diagnose e') where
  update := h.update
  kinds := by
    change (d.diagnostics ++ [e]).map _ = (d'.diagnostics ++ [e']).map _
    rw [List.map_append, List.map_append, h.kinds, List.map_singleton, List.map_singleton, he]

end Decision.Alike

namespace Resolver

inductive Finding.Alike : Finding → Finding → Prop where
  | found (username : String) : Alike (.found username) (.found username)
  | missing : Alike .missing .missing
  | failed {e e' : Failure} (h : e.kind = e'.kind) : Alike (.failed e) (.failed e')

theorem Finding.Alike.settle {finding finding' : Finding} (h : finding.Alike finding')
    {d d' : Decision} (hd : d.Alike d') : (finding.settle d).Alike (finding'.settle d') := by
  cases h with
  | found username => exact hd.set .username (some username)
  | missing => exact hd
  | failed he => exact hd.diagnose he

theorem userIdOf_agree (i i' : Identity) {found found' : Except Failure (Option String)}
    (h : Agree Eq found found') : Agree Eq (userIdOf i found) (userIdOf i' found') := by
  cases h with
  | error he => exact .error (Failure.kind_within he _ _ _)
  | @ok userId _ h =>
      subst h
      unfold userIdOf
      dsimp only
      cases nonempty? userId with
      | some userId => exact .ok rfl
      | none => exact .error rfl

theorem storeCourse_alike (store : UserStore) (domain domain' : String) (tenant : Int)
    (userId : String) :
    Course.Alike Finding.Alike (storeCourse store domain tenant userId)
      (storeCourse store domain' tenant userId) := by
  apply (Course.alike_ask rfl (Agree.refl Eq.refl (store userId none))).caught.bind
  intro found found' hfound
  cases hfound with
  | error he => exact Course.alike_noted _ _ (.failed (Failure.kind_within he _ _ _))
  | @ok user _ h =>
      subst h
      dsimp only
      cases nonempty? (user.bind (·.username)) with
      | none => exact Course.alike_noted _ _ .missing
      | some username => exact Course.alike_noted _ _ (.found username)

section Alike

variable {r r' : Resolver} (hn : r.toNaming = r'.toNaming)
  (hc : r.collaborators.Alike r'.collaborators) {i i' : Identity} (hi : i.Alike i')
  {request request' : RequestContext} (hr : request.Alike request') {d d' : Decision}
  (hd : d.Alike d')

include hn hi hr hd in
theorem usernameCourse_alike :
    Course.Alike Decision.Alike (r.usernameCourse i request d)
      (r'.usernameCourse i' request' d') := by
  have hseparator : r.domainSeparator = r'.domainSeparator := congrArg Naming.domainSeparator hn
  unfold usernameCourse
  rw [sameTenant_eq hi.tenantDomain hr.tenantDomain, hi.username, hi.storeDomain, hseparator]
  cases sameTenant i'.tenantDomain request'.tenantDomain with
  | true => exact Course.alike_noted _ _ (hd.set _ _)
  | false => exact Course.alike_noted _ _ hd

include hc hi in
theorem lookUpCourse_alike : Course.Alike Eq (r.lookUpCourse i) (r'.lookUpCourse i') := by
  have hfind := hc.userId?
  unfold lookUpCourse
  generalize r.collaborators.userId? = find? at hfind ⊢
  generalize r'.collaborators.userId? = find?' at hfind ⊢
  cases hfind with
  | none => exact Course.alike_pure rfl
  | @some find find' h =>
      dsimp only
      rw [hi.username, hi.storeDomain, h _ _ _ _ hi.tenantDomain]
      refine Course.alike_ask ?_ (Agree.refl Eq.refl _)
      simp only [Call.folded, hi.tenantDomain]

include hn hc hi in
theorem findCourse_alike : Course.Alike Eq (r.findCourse i) (r'.findCourse i') := by
  have hsurrogate : r.surrogate = r'.surrogate := by
    unfold surrogate
    rw [hn]
  unfold findCourse
  rw [hi.capabilities, hi.username, hsurrogate]
  cases i'.capabilities.organizationUser with
  | true => exact Course.alike_pure rfl
  | false =>
      cases nonempty? i'.capabilities.userId with
      | some userId => exact Course.alike_pure rfl
      | none => exact lookUpCourse_alike hc hi

include hn hc hi hd in
theorem userIdCourse_alike :
    Course.Alike Decision.Alike (r.userIdCourse i d) (r'.userIdCourse i' d') := by
  apply (findCourse_alike hn hc hi).caught.bind
  intro found found' hfound
  have hu := userIdOf_agree i i' hfound
  generalize userIdOf i found = userId at hu ⊢
  generalize userIdOf i' found' = userId' at hu ⊢
  cases hu with
  | ok h =>
      subst h
      exact Course.alike_noted _ _ (hd.set _ _)
  | error he => exact Course.alike_noted _ _ (hd.diagnose he)

include hc in
theorem locateCourse_alike (organization : String) :
    Course.Alike (fun place place' => foldCase place.1 = foldCase place'.1 ∧ place.2 = place'.2)
      (r.locateCourse organization) (r'.locateCourse organization) := by
  apply (Course.alike_ask rfl (hc.tenantDomain organization)).bind
  intro domain domain' hdomain
  have hcall : (Call.tenantId domain).folded = (Call.tenantId domain').folded :=
    congrArg Call.tenantId hdomain
  apply (Course.alike_ask hcall (hc.tenantId _ _ hdomain)).bind
  intro tenant tenant' htenant
  exact Course.alike_pure ⟨hdomain, htenant⟩

include hc in
theorem tenantCourse_alike (domain domain' : String) (tenant : Int) (userId : Option String) :
    Course.Alike Finding.Alike (r.tenantCourse domain tenant userId)
      (r'.tenantCourse domain' tenant userId) := by
  have hstore :
      Agree Eq (r.collaborators.userStore tenant) (r'.collaborators.userStore tenant) := by
    rw [hc.userStore]
    exact Agree.refl Eq.refl _
  apply (Course.alike_ask rfl hstore).caught.bind
  intro found found' hfound
  cases hfound with
  | error he => exact Course.alike_noted _ _ (.failed (Failure.kind_within he _ _ _))
  | @ok store? _ h =>
      subst h
      cases store? with
      | none => exact Course.alike_noted _ _ .missing
      | some store =>
          dsimp only
          cases nonempty? userId with
          | none => exact Course.alike_pure .missing
          | some userId => exact storeCourse_alike store domain domain' tenant userId

include hc in
theorem searchCourse_alike (resident userId : Option String) :
    Course.Alike Finding.Alike (r.searchCourse resident userId)
      (r'.searchCourse resident userId) := by
  unfold searchCourse
  cases nonempty? resident with
  | none => exact Course.alike_noted _ _ (.failed rfl)
  | some organization =>
      apply (locateCourse_alike hc organization).caught.bind
      intro found found' hfound
      cases hfound with
      | error he => exact Course.alike_noted _ _ (.failed (Failure.kind_within he _ _ _))
      | @ok place place' h =>
          obtain ⟨domain, tenant⟩ := place
          obtain ⟨domain', tenant'⟩ := place'
          obtain ⟨_, rfl⟩ := h
          exact tenantCourse_alike hc domain domain' tenant userId

include hc hi hr hd in
theorem organizationCourse_alike :
    Course.Alike Decision.Alike (r.organizationCourse i request d)
      (r'.organizationCourse i' request' d') := by
  have huserId : request.userId = request'.userId := hr.get .userId
  unfold organizationCourse
  rw [hi.capabilities]
  dsimp only
  cases nonempty? i'.capabilities.accessingOrganization with
  | none => exact Course.alike_pure hd
  | some accessing =>
      have hset := hd.set .residentOrganization i'.capabilities.residentOrganization
      apply (Course.alike_note _ _).bind
      intro _ _ _
      cases i'.capabilities.federated with
      | false => exact Course.alike_pure hset
      | true =>
          -- The search is made under the user id decided so far, or that of the request.
          simp only [if_true]
          rw [hset.update, huserId]
          apply (searchCourse_alike hc _ _).bind
          intro finding finding' hfinding
          exact Course.alike_pure (hfinding.settle hset)

include hn hc hi hr in
theorem course_alike :
    Course.Alike Decision.Alike (r.course i request) (r'.course i' request') := by
  apply (usernameCourse_alike hn hi hr ⟨rfl, rfl⟩).bind
  intro named named' hnamed
  apply (userIdCourse_alike hn hc hi hnamed).bind
  intro known known' hknown
  exact organizationCourse_alike hc hi hr hknown

include hn hc hr in
theorem callCourse_alike {identity? identity?' : Option Identity}
    (hi : Option.Rel Identity.Alike identity? identity?') (outcome : Outcome) :
    Course.Alike (Option.Rel Decision.Alike) (r.callCourse outcome identity? request)
      (r'.callCourse outcome identity?' request') := by
  unfold callCourse
  cases outcome.isSuccess with
  | false => exact Course.alike_noted _ _ .none
  | true =>
      cases hi with
      | none => exact Course.alike_noted _ _ .none
      | some hi =>
          apply (course_alike hn hc hi hr).bind
          intro d d' hd
          exact Course.alike_pure (.some hd)

end Alike

section Written

variable {request request' : RequestContext} {d? d?' : Option Decision}

theorem written_alike (hr : request.Alike request') (hd : Option.Rel Decision.Alike d? d?') :
    (written request d?).Alike (written request' d?') := by
  cases hd with
  | none => exact hr
  | some hd =>
      refine ⟨hr.tenantDomain, fun field => ?_⟩
      simp only [written, RequestContext.get_overlay, hd.update, hr.get]

theorem changedNames_eq {d d' : Decision} (hr : request.Alike request') (hd : d.Alike d') :
    changedNames request d = changedNames request' d' := by
  simp only [changedNames, RequestContext.changes, RequestContext.get_overlay, hd.update, hr.get]

theorem reported_alike (hr : request.Alike request') (hd : Option.Rel Decision.Alike d? d?') :
    (reported request d?).Alike (reported request' d?') := by
  cases hd with
  | none => exact ⟨rfl, rfl, rfl⟩
  | some hd => exact ⟨rfl, changedNames_eq hr hd, hd.kinds⟩

end Written

/-- Two calls on collaborators that answer alike, for identities and contexts that are alike, write
and report alike and make the same calls up to the case of tenant domains. -/
theorem resolve_alike {r r' : Resolver} (hn : r.toNaming = r'.toNaming)
    (hc : r.collaborators.Alike r'.collaborators) (hrec : r.collaborators.Recoverable)
    (hrec' : r'.collaborators.Recoverable) (hp : r.probe.Steady) (hp' : r'.probe.Steady)
    {identity? identity?' : Option Identity} (hi : Option.Rel Identity.Alike identity? identity?')
    {s s' : Scene} (hs : s.attempt.request.Alike s'.attempt.request) (outcome : Outcome) :
    ∃ report t report' t', r.resolve outcome identity? s = .ok report t ∧
      r'.resolve outcome identity?' s' = .ok report' t' ∧
      report.Alike report' ∧ t.attempt.request.Alike t'.attempt.request ∧
      ∃ calls calls', t.trace.calls = s.trace.calls ++ calls ∧
        t'.trace.calls = s'.trace.calls ++ calls' ∧
        calls.map Call.folded = calls'.map Call.folded := by
  obtain ⟨d?, hd⟩ := r.exists_decision? hrec outcome identity? s.attempt.request
  obtain ⟨d?', hd'⟩ := r'.exists_decision? hrec' outcome identity?' s'.attempt.request
  obtain ⟨hcalls, hending⟩ := callCourse_alike hn hc hs hi outcome
  rw [hd, hd'] at hending
  cases hending with
  | ok hdecided =>
      rw [resolve_of_passes (Probe.passes_of_steady hp _), hd,
        resolve_of_passes (Probe.passes_of_steady hp' _), hd']
      refine ⟨_, _, _, _, rfl, rfl, reported_alike hs hdecided, written_alike hs hdecided, _, _,
        rfl, rfl, ?_⟩
      rwa [acts_of_ending hd, acts_of_ending hd', Act.calls_append, Act.calls_append, calls_closing,
        calls_closing, List.append_nil, List.append_nil]

/-- Two calls over directories in memory that were filled by the same registrations, where any
tenant domain may have another case in the second one, write the same and report the same, up to the
texts of failures, and ask the same collaborators in the same order. -/
theorem resolve_ignores_case (naming : Naming) (d : Directory)
    {l l' : List Directory.Registration} (hl : List.Forall₂ Directory.Registration.Alike l l')
    {p p' : Probe} (hp : p.Steady) (hp' : p'.Steady) (outcome : Outcome)
    {identity? identity?' : Option Identity} (hi : Option.Rel Identity.Alike identity? identity?')
    {s s' : Scene} (hs : s.attempt.request.Alike s'.attempt.request) :
    let r : Resolver :=
      { naming with collaborators := (d.registered l).collaborators, probe := p }
    let r' : Resolver :=
      { naming with collaborators := (d.registered l').collaborators, probe := p' }
    ∃ report t report' t', r.resolve outcome identity? s = .ok report t ∧
      r'.resolve outcome identity?' s' = .ok report' t' ∧
      report.Alike report' ∧ t.attempt.request.Alike t'.attempt.request ∧
      ∃ calls calls', t.trace.calls = s.trace.calls ++ calls ∧
        t'.trace.calls = s'.trace.calls ++ calls' ∧
        calls.map Call.folded = calls'.map Call.folded := by
  intro r r'
  have hd : (d.registered l).Alike (d.registered l') := (Directory.Alike.refl d).registered hl
  have hc : r.collaborators.Alike r'.collaborators := hd.collaborators
  have hn : r.toNaming = r'.toNaming := rfl
  exact resolve_alike hn hc (Directory.recoverable_collaborators _)
    (Directory.recoverable_collaborators _) hp hp' hi hs outcome

/-- Two registrations of a tenant whose domains become the same only by folding, which makes one of
them longer. -/
theorem resolve_ignores_case_of_sharp_s :
    let l : List Directory.Registration :=
      [.tenant "weiß" 1, .tenant "WEISS" 2, .store 2 "main",
        .user "main" ⟨"uid-1", some "bob", none⟩, .organization "org-42" "Weiß",
        .userId "uid-1" "alice" (some "Weiss") none]
    let l' : List Directory.Registration :=
      [.tenant "weiss" 1, .tenant "WEIß" 2, .store 2 "main",
        .user "main" ⟨"uid-1", some "bob", none⟩, .organization "org-42" "WEISS",
        .userId "uid-1" "alice" (some "weiß") none]
    let capabilities : Capabilities :=
      { federated := true, accessingOrganization := some "org-7"
        residentOrganization := some "org-42" }
    let alice (domain : String) : Identity :=
      { username := "alice", tenantDomain := some domain, capabilities? := some capabilities }
    let s (domain : String) : Scene := ⟨{ request := { tenantDomain := some domain } }, {}⟩
    let d : Directory := { userIds? := some {} }
    let p : Probe := {}
    let run (l : List Directory.Registration) : Resolver :=
      { collaborators := (d.registered l).collaborators, probe := p }
    List.Forall₂ Directory.Registration.Alike l l' ∧ p.Steady ∧
      Option.Rel Identity.Alike (some (alice "weiß")) (some (alice "WEISS")) ∧
      (s "Weiss").attempt.request.Alike (s "WEIß").attempt.request ∧
      ∃ report t report' t',
        (run l).resolve ⟨.success, none⟩ (some (alice "weiß")) (s "Weiss") = .ok report t ∧
        (run l').resolve ⟨.success, none⟩ (some (alice "WEISS")) (s "WEIß") = .ok report' t' ∧
        report.Alike report' ∧ t'.attempt.request.username = some "bob" := by
  intro l l' capabilities alice s d p run
  have hl : List.Forall₂ Directory.Registration.Alike l l' :=
    .cons (.tenant 1 (by decide)) <| .cons (.tenant 2 (by decide)) <| .cons (.store 2 "main") <|
      .cons (.user "main" _) <| .cons (.organization "org-42" (by decide)) <|
        .cons (.userId "uid-1" "alice" none (by decide)) .nil
  have hp : p.Steady := Probe.steady_of_logger Logger.recording_default.steady rfl
  have hi : Option.Rel Identity.Alike (some (alice "weiß")) (some (alice "WEISS")) :=
    .some ⟨by decide, rfl, rfl, rfl⟩
  have hs : (s "Weiss").attempt.request.Alike (s "WEIß").attempt.request :=
    ⟨by decide, fun field => by cases field <;> rfl⟩
  obtain ⟨report, t, report', t', hr, hr', hreport, hrequest, _⟩ :=
    resolve_ignores_case {} d hl hp hp ⟨.success, none⟩ hi hs
  refine ⟨hl, hp, hi, hs, report, t, report', t', hr, hr', hreport, ?_⟩
  have husername : t.attempt.request.username = some "bob" := by
    rw [← sceneAfter_of_ok hr]
    unfold d s alice capabilities l
    rfl
  exact (hrequest.get .username).symm.trans husername

end Resolver

end Principal
