import Principal.Proofs.Handling

/-!
# Metadata

A probe under an observation, over a logger that raises at no record of an event, raises at exactly
those events that have a field of the name of an entry of the observation. So the entries that can
come between a strategy and its verdict are those that are named like a field of the handler's own
events.
-/

namespace Principal

namespace Observation

variable {o : Observation}

/-- No entry beside the standard ones has one of the names. -/
def Avoids (o : Observation) (names : List String) : Prop :=
  ∀ key ∈ Fields.keys o.extra, key ∉ names

instance (names : List String) : Decidable (o.Avoids names) :=
  inferInstanceAs (Decidable (∀ key ∈ Fields.keys o.extra, key ∉ names))

theorem Avoids.mono {names more : List String} (h : o.Avoids more) (hs : names ⊆ more) :
    o.Avoids names :=
  fun key hk hn => h key hk (hs hn)

theorem avoids_append {names more : List String} :
    o.Avoids (names ++ more) ↔ o.Avoids names ∧ o.Avoids more := by
  constructor
  · intro h
    exact ⟨h.mono (List.subset_append_left _ _), h.mono (List.subset_append_right _ _)⟩
  · rintro ⟨hn, hm⟩ key hk hmem
    rcases List.mem_append.1 hmem with h | h
    · exact hn key hk h
    · exact hm key hk h

theorem mem_keys_standard {key : String} (h : key ∈ Fields.keys o.standard) :
    key ∈ ["request_id", "handler_name", "tenant_domain"] := by
  simp only [Fields.keys, standard, List.mem_map, List.mem_filterMap, Option.map_eq_some_iff] at h
  obtain ⟨_, ⟨⟨k, value⟩, hm, s, _, rfl⟩, rfl⟩ := h
  simp only [List.mem_cons, Prod.mk.injEq, List.not_mem_nil, or_false] at hm ⊢
  rcases hm with ⟨hk, _⟩ | ⟨hk, _⟩ | ⟨hk, _⟩
  · exact .inl hk
  · exact .inr (.inl hk)
  · exact .inr (.inr hk)

/-- No event has a field of the name of a standard entry. -/
theorem standard_not_mem_names (event : Event) :
    ∀ key ∈ ["request_id", "handler_name", "tenant_domain"], key ∉ event.names := by
  have ha : ∀ key ∈ ["request_id", "handler_name", "tenant_domain"], key ∉ Event.allNames := by
    decide
  exact fun key hk hn => ha key hk (event.names_subset hn)

theorem avoids_names_iff {event : Event} :
    o.Avoids event.names ↔ ∀ key ∈ Fields.keys o.fields, key ∉ event.names := by
  constructor
  · intro h key hk
    rcases (Fields.mem_keys_update key o.standard o.extra).1 hk with hs | he
    · exact standard_not_mem_names event key (mem_keys_standard hs)
    · exact h key he
  · intro h key hk
    exact h key ((Fields.mem_keys_update key o.standard o.extra).2 (.inr hk))

end Observation

/-- A failure of a kind that a field has which is given twice. -/
def Failure.OfField (e : Failure) : Prop :=
  e.kind ∈ [Kind.type, .key]

theorem Failure.OfField.isRecoverable {e : Failure} (h : e.OfField) : e.isRecoverable = true := by
  have hall : ∀ kind ∈ [Kind.type, .key], kind.isRecoverable = true := by decide
  exact hall e.kind h

theorem Failure.OfField.not_isA_authentication {e : Failure} (h : e.OfField) :
    e.isA .authentication = false := by
  have hall : ∀ kind ∈ [Kind.type, .key], kind.isA .authentication = false := by decide
  exact hall e.kind h

namespace Probe

variable {p : Probe} {o : Observation} {event : Event}

@[simp] theorem logger_under (p : Probe) (o : Observation) : (p.under o).logger = p.logger := rfl

@[simp] theorem observed_under (p : Probe) (o : Observation) :
    (p.under o).observed = o.fields := rfl

theorem clash?_eq_none_iff :
    p.clash? event = none ↔ ∀ key ∈ Fields.keys p.observed, key ∉ event.names := by
  unfold clash?
  rw [List.find?_eq_none]
  simp only [Fields.contains_iff, Event.keys_fields]

theorem clash?_under_eq_none_iff : (p.under o).clash? event = none ↔ o.Avoids event.names := by
  rw [clash?_eq_none_iff, observed_under, Observation.avoids_names_iff]

/-- The logger of the probe raises at no record that an event makes under the observation. -/
def SteadyUnder (p : Probe) (o : Observation) : Prop :=
  ∀ event t, ∃ u, p.logger.keep ((p.under o).record event) t = .ok () u

theorem steadyUnder_iff :
    p.SteadyUnder o ↔ ∀ event, p.logger.failure? ((p.under o).record event) = none :=
  forall_congr' fun _ => Logger.failure?_eq_none_iff.symm

theorem failure?_under_eq_none_iff (hp : p.SteadyUnder o) :
    (p.under o).failure? event = none ↔ o.Avoids event.names := by
  rw [failure?_eq_none_iff_clash?, clash?_under_eq_none_iff, logger_under]
  exact and_iff_left (steadyUnder_iff.1 hp event)

theorem ofField_of_failure?_under (hp : p.SteadyUnder o) (handling : Bool) {e : Failure}
    (he : ((p.under o).amid handling).failure? event = some e) : e.OfField := by
  unfold failure? at he
  cases hc : ((p.under o).amid handling).clash? event with
  | some key =>
      rw [hc] at he
      cases he
      exact Sink.kind_repeated _ _ _ _
  | none =>
      rw [hc] at he
      cases (steadyUnder_iff.1 hp event).symm.trans he

theorem note_under (hp : p.SteadyUnder o) (handling : Bool) (event : Event) (t : Trace) :
    (o.Avoids event.names ∧ ∃ u, ((p.under o).amid handling).note event t = .ok () u) ∨
      ¬ o.Avoids event.names ∧
        ∃ e u, e.OfField ∧ ((p.under o).amid handling).note event t = .error e u := by
  rw [← failure?_under_eq_none_iff hp, ← failure?_amid_eq_none_iff]
  cases hf : ((p.under o).amid handling).failure? event with
  | none => exact .inl ⟨rfl, _, note_of_failure?_eq_none hf t⟩
  | some e =>
      have hn := note_of_failure?_eq_some hf t
      exact .inr ⟨nofun, e, _, ofField_of_failure?_under hp _ hf, hn⟩

end Probe

theorem Event.names_publicationFailed (handler : String) (e : Failure) :
    (publicationFailed handler e).names = ["handler", "error", "error_type"] := rfl

def Resolver.under (r : Resolver) (o : Observation) : Resolver :=
  { r with probe := r.probe.under o }

def Handler.under (h : Handler) (o : Observation) : Handler :=
  { h with probe := h.probe.under o }

@[simp] theorem Handler.probe_under (h : Handler) (o : Observation) :
    (h.under o).probe = h.probe.under o := rfl

@[simp] theorem Handler.name_under (h : Handler) (o : Observation) :
    (h.under o).name = h.name := rfl

section Under

variable {h : Handler} {r : Resolver} {o : Observation} {strategy : Strategy} {outcome : Outcome}
  {e : Failure} {a : Attempt} {s : Scene}

/-- No event of a call of the resolver has a field of the name of an entry. -/
def Resolver.Avoided (r : Resolver) (o : Observation) (outcome : Outcome)
    (identity? : Option Identity) (request : RequestContext) : Prop :=
  ∀ event ∈ Act.events (r.acts outcome identity? request), o.Avoids event.names

theorem Resolver.passes_under_iff (hl : r.probe.SteadyUnder o) (outcome : Outcome)
    (identity? : Option Identity) (request : RequestContext) :
    (r.under o).probe.Passes ((r.under o).acts outcome identity? request) ↔
      r.Avoided o outcome identity? request := by
  have hacts : (r.under o).acts = r.acts := r.acts_withProbe _
  unfold Probe.Passes Resolver.Avoided
  rw [hacts]
  exact forall₂_congr fun _ _ => Probe.failure?_under_eq_none_iff hl

/-- A call of the resolver raises nothing, or nothing that the handler cannot note. -/
def Resolver.Contained (r : Resolver) (o : Observation) (outcome : Outcome) (a : Attempt) : Prop :=
  r.Avoided o outcome a.identity? a.request ∨ o.Avoids ["handler", "error", "error_type"]

theorem Resolver.resolve_under (hl : r.probe.SteadyUnder o) (hc : r.collaborators.Recoverable)
    (outcome : Outcome) (identity? : Option Identity) (s : Scene) :
    (r.Avoided o outcome identity? s.attempt.request ∧
        ∃ report t, (r.under o).resolve outcome identity? s = .ok report t) ∨
      ¬ r.Avoided o outcome identity? s.attempt.request ∧
        ∃ e t, e.OfField ∧ (r.under o).resolve outcome identity? s = .error e t := by
  rw [← passes_under_iff hl]
  by_cases hp : (r.under o).probe.Passes ((r.under o).acts outcome identity? s.attempt.request)
  · obtain ⟨d?, hd⟩ := (r.under o).exists_decision? hc outcome identity? s.attempt.request
    refine .inl ⟨hp, ?_⟩
    rw [resolve_of_passes hp, hd]
    exact ⟨_, _, rfl⟩
  · refine .inr ⟨hp, ?_⟩
    rcases (r.under o).resolve_cases outcome identity? s with
      hq | ⟨_, _, _, _, e, _, he, hr⟩ | ⟨_, e, _, he, hr⟩
    · exact absurd hq hp
    · exact ⟨e, _, Probe.ofField_of_failure?_under hl _ he, hr⟩
    · exact ⟨e, _, Probe.ofField_of_failure?_under hl false he, hr⟩

namespace Handler

theorem postAuthenticate_under (hh : h.probe.SteadyUnder o) (hl : r.probe.SteadyUnder o)
    (hc : r.collaborators.Recoverable) (outcome : Outcome) (s : Scene) :
    (r.Contained o outcome s.attempt ∧
        ∃ report t, (h.under o).postAuthenticate (r.under o).resolve outcome s = .ok report t) ∨
      ¬ r.Contained o outcome s.attempt ∧
        ∃ e t, e.OfField ∧
          (h.under o).postAuthenticate (r.under o).resolve outcome s = .error e t := by
  rcases Resolver.resolve_under hl hc outcome s.attempt.identity? s with
    ⟨ha, report, t, hr⟩ | ⟨ha, e, t, hk, hr⟩
  · exact .inl ⟨.inl ha, report, t, postAuthenticate_of_ok hr⟩
  · have hw := postAuthenticate_of_error (h := h.under o) hr hk.isRecoverable
    rw [probe_under, name_under] at hw
    rcases Probe.note_under hh true (.publicationFailed h.name e) t.trace with
      ⟨hn, u, hu⟩ | ⟨hn, e', u, hk', hu⟩
    · rw [hu] at hw
      exact .inl ⟨.inr hn, _, _, hw⟩
    · rw [hu] at hw
      exact .inr ⟨fun hx => hx.elim ha hn, e', _, hk', hw⟩

theorem authenticate_under_of_ok (hh : h.probe.SteadyUnder o) (hl : r.probe.SteadyUnder o)
    (hc : r.collaborators.Recoverable) (hs : strategy s.attempt = .ok outcome a) :
    ((o.Avoids (h.verdictEvent outcome).names ∧ r.Contained o outcome a) ∧
        ∃ t, (h.under o).authenticate strategy (r.under o).resolve s = .ok outcome t) ∨
      ¬ (o.Avoids (h.verdictEvent outcome).names ∧ r.Contained o outcome a) ∧
        ∃ e t, e.OfField ∧
          (h.under o).authenticate strategy (r.under o).resolve s = .error e t := by
  have hv : (h.under o).verdictEvent outcome = h.verdictEvent outcome := rfl
  have hw : (h.under o).authenticateWithReport strategy (r.under o).resolve s = _ :=
    authenticateWithReport_of_ok hs
  rw [hv, probe_under] at hw
  have hnote := Probe.note_under hh false (h.verdictEvent outcome) s.trace
  rw [Probe.amid_false] at hnote
  rcases hnote with ⟨hn, u, hu⟩ | ⟨hn, e, u, hk, hu⟩
  · rcases postAuthenticate_under hh hl hc outcome ⟨a, u⟩ with
      ⟨hx, report, t, hp⟩ | ⟨hx, e, t, hk, hp⟩
    · simp only [hu, hp] at hw
      exact .inl ⟨⟨hn, hx⟩, t, authenticate_of_ok hw⟩
    · simp only [hu, hp] at hw
      exact .inr ⟨fun hy => hx hy.2, e, t, hk, authenticate_of_error hw⟩
  · rw [hu] at hw
    exact .inr ⟨fun hy => hn hy.1, e, _, hk, authenticate_of_error hw⟩

theorem authenticate_under_of_error (hh : h.probe.SteadyUnder o)
    (hs : strategy s.attempt = .error e a) (he : e.isA .authentication = true)
    (publication : Publication) :
    (o.Avoids ["handler", "error", "error_type"] ∧
        ∃ t, (h.under o).authenticate strategy publication s = .error e t) ∨
      ¬ o.Avoids ["handler", "error", "error_type"] ∧
        ∃ e' t, e'.OfField ∧
          (h.under o).authenticate strategy publication s = .error e' t := by
  have hv : (h.under o).verdict strategy s = _ := verdict_of_error hs
  rw [if_pos he, probe_under, name_under] at hv
  rcases Probe.note_under hh true (.authenticationErrored h.name e) s.trace with
    ⟨hn, u, hu⟩ | ⟨hn, e', u, hk, hu⟩
  · rw [hu] at hv
    exact .inl ⟨hn, _, authenticate_of_error (authenticateWithReport_of_verdict_eq_error hv)⟩
  · rw [hu] at hv
    exact .inr ⟨hn, e', _, hk,
      authenticate_of_error (authenticateWithReport_of_verdict_eq_error hv)⟩

/-- Whatever the strategy decides, by an outcome or by a failure to authenticate, is what the caller
gets. -/
def KeepsVerdict (h : Handler) (publication : Publication) : Prop :=
  ∀ (strategy : Strategy) (s : Scene),
    (∀ outcome a, strategy s.attempt = .ok outcome a →
      ∃ t, h.authenticate strategy publication s = .ok outcome t) ∧
    ∀ e a, strategy s.attempt = .error e a → e.isA .authentication = true →
      ∃ t, h.authenticate strategy publication s = .error e t

theorem authenticate_under_eq_ok_iff (hh : h.probe.SteadyUnder o) (hl : r.probe.SteadyUnder o)
    (hc : r.collaborators.Recoverable) (hs : strategy s.attempt = .ok outcome a) :
    (∃ t, (h.under o).authenticate strategy (r.under o).resolve s = .ok outcome t) ↔
      o.Avoids (h.verdictEvent outcome).names ∧ r.Contained o outcome a := by
  rcases authenticate_under_of_ok hh hl hc hs with ⟨hx, ht⟩ | ⟨hx, e, t, _, he⟩
  · exact iff_of_true ht hx
  · refine iff_of_false ?_ hx
    rintro ⟨u, hu⟩
    rw [he] at hu
    cases hu

theorem authenticate_under_eq_error_iff (hh : h.probe.SteadyUnder o)
    (hs : strategy s.attempt = .error e a) (he : e.isA .authentication = true)
    (publication : Publication) :
    (∃ t, (h.under o).authenticate strategy publication s = .error e t) ↔
      o.Avoids ["handler", "error", "error_type"] := by
  rcases authenticate_under_of_error hh hs he publication with ⟨hx, ht⟩ | ⟨hx, e', t, hk, ht⟩
  · exact iff_of_true ht hx
  · refine iff_of_false ?_ hx
    rintro ⟨u, hu⟩
    rw [ht] at hu
    cases hu
    cases hk.not_isA_authentication.symm.trans he

theorem names_verdictEvent_subset (h : Handler) (outcome : Outcome) :
    (h.verdictEvent outcome).names ⊆ ["handler", "detail"] := by
  unfold verdictEvent
  cases outcome.isSuccess with
  | true => exact List.cons_subset_cons _ (List.nil_subset _)
  | false => exact List.Subset.refl _

theorem keepsVerdict_under_iff (hh : h.probe.SteadyUnder o) (hl : r.probe.SteadyUnder o)
    (hc : r.collaborators.Recoverable) :
    (h.under o).KeepsVerdict (r.under o).resolve ↔
      o.Avoids ["handler", "detail", "error", "error_type"] := by
  constructor
  · intro hk
    have hr : o.Avoids ["handler", "detail"] :=
      ((authenticate_under_eq_ok_iff hh hl hc rfl).1
        ((hk (fun a => .ok ⟨.failed, none⟩ a) ⟨{}, {}⟩).1 _ _ rfl)).1
    have he : o.Avoids ["handler", "error", "error_type"] :=
      (authenticate_under_eq_error_iff hh rfl rfl _).1
        ((hk (fun a => .error (.plain .authentication "") a) ⟨{}, {}⟩).2 _ _ rfl rfl)
    exact (Observation.avoids_append.2 ⟨hr, he⟩).mono (by decide)
  · intro ha strategy s
    have he : o.Avoids ["handler", "error", "error_type"] := ha.mono (by decide)
    refine ⟨?_, ?_⟩
    · intro outcome a hs
      have hv : (h.verdictEvent outcome).names ⊆ ["handler", "detail", "error", "error_type"] :=
        List.Subset.trans (names_verdictEvent_subset h outcome) (by decide)
      exact (authenticate_under_eq_ok_iff hh hl hc hs).2 ⟨ha.mono hv, .inr he⟩
    · intro e a hs hauth
      exact (authenticate_under_eq_error_iff hh hs hauth _).2 he

/-- An outcome is lost exactly where an entry is named like a field of its event, or like one of an
event of the resolver and also like one of the event for the failure which that makes. A failure to
authenticate is lost exactly where an entry is named like a field of its event. So an observation
loses no verdict at all exactly if no entry is named like a field of the handler's events. -/
theorem authenticate_under_keeps_iff (h : Handler) (r : Resolver) (o : Observation)
    (hh : h.probe.SteadyUnder o) (hl : r.probe.SteadyUnder o)
    (hc : r.collaborators.Recoverable) :
    (∀ (strategy : Strategy) s outcome a, strategy s.attempt = .ok outcome a →
      ((∃ t, (h.under o).authenticate strategy (r.under o).resolve s = .ok outcome t) ↔
        o.Avoids (h.verdictEvent outcome).names ∧
          ((∀ event ∈ Act.events (r.acts outcome a.identity? a.request), o.Avoids event.names) ∨
            o.Avoids ["handler", "error", "error_type"]))) ∧
    (∀ (strategy : Strategy) s e a, strategy s.attempt = .error e a →
      e.isA .authentication = true →
      ((∃ t, (h.under o).authenticate strategy (r.under o).resolve s = .error e t) ↔
        o.Avoids ["handler", "error", "error_type"])) ∧
    ((h.under o).KeepsVerdict (r.under o).resolve ↔
      o.Avoids ["handler", "detail", "error", "error_type"]) := by
  refine ⟨?_, ?_, keepsVerdict_under_iff hh hl hc⟩
  · intro strategy s outcome a hs
    exact authenticate_under_eq_ok_iff hh hl hc hs
  · intro strategy s e a hs he
    exact authenticate_under_eq_error_iff hh hs he _

/-- An entry named like the handler's own field takes a success from the caller. -/
theorem authenticate_under_loses_success :
    let o : Observation := { requestId := some "req-1", extra := [("handler", .str "sso")] }
    let h : Handler := { name := "basic" }
    let r : Resolver :=
      { collaborators :=
          { tenantDomain := fun _ => .ok "acme.com"
            tenantId := fun _ => .ok 1
            userStore := fun _ => .ok none } }
    let strategy : Strategy := fun a => .ok ⟨.success, none⟩ a
    h.probe.SteadyUnder o ∧ r.probe.SteadyUnder o ∧ r.collaborators.Recoverable ∧
      (h.under o).authenticate strategy (r.under o).resolve ⟨{}, {}⟩ =
        .error (.plain .type "info() got multiple values for keyword argument 'handler'")
          ⟨{}, {}⟩ ∧
      ¬ (h.under o).KeepsVerdict (r.under o).resolve := by
  intro o h r strategy
  have he : (h.under o).authenticate strategy (r.under o).resolve ⟨{}, {}⟩ =
      .error (.plain .type "info() got multiple values for keyword argument 'handler'")
        ⟨{}, {}⟩ := by rfl
  refine ⟨fun _ _ => ⟨_, rfl⟩, fun _ _ => ⟨_, rfl⟩, ?_, he, ?_⟩
  · intro call e h
    cases call <;> simp [Collaborators.Raises, r] at h
  · intro hk
    obtain ⟨t, ht⟩ := (hk strategy ⟨{}, {}⟩).1 ⟨.success, none⟩ {} rfl
    rw [he] at ht
    cases ht

/-- Entries of other names lose no verdict, although the events of the resolver may have them. -/
theorem authenticate_under_keeps_request_entries :
    let o : Observation :=
      { requestId := some "req-1", extra := [("username", .str "alice"), ("trace", .int 7)] }
    let h : Handler := { name := "basic" }
    let r : Resolver :=
      { collaborators :=
          { tenantDomain := fun _ => .ok "acme.com"
            tenantId := fun _ => .ok 1
            userStore := fun _ => .error (.plain .connection "lost") } }
    h.probe.SteadyUnder o ∧ r.probe.SteadyUnder o ∧ r.collaborators.Recoverable ∧
      (h.under o).KeepsVerdict (r.under o).resolve := by
  intro o h r
  have hl : ({} : Probe).SteadyUnder o := fun _ _ => ⟨_, rfl⟩
  have hc : r.collaborators.Recoverable := by
    intro call e h
    cases call <;> simp [Collaborators.Raises, r] at h
    rw [← h]
    rfl
  refine ⟨hl, hl, hc, ?_⟩
  have ho : o.Avoids ["handler", "detail", "error", "error_type"] := by decide
  exact (authenticate_under_keeps_iff h r o hl hl hc).2.2.2 ho

end Handler

end Under

end Principal
