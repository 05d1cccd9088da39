import Principal.Proofs.Metadata
import Principal.Proofs.Wiring

/-!
# Decoration of the log

Entries of an observation that no event has a field for, and that the log neither refuses nor takes
for itself, are added to every record and change nothing else. A log without parts and stages takes
entries of every name as they are; a configured one takes those that are not named like something
that its library keeps for itself, and decorates its records with no others.
-/

namespace Principal

/-- The record with the entries of an observation after its own fields. -/
def Record.under (o : Observation) (record : Record) : Record :=
  { record with fields := record.fields ++ o.fields }

theorem Record.level_under (o : Observation) (record : Record) :
    (record.under o).level = record.level := rfl

theorem Record.keys_under (o : Observation) (record : Record) :
    Fields.keys (record.under o).fields = Fields.keys record.fields ++ Fields.keys o.fields :=
  List.map_append

namespace Sink

/-- Fields of these names go through the sink as they are: they meet no parameter of a part, and
none of them is held back. -/
structure Spares (s : Sink) (names : List String) : Prop where
  parts : ∀ level, ∀ part ∈ s.parts level, ∀ name ∈ names, name ∉ part.parameters
  shows : ∀ name ∈ names, s.shows name = true

/-- A sink that has no parts and holds nothing back takes fields of all names. -/
theorem spares_of_plain {s : Sink} (hp : ∀ level, s.parts level = [])
    (hs : ∀ name, s.shows name = true) (names : List String) : s.Spares names where
  parts level part hpart := by
    rw [hp level] at hpart
    cases hpart
  shows name _ := hs name

theorem Part.refusal?_append {part : Part} {more : List String}
    (h : ∀ name ∈ more, name ∉ part.parameters) (names : List String) :
    part.refusal? (names ++ more) = part.refusal? names := by
  have hmore := Option.map_eq_none_iff.1 (refusal?_eq_none_iff.2 h)
  simp only [refusal?, List.find?_append, hmore, Option.or_none]

theorem findSome?_refusal?_append {parts : List Part} {more : List String}
    (h : ∀ part ∈ parts, ∀ name ∈ more, name ∉ part.parameters) (names : List String) :
    parts.findSome? (·.refusal? (names ++ more)) = parts.findSome? (·.refusal? names) := by
  induction parts with
  | nil => rfl
  | cons part parts ih =>
      obtain ⟨hpart, hparts⟩ := List.forall_mem_cons.1 h
      rw [List.findSome?_cons, List.findSome?_cons, Part.refusal?_append hpart, ih hparts]

theorem Spares.refusal?_append {s : Sink} {more : List String} (h : s.Spares more) (level : Level)
    (names : List String) : s.refusal? level (names ++ more) = s.refusal? level names :=
  findSome?_refusal?_append (h.parts level) names

end Sink

namespace Logging

/-- The names that a configured log keeps for itself if every record gets through. -/
def taken (l : Logging) (library : Library) : List String :=
  (library.parts true).flatMap (·.parameters) ++ l.stages.flatMap library.takes

variable (l : Logging) {library : Library} {names : List String}

theorem not_mem_taken_iff {level : Level} (h : library.admits l.leastRank level = true)
    {name : String} :
    name ∉ l.taken library ↔
      (∀ part ∈ (l.sink library).parts level, name ∉ part.parameters) ∧
        (l.sink library).shows name = true := by
  have hparts : (l.sink library).parts level = library.parts true := congrArg library.parts h
  have hshows : (l.sink library).shows name = true ↔ name ∉ l.stages.flatMap library.takes :=
    l.shows_iff
  rw [hparts, hshows, taken, List.mem_append, not_or, List.mem_flatMap]
  simp only [not_exists, not_and]

variable (hd : library.Documented)

include hd

theorem taken_subset_reserved : l.taken library ⊆ l.reserved := by
  intro name hn
  rcases List.mem_append.1 hn with hn | hn
  · obtain ⟨part, hpart, hparam⟩ := List.mem_flatMap.1 hn
    exact List.mem_append_left _ (hd.parameters true part hpart hparam)
  · exact l.flatMap_takes_subset_reserved hd hn

theorem admits_of_leastRank_le (hl : l.leastRank ≤ Level.debug.rank) (level : Level) :
    library.admits l.leastRank level = true := by
  have hrank : Level.debug.rank ≤ level.rank := by cases level <;> decide
  rw [hd.admits]
  exact decide_eq_true (Nat.le_trans hl hrank)

theorem spares_of_not_reserved (h : ∀ name ∈ names, name ∉ l.reserved) :
    (l.sink library).Spares names where
  parts _ _ hp name hn hm := h name hn (l.reserved_of_parts hd hp hm)
  shows name hn := l.shows_of_not_reserved hd (h name hn)

theorem spares_of_not_taken (hl : l.leastRank ≤ Level.debug.rank)
    (h : ∀ name ∈ names, name ∉ l.taken library) : (l.sink library).Spares names where
  parts level part hp name hn :=
    ((l.not_mem_taken_iff (l.admits_of_leastRank_le hd hl level)).1 (h name hn)).1 part hp
  shows name hn :=
    ((l.not_mem_taken_iff (l.admits_of_leastRank_le hd hl .debug)).1 (h name hn)).2

end Logging

namespace Logger

variable {l : Logger} {o : Observation}

theorem only_under (h : l.Spares (Fields.keys o.fields)) (record : Record) :
    (record.under o).only l.shows = (record.only l.shows).under o := by
  have hshown : ∀ field ∈ o.fields, l.shows field.1 = true :=
    fun field hf => h.shows _ (List.mem_map_of_mem hf)
  simp only [Record.only, Record.under, List.filter_append, List.filter_eq_self.2 hshown]

/-- The logger raises on a record alone, whatever fields it has. -/
def IgnoresFields (l : Logger) : Prop :=
  ∀ record fields, l.fault? { record with fields } = l.fault? record

theorem failure?_under (h : l.Spares (Fields.keys o.fields)) (hf : l.IgnoresFields)
    (record : Record) : l.failure? (record.under o) = l.failure? record := by
  have hfault : l.fault? ((record.only l.shows).under o) = l.fault? (record.only l.shows) :=
    hf _ _
  simp only [failure?, Record.level_under, Record.keys_under, h.refusal?_append, only_under h,
    hfault]

theorem kept_under (h : l.Spares (Fields.keys o.fields)) (record : Record) :
    l.kept (record.under o) = (l.kept record).map (Record.under o) := by
  simp only [kept, Record.level_under, Record.keys_under, h.refusal?_append, only_under h]
  cases l.refusal? record.level (Fields.keys record.fields) with
  | some e => rfl
  | none => cases l.admits record.level <;> rfl

/-- A field that is kept has met no parameter of a part and is not held back. -/
theorem spares_of_mem_kept {record r : Record} (h : r ∈ l.kept record) {name : String}
    (hn : name ∈ Fields.keys r.fields) :
    (∀ part ∈ l.parts record.level, name ∉ part.parameters) ∧ l.shows name = true := by
  obtain rfl := eq_of_mem_kept h
  obtain ⟨field, hfield, rfl⟩ := List.mem_map.1 hn
  obtain ⟨hmem, hshown⟩ := List.mem_filter.1 hfield
  refine ⟨fun part hpart => ?_, hshown⟩
  unfold kept at h
  cases hr : l.refusal? record.level (Fields.keys record.fields) with
  | some e =>
      rw [hr] at h
      cases h
  | none =>
      have hpart := List.findSome?_eq_none_iff.1 hr part hpart
      exact Sink.Part.refusal?_eq_none_iff.1 hpart _ (List.mem_map_of_mem hmem)

end Logger

namespace Probe

variable {p : Probe} {o : Observation}

/-- The probe bound to the observation raises where it did, and its records have the entries too. -/
theorem through_under (ho : p.observation? = none) (ha : ∀ event : Event, o.Avoids event.names)
    (hs : p.logger.Spares (Fields.keys o.fields)) (hf : p.logger.IgnoresFields) :
    p.Through (some ∘ Record.under o) (p.under o) := by
  have hclash : ∀ event, (p.under o).clash? event = none :=
    fun event => clash?_under_eq_none_iff.2 (ha event)
  have hrecord : ∀ event, (p.under o).record event = (p.record event).under o := by
    intro event
    simp only [record, Record.under, observed, ho, List.append_nil]
    rfl
  constructor
  · intro handling event
    have hamid : ((p.under o).amid handling).clash? event = none := hclash event
    rw [failure?_of_unobserved (p := p.amid handling) ho]
    simp only [failure?, hamid]
    change p.logger.failure? ((p.under o).record event) = p.logger.failure? (p.record event)
    rw [hrecord, Logger.failure?_under hs hf]
  · intro event
    rw [kept_of_unobserved ho, List.filterMap_eq_map, ← Logger.kept_under hs, ← hrecord]
    simp only [kept, hclash, logger_under]

end Probe

/-- What the log raises in a turn does not hang on the fields of a record. -/
def Turn.IgnoresFields (turn : Turn) : Prop :=
  ∀ record fields, turn.logFault? { record with fields } = turn.logFault? record

namespace Session

/-- The faults of a session name the record that the log raises on. -/
theorem ignoresFields_of_turns {s : Session} {steps : List (String × Step)} :
    ∀ turn ∈ s.turns steps, turn.IgnoresFields := by
  induction steps generalizing s with
  | nil => exact fun _ h => absurd h List.not_mem_nil
  | cons head steps ih =>
      obtain ⟨name, step⟩ := head
      intro turn hturn
      rcases List.mem_cons.1 hturn with rfl | hturn
      · exact fun _ _ => rfl
      · exact ih turn hturn

namespace Setup

variable {setup : Setup} {o : Observation}

theorem through_under (hu : setup.observation? = none) (ha : ∀ event : Event, o.Avoids event.names)
    (hs : setup.sink.Spares (Fields.keys o.fields)) {turn : Turn} (hf : turn.IgnoresFields) :
    setup.Through (some ∘ Record.under o) turn { setup with observation? := some o } := by
  have hlogger : (setup.logger turn).IgnoresFields := by
    intro record fields
    simp only [logger, hf record fields]
  exact {
    naming := rfl
    handlerName := rfl
    priority := rfl
    enabled := rfl
    resolverProbe := Probe.through_under hu ha hs hlogger
    handlerProbe := Probe.through_under hu ha hs hlogger }

end Setup

/-- The answer with the entries of an observation added to every record. -/
def Answer.under (o : Observation) (answer : Answer) : Answer :=
  { answer with trace := { answer.trace with log := answer.trace.log.map (Record.under o) } }

theorem Answer.through_under (o : Observation) (answer : Answer) :
    answer.through (some ∘ Record.under o) = answer.under o := by
  simp only [Answer.through, Trace.through, Answer.under, List.filterMap_eq_map]

theorem Setup.serve_under {setup : Setup} {o : Observation} (hu : setup.observation? = none)
    (ha : ∀ event : Event, o.Avoids event.names)
    (hs : setup.sink.Spares (Fields.keys o.fields)) {turns : List Turn}
    (hf : ∀ turn ∈ turns, turn.IgnoresFields) (attempts : Fields Attempt) :
    { setup with observation? := some o }.serve attempts turns =
      (setup.serve attempts turns).map (·.under o) := by
  have hserve := Setup.serve_through (fun turn ht => Setup.through_under hu ha hs (hf turn ht))
    attempts
  simpa only [Answer.through_under] using hserve

theorem run_under {s : Session} {o : Observation} (hu : s.setup.observation? = none)
    (ha : ∀ event : Event, o.Avoids event.names)
    (hs : s.setup.sink.Spares (Fields.keys o.fields)) (steps : List (String × Step)) :
    { s with setup := { s.setup with observation? := some o } }.run steps =
      (s.run steps).map (·.under o) := by
  rw [run_eq_serve, run_eq_serve, turns_setup]
  exact Setup.serve_under hu ha hs ignoresFields_of_turns s.attempts

end Session

namespace Logging

variable {l : Logging} {library : Library} {o : Observation}

/-- The standard entries are named like nothing that a configured log keeps for itself. -/
theorem not_mem_of_avoids {names : List String} (hn : names ⊆ l.reserved) (h : o.Avoids names) :
    ∀ key ∈ Fields.keys o.fields, key ∉ names := by
  have hr : ∀ colored, ∀ key ∈ ["request_id", "handler_name", "tenant_domain"],
      key ∉ reserved ⟨colored, 0⟩ := by decide
  intro key hk
  rcases (Fields.mem_keys_update key o.standard o.extra).1 hk with hs | he
  · exact fun hmem => hr l.colored key (Observation.mem_keys_standard hs) (hn hmem)
  · exact h key he

end Logging

open Session

/-- A call that has nothing to publish logs that alone. -/
theorem Session.log_of_skipped (s : Session) :
    (s.run [("main", .resolve (.ok ⟨.failed, none⟩) none)]).map (·.trace.log) =
      [s.resolver.probe.kept (.resolutionSkipped "authentication_not_successful")] := by
  have haction : s.action (.resolve (.ok ⟨.failed, none⟩) none) = (do
      return .report (← s.resolver.skip "authentication_not_successful")) := rfl
  rw [run_cons, run_nil, List.map_singleton, step, haction]
  simp only [Resolver.skip, bind, EStateM.bind, Traced.staged]
  rcases s.resolver.probe.note_cases (.resolutionSkipped "authentication_not_successful") {} with
    hn | ⟨e, hn⟩
  · rw [hn]
    rfl
  · rw [hn]
    rfl

namespace Probe

variable {p : Probe} {o : Observation} {l : Logging} {library : Logging.Library}
  (hd : library.Documented) (hl : l.leastRank ≤ Level.debug.rank) (ho : p.observation? = none)
  (hs : p.logger.toSink = l.sink library)

include hd hl ho hs

theorem kept_of_logging (event : Event) : p.kept event = [p.record event] := by
  have htakes : p.logger.Takes (p.record event) := takes_of_logging ho event hd hs
  have hadmits : p.logger.admits (p.record event).level = true := by
    rw [hs]
    exact l.admits_of_leastRank_le hd hl _
  rw [kept_of_unobserved ho, htakes.kept_eq, if_pos hadmits]

/-- Entries that a configured log adds to a record are named like nothing that it keeps for
itself. -/
theorem avoids_taken_of_kept_under {event : Event}
    (h : (p.under o).kept event = (p.kept event).map (Record.under o)) :
    o.Avoids (l.taken library) := by
  have hr : (p.record event).under o ∈ (p.under o).kept event := by
    rw [h, kept_of_logging hd hl ho hs]
    exact List.mem_singleton_self _
  intro key hk
  have hmem : key ∈ Fields.keys ((p.record event).under o).fields := by
    rw [Record.keys_under]
    exact List.mem_append_right _ ((Fields.mem_keys_update key o.standard o.extra).2 (.inr hk))
  have hspared := Logger.spares_of_mem_kept (mem_kept_logger hr) hmem
  rw [logger_under, hs] at hspared
  exact (l.not_mem_taken_iff (l.admits_of_leastRank_le hd hl _)).2 hspared

end Probe

namespace Session.Setup

variable {setup : Setup} {l : Logging} {library : Logging.Library} {o : Observation}

theorem avoids_taken_of_run (hd : library.Documented) (hl : l.leastRank ≤ Level.debug.rank)
    (hu : setup.observation? = none) (hs : setup.sink = l.sink library)
    (h : ∀ steps, run { setup := { setup with observation? := some o } } steps =
      (run { setup } steps).map (·.under o)) : o.Avoids (l.taken library) := by
  have hplain := congrArg (List.map (List.map (Record.under o))) (log_of_skipped { setup })
  have hlogs := congrArg (List.map (·.trace.log))
    (h [("main", .resolve (.ok ⟨.failed, none⟩) none)])
  rw [List.map_map] at hplain
  rw [List.map_map, log_of_skipped] at hlogs
  exact Probe.avoids_taken_of_kept_under (p := { setup : Session }.resolver.probe) hd hl hu hs
    (List.singleton_inj.1 (hlogs.trans hplain))

variable (setup) in
theorem run_under_iff (hd : library.Documented) (hl : l.leastRank ≤ Level.debug.rank)
    (ha : ∀ event : Event, o.Avoids event.names) (hu : setup.observation? = none)
    (hs : setup.sink = l.sink library) :
    (∀ directory faults attempts steps,
        run { setup := { setup with observation? := some o }, directory, faults, attempts } steps =
          (run { setup, directory, faults, attempts } steps).map (·.under o)) ↔
      o.Avoids (l.taken library) := by
  constructor
  · intro h
    exact avoids_taken_of_run hd hl hu hs (h {} {} [])
  · intro h directory faults attempts steps
    refine run_under (s := { setup, directory, faults, attempts }) hu ha ?_ steps
    rw [hs]
    exact l.spares_of_not_taken hd hl (Logging.not_mem_of_avoids (l.taken_subset_reserved hd) h)

end Session.Setup

/-- An observation of which no entry is named like a field of an event only decorates a log that
takes its entries as they are: all turns and steps are answered as without it, whatever fails in
them, but for the entries that every record has after its own fields. A log without parts that
holds nothing back takes entries of every name, and a configured one those that are named like
nothing that its library is documented to keep for itself. If every record gets through a configured
log, it decorates all runs exactly if no entry is named like something that it does keep. The
standard entries are named like no field of an event. -/
theorem Session.Setup.serve_observed (o : Observation)
    (ha : ∀ event : Event, o.Avoids event.names) :
    (∀ setup : Setup, setup.sink.Spares (Fields.keys o.fields) →
      let bound : Setup := { setup with observation? := some o }
      let unbound : Setup := { setup with observation? := none }
      (∀ turns attempts, (∀ turn ∈ turns, turn.IgnoresFields) →
        bound.serve attempts turns = (unbound.serve attempts turns).map (·.under o)) ∧
      ∀ directory faults attempts steps,
        run { setup := bound, directory, faults, attempts } steps =
          (run { setup := unbound, directory, faults, attempts } steps).map (·.under o)) ∧
    (∀ sink : Sink, (∀ level, sink.parts level = []) → (∀ name, sink.shows name = true) →
      ∀ names, sink.Spares names) ∧
    (∀ library : Logging.Library, library.Documented → ∀ l : Logging,
      (o.Avoids l.reserved → (l.sink library).Spares (Fields.keys o.fields)) ∧
      (l.leastRank ≤ Level.debug.rank → ∀ settings handlerName,
        let wired (observation? : Option Observation) : Setup :=
          .ofSettings settings l library handlerName observation?
        (∀ directory faults attempts steps,
          run { setup := wired (some o), directory, faults, attempts } steps =
            (run { setup := wired none, directory, faults, attempts } steps).map (·.under o)) ↔
          o.Avoids (l.taken library))) ∧
    ∀ event : Event, ∀ key ∈ ["request_id", "handler_name", "tenant_domain"],
      key ∉ event.names := by
  refine ⟨?_, fun _ => Sink.spares_of_plain, fun library hd l => ⟨fun h => ?_, ?_⟩,
    Observation.standard_not_mem_names⟩
  · intro setup hs bound unbound
    have hu : unbound.observation? = none := rfl
    refine ⟨fun turns attempts hf => serve_under hu ha hs hf attempts, ?_⟩
    intro directory faults attempts steps
    exact run_under (s := { setup := unbound, directory, faults, attempts }) hu ha hs steps
  · exact l.spares_of_not_reserved hd (Logging.not_mem_of_avoids (List.Subset.refl _) h)
  · intro hl settings handlerName wired
    exact run_under_iff (wired none) hd hl ha rfl rfl

/-- A log that raises with an interrupt does so in the same place, and what it has kept by then is
decorated, with entries of names too that a configured log keeps for itself. -/
theorem Session.Setup.serve_observed_interrupted :
    let traced : Observation := { requestId := some "req-1", extra := [("trace", .int 7)] }
    let o : Observation :=
      { requestId := some "req-1", extra := [("level", .str "gold"), ("trace", .int 7)] }
    let stop : Failure := .plain .interrupt "disk full"
    let success : Except Failure Outcome := .ok ⟨.success, none⟩
    let alice : Identity := { username := "alice", tenantDomain := some "acme.com" }
    let s (observation? : Option Observation) : Session :=
      { setup := { observation? }
        directory := { userIds? := some {} }
        faults := { log := [("identity_user_id_unresolved", some stop)] } }
    let logging : Logging := { colored := false, leastRank := 10 }
    let wired (observation? : Option Observation) : Session :=
      { s none with setup := .ofSettings {} logging .standard "basic" observation? }
    let steps : List (String × Step) :=
      [("main", .authenticate { identity? := some (some alice), verdict := success })]
    let turn : Turn :=
      { attempt := "main"
        task := .resolve success (some alice)
        collaborators := (s none).directory.collaborators
        logFault? := fun _ => some stop }
    let told (answers : List Answer) := answers.map (·.trace.log.map (Fields.keys ·.fields))
    (∀ event : Event, o.Avoids event.names) ∧ ({} : Sink).Spares (Fields.keys o.fields) ∧
      turn.IgnoresFields ∧ Logging.Library.standard.Documented ∧ traced.Avoids logging.reserved ∧
      (s (some o)).run steps = ((s none).run steps).map (·.under o) ∧
      (s (some o)).setup.serve [] [turn] = ((s none).setup.serve [] [turn]).map (·.under o) ∧
      (wired (some traced)).run steps = ((wired none).run steps).map (·.under traced) ∧
      ((s (some o)).run steps).map (·.result) = [.error stop] ∧
      told ((s (some o)).run steps) =
        [[["handler", "request_id", "level", "trace"],
          ["identity_tenant_domain", "request_tenant_domain", "request_id", "level", "trace"],
          ["username", "error", "error_type", "request_id", "level", "trace"]]] := by
  intro traced o stop success alice s logging wired steps turn told
  have hnames : o.Avoids Event.allNames := by decide
  have ha : ∀ event : Event, o.Avoids event.names := fun event => hnames.mono event.names_subset
  have htraced : traced.Avoids (logging.reserved ++ Event.allNames) := by decide
  obtain ⟨hreserved, hall⟩ := Observation.avoids_append.1 htraced
  have hturn : turn.IgnoresFields := fun _ _ => rfl
  have hd := Logging.Library.documented_standard
  obtain ⟨hserve, hplain, _⟩ := serve_observed o ha
  have hspares : ({} : Sink).Spares (Fields.keys o.fields) :=
    hplain {} (fun _ => rfl) (fun _ => rfl) _
  obtain ⟨hturns, hsteps⟩ := hserve (s none).setup hspares
  obtain ⟨_, _, hlogged, _⟩ := serve_observed traced fun event => hall.mono event.names_subset
  have htaken : traced.Avoids (logging.taken .standard) :=
    hreserved.mono (logging.taken_subset_reserved hd)
  refine ⟨ha, hspares, hturn, hd, hreserved, hsteps _ _ _ steps, ?_, ?_, by rfl, by rfl⟩
  · exact hturns [turn] [] fun t ht => by rwa [List.mem_singleton.1 ht]
  · exact ((hlogged .standard hd logging).2 (by decide) {} "basic").2 htaken _ _ _ steps

/-- Entries named like something that a configured log has of its own are not shown, and one of them
makes the note of a rejection raise. -/
theorem Session.Setup.serve_observed_reserved :
    let entry (name : String) : Observation := { extra := [(name, .null)] }
    let logging : Logging := { colored := false, leastRank := 10 }
    let s (observation? : Option Observation) : Session :=
      { setup := .ofSettings {} logging .standard "basic" observation? }
    let steps : List (String × Step) :=
      [("main", .authenticate { verdict := .ok ⟨.failed, none⟩ })]
    Logging.configure "DEBUG" = .ok logging ∧
      (∀ name ∈ ["method_name", "level", "timestamp", "stack_info", "exc_info"],
        (∀ event : Event, (entry name).Avoids ("event" :: "self" :: event.names)) ∧
          (s (entry name)).run steps ≠ ((s none).run steps).map (·.under (entry name))) ∧
      ((s none).run steps).map (·.result) = [.ok (.verdict ⟨.failed, none⟩ true none)] ∧
      ((s (entry "method_name")).run steps).map (·.result) =
        [.error (.plain .type
          "BoundLoggerBase._proxy_to_logger() got multiple values for argument 'method_name'")] ∧
      ((s (entry "level")).run steps).map (·.trace.log.map (Fields.keys ·.fields)) =
        ((s none).run steps).map (·.trace.log.map (Fields.keys ·.fields)) := by
  intro entry logging s steps
  have hnames : ∀ name ∈ ["method_name", "level", "timestamp", "stack_info", "exc_info"],
      (entry name).Avoids ("event" :: "self" :: Event.allNames) := by decide
  let told (answers : List Answer) : List (List (List String)) :=
    answers.map (·.trace.log.map (Fields.keys ·.fields))
  have htold : ∀ name ∈ ["method_name", "level", "timestamp", "stack_info", "exc_info"],
      told ((s (entry name)).run steps) ≠
        told (((s none).run steps).map (·.under (entry name))) := by decide
  have hlevel : Logging.ranks.lookup (upperCase "DEBUG") = some 10 := by decide
  have hcolor : "".map Char.toLower = "" := String.map_eq_empty.2 rfl
  have hconfigure : Logging.configure "DEBUG" = .ok logging := by
    unfold Logging.configure
    rw [hlevel, hcolor]
    rfl
  refine ⟨hconfigure, ?_, by rfl, by rfl, by rfl⟩
  intro name hn
  refine ⟨fun event => ?_, fun heq => htold name hn (congrArg told heq)⟩
  refine (hnames name hn).mono ?_
  exact List.cons_subset_cons _ (List.cons_subset_cons _ event.names_subset)

end Principal
