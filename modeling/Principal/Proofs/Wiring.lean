import Principal.Proofs.Service
import Principal.Settings.Service
import Principal.Wiring

/-!
# Wiring by settings

A service wired from settings is the service built directly with what the settings say, but for
its log, which keeps the records of the configured level and of those above it. No event has a
field of a name that the log library is documented to keep for itself, so without an observation no
record is refused or cut.
-/

namespace Principal

/-- The names that the methods and the stages of a configured log are documented to keep for
themselves. -/
def Logging.reserved (l : Logging) : List String :=
  parameters ++ l.stages.flatMap Stage.fields

theorem Event.not_mem_names_of_reserved {l : Logging} {name : String} (h : name ∈ l.reserved)
    (event : Event) : name ∉ event.names := by
  have ha : ∀ colored, ∀ name ∈ Logging.reserved ⟨colored, 0⟩, name ∉ allNames := by decide
  -- Which names these are depends on the last stages alone.
  exact fun hn => ha l.colored name h (event.names_subset hn)

theorem Sink.Part.refusal?_eq_none_iff {part : Part} {names : List String} :
    part.refusal? names = none ↔ ∀ name ∈ names, name ∉ part.parameters := by
  unfold refusal?
  rw [Option.map_eq_none_iff, List.find?_eq_none]
  exact forall₂_congr fun _ _ => not_congr List.contains_iff_mem

namespace Logging

variable (l : Logging) {library : Library}

theorem shows_iff {name : String} :
    l.shows library name = true ↔ name ∉ l.stages.flatMap library.takes := by
  unfold shows
  rw [Bool.not_eq_true', List.contains_eq_mem, decide_eq_false_iff_not]

variable (hd : library.Documented)

include hd

theorem flatMap_takes_subset_reserved : l.stages.flatMap library.takes ⊆ l.reserved := by
  intro name hn
  obtain ⟨stage, hstage, htakes⟩ := List.mem_flatMap.1 hn
  exact List.mem_append_right _ (List.mem_flatMap_of_mem hstage (hd.fields stage htakes))

theorem reserved_of_parts {level : Level} {part : Sink.Part}
    (hp : part ∈ (l.sink library).parts level) {name : String} (hn : name ∈ part.parameters) :
    name ∈ l.reserved :=
  List.mem_append_left _ (hd.parameters _ part hp hn)

theorem shows_of_not_reserved {name : String} (h : name ∉ l.reserved) :
    l.shows library name = true :=
  l.shows_iff.2 fun hn => h (l.flatMap_takes_subset_reserved hd hn)

theorem refusal?_names (level : Level) (event : Event) :
    (l.sink library).refusal? level event.names = none := by
  unfold Sink.refusal?
  rw [List.findSome?_eq_none_iff]
  intro part hp
  rw [Sink.Part.refusal?_eq_none_iff]
  intro name hn hparam
  exact event.not_mem_names_of_reserved (l.reserved_of_parts hd hp hparam) hn

end Logging

namespace Logger

variable {l : Logger} {record : Record}

/-- The logger neither refuses the record nor leaves a field of it out. -/
structure Takes (l : Logger) (record : Record) : Prop where
  refusal : l.refusal? record.level (Fields.keys record.fields) = none
  shows : ∀ name ∈ Fields.keys record.fields, l.shows name = true

theorem takes_of_plain (h : l.toSink = {}) (record : Record) : l.Takes record where
  refusal := by
    rw [h]
    exact Sink.refusal?_of_parts_eq_nil _ rfl _
  shows _ _ := by rw [h]

theorem Takes.only_eq (h : l.Takes record) : record.only l.shows = record :=
  Record.only_of_forall record l.shows fun _ hf => h.shows _ (List.mem_map_of_mem hf)

theorem Takes.failure?_eq (h : l.Takes record) (hf : ∀ record, l.fault? record = none) :
    l.failure? record = none := by
  simp [failure?, h.refusal, hf]

theorem Takes.kept_eq (h : l.Takes record) :
    l.kept record = if l.admits record.level then [record] else [] := by
  simp only [kept, h.refusal, h.only_eq]

end Logger

namespace Probe

variable {p : Probe}

theorem keys_record_of_unobserved (ho : p.observation? = none) (event : Event) :
    Fields.keys (p.record event).fields = event.names := by
  simp only [record, observed, ho, List.append_nil, Event.keys_fields]

theorem takes_of_logging (ho : p.observation? = none) (event : Event) {l : Logging}
    {library : Logging.Library} (hd : library.Documented)
    (hs : p.logger.toSink = l.sink library) : p.logger.Takes (p.record event) where
  refusal := by
    rw [hs, keys_record_of_unobserved ho]
    exact l.refusal?_names hd _ event
  shows name hn := by
    rw [keys_record_of_unobserved ho] at hn
    rw [hs]
    apply l.shows_of_not_reserved hd
    exact fun hr => event.not_mem_names_of_reserved hr hn

/-- A probe under no observation whose logger takes its records and raises on none is steady. -/
theorem steady_of_takes (ho : p.observation? = none)
    (ht : ∀ event, p.logger.Takes (p.record event))
    (hf : ∀ record, p.logger.fault? record = none) : p.Steady := by
  refine steady_iff.2 fun event => ?_
  rw [failure?_of_unobserved ho]
  exact (ht event).failure?_eq hf

end Probe

/-- The records of a plain log that are of a configured level. -/
def Logging.keeps (l : Logging) : Record → Option Record :=
  Option.guard fun record => l.leastRank ≤ record.level.rank

theorem Logging.filterMap_keeps (l : Logging) (records : List Record) :
    records.filterMap l.keeps = records.filter fun record => l.leastRank ≤ record.level.rank :=
  congrFun List.filterMap_eq_filter records

theorem Probe.through_logging {p q : Probe} {l : Logging} {library : Logging.Library}
    (hd : library.Documented) (hp : p.observation? = none) (hq : q.observation? = none)
    (hm : q.masked = p.masked) (hps : p.logger.toSink = {}) (hqs : q.logger.toSink = l.sink library)
    (hpf : ∀ record, p.logger.fault? record = none)
    (hqf : ∀ record, q.logger.fault? record = none) : p.Through l.keeps q := by
  have hplain : ∀ event, p.logger.Takes (p.record event) :=
    fun _ => Logger.takes_of_plain hps _
  have htakes : ∀ event, q.logger.Takes (q.record event) :=
    fun event => takes_of_logging hq event hd hqs
  constructor
  · intro handling event
    have hsteady : (p.amid handling).Steady := (steady_of_takes hp hplain hpf).amid
    have hsteady' : (q.amid handling).Steady := (steady_of_takes hq htakes hqf).amid
    rw [steady_iff.1 hsteady, steady_iff.1 hsteady']
  · intro event
    have hr : q.record event = p.record event := by
      simp only [record, observed, hp, hq, hm]
    rw [kept_of_unobserved hp, kept_of_unobserved hq, (hplain event).kept_eq,
      (htakes event).kept_eq, hps, hqs, hr, if_pos rfl, l.filterMap_keeps]
    simp only [Logging.sink, hd.admits, List.filter_cons, List.filter_nil]

/-- No fault of the log is set. -/
def Faults.Quiet (f : Faults) : Prop :=
  ∀ event, (Index.find? event f.log).join = none

namespace Session

/-- A step sets no fault of the log. It may clear one. -/
def Step.Quiet : Step → Prop
  | .setFault (.log _) failure => failure = none
  | _ => True

theorem quiet_change {s : Session} {step : Step} (hs : s.faults.Quiet) (hq : step.Quiet) :
    (s.change step).faults.Quiet := by
  cases step with
  | setFault target failure =>
      cases target with
      | log name =>
          change failure = none at hq
          subst hq
          intro event
          change (Index.find? event (Index.insert name none s.faults.log)).join = none
          by_cases h : event = name
          · subst h
            rw [Index.find?_insert_self]
            rfl
          · rw [Index.find?_insert_of_ne none s.faults.log (beq_false_of_ne h)]
            exact hs event
      | _ => exact hs
  | _ => exact hs

theorem logFault?_of_turns {s : Session} (hs : s.faults.Quiet) {steps : List (String × Step)}
    (hq : ∀ named ∈ steps, named.2.Quiet) :
    ∀ turn ∈ s.turns steps, ∀ record, turn.logFault? record = none := by
  induction steps generalizing s with
  | nil => exact fun _ h => absurd h List.not_mem_nil
  | cons head rest ih =>
      obtain ⟨name, step⟩ := head
      obtain ⟨hstep, hrest⟩ := List.forall_mem_cons.1 hq
      intro turn hturn record
      rcases List.mem_cons.1 hturn with rfl | hturn
      · exact hs record.name
      · exact ih (quiet_change hs hstep) hrest turn hturn record

namespace Setup

variable {setup : Setup}

/-- In a turn where the log raises nothing, a configured log changes nothing but what is kept. -/
theorem through_logging (ho : setup.observation? = none) (hs : setup.sink = {}) (l : Logging)
    {library : Logging.Library} (hd : library.Documented) {turn : Turn}
    (hq : ∀ record, turn.logFault? record = none) :
    setup.Through l.keeps turn { setup with sink := l.sink library } := by
  have hf : ∀ (b : Setup) record, (b.logger turn).fault? record = none := by
    intro b record
    simp only [logger, hq, ite_self]
  exact {
    naming := rfl
    handlerName := rfl
    priority := rfl
    enabled := rfl
    resolverProbe := Probe.through_logging hd ho ho rfl hs rfl (hf _) (hf _)
    handlerProbe := Probe.through_logging hd ho ho rfl hs rfl (hf _) (hf _) }

theorem serve_logging (ho : setup.observation? = none) (hs : setup.sink = {}) (l : Logging)
    {library : Logging.Library} (hd : library.Documented) {turns : List Turn}
    (hq : ∀ turn ∈ turns, ∀ record, turn.logFault? record = none) (attempts : Fields Attempt) :
    { setup with sink := l.sink library }.serve attempts turns =
      (setup.serve attempts turns).map (·.through l.keeps) :=
  serve_through (fun turn ht => through_logging ho hs l hd (hq turn ht)) attempts

end Setup

end Session

namespace Logging

theorem lookup_ranks (least : Level) :
    ranks.lookup (upperCase least.name) = some least.rank := by
  cases least <;> decide

theorem upperCase_upperCase_name (least : Level) :
    upperCase (upperCase least.name) = upperCase least.name := by
  cases least <;> decide

theorem configure_of_upperCase {level : String} {least : Level}
    (h : upperCase level = upperCase least.name) (forceColor : String) (terminal : Bool) :
    ∃ l : Logging, configure level forceColor terminal = .ok l ∧ l.leastRank = least.rank := by
  unfold configure
  rw [h, lookup_ranks]
  exact ⟨_, rfl, rfl⟩

end Logging

namespace Settings.ServiceSettings

/-- What is accepted as a level is the name of one, in either case. -/
theorem exists_least {level normal : String} (h : ServiceSettings.level (.str level) = .ok normal) :
    ∃ least : Level, upperCase level = upperCase least.name ∧ normal = upperCase level := by
  have hl : levels = Level.all.map fun least => upperCase least.name := rfl
  change (if upperCase level ∈ levels then Except.ok (upperCase level)
    else .error (Issue.unknownLevel level)) = .ok normal at h
  by_cases hm : upperCase level ∈ levels
  · rw [if_pos hm] at h
    rw [hl] at hm
    obtain ⟨least, _, hu⟩ := List.mem_map.1 hm
    exact ⟨least, hu.symm, (Except.ok.inj h).symm⟩
  · rw [if_neg hm] at h
    cases h

end Settings.ServiceSettings

open Settings Session

/-- Settings and an accepted level wire the service that is built directly with what the settings
say, in what it answers, raises, writes and asks, over any collaborators and strategies. Its log is
the other's without the records below the level, whatever the log library does beyond what it is
documented to do. -/
theorem Session.Setup.serve_ofSettings (library : Logging.Library) (hd : library.Documented)
    (settings : IdentitySettings) (handlerName : String) {level normal : String}
    (h : ServiceSettings.level (.str level) = .ok normal) :
    ∃ least : Level, normal = upperCase least.name ∧
      ∀ chosen ∈ [level, normal], ∀ forceColor terminal,
        ∃ logging, Logging.configure chosen forceColor terminal = .ok logging ∧
          let wired : Setup := .ofSettings settings logging library handlerName none
          let configured : HandlerSettings :=
            (Fields.get? (.whole handlerName) settings.handlers).getD
              { priority := -1, enabled := true }
          let direct : Setup := {
            naming := {
              domainSeparator := settings.domainSeparator
              tenantSeparator := settings.tenantSeparator
              mailAddresses := settings.mailAddresses }
            masked := settings.masked
            handlerName := handlerName
            priority := configured.priority
            enabled := configured.enabled }
          let cut (answer : Answer) : Answer :=
            { answer with trace := { answer.trace with
                log := answer.trace.log.filter fun record => least.rank ≤ record.level.rank } }
          (∀ turns attempts, (∀ turn ∈ turns, ∀ record, turn.logFault? record = none) →
            wired.serve attempts turns = (direct.serve attempts turns).map cut) ∧
          ∀ directory faults attempts steps, Faults.Quiet faults →
            (∀ named ∈ steps, named.2.Quiet) →
              run { setup := wired, directory, faults, attempts } steps =
                (run { setup := direct, directory, faults, attempts } steps).map cut := by
  obtain ⟨least, hu, rfl⟩ := ServiceSettings.exists_least h
  refine ⟨least, hu, ?_⟩
  intro chosen hc forceColor terminal
  have hchosen : upperCase chosen = upperCase least.name := by
    rcases List.mem_cons.1 hc with rfl | hc
    · exact hu
    · rw [List.mem_singleton.1 hc, hu, Logging.upperCase_upperCase_name]
  obtain ⟨logging, hl, hrank⟩ := Logging.configure_of_upperCase hchosen forceColor terminal
  refine ⟨logging, hl, ?_⟩
  intro wired configured direct cut
  have hcut : (fun answer : Answer => answer.through logging.keeps) = cut := by
    funext answer
    simp only [Answer.through, Trace.through, logging.filterMap_keeps, hrank, cut]
  have hserve : ∀ turns attempts, (∀ turn ∈ turns, ∀ record, turn.logFault? record = none) →
      wired.serve attempts turns = (direct.serve attempts turns).map cut := by
    intro turns attempts hq
    rw [← hcut]
    exact serve_logging rfl rfl logging hd hq attempts
  refine ⟨hserve, ?_⟩
  intro directory faults attempts steps hf hq
  have hturns := turns_setup { setup := direct, directory, faults, attempts } wired steps
  rw [run_eq_serve, run_eq_serve, hturns]
  exact hserve _ attempts (logFault?_of_turns hf hq)

/-- At the level of warnings, only the failure is logged of a failed look-up, and only the rejection
of a rejected attempt. -/
theorem Session.Setup.serve_ofSettings_warning :
    let settings : IdentitySettings :=
      { masked := true, handlers := [(.whole "basic", { priority := 7 })] }
    let lost : Failure := .plain .connection "lost"
    let turn : Turn :=
      { attempt := "main"
        task := .authenticate fun a => .ok ⟨.success, none⟩ { a with
          identity? := some { username := "alice", tenantDomain := some "acme.com" } }
        collaborators :=
          { tenantDomain := fun _ => .error lost
            tenantId := fun _ => .error lost
            userStore := fun _ => .error lost
            userId? := some fun _ _ _ => .error lost } }
    let steps : List (String × Step) :=
      [("main", .setFault (.log "authentication_rejected") none),
        ("main", .authenticate { verdict := .ok ⟨.failed, some "expired"⟩ }),
        ("main", .priority 3)]
    let told (answer : Answer) := (answer.result, answer.trace.log.map (·.name))
    Logging.Library.standard.Documented ∧ ServiceSettings.level (.str "warning") = .ok "WARNING" ∧
      (∀ record, turn.logFault? record = none) ∧ (∀ named ∈ steps, named.2.Quiet) ∧
      ∃ logging, Logging.configure "warning" = .ok logging ∧
        let wired : Setup := .ofSettings settings logging .standard "basic" none
        (wired.serve [] [turn]).map told =
          [(.ok (.verdict ⟨.success, none⟩ true none), ["identity_user_id_unresolved"])] ∧
        (run { setup := wired } steps).map told =
          [(.ok .nothing, []),
            (.ok (.verdict ⟨.failed, some "expired"⟩ true none), ["authentication_rejected"]),
            (.ok (.number 7), [])] := by
  intro settings lost turn steps told
  have hlevel : ServiceSettings.level (.str "warning") = .ok "WARNING" := rfl
  have hquiet : ∀ named ∈ steps, named.2.Quiet := by
    simp only [steps, List.forall_mem_cons]
    exact ⟨rfl, trivial, trivial, fun _ h => absurd h List.not_mem_nil⟩
  have hd := Logging.Library.documented_standard
  refine ⟨hd, hlevel, fun _ => rfl, hquiet, ?_⟩
  obtain ⟨least, hleast, hw⟩ := serve_ofSettings .standard hd settings "basic" hlevel
  have hwarning : least = .warning := by
    cases least with
    | warning => rfl
    | _ => exact absurd hleast (by decide)
  subst hwarning
  obtain ⟨logging, hl, hserve, hrun⟩ := hw "warning" List.mem_cons_self "" false
  refine ⟨logging, hl, ?_, ?_⟩
  · rw [hserve [turn] [] fun t ht _ => by rw [List.mem_singleton.1 ht]]
    rfl
  · rw [hrun {} {} [] steps (fun _ => rfl) hquiet]
    rfl

end Principal
