import Mathlib.Data.List.Forall2
import Principal.Settings.Identity

/-!
# Safe settings

Settings of identity resolution are admitted exactly if each separator is one character, the two
differ and no handler has a priority below the least. Every check of a field is made whatever the
others find, and what they find is put together in the order of the fields; only where they find
nothing are the separators compared.
-/

namespace Principal.Settings

/-- What a detail shows of a value at fault. -/
structure Fault where
  location : List String
  code : String
  message : String
deriving DecidableEq, Repr

def Detail.fault (d : Detail) : Fault where
  location := d.location
  code := d.issue.code
  message := d.issue.message

namespace Fault

variable {fault other : Fault} {p : Prop} [Decidable p]

/-- The fault of a value for which a condition fails. -/
def ifNot (fault : Fault) (p : Prop) [Decidable p] : List Fault :=
  if p then [] else [fault]

theorem ifNot_eq_nil_iff : fault.ifNot p = [] ↔ p := by
  unfold ifNot
  split
  · exact iff_of_true rfl ‹_›
  · exact iff_of_false (List.cons_ne_nil _ _) ‹_›

theorem eq_of_mem_ifNot (h : other ∈ fault.ifNot p) : other = fault := by
  unfold ifNot at h
  split at h
  · cases h
  · exact List.mem_singleton.1 h

end Fault

namespace Checked

variable {α β : Type} {a : α} {b : β} {x : Checked α} {y : Checked β} {faults more : List Fault}

/-- A check that finds certain faults with a value, and passes the value if there are none. -/
def Finds (x : Checked α) (a : α) (faults : List Fault) : Prop :=
  match x with
  | .ok passed => passed = a ∧ faults = []
  | .error details => details ≠ [] ∧ details.map Detail.fault = faults

theorem finds_ok (a : α) : Finds (.ok a) a [] :=
  ⟨rfl, rfl⟩

theorem finds_error (detail : Detail) (a : α) : Finds (.error [detail]) a [detail.fault] :=
  ⟨List.cons_ne_nil _ _, rfl⟩

/-- A reading that passes a value under a condition, and has one issue with it otherwise. -/
theorem finds_located {reading : Except Issue α} {issue : Issue} {p : Prop} [Decidable p]
    (hok : p → reading = .ok a) (herror : ¬ p → reading = .error issue) (location : List String) :
    (located location reading).Finds a ((Detail.mk location issue).fault.ifNot p) := by
  by_cases h : p
  · rw [hok h, Fault.ifNot, if_pos h]
    exact finds_ok a
  · rw [herror h, Fault.ifNot, if_neg h]
    exact finds_error _ a

theorem Finds.eq_ok (h : x.Finds a []) : x = .ok a := by
  cases x with
  | ok passed => rw [h.1]
  | error details => exact absurd (List.map_eq_nil_iff.1 h.2) h.1

theorem Finds.eq_error (h : x.Finds a faults) (hne : faults ≠ []) :
    ∃ details, x = .error details ∧ details.map Detail.fault = faults := by
  cases x with
  | ok passed => exact absurd h.2 hne
  | error details => exact ⟨details, rfl, h.2⟩

theorem Finds.map (h : x.Finds a faults) (f : α → β) : Finds (x.map f) (f a) faults := by
  cases x with
  | ok passed => exact ⟨congrArg f h.1, h.2⟩
  | error details => exact h

/-- Checks side by side find what each of them finds. -/
theorem Finds.both (hx : x.Finds a faults) (hy : y.Finds b more) :
    (x.both y).Finds (a, b) (faults ++ more) := by
  cases x with
  | ok passed =>
      obtain ⟨rfl, rfl⟩ := hx
      cases y with
      | ok other =>
          obtain ⟨rfl, rfl⟩ := hy
          exact finds_ok _
      | error details => exact hy
  | error details =>
      obtain ⟨hne, rfl⟩ := hx
      cases y with
      | ok other =>
          obtain ⟨rfl, rfl⟩ := hy
          exact ⟨hne, (List.append_nil _).symm⟩
      | error more =>
          obtain ⟨_, rfl⟩ := hy
          exact ⟨List.append_ne_nil_of_left_ne_nil hne _, List.map_append⟩

end Checked

section Reading

variable {α : Type}

/-- A named value of the raw ones that is read as `a`, or the default if there is none. -/
def Gives (raw : Json.Members) (name : String) (default : α) (reads : Json → α → Prop) (a : α) :
    Prop :=
  match Fields.get? (.whole name) raw with
  | some json => reads json a
  | none => a = default

theorem Gives.finds {raw : Json.Members} {name : String} {default a : α}
    {reads : Json → α → Prop} (h : Gives raw name default reads a) {check : Json → Checked α}
    {faults : List Fault} (hdefault : a = default → faults = [])
    (hcheck : ∀ json, reads json a → (check json).Finds a faults) :
    (Checked.field raw name default check).Finds a faults := by
  unfold Gives at h
  unfold Checked.field
  cases hjson : Fields.get? (.whole name) raw with
  | some json =>
      rw [hjson] at h
      exact hcheck json h
  | none =>
      rw [hjson] at h
      exact ⟨h.symm, hdefault h⟩

def IsText (json : Json) (s : String) : Prop :=
  Reading.text json = .ok s

def IsFlag (json : Json) (b : Bool) : Prop :=
  Reading.flag json = .ok b

def IsInteger (json : Json) (n : Int) : Prop :=
  Reading.integer json = .ok n

theorem Gives.finds_flag {raw : Json.Members} {name : String} {default b : Bool}
    (h : Gives raw name default IsFlag b) (location : List String) :
    (Checked.field raw name default fun json =>
      .located location (Reading.flag json)).Finds b [] := by
  refine h.finds (fun _ => rfl) fun json hjson => ?_
  rw [show Reading.flag json = .ok b from hjson]
  exact Checked.finds_ok b

end Reading

namespace HandlerSettings

/-- An object with an integer priority and a flag, each of which may be absent. -/
def ReadFrom (json : Json) (h : HandlerSettings) : Prop :=
  ∃ members, json = .obj members ∧ Gives members "priority" (-1) IsInteger h.priority ∧
    Gives members "enabled" true IsFlag h.enabled

/-- An object of handlers by name. -/
def AllReadFrom (json : Json) (handlers : Fields HandlerSettings Json.Text) : Prop :=
  ∃ entries, json = .obj entries ∧
    List.Forall₂ (fun entry handler => entry.1 = handler.1 ∧ ReadFrom entry.2 handler.2)
      entries handlers

def faults (location : List String) (h : HandlerSettings) : List Fault :=
  Fault.ifNot
    ⟨location ++ ["priority"], "greater_than_equal",
      "Input should be greater than or equal to -1"⟩
    (-1 ≤ h.priority)

def allFaults (handlers : Fields HandlerSettings Json.Text) : List Fault :=
  handlers.flatMap fun entry => entry.2.faults ["handlers", entry.1.shown]

variable {json : Json} {h : HandlerSettings} {handlers : Fields HandlerSettings Json.Text}

theorem faults_eq_nil_iff {location : List String} :
    h.faults location = [] ↔ -1 ≤ h.priority :=
  Fault.ifNot_eq_nil_iff

theorem finds_priority (location : List String) (hjson : IsInteger json h.priority) :
    (Checked.located (location ++ ["priority"])
      (Reading.integerFrom leastPriority json)).Finds h.priority (h.faults location) := by
  have hread : Reading.integerFrom leastPriority json =
      if h.priority < -1 then .error (.belowLeast (-1)) else .ok h.priority := by
    rw [Reading.integerFrom, show Reading.integer json = .ok h.priority from hjson]
    rfl
  rw [hread]
  exact Checked.finds_located (fun hleast => if_neg (Int.not_lt.2 hleast))
    (fun hlow => if_pos (Int.not_le.1 hlow)) _

theorem finds_ofJson (hjson : ReadFrom json h) (location : List String) :
    (ofJson location json).Finds h (h.faults location) := by
  obtain ⟨members, rfl, hpriority, henabled⟩ := hjson
  have hp := hpriority.finds (fun he => faults_eq_nil_iff.2 (Int.le_of_eq he.symm))
    fun _ hread => finds_priority location hread
  have hboth := hp.both (henabled.finds_flag (location ++ ["enabled"]))
  rw [List.append_nil] at hboth
  exact hboth.map _

theorem finds_ofEntries {entries : List (Json.Text × Json)}
    (hentries : List.Forall₂ (fun entry handler =>
      entry.1 = handler.1 ∧ ReadFrom entry.2 handler.2) entries handlers) :
    (ofEntries ["handlers"] entries).Finds handlers (allFaults handlers) := by
  induction hentries with
  | nil => exact Checked.finds_ok []
  | @cons entry handler _ rest hentry _ ih =>
      obtain ⟨name, value⟩ := entry
      obtain ⟨_, handler⟩ := handler
      obtain ⟨rfl, hread⟩ := hentry
      exact ((finds_ofJson hread ["handlers", name.shown]).both ih).map _

theorem finds_ofMapping (hjson : AllReadFrom json handlers) :
    (ofMapping ["handlers"] json).Finds handlers (allFaults handlers) := by
  obtain ⟨entries, rfl, hentries⟩ := hjson
  exact finds_ofEntries hentries

end HandlerSettings

namespace IdentitySettings

/-- The raw values of the fields, where they are present, are of the right types and are read as
these settings, which may still be at fault. -/
structure ReadFrom (raw : Json.Members) (s : IdentitySettings) : Prop where
  domainSeparator : Gives raw "domain_separator" "/" IsText s.domainSeparator
  tenantSeparator : Gives raw "tenant_separator" "@" IsText s.tenantSeparator
  mailAddresses : Gives raw "enable_email_username" false IsFlag s.mailAddresses
  masked : Gives raw "mask_user_info_in_logs" false IsFlag s.masked
  handlers : Gives raw "handlers" [] HandlerSettings.AllReadFrom s.handlers

structure Safe (s : IdentitySettings) : Prop where
  domainSeparator : s.domainSeparator.length = 1
  tenantSeparator : s.tenantSeparator.length = 1
  distinct : s.domainSeparator ≠ s.tenantSeparator
  priorities : ∀ entry ∈ s.handlers, -1 ≤ entry.2.priority

def separatorFaults (name separator : String) : List Fault :=
  Fault.ifNot
    ⟨[name], "value_error",
      "Value error, separator must be a single character, got " ++ quoted separator⟩
    (separator.length = 1)

variable (s : IdentitySettings)

/-- What is wrong with single fields. -/
def fieldFaults : List Fault :=
  separatorFaults "domain_separator" s.domainSeparator ++
    (separatorFaults "tenant_separator" s.tenantSeparator ++ HandlerSettings.allFaults s.handlers)

/-- What is wrong with the settings. That the separators are equal counts where each field is
right by itself. -/
def faults : List Fault :=
  if s.fieldFaults = [] ∧ s.domainSeparator = s.tenantSeparator then
    [⟨[], "value_error",
      "Value error, domain_separator and tenant_separator must differ (both are " ++
        quoted s.domainSeparator ++ ")"⟩]
  else s.fieldFaults

theorem separatorFaults_eq_nil_iff {name separator : String} :
    separatorFaults name separator = [] ↔ separator.length = 1 :=
  Fault.ifNot_eq_nil_iff

theorem fieldFaults_eq_nil_iff :
    s.fieldFaults = [] ↔ s.domainSeparator.length = 1 ∧ s.tenantSeparator.length = 1 ∧
      ∀ entry ∈ s.handlers, -1 ≤ entry.2.priority := by
  unfold fieldFaults HandlerSettings.allFaults
  simp only [List.append_eq_nil_iff, separatorFaults_eq_nil_iff, List.flatMap_eq_nil_iff,
    HandlerSettings.faults_eq_nil_iff]

theorem faults_eq_nil_iff : s.faults = [] ↔ s.Safe := by
  unfold faults
  constructor
  · intro h
    split at h
    · cases h
    · rename_i hne
      obtain ⟨hd, ht, hp⟩ := s.fieldFaults_eq_nil_iff.1 h
      exact ⟨hd, ht, fun he => hne ⟨h, he⟩, hp⟩
  · intro h
    rw [if_neg fun he => h.distinct he.2]
    exact s.fieldFaults_eq_nil_iff.2 ⟨h.domainSeparator, h.tenantSeparator, h.priorities⟩

theorem finds_separator {raw : Json.Members} {name default separator : String}
    (h : Gives raw name default IsText separator) (hdefault : default.length = 1) :
    (Checked.field raw name default fun json =>
      .located [name] (IdentitySettings.separator json)).Finds separator
        (separatorFaults name separator) := by
  refine h.finds (fun he => separatorFaults_eq_nil_iff.2 (he ▸ hdefault)) fun json hjson => ?_
  have hread : IdentitySettings.separator json =
      if separator.length = 1 then .ok separator else .error (.separatorLength separator) := by
    rw [IdentitySettings.separator, show Reading.text json = .ok separator from hjson]
  rw [hread]
  exact Checked.finds_located (fun hone => if_pos hone) (fun hmore => if_neg hmore) [name]

variable {s} {raw : Json.Members}

theorem finds_distinct (hnil : s.fieldFaults = []) : (distinct s).Finds s s.faults := by
  unfold distinct faults
  by_cases he : s.domainSeparator = s.tenantSeparator
  · rw [if_pos he, if_pos ⟨hnil, he⟩]
    exact Checked.finds_error _ s
  · rw [if_neg he, if_neg fun h => he h.2, hnil]
    exact Checked.finds_ok s

theorem finds_ofFields (h : s.ReadFrom raw) : (ofFields raw).Finds s s.faults := by
  have hhandlers := h.handlers.finds (fun he => by rw [he]; rfl)
    fun _ hjson => HandlerSettings.finds_ofMapping hjson
  have hall := (finds_separator h.domainSeparator rfl).both
    ((finds_separator h.tenantSeparator rfl).both
      ((h.mailAddresses.finds_flag ["enable_email_username"]).both
        ((h.masked.finds_flag ["mask_user_info_in_logs"]).both hhandlers)))
  unfold ofFields
  dsimp only
  split
  · rename_i hok
    obtain ⟨heq, hnil⟩ := hok ▸ hall
    cases heq
    exact finds_distinct hnil
  · rename_i details herror
    obtain ⟨hne, hdetails⟩ := herror ▸ hall
    have hfield : details.map Detail.fault = s.fieldFaults := hdetails
    have hnil : s.fieldFaults ≠ [] := by
      rwa [← hfield, ne_eq, List.map_eq_nil_iff]
    unfold faults
    rw [if_neg fun h => hnil h.1]
    exact ⟨hne, hdetails⟩

theorem location_of_mem_separatorFaults {name separator : String} {fault : Fault}
    (h : fault ∈ separatorFaults name separator) : fault.location = [name] := by
  rw [Fault.eq_of_mem_ifNot h]

theorem location_of_mem_allFaults {handlers : Fields HandlerSettings Json.Text} {fault : Fault}
    (h : fault ∈ HandlerSettings.allFaults handlers) :
    ∃ name, fault.location = ["handlers", name, "priority"] := by
  obtain ⟨entry, _, h⟩ := List.mem_flatMap.1 h
  rw [Fault.eq_of_mem_ifNot h]
  exact ⟨_, rfl⟩

/-- What is wrong with a field is shown where the field is. -/
theorem location_ne_nil_of_mem_fieldFaults {fault : Fault} (h : fault ∈ s.fieldFaults) :
    fault.location ≠ [] := by
  unfold fieldFaults at h
  rw [List.mem_append, List.mem_append] at h
  rcases h with h | h | h
  · rw [location_of_mem_separatorFaults h]
    exact List.cons_ne_nil _ _
  · rw [location_of_mem_separatorFaults h]
    exact List.cons_ne_nil _ _
  · obtain ⟨name, hname⟩ := location_of_mem_allFaults h
    rw [hname]
    exact List.cons_ne_nil _ _

theorem exists_mem_faults_iff :
    (∃ fault ∈ s.faults, fault.location = []) ↔
      s.fieldFaults = [] ∧ s.domainSeparator = s.tenantSeparator := by
  unfold faults
  split
  · exact iff_of_true ⟨_, List.mem_singleton_self _, rfl⟩ ‹_›
  · refine iff_of_false ?_ ‹_›
    rintro ⟨fault, hfault, hnil⟩
    exact location_ne_nil_of_mem_fieldFaults hfault hnil

/-- Raw values of the right types make settings exactly if these are safe. Settings that are not are
refused for just what is wrong with them: each separator that is not one character and each priority
below the least, and the equality of the separators where no field is at fault. -/
theorem load_admits_safe {env : Environment} {keywords given : Json.Members}
    {s : IdentitySettings} (he : environmentFields env = .ok given)
    (h : s.ReadFrom (Json.overlayMembers given keywords)) :
    ((∃ t, load env keywords = .ok t) ↔ s.Safe) ∧
    (s.Safe → load env keywords = .ok s) ∧
    (¬ s.Safe → ∃ details, load env keywords = .error (.invalid details) ∧
      details.map Detail.fault = s.faults ∧
      ((∃ detail ∈ details, detail.location = []) ↔
        s.fieldFaults = [] ∧ s.domainSeparator = s.tenantSeparator)) := by
  have hfinds := finds_ofFields h
  have hload : load env keywords =
      (ofFields (Json.overlayMembers given keywords)).mapError .invalid := by
    unfold load
    rw [he]
  have hsafe : s.Safe → load env keywords = .ok s := by
    intro hs
    rw [s.faults_eq_nil_iff.2 hs] at hfinds
    rw [hload, hfinds.eq_ok]
    rfl
  have hunsafe : ¬ s.Safe → ∃ details, load env keywords = .error (.invalid details) ∧
      details.map Detail.fault = s.faults := by
    intro hs
    obtain ⟨details, herror, hdetails⟩ := hfinds.eq_error (mt s.faults_eq_nil_iff.1 hs)
    refine ⟨details, ?_, hdetails⟩
    rw [hload, herror]
    rfl
  refine ⟨⟨?_, fun hs => ⟨s, hsafe hs⟩⟩, hsafe, fun hs => ?_⟩
  · rintro ⟨t, ht⟩
    by_contra hs
    obtain ⟨details, herror, _⟩ := hunsafe hs
    rw [herror] at ht
    cases ht
  · obtain ⟨details, herror, hdetails⟩ := hunsafe hs
    refine ⟨details, herror, hdetails, ?_⟩
    rw [← exists_mem_faults_iff, ← hdetails]
    constructor
    · rintro ⟨detail, hdetail, hnil⟩
      exact ⟨detail.fault, List.mem_map_of_mem hdetail, hnil⟩
    · rintro ⟨_, hfault, hnil⟩
      obtain ⟨detail, hdetail, rfl⟩ := List.mem_map.1 hfault
      exact ⟨detail, hdetail, hnil⟩

/-- A separator of two characters and a priority too low are both found, and equal separators that
are both too long are not compared. -/
theorem load_admits_safe_too_long :
    let handlers : List (Json.Text × Json) :=
      [("basic", .obj [("priority", .int (-2)), ("enabled", .bool false)]), ("token", .obj [])]
    let keywords : Json.Members :=
      [("domain_separator", .str "::"), ("tenant_separator", .str "::"),
        ("handlers", .obj handlers)]
    let s : IdentitySettings :=
      { domainSeparator := "::", tenantSeparator := "::"
        handlers := [("basic", { priority := -2, enabled := false }), ("token", {})] }
    environmentFields [] = .ok [] ∧ s.ReadFrom (Json.overlayMembers [] keywords) ∧ ¬ s.Safe ∧
      ∃ details, load [] keywords = .error (.invalid details) ∧
        details.map (fun detail => detail.fault.location) =
          [["domain_separator"], ["tenant_separator"], ["handlers", "basic", "priority"]] ∧
        ¬ ∃ detail ∈ details, detail.location = [] := by
  intro handlers keywords s
  have he : environmentFields [] = .ok [] := rfl
  have hbasic : HandlerSettings.ReadFrom
      (.obj [("priority", .int (-2)), ("enabled", .bool false)])
      { priority := -2, enabled := false } :=
    ⟨_, rfl, show Reading.integer (.int (-2)) = .ok (-2) from rfl,
      show Reading.flag (.bool false) = .ok false from rfl⟩
  have htoken : HandlerSettings.ReadFrom (.obj []) {} := ⟨_, rfl, by rfl, by rfl⟩
  have h : s.ReadFrom (Json.overlayMembers [] keywords) :=
    { domainSeparator := by rfl
      tenantSeparator := by rfl
      mailAddresses := by rfl
      masked := by rfl
      handlers := ⟨handlers, rfl, .cons ⟨rfl, hbasic⟩ (.cons ⟨rfl, htoken⟩ .nil)⟩ }
  have hs : ¬ s.Safe := fun hs => absurd hs.domainSeparator (by decide)
  obtain ⟨details, herror, hdetails, hnone⟩ := (load_admits_safe he h).2.2 hs
  refine ⟨he, h, hs, details, herror, ?_, ?_⟩
  · have hlocations := congrArg (List.map Fault.location) hdetails
    rw [List.map_map] at hlocations
    exact hlocations.trans (by decide)
  · rw [hnone]
    exact fun hfield => absurd hfield.1 (by decide)

end IdentitySettings

end Principal.Settings
