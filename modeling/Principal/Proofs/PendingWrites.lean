import Principal.Proofs.History
import Principal.Proofs.Overlay

/-!
# Pending writes

An update is filled by calls that set a field by its name. A call with another name is refused and
leaves the update as it was, so the update decides each field as the last call for it did, whatever
came between. Only these last values count when it is applied to a context.
-/

namespace Principal

open RequestContext (Field)

namespace RequestContext.Field

def names : List String :=
  all.map name

theorem name_mem_names (field : Field) : field.name ∈ names :=
  List.mem_map_of_mem field.mem_all

theorem ofName?_of_not_mem {s : String} (h : s ∉ names) : ofName? s = none := by
  cases hf : ofName? s with
  | none => rfl
  | some field =>
      rw [← name_of_ofName?_eq_some hf] at h
      exact absurd field.name_mem_names h

end RequestContext.Field

/-- The value that the last call for a name gives it. -/
def lastGiven (name : String) (calls : List (String × Option String)) : Option (Option String) :=
  lastTelling (fun call => if call.1 = name then some call.2 else none) calls

theorem lastGiven_cons (name : String) (call : String × Option String)
    (rest : List (String × Option String)) :
    lastGiven name (call :: rest) =
      (lastGiven name rest).or (if call.1 = name then some call.2 else none) :=
  lastTelling_cons _ call rest

theorem lastGiven_ne_none_iff {name : String} {calls : List (String × Option String)} :
    lastGiven name calls ≠ none ↔ ∃ call ∈ calls, call.1 = name := by
  unfold lastGiven
  rw [ne_eq, lastTelling_eq_none_iff]
  simp

namespace Update

def refusal (name : String) : Failure :=
  .plain .key ("RequestContext field cannot be updated: " ++ name)

variable (u : Update)

/-- Sets a field by its name. A call that is refused leaves the update as it was. -/
def setCall (call : String × Option String) : Except Failure Unit × Update :=
  match u.setNamed call.1 call.2 with
  | .ok v => (.ok (), v)
  | .error e => (.error e, u)

/-- Makes the calls one after the other. -/
def setCalls (u : Update) :
    List (String × Option String) → List (Except Failure Unit) × Update
  | [] => ([], u)
  | call :: rest =>
      let (result, u) := u.setCall call
      let (results, u) := setCalls u rest
      (result :: results, u)

/-- The decision on the field of a name, or the default where there is none. -/
def read (name : String) (default : Option String) : Except Failure (Option String) :=
  (u.getNamed? name).map (·.getD default)

theorem setCall_name (field : Field) (value : Option String) :
    u.setCall (field.name, value) = (.ok (), u.set field value) := by
  simp only [setCall, setNamed, Field.ofName?_name]

theorem setCall_of_not_mem {name : String} (h : name ∉ Field.names) (value : Option String) :
    u.setCall (name, value) = (.error (refusal name), u) := by
  simp only [setCall, setNamed, Field.ofName?_of_not_mem h, refusal]

theorem read_name (field : Field) (default : Option String) :
    u.read field.name default = .ok ((u.get? field).getD default) := by
  simp only [read, getNamed?, Field.ofName?_name, Except.map]

theorem setCalls_cons (call : String × Option String) (rest : List (String × Option String)) :
    u.setCalls (call :: rest) =
      ((u.setCall call).1 :: ((u.setCall call).2.setCalls rest).1,
        ((u.setCall call).2.setCalls rest).2) := rfl

/-- What one call decides on a field, and what it leaves. -/
theorem get?_setCall (call : String × Option String) (field : Field) :
    (u.setCall call).2.get? field =
      (if call.1 = field.name then some call.2 else none).or (u.get? field) := by
  obtain ⟨name, value⟩ := call
  by_cases hn : name ∈ Field.names
  · obtain ⟨other, _, rfl⟩ := List.mem_map.1 hn
    rw [setCall_name, get?_set]
    by_cases h : field = other
    · rw [if_pos h, if_pos (congrArg Field.name h.symm), Option.some_or]
    · rw [if_neg h, if_neg fun he => h (Field.name_injective he).symm, Option.none_or]
  · have hne : name ≠ field.name := fun he => hn (he ▸ field.name_mem_names)
    rw [setCall_of_not_mem u hn, if_neg hne, Option.none_or]

theorem get?_setCalls (calls : List (String × Option String)) (field : Field) :
    (u.setCalls calls).2.get? field = (lastGiven field.name calls).or (u.get? field) := by
  induction calls generalizing u with
  | nil => rfl
  | cons call rest ih =>
      rw [setCalls_cons, ih, get?_setCall, lastGiven_cons, Option.or_assoc]

/-- A call succeeds exactly if its name is that of a field, whatever the calls before it. -/
theorem results_setCalls (calls : List (String × Option String)) :
    (u.setCalls calls).1 =
      calls.map fun call =>
        if call.1 ∈ Field.names then .ok () else .error (refusal call.1) := by
  induction calls generalizing u with
  | nil => rfl
  | cons call rest ih =>
      obtain ⟨name, value⟩ := call
      rw [setCalls_cons, List.map_cons, ih]
      by_cases hn : name ∈ Field.names
      · obtain ⟨field, _, rfl⟩ := List.mem_map.1 hn
        rw [setCall_name, if_pos hn]
      · rw [setCall_of_not_mem u hn, if_neg hn]

theorem ext_get? {u v : Update} (h : ∀ field, u.get? field = v.get? field) : u = v := by
  cases u
  cases v
  simp only [Update.mk.injEq]
  exact ⟨h .username, h .userId, h .residentOrganization⟩

theorem isEmpty_eq_false_iff : u.isEmpty = false ↔ ∃ field, u.get? field ≠ none := by
  unfold isEmpty decided
  rw [List.isEmpty_eq_false_iff, ne_eq, List.filterMap_eq_nil_iff, Classical.not_forall]
  simp only [Field.mem_all, forall_const, Option.map_eq_none_iff, ne_eq]

section Fresh

variable (calls : List (String × Option String))

theorem get?_setCalls_empty (field : Field) :
    (setCalls {} calls).2.get? field = lastGiven field.name calls := by
  rw [get?_setCalls]
  cases field <;> exact Option.or_none

/-- An update is not empty exactly if one of the calls that filled it succeeded. -/
theorem isEmpty_setCalls :
    (setCalls {} calls).2.isEmpty = false ↔ .ok () ∈ (setCalls {} calls).1 := by
  rw [isEmpty_eq_false_iff, results_setCalls, List.mem_map]
  simp only [get?_setCalls_empty, lastGiven_ne_none_iff]
  constructor
  · rintro ⟨field, call, hcall, hname⟩
    exact ⟨call, hcall, if_pos (hname ▸ field.name_mem_names)⟩
  · rintro ⟨call, hcall, hok⟩
    by_cases hn : call.1 ∈ Field.names
    · obtain ⟨field, _, hname⟩ := List.mem_map.1 hn
      exact ⟨field, call, hcall, hname.symm⟩
    · rw [if_neg hn] at hok
      cases hok

theorem decided_setCalls :
    (setCalls {} calls).2.decided =
      Field.all.filterMap fun field =>
        (lastGiven field.name calls).map fun value => (field, value) := by
  unfold decided
  simp only [get?_setCalls_empty]

/-- Calls that give each field the same last value fill an update alike. -/
theorem setCalls_congr {calls calls' : List (String × Option String)}
    (h : ∀ name ∈ Field.names, lastGiven name calls = lastGiven name calls') :
    (setCalls {} calls).2 = (setCalls {} calls').2 := by
  refine ext_get? fun field => ?_
  rw [get?_setCalls_empty, get?_setCalls_empty, h _ field.name_mem_names]

end Fresh

/-- An update filled by calls decides each field as the last call for it did, in the order of the
fields, and refuses any other name. Applied to a context it leaves the last values there and names
what changed, so that applying it again changes nothing. -/
theorem setCalls_overlay (calls : List (String × Option String)) :
    let results := (setCalls {} calls).1
    let u := (setCalls {} calls).2
    let last (field : Field) := lastGiven field.name calls
    Field.names = ["username", "user_id", "resident_organization_id"] ∧
    results = calls.map (fun call =>
      if call.1 ∈ Field.names then .ok () else .error (refusal call.1)) ∧
    (∀ name value, name ∉ Field.names → u.setCall (name, value) = (.error (refusal name), u)) ∧
    u.decided = Field.all.filterMap (fun field =>
      (last field).map fun value => (field, value)) ∧
    (u.isEmpty = false ↔ .ok () ∈ results) ∧
    (∀ field default, u.read field.name default = .ok ((last field).getD default)) ∧
    ∀ c : RequestContext, ∃ after changed, c.apply u = (after, changed) ∧
      (∀ field, after.get field = (last field).getD (c.get field)) ∧
      after.tenantDomain = c.tenantDomain ∧
      changed = Field.all.filter (fun field => after.get field ≠ c.get field) ∧
      after.apply u = (after, []) ∧
      ∀ calls', (∀ name ∈ Field.names, lastGiven name calls' = lastGiven name calls) →
        c.apply (setCalls {} calls').2 = (after, changed) := by
  intro results u last
  have hget : ∀ field, u.get? field = last field := get?_setCalls_empty calls
  refine ⟨rfl, results_setCalls {} calls, fun name value h => setCall_of_not_mem u h value,
    decided_setCalls calls, isEmpty_setCalls calls, fun field default => ?_, fun c => ?_⟩
  · rw [read_name, hget]
  · refine ⟨c.overlay u, c.changes u, c.apply_eq u, fun field => ?_, rfl, rfl, ?_, ?_⟩
    · rw [RequestContext.get_overlay, hget]
    · rw [RequestContext.apply_eq, RequestContext.overlay_overlay, RequestContext.changes_overlay]
    · intro calls' h
      rw [setCalls_congr h]
      exact c.apply_eq u

/-- An absent user id is decided on, a refused name is not, and the order of the calls is not that
of the writes. -/
theorem setCalls_overlay_unordered :
    let calls := [("user_id", some "u-1"), ("tenant_domain", some "acme.com"), ("user_id", none),
      ("username", some "alice")]
    let u := (setCalls {} calls).2
    let c : RequestContext :=
      { tenantDomain := some "acme.org", username := some "alice", userId := some "u-2" }
    "tenant_domain" ∉ Field.names ∧
      u.setCall ("tenant_domain", none) = (.error (refusal "tenant_domain"), u) ∧
      u.decided = [(.username, some "alice"), (.userId, none)] ∧ u.isEmpty = false ∧
      u.read "user_id" (some "u-3") = .ok none ∧
      u.read "resident_organization_id" (some "org-1") = .ok (some "org-1") ∧
      c.apply u = ({ c with userId := none }, [.userId]) ∧
      (∀ name ∈ Field.names,
        lastGiven name [("username", some "alice"), ("user_id", none)] = lastGiven name calls) ∧
      c.apply (setCalls {} [("username", some "alice"), ("user_id", none)]).2 =
        ({ c with userId := none }, [.userId]) := by
  intro calls u c
  have hname : "tenant_domain" ∉ Field.names := by decide
  have hlast : ∀ name ∈ Field.names,
      lastGiven name [("username", some "alice"), ("user_id", none)] = lastGiven name calls := by
    decide
  obtain ⟨_, _, hrefused, hdecided, hempty, hread, happly⟩ := setCalls_overlay calls
  obtain ⟨after, changed, heq, _, _, _, _, hsame⟩ := happly c
  have hc : c.apply u = ({ c with userId := none }, [.userId]) := by decide
  refine ⟨hname, hrefused _ none hname, hdecided, hempty.2 List.mem_cons_self, hread .userId _,
    hread .residentOrganization _, hc, hlast, ?_⟩
  rw [hsame _ hlast, ← heq, hc]

end Update

end Principal
