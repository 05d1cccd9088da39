import Mathlib.Data.List.Forall2
import Principal.Proofs.Publishing

/-!
# What masking hides

A masked text shows its length and its first and last character, and nothing else. A call of a
resolver goes the same way whether its probe masks or not, and the records of the masked call are
those of the unmasked one with every username and user id masked.
-/

namespace Principal

namespace Username

theorem maskChars_of_length_le {cs : List Char} (h : cs.length ≤ 2) : maskChars cs = cs := by
  match cs with
  | [] | [_] | [_, _] => rfl
  | _ :: _ :: _ :: rest =>
      simp only [List.length_cons] at h
      omega

theorem maskChars_of_lt_length {cs : List Char} (h : 2 < cs.length) :
    maskChars cs =
      cs.head?.toList ++ (List.replicate (cs.length - 2) '*' ++ cs.getLast?.toList) := by
  match cs with
  | first :: second :: third :: rest =>
      simp [maskChars, List.getLast?_eq_getLast_of_ne_nil]

theorem head?_maskChars (cs : List Char) : (maskChars cs).head? = cs.head? := by
  match cs with
  | [] | [_] | [_, _] | _ :: _ :: _ :: _ => rfl

theorem getLast?_maskChars (cs : List Char) : (maskChars cs).getLast? = cs.getLast? := by
  match cs with
  | [] | [_] | [_, _] => rfl
  | first :: second :: third :: rest =>
      rw [maskChars, List.getLast?_concat]
      simp [List.getLast?_eq_getLast_of_ne_nil]

theorem maskChars_maskChars (cs : List Char) : maskChars (maskChars cs) = maskChars cs := by
  by_cases h : cs.length ≤ 2
  · rw [maskChars_of_length_le h, maskChars_of_length_le h]
  · have hlt : 2 < cs.length := Nat.lt_of_not_le h
    have hlt' : 2 < (maskChars cs).length := by rwa [length_maskChars]
    rw [maskChars_of_lt_length hlt', length_maskChars, head?_maskChars, getLast?_maskChars,
      maskChars_of_lt_length hlt]

theorem mask_mask (s : String) : mask (mask s) = mask s := by
  unfold mask
  rw [String.toList_ofList, maskChars_maskChars]

/-- Two texts that masking makes the same without being the same: they have the same length, of more
than two characters, and the same first and the same last character. -/
structure MaskedAlike (a b : String) : Prop where
  long : 2 < a.length
  length : a.length = b.length
  first : a.toList.head? = b.toList.head?
  last : a.toList.getLast? = b.toList.getLast?

variable {a b : String}

theorem length_mask (s : String) : (mask s).length = s.length := by
  rw [← String.length_toList, toList_mask, length_maskChars, String.length_toList]

theorem MaskedAlike.mask_eq (h : MaskedAlike a b) : mask a = mask b := by
  obtain ⟨hlong, hlength, hfirst, hlast⟩ := h
  rw [← String.length_toList] at hlong
  rw [← String.length_toList, ← String.length_toList] at hlength
  unfold mask
  rw [maskChars_of_lt_length hlong, maskChars_of_lt_length (hlength ▸ hlong), hlength, hfirst,
    hlast]

/-- A masked text shows exactly its length and its first and last character, if it is of more than
two, and otherwise all of it. -/
theorem mask_eq_mask_iff : mask a = mask b ↔ a = b ∨ MaskedAlike a b := by
  constructor
  · intro h
    have hchars : maskChars a.toList = maskChars b.toList := by
      rw [← toList_mask, h, toList_mask]
    -- Masking keeps the length, so both texts are long or neither is.
    by_cases hlong : 2 < a.length
    · refine .inr ⟨hlong, ?_, ?_, ?_⟩
      · rw [← length_mask a, h, length_mask]
      · rw [← head?_maskChars, hchars, head?_maskChars]
      · rw [← getLast?_maskChars, hchars, getLast?_maskChars]
    · have hshort : a.toList.length ≤ 2 := by
        rw [String.length_toList]
        omega
      have hshort' : b.toList.length ≤ 2 := by
        rwa [← length_maskChars, ← hchars, length_maskChars]
      rw [maskChars_of_length_le hshort, maskChars_of_length_le hshort'] at hchars
      exact .inl (String.toList_injective hchars)
  · rintro (rfl | h)
    · rfl
    · exact h.mask_eq

end Username

/-- A masked value is another text, or whatever it was if it is none. -/
def Json.masked : Json → Json
  | .str s => .str (Username.mask s)
  | json => json

/-- The names of the fields that show a username or a user id. -/
def Event.identifiers : List String := ["username", "user_id"]

/-- A field as a masked record shows it. -/
def Event.maskField (field : String × Json) : String × Json :=
  if field.1 ∈ identifiers then (field.1, field.2.masked) else field

/-- The record with every username and user id masked. -/
def Record.masked (record : Record) : Record :=
  { record with fields := record.fields.map Event.maskField }

namespace Event

theorem fst_maskField (field : String × Json) : (maskField field).1 = field.1 := by
  unfold maskField
  split <;> rfl

/-- The one username that is masked always may be masked once more. -/
theorem fields_true (event : Event) : event.fields true = (event.fields false).map maskField := by
  cases event <;>
    simp [fields, failureFields, identifier, maskField, identifiers, Json.masked,
      Username.mask_mask]

end Event

/-- Two fields that masking makes the same: they are the same, or show two texts of which masking
shows the same, both as the username or both as the user id. -/
def Event.FieldsAlike (x y : String × Json) : Prop :=
  x = y ∨ x.1 = y.1 ∧ x.1 ∈ identifiers ∧
    ∃ a b, x.2 = .str a ∧ y.2 = .str b ∧ Username.MaskedAlike a b

/-- Two records that differ in nothing but what masking hides. -/
structure Record.MaskedAlike (r r' : Record) : Prop where
  level : r.level = r'.level
  name : r.name = r'.name
  fields : List.Forall₂ Event.FieldsAlike r.fields r'.fields

theorem Json.masked_of_ne_str {v : Json} (h : ∀ a, v ≠ .str a) : v.masked = v := by
  unfold masked
  split
  · exact absurd rfl (h _)
  · rfl

theorem Json.masked_eq_masked_iff {v w : Json} :
    v.masked = w.masked ↔
      v = w ∨ ∃ a b, v = .str a ∧ w = .str b ∧ Username.MaskedAlike a b := by
  constructor
  · intro h
    -- A masked text is a text, so a text and any other value are never masked alike.
    by_cases hv : ∃ a, v = .str a
    · obtain ⟨a, rfl⟩ := hv
      by_cases hw : ∃ b, w = .str b
      · obtain ⟨b, rfl⟩ := hw
        have hmask : Username.mask a = Username.mask b := by
          simpa only [masked, text.injEq, Text.whole.injEq] using h
        rcases Username.mask_eq_mask_iff.1 hmask with rfl | halike
        · exact .inl rfl
        · exact .inr ⟨a, b, rfl, rfl, halike⟩
      · rw [masked_of_ne_str (not_exists.1 hw)] at h
        exact absurd ⟨_, h.symm⟩ hw
    · rw [masked_of_ne_str (not_exists.1 hv)] at h
      by_cases hw : ∃ b, w = .str b
      · obtain ⟨b, rfl⟩ := hw
        exact absurd ⟨_, h⟩ hv
      · rw [masked_of_ne_str (not_exists.1 hw)] at h
        exact .inl h
  · rintro (rfl | ⟨a, b, rfl, rfl, h⟩)
    · rfl
    · simp only [masked, h.mask_eq]

theorem Event.maskField_eq_iff {x y : String × Json} :
    maskField x = maskField y ↔ FieldsAlike x y := by
  obtain ⟨name, value⟩ := x
  obtain ⟨name', value'⟩ := y
  unfold FieldsAlike
  by_cases hname : name = name'
  · subst hname
    by_cases hi : name ∈ identifiers
    · simp [maskField, hi, Json.masked_eq_masked_iff]
    · simp [maskField, hi]
  · have hfst : maskField (name, value) ≠ maskField (name', value') := by
      intro h
      have hnames := congrArg Prod.fst h
      rw [fst_maskField, fst_maskField] at hnames
      exact hname hnames
    simp [hfst, hname]

/-- Mapping two lists gives the same exactly if it does so entry by entry. -/
theorem map_eq_map_iff_forall₂ {α β : Type} {f : α → β} {R : α → α → Prop}
    (h : ∀ a b, f a = f b ↔ R a b) (l m : List α) : l.map f = m.map f ↔ List.Forall₂ R l m := by
  rw [← List.forall₂_eq_eq_eq, List.forall₂_map_left_iff, List.forall₂_map_right_iff]
  simp only [h]

/-- Two records look the same once masked exactly if they differ in nothing but what masking
hides. -/
theorem Record.masked_eq_masked_iff {r r' : Record} :
    r.masked = r'.masked ↔ r.MaskedAlike r' := by
  have hfields : r.fields.map Event.maskField = r'.fields.map Event.maskField ↔
      List.Forall₂ Event.FieldsAlike r.fields r'.fields :=
    map_eq_map_iff_forall₂ (fun _ _ => Event.maskField_eq_iff) _ _
  constructor
  · intro h
    have hlevel : r.masked.level = r'.masked.level := by rw [h]
    have hname : r.masked.name = r'.masked.name := by rw [h]
    exact ⟨hlevel, hname, hfields.1 (congrArg Record.fields h)⟩
  · rintro ⟨hlevel, hname, halike⟩
    simp only [masked, hlevel, hname, hfields.2 halike]

theorem Record.masked_only (record : Record) (shows : String → Bool) :
    record.masked.only shows = (record.only shows).masked := by
  have hnames : (fun field : String × Json => shows field.1) ∘ Event.maskField =
      fun field => shows field.1 :=
    funext fun field => congrArg shows (Event.fst_maskField field)
  simp only [only, masked, List.filter_map, hnames]

theorem Record.keys_masked (record : Record) :
    Fields.keys record.masked.fields = Fields.keys record.fields := by
  unfold masked Fields.keys
  rw [List.map_map]
  congr 1
  exact funext Event.fst_maskField

/-- What a logger keeps of a record does not depend on the values of the fields. -/
theorem Logger.kept_masked (l : Logger) (record : Record) :
    l.kept record.masked = (l.kept record).map Record.masked := by
  have hlevel : record.masked.level = record.level := rfl
  unfold kept
  rw [Record.keys_masked, Record.masked_only, hlevel]
  cases l.refusal? record.level (Fields.keys record.fields) with
  | some e => rfl
  | none => by_cases ha : l.admits record.level = true <;> simp [ha]

namespace Probe

variable (p : Probe)

/-- The probe that masks, or does not. -/
def masking (masked : Bool) : Probe :=
  { p with masked }

variable {p} (ho : p.observation? = none)

include ho

theorem record_masking (event : Event) :
    (p.masking true).record event = ((p.masking false).record event).masked := by
  simp only [record, masking, observed, ho, Record.masked, List.append_nil, Event.fields_true]

theorem kept_masking (event : Event) :
    (p.masking true).kept event = ((p.masking false).kept event).map Record.masked := by
  have ho' (masked : Bool) : (p.masking masked).observation? = none := ho
  rw [kept_of_unobserved (ho' true), kept_of_unobserved (ho' false), record_masking ho]
  exact Logger.kept_masked _ _

theorem traceOf_masking (t : Trace) (acts : List Act) :
    (p.masking true).traceOf t acts =
      { (p.masking false).traceOf t acts with
        log := t.log ++ ((Act.events acts).flatMap (p.masking false).kept).map Record.masked } := by
  rw [List.map_flatMap, ← funext (kept_masking ho)]
  rfl

end Probe

namespace Resolver

variable (r : Resolver)

/-- The resolver whose probe masks, or does not. -/
def masking (masked : Bool) : Resolver :=
  { r with probe := r.probe.masking masked }

section Steady

variable {r} (hp : ∀ masked, (r.probe.masking masked).Steady)

include hp

theorem resolve_masking (masked : Bool) (outcome : Outcome) (identity? : Option Identity)
    (s : Scene) :
    (r.masking masked).resolve outcome identity? s =
      let trace :=
        (r.probe.masking masked).traceOf s.trace (r.acts outcome identity? s.attempt.request)
      match (r.callCourse outcome identity? s.attempt.request).ending with
      | .ok d? =>
          .ok (reported s.attempt.request d?)
            ⟨{ s.attempt with request := written s.attempt.request d? }, trace⟩
      | .error e => .error e ⟨s.attempt, trace⟩ :=
  -- No course mentions the probe, so the acts of the masking resolver are those of `r` itself.
  resolve_of_passes (r := r.masking masked) (Probe.passes_of_steady (hp masked) _)

/-- A call goes the same way and ends in the same way, whether it masks or not. -/
theorem resolve_masking_true (ho : r.probe.observation? = none) (outcome : Outcome)
    (identity? : Option Identity) (s : Scene) :
    ∃ records t, t.trace.log = s.trace.log ++ records ∧
      let u : Scene :=
        { t with trace := { t.trace with log := s.trace.log ++ records.map Record.masked } }
      (∃ report, (r.masking false).resolve outcome identity? s = .ok report t ∧
          (r.masking true).resolve outcome identity? s = .ok report u) ∨
        ∃ e, (r.masking false).resolve outcome identity? s = .error e t ∧
          (r.masking true).resolve outcome identity? s = .error e u := by
  let records := (Act.events (r.acts outcome identity? s.attempt.request)).flatMap
    (r.probe.masking false).kept
  rw [resolve_masking hp, resolve_masking hp, Probe.traceOf_masking ho]
  cases (r.callCourse outcome identity? s.attempt.request).ending with
  | ok d? => exact ⟨records, _, rfl, .inl ⟨_, rfl, rfl⟩⟩
  | error e => exact ⟨records, _, rfl, .inr ⟨e, rfl, rfl⟩⟩

end Steady

/-- Masking changes nothing of a call but the records that it logs: it ends in the same way, in the
same report or failure, with the same contexts and the same calls of collaborators, and each record
has its usernames and user ids masked and is otherwise the same. Two logs are masked alike exactly
if they differ in nothing but identifiers that share their length, of more than two characters, and
their first and last character, and two texts that differ in one of these are masked differently. -/
theorem resolve_masks (ho : r.probe.observation? = none)
    (hp : ∀ masked, (r.probe.masking masked).Steady) (outcome : Outcome)
    (identity? : Option Identity) (s : Scene) :
    (∃ records : List Record, ∃ t : Scene, t.trace.log = s.trace.log ++ records ∧
      let u : Scene :=
        { t with trace := { t.trace with log := s.trace.log ++ records.map Record.masked } }
      ((∃ report, (r.masking false).resolve outcome identity? s = .ok report t ∧
          (r.masking true).resolve outcome identity? s = .ok report u) ∨
        ∃ e, (r.masking false).resolve outcome identity? s = .error e t ∧
          (r.masking true).resolve outcome identity? s = .error e u)) ∧
    (∀ log log' : List Record, log.map Record.masked = log'.map Record.masked ↔
      List.Forall₂ Record.MaskedAlike log log') ∧
    ∀ a b : String,
      a.length ≠ b.length ∨ a.toList.head? ≠ b.toList.head? ∨
        a.toList.getLast? ≠ b.toList.getLast? → Username.mask a ≠ Username.mask b := by
  refine ⟨resolve_masking_true hp ho outcome identity? s,
    map_eq_map_iff_forall₂ fun _ _ => Record.masked_eq_masked_iff, ?_⟩
  rintro a b hdiffer hmask
  rcases Username.mask_eq_mask_iff.1 hmask with rfl | ⟨_, hlength, hfirst, hlast⟩
  · simp at hdiffer
  · simp [hlength, hfirst, hlast] at hdiffer

/-- The username of an identity without a user id is masked in both runs, and its propagation only
in one. -/
theorem resolve_masks_username :
    let r : Resolver :=
      { collaborators :=
          { tenantDomain := fun _ => .ok "acme.com"
            tenantId := fun _ => .ok 1
            userStore := fun _ => .ok none } }
    let alice : Identity := { username := "alice", tenantDomain := some "acme.com" }
    let s : Scene := ⟨{ request := { tenantDomain := some "ACME.com" } }, {}⟩
    let usernames (t : Scene) := t.trace.log.map fun record =>
      Fields.get? "username" record.fields
    r.probe.observation? = none ∧ (∀ masked, (r.probe.masking masked).Steady) ∧
      ∃ report t u, (r.masking false).resolve ⟨.success, none⟩ (some alice) s = .ok report t ∧
        (r.masking true).resolve ⟨.success, none⟩ (some alice) s = .ok report u ∧
        t.attempt = u.attempt ∧ t.trace.calls = u.trace.calls ∧
        usernames t = [some (.str "alice"), some (.str "a***e"), none] ∧
        usernames u = [some (.str "a***e"), some (.str "a***e"), none] := by
  intro r alice s usernames
  have hp : ∀ masked, (r.probe.masking masked).Steady :=
    fun _ => Probe.steady_of_logger Logger.recording_default.steady rfl
  obtain ⟨⟨records, t, hlog, hrun⟩, _⟩ :=
    resolve_masks r rfl hp ⟨.success, none⟩ (some alice) s
  rcases hrun with ⟨report, hplain, hmasked⟩ | ⟨e, hplain, _⟩
  · obtain rfl : t.trace.log = records := hlog
    refine ⟨rfl, hp, report, t, _, hplain, hmasked, rfl, rfl, ?_, ?_⟩
    · rw [← sceneAfter_of_ok hplain]
      unfold usernames s alice r
      rfl
    · rw [← sceneAfter_of_ok hplain]
      unfold usernames s alice r
      rfl
  · cases hplain

end Resolver

end Principal
