import Principal.Observation
import Principal.Proofs.History
import Principal.Proofs.Merging

/-!
# Amending observations

An observation is amended by naming another handler or by giving it more entries. A run of
amendments comes to the handler that was named last and to all the entries put one after the other,
and the fields that are shown are merged with the entries of each amendment in turn.
-/

namespace Principal

/-- A change to an observation: another handler, or more entries. -/
inductive Amendment where
  | handler (name : Option String)
  | extra (entries : Fields Json)

namespace Amendment

def handler? : Amendment → Option (Option String)
  | handler name => some name
  | extra _ => none

def entries : Amendment → Fields Json
  | handler _ => []
  | extra entries => entries

end Amendment

namespace Observation

/-- Entries that can be given by their names: none comes twice, and none is the one that stands for
the observation itself. -/
structure Named (entries : Fields Json) : Prop where
  nodup : (Fields.keys entries).Nodup
  notSelf : "self" ∉ Fields.keys entries

instance (entries : Fields Json) : Decidable (Named entries) :=
  decidable_of_iff ((Fields.keys entries).Nodup ∧ "self" ∉ Fields.keys entries)
    ⟨fun ⟨hn, hs⟩ => ⟨hn, hs⟩, fun h => ⟨h.nodup, h.notSelf⟩⟩

variable {o : Observation}

/-- The standard entries, present or not. -/
def attributes (o : Observation) : List (String × Option String) :=
  [("request_id", o.requestId), ("handler_name", o.handlerName), ("tenant_domain", o.tenantDomain)]

theorem nodup_keys_standard (o : Observation) : (Fields.keys o.standard).Nodup := by
  obtain ⟨requestId, handlerName, tenantDomain, _⟩ := o
  cases requestId <;> cases handlerName <;> cases tenantDomain <;> simp [standard, Fields.keys]

theorem get?_standard {key : String} {value? : Option String}
    (h : (key, value?) ∈ o.attributes) :
    Fields.get? key o.standard = value?.map .str := by
  obtain ⟨requestId, handlerName, tenantDomain, _⟩ := o
  simp only [attributes, List.mem_cons, Prod.mk.injEq, List.not_mem_nil, or_false] at h
  rcases h with ⟨rfl, hv⟩ | ⟨rfl, hv⟩ | ⟨rfl, hv⟩ <;> rw [hv] <;>
    cases requestId <;> cases handlerName <;> cases tenantDomain <;> rfl

section Entries

variable {entries first second : Fields Json}

theorem Named.merge (hf : Named first) (hs : Named second) : Named (Fields.merge first second) := by
  rw [← Fields.update_eq_merge hf.nodup hs.nodup]
  refine ⟨Fields.nodup_keys_update first second hf.nodup, fun h => ?_⟩
  exact ((Fields.mem_keys_update "self" first second).1 h).elim hf.notSelf hs.notSelf

theorem withExtra_eq (h : "self" ∉ Fields.keys entries) :
    o.withExtra entries = .ok { o with extra := Fields.update o.extra entries } := by
  rw [withExtra, if_neg fun hc => h ((Fields.contains_iff _ _).1 hc)]

/-- Entries that are given are merged into the fields, those of standard names too. -/
theorem fields_update (ho : (Fields.keys o.extra).Nodup) (he : (Fields.keys entries).Nodup) :
    fields { o with extra := Fields.update o.extra entries } = Fields.merge o.fields entries := by
  have hs : (Fields.keys o.standard).Nodup := o.nodup_keys_standard
  have hf : (Fields.keys o.fields).Nodup := Fields.nodup_keys_update _ _ hs
  calc
    _ = Fields.update o.standard (Fields.update o.extra entries) := rfl
    _ = Fields.update o.fields entries := (Fields.update_assoc hs ho he).symm
    _ = Fields.merge o.fields entries := Fields.update_eq_merge hf he

/-- To give entries twice is to give at once what the second ones make of the first. -/
theorem withExtra_withExtra (ho : (Fields.keys o.extra).Nodup) (hf : Named first)
    (hs : Named second) :
    (o.withExtra first >>= fun o => o.withExtra second) =
      o.withExtra (Fields.merge first second) := by
  rw [withExtra_eq hf.notSelf, withExtra_eq (hf.merge hs).notSelf,
    ← Fields.update_eq_merge hf.nodup hs.nodup, ← Fields.update_assoc ho hf.nodup hs.nodup]
  exact withExtra_eq hs.notSelf

theorem withExtra_withHandler (o : Observation) (name : Option String) (entries : Fields Json) :
    (o.withHandler name).withExtra entries = (o.withExtra entries).map (withHandler · name) := by
  unfold withExtra
  split <;> rfl

end Entries

theorem get?_fields (ho : (Fields.keys o.extra).Nodup) {key : String} {value? : Option String}
    (h : (key, value?) ∈ o.attributes) :
    Fields.get? key o.fields = (Fields.get? key o.extra).or (value?.map .str) := by
  rw [fields, Fields.get?_update ho, get?_standard h]

section Runs

variable (o)

def amend : Amendment → Except Failure Observation
  | .handler name => .ok (o.withHandler name)
  | .extra entries => o.withExtra entries

def amendAll (amendments : List Amendment) : Except Failure Observation :=
  amendments.foldlM amend o

/-- The observation under the handler that is named last, with all the entries that are given. -/
def amended (amendments : List Amendment) : Observation where
  requestId := o.requestId
  handlerName := (lastTelling Amendment.handler? amendments).getD o.handlerName
  tenantDomain := o.tenantDomain
  extra := Fields.update o.extra (amendments.flatMap Amendment.entries)

theorem amended_singleton (amendment : Amendment) :
    o.amended [amendment] =
      { o with
        handlerName := amendment.handler?.getD o.handlerName
        extra := Fields.update o.extra amendment.entries } := by
  simp only [amended, lastTelling_singleton, List.flatMap_singleton]

theorem amended_cons (amendment : Amendment) (rest : List Amendment) :
    o.amended (amendment :: rest) = (o.amended [amendment]).amended rest := by
  rw [amended_singleton]
  simp only [amended, lastTelling_cons, List.flatMap_cons, Fields.update_append, Option.getD_or]

theorem amend_eq {amendment : Amendment} (h : "self" ∉ Fields.keys amendment.entries) :
    o.amend amendment = .ok (o.amended [amendment]) := by
  rw [amended_singleton]
  cases amendment with
  | handler name => rfl
  | extra entries => exact withExtra_eq h

theorem amendAll_eq {amendments : List Amendment}
    (h : ∀ amendment ∈ amendments, "self" ∉ Fields.keys amendment.entries) :
    o.amendAll amendments = .ok (o.amended amendments) := by
  unfold amendAll
  induction amendments generalizing o with
  | nil => rfl
  | cons amendment rest ih =>
      obtain ⟨hamendment, hrest⟩ := List.forall_mem_cons.1 h
      rw [List.foldlM_cons, o.amend_eq hamendment, o.amended_cons amendment rest]
      exact ih _ hrest

theorem nodup_keys_amended {o : Observation} (ho : (Fields.keys o.extra).Nodup)
    (amendments : List Amendment) : (Fields.keys (o.amended amendments).extra).Nodup :=
  Fields.nodup_keys_update _ _ ho

/-- The fields that are shown after a run are those shown under its last handler, merged with the
entries of each amendment in turn. -/
theorem fields_amended {o : Observation} (ho : (Fields.keys o.extra).Nodup)
    {amendments : List Amendment} (h : ∀ amendment ∈ amendments, Named amendment.entries) :
    (o.amended amendments).fields =
      (amendments.map Amendment.entries).foldl Fields.merge
        (o.withHandler (o.amended amendments).handlerName).fields := by
  induction amendments generalizing o with
  | nil => rfl
  | cons amendment rest ih =>
      obtain ⟨hamendment, hrest⟩ := List.forall_mem_cons.1 h
      rw [o.amended_cons amendment rest, List.map_cons, List.foldl_cons]
      -- Under the last handler from the start, the first amendment does no more than give entries.
      let last := ((o.amended [amendment]).amended rest).handlerName
      have hstep : ((o.amended [amendment]).withHandler last).fields =
          Fields.merge (o.withHandler last).fields amendment.entries := by
        rw [amended_singleton]
        exact fields_update (o := o.withHandler last) ho hamendment.nodup
      rw [← hstep]
      exact ih (nodup_keys_amended ho _) hrest

end Runs

/-- Whatever has been done to an observation, the names that it shows do not repeat, and entries
that are given next are merged into its fields, whether at once or one after another, and whether
before another handler is named or after it. Under a standard name it shows the entry of that name
that was given, or else the standard one. -/
theorem amendAll_composes {o : Observation} (ho : (Fields.keys o.extra).Nodup)
    {amendments : List Amendment} (h : ∀ amendment ∈ amendments, Named amendment.entries) :
    let c := o.amended amendments
    o.amendAll amendments = .ok c ∧
      c.fields = (amendments.map Amendment.entries).foldl Fields.merge
        (o.withHandler c.handlerName).fields ∧
      (Fields.keys c.fields).Nodup ∧
      (∀ entries, Named entries → ∃ extended, c.withExtra entries = .ok extended ∧
        extended.fields = Fields.merge c.fields entries) ∧
      (∀ first second, Named first → Named second → ∃ extended,
        (c.withExtra first >>= fun c => c.withExtra second) = .ok extended ∧
          c.withExtra (Fields.merge first second) = .ok extended) ∧
      (∀ name entries, (c.withHandler name).withExtra entries =
        (c.withExtra entries).map (·.withHandler name)) ∧
      ∀ key value?, (key, value?) ∈ c.attributes →
        Fields.get? key c.fields = (Fields.get? key c.extra).or (value?.map .str) := by
  intro c
  have hc : (Fields.keys c.extra).Nodup := nodup_keys_amended ho amendments
  have hrun : o.amendAll amendments = .ok c := o.amendAll_eq fun a ha => (h a ha).notSelf
  have hfields : (Fields.keys c.fields).Nodup :=
    Fields.nodup_keys_update _ _ c.nodup_keys_standard
  refine ⟨hrun, fields_amended ho h, hfields, fun entries he => ?_, fun first second hf hs => ?_,
    c.withExtra_withHandler, fun key value? => get?_fields hc⟩
  · exact ⟨_, withExtra_eq he.notSelf, fields_update hc he.nodup⟩
  · have hboth := withExtra_eq (o := c) (hf.merge hs).notSelf
    exact ⟨_, (withExtra_withExtra hc hf hs).trans hboth, hboth⟩

/-- An entry that is named like the handler's hides the handler that is named later, and one that is
named like the request's id takes its place in front. -/
theorem amendAll_composes_overriding :
    let o : Observation :=
      { requestId := some "req-1", extra := [("attempt", .int 1), ("handler_name", .str "sso")] }
    let amendments : List Amendment :=
      [.extra [("tenant_domain", .null), ("attempt", .int 2)], .handler (some "basic")]
    let c := o.amended amendments
    let more : Fields Json := [("trace", .int 7), ("request_id", .str "req-2")]
    (Fields.keys o.extra).Nodup ∧ (∀ amendment ∈ amendments, Named amendment.entries) ∧
      o.amendAll amendments = .ok c ∧ c.handlerName = some "basic" ∧
      c.fields = [("request_id", .str "req-1"), ("handler_name", .str "sso"),
        ("attempt", .int 2), ("tenant_domain", .null)] ∧
      Fields.get? "handler_name" c.fields = some (.str "sso") ∧
      Named more ∧ (c.withExtra more).map fields =
        .ok [("request_id", .str "req-2"), ("handler_name", .str "sso"), ("attempt", .int 2),
          ("tenant_domain", .null), ("trace", .int 7)] := by
  intro o amendments c more
  have ho : (Fields.keys o.extra).Nodup := by decide
  have hnamed : ∀ amendment ∈ amendments, Named amendment.entries := by decide
  have hmore : Named more := by decide
  obtain ⟨hrun, hfields, _, hextend, _, _, hshown⟩ := amendAll_composes ho hnamed
  obtain ⟨extended, heq, hmerge⟩ := hextend more hmore
  refine ⟨ho, hnamed, hrun, rfl, hfields.trans (by rfl),
    (hshown "handler_name" (some "basic") (by decide)).trans (by rfl), hmore, ?_⟩
  rw [heq]
  exact congrArg Except.ok (hmerge.trans (by rfl))

end Observation

end Principal
