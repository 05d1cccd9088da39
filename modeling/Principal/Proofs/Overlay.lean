import Principal.RequestContext

/-!
# What an update does to a context

Applying an update gives the context with the decided fields written over its own, and names, in
the order of the fields, those whose value differs afterwards.
-/

namespace Principal.RequestContext

variable (c : RequestContext) (u : Update)

theorem Field.name_of_ofName?_eq_some {name : String} {field : Field}
    (h : Field.ofName? name = some field) : field.name = name := by
  have hb : (field.name == name) = true := List.find?_some (p := fun f : Field => f.name == name) h
  exact beq_iff_eq.1 hb

theorem Field.name_injective : Function.Injective Field.name := by
  intro field other h
  have hn := Field.ofName?_name field
  rw [h, Field.ofName?_name other] at hn
  exact (Option.some.inj hn).symm

def overlay : RequestContext where
  tenantDomain := c.tenantDomain
  username := u.username.getD c.username
  userId := u.userId.getD c.userId
  residentOrganization := u.residentOrganization.getD c.residentOrganization

/-- The fields whose value the update changes. -/
def changes : List Field :=
  Field.all.filter fun field => (c.overlay u).get field ≠ c.get field

@[simp] theorem get_overlay (field : Field) :
    (c.overlay u).get field = (u.get? field).getD (c.get field) := by
  cases field <;> rfl

theorem ext_get {c d : RequestContext} (ht : c.tenantDomain = d.tenantDomain)
    (h : ∀ field, c.get field = d.get field) : c = d := by
  cases c
  cases d
  simp only [RequestContext.mk.injEq]
  exact ⟨ht, h .username, h .userId, h .residentOrganization⟩

theorem changes_eq_nil_iff : c.changes u = [] ↔ c.overlay u = c := by
  unfold changes
  rw [List.filter_eq_nil_iff]
  constructor
  · intro h
    refine ext_get rfl fun field => ?_
    simpa only [decide_eq_true_eq, Decidable.not_not] using h field field.mem_all
  · intro h field _
    rw [h]
    simp

theorem overlay_overlay : (c.overlay u).overlay u = c.overlay u := by
  refine ext_get rfl fun field => ?_
  simp only [get_overlay]
  cases u.get? field <;> rfl

theorem changes_overlay : (c.overlay u).changes u = [] :=
  (changes_eq_nil_iff _ u).2 (c.overlay_overlay u)

/-- Writes the decision on a field, if there is one. -/
def writeDecided (state : RequestContext × List Field) (field : Field) :
    RequestContext × List Field :=
  match u.get? field with
  | none => state
  | some value =>
      let (c, more) := state.1.write field value
      (c, state.2 ++ more)

theorem apply_eq_foldl : c.apply u = Field.all.foldl (writeDecided u) (c, []) := by
  unfold apply Update.decided
  rw [List.foldl_filterMap]
  congr 1
  funext state field
  unfold writeDecided
  cases u.get? field <;> rfl

theorem writeDecided_eq (state : RequestContext × List Field) (field : Field) :
    writeDecided u state field =
      (state.1.set field ((u.get? field).getD (state.1.get field)),
        state.2 ++ if (u.get? field).getD (state.1.get field) ≠ state.1.get field then [field]
          else []) := by
  unfold writeDecided
  cases h : u.get? field with
  | none => cases field <;> simp [set, get]
  | some value =>
      by_cases hv : state.1.get field = value
      · subst hv
        cases field <;> simp [write, set, get]
      · simp [write, hv, Ne.symm hv]

theorem apply_eq : c.apply u = (c.overlay u, c.changes u) := by
  rw [apply_eq_foldl]
  simp only [Field.all, List.foldl_cons, List.foldl_nil, writeDecided_eq, get_set, reduceCtorEq,
    if_false, List.nil_append]
  refine Prod.ext rfl ?_
  simp only [changes, Field.all, List.filter_cons, List.filter_nil, get_overlay,
    decide_eq_true_eq]
  split <;> split <;> split <;> rfl

end Principal.RequestContext
