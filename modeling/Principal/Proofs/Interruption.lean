import Principal.Proofs.Resolution

/-!
# How a resolution can fail

A resolution recovers from every recoverable failure of a collaborator. So its course fails only
at its last call, with an interrupt that the collaborator raised there, and where collaborators
raise nothing but recoverable failures every course ends in a decision. No decision is made by
noting that the context was updated.
-/

namespace Principal

/-- An event of a decision, as opposed to that of the context being updated. -/
def Event.OfDecision (event : Event) : Prop :=
  ∀ fields, event ≠ contextUpdated fields

/-- A course that only interrupts can fail ends well where there are none. -/
theorem Course.Keeps.exists_ending {α : Type} {x : Course α} {N : Event → Prop}
    {c : Collaborators} (hk : x.Keeps N c.Interrupts) (hc : c.Recoverable) :
    ∃ a, x.ending = .ok a := by
  cases he : x.ending with
  | ok a => exact ⟨a, rfl⟩
  | error e =>
      obtain ⟨_, call, _, hraises, hfatal⟩ := hk.fails e he
      rw [hc call e hraises] at hfatal
      cases hfatal

namespace Resolver

variable (r : Resolver)

theorem keeps_usernameCourse (identity : Identity) (request : RequestContext) (d : Decision) :
    (r.usernameCourse identity request d).Keeps Event.OfDecision r.collaborators.Interrupts := by
  unfold usernameCourse
  cases sameTenant identity.tenantDomain request.tenantDomain with
  | true => exact Course.keeps_noted nofun _
  | false => exact Course.keeps_noted nofun _

theorem keeps_userIdCourse (identity : Identity) (d : Decision) :
    (r.userIdCourse identity d).Keeps Event.OfDecision r.collaborators.Interrupts := by
  apply (r.keeps_findCourse identity).caught.bind
  intro found _
  cases userIdOf identity found with
  | ok userId => exact Course.keeps_noted nofun _
  | error e => exact Course.keeps_noted nofun _

theorem keeps_storeCourse {tenant : Int} {store : UserStore}
    (hs : r.collaborators.userStore tenant = .ok (some store)) (domain userId : String) :
    (storeCourse store domain tenant userId).Keeps Event.OfDecision
      r.collaborators.Interrupts := by
  apply (Course.keeps_ask fun e he => ⟨tenant, store, hs, he⟩).caught.bind
  intro found _
  cases found with
  | error e => exact Course.keeps_noted nofun _
  | ok user =>
      dsimp only
      cases nonempty? (user.bind (·.username)) with
      | none => exact Course.keeps_noted nofun _
      | some username => exact Course.keeps_noted nofun _

theorem keeps_tenantCourse (domain : String) (tenant : Int) (userId : Option String) :
    (r.tenantCourse domain tenant userId).Keeps Event.OfDecision r.collaborators.Interrupts := by
  apply (Course.keeps_ask fun _ he => he).caught.bind
  intro found hf
  match found with
  | .error e => exact Course.keeps_noted nofun _
  | .ok none => exact Course.keeps_noted nofun _
  | .ok (some store) =>
      dsimp only
      cases nonempty? userId with
      | none => exact Course.keeps_pure _
      | some userId => exact r.keeps_storeCourse (Course.ending_of_caught hf) domain userId

theorem keeps_searchCourse (resident userId : Option String) :
    (r.searchCourse resident userId).Keeps Event.OfDecision r.collaborators.Interrupts := by
  unfold searchCourse
  cases nonempty? resident with
  | none => exact Course.keeps_noted nofun _
  | some organization =>
      apply (r.keeps_locateCourse organization).caught.bind
      intro found _
      cases found with
      | error e => exact Course.keeps_noted nofun _
      | ok place => exact r.keeps_tenantCourse _ _ _

theorem keeps_organizationCourse (identity : Identity) (request : RequestContext) (d : Decision) :
    (r.organizationCourse identity request d).Keeps Event.OfDecision
      r.collaborators.Interrupts := by
  unfold organizationCourse
  dsimp only
  cases nonempty? identity.capabilities.accessingOrganization with
  | none => exact Course.keeps_pure _
  | some accessing =>
      apply (Course.keeps_note nofun).bind
      intro _ _
      cases identity.capabilities.federated with
      | false => exact Course.keeps_pure _
      | true => exact (r.keeps_searchCourse _ _).bind fun _ _ => Course.keeps_pure _

theorem keeps_course (identity : Identity) (request : RequestContext) :
    (r.course identity request).Keeps Event.OfDecision r.collaborators.Interrupts := by
  apply (r.keeps_usernameCourse identity request {}).bind
  intro d _
  apply (r.keeps_userIdCourse identity d).bind
  intro d _
  exact r.keeps_organizationCourse identity request d

/-- Recoverable failures of collaborators never keep a resolution from a decision. -/
theorem exists_decision (hc : r.collaborators.Recoverable) (identity : Identity)
    (request : RequestContext) : ∃ d, (r.course identity request).ending = .ok d :=
  (r.keeps_course identity request).exists_ending hc

end Resolver

end Principal
