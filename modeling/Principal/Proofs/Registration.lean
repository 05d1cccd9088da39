import Mathlib.Data.List.Forall2
import Principal.Directory
import Principal.Proofs.Resolution

/-!
# Registrations up to case

Directories in memory are filled by one registration after the other. Two sequences of
registrations that differ in the case of tenant domains alone fill them alike: what is filed under a
tenant domain is filed under its folding, so entries that meet only there overwrite each other in
the same way, and only the domains of organizations are kept as they were given.
-/

namespace Principal

theorem CaseMap.folding_char_ne_nil (c : Char) : folding.char c ≠ [] := by
  have hall : ∀ expansion ∈ folding.expansions, expansion.2 ≠ [] := by decide
  rcases folding.char_cases c with ⟨image, hmem, he⟩ | ⟨span, _, _, he⟩ | he
  · simpa only [he, ne_eq, List.map_eq_nil_iff] using hall _ hmem
  · rw [he]
    exact List.cons_ne_nil _ _
  · rw [he]
    exact List.cons_ne_nil _ _

/-- Folding may make a text longer, but never makes one empty. -/
theorem foldCase_eq_empty_iff {s : String} : foldCase s = "" ↔ s = "" := by
  constructor
  · intro h
    have hchars : s.toList.flatMap CaseMap.folding.char = [] := by
      rw [← toList_foldCase, h]
      rfl
    have hnil : s.toList = [] := by
      refine List.eq_nil_iff_forall_not_mem.2 fun c hc => ?_
      exact CaseMap.folding_char_ne_nil c (List.flatMap_eq_nil_iff.1 hchars c hc)
    exact String.toList_injective hnil
  · rintro rfl
    exact foldCase_empty

/-- A text of the same folding is there where the other is, and is no more empty than it. -/
theorem exists_of_map_foldCase_eq {s : String} {t? : Option String} (hs : s ≠ "")
    (h : some (foldCase s) = t?.map foldCase) :
    ∃ t, t? = some t ∧ t ≠ "" ∧ foldCase t = foldCase s := by
  obtain ⟨t, rfl, ht⟩ := Option.map_eq_some_iff.1 h.symm
  refine ⟨t, rfl, fun hempty => hs ?_, ht⟩
  rw [← foldCase_eq_empty_iff, ← ht, hempty, foldCase_empty]

/-- Indexes with the same keys find related values if they file them in the same order. -/
theorem Index.find?_rel {κ υ : Type} [BEq κ] {R : υ → υ → Prop} {index index' : Index κ υ}
    (h : List.Forall₂ (fun x y : κ × υ => x.1 = y.1 ∧ R x.2 y.2) index index') (key : κ) :
    Option.Rel R (index.find? key) (index'.find? key) := by
  unfold find?
  induction h with
  | nil => exact .none
  | @cons x y _ _ hxy _ ih =>
      obtain ⟨k, value⟩ := x
      obtain ⟨k', value'⟩ := y
      obtain ⟨rfl, hvalue⟩ := hxy
      rw [List.lookup_cons, List.lookup_cons]
      cases key == k with
      | true => exact .some hvalue
      | false => exact ih

theorem foldCase_getD_eq {a b : Option String} (h : a.map foldCase = b.map foldCase) :
    foldCase (a.getD "") = foldCase (b.getD "") := by
  cases a with
  | none =>
      cases b with
      | none => rfl
      | some b => cases h
  | some a =>
      cases b with
      | none => cases h
      | some b => exact Option.some.inj h

namespace Directory

/-- A call that fills one of the directories. A store is known by its name. -/
inductive Registration where
  | organization (organization domain : String)
  | tenant (domain : String) (tenant : Int)
  | store (tenant : Int) (name : String)
  | user (name : String) (user : StoredUser)
  | userId (userId username : String) (tenantDomain storeDomain : Option String)
deriving DecidableEq, Repr

def register (d : Directory) : Registration → Directory
  | .organization organization domain =>
      { d with organizations := d.organizations.register organization domain }
  | .tenant domain tenant => { d with tenants := d.tenants.register domain tenant }
  | .store tenant name => { d with stores := d.stores.register tenant name }
  | .user name user => { d with stores := d.stores.add name user }
  | .userId userId username tenantDomain storeDomain =>
      { d with userIds? := d.userIds?.map (·.register userId username tenantDomain storeDomain) }

def registered (d : Directory) (registrations : List Registration) : Directory :=
  registrations.foldl register d

/-- Two registrations that differ in the case of a tenant domain at most. -/
inductive Registration.Alike : Registration → Registration → Prop where
  | organization (organization : String) {domain domain' : String}
      (h : foldCase domain = foldCase domain') :
      Alike (.organization organization domain) (.organization organization domain')
  | tenant (tenant : Int) {domain domain' : String} (h : foldCase domain = foldCase domain') :
      Alike (.tenant domain tenant) (.tenant domain' tenant)
  | store (tenant : Int) (name : String) : Alike (.store tenant name) (.store tenant name)
  | user (name : String) (user : StoredUser) : Alike (.user name user) (.user name user)
  | userId (userId username : String) (storeDomain : Option String)
      {tenantDomain tenantDomain' : Option String}
      (h : tenantDomain.map foldCase = tenantDomain'.map foldCase) :
      Alike (.userId userId username tenantDomain storeDomain)
        (.userId userId username tenantDomain' storeDomain)

/-- Two directories that differ in the case of the domains of organizations at most. -/
structure Alike (d d' : Directory) : Prop where
  organizations :
    List.Forall₂ (fun x y : String × String => x.1 = y.1 ∧ foldCase x.2 = foldCase y.2)
      d.organizations.domains d'.organizations.domains
  tenants : d.tenants = d'.tenants
  stores : d.stores = d'.stores
  userIds? : d.userIds? = d'.userIds?

theorem Alike.refl (d : Directory) : Alike d d where
  organizations := List.forall₂_same.2 fun _ _ => ⟨rfl, rfl⟩
  tenants := rfl
  stores := rfl
  userIds? := rfl

theorem Tenants.register_eq (t : Tenants) (tenant : Int) {domain domain' : String}
    (h : foldCase domain = foldCase domain') :
    t.register domain tenant = t.register domain' tenant := by
  unfold register
  rw [h]

theorem UserIds.key_eq (u : UserIds) (username : String) (storeDomain : Option String)
    {tenantDomain tenantDomain' : Option String}
    (h : tenantDomain.map foldCase = tenantDomain'.map foldCase) :
    u.key username tenantDomain storeDomain = u.key username tenantDomain' storeDomain := by
  unfold key
  rw [foldCase_getD_eq h]

/-- A registration and one that is alike keep directories alike. -/
theorem Alike.register {d d' : Directory} {x y : Registration} (hd : Alike d d')
    (h : x.Alike y) : Alike (d.register x) (d'.register y) := by
  cases h with
  | organization organization h =>
      exact { hd with organizations := .cons ⟨rfl, h⟩ hd.organizations }
  | tenant tenant h =>
      refine { hd with tenants := ?_ }
      change d.tenants.register _ tenant = d'.tenants.register _ tenant
      rw [hd.tenants, Tenants.register_eq _ tenant h]
  | store tenant name =>
      refine { hd with stores := ?_ }
      change d.stores.register tenant name = d'.stores.register tenant name
      rw [hd.stores]
  | user name user =>
      refine { hd with stores := ?_ }
      change d.stores.add name user = d'.stores.add name user
      rw [hd.stores]
  | userId userId username storeDomain h =>
      refine { hd with userIds? := ?_ }
      change d.userIds?.map _ = d'.userIds?.map _
      rw [hd.userIds?]
      congr 1
      funext u
      unfold UserIds.register
      rw [u.key_eq username storeDomain h]

theorem Alike.registered {d d' : Directory} {l l' : List Registration} (hd : Alike d d')
    (h : List.Forall₂ Registration.Alike l l') : Alike (d.registered l) (d'.registered l') := by
  induction h generalizing d d' with
  | nil => exact hd
  | cons hx _ ih => exact ih (hd.register hx)

end Directory

/-- Two answers agree if they are related values or failures of the same kind. -/
inductive Agree {α β : Type} (R : α → β → Prop) : Except Failure α → Except Failure β → Prop where
  | ok {a : α} {b : β} (h : R a b) : Agree R (.ok a) (.ok b)
  | error {e e' : Failure} (h : e.kind = e'.kind) : Agree R (.error e) (.error e')

theorem Agree.refl {α : Type} {R : α → α → Prop} (hR : ∀ a, R a a) (x : Except Failure α) :
    Agree R x x := by
  cases x with
  | ok a => exact .ok (hR a)
  | error e => exact .error rfl

/-- Collaborators that answer alike where the questions differ in the case of a tenant domain at
most. -/
structure Collaborators.Alike (c c' : Collaborators) : Prop where
  tenantDomain : ∀ organization,
    Agree (fun domain domain' => foldCase domain = foldCase domain')
      (c.tenantDomain organization) (c'.tenantDomain organization)
  tenantId : ∀ domain domain', foldCase domain = foldCase domain' →
    Agree Eq (c.tenantId domain) (c'.tenantId domain')
  userStore : c.userStore = c'.userStore
  userId? : Option.Rel
    (fun find find' => ∀ username tenantDomain tenantDomain' storeDomain,
      tenantDomain.map foldCase = tenantDomain'.map foldCase →
        find username tenantDomain storeDomain = find' username tenantDomain' storeDomain)
    c.userId? c'.userId?

namespace Directory

theorem Alike.tenantDomain {d d' : Directory} (hd : d.Alike d') (organization : String) :
    Agree (fun domain domain' => foldCase domain = foldCase domain')
      (d.organizations.tenantDomain organization) (d'.organizations.tenantDomain organization) := by
  have hfind : Option.Rel (fun domain domain' => foldCase domain = foldCase domain')
      (Index.find? organization d.organizations.domains)
      (Index.find? organization d'.organizations.domains) :=
    Index.find?_rel hd.organizations organization
  unfold Organizations.tenantDomain
  generalize Index.find? organization d.organizations.domains = domain? at hfind ⊢
  generalize Index.find? organization d'.organizations.domains = domain?' at hfind ⊢
  cases hfind with
  | some h => exact .ok h
  | none => exact .error rfl

theorem tenantId_agree (t : Tenants) {domain domain' : String}
    (h : foldCase domain = foldCase domain') :
    Agree Eq (t.tenantId domain) (t.tenantId domain') := by
  unfold Tenants.tenantId
  rw [h]
  cases Index.find? (foldCase domain') t.ids with
  | some tenant => exact .ok rfl
  | none => exact .error rfl

/-- Directories that are alike answer alike. -/
theorem Alike.collaborators {d d' : Directory} (hd : d.Alike d') :
    d.collaborators.Alike d'.collaborators := by
  refine ⟨hd.tenantDomain, fun domain domain' h => ?_, ?_, ?_⟩
  · change Agree Eq (d.tenants.tenantId domain) (d'.tenants.tenantId domain')
    rw [hd.tenants]
    exact tenantId_agree _ h
  · unfold Directory.collaborators Directory.userStore
    rw [hd.stores]
  · unfold Directory.collaborators
    rw [hd.userIds?]
    cases d'.userIds? with
    | none => exact .none
    | some u =>
        refine .some fun username tenantDomain tenantDomain' storeDomain h => ?_
        simp only [UserIds.find?, u.key_eq username storeDomain h]

/-- Directories in memory raise nothing but failures of their own. -/
theorem recoverable_collaborators (d : Directory) : d.collaborators.Recoverable := by
  intro call e h
  cases call with
  | tenantDomain organization =>
      change d.organizations.tenantDomain organization = .error e at h
      unfold Organizations.tenantDomain at h
      split at h
      · cases h
      · cases h
        rfl
  | tenantId domain =>
      change d.tenants.tenantId domain = .error e at h
      unfold Tenants.tenantId at h
      split at h
      · cases h
      · cases h
        rfl
  | userStore tenant =>
      change (d.stores.nameOf tenant).map _ = .error e at h
      unfold Stores.nameOf at h
      by_cases ht : tenant < 0
      · rw [if_pos ht] at h
        cases h
        rfl
      · rw [if_neg ht] at h
        cases h
  | user userId storeDomain =>
      obtain ⟨tenant, store, hs, hu⟩ := h
      change (d.stores.nameOf tenant).map (·.map d.userStore) = .ok (some store) at hs
      match hn : d.stores.nameOf tenant with
      | .error e' =>
          rw [hn] at hs
          cases hs
      | .ok none =>
          rw [hn] at hs
          cases hs
      | .ok (some name) =>
          rw [hn] at hs
          cases hs
          cases hu
  | userId username tenantDomain storeDomain =>
      obtain ⟨find, hf, hu⟩ := h
      change d.userIds?.map _ = some find at hf
      cases hi : d.userIds? with
      | none =>
          rw [hi] at hf
          cases hf
      | some u =>
          rw [hi] at hf
          cases hf
          cases hu

end Directory

end Principal
