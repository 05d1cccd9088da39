import Principal.Proofs.Cuts
import Principal.Proofs.PublishedContext

/-!
# Qualified usernames

A store domain is put in front of a name in which the separator does not occur, and what stands
before the first separator is taken off a name that does not start with one. So a domain that has
been put on comes off again exactly if no occurrence of the separator starts within it, and a name
that starts with the separator is the one on which the two disagree: no domain is put on it and none
can be taken off.
-/

namespace Principal

namespace Username

open Occurrence

variable {name separator domain : String}

theorem withoutDomain_of_isPrefix (h : separator.toList <+: name.toList) :
    withoutDomain name separator = name := by
  unfold withoutDomain
  rw [cutFirst?_eq_some_iff.2 (firstCut_of_isPrefix h)]

theorem withoutDomain_of_not_isInfix (h : ¬ separator.toList <:+: name.toList) :
    withoutDomain name separator = name := by
  unfold withoutDomain
  rw [cutFirst?_eq_none_iff.2 h]

theorem withoutDomain_of_firstCut {before after : List Char}
    (h : FirstCut separator.toList name.toList before after) (hb : before ≠ []) :
    withoutDomain name separator = String.ofList after := by
  obtain ⟨c, before, rfl⟩ := List.exists_cons_of_ne_nil hb
  unfold withoutDomain
  rw [cutFirst?_eq_some_iff.2 h]

/-- A name carries a domain if the separator occurs in it and does not stand at its start. -/
theorem withoutDomain_ne_iff :
    withoutDomain name separator ≠ name ↔
      separator.toList <:+: name.toList ∧ ¬ separator.toList <+: name.toList := by
  constructor
  · intro h
    constructor
    · by_contra hn
      exact h (withoutDomain_of_not_isInfix hn)
    · intro hp
      exact h (withoutDomain_of_isPrefix hp)
  · rintro ⟨hi, hp⟩ he
    obtain ⟨before, after, hcut⟩ := exists_firstCut hi
    have hb : before ≠ [] := by
      rintro rfl
      exact hp ⟨after, hcut.eq.symm⟩
    rw [withoutDomain_of_firstCut hcut hb] at he
    have hlen := congrArg List.length hcut.eq
    have hpos := List.length_pos_iff.2 hb
    rw [← he, String.toList_ofList, List.length_append, List.length_append] at hlen
    omega

theorem qualify_of_isInfix (h : separator.toList <:+: name.toList) (storeDomain : Option String) :
    qualify name storeDomain separator = name := by
  unfold qualify
  cases nonempty? storeDomain with
  | none => rfl
  | some domain => exact if_pos (occurs_iff.2 h)

theorem qualify_of_not_isInfix (hd : domain ≠ "") (h : ¬ separator.toList <:+: name.toList) :
    qualify name (some domain) separator = domain ++ separator ++ name := by
  unfold qualify
  rw [nonempty?_eq_some_iff.2 ⟨rfl, hd⟩]
  exact if_neg (mt occurs_iff.1 h)

theorem toList_joined (domain separator name : String) :
    (domain ++ separator ++ name).toList = domain.toList ++ separator.toList ++ name.toList := by
  rw [String.toList_append, String.toList_append]

theorem isInfix_joined (domain separator name : String) :
    separator.toList <:+: (domain ++ separator ++ name).toList := by
  rw [toList_joined]
  exact List.infix_append _ _ _

theorem joined_ne (hd : domain ≠ "") : domain ++ separator ++ name ≠ name := by
  intro he
  have hlen := congrArg List.length (congrArg String.toList he)
  have hpos := List.length_pos_iff.2 (mt String.toList_eq_nil_iff.1 hd)
  rw [toList_joined, List.length_append, List.length_append] at hlen
  omega

/-- A domain is put on exactly the names in which the separator does not occur. -/
theorem qualify_eq_self_iff (hd : domain ≠ "") :
    qualify name (some domain) separator = name ↔ separator.toList <:+: name.toList := by
  by_cases h : separator.toList <:+: name.toList
  · exact iff_of_true (qualify_of_isInfix h _) h
  · rw [qualify_of_not_isInfix hd h]
    exact iff_of_false (joined_ne hd) h

theorem isInfix_qualify (hd : domain ≠ "") :
    separator.toList <:+: (qualify name (some domain) separator).toList := by
  by_cases h : separator.toList <:+: name.toList
  · rwa [qualify_of_isInfix h]
  · rw [qualify_of_not_isInfix hd h]
    exact isInfix_joined domain separator name

/-- What has been joined comes apart at the same place unless the separator starts earlier. -/
theorem withoutDomain_joined_iff (hs : separator ≠ "") (hd : domain ≠ "") (name : String) :
    withoutDomain (domain ++ separator ++ name) separator = name ↔
      ¬ separator.toList <:+: domain.toList ++ separator.toList.dropLast := by
  have hs' := mt String.toList_eq_nil_iff.1 hs
  have hd' := mt String.toList_eq_nil_iff.1 hd
  rw [← firstCut_append_iff hs' _ name.toList, ← toList_joined]
  constructor
  · intro h
    obtain ⟨before, after, hcut⟩ := exists_firstCut (isInfix_joined domain separator name)
    have hb : before ≠ [] := by
      rintro rfl
      rw [withoutDomain_of_isPrefix ⟨after, hcut.eq.symm⟩] at h
      exact joined_ne hd h
    rw [withoutDomain_of_firstCut hcut hb] at h
    have hafter : after = name.toList := by rw [← h, String.toList_ofList]
    have heq := hcut.eq
    rw [toList_joined, hafter] at heq
    have hlen := congrArg List.length heq
    simp only [List.length_append] at hlen
    obtain ⟨rfl, -⟩ := cut_unique heq (by omega)
    rwa [hafter] at hcut
  · intro hcut
    rw [withoutDomain_of_firstCut hcut hd', String.ofList_toList]

/-- A domain that is put on a name comes off again exactly if the separator does not occur in it,
not even with its own last character cut off and the rest of it behind the domain; and once a name
is qualified, no other domain is put on it. -/
theorem qualify_round_trip (separator : String) :
    (separator ≠ "" → ∀ domain name : String, domain ≠ "" →
      ¬ separator.toList <:+: name.toList →
        let back := withoutDomain (qualify name (some domain) separator) separator
        (back = name ↔ ¬ separator.toList <:+: domain.toList ++ separator.toList.dropLast) ∧
          (separator.length = 1 → (back = name ↔ ¬ separator.toList <:+: domain.toList))) ∧
    ∀ (name domain : String) (other : Option String), domain ≠ "" →
      qualify (qualify name (some domain) separator) other separator =
        qualify name (some domain) separator := by
  constructor
  · intro hs domain name hd hn
    have hiff := withoutDomain_joined_iff hs hd name
    rw [← qualify_of_not_isInfix hd hn] at hiff
    refine ⟨hiff, fun hone => ?_⟩
    rw [← String.length_toList] at hone
    obtain ⟨c, hc⟩ := List.length_eq_one_iff.1 hone
    rw [hiff, hc, List.dropLast_singleton, List.append_nil]
  · intro name domain other hd
    exact qualify_of_isInfix (isInfix_qualify hd) other

/-- A separator that runs from the domain into the one put on is taken for the first. -/
theorem qualify_round_trip_straddling :
    let back (domain separator : String) :=
      withoutDomain (qualify "y" (some domain) separator) separator
    ¬ "aa".toList <:+: "y".toList ∧ back "x" "aa" = "y" ∧
      ¬ "aa".toList <:+: "xa".toList ∧ back "xa" "aa" ≠ "y" ∧
      "/".length = 1 ∧ ¬ "/".toList <:+: "y".toList ∧ back "xa" "/" = "y" ∧
      qualify (qualify "y" (some "xa") "aa") (some "z") "aa" = qualify "y" (some "xa") "aa" := by
  intro back
  have hn : ¬ "aa".toList <:+: "y".toList := by decide
  have hn' : ¬ "/".toList <:+: "y".toList := by decide
  have h := (qualify_round_trip "aa").1 (by decide)
  have h' := (qualify_round_trip "/").1 (by decide) "xa" "y" (by decide) hn'
  refine ⟨hn, ((h "x" "y" (by decide) hn).1).2 (by decide), by decide, ?_, by decide, hn', ?_, ?_⟩
  · rw [ne_eq, (h "xa" "y" (by decide) hn).1]
    decide
  · exact (h'.2 (by decide)).2 (by decide)
  · exact (qualify_round_trip "aa").2 "y" "xa" (some "z") (by decide)

section Leading

variable {c : Char}

theorem withoutDomain_singleton_ne_iff :
    withoutDomain name (String.singleton c) ≠ name ↔
      c ∈ name.toList ∧ name.toList.head? ≠ some c := by
  rw [withoutDomain_ne_iff, String.toList_singleton, List.singleton_infix_iff,
    singleton_isPrefix_iff]

theorem qualify_singleton_eq_self_iff (hd : domain ≠ "") :
    qualify name (some domain) (String.singleton c) = name ↔ c ∈ name.toList := by
  rw [qualify_eq_self_iff hd, String.toList_singleton, List.singleton_infix_iff]

/-- A qualified name carries a domain unless it starts with the separator: as the name did, or as
the domain does that was put on. -/
theorem qualify_singleton_carries_iff (hd : domain ≠ "") :
    let qualified := qualify name (some domain) (String.singleton c)
    withoutDomain qualified (String.singleton c) ≠ qualified ↔
      name.toList.head? ≠ some c ∧ (c ∈ name.toList ∨ domain.toList.head? ≠ some c) := by
  intro qualified
  have hmem : c ∈ qualified.toList := by
    rw [← List.singleton_infix_iff, ← String.toList_singleton]
    exact isInfix_qualify hd
  rw [withoutDomain_singleton_ne_iff, and_iff_right hmem]
  by_cases h : c ∈ name.toList
  · have hq : qualified = name := (qualify_singleton_eq_self_iff hd).2 h
    rw [hq]
    exact (and_iff_left (.inl h)).symm
  · have hq : qualified = domain ++ String.singleton c ++ name := by
      refine qualify_of_not_isInfix hd ?_
      rwa [String.toList_singleton, List.singleton_infix_iff]
    have hname : name.toList.head? ≠ some c := fun he => h (List.mem_of_mem_head? he)
    have hhead : qualified.toList.head? = domain.toList.head? := by
      rw [hq, toList_joined, List.append_assoc]
      exact List.head?_append_of_ne_nil _ (mt String.toList_eq_nil_iff.1 hd)
    rw [hhead, and_iff_right hname, or_iff_right h]

end Leading

end Username

namespace Resolver

open Username

/-- A call publishes the real username of an identity, if one is found, and otherwise that of an
identity of the request's own tenant with its store domain. -/
theorem resolve_publishes_qualified (r : Resolver) (hp : r.probe.Steady)
    (hc : r.collaborators.Recoverable) (outcome : Outcome) (ho : outcome.isSuccess = true)
    (identity : Identity) (s : Scene)
    (ht : OfOneTenant identity.tenantDomain s.attempt.request.tenantDomain) :
    ∃ report t, r.resolve outcome (some identity) s = .ok report t ∧
      t.attempt.request.username = some ((r.realUsername identity s.attempt.request).getD
        (qualify identity.username identity.storeDomain r.domainSeparator)) := by
  obtain ⟨d, hd⟩ := r.exists_decision hc identity s.attempt.request
  have hx : (r.callCourse outcome (some identity) s.attempt.request).ending = .ok (some d) := by
    rw [callCourse_of_success ho, Course.ending_bind, hd]
    rfl
  rw [resolve_of_passes (Probe.passes_of_steady hp _), hx]
  refine ⟨_, _, rfl, ?_⟩
  have hown : r.ownUsername identity s.attempt.request =
      some (qualify identity.username identity.storeDomain r.domainSeparator) := if_pos ht
  simp only [written, r.overlay_of_course hd, published, hown]
  cases r.realUsername identity s.attempt.request <;> rfl

/-- Putting a domain on and taking one off agree on whether a name is qualified exactly if it does
not start with the separator. What is published for a user of a store domain is the name found in
a user store or else the qualified one, which carries a domain exactly if it does not start with the
separator either. -/
theorem qualified_agree_iff (c : Char) (domain name : String) (hd : domain ≠ "") :
    let separator := String.singleton c
    let qualified := qualify name (some domain) separator
    ((qualified = name ↔ withoutDomain name separator ≠ name) ↔ name.toList.head? ≠ some c) ∧
      (withoutDomain qualified separator ≠ qualified ↔
        name.toList.head? ≠ some c ∧ (c ∈ name.toList ∨ domain.toList.head? ≠ some c)) ∧
      ∀ r : Resolver, r.domainSeparator = separator → r.probe.Steady →
        r.collaborators.Recoverable → ∀ outcome : Outcome, outcome.isSuccess = true →
          ∀ identity : Identity, identity.username = name → identity.storeDomain = some domain →
            ∀ s : Scene,
              OfOneTenant identity.tenantDomain s.attempt.request.tenantDomain →
                ∃ report t, r.resolve outcome (some identity) s = .ok report t ∧
                  t.attempt.request.username =
                    some ((r.realUsername identity s.attempt.request).getD qualified) := by
  intro separator qualified
  refine ⟨?_, qualify_singleton_carries_iff hd, ?_⟩
  · rw [qualify_singleton_eq_self_iff hd, withoutDomain_singleton_ne_iff]
    constructor
    · intro hiff he
      exact (hiff.1 (List.mem_of_mem_head? he)).2 he
    · intro hhead
      exact (and_iff_left hhead).symm
  · rintro r hr hp hc outcome ho identity rfl hstore s ht
    have h := r.resolve_publishes_qualified hp hc outcome ho identity s ht
    rwa [hr, hstore] at h

theorem qualified_agree_of_bare_name :
    let r : Resolver :=
      { collaborators :=
          { tenantDomain := fun _ => .ok "hosting.org"
            tenantId := fun _ => .ok 7
            userStore := fun _ => .ok none } }
    let identity : Identity :=
      { username := "alice", tenantDomain := some "acme.com", storeDomain := some "LDAP" }
    let s : Scene := ⟨{ request := { tenantDomain := some "ACME.com" } }, {}⟩
    "LDAP" ≠ "" ∧ r.domainSeparator = String.singleton '/' ∧ r.probe.Steady ∧
      r.collaborators.Recoverable ∧ OfOneTenant identity.tenantDomain (some "ACME.com") ∧
      (qualify "alice" (some "LDAP") = "alice" ↔ withoutDomain "alice" ≠ "alice") ∧
      ∃ report t, r.resolve ⟨.success, none⟩ (some identity) s = .ok report t ∧
        t.attempt.request.username = some "LDAP/alice" ∧
        withoutDomain "LDAP/alice" ≠ "LDAP/alice" := by
  intro r identity s
  have hp : r.probe.Steady := Probe.steady_of_logger (fun _ _ => ⟨_, rfl⟩) rfl
  have hc : r.collaborators.Recoverable := by
    intro call e h
    cases call <;> simp [Collaborators.Raises, r] at h
  have ht : OfOneTenant identity.tenantDomain (some "ACME.com") := by decide
  obtain ⟨hagree, hcarries, hpublishes⟩ :=
    qualified_agree_iff '/' "LDAP" "alice" (by decide)
  obtain ⟨report, t, hr, hu⟩ := hpublishes r rfl hp hc ⟨.success, none⟩ rfl identity rfl rfl s ht
  have hq : qualify "alice" (some "LDAP") = "LDAP/alice" := by decide
  refine ⟨by decide, rfl, hp, hc, ht, hagree.2 (by decide), report, t, hr, hu, ?_⟩
  rw [← hq]
  exact hcarries.2 (by decide)

/-- Neither is a store domain put on a name that starts with the separator, nor does the name carry
one. -/
theorem qualified_disagree :
    let r : Resolver :=
      { collaborators :=
          { tenantDomain := fun _ => .ok "hosting.org"
            tenantId := fun _ => .ok 7
            userStore := fun _ => .ok none } }
    let identity : Identity :=
      { username := "/alice", tenantDomain := some "acme.com", storeDomain := some "LDAP"
        capabilities? := some { userId := some "u-1" } }
    let s : Scene := ⟨{ request := { tenantDomain := some "acme.com" } }, {}⟩
    ¬ (qualify "/alice" (some "LDAP") = "/alice" ↔ withoutDomain "/alice" ≠ "/alice") ∧
      ∃ report t, r.resolve ⟨.success, none⟩ (some identity) s = .ok report t ∧
        t.attempt.request.username = some "/alice" ∧ withoutDomain "/alice" = "/alice" := by
  intro r identity s
  have hput : qualify "/alice" (some "LDAP") = "/alice" := by decide
  have htaken : withoutDomain "/alice" = "/alice" := by decide
  have hp : r.probe.Steady := Probe.steady_of_logger (fun _ _ => ⟨_, rfl⟩) rfl
  have hc : r.collaborators.Recoverable := by
    intro call e h
    cases call <;> simp [Collaborators.Raises, r] at h
  obtain ⟨report, t, hr, hu⟩ :=
    r.resolve_publishes_qualified hp hc ⟨.success, none⟩ rfl identity s (by decide)
  have hname : (r.realUsername identity s.attempt.request).getD
      (qualify identity.username identity.storeDomain r.domainSeparator) = "/alice" := by decide
  rw [hname] at hu
  exact ⟨fun h => h.1 hput htaken, report, t, hr, hu, htaken⟩

end Resolver

end Principal
