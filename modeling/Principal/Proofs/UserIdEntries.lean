import Principal.Proofs.Qualification
import Principal.Proofs.Registration

/-!
# Entries of user ids

A user id is filed under the folding of a tenant domain and of the username with its store domain in
front. Folding goes character by character, so a separator that stays as it is and that no other
character is folded to still stands where it stood, and what is left and right of it is told apart.
Entries of users who differ in more than case are then never the same entry, and a username that
comes with its store domain in front finds what it finds with the two given apart.
-/

namespace Principal

namespace CaseMap

/-- The character stays as it is, and no other is mapped to it. -/
structure Isolates (m : CaseMap) (c : Char) : Prop where
  fixed : m.char c = [c]
  alone : ∀ other, c ∈ m.char other → other = c

variable {m : CaseMap} {c : Char}

theorem Isolates.apply_singleton (h : m.Isolates c) :
    m.apply (String.singleton c) = String.singleton c := by
  apply String.toList_injective
  rw [toList_apply, String.toList_singleton, List.flatMap_singleton, h.fixed]

theorem Isolates.mem_apply_iff (h : m.Isolates c) (s : String) :
    c ∈ (m.apply s).toList ↔ c ∈ s.toList := by
  rw [toList_apply, List.mem_flatMap]
  constructor
  · rintro ⟨other, hother, hc⟩
    rwa [← h.alone other hc]
  · intro hc
    exact ⟨c, hc, by rw [h.fixed]; exact List.mem_singleton_self c⟩

theorem toNat_ofNat (n : Nat) :
    (Char.ofNat n).toNat = if n.isValidChar then n else 0 := by
  unfold Char.ofNat
  by_cases hn : n.isValidChar
  · rw [dif_pos hn, if_pos hn]
    rfl
  · rw [dif_neg hn, if_neg hn]
    rfl

/-- A span whose first character moves beyond another one moves none of its characters there. -/
theorem move_ne_of_lt {s : CaseSpan} {other : Char} (hc : 0 < c.toNat)
    (hs : (c.toNat : Int) < s.first + s.shift) (h : s.covers other = true) :
    s.move other ≠ c := by
  intro he
  have hfirst : s.first ≤ other.toNat := by
    unfold CaseSpan.covers at h
    simp only [Bool.and_eq_true, decide_eq_true_eq] at h
    exact h.1.1
  have hn := congrArg Char.toNat he
  rw [CaseSpan.move, toNat_ofNat] at hn
  split at hn <;> omega

/-- A character that no expansion has and that every span moves past is mapped to by itself
alone. -/
theorem alone_of_forall (hc : 0 < c.toNat)
    (hexpansions : ∀ expansion ∈ m.expansions, c ∉ expansion.2.map Char.ofNat)
    (hspans : ∀ span ∈ m.spans, (c.toNat : Int) < span.first + span.shift) {other : Char}
    (h : c ∈ m.char other) : other = c := by
  rcases m.char_cases other with ⟨image, hmem, he⟩ | ⟨span, hmem, hcovers, he⟩ | he
  · rw [he] at h
    exact absurd h (hexpansions _ hmem)
  · rw [he, List.mem_singleton] at h
    exact absurd h.symm (move_ne_of_lt hc (hspans _ hmem) hcovers)
  · rw [he, List.mem_singleton] at h
    exact h.symm

/-- Folding leaves a slash alone and turns nothing else into one. -/
theorem folding_isolates_slash : folding.Isolates '/' where
  fixed := by decide
  alone _ h := alone_of_forall (by decide) (by decide +kernel) (by decide +kernel) h

end CaseMap

open CaseMap (folding)

variable {c : Char} {before before' after after' : String}

theorem foldCase_singleton (h : folding.Isolates c) :
    foldCase (String.singleton c) = String.singleton c :=
  h.apply_singleton

theorem mem_foldCase_iff (h : folding.Isolates c) (s : String) :
    c ∈ (foldCase s).toList ↔ c ∈ s.toList :=
  h.mem_apply_iff s

/-- Texts joined by a separator that is not in the first parts are joined from the same parts. -/
theorem joined_singleton_inj (hb : c ∉ before.toList) (hb' : c ∉ before'.toList) :
    before ++ String.singleton c ++ after = before' ++ String.singleton c ++ after' ↔
      before = before' ∧ after = after' := by
  constructor
  · intro h
    have hcut {b a : String} (hn : c ∉ b.toList) :
        Occurrence.FirstCut [c] (b ++ String.singleton c ++ a).toList b.toList a.toList := by
      rw [Username.toList_joined, String.toList_singleton,
        Occurrence.firstCut_append_iff (List.cons_ne_nil c []), List.dropLast_singleton,
        List.append_nil, List.singleton_infix_iff]
      exact hn
    obtain ⟨hbefore, hafter⟩ := (hcut hb).unique (h ▸ hcut hb')
    exact ⟨String.toList_injective hbefore, String.toList_injective hafter⟩
  · rintro ⟨rfl, rfl⟩
    rfl

namespace Username

theorem qualify_of_getD_eq_empty {domain : Option String} (h : domain.getD "" = "")
    (name separator : String) : qualify name domain separator = name := by
  cases domain with
  | none => rfl
  | some d =>
      cases h
      rfl

theorem qualify_singleton_of_not_mem {name : String} (hn : c ∉ name.toList)
    {domain : Option String} (hd : domain.getD "" ≠ "") :
    qualify name domain (String.singleton c) = domain.getD "" ++ String.singleton c ++ name := by
  cases domain with
  | none => exact absurd rfl hd
  | some d =>
      apply qualify_of_not_isInfix hd
      rwa [String.toList_singleton, List.singleton_infix_iff]

end Username

namespace Directory.UserIds

open Username

variable {name name' : String} {domain domain' : Option String}

theorem foldCase_qualify_of_empty (hd : domain.getD "" = "") (name separator : String) :
    foldCase (qualify name domain separator) = foldCase name := by
  rw [qualify_of_getD_eq_empty hd]

theorem foldCase_qualify_of_not_empty (h : folding.Isolates c) (hn : c ∉ name.toList)
    (hd : domain.getD "" ≠ "") :
    foldCase (qualify name domain (String.singleton c)) =
      foldCase (domain.getD "") ++ String.singleton c ++ foldCase name := by
  rw [qualify_singleton_of_not_mem hn hd, foldCase_append, foldCase_append, foldCase_singleton h]

/-- A name that got a domain put on meets no bare one. -/
theorem foldCase_qualify_ne (h : folding.Isolates c) (hn : c ∉ name.toList)
    (hn' : c ∉ name'.toList) (hd : domain.getD "" ≠ "") :
    foldCase (qualify name domain (String.singleton c)) ≠ foldCase name' := by
  intro he
  rw [foldCase_qualify_of_not_empty h hn hd] at he
  apply mt (mem_foldCase_iff h name').1 hn'
  rw [← he, toList_joined, String.toList_singleton]
  simp

/-- Names meet under the keys of user ids exactly if they and their domains differ in no more than
case. -/
theorem foldCase_qualify_eq_iff (h : folding.Isolates c) (hn : c ∉ name.toList)
    (hn' : c ∉ name'.toList) (hd : c ∉ (domain.getD "").toList)
    (hd' : c ∉ (domain'.getD "").toList) :
    foldCase (qualify name domain (String.singleton c)) =
        foldCase (qualify name' domain' (String.singleton c)) ↔
      foldCase name = foldCase name' ∧
        foldCase (domain.getD "") = foldCase (domain'.getD "") := by
  by_cases he : domain.getD "" = "" <;> by_cases he' : domain'.getD "" = ""
  · rw [foldCase_qualify_of_empty he, foldCase_qualify_of_empty he', he, he']
    exact (and_iff_left rfl).symm
  · rw [foldCase_qualify_of_empty he]
    refine iff_of_false (foldCase_qualify_ne h hn' hn he').symm ?_
    rintro ⟨_, hfold⟩
    rw [he, foldCase_empty] at hfold
    exact he' (foldCase_eq_empty_iff.1 hfold.symm)
  · rw [foldCase_qualify_of_empty he']
    refine iff_of_false (foldCase_qualify_ne h hn hn' he) ?_
    rintro ⟨_, hfold⟩
    rw [he', foldCase_empty] at hfold
    exact he (foldCase_eq_empty_iff.1 hfold)
  · rw [foldCase_qualify_of_not_empty h hn he, foldCase_qualify_of_not_empty h hn' he',
      joined_singleton_inj (mt (mem_foldCase_iff h _).1 hd) (mt (mem_foldCase_iff h _).1 hd'),
      and_comm]

/-- A user id is found by the users that differ from the one it was registered for in no more than
case, and nothing that other users find changes; and a username with its store domain in front
finds what the two find given apart, whatever domain comes with it. -/
theorem find?_keeps_apart :
    folding.Isolates '/' ∧
    ∀ c : Char, folding.Isolates c → ∀ u : UserIds, u.separator = String.singleton c →
      ∀ username : String, c ∉ username.toList → ∀ tenant : Option String,
        (∀ domain : Option String, c ∉ (domain.getD "").toList →
          ∀ (username' : String) (tenant' domain' : Option String),
            c ∉ username'.toList → c ∉ (domain'.getD "").toList → ∀ userId : String,
              (u.register userId username tenant domain).find? username' tenant' domain' =
                if foldCase username = foldCase username' ∧
                    foldCase (tenant.getD "") = foldCase (tenant'.getD "") ∧
                    foldCase (domain.getD "") = foldCase (domain'.getD "") then some userId
                else u.find? username' tenant' domain') ∧
        ∀ domain : String, domain ≠ "" → ∀ other : Option String,
          u.find? (domain ++ u.separator ++ username) tenant other =
            u.find? username tenant (some domain) := by
  refine ⟨CaseMap.folding_isolates_slash, fun c h u hu username hn tenant => ⟨?_, ?_⟩⟩
  · intro domain hd username' tenant' domain' hn' hd' userId
    have hkey : u.key username tenant domain = u.key username' tenant' domain' ↔
        foldCase username = foldCase username' ∧
          foldCase (tenant.getD "") = foldCase (tenant'.getD "") ∧
          foldCase (domain.getD "") = foldCase (domain'.getD "") := by
      rw [key, key, hu, Prod.mk.injEq, foldCase_qualify_eq_iff h hn hn' hd hd']
      exact and_left_comm
    rw [find?_register]
    simp only [hkey]
    split <;> rfl
  · intro domain hd other
    have hinfix : u.separator.toList <:+: (domain ++ u.separator ++ username).toList :=
      isInfix_joined domain u.separator username
    have hbare : ¬ u.separator.toList <:+: username.toList := by
      rwa [hu, String.toList_singleton, List.singleton_infix_iff]
    simp only [find?, key, qualify_of_isInfix hinfix, qualify_of_not_isInfix hd hbare]

/-- A sharp s meets a double one, and a user of another store domain keeps the id it had. -/
theorem find?_keeps_apart_sharp_s :
    let u := (({} : UserIds).register "u-1" "STRASSE" (some "Acme.com") none).register "u-2"
      "STRASSE" none (some "Ldap")
    folding.Isolates '/' ∧ u.separator = String.singleton '/' ∧ '/' ∉ "Straße".toList ∧
      '/' ∉ "LDAP".toList ∧
      (u.register "u-3" "Straße" (some "acme.com") none).find? "strasse" (some "ACME.COM")
        (some "") = some "u-3" ∧
      (u.register "u-3" "Straße" (some "acme.com") none).find? "Straße" none (some "LDAP") =
        some "u-2" ∧
      u.find? "LDAP/Straße" none (some "other") = some "u-2" := by
  intro u
  have hn : '/' ∉ "Straße".toList := by decide
  have hd : '/' ∉ "LDAP".toList := by decide
  obtain ⟨hslash, hapart⟩ := find?_keeps_apart
  have hat (tenant : Option String) := hapart '/' hslash u rfl "Straße" hn tenant
  have hheld : u.find? "Straße" none (some "LDAP") = some "u-2" := by decide +kernel
  refine ⟨hslash, rfl, hn, hd, ?_, ?_, ((hat none).2 "LDAP" (by decide) _).trans hheld⟩
  · exact ((hat _).1 none (by decide) "strasse" _ _ (by decide) (by decide) "u-3").trans
      (if_pos ⟨by decide, by decide, by decide⟩)
  · refine ((hat _).1 none (by decide) "Straße" none (some "LDAP") hn hd "u-3").trans ?_
    rw [if_neg fun hsame => absurd hsame.2.1 (by decide), hheld]

end Directory.UserIds

end Principal
