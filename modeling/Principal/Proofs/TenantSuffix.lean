import Mathlib.Logic.Function.Iterate
import Principal.Proofs.Cuts
import Principal.Username

/-!
# Tenant suffixes

A tenant is taken off a name that has more separators than are its own. The name then loses what
stands behind its last separator, and with it exactly one of the separators counted from the left,
even where the last one overlaps the one counted last. So taking a tenant off as often as there are
separators too many leaves a name with its own separators, off which no tenant is taken.
-/

namespace Principal

namespace Username

open Occurrence

/-- The number of separators that belong to a name itself. -/
def ownSeparators (mailAddresses : Bool) : Nat :=
  if mailAddresses then 1 else 0

variable {name separator : String} {mailAddresses : Bool}

theorem withoutTenant_of_count_le
    (h : count separator.toList name.toList ≤ ownSeparators mailAddresses) :
    withoutTenant name separator mailAddresses = name :=
  if_pos h

theorem withoutTenant_of_lastCut {before after : List Char}
    (h : ownSeparators mailAddresses < count separator.toList name.toList)
    (hcut : LastCut separator.toList name.toList before after) :
    withoutTenant name separator mailAddresses = String.ofList before := by
  refine (if_neg (Nat.not_le.2 h)).trans ?_
  rw [cutLast?_of_lastCut hcut]

/-- The empty separator takes nothing off. -/
theorem withoutTenant_empty (name : String) (mailAddresses : Bool) :
    withoutTenant name "" mailAddresses = name := by
  by_cases h : count "".toList name.toList ≤ ownSeparators mailAddresses
  · exact withoutTenant_of_count_le h
  · rw [withoutTenant_of_lastCut (Nat.lt_of_not_le h) (lastCut_nil _), String.ofList_toList]

theorem exists_lastCut_of_count (hs : separator ≠ "")
    (h : ownSeparators mailAddresses < count separator.toList name.toList) :
    ∃ before after, LastCut separator.toList name.toList before after :=
  exists_lastCut
    (isInfix_of_count_pos (mt String.toList_eq_nil_iff.1 hs) (Nat.zero_lt_of_lt h))

/-- What a tenant is taken off ends before the last separator. -/
theorem exists_eq_withoutTenant_append (hs : separator ≠ "")
    (h : ownSeparators mailAddresses < count separator.toList name.toList) :
    ∃ rest, name = withoutTenant name separator mailAddresses ++ separator ++ rest ∧
      ∀ b a, name = b ++ separator ++ a →
        b.length ≤ (withoutTenant name separator mailAddresses).length := by
  obtain ⟨before, after, hcut⟩ := exists_lastCut_of_count hs h
  rw [withoutTenant_of_lastCut h hcut]
  refine ⟨String.ofList after, ?_, fun b a hb => ?_⟩
  · rw [← String.toList_inj, String.toList_append, String.toList_append, String.toList_ofList,
      String.toList_ofList]
    exact hcut.eq
  · rw [← String.length_toList, ← String.length_toList, String.toList_ofList]
    apply hcut.last b.toList a.toList
    rw [hb, String.toList_append, String.toList_append]

/-- Taking a tenant off takes one separator off. -/
theorem count_withoutTenant (hs : separator ≠ "")
    (h : ownSeparators mailAddresses < count separator.toList name.toList) :
    count separator.toList (withoutTenant name separator mailAddresses).toList + 1 =
      count separator.toList name.toList := by
  obtain ⟨before, after, hcut⟩ := exists_lastCut_of_count hs h
  rw [withoutTenant_of_lastCut h hcut, String.toList_ofList,
    count_before_lastCut (mt String.toList_eq_nil_iff.1 hs) hcut]

/-- Taking a tenant off again and again takes one separator off each time, down to those of the
name itself. -/
theorem count_iterate_withoutTenant (hs : separator ≠ "") {k : Nat}
    (hk : k ≤ count separator.toList name.toList - ownSeparators mailAddresses) :
    count separator.toList
        ((fun n => withoutTenant n separator mailAddresses)^[k] name).toList + k =
      count separator.toList name.toList := by
  induction k with
  | zero => rfl
  | succ k ih =>
      have hcount := ih (Nat.le_of_succ_le hk)
      rw [Function.iterate_succ_apply']
      have hmore : ownSeparators mailAddresses < count separator.toList
          ((fun n => withoutTenant n separator mailAddresses)^[k] name).toList := by
        omega
      have hstep := count_withoutTenant hs hmore
      omega

/-- A tenant is taken off a name exactly if the name has more separators than its own, and is then
all that follows the last separator; one separator goes with it, so that as many steps as there are
separators too many end in a name off which no tenant is taken. -/
theorem withoutTenant_strips_one (name separator : String) (mailAddresses : Bool) :
    let own := if mailAddresses then 1 else 0
    let counted (n : String) := count separator.toList n.toList
    let strip (n : String) := withoutTenant n separator mailAddresses
    let stripped := strip^[counted name - own] name
    (separator ≠ "" →
      (counted name ≤ own → strip name = name) ∧
      (own < counted name →
        (∃ rest, name = strip name ++ separator ++ rest) ∧
          (∀ b a, name = b ++ separator ++ a → b.length ≤ (strip name).length) ∧
          (strip name).length < name.length ∧
          counted (strip name) = counted name - 1) ∧
      strip stripped = stripped ∧ counted stripped = min (counted name) own) ∧
    (separator = "" → strip name = name) := by
  intro own counted strip stripped
  constructor
  · intro hs
    have hstripped : counted stripped + (counted name - own) = counted name :=
      count_iterate_withoutTenant hs (Nat.le_refl _)
    refine ⟨withoutTenant_of_count_le, fun h => ?_, withoutTenant_of_count_le ?_, ?_⟩
    · obtain ⟨rest, hname, hlast⟩ := exists_eq_withoutTenant_append hs h
      have hlen : name.length = (strip name).length + separator.length + rest.length := by
        rw [← String.length_append, ← String.length_append]
        exact congrArg String.length hname
      have hpos : separator.length ≠ 0 := mt String.length_eq_zero_iff.1 hs
      have hcount : counted (strip name) + 1 = counted name := count_withoutTenant hs h
      exact ⟨⟨rest, hname⟩, hlast, by omega, by omega⟩
    · change counted stripped ≤ own
      omega
    · omega
  · rintro rfl
    exact withoutTenant_empty name mailAddresses

/-- The last separator overlaps the second of the two that are counted. -/
theorem withoutTenant_strips_one_overlapping :
    let strip (n : String) := withoutTenant n "aa" true
    "aa" ≠ "" ∧ 1 < count "aa".toList "aaaaa".toList ∧ strip "aaaaa" = "aaa" ∧
      count "aa".toList "aaa".toList = 1 ∧ strip "aaa" = "aaa" ∧
      strip (strip^[2 - 1] "aaaaa") = strip^[2 - 1] "aaaaa" := by
  intro strip
  have hmore : 1 < count "aa".toList "aaaaa".toList := by decide
  obtain ⟨-, hstrip, hstripped, -⟩ := (withoutTenant_strips_one "aaaaa" "aa" true).1 (by decide)
  have hsuffix : strip "aaaaa" = "aaa" := by decide
  have hcount : count "aa".toList (strip "aaaaa").toList = 2 - 1 := (hstrip hmore).2.2.2
  rw [hsuffix] at hcount
  have hone := ((withoutTenant_strips_one "aaa" "aa" true).1 (by decide)).1 (by decide)
  exact ⟨by decide, hmore, hsuffix, hcount, hone, hstripped⟩

end Username

end Principal
