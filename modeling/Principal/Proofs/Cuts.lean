import Mathlib.Data.List.Infix
import Mathlib.Data.Nat.Init
import Principal.Text.Occurrence

/-!
# Cuts

Where a separator occurs, said without the scans that look for it: a cut writes a text as what
stands before an occurrence, the separator, and what stands after it. The scans find the first cut
and the last. The count goes by first cuts, each made behind the one before it, so its occurrences
never overlap; the last occurrence may overlap the one counted last. In front of it there is still
exactly one occurrence fewer to count.
-/

namespace Principal

namespace Occurrence

variable {sep cs before after before' after' : List Char}

/-- A cut at an occurrence, of which no other starts further left. -/
structure FirstCut (sep cs before after : List Char) : Prop where
  eq : cs = before ++ sep ++ after
  first : ∀ b a, cs = b ++ sep ++ a → before.length ≤ b.length

/-- A cut at an occurrence, of which no other starts further right. -/
structure LastCut (sep cs before after : List Char) : Prop where
  eq : cs = before ++ sep ++ after
  last : ∀ b a, cs = b ++ sep ++ a → b.length ≤ before.length

/-- Two cuts at the same position are the same. -/
theorem cut_unique (h : before ++ sep ++ after = before' ++ sep ++ after')
    (hl : before.length = before'.length) : before = before' ∧ after = after' := by
  rw [List.append_assoc, List.append_assoc] at h
  obtain ⟨hb, ha⟩ := List.append_inj h hl
  exact ⟨hb, List.append_cancel_left ha⟩

theorem FirstCut.unique (h : FirstCut sep cs before after) (h' : FirstCut sep cs before' after') :
    before = before' ∧ after = after' :=
  cut_unique (h.eq.symm.trans h'.eq)
    (Nat.le_antisymm (h.first _ _ h'.eq) (h'.first _ _ h.eq))

theorem LastCut.unique (h : LastCut sep cs before after) (h' : LastCut sep cs before' after') :
    before = before' ∧ after = after' :=
  cut_unique (h.eq.symm.trans h'.eq)
    (Nat.le_antisymm (h'.last _ _ h.eq) (h.last _ _ h'.eq))

theorem FirstCut.isInfix (h : FirstCut sep cs before after) : sep <:+: cs :=
  ⟨before, after, h.eq.symm⟩

theorem LastCut.isInfix (h : LastCut sep cs before after) : sep <:+: cs :=
  ⟨before, after, h.eq.symm⟩

theorem firstCut_of_isPrefix (h : sep <+: cs) : FirstCut sep cs [] (cs.drop sep.length) where
  eq := (List.prefix_iff_eq_append.1 h).symm
  first _ _ _ := Nat.zero_le _

theorem FirstCut.cons {c : Char} (h : FirstCut sep cs before after) (hp : ¬ sep <+: c :: cs) :
    FirstCut sep (c :: cs) (c :: before) after where
  eq := congrArg (c :: ·) h.eq
  first b a hc := by
    cases b with
    | nil => exact absurd ⟨a, hc.symm⟩ hp
    | cons x b => exact Nat.succ_le_succ (h.first b a (List.cons.inj hc).2)

/-- An occurrence in the second of two parts starts where one in the whole does. -/
theorem LastCut.append_left (h : LastCut sep cs before after) (lead : List Char) :
    LastCut sep (lead ++ cs) (lead ++ before) after where
  eq := by rw [h.eq, List.append_assoc, List.append_assoc, List.append_assoc]
  last b a hb := by
    rw [List.length_append]
    by_cases hl : b.length ≤ lead.length
    · exact hl.trans (Nat.le_add_right _ _)
    · rw [List.append_assoc] at hb
      have hpre : lead <+: b :=
        List.prefix_of_prefix_length_le ⟨cs, rfl⟩ ⟨_, hb.symm⟩ (Nat.le_of_not_le hl)
      obtain ⟨b', rfl⟩ := hpre
      rw [List.append_assoc, List.append_cancel_left_eq, ← List.append_assoc] at hb
      rw [List.length_append]
      exact Nat.add_le_add_left (h.last b' a hb) _

theorem lastCut_of_isPrefix {c : Char} (h : sep <+: c :: cs) (hn : ¬ sep <:+: cs) :
    LastCut sep (c :: cs) [] ((c :: cs).drop sep.length) where
  eq := (List.prefix_iff_eq_append.1 h).symm
  last b a hb := by
    cases b with
    | nil => exact Nat.le_refl _
    | cons x b => exact absurd ⟨b, a, (List.cons.inj hb).2.symm⟩ hn

/-- The empty separator occurs last at the end. -/
theorem lastCut_nil (cs : List Char) : LastCut [] cs cs [] where
  eq := by rw [List.append_nil, List.append_nil]
  last b a hb := by
    rw [hb, List.append_nil, List.length_append]
    exact Nat.le_add_right _ _

theorem cutFirst?_cases (sep cs : List Char) :
    (cutFirst? sep cs = none ∧ ¬ sep <:+: cs) ∨
      ∃ before after, cutFirst? sep cs = some (before, after) ∧ FirstCut sep cs before after := by
  induction cs with
  | nil =>
      cases sep with
      | nil => exact .inr ⟨[], [], rfl, firstCut_of_isPrefix (List.prefix_refl _)⟩
      | cons c sep => exact .inl ⟨rfl, fun h => List.cons_ne_nil _ _ (List.infix_nil.1 h)⟩
  | cons c cs ih =>
      rw [cutFirst?]
      by_cases hp : sep <+: c :: cs
      · rw [if_pos (List.isPrefixOf_iff_prefix.2 hp)]
        exact .inr ⟨[], _, rfl, firstCut_of_isPrefix hp⟩
      · rw [if_neg (mt List.isPrefixOf_iff_prefix.1 hp)]
        rcases ih with ⟨hnone, hn⟩ | ⟨before, after, hsome, hcut⟩
        · refine .inl ⟨by rw [hnone]; rfl, ?_⟩
          rw [List.infix_cons_iff]
          exact not_or_intro hp hn
        · exact .inr ⟨c :: before, after, by rw [hsome]; rfl, hcut.cons hp⟩

theorem cutFirst?_eq_some_iff :
    cutFirst? sep cs = some (before, after) ↔ FirstCut sep cs before after := by
  rcases cutFirst?_cases sep cs with ⟨hnone, hn⟩ | ⟨b, a, hsome, hcut⟩
  · rw [hnone]
    exact iff_of_false nofun fun h => hn h.isInfix
  · rw [hsome]
    constructor
    · intro h
      cases h
      exact hcut
    · intro h
      obtain ⟨rfl, rfl⟩ := hcut.unique h
      rfl

theorem cutFirst?_eq_none_iff : cutFirst? sep cs = none ↔ ¬ sep <:+: cs := by
  rcases cutFirst?_cases sep cs with ⟨hnone, hn⟩ | ⟨b, a, hsome, hcut⟩
  · exact iff_of_true hnone hn
  · rw [hsome]
    exact iff_of_false nofun fun hn => hn hcut.isInfix

theorem exists_firstCut (h : sep <:+: cs) : ∃ before after, FirstCut sep cs before after := by
  rcases cutFirst?_cases sep cs with ⟨_, hn⟩ | ⟨before, after, _, hcut⟩
  · exact absurd h hn
  · exact ⟨before, after, hcut⟩

theorem occurs_iff : occurs sep cs = true ↔ sep <:+: cs := by
  unfold occurs
  rw [Option.isSome_iff_ne_none, ne_eq, cutFirst?_eq_none_iff, not_not]

theorem cutLast?_cases (sep cs : List Char) :
    (cutLast? sep cs = none ∧ ¬ sep <:+: cs) ∨
      ∃ before after, cutLast? sep cs = some (before, after) ∧ LastCut sep cs before after := by
  induction cs with
  | nil =>
      cases sep with
      | nil => exact .inr ⟨[], [], rfl, lastCut_nil []⟩
      | cons c sep => exact .inl ⟨rfl, fun h => List.cons_ne_nil _ _ (List.infix_nil.1 h)⟩
  | cons c cs ih =>
      rw [cutLast?]
      rcases ih with ⟨hnone, hn⟩ | ⟨before, after, hsome, hcut⟩
      · rw [hnone]
        dsimp only
        by_cases hp : sep <+: c :: cs
        · rw [if_pos (List.isPrefixOf_iff_prefix.2 hp)]
          exact .inr ⟨[], _, rfl, lastCut_of_isPrefix hp hn⟩
        · rw [if_neg (mt List.isPrefixOf_iff_prefix.1 hp)]
          refine .inl ⟨rfl, ?_⟩
          rw [List.infix_cons_iff]
          exact not_or_intro hp hn
      · rw [hsome]
        exact .inr ⟨c :: before, after, rfl, hcut.append_left [c]⟩

theorem cutLast?_of_lastCut (h : LastCut sep cs before after) :
    cutLast? sep cs = some (before, after) := by
  rcases cutLast?_cases sep cs with ⟨_, hn⟩ | ⟨b, a, hsome, hcut⟩
  · exact absurd h.isInfix hn
  · obtain ⟨rfl, rfl⟩ := hcut.unique h
    exact hsome

theorem exists_lastCut (h : sep <:+: cs) : ∃ before after, LastCut sep cs before after := by
  rcases cutLast?_cases sep cs with ⟨_, hn⟩ | ⟨before, after, _, hcut⟩
  · exact absurd h hn
  · exact ⟨before, after, hcut⟩

/-- The first cut is that of the beginning of the text too, if it lies within it. -/
theorem FirstCut.shorten {rest : List Char} (h : FirstCut sep cs before after)
    (hcs : cs = before ++ sep ++ after' ++ rest) :
    FirstCut sep (before ++ sep ++ after') before after' where
  eq := rfl
  first b a hb := by
    apply h.first b (a ++ rest)
    rw [hcs, hb, List.append_assoc _ a rest]

/-- An occurrence behind another one is behind the first cut. -/
theorem FirstCut.isInfix_after {lead between rest : List Char} (h : FirstCut sep cs before after)
    (hcs : cs = lead ++ sep ++ between ++ sep ++ rest) : sep <:+: after := by
  have hle := h.first lead (between ++ sep ++ rest) (by simp only [hcs, List.append_assoc])
  have hpre : before ++ sep <+: lead ++ sep ++ between := by
    refine List.prefix_of_prefix_length_le ⟨after, h.eq.symm⟩ ⟨sep ++ rest, ?_⟩ ?_
    · rw [hcs, List.append_assoc _ sep rest]
    · simp only [List.length_append]
      omega
  obtain ⟨between', hbetween⟩ := hpre
  rw [h.eq, ← hbetween] at hcs
  simp only [List.append_assoc, List.append_cancel_left_eq] at hcs
  exact ⟨between', rest, by rw [hcs, List.append_assoc]⟩

/-- The first cut is that between two given parts unless the separator starts within the first part,
be it that it runs into the separator between them. -/
theorem firstCut_append_iff (hs : sep ≠ []) (before after : List Char) :
    FirstCut sep (before ++ sep ++ after) before after ↔ ¬ sep <:+: before ++ sep.dropLast := by
  have hsplit : before ++ sep ++ after =
      before ++ sep.dropLast ++ (sep.getLast hs :: after) := by
    rw [List.append_cons, List.append_assoc before sep.dropLast, List.dropLast_append_getLast]
  have hlen : (before ++ sep.dropLast).length + 1 = before.length + sep.length := by
    have hpos := List.length_pos_iff.2 hs
    rw [List.length_append, List.length_dropLast]
    omega
  constructor
  · rintro h ⟨b, a, hba⟩
    have hle := h.first b (a ++ (sep.getLast hs :: after)) (by
      rw [hsplit, ← hba, List.append_assoc _ a])
    have := congrArg List.length hba
    simp only [List.length_append] at this hlen
    omega
  · intro hn
    refine ⟨rfl, fun b a hba => ?_⟩
    by_contra! hlt
    -- An occurrence that starts earlier ends before the last character of the separator.
    have hpre : b ++ sep <+: before ++ sep.dropLast := by
      refine List.prefix_of_prefix_length_le ⟨a, hba.symm⟩ ⟨_, hsplit.symm⟩ ?_
      rw [List.length_append]
      omega
    obtain ⟨rest, hrest⟩ := hpre
    exact hn ⟨b, rest, hrest⟩

section Counting

theorem countFrom_eq_drop (skip : Nat) (cs : List Char) :
    countFrom sep skip cs = countFrom sep 0 (cs.drop skip) := by
  induction cs generalizing skip with
  | nil => cases skip <;> rfl
  | cons c cs ih =>
      cases skip with
      | zero => rfl
      | succ skip => exact ih skip

theorem countFrom_of_not_isInfix (h : ¬ sep <:+: cs) : countFrom sep 0 cs = 0 := by
  induction cs with
  | nil => rfl
  | cons c cs ih =>
      rw [List.infix_cons_iff, not_or] at h
      rw [countFrom, if_neg (mt List.isPrefixOf_iff_prefix.1 h.1)]
      exact ih h.2

theorem countFrom_of_firstCut (hs : sep ≠ []) (h : FirstCut sep cs before after) :
    countFrom sep 0 cs = countFrom sep 0 after + 1 := by
  induction cs generalizing before with
  | nil => exact absurd (List.infix_nil.1 h.isInfix) hs
  | cons c cs ih =>
      rw [countFrom]
      by_cases hp : sep <+: c :: cs
      · obtain ⟨_, hafter⟩ := (firstCut_of_isPrefix hp).unique h
        obtain ⟨x, sep, rfl⟩ := List.exists_cons_of_ne_nil hs
        rw [if_pos (List.isPrefixOf_iff_prefix.2 hp), countFrom_eq_drop, ← hafter]
        rfl
      · rw [if_neg (mt List.isPrefixOf_iff_prefix.1 hp)]
        obtain ⟨b, a, hcut⟩ :=
          exists_firstCut ((List.infix_cons_iff.1 h.isInfix).resolve_left hp)
        obtain ⟨_, rfl⟩ := (hcut.cons hp).unique h
        exact ih hcut

theorem count_eq_countFrom (hs : sep ≠ []) : count sep cs = countFrom sep 0 cs := by
  unfold count
  rw [if_neg (mt List.isEmpty_iff.1 hs)]

theorem count_of_not_isInfix (hs : sep ≠ []) (h : ¬ sep <:+: cs) : count sep cs = 0 := by
  rw [count_eq_countFrom hs, countFrom_of_not_isInfix h]

/-- The count goes on behind the first cut. -/
theorem count_of_firstCut (hs : sep ≠ []) (h : FirstCut sep cs before after) :
    count sep cs = count sep after + 1 := by
  rw [count_eq_countFrom hs, count_eq_countFrom hs, countFrom_of_firstCut hs h]

theorem isInfix_of_count_pos (hs : sep ≠ []) (h : 0 < count sep cs) : sep <:+: cs := by
  by_contra hn
  rw [count_of_not_isInfix hs hn] at h
  exact Nat.lt_irrefl 0 h

/-- What holds of texts without the separator, and of a text if it holds behind its first cut, holds
of every text. -/
theorem scan_induction {motive : List Char → Prop} (hs : sep ≠ [])
    (absent : ∀ cs, ¬ sep <:+: cs → motive cs)
    (cut : ∀ cs before after, FirstCut sep cs before after → motive after → motive cs)
    (cs : List Char) : motive cs := by
  induction hn : cs.length using Nat.strong_induction_on generalizing cs with
  | _ n ih =>
      by_cases h : sep <:+: cs
      · obtain ⟨before, after, hcut⟩ := exists_firstCut h
        have hlt : after.length < n := by
          have hpos := List.length_pos_iff.2 hs
          rw [← hn, hcut.eq, List.length_append, List.length_append]
          omega
        exact cut cs before after hcut (ih _ hlt after rfl)
      · exact absent cs h

/-- In front of the last cut there is one occurrence fewer to count, whether or not the last
occurrence is the one counted last. -/
theorem count_before_lastCut (hs : sep ≠ []) (h : LastCut sep cs before after) :
    count sep cs = count sep before + 1 := by
  induction cs using scan_induction hs generalizing before after with
  | absent cs hn => exact absurd h.isInfix hn
  | cut cs b a hcut ih =>
      rw [count_of_firstCut hs hcut]
      by_cases ha : sep <:+: a
      · -- The last cut is behind the first, so both texts have the same first cut.
        obtain ⟨b', a', hlast⟩ := exists_lastCut ha
        obtain ⟨rfl, rfl⟩ := (hcut.eq ▸ hlast.append_left (b ++ sep)).unique h
        have hbefore : FirstCut sep (b ++ sep ++ b') b b' :=
          hcut.shorten (h.eq.trans (List.append_assoc _ sep a'))
        rw [ih hlast, count_of_firstCut hs hbefore]
      · -- An occurrence in `before` would leave the last one behind the first cut.
        have hn : ¬ sep <:+: before := by
          rintro ⟨x, y, rfl⟩
          exact ha (hcut.isInfix_after h.eq)
        rw [count_of_not_isInfix hs ha, count_of_not_isInfix hs hn]

end Counting

section Character

variable {c : Char}

theorem singleton_isPrefix_iff : [c] <+: cs ↔ cs.head? = some c := by
  cases cs with
  | nil => simp
  | cons x cs => rw [List.singleton_prefix_cons_iff, List.head?_cons, Option.some.injEq, eq_comm]

theorem lastCut_singleton (h : c ∉ after) (before : List Char) :
    LastCut [c] (before ++ [c] ++ after) before after := by
  have hn : ¬ [c] <:+: after := mt (List.singleton_infix_iff c after).1 h
  have hcut := (lastCut_of_isPrefix ⟨after, rfl⟩ hn).append_left before
  rwa [List.append_nil, List.append_cons] at hcut

theorem count_singleton (c : Char) (cs : List Char) : count [c] cs = cs.count c := by
  rw [count_eq_countFrom (List.cons_ne_nil c [])]
  induction cs with
  | nil => rfl
  | cons x cs ih =>
      rw [countFrom, List.count_cons]
      by_cases hx : c = x
      · subst hx
        simpa using ih
      · simp [hx, Ne.symm hx, ih]

end Character

end Occurrence

end Principal
