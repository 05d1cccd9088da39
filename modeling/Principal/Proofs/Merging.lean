import Principal.Fields

/-!
# Merging ordered fields

Fields whose names do not repeat are known by the order of their names and the value found under
each. An update leaves the names that are there in their places, adds the new ones after them and
gives to each name the value that it has for it. So it is a merge of the two, and updates compose.
-/

namespace Principal.Fields

variable {α κ : Type}

theorem keys_cons (key : κ) (value : α) (fields : Fields α κ) :
    keys ((key, value) :: fields) = key :: keys fields := rfl

variable [DecidableEq κ]

/-- The fields with the values that others have for their names, and after them those of the others
whose names are new. -/
def merge (fields more : Fields α κ) : Fields α κ :=
  fields.map (fun (key, value) => (key, (get? key more).getD value)) ++
    more.filter fun field => field.1 ∉ keys fields

theorem get?_cons (key k : κ) (value : α) (fields : Fields α κ) :
    get? key ((k, value) :: fields) = if k = key then some value else get? key fields := by
  by_cases h : k = key
  · simp [get?, h]
  · simp [get?, List.lookup_cons, beq_false_of_ne (Ne.symm h), h]

theorem get?_eq_none_iff {key : κ} {fields : Fields α κ} :
    get? key fields = none ↔ key ∉ keys fields := by
  unfold get? keys
  rw [List.lookup_eq_none_iff, List.mem_map]
  simp only [bne_iff_ne, ne_eq, not_exists, not_and, @eq_comm _ key]

/-- Fields with the same names in the same order and the same value found under each of them are
the same. -/
theorem ext_get? {fields other : Fields α κ} (hkeys : keys fields = keys other)
    (hn : (keys fields).Nodup) (hget : ∀ key, get? key fields = get? key other) :
    fields = other := by
  induction fields generalizing other with
  | nil => exact (List.map_eq_nil_iff.1 hkeys.symm).symm
  | cons head rest ih =>
      obtain ⟨k, v⟩ := head
      obtain ⟨⟨k', v'⟩, rest', rfl, hk, hrest⟩ := List.map_eq_cons_iff.1 hkeys.symm
      obtain rfl : k' = k := hk
      obtain ⟨hnotin, hn⟩ := List.nodup_cons.1 hn
      have hv := hget k'
      rw [get?_cons, get?_cons, if_pos rfl, if_pos rfl] at hv
      obtain rfl : v = v' := Option.some.inj hv
      refine congrArg _ (ih hrest.symm hn fun key => ?_)
      by_cases hkey : k' = key
      · have hnotin' : k' ∉ keys rest' := by rwa [← hrest] at hnotin
        rw [← hkey, get?_eq_none_iff.2 hnotin, get?_eq_none_iff.2 hnotin']
      · have hrests := hget key
        rwa [get?_cons, get?_cons, if_neg hkey, if_neg hkey] at hrests

section Updates

variable {fields more : Fields α κ}

theorem keys_put (key : κ) (value : α) (fields : Fields α κ) :
    keys (put key value fields) =
      if key ∈ keys fields then keys fields else keys fields ++ [key] := by
  induction fields with
  | nil => rfl
  | cons head rest ih =>
      obtain ⟨k, v⟩ := head
      by_cases hk : k = key
      · have hmem : key ∈ keys ((k, v) :: rest) := hk ▸ List.mem_cons_self
        rw [if_pos hmem, put, if_pos hk, keys_cons, keys_cons]
      · rw [put, if_neg hk, keys_cons, keys_cons, ih]
        by_cases hm : key ∈ keys rest
        · rw [if_pos hm, if_pos (List.mem_cons_of_mem k hm)]
        · rw [if_neg hm, if_neg (List.not_mem_cons_of_ne_of_not_mem (Ne.symm hk) hm),
            List.cons_append]

theorem keys_update (hm : (keys more).Nodup) (fields : Fields α κ) :
    keys (update fields more) = keys fields ++ (keys more).filter (· ∉ keys fields) := by
  induction more generalizing fields with
  | nil => exact (List.append_nil _).symm
  | cons head rest ih =>
      obtain ⟨key, value⟩ := head
      obtain ⟨hnotin, hm⟩ := List.nodup_cons.1 hm
      rw [update_cons, ih hm, keys_put, keys_cons]
      by_cases hk : key ∈ keys fields
      · rw [if_pos hk, List.filter_cons_of_neg (by simpa using hk)]
      · rw [if_neg hk, List.filter_cons_of_pos (by simpa using hk), List.append_assoc]
        -- None of the rest has this name, so the same of them are new once it has been put.
        refine congrArg (keys fields ++ key :: ·) (List.filter_congr fun k hmem => ?_)
        have hne : k ≠ key := fun he => hnotin (he ▸ hmem)
        simp [hne]

theorem get?_update (hm : (keys more).Nodup) (key : κ) (fields : Fields α κ) :
    get? key (update fields more) = (get? key more).or (get? key fields) := by
  induction more generalizing fields with
  | nil => rfl
  | cons head rest ih =>
      obtain ⟨k, value⟩ := head
      obtain ⟨hnotin, hm⟩ := List.nodup_cons.1 hm
      rw [update_cons, ih hm, get?_cons]
      by_cases hk : k = key
      · rw [if_pos hk, ← hk, get?_eq_none_iff.2 hnotin, get?_put_self]
        rfl
      · rw [if_neg hk, get?_put_of_ne (Ne.symm hk)]

/-- To update by one update after another is to update by the first updated by the second. -/
theorem update_assoc {most : Fields α κ} (hf : (keys fields).Nodup) (hm : (keys more).Nodup)
    (hs : (keys most).Nodup) :
    update (update fields more) most = update fields (update more most) := by
  have hboth : (keys (update more most)).Nodup := nodup_keys_update more most hm
  refine ext_get? ?_ (nodup_keys_update _ _ (nodup_keys_update _ _ hf)) fun key => ?_
  · rw [keys_update hs, keys_update hm, keys_update hboth, keys_update hs, List.filter_append,
      List.filter_filter, List.append_assoc]
    congr 2
    refine List.filter_congr fun key hmem => ?_
    by_cases hk : key ∈ keys fields <;> simp [hk, List.mem_filter]
  · rw [get?_update hs, get?_update hm, get?_update hboth, get?_update hs, Option.or_assoc]

theorem keys_merge (fields more : Fields α κ) :
    keys (merge fields more) = keys fields ++ (keys more).filter (· ∉ keys fields) := by
  simp only [merge, keys, List.map_append, List.map_map, List.filter_map, Function.comp_def]

theorem get?_map (f : κ → α → α) (key : κ) (fields : Fields α κ) :
    get? key (fields.map fun (k, value) => (k, f k value)) = (get? key fields).map (f key) := by
  induction fields with
  | nil => rfl
  | cons head rest ih =>
      obtain ⟨k, v⟩ := head
      rw [List.map_cons, get?_cons, get?_cons, ih]
      by_cases hk : k = key
      · rw [if_pos hk, if_pos hk, hk, Option.map_some]
      · rw [if_neg hk, if_neg hk]

theorem get?_filter {p : κ → Bool} {key : κ} (hp : p key = true) (fields : Fields α κ) :
    get? key (fields.filter fun field => p field.1) = get? key fields := by
  induction fields with
  | nil => rfl
  | cons head rest ih =>
      obtain ⟨k, v⟩ := head
      rw [List.filter_cons, get?_cons, ← ih]
      cases hpk : p k with
      | true => rw [if_pos rfl, get?_cons]
      | false =>
          have hk : k ≠ key := fun he => by rw [he, hp] at hpk; cases hpk
          rw [if_neg Bool.false_ne_true, if_neg hk]

theorem get?_merge (key : κ) (fields more : Fields α κ) :
    get? key (merge fields more) = (get? key more).or (get? key fields) := by
  have hsplit : get? key (merge fields more) =
      (get? key (fields.map fun (k, value) => (k, (get? k more).getD value))).or
        (get? key (more.filter fun field => field.1 ∉ keys fields)) := List.lookup_append
  rw [hsplit, get?_map fun k value => (get? k more).getD value]
  -- What is there is found in the first part, so the second one is asked for new names only.
  cases hf : get? key fields with
  | some value => cases get? key more <;> rfl
  | none =>
      have hnew : decide (key ∉ keys fields) = true := decide_eq_true (get?_eq_none_iff.1 hf)
      rw [get?_filter (p := (· ∉ keys fields)) hnew, Option.or_none]
      rfl

/-- Fields whose names do not repeat are merged by an update. -/
theorem update_eq_merge (hf : (keys fields).Nodup) (hm : (keys more).Nodup) :
    update fields more = merge fields more := by
  refine ext_get? ?_ (nodup_keys_update fields more hf) fun key => ?_
  · rw [keys_update hm, keys_merge]
  · rw [get?_update hm, get?_merge]

example :
    merge [("a", 1), ("b", 2)] [("c", 3), ("a", 4)] = [("a", 4), ("b", 2), ("c", 3)] := by decide

end Updates

end Principal.Fields
