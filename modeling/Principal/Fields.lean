/-!
# Ordered fields

Named values in the order in which their names were first given. Giving a name again replaces
its value and keeps its place, so the names of fields built by `put` never repeat. Names are
strings unless another type is given.
-/

namespace Principal

abbrev Fields (α : Type) (κ : Type := String) := List (κ × α)

namespace Fields

variable {α κ : Type}

def keys (fields : Fields α κ) : List κ :=
  fields.map Prod.fst

variable [DecidableEq κ]

def put (key : κ) (value : α) : Fields α κ → Fields α κ
  | [] => [(key, value)]
  | (k, v) :: rest => if k = key then (k, value) :: rest else (k, v) :: put key value rest

/-- The fields after the pairs of `more` have been put one after the other. -/
def update (fields more : Fields α κ) : Fields α κ :=
  more.foldl (fun fields (key, value) => put key value fields) fields

def ofPairs (pairs : List (κ × α)) : Fields α κ :=
  update [] pairs

def get? (key : κ) (fields : Fields α κ) : Option α :=
  List.lookup key fields

def contains (key : κ) (fields : Fields α κ) : Bool :=
  fields.any (·.1 = key)

@[simp] theorem update_nil (fields : Fields α κ) : update fields [] = fields := rfl

@[simp] theorem update_cons (fields more : Fields α κ) (key : κ) (value : α) :
    update fields ((key, value) :: more) = update (put key value fields) more := rfl

theorem update_append (fields more most : Fields α κ) :
    update fields (more ++ most) = update (update fields more) most :=
  List.foldl_append

theorem mem_keys_put (key k : κ) (value : α) (fields : Fields α κ) :
    k ∈ keys (put key value fields) ↔ k = key ∨ k ∈ keys fields := by
  induction fields with
  | nil => simp [put, keys]
  | cons head rest ih =>
      simp only [keys] at ih
      by_cases h : head.1 = key
      · simp [put, keys, h]
      · simp only [put, keys, h, if_false, List.map_cons, List.mem_cons, ih]
        grind

theorem mem_keys_update (k : κ) (fields more : Fields α κ) :
    k ∈ keys (update fields more) ↔ k ∈ keys fields ∨ k ∈ keys more := by
  induction more generalizing fields with
  | nil => simp [keys]
  | cons head more ih =>
      obtain ⟨key, value⟩ := head
      rw [update_cons, ih, mem_keys_put, @or_comm (k = key), or_assoc]
      simp [keys]

theorem get?_put_self (key : κ) (value : α) (fields : Fields α κ) :
    get? key (put key value fields) = some value := by
  induction fields with
  | nil => simp [put, get?]
  | cons head rest ih =>
      obtain ⟨k, v⟩ := head
      simp only [get?] at ih
      by_cases hk : k = key
      · simp [put, get?, hk]
      · simp [put, get?, hk, List.lookup_cons, beq_false_of_ne (Ne.symm hk), ih]

theorem get?_put_of_ne {key other : κ} (h : other ≠ key) (value : α) (fields : Fields α κ) :
    get? other (put key value fields) = get? other fields := by
  induction fields with
  | nil => simp [put, get?, List.lookup_cons, beq_false_of_ne h]
  | cons head rest ih =>
      obtain ⟨k, v⟩ := head
      simp only [get?] at ih
      by_cases hk : k = key
      · simp [put, get?, hk, List.lookup_cons, beq_false_of_ne h]
      · simp only [put, get?, hk, if_false, List.lookup_cons, ih]

theorem contains_iff (key : κ) (fields : Fields α κ) :
    contains key fields = true ↔ key ∈ keys fields := by
  simp [contains, keys]

theorem nodup_keys_put (key : κ) (value : α) (fields : Fields α κ) (h : (keys fields).Nodup) :
    (keys (put key value fields)).Nodup := by
  induction fields with
  | nil => simp [put, keys]
  | cons head rest ih =>
      obtain ⟨k, v⟩ := head
      have hm := mem_keys_put key k value rest
      simp only [keys, List.map_cons, List.nodup_cons] at h hm
      by_cases hk : k = key
      · simp only [put, keys, hk, if_true, List.map_cons, List.nodup_cons]
        exact ⟨hk ▸ h.1, h.2⟩
      · simp only [put, keys, hk, if_false, List.map_cons, List.nodup_cons]
        refine ⟨fun hmem => ?_, ih h.2⟩
        rcases hm.1 hmem with he | hr
        · exact hk he
        · exact h.1 hr

theorem nodup_keys_update (fields more : Fields α κ) (h : (keys fields).Nodup) :
    (keys (update fields more)).Nodup := by
  induction more generalizing fields with
  | nil => exact h
  | cons head more ih => exact ih _ (nodup_keys_put head.1 head.2 fields h)

theorem nodup_keys_ofPairs (pairs : List (κ × α)) : (keys (ofPairs pairs)).Nodup :=
  nodup_keys_update [] pairs List.nodup_nil

end Fields

end Principal
