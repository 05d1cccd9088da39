/-!
# What was said last

Of a history of sayings, those that tell a certain value, and the last of them. A longer history
tells what its later part tells, and what its earlier part tells where the later one is silent.
-/

namespace Principal

variable {α β : Type} (tells? : α → Option β)

def lastTelling (history : List α) : Option β :=
  (history.filterMap tells?).getLast?

theorem lastTelling_append (history more : List α) :
    lastTelling tells? (history ++ more) =
      (lastTelling tells? more).or (lastTelling tells? history) := by
  unfold lastTelling
  rw [List.filterMap_append, List.getLast?_append]

theorem lastTelling_singleton (saying : α) : lastTelling tells? [saying] = tells? saying := by
  unfold lastTelling
  cases h : tells? saying with
  | none => rw [List.filterMap_cons_none h]; rfl
  | some value => rw [List.filterMap_cons_some h]; rfl

theorem lastTelling_cons (saying : α) (history : List α) :
    lastTelling tells? (saying :: history) =
      (lastTelling tells? history).or (tells? saying) := by
  rw [← List.singleton_append, lastTelling_append, lastTelling_singleton]

theorem lastTelling_concat (history : List α) (saying : α) :
    lastTelling tells? (history ++ [saying]) =
      (tells? saying).or (lastTelling tells? history) := by
  rw [lastTelling_append, lastTelling_singleton]

theorem lastTelling_eq_none_iff {history : List α} :
    lastTelling tells? history = none ↔ ∀ saying ∈ history, tells? saying = none := by
  unfold lastTelling
  rw [List.getLast?_eq_none_iff, List.filterMap_eq_nil_iff]

theorem lastTelling_map {γ : Type} (f : γ → α) (history : List γ) :
    lastTelling tells? (history.map f) = lastTelling (tells? ∘ f) history := by
  unfold lastTelling
  rw [List.filterMap_map]

end Principal
