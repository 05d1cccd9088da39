/-!
# Case maps

A case map sends each character to one or more characters: a list of expansions for the
characters that become several, and spans of characters that all move by the same distance.
Mapping a string maps its characters one by one, so it distributes over concatenation.
-/

namespace Principal

/-- The characters `first`, `first + step`, …, `last`, each moved by `shift` places. -/
structure CaseSpan where
  first : Nat
  last : Nat
  step : Nat
  shift : Int

namespace CaseSpan

def covers (s : CaseSpan) (c : Char) : Bool :=
  s.first ≤ c.toNat && c.toNat ≤ s.last && (c.toNat - s.first) % s.step == 0

def move (s : CaseSpan) (c : Char) : Char :=
  Char.ofNat (c.toNat + s.shift).toNat

end CaseSpan

structure CaseMap where
  expansions : List (Nat × List Nat)
  spans : List CaseSpan

namespace CaseMap

variable (m : CaseMap)

/-- The image of one character; a character in neither list stays as it is. -/
def char (c : Char) : List Char :=
  match m.expansions.lookup c.toNat with
  | some image => image.map Char.ofNat
  | none =>
      match m.spans.find? (·.covers c) with
      | some span => [span.move c]
      | none => [c]

theorem char_cases (c : Char) :
    (∃ image, (c.toNat, image) ∈ m.expansions ∧ m.char c = image.map Char.ofNat) ∨
      (∃ span ∈ m.spans, span.covers c = true ∧ m.char c = [span.move c]) ∨ m.char c = [c] := by
  unfold char
  cases hl : m.expansions.lookup c.toNat with
  | some image =>
      obtain ⟨before, after, he, _⟩ := List.lookup_eq_some_iff.1 hl
      refine .inl ⟨image, ?_, rfl⟩
      rw [he]
      exact List.mem_append_right _ List.mem_cons_self
  | none =>
      cases hf : m.spans.find? (·.covers c) with
      | some span =>
          have hcovers : span.covers c = true :=
            List.find?_some (p := fun span : CaseSpan => span.covers c) hf
          exact .inr (.inl ⟨span, List.mem_of_find?_eq_some hf, hcovers, rfl⟩)
      | none => exact .inr (.inr rfl)

def apply (s : String) : String :=
  String.ofList (s.toList.flatMap m.char)

@[simp] theorem toList_apply (s : String) : (m.apply s).toList = s.toList.flatMap m.char := by
  simp [apply]

theorem apply_append (s t : String) : m.apply (s ++ t) = m.apply s ++ m.apply t := by
  simp [apply]

end CaseMap

end Principal
