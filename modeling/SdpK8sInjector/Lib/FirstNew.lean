import Mathlib.Data.List.Nodup

/-! # Taking over what a list does not have yet

Elements are added one by one, at the end or in front, each unless it is there
already. Either way the new elements are taken at their first occurrence.
-/

namespace SdpK8sInjector.Lib

variable {α : Type} [DecidableEq α]

/-- The elements of the second list that are not known, each at its first occurrence. -/
def firstNew (known : List α) : List α → List α
  | [] => []
  | x :: xs => if x ∈ known then firstNew known xs else x :: firstNew (x :: known) xs

def appendNew (ys : List α) (x : α) : List α := if x ∈ ys then ys else ys ++ [x]

def pushNew (ys : List α) (x : α) : List α := if x ∈ ys then ys else x :: ys

@[simp] theorem firstNew_nil (known : List α) : firstNew known [] = [] := rfl

theorem firstNew_cons_of_mem {known : List α} {x : α} (h : x ∈ known) (xs : List α) :
    firstNew known (x :: xs) = firstNew known xs := if_pos h

theorem firstNew_cons_of_notMem {known : List α} {x : α} (h : x ∉ known) (xs : List α) :
    firstNew known (x :: xs) = x :: firstNew (x :: known) xs := if_neg h

/-- Only what is known matters, not how often or in which order. -/
theorem firstNew_congr {known known' : List α} (h : ∀ x, x ∈ known ↔ x ∈ known') (xs : List α) :
    firstNew known xs = firstNew known' xs := by
  induction xs generalizing known known' with
  | nil => rfl
  | cons x rest ih =>
    have hCons : ∀ y, y ∈ x :: known ↔ y ∈ x :: known' := fun y => by simp [h]
    rw [firstNew, firstNew, ih h, ih hCons]
    exact if_congr (h x) rfl rfl

theorem mem_firstNew {known xs : List α} {x : α} : x ∈ firstNew known xs ↔ x ∈ xs ∧ x ∉ known := by
  induction xs generalizing known with
  | nil => simp
  | cons y rest ih =>
    by_cases hKnown : y ∈ known
    · rw [firstNew_cons_of_mem hKnown, ih, List.mem_cons]
      constructor
      · rintro ⟨hMem, hNew⟩
        exact ⟨.inr hMem, hNew⟩
      · rintro ⟨rfl | hMem, hNew⟩
        · exact absurd hKnown hNew
        · exact ⟨hMem, hNew⟩
    · rw [firstNew_cons_of_notMem hKnown, List.mem_cons, ih, List.mem_cons, List.mem_cons]
      constructor
      · rintro (rfl | ⟨hMem, hNew⟩)
        · exact ⟨.inl rfl, hKnown⟩
        · exact ⟨.inr hMem, fun h => hNew (.inr h)⟩
      · rintro ⟨rfl | hMem, hNew⟩
        · exact .inl rfl
        · by_cases hSame : x = y
          · exact .inl hSame
          · exact .inr ⟨hMem, fun h => h.elim hSame hNew⟩

theorem firstNew_eq_nil_iff {known xs : List α} : firstNew known xs = [] ↔ ∀ x ∈ xs, x ∈ known := by
  rw [List.eq_nil_iff_forall_not_mem]
  simp only [mem_firstNew, not_and, not_not]

theorem foldl_appendNew (ys xs : List α) : xs.foldl appendNew ys = ys ++ firstNew ys xs := by
  induction xs generalizing ys with
  | nil => exact (List.append_nil ys).symm
  | cons x rest ih =>
    rw [List.foldl_cons, ih, appendNew]
    by_cases hKnown : x ∈ ys
    · rw [if_pos hKnown, firstNew_cons_of_mem hKnown]
    · have hSame : ∀ y, y ∈ ys ++ [x] ↔ y ∈ x :: ys := fun y => by simp [or_comm]
      rw [if_neg hKnown, firstNew_cons_of_notMem hKnown, firstNew_congr hSame, List.append_assoc, List.singleton_append]

/-- The last one that was pushed comes first. -/
theorem foldl_pushNew (ys xs : List α) : xs.foldl pushNew ys = (firstNew ys xs).reverse ++ ys := by
  induction xs generalizing ys with
  | nil => rfl
  | cons x rest ih =>
    rw [List.foldl_cons, ih, pushNew]
    by_cases hKnown : x ∈ ys
    · rw [if_pos hKnown, firstNew_cons_of_mem hKnown]
    · rw [if_neg hKnown, firstNew_cons_of_notMem hKnown, List.reverse_cons, List.append_assoc, List.singleton_append]

end SdpK8sInjector.Lib
