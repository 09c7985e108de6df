import Mathlib.Data.List.Basic

/-! # Entries of a list after one change, and lists that lose their beginning -/

namespace SdpK8sInjector.Lib

variable {α : Type}

theorem getElem?_set_cases {l : List α} {i j : Nat} {x y : α} (h : (l.set i x)[j]? = some y) :
    (j = i ∧ y = x) ∨ (j ≠ i ∧ l[j]? = some y) := by
  rw [List.getElem?_set] at h
  split at h
  · rename_i hSame
    split at h
    · cases h
      exact .inl ⟨hSame.symm, rfl⟩
    · cases h
  · rename_i hOther
    exact .inr ⟨Ne.symm hOther, h⟩

theorem getElem?_concat_cases {l : List α} {j : Nat} {x y : α} (h : (l ++ [x])[j]? = some y) :
    l[j]? = some y ∨ (j = l.length ∧ y = x) := by
  rw [List.getElem?_append] at h
  split at h
  · exact .inl h
  · rw [List.getElem?_singleton] at h
    split at h
    · cases h
      exact .inr ⟨by omega, rfl⟩
    · cases h

theorem drop_eq_self_iff (l : List α) (n : Nat) : l.drop n = l ↔ n = 0 ∨ l = [] := by
  have hZero : l.drop n = l.drop 0 ↔ min n l.length = min 0 l.length := List.drop_eq_drop_iff
  rw [List.drop_zero] at hZero
  rw [hZero, ← List.length_eq_zero_iff]
  omega

theorem drop_eq_drop_one_iff (l : List α) (n : Nat) : l.drop n = l.drop 1 ↔ n = 1 ∨ l.length ≤ min n 1 := by
  rw [List.drop_eq_drop_iff]
  omega

end SdpK8sInjector.Lib
