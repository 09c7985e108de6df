import Mathlib.Algebra.BigOperators.Group.Finset.Basic
import Mathlib.Algebra.BigOperators.Group.Finset.Piecewise

/-! # Streams of several producers merged into one

Each element of the merged list carries the producer that it comes from. What one
producer contributed is a projection, and producers keep the order of their own.
-/

namespace SdpK8sInjector.Lib

variable {ι α β : Type} [DecidableEq ι]

/-- What the given producer contributed, in its own order. -/
def projection (p : ι) (merged : List (ι × α)) : List α := (merged.filter (·.1 = p)).map Prod.snd

@[simp] theorem projection_nil (p : ι) : projection p ([] : List (ι × α)) = [] := rfl

@[simp] theorem projection_append (p : ι) (xs ys : List (ι × α)) :
    projection p (xs ++ ys) = projection p xs ++ projection p ys := by
  simp [projection]

theorem projection_cons (p : ι) (x : ι × α) (xs : List (ι × α)) :
    projection p (x :: xs) = (if x.1 = p then [x.2] else []) ++ projection p xs := by
  by_cases h : x.1 = p <;> simp [projection, h]

@[simp] theorem projection_singleton (p : ι) (x : ι × α) :
    projection p [x] = if x.1 = p then [x.2] else [] := by
  simp [projection_cons]

theorem mem_projection {p : ι} {x : α} {merged : List (ι × α)} : x ∈ projection p merged ↔
    (p, x) ∈ merged := by
  simp [projection]

/-- A question that only one producer answers can be put to its own stream. -/
theorem filterMap_merged (f : α → Option β) {p : ι} {merged : List (ι × α)}
    (h : ∀ q x, q ≠ p → x ∈ projection q merged → f x = none) :
    (merged.map Prod.snd).filterMap f = (projection p merged).filterMap f := by
  induction merged with
  | nil => rfl
  | cons x rest ih =>
    have hRest := ih fun q y hq hy => h q y hq (by
      rw [projection_cons]
      exact List.mem_append_right _ hy)
    rw [projection_cons, List.filterMap_append, ← hRest, List.map_cons]
    by_cases hp : x.1 = p
    · rw [if_pos hp]
      exact List.filterMap_append (l := [x.2])
    · have hNone : f x.2 = none := h x.1 x.2 hp (mem_projection.mpr List.mem_cons_self)
      rw [if_neg hp, List.filterMap_cons_none hNone]
      rfl

theorem count_merged [Fintype ι] [BEq α] (x : α) (merged : List (ι × α)) :
    (merged.map Prod.snd).count x = ∑ p, (projection p merged).count x := by
  induction merged with
  | nil => simp
  | cons y rest ih =>
    have hOne : ∀ p, (projection p (y :: rest)).count x =
        (if y.1 = p then [y.2].count x else 0) + (projection p rest).count x := by
      intro p
      rw [projection_cons, List.count_append]
      split <;> rfl
    simp only [hOne, Finset.sum_add_distrib, Finset.sum_ite_eq, Finset.mem_univ, if_true, ← ih]
    exact (List.count_append : ([y.2] ++ rest.map Prod.snd).count x = _)

/-- A prefix that has the last element of a stream, which occurs there only, is the whole stream. -/
theorem prefix_complete {xs ys zs : List α} {last : α} (h : xs ++ ys = zs ++ [last]) (hOnce : last ∉ zs)
    (hMem : last ∈ xs) : xs = zs ++ [last] ∧ ys = [] := by
  rcases List.eq_nil_or_concat ys with rfl | ⟨init, y, rfl⟩
  · exact ⟨by simpa using h, rfl⟩
  · rw [List.concat_eq_append, ← List.append_assoc] at h
    obtain ⟨hInit, _⟩ := List.append_inj' h rfl
    exact absurd (hInit ▸ List.mem_append_left init hMem) hOnce

end SdpK8sInjector.Lib
