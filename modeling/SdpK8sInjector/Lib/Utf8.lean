import Mathlib.Data.String.Basic

/-! # The beginnings of a text, by their length in bytes

A text can be cut after a number of bytes only where a character ends.
-/

namespace SdpK8sInjector.Lib

open String (utf8Len utf8Len_nil utf8Len_cons)

/-- The longest beginning of the text that fits into the bytes. -/
def fitting : Nat → List Char → List Char
  | _, [] => []
  | n, c :: cs => if c.utf8Size ≤ n then c :: fitting (n - c.utf8Size) cs else []

theorem fitting_begins (n : Nat) (cs : List Char) : fitting n cs <+: cs := by
  induction cs generalizing n with
  | nil => exact List.prefix_refl []
  | cons c cs ih =>
    rw [fitting]
    split
    · exact List.cons_prefix_cons.mpr ⟨rfl, ih _⟩
    · exact List.nil_prefix

theorem utf8Len_fitting_le (n : Nat) (cs : List Char) : utf8Len (fitting n cs) ≤ n := by
  induction cs generalizing n with
  | nil => exact Nat.zero_le n
  | cons c cs ih =>
    rw [fitting]
    split
    · have hRest := ih (n - c.utf8Size)
      rw [utf8Len_cons]
      omega
    · exact Nat.zero_le n

/-- Whatever begins the text and fits begins the longest one. -/
theorem prefix_fitting {n : Nat} {cs taken : List Char} (hPrefix : taken <+: cs) (hFits : utf8Len taken ≤ n) :
    taken <+: fitting n cs := by
  induction cs generalizing n taken with
  | nil => exact hPrefix
  | cons c cs ih =>
    cases taken with
    | nil => exact List.nil_prefix
    | cons c' taken =>
      obtain ⟨rfl, hRest⟩ := List.cons_prefix_cons.mp hPrefix
      rw [utf8Len_cons] at hFits
      rw [fitting, if_pos (by omega)]
      exact List.cons_prefix_cons.mpr ⟨rfl, ih hRest (by omega)⟩

/-- A character ends after the bytes. -/
def IsCharBoundary (n : Nat) (cs : List Char) : Prop := ∃ taken, taken <+: cs ∧ utf8Len taken = n

/-- The text is not longer than the bytes, or it can be cut after them. -/
def CutsBetweenChars (n : Nat) (cs : List Char) : Prop := n ≤ utf8Len cs → IsCharBoundary n cs

theorem cutsBetweenChars_zero (cs : List Char) : CutsBetweenChars 0 cs := fun _ => ⟨[], List.nil_prefix, rfl⟩

theorem cutsBetweenChars_cons {n : Nat} {c : Char} (cs : List Char) (hPos : 0 < n) :
    CutsBetweenChars n (c :: cs) ↔ c.utf8Size ≤ n ∧ CutsBetweenChars (n - c.utf8Size) cs := by
  -- a beginning that is not empty has the first character
  have hFirst : ∀ taken, taken <+: c :: cs → utf8Len taken = n →
      ∃ rest, rest <+: cs ∧ c.utf8Size + utf8Len rest = n := by
    intro taken hPrefix hLength
    cases taken with
    | nil =>
      rw [utf8Len_nil] at hLength
      omega
    | cons c' rest =>
      obtain ⟨rfl, hRest⟩ := List.cons_prefix_cons.mp hPrefix
      exact ⟨rest, hRest, (Nat.add_comm ..).trans hLength⟩
  constructor
  · intro h
    have hFits : c.utf8Size ≤ n := by
      by_contra hLong
      obtain ⟨taken, hPrefix, hLength⟩ := h (by rw [utf8Len_cons]; omega)
      obtain ⟨rest, -, hSum⟩ := hFirst taken hPrefix hLength
      omega
    refine ⟨hFits, fun hWithin => ?_⟩
    obtain ⟨taken, hPrefix, hLength⟩ := h (by rw [utf8Len_cons]; omega)
    obtain ⟨rest, hRest, hSum⟩ := hFirst taken hPrefix hLength
    exact ⟨rest, hRest, by omega⟩
  · rintro ⟨hFits, h⟩ hWithin
    rw [utf8Len_cons] at hWithin
    obtain ⟨rest, hRest, hLength⟩ := h (by omega)
    refine ⟨c :: rest, List.cons_prefix_cons.mpr ⟨rfl, hRest⟩, ?_⟩
    rw [utf8Len_cons]
    omega

end SdpK8sInjector.Lib
