import Mathlib.Data.List.Nodup
import Mathlib.Logic.Function.Basic

/-! # Leases of tokens that are kept in pools

A token is free in a pool or held by somebody. What keeps a token from being held
twice is said here once: a free token is in one pool only, and nobody holds it.
-/

namespace SdpK8sInjector.Lib

structure Leases (κ α : Type*) where
  free : κ → List α
  held : List α

namespace Leases

variable {κ α : Type*}

/-- Every token is in one pool or held once. -/
structure Exclusive (l : Leases κ α) : Prop where
  held : l.held.Nodup
  free : ∀ k, (l.free k).Nodup
  apart : ∀ k, ∀ x ∈ l.free k, x ∉ l.held
  alone : ∀ k k' x, x ∈ l.free k → x ∈ l.free k' → k = k'

def Unused (l : Leases κ α) (x : α) : Prop := x ∉ l.held ∧ ∀ k, x ∉ l.free k

theorem Exclusive.shrink {l l' : Leases κ α} (h : l.Exclusive) (hFree : ∀ k, (l'.free k).Sublist (l.free k))
    (hHeld : l'.held.Sublist l.held) : l'.Exclusive where
  held := h.held.sublist hHeld
  free k := (h.free k).sublist (hFree k)
  apart k x hx hMem := h.apart k x ((hFree k).subset hx) (hHeld.subset hMem)
  alone k k' x hx hx' := h.alone k k' x ((hFree k).subset hx) ((hFree k').subset hx')

theorem Unused.of_shrink {l l' : Leases κ α} {x : α} (h : l.Unused x) (hFree : ∀ k, (l'.free k).Sublist (l.free k))
    (hHeld : l'.held.Sublist l.held) : l'.Unused x :=
  ⟨fun hMem => h.1 (hHeld.subset hMem), fun k hMem => h.2 k ((hFree k).subset hMem)⟩

/-- A token that is nowhere is handed out. -/
theorem Exclusive.fresh {l : Leases κ α} {x : α} (h : l.Exclusive) (hUnused : l.Unused x) :
    Exclusive { l with held := x :: l.held } where
  held := List.nodup_cons.mpr ⟨hUnused.1, h.held⟩
  free := h.free
  apart k y hy hMem := by
    rcases List.mem_cons.mp hMem with rfl | hMem
    · exact hUnused.2 k hy
    · exact h.apart k y hy hMem
  alone := h.alone

variable [DecidableEq κ]

def withFree (l : Leases κ α) (k : κ) (pool : List α) : Leases κ α :=
  { l with free := Function.update l.free k pool }

theorem mem_withFree {l : Leases κ α} {k k' : κ} {pool : List α} {x : α} :
    x ∈ (l.withFree k pool).free k' ↔ k' = k ∧ x ∈ pool ∨ k' ≠ k ∧ x ∈ l.free k' := by
  by_cases hKey : k' = k
  · subst hKey
    simp [withFree]
  · simp [withFree, hKey]

variable {l : Leases κ α} {k : κ}

/-- A pool is filled with its own tokens and with tokens that are nowhere. -/
theorem Exclusive.refill {pool : List α} (h : l.Exclusive) (hNodup : pool.Nodup)
    (hFrom : ∀ x ∈ pool, x ∈ l.free k ∨ l.Unused x) : (l.withFree k pool).Exclusive where
  held := h.held
  free k' := by
    by_cases hKey : k' = k
    · subst hKey
      simpa [withFree] using hNodup
    · simpa [withFree, hKey] using h.free k'
  apart k' x hx := by
    rcases mem_withFree.mp hx with ⟨-, hx⟩ | ⟨-, hx⟩
    · rcases hFrom x hx with hFree | hUnused
      · exact h.apart k x hFree
      · exact hUnused.1
    · exact h.apart k' x hx
  alone k₁ k₂ x h₁ h₂ := by
    have hOther : ∀ k', k' ≠ k → x ∈ pool → x ∉ l.free k' := by
      intro k' hNe hPool hMem
      rcases hFrom x hPool with hFree | hUnused
      · exact hNe (h.alone k' k x hMem hFree)
      · exact hUnused.2 k' hMem
    rcases mem_withFree.mp h₁ with ⟨rfl, hPool⟩ | ⟨hNe₁, hx₁⟩
    · rcases mem_withFree.mp h₂ with ⟨rfl, -⟩ | ⟨hNe₂, hx₂⟩
      · rfl
      · exact absurd hx₂ (hOther k₂ hNe₂ hPool)
    · rcases mem_withFree.mp h₂ with ⟨rfl, hPool⟩ | ⟨-, hx₂⟩
      · exact absurd hx₁ (hOther k₁ hNe₁ hPool)
      · exact h.alone k₁ k₂ x hx₁ hx₂

/-- A free token is handed out. -/
theorem Exclusive.take {x : α} {rest : List α} (h : l.Exclusive) (hPool : l.free k = x :: rest) :
    Exclusive { l.withFree k rest with held := x :: l.held } := by
  have hNodup := h.free k
  rw [hPool] at hNodup
  obtain ⟨hGone, hRest⟩ := List.nodup_cons.mp hNodup
  have hMem : x ∈ l.free k := hPool ▸ List.mem_cons_self
  have hShrunk : (l.withFree k rest).Exclusive :=
    h.refill hRest fun y hy => .inl (hPool ▸ List.mem_cons_of_mem x hy)
  refine hShrunk.fresh ⟨h.apart k x hMem, fun k' hx => ?_⟩
  rcases mem_withFree.mp hx with ⟨-, hx⟩ | ⟨hNe, hx⟩
  · exact hGone hx
  · exact hNe (h.alone k' k x hx hMem)

end Leases

end SdpK8sInjector.Lib
