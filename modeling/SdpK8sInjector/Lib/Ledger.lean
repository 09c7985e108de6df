import Mathlib.Data.List.Perm.Subperm
import Mathlib.Data.Set.Insert
import Mathlib.Logic.Relation

/-! # Who owns what

A name is free until it is bound to an owner, and it never becomes free again.
So no name ever has two owners, and no used name is free.
-/

namespace SdpK8sInjector.Lib

/-- `spent` holds the names that are used up without an owner. -/
structure Ledger (ι ο : Type*) where
  free : List ι
  bound : Set (ι × ο)
  spent : Set ι

namespace Ledger

variable {ι ο : Type*} {fresh : Set ι} {l l' l'' : Ledger ι ο}

def used (l : Ledger ι ο) : Set ι := {a | a ∈ l.spent ∨ ∃ o, (a, o) ∈ l.bound}

def names (l : Ledger ι ο) : Set ι := {a | a ∈ l.free ∨ a ∈ l.used}

structure Sound (l : Ledger ι ο) : Prop where
  nodup : l.free.Nodup
  unused : ∀ a ∈ l.free, a ∉ l.used
  functional : ∀ a o o', (a, o) ∈ l.bound → (a, o') ∈ l.bound → o = o'

/-- Names are used up or forgotten, or one is bound, or a fresh one becomes free. -/
inductive Step (fresh : Set ι) (l l' : Ledger ι ο) : Prop
  | shrink (hFree : l'.free.Subperm l.free) (hBound : l'.bound ⊆ l.bound) (hSpent : l'.spent ⊆ l.used)
  | bind (a : ι) (o : ο) (rest : List ι) (hTaken : l.free.Perm (a :: rest)) (hFree : l'.free.Subperm rest)
      (hBound : l'.bound ⊆ insert (a, o) l.bound) (hSpent : l'.spent ⊆ insert a l.used)
  | add (a : ι) (hFresh : a ∈ fresh) (hNew : a ∉ l.names) (hFree : l'.free.Subperm (a :: l.free))
      (hBound : l'.bound ⊆ l.bound) (hSpent : l'.spent ⊆ l.used)

def Evolves (fresh : Set ι) : Ledger ι ο → Ledger ι ο → Prop := Relation.ReflTransGen (Step fresh)

theorem used_mono (hBound : l'.bound ⊆ l.bound) (hSpent : l'.spent ⊆ l.used) : l'.used ⊆ l.used := by
  rintro a (ha | ⟨o, ho⟩)
  · exact hSpent ha
  · exact .inr ⟨o, hBound ho⟩

theorem nodup_of_subperm {xs ys : List ι} (h : xs.Subperm ys) (hNodup : ys.Nodup) : xs.Nodup := by
  obtain ⟨zs, hPerm, hSublist⟩ := h
  exact hPerm.nodup_iff.mp (hNodup.sublist hSublist)

theorem Sound.step (h : Sound l) (hStep : Step fresh l l') : Sound l' := by
  cases hStep with
  | shrink hFree hBound hSpent =>
    constructor
    · exact nodup_of_subperm hFree h.nodup
    · intro a ha hUsed
      exact h.unused a (hFree.subset ha) (used_mono hBound hSpent hUsed)
    · intro a o o' ho ho'
      exact h.functional a o o' (hBound ho) (hBound ho')
  | bind a o rest hTaken hFree hBound hSpent =>
    have hTakenFree : a ∈ l.free := hTaken.mem_iff.mpr List.mem_cons_self
    obtain ⟨hOther, hRest⟩ := List.nodup_cons.mp (hTaken.nodup_iff.mp h.nodup)
    have hUnbound : ∀ o', (a, o') ∉ l.bound := fun o' ho' => h.unused a hTakenFree (.inr ⟨o', ho'⟩)
    constructor
    · exact nodup_of_subperm hFree hRest
    · intro b hb hUsed
      have hbRest : b ∈ rest := hFree.subset hb
      have hbOther : b ≠ a := fun hEq => hOther (hEq ▸ hbRest)
      apply h.unused b (hTaken.mem_iff.mpr (List.mem_cons_of_mem a hbRest))
      rcases hUsed with hb | ⟨o', ho'⟩
      · exact (hSpent hb).resolve_left hbOther
      · refine .inr ⟨o', (hBound ho').resolve_left fun hEq => ?_⟩
        exact hbOther (congrArg Prod.fst hEq)
    · intro b o₁ o₂ h₁ h₂
      rcases hBound h₁ with hEq₁ | h₁ <;> rcases hBound h₂ with hEq₂ | h₂
      · exact (congrArg Prod.snd hEq₁).trans (congrArg Prod.snd hEq₂).symm
      · cases hEq₁
        exact absurd h₂ (hUnbound _)
      · cases hEq₂
        exact absurd h₁ (hUnbound _)
      · exact h.functional b o₁ o₂ h₁ h₂
  | add a hFresh hNew hFree hBound hSpent =>
    have hAdded : (a :: l.free).Nodup := List.nodup_cons.mpr ⟨fun ha => hNew (.inl ha), h.nodup⟩
    constructor
    · exact nodup_of_subperm hFree hAdded
    · intro b hb hUsed
      have hUsed := used_mono hBound hSpent hUsed
      rcases List.mem_cons.mp (hFree.subset hb) with rfl | hb
      · exact hNew (.inr hUsed)
      · exact h.unused b hb hUsed
    · intro b o o' ho ho'
      exact h.functional b o o' (hBound ho) (hBound ho')

theorem Sound.evolves (h : Sound l) (hEvolves : Evolves fresh l l') : Sound l' := by
  induction hEvolves with
  | refl => exact h
  | tail _ hLast ih => exact ih.step hLast

theorem names_step (hStep : Step fresh l l') {a : ι} (ha : a ∈ l'.names) : a ∈ l.names ∨ a ∈ fresh := by
  cases hStep with
  | shrink hFree hBound hSpent =>
    rcases ha with ha | ha
    · exact .inl (.inl (hFree.subset ha))
    · exact .inl (.inr (used_mono hBound hSpent ha))
  | bind b o rest hTaken hFree hBound hSpent =>
    have hb : b ∈ l.free := hTaken.mem_iff.mpr List.mem_cons_self
    rcases ha with ha | ha | ⟨o', ho'⟩
    · exact .inl (.inl (hTaken.mem_iff.mpr (List.mem_cons_of_mem b (hFree.subset ha))))
    · rcases hSpent ha with rfl | ha
      · exact .inl (.inl hb)
      · exact .inl (.inr ha)
    · rcases hBound ho' with hEq | ho'
      · cases hEq
        exact .inl (.inl hb)
      · exact .inl (.inr (.inr ⟨o', ho'⟩))
  | add b hFresh hNew hFree hBound hSpent =>
    rcases ha with ha | ha
    · rcases List.mem_cons.mp (hFree.subset ha) with rfl | ha
      · exact .inr hFresh
      · exact .inl (.inl ha)
    · exact .inl (.inr (used_mono hBound hSpent ha))

theorem names_evolves (hEvolves : Evolves fresh l l') {a : ι} (ha : a ∈ l'.names) : a ∈ l.names ∨
    a ∈ fresh := by
  induction hEvolves with
  | refl => exact .inl ha
  | tail _ hLast ih =>
    rcases names_step hLast ha with ha | ha
    · exact ih ha
    · exact .inr ha

namespace Evolves

theorem refl (l : Ledger ι ο) : Evolves fresh l l := Relation.ReflTransGen.refl

theorem trans (h : Evolves fresh l l') (h' : Evolves fresh l' l'') : Evolves fresh l l'' :=
  Relation.ReflTransGen.trans h h'

theorem single (h : Step fresh l l') : Evolves fresh l l' := Relation.ReflTransGen.single h

theorem shrink (hFree : l'.free.Subperm l.free) (hBound : l'.bound ⊆ l.bound) (hSpent : l'.spent ⊆ l.used) :
    Evolves fresh l l' := single (.shrink hFree hBound hSpent)

end Evolves

end Ledger

end SdpK8sInjector.Lib
