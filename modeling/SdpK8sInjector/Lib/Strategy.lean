import Mathlib.Data.List.Basic

/-! # Clients that choose each call by the answers to those before it

A strategy reads the transcript so far. Two systems that answer alike as long as they
were called alike are told apart by no strategy.
-/

namespace SdpK8sInjector.Lib

variable {Call : Type} {Answer : Call → Type}

/-- What was called and what came back, `none` for a failure. -/
abbrev Transcript (Answer : Call → Type) := List (Σ c : Call, Option (Answer c))

/-- The next call, or `none` when there is nothing more to do. -/
abbrev Strategy (Answer : Call → Type) := Transcript Answer → Option Call

namespace Strategy

variable {State State' : Type} (strategy : Strategy Answer)

def turn (perform : (c : Call) → State → Option (Answer c) × State) (transcript : Transcript Answer) (s : State) :
    Transcript Answer × State :=
  match strategy transcript with
  | none => (transcript, s)
  | some c =>
    let (answer, s) := perform c s
    (transcript ++ [⟨c, answer⟩], s)

def play (perform : (c : Call) → State → Option (Answer c) × State) (s : State) : Nat →
    Transcript Answer × State
  | 0 => ([], s)
  | n + 1 =>
    let (transcript, s) := play perform s n
    strategy.turn perform transcript s

variable {strategy} {perform : (c : Call) → State → Option (Answer c) × State}
  {perform' : (c : Call) → State' → Option (Answer c) × State'} {s : State} {s' : State'}

/-- As long as there is something to do, there is one call a turn. -/
theorem length_play {n : Nat} {c : Call} (h : strategy (strategy.play perform s n).1 = some c) :
    (strategy.play perform s n).1.length = n := by
  induction n generalizing c with
  | zero => rfl
  | succ n ih =>
    simp only [play, turn] at h ⊢
    cases hBefore : strategy (strategy.play perform s n).1 with
    | none =>
      rw [hBefore] at h
      exact absurd (hBefore.symm.trans h) (by simp)
    | some d =>
      dsimp only
      rw [List.length_append, ih hBefore]
      rfl

variable (strategy perform perform') in
/-- `R n` relates the states before call `n`. The strategy is in the same place in both, so that a step may use
where it is in the first. -/
theorem play_eq (R : Nat → State → State' → Prop) (hStart : R 0 s s')
    (hStep : ∀ n c t', strategy (strategy.play perform s n).1 = some c → R n (strategy.play perform s n).2 t' →
      (perform c (strategy.play perform s n).2).1 = (perform' c t').1 ∧
        R (n + 1) (perform c (strategy.play perform s n).2).2 (perform' c t').2) (n : Nat) :
    (strategy.play perform s n).1 = (strategy.play perform' s' n).1 ∧
      R (strategy.play perform s n).1.length (strategy.play perform s n).2 (strategy.play perform' s' n).2 := by
  induction n with
  | zero => exact ⟨rfl, hStart⟩
  | succ n ih =>
    obtain ⟨hSame, hRelated⟩ := ih
    simp only [play, turn]
    rw [← hSame]
    cases hNext : strategy (strategy.play perform s n).1 with
    | none => exact ⟨rfl, hRelated⟩
    | some c =>
      rw [length_play hNext] at hRelated
      obtain ⟨hAnswer, hAfter⟩ := hStep n c _ hNext hRelated
      dsimp only
      rw [hAnswer, List.length_append, length_play hNext]
      exact ⟨rfl, hAfter⟩

end Strategy

end SdpK8sInjector.Lib
