import Mathlib.Data.List.Basic

/-! # First-in first-out channels that remember their history

The receiver takes messages from the front of `pending`. What it has taken is
kept in `received`, so that "has been sent" is a fact about the present state.
-/

namespace SdpK8sInjector.Lib

structure Channel (α : Type) where
  received : List α
  pending : List α
deriving DecidableEq, Repr

namespace Channel

variable {α : Type}

def empty : Channel α := ⟨[], []⟩

def holding (xs : List α) : Channel α := ⟨[], xs⟩

def history (c : Channel α) : List α := c.received ++ c.pending

def send (c : Channel α) (x : α) : Channel α := { c with pending := c.pending ++ [x] }

def sendAll (c : Channel α) (xs : List α) : Channel α := { c with pending := c.pending ++ xs }

def recv (c : Channel α) : Option (α × Channel α) :=
  match c.pending with
  | [] => none
  | x :: rest => some (x, ⟨c.received ++ [x], rest⟩)

@[simp] theorem history_empty : (empty : Channel α).history = [] := rfl
@[simp] theorem history_holding (xs : List α) : (holding xs).history = xs := rfl
@[simp] theorem pending_empty : (empty : Channel α).pending = [] := rfl
@[simp] theorem pending_holding (xs : List α) : (holding xs).pending = xs := rfl
@[simp] theorem received_send (c : Channel α) (x : α) : (c.send x).received = c.received := rfl
@[simp] theorem pending_send (c : Channel α) (x : α) : (c.send x).pending = c.pending ++ [x] := rfl
@[simp] theorem received_sendAll (c : Channel α) (xs : List α) :
    (c.sendAll xs).received = c.received := rfl
@[simp] theorem pending_sendAll (c : Channel α) (xs : List α) :
    (c.sendAll xs).pending = c.pending ++ xs := rfl
@[simp] theorem sendAll_nil (c : Channel α) : c.sendAll [] = c := by simp [sendAll]

@[simp] theorem history_send (c : Channel α) (x : α) : (c.send x).history = c.history ++ [x] := by
  simp [history]

@[simp] theorem history_sendAll (c : Channel α) (xs : List α) :
    (c.sendAll xs).history = c.history ++ xs := by
  simp [history]

@[simp] theorem sendAll_send (c : Channel α) (xs : List α) (x : α) :
    (c.sendAll xs).send x = c.sendAll (xs ++ [x]) := by
  simp [send, sendAll]

theorem send_eq_sendAll (c : Channel α) (x : α) : c.send x = c.sendAll [x] := rfl

@[simp] theorem sendAll_sendAll (c : Channel α) (xs ys : List α) :
    (c.sendAll xs).sendAll ys = c.sendAll (xs ++ ys) := by
  simp [sendAll]

theorem recv_eq_some {c d : Channel α} {x : α} :
    c.recv = some (x, d) ↔ ∃ rest, c.pending = x :: rest ∧ d = ⟨c.received ++ [x], rest⟩ := by
  unfold recv
  split
  · simp [*]
  · rename_i y rest h
    simp only [Option.some.injEq, Prod.mk.injEq, h, List.cons.injEq]
    constructor
    · rintro ⟨rfl, rfl⟩
      exact ⟨rest, ⟨rfl, rfl⟩, rfl⟩
    · rintro ⟨_, ⟨rfl, rfl⟩, rfl⟩
      exact ⟨rfl, rfl⟩

/-- Receiving moves a message, it never adds or loses one. -/
theorem history_recv {c d : Channel α} {x : α} (h : c.recv = some (x, d)) : d.history = c.history := by
  obtain ⟨rest, hPending, rfl⟩ := recv_eq_some.mp h
  simp [history, hPending]

theorem mem_history_of_pending {c : Channel α} {x : α} (h : x ∈ c.pending) : x ∈ c.history :=
  List.mem_append_right _ h

theorem mem_history_of_received {c : Channel α} {x : α} (h : x ∈ c.received) : x ∈ c.history :=
  List.mem_append_left _ h

end Channel

end SdpK8sInjector.Lib
