import Mathlib.Data.List.Basic

/-! # Calls to a remote store

A call can lose its request, so that nothing happens, or its reply, so that the
store has acted and the caller sees an error. The outcome of the `n`-th call is
given by a stream, which is how "every pattern of transient failures" is said.
-/

namespace SdpK8sInjector.Lib

inductive CallOutcome where
  | delivered
  | requestLost
  | replyLost
deriving DecidableEq, Repr

structure Remote (Store Error : Type) where
  store : Store
  calls : Nat
  failed : List Error
deriving DecidableEq, Repr

/-- A log that comes back to where it started was there all the time. -/
theorem prefix_between {α : Type} {a b c : List α} (hab : a <+: b) (hbc : b <+: c) (hca : c = a) :
    b = a ∧ c = b := by
  subst hca
  have hEq : c = b := hab.eq_of_length (Nat.le_antisymm hab.length_le hbc.length_le)
  exact ⟨hEq.symm, hEq⟩

namespace Remote

variable {Store Error α : Type}

def failWith (r : Remote Store Error) (e : Error) : Remote Store Error :=
  { r with calls := r.calls + 1, failed := r.failed ++ [e] }

/-- One call of `op`; `lost` is the error that a lost request or reply shows to the caller. -/
def call (outcomes : Nat → CallOutcome) (lost : Error) (r : Remote Store Error)
    (op : Store → Except Error (α × Store)) : Except Error α × Remote Store Error :=
  match outcomes r.calls, op r.store with
  | .requestLost, _ => (.error lost, r.failWith lost)
  | .replyLost, .ok (_, store) => (.error lost, { r.failWith lost with store := store })
  | .replyLost, .error e => (.error e, r.failWith e)
  | .delivered, .ok (a, store) => (.ok a, { r with store := store, calls := r.calls + 1 })
  | .delivered, .error e => (.error e, r.failWith e)

variable {outcomes : Nat → CallOutcome} {lost : Error} {r : Remote Store Error}
  {op : Store → Except Error (α × Store)}

@[simp] theorem calls_call : (r.call outcomes lost op).2.calls = r.calls + 1 := by
  unfold call
  split <;> rfl

/-- A call that returned did what the store does and logged no failure. -/
theorem call_ok {a : α} (h : (r.call outcomes lost op).1 = .ok a) :
    ∃ store, op r.store = .ok (a, store) ∧
      (r.call outcomes lost op).2 = { r with store := store, calls := r.calls + 1 } := by
  unfold call at h ⊢
  split at h <;> simp_all

/-- A call that failed logged its error; it did nothing, or its reply was lost. -/
theorem call_error {e : Error} (h : (r.call outcomes lost op).1 = .error e) :
    (r.call outcomes lost op).2.failed = r.failed ++ [e] ∧
      ((r.call outcomes lost op).2.store = r.store ∨
        ∃ a, op r.store = .ok (a, (r.call outcomes lost op).2.store)) := by
  unfold call at h ⊢
  split at h <;> simp_all [failWith]

/-- Whatever becomes of a call, the store is as before or as the operation leaves it. -/
theorem call_store : (r.call outcomes lost op).2.store = r.store ∨
    ∃ a, op r.store = .ok (a, (r.call outcomes lost op).2.store) := by
  cases hResult : (r.call outcomes lost op).1 with
  | ok a =>
    obtain ⟨store, hOp, hCall⟩ := call_ok hResult
    exact .inr ⟨a, by rw [hCall, hOp]⟩
  | error e => exact (call_error hResult).2

/-- What holds of the store before the call and of what the operation leaves holds after the call. -/
theorem call_invariant (P : Store → Prop) (hBefore : P r.store)
    (hOp : ∀ a store, op r.store = .ok (a, store) → P store) :
    P (r.call outcomes lost op).2.store := by
  have hStore : (r.call outcomes lost op).2.store = r.store ∨
      ∃ a, op r.store = .ok (a, (r.call outcomes lost op).2.store) := call_store
  rcases hStore with hSame | ⟨a, hStore⟩
  · rw [hSame]
    exact hBefore
  · exact hOp a _ hStore

theorem call_delivered (h : outcomes r.calls = .delivered) {a : α} {store : Store}
    (hOp : op r.store = .ok (a, store)) :
    r.call outcomes lost op = (.ok a, { r with store := store, calls := r.calls + 1 }) := by
  simp [call, h, hOp]

theorem call_succeeds (h : (r.call outcomes lost op).2.failed = r.failed) :
    ∃ a store, op r.store = .ok (a, store) ∧
      r.call outcomes lost op = (.ok a, { r with store := store, calls := r.calls + 1 }) := by
  cases hResult : (r.call outcomes lost op).1 with
  | error e =>
    have hFailed := (call_error hResult).1
    rw [h] at hFailed
    simp at hFailed
  | ok a =>
    obtain ⟨store, hOp, hRemote⟩ := call_ok hResult
    exact ⟨a, store, hOp, Prod.ext hResult hRemote⟩

theorem failed_prefix_call : r.failed <+: (r.call outcomes lost op).2.failed := by
  cases hResult : (r.call outcomes lost op).1 with
  | error e => exact (call_error hResult).1 ▸ List.prefix_append _ _
  | ok a =>
    obtain ⟨store, _, hRemote⟩ := call_ok hResult
    exact hRemote ▸ List.prefix_refl _

end Remote

end SdpK8sInjector.Lib
