import SdpK8sInjector.Injector.Handlers

/-! # Admissions that are handled at the same time

Every connection has a handler of its own, which holds the lock of the counters until
it has an answer. In the meantime the provider deals with requests, of this handler or
of one that has left, and with what the watcher finds.
-/

namespace SdpK8sInjector.Injector

open Lib Common IdentityService

/-- How far the handler of an admission has come: it waits for the lock, has it, awaits a device id, or is at its
end. -/
inductive Phase where
  | arrived
  | locked
  | awaiting (call : Nat)
  | answered (answer : PatchResult)
  | dropped

structure Handler where
  context : MutateContext
  review : AdmissionReview
  phase : Phase

structure ConcurrentInjector where
  exchange : DeviceIdExchange
  attempts : AttemptsStore
  /-- The handler that holds the lock of the counters. -/
  lock : Option Nat
  handlers : List Handler
  /-- The handlers that have answered, in that order. -/
  finished : List Nat

namespace ConcurrentInjector

/-- What the provider and the queues do on their own. -/
inductive ProviderStep where
  | send (call : Nat)
  | take (newV4 : Uuid)
  | reply
  | handle (msg : WatcherMessage)

def ProviderStep.event : ProviderStep → DeviceIdEvent
  | .send call => .send call
  | .take newV4 => .take newV4
  | .reply => .reply
  | .handle msg => .handle msg

inductive Event where
  | arrive (context : MutateContext) (review : AdmissionReview)
  | acquire (i : Nat)
  | proceed (i : Nat)
  | timeout (i : Nat)
  | resume (i : Nat)
  | drop (i : Nat)
  | exchange (step : ProviderStep)

def start (store : InMemoryIdentityStore) : ConcurrentInjector := ⟨Exchange.start store, ∅, none, [], []⟩

def finish (s : ConcurrentInjector) (i : Nat) (h : Handler) (result : PatchResult × AttemptsStore) :
    ConcurrentInjector :=
  { s with
    attempts := result.2
    lock := none
    handlers := s.handlers.set i { h with phase := .answered result.1 }
    finished := s.finished ++ [i] }

/-- The request of the handler, if it has made one, loses its receiver. -/
def abandon (parseStr : String → Option Uuid) (exchange : DeviceIdExchange) (phase : Phase) : DeviceIdExchange :=
  match phase with
  | .awaiting call => (DeviceIdExchange.next parseStr exchange (.giveUp call)).getD exchange
  | .arrived | .locked | .answered _ | .dropped => exchange

variable (parseStr : String → Option Uuid)

/-- The handler goes on when its request has ended. -/
def settle (s : ConcurrentInjector) (i : Nat) (ending : Nat → DeviceIdEvent) : Option ConcurrentInjector :=
  match s.handlers[i]? with
  | some ⟨context, review, .awaiting call⟩ =>
    match DeviceIdExchange.next parseStr s.exchange (ending call) with
    | some exchange =>
      match (exchange.calls[call]?).bind requested, mutateProgress context review s.attempts with
      | some found, .awaits _ resume =>
        some (finish { s with exchange := exchange } i ⟨context, review, .awaiting call⟩ (resume found))
      | _, _ => none
    | none => none
  | _ => none

/-- The timeout runs from when the request is in the queue. -/
def isSent (s : ConcurrentInjector) (i : Nat) : Bool :=
  match s.handlers[i]? with
  | some ⟨_, _, .awaiting call⟩ => (s.exchange.calls[call]?).map Call.state = some .waiting
  | _ => false

def next (s : ConcurrentInjector) : Event → Option ConcurrentInjector
  | .arrive context review => some { s with handlers := s.handlers ++ [⟨context, review, .arrived⟩] }
  | .acquire i =>
    match s.handlers[i]?, s.lock with
    | some ⟨context, review, .arrived⟩, none =>
      some { s with lock := some i, handlers := s.handlers.set i ⟨context, review, .locked⟩ }
    | _, _ => none
  | .proceed i =>
    match s.handlers[i]? with
    | some ⟨context, review, .locked⟩ =>
      match mutateProgress context review s.attempts with
      | .done result => some (s.finish i ⟨context, review, .locked⟩ result)
      | .awaits serviceId _ =>
        (DeviceIdExchange.next parseStr s.exchange (.call serviceId)).map fun exchange =>
          { s with
            exchange := exchange
            handlers := s.handlers.set i ⟨context, review, .awaiting s.exchange.calls.length⟩ }
    | _ => none
  | .timeout i => if s.isSent i then s.settle parseStr i .giveUp else none
  | .resume i => s.settle parseStr i .receive
  | .drop i =>
    match s.handlers[i]? with
    | some ⟨_, _, .answered _⟩ | some ⟨_, _, .dropped⟩ | none => none
    | some h =>
      some { s with
        exchange := abandon parseStr s.exchange h.phase
        lock := if s.lock = some i then none else s.lock
        handlers := s.handlers.set i { h with phase := .dropped } }
  | .exchange step =>
    (DeviceIdExchange.next parseStr s.exchange step.event).map fun exchange => { s with exchange := exchange }

def Reachable (store : InMemoryIdentityStore) (s : ConcurrentInjector) : Prop :=
  Steps (next parseStr) (fun _ _ => True) (start store) s

end ConcurrentInjector

def Phase.HoldsLock : Phase → Prop
  | .locked | .awaiting _ => True
  | .arrived | .answered _ | .dropped => False

namespace ConcurrentInjector

variable {parseStr : String → Option Uuid} {store : InMemoryIdentityStore} {s t : ConcurrentInjector}

/-- All that a step can do. -/
inductive Moves (parseStr : String → Option Uuid) (s : ConcurrentInjector) : ConcurrentInjector → Prop where
  | arrive (context : MutateContext) (review : AdmissionReview) :
      Moves parseStr s { s with handlers := s.handlers ++ [⟨context, review, .arrived⟩] }
  | acquire {i : Nat} {h : Handler} (found : s.handlers[i]? = some h) (arrived : h.phase = .arrived)
    (free : s.lock = none) :
      Moves parseStr s { s with lock := some i, handlers := s.handlers.set i { h with phase := .locked } }
  | finish {i : Nat} {h : Handler} {result : PatchResult × AttemptsStore} (found : s.handlers[i]? = some h)
      (locked : h.phase = .locked) (done : mutateProgress h.context h.review s.attempts = .done result) :
      Moves parseStr s (s.finish i h result)
  | await {i : Nat} {h : Handler} {serviceId : String}
      {resume : Except SDPServiceError (ServiceIdentity × Uuid) → PatchResult × AttemptsStore}
      (found : s.handlers[i]? = some h) (locked : h.phase = .locked)
      (awaits : mutateProgress h.context h.review s.attempts = .awaits serviceId resume) :
      Moves parseStr s { s with
        exchange := { s.exchange with calls := s.exchange.calls ++ [.start serviceId] }
        handlers := s.handlers.set i { h with phase := .awaiting s.exchange.calls.length } }
  | settle {i call : Nat} {h : Handler} {event : DeviceIdEvent} {exchange : DeviceIdExchange} {serviceId : String}
      {resume : Except SDPServiceError (ServiceIdentity × Uuid) → PatchResult × AttemptsStore}
      {c : DeviceIdCall} {result : Except SDPServiceError (ServiceIdentity × Uuid)}
      (found : s.handlers[i]? = some h) (awaiting : h.phase = .awaiting call)
      (ending : event = .receive call ∨ event = .giveUp call)
      (ends : DeviceIdExchange.next parseStr s.exchange event = some exchange) (ended : exchange.calls[call]? = some c)
      (returned : requested c = some result)
      (awaits : mutateProgress h.context h.review s.attempts = .awaits serviceId resume) :
      Moves parseStr s (ConcurrentInjector.finish { s with exchange := exchange } i h (resume result))
  | drop {i : Nat} {h : Handler} (found : s.handlers[i]? = some h) (runs : h.phase = .arrived ∨ h.phase.HoldsLock) :
      Moves parseStr s { s with
        exchange := abandon parseStr s.exchange h.phase
        lock := if s.lock = some i then none else s.lock
        handlers := s.handlers.set i { h with phase := .dropped } }
  | exchange {exchange : DeviceIdExchange} (step : ProviderStep)
      (next : DeviceIdExchange.next parseStr s.exchange step.event = some exchange) :
      Moves parseStr s { s with exchange := exchange }

theorem moves_of_settle {i : Nat} {ending : Nat → DeviceIdEvent} (hEnding : ending = .receive ∨ ending = .giveUp)
    (h : s.settle parseStr i ending = some t) : Moves parseStr s t := by
  unfold settle at h
  split at h
  · rename_i context review call hFound
    split at h
    · rename_i exchange hNext
      split at h
      · rename_i result _ resume hRequested hAwaits
        cases h
        obtain ⟨c, hCall, hReturned⟩ := Option.bind_eq_some_iff.mp hRequested
        have hEvent : ending call = .receive call ∨ ending call = .giveUp call := by
          rcases hEnding with rfl | rfl
          · exact .inl rfl
          · exact .inr rfl
        exact .settle hFound rfl hEvent hNext hCall hReturned hAwaits
      · cases h
    · cases h
  · cases h

theorem moves_of_next {event : Event} (h : next parseStr s event = some t) : Moves parseStr s t := by
  cases event with
  | arrive context review =>
    cases h
    exact .arrive context review
  | acquire i =>
    rw [next] at h
    split at h
    · cases h
      exact .acquire ‹_› rfl ‹_›
    · cases h
  | proceed i =>
    rw [next] at h
    split at h
    · rename_i hFound
      split at h
      · rename_i hDone
        cases h
        exact .finish hFound rfl hDone
      · rename_i hAwaits
        cases h
        exact .await hFound rfl hAwaits
    · cases h
  | timeout i =>
    rw [next] at h
    split at h
    · exact moves_of_settle (.inr rfl) h
    · cases h
  | resume i => exact moves_of_settle (.inl rfl) h
  | drop i =>
    rw [next] at h
    split at h
    · cases h
    · cases h
    · cases h
    · rename_i handler hAnswered hDropped hFound
      cases h
      refine .drop hFound ?_
      obtain ⟨context, review, phase⟩ := handler
      cases phase with
      | arrived => exact .inl rfl
      | locked | awaiting _ => exact .inr trivial
      | answered answer => exact absurd rfl (hAnswered context review answer)
      | dropped => exact absurd rfl (hDropped context review)
  | exchange step =>
    obtain ⟨exchange, hNext, rfl⟩ := Option.map_eq_some_iff.mp h
    exact .exchange step hNext

/-- One handler at most holds the lock, and no other one has a request that somebody waits for. -/
structure Guarded (s : ConcurrentInjector) : Prop where
  held : ∀ (i : Nat) (h : Handler), s.handlers[i]? = some h → h.phase.HoldsLock → s.lock = some i
  holder : ∀ i, s.lock = some i → ∃ h, s.handlers[i]? = some h ∧ h.phase.HoldsLock
  awaits : ∀ (i : Nat) (h : Handler) (call : Nat), s.handlers[i]? = some h → h.phase = .awaiting call →
    ∃ c resume, s.exchange.calls[call]? = some c ∧ c.IsOpen ∧
      mutateProgress h.context h.review s.attempts = .awaits c.request resume
  lonely : ∀ (call : Nat) (c : DeviceIdCall), s.exchange.calls[call]? = some c → c.IsOpen →
    ∃ (i : Nat) (h : Handler), s.handlers[i]? = some h ∧ h.phase = .awaiting call
  answered : ∀ i ∈ s.finished, ∃ h answer, s.handlers[i]? = some h ∧ h.phase = .answered answer
  nodup : s.finished.Nodup

theorem guarded_start (store : InMemoryIdentityStore) : (start store).Guarded where
  held _ _ hFound := by cases hFound
  holder _ hLock := by cases hLock
  awaits _ _ _ hFound := by cases hFound
  lonely _ _ hFound := by cases hFound
  answered _ hFinished := by cases hFinished
  nodup := List.nodup_nil

theorem holdsLock_of_awaiting {h : Handler} {call : Nat} (hPhase : h.phase = .awaiting call) : h.phase.HoldsLock := by
  rw [hPhase]
  exact trivial

namespace Guarded

theorem unique (g : s.Guarded) {i j : Nat} {h h' : Handler} (hFound : s.handlers[i]? = some h)
    (hHolds : h.phase.HoldsLock)
    (hFound' : s.handlers[j]? = some h') (hHolds' : h'.phase.HoldsLock) : j = i :=
  Option.some.inj ((g.held j h' hFound' hHolds').symm.trans (g.held i h hFound hHolds))

theorem answered_set (g : s.Guarded) {i : Nat} {h h' : Handler} (hFound : s.handlers[i]? = some h)
    (hRuns : ∀ answer, h.phase ≠ .answered answer) :
    ∀ j ∈ s.finished, ∃ d answer, (s.handlers.set i h')[j]? = some d ∧
      d.phase = .answered answer := by
  intro j hFinished
  obtain ⟨d, answer, hOld, hAnswered⟩ := g.answered j hFinished
  have hNe : i ≠ j := by
    rintro rfl
    cases hFound.symm.trans hOld
    exact hRuns answer hAnswered
  exact ⟨d, answer, (List.getElem?_set_ne hNe).trans hOld, hAnswered⟩

theorem not_finished (g : s.Guarded) {i : Nat} {h : Handler} (hFound : s.handlers[i]? = some h)
    (hRuns : ∀ answer, h.phase ≠ .answered answer) : i ∉ s.finished := by
  intro hFinished
  obtain ⟨d, answer, hOld, hAnswered⟩ := g.answered i hFinished
  cases hFound.symm.trans hOld
  exact hRuns answer hAnswered

theorem arrive (g : s.Guarded) (context : MutateContext) (review : AdmissionReview) :
    ({ s with handlers := s.handlers ++ [⟨context, review, .arrived⟩] } : ConcurrentInjector).Guarded := by
  have hStays : ∀ {i : Nat} {h : Handler}, s.handlers[i]? = some h →
      (s.handlers ++ [⟨context, review, .arrived⟩])[i]? = some h := fun hFound =>
    (List.getElem?_append_left (List.getElem?_eq_some_iff.mp hFound).1).trans hFound
  refine
    { held := ?_
      holder := ?_
      awaits := ?_
      lonely := ?_
      answered := ?_
      nodup := g.nodup }
  · intro i h hFound hHolds
    rcases getElem?_concat_cases hFound with hOld | ⟨-, rfl⟩
    · exact g.held i h hOld hHolds
    · exact hHolds.elim
  · intro i hLock
    obtain ⟨h, hFound, hHolds⟩ := g.holder i hLock
    exact ⟨h, hStays hFound, hHolds⟩
  · intro i h call hFound hPhase
    rcases getElem?_concat_cases hFound with hOld | ⟨-, rfl⟩
    · exact g.awaits i h call hOld hPhase
    · cases hPhase
  · intro call c hCall hOpen
    obtain ⟨i, h, hFound, hPhase⟩ := g.lonely call c hCall hOpen
    exact ⟨i, h, hStays hFound, hPhase⟩
  · intro i hFinished
    obtain ⟨h, answer, hFound, hAnswered⟩ := g.answered i hFinished
    exact ⟨h, answer, hStays hFound, hAnswered⟩

theorem acquire (g : s.Guarded) {i : Nat} {h : Handler} (hFound : s.handlers[i]? = some h)
    (hArrived : h.phase = .arrived)
    (hFree : s.lock = none) :
    ({ s with lock := some i, handlers := s.handlers.set i { h with phase := .locked } } :
      ConcurrentInjector).Guarded := by
  have hNone : ∀ {j : Nat} {d : Handler}, s.handlers[j]? = some d → ¬d.phase.HoldsLock := fun hOther hHolds => by
    cases hFree.symm.trans (g.held _ _ hOther hHolds)
  refine
    { held := ?_
      holder := ?_
      awaits := ?_
      lonely := ?_
      answered := g.answered_set hFound (by simp [hArrived])
      nodup := g.nodup }
  · intro j d hOther hHolds
    rcases getElem?_set_cases hOther with ⟨rfl, -⟩ | ⟨-, hOld⟩
    · rfl
    · exact absurd hHolds (hNone hOld)
  · intro j hLock
    cases hLock
    exact ⟨_, List.getElem?_set_self (List.getElem?_eq_some_iff.mp hFound).1, trivial⟩
  · intro j d call hOther hPhase
    rcases getElem?_set_cases hOther with ⟨rfl, rfl⟩ | ⟨-, hOld⟩
    · cases hPhase
    · exact absurd (holdsLock_of_awaiting hPhase) (hNone hOld)
  · intro call c hCall hOpen
    obtain ⟨j, d, hOld, hPhase⟩ := g.lonely call c hCall hOpen
    exact absurd (holdsLock_of_awaiting hPhase) (hNone hOld)

/-- When the holder of the lock has its answer, nobody waits for a device id. -/
theorem finish (g : s.Guarded) {i : Nat} {h : Handler} (hFound : s.handlers[i]? = some h) (hHolds : h.phase.HoldsLock)
    {exchange : DeviceIdExchange}
    (hClosed : ∀ (call : Nat) (c : DeviceIdCall), exchange.calls[call]? = some c → ¬c.IsOpen)
    (result : PatchResult × AttemptsStore) :
    (ConcurrentInjector.finish { s with exchange := exchange } i h result).Guarded := by
  have hRuns : ∀ answer, h.phase ≠ .answered answer := fun answer hAnswered => by
    rw [hAnswered] at hHolds
    exact hHolds
  have hNone : ∀ {j : Nat} {d : Handler}, (s.handlers.set i { h with phase := .answered result.1 })[j]? = some d →
      ¬d.phase.HoldsLock := by
    intro j d hOther hHolds'
    rcases getElem?_set_cases hOther with ⟨-, rfl⟩ | ⟨hNe, hOld⟩
    · exact hHolds'
    · exact hNe (g.unique hFound hHolds hOld hHolds')
  refine
    { held := ?_
      holder := ?_
      awaits := ?_
      lonely := ?_
      answered := ?_
      nodup := ?_ }
  · exact fun j d hOther hHolds' => absurd hHolds' (hNone hOther)
  · intro j hLock
    cases hLock
  · exact fun j d call hOther hPhase => absurd (holdsLock_of_awaiting hPhase) (hNone hOther)
  · exact fun call c hCall hOpen => absurd hOpen (hClosed call c hCall)
  · intro j hFinished
    rcases List.mem_append.mp hFinished with hOld | hNew
    · exact g.answered_set hFound hRuns j hOld
    · rw [List.mem_singleton.mp hNew]
      exact ⟨_, result.1, List.getElem?_set_self (List.getElem?_eq_some_iff.mp hFound).1, rfl⟩
  · exact List.nodup_append.mpr ⟨g.nodup, List.nodup_singleton i, fun j hOld k hNew hEq => by
      rw [List.mem_singleton.mp hNew] at hEq
      exact g.not_finished hFound hRuns (hEq ▸ hOld)⟩

theorem closed_of_locked (g : s.Guarded) {i : Nat} {h : Handler} (hFound : s.handlers[i]? = some h)
    (hLocked : h.phase = .locked) (call : Nat) (c : DeviceIdCall) (hCall : s.exchange.calls[call]? = some c) :
    ¬c.IsOpen := by
  intro hOpen
  obtain ⟨j, d, hOther, hPhase⟩ := g.lonely call c hCall hOpen
  obtain rfl := g.unique hFound (by rw [hLocked]; exact trivial) hOther (holdsLock_of_awaiting hPhase)
  cases hFound.symm.trans hOther
  cases hLocked.symm.trans hPhase

theorem await (g : s.Guarded) {i : Nat} {h : Handler} {serviceId : String}
    {resume : Except SDPServiceError (ServiceIdentity × Uuid) → PatchResult × AttemptsStore}
    (hFound : s.handlers[i]? = some h) (hLocked : h.phase = .locked)
    (hAwaits : mutateProgress h.context h.review s.attempts = .awaits serviceId resume) :
    ({ s with
        exchange := { s.exchange with calls := s.exchange.calls ++ [.start serviceId] }
        handlers := s.handlers.set i { h with phase := .awaiting s.exchange.calls.length } } :
        ConcurrentInjector).Guarded := by
  have hHolds : h.phase.HoldsLock := by
    rw [hLocked]
    exact trivial
  refine
    { held := ?_
      holder := ?_
      awaits := ?_
      lonely := ?_
      answered := g.answered_set hFound (by simp [hLocked])
      nodup := g.nodup }
  · intro j d hOther hHolds'
    rcases getElem?_set_cases hOther with ⟨rfl, -⟩ | ⟨-, hOld⟩
    · exact g.held j h hFound hHolds
    · exact g.held j d hOld hHolds'
  · intro j hLock
    obtain ⟨d, hOther, hHolds'⟩ := g.holder j hLock
    obtain rfl := g.unique hFound hHolds hOther hHolds'
    exact ⟨_, List.getElem?_set_self (List.getElem?_eq_some_iff.mp hFound).1, trivial⟩
  · intro j d call hOther hPhase
    rcases getElem?_set_cases hOther with ⟨rfl, rfl⟩ | ⟨hNe, hOld⟩
    · cases hPhase
      exact ⟨.start serviceId, resume, by simp, .inl rfl, hAwaits⟩
    · exact absurd (g.unique hFound hHolds hOld (holdsLock_of_awaiting hPhase)) hNe
  · intro call c hCall hOpen
    rcases getElem?_concat_cases hCall with hOld | ⟨rfl, -⟩
    · exact absurd hOpen (g.closed_of_locked hFound hLocked call c hOld)
    · exact ⟨i, _, List.getElem?_set_self (List.getElem?_eq_some_iff.mp hFound).1, rfl⟩

/-- The request that has ended was the only one that was open. -/
theorem closed_of_ending (g : s.Guarded) {i call : Nat} {h : Handler} {event : DeviceIdEvent}
    {exchange : DeviceIdExchange}
    (hFound : s.handlers[i]? = some h) (hPhase : h.phase = .awaiting call)
    (hEnding : event = .receive call ∨ event = .giveUp call)
    (hEnds : DeviceIdExchange.next parseStr s.exchange event = some exchange) (other : Nat) (c : DeviceIdCall)
    (hCall : exchange.calls[other]? = some c) : ¬c.IsOpen := by
  intro hOpen
  rcases Exchange.calls_next hEnds hCall with ⟨c₀, hBefore, -, hWasOpen⟩ | ⟨request, hNew, -⟩
  · obtain ⟨j, d, hOther, hPhase'⟩ := g.lonely other c₀ hBefore (hWasOpen hOpen)
    obtain rfl := g.unique hFound (holdsLock_of_awaiting hPhase) hOther (holdsLock_of_awaiting hPhase')
    cases hFound.symm.trans hOther
    cases hPhase.symm.trans hPhase'
    exact Exchange.ended_next hEnds hEnding hCall hOpen
  · rcases hEnding with rfl | rfl <;> cases hNew

variable (parseStr) in
theorem abandon_eq (g : s.Guarded) {i : Nat} {h : Handler} (hFound : s.handlers[i]? = some h) :
    abandon parseStr s.exchange h.phase = s.exchange ∧ (∀ call, h.phase ≠ .awaiting call) ∨
      ∃ call, h.phase = .awaiting call ∧
        DeviceIdExchange.next parseStr s.exchange (.giveUp call) = some (abandon parseStr s.exchange h.phase) := by
  cases hPhase : h.phase with
  | arrived | locked | answered _ | dropped => exact .inl ⟨rfl, fun _ => by simp⟩
  | awaiting call =>
    obtain ⟨c, resume, hCall, hOpen, -⟩ := g.awaits i h call hFound hPhase
    have hSome : (DeviceIdExchange.next parseStr s.exchange (.giveUp call)).isSome = true :=
      Exchange.isSome_giveUp hCall hOpen
    obtain ⟨exchange, hNext⟩ := Option.isSome_iff_exists.mp hSome
    refine .inr ⟨call, rfl, ?_⟩
    rw [abandon]
    exact hNext.trans (congrArg some (congrArg (Option.getD · s.exchange) hNext).symm)

theorem drop (g : s.Guarded) {i : Nat} {h : Handler} (hFound : s.handlers[i]? = some h)
    (hRuns : h.phase = .arrived ∨ h.phase.HoldsLock) :
    ({ s with
        exchange := abandon parseStr s.exchange h.phase
        lock := if s.lock = some i then none else s.lock
        handlers := s.handlers.set i { h with phase := .dropped } } : ConcurrentInjector).Guarded := by
  have hNotAnswered : ∀ answer, h.phase ≠ .answered answer := by
    rintro answer hAnswered
    rw [hAnswered] at hRuns
    rcases hRuns with hArrived | hHolds
    · cases hArrived
    · exact hHolds
  -- a handler that is left keeps its phase, and another lock than that of the one that is dropped
  have hOthers : ∀ {j : Nat} {d : Handler}, (s.handlers.set i { h with phase := .dropped })[j]? = some d →
      d.phase.HoldsLock → j ≠ i ∧ s.handlers[j]? = some d := by
    intro j d hOther hHolds
    rcases getElem?_set_cases hOther with ⟨-, rfl⟩ | hOld
    · exact hHolds.elim
    · exact hOld
  refine
    { held := ?_
      holder := ?_
      awaits := ?_
      lonely := ?_
      answered := g.answered_set hFound hNotAnswered
      nodup := g.nodup }
  · intro j d hOther hHolds
    obtain ⟨hNe, hOld⟩ := hOthers hOther hHolds
    rw [g.held j d hOld hHolds]
    exact if_neg fun hSame => hNe (Option.some.inj hSame)
  · intro j hLock
    dsimp only at hLock
    split at hLock
    · cases hLock
    · rename_i hNot
      obtain ⟨d, hOld, hHolds⟩ := g.holder j hLock
      have hNe : i ≠ j := by
        rintro rfl
        exact hNot hLock
      exact ⟨d, (List.getElem?_set_ne hNe).trans hOld, hHolds⟩
  · intro j d call hOther hPhase
    obtain ⟨hNe, hOld⟩ := hOthers hOther (holdsLock_of_awaiting hPhase)
    rcases g.abandon_eq parseStr hFound with ⟨hSame, -⟩ | ⟨call', hAwaiting, -⟩
    · rw [hSame]
      exact g.awaits j d call hOld hPhase
    · exact absurd (g.unique hFound (holdsLock_of_awaiting hAwaiting) hOld (holdsLock_of_awaiting hPhase)) hNe
  · intro call c hCall hOpen
    rcases g.abandon_eq parseStr hFound with ⟨hSame, hNot⟩ | ⟨call', hAwaiting, hGiveUp⟩
    · rw [hSame] at hCall
      obtain ⟨j, d, hOld, hPhase⟩ := g.lonely call c hCall hOpen
      have hNe : i ≠ j := by
        rintro rfl
        cases hFound.symm.trans hOld
        exact hNot call hPhase
      exact ⟨j, d, (List.getElem?_set_ne hNe).trans hOld, hPhase⟩
    · exact absurd hOpen (g.closed_of_ending hFound hAwaiting (.inr rfl) hGiveUp call c hCall)

theorem exchange (g : s.Guarded) {exchange : DeviceIdExchange} (step : ProviderStep)
    (hNext : DeviceIdExchange.next parseStr s.exchange step.event = some exchange) :
    ({ s with exchange := exchange } : ConcurrentInjector).Guarded where
  held := g.held
  holder := g.holder
  awaits i h call hFound hPhase := by
    obtain ⟨c, resume, hCall, hOpen, hAwaits⟩ := g.awaits i h call hFound hPhase
    obtain ⟨c', hCall', hRequest, hOpen'⟩ :=
      Exchange.open_next hNext hCall hOpen (by cases step <;> simp [ProviderStep.event])
      (by cases step <;> simp [ProviderStep.event])
    exact ⟨c', resume, hCall', hOpen', hRequest ▸ hAwaits⟩
  lonely call c hCall hOpen := by
    rcases Exchange.calls_next hNext hCall with ⟨c₀, hBefore, -, hWasOpen⟩ | ⟨request, hNew, -⟩
    · exact g.lonely call c₀ hBefore (hWasOpen hOpen)
    · cases step <;> cases hNew
  answered := g.answered
  nodup := g.nodup

theorem moves (g : s.Guarded) (h : Moves parseStr s t) : t.Guarded := by
  cases h with
  | arrive context review => exact g.arrive context review
  | acquire hFound hArrived hFree => exact g.acquire hFound hArrived hFree
  | finish hFound hLocked hDone =>
    exact g.finish hFound (by rw [hLocked]; exact trivial) (g.closed_of_locked hFound hLocked) _
  | await hFound hLocked hAwaits => exact g.await hFound hLocked hAwaits
  | settle hFound hAwaiting hEnding hEnds =>
    exact g.finish hFound (holdsLock_of_awaiting hAwaiting) (g.closed_of_ending hFound hAwaiting hEnding hEnds) _
  | drop hFound hRuns => exact g.drop hFound hRuns
  | exchange step hNext => exact g.exchange step hNext

end Guarded

end ConcurrentInjector

end SdpK8sInjector.Injector
