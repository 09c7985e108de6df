import SdpK8sInjector.Injector.ConcurrentAdmissions

/-! # The order in which admissions take place

An admission counts where the provider took its request, or where it was answered if it
made none. So handlers that run at the same time do what `mutate` does for one after
the other.
-/

namespace SdpK8sInjector.Injector

open Lib Common IdentityService

/-- What happens one after the other: an admission, with its request for a device id if it made one, an admission that
does not get its device id, what the watcher finds, and a request that is answered to nobody. -/
inductive SerialEvent where
  | admitted (i : Nat) (call : Option Nat) (context : MutateContext) (review : AdmissionReview)
  | timedOut (i : Nat) (context : MutateContext) (review : AdmissionReview)
  | message (msg : WatcherMessage)
  | orphaned (call : Nat) (serviceId : String) (newV4 : Uuid)

/-- `mutate` without an answer from the provider. -/
def mutateTimedOut (context : MutateContext) (review : AdmissionReview) (s : InjectorState) :
    PatchResult × InjectorState :=
  match mutateProgress context review s.attempts with
  | .done result => (result.1, ⟨result.2, s.identities⟩)
  | .awaits serviceId resume =>
    let result := resume (.error ("Error getting device id for service " ++ serviceId ++ ": deadline has elapsed"))
    (result.1, ⟨result.2, s.identities⟩)

namespace SerialEvent

def handler : SerialEvent → Option Nat
  | admitted i _ _ _ | timedOut i _ _ => some i
  | message _ | orphaned _ _ _ => none

def call : SerialEvent → Option Nat
  | admitted _ call _ _ => call
  | orphaned call _ _ => some call
  | timedOut _ _ _ | message _ => none

def answer (s : InjectorState) : SerialEvent → Option PatchResult
  | admitted _ _ context review => some (mutate context review s).1
  | timedOut _ context review => some (mutateTimedOut context review s).1
  | message _ | orphaned _ _ _ => none

def after (parseStr : String → Option Uuid) (s : InjectorState) : SerialEvent → InjectorState
  | admitted _ _ context review => (mutate context review s).2
  | timedOut _ context review => (mutateTimedOut context review s).2
  | message msg => { s with identities := s.identities.perform parseStr msg.event.call }
  | orphaned _ serviceId newV4 => { s with identities := (s.identities.popDeviceId newV4 serviceId).2 }

/-- The event is the admission of the handler, with whatever was drawn. -/
def Admits (i : Nat) (h : Handler) : SerialEvent → Prop
  | admitted j _ context review => j = i ∧ (∃ newV4, context = { h.context with newV4 := newV4 }) ∧
    review = h.review
  | timedOut j context review => j = i ∧ context = h.context ∧ review = h.review
  | message _ | orphaned _ _ _ => False

/-- An admission has had its reply, one that has timed out has given up, and so has an orphan, or it is still open. -/
def Accounted (exchange : DeviceIdExchange) : SerialEvent → Prop
  | admitted _ call _ _ => ∀ k ∈ call, ∃ c reply, exchange.calls[k]? = some c ∧ c.state = .returned reply
  | timedOut _ _ _ => ∃ (k : Nat) (c : DeviceIdCall), exchange.calls[k]? = some c ∧ c.state = .gaveUp
  | orphaned k _ _ => ∃ c, exchange.calls[k]? = some c ∧ ∀ reply, c.state ≠ .returned reply
  | message _ => True

/-- What the provider does on its own. -/
def ofDealt : Dealt String Uuid WatcherMessage → SerialEvent
  | .request call serviceId newV4 => orphaned call serviceId newV4
  | .message msg => message msg

variable {parseStr : String → Option Uuid}

theorem handler_ofDealt (d : Dealt String Uuid WatcherMessage) : (ofDealt d).handler = none := by
  cases d <;> rfl

theorem call_ofDealt (d : Dealt String Uuid WatcherMessage) : (ofDealt d).call = d.caller := by
  cases d <;> rfl

theorem closed_of_returned {c : DeviceIdCall} {reply : DeviceIdProviderResponseProtocol}
    (h : c.state = .returned reply) :
    ¬c.IsOpen := by
  simp [Call.IsOpen, h]

theorem closed_of_gaveUp {c : DeviceIdCall} (h : c.state = .gaveUp) : ¬c.IsOpen := by
  simp [Call.IsOpen, h]

/-- Only the reply that its requester receives changes what an orphan is. -/
theorem Accounted.next {s t : DeviceIdExchange} {e : SerialEvent} (h : e.Accounted s) {event : DeviceIdEvent}
    (hNext : DeviceIdExchange.next parseStr s event = some t)
    (hOther : ∀ k, event = .receive k → e.call ≠ some k) :
    e.Accounted t := by
  cases e with
  | admitted i call context review =>
    intro k hk
    obtain ⟨c, reply, hFound, hState⟩ := h k hk
    exact ⟨c, reply, Exchange.closed_next hNext hFound (closed_of_returned hState), hState⟩
  | timedOut i context review =>
    obtain ⟨k, c, hFound, hState⟩ := h
    exact ⟨k, c, Exchange.closed_next hNext hFound (closed_of_gaveUp hState), hState⟩
  | message msg => exact trivial
  | orphaned k serviceId newV4 =>
    obtain ⟨c, hFound, hNot⟩ := h
    by_cases hOpen : c.IsOpen
    · by_cases hGiveUp : event = .giveUp k
      · subst hGiveUp
        cases Exchange.moves_of_next hNext with
        | giveUp hBefore hLeft =>
          refine ⟨_, List.getElem?_set_self (List.getElem?_eq_some_iff.mp hBefore).1, fun reply hReturned => ?_⟩
          cases (Call.request_of_giveUp hLeft).2.2.symm.trans hReturned
      · have hReceive : event ≠ .receive k := fun hEvent => hOther k hEvent rfl
        obtain ⟨c', hFound', -, hOpen'⟩ := Exchange.open_next hNext hFound hOpen hReceive hGiveUp
        exact ⟨c', hFound', fun reply hReturned => closed_of_returned hReturned hOpen'⟩
    · exact ⟨c, Exchange.closed_next hNext hFound hOpen, hNot⟩

theorem after_ofDealt (d : Dealt String Uuid WatcherMessage) (s : InjectorState) :
    (ofDealt d).after parseStr s = { s with identities := (deviceIdProvider parseStr).deal s.identities d } := by
  rw [DeviceIdExchange.deal_eq]
  cases d <;> rfl

variable (parseStr) in
/-- What is not an admission leaves the counters alone, and does not look at them. -/
theorem foldl_after {rest : List SerialEvent} (h : ∀ e ∈ rest, e.handler = none) (s : InjectorState)
    (attempts : AttemptsStore) :
    rest.foldl (SerialEvent.after parseStr) { s with attempts := attempts } =
      { rest.foldl (SerialEvent.after parseStr) s with attempts := attempts } ∧
        (rest.foldl (SerialEvent.after parseStr) s).attempts = s.attempts := by
  induction rest generalizing s with
  | nil => exact ⟨rfl, rfl⟩
  | cons e rest ih =>
    have hNone := h e List.mem_cons_self
    obtain ⟨hSame, hAttempts⟩ := ih (fun e' he => h e' (List.mem_cons_of_mem e he)) (e.after parseStr s)
    cases e with
    | admitted | timedOut => cases hNone
    | message | orphaned => exact ⟨hSame, hAttempts⟩

/-- An admission is before events that are none. -/
theorem split_admission {before rest before' rest' : List SerialEvent} {e : SerialEvent}
    (h : before ++ rest = before' ++ e :: rest') (hAdmission : e.handler.isSome = true)
    (hNone : ∀ e ∈ rest, e.handler = none) : ∃ between, before = before' ++ e :: between := by
  have hNot : e ∉ rest := fun hMem => by
    rw [hNone e hMem] at hAdmission
    cases hAdmission
  rcases List.append_eq_append_iff.mp h with ⟨mid, rfl, rfl⟩ | ⟨mid, rfl, hRest⟩
  · exact absurd (List.mem_append_right _ List.mem_cons_self) hNot
  · cases mid with
    | nil =>
      obtain rfl : e :: rest' = rest := hRest
      exact absurd List.mem_cons_self hNot
    | cons x mid =>
      obtain ⟨rfl, -⟩ := List.cons.inj hRest
      exact ⟨mid, rfl⟩

theorem handler_of_admits {i : Nat} {h : Handler} {e : SerialEvent} (hAdmits : e.Admits i h) : e.handler = some i := by
  cases e with
  | admitted j call context review | timedOut j context review => rw [handler, hAdmits.1]
  | message | orphaned => exact hAdmits.elim

end SerialEvent

namespace ConcurrentInjector

variable {parseStr : String → Option Uuid} {store : InMemoryIdentityStore} {s t : ConcurrentInjector}

/-- The state after the events, one after the other. -/
def serialState (parseStr : String → Option Uuid) (store : InMemoryIdentityStore)
    (serial : List SerialEvent) : InjectorState :=
  serial.foldl (SerialEvent.after parseStr) ⟨∅, store⟩

/-- One event after the other leads to the same state, and every handler has answered what it is answered there, apart
from the texts of errors. The one that awaits its device id is not among them yet. -/
structure Serialized (parseStr : String → Option Uuid) (store : InMemoryIdentityStore) (s : ConcurrentInjector)
    (serial : List SerialEvent) : Prop where
  exchange : s.exchange.Consistent (deviceIdProvider parseStr) store
  state : serialState parseStr store serial = ⟨s.attempts, s.exchange.server⟩
  finished : serial.filterMap SerialEvent.handler = s.finished
  calls : serial.filterMap SerialEvent.call = s.exchange.log.filterMap Dealt.caller
  accounted : ∀ e ∈ serial, e.Accounted s.exchange
  answers : ∀ (i : Nat) (h : Handler) (answer : PatchResult), s.handlers[i]? = some h →
    h.phase = .answered answer →
    ∃ before event rest, serial = before ++ event :: rest ∧ event.Admits i h ∧
      (event.answer (serialState parseStr store before)).map withoutText = some (withoutText answer)
  orphaned : ∀ (i : Nat) (h : Handler) (call : Nat) (c : DeviceIdCall) (reply : DeviceIdProviderResponseProtocol),
    s.handlers[i]? = some h → h.phase = .awaiting call → s.exchange.calls[call]? = some c →
      (call, reply) ∈ (deviceIdProvider parseStr).answers store s.exchange.log →
        ∃ before newV4 rest, serial = before ++ .orphaned call c.request newV4 :: rest ∧
          (∀ e ∈ rest, e.handler = none) ∧
          reply = ((deviceIdProvider parseStr).answer c.request newV4 (serialState parseStr store before).identities).1

namespace Serialized

variable {serial : List SerialEvent}

theorem start : Serialized parseStr store (start store) [] where
  exchange := Exchange.consistent_start store
  state := rfl
  finished := rfl
  calls := rfl
  accounted _ hMem := by cases hMem
  answers _ _ _ hFound := by cases hFound
  orphaned _ _ _ _ _ hFound := by cases hFound

theorem serialState_append (before rest : List SerialEvent) :
    serialState parseStr store (before ++ rest) = rest.foldl (SerialEvent.after parseStr)
    (serialState parseStr store before) :=
  List.foldl_append

/-- The provider does something for nobody who has an answer yet. -/
theorem deal (h : Serialized parseStr store s serial) {exchange : DeviceIdExchange} {event : DeviceIdEvent}
    (hNext : DeviceIdExchange.next parseStr s.exchange event = some exchange)
    (hCall : ∀ serviceId, event ≠ .call serviceId)
    (hReceive : ∀ k, event ≠ .receive k) :
    ∃ serial', Serialized parseStr store { s with exchange := exchange } serial' := by
  have hExchange := h.exchange.next hNext
  have hAccounted : ∀ e ∈ serial, e.Accounted exchange := fun e he =>
    (h.accounted e he).next hNext fun k hEvent => absurd hEvent (hReceive k)
  have hCalls : ∀ {call : Nat} {c : DeviceIdCall}, exchange.calls[call]? = some c →
      ∃ c₀, s.exchange.calls[call]? = some c₀ ∧ c.request = c₀.request := by
    intro call c hFound
    rcases Exchange.calls_next hNext hFound with ⟨c₀, hBefore, hRequest, -⟩ | ⟨request, hNew, -⟩
    · exact ⟨c₀, hBefore, hRequest⟩
    · exact absurd hNew (hCall request)
  rcases Exchange.dealt_next hNext with ⟨hLog, hServer⟩ | ⟨d, hLog, hServer, hReplying⟩
  · refine ⟨serial,
      { exchange := hExchange
        state := h.state.trans (by rw [hServer])
        finished := h.finished
        calls := by rw [h.calls, hLog]
        accounted := hAccounted
        answers := h.answers
        orphaned := ?_ }⟩
    intro i handler call c reply hFound hPhase hRequested hReply
    obtain ⟨c₀, hBefore, hRequest⟩ := hCalls hRequested
    rw [hRequest]
    exact h.orphaned i handler call c₀ reply hFound hPhase hBefore (hLog ▸ hReply)
  · refine ⟨serial ++ [.ofDealt d],
      { exchange := hExchange
        state := ?_
        finished := ?_
        calls := ?_
        accounted := ?_
        answers := ?_
        orphaned := ?_ }⟩
    · rw [serialState_append, h.state, List.foldl_cons, List.foldl_nil, SerialEvent.after_ofDealt, hServer]
    · rw [List.filterMap_append, h.finished]
      simp [SerialEvent.handler_ofDealt]
    · rw [List.filterMap_append, h.calls, hLog, List.filterMap_append]
      simp [SerialEvent.call_ofDealt, List.filterMap_cons]
    · intro e he
      rcases List.mem_append.mp he with hOld | hNew
      · exact hAccounted e hOld
      · rw [List.mem_singleton.mp hNew]
        cases d with
        | message msg => exact trivial
        | request caller serviceId newV4 =>
          obtain ⟨c, hFound, -⟩ := hExchange.asked caller serviceId newV4 (hLog ▸ by simp)
          obtain ⟨reply, hSending⟩ := hReplying caller rfl
          refine ⟨c, hFound, fun reply' hReturned => ?_⟩
          have hPlaced := hExchange.placed caller c hFound
          rw [Exchange.Placed, hReturned] at hPlaced
          exact hPlaced.2.2 reply hSending
    · intro i handler answer hFound hPhase
      obtain ⟨before, e, rest, rfl, hAdmits, hAnswer⟩ := h.answers i handler answer hFound hPhase
      exact ⟨before, e, rest ++ [.ofDealt d], by simp, hAdmits, hAnswer⟩
    · intro i handler call c reply hFound hPhase hRequested hReply
      rw [hLog, Server.answers_append] at hReply
      rcases List.mem_append.mp hReply with hOld | hNew
      · obtain ⟨c₀, hBefore, hRequest⟩ := hCalls hRequested
        rw [hRequest]
        obtain ⟨before, newV4, rest, rfl, hNone, hGiven⟩ :=
          h.orphaned i handler call c₀ reply hFound hPhase hBefore hOld
        refine ⟨before, newV4, rest ++ [.ofDealt d], by simp, fun e he => ?_, hGiven⟩
        rcases List.mem_append.mp he with hRest | hLast
        · exact hNone e hRest
        · rw [List.mem_singleton.mp hLast, SerialEvent.handler_ofDealt]
      · cases d with
        | message msg => cases hNew
        | request caller serviceId newV4 =>
          obtain ⟨rfl, rfl⟩ := Prod.mk.inj (List.mem_singleton.mp hNew)
          obtain ⟨c', hFound', hAsked⟩ := hExchange.asked call serviceId newV4 (hLog ▸ by simp)
          cases hRequested.symm.trans hFound'
          refine ⟨serial, newV4, [], by
            rw [hAsked, SerialEvent.ofDealt], fun e he => absurd he List.not_mem_nil, ?_⟩
          rw [h.state, hAsked, ← h.exchange.server]

/-- A step in which nothing is answered and the provider does nothing. -/
theorem frame (h : Serialized parseStr store s serial)
    (hExchange : t.exchange.Consistent (deviceIdProvider parseStr) store)
    (hLog : t.exchange.log = s.exchange.log) (hServer : t.exchange.server = s.exchange.server)
    (hAccounted : ∀ e : SerialEvent, e.Accounted s.exchange → e.Accounted t.exchange)
    (hAttempts : t.attempts = s.attempts) (hFinished : t.finished = s.finished)
    (hAnswered : ∀ (i : Nat) (d : Handler) (answer : PatchResult), t.handlers[i]? = some d →
      d.phase = .answered answer →
      s.handlers[i]? = some d)
    (hAwaiting : ∀ (i : Nat) (d : Handler) (call : Nat) (c : DeviceIdCall), t.handlers[i]? = some d →
      d.phase = .awaiting call → t.exchange.calls[call]? = some c →
        (s.handlers[i]? = some d ∧ s.exchange.calls[call]? = some c) ∨ call = s.exchange.calls.length) :
    Serialized parseStr store t serial where
  exchange := hExchange
  state := by rw [h.state, hAttempts, hServer]
  finished := by rw [h.finished, hFinished]
  calls := by rw [h.calls, hLog]
  accounted e he := hAccounted e (h.accounted e he)
  answers i d answer hFound hPhase := h.answers i d answer (hAnswered i d answer hFound hPhase) hPhase
  orphaned i d call c reply hFound hPhase hCall hReply := by
    rw [hLog] at hReply
    rcases hAwaiting i d call c hFound hPhase hCall with ⟨hOld, hOldCall⟩ | rfl
    · exact h.orphaned i d call c reply hOld hPhase hOldCall hReply
    · exact absurd (h.exchange.known _ (Channel.mem_history_of_received (h.exchange.mem_received hReply)))
        (Nat.lt_irrefl _)

theorem arrive (h : Serialized parseStr store s serial) (context : MutateContext) (review : AdmissionReview) :
    Serialized parseStr store { s with handlers := s.handlers ++ [⟨context, review, .arrived⟩] } serial := by
  refine h.frame h.exchange rfl rfl (fun _ => id) rfl rfl ?_ ?_
  · intro i d answer hFound hPhase
    rcases getElem?_concat_cases hFound with hOld | ⟨-, rfl⟩
    · exact hOld
    · cases hPhase
  · intro i d call c hFound hPhase hCall
    rcases getElem?_concat_cases hFound with hOld | ⟨-, rfl⟩
    · exact .inl ⟨hOld, hCall⟩
    · cases hPhase

theorem acquire (h : Serialized parseStr store s serial) (i : Nat) (d : Handler) :
    Serialized parseStr store { s with
      lock := some i, handlers := s.handlers.set i { d with phase := .locked } } serial := by
  refine h.frame h.exchange rfl rfl (fun _ => id) rfl rfl ?_ ?_
  · intro j e answer hFound hPhase
    rcases getElem?_set_cases hFound with ⟨-, rfl⟩ | ⟨-, hOld⟩
    · cases hPhase
    · exact hOld
  · intro j e call c hFound hPhase hCall
    rcases getElem?_set_cases hFound with ⟨-, rfl⟩ | ⟨-, hOld⟩
    · cases hPhase
    · exact .inl ⟨hOld, hCall⟩

theorem await (h : Serialized parseStr store s serial) (g : s.Guarded) {i : Nat} {d : Handler}
    (hFound : s.handlers[i]? = some d) (hLocked : d.phase = .locked) (serviceId : String) :
    Serialized parseStr store { s with
      exchange := { s.exchange with calls := s.exchange.calls ++ [.start serviceId] }
      handlers := s.handlers.set i { d with phase := .awaiting s.exchange.calls.length } } serial := by
  have hNext : DeviceIdExchange.next parseStr s.exchange (.call serviceId) =
      some { s.exchange with calls := s.exchange.calls ++ [.start serviceId] } := rfl
  refine h.frame (h.exchange.call serviceId) rfl rfl (fun e he => he.next hNext (by simp)) rfl rfl ?_ ?_
  · intro j e answer hOther hPhase
    rcases getElem?_set_cases hOther with ⟨-, rfl⟩ | ⟨-, hOld⟩
    · cases hPhase
    · exact hOld
  · intro j e call c hOther hPhase hCall
    rcases getElem?_set_cases hOther with ⟨-, rfl⟩ | ⟨hNe, hOld⟩
    · cases hPhase
      exact .inr rfl
    · exact absurd (g.unique hFound (by rw [hLocked]; exact trivial) hOld (holdsLock_of_awaiting hPhase)) hNe

theorem drop (h : Serialized parseStr store s serial) (g : s.Guarded) {i : Nat} {d : Handler}
    (hFound : s.handlers[i]? = some d) :
    Serialized parseStr store { s with
      exchange := abandon parseStr s.exchange d.phase
      lock := if s.lock = some i then none else s.lock
      handlers := s.handlers.set i { d with phase := .dropped } } serial := by
  have hSet : ∀ {j : Nat} {e : Handler}, (s.handlers.set i { d with phase := .dropped })[j]? = some e →
    e.phase ≠ .dropped → j ≠ i ∧ s.handlers[j]? = some e := by
    intro j e hOther hPhase
    rcases getElem?_set_cases hOther with ⟨-, rfl⟩ | hOld
    · exact absurd rfl hPhase
    · exact hOld
  rcases g.abandon_eq parseStr hFound with ⟨hSame, -⟩ | ⟨call, hAwaiting, hGiveUp⟩
  · rw [hSame]
    exact h.frame h.exchange rfl rfl (fun _ => id) rfl rfl
      (fun j e answer hOther hPhase => (hSet hOther (by simp [hPhase])).2)
      fun j e call c hOther hPhase hCall => .inl ⟨(hSet hOther (by simp [hPhase])).2, hCall⟩
  · obtain ⟨hLog, hServer⟩ := Exchange.same_next hGiveUp (by simp) (by simp)
    refine h.frame (h.exchange.next hGiveUp) hLog hServer (fun e he => he.next hGiveUp (by simp)) rfl rfl
      (fun j e answer hOther hPhase => (hSet hOther (by simp [hPhase])).2) fun j e call c hOther hPhase hCall => ?_
    -- the one that is dropped was the only one to wait
    obtain ⟨hNe, hOld⟩ := hSet hOther (by simp [hPhase])
    exact absurd (g.unique hFound (holdsLock_of_awaiting hAwaiting) hOld (holdsLock_of_awaiting hPhase)) hNe

/-- The admission comes last. -/
theorem append (h : Serialized parseStr store s serial) {i : Nat} {d : Handler} {exchange : DeviceIdExchange}
    {result : PatchResult × AttemptsStore} {e : SerialEvent}
    (g : (finish { s with exchange := exchange } i d result).Guarded)
    (hExchange : exchange.Consistent (deviceIdProvider parseStr) store) (hLog : exchange.log = s.exchange.log)
    (hAccounted : ∀ e : SerialEvent, e.Accounted s.exchange → e.Accounted exchange) (hAdmits : e.Admits i d)
    (hCall : e.call = none) (hNew : e.Accounted exchange)
    (hAfter : e.after parseStr ⟨s.attempts, s.exchange.server⟩ = ⟨result.2, exchange.server⟩)
    (hAnswer : (e.answer ⟨s.attempts, s.exchange.server⟩).map withoutText = some (withoutText result.1)) :
    Serialized parseStr store (finish { s with exchange := exchange } i d result) (serial ++ [e]) where
  exchange := hExchange
  state := by
    rw [serialState_append, h.state]
    exact hAfter
  finished := by
    rw [List.filterMap_append, h.finished, finish]
    simp [SerialEvent.handler_of_admits hAdmits]
  calls := by
    rw [List.filterMap_append, h.calls, List.filterMap_cons_none hCall, List.filterMap_nil,
      List.append_nil, finish, hLog]
  accounted e' he := by
    rcases List.mem_append.mp he with hOld | hLast
    · exact hAccounted e' (h.accounted e' hOld)
    · rw [List.mem_singleton.mp hLast]
      exact hNew
  answers j d' answer hOther hPhase := by
    rcases getElem?_set_cases hOther with ⟨rfl, rfl⟩ | ⟨-, hOld⟩
    · cases hPhase
      exact ⟨serial, e, [], rfl, hAdmits, by rw [h.state]; exact hAnswer⟩
    · obtain ⟨before, e', rest, rfl, hAdmits', hAnswer'⟩ := h.answers j d' answer hOld hPhase
      exact ⟨before, e', rest ++ [e], by simp, hAdmits', hAnswer'⟩
  orphaned j d' call c reply hOther hPhase := by
    cases g.held j d' hOther (holdsLock_of_awaiting hPhase)

theorem admits_mutate (d : Handler) (i : Nat) (call : Option Nat) (newV4 : Uuid) :
    (SerialEvent.admitted i call { d.context with newV4 := newV4 } d.review).Admits i d :=
      ⟨rfl, ⟨newV4, rfl⟩, rfl⟩

theorem finish (h : Serialized parseStr store s serial) (g : s.Guarded) {i : Nat} {d : Handler}
    {result : PatchResult × AttemptsStore} (hFound : s.handlers[i]? = some d) (hLocked : d.phase = .locked)
    (hDone : mutateProgress d.context d.review s.attempts = .done result) :
    Serialized parseStr store (s.finish i d result) (serial ++ [.admitted i none d.context d.review]) := by
  have hMutate : mutate d.context d.review ⟨s.attempts, s.exchange.server⟩ =
      (result.1, ⟨result.2, s.exchange.server⟩) := by
    rw [mutate_eq_complete, hDone]
    rfl
  refine h.append (g.finish hFound (by rw [hLocked]; exact trivial)
    (g.closed_of_locked hFound hLocked) result) h.exchange
    rfl (fun _ => id) (admits_mutate d i none d.context.newV4) rfl (fun _ hNone => by cases hNone) ?_ ?_
  · rw [SerialEvent.after, hMutate]
  · rw [SerialEvent.answer, hMutate]
    rfl

theorem timedOut (h : Serialized parseStr store s serial) (g : s.Guarded) {i call : Nat} {d : Handler}
    {exchange : DeviceIdExchange}
    {resume : Except SDPServiceError (ServiceIdentity × Uuid) → PatchResult × AttemptsStore} {c : DeviceIdCall}
    (hFound : s.handlers[i]? = some d) (hAwaiting : d.phase = .awaiting call)
    (hEnds : DeviceIdExchange.next parseStr s.exchange (.giveUp call) = some exchange)
    {c' : DeviceIdCall} (hEnded : exchange.calls[call]? = some c') (hState : c'.state = .gaveUp)
    (hAwaits : mutateProgress d.context d.review s.attempts = .awaits c.request resume) :
    Serialized parseStr store (ConcurrentInjector.finish { s with exchange := exchange } i d (resume (.error
      ("Error getting device id for service " ++ c.request ++ ": deadline has elapsed"))))
        (serial ++ [.timedOut i d.context d.review]) := by
  obtain ⟨hLog, hServer⟩ := Exchange.same_next hEnds (by simp) (by simp)
  refine h.append (g.finish hFound (holdsLock_of_awaiting hAwaiting)
    (g.closed_of_ending hFound hAwaiting (.inr rfl) hEnds) _)
    (h.exchange.next hEnds) hLog (fun e he => he.next hEnds (by simp)) ⟨rfl, rfl, rfl⟩
    rfl ⟨call, c', hEnded, hState⟩ ?_ ?_
  · rw [SerialEvent.after, mutateTimedOut, hAwaits, hServer]
  · rw [SerialEvent.answer, mutateTimedOut, hAwaits]
    rfl

variable (parseStr) in
/-- What the requester makes of the reply is what the store has, apart from the text of an error. -/
theorem mutate_of_reply {context : MutateContext} {review : AdmissionReview} {st : InjectorState} {serviceId : String}
    {resume : Except SDPServiceError (ServiceIdentity × Uuid) → PatchResult × AttemptsStore} {newV4 : Uuid}
    (hAwaits : mutateProgress context review st.attempts = .awaits serviceId resume)
    {result : Except SDPServiceError (ServiceIdentity × Uuid)} {c : DeviceIdCall}
    (hState : c.state = .returned ((deviceIdProvider parseStr).answer serviceId newV4 st.identities).1)
    (hResult : requested c = some result) :
    withoutText (mutate { context with newV4 := newV4 } review st).1 = withoutText (resume result).1 ∧
      (mutate { context with newV4 := newV4 } review st).2 =
        ⟨(resume result).2, (st.identities.popDeviceId newV4 serviceId).2⟩ := by
  obtain ⟨hSame, request, hError⟩ := mutateProgress_awaits hAwaits
  have hMutate : mutate { context with newV4 := newV4 } review st =
      ((resume (st.identities.popDeviceId newV4 serviceId).1).1,
        ⟨(resume (st.identities.popDeviceId newV4 serviceId).1).2,
          (st.identities.popDeviceId newV4 serviceId).2⟩) := by
    rw [mutate_eq_complete, hSame newV4]
    rfl
  rw [hMutate]
  cases hPop : (st.identities.popDeviceId newV4 serviceId).1 with
  | ok found =>
    have hReply := ((DeviceIdExchange.answer_eq parseStr serviceId newV4 st.identities).2 found.1 found.2).mpr hPop
    rw [hReply] at hState
    cases hResult.symm.trans (DeviceIdExchange.requested_ok.mpr hState)
    exact ⟨rfl, rfl⟩
  | error e =>
    obtain ⟨e', rfl⟩ : ∃ e', result = .error e' := by
      cases result with
      | error e' => exact ⟨e', rfl⟩
      | ok found =>
        have hReturned := DeviceIdExchange.requested_ok.mp hResult
        have hFound := ((DeviceIdExchange.answer_eq parseStr serviceId newV4 st.identities).2 found.1 found.2).mp
          (CallState.returned.inj (hState.symm.trans hReturned))
        cases hPop.symm.trans hFound
    obtain ⟨hText, hAttempts⟩ := counted_error (.pods request) (context.names 0) st.attempts e e'
    rw [← hError e, ← hError e'] at hText hAttempts
    exact ⟨hText, by rw [hAttempts]⟩

/-- A handler that gets its reply is admitted where the provider took its request. -/
theorem settle (h : Serialized parseStr store s serial) (g : s.Guarded) {i call : Nat} {d : Handler}
    {exchange : DeviceIdExchange} {serviceId : String}
    {resume : Except SDPServiceError (ServiceIdentity × Uuid) → PatchResult × AttemptsStore} {c : DeviceIdCall}
    {result : Except SDPServiceError (ServiceIdentity × Uuid)}
    (hFound : s.handlers[i]? = some d) (hAwaiting : d.phase = .awaiting call)
    (hEnds : DeviceIdExchange.next parseStr s.exchange (.receive call) = some exchange)
    (hEnded : exchange.calls[call]? = some c) (hResult : requested c = some result)
    (hAwaits : mutateProgress d.context d.review s.attempts = .awaits serviceId resume) :
    ∃ serial', Serialized parseStr store
      (ConcurrentInjector.finish { s with exchange := exchange } i d (resume result))
      serial' := by
  obtain ⟨hLog, hServer⟩ := Exchange.same_next hEnds (by simp) (by simp)
  have hGuarded := g.finish hFound (holdsLock_of_awaiting hAwaiting)
    (g.closed_of_ending hFound hAwaiting (.inl rfl) hEnds)
    (resume result)
  have hExchange := h.exchange.next hEnds
  obtain ⟨c₀, resume', hBefore, -, hAsked⟩ := g.awaits i d call hFound hAwaiting
  obtain ⟨rfl, rfl⟩ := Progress.awaits.inj (hAwaits.symm.trans hAsked)
  -- what the requester receives is the answer of the provider
  obtain ⟨reply, hReply, hState⟩ :
      ∃ reply, (call, reply) ∈ (deviceIdProvider parseStr).answers store s.exchange.log ∧
      c.state = .returned reply := by
    cases Exchange.moves_of_next hEnds with
    | receive hCall hReceive =>
      obtain ⟨reply, hAnswer, -, rfl⟩ := h.exchange.receive_cases hCall hReceive
      rw [List.getElem?_set_self (List.getElem?_eq_some_iff.mp hCall).1] at hEnded
      cases hEnded
      exact ⟨reply, hAnswer, rfl⟩
  obtain ⟨before, newV4, rest, rfl, hNone, rfl⟩ := h.orphaned i d call c₀ reply hFound hAwaiting hBefore hReply
  have hReached := h.state
  rw [serialState_append, List.foldl_cons, SerialEvent.after] at hReached
  let st := serialState parseStr store before
  obtain ⟨hStore, hSame⟩ := SerialEvent.foldl_after parseStr hNone
    { st with identities := (st.identities.popDeviceId newV4 c₀.request).2 } (resume result).2
  have hAttempts : st.attempts = s.attempts := by
    rw [hReached] at hSame
    exact hSame.symm
  rw [← hAttempts] at hAwaits
  obtain ⟨hText, hAfter⟩ := mutate_of_reply parseStr hAwaits hState hResult
  refine ⟨before ++ .admitted i (some call) { d.context with newV4 := newV4 } d.review :: rest,
    { exchange := hExchange
      state := ?_
      finished := ?_
      calls := ?_
      accounted := ?_
      answers := ?_
      orphaned := ?_ }⟩
  · rw [serialState_append, List.foldl_cons, SerialEvent.after, hAfter]
    refine hStore.trans ?_
    rw [hReached]
    exact congrArg (InjectorState.mk _) hServer.symm
  · have hEarlier := h.finished
    have hRest : rest.filterMap SerialEvent.handler = [] := List.filterMap_eq_nil_iff.mpr hNone
    rw [List.filterMap_append, List.filterMap_cons_none rfl, hRest, List.append_nil] at hEarlier
    have hHandler : (SerialEvent.admitted i (some call) { d.context with newV4 := newV4 } d.review).handler =
      some i := rfl
    rw [List.filterMap_append, List.filterMap_cons_some hHandler, hRest, hEarlier]
    rfl
  · have hCalls := h.calls
    rw [List.filterMap_append] at hCalls ⊢
    rw [ConcurrentInjector.finish, hLog, ← hCalls]
    rfl
  · -- the request is in the list once
    have hNodup := (List.nodup_append.mp h.exchange.nodup).1
    rw [h.exchange.callers_eq, ← h.calls, List.filterMap_append] at hNodup
    have hOnce : ∀ e ∈ before ++ rest, e.call ≠ some call := by
      intro e he hCall
      obtain ⟨-, hRest, hApart⟩ := List.nodup_append.mp hNodup
      rcases List.mem_append.mp he with hBefore | hAfter
      · exact hApart call (List.mem_filterMap.mpr ⟨e, hBefore, hCall⟩) call List.mem_cons_self rfl
      · exact (List.nodup_cons.mp hRest).1 (List.mem_filterMap.mpr ⟨e, hAfter, hCall⟩)
    intro e he
    have hOther : e ∈ before ++ rest → e.Accounted exchange := fun hMem =>
      (h.accounted e (by
        rcases List.mem_append.mp hMem with hBefore | hAfter
        · exact List.mem_append_left _ hBefore
        · exact List.mem_append_right _ (List.mem_cons_of_mem _ hAfter))).next hEnds fun k hEvent => by
          cases hEvent
          exact hOnce e hMem
    rcases List.mem_append.mp he with hBefore | hAfter
    · exact hOther (List.mem_append_left _ hBefore)
    · rcases List.mem_cons.mp hAfter with rfl | hRest
      · intro k hk
        cases hk
        exact ⟨c, _, hEnded, hState⟩
      · exact hOther (List.mem_append_right _ hRest)
  · intro j d' answer hOther hPhase
    rcases getElem?_set_cases hOther with ⟨rfl, rfl⟩ | ⟨-, hOld⟩
    · cases hPhase
      exact ⟨before, _, rest, rfl, admits_mutate d j (some call) newV4, congrArg some hText⟩
    · obtain ⟨before', e, rest', hSplit, hAdmits, hAnswer⟩ := h.answers j d' answer hOld hPhase
      -- the admissions that have answers are those before the request
      obtain ⟨between, rfl⟩ :=
        SerialEvent.split_admission hSplit (by rw [SerialEvent.handler_of_admits hAdmits]; rfl)
        (List.forall_mem_cons.mpr ⟨rfl, hNone⟩)
      exact ⟨before', e, _, by rw [List.append_assoc]; rfl, hAdmits, hAnswer⟩
  · intro j d' call' c' reply' hOther hPhase
    cases hGuarded.held j d' hOther (holdsLock_of_awaiting hPhase)

theorem moves (h : Serialized parseStr store s serial) (g : s.Guarded) (hMoves : Moves parseStr s t) :
    ∃ serial', Serialized parseStr store t serial' := by
  cases hMoves with
  | arrive context review => exact ⟨serial, h.arrive context review⟩
  | @acquire i d => exact ⟨serial, h.acquire i d⟩
  | finish hFound hLocked hDone => exact ⟨_, h.finish g hFound hLocked hDone⟩
  | await hFound hLocked hAwaits => exact ⟨serial, h.await g hFound hLocked _⟩
  | @settle i call d event exchange serviceId resume c result hFound hAwaiting hEnding hEnds hEnded hResult hAwaits =>
    rcases hEnding with rfl | rfl
    · exact h.settle g hFound hAwaiting hEnds hEnded hResult hAwaits
    · obtain ⟨c₀, resume', hBefore, -, hAsked⟩ := g.awaits i d call hFound hAwaiting
      obtain ⟨rfl, rfl⟩ := Progress.awaits.inj (hAwaits.symm.trans hAsked)
      -- the requester that gives up is told so
      obtain ⟨hRequest, hState⟩ : c.request = c₀.request ∧ c.state = .gaveUp := by
        cases Exchange.moves_of_next hEnds with
        | giveUp hCall hGiveUp =>
          cases hCall.symm.trans hBefore
          rw [List.getElem?_set_self (List.getElem?_eq_some_iff.mp hCall).1] at hEnded
          cases hEnded
          exact ⟨(Call.request_of_giveUp hGiveUp).1, (Call.request_of_giveUp hGiveUp).2.2⟩
      rw [requested, hState, hRequest] at hResult
      cases hResult
      exact ⟨_, h.timedOut g hFound hAwaiting hEnds hEnded hState hAwaits⟩
  | drop hFound hRuns => exact ⟨serial, h.drop g hFound⟩
  | exchange step hNext =>
    exact h.deal hNext (fun serviceId => by cases step <;> simp [ProviderStep.event])
      fun k => by cases step <;> simp [ProviderStep.event]

end Serialized

theorem Reachable.serialized (h : Reachable parseStr store s) : s.Guarded ∧
    ∃ serial, Serialized parseStr store s serial := by
  refine Steps.invariant (fun s => s.Guarded ∧ ∃ serial, Serialized parseStr store s serial) ?_ h
    ⟨guarded_start store, [], .start⟩
  rintro s event t ⟨g, serial, hSerial⟩ - hNext
  have hMoves := moves_of_next hNext
  exact ⟨g.moves hMoves, hSerial.moves g hMoves⟩

/-- Whatever is handled at the same time, the counters and the store are what some order of single events makes of them:
admissions by `mutate`, those that gave up their request, what the watcher finds, and requests without a requester.
Every handler that has answered is in it once, in the order of the answers, with the answer that it has given, apart
from the texts of errors, and every request once, in the order in which the provider took them. -/
theorem admissions_serializable (h : Reachable parseStr store s) :
    ∃ serial : List SerialEvent,
      serialState parseStr store serial = ⟨s.attempts, s.exchange.server⟩ ∧
      serial.filterMap SerialEvent.handler = s.finished ∧ s.finished.Nodup ∧
      serial.filterMap SerialEvent.call = s.exchange.queue.received ∧ (∀ e ∈ serial, e.Accounted s.exchange) ∧
      ∀ (i : Nat) (d : Handler) (answer : PatchResult), s.handlers[i]? = some d → d.phase = .answered answer →
        ∃ before event rest, serial = before ++ event :: rest ∧ event.Admits i d ∧
          (event.answer (serialState parseStr store before)).map withoutText = some (withoutText answer) := by
  obtain ⟨g, serial, hSerial⟩ := h.serialized
  exact ⟨serial, hSerial.state, hSerial.finished, g.nodup, hSerial.calls.trans hSerial.exchange.callers_eq.symm,
    hSerial.accounted, hSerial.answers⟩

/-- Two pods of a service with one id in the pool, where the second one gives up after the provider took its request. -/
def sampleAdmissions : List Event :=
  let context : MutateContext :=
    ⟨fun _ => sampleUuid, sampleUuid, SDPPod.sampleSdpPod, some "6.6", fun _ => .ok none⟩
  let review : AdmissionReview := .inl (.pods sampleNamedRequest)
  [.arrive context review, .arrive context review, .acquire 0, .proceed 0, .exchange (.send 0),
    .exchange (.take DeviceIdExchange.sampleDrawn), .exchange .reply, .resume 0,
    .acquire 1, .proceed 1, .exchange (.send 1),
    .exchange (.take DeviceIdExchange.sampleDrawn), .timeout 1]

def sampleInjector (n : Nat) : ConcurrentInjector :=
  runD (next parseCanonical) (start sampleStore) (sampleAdmissions.take n)

theorem reachable_sampleInjector (n : Nat)
    (h : (run (next parseCanonical) (start sampleStore) (sampleAdmissions.take n)).isSome = true) :
    Reachable parseCanonical sampleStore (sampleInjector n) :=
  Steps.of_runD _ (Admits.of_forall (fun _ _ _ => trivial) _) h

theorem admissions_serializable_sample : ∃ serial : List SerialEvent,
    serialState parseCanonical sampleStore serial = ⟨(sampleInjector 13).attempts,
      (sampleInjector 13).exchange.server⟩ ∧
      serial.filterMap SerialEvent.handler = [0, 1] ∧ serial.filterMap SerialEvent.call = [0, 1] := by
  have hFinished : (sampleInjector 13).finished = [0, 1] := by decide +kernel
  have hReceived : (sampleInjector 13).exchange.queue.received = [0, 1] := by decide +kernel
  obtain ⟨serial, hState, hHandlers, -, hCalls, -⟩ :=
    admissions_serializable (reachable_sampleInjector 13 (by decide +kernel))
  exact ⟨serial, hState, hHandlers.trans hFinished, hCalls.trans hReceived⟩

/-- No two handlers are past the lock, so that no two requests are waited for. Every other request in the channel is of
a requester that has left, and the one that is waited for can be sent unless they are fifty. -/
theorem one_request_at_a_time (h : Reachable parseStr store s) :
    (∀ (i j : Nat) (d d' : Handler), s.handlers[i]? = some d → s.handlers[j]? = some d' → d.phase.HoldsLock →
      d'.phase.HoldsLock → i = j) ∧
    (∀ (call call' : Nat) (c c' : DeviceIdCall), s.exchange.calls[call]? = some c →
      s.exchange.calls[call']? = some c' →
      c.IsOpen → c'.IsOpen → call = call') ∧
    ∀ (call : Nat) (c : DeviceIdCall), s.exchange.calls[call]? = some c → c.state = .sending →
      (∀ k ∈ s.exchange.queue.pending, ∃ c', s.exchange.calls[k]? = some c' ∧ c'.state = .gaveUp) ∧
      (s.exchange.queue.pending.length < deviceIdChannelSize →
        (next parseStr s (.exchange (.send call))).isSome = true) := by
  obtain ⟨g, serial, hSerial⟩ := h.serialized
  have hExchange := hSerial.exchange
  have hOne : ∀ (call call' : Nat) (c c' : DeviceIdCall), s.exchange.calls[call]? = some c →
      s.exchange.calls[call']? = some c' → c.IsOpen → c'.IsOpen → call = call' := by
    intro call call' c c' hCall hCall' hOpen hOpen'
    obtain ⟨i, d, hFound, hPhase⟩ := g.lonely call c hCall hOpen
    obtain ⟨j, d', hFound', hPhase'⟩ := g.lonely call' c' hCall' hOpen'
    obtain rfl := g.unique hFound (holdsLock_of_awaiting hPhase) hFound' (holdsLock_of_awaiting hPhase')
    cases hFound.symm.trans hFound'
    cases hPhase.symm.trans hPhase'
    rfl
  refine ⟨fun i j d d' hFound hFound' hHolds hHolds' => (g.unique hFound hHolds hFound' hHolds').symm, hOne, ?_⟩
  intro call c hCall hSending
  refine ⟨fun k hPending => ?_, fun hRoom => ?_⟩
  · have hSent : k ∈ s.exchange.queue.history := Channel.mem_history_of_pending hPending
    obtain ⟨c', hFound⟩ : ∃ c', s.exchange.calls[k]? = some c' :=
      ⟨_, List.getElem?_eq_getElem (hExchange.known k hSent)⟩
    refine ⟨c', hFound, ?_⟩
    have hPlaced := hExchange.placed k c' hFound
    unfold Exchange.Placed at hPlaced
    cases hState : c'.state with
    | sending =>
      rw [hState] at hPlaced
      exact absurd hSent hPlaced.1
    | waiting =>
      obtain rfl := hOne call k c c' hCall hFound (.inl hSending) (.inr hState)
      cases hCall.symm.trans hFound
      cases hSending.symm.trans hState
    | returned reply =>
      rw [hState] at hPlaced
      exact absurd hPending (hExchange.not_pending hPlaced.1)
    | gaveUp => rfl
  · simp [next, ProviderStep.event, DeviceIdExchange.next, Exchange.next, Exchange.advance,
      hCall, Call.sent, hSending, hRoom]

theorem one_request_at_a_time_sample :
    (next parseCanonical (sampleInjector 10) (.exchange (.send 1))).isSome = true := by
  have hCall : (sampleInjector 10).exchange.calls[1]? = some (.start "ns_web") := by decide +kernel
  exact ((one_request_at_a_time (reachable_sampleInjector 10 (by decide +kernel))).2.2 1 _ hCall rfl).2
    (by decide +kernel)

end ConcurrentInjector

end SdpK8sInjector.Injector
