import SdpK8sInjector.IdentityService.Startup
import SdpK8sInjector.Lib.Merge
import Mathlib.Algebra.Order.BigOperators.Group.Finset

/-! # The startup barrier

Three producers send their reports through one queue, each of them announcing
itself after its last report. The manager reconciles once all three have done so,
and by then the reports are in, in whatever order they were merged.
-/

namespace SdpK8sInjector.IdentityService

open Lib Common ServiceCredentialsProvider

inductive Producer where
  | deploymentWatcher
  | sdpServiceWatcher
  | identityCreator
deriving DecidableEq

instance : Fintype Producer where
  elems := {.deploymentWatcher, .sdpServiceWatcher, .identityCreator}
  complete p := by cases p <;> decide

theorem Producer.sum_eq (f : Producer → Nat) :
    ∑ p, f p = f .deploymentWatcher + f .sdpServiceWatcher + f .identityCreator := by
  change ∑ p ∈ {.deploymentWatcher, .sdpServiceWatcher, .identityCreator}, f p = _
  simp [add_assoc]

/-- What is found at startup. -/
structure Findings where
  deployments : List ServiceCandidate
  sdpServices : List ServiceCandidate
  users : List (ServiceUser × Bool)

namespace Findings

def announcement : Producer → IdentityManagerProtocol
  | .deploymentWatcher | .sdpServiceWatcher => .deploymentWatcherReady
  | .identityCreator => .identityCreatorReady

variable (found : Findings)

def reports : Producer → List IdentityManagerProtocol
  | .deploymentWatcher => found.deployments.map .foundServiceCandidate
  | .sdpServiceWatcher => found.sdpServices.map .foundServiceCandidate
  | .identityCreator => found.users.map fun u => .foundServiceUser u.1 u.2

/-- All that a producer sends before the manager is ready. -/
def stream (p : Producer) : List IdentityManagerProtocol := found.reports p ++ [announcement p]

def candidates : List ServiceCandidate := found.deployments ++ found.sdpServices

/-- No service is reported by both watchers. -/
def Disjoint : Prop :=
  ∀ c ∈ found.deployments, ∀ c' ∈ found.sdpServices, ∀ id,
    MaybeService.serviceId c = .ok id → MaybeService.serviceId c' ≠ .ok id

end Findings

/-- The manager, what its producers have still to send, and what they have sent. -/
structure Gathering where
  manager : IdentityManager
  unsent : Producer → List IdentityManagerProtocol
  arrived : List (Producer × IdentityManagerProtocol)

namespace Gathering

open IdentityManager (handle Startup Recorded)

inductive Event where
  | send (p : Producer)
  | release (lookup : ServiceLookup) (uuid : Uuid)
  | handle (order : IterationOrder)

variable (outcomes : Nat → CallOutcome)

def next (s : Gathering) : Event → Option Gathering
  | .send p =>
    match s.unsent p with
    | [] => none
    | msg :: rest => some {
        manager := s.manager.sendToSelf msg
        unsent := Function.update s.unsent p rest
        arrived := s.arrived ++ [(p, msg)] }
  | .release lookup uuid => some { s with manager := s.manager.sendToSelf (.releaseDeviceId lookup uuid) }
  | .handle order => (s.manager.next outcomes (.handle order)).map fun manager => { s with manager := manager }

/-- Nothing is sent yet. -/
def started (clusterId : String) (stored : List ServiceIdentity) (found : Findings) : Gathering :=
  ⟨.restored clusterId stored, found.stream, []⟩

def Reachable (clusterId : String) (stored : List ServiceIdentity) (found : Findings) : Gathering → Prop :=
  Steps (next outcomes) (fun _ _ => True) (started clusterId stored found)

abbrev queue (s : Gathering) : Channel IdentityManagerProtocol := s.manager.identityManagerQueue

/-- Neither from the watcher of the pods nor from the manager itself. -/
def isProduced : IdentityManagerProtocol → Bool
  | .releaseDeviceId _ _ | .identityManagerReady => false
  | _ => true

/-- Both flags are up. -/
def Gathered (m : IdentityManager) : Prop := m.deploymentWatchersReady = N_WATCHERS ∧ m.identityCreatorReady = true

instance : DecidablePred Gathered := fun _ => inferInstanceAs (Decidable (_ ∧ _))

/-- Bookkeeping of what has been sent and handled. -/
structure Accounted (found : Findings) (s : Gathering) : Prop where
  streams : ∀ p, projection p s.arrived ++ s.unsent p = found.stream p
  arrived : s.arrived.map Prod.snd = s.queue.history.filter isProduced
  watchers : s.manager.deploymentWatchersReady = UInt8.ofNat (s.queue.received.count .deploymentWatcherReady)
  creator : s.manager.identityCreatorReady = true ↔ .identityCreatorReady ∈ s.queue.received
  ready : s.queue.history.count .identityManagerReady = if Gathered s.manager then 1 else 0

section Accounting

variable {outcomes} {found : Findings} {s : Gathering}

/-- What of each stream has been handled, and what is sent or unsent. -/
theorem Accounted.split (h : Accounted found s) :
    ∃ done waiting, s.arrived = done ++ waiting ∧ done.map Prod.snd = s.queue.received.filter isProduced ∧
      waiting.map Prod.snd = s.queue.pending.filter isProduced ∧
      ∀ p, projection p done ++ (projection p waiting ++ s.unsent p) = found.stream p := by
  have hArrived := h.arrived
  rw [Channel.history, List.filter_append] at hArrived
  obtain ⟨done, waiting, hSplit, hDone, hWaiting⟩ := List.map_eq_append_iff.mp hArrived
  refine ⟨done, waiting, hSplit, hDone, hWaiting, fun p => ?_⟩
  rw [← List.append_assoc, ← projection_append, ← hSplit]
  exact h.streams p

theorem announcement_notMem (p q : Producer) : Findings.announcement q ∉ found.reports p := by
  cases p <;> cases q <;> simp [Findings.reports, Findings.announcement]

variable (found) in
theorem count_announcement (p q : Producer) :
    (found.stream p).count (Findings.announcement q) =
      if Findings.announcement p = Findings.announcement q then 1 else 0 := by
  rw [Findings.stream, List.count_append, List.count_eq_zero.mpr (announcement_notMem p q), Nat.zero_add,
    List.count_singleton]
  simp only [beq_iff_eq]

theorem creatorReady_mem_stream {p : Producer} (h : .identityCreatorReady ∈ found.stream p) :
    p = .identityCreator := by
  cases p <;> simp [Findings.stream, Findings.reports, Findings.announcement] at h ⊢

theorem count_done {done : List (Producer × IdentityManagerProtocol)}
    (h : done.map Prod.snd = s.queue.received.filter isProduced) :
    s.queue.received.count .deploymentWatcherReady = ∑ p, (projection p done).count .deploymentWatcherReady := by
  rw [← count_merged, h, List.count_filter rfl]

theorem count_projection_le {p : Producer} {done : List (Producer × IdentityManagerProtocol)}
    {rest : List IdentityManagerProtocol} (h : projection p done ++ rest = found.stream p) (q : Producer) :
    (projection p done).count (Findings.announcement q) ≤
      if Findings.announcement p = Findings.announcement q then 1 else 0 := by
  rw [← count_announcement found, ← h, List.count_append]
  exact Nat.le_add_right _ _

theorem Accounted.count_history (h : Accounted found s) (q : Producer) :
    s.queue.history.count (Findings.announcement q) ≤
      ∑ p, if Findings.announcement p = Findings.announcement q then 1 else 0 := by
  have hProduced : isProduced (Findings.announcement q) = true := by cases q <;> rfl
  have hCount : s.queue.history.count (Findings.announcement q) =
      ∑ p, (projection p s.arrived).count (Findings.announcement q) := by
    rw [← count_merged, h.arrived, List.count_filter hProduced]
  rw [hCount]
  exact Finset.sum_le_sum fun p _ => count_projection_le (h.streams p) q

/-- Two watchers and one creator announce themselves. -/
theorem Accounted.watchers_le (h : Accounted found s) : s.queue.history.count .deploymentWatcherReady ≤ 2 :=
  h.count_history .deploymentWatcher

theorem Accounted.creator_le (h : Accounted found s) : s.queue.history.count .identityCreatorReady ≤ 1 :=
  h.count_history .identityCreator

theorem Accounted.received_le (h : Accounted found s) : s.queue.received.count .deploymentWatcherReady ≤ 2 := by
  have hHistory := h.watchers_le
  rw [Channel.history, List.count_append] at hHistory
  omega

theorem ofNat_eq_watchers {n : Nat} (hLe : n ≤ 2) : UInt8.ofNat n = N_WATCHERS ↔ n = 2 := by
  obtain rfl | rfl | rfl : n = 0 ∨ n = 1 ∨ n = 2 := by omega
  all_goals decide

/-- Once both flags are up, every stream has been handled to its end. -/
theorem Accounted.complete (h : Accounted found s) (hGathered : Gathered s.manager) :
    ∃ done, done.map Prod.snd = s.queue.received.filter isProduced ∧
      (∀ p, projection p done = found.stream p) ∧ (∀ p, s.unsent p = []) ∧
      ∀ x ∈ s.queue.pending, isProduced x = false := by
  obtain ⟨done, waiting, _, hDone, hWaiting, hStreams⟩ := h.split
  have hTwo : s.queue.received.count .deploymentWatcherReady = 2 :=
    (ofNat_eq_watchers h.received_le).mp (h.watchers.symm.trans hGathered.1)
  rw [count_done hDone, Producer.sum_eq] at hTwo
  have hEach := fun p => count_projection_le (hStreams p) .deploymentWatcher
  have h₁ := hEach .deploymentWatcher
  have h₂ := hEach .sdpServiceWatcher
  have h₃ := hEach .identityCreator
  simp only [Findings.announcement, reduceCtorEq, if_false, if_true] at h₁ h₂ h₃
  have hAnnounced : ∀ p, Findings.announcement p ∈ projection p done := by
    intro p
    cases p with
    | identityCreator =>
      have hMem : .identityCreatorReady ∈ done.map Prod.snd := by
        rw [hDone, List.mem_filter]
        exact ⟨h.creator.mp hGathered.2, rfl⟩
      obtain ⟨⟨q, x⟩, hArrived, rfl⟩ := List.mem_map.mp hMem
      have hStream : .identityCreatorReady ∈ found.stream q := by
        rw [← hStreams q]
        exact List.mem_append_left _ (mem_projection.mpr hArrived)
      obtain rfl := creatorReady_mem_stream hStream
      exact mem_projection.mpr hArrived
    | deploymentWatcher | sdpServiceWatcher =>
      refine List.count_pos_iff.mp ?_
      simp only [Findings.announcement]
      omega
  have hWhole := fun p => prefix_complete (hStreams p) (announcement_notMem p p) (hAnnounced p)
  refine ⟨done, hDone, fun p => (hWhole p).1, fun p => (List.append_eq_nil_iff.mp (hWhole p).2).2, fun x hx => ?_⟩
  by_contra hProduced
  have hMem : x ∈ waiting.map Prod.snd := by
    rw [hWaiting, List.mem_filter]
    exact ⟨hx, by simpa using hProduced⟩
  obtain ⟨⟨q, y⟩, hArrived, rfl⟩ := List.mem_map.mp hMem
  have hNone : projection q waiting = [] := (List.append_eq_nil_iff.mp (hWhole q).2).1
  exact absurd (mem_projection.mpr hArrived) (by simp [hNone])

theorem Accounted.started (clusterId : String) (stored : List ServiceIdentity) (found : Findings) :
    Accounted found (started clusterId stored found) := by
  obtain ⟨provider, hRestored⟩ := IdentityManager.restored_frame clusterId stored
  refine ⟨fun p => rfl, ?_, ?_, ?_, ?_⟩ <;> simp only [Gathering.started, queue, hRestored]
  · rfl
  · rfl
  · exact ⟨fun h => absurd h Bool.false_ne_true, fun h => absurd h List.not_mem_nil⟩
  · exact (if_neg fun h : Gathered _ => absurd h.2 Bool.false_ne_true).symm

theorem Accounted.sent (h : Accounted found s) {p : Producer} {msg : IdentityManagerProtocol}
    {rest : List IdentityManagerProtocol} (hUnsent : s.unsent p = msg :: rest) :
    Accounted found ⟨s.manager.sendToSelf msg, Function.update s.unsent p rest, s.arrived ++ [(p, msg)]⟩ := by
  have hMem : msg ∈ found.stream p := by
    rw [← h.streams p, hUnsent]
    exact List.mem_append_right _ List.mem_cons_self
  have hProduced : isProduced msg = true := by
    cases p <;> simp only [Findings.stream, Findings.reports, Findings.announcement, List.mem_append, List.mem_map,
      List.mem_singleton] at hMem <;> rcases hMem with ⟨_, _, rfl⟩ | rfl <;> rfl
  refine ⟨fun q => ?_, ?_, h.watchers, h.creator, ?_⟩
  · by_cases hq : p = q
    · subst hq
      simp [← h.streams p, hUnsent]
    · simp [← h.streams q, hq, Function.update_of_ne (Ne.symm hq)]
  · change _ = (s.queue.send msg).history.filter isProduced
    rw [List.map_append, h.arrived, Channel.history_send, List.filter_append]
    simp [hProduced]
  · change (s.queue.send msg).history.count .identityManagerReady = if Gathered s.manager then 1 else 0
    have hOther : .identityManagerReady ∉ [msg] := by
      intro hMsg
      rw [← List.mem_singleton.mp hMsg] at hProduced
      cases hProduced
    rw [Channel.history_send, List.count_append, List.count_eq_zero.mpr hOther, ← h.ready, Nat.add_zero]

theorem Accounted.released (h : Accounted found s) (lookup : ServiceLookup) (uuid : Uuid) :
    Accounted found { s with manager := s.manager.sendToSelf (.releaseDeviceId lookup uuid) } := by
  refine ⟨h.streams, ?_, h.watchers, h.creator, ?_⟩
  · change _ = (s.queue.send _).history.filter isProduced
    rw [h.arrived, Channel.history_send, List.filter_append]
    simp [isProduced]
  · change (s.queue.send _).history.count .identityManagerReady = if Gathered s.manager then 1 else 0
    rw [Channel.history_send, List.count_append, ← h.ready]
    rfl

theorem Accounted.mem_stream (h : Accounted found s) {msg : IdentityManagerProtocol} (hMem : msg ∈ s.queue.history)
    (hProduced : isProduced msg = true) : ∃ p, msg ∈ found.stream p := by
  have hArrived : msg ∈ s.arrived.map Prod.snd := by
    rw [h.arrived, List.mem_filter]
    exact ⟨hMem, hProduced⟩
  obtain ⟨⟨p, x⟩, hSent, rfl⟩ := List.mem_map.mp hArrived
  refine ⟨p, ?_⟩
  rw [← h.streams p]
  exact List.mem_append_left _ (mem_projection.mpr hSent)

/-- The messages that the manager handles at startup. -/
theorem Accounted.kinds (h : Accounted found s) {msg : IdentityManagerProtocol} (hMem : msg ∈ s.queue.history) :
    IdentityManager.isStartup msg = true ∨ msg = .identityManagerReady := by
  cases hProduced : isProduced msg with
  | true =>
    obtain ⟨p, hStream⟩ := h.mem_stream hMem hProduced
    left
    cases p <;> simp only [Findings.stream, Findings.reports, Findings.announcement, List.mem_append, List.mem_map,
      List.mem_singleton] at hStream <;> rcases hStream with ⟨_, _, rfl⟩ | rfl <;> rfl
  | false =>
    cases msg with
    | releaseDeviceId lookup uuid => exact .inl rfl
    | identityManagerReady => exact .inr rfl
    | _ => cases hProduced

theorem selfSent_ready {msg x : IdentityManagerProtocol} {m : IdentityManager}
    (hKind : IdentityManager.isStartup msg = true ∨ msg = .identityManagerReady) (hx : x ∈ m.selfSent msg) :
    x = .identityManagerReady ∧ (msg = .identityCreatorReady ∨ msg = .deploymentWatcherReady) := by
  cases IdentityManager.tellsItself_of_mem hx with
  | creatorReady hWatchers => exact ⟨rfl, .inl rfl⟩
  | watcherReady hWatchers hCreator => exact ⟨rfl, .inr rfl⟩
  | deleted candidate identity hCandidate hIdentity => rcases hKind with hKind | hKind <;> cases hKind

/-- The manager tells itself that it is ready when the second flag goes up. -/
theorem Accounted.announces (h : Accounted found s) {msg : IdentityManagerProtocol}
    {rest : List IdentityManagerProtocol}
    (hPending : s.queue.pending = msg :: rest) {m : IdentityManager}
    (hSameWatchers : m.deploymentWatchersReady = s.manager.deploymentWatchersReady)
    (hSameCreator : m.identityCreatorReady = s.manager.identityCreatorReady) (order : IterationOrder) :
    (if Gathered s.manager then 1 else 0) + (m.selfSent msg).count .identityManagerReady =
      if Gathered (handle outcomes order msg m) then 1 else 0 := by
  have hSplit : s.queue.history = s.queue.received ++ msg :: rest := by rw [Channel.history, hPending]
  have hWatchers := IdentityManager.handle_watchersReady outcomes order msg m
  have hCreator := IdentityManager.handle_creatorReady outcomes order msg m
  rw [hSameWatchers] at hWatchers
  rw [hSameCreator] at hCreator
  by_cases hMsgCreator : msg = .identityCreatorReady
  · -- the creator has not announced itself before
    have hNot : s.manager.identityCreatorReady ≠ true := by
      have hOnce := h.creator_le
      rw [hSplit, List.count_append, hMsgCreator, List.count_cons_self] at hOnce
      rw [ne_eq, h.creator]
      exact List.count_eq_zero.mp (by omega)
    have hBefore : ¬Gathered s.manager := fun hGathered => hNot hGathered.2
    rw [if_neg hBefore, Nat.zero_add]
    simp only [hMsgCreator, reduceCtorEq, if_false, or_true, iff_true] at hWatchers hCreator
    simp only [Gathered, hMsgCreator, hWatchers, hCreator, and_true, IdentityManager.selfSent, hSameWatchers]
    split <;> rfl
  · by_cases hMsgWatcher : msg = .deploymentWatcherReady
    · -- at most one watcher has
      have hLess : s.queue.received.count .deploymentWatcherReady ≤ 1 := by
        have hTwice := h.watchers_le
        rw [hSplit, List.count_append, hMsgWatcher, List.count_cons_self] at hTwice
        omega
      have hBefore : ¬Gathered s.manager := by
        rintro ⟨hBoth, _⟩
        have hTwo := (ofNat_eq_watchers h.received_le).mp (h.watchers.symm.trans hBoth)
        omega
      rw [if_neg hBefore, Nat.zero_add]
      simp only [hMsgWatcher, reduceCtorEq, if_true, or_false] at hWatchers hCreator
      simp only [Gathered, hMsgWatcher, hWatchers, hCreator, IdentityManager.selfSent, hSameWatchers, hSameCreator]
      split <;> rfl
    · have hNothing : m.selfSent msg = [] := by
        refine List.eq_nil_iff_forall_not_mem.mpr fun x hx => ?_
        have hMem : msg ∈ s.queue.history := Channel.mem_history_of_pending (hPending ▸ List.mem_cons_self)
        exact (selfSent_ready (h.kinds hMem) hx).2.elim hMsgCreator hMsgWatcher
      rw [if_neg hMsgWatcher] at hWatchers
      rw [or_iff_left hMsgCreator] at hCreator
      rw [hNothing, List.count_nil, Nat.add_zero]
      exact if_congr (by rw [Gathered, Gathered, hWatchers, hCreator]) rfl rfl

theorem Accounted.handled (h : Accounted found s) {msg : IdentityManagerProtocol}
    {queue : Channel IdentityManagerProtocol}
    (hRecv : s.queue.recv = some (msg, queue)) (order : IterationOrder) :
    Accounted found { s with manager := handle outcomes order msg { s.manager with
      identityManagerQueue := queue } } := by
  have hHistory : queue.history = s.queue.history := Channel.history_recv hRecv
  obtain ⟨rest, hPending, rfl⟩ := Channel.recv_eq_some.mp hRecv
  let m : IdentityManager := { s.manager with identityManagerQueue := ⟨s.queue.received ++ [msg], rest⟩ }
  have hQueue : (handle outcomes order msg m).identityManagerQueue = m.identityManagerQueue.sendAll (m.selfSent msg) :=
    IdentityManager.handle_queue outcomes order msg m
  have hReceived : (handle outcomes order msg m).identityManagerQueue.received = s.queue.received ++ [msg] := by
    rw [hQueue]
    rfl
  have hSent : (handle outcomes order msg m).identityManagerQueue.history = s.queue.history ++ m.selfSent msg := by
    rw [hQueue, Channel.history_sendAll]
    exact congrArg (· ++ m.selfSent msg) hHistory
  have hMem : msg ∈ s.queue.history := Channel.mem_history_of_pending (hPending ▸ List.mem_cons_self)
  have hWatchers : (handle outcomes order msg m).deploymentWatchersReady =
      if msg = .deploymentWatcherReady then s.manager.deploymentWatchersReady + 1
      else s.manager.deploymentWatchersReady := IdentityManager.handle_watchersReady outcomes order msg m
  have hCreator : (handle outcomes order msg m).identityCreatorReady = true ↔
      s.manager.identityCreatorReady = true ∨ msg = .identityCreatorReady :=
    IdentityManager.handle_creatorReady outcomes order msg m
  refine ⟨h.streams, ?_, ?_, ?_, ?_⟩
  · change _ = (handle outcomes order msg m).identityManagerQueue.history.filter isProduced
    rw [hSent, List.filter_append, ← h.arrived, List.filter_eq_nil_iff.mpr, List.append_nil]
    exact fun x hx => by simp [(selfSent_ready (h.kinds hMem) hx).1, isProduced]
  · change (handle outcomes order msg m).deploymentWatchersReady =
      UInt8.ofNat ((handle outcomes order msg m).identityManagerQueue.received.count .deploymentWatcherReady)
    rw [hWatchers, hReceived, List.count_append, List.count_singleton, h.watchers]
    by_cases hWatcher : msg = .deploymentWatcherReady <;> simp [hWatcher]
  · change (handle outcomes order msg m).identityCreatorReady = true ↔
      .identityCreatorReady ∈ (handle outcomes order msg m).identityManagerQueue.received
    rw [hCreator, hReceived, List.mem_append, List.mem_singleton, h.creator, eq_comm (a := msg)]
  · change (handle outcomes order msg m).identityManagerQueue.history.count .identityManagerReady =
      if Gathered (handle outcomes order msg m) then 1 else 0
    rw [hSent, List.count_append, h.ready]
    exact h.announces hPending (m := m) rfl rfl order

theorem Accounted.step (h : Accounted found s) {event : Event} {t : Gathering}
    (hNext : next outcomes s event = some t) :
    Accounted found t := by
  cases event with
  | send p =>
    simp only [next] at hNext
    split at hNext
    · cases hNext
    · cases hNext
      exact h.sent ‹_›
  | release lookup uuid =>
    cases hNext
    exact h.released lookup uuid
  | handle order =>
    obtain ⟨manager, hManager, rfl⟩ := Option.map_eq_some_iff.mp hNext
    obtain ⟨⟨msg, queue⟩, hRecv, rfl⟩ := Option.map_eq_some_iff.mp hManager
    exact h.handled hRecv order

end Accounting

end Gathering

end SdpK8sInjector.IdentityService
