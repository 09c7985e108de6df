import SdpK8sInjector.IdentityService.Processes
import SdpK8sInjector.IdentityService.Startup

/-! # Which users the manager knows of when it reconciles

The creator announces that it is ready after all the users it has found, and the
queue keeps the order. So the manager has every report when it reconciles. What
was never reported is in neither of its two sets.
-/

namespace SdpK8sInjector.IdentityService.Processes

open Lib Common IdentityManager
open IdentityCreator (recoveredUsers)

variable {outcomes : Nat → CallOutcome} {env : Surroundings}

/-- The messages of the creator in the order in which they are sent, up to those that still wait in the outbox. -/
def creatorMessages (s : Processes) : List IdentityManagerProtocol :=
  (s.manager.identityManagerQueue.history ++ s.creator.outbox).filter isFromCreator

/-- The time before the manager reconciles, in which the watchers of candidates only report. -/
def BeforeReady (s : Processes) : Event → Prop
  | .arrive msg => isStartup msg = true
  | .handle _ => s.manager.identityManagerQueue.pending.head? ≠ some .identityManagerReady
  | .receive _ | .deliver => True

instance (s : Processes) (event : Event) : Decidable (BeforeReady s event) := by
  unfold BeforeReady
  split <;> infer_instance

/-- Every one of the users is reported, as activated unless it is disabled. -/
def Reports (us : List SDPUser) (msgs : List IdentityManagerProtocol) : Prop :=
  ∀ u ∈ us, ∃ user, .foundServiceUser user (!u.disabled) ∈ msgs ∧ user.id = u.id

structure Starting (env : Surroundings) (c₀ : IdentityCreator) (stored : HashMap String ServiceIdentity)
    (s : Processes) : Prop where
  startup : Startup stored s.manager
  history : ∀ msg ∈ s.manager.identityManagerQueue.history, isStartup msg = true ∨ msg = .identityManagerReady
  outbox : ∀ msg ∈ s.creator.outbox, isFromCreator msg = true ∧ isStartup msg = true
  quiet : ∀ user clusterId serviceNs serviceName labels,
    .activateServiceUser user clusterId serviceNs serviceName labels ∉ s.manager.identityCreatorQueue.pending
  waiting : s.creator.status = .waiting → s.creator = c₀ ∧ s.creatorMessages = []
  complete : .identityCreatorReady ∈ s.creatorMessages → ∃ before later, s.creatorMessages = before ++ later ∧
    .identityCreatorReady ∉ before ∧
    Reports (recoveredUsers env c₀.secret.store c₀.secret.calls c₀.listedUsers) before
  sound : ∀ user activated, .foundServiceUser user activated ∈ s.creatorMessages →
    (∃ u ∈ recoveredUsers env c₀.secret.store c₀.secret.calls c₀.listedUsers,
      u.id = user.id ∧ activated = !u.disabled) ∨
    activated = false ∧ ∃ n, user.id = (env.newV4 n).toString
  heard : s.manager.identityCreatorReady = true → .identityCreatorReady ∈ s.manager.identityManagerQueue.received
  ready : .identityManagerReady ∈ s.manager.identityManagerQueue.history → s.manager.identityCreatorReady = true

namespace Starting

variable {c₀ : IdentityCreator} {stored : HashMap String ServiceIdentity} {s t : Processes}

/-- A move that adds nothing to the messages of the creator keeps what is known of them. -/
theorem of_sameMessages (h : Starting env c₀ stored s) (hMessages : t.creatorMessages = s.creatorMessages)
    (hCreator : t.creator.status = .waiting → t.creator = s.creator)
    (hStartup : Startup stored t.manager)
    (hHistory : ∀ msg ∈ t.manager.identityManagerQueue.history, isStartup msg = true ∨
      msg = .identityManagerReady)
    (hOutbox : ∀ msg ∈ t.creator.outbox, msg ∈ s.creator.outbox)
    (hQuiet : ∀ user clusterId serviceNs serviceName labels,
      .activateServiceUser user clusterId serviceNs serviceName labels ∉ t.manager.identityCreatorQueue.pending)
    (hHeard : t.manager.identityCreatorReady = true →
      .identityCreatorReady ∈ t.manager.identityManagerQueue.received)
    (hReady : .identityManagerReady ∈ t.manager.identityManagerQueue.history →
      t.manager.identityCreatorReady = true) : Starting env c₀ stored t where
  startup := hStartup
  history := hHistory
  outbox msg hmsg := h.outbox msg (hOutbox msg hmsg)
  quiet := hQuiet
  waiting hStatus := by
    have hSame := hCreator hStatus
    rw [hSame] at hStatus ⊢
    rw [hMessages]
    exact h.waiting hStatus
  complete := by
    rw [hMessages]
    exact h.complete
  sound := by
    rw [hMessages]
    exact h.sound
  heard := hHeard
  ready := hReady

theorem arrive (h : Starting env c₀ stored s) {msg : IdentityManagerProtocol} (hMsg : isFromWatchers msg = true)
    (hAllowed : isStartup msg = true) :
    Starting env c₀ stored { s with manager := s.manager.sendToSelf msg } := by
  have hOther : isFromCreator msg = false := by cases msg <;> simp_all [isFromWatchers, isFromCreator]
  have hNever : msg ≠ .identityManagerReady := by
    rintro rfl
    cases hMsg
  apply h.of_sameMessages
  · simp [creatorMessages, sendToSelf, hOther]
  · exact fun _ => rfl
  · exact h.startup.sameManager rfl rfl rfl rfl rfl rfl
  · intro x hx
    rcases List.mem_append.mp ((Channel.history_send _ _) ▸ hx) with hx | hx
    · exact h.history x hx
    · exact .inl (List.mem_singleton.mp hx ▸ hAllowed)
  · exact fun _ hx => hx
  · exact h.quiet
  · exact h.heard
  · intro hx
    rcases List.mem_append.mp ((Channel.history_send _ _) ▸ hx) with hx | hx
    · exact h.ready hx
    · exact absurd (List.mem_singleton.mp hx).symm hNever

theorem deliver (h : Starting env c₀ stored s) {msg : IdentityManagerProtocol} {rest : List IdentityManagerProtocol}
    (hOutbox : s.creator.outbox = msg :: rest) :
    Starting env c₀ stored ⟨s.manager.sendToSelf msg, { s.creator with outbox := rest }⟩ := by
  obtain ⟨hFrom, hEarly⟩ := h.outbox msg (hOutbox ▸ List.mem_cons_self)
  have hMessages : creatorMessages ⟨s.manager.sendToSelf msg, { s.creator with outbox := rest }⟩ =
      s.creatorMessages := by
    simp [creatorMessages, sendToSelf, hOutbox]
  apply h.of_sameMessages hMessages
  · intro hStatus
    -- a waiting creator has nothing to deliver
    have hNone := (h.waiting hStatus).2
    rw [creatorMessages, hOutbox, List.filter_append, List.filter_cons_of_pos hFrom] at hNone
    simp at hNone
  · exact h.startup.sameManager rfl rfl rfl rfl rfl rfl
  · intro x hx
    rcases List.mem_append.mp ((Channel.history_send _ _) ▸ hx) with hx | hx
    · exact h.history x hx
    · exact .inl (List.mem_singleton.mp hx ▸ hEarly)
  · intro x hx
    rw [hOutbox]
    exact List.mem_cons_of_mem _ hx
  · exact h.quiet
  · exact h.heard
  · intro hx
    rcases List.mem_append.mp ((Channel.history_send _ _) ▸ hx) with hx | hx
    · exact h.ready hx
    · rw [← List.mem_singleton.mp hx] at hEarly
      cases hEarly

theorem handled (h : Starting env c₀ stored s) {msg : IdentityManagerProtocol}
    {queue : Channel IdentityManagerProtocol}
    {order : IterationOrder} (hRecv : s.manager.identityManagerQueue.recv = some (msg, queue))
    (hAllowed : s.manager.identityManagerQueue.pending.head? ≠ some .identityManagerReady) :
    Starting env c₀ stored
      { s with manager := handle outcomes order msg { s.manager with identityManagerQueue := queue } } := by
  obtain ⟨rest, hPending, hQueue⟩ := Channel.recv_eq_some.mp hRecv
  have hMem : msg ∈ s.manager.identityManagerQueue.history :=
    Channel.mem_history_of_pending (hPending ▸ List.mem_cons_self)
  have hMsg : isStartup msg = true := by
    refine (h.history msg hMem).resolve_right ?_
    rintro rfl
    exact hAllowed (hPending ▸ rfl)
  have hHistory : queue.history = s.manager.identityManagerQueue.history := Channel.history_recv hRecv
  have hReceived : queue.received = s.manager.identityManagerQueue.received ++ [msg] := by rw [hQueue]
  obtain ⟨⟨sent, hSent, hRelease⟩, hFlag, hSelf⟩ := handle_startup outcomes hMsg order
    { s.manager with identityManagerQueue := queue }
  have hNext := handle_queue outcomes order msg { s.manager with identityManagerQueue := queue }
  apply h.of_sameMessages
  · have hOwn : (IdentityManager.selfSent { s.manager with identityManagerQueue := queue } msg).filter isFromCreator =
        [] := by
      rw [List.filter_eq_nil_iff]
      intro x hx
      rw [(hSelf x hx).1]
      simp [isFromCreator]
    simp [creatorMessages, hNext, hHistory, hOwn]
  · exact fun _ => rfl
  · exact h.startup.handled hRecv hMsg
  · intro x hx
    rw [hNext, Channel.history_sendAll, hHistory] at hx
    rcases List.mem_append.mp hx with hx | hx
    · exact h.history x hx
    · exact .inr (hSelf x hx).1
  · exact fun _ hx => hx
  · intro user clusterId serviceNs serviceName labels hx
    rw [hSent, Channel.pending_sendAll] at hx
    rcases List.mem_append.mp hx with hx | hx
    · exact h.quiet _ _ _ _ _ hx
    · obtain ⟨_, _, hEq⟩ := hRelease _ hx
      cases hEq
  · intro hTrue
    rw [hNext, Channel.received_sendAll, hReceived]
    rcases hFlag.mp hTrue with hBefore | rfl
    · exact List.mem_append_left _ (h.heard hBefore)
    · exact List.mem_append_right _ (List.mem_singleton_self _)
  · intro hx
    rw [hNext, Channel.history_sendAll, hHistory] at hx
    rcases List.mem_append.mp hx with hx | hx
    · exact hFlag.mpr (.inl (h.ready hx))
    · exact (hSelf _ hx).2

/-- A fresh user that is announced later is deactivated. -/
theorem announce (h : Starting env c₀ stored s) {user : ServiceUser}
    (hFresh : ∃ n, user.id = (env.newV4 n).toString)
    (hManager : Startup stored t.manager ∧ t.manager.identityManagerQueue = s.manager.identityManagerQueue ∧
      t.manager.identityCreatorReady = s.manager.identityCreatorReady)
    (hQuiet : ∀ user clusterId serviceNs serviceName labels,
      .activateServiceUser user clusterId serviceNs serviceName labels ∉ t.manager.identityCreatorQueue.pending)
    (hOutbox : t.creator.outbox = s.creator.outbox ++ [.foundServiceUser user false])
    (hStatus : t.creator.status ≠ .waiting) : Starting env c₀ stored t := by
  obtain ⟨hStartup, hQueue, hFlag⟩ := hManager
  have hMessages : t.creatorMessages = s.creatorMessages ++ [.foundServiceUser user false] := by
    rw [creatorMessages, creatorMessages, hQueue, hOutbox, ← List.append_assoc, List.filter_append]
    rfl
  refine ⟨hStartup, by rw [hQueue]; exact h.history, fun x hx => ?_, hQuiet, fun hWaiting => absurd hWaiting hStatus,
    fun hReady => ?_, fun user' activated hMem => ?_, ?_, ?_⟩
  · rw [hOutbox] at hx
    rcases List.mem_append.mp hx with hx | hx
    · exact h.outbox x hx
    · rw [List.mem_singleton.mp hx]
      exact ⟨rfl, rfl⟩
  · rw [hMessages] at hReady ⊢
    obtain ⟨before, later, hEq, hNone, hReports⟩ := h.complete (by simpa using hReady)
    exact ⟨before, later ++ [.foundServiceUser user false], by rw [hEq, List.append_assoc], hNone, hReports⟩
  · rw [hMessages] at hMem
    rcases List.mem_append.mp hMem with hMem | hMem
    · exact h.sound user' activated hMem
    · cases List.mem_singleton.mp hMem
      exact .inr ⟨rfl, hFresh⟩
  · rw [hFlag, hQueue]
    exact h.heard
  · rw [hFlag, hQueue]
    exact h.ready

theorem announceAll (h : Starting env c₀ stored s) (hNone : s.creatorMessages = [])
    {queue : Channel IdentityCreatorProtocol} {c : IdentityCreator}
    (hQuiet : ∀ user clusterId serviceNs serviceName labels,
      .activateServiceUser user clusterId serviceNs serviceName labels ∉ queue.pending)
    (hStatus : c.status ≠ .waiting)
    (hOutbox : ∀ msg ∈ c.outbox, isFromCreator msg = true ∧ isStartup msg = true)
    (hComplete : .identityCreatorReady ∈ c.outbox → ∃ before later, c.outbox = before ++ later ∧
      .identityCreatorReady ∉ before ∧
      Reports (recoveredUsers env c₀.secret.store c₀.secret.calls c₀.listedUsers) before)
    (hSound : ∀ user activated, .foundServiceUser user activated ∈ c.outbox →
      (∃ u ∈ recoveredUsers env c₀.secret.store c₀.secret.calls c₀.listedUsers,
        u.id = user.id ∧ activated = !u.disabled) ∨ activated = false ∧ ∃ n, user.id = (env.newV4 n).toString) :
    Starting env c₀ stored ⟨{ s.manager with identityCreatorQueue := queue }, c⟩ := by
  have hMessages : creatorMessages ⟨{ s.manager with identityCreatorQueue := queue }, c⟩ = c.outbox := by
    rw [creatorMessages, List.filter_append, List.append_eq_nil_iff] at hNone
    rw [creatorMessages, List.filter_append, hNone.1, List.nil_append, List.filter_eq_self]
    exact fun msg hMsg => (hOutbox msg hMsg).1
  refine ⟨h.startup.sameManager rfl rfl rfl rfl rfl rfl, h.history, hOutbox, hQuiet,
    fun hWaiting => absurd hWaiting hStatus, ?_, ?_, h.heard, h.ready⟩
  · rw [hMessages]
    exact hComplete
  · rw [hMessages]
    exact hSound

theorem initialized (h : Starting env c₀ stored s) (hWaiting : s.creator.status = .waiting)
    (hOutbox : s.creator.outbox = []) {queue : Channel IdentityCreatorProtocol}
    (hQuiet : ∀ user clusterId serviceNs serviceName labels,
      .activateServiceUser user clusterId serviceNs serviceName labels ∉ queue.pending) (order : IterationOrder) :
    Starting env c₀ stored
      ⟨{ s.manager with identityCreatorQueue := queue }, s.creator.receive env order .startService⟩ := by
  obtain ⟨hCreator, hNone⟩ := h.waiting hWaiting
  obtain ⟨listed, found, gone, created, hInit, hListed⟩ := IdentityCreator.initializeFrom_spec env s.creator
  unfold IdentityCreator.receive
  rw [hWaiting]
  generalize s.creator.initializeFrom env = result at hInit hListed ⊢
  obtain ⟨result, c⟩ := result
  dsimp only at hInit hListed ⊢
  rw [hCreator] at hInit hListed
  have hSent : c.outbox = found.map (fun p => .foundServiceUser p.1 p.2) ++
      created.map fun u => .foundServiceUser u false := by
    rw [hInit.outbox, ← hCreator, hOutbox, List.nil_append]
  have hFound : ∀ msg ∈ c.outbox, ∃ user activated, msg = .foundServiceUser user activated := by
    intro msg hMsg
    rw [hSent] at hMsg
    rcases List.mem_append.mp hMsg with hMsg | hMsg <;> obtain ⟨_, -, rfl⟩ := List.mem_map.mp hMsg <;>
      exact ⟨_, _, rfl⟩
  have hSound : ∀ user activated, .foundServiceUser user activated ∈ c.outbox →
      (∃ u ∈ recoveredUsers env c₀.secret.store c₀.secret.calls c₀.listedUsers,
        u.id = user.id ∧ activated = !u.disabled) ∨ activated = false ∧
        ∃ n, user.id = (env.newV4 n).toString := by
    intro user activated hMem
    rw [hSent] at hMem
    rcases List.mem_append.mp hMem with hMem | hMem
    · obtain ⟨p, hp, hEq⟩ := List.mem_map.mp hMem
      have hPair := List.mem_map_of_mem (f := fun p : ServiceUser × Bool => (p.1.id, p.2)) hp
      rw [hInit.found_ids] at hPair
      obtain ⟨u, hu, hPair⟩ := List.mem_map.mp hPair
      obtain ⟨hId, hActivated⟩ := Prod.mk.inj hPair
      cases hEq
      rcases hListed with rfl | ⟨rfl, -, -⟩
      · exact .inl ⟨u, hu, hId, hActivated.symm⟩
      · cases hu
    · obtain ⟨user', hUser, hEq⟩ := List.mem_map.mp hMem
      cases hEq
      obtain ⟨draws, hIds, -⟩ := hInit.created_ids
      obtain ⟨n, -, hn⟩ := List.mem_map.mp (hIds ▸ List.mem_map_of_mem hUser)
      exact .inr ⟨rfl, n, hn.symm⟩
  have hUsers : ∀ msg ∈ c.outbox, isFromCreator msg = true ∧ isStartup msg = true := by
    intro msg hMsg
    obtain ⟨user, activated, rfl⟩ := hFound msg hMsg
    exact ⟨rfl, rfl⟩
  have hUnready : .identityCreatorReady ∉ c.outbox := by
    intro hMem
    obtain ⟨_, _, hEq⟩ := hFound _ hMem
    cases hEq
  cases result with
  | error e => exact h.announceAll hNone hQuiet (by simp) hUsers (fun hMem => absurd hMem hUnready) hSound
  | ok url =>
    have hAll : listed = c₀.listedUsers := by
      rcases hListed with hAll | ⟨-, -, e, hError⟩
      · exact hAll
      · cases hError
    apply h.announceAll hNone hQuiet (by simp [IdentityCreator.sendToManager])
    · intro msg hMsg
      rcases List.mem_append.mp hMsg with hMsg | hMsg
      · exact hUsers msg hMsg
      · rw [List.mem_singleton.mp hMsg]
        exact ⟨rfl, rfl⟩
    · intro _
      refine ⟨c.outbox, [.identityCreatorReady], rfl, hUnready, fun u hu => ?_⟩
      have hPair := List.mem_map_of_mem (f := fun u : SDPUser => (u.id, !u.disabled)) hu
      rw [← hAll, ← hInit.found_ids] at hPair
      obtain ⟨p, hp, hPair⟩ := List.mem_map.mp hPair
      obtain ⟨hId, hActivated⟩ := Prod.mk.inj hPair
      refine ⟨p.1, ?_, hId⟩
      rw [hSent, ← hActivated]
      exact List.mem_append_left _ (List.mem_map_of_mem hp)
    · intro user activated hMem
      rcases List.mem_append.mp hMem with hMem | hMem
      · exact hSound user activated hMem
      · cases List.mem_singleton.mp hMem

theorem received (h : Starting env c₀ stored s) {msg : IdentityCreatorProtocol}
    {queue : Channel IdentityCreatorProtocol}
    {order : IterationOrder} (hOutbox : s.creator.outbox = []) (hStatus : s.creator.status ≠ .panicked)
    (hRecv : s.manager.identityCreatorQueue.recv = some (msg, queue)) :
    Starting env c₀ stored ⟨{ s.manager with identityCreatorQueue := queue },
      s.creator.receive env order msg⟩ := by
  obtain ⟨rest, hPending, hQueue⟩ := Channel.recv_eq_some.mp hRecv
  have hQuiet : ∀ user clusterId serviceNs serviceName labels,
      .activateServiceUser user clusterId serviceNs serviceName labels ∉ queue.pending := by
    intro user clusterId serviceNs serviceName labels hMem
    rw [hQueue] at hMem
    exact h.quiet _ _ _ _ _ (hPending ▸ List.mem_cons_of_mem _ hMem)
  have hManager : Startup stored { s.manager with identityCreatorQueue := queue } :=
    h.startup.sameManager rfl rfl rfl rfl rfl rfl
  -- a message without an answer
  have hSilent : ∀ c : IdentityCreator, c.outbox = s.creator.outbox → (c.status = .waiting → c = s.creator) →
      Starting env c₀ stored ⟨{ s.manager with identityCreatorQueue := queue }, c⟩ := by
    intro c hSame hWaiting
    refine h.of_sameMessages ?_ hWaiting hManager h.history (fun x hx => hSame ▸ hx) hQuiet h.heard h.ready
    rw [creatorMessages, hSame]
    rfl
  cases hCreator : s.creator.status with
  | panicked => exact absurd hCreator hStatus
  | waiting =>
    cases msg with
    | startService => exact h.initialized hCreator hOutbox hQuiet order
    | _ =>
      refine hSilent _ ?_ fun _ => ?_ <;> simp [IdentityCreator.receive, hCreator]
  | running =>
    have hReceive : s.creator.receive env order msg = s.creator.handle env order msg := by
      simp [IdentityCreator.receive, hCreator]
    have hRunning : (s.creator.handle env order msg).status ≠ .waiting := by
      rcases IdentityCreator.handle_status env order msg s.creator with hSame | hPanic
      · rw [hSame, hCreator]
        simp
      · rw [hPanic]
        simp
    rw [hReceive]
    cases IdentityCreator.handle_answer env order msg s.creator with
    | silent hSame hDrawn => exact hSilent _ hSame fun hWaiting => absurd hWaiting hRunning
    | created user hSame hId hDrawn =>
      obtain ⟨draws, hIds, -⟩ := hId
      obtain ⟨n, -, hn⟩ := List.mem_map.mp (hIds ▸ List.mem_singleton_self user.id)
      exact h.announce ⟨n, hn.symm⟩ ⟨hManager, rfl, rfl⟩ hQuiet hSame hRunning
    | activated user clusterId serviceNs serviceName labels userName hMsg hSame hDrawn =>
      subst hMsg
      exact absurd (hPending ▸ List.mem_cons_self) (h.quiet user clusterId serviceNs serviceName labels)

theorem step {event : Event} (h : Starting env c₀ stored s) (hAllowed : BeforeReady s event)
    (hNext : next outcomes env s event = some t) : Starting env c₀ stored t := by
  cases next_move outcomes env hNext with
  | arrive msg hMsg => exact h.arrive hMsg hAllowed
  | handle order msg queue hRecv => exact h.handled hRecv hAllowed
  | receive order msg queue hOutbox hStatus hRecv => exact h.received hOutbox hStatus hRecv
  | deliver msg rest hOutbox => exact h.deliver hOutbox

end Starting

/-- Once the manager is told to reconcile, it has received every report. -/
theorem Starting.reports {c₀ : IdentityCreator} {stored : HashMap String ServiceIdentity} {s : Processes}
    (h : Starting env c₀ stored s) (hReady : .identityManagerReady ∈ s.manager.identityManagerQueue.history) :
    Reports (recoveredUsers env c₀.secret.store c₀.secret.calls c₀.listedUsers)
      s.manager.identityManagerQueue.received := by
  have hHeard := h.heard (h.ready hReady)
  have hMessages : s.creatorMessages = s.manager.identityManagerQueue.received.filter isFromCreator ++
      (s.manager.identityManagerQueue.pending ++ s.creator.outbox).filter isFromCreator := by
    rw [creatorMessages, Channel.history, List.append_assoc, List.filter_append]
  have hFront : .identityCreatorReady ∈ s.manager.identityManagerQueue.received.filter isFromCreator :=
    List.mem_filter.mpr ⟨hHeard, rfl⟩
  obtain ⟨before, later, hEq, hNone, hReports⟩ :=
    h.complete (hMessages ▸ List.mem_append_left _ hFront)
  rw [hMessages] at hEq
  rcases List.append_eq_append_iff.mp hEq with ⟨rest, rfl, -⟩ | ⟨rest, hReceived, -⟩
  · exact absurd (List.mem_append_left _ hFront) hNone
  · intro u hu
    obtain ⟨user, hMem, hId⟩ := hReports u hu
    exact ⟨user, (List.mem_filter.mp (hReceived ▸ List.mem_append_left rest hMem)).1, hId⟩

section Reconciled

variable {clusterId : String} {stored : List ServiceIdentity} {system : System} {secret : SecretApi} {poolSize : Nat}
  {s : Processes} {queue : Channel IdentityManagerProtocol} {order : IterationOrder}

theorem starting_started : Starting env (.new system secret poolSize) (restored clusterId stored).identities
    (started clusterId stored system secret poolSize) := by
  obtain ⟨provider, hRestored⟩ := restored_frame clusterId stored
  have hRecorded := recorded_initializeFrom clusterId ⟨.holding stored, 0, []⟩ stored
  have hSame := initializeFrom_sameRecords (new clusterId ⟨.holding stored, 0, []⟩) stored
  refine ⟨⟨hRecorded, fun _ => rfl, ?_, ?_⟩, ?_, ?_, ?_, ?_, ?_, ?_, ?_, ?_⟩
  · intro id h
    exact absurd (hSame.candidates ▸ h) (AList.notMem_empty id)
  · intro id h
    exact absurd (hSame.missing ▸ h) (AList.notMem_empty id)
  all_goals
    simp [started, hRestored, creatorMessages, IdentityCreator.new, new, sendToCreator, Channel.empty, Channel.history,
      Channel.send]

/-- Every stored identity of a known candidate holds a listed user whose password was read. -/
def KnownReported (env : Surroundings) (c : IdentityCreator) (before : HashMap String ServiceIdentity)
    (reports : List IdentityManagerProtocol) : Prop :=
  ∀ id i, before.lookup id = some i →
    (∃ candidate, .foundServiceCandidate candidate ∈ reports ∧ MaybeService.serviceId candidate = .ok id) →
    ∃ u ∈ recoveredUsers env c.secret.store c.secret.calls c.listedUsers, u.id = i.credentials.id

/-- What is left of the identities from before holds activated users. -/
def RemainingUsable (before : HashMap String ServiceIdentity) (m : IdentityManager) : Prop :=
  ∀ id ∈ before, ∀ i, m.identities.lookup id = some i → i.credentials.id ∈ m.existingActivatedCredentials

theorem remainingUsable_of_reported
    (h : Starting env (.new system secret poolSize) (restored clusterId stored).identities s)
    (hReady : s.manager.identityManagerQueue.recv = some (.identityManagerReady, queue))
    (hCalls : (IdentityManager.reconcile outcomes order { s.manager with identityManagerQueue := queue }).failures =
      s.manager.failures)
    (hReported : KnownReported env (.new system secret poolSize) (restored clusterId stored).identities
      s.manager.identityManagerQueue.received) :
    RemainingUsable (restored clusterId stored).identities
      (handle outcomes order .identityManagerReady { s.manager with identityManagerQueue := queue }) := by
  intro id hBefore i hi
  obtain ⟨i₀, hStored⟩ := HashMap.mem_iff_exists_lookup.mp hBefore
  let m : IdentityManager := { s.manager with identityManagerQueue := queue }
  obtain ⟨rest, hPending, -⟩ := Channel.recv_eq_some.mp hReady
  have hReports := h.reports (Channel.mem_history_of_pending (hPending ▸ List.mem_cons_self))
  obtain ⟨extra, users, orphans, hReconciled⟩ := reconcile_spec outcomes order m
  rcases (identityManagerReady_requested outcomes order m).fresh id i hi with hKept | ⟨c, hc, hId⟩
  · have hiId : Service.serviceId i = id := ServiceCredentialsProvider.keyed _ _ i hKept
    obtain ⟨hMem, hLeft⟩ :=
      (hReconciled.mem_remaining i).mp ((ServiceCredentialsProvider.mem_identities _).mpr (hiId ▸ hKept))
    have hRetained : m.Retained i := by
      by_contra hNot
      exact hLeft ((hReconciled.mem_deleted hCalls i).mpr ⟨hMem, hNot⟩)
    obtain ⟨c, hFound, hId⟩ := (h.startup.recorded.candidates id).mp (.inl (hiId ▸ hRetained.1))
    obtain ⟨u, hu, hUser⟩ := hReported id i₀ hStored ⟨c, hFound, hId⟩
    obtain ⟨j, hj, hHeld⟩ := h.startup.registered hStored
    have hSame : j = i := by
      have hLookup := (ServiceCredentialsProvider.mem_identities _).mp hMem
      rw [hiId] at hLookup
      exact Option.some.inj (hj.symm.trans hLookup)
    rw [hSame] at hHeld
    obtain ⟨user, hReport, hReportId⟩ := hReports u hu
    have hUserId : user.id = i.credentials.id := hReportId.trans (hUser.trans hHeld.symm)
    have hRecords := (identityManagerReady_sameRecords outcomes order m).activated
    change i.credentials.id ∈ (m.identityManagerReady outcomes order).existingActivatedCredentials
    rw [hRecords]
    cases hDisabled : u.disabled with
    | true =>
      rw [hDisabled] at hReport
      exact absurd ((h.startup.recorded.deactivated _).mpr ⟨user, hReport, hUserId⟩) hRetained.2
    | false =>
      rw [hDisabled] at hReport
      exact (h.startup.recorded.activated _).mpr ⟨user, hReport, hUserId⟩
  · obtain ⟨id', hLookup⟩ := HashMap.mem_values.mp (order.mem_walk.mp hc)
    cases (h.startup.recorded.missing_keyed _ _ hLookup).symm.trans hId
    cases hStored.symm.trans (h.startup.missing _ (HashMap.mem_iff_exists_lookup.mpr ⟨c, hLookup⟩))

theorem reported_of_remainingUsable
    (h : Starting env (.new system secret poolSize) (restored clusterId stored).identities s)
    (hFresh : ∀ i ∈ stored, ∀ n, i.credentials.id ≠ (env.newV4 n).toString)
    (hUsable : RemainingUsable (restored clusterId stored).identities
      (handle outcomes order .identityManagerReady { s.manager with identityManagerQueue := queue })) :
    KnownReported env (.new system secret poolSize) (restored clusterId stored).identities
      s.manager.identityManagerQueue.received := by
  intro id i₀ hStored hFound
  let m : IdentityManager := { s.manager with identityManagerQueue := queue }
  obtain ⟨i, hLookup, hHeld⟩ := h.startup.registered hStored
  have hiId : Service.serviceId i = id := ServiceCredentialsProvider.keyed _ _ i hLookup
  have hMem : i ∈ m.serviceCredentialsProvider.identities :=
    (ServiceCredentialsProvider.mem_identities _).mpr (hiId ▸ hLookup)
  have hKnown : id ∈ m.existingServiceCandidates := by
    refine ((h.startup.recorded.candidates id).mpr hFound).resolve_right fun hMissing => ?_
    cases hStored.symm.trans (h.startup.missing id hMissing)
  -- whoever was reported under the id of the user is listed, or drawn afresh
  have hReported : ∀ user activated, user.id = i.credentials.id →
      .foundServiceUser user activated ∈ s.manager.identityManagerQueue.received →
        ∃ u ∈ recoveredUsers env secret.store secret.calls (IdentityCreator.new system secret poolSize).listedUsers,
          u.id = i₀.credentials.id := by
    intro user activated hId hReport
    rcases h.sound user activated (List.mem_filter.mpr
      ⟨List.mem_append_left _ (Channel.mem_history_of_received hReport), rfl⟩) with
      ⟨u, hu, hSame, -⟩ | ⟨-, n, hn⟩
    · exact ⟨u, hu, hSame.trans (hId.trans hHeld)⟩
    · exact absurd (hHeld.symm.trans (hId.symm.trans hn)) (hFresh i₀ (mem_of_restored hStored) n)
  obtain ⟨extra, users, orphans, hReconciled⟩ := reconcile_spec outcomes order m
  by_cases hOrphan : i ∈ orphans
  · obtain ⟨user, hReport, hId⟩ := (h.startup.recorded.deactivated _).mp (hReconciled.orphans_spec i hOrphan).2.2
    exact hReported user false hId hReport
  · have hLeft : i ∈ (m.reconcile outcomes order).serviceCredentialsProvider.identities := by
      refine (hReconciled.mem_remaining i).mpr ⟨hMem, fun hDeleted => ?_⟩
      rcases List.mem_append.mp hDeleted with hExtra | hOrphans
      · exact (hReconciled.extra_spec i hExtra).2 (hiId ▸ hKnown)
      · exact hOrphan hOrphans
    have hKept := (identityManagerReady_requested outcomes order m).kept id i
      (hiId ▸ (ServiceCredentialsProvider.mem_identities _).mp hLeft)
    have hActivated := hUsable id (HashMap.mem_iff_exists_lookup.mpr ⟨i₀, hStored⟩) i hKept
    have hRecords := (identityManagerReady_sameRecords outcomes order m).activated
    change i.credentials.id ∈ (m.identityManagerReady outcomes order).existingActivatedCredentials at hActivated
    rw [hRecords] at hActivated
    obtain ⟨user, hReport, hId⟩ := (h.startup.recorded.activated _).mp hActivated
    exact hReported user true hId hReport

/-- While the deletions succeed, the remaining identities are usable exactly if every known candidate's stored
identity holds a user that the creator has recovered. Failing calls do not make up for one that does not. -/
theorem remaining_usable_iff
    (hRun : Steps (next outcomes env) BeforeReady (started clusterId stored system secret poolSize) s)
    (hReady : s.manager.identityManagerQueue.recv = some (.identityManagerReady, queue)) :
    ((IdentityManager.reconcile outcomes order { s.manager with identityManagerQueue := queue }).failures =
        s.manager.failures →
      KnownReported env (.new system secret poolSize) (restored clusterId stored).identities
        s.manager.identityManagerQueue.received →
      RemainingUsable (restored clusterId stored).identities
        (handle outcomes order .identityManagerReady { s.manager with identityManagerQueue := queue })) ∧
    ((∀ i ∈ stored, ∀ n, i.credentials.id ≠ (env.newV4 n).toString) →
      RemainingUsable (restored clusterId stored).identities
        (handle outcomes order .identityManagerReady { s.manager with identityManagerQueue := queue }) →
      KnownReported env (.new system secret poolSize) (restored clusterId stored).identities
        s.manager.identityManagerQueue.received) := by
  have hStarting := hRun.invariant (Starting env (.new system secret poolSize) (restored clusterId stored).identities)
    (fun _ _ _ h hAllowed hNext => h.step hAllowed hNext) starting_started
  exact ⟨remainingUsable_of_reported hStarting hReady, reported_of_remainingUsable hStarting⟩

end Reconciled

/-- The creator answers first, then candidate `a` is found and both watchers are ready. -/
def sampleStartup (reports : Nat) : List Event :=
  .receive .asStored :: .arrive (.foundServiceCandidate (sampleCandidate "a")) ::
    (List.replicate reports .deliver ++ [.arrive .deploymentWatcherReady, .arrive .deploymentWatcherReady] ++
      List.replicate (reports + 3) (.handle .asStored))

/-- The service with one stored identity, of candidate `a` and user `u1`, before it reconciles. -/
def sampleBeforeReady (users : List SDPUser) (data : HashMap String ByteString) (reports : Nat) : Processes :=
  runD (next (fun _ => .delivered) (IdentityCreator.sampleSurroundings fun _ => .delivered))
    (started "cluster" [sampleIdentity "a" "u1"] ⟨⟨users, [], []⟩, 0, []⟩ ⟨some ⟨some data⟩, 0, []⟩ 0)
    (sampleStartup reports)

def sampleUsable : Processes :=
  sampleBeforeReady [IdentityCreator.sampleActive "u1"] (AList.singleton "u1-service-password" (.text "pw")) 2

/-- The user of the stored identity is no longer listed. -/
def sampleUnlisted : Processes := sampleBeforeReady [] ∅ 1

/-- The queue after the manager has taken the message to reconcile. -/
def readyQueue (s : Processes) : Channel IdentityManagerProtocol :=
  ⟨s.manager.identityManagerQueue.received ++ [.identityManagerReady], []⟩

theorem remaining_usable_sample :
    RemainingUsable (restored "cluster" [sampleIdentity "a" "u1"]).identities
      (handle (fun _ => .delivered) .asStored .identityManagerReady
        { sampleUsable.manager with identityManagerQueue := readyQueue sampleUsable }) := by
  refine (remaining_usable_iff (Steps.of_runD (sampleStartup 2) (by decide) (by decide)) (by decide)).1 (by decide) ?_
  intro id i hStored hFound
  cases List.mem_singleton.mp (mem_of_restored hStored)
  exact ⟨IdentityCreator.sampleActive "u1", by decide, rfl⟩

/-- The candidate is known and the user deactivated nowhere, so no pass removes the identity. -/
theorem unlisted_user_remains :
    Steps (next (fun _ => .delivered) (IdentityCreator.sampleSurroundings fun _ => .delivered)) BeforeReady
      (started "cluster" [sampleIdentity "a" "u1"] ⟨⟨[], [], []⟩, 0, []⟩ ⟨some ⟨some ∅⟩, 0, []⟩ 0)
      sampleUnlisted ∧
    sampleUnlisted.manager.identityManagerQueue.recv = some (.identityManagerReady, readyQueue sampleUnlisted) ∧
    (handle (fun _ => .delivered) .asStored .identityManagerReady
      { sampleUnlisted.manager with identityManagerQueue := readyQueue sampleUnlisted }).failures = [] ∧
    ¬RemainingUsable (restored "cluster" [sampleIdentity "a" "u1"]).identities
      (handle (fun _ => .delivered) .asStored .identityManagerReady
        { sampleUnlisted.manager with identityManagerQueue := readyQueue sampleUnlisted }) := by
  refine ⟨Steps.of_runD (sampleStartup 1) (by decide) (by decide), by decide, by decide, fun h => ?_⟩
  exact absurd (h "ns_a" (by decide) (sampleIdentity "a" "u1") (by decide)) (by decide)

end SdpK8sInjector.IdentityService.Processes
