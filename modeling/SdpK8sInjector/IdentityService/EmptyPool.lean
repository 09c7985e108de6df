import SdpK8sInjector.IdentityService.Credentials

/-! # Requests that meet an empty pool

A request that finds the pool empty is logged and dropped. Where no request does,
and nothing is deleted, every candidate that was handled ends up registered.
-/

namespace SdpK8sInjector.IdentityService.IdentityManager

open Lib Common ServiceCredentialsProvider

variable {outcomes : Nat → CallOutcome} {order : IterationOrder}

def Served (m : IdentityManager) (id : String) : Prop := ∃ i, m.identities.lookup id = some i

/-- The candidate needs a user from the pool. -/
def isUnserved (m : IdentityManager) (candidate : ServiceCandidate) : Bool :=
  match MaybeService.serviceId candidate with
  | .ok id => (m.identities.lookup id).isNone
  | .error _ => false

theorem isUnserved_eq_true {m : IdentityManager} {candidate : ServiceCandidate} {id : String}
    (hId : MaybeService.serviceId candidate = .ok id) : m.isUnserved candidate = true ↔ ¬Served m id := by
  simp only [isUnserved, hId, Option.isNone_iff_eq_none, Served]
  exact Option.eq_none_iff_forall_ne_some.trans not_exists.symm

theorem isUnserved_anti {m m' : IdentityManager} (h : ∀ id, Served m id → Served m' id)
    (candidate : ServiceCandidate) (hUnserved : m'.isUnserved candidate = true) : m.isUnserved candidate = true := by
  cases hId : MaybeService.serviceId candidate with
  | error e => simp [isUnserved, hId] at hUnserved
  | ok id =>
    rw [isUnserved_eq_true hId] at hUnserved ⊢
    exact fun hBefore => hUnserved (h id hBefore)

theorem Requested.registered {candidates : List ServiceCandidate} {m m' : IdentityManager}
    (h : Requested candidates m m') {id : String} (hBefore : Served m id) : Served m' id := by
  obtain ⟨i, hi⟩ := hBefore
  exact ⟨i, h.kept id i hi⟩

theorem requestServiceIdentity_served (c : ServiceCandidate) (m : IdentityManager)
    (hPool : m.isUnserved c = true → m.pool ≠ []) {id : String} (hId : MaybeService.serviceId c = .ok id) :
    Served (m.requestServiceIdentity outcomes c) id := by
  have hRequested := requestServiceIdentity_requested outcomes c m
  by_cases hUnserved : m.isUnserved c = true
  · have hLength : [c].length ≤ m.pool.length := List.length_pos_iff.mpr (hPool hUnserved)
    exact hRequested.served (.inl hLength) c (List.mem_singleton_self c) id hId
  · rw [isUnserved_eq_true hId, not_not] at hUnserved
    exact hRequested.registered hUnserved

theorem foldl_requestServiceIdentity_served (candidates : List ServiceCandidate) (m : IdentityManager)
    (hPool : (candidates.filter m.isUnserved).length ≤ m.pool.length) {c : ServiceCandidate} (hMem : c ∈ candidates)
    {id : String} (hId : MaybeService.serviceId c = .ok id) :
    Served (candidates.foldl (fun m c => m.requestServiceIdentity outcomes c) m) id := by
  induction candidates generalizing m with
  | nil => cases hMem
  | cons x rest ih =>
    have hFirst := requestServiceIdentity_requested outcomes x m
    have hGrows : (rest.filter (m.requestServiceIdentity outcomes x).isUnserved).length ≤
        (rest.filter m.isUnserved).length :=
      (List.monotone_filter_right rest (isUnserved_anti fun id => hFirst.registered)).length_le
    have hRest : (rest.filter (m.requestServiceIdentity outcomes x).isUnserved).length ≤
        (m.requestServiceIdentity outcomes x).pool.length := by
      rcases requestServiceIdentity_provider outcomes x m with
        ⟨hSame, -⟩ | ⟨lookup, user, users, hIdX, hNone, hUsers, hLeft, -⟩
      · have hSamePool : (m.requestServiceIdentity outcomes x).pool.length = m.pool.length := by
          rw [IdentityManager.pool, hSame]
        have hMore : (rest.filter m.isUnserved).length ≤ ((x :: rest).filter m.isUnserved).length :=
          ((List.sublist_cons_self x rest).filter _).length_le
        omega
      · have hX : m.isUnserved x = true := by simp [isUnserved, hIdX, hNone]
        rw [List.filter_cons_of_pos hX, hUsers] at hPool
        rw [hLeft]
        simp only [List.length_cons] at hPool
        omega
    rcases List.mem_cons.mp hMem with rfl | hMem
    · have hUser : m.isUnserved c = true → m.pool ≠ [] := by
        intro hUnserved hEmpty
        rw [List.filter_cons_of_pos hUnserved, hEmpty] at hPool
        simp at hPool
      have hServed : Served (m.requestServiceIdentity outcomes c) id := requestServiceIdentity_served c m hUser hId
      exact (foldl_requestServiceIdentity_requested outcomes rest _).registered hServed
    · exact ih _ hRest hMem

theorem reconcile_retains {m : IdentityManager} (h : ∀ i ∈ m.serviceCredentialsProvider.identities, m.Retained i) :
    (m.reconcile outcomes order).identities = m.identities ∧
      (m.reconcile outcomes order).pool = m.pool := by
  obtain ⟨extra, users, orphans, hReconciled⟩ := reconcile_spec outcomes order m
  have hExtra : extra = [] := List.eq_nil_iff_forall_not_mem.mpr fun i hi =>
    (hReconciled.extra_spec i hi).2 (h i (hReconciled.extra_spec i hi).1).1
  have hOrphans : orphans = [] := List.eq_nil_iff_forall_not_mem.mpr fun i hi =>
    (h i (hReconciled.orphans_spec i hi).1).2 (hReconciled.orphans_spec i hi).2.2
  have hIdentities := hReconciled.identities
  rw [hExtra, hOrphans] at hIdentities
  exact ⟨hIdentities, hReconciled.pool⟩

theorem Served.insert {m m' : IdentityManager} {key : String} {identity : ServiceIdentity}
    (hInsert : m'.identities = AList.insert key identity m.identities) {id : String} (h : Served m id) :
    Served m' id := by
  obtain ⟨i, hi⟩ := h
  rw [Served, hInsert]
  simp only [HashMap.lookup_insert_eq_ite]
  split
  · exact ⟨identity, rfl⟩
  · exact ⟨i, hi⟩

theorem handle_registered {msg : IdentityManagerProtocol} {m : IdentityManager}
    (hDelete : ∀ i, msg ≠ .deleteServiceIdentity i)
    (hRetained : msg = .identityManagerReady → ∀ i ∈ m.serviceCredentialsProvider.identities, m.Retained i)
    {id : String} (h : Served m id) : Served (handle outcomes order msg m) id := by
  cases msg with
  | deleteServiceIdentity i => exact absurd rfl (hDelete i)
  | requestServiceIdentity c => exact (requestServiceIdentity_requested outcomes c m).registered h
  | identityManagerReady =>
    refine (identityManagerReady_requested outcomes order m).registered ?_
    rw [Served, (reconcile_retains (hRetained rfl)).1]
    exact h
  | foundServiceCandidate candidate =>
    change Served (m.foundServiceCandidate candidate) id
    rcases foundServiceCandidate_cases candidate m with ⟨-, hEq⟩ | ⟨_, _, -, -, hEq⟩ | ⟨_, -, -, hEq⟩ <;>
      rw [hEq] <;> exact h
  | foundServiceUser user activated => cases activated <;> exact h
  | deletedServiceCandidate candidate =>
    change Served (m.deletedServiceCandidate candidate) id
    rcases deletedServiceCandidate_cases candidate m with ⟨_, _, _, _, hEq⟩ | ⟨_, hEq⟩ <;> rw [hEq] <;> exact h
  | identityCreatorReady =>
    obtain ⟨_, _, hEq⟩ := identityCreatorReadyHandler_cases m
    change Served m.identityCreatorReadyHandler id
    rw [hEq]
    exact h
  | deploymentWatcherReady =>
    obtain ⟨_, _, hEq⟩ := deploymentWatcherReady_cases m
    change Served m.deploymentWatcherReady id
    rw [hEq]
    exact h
  | activatedServiceUser user serviceNs serviceName =>
    change Served (m.activatedServiceUser outcomes user serviceNs serviceName) id
    rcases activatedServiceUser_cases outcomes user serviceNs serviceName m with ⟨_, hEq⟩ |
      ⟨i, _, hEq⟩ <;> rw [hEq]
    · exact h
    · exact h.insert (services_registerOrUpdateIdentity m.serviceCredentialsProvider (i.withUser user))
  | releaseDeviceId lookup uuid =>
    change Served (m.releaseDeviceId outcomes lookup uuid) id
    rcases releaseDeviceId_cases outcomes lookup uuid m with ⟨_, hEq⟩ | ⟨i, _, _, _, hEq⟩ <;> rw [hEq]
    · exact h
    · exact h.insert (services_registerOrUpdateIdentity m.serviceCredentialsProvider (recordDeviceId uuid i))
  | identityManagerInitialized | identityManagerStarted | identityManagerDebug => exact h

/-- Without a deletion, the manager tells itself only that it is ready, and only once both watchers are. -/
theorem selfSent_announces {msg x : IdentityManagerProtocol} {m : IdentityManager}
    (hMsg : ∀ c, msg ≠ .deletedServiceCandidate c) (hx : x ∈ m.selfSent msg) :
    x = .identityManagerReady ∧ (handle outcomes order msg m).deploymentWatchersReady = N_WATCHERS := by
  rw [handle_watchersReady]
  cases tellsItself_of_mem hx with
  | creatorReady hWatchers => exact ⟨rfl, by simpa⟩
  | watcherReady hWatchers hCreator => exact ⟨rfl, by simpa using hWatchers⟩
  | deleted candidate identity hCandidate hIdentity => exact absurd rfl (hMsg candidate)

theorem handle_candidates {msg : IdentityManagerProtocol} (hMsg : ∀ c, msg ≠ .foundServiceCandidate c)
    (m : IdentityManager) :
    (handle outcomes order msg m).existingServiceCandidates = m.existingServiceCandidates ∧
      (handle outcomes order msg m).missingServiceCandidates = m.missingServiceCandidates := by
  by_cases hReport : IsReport msg
  · cases msg with
    | foundServiceCandidate c => exact absurd rfl (hMsg c)
    | foundServiceUser user activated => cases activated <;> exact ⟨rfl, rfl⟩
    | _ => exact absurd hReport id
  · exact ⟨(handle_sameRecords outcomes order hReport m).candidates,
      (handle_sameRecords outcomes order hReport m).missing⟩

theorem foundServiceCandidate_existing {c : ServiceCandidate} {m : IdentityManager} {id : String}
    (h : id ∈ (m.foundServiceCandidate c).existingServiceCandidates) :
    id ∈ m.existingServiceCandidates ∨ Served m id := by
  rcases foundServiceCandidate_cases c m with ⟨-, hEq⟩ | ⟨id', i, -, hFound, hEq⟩ | ⟨_, -, -, hEq⟩ <;>
    rw [hEq] at h
  · exact .inl h
  · rcases (AList.mem_insert _).mp h with rfl | h
    · exact .inr ⟨i, hFound⟩
    · exact .inl h
  · exact .inl h

theorem identityManagerReady_served {m : IdentityManager}
    (hRetained : ∀ i ∈ m.serviceCredentialsProvider.identities, m.Retained i)
    (hPool : ((HashMap.values m.missingServiceCandidates).filter m.isUnserved).length ≤ m.pool.length)
    (hKeyed : MissingKeyed m) {id : String} (h : id ∈ m.missingServiceCandidates) :
    Served (m.identityManagerReady outcomes order) id := by
  obtain ⟨c, hLookup⟩ := HashMap.mem_iff_exists_lookup.mp h
  obtain ⟨hIdentities, hSamePool⟩ : (m.reconcile outcomes order).identities = m.identities ∧
      (m.reconcile outcomes order).pool = m.pool := reconcile_retains hRetained
  have hSame : (m.reconcile outcomes order).isUnserved = m.isUnserved := by
    funext c
    simp only [isUnserved, hIdentities]
  have hMissing := (reconcile_sameRecords outcomes order m).missing
  refine foldl_requestServiceIdentity_served _ _ ?_ (order.mem_walk.mpr ?_) (hKeyed id c hLookup)
  · rw [hSame, hSamePool, hMissing, ((order.perm _).filter _).length_eq]
    exact hPool
  · rw [hMissing]
    exact HashMap.mem_values.mpr ⟨id, hLookup⟩

end SdpK8sInjector.IdentityService.IdentityManager

namespace SdpK8sInjector.IdentityService.Processes

open Lib Common IdentityManager

variable {outcomes : Nat → CallOutcome} {env : Surroundings}

/-- Nothing is deleted, and each of the two watchers sends its reports before it announces itself. -/
def Undisturbed (s : Processes) : Event → Prop
  | .arrive (.foundServiceCandidate _) | .arrive .deploymentWatcherReady =>
    s.manager.identityManagerQueue.history.count .deploymentWatcherReady < 2
  | .arrive (.deletedServiceCandidate _) => False
  | .arrive _ => True
  | .handle _ => s.manager.identityManagerQueue.pending.head? = some .identityManagerReady →
    ∀ i ∈ s.manager.serviceCredentialsProvider.identities, s.manager.Retained i
  | .receive _ | .deliver => True

/-- There is a user for whoever is served next. -/
def PoolSuffices (s : Processes) : Event → Prop
  | .handle _ =>
    match s.manager.identityManagerQueue.pending.head? with
    | some (.requestServiceIdentity candidate) =>
      s.manager.isUnserved candidate = true → s.manager.pool ≠ []
    | some .identityManagerReady =>
      ((HashMap.values s.manager.missingServiceCandidates).filter s.manager.isUnserved).length ≤ s.manager.pool.length
    | _ => True
  | _ => True

instance (s : Processes) : (event : Event) → Decidable (Undisturbed s event)
  | .arrive (.foundServiceCandidate _) | .arrive .deploymentWatcherReady =>
    inferInstanceAs (Decidable (s.manager.identityManagerQueue.history.count .deploymentWatcherReady < 2))
  | .arrive (.deletedServiceCandidate _) => .isFalse not_false
  | .arrive (.requestServiceIdentity _) | .arrive (.deleteServiceIdentity _) | .arrive (.foundServiceUser _ _)
  | .arrive .identityCreatorReady | .arrive .identityManagerInitialized | .arrive .identityManagerStarted
  | .arrive .identityManagerReady | .arrive (.identityManagerDebug _) | .arrive (.activatedServiceUser _ _ _)
  | .arrive (.releaseDeviceId _ _) => .isTrue trivial
  | .handle _ => inferInstanceAs (Decidable
      (s.manager.identityManagerQueue.pending.head? = some .identityManagerReady →
        ∀ i ∈ s.manager.serviceCredentialsProvider.identities, s.manager.Retained i))
  | .receive _ | .deliver => .isTrue trivial

instance (s : Processes) : (event : Event) → Decidable (PoolSuffices s event)
  | .handle _ => by
    dsimp only [PoolSuffices]
    generalize s.manager.identityManagerQueue.pending.head? = first
    exact match first with
      | some (.requestServiceIdentity candidate) =>
        inferInstanceAs (Decidable (s.manager.isUnserved candidate = true → s.manager.pool ≠ []))
      | some .identityManagerReady => inferInstanceAs (Decidable
          (((HashMap.values s.manager.missingServiceCandidates).filter s.manager.isUnserved).length ≤
            s.manager.pool.length))
      | none | some (.deleteServiceIdentity _) | some (.foundServiceCandidate _) | some (.deletedServiceCandidate _)
      | some (.foundServiceUser _ _) | some .identityCreatorReady | some .deploymentWatcherReady
      | some .identityManagerInitialized | some .identityManagerStarted | some (.identityManagerDebug _)
      | some (.activatedServiceUser _ _ _) | some (.releaseDeviceId _ _) => .isTrue trivial
  | .arrive _ | .receive _ | .deliver => .isTrue trivial

structure Serving (s : Processes) : Prop where
  recorded : Recorded s.manager
  undeleted : ∀ msg ∈ s.manager.identityManagerQueue.history,
    (∀ i, msg ≠ .deleteServiceIdentity i) ∧ ∀ c, msg ≠ .deletedServiceCandidate c
  outbox : ∀ msg ∈ s.creator.outbox, isFromCreator msg = true
  counted : s.manager.deploymentWatchersReady =
    UInt8.ofNat (s.manager.identityManagerQueue.received.count .deploymentWatcherReady)
  atMostTwo : s.manager.identityManagerQueue.history.count .deploymentWatcherReady ≤ 2
  ordered : ∀ before c later, s.manager.identityManagerQueue.history = before ++ .foundServiceCandidate c :: later →
    before.count .deploymentWatcherReady < 2
  announced : .identityManagerReady ∈ s.manager.identityManagerQueue.history →
    s.manager.identityManagerQueue.received.count .deploymentWatcherReady = 2
  existing : ∀ id ∈ s.manager.existingServiceCandidates, Served s.manager id
  requested : ∀ c id, .requestServiceIdentity c ∈ s.manager.identityManagerQueue.received →
    MaybeService.serviceId c = .ok id → Served s.manager id
  missing : .identityManagerReady ∈ s.manager.identityManagerQueue.received →
    ∀ id ∈ s.manager.missingServiceCandidates, Served s.manager id

namespace Serving

variable {s t : Processes}

/-- A message that arrives changes the history only. -/
theorem send (h : Serving s) {msg : IdentityManagerProtocol} {outbox : List IdentityManagerProtocol}
    (hUndeleted : (∀ i, msg ≠ .deleteServiceIdentity i) ∧ ∀ c, msg ≠ .deletedServiceCandidate c)
    (hOutbox : ∀ x ∈ outbox, isFromCreator x = true)
    (hWatcher : msg = .deploymentWatcherReady →
      s.manager.identityManagerQueue.history.count .deploymentWatcherReady < 2)
    (hFound : (∃ c, msg = .foundServiceCandidate c) →
      s.manager.identityManagerQueue.history.count .deploymentWatcherReady < 2)
    (hReady : msg ≠ .identityManagerReady) :
    Serving ⟨s.manager.sendToSelf msg, { s.creator with outbox := outbox }⟩ where
  recorded := ⟨h.recorded.activated, h.recorded.deactivated, h.recorded.candidates, h.recorded.missing_keyed⟩
  undeleted x hx := by
    rcases List.mem_append.mp ((Channel.history_send _ _) ▸ hx) with hx | hx
    · exact h.undeleted x hx
    · exact List.mem_singleton.mp hx ▸ hUndeleted
  outbox := hOutbox
  counted := h.counted
  atMostTwo := by
    have hBefore := h.atMostTwo
    simp only [sendToSelf, Channel.history_send, List.count_append, List.count_singleton]
    split
    · have := hWatcher (eq_of_beq ‹_›)
      omega
    · omega
  ordered before c later hEq := by
    rw [sendToSelf, Channel.history_send] at hEq
    rcases List.append_eq_append_iff.mp hEq with ⟨rest, hBefore, hLast⟩ | ⟨rest, hHistory, hLast⟩
    · cases rest with
      | nil =>
        rw [List.append_nil] at hBefore
        cases hLast
        rw [hBefore]
        exact hFound ⟨c, rfl⟩
      | cons x rest => simp at hLast
    · cases rest with
      | nil =>
        rw [List.append_nil] at hHistory
        cases hLast
        rw [← hHistory]
        exact hFound ⟨c, rfl⟩
      | cons x rest =>
        rw [List.cons_append] at hLast
        cases hLast
        exact h.ordered before c rest hHistory
  announced hx := by
    rcases List.mem_append.mp ((Channel.history_send _ _) ▸ hx) with hx | hx
    · exact h.announced hx
    · exact absurd (List.mem_singleton.mp hx).symm hReady
  existing := h.existing
  requested := h.requested
  missing := h.missing

theorem arrive (h : Serving s) {msg : IdentityManagerProtocol} (hMsg : isFromWatchers msg = true)
    (hAllowed : Undisturbed s (.arrive msg)) : Serving { s with manager := s.manager.sendToSelf msg } := by
  refine h.send ⟨?_, ?_⟩ h.outbox ?_ ?_ ?_
  · rintro i rfl
    cases hMsg
  · rintro c rfl
    exact hAllowed
  · rintro rfl
    exact hAllowed
  · rintro ⟨c, rfl⟩
    exact hAllowed
  · rintro rfl
    cases hMsg

theorem deliver (h : Serving s) {msg : IdentityManagerProtocol} {rest : List IdentityManagerProtocol}
    (hOutbox : s.creator.outbox = msg :: rest) :
    Serving ⟨s.manager.sendToSelf msg, { s.creator with outbox := rest }⟩ := by
  have hMsg := h.outbox msg (hOutbox ▸ List.mem_cons_self)
  refine h.send ⟨?_, ?_⟩ (fun x hx => h.outbox x (hOutbox ▸ List.mem_cons_of_mem _ hx)) ?_ ?_ ?_
  · rintro i rfl
    cases hMsg
  · rintro c rfl
    cases hMsg
  · rintro rfl
    cases hMsg
  · rintro ⟨c, rfl⟩
    cases hMsg
  · rintro rfl
    cases hMsg

theorem received (h : Serving s) {queue : Channel IdentityCreatorProtocol} {c : IdentityCreator}
    (hOutbox : ∀ x ∈ c.outbox, isFromCreator x = true) :
    Serving ⟨{ s.manager with identityCreatorQueue := queue }, c⟩ :=
  ⟨⟨h.recorded.activated, h.recorded.deactivated, h.recorded.candidates, h.recorded.missing_keyed⟩, h.undeleted,
    hOutbox, h.counted, h.atMostTwo, h.ordered, h.announced, h.existing, h.requested, h.missing⟩

theorem handled (h : Serving s) {msg : IdentityManagerProtocol} {queue : Channel IdentityManagerProtocol}
    {order : IterationOrder} (hRecv : s.manager.identityManagerQueue.recv = some (msg, queue))
    (hUndisturbed : Undisturbed s (.handle order)) (hPool : PoolSuffices s (.handle order)) :
    Serving { s with manager := handle outcomes order msg { s.manager with identityManagerQueue := queue } } := by
  obtain ⟨rest, hPending, hQueue⟩ := Channel.recv_eq_some.mp hRecv
  have hHead : s.manager.identityManagerQueue.pending.head? = some msg := hPending ▸ rfl
  simp only [Undisturbed, PoolSuffices, hHead, Option.some.injEq] at hUndisturbed hPool
  obtain ⟨hNoDelete, hNoDeleted⟩ :=
    h.undeleted msg (Channel.mem_history_of_pending (hPending ▸ List.mem_cons_self))
  let m : IdentityManager := { s.manager with identityManagerQueue := queue }
  have hNext := handle_queue outcomes order msg m
  have hSelf : ∀ x ∈ m.selfSent msg, x = .identityManagerReady ∧
      (handle outcomes order msg m).deploymentWatchersReady = N_WATCHERS :=
    fun x hx => selfSent_announces hNoDeleted hx
  have hHistory : (handle outcomes order msg m).identityManagerQueue.history =
      s.manager.identityManagerQueue.history ++ m.selfSent msg := by
    rw [hNext, Channel.history_sendAll, Channel.history_recv hRecv]
  have hReceived : (handle outcomes order msg m).identityManagerQueue.received =
      s.manager.identityManagerQueue.received ++ [msg] := by
    rw [hNext, Channel.received_sendAll]
    exact congrArg Channel.received hQueue
  have hOwn : (m.selfSent msg).count .deploymentWatcherReady = 0 := by
    refine List.count_eq_zero.mpr fun hx => ?_
    cases (hSelf _ hx).1
  have hRegistered : ∀ id, Served s.manager id → Served (handle outcomes order msg m) id :=
    fun id => handle_registered (m := m) hNoDelete hUndisturbed
  have hCounted : (handle outcomes order msg m).deploymentWatchersReady = UInt8.ofNat
      ((handle outcomes order msg m).identityManagerQueue.received.count .deploymentWatcherReady) := by
    rw [handle_watchersReady, hReceived, List.count_append, List.count_singleton]
    by_cases hWatcher : msg = .deploymentWatcherReady
    · simp [m, hWatcher, h.counted]
    · simp [m, hWatcher, h.counted]
  have hAtMostTwo : (handle outcomes order msg m).identityManagerQueue.history.count .deploymentWatcherReady ≤ 2 := by
    rw [hHistory, List.count_append, hOwn]
    exact h.atMostTwo
  have hFewer : (handle outcomes order msg m).identityManagerQueue.received.count .deploymentWatcherReady ≤ 2 :=
    le_trans (List.Sublist.count_le _ (List.sublist_append_left _ _)) hAtMostTwo
  have hAnnounced : .identityManagerReady ∈ (handle outcomes order msg m).identityManagerQueue.history →
      (handle outcomes order msg m).identityManagerQueue.received.count .deploymentWatcherReady = 2 := by
    intro hx
    rw [hHistory] at hx
    rcases List.mem_append.mp hx with hx | hx
    · have hTwo := h.announced hx
      have hMore : 2 ≤ (handle outcomes order msg m).identityManagerQueue.received.count .deploymentWatcherReady := by
        rw [hReceived, List.count_append]
        omega
      omega
    · have hTwo := (hSelf _ hx).2
      rw [hCounted] at hTwo
      generalize (handle outcomes order msg m).identityManagerQueue.received.count _ = n at hTwo hFewer ⊢
      have hCases : n = 0 ∨ n = 1 ∨ n = 2 := by omega
      rcases hCases with rfl | rfl | rfl
      · exact absurd hTwo (by decide)
      · exact absurd hTwo (by decide)
      · rfl
  refine ⟨h.recorded.handled hRecv, fun x hx => ?_, h.outbox, hCounted, hAtMostTwo, fun before c later hEq => ?_,
    hAnnounced, fun id hId => ?_, fun c id hx hId => ?_, fun hx id hId => ?_⟩
  · rw [hHistory] at hx
    rcases List.mem_append.mp hx with hx | hx
    · exact h.undeleted x hx
    · rw [(hSelf x hx).1]
      simp
  · rw [hHistory] at hEq
    rcases List.append_eq_append_iff.mp hEq with ⟨own, hBefore, hLater⟩ | ⟨old, hOld, hLater⟩
    · cases (hSelf (.foundServiceCandidate c) (hLater ▸ List.mem_append_right own List.mem_cons_self)).1
    · cases old with
      | nil =>
        rw [List.nil_append] at hLater
        cases (hSelf (.foundServiceCandidate c) (hLater ▸ List.mem_cons_self)).1
      | cons x old =>
        rw [List.cons_append] at hLater
        cases hLater
        exact h.ordered before c old hOld
  · by_cases hFound : ∃ c, msg = .foundServiceCandidate c
    · obtain ⟨c, rfl⟩ := hFound
      rcases foundServiceCandidate_existing (m := m) hId with hId | hBefore
      · exact hRegistered id (h.existing id hId)
      · exact hRegistered id hBefore
    · rw [(handle_candidates (fun c hEq => hFound ⟨c, hEq⟩) m).1] at hId
      exact hRegistered id (h.existing id hId)
  · rw [hReceived] at hx
    rcases List.mem_append.mp hx with hx | hx
    · exact hRegistered id (h.requested c id hx hId)
    · cases List.mem_singleton.mp hx
      exact requestServiceIdentity_served c m hPool hId
  · by_cases hReady : msg = .identityManagerReady
    · subst hReady
      have hSame := (identityManagerReady_sameRecords outcomes order m).missing
      change id ∈ (m.identityManagerReady outcomes order).missingServiceCandidates at hId
      rw [hSame] at hId
      exact identityManagerReady_served (m := m) (hUndisturbed rfl) hPool h.recorded.missing_keyed hId
    · rw [hReceived] at hx
      have hBefore : .identityManagerReady ∈ s.manager.identityManagerQueue.received :=
        (List.mem_append.mp hx).resolve_right fun hx => hReady (List.mem_singleton.mp hx).symm
      -- every report is handled before the second watcher is
      have hFound : ∀ c, msg ≠ .foundServiceCandidate c := by
        rintro c rfl
        have hTwo := h.announced (Channel.mem_history_of_received hBefore)
        have hFew := h.ordered s.manager.identityManagerQueue.received c rest (by rw [Channel.history, hPending])
        omega
      rw [(handle_candidates hFound m).2] at hId
      exact hRegistered id (h.missing hBefore id hId)

theorem step {event : Event} (h : Serving s) (hUndisturbed : Undisturbed s event) (hPool : PoolSuffices s event)
    (hNext : next outcomes env s event = some t) : Serving t := by
  cases next_move outcomes env hNext with
  | arrive msg hMsg => exact h.arrive hMsg hUndisturbed
  | handle order msg queue hRecv => exact h.handled hRecv hUndisturbed hPool
  | receive order msg queue hOutbox hStatus hRecv =>
    exact h.received (receive_outbox env order msg s.creator h.outbox)
  | deliver msg rest hOutbox => exact h.deliver hOutbox

end Serving

section Handled

variable {clusterId : String} {stored : List ServiceIdentity} {system : System} {secret : SecretApi} {poolSize : Nat}
  {s : Processes}

theorem serving_started : Serving (started clusterId stored system secret poolSize) := by
  obtain ⟨provider, hRestored⟩ := restored_frame clusterId stored
  have hRecorded := recorded_initializeFrom clusterId ⟨.holding stored, 0, []⟩ stored
  refine ⟨hRecorded, ?_, ?_, ?_, ?_, ?_, ?_, ?_, ?_, ?_⟩
  all_goals
    simp [started, hRestored, IdentityCreator.new, new, sendToCreator, Channel.empty, Channel.history]

/-- Once the manager has reconciled, whoever was found or requested is registered, however the calls end: where
nothing is deleted, the pool is all that matters. -/
theorem handled_candidates_registered
    (hRun : Steps (next outcomes env) (fun s event => Undisturbed s event ∧ PoolSuffices s event)
      (started clusterId stored system secret poolSize) s)
    (hReady : .identityManagerReady ∈ s.manager.identityManagerQueue.received) :
    ∀ c id, .foundServiceCandidate c ∈ s.manager.identityManagerQueue.received ∨
        .requestServiceIdentity c ∈ s.manager.identityManagerQueue.received →
      MaybeService.serviceId c = .ok id → Served s.manager id := by
  have hServing := hRun.invariant Serving (fun _ _ _ h hAllowed hNext => h.step hAllowed.1 hAllowed.2 hNext)
    serving_started
  intro c id hHandled hId
  rcases hHandled with hFound | hRequested
  · rcases (hServing.recorded.candidates id).mpr ⟨c, hFound, hId⟩ with hKnown | hMissing
    · exact hServing.existing id hKnown
    · exact hServing.missing hReady id hMissing
  · exact hServing.requested c id hRequested hId

end Handled

/-- The creator fills the pool, the candidates are found, the manager reconciles, and then both go on until
there is nothing left to do. -/
def sampleSchedule (poolSize : Nat) (services : List String) : List Event :=
  .receive .asStored :: (services.map fun service => .arrive (.foundServiceCandidate (sampleCandidate service))) ++
    List.replicate (poolSize + 1) .deliver ++ [.arrive .deploymentWatcherReady, .arrive .deploymentWatcherReady] ++
    List.replicate (poolSize + services.length + 4) (.handle .asStored) ++ [.receive .asStored] ++
    (List.replicate (2 * poolSize) [.receive .asStored, .deliver]).flatten ++
    List.replicate (2 * poolSize) (.handle .asStored)

def sampleService (poolSize : Nat) : Processes :=
  started "cluster" [] ⟨⟨[], [], []⟩, 0, []⟩ ⟨some ⟨some ∅⟩, 0, []⟩ poolSize

def sampleServed (poolSize : Nat) (services : List String) : Processes :=
  runD (next (fun _ => .delivered) (IdentityCreator.sampleSurroundings fun _ => .delivered)) (sampleService poolSize)
    (sampleSchedule poolSize services)

theorem handled_candidates_sample : Served (sampleServed 1 ["a"]).manager "ns_a" := by
  have hRun : Steps (next (fun _ => .delivered) (IdentityCreator.sampleSurroundings fun _ => .delivered))
      (fun s event => Undisturbed s event ∧ PoolSuffices s event) (sampleService 1) (sampleServed 1 ["a"]) :=
    Steps.of_runD (sampleSchedule 1 ["a"]) (by decide +kernel) (by decide +kernel)
  exact handled_candidates_registered hRun (by decide +kernel) (sampleCandidate "a") "ns_a"
    (.inl (by decide +kernel)) (by decide)

def elevenServices : List String := ["a", "b", "c", "d", "e", "f", "g", "h", "i", "j", "k"]

/-- The pool has ten users. Ten more are created and every queue is drained, and one of the eleven is left out. -/
theorem request_lost_to_empty_pool :
    Steps (next (fun _ => .delivered) (IdentityCreator.sampleSurroundings fun _ => .delivered)) Undisturbed
      (sampleService 10) (sampleServed 10 elevenServices) ∧
    (.identityManagerReady ∈ (sampleServed 10 elevenServices).manager.identityManagerQueue.received ∧
      (sampleServed 10 elevenServices).manager.identityManagerQueue.pending = [] ∧
      (sampleServed 10 elevenServices).manager.identityCreatorQueue.pending = [] ∧
      (sampleServed 10 elevenServices).creator.outbox = [] ∧
      (sampleServed 10 elevenServices).manager.failures = [] ∧
      (sampleServed 10 elevenServices).creator.system.failed = [] ∧
      (sampleServed 10 elevenServices).manager.pool.length = 10 ∧
      .foundServiceCandidate (sampleCandidate "a") ∈
        (sampleServed 10 elevenServices).manager.identityManagerQueue.received ∧
      MaybeService.serviceId (sampleCandidate "a") = .ok "ns_a" ∧
      (sampleServed 10 elevenServices).manager.identities.lookup "ns_a" = none) := by
  have hRun : Admits (next (fun _ => .delivered) (IdentityCreator.sampleSurroundings fun _ => .delivered)) Undisturbed
        (sampleService 10) (sampleSchedule 10 elevenServices) ∧
      (run (next (fun _ => .delivered) (IdentityCreator.sampleSurroundings fun _ => .delivered)) (sampleService 10)
        (sampleSchedule 10 elevenServices)).isSome = true := by decide +kernel
  refine ⟨?_, by decide +kernel⟩
  unfold sampleServed
  exact Steps.of_runD (sampleSchedule 10 elevenServices) hRun.1 hRun.2

end SdpK8sInjector.IdentityService.Processes
