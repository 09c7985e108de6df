import SdpK8sInjector.IdentityService.Reconciliation

/-! # Frames of the handlers, and requests for a list of candidates

What a handler sends to its own queue, and what only ever grows. A request either
finds its service registered, or binds it to the first user of the pool, or is
refused because the pool is empty.
-/

namespace SdpK8sInjector.IdentityService.IdentityManager

open Lib Common ServiceCredentialsProvider

variable (outcomes : Nat → CallOutcome) (order : IterationOrder)

/-- The failures logged and the requests refused only ever grow. -/
structure Grows (m m' : IdentityManager) : Prop where
  failures : m.failures <+: m'.failures
  emptyPoolErrors : m.emptyPoolErrors <+: m'.emptyPoolErrors

namespace Grows

variable {m m' m'' : IdentityManager}

theorem refl (m : IdentityManager) : Grows m m := ⟨List.prefix_refl _, List.prefix_refl _⟩

theorem trans (h : Grows m m') (h' : Grows m' m'') : Grows m m'' :=
  ⟨h.failures.trans h'.failures, h.emptyPoolErrors.trans h'.emptyPoolErrors⟩

theorem foldl {α : Type} {step : IdentityManager → α → IdentityManager} (hStep : ∀ m x, Grows m (step m x))
    (xs : List α) (m : IdentityManager) : Grows m (xs.foldl step m) := by
  induction xs generalizing m with
  | nil => exact refl m
  | cons x rest ih => exact (hStep m x).trans (ih _)

end Grows

theorem deleteServiceIdentity_grows (identity : ServiceIdentity) (m : IdentityManager) :
    Grows m (m.deleteServiceIdentity outcomes identity) := by
  obtain ⟨deleted, -, h, -⟩ := deleteServiceIdentity_deleted outcomes identity m
  refine ⟨h.failures, ?_⟩
  exact h.frame ▸ List.prefix_refl _

theorem requestServiceIdentity_grows (c : ServiceCandidate) (m : IdentityManager) :
    Grows m (m.requestServiceIdentity outcomes c) := by
  have h := requestServiceIdentity_outcome outcomes c m
  generalize m.requestServiceIdentity outcomes c = m' at h ⊢
  cases h with
  | noNamespace | registered => exact Grows.refl m
  | emptyPool => exact ⟨List.prefix_refl _, List.prefix_append _ _⟩
  | created _ lookup _ user _ api _ _ _ _ hCreate | createFailed _ lookup user _ _ api _ _ _ _ hCreate =>
    have hPrefix := ServiceIdentityAPI.failed_prefix_create outcomes m.serviceIdentityApi
      (identityFor lookup user)
    rw [hCreate] at hPrefix
    exact ⟨hPrefix, List.prefix_refl _⟩

theorem reconcile_grows (m : IdentityManager) : Grows m (m.reconcile outcomes order) := by
  obtain ⟨_, _, _, h⟩ := reconcile_spec outcomes order m
  refine ⟨h.failures, ?_⟩
  exact h.frame ▸ List.prefix_refl _

theorem requestMissing_grows (m : IdentityManager) : Grows m (m.requestMissing outcomes order) :=
  Grows.foldl (fun m c => requestServiceIdentity_grows _ c m) _ m

theorem identityManagerReady_grows (m : IdentityManager) : Grows m (m.identityManagerReady outcomes order) := by
  obtain ⟨hFailures, hErrors⟩ :=
    (reconcile_grows outcomes order m).trans (requestMissing_grows _ _ _)
  exact ⟨hFailures, hErrors⟩

theorem handle_grows (msg : IdentityManagerProtocol) (m : IdentityManager) :
    Grows m (handle outcomes order msg m) := by
  cases msg with
  | requestServiceIdentity candidate => exact requestServiceIdentity_grows _ candidate m
  | deleteServiceIdentity identity => exact deleteServiceIdentity_grows _ identity m
  | foundServiceCandidate candidate =>
    change Grows m (m.foundServiceCandidate candidate)
    rcases foundServiceCandidate_cases candidate m with ⟨-, h⟩ | ⟨_, _, -, -, h⟩ |
      ⟨_, -, -, h⟩ <;> rw [h] <;>
      exact ⟨List.prefix_refl _, List.prefix_refl _⟩
  | foundServiceUser user activated => cases activated <;> exact ⟨List.prefix_refl _, List.prefix_refl _⟩
  | deletedServiceCandidate candidate =>
    change Grows m (m.deletedServiceCandidate candidate)
    rcases deletedServiceCandidate_cases candidate m with ⟨_, _, _, _, h⟩ | ⟨_, h⟩ <;> rw [h] <;>
      exact ⟨List.prefix_refl _, List.prefix_refl _⟩
  | identityCreatorReady =>
    obtain ⟨_, _, h⟩ := identityCreatorReadyHandler_cases m
    change Grows m m.identityCreatorReadyHandler
    exact h ▸ ⟨List.prefix_refl _, List.prefix_refl _⟩
  | deploymentWatcherReady =>
    obtain ⟨_, _, h⟩ := deploymentWatcherReady_cases m
    change Grows m m.deploymentWatcherReady
    exact h ▸ ⟨List.prefix_refl _, List.prefix_refl _⟩
  | identityManagerReady => exact identityManagerReady_grows _ _ m
  | activatedServiceUser user serviceNs serviceName =>
    change Grows m (m.activatedServiceUser outcomes user serviceNs serviceName)
    rcases activatedServiceUser_cases outcomes user serviceNs serviceName m with
      ⟨_, h⟩ | ⟨_, _, h⟩ <;> rw [h]
    · exact Grows.refl m
    · exact ⟨ServiceIdentityAPI.failed_prefix_update _ _ _, List.prefix_refl _⟩
  | releaseDeviceId lookup uuid =>
    change Grows m (m.releaseDeviceId outcomes lookup uuid)
    rcases releaseDeviceId_cases outcomes lookup uuid m with
      ⟨_, h⟩ | ⟨_, _, _, _, h⟩ <;> rw [h]
    · exact Grows.refl m
    · exact ⟨ServiceIdentityAPI.failed_prefix_update _ _ _, List.prefix_refl _⟩
  | identityManagerInitialized | identityManagerStarted | identityManagerDebug => exact Grows.refl m

/-- The messages that the manager sends to itself while it handles one. -/
def selfSent (m : IdentityManager) : IdentityManagerProtocol → List IdentityManagerProtocol
  | .identityCreatorReady => if m.deploymentWatchersReady = N_WATCHERS then [.identityManagerReady] else []
  | .deploymentWatcherReady =>
    if m.deploymentWatchersReady + 1 = N_WATCHERS ∧ m.identityCreatorReady = true then [.identityManagerReady]
    else []
  | .deletedServiceCandidate c =>
    match ServiceLookup.tryFromService c with
    | .ok lookup => (m.serviceCredentialsProvider.identity lookup).toList.map .deleteServiceIdentity
    | .error _ => []
  | _ => []

/-- When the manager sends itself what. -/
inductive TellsItself (m : IdentityManager) : IdentityManagerProtocol → IdentityManagerProtocol → Prop where
  | creatorReady (hWatchers : m.deploymentWatchersReady = N_WATCHERS) :
      TellsItself m .identityCreatorReady .identityManagerReady
  | watcherReady (hWatchers : m.deploymentWatchersReady + 1 = N_WATCHERS) (hCreator : m.identityCreatorReady = true) :
      TellsItself m .deploymentWatcherReady .identityManagerReady
  | deleted (candidate : ServiceCandidate) (identity : ServiceIdentity)
      (hCandidate : MaybeService.serviceId candidate = .ok (Service.serviceId identity))
      (hIdentity : m.identities.lookup (Service.serviceId identity) = some identity) :
      TellsItself m (.deletedServiceCandidate candidate) (.deleteServiceIdentity identity)

theorem tellsItself_of_mem {msg x : IdentityManagerProtocol} {m : IdentityManager} (hx : x ∈ m.selfSent msg) :
    TellsItself m msg x := by
  cases msg with
  | identityCreatorReady =>
    rw [selfSent] at hx
    split at hx
    · cases List.mem_singleton.mp hx
      exact .creatorReady ‹_›
    · cases hx
  | deploymentWatcherReady =>
    rw [selfSent] at hx
    split at hx
    · rename_i hReady
      cases List.mem_singleton.mp hx
      exact .watcherReady hReady.1 hReady.2
    · cases hx
  | deletedServiceCandidate candidate =>
    rw [selfSent] at hx
    split at hx
    · rename_i lookup hLookup
      obtain ⟨identity, hFound, rfl⟩ := List.mem_map.mp hx
      have hIdentity : m.identities.lookup (formatServiceId lookup.ns lookup.name) = some identity :=
        Option.mem_toList.mp hFound
      have hKey := ServiceCredentialsProvider.keyed _ _ identity hIdentity
      exact .deleted candidate identity (hKey ▸ ServiceLookup.serviceId_of_tryFromService hLookup)
        (hKey ▸ hIdentity)
    · cases hx
  | _ => cases hx

theorem deleteServiceIdentity_queue (identity : ServiceIdentity) (m : IdentityManager) :
    (m.deleteServiceIdentity outcomes identity).identityManagerQueue = m.identityManagerQueue := by
  obtain ⟨deleted, -, h, -⟩ := deleteServiceIdentity_deleted outcomes identity m
  rw [h.frame]

theorem requestServiceIdentity_queue (c : ServiceCandidate) (m : IdentityManager) :
    (m.requestServiceIdentity outcomes c).identityManagerQueue = m.identityManagerQueue := by
  have h := requestServiceIdentity_outcome outcomes c m
  generalize m.requestServiceIdentity outcomes c = m' at h ⊢
  cases h <;> rfl

theorem identityManagerReady_queue (m : IdentityManager) :
    (m.identityManagerReady outcomes order).identityManagerQueue = m.identityManagerQueue := by
  obtain ⟨_, _, _, h⟩ := reconcile_spec outcomes order m
  have hReconcile : (m.reconcile outcomes order).identityManagerQueue = m.identityManagerQueue := by rw [h.frame]
  refine Eq.trans ?_ hReconcile
  change ((m.reconcile outcomes order).requestMissing outcomes order).identityManagerQueue = _
  rw [requestMissing]
  generalize order.walk _ = candidates
  generalize m.reconcile outcomes order = m₁
  induction candidates generalizing m₁ with
  | nil => rfl
  | cons c rest ih => exact (ih _).trans (requestServiceIdentity_queue _ c m₁)

theorem handle_queue (msg : IdentityManagerProtocol) (m : IdentityManager) :
    (handle outcomes order msg m).identityManagerQueue = m.identityManagerQueue.sendAll (m.selfSent msg) := by
  cases msg with
  | requestServiceIdentity candidate =>
    simpa [handle, selfSent] using requestServiceIdentity_queue _ candidate m
  | deleteServiceIdentity identity =>
    simpa [handle, selfSent] using deleteServiceIdentity_queue _ identity m
  | identityManagerReady => simpa [handle, selfSent] using identityManagerReady_queue _ _ m
  | foundServiceCandidate candidate =>
    simp only [handle, selfSent, Channel.sendAll_nil]
    rcases foundServiceCandidate_cases candidate m with ⟨-, h⟩ | ⟨_, _, -, -, h⟩ | ⟨_, -, -, h⟩ <;> rw [h]
  | foundServiceUser user activated => cases activated <;> simp [handle, selfSent, foundServiceUser]
  | deletedServiceCandidate candidate =>
    simp only [handle, selfSent, deletedServiceCandidate]
    cases ServiceLookup.tryFromService candidate with
    | error e => simp
    | ok lookup =>
      dsimp only
      cases m.serviceCredentialsProvider.identity lookup <;> simp [sendToSelf, Channel.send_eq_sendAll]
  | identityCreatorReady =>
    simp only [handle, selfSent, identityCreatorReadyHandler]
    split <;> simp [sendToSelf, Channel.send_eq_sendAll]
  | deploymentWatcherReady =>
    simp only [handle, selfSent, deploymentWatcherReady]
    split <;> simp [sendToSelf, Channel.send_eq_sendAll]
  | activatedServiceUser user serviceNs serviceName =>
    simp only [handle, selfSent, Channel.sendAll_nil]
    rcases activatedServiceUser_cases outcomes user serviceNs serviceName m with
      ⟨_, h⟩ | ⟨_, _, h⟩ <;> rw [h]
  | releaseDeviceId lookup uuid =>
    simp only [handle, selfSent, Channel.sendAll_nil]
    rcases releaseDeviceId_cases outcomes lookup uuid m with
      ⟨_, h⟩ | ⟨_, _, _, _, h⟩ <;> rw [h]
  | identityManagerInitialized | identityManagerStarted | identityManagerDebug => simp [handle, selfSent]

/-- Both reports that the manager waits for. -/
structure SameFlags (m m' : IdentityManager) : Prop where
  watchers : m'.deploymentWatchersReady = m.deploymentWatchersReady
  creator : m'.identityCreatorReady = m.identityCreatorReady

theorem requestServiceIdentity_sameFlags (c : ServiceCandidate) (m : IdentityManager) :
    SameFlags m (m.requestServiceIdentity outcomes c) := by
  have hOutcome := requestServiceIdentity_outcome outcomes c m
  generalize m.requestServiceIdentity outcomes c = m' at hOutcome ⊢
  cases hOutcome <;> exact ⟨rfl, rfl⟩

theorem identityManagerReady_sameFlags (m : IdentityManager) :
    SameFlags m (m.identityManagerReady outcomes order) := by
  have hReconcile : SameFlags m (m.reconcile outcomes order) := by
    obtain ⟨_, _, _, h⟩ := reconcile_spec outcomes order m
    rw [h.frame]
    exact ⟨rfl, rfl⟩
  have hRequests : ∀ (candidates : List ServiceCandidate) (m : IdentityManager),
      SameFlags m (candidates.foldl (fun m c => m.requestServiceIdentity outcomes c) m) := by
    intro candidates
    induction candidates with
    | nil => exact fun m => ⟨rfl, rfl⟩
    | cons c rest ih =>
      intro m
      have hFirst := requestServiceIdentity_sameFlags outcomes c m
      have hRest := ih (m.requestServiceIdentity outcomes c)
      exact ⟨hRest.watchers.trans hFirst.watchers, hRest.creator.trans hFirst.creator⟩
  have hRequested := hRequests (order.walk (HashMap.values (m.reconcile outcomes order).missingServiceCandidates))
    (m.reconcile outcomes order)
  exact ⟨hRequested.watchers.trans hReconcile.watchers, hRequested.creator.trans hReconcile.creator⟩

theorem handle_sameFlags {msg : IdentityManagerProtocol} (hCreator : msg ≠ .identityCreatorReady)
    (hWatcher : msg ≠ .deploymentWatcherReady) (m : IdentityManager) :
    SameFlags m (handle outcomes order msg m) := by
  cases msg with
  | requestServiceIdentity c => exact requestServiceIdentity_sameFlags outcomes c m
  | deleteServiceIdentity identity =>
    change SameFlags m (m.deleteServiceIdentity outcomes identity)
    rcases deleteServiceIdentity_cases outcomes identity m with ⟨_, _, _, hEq⟩ | ⟨_, _, hEq⟩ <;> rw [hEq] <;>
      exact ⟨rfl, rfl⟩
  | identityManagerReady => exact identityManagerReady_sameFlags outcomes order m
  | foundServiceCandidate candidate =>
    change SameFlags m (m.foundServiceCandidate candidate)
    rcases foundServiceCandidate_cases candidate m with ⟨_, hEq⟩ | ⟨_, _, _, _, hEq⟩ | ⟨_, _, _, hEq⟩ <;>
      rw [hEq] <;> exact ⟨rfl, rfl⟩
  | foundServiceUser user activated => cases activated <;> exact ⟨rfl, rfl⟩
  | deletedServiceCandidate candidate =>
    change SameFlags m (m.deletedServiceCandidate candidate)
    rcases deletedServiceCandidate_cases candidate m with ⟨_, _, _, _, hEq⟩ | ⟨_, hEq⟩ <;> rw [hEq] <;>
      exact ⟨rfl, rfl⟩
  | identityCreatorReady => exact absurd rfl hCreator
  | deploymentWatcherReady => exact absurd rfl hWatcher
  | activatedServiceUser user serviceNs serviceName =>
    change SameFlags m (m.activatedServiceUser outcomes user serviceNs serviceName)
    rcases activatedServiceUser_cases outcomes user serviceNs serviceName m with ⟨_, hEq⟩ | ⟨_, _, hEq⟩ <;>
      rw [hEq] <;> exact ⟨rfl, rfl⟩
  | releaseDeviceId lookup uuid =>
    change SameFlags m (m.releaseDeviceId outcomes lookup uuid)
    rcases releaseDeviceId_cases outcomes lookup uuid m with ⟨_, hEq⟩ | ⟨_, _, _, _, hEq⟩ <;> rw [hEq] <;>
      exact ⟨rfl, rfl⟩
  | identityManagerInitialized | identityManagerStarted | identityManagerDebug => exact ⟨rfl, rfl⟩

theorem handle_watchersReady (msg : IdentityManagerProtocol) (m : IdentityManager) :
    (handle outcomes order msg m).deploymentWatchersReady =
      if msg = .deploymentWatcherReady then m.deploymentWatchersReady + 1 else m.deploymentWatchersReady := by
  by_cases hWatcher : msg = .deploymentWatcherReady
  · subst hWatcher
    obtain ⟨_, _, hEq⟩ := deploymentWatcherReady_cases m
    rw [handle, hEq, if_pos rfl]
  · rw [if_neg hWatcher]
    by_cases hCreator : msg = .identityCreatorReady
    · subst hCreator
      obtain ⟨_, _, hEq⟩ := identityCreatorReadyHandler_cases m
      rw [handle, hEq]
    · exact (handle_sameFlags outcomes order hCreator hWatcher m).watchers

theorem handle_creatorReady (msg : IdentityManagerProtocol) (m : IdentityManager) :
    (handle outcomes order msg m).identityCreatorReady = true ↔
      m.identityCreatorReady = true ∨ msg = .identityCreatorReady := by
  by_cases hCreator : msg = .identityCreatorReady
  · subst hCreator
    obtain ⟨_, _, hEq⟩ := identityCreatorReadyHandler_cases m
    rw [handle, hEq]
    simp
  · rw [or_iff_left hCreator]
    by_cases hWatcher : msg = .deploymentWatcherReady
    · subst hWatcher
      obtain ⟨_, _, hEq⟩ := deploymentWatcherReady_cases m
      rw [handle, hEq]
    · rw [(handle_sameFlags outcomes order hCreator hWatcher m).creator]

/-- What requests for the given candidates do to the identities and to the pool. -/
structure Requested (candidates : List ServiceCandidate) (m m' : IdentityManager) : Prop where
  kept : ∀ id i, m.identities.lookup id = some i → m'.identities.lookup id = some i
  fresh : ∀ id i, m'.identities.lookup id = some i → m.identities.lookup id = some i ∨
    ∃ c ∈ candidates, MaybeService.serviceId c = .ok id
  served : candidates.length ≤ m.pool.length ∨ m'.emptyPoolErrors = m.emptyPoolErrors →
    ∀ c ∈ candidates, ∀ id, MaybeService.serviceId c = .ok id → ∃ i, m'.identities.lookup id = some i
  pool : m.pool.length ≤ m'.pool.length + candidates.length

theorem Requested.nil (m : IdentityManager) : Requested [] m m :=
  ⟨fun _ _ h => h, fun _ _ h => .inl h, by simp, by simp⟩

theorem Requested.cons {c : ServiceCandidate} {rest : List ServiceCandidate} {m m' m'' : IdentityManager}
    (h : Requested [c] m m') (h' : Requested rest m' m'') (hGrows : Grows m m') (hGrows' : Grows m' m'') :
    Requested (c :: rest) m m'' where
  kept id i hLookup := h'.kept id i (h.kept id i hLookup)
  fresh id i hLookup := by
    rcases h'.fresh id i hLookup with hBefore | ⟨c', hc', hId⟩
    · rcases h.fresh id i hBefore with hBefore | ⟨c', hc', hId⟩
      · exact .inl hBefore
      · exact .inr ⟨c', List.mem_cons.mpr (.inl (List.mem_singleton.mp hc')), hId⟩
    · exact .inr ⟨c', List.mem_cons_of_mem _ hc', hId⟩
  served hServed c' hc' id hId := by
    have hOne : [c].length ≤ m.pool.length ∨ m'.emptyPoolErrors = m.emptyPoolErrors :=
      hServed.imp (fun hLength => le_trans (by simp) hLength) fun hErrors =>
        (prefix_between hGrows.emptyPoolErrors hGrows'.emptyPoolErrors hErrors).1
    have hRest : rest.length ≤ m'.pool.length ∨ m''.emptyPoolErrors = m'.emptyPoolErrors := by
      refine hServed.imp (fun hLength => ?_) fun hErrors =>
        (prefix_between hGrows.emptyPoolErrors hGrows'.emptyPoolErrors hErrors).2
      have hPool := h.pool
      simp only [List.length_cons, List.length_nil] at hLength hPool
      omega
    rcases List.mem_cons.mp hc' with rfl | hc'
    · obtain ⟨i, hi⟩ := h.served hOne c' (List.mem_singleton_self _) id hId
      exact ⟨i, h'.kept id i hi⟩
    · exact h'.served hRest c' hc' id hId
  pool := by
    have hOne := h.pool
    have hRest := h'.pool
    simp only [List.length_cons, List.length_nil] at hOne ⊢
    omega

theorem requestServiceIdentity_requested (c : ServiceCandidate) (m : IdentityManager) :
    Requested [c] m (m.requestServiceIdentity outcomes c) := by
  rcases requestServiceIdentity_provider outcomes c m with
    ⟨hSame, hWhy⟩ | ⟨lookup, user, rest, hId, hNone, hPool, hRest, hInsert⟩
  · refine ⟨?_, ?_, fun hServed c' hc' id hId => ?_, ?_⟩
    · simp [identities, hSame]
    · intro id i h
      exact .inl (by simpa [identities, hSame] using h)
    · cases List.mem_singleton.mp hc'
      rcases hWhy id hId with ⟨hEmpty, hErrors⟩ | ⟨identity, hLookup⟩
      · exact absurd hServed (by simp [hEmpty, hErrors])
      · exact ⟨identity, by simpa [identities, hSame] using hLookup⟩
    · simp [IdentityManager.pool, hSame]
  · refine ⟨fun id i h => ?_, fun id i h => ?_, fun _ c' hc' id hId' => ?_, by simp [hPool, hRest]⟩
    · rw [hInsert, HashMap.lookup_insert_eq_ite, if_neg, h]
      rintro rfl
      cases hNone.symm.trans h
    · rw [hInsert, HashMap.lookup_insert_eq_ite] at h
      split at h
      · exact .inr ⟨c, List.mem_singleton_self c, hId.trans (congrArg _ (Eq.symm ‹_›))⟩
      · exact .inl h
    · cases List.mem_singleton.mp hc'
      cases hId.symm.trans hId'
      exact ⟨identityFor lookup user, by rw [hInsert, AList.lookup_insert]⟩

theorem foldl_requestServiceIdentity_requested (candidates : List ServiceCandidate) (m : IdentityManager) :
    Requested candidates m (candidates.foldl (fun m c => m.requestServiceIdentity outcomes c) m) := by
  induction candidates generalizing m with
  | nil => exact Requested.nil m
  | cons c rest ih =>
    exact (requestServiceIdentity_requested _ c m).cons (ih _) (requestServiceIdentity_grows _ c m)
      (Grows.foldl (fun m c => requestServiceIdentity_grows _ c m) rest _)

end SdpK8sInjector.IdentityService.IdentityManager
