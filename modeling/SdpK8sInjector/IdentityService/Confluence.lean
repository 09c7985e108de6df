import SdpK8sInjector.IdentityService.Barrier

/-! # The reconciliation does not depend on how the reports were merged

When the manager is about to reconcile, its records are functions of what was
found and of what was stored. Two runs therefore delete the same.
-/

namespace SdpK8sInjector.IdentityService.Gathering

open Lib Common ServiceCredentialsProvider
open IdentityManager (handle Startup heldUser isStartup foundServiceCandidate_cases)

/-- The user that a message puts into the pool. -/
def offered : IdentityManagerProtocol → Option ServiceUser
  | .foundServiceUser user false => some user
  | _ => none

/-- The candidate that a message reports for the service with the given id. -/
def reported (id : String) : IdentityManagerProtocol → Option ServiceCandidate
  | .foundServiceCandidate c => if MaybeService.serviceId c = .ok id then some c else none
  | _ => none

/-- The user that a message gives up, and the service that held it. -/
def deletion : IdentityCreatorProtocol → Option (String × Option String)
  | .deleteServiceUser user serviceNs serviceName => some (user.id, some (formatServiceId serviceNs serviceName))
  | .deleteSDPUser id => some (id, none)
  | _ => none

abbrev deletions (m : IdentityManager) : List (String × Option String) :=
  m.identityCreatorQueue.history.filterMap deletion

/-- Before the reconciliation the pool and the missing candidates are what was received. -/
structure Filed (stored : HashMap String ServiceIdentity) (m : IdentityManager) : Prop where
  startup : Startup stored m
  pool : m.pool = m.identityManagerQueue.received.filterMap offered
  missing : ∀ id, m.missingServiceCandidates.lookup id =
    if stored.lookup id = none then (m.identityManagerQueue.received.filterMap (reported id)).getLast? else none
  deletions : deletions m = []

section Filing

variable {outcomes : Nat → CallOutcome} {stored : HashMap String ServiceIdentity} {m : IdentityManager}

theorem pool_handled {msg : IdentityManagerProtocol} (hMsg : isStartup msg = true) (order : IterationOrder)
    (m : IdentityManager) : (handle outcomes order msg m).pool = m.pool ++ (offered msg).toList := by
  have hSame : m.pool = m.pool ++ [] := (List.append_nil _).symm
  cases msg with
  | foundServiceUser user activated =>
    cases activated with
    | false => rfl
    | true => exact hSame
  | foundServiceCandidate c =>
    change (m.foundServiceCandidate c).pool = _
    rcases foundServiceCandidate_cases c m with ⟨_, hEq⟩ | ⟨_, _, _, _, hEq⟩ | ⟨_, _, _, hEq⟩ <;>
      rw [hEq] <;> exact hSame
  | identityCreatorReady =>
    obtain ⟨_, _, hEq⟩ := IdentityManager.identityCreatorReadyHandler_cases m
    rw [handle, hEq]
    exact hSame
  | deploymentWatcherReady =>
    obtain ⟨_, _, hEq⟩ := IdentityManager.deploymentWatcherReady_cases m
    rw [handle, hEq]
    exact hSame
  | releaseDeviceId lookup uuid =>
    change (m.releaseDeviceId outcomes lookup uuid).pool = _
    rcases IdentityManager.releaseDeviceId_cases outcomes lookup uuid m with ⟨_, hEq⟩ | ⟨_, _, _, _, hEq⟩ <;>
      rw [hEq] <;> exact hSame
  | _ => cases hMsg

/-- A report about a service without identity replaces the one before it. -/
theorem Filed.missing_handled (h : Filed stored m) (msg : IdentityManagerProtocol)
    (queue : Channel IdentityManagerProtocol) (hMsg : isStartup msg = true) (order : IterationOrder) (id : String) :
    (handle outcomes order msg { m with identityManagerQueue := queue }).missingServiceCandidates.lookup id =
      if stored.lookup id = none then
        ((m.identityManagerQueue.received ++ [msg]).filterMap (reported id)).getLast?
      else none := by
  rw [List.filterMap_append]
  by_cases hCandidate : ∃ c, msg = .foundServiceCandidate c
  · obtain ⟨c, rfl⟩ := hCandidate
    change (IdentityManager.foundServiceCandidate c
      { m with identityManagerQueue := queue }).missingServiceCandidates.lookup id = _
    rcases foundServiceCandidate_cases c { m with identityManagerQueue := queue } with
      ⟨⟨e, hId⟩, hEq⟩ | ⟨id', i, hId, hFound, hEq⟩ | ⟨id', hId, hFound, hEq⟩ <;> rw [hEq]
    · simp [reported, hId, h.missing id]
    · obtain ⟨j, hStored, _⟩ := h.startup.stored_of_registered hFound
      by_cases hSame : id' = id
      · subst hSame
        simp [hStored, h.missing id']
      · simp [reported, hId, hSame, h.missing id]
    · have hNone := h.startup.unregistered hFound
      simp only [HashMap.lookup_insert_eq_ite]
      by_cases hSame : id = id'
      · subst hSame
        simp [reported, hId, hNone]
      · simp [reported, hId, hSame, Ne.symm hSame, h.missing id]
  · have hNone : reported id msg = none := by
      cases msg with
      | foundServiceCandidate c => exact absurd ⟨c, rfl⟩ hCandidate
      | _ => rfl
    have hSame : (handle outcomes order msg { m with identityManagerQueue := queue }).missingServiceCandidates =
        m.missingServiceCandidates := by
      cases msg with
      | foundServiceCandidate c => exact absurd ⟨c, rfl⟩ hCandidate
      | foundServiceUser user activated => cases activated <;> rfl
      | identityCreatorReady | deploymentWatcherReady | releaseDeviceId =>
        refine (IdentityManager.handle_sameRecords outcomes order ?_ _).missing
        exact not_false
      | _ => cases hMsg
    rw [hSame, h.missing id]
    simp [hNone]

theorem Filed.handled (h : Filed stored m) {msg : IdentityManagerProtocol} {queue : Channel IdentityManagerProtocol}
    (hRecv : m.identityManagerQueue.recv = some (msg, queue)) (hMsg : isStartup msg = true) (order : IterationOrder) :
    Filed stored (handle outcomes order msg { m with identityManagerQueue := queue }) := by
  have hStartup : Startup stored (handle outcomes order msg { m with identityManagerQueue := queue }) :=
    h.startup.handled hRecv hMsg
  obtain ⟨rest, _, rfl⟩ := Channel.recv_eq_some.mp hRecv
  let m₁ : IdentityManager := { m with identityManagerQueue := ⟨m.identityManagerQueue.received ++ [msg], rest⟩ }
  have hReceived : (handle outcomes order msg m₁).identityManagerQueue.received =
      m.identityManagerQueue.received ++ [msg] := by
    rw [IdentityManager.handle_queue]
    rfl
  refine ⟨hStartup, ?_, fun id => ?_, ?_⟩
  · change (handle outcomes order msg m₁).pool = _
    rw [pool_handled hMsg, hReceived, List.filterMap_append]
    change m.pool ++ _ = _
    rw [h.pool]
    cases hOffered : offered msg <;> simp [hOffered]
  · change (handle outcomes order msg m₁).missingServiceCandidates.lookup id = _
    rw [hReceived]
    exact h.missing_handled msg _ hMsg order id
  · obtain ⟨⟨sent, hQueue, hSent⟩, _⟩ := IdentityManager.handle_startup outcomes hMsg order m₁
    change (handle outcomes order msg m₁).identityCreatorQueue.history.filterMap deletion = []
    rw [hQueue, Channel.history_sendAll, List.filterMap_append, List.append_eq_nil_iff]
    refine ⟨h.deletions, List.filterMap_eq_nil_iff.mpr fun x hx => ?_⟩
    obtain ⟨_, _, rfl⟩ := hSent x hx
    rfl

theorem Filed.sent (h : Filed stored m) (msg : IdentityManagerProtocol) : Filed stored (m.sendToSelf msg) :=
  ⟨h.startup.sameManager rfl rfl rfl rfl rfl rfl, h.pool, h.missing, h.deletions⟩

theorem Filed.restored (clusterId : String) (stored : List ServiceIdentity) :
    Filed (IdentityManager.restored clusterId stored).identities (IdentityManager.restored clusterId stored) := by
  have hStartup :=
    @IdentityManager.Startup.of_steps (fun _ => .delivered) clusterId ⟨.holding stored, 0, []⟩ stored _
    (Steps.refl _)
  obtain ⟨_, hRestored⟩ := IdentityManager.restored_frame clusterId stored
  refine ⟨hStartup, ?_, fun id => ?_, ?_⟩
  · rw [IdentityManager.pool_restored, hRestored]
    rfl
  · rw [hRestored]
    exact (ite_self none).symm
  · rw [hRestored]
    rfl

end Filing

section Runs

variable {outcomes : Nat → CallOutcome} {clusterId : String} {stored : List ServiceIdentity} {found : Findings}
  {s : Gathering}

theorem reachable_accounted (hRun : Reachable outcomes clusterId stored found s) : Accounted found s :=
  hRun.invariant _ (fun _ _ _ h _ hNext => h.step hNext) (Accounted.started clusterId stored found)

theorem reachable_filed (hRun : Reachable outcomes clusterId stored found s)
    (hWaiting : .identityManagerReady ∉ s.queue.received) :
    Filed (IdentityManager.restored clusterId stored).identities s.manager := by
  have hInvariant := hRun.invariant (fun s => Accounted found s ∧ (.identityManagerReady ∉ s.queue.received →
    Filed (IdentityManager.restored clusterId stored).identities s.manager)) ?_
    ⟨Accounted.started clusterId stored found, fun _ => Filed.restored clusterId stored⟩
  · exact hInvariant.2 hWaiting
  · rintro s event t ⟨hAccounted, hFiled⟩ _ hNext
    refine ⟨hAccounted.step hNext, ?_⟩
    cases event with
    | send p =>
      simp only [next] at hNext
      split at hNext
      · cases hNext
      · cases hNext
        exact fun hReceived => (hFiled hReceived).sent _
    | release lookup uuid =>
      cases hNext
      exact fun hReceived => (hFiled hReceived).sent _
    | handle order =>
      obtain ⟨manager, hManager, rfl⟩ := Option.map_eq_some_iff.mp hNext
      obtain ⟨⟨msg, queue⟩, hRecv, rfl⟩ := Option.map_eq_some_iff.mp hManager
      obtain ⟨rest, hPending, hQueue⟩ := Channel.recv_eq_some.mp hRecv
      intro hReceived
      simp only [Gathering.queue, IdentityManager.handle_queue, Channel.received_sendAll, hQueue, List.mem_append,
        List.mem_singleton, not_or] at hReceived
      have hMem : msg ∈ s.queue.history := Channel.mem_history_of_pending (hPending ▸ List.mem_cons_self)
      have hStartup : isStartup msg = true := (hAccounted.kinds hMem).resolve_right fun hEq => hReceived.2 hEq.symm
      exact (hFiled hReceived.1).handled hRecv hStartup order

/-- The manager is about to reconcile. -/
def AboutToReconcile (s : Gathering) : Prop := s.queue.pending.head? = some .identityManagerReady

instance : DecidablePred AboutToReconcile := fun _ => inferInstanceAs (Decidable (_ = _))

theorem gathered_of_ready (h : Accounted found s) (hReady : .identityManagerReady ∈ s.queue.history) :
    Gathered s.manager := by
  by_contra hNot
  have hCount := h.ready
  rw [if_neg hNot] at hCount
  exact List.count_eq_zero.mp hCount hReady

theorem ready_mem_history (hReady : AboutToReconcile s) : .identityManagerReady ∈ s.queue.history :=
  Channel.mem_history_of_pending (List.mem_of_mem_head? hReady)

/-- It is not received yet while it waits, since it is sent once. -/
theorem ready_notMem_received (h : Accounted found s) (hReady : AboutToReconcile s) :
    .identityManagerReady ∉ s.queue.received := by
  have hCount := h.ready
  rw [if_pos (gathered_of_ready h (ready_mem_history hReady)), Channel.history, List.count_append] at hCount
  have hPending : 0 < s.queue.pending.count .identityManagerReady :=
    List.count_pos_iff.mpr (List.mem_of_mem_head? hReady)
  exact List.count_eq_zero.mp (by omega)

/-- By then everything that was to be sent has been handled. -/
theorem mem_received_iff (h : Accounted found s) (hGathered : Gathered s.manager) {msg : IdentityManagerProtocol}
    (hProduced : isProduced msg = true) : msg ∈ s.queue.received ↔ ∃ p, msg ∈ found.stream p := by
  obtain ⟨done, hDone, hStreams, _, _⟩ := h.complete hGathered
  have hMem : msg ∈ s.queue.received ↔ msg ∈ done.map Prod.snd := by
    rw [hDone, List.mem_filter, and_iff_left hProduced]
  rw [hMem, List.mem_map]
  constructor
  · rintro ⟨⟨p, x⟩, hArrived, rfl⟩
    exact ⟨p, hStreams p ▸ mem_projection.mpr hArrived⟩
  · rintro ⟨p, hStream⟩
    exact ⟨(p, msg), mem_projection.mp (hStreams p ▸ hStream), rfl⟩

/-- What only one producer reports is read off its stream. -/
theorem filterMap_received {β : Type} (h : Accounted found s) (hGathered : Gathered s.manager)
    (f : IdentityManagerProtocol → Option β) (hOwn : ∀ x, isProduced x = false → f x = none) (p : Producer)
    (hOthers : ∀ q, q ≠ p → ∀ x ∈ found.stream q, f x = none) :
    s.queue.received.filterMap f = (found.stream p).filterMap f := by
  obtain ⟨done, hDone, hStreams, _, _⟩ := h.complete hGathered
  have hProduced : s.queue.received.filterMap f = (s.queue.received.filter isProduced).filterMap f := by
    rw [List.filterMap_filter]
    congr 1
    funext x
    cases hx : isProduced x with
    | false => simp [hOwn x hx]
    | true => simp
  rw [hProduced, ← hDone, filterMap_merged f fun q x hq hx => hOthers q hq x (hStreams q ▸ hx), hStreams]

theorem pool_eq (h : Accounted found s)
    (hFiled : Filed (IdentityManager.restored clusterId stored).identities s.manager)
    (hGathered : Gathered s.manager) : s.manager.pool = (found.stream .identityCreator).filterMap offered := by
  rw [hFiled.pool]
  refine filterMap_received h hGathered offered (fun x hx => ?_) .identityCreator fun q hq x hx => ?_
  · cases x <;> first | rfl | cases hx
  · cases q with
    | identityCreator => exact absurd rfl hq
    | deploymentWatcher | sdpServiceWatcher =>
      simp only [Findings.stream, Findings.reports, Findings.announcement, List.mem_append, List.mem_map,
        List.mem_singleton] at hx
      rcases hx with ⟨_, _, rfl⟩ | rfl <;> rfl

variable (found) in
theorem reported_other {id : String} {p : Producer} {cs : List ServiceCandidate}
    (hReports : found.reports p = cs.map .foundServiceCandidate)
    (hNone : ∀ c ∈ cs, MaybeService.serviceId c ≠ .ok id) : ∀ x ∈ found.stream p, reported id x = none := by
  intro x hx
  rw [Findings.stream, hReports] at hx
  rcases List.mem_append.mp hx with hx | hx
  · obtain ⟨c, hc, rfl⟩ := List.mem_map.mp hx
    exact if_neg (hNone c hc)
  · rw [List.mem_singleton.mp hx]
    cases p <;> rfl

/-- The watchers report different services, so the last report about each is the last of its own watcher. -/
theorem reported_received (h : Accounted found s) (hGathered : Gathered s.manager) (hDisjoint : found.Disjoint)
    (id : String) :
    s.queue.received.filterMap (reported id) =
      (found.stream .deploymentWatcher ++ found.stream .sdpServiceWatcher).filterMap (reported id) := by
  have hOwn : ∀ x, isProduced x = false → reported id x = none := by
    intro x hx
    cases x <;> first | rfl | cases hx
  have hCreator : ∀ x ∈ found.stream .identityCreator, reported id x = none := by
    intro x hx
    simp only [Findings.stream, Findings.reports, Findings.announcement, List.mem_append, List.mem_map,
      List.mem_singleton] at hx
    rcases hx with ⟨_, _, rfl⟩ | rfl <;> rfl
  rw [List.filterMap_append]
  by_cases hDeployment : ∃ c ∈ found.deployments, MaybeService.serviceId c = .ok id
  · obtain ⟨c, hc, hId⟩ := hDeployment
    have hSdpService := reported_other found (p := .sdpServiceWatcher) rfl fun c' hc' =>
      hDisjoint c hc c' hc' id hId
    rw [List.filterMap_eq_nil_iff.mpr hSdpService, List.append_nil]
    refine filterMap_received h hGathered _ hOwn .deploymentWatcher fun q hq => ?_
    cases q with
    | deploymentWatcher => exact absurd rfl hq
    | sdpServiceWatcher => exact hSdpService
    | identityCreator => exact hCreator
  · have hDeployments := reported_other found (p := .deploymentWatcher) rfl fun c hc hId =>
      hDeployment ⟨c, hc, hId⟩
    rw [List.filterMap_eq_nil_iff.mpr hDeployments, List.nil_append]
    refine filterMap_received h hGathered _ hOwn .sdpServiceWatcher fun q hq => ?_
    cases q with
    | deploymentWatcher => exact hDeployments
    | sdpServiceWatcher => exact absurd rfl hq
    | identityCreator => exact hCreator

/-- What two managers have in common that are about to reconcile. -/
structure SameStart (m m' : IdentityManager) : Prop where
  existing : ∀ id, id ∈ m.existingServiceCandidates ↔ id ∈ m'.existingServiceCandidates
  missing : ∀ id, m.missingServiceCandidates.lookup id = m'.missingServiceCandidates.lookup id
  activated : ∀ id, id ∈ m.existingActivatedCredentials ↔ id ∈ m'.existingActivatedCredentials
  deactivated : ∀ id, id ∈ m.existingDeactivatedCredentials ↔ id ∈ m'.existingDeactivatedCredentials
  pool : m.pool = m'.pool
  held : ∀ id, heldUser m.identities id = heldUser m'.identities id

theorem existing_iff (hFiled : Filed (IdentityManager.restored clusterId stored).identities s.manager) (id : String) :
    id ∈ s.manager.existingServiceCandidates ↔
      (∃ c, .foundServiceCandidate c ∈ s.queue.received ∧ MaybeService.serviceId c = .ok id) ∧
        ∃ i, (IdentityManager.restored clusterId stored).identities.lookup id = some i := by
  rw [← hFiled.startup.recorded.candidates]
  constructor
  · exact fun hKnown => ⟨.inl hKnown, hFiled.startup.known id hKnown⟩
  · rintro ⟨hKnown | hMissing, i, hStored⟩
    · exact hKnown
    · cases hStored.symm.trans (hFiled.startup.missing id hMissing)

theorem sameStart {outcomes' : Nat → CallOutcome} {s' : Gathering} (hDisjoint : found.Disjoint)
    (hRun : Reachable outcomes clusterId stored found s) (hRun' : Reachable outcomes' clusterId stored found s')
    (hReady : AboutToReconcile s) (hReady' : AboutToReconcile s') : SameStart s.manager s'.manager := by
  have h := reachable_accounted hRun
  have h' := reachable_accounted hRun'
  have hGathered := gathered_of_ready h (ready_mem_history hReady)
  have hGathered' := gathered_of_ready h' (ready_mem_history hReady')
  have hFiled := reachable_filed hRun (ready_notMem_received h hReady)
  have hFiled' := reachable_filed hRun' (ready_notMem_received h' hReady')
  have hReceived : ∀ msg, isProduced msg = true → (msg ∈ s.queue.received ↔ msg ∈ s'.queue.received) :=
    fun msg hProduced => (mem_received_iff h hGathered hProduced).trans (mem_received_iff h' hGathered' hProduced).symm
  constructor
  · intro id
    rw [existing_iff hFiled, existing_iff hFiled']
    refine and_congr_left fun _ => exists_congr fun c => and_congr_left fun _ => hReceived _ rfl
  · intro id
    rw [hFiled.missing, hFiled'.missing]
    change (if _ then (s.queue.received.filterMap _).getLast? else none) =
      if _ then (s'.queue.received.filterMap _).getLast? else none
    rw [reported_received h hGathered hDisjoint, reported_received h' hGathered' hDisjoint]
  · intro id
    rw [hFiled.startup.recorded.activated, hFiled'.startup.recorded.activated]
    exact exists_congr fun user => and_congr_left fun _ => hReceived _ rfl
  · intro id
    rw [hFiled.startup.recorded.deactivated, hFiled'.startup.recorded.deactivated]
    exact exists_congr fun user => and_congr_left fun _ => hReceived _ rfl
  · rw [pool_eq h hFiled hGathered, pool_eq h' hFiled' hGathered']
  · intro id
    rw [hFiled.startup.held, hFiled'.startup.held]

theorem stream_sublist (h : Accounted found s) (hGathered : Gathered s.manager) (p : Producer) :
    (found.stream p).Sublist s.queue.received := by
  obtain ⟨done, hDone, hStreams, _, _⟩ := h.complete hGathered
  rw [← hStreams p]
  have hProjection : (projection p done).Sublist (done.map Prod.snd) := List.filter_sublist.map _
  rw [hDone] at hProjection
  exact hProjection.trans List.filter_sublist

def Finished (s : Gathering) : Prop := (∀ p, s.unsent p = []) ∧ s.queue.pending = []

theorem gathered_of_finished (h : Accounted found s) (hFinished : Finished s) : Gathered s.manager := by
  have hStreams : ∀ p, projection p s.arrived = found.stream p := fun p => by
    simpa [hFinished.1 p] using h.streams p
  have hHistory : s.queue.history = s.queue.received := by simp [Channel.history, hFinished.2]
  constructor
  · rw [h.watchers, ofNat_eq_watchers h.received_le, ← hHistory]
    have hCount : s.queue.history.count .deploymentWatcherReady =
        ∑ p, (projection p s.arrived).count .deploymentWatcherReady := by
      rw [← count_merged, h.arrived, List.count_filter rfl]
    have hOnce := fun p => count_announcement found p .deploymentWatcher
    simp only [Findings.announcement] at hOnce
    simp only [hCount, hStreams, hOnce]
    rfl
  · rw [h.creator, ← hHistory]
    have hMem : .identityCreatorReady ∈ s.arrived.map Prod.snd := by
      refine List.mem_map.mpr ⟨(.identityCreator, .identityCreatorReady), mem_projection.mp ?_, rfl⟩
      rw [hStreams]
      exact List.mem_append_right _ (List.mem_singleton_self _)
    rw [h.arrived] at hMem
    exact (List.mem_filter.mp hMem).1

end Runs

section Deletions

variable {outcomes : Nat → CallOutcome} {order : IterationOrder}

def Remains (m : IdentityManager) (id : String) : Prop := ∃ i, m.identities.lookup id = some i

/-- The users given up when the given services remain: those of the others, and the activated users that no
remaining service and no known candidate holds. -/
def GivesUp (m : IdentityManager) (remains : String → Prop) : String × Option String → Prop
  | (user, some id) => heldUser m.identities id = some user ∧ ¬remains id
  | (user, none) => user ∈ m.existingActivatedCredentials ∧
    ∀ id, heldUser m.identities id = some user → id ∉ m.existingServiceCandidates ∧ ¬remains id

theorem SameStart.givesUp {m m' : IdentityManager} (h : SameStart m m') {remains remains' : String → Prop}
    (hRemains : ∀ id, remains id ↔ remains' id) (x : String × Option String) :
    GivesUp m remains x ↔ GivesUp m' remains' x := by
  obtain ⟨user, service⟩ := x
  cases service with
  | some id => rw [GivesUp, GivesUp, h.held, hRemains]
  | none => simp only [GivesUp, h.activated, h.existing, h.held, hRemains]

theorem heldUser_eq_some {m : IdentityManager} {id user : String} :
    heldUser m.identities id = some user ↔
      ∃ i ∈ m.serviceCredentialsProvider.identities, Service.serviceId i = id ∧ i.credentials.id = user := by
  rw [heldUser, Option.map_eq_some_iff]
  constructor
  · rintro ⟨i, hLookup, hUser⟩
    have hId := m.serviceCredentialsProvider.keyed id i hLookup
    exact ⟨i, (mem_identities _).mpr (hId ▸ hLookup), hId, hUser⟩
  · rintro ⟨i, hi, rfl, hUser⟩
    exact ⟨i, (mem_identities _).mp hi, hUser⟩

theorem requestServiceIdentity_deletions (c : ServiceCandidate) (m : IdentityManager) :
    deletions (m.requestServiceIdentity outcomes c) = deletions m := by
  have hOutcome := IdentityManager.requestServiceIdentity_outcome outcomes c m
  generalize m.requestServiceIdentity outcomes c = m' at hOutcome ⊢
  cases hOutcome with
  | created id lookup labels user rest api _ _ _ _ _ =>
    have hNone : (m.activationOf lookup user rest labels).filterMap deletion = [] := by
      unfold IdentityManager.activationOf
      split <;> rfl
    simp only [deletions, Channel.history_sendAll, List.filterMap_append, hNone, List.append_nil]
  | _ => rfl

theorem identityManagerReady_deletions (m : IdentityManager) :
    deletions (m.identityManagerReady outcomes order) = deletions (m.reconcile outcomes order) := by
  have hRequests : ∀ (candidates : List ServiceCandidate) (m : IdentityManager),
      deletions (candidates.foldl (fun m c => m.requestServiceIdentity outcomes c) m) = deletions m := by
    intro candidates
    induction candidates with
    | nil => exact fun m => rfl
    | cons c rest ih => exact fun m => (ih _).trans (requestServiceIdentity_deletions c m)
  exact hRequests _ _

theorem remains_iff {m m' : IdentityManager} {extra orphans : List ServiceIdentity} {users : List String}
    (h : IdentityManager.Reconciled m m' extra users orphans) {i : ServiceIdentity}
    (hi : i ∈ m.serviceCredentialsProvider.identities) :
    Remains m' (Service.serviceId i) ↔ i ∉ extra ++ orphans := by
  constructor
  · rintro ⟨j, hj⟩ hDeleted
    rw [h.identities, HashMap.lookup_eraseAll, if_pos (List.mem_map_of_mem hDeleted)] at hj
    cases hj
  · exact fun hKept => ⟨i, (mem_identities _).mp ((h.mem_remaining i).mpr ⟨hi, hKept⟩)⟩

/-- Whichever calls fail, the users given up follow from what remains. -/
theorem mem_deletions {m : IdentityManager} (hNone : deletions m = []) (x : String × Option String) :
    x ∈ deletions (m.identityManagerReady outcomes order) ↔ GivesUp m (Remains (m.reconcile outcomes order)) x := by
  obtain ⟨extra, users, orphans, h⟩ := IdentityManager.reconcile_spec outcomes order m
  have hDeletion : ∀ identities : List ServiceIdentity,
      (identities.map IdentityManager.deletionOf).filterMap deletion =
        identities.map fun i => (i.credentials.id, some (Service.serviceId i)) := by
    intro identities
    rw [List.filterMap_map, ← List.filterMap_eq_map]
    rfl
  have hUsers : (users.map IdentityCreatorProtocol.deleteSDPUser).filterMap deletion =
      users.map fun id => (id, none) := by
    rw [List.filterMap_map, ← List.filterMap_eq_map]
    rfl
  have hRegistered : ∀ i ∈ extra ++ orphans, i ∈ m.serviceCredentialsProvider.identities := by
    intro i hi
    rcases List.mem_append.mp hi with hi | hi
    · exact (h.extra_spec i hi).1
    · exact (h.orphans_spec i hi).1
  rw [identityManagerReady_deletions, deletions, h.queue, Channel.history_sendAll, List.filterMap_append,
    show m.identityCreatorQueue.history.filterMap deletion = [] from hNone, List.nil_append, List.filterMap_append,
    List.filterMap_append, List.filterMap_append, hDeletion, hUsers, hDeletion]
  simp only [List.mem_append, List.mem_map]
  obtain ⟨user, service⟩ := x
  cases service with
  | some id =>
    rw [GivesUp, heldUser_eq_some]
    constructor
    · intro hMem
      have hGone : ∃ i ∈ extra ++ orphans, i.credentials.id = user ∧ Service.serviceId i = id := by
        simp only [List.mem_append]
        rcases hMem with ((⟨i, hi, hEq⟩ | ⟨i, _, hEq⟩) | ⟨i, hi, hEq⟩) | hLast
        · cases hEq
          exact ⟨i, .inl hi, rfl, rfl⟩
        · cases hEq
        · cases hEq
          exact ⟨i, .inr hi, rfl, rfl⟩
        · cases hLast
      obtain ⟨i, hi, rfl, rfl⟩ := hGone
      exact ⟨⟨i, hRegistered i hi, rfl, rfl⟩, fun hRemains => (remains_iff h (hRegistered i hi)).mp hRemains hi⟩
    · rintro ⟨⟨i, hi, rfl, rfl⟩, hGone⟩
      rw [remains_iff h hi, not_not] at hGone
      rcases List.mem_append.mp hGone with hExtra | hOrphan
      · exact .inl (.inl (.inl ⟨i, hExtra, rfl⟩))
      · exact .inl (.inr ⟨i, hOrphan, rfl⟩)
  | none =>
    have hHeld : (∀ i ∈ m.serviceCredentialsProvider.identities, i ∉ extra → i.credentials.id ≠ user) ↔
        ∀ id, heldUser m.identities id = some user →
          id ∉ m.existingServiceCandidates ∧ ¬Remains (m.reconcile outcomes order) id := by
      simp only [heldUser_eq_some]
      constructor
      · rintro hOthers id ⟨i, hi, rfl, hUser⟩
        have hExtra : i ∈ extra := not_not.mp fun hNot => hOthers i hi hNot hUser
        refine ⟨(h.extra_spec i hExtra).2, fun hRemains => ?_⟩
        exact (remains_iff h hi).mp hRemains (List.mem_append_left _ hExtra)
      · rintro hGone i hi hNot hUser
        obtain ⟨hUnknown, hErased⟩ := hGone _ ⟨i, hi, rfl, hUser⟩
        rw [remains_iff h hi, not_not] at hErased
        rcases List.mem_append.mp hErased with hExtra | hOrphan
        · exact hNot hExtra
        · exact hUnknown (h.orphans_spec i hOrphan).2.1
    rw [GivesUp, ← hHeld, ← h.users_spec]
    constructor
    · rintro (((⟨i, _, hEq⟩ | ⟨id, hUser, hEq⟩) | ⟨i, _, hEq⟩) | hLast)
      · cases hEq
      · cases hEq
        exact hUser
      · cases hEq
      · cases hLast
    · exact fun hUser => .inl (.inl (.inr ⟨user, hUser, rfl⟩))

/-- While its calls succeed, what remains is decided by the records. -/
theorem remains_of_calls {m : IdentityManager} (hCalls : (m.reconcile outcomes order).failures = m.failures)
    (id : String) : Remains (m.reconcile outcomes order) id ↔
      ∃ user, heldUser m.identities id = some user ∧ id ∈ m.existingServiceCandidates ∧
        user ∉ m.existingDeactivatedCredentials := by
  obtain ⟨extra, users, orphans, h⟩ := IdentityManager.reconcile_spec outcomes order m
  constructor
  · rintro ⟨i, hi⟩
    obtain ⟨hMem, hKept⟩ := (h.mem_remaining i).mp (IdentityManager.mem_identities_of_lookup hi)
    have hRetained := not_not.mp fun hNot => hKept ((h.mem_deleted hCalls i).mpr ⟨hMem, hNot⟩)
    have hId := (m.reconcile outcomes order).serviceCredentialsProvider.keyed id i hi
    exact ⟨_, heldUser_eq_some.mpr ⟨i, hMem, hId, rfl⟩, hId ▸ hRetained.1, hRetained.2⟩
  · rintro ⟨user, hHeld, hKnown, hUser⟩
    obtain ⟨i, hi, rfl, rfl⟩ := heldUser_eq_some.mp hHeld
    exact (remains_iff h hi).mpr fun hDeleted => ((h.mem_deleted hCalls i).mp hDeleted).2 ⟨hKnown, hUser⟩

end Deletions

/-- The manager tells itself once that it is ready, and handles that after all reports. For reports about different
services the records are then the same in any two runs, and so is what is deleted as long as the same identities
can be deleted. -/
theorem startup_confluent {outcomes outcomes' : Nat → CallOutcome} {clusterId : String}
    {stored : List ServiceIdentity} {found : Findings} {s s' : Gathering}
    (hRun : Reachable outcomes clusterId stored found s) (hRun' : Reachable outcomes' clusterId stored found s') :
    s.queue.history.count .identityManagerReady ≤ 1 ∧
    (Finished s → s.queue.received.count .identityManagerReady = 1) ∧
    (AboutToReconcile s → ∀ p, (found.stream p).Sublist s.queue.received) ∧
    (found.Disjoint → AboutToReconcile s → AboutToReconcile s' →
      SameStart s.manager s'.manager ∧
      ∀ (calls calls' : Nat → CallOutcome) (order order' : IterationOrder),
        ((s.manager.reconcile calls order).failures = s.manager.failures ∧
          (s'.manager.reconcile calls' order').failures = s'.manager.failures ∨
          ∀ id, Remains (s.manager.reconcile calls order) id ↔ Remains (s'.manager.reconcile calls' order') id) →
        ∀ x, x ∈ deletions (s.manager.identityManagerReady calls order) ↔
          x ∈ deletions (s'.manager.identityManagerReady calls' order')) := by
  have h := reachable_accounted hRun
  refine ⟨?_, fun hFinished => ?_, fun hReady => stream_sublist h (gathered_of_ready h (ready_mem_history hReady)),
    fun hDisjoint hReady hReady' => ?_⟩
  · rw [h.ready]
    split <;> omega
  · have hHistory : s.queue.history = s.queue.received := by simp [Channel.history, hFinished.2]
    rw [← hHistory, h.ready, if_pos (gathered_of_finished h hFinished)]
  · have hSame := sameStart hDisjoint hRun hRun' hReady hReady'
    have hFiled := reachable_filed hRun (ready_notMem_received h hReady)
    have hFiled' := reachable_filed hRun' (ready_notMem_received (reachable_accounted hRun') hReady')
    refine ⟨hSame, fun calls calls' order order' hEnough x => ?_⟩
    rw [mem_deletions hFiled.deletions, mem_deletions hFiled'.deletions]
    refine hSame.givesUp (fun id => ?_) x
    rcases hEnough with ⟨hCalls, hCalls'⟩ | hRemains
    · rw [remains_of_calls hCalls, remains_of_calls hCalls']
      simp only [hSame.held, hSame.existing, hSame.deactivated]
    · exact hRemains id

/-- Candidates `a` and `b` are Deployments, `c` is an SDPService. -/
def sampleFindings : Findings :=
  ⟨[IdentityManager.sampleCandidate "a", IdentityManager.sampleCandidate "b"], [IdentityManager.sampleCandidate "c"],
    [(IdentityManager.sampleUser "u1", true), (IdentityManager.sampleUser "u2", false)]⟩

def sampleStored : List ServiceIdentity :=
  [IdentityManager.sampleIdentity "a" "u1", IdentityManager.sampleIdentity "d" "u2"]

/-- Each message is handled as soon as it is sent. -/
def inTurn (producers : List Producer) : List Event := producers.flatMap fun p => [.send p, .handle .asStored]

def creatorFirst : List Event :=
  inTurn [.identityCreator, .identityCreator, .identityCreator, .deploymentWatcher, .deploymentWatcher,
    .deploymentWatcher, .sdpServiceWatcher, .sdpServiceWatcher]

def creatorLast : List Event :=
  inTurn [.sdpServiceWatcher, .deploymentWatcher, .identityCreator, .deploymentWatcher, .sdpServiceWatcher,
    .identityCreator, .deploymentWatcher, .identityCreator]

def sampleGathered (events : List Event) : Gathering :=
  runD (next fun _ => .delivered) (started "cluster" sampleStored sampleFindings) events

theorem startup_confluent_sample :
    SameStart (sampleGathered creatorFirst).manager (sampleGathered creatorLast).manager := by
  have hDisjoint : sampleFindings.Disjoint := by
    have hIds : ∀ c ∈ sampleFindings.deployments, ∀ c' ∈ sampleFindings.sdpServices,
        MaybeService.serviceId c' ≠ MaybeService.serviceId c := by decide
    exact fun c hc c' hc' id hId => hId ▸ hIds c hc c' hc'
  have hFirst : Reachable (fun _ => .delivered) "cluster" sampleStored sampleFindings (sampleGathered creatorFirst) :=
    Steps.of_runD creatorFirst (Admits.of_forall (fun _ _ _ => trivial) _) (by decide)
  have hLast : Reachable (fun _ => .delivered) "cluster" sampleStored sampleFindings (sampleGathered creatorLast) :=
    Steps.of_runD creatorLast (Admits.of_forall (fun _ _ _ => trivial) _) (by decide)
  exact ((startup_confluent hFirst hLast).2.2.2 hDisjoint (by decide) (by decide)).1

end SdpK8sInjector.IdentityService.Gathering
