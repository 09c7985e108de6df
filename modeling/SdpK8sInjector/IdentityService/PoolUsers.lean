import SdpK8sInjector.IdentityService.Replenishment

/-! # The users in the pool, and what their activation changes

A fresh user is named by its id. A user that is recovered keeps the name that it
has in the SDP system, and an activation has given it another one before. The
record that is posted to activate a user takes its id from the name of the user.
-/

namespace SdpK8sInjector.IdentityService

open Lib Common

/-- A user of the pool is named by its id, or it was a disabled user of the system by that name. -/
def Stems (users : List SDPUser) (u : ServiceUser) : Prop :=
  u.name = u.id ∨ ∃ v ∈ users, v.disabled = true ∧ v.id = u.id ∧ v.name = u.name

/-- Every user that the messages offer to the pool stems from there. -/
def Sourced (users : List SDPUser) (msgs : List IdentityManagerProtocol) : Prop :=
  ∀ u, .foundServiceUser u false ∈ msgs → Stems users u

theorem Sourced.snoc {users : List SDPUser} {msgs : List IdentityManagerProtocol} (h : Sourced users msgs)
    {x : IdentityManagerProtocol} (hx : ∀ u, x = .foundServiceUser u false → Stems users u) :
    Sourced users (msgs ++ [x]) := by
  intro u hu
  rcases List.mem_append.mp hu with hu | hu
  · exact h u hu
  · exact hx u (List.mem_singleton.mp hu).symm

theorem Sourced.offered {users : List SDPUser} {msgs : List IdentityManagerProtocol} (h : Sourced users msgs)
    {user : ServiceUser} (hUser : Stems users user) : Sourced users (msgs ++ [.foundServiceUser user false]) := by
  apply h.snoc
  intro u hu
  obtain ⟨rfl, -⟩ := IdentityManagerProtocol.foundServiceUser.inj hu
  exact hUser

namespace IdentityCreator

variable (env : Surroundings) {users : List SDPUser}

theorem createUser_name {c c' : IdentityCreator} {user : ServiceUser} (h : c.createUser env = (.ok user, c')) :
    user.name = user.id ∧ c'.outbox = c.outbox := by
  let sdpUser := SDPUser.new (env.newV4 (c.drawn + 1)).toString (env.newV4 c.drawn).toString none none
  cases hUrl : env.clientProfileUrl c.profileRequests with
  | error e => simp [createUser, draw, getClientProfileUrl, hUrl, Except.mapError] at h
  | ok url =>
    have hSame := (System.createUser_spec env.systemOutcomes c.system sdpUser).2
    cases hCall : c.system.createUser env.systemOutcomes sdpUser with
    | mk result system =>
      rw [hCall] at hSame
      simp only [createUser, draw, getClientProfileUrl, hUrl, Except.mapError] at h
      rw [show c.system.createUser env.systemOutcomes _ = _ from hCall] at h
      cases result with
      | error e => simp at h
      | ok created =>
        cases hSame created rfl
        have hUser : ServiceUser.fromSdpUser sdpUser url none (some []) =
          some ⟨sdpUser.id, sdpUser.name, (env.newV4 (c.drawn + 1)).toString, url, some []⟩ := rfl
        dsimp only at h
        rw [hUser] at h
        dsimp only at h
        split at h
        · cases h
          exact ⟨rfl, rfl⟩
        · cases h

theorem createUser_failed_outbox {c c' : IdentityCreator} {e : IdentityServiceError}
    (h : c.createUser env = (.error e, c')) : c'.outbox = c.outbox := by
  rcases createUser_spec env c with ⟨user, c₁, hCreate, -⟩ | ⟨e', c₁, hCreate, hCreated⟩
  · cases hCreate.symm.trans h
  · cases hCreate.symm.trans h
    exact hCreated.outbox.trans (List.append_nil _)

theorem recoverUser_sourced (url : String) {r : Recovery} {u : SDPUser} (hu : u ∈ users)
    (h : Sourced users r.creator.outbox) : Sourced users (recoverUser env url r u).creator.outbox := by
  generalize hQuery : r.creator.system.getRegisteredDeviceIdsForUser env.systemOutcomes env.matchesUsername u = query
  obtain ⟨devices, system⟩ := query
  let c : IdentityCreator := { r.creator with system := system }
  obtain ⟨secret, hStore, hCalls, hResult⟩ := recoverSdpUser_spec env u url
    ((devices.toOption.getD []).filterMap fun d => env.parseUuid d.deviceId) c
  cases hRead : readPassword env r.creator.secret.store r.creator.secret.calls u.id with
  | none =>
    rw [show readPassword env c.secret.store c.secret.calls u.id = none from hRead] at hResult
    simp only [recoverUser, hQuery, c, hResult, Option.map_none]
    obtain ⟨system', secret', hFrame⟩ := deleteSdpUser_frame env u { c with drawn := c.drawn + 1, secret := secret }
    rw [hFrame]
    exact h
  | some pwd =>
    rw [show readPassword env c.secret.store c.secret.calls u.id = some pwd from hRead] at hResult
    simp only [recoverUser, hQuery, c, hResult, Option.map_some]
    cases hDisabled : u.disabled with
    | false => exact h.snoc fun v hv => by cases hv
    | true => exact h.offered (.inr ⟨u, hu, hDisabled, rfl, rfl⟩)

theorem foldl_recoverUser_sourced (url : String) {us : List SDPUser} (hus : ∀ u ∈ us, u ∈ users) {r : Recovery}
    (h : Sourced users r.creator.outbox) : Sourced users (us.foldl (recoverUser env url) r).creator.outbox := by
  induction us generalizing r with
  | nil => exact h
  | cons u rest ih =>
    exact ih (fun v hv => hus v (List.mem_cons_of_mem u hv))
      (recoverUser_sourced env url (hus u List.mem_cons_self) h)

theorem createMissingUsers_sourced (n : Nat) {c : IdentityCreator} (h : Sourced users c.outbox) :
    Sourced users (createMissingUsers env n c).2.outbox := by
  induction n generalizing c with
  | zero => exact h
  | succ n ih =>
    unfold createMissingUsers
    cases hCreate : c.createUser env with
    | mk result c' =>
      cases result with
      | error e => exact createUser_failed_outbox env hCreate ▸ h
      | ok user =>
        obtain ⟨hName, hOutbox⟩ := createUser_name env hCreate
        apply ih
        exact Sourced.offered (hOutbox ▸ h) (.inl hName)

theorem initializeFrom_sourced {c : IdentityCreator} (h : Sourced c.listedUsers c.outbox) :
    Sourced c.listedUsers (c.initializeFrom env).2.outbox := by
  rcases initializeFrom_cases env c with ⟨system, e, hInit, -⟩ | ⟨system, e, hInit, -⟩ | ⟨url, -, -, hInit⟩
  · rw [hInit]
    exact h
  · rw [hInit]
    exact h
  · rw [hInit]
    let r := c.listedUsers.foldl (recoverUser env url) ⟨c.fetched, c.serviceUsersPoolSize, ∅⟩
    have hRecovered : Sourced c.listedUsers r.creator.outbox :=
      foldl_recoverUser_sourced env url (fun u hu => hu) h
    change Sourced c.listedUsers (fillPool env r).2.outbox
    obtain ⟨secret, hCleanup, -⟩ := cleanupSecretEntries_spec env r.knownServiceUsers r.creator
    unfold fillPool
    cases hResult : r.creator.cleanupSecretEntries env r.knownServiceUsers with
    | mk result c₁ =>
      rw [hResult] at hCleanup
      cases hCleanup
      cases result with
      | error e => exact hRecovered
      | ok u => exact createMissingUsers_sourced env r.missingUsers hRecovered

theorem handle_sourced (order : IterationOrder) (msg : IdentityCreatorProtocol) {c : IdentityCreator}
    (h : Sourced users c.outbox) : Sourced users (c.handle env order msg).outbox := by
  by_cases hMsg : msg = .createIdentity
  · subst hMsg
    unfold handle
    cases hCreate : c.createUser env with
    | mk result c' =>
      cases result with
      | error e => exact createUser_failed_outbox env hCreate ▸ h
      | ok user =>
        obtain ⟨hName, hOutbox⟩ := createUser_name env hCreate
        exact Sourced.offered (hOutbox ▸ h) (.inl hName)
  · cases handle_answer env order msg c with
    | silent hOutbox => exact hOutbox ▸ h
    | created user hOutbox hId hDrawn hCreate => exact absurd hCreate hMsg
    | activated user clusterId serviceNs serviceName labels userName hActivate hOutbox =>
      rw [hOutbox]
      exact h.snoc fun u hu => by cases hu

/-- The record that is posted to activate the user. -/
def activationRecord (serviceUser : ServiceUser) (name : String) (labels : Labels)
    (existing : Except SDPClientError SDPUser) : SDPUser :=
  { SDPUser.ofServiceUser serviceUser with
    disabled := false
    labels := labels
    name := name
    tags := match existing with
      | .ok existing => existing.tags
      | .error _ => [] }

/-- What the system does with the record of an activation. -/
def activation (c : IdentityCreator) (serviceUser : ServiceUser) (name : String) (labels : Labels) :
    Except SDPClientError SDPUser × System :=
  let (existing, system) := c.system.getUser env.systemOutcomes serviceUser.id
  system.modifyUser env.systemOutcomes (activationRecord serviceUser name labels existing)

theorem handle_activateServiceUser {c : IdentityCreator} (order : IterationOrder) (user : ServiceUser)
    (labels : Labels) {clusterId serviceNs serviceName name : String}
    (hName : getServiceUsername (env.randomSuffix c.drawn) clusterId serviceNs serviceName = some name) :
    c.handle env order (.activateServiceUser user clusterId serviceNs serviceName labels) =
      { c with
        drawn := c.drawn + 1
        system := (c.activation env user name labels).2
        outbox := c.outbox ++ [.activatedServiceUser { user with name := name } serviceNs serviceName] } := by
  simp only [handle, activateServiceUser, hName, activation]
  cases c.system.getUser env.systemOutcomes user.id with
  | mk existing system => cases existing <;> rfl

end IdentityCreator

namespace IdentityManager

variable (outcomes : Nat → CallOutcome) (order : IterationOrder)

theorem requestServiceIdentity_pool {candidate : ServiceCandidate} {m : IdentityManager} {u : ServiceUser}
    (hu : u ∈ (m.requestServiceIdentity outcomes candidate).pool) : u ∈ m.pool := by
  rcases requestServiceIdentity_provider outcomes candidate m with
    ⟨hSame, -⟩ | ⟨lookup, user, rest, -, -, hPool, hRest, -⟩
  · rw [IdentityManager.pool, hSame] at hu
    exact hu
  · rw [hPool]
    exact List.mem_cons_of_mem user (hRest ▸ hu)

theorem foldl_requestServiceIdentity_pool (candidates : List ServiceCandidate) {m : IdentityManager} {u : ServiceUser}
    (hu : u ∈ (candidates.foldl (fun m c => m.requestServiceIdentity outcomes c) m).pool) : u ∈ m.pool := by
  induction candidates generalizing m with
  | nil => exact hu
  | cons c rest ih => exact requestServiceIdentity_pool outcomes (ih hu)

theorem handle_pool {msg : IdentityManagerProtocol} {m : IdentityManager} {u : ServiceUser}
    (hu : u ∈ (handle outcomes order msg m).pool) : u ∈ m.pool ∨ msg = .foundServiceUser u false := by
  cases msg with
  | foundServiceUser user activated =>
    cases activated with
    | true => exact .inl hu
    | false =>
      rcases List.mem_append.mp hu with hu | hu
      · exact .inl hu
      · exact .inr (by rw [List.mem_singleton.mp hu])
  | requestServiceIdentity candidate => exact .inl (requestServiceIdentity_pool outcomes hu)
  | identityManagerReady =>
    obtain ⟨extra, gone, orphans, hReconciled⟩ := reconcile_spec outcomes order m
    have hBefore : u ∈ (m.reconcile outcomes order).pool :=
      foldl_requestServiceIdentity_pool outcomes
        (order.walk (HashMap.values (m.reconcile outcomes order).missingServiceCandidates)) hu
    exact .inl (hReconciled.pool ▸ hBefore)
  | deleteServiceIdentity identity =>
    left
    change u ∈ (m.deleteServiceIdentity outcomes identity).pool at hu
    rcases deleteServiceIdentity_cases outcomes identity m with ⟨_, _, -, hEq⟩ | ⟨_, -, hEq⟩ <;>
      rw [hEq] at hu <;>
      exact hu
  | foundServiceCandidate candidate =>
    left
    change u ∈ (m.foundServiceCandidate candidate).pool at hu
    rcases foundServiceCandidate_cases candidate m with ⟨-, hEq⟩ | ⟨_, _, -, -, hEq⟩ | ⟨_, -, -, hEq⟩ <;>
      rw [hEq] at hu <;> exact hu
  | activatedServiceUser user serviceNs serviceName =>
    left
    change u ∈ (m.activatedServiceUser outcomes user serviceNs serviceName).pool at hu
    rcases activatedServiceUser_cases outcomes user serviceNs serviceName m with ⟨-, hEq⟩ | ⟨_, -, hEq⟩ <;>
      rw [hEq] at hu <;> exact hu
  | deletedServiceCandidate candidate =>
    left
    change u ∈ (m.deletedServiceCandidate candidate).pool at hu
    rcases deletedServiceCandidate_cases candidate m with ⟨_, _, _, _, hEq⟩ | ⟨_, hEq⟩ <;>
      rw [hEq] at hu <;> exact hu
  | releaseDeviceId lookup uuid =>
    left
    change u ∈ (m.releaseDeviceId outcomes lookup uuid).pool at hu
    rcases releaseDeviceId_cases outcomes lookup uuid m with ⟨-, hEq⟩ | ⟨_, _, -, -, hEq⟩ <;>
      rw [hEq] at hu <;> exact hu
  | identityCreatorReady =>
    left
    change u ∈ m.identityCreatorReadyHandler.pool at hu
    obtain ⟨sent, -, hEq⟩ := identityCreatorReadyHandler_cases m
    rw [hEq] at hu
    exact hu
  | deploymentWatcherReady =>
    left
    change u ∈ m.deploymentWatcherReady.pool at hu
    obtain ⟨sent, -, hEq⟩ := deploymentWatcherReady_cases m
    rw [hEq] at hu
    exact hu
  | identityManagerInitialized | identityManagerStarted | identityManagerDebug => exact .inl hu

end IdentityManager

namespace Processes

open IdentityManager

variable {outcomes : Nat → CallOutcome} {env : Surroundings} {users : List SDPUser} {s t : Processes}

/-- The users in the pool and those on their way there are fresh, or the given ones have them. -/
structure Traced (users : List SDPUser) (s : Processes) : Prop where
  waiting : s.creator.status = .waiting → s.creator.system.store.users = users
  outbox : Sourced users s.creator.outbox
  queue : Sourced users s.manager.identityManagerQueue.pending
  pool : ∀ u ∈ s.manager.pool, Stems users u

theorem traced_started (clusterId : String) (stored : List ServiceIdentity) (system : System) (secret : SecretApi)
    (poolSize : Nat) : Traced system.store.users (started clusterId stored system secret poolSize) := by
  obtain ⟨provider, hRestored⟩ := restored_frame clusterId stored
  refine ⟨fun _ => rfl, fun u hu => (List.not_mem_nil hu).elim, ?_, ?_⟩
  · intro u hu
    simp [started, hRestored, IdentityManager.new, sendToCreator, Channel.empty] at hu
  · intro u hu
    rw [started, pool_restored] at hu
    cases hu

theorem Sourced.listed {c : IdentityCreator} {msgs : List IdentityManagerProtocol} (h : Sourced c.listedUsers msgs) :
    Sourced c.system.store.users msgs := by
  intro u hu
  rcases h u hu with hName | ⟨v, hv, hDisabled, hId, hName⟩
  · exact .inl hName
  · obtain ⟨w, hw, rfl⟩ := List.mem_map.mp hv
    exact .inr ⟨w, hw, hDisabled, hId, hName⟩

theorem receive_sourced (order : IterationOrder) (msg : IdentityCreatorProtocol) {c : IdentityCreator}
    (hWaiting : c.status = .waiting → c.system.store.users = users) (hOutbox : c.outbox = []) :
    Sourced users (c.receive env order msg).outbox := by
  have hNone : ∀ us, Sourced us c.outbox := by
    intro us u hu
    rw [hOutbox] at hu
    cases hu
  rcases receive_cases env order msg c with ⟨hStatus, status, ready, -, hReady, hEq⟩ |
    hEq | ⟨-, hEq⟩ <;> rw [hEq]
  · have hInitialized : Sourced users (c.initializeFrom env).2.outbox :=
      hWaiting hStatus ▸ Sourced.listed (IdentityCreator.initializeFrom_sourced env (hNone _))
    rcases hReady with rfl | rfl
    · exact (List.append_nil _).symm ▸ hInitialized
    · exact hInitialized.snoc fun u hu => by cases hu
  · exact hNone users
  · exact IdentityCreator.handle_sourced env order msg (hNone users)

theorem receive_waiting {order : IterationOrder} {msg : IdentityCreatorProtocol} {c : IdentityCreator}
    (h : (c.receive env order msg).status = .waiting) : c.receive env order msg = c := by
  rcases receive_cases env order msg c with ⟨-, status, ready, hStarted, -, hEq⟩ | hEq | ⟨hRunning, hEq⟩
  · rw [hEq] at h
    exact absurd h hStarted
  · exact hEq
  · rw [hEq] at h
    rcases IdentityCreator.handle_status env order msg c with hSame | hPanicked
    · cases (hSame.symm.trans h).symm.trans hRunning
    · cases hPanicked.symm.trans h

theorem Traced.step (h : Traced users s) {event : Event} (hNext : next outcomes env s event = some t) :
    Traced users t := by
  cases next_move outcomes env hNext with
  | arrive msg hMsg =>
    refine ⟨h.waiting, h.outbox, ?_, h.pool⟩
    change Sourced users (s.manager.identityManagerQueue.pending ++ [msg])
    exact h.queue.snoc fun u hu => by rw [hu] at hMsg; cases hMsg
  | handle order msg queue hRecv =>
    obtain ⟨rest, hPending, hQueue⟩ := Channel.recv_eq_some.mp hRecv
    refine ⟨h.waiting, h.outbox, ?_, ?_⟩
    · intro u hu
      dsimp only at hu
      rw [handle_queue, Channel.pending_sendAll, hQueue] at hu
      rcases List.mem_append.mp hu with hu | hu
      · exact h.queue u (hPending ▸ List.mem_cons_of_mem msg hu)
      · have hOffer := (selfSent_kind hu).1
        cases hOffer
    · intro u hu
      rcases handle_pool outcomes order hu with hBefore | rfl
      · exact h.pool u hBefore
      · exact h.queue u (hPending ▸ List.mem_cons_self)
  | receive order msg queue hOutbox hStatus hRecv =>
    refine ⟨fun hWaiting => ?_, receive_sourced order msg h.waiting hOutbox, h.queue, h.pool⟩
    have hIgnored : s.creator.receive env order msg = s.creator := receive_waiting hWaiting
    dsimp only at hWaiting ⊢
    rw [hIgnored] at hWaiting ⊢
    exact h.waiting hWaiting
  | deliver msg rest hOutbox =>
    refine ⟨h.waiting, fun u hu => h.outbox u (hOutbox ▸ List.mem_cons_of_mem msg hu), ?_, h.pool⟩
    change Sourced users (s.manager.identityManagerQueue.pending ++ [msg])
    exact h.queue.snoc fun u hu => h.outbox u (by rw [hOutbox, hu]; exact List.mem_cons_self)

/-- The record is that of the assigned user, and after a successful call every user by that id, of which there is
one, is enabled and has the name and the labels of the service. -/
def ModifiesAssigned (env : Surroundings) (c : IdentityCreator) (u : ServiceUser) (name : String) (labels : Labels) :
    Prop :=
  (IdentityCreator.activationRecord u name labels (c.system.getUser env.systemOutcomes u.id).1).id = u.id ∧
  ∀ r, (c.activation env u name labels).1 = .ok r →
    (∃ v ∈ (c.activation env u name labels).2.store.users, v.id = u.id) ∧
    ∀ v ∈ (c.activation env u name labels).2.store.users, v.id = u.id →
      v.disabled = false ∧ v.name = name ∧ v.labels = labels

theorem modifiesAssigned (c : IdentityCreator) {u : ServiceUser} (hName : u.name = u.id) (name : String)
    (labels : Labels) : ModifiesAssigned env c u name labels := by
  let record := IdentityCreator.activationRecord u name labels (c.system.getUser env.systemOutcomes u.id).1
  have hId : record.id = u.id := hName
  refine ⟨hId, fun r hResult => ?_⟩
  obtain ⟨store, hModify, hAfter⟩ := Remote.call_ok (show ((c.system.getUser env.systemOutcomes u.id).2.call
    env.systemOutcomes .request (Controller.modifyUser record)).1 = .ok r from hResult)
  have hUsers : (c.activation env u name labels).2.store = store := congrArg Remote.store hAfter
  rw [hUsers]
  unfold Controller.modifyUser at hModify
  split at hModify
  · rename_i hFound
    cases hModify
    obtain ⟨v, hv, hMatch⟩ := List.any_eq_true.mp hFound
    refine ⟨⟨record, List.mem_map.mpr ⟨v, hv, if_pos hMatch⟩, hId⟩, fun w hw hwId => ?_⟩
    obtain ⟨x, -, hx⟩ := List.mem_map.mp hw
    split at hx
    · rw [← hx]
      exact ⟨rfl, rfl, rfl⟩
    · rename_i hOther
      rw [← hx, ← hId] at hwId
      exact absurd hwId (by simpa using hOther)
  · cases hModify

/-- The activation of a user from the pool modifies that user exactly if the user is named by its id. Who is not was
recovered from a disabled user of the system by another name. -/
theorem activation_modifies_iff {clusterId : String} {stored : List ServiceIdentity} {system : System}
    {secret : SecretApi} {poolSize : Nat}
    (hRun : Steps (next outcomes env) (fun _ _ => True) (started clusterId stored system secret poolSize) s)
    {u : ServiceUser} (hPool : u ∈ s.manager.pool) (c : IdentityCreator) (order : IterationOrder)
    {serviceNs serviceName name : String} (labels : Labels)
    (hName : getServiceUsername (env.randomSuffix c.drawn) clusterId serviceNs serviceName = some name) :
    (c.handle env order (.activateServiceUser u clusterId serviceNs serviceName labels)).system =
      (c.activation env u name labels).2 ∧
    (ModifiesAssigned env c u name labels ↔ u.name = u.id) ∧ Stems system.store.users u := by
  refine ⟨?_, ⟨fun h => h.1, fun hSame => modifiesAssigned c hSame name labels⟩, ?_⟩
  · rw [IdentityCreator.handle_activateServiceUser env _ _ _ hName]
  · have hTraced : Traced system.store.users s :=
      hRun.invariant (Traced system.store.users) (fun _ _ _ h _ hNext => h.step hNext)
        (traced_started clusterId stored system secret poolSize)
    exact hTraced.pool u hPool

/-- A service whose one user was disabled, under its own id or under the name of a service. -/
def sampleDisabledUser (name : String) : Processes :=
  started "cluster" [] ⟨⟨[⟨"u1", name, ∅, [], none, true⟩], [], []⟩, 0, []⟩
    ⟨some ⟨some (AList.singleton "u1-service-password" (.text "pw"))⟩, 0, []⟩ 0

def sampleRecovery : List Event := [.receive .asStored, .deliver, .deliver, .handle .asStored]

def sampleRecovered (name : String) : Processes :=
  runD (next (fun _ => .delivered) (IdentityCreator.sampleSurroundings fun _ => .delivered)) (sampleDisabledUser name)
    sampleRecovery

def samplePooled (name : String) : ServiceUser := ⟨"u1", name, "pw", "appgate://profile", some []⟩

theorem activation_modifies_sample :
    ModifiesAssigned (IdentityCreator.sampleSurroundings fun _ => .delivered) (sampleRecovered "u1").creator
      (samplePooled "u1") "cluster_ns_a_abcde" ∅ := by
  have hRun : Steps (next (fun _ => .delivered) (IdentityCreator.sampleSurroundings fun _ => .delivered))
      (fun _ _ => True) (sampleDisabledUser "u1") (sampleRecovered "u1") := by
    unfold sampleRecovered
    exact Steps.of_runD sampleRecovery (by decide +kernel) (by decide +kernel)
  have hPool : samplePooled "u1" ∈ (sampleRecovered "u1").manager.pool := by decide +kernel
  have hName : getServiceUsername "abcde" "cluster" "ns" "a" = some "cluster_ns_a_abcde" := by decide +kernel
  exact (activation_modifies_iff hRun hPool (sampleRecovered "u1").creator .asStored ∅ hName).2.1.mpr rfl

/-- The user was activated for another service before it was disabled. Now the record names no user at all, and the
activation leaves the assigned one disabled. -/
theorem renamed_user_not_activated :
    Steps (next (fun _ => .delivered) (IdentityCreator.sampleSurroundings fun _ => .delivered)) (fun _ _ => True)
      (sampleDisabledUser "cluster_ns_b_abcde") (sampleRecovered "cluster_ns_b_abcde") ∧
    samplePooled "cluster_ns_b_abcde" ∈ (sampleRecovered "cluster_ns_b_abcde").manager.pool ∧
    ¬ModifiesAssigned (IdentityCreator.sampleSurroundings fun _ => .delivered)
      (sampleRecovered "cluster_ns_b_abcde").creator (samplePooled "cluster_ns_b_abcde") "cluster_ns_a_abcde" ∅ ∧
    ∀ v ∈ ((sampleRecovered "cluster_ns_b_abcde").creator.handle
      (IdentityCreator.sampleSurroundings fun _ => .delivered) .asStored
      (.activateServiceUser (samplePooled "cluster_ns_b_abcde") "cluster" "ns" "a" ∅)).system.store.users,
      v.disabled = true := by
  refine ⟨?_, by decide +kernel, fun h => ?_, by decide +kernel⟩
  · unfold sampleRecovered
    exact Steps.of_runD sampleRecovery (by decide +kernel) (by decide +kernel)
  · have hId : "cluster_ns_b_abcde" = "u1" := h.1
    revert hId
    decide

end Processes

end SdpK8sInjector.IdentityService
