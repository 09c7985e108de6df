import Mathlib.Data.List.TakeWhile
import SdpK8sInjector.IdentityService.Credentials

/-! # The account of the pool

Every user that leaves the pool is replaced as long as the pool is short of its
size. A replacement is a request to the creator first and a report from it later,
so the account counts the pool and both kinds of messages in flight.
-/

namespace SdpK8sInjector.IdentityService

open Lib Common

/-- A user reported for the pool. -/
def isOffer : IdentityManagerProtocol → Bool
  | .foundServiceUser _ activated => !activated
  | _ => false

namespace IdentityCreator

variable {env : Surroundings}

/-- No call to the outside failed on the way from `c` to `c'`. -/
structure Unfailed (env : Surroundings) (c c' : IdentityCreator) : Prop where
  system : c'.system.failed = c.system.failed
  secret : c'.secret.failed = c.secret.failed
  profile : ∀ n < c'.profileRequests, c.profileRequests ≤ n → (env.clientProfileUrl n).toBool = true

instance (c c' : IdentityCreator) : Decidable (Unfailed env c c') :=
  decidable_of_iff (c'.system.failed = c.system.failed ∧ c'.secret.failed = c.secret.failed ∧
    ∀ n < c'.profileRequests, c.profileRequests ≤ n → (env.clientProfileUrl n).toBool = true)
    ⟨fun h => ⟨h.1, h.2.1, h.2.2⟩, fun h => ⟨h.system, h.secret, h.profile⟩⟩

theorem hasSecretsFields_failed (outcomes : Nat → CallOutcome) (user : ServiceUser) (api : SecretApi)
    (secretsName : String) : api.failed <+: (user.hasSecretsFields outcomes api secretsName).2.failed := by
  have hRead : api.failed <+: (user.getSecretsFields outcomes api secretsName).2.failed := by
    have hCall : api.failed <+: (api.call outcomes .transport Secret.get).2.failed := Remote.failed_prefix_call
    unfold ServiceUser.getSecretsFields
    generalize api.call outcomes .transport Secret.get = called at hCall
    obtain ⟨result, api'⟩ := called
    cases result <;> exact hCall
  unfold ServiceUser.hasSecretsFields
  generalize user.getSecretsFields outcomes api secretsName = found at hRead
  obtain ⟨⟨userName, pwd, url⟩, api'⟩ := found
  dsimp only
  split <;> exact hRead

/-- An update of the secret that returns an error has logged it. -/
theorem updateSecretsFields_error {outcomes : Nat → CallOutcome} {user : ServiceUser} {api api' : SecretApi}
    {secretsName : String} {updateAlways : Bool} {e : SecretError}
    (h : user.updateSecretsFields outcomes api secretsName updateAlways = (.error e, api')) :
    api'.failed ≠ api.failed := by
  have hChecked := hasSecretsFields_failed outcomes user api secretsName
  unfold ServiceUser.updateSecretsFields at h
  generalize user.hasSecretsFields outcomes api secretsName = checked at h hChecked
  obtain ⟨⟨userExists, passwdExists, urlExists⟩, api₁⟩ := checked
  dsimp only at h hChecked
  generalize (_ ++ _ ++ _ : List (String × ByteString)) = data at h
  split at h
  · have hLogged := (Remote.call_error (congrArg Prod.fst h)).1
    rw [h] at hLogged
    intro hSame
    rw [hLogged] at hSame
    have hLength := congrArg List.length hSame
    have hLe := hChecked.length_le
    simp only [List.length_append, List.length_singleton] at hLength
    omega
  · cases h

theorem system_createUser_error {outcomes : Nat → CallOutcome} {system system' : System} {sdpUser : SDPUser}
    {e : SDPClientError} (h : system.createUser outcomes sdpUser = (.error e, system')) :
    system'.failed ≠ system.failed := by
  unfold System.createUser at h
  cases hCall : system.call outcomes .request (Controller.createUser sdpUser) with
  | mk result called =>
    rw [hCall] at h
    cases result with
    | ok created => cases h
    | error e' =>
      cases h
      have hLogged := (Remote.call_error (congrArg Prod.fst hCall)).1
      rw [hCall] at hLogged
      intro hSame
      rw [hLogged] at hSame
      simp at hSame

theorem createUser_succeeds {c c' : IdentityCreator} {e : IdentityServiceError}
    (h : c.createUser env = (.error e, c')) : ¬Unfailed env c c' := by
  intro hUnfailed
  let sdpUser := SDPUser.new (env.newV4 (c.drawn + 1)).toString (env.newV4 c.drawn).toString none none
  cases hUrl : env.clientProfileUrl c.profileRequests with
  | error e' =>
    have hEnd : c' = { c with drawn := c.drawn + 2, profileRequests := c.profileRequests + 1 } := by
      have hCreate : c.createUser env =
          (.error (.system e'), { c with drawn := c.drawn + 2, profileRequests := c.profileRequests + 1 }) := by
        simp [createUser, draw, getClientProfileUrl, hUrl, Except.mapError]
      rw [hCreate] at h
      cases h
      rfl
    have hProfile := hUnfailed.profile c.profileRequests (by simp [hEnd]) le_rfl
    simp [hUrl, Except.toBool] at hProfile
  | ok url =>
    cases hCreated : c.system.createUser env.systemOutcomes sdpUser with
    | mk result system =>
      cases result with
      | error e' =>
        have hEnd : c.createUser env = (.error (.system e'),
            { c with drawn := c.drawn + 2, profileRequests := c.profileRequests + 1, system := system }) := by
          simp only [createUser, draw, getClientProfileUrl, hUrl, Except.mapError]
          rw [show c.system.createUser env.systemOutcomes _ = _ from hCreated]
        rw [hEnd] at h
        cases h
        exact system_createUser_error hCreated hUnfailed.system
      | ok created =>
        cases (System.createUser_spec env.systemOutcomes c.system sdpUser).2 created (by rw [hCreated])
        let user : ServiceUser := ⟨sdpUser.id, sdpUser.name, (env.newV4 (c.drawn + 1)).toString, url, some []⟩
        have hUser : ServiceUser.fromSdpUser sdpUser url none (some []) = some user := rfl
        cases hUpdate : user.updateSecretsFields env.secretOutcomes c.secret IDENTITY_MANAGER_SECRET_NAME false with
        | mk updated secret =>
          let ended : IdentityCreator :=
            { c with
              drawn := c.drawn + 2, profileRequests := c.profileRequests + 1, system := system, secret := secret }
          have hEnd : c.createUser env = ((updated.mapError .secret).map fun _ => user, ended) := by
            simp only [createUser, draw, getClientProfileUrl, hUrl, Except.mapError]
            rw [show c.system.createUser env.systemOutcomes _ = _ from hCreated]
            dsimp only
            rw [hUser]
            dsimp only
            rw [hUpdate]
            cases updated <;> rfl
          obtain ⟨hResult, rfl⟩ := Prod.mk.inj (hEnd.symm.trans h)
          cases updated with
          | ok u => cases hResult
          | error e' => exact updateSecretsFields_error hUpdate hUnfailed.secret

theorem recoverUser_offers (url : String) (r : Recovery) (u : SDPUser) :
    r.missingUsers + r.creator.outbox.countP isOffer ≤
      (recoverUser env url r u).missingUsers + (recoverUser env url r u).creator.outbox.countP isOffer := by
  generalize hQuery : r.creator.system.getRegisteredDeviceIdsForUser env.systemOutcomes env.matchesUsername u = query
  obtain ⟨devices, system⟩ := query
  let c : IdentityCreator := { r.creator with system := system }
  obtain ⟨secret, hStore, hCalls, hResult⟩ := recoverSdpUser_spec env u url
    ((devices.toOption.getD []).filterMap fun d => env.parseUuid d.deviceId) c
  cases hRead : readPassword env r.creator.secret.store r.creator.secret.calls u.id with
  | none =>
    rw [show readPassword env c.secret.store c.secret.calls u.id = none from hRead] at hResult
    simp only [recoverUser, hQuery, c, hResult, Option.map_none]
    obtain ⟨system', secret', hFrame⟩ := deleteSdpUser_frame env u { c with drawn := c.drawn + 1, secret := secret }
    rw [hFrame]
  | some pwd =>
    rw [show readPassword env c.secret.store c.secret.calls u.id = some pwd from hRead] at hResult
    simp only [recoverUser, hQuery, c, hResult, Option.map_some, sendToManager, List.countP_append,
      List.countP_singleton, isOffer]
    cases u.disabled
    · simp
    · simp only [Bool.not_true, Bool.not_false, if_true, true_and]
      split <;> omega

variable (env) in
theorem foldl_recoverUser_offers (url : String) (us : List SDPUser) (r : Recovery) :
    r.missingUsers + r.creator.outbox.countP isOffer ≤
      (us.foldl (recoverUser env url) r).missingUsers +
        (us.foldl (recoverUser env url) r).creator.outbox.countP isOffer := by
  induction us generalizing r with
  | nil => exact le_rfl
  | cons u rest ih => exact (recoverUser_offers url r u).trans (ih _)

theorem createMissingUsers_offers {n : Nat} {c c' : IdentityCreator} {u : Unit}
    (h : createMissingUsers env n c = (.ok u, c')) : c'.outbox.countP isOffer = c.outbox.countP isOffer + n := by
  induction n generalizing c with
  | zero =>
    obtain ⟨-, rfl⟩ := Prod.mk.inj h
    rfl
  | succ n ih =>
    unfold createMissingUsers at h
    rcases createUser_spec env c with ⟨user, c₁, hCreate, hCreated⟩ | ⟨e, c₁, hCreate, hCreated⟩
    · rw [hCreate] at h
      have hSent : (c₁.sendToManager (.foundServiceUser user false)).outbox = c.outbox ++
          [.foundServiceUser user false] :=
        hCreated.outbox
      rw [ih h, hSent, List.countP_append, List.countP_singleton]
      simp only [isOffer, Bool.not_false, if_true]
      omega
    · rw [hCreate] at h
      cases (Prod.mk.inj h).1

theorem initializeFrom_offers {c c' : IdentityCreator} {url : String} (h : c.initializeFrom env = (.ok url, c')) :
    c.serviceUsersPoolSize ≤ c'.outbox.countP isOffer := by
  rcases initializeFrom_cases env c with ⟨system, e, hInit, -⟩ | ⟨system, e, hInit, -⟩ |
    ⟨url', hUrl, -, hInit⟩
  · cases (Prod.mk.inj (hInit.symm.trans h)).1
  · cases (Prod.mk.inj (hInit.symm.trans h)).1
  · have hRecovered := foldl_recoverUser_offers env url' c.listedUsers ⟨c.fetched, c.serviceUsersPoolSize, ∅⟩
    generalize c.listedUsers.foldl (recoverUser env url') _ = r at hInit hRecovered
    obtain ⟨secret, hCleanup, -⟩ := cleanupSecretEntries_spec env r.knownServiceUsers r.creator
    rw [hInit, fillPool] at h
    cases hCleaned : r.creator.cleanupSecretEntries env r.knownServiceUsers with
    | mk cleaned c₁ =>
      rw [hCleaned] at h hCleanup
      cases hCleanup
      cases cleaned with
      | error e => cases (Prod.mk.inj h).1
      | ok _ =>
        dsimp only at h
        cases hCreated : createMissingUsers env r.missingUsers { r.creator with secret := secret } with
        | mk created c₂ =>
          rw [hCreated] at h
          obtain ⟨hResult, rfl⟩ := Prod.mk.inj h
          cases created with
          | error e => cases hResult
          | ok _ =>
            rw [createMissingUsers_offers hCreated]
            dsimp only at hRecovered ⊢
            omega

end IdentityCreator

namespace IdentityManager

variable {outcomes : Nat → CallOutcome} {order : IterationOrder}

def isActivation : IdentityCreatorProtocol → Bool
  | .activateServiceUser _ _ _ _ _ => true
  | _ => false

/-- The identities created since the start: the creator is told of each of them once. -/
def newIdentities (m : IdentityManager) : Nat := m.identityCreatorQueue.history.countP isActivation

def createsInFlight (m : IdentityManager) : Nat := m.identityCreatorQueue.pending.count .createIdentity

/-- The account of a pool that started with `n` users, with `f` reports on their way. -/
structure Balanced (n f : Nat) (m : IdentityManager) : Prop where
  total : m.pool.length + m.createsInFlight + f = max 10 (n - m.newIdentities)
  settled : m.createsInFlight + f = 0 ∨ m.pool.length + m.createsInFlight + f = 10

/-- Neither is a new identity made nor a user asked for; the pool takes what is offered. -/
structure Calm (offered : Nat) (m m' : IdentityManager) : Prop where
  pool : m'.pool.length = m.pool.length + offered
  queue : ∃ sent, m'.identityCreatorQueue = m.identityCreatorQueue.sendAll sent ∧
    ∀ x ∈ sent, x ≠ .createIdentity ∧ isActivation x = false
  watchers : m'.serviceCandidateWatcherProto = m.serviceCandidateWatcherProto

namespace Calm

variable {m m' : IdentityManager} {offered : Nat}

theorem createsInFlight (h : Calm offered m m') : m'.createsInFlight = m.createsInFlight := by
  obtain ⟨sent, hQueue, hOther⟩ := h.queue
  have hNone : sent.count .createIdentity = 0 := List.count_eq_zero.mpr fun hMem => (hOther _ hMem).1 rfl
  rw [IdentityManager.createsInFlight, hQueue, Channel.pending_sendAll, List.count_append, hNone]
  rfl

theorem newIdentities (h : Calm offered m m') : m'.newIdentities = m.newIdentities := by
  obtain ⟨sent, hQueue, hOther⟩ := h.queue
  have hNone : sent.countP isActivation = 0 := List.countP_eq_zero.mpr fun x hx => by simp [(hOther x hx).2]
  rw [IdentityManager.newIdentities, hQueue, Channel.history_sendAll, List.countP_append, hNone]
  rfl

theorem balanced {n f : Nat} (h : Calm offered m m') (hBalanced : Balanced n (f + offered) m) : Balanced n f m' := by
  have hPool := h.pool
  have hCreates := h.createsInFlight
  have hNew := h.newIdentities
  obtain ⟨hTotal, hSettled⟩ := hBalanced
  constructor <;> omega

end Calm

theorem reconcile_calm (m : IdentityManager) : Calm 0 m (m.reconcile outcomes order) := by
  obtain ⟨extra, users, orphans, h⟩ := reconcile_spec outcomes order m
  refine ⟨congrArg List.length h.pool, ⟨_, h.queue, fun x hx => ?_⟩, by rw [h.frame]⟩
  simp only [List.mem_append, List.mem_map, List.mem_singleton] at hx
  rcases hx with ((⟨i, -, rfl⟩ | ⟨id, -, rfl⟩) | ⟨i, -, rfl⟩) | rfl <;>
    exact ⟨fun h => (by cases h), rfl⟩

variable (outcomes order) in
/-- Only a request and the reconciliation make identities. -/
theorem handle_calm {msg : IdentityManagerProtocol} (hRequest : ∀ c, msg ≠ .requestServiceIdentity c)
    (hReady : msg ≠ .identityManagerReady) (m : IdentityManager) :
    Calm (if isOffer msg = true then 1 else 0) m (handle outcomes order msg m) := by
  have hSame : ∀ m' : IdentityManager, m'.pool = m.pool → m'.identityCreatorQueue = m.identityCreatorQueue →
      m'.serviceCandidateWatcherProto = m.serviceCandidateWatcherProto → Calm 0 m m' := by
    intro m' hPool hQueue hWatchers
    exact ⟨congrArg List.length hPool,
      ⟨[], by rw [hQueue, Channel.sendAll_nil], List.forall_mem_nil _⟩, hWatchers⟩
  cases msg with
  | requestServiceIdentity c => exact absurd rfl (hRequest c)
  | identityManagerReady => exact absurd rfl hReady
  | deleteServiceIdentity identity =>
    change Calm 0 m (m.deleteServiceIdentity outcomes identity)
    rcases deleteServiceIdentity_cases outcomes identity m with ⟨_, _, _, hEq⟩ | ⟨_, _, hEq⟩ <;> rw [hEq]
    · exact hSame _ rfl rfl rfl
    · exact ⟨rfl, ⟨[deletionOf identity], rfl, by simp [deletionOf, isActivation]⟩, rfl⟩
  | foundServiceCandidate candidate =>
    change Calm 0 m (m.foundServiceCandidate candidate)
    rcases foundServiceCandidate_cases candidate m with ⟨_, hEq⟩ | ⟨_, _, _, _, hEq⟩ | ⟨_, _, _, hEq⟩ <;>
      rw [hEq] <;>
      exact hSame _ rfl rfl rfl
  | foundServiceUser user activated =>
    cases activated with
    | false => exact ⟨by simp [handle, foundServiceUser, isOffer, IdentityManager.pool],
        ⟨[], (Channel.sendAll_nil _).symm, List.forall_mem_nil _⟩, rfl⟩
    | true => exact hSame _ rfl rfl rfl
  | deletedServiceCandidate candidate =>
    change Calm 0 m (m.deletedServiceCandidate candidate)
    rcases deletedServiceCandidate_cases candidate m with ⟨_, _, _, _, hEq⟩ | ⟨_, hEq⟩ <;> rw [hEq] <;>
      exact hSame _ rfl rfl rfl
  | identityCreatorReady =>
    change Calm 0 m m.identityCreatorReadyHandler
    obtain ⟨_, _, hEq⟩ := identityCreatorReadyHandler_cases m
    rw [hEq]
    exact hSame _ rfl rfl rfl
  | deploymentWatcherReady =>
    change Calm 0 m m.deploymentWatcherReady
    obtain ⟨_, _, hEq⟩ := deploymentWatcherReady_cases m
    rw [hEq]
    exact hSame _ rfl rfl rfl
  | activatedServiceUser user serviceNs serviceName =>
    change Calm 0 m (m.activatedServiceUser outcomes user serviceNs serviceName)
    rcases activatedServiceUser_cases outcomes user serviceNs serviceName m with ⟨_, hEq⟩ | ⟨_, _, hEq⟩ <;>
      rw [hEq] <;> exact hSame _ rfl rfl rfl
  | releaseDeviceId lookup uuid =>
    change Calm 0 m (m.releaseDeviceId outcomes lookup uuid)
    rcases releaseDeviceId_cases outcomes lookup uuid m with ⟨_, hEq⟩ | ⟨_, sent, _, hSent, hEq⟩ <;> rw [hEq]
    · exact hSame _ rfl rfl rfl
    · refine ⟨rfl, ⟨sent, rfl, fun x hx => ?_⟩, rfl⟩
      rcases hSent with rfl | rfl
      · cases hx
      · rw [List.mem_singleton.mp hx]
        exact ⟨fun h => (by cases h), rfl⟩
  | identityManagerInitialized | identityManagerStarted | identityManagerDebug => exact hSame _ rfl rfl rfl

theorem count_activationOf (m : IdentityManager) (lookup : ServiceLookup) (user : ServiceUser)
    (rest : List ServiceUser) (labels : Labels) :
    (m.activationOf lookup user rest labels).countP isActivation = 1 ∧
      (m.activationOf lookup user rest labels).count .createIdentity = if rest.length < 10 then 1 else 0 := by
  unfold activationOf
  split <;> exact ⟨rfl, rfl⟩

/-- A request takes one user from the pool, and asks for another one if the pool is short of its size. -/
theorem Balanced.requested {n f : Nat} {m : IdentityManager} (h : Balanced n f m) (candidate : ServiceCandidate)
    (hCalls : (m.requestServiceIdentity outcomes candidate).failures = m.failures) :
    Balanced n f (m.requestServiceIdentity outcomes candidate) := by
  have hOutcome := requestServiceIdentity_outcome outcomes candidate m
  generalize m.requestServiceIdentity outcomes candidate = m' at hOutcome hCalls ⊢
  cases hOutcome with
  | noNamespace | registered | emptyPool => exact ⟨h.total, h.settled⟩
  | createFailed id lookup user rest e api hId hLookup hFormat hPool hCreate =>
    have hSucceeds := ServiceIdentityAPI.create_succeeds (by rw [hCreate]; exact hCalls)
    rw [hCreate] at hSucceeds
    cases hSucceeds
  | created id lookup labels user rest api hId hLookup hFormat hPool hCreate =>
    obtain ⟨hTotal, hSettled⟩ := h
    have hBefore : m.pool.length = rest.length + 1 := by rw [hPool, List.length_cons]
    obtain ⟨hActivated, hAsked⟩ := count_activationOf m lookup user rest labels
    constructor
    all_goals
      simp only [IdentityManager.pool, createsInFlight, newIdentities,
        ServiceCredentialsProvider.pool_registerOrUpdateIdentity,
        Channel.pending_sendAll, Channel.history_sendAll, List.count_append, List.countP_append, hActivated, hAsked]
        at hTotal hSettled hBefore ⊢
      split <;> omega

theorem Balanced.requestedAll {n f : Nat} (candidates : List ServiceCandidate) {m : IdentityManager}
    (h : Balanced n f m)
    (hCalls : (candidates.foldl (fun m c => m.requestServiceIdentity outcomes c) m).failures = m.failures) :
    Balanced n f (candidates.foldl (fun m c => m.requestServiceIdentity outcomes c) m) := by
  induction candidates generalizing m with
  | nil => exact h
  | cons c rest ih =>
    have hFirst := requestServiceIdentity_grows outcomes c m
    have hRest := Grows.foldl (fun m c => requestServiceIdentity_grows outcomes c m) rest
      (m.requestServiceIdentity outcomes c)
    obtain ⟨hSame, hLater⟩ := prefix_between hFirst.failures hRest.failures hCalls
    exact ih (h.requested c hSame) hLater

theorem Balanced.reconciled {n f : Nat} {m : IdentityManager} (h : Balanced n f m)
    (hCalls : (m.identityManagerReady outcomes order).failures = m.failures) :
    Balanced n f (m.identityManagerReady outcomes order) := by
  have hReconcile := reconcile_grows outcomes order m
  have hRequests := requestMissing_grows outcomes order (m.reconcile outcomes order)
  obtain ⟨-, hLater⟩ := prefix_between hReconcile.failures hRequests.failures hCalls
  have hRequested := ((reconcile_calm m).balanced h).requestedAll
    (order.walk (HashMap.values (m.reconcile outcomes order).missingServiceCandidates)) hLater
  exact ⟨hRequested.total, hRequested.settled⟩

/-- The manager tells itself to reconcile only once the creator is ready, and it makes no requests of its own. -/
theorem selfSent_kind {msg x : IdentityManagerProtocol} {m : IdentityManager} (hx : x ∈ m.selfSent msg) :
    isOffer x = false ∧ Processes.isFromCreator x = false ∧ (∀ c, x ≠ .requestServiceIdentity c) ∧
      (x = .identityManagerReady → msg = .identityCreatorReady ∨ m.identityCreatorReady = true) := by
  cases tellsItself_of_mem hx with
  | creatorReady hWatchers => exact ⟨rfl, rfl, fun _ h => (by cases h), fun _ => .inl rfl⟩
  | watcherReady hWatchers hCreator => exact ⟨rfl, rfl, fun _ h => (by cases h), fun _ => .inr hCreator⟩
  | deleted candidate identity hCandidate hIdentity =>
    exact ⟨rfl, rfl, fun _ h => (by cases h), fun h => (by cases h)⟩

end IdentityManager

namespace Processes

open IdentityManager

variable {outcomes : Nat → CallOutcome} {env : Surroundings}

/-- The reports for the pool that are on their way. -/
def foundInFlight (s : Processes) : Nat :=
  (s.manager.identityManagerQueue.pending ++ s.creator.outbox).countP isOffer

/-- The deactivated users that the creator reports before it is ready. -/
def startupUsers (s : Processes) : Nat :=
  (s.creatorMessages.takeWhile (· ≠ .identityCreatorReady)).countP isOffer

/-- The watchers of candidates request identities once the manager has told them to start. -/
def WatchersWait (s : Processes) : Event → Prop
  | .arrive (.requestServiceIdentity _) => s.manager.serviceCandidateWatcherProto ≠ []
  | _ => True

/-- No call fails in the step. -/
def CallsSucceed (outcomes : Nat → CallOutcome) (env : Surroundings) (s : Processes) (event : Event) : Prop :=
  ∀ t ∈ next outcomes env s event,
    t.manager.failures = s.manager.failures ∧ IdentityCreator.Unfailed env s.creator t.creator

theorem countP_creatorMessages (s : Processes) :
    s.creatorMessages.countP isOffer = s.manager.identityManagerQueue.received.countP isOffer + s.foundInFlight := by
  have hOnly : ∀ xs : List IdentityManagerProtocol, (xs.filter isFromCreator).countP isOffer = xs.countP isOffer := by
    intro xs
    rw [List.countP_filter]
    apply List.countP_congr
    intro x _
    cases x <;> simp [isOffer, isFromCreator]
  rw [creatorMessages, hOnly, foundInFlight, Channel.history, List.append_assoc, List.countP_append]

/-- What is reported after the creator was ready does not count for the startup. -/
theorem startupUsers_of_append {s t : Processes} {later : List IdentityManagerProtocol}
    (hReady : .identityCreatorReady ∈ s.creatorMessages) (h : t.creatorMessages = s.creatorMessages ++ later) :
    t.startupUsers = s.startupUsers := by
  have hShort : (s.creatorMessages.takeWhile (· ≠ .identityCreatorReady)).length ≠ s.creatorMessages.length := by
    intro hAll
    have hSame := List.IsPrefix.eq_of_length (List.takeWhile_prefix _) hAll
    have hNone := List.takeWhile_eq_self_iff.mp hSame _ hReady
    simp at hNone
  rw [startupUsers, startupUsers, h, List.takeWhile_append, if_neg hShort]

structure Replenished (c₀ : IdentityCreator) (s : Processes) : Prop where
  waiting : s.creator.status = .waiting → s.creator = c₀ ∧ s.creatorMessages = []
  outbox : ∀ msg ∈ s.creator.outbox, isFromCreator msg = true
  size : .identityCreatorReady ∈ s.creatorMessages → 10 ≤ s.startupUsers
  heard : s.manager.identityCreatorReady = true ↔ .identityCreatorReady ∈ s.manager.identityManagerQueue.received
  ready : .identityManagerReady ∈ s.manager.identityManagerQueue.history → s.manager.identityCreatorReady = true
  gate : s.manager.serviceCandidateWatcherProto ≠ [] → s.manager.identityCreatorReady = true
  requests : ∀ c, .requestServiceIdentity c ∈ s.manager.identityManagerQueue.history →
    s.manager.identityCreatorReady = true
  pooled : s.manager.identityCreatorReady = false →
    s.manager.pool.length = s.manager.identityManagerQueue.received.countP isOffer
  quiet : s.manager.identityCreatorReady = false → ∀ x ∈ s.manager.identityCreatorQueue.history,
    x ≠ .createIdentity ∧ isActivation x = false
  complete : s.manager.identityCreatorReady = false → .identityCreatorReady ∈ s.creatorMessages →
    s.creatorMessages.countP isOffer = s.startupUsers
  balanced : s.manager.identityCreatorReady = true → Balanced s.startupUsers s.foundInFlight s.manager

namespace Replenished

variable {c₀ : IdentityCreator} {s t : Processes}

/-- The announcement of the creator is among its messages once the manager has handled it. -/
theorem announced (h : Replenished c₀ s) (hFlag : s.manager.identityCreatorReady = true) :
    .identityCreatorReady ∈ s.creatorMessages :=
  List.mem_filter.mpr ⟨List.mem_append_left _ (List.mem_append_left _ (h.heard.mp hFlag)), rfl⟩

/-- A message is on its way to the manager; it comes from a watcher or from the outbox. -/
theorem sent (h : Replenished c₀ s) {msg : IdentityManagerProtocol} {c : IdentityCreator}
    (hMessages : creatorMessages ⟨s.manager.sendToSelf msg, c⟩ = s.creatorMessages)
    (hFlight : foundInFlight ⟨s.manager.sendToSelf msg, c⟩ = s.foundInFlight)
    (hStatus : c.status = .waiting → c = s.creator) (hOutbox : ∀ x ∈ c.outbox, x ∈ s.creator.outbox)
    (hReady : msg ≠ .identityManagerReady)
    (hRequest : ∀ candidate, msg = .requestServiceIdentity candidate → s.manager.identityCreatorReady = true) :
    Replenished c₀ ⟨s.manager.sendToSelf msg, c⟩ := by
  have hUsers : startupUsers ⟨s.manager.sendToSelf msg, c⟩ = s.startupUsers := by
    rw [startupUsers, startupUsers, hMessages]
  have hHistory : (s.manager.sendToSelf msg).identityManagerQueue.history =
      s.manager.identityManagerQueue.history ++ [msg] := Channel.history_send _ _
  constructor
  · intro hWaiting
    have hSame := hStatus hWaiting
    rw [hMessages, hSame]
    exact h.waiting (hSame ▸ hWaiting)
  · exact fun x hx => h.outbox x (hOutbox x hx)
  · rw [hMessages, hUsers]
    exact h.size
  · exact h.heard
  · rw [hHistory]
    intro hMem
    rcases List.mem_append.mp hMem with hMem | hMem
    · exact h.ready hMem
    · exact absurd (List.mem_singleton.mp hMem).symm hReady
  · exact h.gate
  · intro candidate
    rw [hHistory]
    intro hMem
    rcases List.mem_append.mp hMem with hMem | hMem
    · exact h.requests candidate hMem
    · exact hRequest candidate (List.mem_singleton.mp hMem).symm
  · exact h.pooled
  · exact h.quiet
  · rw [hMessages, hUsers]
    exact h.complete
  · rw [hUsers, hFlight]
    exact fun hFlag => ⟨(h.balanced hFlag).total, (h.balanced hFlag).settled⟩

theorem arrive (h : Replenished c₀ s) {msg : IdentityManagerProtocol} (hMsg : isFromWatchers msg = true)
    (hAllowed : WatchersWait s (.arrive msg)) : Replenished c₀ ⟨s.manager.sendToSelf msg, s.creator⟩ := by
  have hOther : isFromCreator msg = false := by cases msg <;> simp_all [isFromWatchers, isFromCreator]
  have hOffer : isOffer msg = false := by cases msg <;> simp_all [isFromWatchers, isOffer]
  apply h.sent
  · simp [creatorMessages, sendToSelf, hOther]
  · simp [foundInFlight, sendToSelf, hOffer]
  · exact fun _ => rfl
  · exact fun _ hx => hx
  · rintro rfl
    cases hMsg
  · rintro candidate rfl
    exact h.gate hAllowed

theorem deliver (h : Replenished c₀ s) {msg : IdentityManagerProtocol} {rest : List IdentityManagerProtocol}
    (hOutbox : s.creator.outbox = msg :: rest) :
    Replenished c₀ ⟨s.manager.sendToSelf msg, { s.creator with outbox := rest }⟩ := by
  have hFrom := h.outbox msg (hOutbox ▸ List.mem_cons_self)
  apply h.sent
  · simp [creatorMessages, sendToSelf, hOutbox]
  · simp [foundInFlight, sendToSelf, hOutbox]
  · intro hStatus
    -- a waiting creator has nothing to deliver
    have hNone := (h.waiting hStatus).2
    rw [creatorMessages, hOutbox, List.filter_append, List.filter_cons_of_pos hFrom] at hNone
    simp at hNone
  · exact fun x hx => hOutbox ▸ List.mem_cons_of_mem _ hx
  · rintro rfl
    cases hFrom
  · rintro candidate rfl
    cases hFrom

/-- The manager has handled the announcement: the pool holds what was reported, and nothing else is on its way. -/
theorem opened (h : Replenished c₀ s) (hFlag : s.manager.identityCreatorReady = false)
    (hFront : s.manager.identityManagerQueue.pending.head? = some .identityCreatorReady) :
    Balanced s.startupUsers s.foundInFlight s.manager := by
  obtain ⟨rest, hPending⟩ : ∃ rest, s.manager.identityManagerQueue.pending = .identityCreatorReady :: rest := by
    cases hList : s.manager.identityManagerQueue.pending with
    | nil =>
      rw [hList] at hFront
      cases hFront
    | cons x rest =>
      rw [hList] at hFront
      exact ⟨rest, congrArg (· :: rest) (Option.some.inj hFront)⟩
  let front := s.manager.identityManagerQueue.received.filter isFromCreator
  have hMessages : s.creatorMessages =
      front ++ .identityCreatorReady :: (rest ++ s.creator.outbox).filter isFromCreator := by
    rw [creatorMessages, Channel.history, hPending, List.append_assoc, List.filter_append, List.cons_append,
      List.filter_cons_of_pos rfl]
  have hAnnounced : .identityCreatorReady ∈ s.creatorMessages := by
    rw [hMessages]
    exact List.mem_append_right _ List.mem_cons_self
  have hAll := h.complete hFlag hAnnounced
  have hFrontUsers : s.startupUsers ≤ s.manager.identityManagerQueue.received.countP isOffer := by
    have hBounded : s.startupUsers ≤ front.countP isOffer := by
      rw [startupUsers, hMessages, List.takeWhile_append]
      split
      · simp
      · exact (List.takeWhile_sublist _).countP_le
    exact hBounded.trans List.filter_sublist.countP_le
  rw [countP_creatorMessages] at hAll
  have hNoCreates : s.manager.createsInFlight = 0 := by
    refine List.count_eq_zero.mpr fun hMem => ?_
    exact (h.quiet hFlag _ (Channel.mem_history_of_pending hMem)).1 rfl
  have hNoIdentities : s.manager.newIdentities = 0 :=
    List.countP_eq_zero.mpr fun x hx => by simp [(h.quiet hFlag x hx).2]
  have hPool := h.pooled hFlag
  have hSize := h.size hAnnounced
  constructor <;> omega

theorem handled (h : Replenished c₀ s) {msg : IdentityManagerProtocol} {queue : Channel IdentityManagerProtocol}
    {order : IterationOrder} (hRecv : s.manager.identityManagerQueue.recv = some (msg, queue))
    (hCalls : (handle outcomes order msg { s.manager with identityManagerQueue := queue }).failures =
      s.manager.failures) :
    Replenished c₀
      ⟨handle outcomes order msg { s.manager with identityManagerQueue := queue }, s.creator⟩ := by
  obtain ⟨rest, hPending, hQueue⟩ := Channel.recv_eq_some.mp hRecv
  let m : IdentityManager := { s.manager with identityManagerQueue := queue }
  let t : Processes := ⟨handle outcomes order msg m, s.creator⟩
  have hMem : msg ∈ s.manager.identityManagerQueue.history :=
    Channel.mem_history_of_pending (hPending ▸ List.mem_cons_self)
  have hSent : t.manager.identityManagerQueue = queue.sendAll (m.selfSent msg) := handle_queue outcomes order msg m
  have hHistory : t.manager.identityManagerQueue.history =
      s.manager.identityManagerQueue.history ++ m.selfSent msg := by
    rw [hSent, Channel.history_sendAll, Channel.history_recv hRecv]
  have hReceived : t.manager.identityManagerQueue.received = s.manager.identityManagerQueue.received ++ [msg] := by
    rw [hSent, Channel.received_sendAll, hQueue]
  have hOwn : (m.selfSent msg).filter isFromCreator = [] :=
    List.filter_eq_nil_iff.mpr fun x hx => by simp [(selfSent_kind hx).2.1]
  have hNoOffer : (m.selfSent msg).countP isOffer = 0 :=
    List.countP_eq_zero.mpr fun x hx => by simp [(selfSent_kind hx).1]
  have hMessages : t.creatorMessages = s.creatorMessages := by
    simp [creatorMessages, hHistory, hOwn, t]
  have hUsers : t.startupUsers = s.startupUsers := by rw [startupUsers, startupUsers, hMessages]
  have hFlight : s.foundInFlight = t.foundInFlight + if isOffer msg = true then 1 else 0 := by
    have hLeft : t.manager.identityManagerQueue.pending = rest ++ m.selfSent msg := by
      rw [hSent, Channel.pending_sendAll, hQueue]
    rw [foundInFlight, foundInFlight, hPending, hLeft]
    simp only [List.countP_append, List.countP_cons, hNoOffer, t]
    omega
  have hFlag : t.manager.identityCreatorReady = true ↔
      s.manager.identityCreatorReady = true ∨ msg = .identityCreatorReady := handle_creatorReady outcomes order msg m
  have hEarly : t.manager.identityCreatorReady = false → s.manager.identityCreatorReady = false ∧
      Calm (if isOffer msg = true then 1 else 0) m t.manager := by
    intro hBefore
    have hUnready : s.manager.identityCreatorReady = false := by
      by_contra hTrue
      rw [hFlag.mpr (.inl (by simpa using hTrue))] at hBefore
      cases hBefore
    refine ⟨hUnready, handle_calm outcomes order (fun c hc => ?_) (fun hc => ?_) m⟩
    · rw [h.requests c (hc ▸ hMem)] at hUnready
      cases hUnready
    · rw [h.ready (hc ▸ hMem)] at hUnready
      cases hUnready
  change Replenished c₀ t
  constructor
  · rw [hMessages]
    exact h.waiting
  · exact h.outbox
  · rw [hMessages, hUsers]
    exact h.size
  · rw [hReceived, List.mem_append, List.mem_singleton, ← h.heard, eq_comm (b := msg)]
    exact hFlag
  · rw [hHistory]
    intro hReady
    rcases List.mem_append.mp hReady with hReady | hReady
    · exact hFlag.mpr (.inl (h.ready hReady))
    · exact hFlag.mpr ((selfSent_kind hReady).2.2.2 rfl).symm
  · intro hProto
    by_contra hBefore
    obtain ⟨hUnready, hCalm⟩ := hEarly (by simpa using hBefore)
    rw [h.gate (hCalm.watchers ▸ hProto)] at hUnready
    cases hUnready
  · intro c
    rw [hHistory]
    intro hRequest
    rcases List.mem_append.mp hRequest with hRequest | hRequest
    · exact hFlag.mpr (.inl (h.requests c hRequest))
    · exact absurd rfl ((selfSent_kind hRequest).2.2.1 c)
  · intro hBefore
    obtain ⟨hUnready, hCalm⟩ := hEarly hBefore
    rw [hReceived, List.countP_append, List.countP_singleton, hCalm.pool]
    exact congrArg (· + _) (h.pooled hUnready)
  · intro hBefore x hx
    obtain ⟨hUnready, hCalm⟩ := hEarly hBefore
    obtain ⟨sent, hCreatorQueue, hOther⟩ := hCalm.queue
    rw [hCreatorQueue, Channel.history_sendAll] at hx
    rcases List.mem_append.mp hx with hx | hx
    · exact h.quiet hUnready x hx
    · exact hOther x hx
  · intro hBefore
    rw [hMessages, hUsers]
    exact h.complete (hEarly hBefore).1
  · intro hAfter
    rw [hUsers]
    have hBalanced : Balanced s.startupUsers s.foundInFlight m := by
      rcases hFlag.mp hAfter with hReady | rfl
      · exact ⟨(h.balanced hReady).total, (h.balanced hReady).settled⟩
      · cases hReady : s.manager.identityCreatorReady with
        | true => exact ⟨(h.balanced hReady).total, (h.balanced hReady).settled⟩
        | false =>
          have hOpened := h.opened hReady (by rw [hPending]; rfl)
          exact ⟨hOpened.total, hOpened.settled⟩
    rw [hFlight] at hBalanced
    cases msg with
    | requestServiceIdentity c => exact hBalanced.requested c hCalls
    | identityManagerReady => exact hBalanced.reconciled hCalls
    | _ => exact (handle_calm outcomes order (by simp) (by simp) m).balanced hBalanced

/-- The creator has taken a message and sends the given answers; it has not announced itself with them. -/
theorem answered (h : Replenished c₀ s) {msg : IdentityCreatorProtocol} {queue : Channel IdentityCreatorProtocol}
    {c : IdentityCreator} {answers : List IdentityManagerProtocol}
    (hRecv : s.manager.identityCreatorQueue.recv = some (msg, queue))
    (hStatus : c.status = .waiting → c = s.creator) (hOutbox : c.outbox = s.creator.outbox ++ answers)
    (hAnswers : ∀ x ∈ answers, isFromCreator x = true ∧ x ≠ .identityCreatorReady)
    (hCount : answers.countP isOffer = if msg = .createIdentity then 1 else 0) :
    Replenished c₀ ⟨{ s.manager with identityCreatorQueue := queue }, c⟩ := by
  obtain ⟨rest, hPending, hQueue⟩ := Channel.recv_eq_some.mp hRecv
  let t : Processes := ⟨{ s.manager with identityCreatorQueue := queue }, c⟩
  have hMessages : t.creatorMessages = s.creatorMessages ++ answers := by
    have hOwn : answers.filter isFromCreator = answers := List.filter_eq_self.mpr fun x hx => (hAnswers x hx).1
    rw [creatorMessages, creatorMessages, show t.creator.outbox = _ from hOutbox,
      ← List.append_assoc, List.filter_append,
      hOwn]
  have hReady : .identityCreatorReady ∈ t.creatorMessages → .identityCreatorReady ∈ s.creatorMessages := by
    rw [hMessages, List.mem_append]
    rintro (hMem | hMem)
    · exact hMem
    · exact absurd rfl (hAnswers _ hMem).2
  have hUsers : .identityCreatorReady ∈ s.creatorMessages → t.startupUsers = s.startupUsers :=
    fun hMem => startupUsers_of_append hMem hMessages
  have hFlight : t.foundInFlight = s.foundInFlight + answers.countP isOffer := by
    rw [foundInFlight, foundInFlight, show t.creator.outbox = _ from hOutbox, ← List.append_assoc, List.countP_append]
  have hHistory : t.manager.identityCreatorQueue.history = s.manager.identityCreatorQueue.history :=
    Channel.history_recv hRecv
  have hCreates : s.manager.createsInFlight = t.manager.createsInFlight + answers.countP isOffer := by
    rw [createsInFlight, createsInFlight, hPending, show t.manager.identityCreatorQueue = _ from
      hQueue, List.count_cons,
      hCount]
    simp
  change Replenished c₀ t
  constructor
  · intro hWaiting
    have hSame : c = s.creator := hStatus hWaiting
    obtain ⟨hCreator, hNone⟩ := h.waiting (hSame ▸ hWaiting)
    refine ⟨hSame.trans hCreator, ?_⟩
    rw [hSame] at hOutbox
    rw [hMessages, hNone, List.self_eq_append_right.mp hOutbox]
    rfl
  · intro x hx
    rcases List.mem_append.mp (hOutbox ▸ hx) with hx | hx
    · exact h.outbox x hx
    · exact (hAnswers x hx).1
  · intro hMem
    rw [hUsers (hReady hMem)]
    exact h.size (hReady hMem)
  · exact h.heard
  · exact h.ready
  · exact h.gate
  · exact h.requests
  · exact h.pooled
  · rw [hHistory]
    exact h.quiet
  · intro hFlag hMem
    -- a user is only made where one was asked for
    have hNoOffer : answers.countP isOffer = 0 := by
      rw [hCount, if_neg]
      rintro rfl
      exact (h.quiet hFlag _ (Channel.mem_history_of_pending (hPending ▸ List.mem_cons_self))).1 rfl
    rw [hUsers (hReady hMem), hMessages, List.countP_append, hNoOffer]
    exact h.complete hFlag (hReady hMem)
  · intro hFlag
    obtain ⟨hTotal, hSettled⟩ := h.balanced hFlag
    rw [hUsers (h.announced hFlag)]
    have hNew : t.manager.newIdentities = s.manager.newIdentities := congrArg (List.countP isActivation) hHistory
    have hPool : t.manager.pool.length = s.manager.pool.length := rfl
    constructor <;> omega

theorem unready (h : Replenished c₀ s) (hWaiting : s.creator.status = .waiting) :
    s.manager.identityCreatorReady = false := by
  by_contra hTrue
  have hMem := h.announced (by simpa using hTrue)
  rw [(h.waiting hWaiting).2] at hMem
  cases hMem

/-- The creator starts: it announces itself after a full pool of reports, or it ends there. -/
theorem initialized (h : Replenished c₀ s) (hSize : c₀.serviceUsersPoolSize = 10)
    (hWaiting : s.creator.status = .waiting) (hOutbox : s.creator.outbox = [])
    {queue : Channel IdentityCreatorProtocol}
    (hRecv : s.manager.identityCreatorQueue.recv = some (.startService, queue)) (order : IterationOrder) :
    Replenished c₀
      ⟨{ s.manager with identityCreatorQueue := queue }, s.creator.receive env order .startService⟩ := by
  obtain ⟨hCreator, hNone⟩ := h.waiting hWaiting
  have hFlag := h.unready hWaiting
  let t : Processes := ⟨{ s.manager with identityCreatorQueue := queue }, s.creator.receive env order .startService⟩
  have hFrom : ∀ x ∈ t.creator.outbox, isFromCreator x = true :=
    receive_outbox env order .startService s.creator h.outbox
  have hMessages : t.creatorMessages = t.creator.outbox := by
    rw [creatorMessages, List.filter_append, List.append_eq_nil_iff] at hNone
    rw [creatorMessages, List.filter_append,
      show t.manager.identityManagerQueue = s.manager.identityManagerQueue from rfl,
      hNone.1, List.nil_append, List.filter_eq_self]
    exact hFrom
  have hStarted : t.creator.status ≠ .waiting ∧ (.identityCreatorReady ∈ t.creator.outbox →
      t.creator.outbox.countP isOffer = t.startupUsers ∧ 10 ≤ t.startupUsers) := by
    rw [startupUsers, hMessages]
    obtain ⟨listed, found, gone, created, hInit, -⟩ := IdentityCreator.initializeFrom_spec env s.creator
    cases hResult : s.creator.initializeFrom env with
    | mk result c =>
      rw [hResult] at hInit
      have hUsers : ∀ x ∈ c.outbox, x ≠ .identityCreatorReady := by
        rw [hInit.outbox, hOutbox]
        intro x hx
        simp only [List.nil_append, List.mem_append, List.mem_map] at hx
        rcases hx with ⟨_, _, rfl⟩ | ⟨_, _, rfl⟩ <;> simp
      cases result with
      | error e =>
        have hEnd : t.creator = { c with status := .panicked } := by
          simp only [t, IdentityCreator.receive, hWaiting, hResult]
        rw [hEnd]
        exact ⟨fun h => (by cases h), fun hMem => absurd rfl (hUsers _ hMem)⟩
      | ok url =>
        have hEnd : t.creator = { c with status := .running }.sendToManager .identityCreatorReady := by
          simp only [t, IdentityCreator.receive, hWaiting, hResult]
        have hOffers := IdentityCreator.initializeFrom_offers hResult
        rw [hCreator, hSize] at hOffers
        rw [hEnd]
        refine ⟨fun h => (by cases h), fun _ => ?_⟩
        rw [IdentityCreator.sendToManager, List.takeWhile_append_of_pos (by simpa using hUsers)]
        simpa [isOffer] using hOffers
  change Replenished c₀ t
  constructor
  · exact fun hStatus => absurd hStatus hStarted.1
  · exact hFrom
  · rw [hMessages]
    exact fun hMem => (hStarted.2 hMem).2
  · exact h.heard
  · exact h.ready
  · exact h.gate
  · exact h.requests
  · exact h.pooled
  · rw [show t.manager.identityCreatorQueue.history = _ from Channel.history_recv hRecv]
    exact h.quiet
  · rw [hMessages]
    exact fun _ hMem => (hStarted.2 hMem).1
  · intro hTrue
    rw [show t.manager.identityCreatorReady = false from hFlag] at hTrue
    cases hTrue

theorem received (h : Replenished c₀ s) (hSize : c₀.serviceUsersPoolSize = 10) {msg : IdentityCreatorProtocol}
    {queue : Channel IdentityCreatorProtocol} {order : IterationOrder} (hOutbox : s.creator.outbox = [])
    (hStatus : s.creator.status ≠ .panicked) (hRecv : s.manager.identityCreatorQueue.recv = some (msg, queue))
    (hCalls : IdentityCreator.Unfailed env s.creator (s.creator.receive env order msg)) :
    Replenished c₀ ⟨{ s.manager with identityCreatorQueue := queue }, s.creator.receive env order msg⟩ := by
  cases hCreator : s.creator.status with
  | panicked => exact absurd hCreator hStatus
  | waiting =>
    by_cases hStart : msg = .startService
    · subst hStart
      exact h.initialized hSize hCreator hOutbox hRecv order
    · have hDropped : s.creator.receive env order msg = s.creator := by
        cases msg <;> simp_all [IdentityCreator.receive]
      obtain ⟨rest, hPending, -⟩ := Channel.recv_eq_some.mp hRecv
      have hQuiet := h.quiet (h.unready hCreator) msg
        (Channel.mem_history_of_pending (hPending ▸ List.mem_cons_self))
      rw [hDropped]
      exact h.answered hRecv (fun _ => rfl) (List.append_nil _).symm (List.forall_mem_nil _)
        (by rw [if_neg hQuiet.1]; rfl)
  | running =>
    have hReceive : s.creator.receive env order msg = s.creator.handle env order msg := by
      simp [IdentityCreator.receive, hCreator]
    have hRunning : (s.creator.handle env order msg).status ≠ .waiting := by
      rcases IdentityCreator.handle_status env order msg s.creator with hSame | hPanic
      · rw [hSame, hCreator]
        simp
      · rw [hPanic]
        simp
    rw [hReceive] at hCalls ⊢
    by_cases hCreate : msg = .createIdentity
    · subst hCreate
      rcases IdentityCreator.createUser_spec env s.creator with
        ⟨user, c', hCreated, hAnswer⟩ | ⟨e, c', hFailed, -⟩
      · have hHandle : s.creator.handle env order .createIdentity =
            c'.sendToManager (.foundServiceUser user false) := by
          simp only [IdentityCreator.handle, hCreated]
        rw [hHandle] at hRunning ⊢
        exact h.answered hRecv (fun hWaiting => absurd hWaiting hRunning) hAnswer.outbox (by simp [isFromCreator])
          (by simp [isOffer])
      · have hHandle : s.creator.handle env order .createIdentity = c' := by
          simp only [IdentityCreator.handle, hFailed]
        rw [hHandle] at hCalls
        exact absurd hCalls (IdentityCreator.createUser_succeeds hFailed)
    · cases IdentityCreator.handle_answer env order msg s.creator with
      | silent hSame hDrawn =>
        exact h.answered hRecv (fun hWaiting => absurd hWaiting hRunning) (hSame.trans (List.append_nil _).symm)
          (List.forall_mem_nil _) (by rw [if_neg hCreate]; rfl)
      | created user hSame hId hDrawn hMsg => exact absurd hMsg hCreate
      | activated user clusterId serviceNs serviceName labels userName hMsg hSame hDrawn =>
        exact h.answered hRecv (fun hWaiting => absurd hWaiting hRunning) hSame (by simp [isFromCreator])
          (by rw [if_neg hCreate]; rfl)

theorem step (h : Replenished c₀ s) (hSize : c₀.serviceUsersPoolSize = 10) {event : Event}
    (hAllowed : WatchersWait s event) (hCalls : CallsSucceed outcomes env s event)
    (hNext : next outcomes env s event = some t) : Replenished c₀ t := by
  obtain ⟨hManager, hCreator⟩ := hCalls t hNext
  cases next_move outcomes env hNext with
  | arrive msg hMsg => exact h.arrive hMsg hAllowed
  | handle order msg queue hRecv => exact h.handled hRecv hManager
  | receive order msg queue hOutbox hStatus hRecv => exact h.received hSize hOutbox hStatus hRecv hCreator
  | deliver msg rest hOutbox => exact h.deliver hOutbox

end Replenished

variable {clusterId : String} {stored : List ServiceIdentity} {system : System} {secret : SecretApi}

theorem replenished_started (poolSize : Nat) :
    Replenished (.new system secret poolSize) (started clusterId stored system secret poolSize) := by
  obtain ⟨provider, hRestored⟩ := restored_frame clusterId stored
  constructor
  case pooled =>
    intro _
    rw [show (started clusterId stored system secret poolSize).manager = restored clusterId stored from rfl,
      pool_restored, hRestored]
    rfl
  all_goals
    simp [started, hRestored, creatorMessages, IdentityCreator.new, new, sendToCreator, Channel.empty, Channel.history,
      Channel.send, isActivation]

/-- `CREDENTIALS_POOL_SIZE` of the service. -/
def CREDENTIALS_POOL_SIZE : Nat := 10

/-- Once the creator is ready, every user that a new identity has taken is replaced while less than a full pool is
left, by a user in the pool, a report on its way or a user asked for. -/
theorem pool_replenished {s : Processes}
    (hRun : Steps (next outcomes env) (fun s event => WatchersWait s event ∧ CallsSucceed outcomes env s event)
      (started clusterId stored system secret CREDENTIALS_POOL_SIZE) s)
    (hReady : .identityCreatorReady ∈ s.creatorMessages) :
    CREDENTIALS_POOL_SIZE ≤ s.startupUsers ∧
      s.manager.pool.length + s.manager.createsInFlight + s.foundInFlight =
        max CREDENTIALS_POOL_SIZE (s.startupUsers - s.manager.newIdentities) := by
  have h := hRun.invariant (Replenished (.new system secret CREDENTIALS_POOL_SIZE))
    (fun _ _ _ h hAllowed hNext => h.step rfl hAllowed.1 hAllowed.2 hNext) (replenished_started _)
  refine ⟨h.size hReady, ?_⟩
  cases hFlag : s.manager.identityCreatorReady with
  | true => exact (h.balanced hFlag).total
  | false =>
    -- no identity has been made and no user was asked for
    have hAll := h.complete hFlag hReady
    have hPool := h.pooled hFlag
    have hSize := h.size hReady
    have hCreates : s.manager.createsInFlight = 0 :=
      List.count_eq_zero.mpr fun hMem => (h.quiet hFlag _ (Channel.mem_history_of_pending hMem)).1 rfl
    have hNew : s.manager.newIdentities = 0 := List.countP_eq_zero.mpr fun x hx => by simp [(h.quiet hFlag x hx).2]
    rw [countP_creatorMessages] at hAll
    rw [CREDENTIALS_POOL_SIZE]
    omega

instance (s : Processes) (event : Event) : Decidable (WatchersWait s event) := by
  unfold WatchersWait
  split <;> infer_instance

instance (s : Processes) (event : Event) : Decidable (CallsSucceed outcomes env s event) := by
  unfold CallsSucceed
  infer_instance

/-- The creator fills the pool, then the manager makes an identity for candidate `a`. -/
def sampleRequested : List Event :=
  .receive .asStored :: List.replicate 11 .deliver ++
    [.arrive (.foundServiceCandidate (sampleCandidate "a")), .arrive .deploymentWatcherReady,
      .arrive .deploymentWatcherReady] ++ List.replicate 15 (.handle .asStored)

def sampleReplenished : Processes :=
  runD (next (fun _ => .delivered) (IdentityCreator.sampleSurroundings fun _ => .delivered))
    (started "cluster" [] ⟨⟨[], [], []⟩, 0, []⟩ ⟨some ⟨some ∅⟩, 0, []⟩ CREDENTIALS_POOL_SIZE)
    sampleRequested

theorem pool_replenished_sample :
    CREDENTIALS_POOL_SIZE ≤ sampleReplenished.startupUsers ∧
      sampleReplenished.manager.pool.length + sampleReplenished.manager.createsInFlight +
          sampleReplenished.foundInFlight =
        max CREDENTIALS_POOL_SIZE (sampleReplenished.startupUsers - sampleReplenished.manager.newIdentities) :=
  pool_replenished (Steps.of_runD sampleRequested (by decide +kernel) (by decide +kernel)) (by decide +kernel)

end Processes

end SdpK8sInjector.IdentityService
