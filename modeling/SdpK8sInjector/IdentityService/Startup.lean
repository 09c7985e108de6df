import SdpK8sInjector.IdentityService.Records
import SdpK8sInjector.IdentityService.Requests
import SdpK8sInjector.Lib.Transition

/-! # From the first report to the reconciliation

Before the manager is ready no handler changes which user a service holds. Which
candidates are known and which are missing therefore does not depend on the order
of the reports.
-/

namespace SdpK8sInjector.IdentityService.IdentityManager

open Lib Common ServiceCredentialsProvider

variable {outcomes : Nat → CallOutcome} {order : IterationOrder}

/-- The messages that the watchers and the creator send before the manager is ready. The watcher of the pods
does not wait for it. -/
def isStartup : IdentityManagerProtocol → Bool
  | .foundServiceCandidate _ | .foundServiceUser _ _ | .identityCreatorReady | .deploymentWatcherReady
  | .releaseDeviceId _ _ => true
  | _ => false

def StartupOnly (m : IdentityManager) : Event → Prop
  | .arrive msg => isStartup msg = true
  | .handle _ => m.identityManagerQueue.pending.head?.all isStartup = true

instance (m : IdentityManager) : (event : Event) → Decidable (StartupOnly m event)
  | .arrive msg => inferInstanceAs (Decidable (isStartup msg = true))
  | .handle _ => inferInstanceAs (Decidable (m.identityManagerQueue.pending.head?.all isStartup = true))

/-- The user that the service with the given id holds. -/
def heldUser (services : HashMap String ServiceIdentity) (id : String) : Option String :=
  (services.lookup id).map fun i => i.credentials.id

/-- No service changes its user before the manager is ready, so each candidate is filed once and for all. -/
structure Startup (stored : HashMap String ServiceIdentity) (m : IdentityManager) : Prop where
  recorded : Recorded m
  held : ∀ id, heldUser m.identities id = heldUser stored id
  known : ∀ id ∈ m.existingServiceCandidates, ∃ i, stored.lookup id = some i
  missing : ∀ id ∈ m.missingServiceCandidates, stored.lookup id = none

section Held

variable {stored : HashMap String ServiceIdentity} {m : IdentityManager}

theorem Startup.registered (h : Startup stored m) {id : String} {i : ServiceIdentity}
    (hStored : stored.lookup id = some i) :
    ∃ j, m.identities.lookup id = some j ∧ j.credentials.id = i.credentials.id := by
  have hHeld := h.held id
  rw [heldUser, heldUser, hStored] at hHeld
  exact Option.map_eq_some_iff.mp hHeld

theorem Startup.stored_of_registered (h : Startup stored m) {id : String} {i : ServiceIdentity}
    (hLookup : m.identities.lookup id = some i) :
    ∃ j, stored.lookup id = some j ∧ j.credentials.id = i.credentials.id := by
  have hHeld := (h.held id).symm
  rw [heldUser, heldUser, hLookup] at hHeld
  exact Option.map_eq_some_iff.mp hHeld

theorem Startup.unregistered (h : Startup stored m) {id : String} (hLookup : m.identities.lookup id = none) :
    stored.lookup id = none := by
  cases hStored : stored.lookup id with
  | none => rfl
  | some i =>
    obtain ⟨j, hj, -⟩ := h.registered hStored
    cases hLookup.symm.trans hj

/-- What is sent and called does not matter here. -/
theorem Startup.sameManager {m' : IdentityManager} (h : Startup stored m) (hIdentities : m'.identities = m.identities)
    (hReceived : m'.identityManagerQueue.received = m.identityManagerQueue.received)
    (hCandidates : m'.existingServiceCandidates = m.existingServiceCandidates)
    (hMissing : m'.missingServiceCandidates = m.missingServiceCandidates)
    (hActivated : m'.existingActivatedCredentials = m.existingActivatedCredentials)
    (hDeactivated : m'.existingDeactivatedCredentials = m.existingDeactivatedCredentials) : Startup stored m' := by
  constructor
  · constructor <;> simp only [hActivated, hDeactivated, hReceived, hCandidates, hMissing, MissingKeyed]
    exacts [h.recorded.activated, h.recorded.deactivated, h.recorded.candidates, h.recorded.missing_keyed]
  · rw [hIdentities]
    exact h.held
  · rw [hCandidates]
    exact h.known
  · rw [hMissing]
    exact h.missing

theorem heldUser_releaseDeviceId (lookup : ServiceLookup) (uuid : Uuid) (m : IdentityManager) (id : String) :
    heldUser (m.releaseDeviceId outcomes lookup uuid).identities id = heldUser m.identities id := by
  rcases releaseDeviceId_cases outcomes lookup uuid m with ⟨-, hEq⟩ | ⟨i, sent, hLookup, -, hEq⟩ <;> rw [hEq]
  have hId : Service.serviceId (recordDeviceId uuid i) = formatServiceId lookup.ns lookup.name := by
    rw [serviceId_recordDeviceId]
    exact ServiceCredentialsProvider.keyed _ _ i hLookup
  simp only [heldUser, identities, services_registerOrUpdateIdentity, HashMap.lookup_insert_eq_ite, hId]
  split
  · subst id
    rw [hLookup]
    simp
  · rfl

end Held

theorem Startup.handled {stored : HashMap String ServiceIdentity} {m : IdentityManager} {msg : IdentityManagerProtocol}
    {queue : Channel IdentityManagerProtocol} (h : Startup stored m)
    (hRecv : m.identityManagerQueue.recv = some (msg, queue)) (hMsg : isStartup msg = true) :
    Startup stored (handle outcomes order msg { m with identityManagerQueue := queue }) := by
  have hRecorded : Recorded (handle outcomes order msg { m with identityManagerQueue := queue }) :=
    h.recorded.handled hRecv
  cases msg with
  | foundServiceCandidate candidate =>
    rcases foundServiceCandidate_cases candidate { m with identityManagerQueue := queue } with
      ⟨-, hEq⟩ | ⟨id', identity, -, hFound, hEq⟩ | ⟨id', -, hFound, hEq⟩
    · refine ⟨hRecorded, ?_, ?_, ?_⟩ <;> simp only [handle, hEq]
      exacts [h.held, h.known, h.missing]
    · refine ⟨hRecorded, ?_, fun id hId => ?_, ?_⟩ <;> simp only [handle, hEq] at *
      · exact h.held
      · rcases AList.mem_insert _ |>.mp hId with rfl | hId
        · obtain ⟨i, hStored, -⟩ := h.stored_of_registered hFound
          exact ⟨i, hStored⟩
        · exact h.known id hId
      · exact h.missing
    · refine ⟨hRecorded, ?_, ?_, fun id hId => ?_⟩ <;> simp only [handle, hEq] at *
      · exact h.held
      · exact h.known
      · rcases AList.mem_insert _ |>.mp hId with rfl | hId
        · exact h.unregistered hFound
        · exact h.missing id hId
  | foundServiceUser user activated =>
    cases activated <;> exact ⟨hRecorded, h.held, h.known, h.missing⟩
  | identityCreatorReady =>
    obtain ⟨_, _, hEq⟩ := identityCreatorReadyHandler_cases { m with identityManagerQueue := queue }
    refine ⟨hRecorded, ?_, ?_, ?_⟩ <;> simp only [handle, hEq]
    exacts [h.held, h.known, h.missing]
  | deploymentWatcherReady =>
    obtain ⟨_, _, hEq⟩ := deploymentWatcherReady_cases { m with identityManagerQueue := queue }
    refine ⟨hRecorded, ?_, ?_, ?_⟩ <;> simp only [handle, hEq]
    exacts [h.held, h.known, h.missing]
  | releaseDeviceId lookup uuid =>
    have hOther : ¬IsReport (.releaseDeviceId lookup uuid) := id
    have hSame := handle_sameRecords outcomes order hOther { m with identityManagerQueue := queue }
    refine ⟨hRecorded, fun id => ?_, ?_, ?_⟩
    · exact (heldUser_releaseDeviceId lookup uuid _ id).trans (h.held id)
    · rw [hSame.candidates]
      exact h.known
    · rw [hSame.missing]
      exact h.missing
  | _ => cases hMsg

theorem Startup.step {stored : HashMap String ServiceIdentity} {m m' : IdentityManager} {event : Event}
    (h : Startup stored m) (hAllowed : StartupOnly m event) (hNext : next outcomes m event = some m') :
    Startup stored m' := by
  cases event with
  | arrive msg =>
    cases hNext
    exact h.sameManager rfl rfl rfl rfl rfl rfl
  | handle order =>
    obtain ⟨⟨msg, queue⟩, hRecv, rfl⟩ := Option.map_eq_some_iff.mp hNext
    obtain ⟨rest, hPending, -⟩ := Channel.recv_eq_some.mp hRecv
    simp only [StartupOnly, hPending, List.head?_cons, Option.all_some] at hAllowed
    exact h.handled hRecv hAllowed

theorem handle_startup_asks (outcomes : Nat → CallOutcome) {msg : IdentityManagerProtocol}
    (hMsg : isStartup msg = true)
    (order : IterationOrder) (m : IdentityManager) :
    ∃ sent, (handle outcomes order msg m).identityCreatorQueue = m.identityCreatorQueue.sendAll sent ∧
      ∀ x ∈ sent, ∃ user deviceId, x = .releaseDeviceId user deviceId := by
  have hNothing : m.identityCreatorQueue = m.identityCreatorQueue.sendAll [] := by simp
  cases msg with
  | foundServiceCandidate candidate =>
    rcases foundServiceCandidate_cases candidate m with ⟨-, h⟩ | ⟨_, _, -, -, h⟩ | ⟨_, -, -, h⟩ <;>
      rw [handle, h] <;> exact ⟨[], hNothing, by simp⟩
  | foundServiceUser user activated => cases activated <;> exact ⟨[], hNothing, by simp⟩
  | identityCreatorReady =>
    obtain ⟨_, _, h⟩ := identityCreatorReadyHandler_cases m
    rw [handle, h]
    exact ⟨[], hNothing, by simp⟩
  | deploymentWatcherReady =>
    obtain ⟨_, _, h⟩ := deploymentWatcherReady_cases m
    rw [handle, h]
    exact ⟨[], hNothing, by simp⟩
  | releaseDeviceId lookup uuid =>
    rcases releaseDeviceId_cases outcomes lookup uuid m with ⟨-, h⟩ | ⟨_, sent, -, hSent, h⟩ <;> rw [handle, h]
    · exact ⟨[], hNothing, by simp⟩
    · refine ⟨sent, rfl, fun x hx => ?_⟩
      rcases hSent with rfl | rfl
      · cases hx
      · exact ⟨_, _, List.mem_singleton.mp hx⟩
  | _ => cases hMsg

theorem handle_startup (outcomes : Nat → CallOutcome) {msg : IdentityManagerProtocol} (hMsg : isStartup msg = true)
    (order : IterationOrder) (m : IdentityManager) :
    (∃ sent, (handle outcomes order msg m).identityCreatorQueue = m.identityCreatorQueue.sendAll sent ∧
      ∀ x ∈ sent, ∃ user deviceId, x = .releaseDeviceId user deviceId) ∧
    ((handle outcomes order msg m).identityCreatorReady = true ↔
      m.identityCreatorReady = true ∨ msg = .identityCreatorReady) ∧
    ∀ x ∈ m.selfSent msg, x = .identityManagerReady ∧
      (handle outcomes order msg m).identityCreatorReady = true := by
  refine ⟨handle_startup_asks outcomes hMsg order m, handle_creatorReady outcomes order msg m, fun x hx => ?_⟩
  rw [handle_creatorReady]
  cases tellsItself_of_mem hx with
  | creatorReady hWatchers => exact ⟨rfl, .inr rfl⟩
  | watcherReady hWatchers hCreator => exact ⟨rfl, .inl hCreator⟩
  | deleted candidate identity hCandidate hIdentity => cases hMsg

theorem identityManagerReady_requested (outcomes : Nat → CallOutcome) (order : IterationOrder) (m : IdentityManager) :
    Requested (order.walk (HashMap.values m.missingServiceCandidates)) (m.reconcile outcomes order)
      (m.identityManagerReady outcomes order) := by
  have h := foldl_requestServiceIdentity_requested outcomes
    (order.walk (HashMap.values m.missingServiceCandidates)) (m.reconcile outcomes order)
  rw [← (reconcile_sameRecords _ _ m).missing] at h ⊢
  exact ⟨h.kept, h.fresh, h.served, h.pool⟩

theorem restored_frame (clusterId : String) (stored : List ServiceIdentity) :
    ∃ provider, restored clusterId stored =
      { new clusterId ⟨.holding stored, 0, []⟩ with serviceCredentialsProvider := provider }.sendToCreator
        .startService := by
  have h : ∀ m : IdentityManager, ∃ provider,
      stored.foldl registerOrUpdateIdentity m = { m with serviceCredentialsProvider := provider } := by
    induction stored with
    | nil => exact fun m => ⟨m.serviceCredentialsProvider, rfl⟩
    | cons i rest ih =>
      intro m
      obtain ⟨provider, hRest⟩ := ih (m.registerOrUpdateIdentity i)
      exact ⟨provider, hRest⟩
  obtain ⟨provider, hFold⟩ := h (new clusterId ⟨.holding stored, 0, []⟩)
  exact ⟨provider, congrArg (sendToCreator · .startService) hFold⟩

theorem pool_restored (clusterId : String) (stored : List ServiceIdentity) :
    (restored clusterId stored).pool = [] := by
  have h : ∀ m : IdentityManager, (stored.foldl registerOrUpdateIdentity m).pool = m.pool := by
    induction stored with
    | nil => exact fun m => rfl
    | cons i rest ih => exact fun m => ih (m.registerOrUpdateIdentity i)
  exact h (new clusterId ⟨.holding stored, 0, []⟩)

theorem mem_of_restored {clusterId : String} {stored : List ServiceIdentity} {id : String} {i : ServiceIdentity}
    (h : (restored clusterId stored).identities.lookup id = some i) : i ∈ stored := by
  have hFold : ∀ (xs : List ServiceIdentity) (m : IdentityManager),
      (xs.foldl registerOrUpdateIdentity m).identities.lookup id = some i →
        i ∈ xs ∨ m.identities.lookup id = some i := by
    intro xs
    induction xs with
    | nil => exact fun m h => .inr h
    | cons x rest ih =>
      intro m h
      rcases ih _ h with hRest | hFirst
      · exact .inl (List.mem_cons_of_mem x hRest)
      · change (AList.insert (Service.serviceId x) x m.identities).lookup id = some i at hFirst
        rw [HashMap.lookup_insert_eq_ite] at hFirst
        split at hFirst
        · cases hFirst
          exact .inl List.mem_cons_self
        · exact .inr hFirst
  rcases hFold stored _ h with hStored | hNew
  · exact hStored
  · cases hNew

section Served

variable {clusterId : String} {api : ServiceIdentityAPI} {stored : List ServiceIdentity} {m : IdentityManager}

theorem Startup.of_steps
    (hRun : Steps (next outcomes) StartupOnly ((new clusterId api).initializeFrom stored) m) :
    Startup ((new clusterId api).initializeFrom stored).identities m :=
  hRun.invariant _ (fun _ _ _ h hAllowed hNext => h.step hAllowed hNext)
    { recorded := recorded_initializeFrom clusterId api stored
      held := fun _ => rfl
      known := fun id h => by
        rw [(initializeFrom_sameRecords (new clusterId api) stored).candidates] at h
        exact absurd h (AList.notMem_empty id)
      missing := fun id h => by
        rw [(initializeFrom_sameRecords (new clusterId api) stored).missing] at h
        exact absurd h (AList.notMem_empty id) }

/-- With a user for every known candidate, only step 3 can leave one without an identity. -/
theorem known_candidates_served_iff
    (hRun : Steps (next outcomes) StartupOnly ((new clusterId api).initializeFrom stored) m)
    (hCalls : (m.identityManagerReady outcomes order).failures = m.failures)
    (hPool : m.existingServiceCandidates.keys.length + m.missingServiceCandidates.keys.length ≤ m.pool.length) :
    (∀ c id, .foundServiceCandidate c ∈ m.identityManagerQueue.received → MaybeService.serviceId c = .ok id →
      ∃ i, (m.identityManagerReady outcomes order).identities.lookup id = some i) ↔
    ∀ i ∈ m.serviceCredentialsProvider.identities, Service.serviceId i ∈ m.existingServiceCandidates →
      i.credentials.id ∉ m.existingDeactivatedCredentials := by
  have hStartup := Startup.of_steps hRun
  obtain ⟨extra, users, orphans, hReconciled⟩ := reconcile_spec outcomes order m
  have hRequested := identityManagerReady_requested outcomes order m
  have hFailures : (m.reconcile outcomes order).failures = m.failures :=
    (prefix_between hReconciled.failures (requestMissing_grows _ _ _).failures hCalls).1
  constructor
  · intro hServed i hi hKnown hDeactivated
    obtain ⟨c, hFound, hId⟩ := (hStartup.recorded.candidates _).mp (.inl hKnown)
    obtain ⟨j, hj⟩ := hServed c _ hFound hId
    rcases hRequested.fresh _ j hj with hKept | ⟨c', hc', hId'⟩
    · -- what is left of the identity would be the identity itself, which step 3 removed
      have hjId : Service.serviceId j = Service.serviceId i := ServiceCredentialsProvider.keyed _ _ j hKept
      obtain ⟨hMem, hLeft⟩ := (hReconciled.mem_remaining j).mp ((mem_identities _).mpr (hjId ▸ hKept))
      have hSame : j = i := by
        rw [mem_identities] at hMem hi
        exact Option.some.inj (hMem.symm.trans (hjId ▸ hi))
      exact hLeft ((hReconciled.mem_deleted hFailures j).mpr
        ⟨hMem, fun hRetained => hRetained.2 (hSame ▸ hDeactivated)⟩)
    · -- a known candidate is not missing, so it is not requested either
      obtain ⟨id', hLookup⟩ := HashMap.mem_values.mp (order.mem_walk.mp hc')
      obtain ⟨stored, hStored⟩ := hStartup.known _ hKnown
      cases (hStartup.recorded.missing_keyed _ _ hLookup).symm.trans hId'
      have hMissing := hStartup.missing _ (HashMap.mem_iff_exists_lookup.mpr ⟨c', hLookup⟩)
      cases hStored.symm.trans hMissing
  · intro hUsable c id hFound hId
    rcases (hStartup.recorded.candidates id).mpr ⟨c, hFound, hId⟩ with hKnown | hMissing
    · obtain ⟨i₀, hStored⟩ := hStartup.known id hKnown
      obtain ⟨i, hi, -⟩ := hStartup.registered hStored
      have hiId : Service.serviceId i = id := ServiceCredentialsProvider.keyed _ _ i hi
      have hMem : i ∈ m.serviceCredentialsProvider.identities := (mem_identities _).mpr (hiId ▸ hi)
      have hLeft := (hReconciled.mem_remaining i).mpr ⟨hMem, fun hDeleted =>
        ((hReconciled.mem_deleted hFailures i).mp hDeleted).2 ⟨hiId ▸ hKnown, hUsable i hMem (hiId ▸ hKnown)⟩⟩
      exact ⟨i, hRequested.kept id i (hiId ▸ (mem_identities _).mp hLeft)⟩
    · obtain ⟨c', hLookup⟩ := HashMap.mem_iff_exists_lookup.mp hMissing
      refine hRequested.served (.inl ?_) c' (order.mem_walk.mpr (HashMap.mem_values.mpr ⟨id, hLookup⟩)) id
        (hStartup.recorded.missing_keyed id c' hLookup)
      rw [order.length_walk, HashMap.length_values, hReconciled.pool]
      omega

def sampleReports : List IdentityManagerProtocol :=
  [.foundServiceUser (sampleUser "u1") true, .foundServiceUser (sampleUser "u2") false,
    .foundServiceUser (sampleUser "u3") false, .foundServiceCandidate (sampleCandidate "a"),
    .foundServiceCandidate (sampleCandidate "b"), .identityCreatorReady]

def sampleStarted (reports : List IdentityManagerProtocol) : IdentityManager :=
  runD (next fun _ => .delivered) (restored "cluster" [sampleIdentity "a" "u1"]) (deliver reports)

theorem known_candidates_served_sample :
    ∃ i, ((sampleStarted sampleReports).identityManagerReady (fun _ => .delivered) .asStored).identities.lookup
    "ns_b" = some i :=
  (known_candidates_served_iff (Steps.of_runD (deliver sampleReports) (by decide) (by decide)) (by decide)
    (by decide)).mpr (by decide) (sampleCandidate "b") "ns_b" (by decide) (by decide)

/-- The user of `a` is deactivated. -/
def strandingReports : List IdentityManagerProtocol :=
  [.foundServiceUser (sampleUser "u1") false, .foundServiceUser (sampleUser "u2") false,
    .foundServiceCandidate (sampleCandidate "a")]

/-- The identity of `a` goes in step 3 and is not requested again. -/
theorem known_candidate_stranded :
    Steps (next fun _ => .delivered) StartupOnly (restored "cluster" [sampleIdentity "a" "u1"])
      (sampleStarted strandingReports) ∧
    ((sampleStarted strandingReports).identityManagerReady (fun _ => .delivered) .asStored).failures =
      (sampleStarted strandingReports).failures ∧
    (sampleStarted strandingReports).existingServiceCandidates.keys.length +
      (sampleStarted strandingReports).missingServiceCandidates.keys.length ≤
        (sampleStarted strandingReports).pool.length ∧
    .foundServiceCandidate (sampleCandidate "a") ∈ (sampleStarted strandingReports).identityManagerQueue.received ∧
    MaybeService.serviceId (sampleCandidate "a") = .ok "ns_a" ∧
    ((sampleStarted strandingReports).identityManagerReady (fun _ => .delivered) .asStored).identities.lookup "ns_a" =
      none :=
  ⟨Steps.of_runD (deliver strandingReports) (by decide) (by decide), by decide, by decide, by decide, by decide,
    by decide⟩

end Served

end SdpK8sInjector.IdentityService.IdentityManager
