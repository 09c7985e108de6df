import SdpK8sInjector.IdentityService.Confluence
import SdpK8sInjector.IdentityService.Initialization

/-! # A restart from a consistent state

The stored identities, the candidates, the users of the system and the entries of
the secret fit together. Each of the four parties decides on deletions from its own
view of them; none deletes or creates anything, however their messages interleave.
-/

namespace SdpK8sInjector.IdentityService

open Lib Common ServiceCredentialsProvider
open IdentityCreator (Delivered Readable pwField)
open Gathering (Accounted Filed Gathered isProduced offered)

/-- Candidates and identities correspond, each identity holds an enabled user of its own, the other users are
disabled and fill the pool, and the secret has the passwords of the users and nothing else. -/
structure Consistent (stored : List ServiceIdentity) (candidates : List ServiceCandidate) (users : List SDPUser)
    (secret : Secret) : Prop where
  services_nodup : (stored.map Service.serviceId).Nodup
  candidates_stored : ∀ c ∈ candidates, ∃ i ∈ stored, MaybeService.serviceId c = .ok (Service.serviceId i)
  stored_candidates : ∀ i ∈ stored, ∃ c ∈ candidates, MaybeService.serviceId c = .ok (Service.serviceId i)
  users_nodup : (users.map SDPUser.id).Nodup
  held_nodup : (stored.map fun i => i.credentials.id).Nodup
  held_enabled : ∀ i ∈ stored, ∃ u ∈ users, u.id = i.credentials.id ∧ u.disabled = false
  enabled_held : ∀ u ∈ users, u.disabled = false → ∃ i ∈ stored, i.credentials.id = u.id
  pool : Processes.CREDENTIALS_POOL_SIZE ≤ users.countP SDPUser.disabled
  passwords : ∀ u ∈ users, Readable (some secret) u
  entries : ∀ field ∈ secret.fields, ∃ u ∈ users, field = pwField u.id

/-- The service at its start, and what the watchers of candidates have still to send. -/
structure Restart where
  processes : Processes
  deployments : List IdentityManagerProtocol
  sdpServices : List IdentityManagerProtocol
deriving DecidableEq

namespace Restart

inductive Event where
  | deployment
  | sdpService
  | handle (order : IterationOrder)
  | receive (order : IterationOrder)
  | deliver

abbrev manager (s : Restart) : IdentityManager := s.processes.manager

abbrev creator (s : Restart) : IdentityCreator := s.processes.creator

section Model

variable (outcomes : Nat → CallOutcome) (env : Surroundings)

def next (s : Restart) : Event → Option Restart
  | .deployment =>
    match s.deployments with
    | [] => none
    | msg :: rest => (s.processes.next outcomes env (.arrive msg)).map fun p => ⟨p, rest, s.sdpServices⟩
  | .sdpService =>
    match s.sdpServices with
    | [] => none
    | msg :: rest => (s.processes.next outcomes env (.arrive msg)).map fun p => ⟨p, s.deployments, rest⟩
  | .handle order => (s.processes.next outcomes env (.handle order)).map fun p => { s with processes := p }
  | .receive order => (s.processes.next outcomes env (.receive order)).map fun p => { s with processes := p }
  | .deliver => (s.processes.next outcomes env .deliver).map fun p => { s with processes := p }

/-- What `watch` sends for the listed candidates. -/
def initialMessages (candidates : List ServiceCandidate) : List IdentityManagerProtocol :=
  candidates.map .foundServiceCandidate ++ [.deploymentWatcherReady]

/-- The identities are restored, and neither the creator nor the watchers have sent anything. -/
def started (clusterId : String) (stored : List ServiceIdentity) (deployments sdpServices : List ServiceCandidate)
    (system : System) (secret : SecretApi) : Restart :=
  ⟨.started clusterId stored system secret Processes.CREDENTIALS_POOL_SIZE, initialMessages deployments,
    initialMessages sdpServices⟩

def Finished (s : Restart) : Prop :=
  s.deployments = [] ∧ s.sdpServices = [] ∧ s.creator.outbox = [] ∧
    s.manager.identityManagerQueue.pending = [] ∧
    s.manager.identityCreatorQueue.pending = []

instance : DecidablePred Finished := fun _ => inferInstanceAs (Decidable (_ ∧ _))

end Model

end Restart

section Creator

variable {env : Surroundings}

namespace IdentityCreator

theorem cleanupSecretEntries_known (h : Delivered env) (known : HashSet String) {c : IdentityCreator} {s : Secret}
    (hStore : c.secret.store = some s) (hKnown : ∀ field ∈ s.fields, field ∈ known) :
    ∃ secret, c.cleanupSecretEntries env known = (.ok (), { c with secret := secret }) ∧
      secret.store = c.secret.store := by
  obtain ⟨api, hGet, hRead⟩ :=
    call_secret_delivered h (by rw [hStore]; rfl : Secret.get c.secret.store = .ok (s, some s))
  refine ⟨api, ?_, hRead.trans hStore.symm⟩
  unfold cleanupSecretEntries
  rw [hGet]
  dsimp only
  cases hData : s.data with
  | none => rfl
  | some data =>
    have hNothing : data.keys.filter (· ∉ known) = [] := by
      apply List.filter_eq_nil_iff.mpr
      intro field hField
      have hStored : field ∈ s.fields := by
        rw [Secret.fields, hData]
        exact AList.mem_keys.mpr hField
      simp [hKnown field hStored]
    simp only [hNothing, List.isEmpty_nil, if_true]

theorem initializeFrom_consistent (h : Delivered env) {stored : List ServiceIdentity}
    {candidates : List ServiceCandidate}
    {c : IdentityCreator} {s : Secret} (hConsistent : Consistent stored candidates c.system.store.users s)
    (hStore : c.secret.store = some s) (hPool : c.serviceUsersPoolSize = Processes.CREDENTIALS_POOL_SIZE) :
    ∃ url c', ∃ found : List (ServiceUser × Bool), c.initializeFrom env = (.ok url, c') ∧
      c'.outbox = c.outbox ++ found.map (fun p => .foundServiceUser p.1 p.2) ∧
      found.map (fun p => (p.1.id, p.2)) = c.system.store.users.map (fun u => (u.id, !u.disabled)) ∧
      System.SameUsers c.system c'.system ∧ c'.secret.store = c.secret.store := by
  obtain ⟨url, r, found, hRecounted, hInit⟩ := initializeFrom_recounted h hConsistent.users_nodup
  have hReadable : readableUsers c.secret.store c.system.store.users = c.system.store.users :=
    List.filter_eq_self.mpr fun u hu => decide_eq_true (hStore ▸ hConsistent.passwords u hu)
  have hUnreadable : unreadableUsers c.secret.store c.system.store.users = [] := by
    apply List.filter_eq_nil_iff.mpr
    intro u hu
    rw [← hReadable] at hu
    simpa using (List.mem_filter.mp hu).2
  have hNoneMissing : r.missingUsers = 0 := by
    have hEnough := hConsistent.pool
    rw [hRecounted.missing, hReadable]
    omega
  have hSecret : r.creator.secret.store = some s := hRecounted.secret.trans hStore
  obtain ⟨cleaned, hCleanup, hCleaned⟩ :=
    cleanupSecretEntries_known h r.knownServiceUsers hSecret fun field hField => by
    obtain ⟨u, hu, rfl⟩ := hConsistent.entries field hField
    exact (hRecounted.known _).mpr ⟨u, hReadable.symm ▸ hu, rfl⟩
  refine ⟨url, { r.creator with secret := cleaned }, found, ?_, hRecounted.outbox, ?_, ⟨?_, ?_⟩, ?_⟩
  · rw [hInit, fillPool, hCleanup, hNoneMissing]
    rfl
  · have hReported := hRecounted.reported
    rw [hReadable] at hReported
    have hProjected := congrArg (List.map fun x : String × String × Option String × Bool => (x.1, x.2.2.2)) hReported
    rwa [List.map_map, List.map_map] at hProjected
  · exact hRecounted.users.trans hReadable
  · rw [hRecounted.deleted, hUnreadable, List.map_nil, List.append_nil]
  · exact hCleaned.trans hRecounted.secret

end IdentityCreator

end Creator

namespace IdentityManager

variable {m : IdentityManager}

/-- A reconciliation that finds everything in place only asks the creator to release old devices. -/
theorem identityManagerReady_settled (outcomes : Nat → CallOutcome) (order : IterationOrder)
    (hKnown : ∀ i ∈ m.serviceCredentialsProvider.identities, Service.serviceId i ∈ m.existingServiceCandidates)
    (hActivated : ∀ id ∈ m.existingActivatedCredentials, ∃ i ∈ m.serviceCredentialsProvider.identities,
      i.credentials.id = id)
    (hDeactivated : ∀ i ∈ m.serviceCredentialsProvider.identities,
      i.credentials.id ∉ m.existingDeactivatedCredentials)
    (hMissing : ∀ id, m.missingServiceCandidates.lookup id = none) :
    ∃ names, m.identityManagerReady outcomes order =
      { m.sendToCreator (.reconcileSDPUsers names) with
        serviceCandidateWatcherProto := m.serviceCandidateWatcherProto ++ [.identityManagerReady] } := by
  have hExtra : m.serviceCredentialsProvider.extraServiceIdentities m.existingServiceCandidates = [] := by
    apply List.filter_eq_nil_iff.mpr
    intro i hi
    simp [hKnown i hi]
  have hUsers : m.serviceCredentialsProvider.orphanServiceUsers m.existingActivatedCredentials = [] := by
    apply List.eq_nil_iff_forall_not_mem.mpr
    intro id hId
    obtain ⟨hMem, hUnheld⟩ := HashSet.mem_difference.mp hId
    obtain ⟨i, hi, hUser⟩ := hActivated id hMem
    exact hUnheld (HashSet.mem_ofList.mpr (List.mem_map.mpr ⟨i, hi, hUser⟩))
  have hOrphans : m.serviceCredentialsProvider.orphanServiceIdentities m.existingDeactivatedCredentials = [] := by
    apply List.filter_eq_nil_iff.mpr
    intro i hi
    simp [hDeactivated i hi]
  have hValues : HashMap.values m.missingServiceCandidates = [] := by
    apply List.eq_nil_iff_forall_not_mem.mpr
    intro c hc
    obtain ⟨id, hLookup⟩ := HashMap.mem_values.mp hc
    cases (hMissing id).symm.trans hLookup
  refine ⟨HashSet.ofList (m.serviceCredentialsProvider.identities.map fun s => s.credentials.name), ?_⟩
  have hReconcile : m.reconcile outcomes order = m.sendToCreator (.reconcileSDPUsers
      (HashSet.ofList (m.serviceCredentialsProvider.identities.map fun s => s.credentials.name))) := by
    simp only [reconcile, deleteExtraServiceIdentities, deleteOrphanServiceUsers, deleteOrphanServiceIdentities, hExtra,
      hUsers, hOrphans, IterationOrder.walk_nil, List.foldl_nil]
  simp only [identityManagerReady, requestMissing, hReconcile, sendToCreator, hValues, IterationOrder.walk_nil,
    List.foldl_nil]

theorem lookup_foldl_registerOrUpdateIdentity {id : String} {xs : List ServiceIdentity}
    (hId : id ∉ xs.map Service.serviceId) :
    (xs.foldl registerOrUpdateIdentity m).identities.lookup id = m.identities.lookup id := by
  induction xs generalizing m with
  | nil => rfl
  | cons x rest ih =>
    obtain ⟨hFirst, hRest⟩ := not_or.mp fun h => hId (List.mem_cons.mpr h)
    refine (ih hRest).trans ?_
    change (AList.insert (Service.serviceId x) x m.identities).lookup id = _
    rw [HashMap.lookup_insert_eq_ite, if_neg hFirst]

theorem mem_identities_restored (clusterId : String) {stored : List ServiceIdentity}
    (hNodup : (stored.map Service.serviceId).Nodup) (i : ServiceIdentity) :
    i ∈ (restored clusterId stored).serviceCredentialsProvider.identities ↔ i ∈ stored := by
  rw [mem_identities]
  refine ⟨mem_of_restored, fun hi => ?_⟩
  change (stored.foldl registerOrUpdateIdentity _).identities.lookup (Service.serviceId i) = some i
  generalize new clusterId ⟨.holding stored, 0, []⟩ = m
  induction stored generalizing m with
  | nil => cases hi
  | cons x rest ih =>
    obtain ⟨hOther, hRest⟩ := List.nodup_cons.mp hNodup
    rw [List.foldl_cons]
    cases List.mem_cons.mp hi with
    | inl hSame =>
      subst hSame
      rw [lookup_foldl_registerOrUpdateIdentity hOther]
      change (AList.insert (Service.serviceId i) i m.identities).lookup _ = _
      rw [HashMap.lookup_insert_eq_ite, if_pos rfl]
    | inr hLater => exact ih hRest hLater (m.registerOrUpdateIdentity x)

/-- A report or an announcement changes neither the identities nor their objects, and the creator is told nothing. -/
theorem handle_report (outcomes : Nat → CallOutcome) (order : IterationOrder) {msg : IdentityManagerProtocol}
    (hStartup : isStartup msg = true) (hProduced : isProduced msg = true) (m : IdentityManager) :
    (handle outcomes order msg m).identities = m.identities ∧
      (handle outcomes order msg m).serviceIdentityApi = m.serviceIdentityApi ∧
      (handle outcomes order msg m).identityCreatorQueue = m.identityCreatorQueue := by
  cases msg with
  | foundServiceCandidate c =>
    rcases foundServiceCandidate_cases c m with ⟨_, hEq⟩ | ⟨_, _, _, _, hEq⟩ | ⟨_, _, _, hEq⟩ <;>
      rw [handle, hEq] <;> exact ⟨rfl, rfl, rfl⟩
  | foundServiceUser user activated => cases activated <;> exact ⟨rfl, rfl, rfl⟩
  | identityCreatorReady =>
    obtain ⟨_, _, hEq⟩ := identityCreatorReadyHandler_cases m
    rw [handle, hEq]
    exact ⟨rfl, rfl, rfl⟩
  | deploymentWatcherReady =>
    obtain ⟨_, _, hEq⟩ := deploymentWatcherReady_cases m
    rw [handle, hEq]
    exact ⟨rfl, rfl, rfl⟩
  | releaseDeviceId lookup uuid => cases hProduced
  | _ => cases hStartup

end IdentityManager

namespace Restart

/-- The three producers of the barrier; before it starts, the creator has all of its reports still to send. -/
def gathering (found : Findings) (s : Restart) (arrived : List (Producer × IdentityManagerProtocol)) : Gathering where
  manager := s.manager
  unsent := fun
    | .deploymentWatcher => s.deployments
    | .sdpServiceWatcher => s.sdpServices
    | .identityCreator => if s.creator.status = .waiting then found.stream .identityCreator else s.creator.outbox
  arrived := arrived

/-- Neither the identities nor the users nor the secret have changed since the start, and nobody has been asked to
change them. -/
structure Steady (m₀ : IdentityManager) (c₀ : IdentityCreator) (found : Findings) (s : Restart) : Prop where
  accounted : ∃ arrived, Accounted found (s.gathering found arrived)
  filed : Filed m₀.identities s.manager
  identities : s.manager.identities = m₀.identities
  api : s.manager.serviceIdentityApi = m₀.serviceIdentityApi
  queued : ∀ x ∈ s.manager.identityManagerQueue.history, isProduced x = true ∨ x = .identityManagerReady
  asked : ∀ x ∈ s.manager.identityCreatorQueue.pending, x = .startService ∨
    ∃ names, x = .reconcileSDPUsers names
  waiting : s.creator.status = .waiting →
    s.creator = c₀ ∧ s.manager.identityCreatorQueue.pending.head? = some .startService
  running : s.creator.status ≠ .waiting → s.creator.status = .running ∧
    System.SameUsers c₀.system s.creator.system ∧
    s.creator.secret.store = c₀.secret.store

section Steps

variable {outcomes : Nat → CallOutcome} {env : Surroundings} {m₀ : IdentityManager} {c₀ : IdentityCreator}
  {found : Findings} {s : Restart}

/-- A producer sends its next message. -/
theorem Steady.sent (h : Steady m₀ c₀ found s) {arrived : List (Producer × IdentityManagerProtocol)}
    (hAccounted : Accounted found (s.gathering found arrived)) {p : Producer} {msg : IdentityManagerProtocol}
    {rest : List IdentityManagerProtocol} (hUnsent : (s.gathering found arrived).unsent p = msg :: rest) {t : Restart}
    (hManager : t.manager = s.manager.sendToSelf msg) (hStatus : t.creator.status = s.creator.status)
    (hCreator : t.creator = { s.creator with outbox := t.creator.outbox })
    (hWaiting : s.creator.status = .waiting → t.creator = s.creator)
    (hRest : (t.gathering found (arrived ++ [(p, msg)])).unsent =
      Function.update (s.gathering found arrived).unsent p rest) :
    Steady m₀ c₀ found t := by
  have hSent := hAccounted.sent hUnsent
  have hProduced : isProduced msg = true := by
    have hMem : msg ∈ found.stream p := by
      rw [← hAccounted.streams p, hUnsent]
      exact List.mem_append_right _ List.mem_cons_self
    cases p <;> simp only [Findings.stream, Findings.reports, Findings.announcement, List.mem_append, List.mem_map,
      List.mem_singleton] at hMem <;> rcases hMem with ⟨_, _, rfl⟩ | rfl <;> rfl
  constructor
  · refine ⟨arrived ++ [(p, msg)], ?_⟩
    rw [← hRest] at hSent
    rw [gathering, hManager]
    exact hSent
  · rw [hManager]
    exact h.filed.sent msg
  · rw [hManager]
    exact h.identities
  · rw [hManager]
    exact h.api
  · intro x hx
    rw [hManager] at hx
    change x ∈ (s.manager.identityManagerQueue.send msg).history at hx
    rw [Channel.history_send] at hx
    cases List.mem_append.mp hx with
    | inl hOld => exact h.queued x hOld
    | inr hNew => exact .inl (List.mem_singleton.mp hNew ▸ hProduced)
  · rw [hManager]
    exact h.asked
  · intro hStill
    rw [hManager, hWaiting (hStatus ▸ hStill)]
    exact h.waiting (hStatus ▸ hStill)
  · intro hStill
    rw [hCreator]
    exact h.running (hStatus ▸ hStill)

end Steps

section Reconciliation

variable {outcomes : Nat → CallOutcome} {clusterId : String} {stored : List ServiceIdentity} {c₀ : IdentityCreator}
  {found : Findings} {users : List SDPUser} {secret : Secret} {s : Restart}

theorem reported_iff (hFound : found.users.map (fun p => (p.1.id, p.2)) = users.map fun u => (u.id, !u.disabled))
    (id : String) (activated : Bool) :
    (∃ p, ∃ user, .foundServiceUser user activated ∈ found.stream p ∧ user.id = id) ↔
      ∃ u ∈ users, u.id = id ∧ u.disabled = !activated := by
  have hListed : (id, activated) ∈ found.users.map (fun p => (p.1.id, p.2)) ↔
      ∃ u ∈ users, u.id = id ∧ u.disabled = !activated := by
    rw [hFound, List.mem_map]
    refine exists_congr fun u => and_congr_right fun _ => ?_
    rw [Prod.mk.injEq]
    cases u.disabled <;> cases activated <;> simp
  rw [← hListed, List.mem_map]
  constructor
  · rintro ⟨p, user, hStream, rfl⟩
    cases p with
    | identityCreator =>
      simp only [Findings.stream, Findings.reports, Findings.announcement, List.mem_append, List.mem_map,
        IdentityManagerProtocol.foundServiceUser.injEq, List.mem_singleton, reduceCtorEq, or_false] at hStream
      obtain ⟨reported, hMem, rfl, rfl⟩ := hStream
      exact ⟨reported, hMem, rfl⟩
    | deploymentWatcher | sdpServiceWatcher =>
      simp [Findings.stream, Findings.reports, Findings.announcement] at hStream
  · rintro ⟨⟨user, active⟩, hMem, hSame⟩
    obtain ⟨rfl, rfl⟩ := Prod.mk.inj hSame
    exact ⟨.identityCreator, user, List.mem_append_left _ (List.mem_map_of_mem (f := fun u : ServiceUser × Bool =>
      IdentityManagerProtocol.foundServiceUser u.1 u.2) hMem), rfl⟩

theorem candidate_mem_stream {c : ServiceCandidate} :
    (∃ p, .foundServiceCandidate c ∈ found.stream p) ↔ c ∈ found.candidates := by
  rw [Findings.candidates, List.mem_append]
  constructor
  · rintro ⟨p, hStream⟩
    cases p <;> simp [Findings.stream, Findings.reports, Findings.announcement] at hStream
    · exact .inl hStream
    · exact .inr hStream
  · intro hFound
    cases hFound with
    | inl h => exact ⟨.deploymentWatcher, by simp [Findings.stream, Findings.reports, h]⟩
    | inr h => exact ⟨.sdpServiceWatcher, by simp [Findings.stream, Findings.reports, h]⟩

/-- When all reports are in, the reconciliation finds everything in place. -/
theorem Steady.settled (hConsistent : Consistent stored found.candidates users secret)
    (hFound : found.users.map (fun p => (p.1.id, p.2)) = users.map fun u => (u.id, !u.disabled))
    (h : Steady (.restored clusterId stored) c₀ found s) {arrived : List (Producer × IdentityManagerProtocol)}
    (hAccounted : Accounted found (s.gathering found arrived)) (hGathered : Gathered s.manager) :
    (∀ i ∈ s.manager.serviceCredentialsProvider.identities,
      Service.serviceId i ∈ s.manager.existingServiceCandidates) ∧
    (∀ id ∈ s.manager.existingActivatedCredentials,
      ∃ i ∈ s.manager.serviceCredentialsProvider.identities, i.credentials.id = id) ∧
    (∀ i ∈ s.manager.serviceCredentialsProvider.identities,
      i.credentials.id ∉ s.manager.existingDeactivatedCredentials) ∧
    ∀ id, s.manager.missingServiceCandidates.lookup id = none := by
  have hIdentities : ∀ i, i ∈ s.manager.serviceCredentialsProvider.identities ↔ i ∈ stored := by
    intro i
    rw [← IdentityManager.mem_identities_restored clusterId hConsistent.services_nodup, mem_identities,
      mem_identities]
    exact iff_of_eq (congrArg (fun services => AList.lookup (Service.serviceId i) services = some i) h.identities)
  have hReceived : ∀ {msg}, isProduced msg = true →
      (msg ∈ s.manager.identityManagerQueue.received ↔ ∃ p, msg ∈ found.stream p) :=
    fun hProduced => Gathering.mem_received_iff hAccounted hGathered hProduced
  have hStartup := h.filed.startup
  have hMissing : ∀ id, s.manager.missingServiceCandidates.lookup id = none := by
    intro id
    cases hLookup : s.manager.missingServiceCandidates.lookup id with
    | none => rfl
    | some c =>
      have hMem : id ∈ s.manager.missingServiceCandidates := HashMap.mem_iff_exists_lookup.mpr ⟨c, hLookup⟩
      obtain ⟨d, hReport, hId⟩ := (hStartup.recorded.candidates id).mp (.inr hMem)
      obtain ⟨i, hi, hSame⟩ :=
        hConsistent.candidates_stored d (candidate_mem_stream.mp ((hReceived rfl).mp hReport))
      have hRestored := (IdentityManager.mem_identities_restored clusterId hConsistent.services_nodup i).mpr hi
      rw [mem_identities, ← Except.ok.inj (hId.symm.trans hSame)] at hRestored
      cases (hStartup.missing id hMem).symm.trans hRestored
  refine ⟨fun i hi => ?_, fun id hId => ?_, fun i hi hMem => ?_, hMissing⟩
  · obtain ⟨c, hc, hId⟩ := hConsistent.stored_candidates i ((hIdentities i).mp hi)
    have hReport := (hReceived rfl).mpr (candidate_mem_stream.mpr hc)
    apply ((hStartup.recorded.candidates _).mpr ⟨c, hReport, hId⟩).resolve_right
    intro hMem
    obtain ⟨d, hLookup⟩ := HashMap.mem_iff_exists_lookup.mp hMem
    cases (hMissing _).symm.trans hLookup
  · obtain ⟨user, hReport, hUser⟩ := (hStartup.recorded.activated id).mp hId
    obtain ⟨p, hStream⟩ := (hReceived rfl).mp hReport
    obtain ⟨u, hu, rfl, hEnabled⟩ := (reported_iff hFound id true).mp ⟨p, user, hStream, hUser⟩
    obtain ⟨i, hi, hHeld⟩ := hConsistent.enabled_held u hu hEnabled
    exact ⟨i, (hIdentities i).mpr hi, hHeld⟩
  · obtain ⟨user, hReport, hUser⟩ := (hStartup.recorded.deactivated _).mp hMem
    obtain ⟨p, hStream⟩ := (hReceived rfl).mp hReport
    obtain ⟨u, hu, hSame, hDisabled⟩ := (reported_iff hFound _ false).mp ⟨p, user, hStream, hUser⟩
    obtain ⟨v, hv, hHeld, hEnabled⟩ := hConsistent.held_enabled i ((hIdentities i).mp hi)
    have hOne := List.inj_on_of_nodup_map hConsistent.users_nodup hu hv (hSame.trans hHeld.symm)
    rw [hOne, hEnabled] at hDisabled
    cases hDisabled

/-- The manager handles its next message. -/
theorem Steady.handled (hConsistent : Consistent stored found.candidates users secret)
    (hFound : found.users.map (fun p => (p.1.id, p.2)) = users.map fun u => (u.id, !u.disabled))
    (h : Steady (.restored clusterId stored) c₀ found s) {msg : IdentityManagerProtocol}
    {queue : Channel IdentityManagerProtocol} (hRecv : s.manager.identityManagerQueue.recv = some (msg, queue))
    (order : IterationOrder) :
    Steady (.restored clusterId stored) c₀ found { s with processes := { s.processes with
      manager := IdentityManager.handle outcomes order msg { s.manager with identityManagerQueue := queue } } } := by
  obtain ⟨arrived, hAccounted⟩ := h.accounted
  obtain ⟨rest, hPending, hQueue⟩ := Channel.recv_eq_some.mp hRecv
  have hMem : msg ∈ s.manager.identityManagerQueue.history :=
    Channel.mem_history_of_pending (hPending ▸ List.mem_cons_self)
  let m : IdentityManager := { s.manager with identityManagerQueue := queue }
  have hAccounted' : Accounted found (gathering found { s with processes := { s.processes with
      manager := IdentityManager.handle outcomes order msg m } } arrived) := hAccounted.handled hRecv order
  have hQueued : ∀ x ∈ (IdentityManager.handle outcomes order msg m).identityManagerQueue.history,
      isProduced x = true ∨ x = .identityManagerReady := by
    intro x hx
    rw [IdentityManager.handle_queue, Channel.history_sendAll] at hx
    cases List.mem_append.mp hx with
    | inl hOld => exact h.queued x (Channel.history_recv hRecv ▸ hOld)
    | inr hNew => exact .inr (Gathering.selfSent_ready (hAccounted.kinds hMem) hNew).1
  cases h.queued msg hMem with
  | inl hProduced =>
    have hStartup : IdentityManager.isStartup msg = true := by
      refine (hAccounted.kinds hMem).resolve_right ?_
      rintro rfl
      cases hProduced
    obtain ⟨hIdentities, hApi, hCreatorQueue⟩ := IdentityManager.handle_report outcomes order hStartup hProduced m
    constructor
    · exact ⟨arrived, hAccounted'⟩
    · exact h.filed.handled hRecv hStartup order
    · exact hIdentities.trans h.identities
    · exact hApi.trans h.api
    · exact hQueued
    · change ∀ x ∈ (IdentityManager.handle outcomes order msg m).identityCreatorQueue.pending, _
      rw [hCreatorQueue]
      exact h.asked
    · change s.creator.status = .waiting →
        s.creator = c₀ ∧ (IdentityManager.handle outcomes order msg m).identityCreatorQueue.pending.head? = _
      rw [hCreatorQueue]
      exact h.waiting
    · exact h.running
  | inr hReady =>
    subst hReady
    have hGathered := Gathering.gathered_of_ready hAccounted hMem
    obtain ⟨hKnown, hActivated, hDeactivated, hMissing⟩ := h.settled hConsistent hFound hAccounted hGathered
    obtain ⟨names, hResult⟩ :=
      IdentityManager.identityManagerReady_settled (m := m) outcomes order hKnown hActivated
      hDeactivated hMissing
    have hHandle : IdentityManager.handle outcomes order .identityManagerReady m =
      m.identityManagerReady outcomes order := rfl
    have hRecorded : IdentityManager.Recorded (IdentityManager.handle outcomes order .identityManagerReady m) :=
      h.filed.startup.recorded.handled hRecv
    have hReceived : queue.received = s.manager.identityManagerQueue.received ++ [.identityManagerReady] := by
      rw [hQueue]
    constructor
    · exact ⟨arrived, hAccounted'⟩
    · change Filed _ (IdentityManager.handle outcomes order .identityManagerReady m)
      rw [hHandle, hResult] at hRecorded ⊢
      refine ⟨⟨hRecorded, h.filed.startup.held, h.filed.startup.known, h.filed.startup.missing⟩,
        ?_, fun id => ?_, ?_⟩
      · change s.manager.pool = queue.received.filterMap offered
        rw [hReceived, List.filterMap_append, h.filed.pool]
        exact (List.append_nil _).symm
      · change s.manager.missingServiceCandidates.lookup id = if _ then (queue.received.filterMap _).getLast? else none
        rw [hReceived, List.filterMap_append, h.filed.missing]
        exact if_congr Iff.rfl (by simp [Gathering.reported]) rfl
      · change (s.manager.identityCreatorQueue.send (.reconcileSDPUsers names)).history.filterMap
          Gathering.deletion = []
        rw [Channel.history_send, List.filterMap_append, List.append_eq_nil_iff]
        exact ⟨h.filed.deletions, rfl⟩
    · exact (congrArg IdentityManager.identities (hHandle.trans hResult)).trans h.identities
    · exact (congrArg IdentityManager.serviceIdentityApi (hHandle.trans hResult)).trans h.api
    · exact hQueued
    · intro x hx
      change x ∈ (IdentityManager.handle outcomes order .identityManagerReady m).identityCreatorQueue.pending at hx
      rw [hHandle, hResult] at hx
      cases List.mem_append.mp hx with
      | inl hOld => exact h.asked x hOld
      | inr hNew => exact .inr ⟨names, List.mem_singleton.mp hNew⟩
    · intro hWaiting
      obtain ⟨hSame, hHead⟩ := h.waiting hWaiting
      refine ⟨hSame, ?_⟩
      change (IdentityManager.handle outcomes order .identityManagerReady m).identityCreatorQueue.pending.head? = _
      rw [hHandle, hResult]
      change (s.manager.identityCreatorQueue.pending ++ _).head? = _
      rw [List.head?_append, hHead]
      rfl
    · exact h.running

end Reconciliation

section Runs

variable {outcomes : Nat → CallOutcome} {env : Surroundings} {clusterId : String} {stored : List ServiceIdentity}
  {m₀ : IdentityManager} {c₀ : IdentityCreator} {found : Findings} {users : List SDPUser}
  {secret : Secret} {s t : Restart}

/-- What the creator takes from its queue does not concern the producers. -/
theorem Steady.taken (h : Steady m₀ c₀ found s) {msg : IdentityCreatorProtocol}
    {queue : Channel IdentityCreatorProtocol}
    (hRecv : s.manager.identityCreatorQueue.recv = some (msg, queue)) {c : IdentityCreator}
    (hUnsent : (if c.status = .waiting then found.stream .identityCreator else c.outbox) =
      if s.creator.status = .waiting then found.stream .identityCreator else s.creator.outbox)
    (hStatus : c.status = .running) (hUsers : System.SameUsers c₀.system c.system)
    (hSecret : c.secret.store = c₀.secret.store) :
    Steady m₀ c₀ found { s with processes := ⟨{ s.manager with identityCreatorQueue := queue }, c⟩ } := by
  obtain ⟨arrived, hAccounted⟩ := h.accounted
  obtain ⟨rest, hPending, hQueue⟩ := Channel.recv_eq_some.mp hRecv
  constructor
  · refine ⟨arrived, ⟨fun p => ?_, hAccounted.arrived, hAccounted.watchers,
      hAccounted.creator, hAccounted.ready⟩⟩
    rw [← hAccounted.streams p]
    cases p with
    | deploymentWatcher | sdpServiceWatcher => rfl
    | identityCreator => exact congrArg (projection Producer.identityCreator arrived ++ ·) hUnsent
  · refine ⟨h.filed.startup.sameManager rfl rfl rfl rfl rfl rfl, h.filed.pool, h.filed.missing, ?_⟩
    change queue.history.filterMap Gathering.deletion = []
    rw [Channel.history_recv hRecv]
    exact h.filed.deletions
  · exact h.identities
  · exact h.api
  · exact h.queued
  · intro x hx
    apply h.asked
    rw [hPending]
    change x ∈ queue.pending at hx
    rw [hQueue] at hx
    exact List.mem_cons_of_mem msg hx
  · intro hWaiting
    cases hStatus.symm.trans hWaiting
  · exact fun _ => ⟨hStatus, hUsers, hSecret⟩

/-- The creator starts, or releases old devices. -/
theorem Steady.received (h : Steady m₀ c₀ found s) {url : String} {c' : IdentityCreator}
    (hOutbox₀ : c₀.outbox = [])
    (hInit : c₀.initializeFrom env = (.ok url, c'))
    (hReports : c'.outbox = c₀.outbox ++ found.users.map fun p => .foundServiceUser p.1 p.2)
    (hUsers : System.SameUsers c₀.system c'.system) (hSecret : c'.secret.store = c₀.secret.store)
    (order : IterationOrder) {msg : IdentityCreatorProtocol} {queue : Channel IdentityCreatorProtocol}
    (hRecv : s.manager.identityCreatorQueue.recv = some (msg, queue)) :
    Steady m₀ c₀ found { s with processes :=
      ⟨{ s.manager with identityCreatorQueue := queue }, s.creator.receive env order msg⟩ } := by
  obtain ⟨rest, hPending, hQueue⟩ := Channel.recv_eq_some.mp hRecv
  by_cases hWaiting : s.creator.status = .waiting
  · obtain ⟨hSame, hHead⟩ := h.waiting hWaiting
    rw [hPending] at hHead
    obtain rfl := Option.some.inj hHead
    have hReceive : s.creator.receive env order .startService =
        { c' with status := .running }.sendToManager .identityCreatorReady := by
      unfold IdentityCreator.receive
      rw [hWaiting, hSame, hInit]
    rw [hReceive]
    refine h.taken hRecv ?_ rfl hUsers hSecret
    rw [if_pos hWaiting]
    change c'.outbox ++ [.identityCreatorReady] = found.stream .identityCreator
    rw [hReports, hOutbox₀]
    rfl
  · obtain ⟨hRunning, hSameUsers, hSameSecret⟩ := h.running hWaiting
    have hReceive : s.creator.receive env order msg = s.creator.handle env order msg := by
      unfold IdentityCreator.receive
      rw [hRunning]
    rw [hReceive]
    have hMem : msg ∈ s.manager.identityCreatorQueue.pending := hPending ▸ List.mem_cons_self
    cases h.asked msg hMem with
    | inl hStart =>
      subst hStart
      exact h.taken hRecv rfl hRunning hSameUsers hSameSecret
    | inr hReconcile =>
      obtain ⟨names, rfl⟩ := hReconcile
      obtain ⟨system, drawn, hHandle, hDevices, -⟩ :=
        IdentityCreator.reconcileSDPUsers_frame env order names s.creator
      rw [IdentityCreator.handle, hHandle]
      exact h.taken hRecv rfl hRunning (hSameUsers.trans hDevices) hSameSecret

theorem Steady.arrived (h : Steady m₀ c₀ found s) {msg : IdentityManagerProtocol}
    {rest : List IdentityManagerProtocol} :
    (s.deployments = msg :: rest → Steady m₀ c₀ found
      ⟨{ s.processes with manager := s.manager.sendToSelf msg }, rest, s.sdpServices⟩) ∧
    (s.sdpServices = msg :: rest → Steady m₀ c₀ found
      ⟨{ s.processes with manager := s.manager.sendToSelf msg }, s.deployments, rest⟩) := by
  obtain ⟨arrived, hAccounted⟩ := h.accounted
  constructor
  · intro hUnsent
    refine h.sent hAccounted (p := .deploymentWatcher) hUnsent rfl rfl rfl (fun _ => rfl) ?_
    funext p
    cases p <;> rfl
  · intro hUnsent
    refine h.sent hAccounted (p := .sdpServiceWatcher) hUnsent rfl rfl rfl (fun _ => rfl) ?_
    funext p
    cases p <;> rfl

theorem Steady.delivered (h : Steady m₀ c₀ found s) (hOutbox₀ : c₀.outbox = []) {msg : IdentityManagerProtocol}
    {rest : List IdentityManagerProtocol} (hOutbox : s.creator.outbox = msg :: rest) :
    Steady m₀ c₀ found { s with
      processes := ⟨s.manager.sendToSelf msg, { s.creator with outbox := rest }⟩ } := by
  obtain ⟨arrived, hAccounted⟩ := h.accounted
  have hStarted : s.creator.status ≠ .waiting := by
    intro hWaiting
    rw [(h.waiting hWaiting).1, hOutbox₀] at hOutbox
    cases hOutbox
  have hUnsent : (s.gathering found arrived).unsent .identityCreator = msg :: rest := (if_neg hStarted).trans hOutbox
  refine h.sent hAccounted hUnsent rfl rfl rfl (fun hWaiting => absurd hWaiting hStarted) ?_
  funext p
  cases p with
  | deploymentWatcher | sdpServiceWatcher => rfl
  | identityCreator => exact if_neg hStarted

theorem Steady.started (clusterId : String) (system : System) (secrets : SecretApi) (found : Findings) :
    Steady (.restored clusterId stored) (.new system secrets Processes.CREDENTIALS_POOL_SIZE) found
      (started clusterId stored found.deployments found.sdpServices system secrets) := by
  have hFiled : Filed (IdentityManager.restored clusterId stored).identities
      (IdentityManager.restored clusterId stored) :=
    .restored clusterId stored
  obtain ⟨provider, hRestored⟩ := IdentityManager.restored_frame clusterId stored
  constructor
  · refine ⟨[], ?_⟩
    have hView : gathering found (Restart.started clusterId stored found.deployments found.sdpServices system secrets)
        [] = Gathering.started clusterId stored found := by
      unfold gathering Gathering.started
      congr 1
      funext p
      cases p <;> rfl
    rw [hView]
    exact .started clusterId stored found
  · exact hFiled
  · rfl
  · rfl
  · intro x hx
    change x ∈ (IdentityManager.restored clusterId stored).identityManagerQueue.history at hx
    rw [hRestored] at hx
    cases hx
  · intro x hx
    change x ∈ (IdentityManager.restored clusterId stored).identityCreatorQueue.pending at hx
    rw [hRestored] at hx
    exact .inl (List.mem_singleton.mp hx)
  · refine fun _ => ⟨rfl, ?_⟩
    change (IdentityManager.restored clusterId stored).identityCreatorQueue.pending.head? = _
    rw [hRestored]
    rfl
  · exact fun hStatus => absurd rfl hStatus

theorem Steady.step (hConsistent : Consistent stored found.candidates users secret)
    (hFound : found.users.map (fun p => (p.1.id, p.2)) = users.map fun u => (u.id, !u.disabled)) {url : String}
    {c' : IdentityCreator} (hOutbox₀ : c₀.outbox = []) (hInit : c₀.initializeFrom env = (.ok url, c'))
    (hReports : c'.outbox = c₀.outbox ++ found.users.map fun p => .foundServiceUser p.1 p.2)
    (hUsers : System.SameUsers c₀.system c'.system) (hSecret : c'.secret.store = c₀.secret.store)
    (h : Steady (.restored clusterId stored) c₀ found s) {event : Event}
    (hNext : next outcomes env s event = some t) :
    Steady (.restored clusterId stored) c₀ found t := by
  cases event with
  | deployment | sdpService =>
    simp only [next] at hNext
    split at hNext
    · cases hNext
    · rename_i msg rest hUnsent
      obtain ⟨p, hProcesses, rfl⟩ := Option.map_eq_some_iff.mp hNext
      cases Processes.next_move outcomes env hProcesses
      first
      | exact h.arrived.1 hUnsent
      | exact h.arrived.2 hUnsent
  | handle order =>
    obtain ⟨p, hProcesses, rfl⟩ := Option.map_eq_some_iff.mp hNext
    cases Processes.next_move outcomes env hProcesses with
    | handle _ msg queue hRecv => exact h.handled hConsistent hFound hRecv order
  | receive order =>
    obtain ⟨p, hProcesses, rfl⟩ := Option.map_eq_some_iff.mp hNext
    cases Processes.next_move outcomes env hProcesses with
    | receive _ msg queue _ _ hRecv => exact h.received hOutbox₀ hInit hReports hUsers hSecret order hRecv
  | deliver =>
    obtain ⟨p, hProcesses, rfl⟩ := Option.map_eq_some_iff.mp hNext
    cases Processes.next_move outcomes env hProcesses with
    | deliver msg rest hOutbox => exact h.delivered hOutbox₀ hOutbox

theorem fromWatchers_of_mem (candidates : List ServiceCandidate) {msg : IdentityManagerProtocol}
    (h : msg ∈ initialMessages candidates) : Processes.isFromWatchers msg = true := by
  rw [initialMessages, List.mem_append, List.mem_map, List.mem_singleton] at h
  rcases h with ⟨c, -, rfl⟩ | rfl <;> rfl

theorem Steady.goes_on (h : Steady m₀ c₀ found s) (hUnfinished : ¬s.Finished) :
    ∃ event t, next outcomes env s event = some t := by
  have hRunning : s.processes.exited = false := by
    rw [Processes.exited]
    apply decide_eq_false
    rintro ⟨hPanicked, -⟩
    have hStarted : s.creator.status ≠ .waiting := by
      rw [hPanicked]
      exact CreatorStatus.noConfusion
    cases (h.running hStarted).1.symm.trans hPanicked
  obtain ⟨arrived, hAccounted⟩ := h.accounted
  cases hDeployments : s.deployments with
  | cons msg rest =>
    have hFrom : Processes.isFromWatchers msg = true := by
      apply fromWatchers_of_mem found.deployments
      rw [show initialMessages found.deployments = _ from (hAccounted.streams .deploymentWatcher).symm]
      exact List.mem_append_right _ (show msg ∈ s.deployments from hDeployments ▸ List.mem_cons_self)
    exact ⟨.deployment, _, by rw [next, hDeployments]; simp only [Processes.next, hRunning, hFrom]; rfl⟩
  | nil =>
    cases hSdpServices : s.sdpServices with
    | cons msg rest =>
      have hFrom : Processes.isFromWatchers msg = true := by
        apply fromWatchers_of_mem found.sdpServices
        rw [show initialMessages found.sdpServices = _ from (hAccounted.streams .sdpServiceWatcher).symm]
        exact List.mem_append_right _ (show msg ∈ s.sdpServices from hSdpServices ▸ List.mem_cons_self)
      exact ⟨.sdpService, _, by rw [next, hSdpServices]; simp only [Processes.next, hRunning, hFrom]; rfl⟩
    | nil =>
      cases hOutbox : s.creator.outbox with
      | cons msg rest =>
        exact ⟨.deliver, _, by rw [next]; simp only [Processes.next, hRunning, hOutbox]; rfl⟩
      | nil =>
        cases hPending : s.manager.identityManagerQueue.pending with
        | cons msg rest =>
          have hRecv : s.manager.identityManagerQueue.recv = some (msg, ⟨_, rest⟩) :=
            Channel.recv_eq_some.mpr ⟨rest, hPending, rfl⟩
          exact ⟨.handle .asStored, _, by
            rw [next]
            simp only [Processes.next, hRunning, IdentityManager.next, hRecv]
            rfl⟩
        | nil =>
          cases hAsked : s.manager.identityCreatorQueue.pending with
          | cons msg rest =>
            have hRecv : s.manager.identityCreatorQueue.recv = some (msg, ⟨_, rest⟩) :=
              Channel.recv_eq_some.mpr ⟨rest, hAsked, rfl⟩
            exact ⟨.receive .asStored, _, by
              rw [next]
              simp only [Processes.next, hRunning, hOutbox, hRecv]
              rfl⟩
          | nil => exact absurd ⟨hDeployments, hSdpServices, hOutbox, hPending, hAsked⟩ hUnfinished

/-- The start of a service that was in a consistent state: no identity, user or entry is created, changed or deleted,
whatever the order of the messages; it goes on until the manager has reconciled once, and by then the pool holds the
disabled users. -/
theorem restart_changes_nothing (hDelivered : Delivered env) {system : System} {secrets : SecretApi}
    {deployments sdpServices : List ServiceCandidate} (hSecret : secrets.store = some secret)
    (hConsistent : Consistent stored (deployments ++ sdpServices) system.store.users secret)
    (hRun : Steps (next outcomes env) (fun _ _ => True)
      (started clusterId stored deployments sdpServices system secrets) s) :
    s.manager.serviceIdentityApi = ⟨.holding stored, 0, []⟩ ∧
    System.SameUsers system s.creator.system ∧
    s.creator.secret.store = some secret ∧
    (∀ i, i ∈ s.manager.serviceCredentialsProvider.identities ↔ i ∈ stored) ∧
    (s.Finished → s.manager.identityManagerQueue.received.count .identityManagerReady = 1 ∧
      s.manager.pool.map ServiceUser.id = (system.store.users.filter SDPUser.disabled).map SDPUser.id) ∧
    (¬s.Finished → ∃ event t, next outcomes env s event = some t) := by
  let c₀ : IdentityCreator := .new system secrets Processes.CREDENTIALS_POOL_SIZE
  obtain ⟨url, c', reported, hInit, hReports, hFound, hUsers, hCleaned⟩ :=
    IdentityCreator.initializeFrom_consistent hDelivered (c := c₀) hConsistent hSecret rfl
  let found : Findings := ⟨deployments, sdpServices, reported⟩
  have hConsistent' : Consistent stored found.candidates system.store.users secret := hConsistent
  have h : Steady (.restored clusterId stored) c₀ found s :=
    hRun.invariant _ (fun _ _ _ hSteady _ hNext => hSteady.step hConsistent' hFound
      rfl hInit hReports hUsers hCleaned hNext)
      (Steady.started clusterId system secrets found)
  have hCreator : System.SameUsers system s.creator.system ∧ s.creator.secret.store = some secret := by
    by_cases hWaiting : s.creator.status = .waiting
    · rw [(h.waiting hWaiting).1]
      exact ⟨.refl system, hSecret⟩
    · obtain ⟨-, hSameUsers, hSameSecret⟩ := h.running hWaiting
      exact ⟨hSameUsers, hSameSecret.trans hSecret⟩
  refine ⟨?_, hCreator.1, hCreator.2, fun i => ?_, fun hFinished => ?_, h.goes_on⟩
  · obtain ⟨provider, hRestored⟩ := IdentityManager.restored_frame clusterId stored
    rw [h.api, hRestored]
    rfl
  · rw [← IdentityManager.mem_identities_restored clusterId hConsistent.services_nodup, mem_identities,
      mem_identities]
    exact iff_of_eq (congrArg (fun services => AList.lookup (Service.serviceId i) services = some i) h.identities)
  · obtain ⟨arrived, hAccounted⟩ := h.accounted
    obtain ⟨hDeployments, hSdpServices, hOutbox, hPending, hAsked⟩ := hFinished
    have hStarted : s.creator.status ≠ .waiting := by
      intro hWaiting
      have hHead := (h.waiting hWaiting).2
      rw [hAsked] at hHead
      cases hHead
    have hAll : Gathering.Finished (s.gathering found arrived) := by
      refine ⟨fun p => ?_, hPending⟩
      cases p with
      | deploymentWatcher => exact hDeployments
      | sdpServiceWatcher => exact hSdpServices
      | identityCreator => exact (if_neg hStarted).trans hOutbox
    have hGathered := Gathering.gathered_of_finished hAccounted hAll
    constructor
    · have hOnce := hAccounted.ready
      rw [if_pos hGathered, Gathering.queue, Channel.history] at hOnce
      change (s.manager.identityManagerQueue.received ++ s.manager.identityManagerQueue.pending).count _ = 1 at hOnce
      rwa [hPending, List.append_nil] at hOnce
    · have hPool : s.manager.pool = (found.stream .identityCreator).filterMap offered :=
        Gathering.pool_eq hAccounted h.filed hGathered
      have hIds : s.manager.pool.map ServiceUser.id =
          (reported.map fun p => (p.1.id, p.2)).filterMap fun x => if x.2 then none else some x.1 := by
        rw [hPool, List.filterMap_map, Findings.stream, List.filterMap_append, Findings.reports, List.filterMap_map,
          List.map_append, List.map_filterMap]
        refine (List.append_nil _).trans (List.filterMap_congr fun p _ => ?_)
        obtain ⟨user, activated⟩ := p
        cases activated <;> rfl
      rw [hIds, hFound, List.filterMap_map, ← List.filterMap_eq_map, ← List.filterMap_eq_filter,
        List.filterMap_filterMap]
      refine List.filterMap_congr fun u _ => ?_
      cases hDisabled : u.disabled <;> simp [Option.guard, hDisabled]

end Runs

section Samples

open IdentityManager (sampleIdentity sampleCandidate)
open IdentityCreator (sampleSurroundings)

/-- The user of the only service, and ten in the pool. -/
def sampleUsers : List SDPUser :=
  ⟨"u0", "u0", ∅, [], none, false⟩ :: (List.range 10).map fun n => ⟨"p" ++ toString n,
    "p" ++ toString n, ∅, [], none, true⟩

def samplePasswords : Secret :=
  ⟨some (sampleUsers.foldl (fun data u => AList.insert (pwField u.id) (.text "pw") data) ∅)⟩

def sampleStarted : Restart :=
  started "cluster" [sampleIdentity "a" "u0"] [] [sampleCandidate "a"] ⟨⟨sampleUsers, [], []⟩, 0, []⟩
    ⟨some samplePasswords, 0, []⟩

/-- The creator starts between the reports of the watchers. -/
def sampleSchedule : List Event :=
  [.sdpService, .deployment, .receive .asStored, .deliver, .sdpService] ++ List.replicate 11 .deliver ++
    List.replicate 16 (.handle .asStored) ++ [.receive .asStored]

def sampleRestarted : Restart :=
  runD (next (fun _ => .delivered) (sampleSurroundings fun _ => .delivered)) sampleStarted sampleSchedule

theorem restart_changes_nothing_sample : sampleRestarted.Finished ∧
    sampleRestarted.manager.serviceIdentityApi = ⟨.holding [sampleIdentity "a" "u0"], 0, []⟩ ∧
    sampleRestarted.manager.pool.length = 10 := by
  have hRun : Steps (next (fun _ => .delivered) (sampleSurroundings fun _ => .delivered))
      (fun _ _ => True) sampleStarted
      sampleRestarted := Steps.of_runD sampleSchedule (by decide +kernel) (by decide +kernel)
  have hConsistent : Consistent [sampleIdentity "a" "u0"]
      ([] ++ [sampleCandidate "a"]) sampleUsers samplePasswords := by
    constructor
    · decide
    · decide +kernel
    · decide +kernel
    · decide +kernel
    · decide
    · decide +kernel
    · decide +kernel
    · decide +kernel
    · decide +kernel
    · have hKeys : ∀ field ∈ samplePasswords.fields.keys, ∃ u ∈ sampleUsers, field = pwField u.id := by
        decide +kernel
      exact fun field hField => hKeys field (AList.mem_keys.mp hField)
  have hDelivered : Delivered (sampleSurroundings fun _ => .delivered) :=
    ⟨fun _ => rfl, fun _ => rfl, fun _ => ⟨_, rfl⟩⟩
  have hFinished : sampleRestarted.Finished := by decide +kernel
  obtain ⟨hApi, -, -, -, hPool, -⟩ := restart_changes_nothing hDelivered rfl hConsistent hRun
  refine ⟨hFinished, hApi, ?_⟩
  have hIds := congrArg List.length (hPool hFinished).2
  rw [List.length_map] at hIds
  rw [hIds]
  decide +kernel

end Samples

end Restart

end SdpK8sInjector.IdentityService
