import SdpK8sInjector.IdentityService.Processes
import SdpK8sInjector.Injector.Admission
import SdpK8sInjector.Lib.Lease

/-! # Pods, injector and identity service

The injector hands device ids out to pods. The watcher of pods reports those that
are gone to the identity service, which records their ids in the identities, and
the injector learns from the identities which ids are free.
-/

namespace SdpK8sInjector.Recycling

open Lib Common IdentityService Injector

structure LivePod where
  uid : Nat
  pod : InjectedPod
  /-- Whether an update has reported the pod as evicted. -/
  evicted : Bool
deriving DecidableEq

def LivePod.applied (uid : Nat) (status : Option PodStatus) (p : LivePod) : LivePod :=
  if p.uid = uid then
    { p with pod := p.pod.withStatus status, evicted := p.evicted || InjectedPod.isEvicted status }
  else p

structure Fleet where
  service : Processes
  /-- What the objects of the identities have been since they were listed. -/
  versions : List ServiceIdentity
  store : InMemoryIdentityStore
  /-- How many device ids were asked for. -/
  drawn : Nat
  pods : List LivePod
  /-- The pods that there have been. -/
  admitted : List Nat
  /-- The pods whose device id was released, once for each message. -/
  releases : List Nat
deriving DecidableEq

inductive Event where
  | service (event : Processes.Event)
  | podCreated (uid : Nat) (pod : Pod) (random : Uuid)
  | podApplied (uid : Nat) (status : Option PodStatus) (random : Uuid)
  | podDeleted (uid : Nat) (random : Uuid)
  | found (identity : ServiceIdentity) (usedDeviceIds : Option (List String))
  | gone (identity : ServiceIdentity)
  | restart
  /-- The clients of the pods have registered devices at the controller, or devices were removed there. -/
  | onBoarded (devices : List OnBoardedUser)

/-- The messages that only the watcher of pods sends. -/
def isRelease : IdentityManagerProtocol → Bool
  | .releaseDeviceId _ _ => true
  | _ => false

def bringsRelease : Processes.Event → Bool
  | .arrive msg => isRelease msg
  | _ => false

/-- An identity service that has not ended gets the message. -/
def notify (msg : IdentityManagerProtocol) (service : Processes) : Processes :=
  if service.exited then service else { service with manager := service.manager.sendToSelf msg }

def currentVersions (service : Processes) : List ServiceIdentity := HashMap.values service.manager.objects

namespace Fleet

/-- The message for an event of the pod, if there is one, is sent to the identity service. -/
def report (uid : Nat) (msg : Option IdentityManagerProtocol) (s : Fleet) : Fleet :=
  match msg with
  | some msg => { s with service := notify msg s.service, releases := s.releases ++ [uid] }
  | none => s

def withService (s : Fleet) (service : Processes) : Fleet :=
  { s with
    service := service
    versions := s.versions ++ (currentVersions service).filter fun v => v ∉ s.versions }

def applied (uid : Nat) (status : Option PodStatus) (s : Fleet) : Fleet :=
  { s with pods := s.pods.map (LivePod.applied uid status) }

def removed (uid : Nat) (s : Fleet) : Fleet := { s with pods := s.pods.filter fun p => p.uid ≠ uid }

variable (outcomes : Nat → CallOutcome) (env : Surroundings) (newV4 : Nat → Uuid)

def podCreated (uid : Nat) (pod : Pod) (random : Uuid) (s : Fleet) : Option Fleet :=
  if uid ∈ s.admitted then none
  else match hNs : pod.ns with
    | none => none
    | some ns =>
      match fromIdentityStore (newV4 s.drawn) random pod s.store with
      | (.error _, _) => none
      | (.ok environment, store) =>
        some { s with
          store := store
          drawn := s.drawn + 1
          pods := ⟨uid, .inject environment ns pod hNs, false⟩ :: s.pods
          admitted := uid :: s.admitted }

def next (s : Fleet) (event : Event) : Option Fleet :=
  match event with
  | .service event =>
    if bringsRelease event then none
    else (Processes.next outcomes env s.service event).map s.withService
  | .podCreated uid pod random => s.podCreated newV4 uid pod random
  | .podApplied uid status random =>
    (s.pods.find? fun p => p.uid = uid).map fun p =>
      (s.applied uid status).report uid (PodWatcher.reapplied env.parseUuid random (p.pod.withStatus status).object)
  | .podDeleted uid random =>
    (s.pods.find? fun p => p.uid = uid).map fun p =>
      (s.removed uid).report uid (PodWatcher.deleted env.parseUuid random p.pod.object)
  | .found identity usedDeviceIds =>
    if identity ∈ s.versions then
      some { s with store := (s.store.registerOrUpdate env.parseUuid identity usedDeviceIds).2 }
    else none
  | .gone identity =>
    if identity ∈ s.versions then
      some { s with store := (s.store.unregisterService (Service.serviceId identity)).2 }
    else none
  | .restart => some { s with store := .new, versions := currentVersions s.service }
  | .onBoarded devices => some { s with service := s.service.withDevices devices }

/-- What is registered at the controller. -/
def devices (s : Fleet) : List OnBoardedUser := s.service.creator.system.store.devices

/-- The injector has not started yet, and no pod is there. -/
def started (service : Processes) : Fleet := ⟨service, currentVersions service, .new, 0, [], [], []⟩

/-- The device ids of the pods that have not been reported as evicted, for the services asked for. -/
def held (services : String → Bool) (s : Fleet) : List Uuid :=
  (s.pods.filter fun p => services p.pod.serviceId && !p.evicted).map fun p => p.pod.deviceId

/-- The pools of the services asked for, and who holds a device id of theirs. -/
def leases (services : String → Bool) (s : Fleet) : Leases String Uuid where
  free key := if services key then s.store.pool key else []
  held := s.held services

section Moves

variable {outcomes : Nat → CallOutcome} {env : Surroundings} {newV4 : Nat → Uuid}

inductive Move (outcomes : Nat → CallOutcome) (env : Surroundings) (newV4 : Nat → Uuid) (s : Fleet) :
    Event → Fleet → Prop where
  | service (event : Processes.Event) (service : Processes) (hEvent : bringsRelease event = false)
      (hNext : Processes.next outcomes env s.service event = some service) :
      Move outcomes env newV4 s (.service event) (s.withService service)
  | podCreated (uid : Nat) (pod : Pod) (random : Uuid) (ns : String) (hNs : pod.ns = some ns)
      (environment : ServiceEnvironment) (identity : ServiceIdentity) (store : InMemoryIdentityStore)
      (hName : environment.podName = pod.namedName random)
      (hPop : s.store.popDeviceId (newV4 s.drawn) (formatServiceId ns (pod.namedName random)) =
        (.ok (identity, environment.clientDeviceId), store)) (hNew : uid ∉ s.admitted) :
      Move outcomes env newV4 s (.podCreated uid pod random)
        { s with
          store := store
          drawn := s.drawn + 1
          pods := ⟨uid, .inject environment ns pod hNs, false⟩ :: s.pods
          admitted := uid :: s.admitted }
  | podApplied (uid : Nat) (status : Option PodStatus) (random : Uuid) (p : LivePod) (hPod : p ∈ s.pods)
      (hUid : p.uid = uid) :
      Move outcomes env newV4 s (.podApplied uid status random)
        ((s.applied uid status).report uid
          (PodWatcher.reapplied env.parseUuid random (p.pod.withStatus status).object))
  | podDeleted (uid : Nat) (random : Uuid) (p : LivePod) (hPod : p ∈ s.pods) (hUid : p.uid = uid) :
      Move outcomes env newV4 s (.podDeleted uid random)
        ((s.removed uid).report uid (PodWatcher.deleted env.parseUuid random p.pod.object))
  | found (identity : ServiceIdentity) (used : Option (List String)) (hVersion : identity ∈ s.versions) :
      Move outcomes env newV4 s (.found identity used)
        { s with store := (s.store.registerOrUpdate env.parseUuid identity used).2 }
  | gone (identity : ServiceIdentity) (hVersion : identity ∈ s.versions) :
      Move outcomes env newV4 s (.gone identity)
        { s with store := (s.store.unregisterService (Service.serviceId identity)).2 }
  | restart : Move outcomes env newV4 s .restart { s with store := .new, versions := currentVersions s.service }
  | onBoarded (devices : List OnBoardedUser) :
      Move outcomes env newV4 s (.onBoarded devices) { s with service := s.service.withDevices devices }

theorem next_move {s t : Fleet} {event : Event} (h : s.next outcomes env newV4 event = some t) :
    Move outcomes env newV4 s event t := by
  cases event with
  | service event =>
    simp only [next] at h
    split at h
    · cases h
    · rename_i hEvent
      obtain ⟨service, hNext, rfl⟩ := Option.map_eq_some_iff.mp h
      exact .service event service (by simpa using hEvent) hNext
  | podCreated uid pod random =>
    simp only [next, podCreated] at h
    split at h
    · cases h
    · rename_i hNew
      split at h
      · cases h
      · rename_i ns hNs
        split at h
        · cases h
        · rename_i environment store hEnvironment
          cases h
          obtain ⟨hName, identity, hPop⟩ := fromIdentityStore_ok hNs hEnvironment
          exact .podCreated uid pod random ns hNs environment identity store hName hPop hNew
  | podApplied uid status random =>
    obtain ⟨p, hFind, rfl⟩ := Option.map_eq_some_iff.mp h
    exact .podApplied uid status random p (List.mem_of_find?_eq_some hFind) (by simpa using List.find?_some hFind)
  | podDeleted uid random =>
    obtain ⟨p, hFind, rfl⟩ := Option.map_eq_some_iff.mp h
    exact .podDeleted uid random p (List.mem_of_find?_eq_some hFind) (by simpa using List.find?_some hFind)
  | found identity used =>
    simp only [next] at h
    split at h
    · cases h
      exact .found identity used ‹_›
    · cases h
  | gone identity =>
    simp only [next] at h
    split at h
    · cases h
      exact .gone identity ‹_›
    · cases h
  | restart =>
    cases h
    exact .restart
  | onBoarded devices =>
    cases h
    exact .onBoarded devices

end Moves

section Reports

variable {s : Fleet}

/-- What the watcher of pods reports is queued, unless the service has ended. -/
theorem mem_pending_report {uid : Nat} {msg : Option IdentityManagerProtocol} {x : IdentityManagerProtocol}
    (hx : x ∈ (s.report uid msg).service.manager.identityManagerQueue.pending) :
    x ∈ s.service.manager.identityManagerQueue.pending ∨ msg = some x := by
  cases msg with
  | none => exact .inl hx
  | some msg =>
    simp only [report, notify] at hx
    split at hx
    · exact .inl hx
    · rcases List.mem_append.mp hx with hx | hx
      · exact .inl hx
      · exact .inr (by rw [List.mem_singleton.mp hx])

theorem report_frame (uid : Nat) (msg : Option IdentityManagerProtocol) :
    (s.report uid msg).service.manager.identities = s.service.manager.identities ∧
      (s.report uid msg).service.manager.objects = s.service.manager.objects ∧
      (s.report uid msg).service.creator = s.service.creator ∧ (s.report uid msg).versions = s.versions := by
  cases msg with
  | none => exact ⟨rfl, rfl, rfl, rfl⟩
  | some msg => cases hExited : s.service.exited <;>
    simp [report, notify, hExited, IdentityManager.sendToSelf, IdentityManager.objects,
      IdentityManager.identities]

end Reports

section Leases

variable {services : String → Bool} {s : Fleet}

@[simp] theorem leases_withService (service : Processes) :
    (s.withService service).leases services = s.leases services := rfl

@[simp] theorem store_report (uid : Nat) (msg : Option IdentityManagerProtocol) :
    (s.report uid msg).store = s.store := by
  cases msg <;> rfl

@[simp] theorem pods_report (uid : Nat) (msg : Option IdentityManagerProtocol) : (s.report uid msg).pods = s.pods := by
  cases msg <;> rfl

@[simp] theorem drawn_report (uid : Nat) (msg : Option IdentityManagerProtocol) :
    (s.report uid msg).drawn = s.drawn := by
  cases msg <;> rfl

@[simp] theorem leases_report (uid : Nat) (msg : Option IdentityManagerProtocol) :
    (s.report uid msg).leases services = s.leases services := by
  cases msg <;> rfl

@[simp] theorem held_report (uid : Nat) (msg : Option IdentityManagerProtocol) :
    (s.report uid msg).held services = s.held services := by
  cases msg <;> rfl

theorem mem_held {d : Uuid} :
    d ∈ s.held services ↔ ∃ p ∈ s.pods, services p.pod.serviceId = true ∧
      p.evicted = false ∧ p.pod.deviceId = d := by
  simp [held, and_assoc]

theorem held_applied (uid : Nat) (status : Option PodStatus) :
    ((s.applied uid status).held services).Sublist (s.held services) := by
  simp only [held, applied]
  induction s.pods with
  | nil => exact List.Sublist.refl _
  | cons p rest ih =>
    have hSame : (p.applied uid status).pod.serviceId = p.pod.serviceId ∧
        (p.applied uid status).pod.deviceId = p.pod.deviceId ∧
        (p.evicted = true → (p.applied uid status).evicted = true) := by
      unfold LivePod.applied
      split
      · exact ⟨rfl, rfl, fun h => by simp [h]⟩
      · exact ⟨rfl, rfl, id⟩
    obtain ⟨hService, hDevice, hEvicted⟩ := hSame
    simp only [List.map_cons, List.filter_cons, hService]
    cases hWanted : services p.pod.serviceId with
    | false => simpa using ih
    | true =>
      cases hBefore : p.evicted with
      | true => simpa [hEvicted hBefore] using ih
      | false =>
        cases hAfter : (p.applied uid status).evicted with
        | true => simpa using ih.cons p.pod.deviceId
        | false => simpa [hDevice] using ih

theorem held_removed (uid : Nat) : ((s.removed uid).held services).Sublist (s.held services) := by
  simp only [held, removed]
  exact (List.filter_sublist.filter _).map _

end Leases

end Fleet

end SdpK8sInjector.Recycling
