import SdpK8sInjector.Recycling.Orderly

/-! # Device ids in use are remembered

Which ids are in use is stored nowhere. What keeps an id in use out of the pools is
that the injector remembers every recorded id that it handed out again, and a
restart is what makes it forget them.
-/

namespace SdpK8sInjector.Recycling.Fleet

open Lib Common IdentityService Injector IdentityManager

variable {outcomes : Nat → CallOutcome} {env : Surroundings} {newV4 : Nat → Uuid}
  {bound : Nat} {s t : Fleet} {event : Event}
  {key : String}

/-- The device ids that are recorded for the service, in memory and in the given objects. -/
def recordedIn (service : Processes) (objects : List ServiceIdentity) (key : String) : List String :=
  ((service.manager.identities.lookup key).map fun i => deviceIdList i.credentials).getD [] ++
    (objects.filter fun v => Service.serviceId v = key).flatMap fun v => deviceIdList v.credentials

/-- The ids that the injector can learn from a version of the object, or from what is written next. -/
def recorded (s : Fleet) (key : String) : List String := recordedIn s.service s.versions key

theorem mem_recordedIn {service : Processes} {objects : List ServiceIdentity} {x : String} :
    x ∈ recordedIn service objects key ↔
      (∃ i, service.manager.identities.lookup key = some i ∧ x ∈ deviceIdList i.credentials) ∨
        ∃ v ∈ objects, Service.serviceId v = key ∧ x ∈ deviceIdList v.credentials := by
  cases hLookup : service.manager.identities.lookup key <;> simp [recordedIn, hLookup, and_assoc]

def releaseOf (key : String) : IdentityManagerProtocol → Option Uuid
  | .releaseDeviceId lookup uuid => if formatServiceId lookup.ns lookup.name = key then some uuid else none
  | _ => none

theorem releaseOf_eq_none {msg : IdentityManagerProtocol} (h : isRelease msg = false) : releaseOf key msg = none := by
  cases msg <;> simp_all [isRelease, releaseOf]

/-- The id is on its way back: its release is queued, or its pod is evicted and still there. -/
def Returned (s : Fleet) (key : String) (d : Uuid) : Prop :=
  (∃ x ∈ s.service.manager.identityManagerQueue.pending, releaseOf key x = some d) ∨
    ∃ p ∈ s.pods, p.pod.serviceId = key ∧ p.evicted = true ∧ p.pod.deviceId = d

/-- Every identity has its list of device ids, with canonical ids that are not drawn again. -/
structure Listed (newV4 : Nat → Uuid) (bound drawn : Nat) (identity : ServiceIdentity) : Prop where
  list : identity.credentials.deviceIds.isSome = true
  ids : ∀ x ∈ deviceIdList identity.credentials, ∃ d : Uuid, x = d.toString ∧ ∀ n, drawn ≤ n →
    n < bound → newV4 n ≠ d

/-- No id of the service is in use twice or forgotten while it is in use. -/
structure Tracked (newV4 : Nat → Uuid) (bound : Nat) (key : String) (s : Fleet) : Prop where
  orderly : Orderly newV4 bound (· == key) s
  known : ∀ d : Uuid, d ∈ s.held (· == key) ∨ d ∈ s.store.pool key →
    d.toString ∈ s.store.remembered key ∨ d.toString ∉ s.recorded key
  returned : ∀ d, s.Returned key d →
    (d.toString ∈ s.store.remembered key ∨ (s.leases (· == key)).Unused d) ∧ ∀ n, s.drawn ≤ n →
      n < bound → newV4 n ≠ d
  remembered : ∀ x ∈ s.store.remembered key, x ∈ s.recorded key
  keeps : s.store.KeepsList key
  memory : ∀ i, s.service.manager.identities.lookup key = some i → Listed newV4 bound s.drawn i
  listed : ∀ v ∈ s.versions, Service.serviceId v = key → Listed newV4 bound s.drawn v
  objects : ∀ v ∈ currentVersions s.service, v ∈ s.versions
  outbox : ∀ x ∈ s.service.creator.outbox, Processes.isFromCreator x = true

theorem mem_versions_withService {service : Processes} {v : ServiceIdentity} :
    v ∈ (s.withService service).versions ↔ v ∈ s.versions ∨ v ∈ currentVersions service := by
  simp only [withService, List.mem_append, List.mem_filter, decide_eq_true_eq]
  constructor
  · rintro (h | h)
    · exact .inl h
    · exact .inr h.1
  · rintro (h | h)
    · exact .inl h
    · by_cases hSeen : v ∈ s.versions
      · exact .inl hSeen
      · exact .inr ⟨h, hSeen⟩

theorem unused_iff {d : Uuid} :
    (s.leases (· == key)).Unused d ↔ d ∉ s.held (· == key) ∧ d ∉ s.store.pool key := by
  constructor
  · rintro ⟨hHeld, hFree⟩
    exact ⟨hHeld, by simpa [leases] using hFree key⟩
  · rintro ⟨hHeld, hPool⟩
    refine ⟨hHeld, fun k hMem => ?_⟩
    by_cases hKey : k = key
    · subst hKey
      exact hPool (by simpa [leases] using hMem)
    · simp [leases, hKey] at hMem

/-- The identity is written anew with the recorded id. -/
theorem releaseDeviceId_written {m : IdentityManager} {lookup : ServiceLookup} {uuid : Uuid} {i : ServiceIdentity}
    (hLookup : m.serviceCredentialsProvider.identity lookup = some i) :
    (∀ k, (m.releaseDeviceId outcomes lookup uuid).identities.lookup k =
      if k = Service.serviceId i then some (recordDeviceId uuid i) else m.identities.lookup k) ∧
    ∀ v ∈ HashMap.values (m.releaseDeviceId outcomes lookup uuid).objects,
      v ∈ HashMap.values m.objects ∨ v.spec = (recordDeviceId uuid i).spec := by
  rcases releaseDeviceId_cases outcomes lookup uuid m with ⟨hNone, -⟩ | ⟨j, sent, hFound, -, hEq⟩
  · cases hNone.symm.trans hLookup
  · cases hFound.symm.trans hLookup
    rw [hEq]
    constructor
    · intro k
      rw [← serviceId_recordDeviceId uuid i]
      exact HashMap.lookup_insert_eq_ite _ _ _ _
    · exact ServiceIdentityAPI.forall_update (fun v hv => .inl hv) fun v hv => .inr hv

namespace Tracked

theorem learns (h : Tracked newV4 bound key s) (hParse : ∀ d : Uuid, env.parseUuid d.toString = some d)
    {identity : ServiceIdentity} (hVersion : identity ∈ s.versions) :
    s.Learns env newV4 bound (· == key) identity := by
  intro hKey x hx hNew d hParsed
  have hSame : Service.serviceId identity = key := by simpa using hKey
  obtain ⟨d', hText, hDrawn⟩ := (h.listed identity hVersion hSame).ids x hx
  have hEq : d' = d := Option.some.inj ((hParse d').symm.trans (hText ▸ hParsed))
  subst hEq
  subst hText
  have hRecorded : d'.toString ∈ s.recorded key := mem_recordedIn.mpr (.inr ⟨identity, hVersion, hSame, hx⟩)
  rw [hSame] at hNew
  have hFree : ¬(d' ∈ s.held (· == key) ∨ d' ∈ s.store.pool key) := fun hUsed =>
    (h.known d' hUsed).elim hNew fun hNot => hNot hRecorded
  exact ⟨unused_iff.mpr (not_or.mp hFree), hDrawn⟩

/-- A step of the identity service that records nothing new. -/
theorem withService (h : Tracked newV4 bound key s) {service : Processes}
    (hMemory : ∀ i, service.manager.identities.lookup key = some i → Listed newV4 bound s.drawn i)
    (hVersions : ∀ v ∈ currentVersions service, Service.serviceId v = key → Listed newV4 bound s.drawn v)
    (hGrows : ∀ x ∈ s.recorded key, x ∈ (s.withService service).recorded key)
    (hRecorded : ∀ d : Uuid, d.toString ∈ (s.withService service).recorded key →
      d.toString ∈ s.recorded key ∨ s.Returned key d)
    (hQueue : ∀ x ∈ service.manager.identityManagerQueue.pending,
      x ∈ s.service.manager.identityManagerQueue.pending ∨ isRelease x = false)
    (hOutbox : ∀ x ∈ service.creator.outbox, Processes.isFromCreator x = true) :
    Tracked newV4 bound key (s.withService service) where
  orderly := h.orderly.shrink rfl (fun _ => List.Sublist.refl _) (List.Sublist.refl _)
  known d hUsed := by
    rcases h.known d hUsed with hKnown | hNot
    · exact .inl hKnown
    · by_cases hNow : d.toString ∈ (s.withService service).recorded key
      · rcases hRecorded d hNow with hOld | hReturned
        · exact absurd hOld hNot
        · rcases (h.returned d hReturned).1 with hKnown | hUnused
          · exact .inl hKnown
          · obtain ⟨hHeld, hPool⟩ := unused_iff.mp hUnused
            exact absurd hUsed (not_or.mpr ⟨hHeld, hPool⟩)
      · exact .inr hNow
  returned d hReturned := by
    refine h.returned d ?_
    rcases hReturned with ⟨x, hx, hRelease⟩ | hEvicted
    · rcases hQueue x hx with hOld | hOther
      · exact .inl ⟨x, hOld, hRelease⟩
      · rw [releaseOf_eq_none hOther] at hRelease
        cases hRelease
    · exact .inr hEvicted
  remembered x hx := hGrows x (h.remembered x hx)
  keeps := h.keeps
  memory := hMemory
  listed v hv := (mem_versions_withService.mp hv).elim (h.listed v) (hVersions v)
  objects v hv := mem_versions_withService.mpr (.inr hv)
  outbox := hOutbox

/-- A step in which nothing is recorded and the injector neither learns nor forgets anything. -/
theorem used (h : Tracked newV4 bound key s) (hOrderly : Orderly newV4 bound (· == key) t)
    (hService : t.service.manager.identities = s.service.manager.identities)
    (hObjects : t.service.manager.objects = s.service.manager.objects)
    (hOutbox : t.service.creator.outbox = s.service.creator.outbox) (hVersions : t.versions = s.versions)
    (hIdentities : t.store.identities = s.store.identities) (hDrawn : s.drawn ≤ t.drawn)
    (hUsed : ∀ d, d ∈ t.held (· == key) ∨ d ∈ t.store.pool key →
      (d ∈ s.held (· == key) ∨ d ∈ s.store.pool key) ∨ d = newV4 s.drawn ∧ s.drawn < bound)
    (hReturned : ∀ d, t.Returned key d → s.Returned key d ∨
      (t.leases (· == key)).Unused d ∧ ∀ n, t.drawn ≤ n → n < bound → newV4 n ≠ d) :
      Tracked newV4 bound key t := by
  have hRecorded : t.recorded key = s.recorded key := by
    rw [recorded, recorded, recordedIn, recordedIn, hService, hVersions]
  have hRemembered : t.store.remembered key = s.store.remembered key := by
    rw [InMemoryIdentityStore.remembered, InMemoryIdentityStore.remembered, hIdentities]
  have hLater : ∀ i, Listed newV4 bound s.drawn i → Listed newV4 bound t.drawn i := fun i hi =>
    ⟨hi.list, fun x hx => (hi.ids x hx).imp fun d hd => ⟨hd.1, fun n hn hLt => hd.2 n (hDrawn.trans hn) hLt⟩⟩
  refine ⟨hOrderly, fun d hd => ?_, fun d hd => ?_, ?_, ?_, ?_, ?_, ?_, ?_⟩
  · rw [hRecorded, hRemembered]
    rcases hUsed d hd with hOld | ⟨rfl, hLt⟩
    · exact h.known d hOld
    · refine .inr fun hMem => ?_
      have hText : ∃ d : Uuid, (newV4 s.drawn).toString = d.toString ∧ ∀ n, s.drawn ≤ n →
          n < bound → newV4 n ≠ d := by
        rcases mem_recordedIn.mp hMem with ⟨i, hi, hx⟩ | ⟨v, hv, hKey, hx⟩
        · exact (h.memory i hi).ids _ hx
        · exact (h.listed v hv hKey).ids _ hx
      obtain ⟨d, hSame, hNot⟩ := hText
      exact hNot s.drawn le_rfl hLt (Uuid.toString_injective hSame)
  · rw [hRemembered]
    rcases hReturned d hd with hOld | ⟨hUnused, hNot⟩
    · obtain ⟨hPlace, hNot⟩ := h.returned d hOld
      refine ⟨?_, fun n hn hLt => hNot n (hDrawn.trans hn) hLt⟩
      rcases hPlace with hKnown | hUnused
      · exact .inl hKnown
      · refine .inr (unused_iff.mpr (not_or.mp fun hMem => ?_))
        rcases hUsed d hMem with hOld | ⟨rfl, hLt⟩
        · exact not_or.mpr (unused_iff.mp hUnused) hOld
        · exact hNot s.drawn le_rfl hLt rfl
    · exact ⟨.inr hUnused, hNot⟩
  · rw [hRecorded, hRemembered]
    exact h.remembered
  · intro i hi
    exact h.keeps i (hIdentities ▸ hi)
  · intro i hi
    exact hLater i (h.memory i (hService ▸ hi))
  · intro v hv hKey
    exact hLater v (h.listed v (hVersions ▸ hv) hKey)
  · intro v hv
    rw [currentVersions, hObjects] at hv
    exact hVersions ▸ h.objects v hv
  · intro x hx
    exact h.outbox x (hOutbox ▸ hx)

theorem quiet (h : Tracked newV4 bound key s) {service : Processes}
    (hIdentities : service.manager.identities = s.service.manager.identities)
    (hObjects : service.manager.objects = s.service.manager.objects)
    (hQueue : ∀ x ∈ service.manager.identityManagerQueue.pending,
      x ∈ s.service.manager.identityManagerQueue.pending ∨ isRelease x = false)
    (hOutbox : ∀ x ∈ service.creator.outbox, Processes.isFromCreator x = true) :
    Tracked newV4 bound key (s.withService service) := by
  have hVersions : currentVersions service = currentVersions s.service := congrArg HashMap.values hObjects
  have hSame : ∀ x, x ∈ (s.withService service).recorded key ↔ x ∈ s.recorded key := by
    intro x
    rw [recorded, mem_recordedIn, recorded, mem_recordedIn]
    change ((∃ i, service.manager.identities.lookup key = some i ∧ _) ∨ _) ↔ _
    rw [hIdentities]
    refine or_congr_right (exists_congr fun v => and_congr_left' ?_)
    rw [mem_versions_withService, hVersions]
    exact or_iff_left_of_imp (h.objects v)
  refine h.withService (fun i hi => h.memory i (hIdentities ▸ hi)) (fun v hv => ?_) (fun x => (hSame x).mpr)
    (fun d hd => .inl ((hSame _).mp hd)) hQueue hOutbox
  exact h.listed v (h.objects v (hVersions ▸ hv))

theorem releases (h : Tracked newV4 bound key s) {lookup : ServiceLookup} {uuid : Uuid}
    {queue : Channel IdentityManagerProtocol} {order : IterationOrder}
    (hRecv : s.service.manager.identityManagerQueue.recv = some (.releaseDeviceId lookup uuid, queue)) :
    Tracked newV4 bound key (s.withService { s.service with
      manager := handle outcomes order (.releaseDeviceId lookup uuid)
        { s.service.manager with identityManagerQueue := queue } }) := by
  obtain ⟨rest, hPending, hQueue⟩ := Channel.recv_eq_some.mp hRecv
  let m : IdentityManager := { s.service.manager with identityManagerQueue := queue }
  let m' : IdentityManager := handle outcomes order (.releaseDeviceId lookup uuid) m
  let service : Processes := { s.service with manager := m' }
  have hQueued : ∀ x ∈ m'.identityManagerQueue.pending,
      x ∈ s.service.manager.identityManagerQueue.pending ∨ isRelease x = false := by
    intro x hx
    rw [handle_queue, Channel.pending_sendAll, show m.identityManagerQueue = queue from rfl, hQueue] at hx
    rcases List.mem_append.mp hx with hx | hx
    · exact .inl (hPending ▸ List.mem_cons_of_mem _ hx)
    · cases hx
  rcases releaseDeviceId_cases outcomes lookup uuid m with ⟨_, hEq⟩ | ⟨i, _, hLookup, _, _⟩
  · have hHandle : m' = m := hEq
    have hQuiet : Tracked newV4 bound key (s.withService service) :=
      h.quiet (congrArg (fun m => m.identities) hHandle) (congrArg (fun m => m.objects) hHandle) hQueued h.outbox
    exact hQuiet
  · obtain ⟨hIdentities, hWritten⟩ : (∀ k, m'.identities.lookup k =
          if k = Service.serviceId i then some (recordDeviceId uuid i) else s.service.manager.identities.lookup k) ∧
        ∀ v ∈ HashMap.values m'.objects, v ∈ HashMap.values m.objects ∨ v.spec = (recordDeviceId uuid i).spec :=
      releaseDeviceId_written hLookup
    have hKey := ServiceCredentialsProvider.keyed s.service.manager.serviceCredentialsProvider _ i hLookup
    have hSpec : ∀ o : ServiceIdentity, o.spec = (recordDeviceId uuid i).spec →
        Service.serviceId o = Service.serviceId i ∧ o.credentials = (recordDeviceId uuid i).credentials := fun o ho =>
      ⟨(congrArg (fun spec : ServiceIdentitySpec => formatServiceId spec.serviceNamespace spec.serviceName) ho).trans
        (serviceId_recordDeviceId uuid i), congrArg ServiceIdentitySpec.serviceUser ho⟩
    have hObjects : ∀ v ∈ currentVersions service, v ∈ s.versions ∨ v.spec = (recordDeviceId uuid i).spec :=
      fun v hv => (hWritten v hv).imp_left (h.objects v)
    have hRegistered : key = Service.serviceId i → s.service.manager.identities.lookup key = some i :=
      fun hSame => hSame.trans hKey ▸ hLookup
    have hReturned : key = Service.serviceId i → s.Returned key uuid := fun hSame =>
      .inl ⟨_, hPending ▸ List.mem_cons_self, by simp [releaseOf, hSame, hKey]⟩
    have hIds : key = Service.serviceId i → Listed newV4 bound s.drawn (recordDeviceId uuid i) := by
      intro hSame
      have hListed := h.memory i (hRegistered hSame)
      refine ⟨(isSome_recordDeviceId uuid i).trans hListed.list, fun x hx => ?_⟩
      rcases (mem_deviceIdList_recordDeviceId uuid i).mp hx with hOld | ⟨-, rfl⟩
      · exact hListed.ids x hOld
      · exact ⟨uuid, rfl, (h.returned uuid (hReturned hSame)).2⟩
    change Tracked newV4 bound key (s.withService service)
    refine h.withService (fun j hj => ?_) (fun v hv hSame => ?_) (fun x hx => ?_) (fun d hd => ?_) hQueued h.outbox
    · rw [hIdentities] at hj
      split at hj
      · cases hj
        exact hIds ‹_›
      · exact h.memory j hj
    · rcases hObjects v hv with hOld | hNew
      · exact h.listed v hOld hSame
      · obtain ⟨hId, hCredentials⟩ := hSpec v hNew
        have hListed := hIds (hSame.symm.trans hId)
        exact ⟨hCredentials ▸ hListed.list, hCredentials ▸ hListed.ids⟩
    · rcases mem_recordedIn.mp hx with ⟨j, hj, hx⟩ | ⟨v, hv, hSame, hx⟩
      · refine mem_recordedIn.mpr (.inl ?_)
        change ∃ i, m'.identities.lookup key = some i ∧ _
        rw [hIdentities]
        by_cases hSame : key = Service.serviceId i
        · cases hj.symm.trans (hRegistered hSame)
          exact ⟨_, if_pos hSame, (mem_deviceIdList_recordDeviceId uuid i).mpr (.inl hx)⟩
        · exact ⟨j, (if_neg hSame).trans hj, hx⟩
      · exact mem_recordedIn.mpr (.inr ⟨v, mem_versions_withService.mpr (.inl hv), hSame, hx⟩)
    · have hRecorded : ∀ hSame : key = Service.serviceId i,
          d.toString ∈ deviceIdList (recordDeviceId uuid i).credentials →
          d.toString ∈ s.recorded key ∨ s.Returned key d := by
        intro hSame hx
        rcases (mem_deviceIdList_recordDeviceId uuid i).mp hx with hOld | ⟨-, hText⟩
        · exact .inl (mem_recordedIn.mpr (.inl ⟨i, hRegistered hSame, hOld⟩))
        · cases Uuid.toString_injective hText
          exact .inr (hReturned hSame)
      rcases mem_recordedIn.mp hd with ⟨j, hj, hx⟩ | ⟨v, hv, hSame, hx⟩
      · have hj' : m'.identities.lookup key = some j := hj
        rw [hIdentities] at hj'
        split at hj'
        · cases hj'
          exact hRecorded ‹_› hx
        · exact .inl (mem_recordedIn.mpr (.inl ⟨j, hj', hx⟩))
      · rcases mem_versions_withService.mp hv with hOld | hNow
        · exact .inl (mem_recordedIn.mpr (.inr ⟨v, hOld, hSame, hx⟩))
        · rcases hObjects v hNow with hOld | hNew
          · exact .inl (mem_recordedIn.mpr (.inr ⟨v, hOld, hSame, hx⟩))
          · obtain ⟨hId, hCredentials⟩ := hSpec v hNew
            exact hRecorded (hSame.symm.trans hId) (hCredentials ▸ hx)

theorem serviceStep (h : Tracked newV4 bound key s) {event : Processes.Event} {service : Processes}
    (hNext : Processes.next outcomes env s.service event = some service) (hEvent : bringsRelease event = false)
    (hReleases : ∀ order, event = .handle order →
      ∀ msg ∈ s.service.manager.identityManagerQueue.pending.head?, isRelease msg = true) :
    Tracked newV4 bound key (s.withService service) := by
  cases Processes.next_move outcomes env hNext with
  | arrive msg hMsg =>
    refine h.quiet rfl rfl (fun x hx => ?_) h.outbox
    rcases List.mem_append.mp hx with hx | hx
    · exact .inl hx
    · rw [List.mem_singleton.mp hx]
      exact .inr hEvent
  | deliver msg rest hOutbox =>
    have hFrom := h.outbox msg (hOutbox ▸ List.mem_cons_self)
    refine h.quiet rfl rfl (fun x hx => ?_) fun x hx => h.outbox x (hOutbox ▸ List.mem_cons_of_mem _ hx)
    rcases List.mem_append.mp hx with hx | hx
    · exact .inl hx
    · rw [List.mem_singleton.mp hx]
      exact .inr (by cases msg <;> simp_all [Processes.isFromCreator, isRelease])
  | receive order msg queue hOutbox hStatus hRecv =>
    exact h.quiet rfl rfl (fun x hx => .inl hx) (Processes.receive_outbox env order msg _ h.outbox)
  | handle order msg queue hRecv =>
    obtain ⟨rest, hPending, -⟩ := Channel.recv_eq_some.mp hRecv
    have hRelease := hReleases order rfl msg (by rw [hPending]; rfl)
    cases msg with
    | releaseDeviceId lookup uuid => exact h.releases hRecv
    | _ => cases hRelease

theorem releaseOf_release {p : InjectedPod} {d : Uuid} (h : releaseOf key p.release = some d) :
    p.serviceId = key ∧ p.deviceId = d := by
  simp only [InjectedPod.release, releaseOf, ServiceLookup.new] at h
  split at h
  · exact ⟨‹_›, Option.some.inj h⟩
  · cases h

theorem reported (h : Tracked newV4 bound key s) {u : Fleet} {uid : Nat} {msg : Option IdentityManagerProtocol}
    (hOrderly : Orderly newV4 bound (· == key) (u.report uid msg)) (hService : u.service = s.service)
    (hVersions : u.versions = s.versions) (hStore : u.store = s.store) (hDrawn : u.drawn = s.drawn)
    (hHeld : (u.held (· == key)).Sublist (s.held (· == key)))
    (hReturned : ∀ d, (∃ x, msg = some x ∧ releaseOf key x = some d) ∨
        (∃ p ∈ u.pods, p.pod.serviceId = key ∧ p.evicted = true ∧ p.pod.deviceId = d) →
      s.Returned key d ∨ ((u.report uid msg).leases (· == key)).Unused d ∧ ∀ n, s.drawn ≤ n →
        n < bound → newV4 n ≠ d) :
    Tracked newV4 bound key (u.report uid msg) := by
  obtain ⟨hIdentities, hObjects, hCreator, hSeen⟩ := report_frame (s := u) uid msg
  refine h.used hOrderly (hIdentities.trans (by rw [hService])) (hObjects.trans (by rw [hService]))
    (by rw [hCreator, hService]) (hSeen.trans hVersions) (by rw [store_report, hStore])
    (by rw [drawn_report, hDrawn]) (fun d hd => .inl ?_) (fun d hd => ?_)
  · rw [held_report, store_report, hStore] at hd
    exact hd.imp_left fun hMem => hHeld.subset hMem
  · rw [drawn_report, hDrawn]
    rcases hd with ⟨x, hx, hRelease⟩ | hEvicted
    · rcases mem_pending_report hx with hOld | hMsg
      · exact .inl (.inl ⟨x, hService ▸ hOld, hRelease⟩)
      · exact hReturned d (.inl ⟨x, hMsg, hRelease⟩)
    · rw [pods_report] at hEvicted
      exact hReturned d (.inr hEvicted)

theorem podApplied (h : Tracked newV4 bound key s)
    (hParse : ∀ d : Uuid, env.parseUuid d.toString = some d) {uid : Nat}
    {status : Option PodStatus} {random : Uuid} {p : LivePod} (hPod : p ∈ s.pods) (hUid : p.uid = uid)
    (hOrderly : Orderly newV4 bound (· == key) ((s.applied uid status).report uid
      (PodWatcher.reapplied env.parseUuid random (p.pod.withStatus status).object))) :
    Tracked newV4 bound key ((s.applied uid status).report uid
      (PodWatcher.reapplied env.parseUuid random (p.pod.withStatus status).object)) := by
  -- an update that reports the eviction of a pod that held its id
  have hDropped : ∀ q ∈ s.pods, q.uid = uid → InjectedPod.isEvicted status = true → q.pod.serviceId = key →
      s.Returned key q.pod.deviceId ∨
        (((s.applied uid status).report uid (PodWatcher.reapplied env.parseUuid random
          (p.pod.withStatus status).object)).leases (· == key)).Unused q.pod.deviceId ∧
            ∀ n, s.drawn ≤ n → n < bound → newV4 n ≠ q.pod.deviceId := by
    intro q hq hSame hEvicted hKey
    cases hHolds : q.evicted with
    | true => exact .inl (.inr ⟨q, hq, hKey, hHolds, rfl⟩)
    | false =>
      refine .inr (h.orderly.unused_of_dropped hq (beq_iff_eq.mpr hKey) hHolds (fun k => by rw [leases_report]; rfl)
        fun r' hr' hStill => ?_)
      rw [pods_report] at hr'
      obtain ⟨r, hr, rfl⟩ := List.mem_map.mp hr'
      by_cases hOther : r.uid = uid
      · simp [LivePod.applied, hOther, hEvicted] at hStill
      · refine ⟨r, hr, fun hEq => hOther (hEq ▸ hSame), ?_, ?_, ?_⟩ <;> simp_all [LivePod.applied]
  refine h.reported hOrderly rfl rfl rfl rfl (held_applied uid status) ?_
  rintro d (⟨x, hMsg, hRelease⟩ | ⟨q', hq', hKey, hEvicted, rfl⟩)
  · rw [InjectedPod.reapplied_eq hParse] at hMsg
    split at hMsg
    · rename_i hReported
      cases hMsg
      obtain ⟨hKey, rfl⟩ := releaseOf_release hRelease
      exact hDropped p hPod hUid hReported.1 hKey
    · cases hMsg
  · obtain ⟨q, hq, rfl⟩ := List.mem_map.mp hq'
    by_cases hSame : q.uid = uid
    · simp only [LivePod.applied, hSame, if_true] at hKey hEvicted ⊢
      rcases Bool.or_eq_true_iff.mp hEvicted with hBefore | hReported
      · exact .inl (.inr ⟨q, hq, hKey, hBefore, rfl⟩)
      · exact hDropped q hq hSame hReported hKey
    · simp only [LivePod.applied, hSame, if_false] at hKey hEvicted ⊢
      exact .inl (.inr ⟨q, hq, hKey, hEvicted, rfl⟩)

theorem podDeleted (h : Tracked newV4 bound key s)
    (hParse : ∀ d : Uuid, env.parseUuid d.toString = some d) {uid : Nat}
    {random : Uuid} {p : LivePod} (hPod : p ∈ s.pods) (hUid : p.uid = uid)
    (hOrderly : Orderly newV4 bound (· == key)
      ((s.removed uid).report uid (PodWatcher.deleted env.parseUuid random p.pod.object))) :
    Tracked newV4 bound key ((s.removed uid).report uid (PodWatcher.deleted env.parseUuid random p.pod.object)) := by
  refine h.reported hOrderly rfl rfl rfl rfl (held_removed uid) ?_
  rintro d (⟨x, hMsg, hRelease⟩ | ⟨q, hq, hKey, hEvicted, rfl⟩)
  · rw [InjectedPod.deleted_eq hParse] at hMsg
    split at hMsg
    · cases hMsg
      obtain ⟨hKey, rfl⟩ := releaseOf_release hRelease
      cases hHolds : p.evicted with
      | true => exact .inl (.inr ⟨p, hPod, hKey, hHolds, rfl⟩)
      | false =>
        refine .inr (h.orderly.unused_of_dropped hPod (beq_iff_eq.mpr hKey) hHolds (fun k => by rw [leases_report]; rfl)
          fun r hr hStill => ?_)
        rw [pods_report] at hr
        obtain ⟨hr, hOther⟩ := List.mem_filter.mp hr
        refine ⟨r, hr, ?_, hStill, rfl, rfl⟩
        rintro rfl
        simp [hUid] at hOther
    · cases hMsg
  · exact .inl (.inr ⟨q, (List.mem_filter.mp hq).1, hKey, hEvicted, rfl⟩)

theorem found (h : Tracked newV4 bound key s) (hParse : ∀ d : Uuid, env.parseUuid d.toString = some d)
    {identity : ServiceIdentity} {used : Option (List String)} (hVersion : identity ∈ s.versions)
    (hOrderly : Orderly newV4 bound (· == key)
      { s with store := (s.store.registerOrUpdate env.parseUuid identity used).2 })
    (hUsed : ∀ x ∈ deviceIdList identity.credentials, x ∈ used.getD [] →
      x ∈ s.store.remembered (Service.serviceId identity)) :
    Tracked newV4 bound key { s with store := (s.store.registerOrUpdate env.parseUuid identity used).2 } := by
  have hMono : ∀ x ∈ s.store.remembered key,
      x ∈ (s.store.registerOrUpdate env.parseUuid identity used).2.remembered key := fun x hx =>
    InMemoryIdentityStore.remembered_registerOrUpdate_mono identity used hx
  have hPool : ∀ d, d ∈ (s.store.registerOrUpdate env.parseUuid identity used).2.pool key →
      d ∈ s.store.pool key ∨
        d.toString ∈ (s.store.registerOrUpdate env.parseUuid identity used).2.remembered key := by
    intro d hd
    rcases InMemoryIdentityStore.mem_pool_registerOrUpdate.mp hd with hOld | ⟨rfl, x, hx, hNew, hParsed⟩
    · exact .inl hOld
    · obtain ⟨d', rfl, -⟩ := (h.listed identity hVersion rfl).ids x hx
      cases (hParse d').symm.trans hParsed
      exact .inr ((InMemoryIdentityStore.mem_remembered_registerOrUpdate h.keeps).mpr
        (.inr ⟨hx, .inr fun hMem => hNew (hUsed _ hx hMem)⟩))
  refine ⟨hOrderly, fun d hd => ?_, fun d hd => ?_, fun x hx => ?_, ?_, h.memory, h.listed, h.objects, h.outbox⟩
  · rcases hd with hHeld | hFree
    · exact (h.known d (.inl hHeld)).imp_left (hMono _)
    · rcases hPool d hFree with hOld | hRemembered
      · exact (h.known d (.inr hOld)).imp_left (hMono _)
      · exact .inl hRemembered
  · obtain ⟨hPlace, hDrawn⟩ := h.returned d hd
    refine ⟨?_, hDrawn⟩
    rcases hPlace with hKnown | hUnused
    · exact .inl (hMono _ hKnown)
    · obtain ⟨hNotHeld, hNotFree⟩ := unused_iff.mp hUnused
      by_cases hFree : d ∈ (s.store.registerOrUpdate env.parseUuid identity used).2.pool key
      · exact .inl ((hPool d hFree).resolve_left hNotFree)
      · exact .inr (unused_iff.mpr ⟨hNotHeld, hFree⟩)
  · by_cases hKey : key = Service.serviceId identity
    · subst hKey
      rcases (InMemoryIdentityStore.mem_remembered_registerOrUpdate h.keeps).mp hx with hOld | ⟨hNew, -⟩
      · exact h.remembered x hOld
      · exact mem_recordedIn.mpr (.inr ⟨identity, hVersion, rfl, hNew⟩)
    · exact h.remembered x (InMemoryIdentityStore.remembered_registerOrUpdate_of_ne used hKey ▸ hx)
  · by_cases hKey : key = Service.serviceId identity
    · exact h.keeps.registerOrUpdate used (h.listed identity hVersion hKey.symm).list
    · intro i hi
      rw [InMemoryIdentityStore.lookup_registerOrUpdate, if_neg hKey] at hi
      exact h.keeps i hi

/-- The injector forgets the service while none of its recorded ids is held. -/
theorem forgotten (h : Tracked newV4 bound key s) {store : InMemoryIdentityStore} {versions : List ServiceIdentity}
    (hOrderly : Orderly newV4 bound (· == key) { s with store := store, versions := versions })
    (hPool : store.pool key = []) (hRemembered : store.remembered key = []) (hKeeps : store.KeepsList key)
    (hVersions : ∀ v ∈ versions, v ∈ s.versions) (hObjects : ∀ v ∈ currentVersions s.service, v ∈ versions)
    (hHeld : ∀ d ∈ s.held (· == key), d.toString ∉ s.recorded key) :
    Tracked newV4 bound key { s with store := store, versions := versions } := by
  have hLess : ∀ x, x ∈ recorded { s with store := store, versions := versions } key → x ∈ s.recorded key := by
    intro x hx
    rcases mem_recordedIn.mp hx with hMemory | ⟨v, hv, hRest⟩
    · exact mem_recordedIn.mpr (.inl hMemory)
    · exact mem_recordedIn.mpr (.inr ⟨v, hVersions v hv, hRest⟩)
  refine ⟨hOrderly, fun d hd => ?_, fun d hd => ?_, ?_, hKeeps, h.memory,
    fun v hv => h.listed v (hVersions v hv), hObjects,
    h.outbox⟩
  · rcases hd with hMem | hFree
    · exact .inr fun hRecorded => hHeld d hMem (hLess _ hRecorded)
    · rw [hPool] at hFree
      cases hFree
  · obtain ⟨hPlace, hDrawn⟩ := h.returned d hd
    refine ⟨.inr (unused_iff.mpr ⟨fun hMem => ?_, by simp [hPool]⟩), hDrawn⟩
    rcases hPlace with hKnown | hUnused
    · exact hHeld d hMem (h.remembered _ hKnown)
    · exact (unused_iff.mp hUnused).1 hMem
  · rw [hRemembered]
    nofun

end Tracked

/-- The operations on device ids: of its queue, the manager handles the releases. -/
def DeviceIdOperation (s : Fleet) : Event → Prop
  | .service (.handle _) => ∀ msg ∈ s.service.manager.identityManagerQueue.pending.head?, isRelease msg = true
  | _ => True

/-- No pod of the service that is still there and not evicted has an id that is recorded. -/
def NoneRecycled (s : Fleet) (key : String) : Prop :=
  ∀ p ∈ s.pods, p.pod.serviceId = key → p.evicted = false → p.pod.deviceId.toString ∉ s.recorded key

/-- The injector forgets a service only while none of its pods has a recycled id, and an id that the injector
learns is not one that it takes for used. -/
def ForgetsSafely (s : Fleet) : Event → Prop
  | .restart => ∀ p ∈ s.pods, s.NoneRecycled p.pod.serviceId
  | .gone identity => s.NoneRecycled (Service.serviceId identity)
  | .found identity used => ∀ x ∈ deviceIdList identity.credentials, x ∈ used.getD [] →
      x ∈ s.store.remembered (Service.serviceId identity)
  | _ => True

theorem NoneRecycled.held (h : s.NoneRecycled key) : ∀ d ∈ s.held (· == key), d.toString ∉ s.recorded key := by
  intro d hd
  obtain ⟨p, hp, hKey, hEvicted, rfl⟩ := mem_held.mp hd
  exact h p hp (by simpa using hKey) hEvicted

theorem Tracked.step (h : Tracked newV4 bound key s) (hParse : ∀ d : Uuid, env.parseUuid d.toString = some d)
    (hDistinct : ∀ i < bound, ∀ j < bound, newV4 i = newV4 j → i = j) (hBound : t.drawn ≤ bound)
    (hOperation : s.DeviceIdOperation event) (hSafe : s.ForgetsSafely event)
    (hNext : s.next outcomes env newV4 event = some t) : Tracked newV4 bound key t := by
  have hLearns : ∀ identity used, event = .found identity used → s.Learns env newV4 bound (· == key) identity := by
    rintro identity used rfl
    cases next_move hNext with
    | found identity used hVersion => exact h.learns hParse hVersion
  have hOrderly : Orderly newV4 bound (· == key) t := h.orderly.step hDistinct hBound hNext hLearns
  cases next_move hNext with
  | service event service hEvent hService =>
    refine h.serviceStep hService hEvent ?_
    rintro order rfl
    exact hOperation
  | podCreated uid pod random ns hNs environment identity store hName hPop hNew =>
    obtain ⟨hIdentities, hOther, hTaken⟩ := InMemoryIdentityStore.popDeviceId_ok (congrArg Prod.fst hPop)
    rw [hPop] at hIdentities hOther hTaken
    have hService : (InjectedPod.inject environment ns pod hNs).serviceId =
        formatServiceId ns (pod.namedName random) := by
      rw [InjectedPod.serviceId, ← hName]
      rfl
    refine h.used hOrderly rfl rfl rfl rfl hIdentities (Nat.le_succ _) (fun d hd => ?_) fun d hd => .inl ?_
    · rcases hd with hHeld | hFree
      · obtain ⟨p, hp, hSame, hEvicted, rfl⟩ := mem_held.mp hHeld
        rcases List.mem_cons.mp hp with rfl | hp
        · have hKey : key = formatServiceId ns (pod.namedName random) := by
            rw [← hService]
            exact (beq_iff_eq.mp hSame).symm
          rcases hTaken with ⟨hFresh, -⟩ | hPool
          · exact .inr ⟨hFresh, hBound⟩
          · refine .inl (.inr ?_)
            rw [hKey, hPool]
            exact List.mem_cons_self
        · exact .inl (.inl (mem_held.mpr ⟨p, hp, hSame, hEvicted, rfl⟩))
      · refine .inl (.inr ?_)
        by_cases hKey : key = formatServiceId ns (pod.namedName random)
        · subst hKey
          rcases hTaken with ⟨-, -, hEmpty⟩ | hPool
          · rw [show store.pool _ = [] from hEmpty] at hFree
            cases hFree
          · rw [hPool]
            exact List.mem_cons_of_mem _ hFree
        · exact hOther key hKey ▸ hFree
    · rcases hd with hQueued | ⟨p, hp, hSame, hEvicted, hId⟩
      · exact .inl hQueued
      · rcases List.mem_cons.mp hp with rfl | hp
        · cases hEvicted
        · exact .inr ⟨p, hp, hSame, hEvicted, hId⟩
  | podApplied uid status random p hPod hUid => exact h.podApplied hParse hPod hUid hOrderly
  | podDeleted uid random p hPod hUid => exact h.podDeleted hParse hPod hUid hOrderly
  | found identity used hVersion => exact h.found hParse hVersion hOrderly hSafe
  | gone identity hVersion =>
    by_cases hKey : key = Service.serviceId identity
    · subst hKey
      have hSame : ∀ v ∈ s.versions, v ∈ s.versions := fun v hv => hv
      refine h.forgotten hOrderly ?_ ?_ ?_ hSame h.objects hSafe.held
      · rw [InMemoryIdentityStore.pool_unregisterService, if_pos rfl]
      · rw [InMemoryIdentityStore.remembered_unregisterService, if_pos rfl]
      · intro i hi
        simp [InMemoryIdentityStore.unregisterService] at hi
    · have hSame : (s.store.unregisterService (Service.serviceId identity)).2.remembered key =
          s.store.remembered key := by
        rw [InMemoryIdentityStore.remembered_unregisterService, if_neg hKey]
      have hPool : (s.store.unregisterService (Service.serviceId identity)).2.pool key = s.store.pool key := by
        rw [InMemoryIdentityStore.pool_unregisterService, if_neg hKey]
      refine ⟨hOrderly, fun d hd => ?_, fun d hd => ?_,
        fun x hx => h.remembered x (hSame ▸ hx), fun i hi => ?_, h.memory,
        h.listed, h.objects, h.outbox⟩
      · exact hSame ▸ h.known d (hd.imp_right fun hFree => hPool ▸ hFree)
      · obtain ⟨hPlace, hDrawn⟩ := h.returned d hd
        refine ⟨hPlace.imp (fun hKnown => hSame ▸ hKnown) fun hUnused => ?_, hDrawn⟩
        obtain ⟨hNotHeld, hNotFree⟩ := unused_iff.mp hUnused
        exact unused_iff.mpr ⟨hNotHeld, hPool ▸ hNotFree⟩
      · simp only [InMemoryIdentityStore.unregisterService, HashMap.lookup_erase_eq_ite, if_neg hKey] at hi
        exact h.keeps i hi
  | restart =>
    refine h.forgotten hOrderly rfl rfl (fun i hi => ?_) h.objects (fun v hv => hv) fun d hd => ?_
    · simp [InMemoryIdentityStore.new] at hi
    · obtain ⟨p, hp, hKey, hEvicted, rfl⟩ := mem_held.mp hd
      have hSame : p.pod.serviceId = key := by simpa using hKey
      exact hSame ▸ hSafe p hp p hp rfl hEvicted
  | onBoarded =>
    exact ⟨hOrderly, h.known, h.returned, h.remembered, h.keeps, h.memory, h.listed, h.objects, h.outbox⟩

/-- The identity service before there are any pods: its identities list canonical ids, as do the objects, and neither
these nor the ids on their way back are drawn later. -/
structure Storing (newV4 : Nat → Uuid) (bound : Nat) (service : Processes) : Prop where
  memory : ∀ key i, service.manager.identities.lookup key = some i → Listed newV4 bound 0 i
  objects : ∀ v ∈ currentVersions service, Listed newV4 bound 0 v
  queued : ∀ lookup uuid, .releaseDeviceId lookup uuid ∈ service.manager.identityManagerQueue.pending →
    ∀ n < bound, newV4 n ≠ uuid
  outbox : ∀ x ∈ service.creator.outbox, Processes.isFromCreator x = true

theorem tracked_started {service : Processes} (hStart : Storing newV4 bound service) :
    Tracked newV4 bound key (started service) where
  orderly := orderly_started service
  known d hd := by
    rcases hd with hMem | hMem <;> cases hMem
  returned d hd := by
    have hUnused : ((started service).leases (· == key)).Unused d :=
      unused_iff.mpr ⟨List.not_mem_nil, List.not_mem_nil⟩
    refine ⟨.inr hUnused, fun n _ hLt => ?_⟩
    rcases hd with ⟨x, hx, hRelease⟩ | ⟨p, hp, -⟩
    · cases x with
      | releaseDeviceId lookup uuid =>
        simp only [releaseOf] at hRelease
        split at hRelease
        · cases hRelease
          exact hStart.queued _ _ hx n hLt
        · cases hRelease
      | _ => cases hRelease
    · cases hp
  remembered x hx := by cases hx
  keeps i hi := by cases hi
  memory i hi := hStart.memory key i hi
  listed v hv _ := hStart.objects v hv
  objects v hv := hv
  outbox := hStart.outbox

theorem drawn_le (hNext : s.next outcomes env newV4 event = some t) : s.drawn ≤ t.drawn := by
  cases next_move hNext with
  | podCreated => exact Nat.le_succ _
  | podApplied | podDeleted =>
    rw [drawn_report]
    exact le_rfl
  | service | found | gone | restart | onBoarded => exact le_rfl

/-- While the injector only restarts when none of the pods has a recycled id, no two pods of a service have the same
device id. -/
theorem device_ids_exclusive {service : Processes} (hParse : ∀ d : Uuid, env.parseUuid d.toString = some d)
    (hDistinct : ∀ i < s.drawn, ∀ j < s.drawn, newV4 i = newV4 j → i = j) (hStart : Storing newV4 s.drawn service)
    (hRun : Steps (next outcomes env newV4) (fun s event => s.DeviceIdOperation event ∧ s.ForgetsSafely event)
      (started service) s) (p q : LivePod) (hp : p ∈ s.pods) (hq : q ∈ s.pods) (hHolds : p.evicted = false)
    (hHolds' : q.evicted = false) (hService : p.pod.serviceId = q.pod.serviceId)
    (hId : p.pod.deviceId = q.pod.deviceId) : p = q := by
  have hTracked : s.drawn ≤ s.drawn → Tracked newV4 s.drawn p.pod.serviceId s := by
    refine hRun.invariant (fun t => t.drawn ≤ s.drawn → Tracked newV4 s.drawn p.pod.serviceId t) ?_
      fun _ => tracked_started hStart
    intro t event u hBefore hAllowed hNext hBound
    have hEarlier : t.drawn ≤ s.drawn := (drawn_le hNext).trans hBound
    exact (hBefore hEarlier).step hParse hDistinct hBound hAllowed.1 hAllowed.2 hNext
  refine List.inj_on_of_nodup_map (hTracked le_rfl).orderly.exclusive.held ?_ ?_ hId
  · simp [List.mem_filter, hp, hHolds]
  · simp [List.mem_filter, hq, hHolds', hService]

instance (s : Fleet) (event : Event) : Decidable (s.DeviceIdOperation event) := by
  unfold DeviceIdOperation
  split <;> infer_instance

instance (s : Fleet) : DecidablePred s.NoneRecycled := fun key => by
  unfold NoneRecycled
  infer_instance

instance (s : Fleet) (event : Event) : Decidable (s.ForgetsSafely event) := by
  unfold ForgetsSafely
  split <;> infer_instance

def sampleSurroundings : Surroundings :=
  { IdentityCreator.sampleSurroundings fun _ => .delivered with parseUuid := parseCanonical }

def sampleId (n : Nat) : Uuid := IdentityCreator.sampleUuid n

abbrev sampleNext : Fleet → Event → Option Fleet := next (fun _ => .delivered) sampleSurroundings sampleId

def sampleIdentity (deviceIds : List Uuid) : ServiceIdentity :=
  ⟨"ns-a", ⟨⟨"u", "cluster_ns_a_abcde", "pw", "appgate://profile", some (deviceIds.map Uuid.toString)⟩,
    "a", "ns", ∅, false⟩⟩

/-- The identity of `a` has been restored, and its user is still to be found. -/
def sampleService : Processes :=
  .started "cluster" [sampleIdentity []]
    ⟨⟨[⟨"u", "cluster_ns_a_abcde", ∅, [], none, false⟩], [], []⟩, 0, []⟩
    ⟨some ⟨some (AList.singleton "u-service-password" (.text "pw"))⟩, 0, []⟩ 0

theorem storing_sampleService (bound : Nat) : Storing sampleId bound sampleService := by
  have hListed : Listed sampleId bound 0 (sampleIdentity []) := ⟨rfl, nofun⟩
  have hOnly : ∀ i ∈ sampleService.manager.serviceCredentialsProvider.identities, i = sampleIdentity [] := by decide
  have hObjects : ∀ v ∈ currentVersions sampleService, v = sampleIdentity [] := by decide
  constructor
  · intro key i hi
    exact hOnly i (mem_identities_of_lookup hi) ▸ hListed
  · intro v hv
    exact hObjects v hv ▸ hListed
  · intro lookup uuid hMem
    have hNone : ∀ x ∈ sampleService.manager.identityManagerQueue.pending, isRelease x = false := by decide
    cases hNone _ hMem
  · intro x hx
    cases hx

def samplePod (uid : Nat) : Event := .podCreated uid ⟨some "a", none, some "ns", ∅, none⟩ (sampleId 255)

/-- The id of the first pod is released and handed out to the second. -/
def sampleRecycling : List Event :=
  [.found (sampleIdentity []) none, samplePod 1, .podDeleted 1 (sampleId 255), .service (.handle .asStored),
    .found (sampleIdentity [sampleId 0]) none, samplePod 2]

def sampleRecycled : Fleet := runD sampleNext (started sampleService) sampleRecycling

theorem steps_sampleRecycled : Steps sampleNext (fun s event => s.DeviceIdOperation event ∧ s.ForgetsSafely event)
    (started sampleService) sampleRecycled :=
  .of_runD sampleRecycling (by decide +kernel) (by decide +kernel)

theorem device_ids_exclusive_sample :
    (runD sampleNext sampleRecycled [samplePod 3]).pods.map (fun p => p.pod.deviceId) = [sampleId 2, sampleId 0] ∧
    ∀ p ∈ (runD sampleNext sampleRecycled [samplePod 3]).pods,
      ∀ q ∈ (runD sampleNext sampleRecycled [samplePod 3]).pods,
      p.evicted = false → q.evicted = false → p.pod.serviceId = q.pod.serviceId →
      p.pod.deviceId = q.pod.deviceId →
        p = q := by
  refine ⟨by decide +kernel, fun p hp q hq hHolds hHolds' hService hId => ?_⟩
  have hDrawn : (runD sampleNext sampleRecycled [samplePod 3]).drawn = 3 := by decide +kernel
  have hDistinct : ∀ i < (runD sampleNext sampleRecycled [samplePod 3]).drawn,
      ∀ j < (runD sampleNext sampleRecycled [samplePod 3]).drawn, sampleId i = sampleId j → i = j := by
    rw [hDrawn]
    decide
  have hRun : Steps sampleNext (fun s event => s.DeviceIdOperation event ∧ s.ForgetsSafely event)
      (started sampleService)
      (runD sampleNext sampleRecycled [samplePod 3]) :=
    steps_sampleRecycled.trans (Steps.of_runD [samplePod 3] (by decide +kernel) (by decide +kernel))
  exact device_ids_exclusive parseCanonical_toString hDistinct (storing_sampleService _) hRun p q hp hq hHolds hHolds'
    hService hId

/-- After a restart the injector hands out the id that the second pod has. -/
theorem restart_recycles_live_id :
    Steps sampleNext DeviceIdOperation (started sampleService)
        (runD sampleNext sampleRecycled [.restart, .found (sampleIdentity [sampleId 0]) none, samplePod 3]) ∧
      (runD sampleNext sampleRecycled [.restart, .found (sampleIdentity [sampleId 0]) none, samplePod 3]).pods.map
        (fun p => (p.uid, p.pod.serviceId, p.pod.deviceId, p.evicted)) =
          [(3, "ns_a", sampleId 0, false), (2, "ns_a", sampleId 0, false)] := by
  refine ⟨?_, by decide +kernel⟩
  have hOnly : Steps sampleNext DeviceIdOperation (started sampleService) sampleRecycled :=
    steps_sampleRecycled.mono fun _ _ h => h.1
  exact hOnly.trans (Steps.of_runD [.restart, .found (sampleIdentity [sampleId 0]) none, samplePod 3]
    (by decide +kernel)
    (by decide +kernel))

end SdpK8sInjector.Recycling.Fleet
