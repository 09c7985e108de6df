import SdpK8sInjector.Recycling.Exclusivity

/-! # How often a device id comes back

The manager reports a released id with the identity of its service, and the injector takes
over the ids that it does not remember. An id that it remembers has come back before.
-/

namespace SdpK8sInjector.Recycling.Fleet

open Lib Common IdentityService Injector

variable {outcomes : Nat → CallOutcome} {env : Surroundings} {newV4 : Nat → Uuid} {s t v w : Fleet} {event : Event}
  {events : List Event} {key : String} {d : Uuid}

/-- The identity lists the id, in whatever way it is written. -/
def ListsId (env : Surroundings) (identity : ServiceIdentity) (d : Uuid) : Prop :=
  ∃ x ∈ deviceIdList identity.credentials, env.parseUuid x = some d

/-- The injector learns an identity of the service that lists the id. -/
def LearnsId (env : Surroundings) (key : String) (d : Uuid) : Event → Prop
  | .found identity _ => Service.serviceId identity = key ∧ ListsId env identity d
  | _ => False

/-- The injector learns that the service is gone. -/
def Forgets (key : String) : Event → Prop
  | .gone identity => Service.serviceId identity = key
  | _ => False

def isRestart : Event → Bool
  | .restart => true
  | _ => false

theorem store_of_found {identity : ServiceIdentity} {used : Option (List String)}
    (h : s.next outcomes env newV4 (.found identity used) = some t) :
    t.store = (s.store.registerOrUpdate env.parseUuid identity used).2 := by
  cases next_move h with
  | found identity used hVersion => rfl

/-- One event between the release of an id and the identity that reports it. -/
theorem step_between (hNext : s.next outcomes env newV4 event = some t) (hRestart : isRestart event = false)
    (hLearns : ¬LearnsId env key d event) (hOut : d ∉ s.store.pool key) :
    d ∉ t.store.pool key ∧ ∀ x, env.parseUuid x = some d →
      (x ∈ t.store.remembered key ↔ x ∈ s.store.remembered key ∧ ¬Forgets key event) := by
  have hSame : ¬Forgets key event → t.store = s.store →
      d ∉ t.store.pool key ∧ ∀ x, env.parseUuid x = some d →
      (x ∈ t.store.remembered key ↔ x ∈ s.store.remembered key ∧ ¬Forgets key event) := by
    intro hKept hStore
    rw [hStore]
    exact ⟨hOut, fun x _ => ⟨fun hx => ⟨hx, hKept⟩, fun hx => hx.1⟩⟩
  cases next_move hNext with
  | service event service hEvent hService => exact hSame (fun h => h) rfl
  | podApplied uid status random p hPod hUid => exact hSame (fun h => h) (store_report uid _)
  | podDeleted uid random p hPod hUid => exact hSame (fun h => h) (store_report uid _)
  | podCreated uid pod random ns hNs environment identity store hName hPop hNew =>
    obtain ⟨hIdentities, hOther, hTaken⟩ := InMemoryIdentityStore.popDeviceId_ok (congrArg Prod.fst hPop)
    rw [hPop] at hIdentities hOther hTaken
    dsimp only at hIdentities hOther hTaken ⊢
    constructor
    · intro hMem
      by_cases hKey : key = formatServiceId ns (pod.namedName random)
      · subst hKey
        rcases hTaken with ⟨-, -, hEmpty⟩ | hPool
        · rw [hEmpty] at hMem
          cases hMem
        · exact hOut (hPool ▸ List.mem_cons_of_mem _ hMem)
      · exact hOut (hOther key hKey ▸ hMem)
    · intro x _
      rw [InMemoryIdentityStore.remembered, hIdentities]
      exact ⟨fun hx => ⟨hx, fun h => h⟩, fun hx => hx.1⟩
  | found identity used hVersion =>
    have hNot : key = Service.serviceId identity → ¬ListsId env identity d := fun hKey hLists =>
      hLearns ⟨hKey.symm, hLists⟩
    constructor
    · intro hMem
      rcases InMemoryIdentityStore.mem_pool_registerOrUpdate.mp hMem with hOld | ⟨hKey, x, hx, -, hParse⟩
      · exact hOut hOld
      · exact hNot hKey ⟨x, hx, hParse⟩
    · intro x hParse
      constructor
      · intro hx
        refine ⟨?_, fun h => h⟩
        by_cases hKey : key = Service.serviceId identity
        · subst hKey
          refine (InMemoryIdentityStore.remembered_registerOrUpdate_subset hx).resolve_right fun hNew => ?_
          exact hNot rfl ⟨x, hNew, hParse⟩
        · rwa [InMemoryIdentityStore.remembered_registerOrUpdate_of_ne used hKey] at hx
      · exact fun hx => InMemoryIdentityStore.remembered_registerOrUpdate_mono identity used hx.1
  | gone identity hVersion =>
    dsimp only
    rw [InMemoryIdentityStore.pool_unregisterService, InMemoryIdentityStore.remembered_unregisterService]
    by_cases hKey : key = Service.serviceId identity
    · rw [if_pos hKey, if_pos hKey]
      refine ⟨List.not_mem_nil, fun x _ => ⟨fun hx => ?_, fun hx => absurd hKey.symm hx.2⟩⟩
      cases hx
    · rw [if_neg hKey, if_neg hKey]
      exact ⟨hOut, fun x _ => ⟨fun hx => ⟨hx, fun h => hKey h.symm⟩, fun hx => hx.1⟩⟩
  | onBoarded devices => exact hSame (fun h => h) rfl
  | restart => cases hRestart

/-- Until the identity is learnt the id is not in the pool, and it is remembered as it was. -/
theorem run_between (hRun : run (next outcomes env newV4) s events = some t)
    (hRestart : ∀ e ∈ events, isRestart e = false) (hLearns : ∀ e ∈ events, ¬LearnsId env key d e)
    (hOut : d ∉ s.store.pool key) :
    d ∉ t.store.pool key ∧ ∀ x, env.parseUuid x = some d →
      (x ∈ t.store.remembered key ↔ x ∈ s.store.remembered key ∧ ∀ e ∈ events, ¬Forgets key e) := by
  induction events generalizing s with
  | nil =>
    cases hRun
    exact ⟨hOut, fun x _ => ⟨fun hx => ⟨hx, List.forall_mem_nil _⟩, fun hx => hx.1⟩⟩
  | cons event events ih =>
    obtain ⟨u, hNext, hRest⟩ := Option.bind_eq_some_iff.mp hRun
    obtain ⟨hOut', hFirst⟩ := step_between hNext (hRestart event List.mem_cons_self)
      (hLearns event List.mem_cons_self) hOut
    obtain ⟨hPool, hLater⟩ := ih hRest (fun e he => hRestart e (List.mem_cons_of_mem _ he))
      (fun e he => hLearns e (List.mem_cons_of_mem _ he)) hOut'
    refine ⟨hPool, fun x hParse => ?_⟩
    rw [hLater x hParse, hFirst x hParse, List.forall_mem_cons, and_assoc]

/-- The object of a service whose release was handled without a failing call has the id in its list, if it has a
list. -/
theorem spec_of_release {lookup : ServiceLookup} {order : IterationOrder} {i identity : ServiceIdentity}
    (hRelease : s.service.manager.identityManagerQueue.pending.head? = some (.releaseDeviceId lookup d))
    (hRegistered : s.service.manager.identities.lookup (formatServiceId lookup.ns lookup.name) = some i)
    (hHandled : s.next outcomes env newV4 (.service (.handle order)) = some t)
    (hCalls : t.service.manager.failures = s.service.manager.failures)
    (hWritten : t.service.manager.objects.lookup (Service.serviceName i) = some identity) :
    t.store = s.store ∧ identity.spec = (IdentityManager.recordDeviceId d i).spec := by
  cases next_move hHandled with
  | service event service hEvent hService =>
    refine ⟨rfl, ?_⟩
    cases Processes.next_move outcomes env hService with
    | handle order msg queue hRecv =>
      obtain ⟨rest, hPending, -⟩ := Channel.recv_eq_some.mp hRecv
      obtain rfl : msg = .releaseDeviceId lookup d := by
        rw [hPending] at hRelease
        exact Option.some.inj hRelease
      let m : IdentityManager := { s.service.manager with identityManagerQueue := queue }
      rcases IdentityManager.releaseDeviceId_cases outcomes lookup d m with ⟨hNone, -⟩ | ⟨j, sent, hj, -, hEq⟩
      · cases hRegistered.symm.trans hNone
      · cases hRegistered.symm.trans hj
        have hAfter : IdentityManager.handle outcomes order (.releaseDeviceId lookup d) m =
            m.releaseDeviceId outcomes lookup d := rfl
        change (IdentityManager.handle outcomes order (.releaseDeviceId lookup d) m).failures = m.failures at hCalls
        change (IdentityManager.handle outcomes order (.releaseDeviceId lookup d) m).objects.lookup _ = _ at hWritten
        rw [hAfter, hEq] at hCalls hWritten
        rcases ServiceIdentityAPI.update_succeeds hCalls with ⟨obj, _, _, hObjects⟩ | ⟨hNone, _, _, hObjects⟩
        · change (m.serviceIdentityApi.update outcomes (IdentityManager.recordDeviceId d i)).2.store.objects.lookup
            _ = _
            at hWritten
          rw [hObjects, IdentityManager.serviceName_recordDeviceId, AList.lookup_insert] at hWritten
          cases hWritten
          rfl
        · change (m.serviceIdentityApi.update outcomes (IdentityManager.recordDeviceId d i)).2.store.objects.lookup
            _ = _
            at hWritten
          rw [hObjects, HashMap.lookup_insert_eq_ite] at hWritten
          split at hWritten
          · cases hWritten
            rfl
          · rw [IdentityManager.serviceName_recordDeviceId] at hNone
            cases hNone.symm.trans hWritten

/-- A released id is in the pool again, once the injector has learnt the identity that the release has written, exactly
if the injector did not remember one of the ways in which the id is written there, or has forgotten the service since.
The manager writes the id in the standard way, unless it is there already or the identity has no list. -/
theorem released_id_returns_iff {lookup : ServiceLookup} {order : IterationOrder} {i identity : ServiceIdentity}
    {used : Option (List String)}
    (hRelease : s.service.manager.identityManagerQueue.pending.head? = some (.releaseDeviceId lookup d))
    (hRegistered : s.service.manager.identities.lookup (formatServiceId lookup.ns lookup.name) = some i)
    (hHandled : s.next outcomes env newV4 (.service (.handle order)) = some t)
    (hCalls : t.service.manager.failures = s.service.manager.failures)
    (hWritten : t.service.manager.objects.lookup (Service.serviceName i) = some identity)
    (hRun : run (next outcomes env newV4) t events = some v) (hRestart : ∀ e ∈ events, isRestart e = false)
    (hFirst : ∀ e ∈ events, ¬LearnsId env (formatServiceId lookup.ns lookup.name) d e)
    (hFound : v.next outcomes env newV4 (.found identity used) = some w)
    (hOut : d ∉ s.store.pool (formatServiceId lookup.ns lookup.name)) :
    d ∈ w.store.pool (formatServiceId lookup.ns lookup.name) ↔
      ∃ x, (x ∈ deviceIdList i.credentials ∨ i.credentials.deviceIds.isSome = true ∧ x = d.toString) ∧
        env.parseUuid x = some d ∧
        (x ∉ s.store.remembered (formatServiceId lookup.ns lookup.name) ∨
          ∃ e ∈ events, Forgets (formatServiceId lookup.ns lookup.name) e) := by
  obtain ⟨hStore, hSpec⟩ := spec_of_release hRelease hRegistered hHandled hCalls hWritten
  have hKey := ServiceCredentialsProvider.keyed s.service.manager.serviceCredentialsProvider _ i hRegistered
  have hCredentials : identity.credentials = (IdentityManager.recordDeviceId d i).credentials :=
    congrArg ServiceIdentitySpec.serviceUser hSpec
  have hIdentity : Service.serviceId identity = formatServiceId lookup.ns lookup.name := by
    have hSame : Service.serviceId identity = Service.serviceId (IdentityManager.recordDeviceId d i) :=
      congrArg (fun spec : ServiceIdentitySpec => formatServiceId spec.serviceNamespace spec.serviceName) hSpec
    rw [hSame, IdentityManager.serviceId_recordDeviceId, hKey]
  obtain ⟨hOut', hRemembered⟩ := run_between hRun hRestart hFirst (hStore ▸ hOut)
  rw [store_of_found hFound, InMemoryIdentityStore.mem_pool_registerOrUpdate, or_iff_right hOut',
    and_iff_right hIdentity.symm, hCredentials]
  refine exists_congr fun x => ?_
  rw [IdentityManager.mem_deviceIdList_recordDeviceId]
  refine and_congr_right fun _ => ?_
  rw [and_comm]
  refine and_congr_right fun hParse => ?_
  rw [hRemembered x hParse, hStore, not_and_or]
  simp only [not_forall, not_not, exists_prop]

def sampleLookup : ServiceLookup := .new "ns" "a" none

/-- The id of the first pod comes back. -/
theorem released_id_returns_sample :
    let s := runD sampleNext (started sampleService) (sampleRecycling.take 3)
    let t := runD sampleNext s [.service (.handle .asStored)]
    sampleId 0 ∈ (runD sampleNext t [.found (sampleIdentity [sampleId 0]) none]).store.pool
      (formatServiceId sampleLookup.ns sampleLookup.name) := by
  intro s t
  have hState : s.service.manager.identityManagerQueue.pending.head? =
      some (.releaseDeviceId sampleLookup (sampleId 0)) ∧
      s.service.manager.identities.lookup (formatServiceId sampleLookup.ns sampleLookup.name) =
      some (sampleIdentity []) ∧ sampleId 0 ∉ s.store.pool (formatServiceId sampleLookup.ns sampleLookup.name) ∧
      (sampleId 0).toString ∉ s.store.remembered (formatServiceId sampleLookup.ns sampleLookup.name) ∧
      (sampleNext s (.service (.handle .asStored))).isSome = true ∧
      (sampleNext t (.found (sampleIdentity [sampleId 0]) none)).isSome = true := by
    decide +kernel
  obtain ⟨hRelease, hRegistered, hOut, hNew, hHandled, hFound⟩ := hState
  have hCalls : t.service.manager.failures = s.service.manager.failures := by decide +kernel
  have hWritten : t.service.manager.objects.lookup (Service.serviceName (sampleIdentity [])) =
      some (sampleIdentity [sampleId 0]) := by decide +kernel
  have hRun : run sampleNext t [] = some t := rfl
  have hReturns := released_id_returns_iff hRelease hRegistered (next_eq_runD hHandled) hCalls hWritten hRun
    (List.forall_mem_nil _) (List.forall_mem_nil _) (next_eq_runD hFound) hOut
  exact hReturns.mpr ⟨(sampleId 0).toString, .inr ⟨rfl, rfl⟩, parseCanonical_toString (sampleId 0), .inl hNew⟩

/-- The id of the second pod, which was the first one's, does not, and a third pod gets another id, although there was
only one pod at a time. -/
theorem second_release_lost :
    let s := runD sampleNext (started sampleService) (sampleRecycling ++ [.podDeleted 2 (sampleId 255)])
    let t := runD sampleNext s [.service (.handle .asStored)]
    let w := runD sampleNext t [.found (sampleIdentity [sampleId 0]) none]
    Steps sampleNext (fun _ e => isRestart e = false) (started sampleService) s ∧
      s.service.manager.identityManagerQueue.pending.head? =
        some (.releaseDeviceId sampleLookup (sampleId 0)) ∧
      (sampleNext s (.service (.handle .asStored))).isSome = true ∧
      (sampleNext t (.found (sampleIdentity [sampleId 0]) none)).isSome = true ∧
      w.store.pool (formatServiceId sampleLookup.ns sampleLookup.name) = [] ∧
      (runD sampleNext w [samplePod 3]).pods.map (fun p => p.pod.deviceId) = [sampleId 2] :=
  ⟨.of_runD _ (by decide +kernel) (by decide +kernel), by decide +kernel⟩

end SdpK8sInjector.Recycling.Fleet
