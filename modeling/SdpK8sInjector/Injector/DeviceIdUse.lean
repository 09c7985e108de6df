import SdpK8sInjector.Injector.IdentityStore
import SdpK8sInjector.Injector.RoundTrip
import SdpK8sInjector.Lib.Lists

/-! # Device ids and the admissions that use them up

The store is asked for a device id before it is known whether there will be a patch,
and nothing gives the id back if there is none.
-/

namespace SdpK8sInjector.Injector

open Lib Serde Common IdentityService

/-- A request for a pod, with all that `patch_pod` meets when it is handled. -/
structure PodAdmission where
  request : PodRequest
  names : Nat → Uuid
  newV4 : Uuid
  sdpPod : SDPPod
  defaultVersion : Option String

namespace PodAdmission

def answer (a : PodAdmission) (store : InMemoryIdentityStore) :
    Except PatchFailure (List AddOperation) × InMemoryIdentityStore :=
  patchPod a.names a.newV4 a.sdpPod a.defaultVersion a.request store

/-- The answer is an error or an empty patch. -/
def Fails (a : PodAdmission) (store : InMemoryIdentityStore) : Prop := (a.answer store).1.toOption.getD [] = []

def afterAll (admissions : List PodAdmission) (store : InMemoryIdentityStore) : InMemoryIdentityStore :=
  admissions.foldl (fun store a => (a.answer store).2) store

def FailAll : List PodAdmission → InMemoryIdentityStore → Prop
  | [], _ => True
  | a :: rest, store => a.Fails store ∧ FailAll rest (a.answer store).2

/-- The service whose device ids the store is asked for: a pod that names its own secrets needs none. -/
def asks (a : PodAdmission) : Option String :=
  match a.request.namespace, a.request.object with
  | some ns, some pod =>
    if (annotationOf pod SDP_ANNOTATION_CLIENT_SECRETS).isNone then
      some (formatServiceId ns (a.request.name (a.names 3)))
    else none
  | _, _ => none

theorem answer_store (a : PodAdmission) (store : InMemoryIdentityStore) : (a.answer store).2 =
    match a.asks with
    | some serviceId => (store.popDeviceId a.newV4 serviceId).2
    | none => store := by
  unfold answer patchPod asks
  cases hNs : a.request.namespace with
  | none => simp [PodRequest.serviceId, hNs]
  | some ns =>
    cases hObject : a.request.object with
    | none => simp [PodRequest.serviceId, hNs, PodEnvironment.create, PodEnvironment.fromPod, hObject]
    | some pod =>
      cases hSecrets : annotationOf pod SDP_ANNOTATION_CLIENT_SECRETS with
      | some secret =>
        simp [PodRequest.serviceId, PodRequest.serviceName, hNs, PodEnvironment.create, PodEnvironment.fromPod, hObject,
          hSecrets, bind, Except.bind]
      | none =>
        cases hPop : store.popDeviceId a.newV4 (formatServiceId ns (a.request.name (a.names 3))) with
        | mk result store' =>
          cases result <;>
            simp [PodRequest.serviceId, PodRequest.serviceName, hNs, PodEnvironment.create, PodEnvironment.fromPod,
              hObject, hSecrets, bind, Except.bind, PodEnvironment.fromIdentityStore, hPop, Except.map]

/-- How many of the admissions ask for a device id of the service and find it registered. -/
def takes (serviceId : String) (store : InMemoryIdentityStore) (admissions : List PodAdmission) : Nat :=
  if serviceId ∈ store.identities then admissions.countP (fun a => a.asks = some serviceId) else 0

theorem answer_pool (a : PodAdmission) (store : InMemoryIdentityStore) (serviceId : String) :
    (a.answer store).2.identities = store.identities ∧
      (a.answer store).2.pool serviceId = (store.pool serviceId).drop (takes serviceId store [a]) := by
  rw [answer_store]
  cases hAsks : a.asks with
  | none => simp [takes, hAsks]
  | some asked =>
    dsimp only
    cases hFound : store.identities.lookup asked with
    | none =>
      have hMissing : asked ∉ store.identities := AList.lookup_eq_none.mp hFound
      have hSame : (store.popDeviceId a.newV4 asked).2 = store := by
        simp [InMemoryIdentityStore.popDeviceId, hFound]
      rw [hSame]
      refine ⟨rfl, ?_⟩
      by_cases hKey : asked = serviceId
      · simp [takes, ← hKey, hMissing]
      · simp [takes, hAsks, hKey]
    | some i =>
      cases hIds : store.registeredDeviceIds.lookup asked with
      | none =>
        have hSame : (store.popDeviceId a.newV4 asked).2 = store := by
          simp [InMemoryIdentityStore.popDeviceId, hFound, hIds]
        rw [hSame]
        refine ⟨rfl, ?_⟩
        by_cases hKey : asked = serviceId
        · subst hKey
          simp [InMemoryIdentityStore.pool, hIds, RegisteredDeviceId.empty]
        · simp [takes, hAsks, hKey]
      | some r =>
        obtain ⟨hOk, hSame, r', hAfter, hRest⟩ := InMemoryIdentityStore.popDeviceId_registered a.newV4 hFound hIds
        refine ⟨hSame, ?_⟩
        by_cases hKey : asked = serviceId
        · subst hKey
          have hMem : asked ∈ store.identities := HashMap.mem_iff_exists_lookup.mpr ⟨i, hFound⟩
          simp [takes, hAsks, hMem, InMemoryIdentityStore.pool, hIds, hAfter, hRest]
        · have hOther := (InMemoryIdentityStore.popDeviceId_ok hOk).2.1 serviceId (Ne.symm hKey)
          simp [takes, hAsks, hKey, hOther]

theorem afterAll_pool (admissions : List PodAdmission) (store : InMemoryIdentityStore) (serviceId : String) :
    (afterAll admissions store).identities = store.identities ∧
      (afterAll admissions store).pool serviceId = (store.pool serviceId).drop (takes serviceId store admissions) := by
  induction admissions generalizing store with
  | nil => simp [afterAll, takes]
  | cons a rest ih =>
    obtain ⟨hSame, hPool⟩ := a.answer_pool store serviceId
    obtain ⟨hSameRest, hPoolRest⟩ := ih (a.answer store).2
    refine ⟨hSameRest.trans hSame, hPoolRest.trans ?_⟩
    rw [hPool, List.drop_drop]
    congr 1
    simp only [takes, hSame, List.countP_cons, List.countP_nil]
    split <;> omega

/-- Admissions leave the pool of a service exactly if none of them has asked for one of its ids, or there is none. It is
the same for those that fail: a pod that is patched after them costs exactly one id if it is the only one that has
asked, or the pool was exhausted by then. -/
theorem failed_admissions_keep_iff (failed : List PodAdmission) (last : PodAdmission) (store : InMemoryIdentityStore)
    (serviceId : String) :
    ((afterAll failed store).pool serviceId = store.pool serviceId ↔
      takes serviceId store failed = 0 ∨ store.pool serviceId = []) ∧
    ((last.answer (afterAll failed store)).2.pool serviceId = (store.pool serviceId).drop 1 ↔
      takes serviceId store (failed ++ [last]) = 1 ∨
        (store.pool serviceId).length ≤ min (takes serviceId store (failed ++ [last])) 1) := by
  constructor
  · rw [(afterAll_pool failed store serviceId).2]
    exact drop_eq_self_iff _ _
  · have hAll : (last.answer (afterAll failed store)).2 = afterAll (failed ++ [last]) store := by
      simp [afterAll, List.foldl_append]
    rw [hAll, (afterAll_pool (failed ++ [last]) store serviceId).2]
    exact drop_eq_drop_one_iff _ _

/-- The pod of a service with one id in the pool, where the address of the DNS service is known or missing. -/
def sampleAdmission (dns : Option KubeService) : PodAdmission where
  request := sampleNamedRequest
  names _ := sampleUuid
  newV4 := sampleUuid
  sdpPod := { SDPPod.sampleSdpPod with k8sDnsService := dns }
  defaultVersion := some "6.6"

/-- The pod names secrets of its own, so that nothing is asked for it. -/
def sampleOwnSecrets : PodAdmission :=
  { sampleAdmission none with
    request :=
      ⟨some (SDPPod.podOf ⟨some "web", none, none,
        some (AList.singleton SDP_ANNOTATION_CLIENT_SECRETS "own"), ∅⟩
      ⟨[SDPPod.sampleContainer "app"], none, none, none, none, none, ∅⟩ none), some "ns"⟩ }

/-- Two admissions fail, the first before it can ask for anything, and then the pod is patched. -/
theorem failed_admissions_keep_sample :
    let failed := [{ sampleAdmission none with request := ⟨none, some "ns"⟩ }, sampleOwnSecrets]
    let last := sampleAdmission SDPPod.sampleSdpPod.k8sDnsService
    FailAll failed sampleStore ∧ ¬last.Fails (afterAll failed sampleStore) ∧
      (afterAll failed sampleStore).pool "ns_web" = sampleStore.pool "ns_web" ∧
      (last.answer (afterAll failed sampleStore)).2.pool "ns_web" = (sampleStore.pool "ns_web").drop 1 := by
  intro failed last
  have hFailed : FailAll failed sampleStore := by
    simp only [failed, FailAll, Fails]
    decide +kernel
  have hPatched : ¬last.Fails (afterAll failed sampleStore) := by
    unfold Fails
    decide +kernel
  have hNone : takes "ns_web" sampleStore failed = 0 := by decide +kernel
  have hOne : takes "ns_web" sampleStore (failed ++ [last]) = 1 := by decide +kernel
  obtain ⟨hKept, hCost⟩ := failed_admissions_keep_iff failed last sampleStore "ns_web"
  exact ⟨hFailed, hPatched, hKept.mpr (.inl hNone), hCost.mpr (.inl hOne)⟩

/-- Without the address of the DNS service the pod is refused, and the id is gone. -/
theorem device_id_lost_to_failed_admission :
    (sampleAdmission none).Fails sampleStore ∧ sampleStore.pool "ns_web" = [sampleUuid] ∧
      ((sampleAdmission none).answer sampleStore).2.pool "ns_web" = [] := by
  refine ⟨?_, by decide +kernel, by decide +kernel⟩
  unfold Fails
  decide +kernel

end PodAdmission

end SdpK8sInjector.Injector
