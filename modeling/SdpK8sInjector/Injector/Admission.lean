import SdpK8sInjector.Common.Pods
import SdpK8sInjector.IdentityService.PodWatcher
import SdpK8sInjector.Injector.DeviceId

/-! # Pods that are injected

The annotations that the injector adds to a pod tell the identity service, once
the pod goes, which device id was assigned to it and for which service.
-/

namespace SdpK8sInjector.Injector

open Lib Common IdentityService

structure ServiceEnvironment where
  podName : String
  serviceId : String
  serviceName : String
  clientDeviceId : Uuid
deriving DecidableEq

def SDPInjectionStrategy.toString : SDPInjectionStrategy → String
  | .enabledByDefault => "enabledByDefault"
  | .disabledByDefault => "disabledByDefault"

/-- `ServiceEnvironment::from_identity_store`, with the store in place of the requests that it answers. -/
def fromIdentityStore (newV4 random : Uuid) (pod : Pod) (store : InMemoryIdentityStore) :
    Except SDPServiceError ServiceEnvironment × InMemoryIdentityStore :=
  match pod.serviceId random, pod.serviceName random with
  | .ok serviceId, .ok serviceName =>
    let (result, store) := store.popDeviceId newV4 serviceId
    (result.map fun (_, d) => ⟨pod.namedName random, serviceId, serviceName, d⟩, store)
  | .error e, _ | _, .error e => (.error e, store)

theorem fromIdentityStore_ok {newV4 random : Uuid} {pod : Pod} {store store' : InMemoryIdentityStore}
    {environment : ServiceEnvironment} {ns : String} (hNs : pod.ns = some ns)
    (h : fromIdentityStore newV4 random pod store = (.ok environment, store')) :
    environment.podName = pod.namedName random ∧
      ∃ identity, store.popDeviceId newV4 (formatServiceId ns (pod.namedName random)) =
        (.ok (identity, environment.clientDeviceId), store') := by
  have hId : pod.serviceId random = .ok (formatServiceId ns (pod.namedName random)) :=
    Pod.serviceId_eq_ok.mpr ⟨ns, hNs, rfl⟩
  simp only [fromIdentityStore, hId] at h
  split at h
  · rename_i serviceName hId' hName
    cases hId'
    cases hPop : store.popDeviceId newV4 (formatServiceId ns (pod.namedName random)) with
    | mk result store₁ =>
      rw [hPop] at h
      cases result with
      | error e => cases h
      | ok p =>
        cases h
        exact ⟨rfl, p.1, rfl⟩
  · cases congrArg Prod.fst h
  · cases congrArg Prod.fst h

/-- The annotations that `SDPPod::patch` adds. -/
def patchAnnotations (environment : ServiceEnvironment) (pod : Pod) : Pod :=
  let strategy := injectionStrategy pod
  let injectionEnabled := ((annotationOf pod SDP_INJECTOR_ANNOTATION_ENABLED).map fun s => decide (s = "true")).getD
    (decide (strategy = .enabledByDefault))
  let enabled := (annotationOf pod SDP_INJECTOR_ANNOTATION_ENABLED).getD (toString injectionEnabled)
  { pod with annotations :=
      AList.insert SDP_INJECTOR_ANNOTATION_POD_NAME environment.podName <|
      AList.insert SDP_INJECTOR_ANNOTATION_SERVICE_ID environment.serviceId <|
      AList.insert SDP_INJECTOR_ANNOTATION_SERVICE_NAME environment.serviceName <|
      AList.insert SDP_ANNOTATION_CLIENT_DEVICE_ID environment.clientDeviceId.toString <|
      AList.insert SDP_INJECTOR_ANNOTATION_ENABLED enabled <|
      AList.insert SDP_INJECTOR_ANNOTATION_STRATEGY (SDPInjectionStrategy.toString strategy) pod.annotations }

@[simp] theorem annotation_podName_patch (environment : ServiceEnvironment) (pod : Pod) :
    annotationOf (patchAnnotations environment pod) SDP_INJECTOR_ANNOTATION_POD_NAME = some environment.podName := by
  simp [annotationOf, Annotated.annotations, patchAnnotations]

@[simp] theorem annotation_deviceId_patch (environment : ServiceEnvironment) (pod : Pod) :
    annotationOf (patchAnnotations environment pod) SDP_ANNOTATION_CLIENT_DEVICE_ID =
      some environment.clientDeviceId.toString := by
  simp [annotationOf, Annotated.annotations, patchAnnotations,
    SDP_ANNOTATION_CLIENT_DEVICE_ID, SDP_INJECTOR_ANNOTATION_POD_NAME, SDP_INJECTOR_ANNOTATION_SERVICE_ID,
    SDP_INJECTOR_ANNOTATION_SERVICE_NAME]

/-- A pod with the annotations of the injector. -/
structure InjectedPod where
  object : Pod
  ns : String
  name : String
  deviceId : Uuid
  hNs : object.ns = some ns
  hName : annotationOf object SDP_INJECTOR_ANNOTATION_POD_NAME = some name
  hDeviceId : annotationOf object SDP_ANNOTATION_CLIENT_DEVICE_ID = some deviceId.toString
deriving DecidableEq

namespace InjectedPod

def serviceId (p : InjectedPod) : String := formatServiceId p.ns p.name

/-- An update of the object that leaves its metadata alone. -/
def withStatus (p : InjectedPod) (status : Option PodStatus) : InjectedPod :=
  { p with object := p.object.withStatus status }

def isEvicted (status : Option PodStatus) : Bool := (status.bind PodStatus.reason) = some "Evicted"

/-- A pod of the namespace is patched. -/
def inject (environment : ServiceEnvironment) (ns : String) (pod : Pod) (hNs : pod.ns = some ns) : InjectedPod where
  object := patchAnnotations environment pod
  ns := ns
  name := environment.podName
  deviceId := environment.clientDeviceId
  hNs := hNs
  hName := annotation_podName_patch environment pod
  hDeviceId := annotation_deviceId_patch environment pod

/-- The message that gives the device id back. -/
def release (p : InjectedPod) : IdentityManagerProtocol := .releaseDeviceId (.new p.ns p.name none) p.deviceId

variable {parseStr : String → Option Uuid}

theorem deviceIdReleaseMessage_eq (hParse : ∀ d : Uuid, parseStr d.toString = some d)
    (random : Uuid) (p : InjectedPod) :
    PodWatcher.deviceIdReleaseMessage parseStr p.object p.ns (p.object.namedName random) =
      if Candidate.isCandidate p.object then some p.release else none := by
  have hNamed : p.object.namedName random = p.name := by rw [Pod.namedName, p.hName, Option.getD_some]
  simp [PodWatcher.deviceIdReleaseMessage, p.hDeviceId, hParse, hNamed, release]

/-- An update releases the device id only if it reports that the pod is evicted. -/
theorem reapplied_eq (hParse : ∀ d : Uuid, parseStr d.toString = some d) (random : Uuid) (p : InjectedPod) :
    PodWatcher.reapplied parseStr random p.object =
      if isEvicted p.object.status = true ∧ Candidate.isCandidate p.object = true then some p.release else none := by
  simp only [PodWatcher.reapplied, p.hNs]
  cases hStatus : p.object.status with
  | none => simp [isEvicted]
  | some status =>
    simp only [Option.bind_some, deviceIdReleaseMessage_eq hParse, isEvicted, decide_eq_true_eq]
    by_cases hReason : status.reason = some "Evicted" <;> simp [hReason]

theorem deleted_eq (hParse : ∀ d : Uuid, parseStr d.toString = some d) (random : Uuid) (p : InjectedPod) :
    PodWatcher.deleted parseStr random p.object = if Candidate.isCandidate p.object then some p.release else none := by
  simp only [PodWatcher.deleted, p.hNs]
  exact deviceIdReleaseMessage_eq hParse random p

end InjectedPod

end SdpK8sInjector.Injector
