import SdpK8sInjector.Common.Injection

/-! # Pods

The name of a pod is that of its service. The random names are given by the caller.
-/

namespace SdpK8sInjector.Common

open Lib

def SDP_INJECTOR_ANNOTATION_SERVICE_ID : String := "k8s.appgate.com/sdp-injector.service-id"

def SDP_INJECTOR_ANNOTATION_SERVICE_NAME : String := "k8s.appgate.com/sdp-injector.service-name"

def SDP_INJECTOR_ANNOTATION_POD_NAME : String := "k8s.appgate.com/sdp-injector.pod-name"

def SDP_ANNOTATION_CLIENT_DEVICE_ID : String := "k8s.appgate.com/sdp-injector.device-id"

def SDP_INJECTOR_ANNOTATION_CLIENT_VERSION : String := "k8s.appgate.com/sdp-injector.client-version"

def SDP_INJECTOR_ANNOTATION_DISABLE_INIT_CONTAINERS : String := "k8s.appgate.com/sdp-injector.disable-init-containers"

def SDP_ANNOTATION_CLIENT_CONFIG : String := "k8s.appgate.com/sdp-injector.client-config"

def SDP_ANNOTATION_CLIENT_SECRETS : String := "k8s.appgate.com/sdp-injector.client-secrets"

def SDP_ANNOTATION_DNS_SEARCHES : String := "k8s.appgate.com/sdp-injector.dns-searches"

structure PodStatus where
  reason : Option String
deriving DecidableEq

structure Pod where
  name : Option String
  generateName : Option String
  ns : Option String
  annotations : HashMap String String
  status : Option PodStatus
deriving DecidableEq

instance : Annotated Pod := ⟨fun pod => some pod.annotations⟩

instance : Candidate Pod := ⟨needsInjection⟩

instance : MaybeNamespaced Pod := ⟨Pod.ns⟩

/-- The last two parts of a generated name are those of the replica set and of the pod. -/
def Pod.namedName (random : Uuid) (pod : Pod) : String :=
  (annotationOf pod SDP_INJECTOR_ANNOTATION_POD_NAME).getD <|
    match pod.generateName with
    | some generateName =>
      let xs := generateName.splitOn "-"
      if 2 < xs.length then "-".intercalate (xs.take (xs.length - 2)) else random.toString
    | none => pod.name.getD random.toString

/-- `MaybeService::service_id` -/
def Pod.serviceId (random : Uuid) (pod : Pod) : Except SDPServiceError String :=
  letI : Named Pod := ⟨Pod.namedName random⟩
  MaybeService.serviceId pod

/-- `MaybeService::service_name` -/
def Pod.serviceName (random : Uuid) (pod : Pod) : Except SDPServiceError String :=
  letI : Named Pod := ⟨Pod.namedName random⟩
  MaybeService.serviceName pod

theorem Pod.serviceId_eq_ok {random : Uuid} {pod : Pod} {id : String} :
    pod.serviceId random = .ok id ↔ ∃ ns, pod.ns = some ns ∧ id = formatServiceId ns (pod.namedName random) := by
  let _ : Named Pod := ⟨Pod.namedName random⟩
  exact MaybeService.serviceId_eq_ok

def Pod.withStatus (pod : Pod) (status : Option PodStatus) : Pod := { pod with status := status }

end SdpK8sInjector.Common
