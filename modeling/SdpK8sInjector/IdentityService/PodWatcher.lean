import SdpK8sInjector.Common.Pods
import SdpK8sInjector.Common.Watcher
import SdpK8sInjector.IdentityService.Protocol

/-! # The watcher of pods

A pod that is evicted gives its device id back, and so does a pod that is deleted.
-/

namespace SdpK8sInjector.IdentityService.PodWatcher

open Lib Common

-- `Uuid::parse_str`, and the name of a pod that has none
variable (parseStr : String → Option Uuid) (random : Uuid)

def deviceIdReleaseMessage (pod : Pod) (ns name : String) : Option IdentityManagerProtocol :=
  if Candidate.isCandidate pod then
    (annotationOf pod SDP_ANNOTATION_CLIENT_DEVICE_ID).bind fun uuidStr =>
      (parseStr uuidStr).map fun uuid => .releaseDeviceId (.new ns name none) uuid
  else none

def reapplied (pod : Pod) : Option IdentityManagerProtocol :=
  match pod.ns with
  | none => none
  | some ns => pod.status.bind fun status =>
      if status.reason = some "Evicted" then deviceIdReleaseMessage parseStr pod ns (pod.namedName random) else none

def deleted (pod : Pod) : Option IdentityManagerProtocol :=
  match pod.ns with
  | none => none
  | some ns => deviceIdReleaseMessage parseStr pod ns (pod.namedName random)

@[reducible] def protocol : SimpleWatchingProtocol Pod IdentityManagerProtocol where
  initialized _ _ := none
  applied pod _ := reapplied parseStr random pod
  reapplied pod _ := reapplied parseStr random pod
  deleted pod _ := deleted parseStr random pod
  key pod := (pod.serviceId random).toOption
  objectNs := Pod.ns

/-- Whether the key of the pod is known makes no difference. -/
theorem queue_apply (w : Watching IdentityManagerProtocol) (e : Entity Pod) (ns : Option Namespace) :
    letI := protocol parseStr random
    (w.eventTurn (.apply e) ns).queue = w.queue ++ (reapplied parseStr random e.object).toList := by
  let _ := protocol parseStr random
  rw [Watching.queue_apply]
  split <;> rfl

theorem queue_delete (w : Watching IdentityManagerProtocol) (e : Entity Pod) (ns : Option Namespace) :
    letI := protocol parseStr random
    (w.eventTurn (.delete e) ns).queue = w.queue ++ (deleted parseStr random e.object).toList := by
  let _ := protocol parseStr random
  exact Watching.queue_delete w ns e

end SdpK8sInjector.IdentityService.PodWatcher
