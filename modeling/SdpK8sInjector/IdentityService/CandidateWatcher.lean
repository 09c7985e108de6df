import SdpK8sInjector.Common.Cluster
import SdpK8sInjector.IdentityService.Protocol

/-! # The protocol of the watchers of service candidates

Deployments and SDP services share it. A candidate has to be annotated, in a
namespace that is enabled.
-/

namespace SdpK8sInjector.IdentityService

open Lib Common

class ServiceCandidateProtocol (E : Type) where
  serviceCandidate : E → ServiceCandidate

namespace ServiceCandidateProtocol

variable {E : Type} [ServiceCandidateProtocol E]

/-- The service id, if there is one. Without a namespace the object is logged and ignored. -/
def whenOk {α : Type} (e : E) (result : Option α) : Option α :=
  match MaybeService.serviceId (serviceCandidate e) with
  | .ok _ => result
  | .error _ => none

def isEnabled (e : E) (ns : Option Namespace) : Bool :=
  ns.any Namespace.isEnabled && Candidate.isCandidate (serviceCandidate e)

def initialized (e : E) (ns : Option Namespace) : Option IdentityManagerProtocol :=
  whenOk e (if isEnabled e ns then some (.foundServiceCandidate (serviceCandidate e)) else none)

def applied (e : E) (ns : Option Namespace) : Option IdentityManagerProtocol :=
  whenOk e (if isEnabled e ns then some (.requestServiceIdentity (serviceCandidate e)) else none)

def reapplied (_ : E) (_ : Option Namespace) : Option IdentityManagerProtocol := none

def deleted (e : E) (ns : Option Namespace) : Option IdentityManagerProtocol :=
  whenOk e (if isEnabled e ns then some (.deletedServiceCandidate (serviceCandidate e)) else none)

def key (e : E) : Option String := (MaybeService.serviceId (serviceCandidate e)).toOption

end ServiceCandidateProtocol

instance {E : Type} [ServiceCandidateProtocol E] : SimpleWatchingProtocol E IdentityManagerProtocol where
  initialized := ServiceCandidateProtocol.initialized
  applied := ServiceCandidateProtocol.applied
  reapplied := ServiceCandidateProtocol.reapplied
  deleted := ServiceCandidateProtocol.deleted
  key := ServiceCandidateProtocol.key
  objectNs e := (ServiceCandidateProtocol.serviceCandidate e).metadata.ns

instance : ServiceCandidateProtocol SDPService := ⟨.sdpService⟩

instance : ServiceCandidateProtocol Deployment := ⟨.deployment⟩

/-- Both watchers look up namespaces, and each one announces that it has listed its objects. -/
def candidateWatcher : WatcherConfig IdentityManagerProtocol where
  apiNs := true
  notificationMessage := some .deploymentWatcherReady

section Samples

open Cluster

def sampleDeployment : Deployment := ⟨⟨"web", by decide, some "ns", ∅, ∅⟩⟩

/-- A cluster with one namespace, `ns`, where the injection is enabled. -/
def sampleCluster : Cluster Deployment IdentityManagerProtocol :=
  .start (AList.singleton "ns" ⟨AList.singleton SDP_INJECTOR_LABEL "enabled"⟩)

def sampleWatched (events : List (ClusterEvent Deployment)) : Cluster Deployment IdentityManagerProtocol :=
  runD (next (fun _ => .delivered) candidateWatcher) sampleCluster events

/-- The deployment is there when the objects are listed, and goes while the stream is open. -/
def sampleSeen : List (ClusterEvent Deployment) :=
  [.create sampleDeployment, .list, .listed, .notify, .openStream, .event, .event, .event, .delete 0, .event]

theorem watch_loses_nothing_sample : (sampleWatched sampleSeen).NothingLost candidateWatcher := by
  have hRun : Steps (next (fun _ => .delivered) candidateWatcher) (Undisturbed (fun _ => .delivered) candidateWatcher)
      sampleCluster (sampleWatched sampleSeen) := Steps.of_runD sampleSeen (by decide) (by decide)
  exact watch_loses_nothing hRun (by decide)

/-- The deployment comes after the list and before the stream is opened. -/
def sampleMissed : List (ClusterEvent Deployment) :=
  [.list, .notify, .create sampleDeployment, .openStream, .event, .event, .event]

theorem created_before_stream_lost :
    Steps (next (fun _ => .delivered) candidateWatcher) (fun _ _ => True) sampleCluster (sampleWatched sampleMissed) ∧
      (sampleWatched sampleMissed).phase = .streaming [] ∧
      ¬(sampleWatched sampleMissed).NothingLost candidateWatcher := by
  refine ⟨Steps.of_runD sampleMissed (by decide) (by decide), by decide, fun h => ?_⟩
  have hAnnounced := h.announced ⟨0, sampleDeployment⟩ (by decide) (by decide)
  exact absurd hAnnounced (by decide)

end Samples

end SdpK8sInjector.IdentityService
