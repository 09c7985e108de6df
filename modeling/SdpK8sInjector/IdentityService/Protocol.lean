import SdpK8sInjector.Common.Service

/-! # Messages of the identity service

The IdentityManager receives from the watchers, from the IdentityCreator and
from itself. The IdentityCreator receives from the IdentityManager only.
-/

namespace SdpK8sInjector.IdentityService

open Lib Common

inductive IdentityManagerProtocol where
  | requestServiceIdentity (candidate : ServiceCandidate)
  | deleteServiceIdentity (identity : ServiceIdentity)
  | foundServiceCandidate (candidate : ServiceCandidate)
  | deletedServiceCandidate (candidate : ServiceCandidate)
  | foundServiceUser (user : ServiceUser) (activated : Bool)
  | identityCreatorReady
  | deploymentWatcherReady
  | identityManagerInitialized
  | identityManagerStarted
  | identityManagerReady
  | identityManagerDebug (text : String)
  | activatedServiceUser (user : ServiceUser) (serviceNs serviceName : String)
  | releaseDeviceId (lookup : ServiceLookup) (uuid : Uuid)
deriving DecidableEq

inductive IdentityCreatorProtocol where
  | startService
  | createIdentity
  | activateServiceUser (user : ServiceUser) (clusterId serviceNs serviceName : String) (labels : Labels)
  | deleteServiceUser (user : ServiceUser) (serviceNs serviceName : String)
  | deleteSDPUser (sdpUserId : String)
  | reconcileSDPUsers (names : HashSet String)
  | releaseDeviceId (user : ServiceUser) (deviceId : Uuid)
deriving DecidableEq

inductive ServiceCandidateWatcherProtocol where
  | identityManagerReady
deriving DecidableEq

end SdpK8sInjector.IdentityService
