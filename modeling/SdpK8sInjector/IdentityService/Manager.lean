import SdpK8sInjector.IdentityService.Api
import SdpK8sInjector.IdentityService.Protocol
import SdpK8sInjector.IdentityService.Provider
import SdpK8sInjector.Lib.Channel

/-! # The IdentityManager and its message handlers

A handler is a function of the state. `outcomes` says which API calls fail, and
`order` in which order the hash maps are walked. Sends never fail, since the
receivers live as long as the process.
-/

namespace SdpK8sInjector.IdentityService

open Lib Common

def N_WATCHERS : UInt8 := 2

structure IdentityManager where
  clusterId : String
  serviceIdentityApi : ServiceIdentityAPI
  serviceCredentialsProvider : ServiceCredentialsProvider
  identityManagerQueue : Channel IdentityManagerProtocol
  identityCreatorQueue : Channel IdentityCreatorProtocol
  serviceCandidateWatcherProto : List ServiceCandidateWatcherProtocol
  existingServiceCandidates : HashSet String
  missingServiceCandidates : HashMap String ServiceCandidate
  existingActivatedCredentials : HashSet String
  existingDeactivatedCredentials : HashSet String
  identityCreatorReady : Bool
  deploymentWatchersReady : UInt8
  /-- The services that were told that the pool of identities seems to be empty. -/
  emptyPoolErrors : List String
deriving DecidableEq

namespace IdentityManager

def new (clusterId : String) (api : ServiceIdentityAPI) : IdentityManager where
  clusterId := clusterId
  serviceIdentityApi := api
  serviceCredentialsProvider := .default
  identityManagerQueue := .empty
  identityCreatorQueue := .empty
  serviceCandidateWatcherProto := []
  existingServiceCandidates := ∅
  missingServiceCandidates := ∅
  existingActivatedCredentials := ∅
  existingDeactivatedCredentials := ∅
  identityCreatorReady := false
  deploymentWatchersReady := 0
  emptyPoolErrors := []

abbrev identities (m : IdentityManager) : HashMap String ServiceIdentity :=
  m.serviceCredentialsProvider.services

abbrev pool (m : IdentityManager) : List ServiceUser := m.serviceCredentialsProvider.pool

def sendToCreator (m : IdentityManager) (msg : IdentityCreatorProtocol) : IdentityManager :=
  { m with identityCreatorQueue := m.identityCreatorQueue.send msg }

def sendToSelf (m : IdentityManager) (msg : IdentityManagerProtocol) : IdentityManager :=
  { m with identityManagerQueue := m.identityManagerQueue.send msg }

def registerOrUpdateIdentity (m : IdentityManager) (identity : ServiceIdentity) : IdentityManager :=
  { m with
    serviceCredentialsProvider := m.serviceCredentialsProvider.registerOrUpdateIdentity identity }

def unregisterIdentity (m : IdentityManager) (identity : ServiceIdentity) : IdentityManager :=
  { m with serviceCredentialsProvider := m.serviceCredentialsProvider.unregisterIdentity identity }

/-- `initialize`: the listed objects are registered and the IdentityCreator is asked to start. -/
def initializeFrom (m : IdentityManager) (restored : List ServiceIdentity) : IdentityManager :=
  (restored.foldl registerOrUpdateIdentity m).sendToCreator .startService

/-- A manager that has restored the identities stored in the API. -/
def restored (clusterId : String) (stored : List ServiceIdentity) : IdentityManager :=
  (new clusterId ⟨.holding stored, 0, []⟩).initializeFrom stored

section Handlers

variable (outcomes : Nat → CallOutcome) (order : IterationOrder)

/-- The message that gives up the user of a deleted identity. -/
def deletionOf (identity : ServiceIdentity) : IdentityCreatorProtocol :=
  .deleteServiceUser identity.credentials (Namespaced.ns identity) (Named.name identity)

/-- `ServiceIdentityAPI::delete`: the user is given up only once its object is deleted. -/
def delete (identity : ServiceIdentity) (m : IdentityManager) : Except ApiError Unit × IdentityManager :=
  match m.serviceIdentityApi.delete outcomes identity with
  | (.error e, api) => (.error e, { m with serviceIdentityApi := api })
  | (.ok (), api) =>
    (.ok (), { m with serviceIdentityApi := api }.sendToCreator (deletionOf identity))

def deleteServiceIdentity (identity : ServiceIdentity) (m : IdentityManager) : IdentityManager :=
  match m.delete outcomes identity with
  | (.error _, m) => m
  | (.ok (), m) => m.unregisterIdentity identity

def requestServiceIdentity (candidate : ServiceCandidate) (m : IdentityManager) : IdentityManager :=
  match MaybeService.serviceId candidate, ServiceLookup.tryFromService candidate, candidate.labels with
  | .ok serviceId, .ok lookup, .ok labels =>
    match m.serviceCredentialsProvider.nextIdentity lookup with
    | (some (identity, true), provider) =>
      match m.serviceIdentityApi.create outcomes identity with
      | (.ok identity, api) =>
        let m := { m with serviceCredentialsProvider := provider, serviceIdentityApi := api }
        let m := if provider.needsNewCredentials then m.sendToCreator .createIdentity else m
        m.sendToCreator (.activateServiceUser identity.credentials m.clusterId
          (Namespaced.ns identity) (Named.name identity) labels)
      | (.error _, api) => { m with serviceCredentialsProvider := provider, serviceIdentityApi := api }
    | (some (_, false), _) => m
    | (none, _) => { m with emptyPoolErrors := m.emptyPoolErrors ++ [serviceId] }
  -- without a namespace there is no service id; with one, the other two exist as well
  | _, _, _ => m

def foundServiceCandidate (candidate : ServiceCandidate) (m : IdentityManager) : IdentityManager :=
  match MaybeService.serviceId candidate, ServiceLookup.tryFromService candidate with
  | .ok serviceId, .ok lookup =>
    match m.serviceCredentialsProvider.identity lookup with
    | some _ =>
      { m with existingServiceCandidates := AList.insert serviceId () m.existingServiceCandidates }
    | none =>
      { m with missingServiceCandidates := AList.insert serviceId candidate m.missingServiceCandidates }
  | _, _ => m

def foundServiceUser (user : ServiceUser) (activated : Bool) (m : IdentityManager) : IdentityManager :=
  if !activated then
    { m with
      existingDeactivatedCredentials := AList.insert user.id () m.existingDeactivatedCredentials
      serviceCredentialsProvider := m.serviceCredentialsProvider.push user }
  else
    { m with existingActivatedCredentials := AList.insert user.id () m.existingActivatedCredentials }

def activatedServiceUser (user : ServiceUser) (serviceNs serviceName : String) (m : IdentityManager) :
    IdentityManager :=
  match m.serviceCredentialsProvider.identity (.new serviceNs serviceName none) with
  | some identity =>
    let identity := identity.withUser user
    -- a failed update is logged and the new user is registered all the same
    { m with serviceIdentityApi := (m.serviceIdentityApi.update outcomes identity).2 }.registerOrUpdateIdentity
      identity
  | none => m

def identityCreatorReadyHandler (m : IdentityManager) : IdentityManager :=
  let m := { m with identityCreatorReady := true }
  if m.deploymentWatchersReady = N_WATCHERS then m.sendToSelf .identityManagerReady else m

def deploymentWatcherReady (m : IdentityManager) : IdentityManager :=
  let m : IdentityManager := { m with deploymentWatchersReady := m.deploymentWatchersReady + 1 }
  if m.deploymentWatchersReady = N_WATCHERS ∧ m.identityCreatorReady = true then
    m.sendToSelf .identityManagerReady
  else m

/-- Step 1: identities with an unknown candidate. Returns the ids of what was removed as well. -/
def deleteExtraServiceIdentities (m : IdentityManager) : IdentityManager × HashSet String :=
  (order.walk (m.serviceCredentialsProvider.extraServiceIdentities m.existingServiceCandidates)).foldl
    (fun (m, removed) identity =>
      (m.deleteServiceIdentity outcomes identity, AList.insert (Service.serviceId identity) () removed))
    (m, ∅)

/-- Step 2: activated users that no identity holds. -/
def deleteOrphanServiceUsers (m : IdentityManager) : IdentityManager :=
  (order.walk (m.serviceCredentialsProvider.orphanServiceUsers m.existingActivatedCredentials)).foldl
    (fun m id => m.sendToCreator (.deleteSDPUser id)) m

/-- Step 3: identities that hold a deactivated user, except what step 1 removed. -/
def deleteOrphanServiceIdentities (m : IdentityManager) (removed : HashSet String) :
    IdentityManager × HashSet String :=
  (order.walk
    (m.serviceCredentialsProvider.orphanServiceIdentities m.existingDeactivatedCredentials)).foldl
    (fun (m, removed) identity =>
      if Service.serviceId identity ∈ removed then (m, removed)
      else (m.deleteServiceIdentity outcomes identity, AList.insert (Service.serviceId identity) () removed))
    (m, removed)

def reconcile (m : IdentityManager) : IdentityManager :=
  let (m, removed) := m.deleteExtraServiceIdentities outcomes order
  let m := m.deleteOrphanServiceUsers order
  let (m, _) := m.deleteOrphanServiceIdentities outcomes order removed
  m.sendToCreator (.reconcileSDPUsers
    (HashSet.ofList (m.serviceCredentialsProvider.identities.map fun s => s.credentials.name)))

def requestMissing (m : IdentityManager) : IdentityManager :=
  (order.walk (HashMap.values m.missingServiceCandidates)).foldl
    (fun m candidate => m.requestServiceIdentity outcomes candidate) m

def identityManagerReady (m : IdentityManager) : IdentityManager :=
  let m := (m.reconcile outcomes order).requestMissing outcomes order
  { m with serviceCandidateWatcherProto := m.serviceCandidateWatcherProto ++ [.identityManagerReady] }

def deletedServiceCandidate (candidate : ServiceCandidate) (m : IdentityManager) : IdentityManager :=
  match ServiceLookup.tryFromService candidate with
  | .ok lookup =>
    match m.serviceCredentialsProvider.identity lookup with
    | some identity => m.sendToSelf (.deleteServiceIdentity identity)
    | none => m
  | .error _ => m

/-- The id is recorded where the list of device ids is present and does not have it yet. -/
def recordDeviceId (uuid : Uuid) (identity : ServiceIdentity) : ServiceIdentity :=
  match identity.spec.serviceUser.deviceIds with
  | some ids =>
    if uuid.toString ∈ ids then identity
    else identity.withUser { identity.spec.serviceUser with deviceIds := some (ids ++ [uuid.toString]) }
  | none => identity

def releaseDeviceId (lookup : ServiceLookup) (uuid : Uuid) (m : IdentityManager) : IdentityManager :=
  match m.serviceCredentialsProvider.identity lookup with
  | some identity =>
    let identity := recordDeviceId uuid identity
    -- the entry is changed in place, whatever becomes of the update
    let m := m.registerOrUpdateIdentity identity
    match m.serviceIdentityApi.update outcomes identity with
    | (.ok _, api) =>
      { m with serviceIdentityApi := api }.sendToCreator (.releaseDeviceId identity.credentials uuid)
    | (.error _, api) => { m with serviceIdentityApi := api }
  | none => m

/-- One turn of `IdentityManagerRunner::run`. -/
def handle (msg : IdentityManagerProtocol) (m : IdentityManager) : IdentityManager :=
  match msg with
  | .deleteServiceIdentity identity => m.deleteServiceIdentity outcomes identity
  | .requestServiceIdentity candidate => m.requestServiceIdentity outcomes candidate
  | .foundServiceCandidate candidate => m.foundServiceCandidate candidate
  | .foundServiceUser user activated => m.foundServiceUser user activated
  | .activatedServiceUser user serviceNs serviceName =>
    m.activatedServiceUser outcomes user serviceNs serviceName
  | .identityCreatorReady => m.identityCreatorReadyHandler
  | .deploymentWatcherReady => m.deploymentWatcherReady
  | .identityManagerReady => m.identityManagerReady outcomes order
  | .deletedServiceCandidate candidate => m.deletedServiceCandidate candidate
  | .releaseDeviceId lookup uuid => m.releaseDeviceId outcomes lookup uuid
  | .identityManagerInitialized | .identityManagerStarted | .identityManagerDebug _ => m

end Handlers

/-- What can happen to the manager: a message arrives, or it handles the next one. -/
inductive Event where
  | arrive (msg : IdentityManagerProtocol)
  | handle (order : IterationOrder)

def next (outcomes : Nat → CallOutcome) (m : IdentityManager) : Event → Option IdentityManager
  | .arrive msg => some (m.sendToSelf msg)
  | .handle order =>
    m.identityManagerQueue.recv.map fun (msg, queue) =>
      handle outcomes order msg { m with identityManagerQueue := queue }

end IdentityManager

end SdpK8sInjector.IdentityService
