import SdpK8sInjector.Common.Names
import SdpK8sInjector.Common.Secrets
import SdpK8sInjector.Common.System
import SdpK8sInjector.IdentityService.Protocol

/-! # The IdentityCreator

What it sends to the IdentityManager goes to `outbox` and is sent from there one
message at a time. The secrets and config maps of single services are written
last and read by nobody here; `handleAccounts` says what becomes of them.
-/

namespace SdpK8sInjector.IdentityService

open Lib Common

inductive IdentityServiceError where
  | system (e : SDPClientError)
  | secret (e : SecretError)
  | text (s : String)
deriving DecidableEq

/-- What the creator meets outside: which calls fail, and what chance and the controller decide. -/
structure Surroundings where
  systemOutcomes : Nat → CallOutcome
  secretOutcomes : Nat → CallOutcome
  /-- The URL of the client profile of the cluster at each time that it is asked for. -/
  clientProfileUrl : Nat → Except SDPClientError String
  newV4 : Nat → Uuid
  randomSuffix : Nat → String
  parseUuid : String → Option Uuid
  matchesUsername : String → String → Bool

inductive CreatorStatus where
  | waiting
  | running
  | panicked
deriving DecidableEq, Repr

structure IdentityCreator where
  system : System
  secret : SecretApi
  serviceUsersPoolSize : Nat
  profileRequests : Nat
  drawn : Nat
  status : CreatorStatus
  outbox : List IdentityManagerProtocol
deriving DecidableEq

namespace IdentityCreator

def new (system : System) (secret : SecretApi) (serviceUsersPoolSize : Nat) : IdentityCreator where
  system := system
  secret := secret
  serviceUsersPoolSize := serviceUsersPoolSize
  profileRequests := 0
  drawn := 0
  status := .waiting
  outbox := []

variable (env : Surroundings)

def draw (c : IdentityCreator) : Uuid × IdentityCreator :=
  (env.newV4 c.drawn, { c with drawn := c.drawn + 1 })

def getClientProfileUrl (c : IdentityCreator) : Except IdentityServiceError String × IdentityCreator :=
  ((env.clientProfileUrl c.profileRequests).mapError .system, { c with profileRequests := c.profileRequests + 1 })

def sendToManager (c : IdentityCreator) (msg : IdentityManagerProtocol) : IdentityCreator :=
  { c with outbox := c.outbox ++ [msg] }

def createUser (c : IdentityCreator) : Except IdentityServiceError ServiceUser × IdentityCreator :=
  let (id, c) := c.draw env
  let (password, c) := c.draw env
  let sdpUser := SDPUser.new password.toString id.toString none none
  match c.getClientProfileUrl env with
  | (.error e, c) => (.error e, c)
  | (.ok profileUrl, c) =>
    match c.system.createUser env.systemOutcomes sdpUser with
    | (.error e, system) => (.error (.system e), { c with system := system })
    | (.ok created, system) =>
      let c := { c with system := system }
      match ServiceUser.fromSdpUser created profileUrl none (some []) with
      | some serviceUser =>
        match serviceUser.updateSecretsFields env.secretOutcomes c.secret IDENTITY_MANAGER_SECRET_NAME false with
        | (.ok (), secret) => (.ok serviceUser, { c with secret := secret })
        | (.error e, secret) => (.error (.secret e), { c with secret := secret })
      | none => (.error (.text "Unable to create ServiceUser from SDPUser (missing password?)"), c)

/-- The secret fields go first, and only if the given user carries a password. -/
def deleteSdpUser (sdpUser : SDPUser) (c : IdentityCreator) :
    Except IdentityServiceError Unit × IdentityCreator :=
  let (cleared, c) : Except SecretError Unit × IdentityCreator :=
    match ServiceUser.fromSdpUser sdpUser "" none (some []) with
    | some serviceUser =>
      let (result, secret) :=
        serviceUser.deleteSecretsFields env.secretOutcomes c.secret IDENTITY_MANAGER_SECRET_NAME
      (result, { c with secret := secret })
    | none => (.ok (), c)
  match cleared with
  | .error e => (.error (.secret e), c)
  | .ok () =>
    -- a failure to release the devices is logged
    let (_, system) := c.system.unregisterDeviceIdsForUsername env.systemOutcomes env.matchesUsername
      sdpUser.prefixName none none none false
    let (result, system) := system.deleteUser env.systemOutcomes sdpUser.id
    (result.mapError .system, { c with system := system })

def recoverSdpUser (sdpUser : SDPUser) (clientProfileUrl : String) (deviceIds : List Uuid) (c : IdentityCreator) :
    Option ServiceUser × IdentityCreator :=
  let (password, c) := c.draw env
  match ServiceUser.fromSdpUser sdpUser clientProfileUrl (some password.toString)
      (some (deviceIds.map Uuid.toString)) with
  | some serviceUser =>
    let (restored, secret) := serviceUser.restore env.secretOutcomes c.secret IDENTITY_MANAGER_SECRET_NAME
    (restored, { c with secret := secret })
  -- unreachable: a password was given
  | none => (none, c)

def cleanupSecretEntries (knownFields : HashSet String) (c : IdentityCreator) :
    Except IdentityServiceError Unit × IdentityCreator :=
  match c.secret.call env.secretOutcomes .transport Secret.get with
  | (.error e, secret) => (.error (.secret e), { c with secret := secret })
  | (.ok stored, secret) =>
    let c := { c with secret := secret }
    match stored.data with
    | some data =>
      let patches := data.keys.filter (· ∉ knownFields)
      if patches.isEmpty then (.ok (), c)
      else
        let (result, secret) := c.secret.call env.secretOutcomes .transport (Secret.remove patches)
        (result.mapError .secret, { c with secret := secret })
    | none => (.ok (), c)

/-- What `initialize` carries from one listed user to the next. -/
structure Recovery where
  creator : IdentityCreator
  missingUsers : Nat
  knownServiceUsers : HashSet String

def recoverUser (clientProfileUrl : String) (r : Recovery) (sdpUser : SDPUser) : Recovery :=
  let (devices, system) :=
    r.creator.system.getRegisteredDeviceIdsForUser env.systemOutcomes env.matchesUsername sdpUser
  let deviceIds := (devices.toOption.getD []).filterMap fun u => env.parseUuid u.deviceId
  let c := { r.creator with system := system }
  match c.recoverSdpUser env sdpUser clientProfileUrl deviceIds with
  | (some serviceUser, c) =>
    let activated := !sdpUser.disabled
    { creator := c.sendToManager (.foundServiceUser serviceUser activated)
      missingUsers := if !activated ∧ r.missingUsers > 0 then r.missingUsers - 1 else r.missingUsers
      knownServiceUsers := AList.insert (serviceUser.secretsFieldNames false).2.1 () r.knownServiceUsers }
  | (none, c) => { r with creator := (c.deleteSdpUser env sdpUser).2 }

def createMissingUsers : Nat → IdentityCreator → Except IdentityServiceError Unit × IdentityCreator
  | 0, c => (.ok (), c)
  | n + 1, c =>
    match c.createUser env with
    | (.error e, c) => (.error e, c)
    | (.ok serviceUser, c) => createMissingUsers n (c.sendToManager (.foundServiceUser serviceUser false))

/-- The second half of `initialize`: old entries leave the secret, and the pool is filled up. -/
def fillPool (r : Recovery) : Except IdentityServiceError Unit × IdentityCreator :=
  match r.creator.cleanupSecretEntries env r.knownServiceUsers with
  | (.error e, c) => (.error e, c)
  | (.ok (), c) => createMissingUsers env r.missingUsers c

def initializeFrom (c : IdentityCreator) : Except IdentityServiceError String × IdentityCreator :=
  match c.system.getUsers env.systemOutcomes with
  | (.error e, system) => (.error (.system e), { c with system := system })
  | (.ok users, system) =>
    match { c with system := system }.getClientProfileUrl env with
    | (.error e, c) => (.error e, c)
    | (.ok clientProfileUrl, c) =>
      let (result, c) :=
        fillPool env (users.foldl (recoverUser env clientProfileUrl) ⟨c, c.serviceUsersPoolSize, ∅⟩)
      (result.map fun _ => clientProfileUrl, c)

def activateServiceUser (serviceUser : ServiceUser) (clusterId serviceNs serviceName : String) (labels : Labels)
    (c : IdentityCreator) : IdentityCreator :=
  match getServiceUsername (env.randomSuffix c.drawn) clusterId serviceNs serviceName with
  | none => { c with status := .panicked }
  | some name =>
    let c := { c with drawn := c.drawn + 1 }
    let sdpUser := { SDPUser.ofServiceUser serviceUser with disabled := false, labels := labels, name := name }
    let (existing, system) := c.system.getUser env.systemOutcomes serviceUser.id
    let sdpUser := match existing with
      | .ok existing => { sdpUser with tags := existing.tags }
      | .error _ => sdpUser
    -- a failure to activate is logged
    let (_, system) := system.modifyUser env.systemOutcomes sdpUser
    { c with system := system }.sendToManager
      (.activatedServiceUser { serviceUser with name := name } serviceNs serviceName)

def reconcileSDPUsers (order : IterationOrder) (sdpUsers : HashSet String) (c : IdentityCreator) : IdentityCreator :=
  (order.walk sdpUsers.keys).foldl (fun c name =>
    let (password, c) := c.draw env
    let sdpUserName := (SDPUser.new password.toString name (some name) (some false)).prefixName
    let (_, system) := c.system.unregisterDeviceIdsForUsername env.systemOutcomes env.matchesUsername
      sdpUserName (some sdpUsers) none none false
    { c with system := system }) c

/-- One turn of the second loop of `IdentityCreator::run`. Errors are logged. -/
def handle (order : IterationOrder) (msg : IdentityCreatorProtocol) (c : IdentityCreator) : IdentityCreator :=
  match msg with
  | .createIdentity =>
    match c.createUser env with
    | (.ok serviceUser, c) => c.sendToManager (.foundServiceUser serviceUser false)
    | (.error _, c) => c
  | .deleteServiceUser serviceUser _ _ =>
    let (password, c) := c.draw env
    (c.deleteSdpUser env (.new password.toString serviceUser.id (some serviceUser.name) none)).2
  | .activateServiceUser serviceUser clusterId serviceNs serviceName labels =>
    c.activateServiceUser env serviceUser clusterId serviceNs serviceName labels
  | .deleteSDPUser sdpUserId =>
    let (password, c) := c.draw env
    (c.deleteSdpUser env (.new password.toString sdpUserId none none)).2
  | .reconcileSDPUsers sdpUsers => c.reconcileSDPUsers env order sdpUsers
  | .releaseDeviceId serviceUser deviceId =>
    let (password, c) := c.draw env
    let (_, system) := c.system.unregisterDeviceIdForUser env.systemOutcomes
      (.new password.toString serviceUser.id (some serviceUser.name) none) deviceId false
    { c with system := system }
  | .startService => c

/-- Before `StartService` every other message is dropped. -/
def receive (order : IterationOrder) (msg : IdentityCreatorProtocol) (c : IdentityCreator) : IdentityCreator :=
  match c.status, msg with
  | .waiting, .startService =>
    match c.initializeFrom env with
    | (.ok _, c) => { c with status := .running }.sendToManager .identityCreatorReady
    | (.error _, c) => { c with status := .panicked }
  | .waiting, _ => c
  | .running, msg => c.handle env order msg
  | .panicked, _ => c

end IdentityCreator

end SdpK8sInjector.IdentityService
