import SdpK8sInjector.IdentityService.ServiceAccounts
import SdpK8sInjector.Injector.Handlers
import SdpK8sInjector.Injector.ServiceKeys

/-! # The credentials that a pod is given

The variables of the sidecar refer to the secret and to the config map of its service,
under names and keys that the injector makes for itself. What they come to is what the
identity service wrote under the names and keys that it makes.
-/

namespace SdpK8sInjector.Injector

open Lib Common IdentityService Provisioning

/-- What the variable is in a container that starts in the namespace, if what it refers to is there. -/
def EnvVar.valueIn (accounts : Accounts) (ns : String) (v : EnvVar) : Option String :=
  match v.valueFrom with
  | none => v.value
  | some source =>
    match source.configMapKeyRef, source.secretKeyRef with
    | some ref, _ =>
      (accounts.configMaps.store.lookup (ns, ref.name)).bind fun config => (config.data.getD ∅).lookup ref.key
    | none, some ref =>
      (accounts.secrets.store.lookup (ns, ref.name)).bind fun secret =>
        (secret.fields.lookup ref.key).bind bytesToString
    | none, none => none

/-- The variable refers to an object of the namespace. -/
def EnvVar.Refers (v : EnvVar) : Prop :=
  ∃ source, v.valueFrom = some source ∧ (source.configMapKeyRef.isSome = true ∨ source.secretKeyRef.isSome = true)

section Values

variable (accounts : Accounts) (ns : String) (envs : List EnvVar)

def valueOf (name : String) : Option String :=
  (envs.find? fun v => v.name = name).bind (EnvVar.valueIn accounts ns)

structure SeesUser (user : ServiceUser) : Prop where
  username : valueOf accounts ns envs "APPGATE_USERNAME" = some user.name
  password : valueOf accounts ns envs "APPGATE_PASSWORD" = some user.password
  profileUrl : valueOf accounts ns envs "APPGATE_PROFILE_URL" = some user.profileUrl

structure SeesNobody : Prop where
  username : valueOf accounts ns envs "APPGATE_USERNAME" = none
  password : valueOf accounts ns envs "APPGATE_PASSWORD" = none
  profileUrl : valueOf accounts ns envs "APPGATE_PROFILE_URL" = none

end Values

/-- An entry of a secret, as text. -/
def secretEntry (accounts : Accounts) (ns name key : String) : Option String :=
  (accounts.secrets.store.lookup (ns, name)).bind fun secret => (secret.fields.lookup key).bind bytesToString

namespace PodEnvironment

variable (environment : PodEnvironment) (accounts : Accounts) (ns : String)

/-- The variables of the container that connects to the system. -/
abbrev sidecarVariables : List EnvVar := environment.variables SDP_SERVICE_CONTAINER_NAME

theorem valueOf_username : valueOf accounts ns environment.sidecarVariables "APPGATE_USERNAME" =
    secretEntry accounts ns environment.clientSecretName environment.clientSecretUserKey := by
  cases hIp : environment.k8sDnsServiceIp <;>
    simp [valueOf, sidecarVariables, PodEnvironment.variables, hIp, EnvVar.ofValue,
      EnvVar.ofConfigMap, EnvVar.ofSecret] <;> rfl

theorem valueOf_password : valueOf accounts ns environment.sidecarVariables "APPGATE_PASSWORD" =
    secretEntry accounts ns environment.clientSecretName environment.clientSecretPwdKey := by
  cases hIp : environment.k8sDnsServiceIp <;>
    simp [valueOf, sidecarVariables, PodEnvironment.variables, hIp, EnvVar.ofValue,
      EnvVar.ofConfigMap, EnvVar.ofSecret] <;> rfl

theorem valueOf_profileUrl : valueOf accounts ns environment.sidecarVariables "APPGATE_PROFILE_URL" =
    secretEntry accounts ns environment.clientSecretName environment.clientSecretControllerUrlKey := by
  cases hIp : environment.k8sDnsServiceIp <;>
    simp [valueOf, sidecarVariables, PodEnvironment.variables, hIp, EnvVar.ofValue,
      EnvVar.ofConfigMap, EnvVar.ofSecret] <;> rfl

/-- Four of the variables refer to objects. -/
theorem eq_of_refers {v : EnvVar} (hv : v ∈ environment.sidecarVariables) (hRefers : EnvVar.Refers v) :
    v = EnvVar.ofConfigMap "APPGATE_LOGLEVEL" environment.clientConfig ∨
      v = EnvVar.ofSecret "APPGATE_PROFILE_URL" environment.clientSecretName
      environment.clientSecretControllerUrlKey ∨
      v = EnvVar.ofSecret "APPGATE_USERNAME" environment.clientSecretName environment.clientSecretUserKey ∨
      v = EnvVar.ofSecret "APPGATE_PASSWORD" environment.clientSecretName environment.clientSecretPwdKey := by
  have hValue : ∀ name value, v ≠ EnvVar.ofValue name value := by
    rintro name value rfl
    obtain ⟨source, hSource, -⟩ := hRefers
    cases hSource
  have hField : ∀ name path, v ≠ EnvVar.ofField name path := by
    rintro name path rfl
    obtain ⟨source, hSource, hRef⟩ := hRefers
    cases hSource
    simp at hRef
  cases hIp : environment.k8sDnsServiceIp <;>
    simpa [sidecarVariables, PodEnvironment.variables, hIp, hValue, hField] using hv

/-- The secret that the variables refer to holds the entries of the user under the keys of the variables. -/
theorem seesUser_iff (user : ServiceUser) : SeesUser accounts ns environment.sidecarVariables user ↔
    secretEntry accounts ns environment.clientSecretName environment.clientSecretUserKey = some user.name ∧
      secretEntry accounts ns environment.clientSecretName environment.clientSecretPwdKey = some user.password ∧
      secretEntry accounts ns environment.clientSecretName environment.clientSecretControllerUrlKey =
        some user.profileUrl := by
  rw [← valueOf_username, ← valueOf_password, ← valueOf_profileUrl]
  exact ⟨fun h => ⟨h.username, h.password, h.profileUrl⟩, fun h => ⟨h.1, h.2.1, h.2.2⟩⟩

theorem seesNobody_iff : SeesNobody accounts ns environment.sidecarVariables ↔
    secretEntry accounts ns environment.clientSecretName environment.clientSecretUserKey = none ∧
      secretEntry accounts ns environment.clientSecretName environment.clientSecretPwdKey = none ∧
      secretEntry accounts ns environment.clientSecretName environment.clientSecretControllerUrlKey = none := by
  rw [← valueOf_username, ← valueOf_password, ← valueOf_profileUrl]
  exact ⟨fun h => ⟨h.username, h.password, h.profileUrl⟩, fun h => ⟨h.1, h.2.1, h.2.2⟩⟩

end PodEnvironment

/-- The environment refers to the objects of the service as the identity service writes them. -/
structure PodEnvironment.RefersTo (environment : PodEnvironment) (serviceNs serviceName : String) : Prop where
  config : environment.clientConfig = (ServiceConfigFields.new serviceNs serviceName).configmapName
  secret : environment.clientSecretName = ServiceUser.secretsName serviceNs serviceName
  user : environment.clientSecretUserKey = "service-username"
  password : environment.clientSecretPwdKey = "service-password"
  profileUrl : environment.clientSecretControllerUrlKey = "service-url"

namespace PodEnvironment.RefersTo

variable {environment : PodEnvironment} {serviceNs serviceName : String} {accounts : Accounts}

theorem fill (h : environment.RefersTo serviceNs serviceName) (service : Option KubeService) (pod : PodManifest) :
    (environment.fill service pod).RefersTo serviceNs serviceName :=
      ⟨h.config, h.secret, h.user, h.password, h.profileUrl⟩

theorem seesUser (h : environment.RefersTo serviceNs serviceName) {secret : Secret} {user : ServiceUser}
    (hSecret : accounts.secretOf serviceNs serviceName = some secret)
    (hEntries : ∀ field ∈ user.entries.map Prod.fst, secret.fields.lookup field = user.entries.lookup field) :
    SeesUser accounts serviceNs environment.sidecarVariables user := by
  have hEntry : ∀ key ∈ user.entries.map Prod.fst, secretEntry accounts serviceNs environment.clientSecretName key =
      (user.entries.lookup key).bind bytesToString := by
    intro key hKey
    rw [secretEntry, h.secret, show accounts.secrets.store.lookup _ = some secret from hSecret, Option.bind_some,
      hEntries key hKey]
  rw [seesUser_iff, h.user, h.password, h.profileUrl]
  exact ⟨hEntry _ (by simp [ServiceUser.entries]), hEntry _ (by simp [ServiceUser.entries]),
    hEntry _ (by simp [ServiceUser.entries])⟩

theorem seesNobody (h : environment.RefersTo serviceNs serviceName)
    (hSecret : accounts.secretOf serviceNs serviceName = none) :
    SeesNobody accounts serviceNs environment.sidecarVariables := by
  have hEntry : ∀ key, secretEntry accounts serviceNs environment.clientSecretName key = none := by
    intro key
    rw [secretEntry, h.secret, show accounts.secrets.store.lookup _ = none from hSecret, Option.bind_none]
  exact (seesNobody_iff environment accounts serviceNs).mpr ⟨hEntry _, hEntry _, hEntry _⟩

/-- Nothing is missing that the variables refer to. -/
theorem resolves (h : environment.RefersTo serviceNs serviceName) {user : ServiceUser}
    (hUser : SeesUser accounts serviceNs environment.sidecarVariables user)
    (hConfig : accounts.configOf serviceNs serviceName = some ServiceUser.newConfig) {v : EnvVar}
    (hv : v ∈ environment.sidecarVariables) (hRefers : EnvVar.Refers v) :
    (EnvVar.valueIn accounts serviceNs v).isSome = true := by
  obtain ⟨hName, hPassword, hUrl⟩ := (seesUser_iff environment accounts serviceNs user).mp hUser
  rcases environment.eq_of_refers hv hRefers with rfl | rfl | rfl | rfl
  · have hLogLevel : EnvVar.keyOf "APPGATE_LOGLEVEL" = "appgate-loglevel" := by decide
    have hFound : accounts.configMaps.store.lookup (serviceNs, environment.clientConfig) =
        some ServiceUser.newConfig := by
      rw [h.config]
      exact hConfig
    change ((accounts.configMaps.store.lookup (serviceNs, environment.clientConfig)).bind fun config =>
      (config.data.getD ∅).lookup (EnvVar.keyOf "APPGATE_LOGLEVEL")).isSome = true
    rw [hFound, hLogLevel]
    rfl
  · exact Option.isSome_of_mem hUrl
  · exact Option.isSome_of_mem hName
  · exact Option.isSome_of_mem hPassword

end PodEnvironment.RefersTo

/-- The identity store has given the pod its environment. The pod has no secrets of its own, and no namespace has an
underscore. -/
structure Admitted (parseStr : String → Option Uuid) (calls : List InMemoryIdentityStore.Call) (names : Nat → Uuid)
    (newV4 : Uuid) (request : PodRequest) (pod : PodManifest) (ns : String) (environment : PodEnvironment) : Prop where
  object : request.object = some pod
  secrets : annotationOf pod SDP_ANNOTATION_CLIENT_SECRETS = none
  requested : request.namespace = some ns
  plain : '_' ∉ ns.toList
  namespaces : ∀ key i, (calls.foldl (InMemoryIdentityStore.perform parseStr) .new).identities.lookup key = some i →
    '_' ∉ i.spec.serviceNamespace.toList
  created : ∃ store', PodEnvironment.create names newV4 request
    (calls.foldl (InMemoryIdentityStore.perform parseStr) .new) =
    (.ok environment, store')

section Runs

variable {parseStr : String → Option Uuid} {calls : List InMemoryIdentityStore.Call}
  {names : Nat → Uuid} {newV4 : Uuid}
  {request : PodRequest} {pod : PodManifest} {ns : String} {environment : PodEnvironment}

theorem Admitted.refersTo (h : Admitted parseStr calls names newV4 request pod ns environment) :
    environment.RefersTo ns (request.name (names 3)) := by
  obtain ⟨store', hCreate⟩ := h.created
  have hStore : (calls.foldl (InMemoryIdentityStore.perform parseStr) .new).WellFormed :=
    InMemoryIdentityStore.wellFormed_new.foldl_perform parseStr calls
  have hFrom := PodEnvironment.create_of_no_secrets h.object h.secrets hCreate
  let id := formatServiceId ns (request.name (names 3))
  have hId : request.serviceId (names 3) = .ok id := by simp only [PodRequest.serviceId, h.requested, id]
  have hName : request.serviceName (names 4) = .ok (formatServiceName ns (request.name (names 4))) := by
    simp only [PodRequest.serviceName, h.requested]
  simp only [PodEnvironment.fromIdentityStore, hId, hName] at hFrom
  rcases hStore.lookup_cases id with ⟨-, hFound, hPool⟩ | ⟨identity, r, -, hFound, hPool⟩
  · rw [InMemoryIdentityStore.popDeviceId, hFound, hPool] at hFrom
    cases congrArg Prod.fst hFrom
  · have hPop := (InMemoryIdentityStore.popDeviceId_registered newV4 hFound hPool).1
    have hSame : formatServiceId identity.spec.serviceNamespace identity.spec.serviceName = id :=
      hStore.named id identity hFound
    obtain ⟨rfl, hService⟩ := formatServiceId_inj (h.namespaces id identity hFound) h.plain hSame
    have hEnvironment := congrArg Prod.fst hFrom
    rw [hPop] at hEnvironment
    cases hEnvironment
    exact ⟨by rw [← hService]; rfl, by rw [← hService]; rfl, rfl, rfl, rfl⟩

def sampleCalls : List InMemoryIdentityStore.Call :=
  [.registerOrUpdate (InMemoryIdentityStore.sampleService (some ["f464d45a-869e-45e2-a4c0-b604fc2feafc"])) none]

/-- A pod of service `a`, which may name a secret of its own. -/
def samplePod (own : Option String) : PodManifest :=
  SDPPod.podOf ⟨some "a", none, none, own.map (AList.singleton SDP_ANNOTATION_CLIENT_SECRETS ·), ∅⟩
    ⟨[SDPPod.sampleContainer "app"], none, none, none, none, none, ∅⟩ none

def sampleGiven : PodEnvironment :=
  ⟨"a", "ns_a", "ns-a", "ns-a-service-config", "ns-a-service-user", "service-url",
    "service-username", "service-password",
    "f464d45a-869e-45e2-a4c0-b604fc2feafc", "0", none⟩

theorem admitted_sample : Admitted parseCanonical sampleCalls (fun _ => sampleUuid) sampleUuid
    ⟨some (samplePod none), some "ns"⟩ (samplePod none) "ns" sampleGiven where
  object := rfl
  secrets := by decide
  requested := rfl
  plain := by decide
  namespaces key i h := by
    have hAll : ∀ i ∈ HashMap.values (sampleCalls.foldl
        (InMemoryIdentityStore.perform parseCanonical) .new).identities,
        '_' ∉ i.spec.serviceNamespace.toList := by decide +kernel
    exact hAll i (HashMap.mem_values.mpr ⟨key, h⟩)
  created := ⟨_, Prod.ext (by decide +kernel) rfl⟩

theorem sampleActivated_reached : Steps (next (fun _ => .delivered) (sampleLosing 9) sampleAccountOutcomes)
    (fun _ _ => True) sampleProvisioning (sampleActivated 9) :=
  (Steps.of_runD sampleToActivation (Admits.of_forall (fun _ _ _ => trivial) _) (by decide +kernel)).trans
    (Steps.of_runD [Processes.Event.receive .asStored] (Admits.of_forall (fun _ _ _ => trivial) _) (by decide +kernel))

variable {outcomes : Nat → CallOutcome} {env : Surroundings} {accountOutcomes : AccountOutcomes}
  (service : Option KubeService)

/-- Whatever is lost, the sidecar of an admitted pod does not see the name of one user and the password of another: it
finds nothing, or what belongs to one user that was activated for the service, or who had the secret at the start. -/
theorem one_user_seen (h : Admitted parseStr calls names newV4 request pod ns environment)
    {clusterId : String} {stored : List ServiceIdentity} {system : System} {secret : SecretApi} {poolSize : Nat}
    {accounts : Accounts} {s : Provisioning}
    (hFirst : ∀ old, accounts.secretOf ns (request.name (names 3)) = some old →
      ∃ user : ServiceUser, user.Fills old)
    (hRun : Steps (Provisioning.next outcomes env accountOutcomes) (fun _ _ => True)
      (.started clusterId stored system secret poolSize accounts) s) :
    SeesNobody s.accounts ns (environment.fill service pod).sidecarVariables ∨
      ∃ user, SeesUser s.accounts ns (environment.fill service pod).sidecarVariables user ∧
        (ActivatedFor s.manager.identityCreatorQueue.history ns (request.name (names 3)) user ∨
          ∃ old, accounts.secretOf ns (request.name (names 3)) = some old ∧ user.Fills old) := by
  have hRefers := h.refersTo.fill service pod
  have hCredited := Provisioning.credited_of_steps hFirst hRun
  cases hSecret : s.accounts.secretOf ns (request.name (names 3)) with
  | none => exact .inl (hRefers.seesNobody hSecret)
  | some secret' =>
    obtain ⟨user, hFills, hUser⟩ := hCredited secret' hSecret
    exact .inr ⟨user, hRefers.seesUser hSecret fun field _ => hFills field, hUser⟩

theorem one_user_seen_sample : ∃ user : ServiceUser,
    SeesUser (sampleActivated 9).accounts "ns" (sampleGiven.fill none (samplePod none)).sidecarVariables user ∧
      ActivatedFor (sampleActivated 9).manager.identityCreatorQueue.history "ns" "a" user := by
  have hSeen := one_user_seen none admitted_sample (fun old hOld => by cases hOld) sampleActivated_reached
  rcases hSeen with hNobody | ⟨user, hUser, hActivated | ⟨old, hOld, -⟩⟩
  · have hName : valueOf (sampleActivated 9).accounts "ns" (sampleGiven.fill none (samplePod none)).sidecarVariables
        "APPGATE_USERNAME" ≠ none := by decide +kernel
    exact absurd hNobody.username hName
  · exact ⟨user, hUser, hActivated⟩
  · cases hOld

/-- Once the objects of the service were written for a user without an error, the sidecar finds all that it refers to,
and the entries of that user, for as long as no other message is about the service. -/
theorem activated_user_seen (h : Admitted parseStr calls names newV4 request pod ns environment)
    {s s' t : Provisioning} {order : IterationOrder} {msg : IdentityCreatorProtocol} {user : ServiceUser}
    {name clusterId : String} {labels : Labels}
    (hHead : s.manager.identityCreatorQueue.pending.head? = some msg)
    (hActivates : s.creator.Activates env msg user name clusterId ns (request.name (names 3)) labels)
    (hSecretOk : (ServiceUser.createOrUpdateSecrets accountOutcomes.secrets { user with name := name } ns
      (request.name (names 3)) s.accounts.secrets).1 = .ok ())
    (hConfigOk : (ServiceUser.createConfig accountOutcomes.configMaps ns (request.name (names 3))
      s.accounts.configMaps).1 = .ok ())
    (hNext : Provisioning.next outcomes env accountOutcomes s (.receive order) = some s')
    (hRun : Steps (Provisioning.next outcomes env accountOutcomes)
      (Provisioning.Elsewhere ns (request.name (names 3))) s' t) :
    SeesUser t.accounts ns (environment.fill service pod).sidecarVariables { user with name := name } ∧
      ∀ v ∈ (environment.fill service pod).sidecarVariables, EnvVar.Refers v →
        (EnvVar.valueIn t.accounts ns v).isSome = true := by
  have hRefers := h.refersTo.fill service pod
  obtain ⟨hSecretKept, hConfigKept⟩ := Provisioning.objects_elsewhere hRun
  obtain ⟨hSecret, hConfig⟩ :=
    IdentityCreator.handleAccounts_activated accountOutcomes s.creator s.accounts hActivates hSecretOk hConfigOk
  have hAccounts : s'.accounts = s.creator.handleAccounts accountOutcomes env msg s.accounts := by
    obtain ⟨processes, hProcesses, rfl⟩ := Option.map_eq_some_iff.mp hNext
    cases Processes.next_move outcomes env hProcesses with
    | receive order msg' queue hOutbox hStatus hRecv =>
      obtain ⟨rest, hPending, -⟩ := Channel.recv_eq_some.mp hRecv
      rw [hPending] at hHead
      cases hHead
      simp only [Provisioning.manager, hRecv]
  rw [← hAccounts] at hSecret hConfig
  have hUser : SeesUser t.accounts ns (environment.fill service pod).sidecarVariables { user with name := name } := by
    refine hRefers.seesUser (hSecretKept.trans hSecret) fun field hField => ?_
    rw [ServiceUser.lookup_fill]
    simp only [ServiceUser.entries, List.map_cons, List.map_nil, List.mem_cons, List.not_mem_nil, or_false] at hField
    rcases hField with rfl | rfl | rfl <;> rfl
  exact ⟨hUser, fun v hv => hRefers.resolves hUser (hConfigKept.trans hConfig) hv⟩

theorem activated_user_seen_sample :
    SeesUser (sampleRecorded 9).accounts "ns" (sampleGiven.fill none (samplePod none)).sidecarVariables
      ⟨(IdentityCreator.sampleUuid 0).toString, "cluster_ns_a_abcde", (IdentityCreator.sampleUuid 1).toString,
        "appgate://profile", some []⟩ := by
  have hRun : Steps (next (fun _ => .delivered) (sampleLosing 9) sampleAccountOutcomes) (Elsewhere "ns" "a")
      (sampleActivated 9) (sampleRecorded 9) :=
    Steps.of_runD [Processes.Event.deliver, .handle .asStored, .handle .asStored]
      (by decide +kernel) (by decide +kernel)
  have hNext : next (fun _ => .delivered) (sampleLosing 9) sampleAccountOutcomes (sampleActivating 9)
      (.receive .asStored) = some (sampleActivated 9) := by decide +kernel
  let user : ServiceUser := ⟨(IdentityCreator.sampleUuid 0).toString, (IdentityCreator.sampleUuid 0).toString,
    (IdentityCreator.sampleUuid 1).toString, "appgate://profile", some []⟩
  let labels : Labels := AList.insert "name" "a" (AList.insert "namespace" "ns" ∅)
  have hHead : (sampleActivating 9).manager.identityCreatorQueue.pending.head? =
      some (.activateServiceUser user "cluster" "ns" "a" labels) := by decide +kernel
  exact (activated_user_seen none admitted_sample hHead ⟨by decide +kernel, rfl, by decide +kernel⟩
    (by decide +kernel)
    (by decide +kernel) hNext hRun).1

/-- The keys that a pod with secrets of its own is given are those of no secret of a service. -/
theorem lookup_own_keys (user : ServiceUser) (ns name : String) :
    user.entries.lookup (formatServiceId ns name ++ "-user") = none ∧
      user.entries.lookup (formatServiceId ns name ++ "-password") = none := by
  have hLast : ∀ {s s' t : String}, s ++ s' = t → s'.toList ≠ [] → s'.toList.getLast? = t.toList.getLast? := by
    rintro s s' t rfl hSome
    rw [String.toList_append, List.getLast?_append, Option.or_of_isSome (List.getLast?_isSome.mpr hSome)]
  have hNe : ∀ {s s' t : String}, s'.toList ≠ [] → s'.toList.getLast? ≠ t.toList.getLast? →
      (s ++ s' == t) = false :=
    fun hSome hOther => beq_eq_false_iff_ne.mpr fun hEq => hOther (hLast hEq hSome)
  have hPassword : (formatServiceId ns name ++ "-password" == "service-password") = false := by
    refine beq_eq_false_iff_ne.mpr fun hEq => ?_
    have hId : formatServiceId ns name = "service" := by
      have hLists := congrArg String.toList hEq
      rw [String.toList_append, show ("service-password" : String).toList = "service".toList ++
        "-password".toList from rfl]
        at hLists
      exact String.toList_inj.mp (List.append_cancel_right hLists)
    have hUnderscore : '_' ∈ (formatServiceId ns name).toList := by simp [formatServiceId]
    rw [hId] at hUnderscore
    revert hUnderscore
    decide
  constructor
  · simp only [ServiceUser.entries, List.lookup_cons, List.lookup_nil]
    rw [hNe (by decide) (by decide), hNe (by decide) (by decide), hNe (by decide) (by decide)]
  · simp only [ServiceUser.entries, List.lookup_cons, List.lookup_nil]
    rw [hNe (by decide) (by decide), hPassword, hNe (by decide) (by decide)]

/-- A pod that names the secret of a service as its own never sees what is in there. -/
theorem own_secrets_unread {environment : PodEnvironment} {serviceName : String}
    (hEnvironment : PodEnvironment.fromPod names newV4 request = .ok (some environment))
    (hObject : request.object = some pod) (hNs : request.namespace = some ns)
    (hSecrets : annotationOf pod SDP_ANNOTATION_CLIENT_SECRETS = some (ServiceUser.secretsName ns serviceName))
    {clusterId : String} {stored : List ServiceIdentity} {system : System} {secret : SecretApi} {poolSize : Nat}
    {accounts : Accounts} {s : Provisioning}
    (hFirst : ∀ old, accounts.secretOf ns serviceName = some old → ∃ user : ServiceUser, user.Fills old)
    (hRun : Steps (Provisioning.next outcomes env accountOutcomes) (fun _ _ => True)
      (.started clusterId stored system secret poolSize accounts) s) :
    SeesNobody s.accounts ns (environment.fill service pod).sidecarVariables := by
  have hCredited := Provisioning.credited_of_steps hFirst hRun
  obtain ⟨name, hName, hUser, hPassword, hUrl⟩ : ∃ name,
      environment.clientSecretName = ServiceUser.secretsName ns serviceName ∧
      environment.clientSecretUserKey = formatServiceId ns name ++ "-user" ∧
      environment.clientSecretPwdKey = formatServiceId ns name ++ "-password" ∧
      environment.clientSecretControllerUrlKey = formatServiceId ns name ++ "-password" := by
    have hId : request.serviceId (names 1) = .ok (formatServiceId ns (request.name (names 1))) := by
      simp only [PodRequest.serviceId, hNs]
    have hServiceName : request.serviceName (names 2) = .ok (formatServiceName ns (request.name (names 2))) := by
      simp only [PodRequest.serviceName, hNs]
    simp only [PodEnvironment.fromPod, hObject, hId, hServiceName, hSecrets, bind,
      Except.bind, Option.map_some] at hEnvironment
    cases hEnvironment
    exact ⟨_, rfl, rfl, rfl, rfl⟩
  have hMissing : ∀ key, (∀ user : ServiceUser, user.entries.lookup key = none) →
      secretEntry s.accounts ns environment.clientSecretName key = none := by
    intro key hKey
    rw [secretEntry, hName]
    cases hSecret : s.accounts.secrets.store.lookup (ns, ServiceUser.secretsName ns serviceName) with
    | none => rfl
    | some secret' =>
      obtain ⟨user, hFills, -⟩ := hCredited secret' hSecret
      rw [Option.bind_some, hFills key, hKey user]
      rfl
  refine (PodEnvironment.seesNobody_iff _ _ _).mpr ⟨?_, ?_, ?_⟩
  · exact hMissing _ fun user => hUser ▸ (lookup_own_keys user ns name).1
  · exact hMissing _ fun user => hPassword ▸ (lookup_own_keys user ns name).2
  · exact hMissing _ fun user => hUrl ▸ (lookup_own_keys user ns name).2

theorem own_secrets_unread_sample : ∃ environment,
    PodEnvironment.fromPod (fun _ => sampleUuid) sampleUuid ⟨some (samplePod (some "ns-a-service-user")),
      some "ns"⟩ = .ok (some environment) ∧
    SeesNobody (sampleActivated 9).accounts "ns"
      (environment.fill none (samplePod (some "ns-a-service-user"))).sidecarVariables := by
  have hSecrets : annotationOf (samplePod (some "ns-a-service-user")) SDP_ANNOTATION_CLIENT_SECRETS =
      some (ServiceUser.secretsName "ns" "a") := by decide +kernel
  obtain ⟨environment, hOwn⟩ : ∃ environment, PodEnvironment.fromPod (fun _ => sampleUuid) sampleUuid
      ⟨some (samplePod (some "ns-a-service-user")), some "ns"⟩ = .ok (some environment) := ⟨_, rfl⟩
  exact ⟨environment, hOwn,
    own_secrets_unread none hOwn rfl rfl hSecrets (fun old hOld => by cases hOld) sampleActivated_reached⟩

end Runs

end SdpK8sInjector.Injector
