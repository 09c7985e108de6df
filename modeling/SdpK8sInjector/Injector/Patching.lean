import SdpK8sInjector.Injector.Operations

/-! # How a pod is patched and validated

The sidecars are added to a pod that has none of them. What they need to know about
the service is in their environment variables.
-/

namespace SdpK8sInjector.Injector

open Lib Serde Common

def K8S_VERSION_FOR_SAFE_SYSCTL : Nat := 22

def SDP_SERVICE_CONTAINER_NAME : String := "sdp-service"

namespace EnvVar

def ofValue (name value : String) : EnvVar := ⟨name, some value, none⟩

/-- `env_name.to_lowercase().replace("_", "-")` -/
def keyOf (name : String) : String := .ofList ((toLowercase name).toList.map fun c => if c = '_' then '-' else c)

def ofConfigMap (name mapName : String) : EnvVar :=
  ⟨name, none, some ⟨some ⟨keyOf name, mapName, some false⟩, none, none, ∅⟩⟩

def ofSecret (name secretName secretKey : String) : EnvVar :=
  ⟨name, none, some ⟨none, some ⟨secretKey, secretName, some false⟩, none, ∅⟩⟩

def ofField (name fieldPath : String) : EnvVar :=
  ⟨name, none, some ⟨none, none, some ⟨none, fieldPath⟩, ∅⟩⟩

end EnvVar

/-- `ServiceEnvironment` with everything that the containers are told. -/
structure PodEnvironment where
  podName : String
  serviceId : String
  serviceName : String
  clientConfig : String
  clientSecretName : String
  clientSecretControllerUrlKey : String
  clientSecretUserKey : String
  clientSecretPwdKey : String
  clientDeviceId : String
  nContainers : String
  k8sDnsServiceIp : Option String
deriving DecidableEq

def PodEnvironment.variables (e : PodEnvironment) (containerName : String) : List EnvVar :=
  let envs := [EnvVar.ofValue "POD_N_CONTAINERS" e.nContainers, EnvVar.ofValue "SERVICE_NAME" e.serviceName,
    EnvVar.ofValue "SERVICE_ID" e.serviceId] ++
    if containerName = SDP_SERVICE_CONTAINER_NAME then
      [EnvVar.ofConfigMap "APPGATE_LOGLEVEL" e.clientConfig, EnvVar.ofValue "APPGATE_DEVICE_ID" e.clientDeviceId,
        EnvVar.ofSecret "APPGATE_PROFILE_URL" e.clientSecretName e.clientSecretControllerUrlKey,
        EnvVar.ofSecret "APPGATE_USERNAME" e.clientSecretName e.clientSecretUserKey,
        EnvVar.ofSecret "APPGATE_PASSWORD" e.clientSecretName e.clientSecretPwdKey,
        EnvVar.ofField "POD_NODE" "spec.nodeName", EnvVar.ofField "POD_NAME" "metadata.name",
        EnvVar.ofField "POD_NAMESPACE" "metadata.namespace",
        EnvVar.ofField "POD_SERVICE_ACCOUNT" "spec.serviceAccountName"]
    else []
  match e.k8sDnsServiceIp with
  | some ip => EnvVar.ofValue "K8S_DNS_SERVICE" ip :: envs
  | none => envs

/-- `char::is_whitespace` -/
def isWhitespace (c : Char) : Bool :=
  let n := c.toNat
  (9 ≤ n && n ≤ 13) || (0x2000 ≤ n && n ≤ 0x200A) ||
    n ∈ [0x20, 0x85, 0xA0, 0x1680, 0x2028, 0x2029, 0x202F, 0x205F, 0x3000]

def trim (s : List Char) : List Char := ((s.dropWhile isWhitespace).reverse.dropWhile isWhitespace).reverse

def searchesStringToVec (searches : String) : List String :=
  (searches.toList.splitOn ' ').map fun s => .ofList (trim s)

structure SDPSidecars where
  initContainers : Container × Container
  containers : List Container
  volumes : List Volume
  /-- The searches of the DNS configuration. -/
  searches : String

namespace SDPSidecars

def containerNames (sidecars : SDPSidecars) : List String := sidecars.containers.map Container.name

def dnsConfig (sidecars : SDPSidecars) (ns : String) (searches : Option (List String)) : PodDNSConfig :=
  let searches := searches.getD (searchesStringToVec sidecars.searches)
  let completed := match searches with
    | [] => []
    | first :: others =>
      match first.toList.splitOn '.' with
      | [] => searches
      | start :: rest =>
        let rest := ".".intercalate (rest.map String.ofList)
        if rest ∉ searches then first :: rest :: others
        else if toLowercase (.ofList start) ≠ toLowercase ns then (ns ++ "." ++ first) :: searches
        else searches
  ⟨some ["127.0.0.1"], none, some completed⟩

end SDPSidecars

/-- Matches of the pattern are cut off the end as long as there are any; each of them takes a character at least. -/
def trimEndMatches (pattern : List Char) : Nat → List Char → List Char
  | 0, s => s
  | n + 1, s =>
    if pattern ≠ [] ∧ pattern.isSuffixOf s then trimEndMatches pattern n (s.take (s.length - pattern.length)) else s

/-- The version takes the place of the tag of the image. -/
def imageWithVersion (image version : String) : String :=
  let cs := image.toList
  let tag := (cs.splitOn ':').getLast?.getD []
  .ofList (trimEndMatches (':' :: tag) cs.length cs) ++ ":" ++ version

structure KubeService where
  /-- The `clusterIP` of the `spec`, where there is one. -/
  spec : Option (Option String)
deriving DecidableEq

def maybeIp (service : Option KubeService) : Option String := service.bind fun s => s.spec.join

structure SDPPod where
  sdpSidecars : SDPSidecars
  k8sDnsService : Option KubeService
  k8sServerVersion : Nat

/-- `AdmissionRequest<Pod>` -/
structure PodRequest where
  object : Option PodManifest
  ns : Option String

/-- `admission_request_namespace` -/
def PodRequest.namespace (request : PodRequest) : Option String :=
  request.ns.or (request.object.bind fun pod => pod.metadata.ns)

inductive PatchFailure where
  | error (e : SDPServiceError)
  | panicked
deriving DecidableEq

def containers (pod : PodManifest) : Option (List Container) := pod.spec.map PodSpec.containers

def initContainers (pod : PodManifest) : Option (List Container) :=
  (pod.spec.bind PodSpec.initContainers).filter fun xs => !xs.isEmpty

def volumes (pod : PodManifest) : Option (List Volume) := pod.spec.bind PodSpec.volumes

def volumeNames (pod : PodManifest) : Option (List String) := (volumes pod).map fun vs => vs.map Volume.name

def securityContext (pod : PodManifest) : Option PodSecurityContext := pod.spec.bind PodSpec.securityContext

/-- What is known about the pod only when it is patched. -/
def PodEnvironment.fill (service : Option KubeService) (pod : PodManifest) (environment : PodEnvironment) :
    PodEnvironment :=
  { environment with
    nContainers := toString (((containers pod).map List.length).getD 0)
    k8sDnsServiceIp := maybeIp service }

namespace SDPPod

def sidecars (sdpPod : SDPPod) (request : PodRequest) : Option (List Container) :=
  request.object.bind fun pod => (containers pod).map fun cs =>
    cs.filter fun c => c.name ∈ sdpPod.sdpSidecars.containerNames

def sidecarNames (sdpPod : SDPPod) (request : PodRequest) : Option (List String) :=
  (sdpPod.sidecars request).map fun xs => xs.map Container.name

def hasAnySidecars (sdpPod : SDPPod) (request : PodRequest) : Bool :=
  ((sdpPod.sidecars request).map fun xs => decide (xs.length ≠ 0)).getD false

def needsPatching (sdpPod : SDPPod) (request : PodRequest) : Bool :=
  ((request.object.map fun pod => decide (((containers pod).getD []).length > 0)).getD false) &&
    !sdpPod.hasAnySidecars request

section Operations

variable (sdpPod : SDPPod) (environment : PodEnvironment) (pod : PodManifest)

def annotationOperations : List (String × Json) :=
  let strategy := injectionStrategy pod
  let injectionEnabled :=
    toString (((annotationOf pod SDP_INJECTOR_ANNOTATION_ENABLED).map fun s => decide (s = "true")).getD
    (decide (strategy = .enabledByDefault)))
  (if (pod.metadata.annotations.getD ∅).entries.isEmpty then
    [("/metadata/annotations", toJson (∅ : HashMap String String))] else []) ++
  [(annotationPath "/metadata/annotations" SDP_INJECTOR_ANNOTATION_STRATEGY,
      toJson (SDPInjectionStrategy.toString strategy)),
    (annotationPath "/metadata/annotations" SDP_INJECTOR_ANNOTATION_ENABLED,
      toJson ((annotationOf pod SDP_INJECTOR_ANNOTATION_ENABLED).getD injectionEnabled)),
    (annotationPath "/metadata/annotations" SDP_ANNOTATION_CLIENT_DEVICE_ID, toJson environment.clientDeviceId),
    (annotationPath "/metadata/annotations" SDP_INJECTOR_ANNOTATION_SERVICE_NAME, toJson environment.serviceName),
    (annotationPath "/metadata/annotations" SDP_INJECTOR_ANNOTATION_SERVICE_ID, toJson environment.serviceId),
    (annotationPath "/metadata/annotations" SDP_INJECTOR_ANNOTATION_POD_NAME, toJson environment.podName)]

/-- The sidecars as they are added to the pod. -/
def patchedSidecars (defaultVersion : String) : List Container :=
  let version := (annotationOf pod SDP_INJECTOR_ANNOTATION_CLIENT_VERSION).getD defaultVersion
  sdpPod.sdpSidecars.containers.map fun c =>
    { c with
      image := c.image.map fun image => imageWithVersion image version
      env := some (environment.variables c.name) }

/-- The init containers stand between those of the sidecars, unless the pod has none or does not want any. -/
def patchedInitContainers (ip : String) (dnsConfig : PodDNSConfig) : Option (List Container) :=
  match initContainers pod with
  | none => none
  | some xs =>
    let disableInitContainers := ((annotationOf pod SDP_INJECTOR_ANNOTATION_DISABLE_INIT_CONTAINERS).map fun s =>
      decide (toLowercase s = "true")).getD false
    if disableInitContainers then none
    else
      let env := some [EnvVar.ofValue "K8S_DNS_SERVICE" ip,
        EnvVar.ofValue "K8S_DNS_SEARCHES" (" ".intercalate (dnsConfig.searches.getD []))]
      some ({ sdpPod.sdpSidecars.initContainers.1 with env := env } :: xs ++
        [{ sdpPod.sdpSidecars.initContainers.2 with env := env }])

/-- The unprivileged ports begin at 0, before what the pod has. -/
def patchedSecurityContext : PodSecurityContext :=
  let sc := (securityContext pod).getD { sysctls := none }
  { sc with sysctls := some (⟨"net.ipv4.ip_unprivileged_port_start", "0"⟩ :: sc.sysctls.getD []) }

def specOperations (ns ip defaultVersion : String) : List (String × Json) :=
  let customSearches := (annotationOf pod SDP_ANNOTATION_DNS_SEARCHES).map searchesStringToVec
  let dnsConfig := sdpPod.sdpSidecars.dnsConfig ns customSearches
  (sdpPod.patchedSidecars environment pod defaultVersion).map (fun c => ("/spec/containers/-", toJson c)) ++
  (match sdpPod.patchedInitContainers pod ip dnsConfig with
    | some xs => [("/spec/initContainers", toJson xs)]
    | none => []) ++
  (if (volumes pod).isSome then sdpPod.sdpSidecars.volumes.map fun v => ("/spec/volumes/-", toJson v)
    else [("/spec/volumes", toJson sdpPod.sdpSidecars.volumes)]) ++
  [("/spec/dnsConfig", toJson dnsConfig), ("/spec/dnsPolicy", toJson "None")] ++
  (if K8S_VERSION_FOR_SAFE_SYSCTL ≤ sdpPod.k8sServerVersion then
    [("/spec/securityContext", toJson (patchedSecurityContext pod))] else [])

end Operations

/-- `defaultVersion` is the variable that has to be there. -/
def patch (sdpPod : SDPPod) (defaultVersion : Option String) (environment : PodEnvironment) (request : PodRequest) :
    Except PatchFailure (List AddOperation) :=
  match request.object, request.namespace with
  | none, _ => .error (.error "Unable to get Pod object in admission request")
  | _, none => .error (.error "Unable to get namespace from Pod admission request")
  | some pod, some ns =>
    let environment := environment.fill sdpPod.k8sDnsService pod
    if sdpPod.needsPatching request then
      match maybeIp sdpPod.k8sDnsService, defaultVersion with
      | none, _ => .error (.error "Unable to get K8S DNS service IP address")
      | _, none => .error .panicked
      | some ip, some version =>
        (addOperations (annotationOperations environment pod ++
          sdpPod.specOperations environment pod ns ip version)).mapError
          .error
    else .ok []

/-- The names that are expected and not there, as a message lists them. -/
def missing (expected names : List String) : List String :=
  (HashSet.difference (.ofList expected) (.ofList (names.filter fun n => n ∈ expected))).mergeSort fun a b =>
    decide (a ≤ b)

def validate (sdpPod : SDPPod) (request : PodRequest) : Except String Unit :=
  match request.object with
  | none => .error "Unable to get Pod from admission request"
  | some pod =>
    let expectedVolumeNames := sdpPod.sdpSidecars.volumes.map Volume.name
    let expectedContainerNames := sdpPod.sdpSidecars.containerNames
    let containerNames := (sdpPod.sidecarNames request).getD []
    let volumeNames := (volumeNames pod).getD []
    let errors :=
      (if expectedContainerNames ⊆ containerNames then []
        else ["Pod is missing required containers: " ++
          ", ".intercalate (missing expectedContainerNames containerNames)]) ++
      (if expectedVolumeNames ⊆ volumeNames then []
        else ["Pod is missing required volumes: " ++ ", ".intercalate (missing expectedVolumeNames volumeNames)])
    if errors.isEmpty then .ok () else .error ("Unable to run SDP client on Pod: " ++ "\n".intercalate errors)

end SDPPod

end SdpK8sInjector.Injector
