import SdpK8sInjector.Common.Secrets
import SdpK8sInjector.Injector.PatchedPods

/-! # From the injector to the watcher of pods and back

What the identity service needs to take a device id back is in the annotations that
the injector adds to the pod.
-/

namespace SdpK8sInjector.Injector

open Lib Serde Common IdentityService

namespace PodRequest

/-- `admission_request_name` -/
def name (random : Uuid) (request : PodRequest) : String :=
  match request.object with
  | some pod => pod.pod.namedName random
  | none => random.toString

def serviceId (random : Uuid) (request : PodRequest) : Except SDPServiceError String :=
  match request.namespace with
  | some ns => .ok (formatServiceId ns (request.name random))
  | none => .error MaybeService.namespaceNotFound

def serviceName (random : Uuid) (request : PodRequest) : Except SDPServiceError String :=
  match request.namespace with
  | some ns => .ok (formatServiceName ns (request.name random))
  | none => .error MaybeService.namespaceNotFound

/-- The API server stores the pod in the namespace of the request, with its annotations. -/
structure Stores (request : PodRequest) (pod : PodManifest) (stored : Pod) : Prop where
  ns : stored.ns = request.namespace
  annotations : stored.annotations = pod.pod.annotations

end PodRequest

/-- `ServiceUser::secrets_name` -/
def secretsName (serviceNs serviceName : String) : String := serviceNs ++ "-" ++ serviceName ++ "-service-user"

/-- `ServiceUser::config_name` -/
def configName (serviceNs serviceName : String) : String := serviceNs ++ "-" ++ serviceName ++ "-service-config"

namespace PodEnvironment

-- the names of a pod without one, as they are drawn for one call after the other
variable (names : Nat → Uuid) (newV4 : Uuid) (request : PodRequest)

def fromPod : Except SDPServiceError (Option PodEnvironment) :=
  match request.object with
  | none => .error "Pod was not found in the request"
  | some pod => do
    let serviceId ← request.serviceId (names 1)
    let serviceName ← request.serviceName (names 2)
    let clientConfig := (annotationOf pod SDP_ANNOTATION_CLIENT_CONFIG).getD (serviceName ++ "-service-config")
    .ok <| (annotationOf pod SDP_ANNOTATION_CLIENT_SECRETS).map fun secret =>
      { podName := request.name (names 3)
        serviceId := serviceId
        serviceName := serviceName
        clientConfig := clientConfig
        clientSecretName := secret
        clientSecretControllerUrlKey := serviceId ++ "-password"
        clientSecretPwdKey := serviceId ++ "-password"
        clientSecretUserKey := serviceId ++ "-user"
        clientDeviceId := (annotationOf pod SDP_ANNOTATION_CLIENT_DEVICE_ID).getD newV4.toString
        nContainers := "0"
        k8sDnsServiceIp := none }

/-- The store answers the request for a device id. -/
def fromIdentityStore (store : InMemoryIdentityStore) :
    Except SDPServiceError PodEnvironment × InMemoryIdentityStore :=
  match request.serviceId (names 3), request.serviceName (names 4) with
  | .ok serviceId, .ok serviceName =>
    let (result, store) := store.popDeviceId newV4 serviceId
    (result.map fun (s, d) =>
      let (userField, passwordField, profileField) := s.credentials.secretsFieldNames true
      { podName := request.name (names 5)
        serviceId := serviceId
        serviceName := serviceName
        clientConfig := configName s.spec.serviceNamespace s.spec.serviceName
        clientSecretName := secretsName s.spec.serviceNamespace s.spec.serviceName
        clientSecretControllerUrlKey := profileField
        clientSecretPwdKey := passwordField
        clientSecretUserKey := userField
        clientDeviceId := d.toString
        nContainers := "0"
        k8sDnsServiceIp := none }, store)
  | .error e, _ | _, .error e => (.error e, store)

def create (store : InMemoryIdentityStore) : Except SDPServiceError PodEnvironment × InMemoryIdentityStore :=
  match fromPod names newV4 request with
  | .error e => (.error e, store)
  | .ok (some environment) => (.ok environment, store)
  | .ok none => fromIdentityStore names newV4 request store

end PodEnvironment

/-- `patch_pod`, with the patch in place of the response that carries it. -/
def patchPod (names : Nat → Uuid) (newV4 : Uuid) (sdpPod : SDPPod) (defaultVersion : Option String)
    (request : PodRequest)
    (store : InMemoryIdentityStore) : Except PatchFailure (List AddOperation) × InMemoryIdentityStore :=
  match request.serviceId (names 0) with
  | .error e => (.error (.error e), store)
  | .ok _ =>
    match PodEnvironment.create names newV4 request store with
    | (.error e, store) => (.error (.error e), store)
    | (.ok environment, store) => (sdpPod.patch defaultVersion environment request, store)

/-- The name of the pod is not drawn. -/
def IsNamed (pod : Pod) : Prop :=
  (annotationOf pod SDP_INJECTOR_ANNOTATION_POD_NAME).isSome = true ∨
    match pod.generateName with
    | some generateName => 2 < (generateName.splitOn "-").length
    | none => pod.name.isSome = true

theorem IsNamed.namedName_eq {pod : Pod} (h : IsNamed pod) (random random' : Uuid) :
    pod.namedName random = pod.namedName random' := by
  unfold Pod.namedName
  cases hAnnotated : annotationOf pod SDP_INJECTOR_ANNOTATION_POD_NAME with
  | some name => rfl
  | none =>
    have hSource := h.resolve_left (by rw [hAnnotated]; exact Bool.false_ne_true)
    cases hGenerate : pod.generateName with
    | some generateName =>
      rw [hGenerate] at hSource
      simp only [if_pos hSource, Option.getD_none]
    | none =>
      rw [hGenerate] at hSource
      obtain ⟨name, hName⟩ := Option.isSome_iff_exists.mp hSource
      simp only [hName, Option.getD_some, Option.getD_none]

/-- The two annotations that the injector writes stand for the decision that it read. -/
theorem needsInjection_of_patched {α β : Type} [Annotated α] [Annotated β] {x : α} {y : β}
    (hStrategy : annotationOf y SDP_INJECTOR_ANNOTATION_STRATEGY =
      some (SDPInjectionStrategy.toString (injectionStrategy x)))
    (hEnabled : annotationOf y SDP_INJECTOR_ANNOTATION_ENABLED =
      some ((annotationOf x SDP_INJECTOR_ANNOTATION_ENABLED).getD
      (toString (decide (injectionStrategy x = .enabledByDefault))))) :
    needsInjection y = needsInjection x := by
  have hSame : injectionStrategy y = injectionStrategy x := by
    rw [injectionStrategy, hStrategy]
    cases injectionStrategy x <;> rfl
  simp only [needsInjection, hSame, isInjectionDisabled, isInjectionEnabled, hEnabled]
  cases annotationOf x SDP_INJECTOR_ANNOTATION_ENABLED with
  | some enabled => rfl
  | none => cases injectionStrategy x <;> decide

namespace PodEnvironment

variable {names : Nat → Uuid} {newV4 : Uuid} {request : PodRequest} {store store' : InMemoryIdentityStore}
  {environment : PodEnvironment}

theorem fromIdentityStore_ok (h : fromIdentityStore names newV4 request store = (.ok environment, store')) :
    ∃ serviceId identity d, request.serviceId (names 3) = .ok serviceId ∧
      store.popDeviceId newV4 serviceId = (.ok (identity, d), store') ∧
      environment.podName = request.name (names 5) ∧ environment.clientDeviceId = d.toString := by
  unfold fromIdentityStore at h
  split at h
  · rename_i serviceId serviceName hId hName
    cases hPop : store.popDeviceId newV4 serviceId with
    | mk result store₁ =>
      rw [hPop] at h
      cases result with
      | error e => cases h
      | ok p =>
        cases h
        exact ⟨serviceId, p.1, p.2, hId, hPop, rfl, rfl⟩
  · cases congrArg Prod.fst h
  · cases congrArg Prod.fst h

theorem create_of_no_secrets {pod : PodManifest} (hObject : request.object = some pod)
    (hSecrets : annotationOf pod SDP_ANNOTATION_CLIENT_SECRETS = none)
    (h : create names newV4 request store = (.ok environment, store')) :
    fromIdentityStore names newV4 request store = (.ok environment, store') := by
  unfold create at h
  split at h
  · cases congrArg Prod.fst h
  · rename_i fromSecrets hFromPod
    simp only [fromPod, hObject, hSecrets, Option.map_none] at hFromPod
    cases hId : request.serviceId (names 1) with
    | error e => simp [hId, bind, Except.bind] at hFromPod
    | ok serviceId =>
      cases hName : request.serviceName (names 2) with
      | error e => simp [hId, hName, bind, Except.bind] at hFromPod
      | ok serviceName => simp [hId, hName, bind, Except.bind] at hFromPod
  · exact h

end PodEnvironment

theorem patchPod_ok {names : Nat → Uuid} {newV4 : Uuid} {sdpPod : SDPPod} {defaultVersion : Option String}
    {request : PodRequest} {store store' : InMemoryIdentityStore} {ops : List AddOperation}
    (h : patchPod names newV4 sdpPod defaultVersion request store = (.ok ops, store')) :
    ∃ environment, PodEnvironment.create names newV4 request store = (.ok environment, store') ∧
      sdpPod.patch defaultVersion environment request = .ok ops := by
  unfold patchPod at h
  split at h
  · cases congrArg Prod.fst h
  · split at h
    · cases congrArg Prod.fst h
    · rename_i environment store₁ hCreate
      cases congrArg Prod.snd h
      exact ⟨environment, hCreate, congrArg Prod.fst h⟩

section Annotations

variable (environment : PodEnvironment) (pod : PodManifest)

variable {environment pod} in
/-- They are those of an injected pod. -/
theorem patchedAnnotations_eq {d : Uuid} (hDevice : environment.clientDeviceId = d.toString) :
    SDPPod.patchedAnnotations environment pod =
      (patchAnnotations ⟨environment.podName, environment.serviceId, environment.serviceName, d⟩
        pod.pod).annotations := by
  simp only [SDPPod.patchedAnnotations, patchAnnotations, hDevice]
  rfl

theorem lookup_enabled_patched : (SDPPod.patchedAnnotations environment pod).lookup SDP_INJECTOR_ANNOTATION_ENABLED =
    some ((annotationOf pod SDP_INJECTOR_ANNOTATION_ENABLED).getD
      (toString (decide (injectionStrategy pod = .enabledByDefault)))) := by
  rw [SDPPod.patchedAnnotations, AList.lookup_insert_ne (by decide), AList.lookup_insert_ne (by decide),
    AList.lookup_insert_ne (by decide), AList.lookup_insert_ne (by decide), AList.lookup_insert]
  cases annotationOf pod SDP_INJECTOR_ANNOTATION_ENABLED <;> rfl

theorem lookup_strategy_patched : (SDPPod.patchedAnnotations environment pod).lookup SDP_INJECTOR_ANNOTATION_STRATEGY =
    some (SDPInjectionStrategy.toString (injectionStrategy pod)) := by
  rw [SDPPod.patchedAnnotations, AList.lookup_insert_ne (by decide), AList.lookup_insert_ne (by decide),
    AList.lookup_insert_ne (by decide), AList.lookup_insert_ne (by decide), AList.lookup_insert_ne (by decide),
    AList.lookup_insert]

/-- A pod with the annotations of the patch takes part in the injection if the pod that is patched does. -/
theorem isCandidate_of_patchedAnnotations {stored : Pod}
    (h : stored.annotations = SDPPod.patchedAnnotations environment pod) :
    Candidate.isCandidate stored = needsInjection pod := by
  have hAnnotated : ∀ key, annotationOf stored key = (SDPPod.patchedAnnotations environment pod).lookup key := by
    intro key
    rw [← h]
    rfl
  exact needsInjection_of_patched ((hAnnotated _).trans (lookup_strategy_patched environment pod))
    ((hAnnotated _).trans (lookup_enabled_patched environment pod))

end Annotations

/-- What the watcher reports of a patched pod that is deleted gives back the device id that was assigned to it. -/
theorem released_device_id {parseStr : String → Option Uuid} (hParse : ∀ d : Uuid, parseStr d.toString = some d)
    {names : Nat → Uuid} {newV4 : Uuid} {sdpPod : SDPPod} {defaultVersion : Option String} {request : PodRequest}
    {store store' : InMemoryIdentityStore} {ops : List AddOperation} {pod : PodManifest}
    (hObject : request.object = some pod) (hCandidate : Candidate.isCandidate pod.pod = true)
    (hSecrets : annotationOf pod SDP_ANNOTATION_CLIENT_SECRETS = none) (hNamed : IsNamed pod.pod)
    (hPatch : patchPod names newV4 sdpPod defaultVersion request store = (.ok ops, store')) (hOps : ops ≠ []) :
    ∃ s identity d doc patched, (∀ random, request.serviceId random = .ok s) ∧
      store.popDeviceId newV4 s = (.ok (identity, d), store') ∧
      applyPatch ops (toJson pod) = some doc ∧ ofJson doc = some patched ∧
      ∀ stored, request.Stores patched stored → Candidate.isCandidate stored = true ∧
        ∃ lookup, MaybeService.serviceId lookup = .ok s ∧
          ∀ random, PodWatcher.deleted parseStr random stored = some (.releaseDeviceId lookup d) := by
  obtain ⟨environment, hCreate, hOk⟩ := patchPod_ok hPatch
  obtain ⟨s, identity, d, hService, hPop, hName, hDevice⟩ :=
    PodEnvironment.fromIdentityStore_ok (PodEnvironment.create_of_no_secrets hObject hSecrets hCreate)
  have hNeeds : sdpPod.needsPatching request = true := by
    by_contra hNot
    have hSome : ∃ ns, request.namespace = some ns := by
      cases hNs : request.namespace with
      | some ns => exact ⟨ns, rfl⟩
      | none => simp [PodRequest.serviceId, hNs] at hService
    obtain ⟨ns, hNs⟩ := hSome
    have hEmpty : sdpPod.patch defaultVersion environment request = .ok [] :=
      SDPPod.patch_of_not_needsPatching hObject hNs (Bool.eq_false_iff.mpr hNot)
    exact hOps (Except.ok.inj (hOk.symm.trans hEmpty))
  obtain ⟨m, spec, status, ns, ip, version, rfl, hNs, hPatches⟩ := SDPPod.patch_effect hObject hNeeds hOk
  obtain ⟨doc, hApply, hDoc⟩ := hPatches (toJson (SDPPod.podOf m spec status)) (ofJson_toJson _)
  have hRequestName : ∀ random, request.name random = environment.podName := by
    intro random
    rw [hName, PodRequest.name, PodRequest.name, hObject]
    exact hNamed.namedName_eq random (names 5)
  have hServiceId : ∀ random, request.serviceId random = .ok (formatServiceId ns environment.podName) := by
    intro random
    simp only [PodRequest.serviceId, hNs, hRequestName]
  obtain rfl : formatServiceId ns environment.podName = s := Except.ok.inj ((hServiceId _).symm.trans hService)
  refine ⟨_, identity, d, doc, _, hServiceId, hPop, hApply, hDoc, ?_⟩
  intro stored hStored
  let filled := environment.fill sdpPod.k8sDnsService (SDPPod.podOf m spec status)
  have hAnnotations : stored.annotations = SDPPod.patchedAnnotations filled (SDPPod.podOf m spec status) :=
    hStored.annotations
  have hStoredCandidate : Candidate.isCandidate stored = true :=
    (isCandidate_of_patchedAnnotations filled _ hAnnotations).trans hCandidate
  have hInjected := hAnnotations.trans (patchedAnnotations_eq hDevice)
  let injected : InjectedPod :=
    { object := stored
      ns := ns
      name := environment.podName
      deviceId := d
      hNs := hStored.ns.trans hNs
      hName := by
        change stored.annotations.lookup _ = _
        rw [hInjected]
        exact annotation_podName_patch _ (SDPPod.podOf m spec status).pod
      hDeviceId := by
        change stored.annotations.lookup _ = _
        rw [hInjected]
        exact annotation_deviceId_patch _ (SDPPod.podOf m spec status).pod }
  refine ⟨hStoredCandidate, .new ns environment.podName none, rfl, fun random => ?_⟩
  exact (injected.deleted_eq hParse random).trans (if_pos hStoredCandidate)

section Samples

def sampleUuid : Uuid := ⟨"00000000-0000-0000-0000-000000000001", by decide⟩

def sampleStore : InMemoryIdentityStore :=
  (InMemoryIdentityStore.new.registerOrUpdate parseCanonical
    ⟨"ns-web", ⟨⟨"u", "user", "pw", "profile", some [sampleUuid.toString]⟩,
      "web", "ns", ∅, false⟩⟩ none).2

def sampleNamed : PodManifest :=
  SDPPod.podOf ⟨some "web", none, none, some (AList.singleton SDP_INJECTOR_ANNOTATION_ENABLED "1"), ∅⟩
    ⟨[SDPPod.sampleContainer "app"], none, none, none, none, none, ∅⟩ none

def sampleNamedRequest : PodRequest := ⟨some sampleNamed, some "ns"⟩

theorem released_device_id_sample : ∃ ops store' identity d doc, ∃ patched : PodManifest,
    patchPod (fun _ => sampleUuid) sampleUuid SDPPod.sampleSdpPod (some "6.6") sampleNamedRequest sampleStore =
      (.ok ops, store') ∧
    sampleStore.popDeviceId sampleUuid "ns_web" = (.ok (identity, d), store') ∧
    applyPatch ops (toJson sampleNamed) = some doc ∧ ofJson doc = some patched ∧
    ∃ lookup : ServiceLookup, MaybeService.serviceId lookup = .ok "ns_web" ∧
      PodWatcher.deleted parseCanonical sampleUuid { patched.pod with ns := some "ns" } =
        some (.releaseDeviceId lookup d) := by
  have hPatched : (patchPod (fun _ => sampleUuid) sampleUuid SDPPod.sampleSdpPod (some "6.6") sampleNamedRequest
      sampleStore).1.toOption.any (fun ops => ops ≠ []) = true := by decide +kernel
  cases hPatch : patchPod (fun _ => sampleUuid) sampleUuid SDPPod.sampleSdpPod (some "6.6") sampleNamedRequest
      sampleStore with
  | mk result store' =>
    rw [hPatch] at hPatched
    cases result with
    | error e => cases hPatched
    | ok ops =>
      obtain ⟨s, identity, d, doc, patched, hService, hPop, hApply, hDoc, hReleased⟩ :=
        released_device_id parseCanonical_toString rfl (by decide) (by decide)
          (.inr rfl) hPatch (of_decide_eq_true hPatched)
      obtain rfl : "ns_web" = s :=
        Except.ok.inj ((by decide : _ = sampleNamedRequest.serviceId sampleUuid).trans (hService _))
      obtain ⟨-, lookup, hLookup, hDeleted⟩ := hReleased { patched.pod with ns := some "ns" } ⟨rfl, rfl⟩
      exact ⟨ops, store', identity, d, doc, patched, rfl, hPop, hApply, hDoc, lookup, hLookup, hDeleted sampleUuid⟩

end Samples

end SdpK8sInjector.Injector
