import SdpK8sInjector.Injector.Patching

/-! # Patched pods

The patch of a pod applies to the pod, and makes of it one that has the sidecars.
-/

namespace SdpK8sInjector.Injector

open Lib Serde Common

namespace SDPPod

abbrev podOf (m : ManifestMeta) (spec : PodSpec) (status : Option PodStatus) : PodManifest := ⟨m, some spec, status⟩

/-- The annotations that the patch leaves, where there were `annotations`. -/
def patchedAnnotations (environment : PodEnvironment) (pod : PodManifest) : HashMap String String :=
  let strategy := injectionStrategy pod
  let injectionEnabled :=
    toString (((annotationOf pod SDP_INJECTOR_ANNOTATION_ENABLED).map fun s => decide (s = "true")).getD
    (decide (strategy = .enabledByDefault)))
  AList.insert SDP_INJECTOR_ANNOTATION_POD_NAME environment.podName <|
  AList.insert SDP_INJECTOR_ANNOTATION_SERVICE_ID environment.serviceId <|
  AList.insert SDP_INJECTOR_ANNOTATION_SERVICE_NAME environment.serviceName <|
  AList.insert SDP_ANNOTATION_CLIENT_DEVICE_ID environment.clientDeviceId <|
  AList.insert SDP_INJECTOR_ANNOTATION_ENABLED
    ((annotationOf pod SDP_INJECTOR_ANNOTATION_ENABLED).getD injectionEnabled) <|
  AList.insert SDP_INJECTOR_ANNOTATION_STRATEGY (SDPInjectionStrategy.toString strategy) <|
  pod.metadata.annotations.getD ∅

section Effects

variable (sdpPod : SDPPod) (environment : PodEnvironment) (m : ManifestMeta) (spec : PodSpec)
  (status : Option PodStatus)

theorem effect_annotationOperations : Effect (annotationOperations environment (podOf m spec status))
    (podOf m spec status)
    (podOf (m.withAnnotations (patchedAnnotations environment (podOf m spec status))) spec status) := by
  have hAnnotated := effect_annotated PodManifest.metadataField "/metadata/annotations" (a := podOf m spec status)
    rfl rfl parsePointer_metadata
  refine hAnnotated.append ?_
  refine .cons (effect_annotate PodManifest.metadataField rfl parsePointer_metadata (by decide) (by decide)) ?_
  refine .cons (effect_annotate PodManifest.metadataField rfl parsePointer_metadata (by decide) (by decide)) ?_
  refine .cons (effect_annotate PodManifest.metadataField rfl parsePointer_metadata (by decide) (by decide)) ?_
  refine .cons (effect_annotate PodManifest.metadataField rfl parsePointer_metadata (by decide) (by decide)) ?_
  refine .cons (effect_annotate PodManifest.metadataField rfl parsePointer_metadata (by decide) (by decide)) ?_
  exact effect_annotate PodManifest.metadataField rfl parsePointer_metadata (by decide) (by decide)

theorem effect_push_containers (cs : List Container) : Effect (cs.map fun c => ("/spec/containers/-", toJson c))
    (podOf m spec status) (podOf m { spec with containers := spec.containers ++ cs } status) := by
  induction cs generalizing spec with
  | nil =>
    rw [List.append_nil]
    exact .nil _
  | cons c cs ih =>
    have hPush : Effect [("/spec/containers/-", toJson c)] (podOf m spec status)
        (podOf m { spec with containers := spec.containers ++ [c] } status) :=
      .singleton (by decide : parsePointer "/spec/containers/-" = some ["spec", "containers", "-"]) <|
        PodManifest.specField.patches_below rfl (PodSpec.containersField.patches_below rfl (patches_push c _))
    have hRest := ih { spec with containers := spec.containers ++ [c] }
    rw [List.append_assoc] at hRest
    exact hPush.cons hRest

theorem effect_push_volumes (vs xs : List Volume) (hVolumes : spec.volumes = some xs) :
    Effect (vs.map fun v => ("/spec/volumes/-", toJson v)) (podOf m spec status)
      (podOf m { spec with volumes := some (xs ++ vs) } status) := by
  induction vs generalizing spec xs with
  | nil =>
    rw [List.append_nil, ← hVolumes]
    exact .nil _
  | cons v vs ih =>
    have hPush : Effect [("/spec/volumes/-", toJson v)] (podOf m spec status)
        (podOf m { spec with volumes := some (xs ++ [v]) } status) :=
      .singleton (by decide : parsePointer "/spec/volumes/-" = some ["spec", "volumes", "-"]) <|
        PodManifest.specField.patches_below rfl (PodSpec.volumesField.patches_below hVolumes (patches_push v xs))
    have hRest := ih { spec with volumes := some (xs ++ [v]) } (xs ++ [v]) rfl
    rw [List.append_assoc] at hRest
    exact hPush.cons hRest

theorem effect_set {β : Type} [Serde β] (field : RecordField PodSpec β) {path : String}
    (hPath : parsePointer path = some ["spec", field.key]) (b : β) :
    Effect [(path, toJson b)] (podOf m spec status) (podOf m (field.set b spec) status) :=
  .singleton hPath (PodManifest.specField.patches_below rfl (field.patches_set b spec))

def podDnsConfig (pod : PodManifest) (ns : String) : PodDNSConfig :=
  sdpPod.sdpSidecars.dnsConfig ns ((annotationOf pod SDP_ANNOTATION_DNS_SEARCHES).map searchesStringToVec)

def patchedSpec (ns ip version : String) : PodSpec where
  containers := spec.containers ++ sdpPod.patchedSidecars environment (podOf m spec status) version
  initContainers := (sdpPod.patchedInitContainers (podOf m spec status) ip
    (sdpPod.podDnsConfig (podOf m spec status) ns)).or spec.initContainers
  volumes := some (spec.volumes.getD [] ++ sdpPod.sdpSidecars.volumes)
  dnsConfig := some (sdpPod.podDnsConfig (podOf m spec status) ns)
  dnsPolicy := some "None"
  securityContext := if K8S_VERSION_FOR_SAFE_SYSCTL ≤ sdpPod.k8sServerVersion then
    some (patchedSecurityContext (podOf m spec status)) else spec.securityContext
  other := spec.other

theorem effect_initContainers (inits : Option (List Container)) : Effect (match inits with
    | some xs => [("/spec/initContainers", toJson xs)]
    | none =>
      []) (podOf m spec status) (podOf m { spec with initContainers := inits.or spec.initContainers } status) := by
  cases inits with
  | none => exact .nil _
  | some xs => exact effect_set m spec status PodSpec.initContainersField (by decide) xs

theorem effect_specOperations (m' : ManifestMeta) (ns ip version : String) :
    Effect (sdpPod.specOperations environment (podOf m spec status) ns ip version) (podOf m' spec status)
      (podOf m' (sdpPod.patchedSpec environment m spec status ns ip version) status) := by
  let pod := podOf m spec status
  let dnsConfig := sdpPod.podDnsConfig pod ns
  let spec₁ : PodSpec := { spec with containers := spec.containers ++ sdpPod.patchedSidecars environment pod version }
  let inits := sdpPod.patchedInitContainers pod ip dnsConfig
  let spec₂ : PodSpec := { spec₁ with initContainers := inits.or spec.initContainers }
  let spec₃ : PodSpec := { spec₂ with volumes := some (spec.volumes.getD [] ++ sdpPod.sdpSidecars.volumes) }
  let spec₄ : PodSpec := { spec₃ with dnsConfig := some dnsConfig, dnsPolicy := some "None" }
  have hContainers := effect_push_containers m' spec status (sdpPod.patchedSidecars environment pod version)
  have hInits := effect_initContainers m' spec₁ status inits
  have hVolumes : Effect (if (volumes pod).isSome then
      sdpPod.sdpSidecars.volumes.map fun v => ("/spec/volumes/-", toJson v)
      else [("/spec/volumes", toJson sdpPod.sdpSidecars.volumes)]) (podOf m' spec₂ status)
      (podOf m' spec₃ status) := by
    change Effect (if spec.volumes.isSome then _ else _) _
      (podOf m' { spec₂ with volumes := some (spec.volumes.getD [] ++ sdpPod.sdpSidecars.volumes) } status)
    cases hSpec : spec.volumes with
    | none => exact effect_set m' spec₂ status PodSpec.volumesField (by decide) sdpPod.sdpSidecars.volumes
    | some vs => exact effect_push_volumes m' spec₂ status sdpPod.sdpSidecars.volumes vs hSpec
  have hDns : Effect [("/spec/dnsConfig", toJson dnsConfig), ("/spec/dnsPolicy", toJson "None")]
      (podOf m' spec₃ status)
      (podOf m' spec₄ status) :=
    .cons (effect_set m' spec₃ status PodSpec.dnsConfigField (by decide) dnsConfig) <|
      effect_set m' { spec₃ with dnsConfig := some dnsConfig } status PodSpec.dnsPolicyField (by decide) "None"
  have hSysctl : Effect (if K8S_VERSION_FOR_SAFE_SYSCTL ≤ sdpPod.k8sServerVersion then
      [("/spec/securityContext", toJson (patchedSecurityContext pod))] else []) (podOf m' spec₄ status)
      (podOf m' (sdpPod.patchedSpec environment m spec status ns ip version) status) := by
    unfold patchedSpec
    split
    · exact effect_set m' spec₄ status PodSpec.securityContextField (by decide) (patchedSecurityContext pod)
    · exact .nil _
  exact (((hContainers.append hInits).append hVolumes).append hDns).append hSysctl

end Effects

/-- The pod that the patch makes of one that needs it. -/
def patchedPod (sdpPod : SDPPod) (environment : PodEnvironment) (m : ManifestMeta) (spec : PodSpec)
    (status : Option PodStatus) (ns ip version : String) : PodManifest :=
  podOf (m.withAnnotations (patchedAnnotations environment (podOf m spec status)))
    (sdpPod.patchedSpec environment m spec status ns ip version) status

variable {sdpPod : SDPPod} {defaultVersion : Option String} (environment : PodEnvironment) {request : PodRequest}
  {ops : List AddOperation}

theorem patch_of_needsPatching {m : ManifestMeta} {spec : PodSpec} {status : Option PodStatus} {ns ip version : String}
    (hObject : request.object = some (podOf m spec status)) (hNs : request.namespace = some ns)
    (hIp : maybeIp sdpPod.k8sDnsService = some ip) (hNeeds : sdpPod.needsPatching request = true) :
    ∃ ops, sdpPod.patch (some version) environment request = .ok ops ∧ Patches ops (podOf m spec status)
      (sdpPod.patchedPod (environment.fill sdpPod.k8sDnsService (podOf m spec status))
        m spec status ns ip version) := by
  let filled := environment.fill sdpPod.k8sDnsService (podOf m spec status)
  obtain ⟨ops, hOps, hPatches⟩ := (effect_annotationOperations filled m spec status).append
    (effect_specOperations sdpPod filled m spec status _ ns ip version)
  refine ⟨ops, ?_, hPatches⟩
  simp only [patch, hObject, hNs, hNeeds, hIp, if_true]
  rw [hOps]
  rfl

variable {environment} in
theorem patch_effect {pod : PodManifest} (hObject : request.object = some pod)
    (hNeeds : sdpPod.needsPatching request = true)
    (hPatch : sdpPod.patch defaultVersion environment request = .ok ops) :
    ∃ m spec status ns ip version, pod = podOf m spec status ∧ request.namespace = some ns ∧
      Patches ops pod
        (sdpPod.patchedPod (environment.fill sdpPod.k8sDnsService pod) m spec status ns ip version) := by
  obtain ⟨m, spec, status⟩ := pod
  cases spec with
  | none => simp [needsPatching, hObject, containers] at hNeeds
  | some spec =>
    cases hNs : request.namespace with
    | none => simp [patch, hObject, hNs] at hPatch
    | some ns =>
      cases hIp : maybeIp sdpPod.k8sDnsService with
      | none => simp [patch, hObject, hNs, hNeeds, hIp] at hPatch
      | some ip =>
        cases defaultVersion with
        | none => simp [patch, hObject, hNs, hNeeds, hIp] at hPatch
        | some version =>
          obtain ⟨ops', hOps, hPatches⟩ := patch_of_needsPatching environment hObject hNs hIp hNeeds
          obtain rfl := Except.ok.inj (hOps.symm.trans hPatch)
          exact ⟨m, spec, status, ns, ip, version, rfl, rfl, hPatches⟩

theorem names_patchedSidecars (pod : PodManifest) (version : String) :
    (sdpPod.patchedSidecars environment pod version).map Container.name = sdpPod.sdpSidecars.containerNames := by
  simp [patchedSidecars, SDPSidecars.containerNames, Function.comp_def]

section Patched

variable (m : ManifestMeta) (spec : PodSpec) (status : Option PodStatus) (ns ip version : String)

theorem mem_sidecarNames_patchedPod {name : String} (hName : name ∈ sdpPod.sdpSidecars.containerNames) :
    ∃ c ∈ (spec.containers ++ sdpPod.patchedSidecars environment (podOf m spec status) version).filter
      (fun c => c.name ∈ sdpPod.sdpSidecars.containerNames), c.name = name := by
  rw [← names_patchedSidecars environment (podOf m spec status) version] at hName
  obtain ⟨c, hc, rfl⟩ := List.mem_map.mp hName
  refine ⟨c, List.mem_filter.mpr ⟨List.mem_append_right _ hc, ?_⟩, rfl⟩
  rw [decide_eq_true_eq, ← names_patchedSidecars environment (podOf m spec status) version]
  exact List.mem_map_of_mem hc

theorem validate_patchedPod : sdpPod.validate
    { request with object := some (sdpPod.patchedPod environment m spec status ns ip version) } = .ok () := by
  have hContainers : sdpPod.sdpSidecars.containerNames ⊆ (sdpPod.sidecarNames
      { request with object := some (sdpPod.patchedPod environment m spec status ns ip version) }).getD [] := by
    intro name hName
    obtain ⟨c, hc, rfl⟩ := mem_sidecarNames_patchedPod environment m spec status version hName
    exact List.mem_map_of_mem hc
  have hVolumes : sdpPod.sdpSidecars.volumes.map Volume.name ⊆
      (volumeNames (sdpPod.patchedPod environment m spec status ns ip version)).getD [] := by
    intro name hName
    obtain ⟨v, hv, rfl⟩ := List.mem_map.mp hName
    change v.name ∈ (spec.volumes.getD [] ++ sdpPod.sdpSidecars.volumes).map Volume.name
    exact List.mem_map_of_mem (List.mem_append_right _ hv)
  simp only [validate, hContainers, hVolumes]
  rfl

theorem needsPatching_patchedPod (hSidecars : sdpPod.sdpSidecars.containers ≠ []) : sdpPod.needsPatching
    { request with object := some (sdpPod.patchedPod environment m spec status ns ip version) } = false := by
  obtain ⟨first, hFirst⟩ := List.exists_mem_of_ne_nil _ hSidecars
  obtain ⟨c, hc, -⟩ := mem_sidecarNames_patchedPod environment m spec status version
    (List.mem_map_of_mem hFirst : first.name ∈ sdpPod.sdpSidecars.containerNames)
  have hAny : sdpPod.hasAnySidecars
      { request with object := some (sdpPod.patchedPod environment m spec status ns ip version) } = true := by
    change decide (List.length _ ≠ 0) = true
    rw [decide_eq_true_eq]
    exact List.length_pos_of_mem hc |>.ne'
  rw [needsPatching, hAny, Bool.not_true, Bool.and_false]

end Patched

theorem needsPatching_of_containers {pod : PodManifest} (hObject : request.object = some pod)
    (hContainers : (containers pod).getD [] ≠ [])
    (hNone : ∀ c ∈ (containers pod).getD [], c.name ∉ sdpPod.sdpSidecars.containerNames) :
    sdpPod.needsPatching request = true := by
  cases hSome : containers pod with
  | none => simp [hSome] at hContainers
  | some cs =>
    rw [hSome, Option.getD_some] at hContainers hNone
    have hFilter : (cs.filter fun c => c.name ∈ sdpPod.sdpSidecars.containerNames) = [] :=
      List.filter_eq_nil_iff.mpr fun c hc => by simpa using hNone c hc
    simp [needsPatching, hasAnySidecars, sidecars, hObject, hSome, hFilter, List.length_pos_iff, hContainers]

variable {environment} in
theorem patch_of_not_needsPatching {pod : PodManifest} {ns : String} (hObject : request.object = some pod)
    (hNs : request.namespace = some ns) (hNeeds : sdpPod.needsPatching request = false) :
    sdpPod.patch defaultVersion environment request = .ok [] := by
  simp [patch, hObject, hNs, hNeeds]

variable {environment} in
/-- The patch applies, and leaves a pod that is valid and needs no other. -/
theorem patched_pod_settled {pod : PodManifest} (hObject : request.object = some pod)
    (hContainers : (containers pod).getD [] ≠ [])
    (hNone : ∀ c ∈ (containers pod).getD [], c.name ∉ sdpPod.sdpSidecars.containerNames)
    (hSidecars : sdpPod.sdpSidecars.containers ≠ [])
    (hPatch : sdpPod.patch defaultVersion environment request = .ok ops) :
    ∃ doc patched, applyPatch ops (toJson pod) = some doc ∧ ofJson doc = some patched ∧
      sdpPod.validate { request with object := some patched } = .ok () ∧
      sdpPod.needsPatching { request with object := some patched } = false ∧
      ∀ environment', sdpPod.patch defaultVersion environment' { request with object := some patched } = .ok [] := by
  have hNeeds := needsPatching_of_containers hObject hContainers hNone
  obtain ⟨m, spec, status, ns, ip, version, rfl, hNs, hPatches⟩ := patch_effect hObject hNeeds hPatch
  obtain ⟨doc, hApply, hDoc⟩ := hPatches (toJson (podOf m spec status)) (ofJson_toJson _)
  let filled := environment.fill sdpPod.k8sDnsService (podOf m spec status)
  let patched := sdpPod.patchedPod filled m spec status ns ip version
  have hSettled : sdpPod.needsPatching { request with object := some patched } = false :=
    needsPatching_patchedPod filled m spec status ns ip version hSidecars
  have hNs' : PodRequest.namespace { request with object := some patched } = some ns := by
    rw [PodRequest.namespace, hObject] at hNs
    exact hNs
  exact ⟨doc, patched, hApply, hDoc, validate_patchedPod filled m spec status ns ip version, hSettled,
    fun environment' => patch_of_not_needsPatching rfl hNs' hSettled⟩

section Samples

def sampleContainer (name : String) : Container := ⟨name, some "repo/sdp:6.5", none, ∅⟩

def sampleSdpPod : SDPPod :=
  ⟨⟨(sampleContainer "init-0", sampleContainer "init-f"),
    [sampleContainer "sdp-service", sampleContainer "sdp-driver"],
    [⟨"run-sdp", ∅⟩], "svc.cluster.local cluster.local"⟩, some ⟨some "10.0.0.10"⟩, 30⟩

def sampleEnvironment : PodEnvironment :=
  ⟨"web", "ns_web", "ns-web", "config", "secrets", "profile", "user", "password", "device", "0", none⟩

def samplePodRequest : PodRequest :=
  ⟨some (podOf ⟨some "web-1", some "web-5d9-", none, none, ∅⟩ ⟨[sampleContainer "app"],
    none, none, none, none, none, ∅⟩ none),
    some "ns"⟩

theorem patched_pod_settled_sample : ∃ ops doc patched,
    sampleSdpPod.patch (some "6.6") sampleEnvironment samplePodRequest = .ok ops ∧
      ofJson doc = some patched ∧ sampleSdpPod.validate { samplePodRequest with object := some patched } = .ok () ∧
      sampleSdpPod.needsPatching { samplePodRequest with object := some patched } = false := by
  have hNeeds : sampleSdpPod.needsPatching samplePodRequest = true := by decide
  obtain ⟨ops, hPatch, -⟩ : ∃ ops, sampleSdpPod.patch (some "6.6") sampleEnvironment samplePodRequest =
      .ok ops ∧ _ :=
    patch_of_needsPatching sampleEnvironment rfl rfl rfl hNeeds
  obtain ⟨doc, patched, -, hDoc, hValid, hSettled, -⟩ :=
    patched_pod_settled rfl (by decide) (by decide) (by decide) hPatch
  exact ⟨ops, doc, patched, hPatch, hDoc, hValid, hSettled⟩

end Samples

end SDPPod

end SdpK8sInjector.Injector
