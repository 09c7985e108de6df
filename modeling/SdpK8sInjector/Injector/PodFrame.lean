import SdpK8sInjector.Injector.PatchedPods

/-! # What the patch leaves of a pod

The patched pod is the one that was submitted, with the sidecars added to it.
-/

namespace SdpK8sInjector.Injector

open Lib Serde Common

namespace SDPPod

/-- The keys under which the patch writes. -/
def writtenAnnotations : List String :=
  [SDP_INJECTOR_ANNOTATION_STRATEGY, SDP_INJECTOR_ANNOTATION_ENABLED, SDP_ANNOTATION_CLIENT_DEVICE_ID,
    SDP_INJECTOR_ANNOTATION_SERVICE_NAME, SDP_INJECTOR_ANNOTATION_SERVICE_ID, SDP_INJECTOR_ANNOTATION_POD_NAME]

def SameButEnv (c c' : Container) : Prop := c' = { c with env := c'.env }

def SameButImageAndEnv (c c' : Container) : Prop := c' = { c with image := c'.image, env := c'.env }

def DisablesInitContainers (pod : PodManifest) : Prop :=
  ∃ s, annotationOf pod SDP_INJECTOR_ANNOTATION_DISABLE_INIT_CONTAINERS = some s ∧ toLowercase s = "true"

/-- The init containers of the sidecars are added only to those of the pod. -/
def WantsInitContainers (pod : PodManifest) (spec : PodSpec) : Prop :=
  spec.initContainers.getD [] ≠ [] ∧ ¬DisablesInitContainers pod

/-- What is kept of a pod with the specification `spec`, and what is added to it. -/
structure Frame (sdpPod : SDPPod) (ns : String) (pod : PodManifest) (spec : PodSpec) (patched : PodManifest)
    (patchedSpec : PodSpec) : Prop where
  pod_rest : patched = { pod with
    metadata := { pod.metadata with annotations := patched.metadata.annotations }
    spec := some patchedSpec }
  annotations : ∃ annotations, patched.metadata.annotations = some annotations ∧
    ∀ key ∉ writtenAnnotations, annotations.lookup key = (pod.metadata.annotations.getD ∅).lookup key
  spec_rest : patchedSpec = { spec with
    containers := patchedSpec.containers
    initContainers := patchedSpec.initContainers
    volumes := patchedSpec.volumes
    dnsConfig := patchedSpec.dnsConfig
    dnsPolicy := patchedSpec.dnsPolicy
    securityContext := patchedSpec.securityContext }
  containers : ∃ sidecars, patchedSpec.containers = spec.containers ++ sidecars ∧
    List.Forall₂ SameButImageAndEnv sdpPod.sdpSidecars.containers sidecars
  initContainers : WantsInitContainers pod spec → ∃ first last,
    SameButEnv sdpPod.sdpSidecars.initContainers.1 first ∧ SameButEnv sdpPod.sdpSidecars.initContainers.2 last ∧
      patchedSpec.initContainers = some (first :: spec.initContainers.getD [] ++ [last])
  initContainers_kept : ¬WantsInitContainers pod spec → patchedSpec.initContainers = spec.initContainers
  volumes : patchedSpec.volumes = some (spec.volumes.getD [] ++ sdpPod.sdpSidecars.volumes)
  dnsConfig : patchedSpec.dnsConfig = some (sdpPod.podDnsConfig pod ns)
  dnsPolicy : patchedSpec.dnsPolicy = some "None"
  securityContext : K8S_VERSION_FOR_SAFE_SYSCTL ≤ sdpPod.k8sServerVersion →
    patchedSpec.securityContext = some { spec.securityContext.getD { sysctls := none } with
      sysctls := some (⟨"net.ipv4.ip_unprivileged_port_start", "0"⟩ ::
        (spec.securityContext.bind PodSecurityContext.sysctls).getD []) }
  securityContext_kept : sdpPod.k8sServerVersion < K8S_VERSION_FOR_SAFE_SYSCTL →
    patchedSpec.securityContext = spec.securityContext

section Patched

variable (sdpPod : SDPPod) (environment : PodEnvironment) (m : ManifestMeta) (spec : PodSpec)
  (status : Option PodStatus)

theorem lookup_patchedAnnotations (pod : PodManifest) {key : String} (hKey : key ∉ writtenAnnotations) :
    (patchedAnnotations environment pod).lookup key = (pod.metadata.annotations.getD ∅).lookup key := by
  simp only [writtenAnnotations, List.mem_cons, List.not_mem_nil, or_false, not_or] at hKey
  obtain ⟨hStrategy, hEnabled, hDeviceId, hServiceName, hServiceId, hPodName⟩ := hKey
  unfold patchedAnnotations
  rw [AList.lookup_insert_ne hPodName, AList.lookup_insert_ne hServiceId, AList.lookup_insert_ne hServiceName,
    AList.lookup_insert_ne hDeviceId, AList.lookup_insert_ne hEnabled, AList.lookup_insert_ne hStrategy]

theorem forall₂_patchedSidecars (pod : PodManifest) (version : String) :
    List.Forall₂ SameButImageAndEnv sdpPod.sdpSidecars.containers
    (sdpPod.patchedSidecars environment pod version) := by
  rw [patchedSidecars, List.forall₂_map_right_iff, List.forall₂_same]
  exact fun c _ => rfl

theorem patchedInitContainers_wanted (ip : String) (dnsConfig : PodDNSConfig)
    (h : WantsInitContainers (podOf m spec status) spec) : ∃ first last,
    SameButEnv sdpPod.sdpSidecars.initContainers.1 first ∧ SameButEnv sdpPod.sdpSidecars.initContainers.2 last ∧
      sdpPod.patchedInitContainers (podOf m spec status) ip dnsConfig =
        some (first :: spec.initContainers.getD [] ++ [last]) := by
  obtain ⟨hSome, hEnabled⟩ := h
  cases hInits : spec.initContainers with
  | none => exact absurd (by rw [hInits, Option.getD_none]) hSome
  | some xs =>
    have hXs : initContainers (podOf m spec status) = some xs := by
      rw [hInits, Option.getD_some] at hSome
      simp [initContainers, hInits, Option.filter, hSome]
    have hFlag : ((annotationOf (podOf m spec status) SDP_INJECTOR_ANNOTATION_DISABLE_INIT_CONTAINERS).map fun s =>
        decide (toLowercase s = "true")).getD false = false := by
      cases hText : annotationOf (podOf m spec status) SDP_INJECTOR_ANNOTATION_DISABLE_INIT_CONTAINERS with
      | none => rfl
      | some s => exact decide_eq_false fun hTrue => hEnabled ⟨s, hText, hTrue⟩
    unfold patchedInitContainers
    rw [hXs]
    simp only [hFlag]
    refine ⟨_, _, ?_, ?_, rfl⟩
    · rfl
    · rfl

theorem patchedInitContainers_unwanted (ip : String) (dnsConfig : PodDNSConfig)
    (h : ¬WantsInitContainers (podOf m spec status) spec) :
    sdpPod.patchedInitContainers (podOf m spec status) ip dnsConfig = none := by
  unfold patchedInitContainers
  cases hXs : initContainers (podOf m spec status) with
  | none => rfl
  | some xs =>
    obtain ⟨hInits, hSome⟩ := Option.filter_eq_some_iff.mp hXs
    have hInits : spec.initContainers = some xs := hInits
    have hDisabled : DisablesInitContainers (podOf m spec status) := by
      by_contra hEnabled
      refine h ⟨?_, hEnabled⟩
      rw [hInits, Option.getD_some]
      rintro rfl
      cases hSome
    obtain ⟨s, hText, hTrue⟩ := hDisabled
    simp [hText, hTrue]

theorem frame_patchedPod (ns ip version : String) :
    sdpPod.Frame ns (podOf m spec status) spec (sdpPod.patchedPod environment m spec status ns ip version)
      (sdpPod.patchedSpec environment m spec status ns ip version) where
  pod_rest := rfl
  annotations := ⟨_, rfl, fun _ => lookup_patchedAnnotations environment _⟩
  spec_rest := rfl
  containers := ⟨_, rfl, sdpPod.forall₂_patchedSidecars environment _ version⟩
  initContainers h := by
    obtain ⟨first, last, hFirst, hLast, hInits⟩ := sdpPod.patchedInitContainers_wanted m spec status ip
      (sdpPod.podDnsConfig (podOf m spec status) ns) h
    refine ⟨first, last, hFirst, hLast, ?_⟩
    rw [patchedSpec, hInits]
    rfl
  initContainers_kept h := by
    rw [patchedSpec, sdpPod.patchedInitContainers_unwanted m spec status ip _ h]
    rfl
  volumes := rfl
  dnsConfig := rfl
  dnsPolicy := rfl
  securityContext h := by
    rw [patchedSpec, if_pos h, patchedSecurityContext, securityContext]
    cases hContext : spec.securityContext <;> simp [hContext]
  securityContext_kept h := by rw [patchedSpec, if_neg (not_le.mpr h)]

end Patched

/-- The operation is on a member of the metadata or of the specification. -/
def OnMetadataOrSpec (op : String × Json) : Prop :=
  ∃ token rest, parsePointer op.1 = some (token :: rest) ∧ (token = "metadata" ∨ token = "spec")

theorem onMetadataOrSpec_annotationOperations (environment : PodEnvironment) (pod : PodManifest) :
    ∀ op ∈ annotationOperations environment pod, OnMetadataOrSpec op := by
  have hAnnotated : ∀ key value, '~' ∉ key.toList →
      OnMetadataOrSpec (annotationPath "/metadata/annotations" key, value) :=
    fun key value hKey =>
      ⟨"metadata", ["annotations", key],
        parsePointer_annotationPath parsePointer_metadata (by decide) hKey, .inl rfl⟩
  intro op hOp
  rcases List.mem_append.mp hOp with hEmpty | hOp
  · split at hEmpty
    · cases List.mem_singleton.mp hEmpty
      exact ⟨"metadata", ["annotations"], parsePointer_metadata, .inl rfl⟩
    · cases hEmpty
  · simp only [List.mem_cons, List.not_mem_nil, or_false] at hOp
    rcases hOp with rfl | rfl | rfl | rfl | rfl | rfl <;> exact hAnnotated _ _ (by decide)

theorem onMetadataOrSpec_specOperations (sdpPod : SDPPod) (environment : PodEnvironment) (pod : PodManifest)
    (ns ip version : String) : ∀ op ∈ sdpPod.specOperations environment pod ns ip version, OnMetadataOrSpec op := by
  have hSpec : ∀ path value rest, parsePointer path = some ("spec" :: rest) → OnMetadataOrSpec (path, value) :=
    fun path value rest hPath => ⟨"spec", rest, hPath, .inr rfl⟩
  intro op hOp
  simp only [specOperations, List.mem_append] at hOp
  rcases hOp with (((hOp | hOp) | hOp) | hOp) | hOp
  · obtain ⟨c, -, rfl⟩ := List.mem_map.mp hOp
    exact hSpec _ _ ["containers", "-"] (by decide)
  · split at hOp
    · cases List.mem_singleton.mp hOp
      exact hSpec _ _ ["initContainers"] (by decide)
    · cases hOp
  · split at hOp
    · obtain ⟨v, -, rfl⟩ := List.mem_map.mp hOp
      exact hSpec _ _ ["volumes", "-"] (by decide)
    · cases List.mem_singleton.mp hOp
      exact hSpec _ _ ["volumes"] (by decide)
  · rcases List.mem_pair.mp hOp with rfl | rfl
    · exact hSpec _ _ ["dnsConfig"] (by decide)
    · exact hSpec _ _ ["dnsPolicy"] (by decide)
  · split at hOp
    · cases List.mem_singleton.mp hOp
      exact hSpec _ _ ["securityContext"] (by decide)
    · cases hOp

variable {sdpPod : SDPPod} {defaultVersion : Option String} {environment : PodEnvironment} {request : PodRequest}
  {ops : List AddOperation} {pod : PodManifest}

theorem patch_onMetadataOrSpec (hPatch : sdpPod.patch defaultVersion environment request = .ok ops) :
    ∀ op ∈ ops, ∃ token rest, op.path = token :: rest ∧ (token = "metadata" ∨ token = "spec") := by
  unfold patch at hPatch
  split at hPatch
  · cases hPatch
  · cases hPatch
  · rename_i pod ns _ _
    dsimp only at hPatch
    split at hPatch
    · split at hPatch
      · cases hPatch
      · cases hPatch
      · rename_i ip version _
        cases hOps : addOperations (annotationOperations (environment.fill sdpPod.k8sDnsService pod) pod ++
            sdpPod.specOperations (environment.fill sdpPod.k8sDnsService pod) pod ns ip version) with
        | error e =>
          rw [hOps] at hPatch
          cases hPatch
        | ok parsed =>
          rw [hOps] at hPatch
          cases hPatch
          intro op hOp
          obtain ⟨source, hSource, hPath⟩ := path_of_addOperations hOps op hOp
          obtain ⟨token, rest, hToken, hOn⟩ : OnMetadataOrSpec source := by
            rcases List.mem_append.mp hSource with hSource | hSource
            · exact onMetadataOrSpec_annotationOperations _ _ source hSource
            · exact sdpPod.onMetadataOrSpec_specOperations _ _ _ _ _ source hSource
          exact ⟨token, rest, Option.some.inj (hPath.symm.trans hToken), hOn⟩
    · cases hPatch
      exact fun op hOp => by cases hOp

/-- The patch of a pod adds the sidecars, and leaves everything else of the pod as it was. -/
theorem pod_patch_frame (hObject : request.object = some pod) (hNeeds : sdpPod.needsPatching request = true)
    (hPatch : sdpPod.patch defaultVersion environment request = .ok ops) (doc : Json) (hDoc : ofJson doc = some pod) :
    ∃ doc' patched ns spec patchedSpec, applyPatch ops doc = some doc' ∧ ofJson doc' = some patched ∧
      request.namespace = some ns ∧ pod.spec = some spec ∧ sdpPod.Frame ns pod spec patched patchedSpec ∧
      ∀ key, key ≠ "metadata" → key ≠ "spec" → Json.child key doc' = Json.child key doc := by
  obtain ⟨m, spec, status, ns, ip, version, rfl, hNs, hPatches⟩ := patch_effect hObject hNeeds hPatch
  obtain ⟨doc', hApply, hPatched⟩ := hPatches doc hDoc
  refine ⟨doc', _, ns, spec, _, hApply, hPatched, hNs, rfl,
    sdpPod.frame_patchedPod _ m spec status ns ip version, ?_⟩
  intro key hMetadata hSpec
  obtain ⟨members, rfl⟩ := PodManifest.specField.ofObj doc _ hDoc
  have hOps : ∀ op ∈ ops, ∃ token rest, op.path = token :: rest ∧ key ≠ token := by
    intro op hOp
    obtain ⟨token, rest, hPath, hOn⟩ := patch_onMetadataOrSpec hPatch op hOp
    refine ⟨token, rest, hPath, ?_⟩
    rcases hOn with rfl | rfl
    · exact hMetadata
    · exact hSpec
  obtain ⟨members', rfl, hLookup⟩ := Json.applyPatch_frame hOps hApply
  exact hLookup

theorem pod_patch_frame_sample : ∃ ops pod doc' patched ns spec patchedSpec,
    sampleSdpPod.patch (some "6.6") sampleEnvironment samplePodRequest = .ok ops ∧
      samplePodRequest.object = some pod ∧ ofJson doc' = some patched ∧
      sampleSdpPod.Frame ns pod spec patched patchedSpec := by
  have hNeeds : sampleSdpPod.needsPatching samplePodRequest = true := by decide
  obtain ⟨ops, hPatch, -⟩ : ∃ ops, sampleSdpPod.patch (some "6.6") sampleEnvironment samplePodRequest =
      .ok ops ∧ _ :=
    patch_of_needsPatching sampleEnvironment rfl rfl rfl hNeeds
  obtain ⟨doc', patched, ns, spec, patchedSpec, -, hPatched, -, -, hFrame, -⟩ :=
    pod_patch_frame rfl hNeeds hPatch _ (ofJson_toJson _)
  exact ⟨ops, _, doc', patched, ns, spec, patchedSpec, hPatch, rfl, hPatched, hFrame⟩

end SDPPod

end SdpK8sInjector.Injector
