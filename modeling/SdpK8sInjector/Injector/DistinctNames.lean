import SdpK8sInjector.Injector.PodFrame

/-! # The names in a patched pod

Containers are compared with the sidecars before a pod is patched. Its volumes, its
parameters of the kernel and its init containers are not.
-/

namespace SdpK8sInjector.Injector

open Lib Serde Common

def containerNames (pod : PodManifest) : List String := ((containers pod).getD []).map Container.name

def sysctlNames (pod : PodManifest) : List String :=
  (((securityContext pod).bind PodSecurityContext.sysctls).getD []).map Sysctl.name

/-- The names of the init containers count as those of containers. -/
def allContainerNames (pod : PodManifest) : List String :=
  containerNames pod ++ ((initContainers pod).getD []).map Container.name

structure DistinctNames (pod : PodManifest) : Prop where
  containers : (containerNames pod).Nodup
  volumes : ((volumeNames pod).getD []).Nodup
  sysctls : (sysctlNames pod).Nodup

namespace SDPSidecars

def allContainerNames (sidecars : SDPSidecars) : List String :=
  sidecars.containerNames ++ [sidecars.initContainers.1.name, sidecars.initContainers.2.name]

structure DistinctNames (sidecars : SDPSidecars) : Prop where
  containers : sidecars.containerNames.Nodup
  volumes : (sidecars.volumes.map Volume.name).Nodup

end SDPSidecars

namespace SDPPod

/-- What is added besides containers has other names than what the pod has. -/
structure NewNames (sdpPod : SDPPod) (pod : PodManifest) : Prop where
  volumes : ∀ name ∈ (volumeNames pod).getD [], name ∉ sdpPod.sdpSidecars.volumes.map Volume.name
  sysctls : K8S_VERSION_FOR_SAFE_SYSCTL ≤ sdpPod.k8sServerVersion →
    "net.ipv4.ip_unprivileged_port_start" ∉ sysctlNames pod

structure NewInitNames (sdpPod : SDPPod) (pod : PodManifest) (spec : PodSpec) : Prop where
  kept : ∀ c ∈ (initContainers pod).getD [], c.name ∉ sdpPod.sdpSidecars.containerNames
  added : WantsInitContainers pod spec →
    sdpPod.sdpSidecars.initContainers.1.name ∉ Injector.allContainerNames pod ∧
      sdpPod.sdpSidecars.initContainers.2.name ∉ Injector.allContainerNames pod

variable {sdpPod : SDPPod} {ns : String} {pod patched : PodManifest} {spec patchedSpec : PodSpec}
  {defaultVersion : Option String} {environment : PodEnvironment} {request : PodRequest} {ops : List AddOperation}

theorem not_sidecar_of_needsPatching (hObject : request.object = some pod)
    (hNeeds : sdpPod.needsPatching request = true) :
    ∀ name ∈ containerNames pod, name ∉ sdpPod.sdpSidecars.containerNames := by
  intro name hName hSidecar
  obtain ⟨c, hc, rfl⟩ := List.mem_map.mp hName
  cases hSome : containers pod with
  | none => simp [hSome] at hc
  | some cs =>
    rw [hSome, Option.getD_some] at hc
    have hMem : c ∈ cs.filter fun c => c.name ∈ sdpPod.sdpSidecars.containerNames :=
      List.mem_filter.mpr ⟨hc, decide_eq_true hSidecar⟩
    have hAny : sdpPod.hasAnySidecars request = true := by
      simp only [hasAnySidecars, sidecars, hObject, Option.bind_some, hSome, Option.map_some, Option.getD_some,
        decide_eq_true_eq]
      exact (List.length_pos_of_mem hMem).ne'
    rw [needsPatching, hAny, Bool.not_true, Bool.and_false] at hNeeds
    cases hNeeds

theorem names_of_sameButImageAndEnv {cs cs' : List Container} (h : List.Forall₂ SameButImageAndEnv cs cs') :
    cs'.map Container.name = cs.map Container.name := by
  induction h with
  | nil => rfl
  | cons hFirst _ ih => rw [List.map_cons, List.map_cons, ih, hFirst]

section Names

variable (hFrame : sdpPod.Frame ns pod spec patched patchedSpec) (hSpec : pod.spec = some spec)

include hFrame hSpec

theorem containerNames_patched :
    containerNames patched = containerNames pod ++ sdpPod.sdpSidecars.containerNames := by
  obtain ⟨sidecars, hContainers, hSame⟩ := hFrame.containers
  have hPatched : patched.spec = some patchedSpec := by rw [hFrame.pod_rest]
  simp [containerNames, containers, hPatched, hSpec, hContainers, names_of_sameButImageAndEnv hSame,
    SDPSidecars.containerNames]

theorem volumeNames_patched :
    (volumeNames patched).getD [] = (volumeNames pod).getD [] ++ sdpPod.sdpSidecars.volumes.map Volume.name := by
  have hPatched : patched.spec = some patchedSpec := by rw [hFrame.pod_rest]
  cases hVolumes : spec.volumes <;> simp [volumeNames, volumes, hPatched, hSpec, hFrame.volumes, hVolumes]

theorem sysctlNames_patched :
    sysctlNames patched =
      if K8S_VERSION_FOR_SAFE_SYSCTL ≤ sdpPod.k8sServerVersion then
        "net.ipv4.ip_unprivileged_port_start" :: sysctlNames pod
      else sysctlNames pod := by
  have hPatched : patched.spec = some patchedSpec := by rw [hFrame.pod_rest]
  unfold sysctlNames securityContext
  rw [hPatched, hSpec, Option.bind_some, Option.bind_some]
  split
  · rename_i hVersion
    rw [hFrame.securityContext hVersion]
    rfl
  · rename_i hVersion
    rw [hFrame.securityContext_kept (not_le.mp hVersion)]

theorem distinctNames_patched_iff (hPod : DistinctNames pod) (hSidecars : sdpPod.sdpSidecars.DistinctNames)
    (hNone : ∀ name ∈ containerNames pod, name ∉ sdpPod.sdpSidecars.containerNames) :
    DistinctNames patched ↔ sdpPod.NewNames pod := by
  have hContainers : (containerNames patched).Nodup := by
    rw [containerNames_patched hFrame hSpec]
    exact hPod.containers.append hSidecars.containers hNone
  have hVolumes : ((volumeNames patched).getD []).Nodup ↔
      ∀ name ∈ (volumeNames pod).getD [], name ∉ sdpPod.sdpSidecars.volumes.map Volume.name := by
    rw [volumeNames_patched hFrame hSpec, List.nodup_append']
    exact ⟨fun hAll => hAll.2.2, fun hNew => ⟨hPod.volumes, hSidecars.volumes, hNew⟩⟩
  have hSysctls : (sysctlNames patched).Nodup ↔ (K8S_VERSION_FOR_SAFE_SYSCTL ≤ sdpPod.k8sServerVersion →
      "net.ipv4.ip_unprivileged_port_start" ∉ sysctlNames pod) := by
    rw [sysctlNames_patched hFrame hSpec]
    split
    · rename_i hVersion
      rw [List.nodup_cons]
      exact ⟨fun hAll _ => hAll.1, fun hNew => ⟨hNew hVersion, hPod.sysctls⟩⟩
    · rename_i hVersion
      exact ⟨fun _ hLe => absurd hLe hVersion, fun _ => hPod.sysctls⟩
  constructor
  · intro hAll
    exact ⟨hVolumes.mp hAll.volumes, hSysctls.mp hAll.sysctls⟩
  · intro hNew
    exact ⟨hContainers, hVolumes.mpr hNew.volumes, hSysctls.mpr hNew.sysctls⟩

omit hFrame in
theorem initContainers_getD : (initContainers pod).getD [] = spec.initContainers.getD [] := by
  cases hInits : spec.initContainers with
  | none => simp [initContainers, hSpec, hInits]
  | some xs => cases xs <;> simp [initContainers, hSpec, hInits, Option.filter]

theorem allContainerNames_patched :
    (WantsInitContainers pod spec → (allContainerNames patched).Perm
      (allContainerNames pod ++ sdpPod.sdpSidecars.allContainerNames)) ∧
    (¬WantsInitContainers pod spec → (allContainerNames patched).Perm
      (allContainerNames pod ++ sdpPod.sdpSidecars.containerNames)) := by
  have hPatched : patched.spec = some patchedSpec := by rw [hFrame.pod_rest]
  unfold allContainerNames SDPSidecars.allContainerNames
  rw [containerNames_patched hFrame hSpec, initContainers_getD hSpec, initContainers_getD hPatched]
  constructor
  · intro hWants
    obtain ⟨first, last, hFirst, hLast, hInits⟩ := hFrame.initContainers hWants
    rw [hInits, Option.getD_some, hFirst, hLast, List.perm_iff_count]
    intro name
    simp only [List.map_append, List.map_cons, List.map_nil, List.count_append, List.count_cons, List.count_nil]
    omega
  · intro hUnwanted
    rw [hFrame.initContainers_kept hUnwanted, List.perm_iff_count]
    intro name
    simp only [List.count_append]
    omega

theorem nodup_allContainerNames_patched_iff (hPod : (allContainerNames pod).Nodup)
    (hSidecars : sdpPod.sdpSidecars.allContainerNames.Nodup)
    (hNone : ∀ name ∈ containerNames pod, name ∉ sdpPod.sdpSidecars.containerNames) :
    (allContainerNames patched).Nodup ↔ sdpPod.NewInitNames pod spec := by
  have hContainers : sdpPod.sdpSidecars.containerNames.Nodup := (List.nodup_append'.mp hSidecars).1
  have hKept : (allContainerNames pod).Disjoint sdpPod.sdpSidecars.containerNames ↔
      ∀ c ∈ (initContainers pod).getD [], c.name ∉ sdpPod.sdpSidecars.containerNames := by
    rw [allContainerNames, List.disjoint_append_left]
    exact ⟨fun h c hc => h.2 (List.mem_map_of_mem hc), fun h => ⟨hNone, fun name hName => by
      obtain ⟨c, hc, rfl⟩ := List.mem_map.mp hName
      exact h c hc⟩⟩
  obtain ⟨hWanted, hUnwanted⟩ := allContainerNames_patched hFrame hSpec
  by_cases hWants : WantsInitContainers pod spec
  · rw [(hWanted hWants).nodup_iff, List.nodup_append', SDPSidecars.allContainerNames,
      List.disjoint_append_right, hKept]
    constructor
    · rintro ⟨-, -, hInits, hNew⟩
      exact ⟨hInits, fun _ => ⟨fun hMem => hNew hMem (by simp), fun hMem => hNew hMem (by simp)⟩⟩
    · rintro ⟨hInits, hNew⟩
      obtain ⟨hFirst, hLast⟩ := hNew hWants
      refine ⟨hPod, hSidecars, hInits, fun name hName hAdded => ?_⟩
      rcases List.mem_pair.mp hAdded with rfl | rfl
      · exact hFirst hName
      · exact hLast hName
  · rw [(hUnwanted hWants).nodup_iff, List.nodup_append', hKept]
    constructor
    · rintro ⟨-, -, hInits⟩
      exact ⟨hInits, fun h => absurd h hWants⟩
    · rintro ⟨hInits, -⟩
      exact ⟨hPod, hContainers, hInits⟩

end Names

/-- The patch keeps the names of the containers distinct. It keeps those of the volumes and of the parameters exactly if
what it adds has other names, and so it is with the init containers. -/
theorem patched_names_distinct_iff (hObject : request.object = some pod) (hPod : DistinctNames pod)
    (hSidecars : sdpPod.sdpSidecars.DistinctNames)
    (hPatch : sdpPod.patch defaultVersion environment request = .ok ops) (doc : Json) (hDoc : ofJson doc = some pod) :
    ∃ doc' patched, applyPatch ops doc = some doc' ∧ ofJson doc' = some patched ∧
      (containerNames patched).Nodup ∧
      (DistinctNames patched ↔ (sdpPod.needsPatching request = true → sdpPod.NewNames pod)) ∧
      ((allContainerNames pod).Nodup → sdpPod.sdpSidecars.allContainerNames.Nodup →
        ((allContainerNames patched).Nodup ↔
          ∀ spec, pod.spec = some spec → sdpPod.needsPatching request = true →
            sdpPod.NewInitNames pod spec)) := by
  cases hNeeds : sdpPod.needsPatching request with
  | false =>
    have hNs : ∃ ns, request.namespace = some ns := by
      cases hNone : request.namespace with
      | none => simp [patch, hObject, hNone] at hPatch
      | some ns => exact ⟨ns, rfl⟩
    obtain ⟨ns, hNs⟩ := hNs
    cases (patch_of_not_needsPatching hObject hNs hNeeds).symm.trans hPatch
    refine ⟨doc, pod, rfl, hDoc, hPod.containers, ?_, fun hAll _ => ?_⟩
    · exact ⟨fun _ h => (by cases h), fun _ => hPod⟩
    · exact ⟨fun _ _ _ h => (by cases h), fun _ => hAll⟩
  | true =>
    obtain ⟨m, spec, status, ns, ip, version, rfl, hNs, hPatches⟩ := patch_effect hObject hNeeds hPatch
    obtain ⟨doc', hApply, hPatched⟩ := hPatches doc hDoc
    have hFrame := sdpPod.frame_patchedPod (environment.fill sdpPod.k8sDnsService (podOf m spec status)) m spec status
      ns ip version
    have hNone := not_sidecar_of_needsPatching hObject hNeeds
    have hDistinct := distinctNames_patched_iff hFrame rfl hPod hSidecars hNone
    refine ⟨doc', _, hApply, hPatched, ?_, ?_, fun hAll hInit => ?_⟩
    · rw [containerNames_patched hFrame rfl]
      exact hPod.containers.append hSidecars.containers hNone
    · exact hDistinct.trans ⟨fun hNew _ => hNew, fun hNew => hNew rfl⟩
    · refine (nodup_allContainerNames_patched_iff hFrame rfl hAll hInit hNone).trans ?_
      constructor
      · rintro hNew _ hSpec -
        cases hSpec
        exact hNew
      · exact fun hNew => hNew spec rfl rfl

section Samples

theorem sampleSdpPod_distinctNames : sampleSdpPod.sdpSidecars.DistinctNames := ⟨by decide, by decide⟩

theorem patched_names_distinct_sample : ∃ ops doc' patched,
    sampleSdpPod.patch (some "6.6") sampleEnvironment samplePodRequest = .ok ops ∧ ofJson doc' = some patched ∧
      DistinctNames patched := by
  have hNeeds : sampleSdpPod.needsPatching samplePodRequest = true := by decide
  obtain ⟨ops, hPatch, -⟩ : ∃ ops, sampleSdpPod.patch (some "6.6") sampleEnvironment samplePodRequest =
      .ok ops ∧ _ :=
    patch_of_needsPatching sampleEnvironment rfl rfl rfl hNeeds
  obtain ⟨doc', patched, -, hPatched, -, hDistinct, -⟩ :=
    patched_names_distinct_iff rfl ⟨by decide, by decide, by decide⟩ sampleSdpPod_distinctNames
      hPatch _ (ofJson_toJson _)
  exact ⟨ops, doc', patched, hPatch, hPatched, hDistinct.mpr fun _ => ⟨by decide, by decide⟩⟩

def sampleTakenNames : PodManifest :=
  podOf ⟨some "web-1", some "web-5d9-", none, none, ∅⟩
    ⟨[sampleContainer "app"], none, some [⟨"run-sdp", ∅⟩], none, none,
      some ⟨some [⟨"net.ipv4.ip_unprivileged_port_start", "1024"⟩], ∅⟩, ∅⟩ none

theorem taken_names_not_distinct : DistinctNames sampleTakenNames ∧ sampleSdpPod.sdpSidecars.DistinctNames ∧
    ∃ ops doc' patched,
      sampleSdpPod.patch (some "6.6") sampleEnvironment ⟨some sampleTakenNames, some "ns"⟩ = .ok ops ∧
        applyPatch ops (toJson sampleTakenNames) = some doc' ∧ ofJson doc' = some patched ∧
        ¬((volumeNames patched).getD []).Nodup ∧ ¬(sysctlNames patched).Nodup := by
  refine ⟨⟨by decide, by decide, by decide⟩, sampleSdpPod_distinctNames, ?_⟩
  have hNeeds : sampleSdpPod.needsPatching ⟨some sampleTakenNames, some "ns"⟩ = true := by decide
  obtain ⟨ops, hPatch, hPatches⟩ : ∃ ops,
      sampleSdpPod.patch (some "6.6") sampleEnvironment ⟨some sampleTakenNames, some "ns"⟩ = .ok ops ∧
        Patches ops sampleTakenNames _ :=
    patch_of_needsPatching sampleEnvironment rfl rfl rfl hNeeds
  obtain ⟨doc', hApply, hPatched⟩ := hPatches _ (ofJson_toJson _)
  exact ⟨ops, doc', _, hPatch, hApply, hPatched, by decide, by decide⟩

end Samples

end SDPPod

end SdpK8sInjector.Injector
