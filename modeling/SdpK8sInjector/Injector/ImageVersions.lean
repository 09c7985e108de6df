import SdpK8sInjector.Injector.PatchedPods

/-! # The version of the images of the sidecars

What follows the last colon of an image is taken for its tag. In an image without
a tag this is the port of the registry and the path behind it.
-/

namespace SdpK8sInjector.Injector

open Lib Serde Common

/-- A colon in the repository is that of a host with a port, and a path follows. -/
structure ImageReference where
  repository : String
  tag : Option String
  path : ∀ before after, repository.toList = before ++ ':' :: after → '/' ∈ after
  plain : ∀ t ∈ tag, ':' ∉ t.toList ∧ '/' ∉ t.toList

def ImageReference.text (image : ImageReference) : String :=
  match image.tag with
  | some tag => image.repository ++ ":" ++ tag
  | none => image.repository

section Trimming

variable {pattern s : List Char}

theorem trimEndMatches_of_not_suffix (h : ¬pattern <:+ s) (n : Nat) : trimEndMatches pattern n s = s := by
  cases n with
  | zero => rfl
  | succ n => rw [trimEndMatches, if_neg fun hMatch => h (List.isSuffixOf_iff_suffix.mp hMatch.2)]

theorem trimEndMatches_append (hNonempty : pattern ≠ []) (n : Nat) :
    trimEndMatches pattern (n + 1) (s ++ pattern) = trimEndMatches pattern n s := by
  rw [trimEndMatches, if_pos ⟨hNonempty, List.isSuffixOf_iff_suffix.mpr (List.suffix_append s pattern)⟩,
    List.length_append, Nat.add_sub_cancel, List.take_left' rfl]

theorem length_trimEndMatches_le (n : Nat) (s : List Char) : (trimEndMatches pattern n s).length ≤ s.length := by
  induction n generalizing s with
  | zero => exact Nat.le_refl _
  | succ n ih =>
    rw [trimEndMatches]
    split
    · have hRest := ih (s.take (s.length - pattern.length))
      rw [List.length_take] at hRest
      omega
    · exact Nat.le_refl _

end Trimming

theorem getLast_splitOn {before after : List Char} (hAfter : ':' ∉ after) :
    ((before ++ ':' :: after).splitOn ':').getLast?.getD [] = after := by
  rw [List.splitOn_append_cons_self, List.splitOn_eq_singleton hAfter, List.getLast?_append]
  rfl

theorem exists_last_colon {cs : List Char} (h : ':' ∈ cs) : ∃ before after, cs = before ++ ':' :: after ∧
    ':' ∉ after := by
  obtain ⟨xs, ys, hSplit, hFirst⟩ := List.eq_append_cons_of_mem (List.mem_reverse.mpr h)
  refine ⟨ys.reverse, xs.reverse, ?_, fun hMem => hFirst (List.mem_reverse.mp hMem)⟩
  rw [← List.reverse_reverse cs, hSplit]
  simp

/-- The version takes the place of the tag exactly if there is one or the repository has no port. -/
theorem imageWithVersion_iff (image : ImageReference) (version : String) :
    imageWithVersion image.text version = image.repository ++ ":" ++ version ↔
      image.tag.isSome = true ∨ ':' ∉ image.repository.toList := by
  cases hTag : image.tag with
  | some tag =>
    refine iff_of_true ?_ (.inl rfl)
    obtain ⟨hPlain, hPath⟩ := image.plain tag hTag
    have hText : image.text.toList = image.repository.toList ++ ':' :: tag.toList := by simp [ImageReference.text, hTag]
    have hOnce : ¬(':' :: tag.toList) <:+ image.repository.toList := by
      rintro ⟨before, hBefore⟩
      exact hPath (image.path before tag.toList hBefore.symm)
    have hLength : image.text.toList.length = (image.repository.toList.length + tag.toList.length) + 1 := by
      simp [hText, Nat.add_assoc]
    rw [imageWithVersion, hLength, hText, getLast_splitOn hPlain, trimEndMatches_append (List.cons_ne_nil _ _),
      trimEndMatches_of_not_suffix hOnce, String.ofList_toList]
  | none =>
    have hText : image.text = image.repository := by simp [ImageReference.text, hTag]
    rw [hText]
    by_cases hPort : ':' ∈ image.repository.toList
    · refine iff_of_false (fun hSame => ?_) ?_
      · -- the port and the path are cut off with the colon before them
        obtain ⟨before, after, hSplit, hLast⟩ := exists_last_colon hPort
        have hLength : image.repository.toList.length = (before.length + after.length) + 1 := by
          simp [hSplit, Nat.add_assoc]
        rw [imageWithVersion, hLength, hSplit, getLast_splitOn hLast,
          trimEndMatches_append (List.cons_ne_nil _ _)] at hSame
        have hLengths := congrArg (fun s => s.toList.length) hSame
        simp only [String.toList_append, String.toList_ofList, List.length_append] at hLengths
        have hShort : (trimEndMatches (':' :: after) (before.length + after.length) before).length ≤ before.length :=
          length_trimEndMatches_le _ before
        omega
      · rintro (hSome | hNot)
        · cases hSome
        · exact hNot hPort
    · refine iff_of_true ?_ (.inr hPort)
      have hWhole : (image.repository.toList.splitOn ':').getLast?.getD [] = image.repository.toList := by
        rw [List.splitOn_eq_singleton hPort]
        rfl
      have hLonger : ¬(':' :: image.repository.toList) <:+ image.repository.toList := by
        intro hSuffix
        have hLength := hSuffix.length_le
        rw [List.length_cons] at hLength
        omega
      rw [imageWithVersion, hWhole, trimEndMatches_of_not_suffix hLonger, String.ofList_toList]

/-- The image of a sidecar in a patched pod has the version in place of its tag exactly if it has a tag or its
repository has no port. The sidecars follow the containers of the pod. -/
theorem sidecar_version_iff {sdpPod : SDPPod} {environment : PodEnvironment} {request : PodRequest} {pod : PodManifest}
    {defaultVersion : String} {ops : List AddOperation} (hObject : request.object = some pod)
    (hNeeds : sdpPod.needsPatching request = true)
    (hPatch : sdpPod.patch (some defaultVersion) environment request = .ok ops) :
    ∃ doc patched, applyPatch ops (toJson pod) = some doc ∧ ofJson doc = some patched ∧
      ∀ i c image, sdpPod.sdpSidecars.containers[i]? = some c → c.image = some (ImageReference.text image) →
        ((((containers patched).getD [])[((containers pod).getD []).length + i]?).bind Container.image =
            some (image.repository ++ ":" ++
              ((annotationOf pod SDP_INJECTOR_ANNOTATION_CLIENT_VERSION).getD defaultVersion)) ↔
          image.tag.isSome = true ∨ ':' ∉ image.repository.toList) := by
  obtain ⟨m, spec, status⟩ := pod
  cases spec with
  | none => simp [SDPPod.needsPatching, hObject, containers] at hNeeds
  | some spec =>
    obtain ⟨ns, hNs⟩ : ∃ ns, request.namespace = some ns := by
      rw [← Option.ne_none_iff_exists']
      intro hNs
      simp [SDPPod.patch, hObject, hNs] at hPatch
    obtain ⟨ip, hIp⟩ : ∃ ip, maybeIp sdpPod.k8sDnsService = some ip := by
      rw [← Option.ne_none_iff_exists']
      intro hIp
      simp [SDPPod.patch, hObject, hNs, hNeeds, hIp] at hPatch
    obtain ⟨ops', hPatch', hPatches⟩ := SDPPod.patch_of_needsPatching environment hObject hNs hIp hNeeds
    cases hPatch'.symm.trans hPatch
    obtain ⟨doc, hApply, hDoc⟩ := hPatches (toJson (SDPPod.podOf m spec status)) (ofJson_toJson _)
    refine ⟨doc, _, hApply, hDoc, fun i c image hSidecar hImage => ?_⟩
    let filled := environment.fill sdpPod.k8sDnsService (SDPPod.podOf m spec status)
    rw [← imageWithVersion_iff]
    change ((spec.containers ++ sdpPod.patchedSidecars filled (SDPPod.podOf m spec status) defaultVersion)[
      spec.containers.length + i]?).bind Container.image = _ ↔ _
    rw [List.getElem?_append_right (Nat.le_add_right _ _), Nat.add_sub_cancel_left,
      SDPPod.patchedSidecars, List.getElem?_map,
      hSidecar, Option.map_some, Option.bind_some, hImage, Option.map_some, Option.some.injEq]

def sampleReference : ImageReference where
  repository := "repo/sdp"
  tag := some "6.5"
  path before after h := absurd (h ▸ List.mem_append_right before List.mem_cons_self)
    (by decide : ':' ∉ "repo/sdp".toList)
  plain t ht := by
    cases ht
    decide

theorem sidecar_version_sample : ∃ ops doc patched,
    SDPPod.sampleSdpPod.patch (some "6.6") SDPPod.sampleEnvironment SDPPod.samplePodRequest = .ok ops ∧
      ofJson doc = some patched ∧
      (((containers patched).getD [])[1]?).bind Container.image = some "repo/sdp:6.6" := by
  have hNeeds : SDPPod.sampleSdpPod.needsPatching SDPPod.samplePodRequest = true := by decide
  obtain ⟨ops, hPatch, -⟩ :
      ∃ ops, SDPPod.sampleSdpPod.patch (some "6.6") SDPPod.sampleEnvironment SDPPod.samplePodRequest =
      .ok ops ∧ _ := SDPPod.patch_of_needsPatching SDPPod.sampleEnvironment rfl rfl rfl hNeeds
  obtain ⟨doc, patched, -, hDoc, hVersions⟩ := sidecar_version_iff rfl hNeeds hPatch
  have hVersion := (hVersions 0 (SDPPod.sampleContainer "sdp-service") sampleReference rfl (by decide)).mpr (.inl rfl)
  exact ⟨ops, doc, patched, hPatch, hDoc, hVersion⟩

/-- An image of a registry with a port, without a tag. -/
def portReference : ImageReference where
  repository := "localhost:5000/sdp"
  tag := none
  path before after h := by
    have hPort : "localhost:5000/sdp".toList = "localhost".toList ++ ':' :: "5000/sdp".toList := by decide
    rw [hPort] at h
    obtain ⟨-, -, rfl⟩ := (List.append_cons_inj_of_notMem (by decide) (by decide)).mp h
    decide
  plain t ht := by cases ht

/-- The port is taken for the tag. -/
theorem port_taken_for_tag : ¬∀ (sdpPod : SDPPod) (environment : PodEnvironment)
    (pod : PodManifest) (defaultVersion : String)
    (i : Nat) (c : Container) (image : ImageReference), sdpPod.sdpSidecars.containers[i]? = some c →
    c.image = some image.text → ((sdpPod.patchedSidecars environment pod defaultVersion)[i]?).bind Container.image =
        some (image.repository ++ ":" ++
          ((annotationOf pod SDP_INJECTOR_ANNOTATION_CLIENT_VERSION).getD defaultVersion)) := by
  intro h
  let sidecar : Container := { SDPPod.sampleContainer "sdp-driver" with image := some "localhost:5000/sdp" }
  let sdpPod : SDPPod := { SDPPod.sampleSdpPod with
    sdpSidecars := { SDPPod.sampleSdpPod.sdpSidecars with containers := [sidecar] } }
  have hImage :=
    h sdpPod SDPPod.sampleEnvironment ⟨⟨none, none, none, none, ∅⟩,
      none, none⟩ "6.6" 0 sidecar portReference rfl rfl
  revert hImage
  decide

end SdpK8sInjector.Injector
