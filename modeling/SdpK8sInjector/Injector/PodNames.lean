import SdpK8sInjector.Injector.RoundTrip
import SdpK8sInjector.Lib.Words

/-! # The pods of a deployment

A replica set adds its hash to the name of the deployment and a hyphen behind it.
The name of the service of a pod is what is left without the last two parts.
-/

namespace SdpK8sInjector.Injector

open Lib Serde Common IdentityService

section Hyphens

open String

theorem splitOnAux_hyphen (s : String) (b i : Pos.Raw) (parts : List String) :
    splitOnAux s "-" b i 0 parts = splitAux s (· == '-') b i parts := by
  have hFirst : Pos.Raw.get "-" 0 = '-' := by decide
  have hNext : Pos.Raw.next "-" 0 = ⟨1⟩ := by decide
  fun_induction splitAux s (· == '-') b i parts with
  | case1 b i parts hEnd => rw [splitOnAux, if_pos hEnd]
  | case2 b i parts hEnd hLess hHyphen i' ih =>
    have hBack : i'.unoffsetBy ⟨1⟩ = i := by
      have hSize : (Pos.Raw.get s i).utf8Size = 1 := by
        rw [eq_of_beq hHyphen]
        decide
      rw [Pos.Raw.ext_iff]
      change i.byteIdx + (Pos.Raw.get s i).utf8Size - 1 = i.byteIdx
      omega
    rw [splitOnAux, if_neg hEnd, hFirst, if_pos hHyphen, hNext]
    dsimp only
    rw [if_pos (by decide), hBack]
    exact ih
  | case3 b i parts hEnd hLess hOther ih =>
    rw [splitOnAux, if_neg hEnd, hFirst, if_neg hOther]
    exact ih

theorem splitOn_hyphen (s : String) : s.splitOn "-" = (s.toList.splitOn '-').map String.ofList := by
  rw [String.splitOn, if_neg (by decide), splitOnAux_hyphen, List.splitOn_eq_splitOnP]
  exact splitToList_of_valid s _

theorem intercalate_splitOn_hyphen (s : String) : "-".intercalate ((s.toList.splitOn '-').map String.ofList) = s := by
  rw [intercalate_ofList]
  exact (congrArg String.ofList (List.intercalate_splitOn '-')).trans String.ofList_toList

end Hyphens

variable {pod : PodManifest} {request : PodRequest} {name hash : String}

/-- The hash and the empty text behind the last hyphen are the last two parts. -/
theorem splitOn_generateName (hHash : '-' ∉ hash.toList) :
    (name ++ "-" ++ hash ++ "-").splitOn "-" = (name.toList.splitOn '-').map String.ofList ++ [hash, ""] := by
  have hList : (name ++ "-" ++ hash ++ "-").toList = name.toList ++ '-' :: (hash.toList ++ '-' :: []) := by simp
  rw [splitOn_hyphen, hList, List.splitOn_append_cons_self, List.splitOn_append_cons_self,
    List.splitOn_eq_singleton hHash, List.splitOn_nil]
  simp

theorem namedName_of_generateName (hHash : '-' ∉ hash.toList)
    (hGenerate : pod.metadata.generateName = some (name ++ "-" ++ hash ++ "-"))
    (hNone : annotationOf pod SDP_INJECTOR_ANNOTATION_POD_NAME = none) (random : Uuid) :
    pod.pod.namedName random = name := by
  have hUnnamed : annotationOf pod.pod SDP_INJECTOR_ANNOTATION_POD_NAME = none := by
    rw [← hNone]
    cases hAnnotations : pod.metadata.annotations <;>
      simp [annotationOf, Annotated.annotations, PodManifest.pod, hAnnotations]
  have hGenerated : pod.pod.generateName = some (name ++ "-" ++ hash ++ "-") := hGenerate
  have hParts : 0 < (name.toList.splitOn '-').length := List.length_pos_iff.mpr (List.splitOn_ne_nil '-' _)
  rw [Pod.namedName, hUnnamed, hGenerated, Option.getD_none]
  have hLength : ((name.toList.splitOn '-').map String.ofList ++ [hash, ""]).length =
      (name.toList.splitOn '-').length + 2 := by
    simp
  dsimp only
  rw [splitOn_generateName hHash, hLength, if_pos (by omega), Nat.add_sub_cancel, List.take_left' (List.length_map _),
    intercalate_splitOn_hyphen]

/-- The pod of the request, the request and the candidate are the same service. -/
def Agrees (candidate : ServiceCandidate) (request : PodRequest) : Prop :=
  ∃ pod, request.object = some pod ∧ ∀ random, pod.pod.namedName random = Named.name candidate ∧
    pod.pod.serviceId random = MaybeService.serviceId candidate ∧
    pod.pod.serviceName random = MaybeService.serviceName candidate ∧
    request.serviceId random = MaybeService.serviceId candidate ∧
    request.serviceName random = MaybeService.serviceName candidate

theorem agrees_of_namedName {candidate : ServiceCandidate} {ns : String} (hNs : MaybeNamespaced.ns candidate = some ns)
    (hObject : request.object = some pod) (hPodNs : pod.metadata.ns = some ns)
    (hRequestNs : request.namespace = some ns)
    (hName : ∀ random, pod.pod.namedName random = Named.name candidate) : Agrees candidate request := by
  refine ⟨pod, hObject, fun random => ?_⟩
  have hPod : pod.pod.ns = some ns := hPodNs
  have hRequestName : request.name random = Named.name candidate := by
    rw [PodRequest.name, hObject]
    exact hName random
  have hCandidate : candidate.metadata.ns = some ns := hNs
  simp [Pod.serviceId, Pod.serviceName, MaybeService.serviceId, MaybeService.serviceName, MaybeNamespaced.ns, hPod,
    PodRequest.serviceId, PodRequest.serviceName, hRequestNs, hRequestName, hName, hCandidate]

theorem PodEnvironment.podName_of_create {names : Nat → Uuid} {newV4 : Uuid} {store store' : InMemoryIdentityStore}
    {environment : PodEnvironment} (h : create names newV4 request store = (.ok environment, store')) :
    ∃ random, environment.podName = request.name random := by
  unfold create at h
  split at h
  · cases congrArg Prod.fst h
  · rename_i fromSecrets hFromPod
    cases congrArg Prod.fst h
    unfold fromPod at hFromPod
    split at hFromPod
    · cases hFromPod
    · rename_i pod hObject
      cases hId : request.serviceId (names 1) with
      | error e => simp [hId, bind, Except.bind] at hFromPod
      | ok serviceId =>
        cases hServiceName : request.serviceName (names 2) with
        | error e => simp [hId, hServiceName, bind, Except.bind] at hFromPod
        | ok serviceName =>
          simp only [hId, hServiceName, bind, Except.bind, Except.ok.injEq] at hFromPod
          obtain ⟨secret, -, rfl⟩ := Option.map_eq_some_iff.mp hFromPod
          exact ⟨names 3, rfl⟩
  · obtain ⟨_, _, _, _, _, hName, _⟩ := fromIdentityStore_ok h
    exact ⟨names 5, hName⟩

/-- A pod that a replica set of a deployment makes is of the service of the deployment, before it is patched and
after. -/
theorem pod_agrees_with_deployment {d : Deployment} {ns hash : String} (hNs : d.metadata.ns = some ns)
    (hHash : '-' ∉ hash.toList) (hObject : request.object = some pod) (hPodNs : pod.metadata.ns = some ns)
    (hRequestNs : request.ns = some ns ∨ request.ns = none)
    (hGenerate : pod.metadata.generateName = some (d.metadata.name ++ "-" ++ hash ++ "-"))
    (hNone : annotationOf pod SDP_INJECTOR_ANNOTATION_POD_NAME = none) :
    Agrees (.deployment d) request ∧
      ∀ {names newV4 sdpPod defaultVersion store ops store'},
        patchPod names newV4 sdpPod defaultVersion request store = (.ok ops, store') →
          ∃ doc patched, applyPatch ops (toJson pod) = some doc ∧ ofJson doc = some patched ∧
            Agrees (.deployment d) { request with object := some patched } := by
  have hName := namedName_of_generateName hHash hGenerate hNone
  have hRequest : request.namespace = some ns := by
    rcases hRequestNs with h | h <;> simp [PodRequest.namespace, h, hObject, hPodNs]
  have hAgrees : Agrees (.deployment d) request := agrees_of_namedName hNs hObject hPodNs hRequest hName
  refine ⟨hAgrees, fun {names newV4 sdpPod defaultVersion store ops store'} hPatch => ?_⟩
  obtain ⟨environment, hCreate, hOk⟩ := patchPod_ok hPatch
  cases hNeeds : sdpPod.needsPatching request with
  | false =>
    cases (SDPPod.patch_of_not_needsPatching hObject hRequest hNeeds).symm.trans hOk
    refine ⟨_, pod, rfl, ofJson_toJson pod, ?_⟩
    rwa [← hObject]
  | true =>
    obtain ⟨random, hPodName⟩ := PodEnvironment.podName_of_create hCreate
    obtain ⟨m, spec, status, ns', ip, version, rfl, -, hPatches⟩ := SDPPod.patch_effect hObject hNeeds hOk
    obtain ⟨doc, hApply, hDoc⟩ := hPatches (toJson (SDPPod.podOf m spec status)) (ofJson_toJson _)
    refine ⟨doc, _, hApply, hDoc, agrees_of_namedName hNs rfl hPodNs ?_ fun random' => ?_⟩
    · rcases hRequestNs with h | h
      · simp [PodRequest.namespace, h]
      · simp only [PodRequest.namespace, h]
        exact hPodNs
    · have hInjected : environment.podName = d.metadata.name := by
        rw [hPodName, PodRequest.name, hObject]
        exact hName random
      let filled := environment.fill sdpPod.k8sDnsService (SDPPod.podOf m spec status)
      have hAnnotated : annotationOf (sdpPod.patchedPod filled m spec status ns' ip version).pod
          SDP_INJECTOR_ANNOTATION_POD_NAME = some environment.podName := by
        have hLookup : (SDPPod.patchedAnnotations filled (SDPPod.podOf m spec status)).lookup
            SDP_INJECTOR_ANNOTATION_POD_NAME = some environment.podName := AList.lookup_insert _
        exact hLookup
      rw [Pod.namedName, hAnnotated, hInjected]
      rfl

def sampleDeployment : Deployment := ⟨⟨"my.web-app", by decide, some "ns", ∅, ∅⟩⟩

/-- A pod of the deployment that brings its own secrets. -/
def sampleOwned : PodManifest :=
  SDPPod.podOf ⟨none, some "my.web-app-5d8f-", some "ns",
    some (AList.singleton SDP_ANNOTATION_CLIENT_SECRETS "secret"), ∅⟩
    ⟨[SDPPod.sampleContainer "app"], none, none, none, none, none, ∅⟩ none

theorem pod_agrees_with_deployment_sample : Agrees (.deployment sampleDeployment) ⟨some sampleOwned, none⟩ ∧
    ∃ ops doc patched, patchPod (fun _ => sampleUuid) sampleUuid SDPPod.sampleSdpPod
      (some "6.6") ⟨some sampleOwned, none⟩ .new =
        (.ok ops, .new) ∧
      applyPatch ops (toJson sampleOwned) = some doc ∧ ofJson doc = some patched ∧
      Agrees (.deployment sampleDeployment) ⟨some patched, none⟩ := by
  have hAgrees :=
    @pod_agrees_with_deployment sampleOwned ⟨some sampleOwned, none⟩ sampleDeployment "ns" "5d8f" rfl (by decide)
    rfl rfl (.inr rfl) (by decide) (by decide)
  obtain ⟨pod, hObject, hSame⟩ := hAgrees.1
  cases hObject
  have hId : ∀ random, PodRequest.serviceId random ⟨some sampleOwned, none⟩ = .ok "ns_my.web-app" :=
    fun random => (hSame random).2.2.2.1
  have hName : ∀ random, PodRequest.serviceName random ⟨some sampleOwned, none⟩ = .ok "ns-my.web-app" :=
    fun random => (hSame random).2.2.2.2
  have hSecrets : annotationOf sampleOwned SDP_ANNOTATION_CLIENT_SECRETS = some "secret" := by decide
  obtain ⟨environment, hCreate⟩ : ∃ environment, PodEnvironment.create (fun _ => sampleUuid) sampleUuid
      ⟨some sampleOwned, none⟩ .new = (.ok environment, .new) := by
    simp only [PodEnvironment.create, PodEnvironment.fromPod, hId, hName, hSecrets, bind, Except.bind, Option.map_some]
    exact ⟨_, rfl⟩
  obtain ⟨ops, hOps, -⟩ := SDPPod.patch_of_needsPatching environment rfl rfl rfl
    (by decide : SDPPod.sampleSdpPod.needsPatching ⟨some sampleOwned, none⟩ = true)
  have hPatch : patchPod (fun _ => sampleUuid) sampleUuid SDPPod.sampleSdpPod (some "6.6")
      ⟨some sampleOwned, none⟩ .new =
      (.ok ops, .new) := by
    rw [patchPod, hId, hCreate]
    exact congrArg (·, _) hOps
  obtain ⟨doc, patched, hApply, hDoc, hPatched⟩ := hAgrees.2 hPatch
  exact ⟨hAgrees.1, ops, doc, patched, hPatch, hApply, hDoc, hPatched⟩

end SdpK8sInjector.Injector
