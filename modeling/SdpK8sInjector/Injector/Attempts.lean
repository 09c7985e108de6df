import SdpK8sInjector.IdentityService.Recovery
import SdpK8sInjector.Injector.Deployments
import SdpK8sInjector.Injector.RoundTrip

/-! # Admissions that fail, and how often they are retried

A resource that cannot be patched is refused, so that it is submitted again. The
attempts are counted for each service, and the resource is let through as it is once
there were too many. What is counted lives as long as the process.
-/

namespace SdpK8sInjector.Injector

open Lib Serde Common IdentityService

def MAX_PATCH_ATTEMPTS : UInt8 := 15

/-- The response to the request is left out, but for its patch. -/
inductive SDPPatchResponse where
  | retryWithError (e : SDPServiceError) (attempt : UInt8)
  | maxRetryExceeded (e : SDPServiceError)
  | allow (patch : Option (List AddOperation))

/-- A handler that panics gives no answer. -/
inductive SDPPatchError where
  | withResponse (e : SDPServiceError)
  | withoutResponse (e : SDPServiceError)
  | panicked

abbrev PatchResult := Except SDPPatchError SDPPatchResponse

/-- How often the patch of a resource has failed. -/
abbrev AttemptsStore := HashMap String UInt8

structure InjectorState where
  attempts : AttemptsStore
  identities : InMemoryIdentityStore

/-- `attempt_patch!`. The patcher, which may use up a device id, runs for candidates only. -/
def attemptPatch (admissionId : Except SDPServiceError String) (isCandidate : Bool)
    (patcher : InMemoryIdentityStore → PatchResult × InMemoryIdentityStore) (s : InjectorState) :
    PatchResult × InjectorState :=
  match admissionId with
  | .error e => (.error (.withoutResponse e), s)
  | .ok admissionId =>
    if isCandidate then
      let (patched, identities) := patcher s.identities
      match patched with
      | .ok (.allow patch) => (.ok (.allow patch), ⟨s.attempts.erase admissionId, identities⟩)
      | .ok r => (.ok r, ⟨s.attempts, identities⟩)
      | .error (.withResponse e) =>
        let attempt := (s.attempts.lookup admissionId).getD 0 + 1
        let attempts := AList.insert admissionId attempt s.attempts
        if attempt > MAX_PATCH_ATTEMPTS then (.ok (.maxRetryExceeded e), ⟨attempts.erase admissionId, identities⟩)
        else (.ok (.retryWithError e attempt), ⟨attempts, identities⟩)
      | .error e => (.error e, ⟨s.attempts, identities⟩)
    else (.ok (.allow none), s)

/-- `AdmissionRequest<Deployment>` -/
structure DeploymentRequest where
  object : Option DeploymentManifest
  ns : Option String

namespace DeploymentRequest

/-- `Named::name` of a deployment: `ResourceExt::name_any`, unless that is empty. -/
def namedName (random : Uuid) (deployment : DeploymentManifest) : String :=
  let name := (deployment.metadata.name.or deployment.metadata.generateName).getD ""
  if name ≠ "" then name else random.toString

/-- `admission_request_name` -/
def name (random : Uuid) (request : DeploymentRequest) : String :=
  match request.object with
  | some deployment => namedName random deployment
  | none => random.toString

/-- `admission_request_namespace` -/
def requestNamespace (request : DeploymentRequest) : Option String :=
  request.ns.or (request.object.bind fun deployment => deployment.metadata.ns)

def serviceId (random : Uuid) (request : DeploymentRequest) : Except SDPServiceError String :=
  match request.requestNamespace with
  | some ns => .ok (formatServiceId ns (request.name random))
  | none => .error MaybeService.namespaceNotFound

end DeploymentRequest

inductive AdmissionRequest where
  | pods (request : PodRequest)
  | deployments (request : DeploymentRequest)

namespace AdmissionRequest

/-- Under which the attempts are counted. A name that is missing is drawn afresh for every request. -/
def admissionId (random : Uuid) : AdmissionRequest → Except SDPServiceError String
  | pods request => (request.serviceId random).map ("pods_" ++ ·)
  | deployments request => (request.serviceId random).map ("deployments_" ++ ·)

def isCandidate : AdmissionRequest → Bool
  | pods request => (request.object.map fun pod => Candidate.isCandidate pod.pod).getD false
  | deployments _ => true

def attempt (r : AdmissionRequest) (random : Uuid)
    (patcher : InMemoryIdentityStore → PatchResult × InMemoryIdentityStore)
    (s : InjectorState) : PatchResult × InjectorState :=
  attemptPatch (r.admissionId random) r.isCandidate patcher s

end AdmissionRequest

/-- What the handler of one request meets: the names and ids that it draws, the cluster and the namespaces. -/
structure MutateContext where
  names : Nat → Uuid
  newV4 : Uuid
  sdpPod : SDPPod
  defaultVersion : Option String
  namespaceOf : String → Except SDPServiceError (Option ManifestMeta)

def podAnswer (result : Except PatchFailure (List AddOperation)) : PatchResult :=
  match result with
  | .ok patch => .ok (.allow (some patch))
  | .error (.error e) => .error (.withResponse e)
  | .error .panicked => .error .panicked

def deploymentAnswer (result : Except SDPServiceError (List AddOperation)) : PatchResult :=
  match result with
  | .ok patch => .ok (.allow (some patch))
  | .error e => .error (.withResponse e)

/-- The review of a request, or the name of a resource that is not patched, if it has one. -/
abbrev AdmissionReview := AdmissionRequest ⊕ Option String

/-- `mutate`, from the parsed review on. -/
def mutate (context : MutateContext) (review : AdmissionReview) (s : InjectorState) : PatchResult × InjectorState :=
  match review with
  | .inl (.pods request) =>
    (AdmissionRequest.pods request).attempt (context.names 0) (fun identities =>
      let (patched, identities) := patchPod (fun n => context.names (n + 1)) context.newV4 context.sdpPod
        context.defaultVersion request identities
      (podAnswer patched, identities)) s
  | .inl (.deployments request) =>
    match request.requestNamespace with
    | none => (.error (.withoutResponse "Unable to get namespace from Deployment admission request"), s)
    | some ns =>
      match context.namespaceOf ns with
      | .error e => (.error (.withoutResponse e), s)
      | .ok nsObject =>
        (AdmissionRequest.deployments request).attempt (context.names 0)
          (fun identities => (deploymentAnswer (patchDeployment request.object nsObject), identities)) s
  | .inr (some resource) => (.error (.withoutResponse ("Unknown resource to patch: " ++ resource)), s)
  | .inr none => (.error (.withoutResponse "Unknown resource to patch"), s)

/-- Every counter is one of a resource that failed and was not let through since. -/
def Counted (store : AttemptsStore) : Prop := ∀ id n, store.lookup id = some n →
    1 ≤ n ∧ n ≤ MAX_PATCH_ATTEMPTS

theorem attempt_le {n : UInt8} (h : n ≤ MAX_PATCH_ATTEMPTS) : (n + 1).toNat = n.toNat + 1 := by
  have hBound : n.toNat ≤ 15 := h
  rw [UInt8.toNat_add]
  exact Nat.mod_eq_of_lt (by simp; omega)

namespace Counted

variable {store : AttemptsStore}

theorem getD_le (h : Counted store) (id : String) : (store.lookup id).getD 0 ≤ MAX_PATCH_ATTEMPTS := by
  cases hFound : store.lookup id with
  | none => decide
  | some n => exact (h id n hFound).2

theorem erase (h : Counted store) (id : String) : Counted (store.erase id) := by
  intro id' n hLookup
  rw [HashMap.lookup_erase_eq_ite] at hLookup
  split at hLookup
  · cases hLookup
  · exact h id' n hLookup

theorem attemptPatch {s : InjectorState} (h : Counted s.attempts) (admissionId : Except SDPServiceError String)
    (isCandidate : Bool) (patcher : InMemoryIdentityStore → PatchResult × InMemoryIdentityStore) :
    Counted (attemptPatch admissionId isCandidate patcher s).2.attempts := by
  unfold Injector.attemptPatch
  cases admissionId with
  | error e => exact h
  | ok id =>
    dsimp only
    split
    · split
      · exact h.erase id
      · exact h
      · split
        · intro id' n hLookup
          rw [HashMap.erase_insert_self] at hLookup
          exact h.erase id id' n hLookup
        · rename_i hBelow
          intro id' n hLookup
          rw [HashMap.lookup_insert_eq_ite] at hLookup
          split at hLookup
          · cases hLookup
            refine ⟨?_, UInt8.not_lt.mp hBelow⟩
            rw [UInt8.le_iff_toNat_le, attempt_le (h.getD_le id)]
            exact Nat.le_add_left 1 _
          · exact h id' n hLookup
      · exact h
    · exact h

theorem mutate {s : InjectorState} (h : Counted s.attempts) (context : MutateContext) (review : AdmissionReview) :
    Counted (mutate context review s).2.attempts := by
  unfold Injector.mutate
  split
  · exact h.attemptPatch _ _ _
  · split
    · exact h
    · split
      · exact h
      · exact h.attemptPatch _ _ _
  · exact h
  · exact h

end Counted

/-- One admission of a run: the resource under test fails once more, or another one is handled. -/
inductive Turn where
  | fails (random : Uuid) (e : SDPServiceError) (effect : InMemoryIdentityStore → InMemoryIdentityStore)
  | other (request : AdmissionRequest) (random : Uuid)
      (patcher : InMemoryIdentityStore → PatchResult × InMemoryIdentityStore)

def Turn.error : Turn → Option SDPServiceError
  | fails _ e _ => some e
  | other _ _ _ => none

/-- The other one is not counted with the resource. -/
def Turn.ForeignTo (r : AdmissionRequest) : Turn → Prop
  | fails _ _ _ => True
  | other request random _ => ∀ id, request.admissionId random = .ok id →
    ∀ random', r.admissionId random' ≠ .ok id

namespace AdmissionRequest

/-- The answers to the resource, and the state after the run. -/
def play (r : AdmissionRequest) : List Turn → InjectorState → List PatchResult × InjectorState
  | [], s => ([], s)
  | .fails random e effect :: rest, s =>
    let (answer, s) := r.attempt random (fun identities => (.error (.withResponse e), effect identities)) s
    let (answers, s) := play r rest s
    (answer :: answers, s)
  | .other request random patcher :: rest, s => play r rest (request.attempt random patcher s).2

/-- The answer to an attempt after the given number of failures. -/
def answerAfter (k : Nat) (e : SDPServiceError) : PatchResult :=
  if k < 15 then .ok (.retryWithError e (.ofNat (k + 1))) else .ok (.maxRetryExceeded e)

/-- The answers to attempts that fail, from the given number of failures on. -/
def answersFrom : Nat → List SDPServiceError → List PatchResult
  | _, [] => []
  | k, e :: rest => answerAfter k e :: answersFrom ((k + 1) % 16) rest

/-- The counter after the given number of failures. -/
def counter (k : Nat) : Option UInt8 := if k = 0 then none else some (.ofNat k)

/-- Among admissions of others, the resource is refused fifteen times and let through the next time, with its counter
removed, over and over again. -/
def Bounded (r : AdmissionRequest) : Prop :=
  ∀ turns s, (∀ t ∈ turns, Turn.ForeignTo r t) →
    (∀ random id, r.admissionId random = .ok id → id ∉ s.attempts) →
    (r.play turns s).1 = answersFrom 0 (turns.filterMap Turn.error) ∧
    ∀ random id, r.admissionId random = .ok id →
      (r.play turns s).2.attempts.lookup id = counter ((turns.filterMap Turn.error).length % 16)

/-- The resource is a candidate in a namespace, and its name is not drawn. -/
def Identified : AdmissionRequest → Prop
  | pods request => request.namespace.isSome = true ∧
      ∃ pod, request.object = some pod ∧ Candidate.isCandidate pod.pod = true ∧ IsNamed pod.pod
  | deployments request => request.requestNamespace.isSome = true ∧
      ∃ deployment, request.object = some deployment ∧
        (deployment.metadata.name.or deployment.metadata.generateName).getD "" ≠ ""

theorem attempt_frame {request : AdmissionRequest} {random : Uuid}
    (patcher : InMemoryIdentityStore → PatchResult × InMemoryIdentityStore) (s : InjectorState) {key : String}
    (hKey : request.admissionId random ≠ .ok key) :
    (request.attempt random patcher s).2.attempts.lookup key = s.attempts.lookup key := by
  unfold attempt attemptPatch
  cases hId : request.admissionId random with
  | error e => rfl
  | ok id =>
    have hNe : id ≠ key := fun hEq => hKey (hEq ▸ hId)
    dsimp only
    split
    · split
      · rw [HashMap.lookup_erase_eq_ite, if_neg (Ne.symm hNe)]
      · rfl
      · split
        · rw [HashMap.erase_insert_self, HashMap.lookup_erase_eq_ite, if_neg (Ne.symm hNe)]
        · rw [HashMap.lookup_insert_eq_ite, if_neg (Ne.symm hNe)]
      · rfl
    · rfl

theorem counter_succ : ∀ k ≤ 15, (counter k).getD 0 + 1 = UInt8.ofNat (k + 1) ∧
    (UInt8.ofNat (k + 1) > MAX_PATCH_ATTEMPTS ↔ ¬k < 15) := by
  decide

theorem attempt_fails {r : AdmissionRequest} {random : Uuid} {key : String} (hKey : r.admissionId random = .ok key)
    (hCandidate : r.isCandidate = true) {s : InjectorState} {k : Nat} (hk : k ≤ 15)
    (hCount : s.attempts.lookup key = counter k) (e : SDPServiceError)
    (effect : InMemoryIdentityStore → InMemoryIdentityStore) :
    (r.attempt random (fun identities => (.error (.withResponse e), effect identities)) s).1 = answerAfter k e ∧
      (r.attempt random (fun identities => (.error (.withResponse e), effect identities)) s).2.attempts.lookup key =
        counter ((k + 1) % 16) := by
  obtain ⟨hSucc, hExceeded⟩ := counter_succ k hk
  simp only [attempt, attemptPatch, hKey, hCandidate, if_true, hCount, hSucc, hExceeded, answerAfter]
  by_cases hLess : k < 15
  · rw [if_neg (not_not.mpr hLess), if_pos hLess]
    refine ⟨rfl, ?_⟩
    rw [AList.lookup_insert, Nat.mod_eq_of_lt (by omega)]
    rfl
  · obtain rfl : k = 15 := by omega
    refine ⟨rfl, ?_⟩
    rw [if_pos (by omega), HashMap.erase_insert_self, AList.lookup_erase]
    rfl

theorem play_counted {r : AdmissionRequest} {key : String} (hKey : ∀ random, r.admissionId random = .ok key)
    (hCandidate : r.isCandidate = true) {turns : List Turn} (hForeign : ∀ t ∈ turns, Turn.ForeignTo r t)
    {s : InjectorState} {k : Nat} (hk : k ≤ 15) (hCount : s.attempts.lookup key = counter k) :
    (r.play turns s).1 = answersFrom k (turns.filterMap Turn.error) ∧
      (r.play turns s).2.attempts.lookup key = counter ((k + (turns.filterMap Turn.error).length) % 16) := by
  induction turns generalizing s k with
  | nil =>
    refine ⟨rfl, ?_⟩
    rw [List.filterMap_nil, List.length_nil, Nat.add_zero, Nat.mod_eq_of_lt (by omega)]
    exact hCount
  | cons t rest ih =>
    have hRest : ∀ t ∈ rest, Turn.ForeignTo r t := fun t ht => hForeign t (List.mem_cons_of_mem _ ht)
    cases t with
    | fails random e effect =>
      obtain ⟨hAnswer, hAfter⟩ := attempt_fails (hKey random) hCandidate hk hCount e effect
      obtain ⟨hAnswers, hEnd⟩ := ih hRest (by omega : (k + 1) % 16 ≤ 15) hAfter
      refine ⟨congrArg₂ List.cons hAnswer hAnswers, hEnd.trans ?_⟩
      congr 1
      simp only [List.filterMap_cons, Turn.error, List.length_cons]
      omega
    | other request random patcher =>
      have hOther : request.admissionId random ≠ .ok key := fun hId =>
        hForeign _ List.mem_cons_self key hId random (hKey random)
      exact ih hRest hk ((attempt_frame patcher s hOther).trans hCount)

theorem namedName_of_not_isNamed {pod : Pod} (h : ¬IsNamed pod) (random : Uuid) :
    pod.namedName random = random.toString := by
  obtain ⟨hUnset, hSource⟩ := not_or.mp h
  rw [Option.not_isSome_iff_eq_none] at hUnset
  unfold Pod.namedName
  rw [hUnset, Option.getD_none]
  cases hGenerate : pod.generateName with
  | some generateName =>
    rw [hGenerate] at hSource
    exact if_neg hSource
  | none =>
    rw [hGenerate] at hSource
    rw [Option.not_isSome_iff_eq_none.mp hSource, Option.getD_none]

theorem Identified.admissionId_eq {r : AdmissionRequest} (h : r.Identified) :
    r.isCandidate = true ∧ ∃ key, ∀ random, r.admissionId random = .ok key := by
  cases r with
  | pods request =>
    obtain ⟨hNs, pod, hObject, hCandidate, hNamed⟩ := h
    obtain ⟨ns, hNs⟩ := Option.isSome_iff_exists.mp hNs
    refine ⟨by simp [isCandidate, hObject, hCandidate],
      "pods_" ++ formatServiceId ns (pod.pod.namedName sampleUuid), ?_⟩
    intro random
    simp only [admissionId, PodRequest.serviceId, hNs, PodRequest.name, hObject, hNamed.namedName_eq random sampleUuid]
    rfl
  | deployments request =>
    obtain ⟨hNs, deployment, hObject, hName⟩ := h
    obtain ⟨ns, hNs⟩ := Option.isSome_iff_exists.mp hNs
    refine ⟨rfl, "deployments_" ++
      formatServiceId ns ((deployment.metadata.name.or deployment.metadata.generateName).getD ""),
      fun random => ?_⟩
    simp only [admissionId, DeploymentRequest.serviceId, hNs, DeploymentRequest.name,
      hObject, DeploymentRequest.namedName,
      if_pos hName]
    rfl

/-- A candidate in a namespace that is not identified is counted under the name that is drawn. -/
theorem admissionId_of_not_identified {r : AdmissionRequest} (h : ¬r.Identified) (hCandidate : r.isCandidate = true)
    {id : String} {random : Uuid} (hId : r.admissionId random = .ok id) :
    ∃ pre, ∀ random, r.admissionId random = .ok (pre ++ random.toString) := by
  cases r with
  | pods request =>
    cases hNs : request.namespace with
    | none =>
      rw [admissionId, PodRequest.serviceId, hNs] at hId
      cases hId
    | some ns =>
      cases hObject : request.object with
      | none => simp [isCandidate, hObject] at hCandidate
      | some pod =>
        have hPod : Candidate.isCandidate pod.pod = true := by simpa [isCandidate, hObject] using hCandidate
        have hUnnamed : ¬IsNamed pod.pod := fun hNamed => h ⟨by rw [hNs]; rfl, pod, hObject, hPod, hNamed⟩
        refine ⟨"pods_" ++ (ns ++ "_"), fun random => ?_⟩
        simp only [admissionId, PodRequest.serviceId, hNs, PodRequest.name, hObject, namedName_of_not_isNamed hUnnamed,
          formatServiceId, Except.map, String.append_assoc]
  | deployments request =>
    cases hNs : request.requestNamespace with
    | none =>
      rw [admissionId, DeploymentRequest.serviceId, hNs] at hId
      cases hId
    | some ns =>
      have hDrawn : ∀ random, request.name random = random.toString := by
        intro random
        cases hObject : request.object with
        | none => simp only [DeploymentRequest.name, hObject]
        | some deployment =>
          have hEmpty : (deployment.metadata.name.or deployment.metadata.generateName).getD "" = "" := by
            by_contra hName
            exact h ⟨by rw [hNs]; rfl, deployment, hObject, hName⟩
          simp only [DeploymentRequest.name, hObject, DeploymentRequest.namedName, hEmpty, ne_eq, not_true, if_false]
      refine ⟨"deployments_" ++ (ns ++ "_"), fun random => ?_⟩
      simp only [admissionId, DeploymentRequest.serviceId, hNs, hDrawn, formatServiceId,
        Except.map, String.append_assoc]

/-- A second draw is counted as a first failure. -/
theorem Bounded.identified {r : AdmissionRequest} (h : r.Bounded) : r.Identified := by
  let turn (random : Uuid) : Turn := .fails random "" id
  have hForeign : ∀ turns : List Turn, (∀ t ∈ turns, ∃ random, t = turn random) →
      ∀ t ∈ turns, Turn.ForeignTo r t := by
    intro turns hTurns t ht
    obtain ⟨random, rfl⟩ := hTurns t ht
    trivial
  have hEmpty : ∀ random id, r.admissionId random = .ok id → id ∉ (∅ : AttemptsStore) :=
    fun _ id _ => AList.notMem_empty id
  -- one failure is answered with a retry, so the resource is a candidate with an id
  have hOne := (h [turn sampleUuid] ⟨∅, .new⟩ (hForeign _ (by simp)) hEmpty).1
  have hAttempt : (r.attempt sampleUuid (fun identities => (.error (.withResponse ""), id identities))
      ⟨∅, .new⟩).1 = answerAfter 0 "" := (List.cons.inj hOne).1
  by_contra hNot
  cases hId : r.admissionId sampleUuid with
  | error e =>
    simp only [attempt, attemptPatch, hId] at hAttempt
    cases hAttempt
  | ok key =>
    cases hCandidate : r.isCandidate with
    | false =>
      simp [attempt, attemptPatch, hId, hCandidate, answerAfter] at hAttempt
    | true =>
      obtain ⟨pre, hDrawn⟩ := admissionId_of_not_identified hNot hCandidate hId
      let u := IdentityCreator.sampleUuid 0
      let v := IdentityCreator.sampleUuid 1
      have hTwo := (h [turn u, turn v] ⟨∅, .new⟩ (hForeign _ (by simp)) hEmpty).2 u _ (hDrawn u)
      have hFirst := (attempt_fails (hDrawn u) hCandidate (Nat.zero_le 15)
        (show (InjectorState.mk ∅ .new).attempts.lookup (pre ++ u.toString) = counter 0 from rfl) "" id).2
      have hOther : r.admissionId v ≠ .ok (pre ++ u.toString) := by
        rw [hDrawn v]
        intro hEq
        have hSame : v.toString = u.toString := String.append_right_inj pre |>.mp (Except.ok.inj hEq)
        revert hSame
        decide
      have hSecond :=
        (attempt_frame (fun identities => (.error (.withResponse ""), id identities)) _ hOther).trans hFirst
      cases hSecond.symm.trans hTwo

/-- From the start of the process on every counter is between 1 and 15, so that counting up never overflows. The
attempts of a resource are bounded exactly if it is identified. -/
theorem bounded_retries_iff (r : AdmissionRequest) :
    (∀ (admissions : List (MutateContext × AdmissionReview)) (identities : InMemoryIdentityStore),
      let s := admissions.foldl (fun s a => (mutate a.1 a.2 s).2) ⟨∅, identities⟩
      Counted s.attempts ∧ ∀ id, ((s.attempts.lookup id).getD 0 + 1).toNat =
        ((s.attempts.lookup id).getD 0).toNat + 1) ∧
    (r.Bounded ↔ r.Identified) := by
  constructor
  · intro admissions identities
    have hCounted : ∀ (admissions : List (MutateContext × AdmissionReview))
        (s : InjectorState), Counted s.attempts →
        Counted (admissions.foldl (fun s a => (mutate a.1 a.2 s).2) s).attempts := by
      intro admissions
      induction admissions with
      | nil => exact fun s h => h
      | cons a rest ih => exact fun s h => ih _ (h.mutate a.1 a.2)
    have hAll := hCounted admissions ⟨∅, identities⟩ (fun id n h => by cases h)
    exact ⟨hAll, fun id => attempt_le (hAll.getD_le id)⟩
  · refine ⟨Bounded.identified, fun h turns s hForeign hFresh => ?_⟩
    obtain ⟨hCandidate, key, hKey⟩ := h.admissionId_eq
    have hNone : s.attempts.lookup key = counter 0 := AList.lookup_eq_none.mpr (hFresh sampleUuid key (hKey sampleUuid))
    obtain ⟨hAnswers, hEnd⟩ := play_counted hKey hCandidate hForeign (Nat.zero_le 15) hNone
    refine ⟨hAnswers, fun random id hId => ?_⟩
    cases (hKey random).symm.trans hId
    rw [hEnd, Nat.zero_add]

/-- A pod with a generated name of two segments. -/
def sampleShortName : PodRequest :=
  ⟨some ⟨⟨none, some "web-", some "ns", some (AList.singleton SDP_INJECTOR_ANNOTATION_ENABLED "true"), ∅⟩,
    none, none⟩,
    some "ns"⟩

theorem length_splitOn_sampleShortName : ("web-".splitOn "-").length = 2 := by
  rw [String.splitOn, if_neg (by decide)]
  -- three letters, the dash, and the end
  rw [String.splitOnAux, if_neg (by decide), if_neg (by decide)]
  rw [String.splitOnAux, if_neg (by decide), if_neg (by decide)]
  rw [String.splitOnAux, if_neg (by decide), if_neg (by decide)]
  rw [String.splitOnAux, if_neg (by decide), if_pos (by decide)]
  dsimp only
  rw [if_pos (by decide), String.splitOnAux, if_pos (by decide)]
  rfl

/-- Every attempt for it is a first one, and a resource that is never patched is refused for ever. -/
theorem short_name_not_bounded : (AdmissionRequest.pods sampleShortName).isCandidate = true ∧
    ¬(AdmissionRequest.pods sampleShortName).Bounded := by
  refine ⟨by decide, fun h => ?_⟩
  obtain ⟨-, pod, hObject, -, hNamed⟩ := h.identified
  cases hObject
  rcases hNamed with hGiven | hSegments
  · revert hGiven
    decide
  · have hShort : 2 < ("web-".splitOn "-").length := hSegments
    rw [length_splitOn_sampleShortName] at hShort
    exact absurd hShort (lt_irrefl 2)

end AdmissionRequest

end SdpK8sInjector.Injector
