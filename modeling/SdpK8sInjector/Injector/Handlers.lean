import SdpK8sInjector.Injector.Attempts
import SdpK8sInjector.Injector.DeviceIdRequests

/-! # Handlers of admissions that wait for a device id

The handler of a pod stops where it requests a device id, and goes on with what the
request returns. The counters of failed attempts are locked for as long.
-/

namespace SdpK8sInjector.Injector

open Lib Common IdentityService

/-- A handler has come to its end, or awaits the device id of a service. -/
inductive Progress (α : Type) where
  | done (a : α)
  | awaits (serviceId : String) (resume : Except SDPServiceError (ServiceIdentity × Uuid) → α)

namespace Progress

variable {α β : Type}

def map (f : α → β) : Progress α → Progress β
  | done a => done (f a)
  | awaits serviceId resume => awaits serviceId (f ∘ resume)

/-- The handler gets what the store has for the service. -/
def complete (newV4 : Uuid) (store : InMemoryIdentityStore) : Progress α → α × InMemoryIdentityStore
  | done a => (a, store)
  | awaits serviceId resume =>
    let (found, store) := store.popDeviceId newV4 serviceId
    (resume found, store)

theorem map_eq_awaits {f : α → β} {p : Progress α} {serviceId : String}
    {resume : Except SDPServiceError (ServiceIdentity × Uuid) → β} :
    p.map f = awaits serviceId resume ↔ ∃ r, p = awaits serviceId r ∧ resume = f ∘ r := by
  cases p with
  | done a => simp [map]
  | awaits id r =>
    simp only [map, awaits.injEq]
    constructor
    · rintro ⟨rfl, rfl⟩
      exact ⟨r, ⟨rfl, rfl⟩, rfl⟩
    · rintro ⟨r', ⟨rfl, rfl⟩, rfl⟩
      exact ⟨rfl, rfl⟩

theorem complete_map (f : α → β) (p : Progress α) (newV4 : Uuid) (store : InMemoryIdentityStore) :
    (p.map f).complete newV4 store = (f (p.complete newV4 store).1, (p.complete newV4 store).2) := by
  cases p <;> rfl

end Progress

namespace PodEnvironment

variable (names : Nat → Uuid) (newV4 : Uuid) (request : PodRequest)

/-- What `from_identity_store` makes of the identity and the device id that were assigned. -/
def ofAssigned (serviceId serviceName : String) (found : ServiceIdentity × Uuid) : PodEnvironment :=
  let (s, d) := found
  let (userField, passwordField, profileField) := s.credentials.secretsFieldNames true
  { podName := request.name (names 5)
    serviceId := serviceId
    serviceName := serviceName
    clientConfig := configName s.spec.serviceNamespace s.spec.serviceName
    clientSecretName := secretsName s.spec.serviceNamespace s.spec.serviceName
    clientSecretControllerUrlKey := profileField
    clientSecretPwdKey := passwordField
    clientSecretUserKey := userField
    clientDeviceId := d.toString
    nContainers := "0"
    k8sDnsServiceIp := none }

/-- `create`, as far as it gets without a device id. -/
def progress : Progress (Except SDPServiceError PodEnvironment) :=
  match fromPod names newV4 request with
  | .error e => .done (.error e)
  | .ok (some environment) => .done (.ok environment)
  | .ok none =>
    match request.serviceId (names 3), request.serviceName (names 4) with
    | .ok serviceId, .ok serviceName =>
      .awaits serviceId fun found => found.map (ofAssigned names request serviceId serviceName)
    | .error e, _ | _, .error e => .done (.error e)

theorem complete_progress (store : InMemoryIdentityStore) :
    (progress names newV4 request).complete newV4 store = create names newV4 request store := by
  unfold progress create
  cases fromPod names newV4 request with
  | error e => rfl
  | ok environment =>
    cases environment with
    | some environment => rfl
    | none =>
      simp only [fromIdentityStore]
      cases request.serviceId (names 3) with
      | error e => rfl
      | ok serviceId => cases request.serviceName (names 4) <;> rfl

theorem progress_eq_of_awaits {newV4' : Uuid} {serviceId : String}
    {resume : Except SDPServiceError (ServiceIdentity × Uuid) → Except SDPServiceError PodEnvironment}
    (h : progress names newV4 request = .awaits serviceId resume) :
    progress names newV4' request = .awaits serviceId resume := by
  unfold progress fromPod at h ⊢
  cases hObject : request.object with
  | none =>
    rw [hObject] at h
    cases h
  | some pod =>
    rw [hObject] at h
    dsimp only at h ⊢
    cases hId : request.serviceId (names 1) with
    | error e =>
      rw [hId] at h
      cases h
    | ok id =>
      cases hName : request.serviceName (names 2) with
      | error e =>
        rw [hId, hName] at h
        cases h
      | ok serviceName =>
        rw [hId, hName] at h
        cases hSecrets : annotationOf pod SDP_ANNOTATION_CLIENT_SECRETS with
        | some secret =>
          rw [hSecrets] at h
          cases h
        | none =>
          rw [hSecrets] at h
          exact h

theorem progress_error {serviceId : String}
    {resume : Except SDPServiceError (ServiceIdentity × Uuid) → Except SDPServiceError PodEnvironment}
    (h : progress names newV4 request = .awaits serviceId resume) (e : SDPServiceError) :
    resume (.error e) = .error e := by
  unfold progress at h
  split at h
  · cases h
  · cases h
  · split at h
    · cases h
      rfl
    · cases h
    · cases h

end PodEnvironment

/-- `patch_pod`, as far as it gets without a device id. -/
def patchPodProgress (names : Nat → Uuid) (newV4 : Uuid) (sdpPod : SDPPod) (defaultVersion : Option String)
    (request : PodRequest) : Progress (Except PatchFailure (List AddOperation)) :=
  match request.serviceId (names 0) with
  | .error e => .done (.error (.error e))
  | .ok _ =>
    (PodEnvironment.progress names newV4 request).map fun environment =>
      match environment with
      | .error e => .error (.error e)
      | .ok environment => sdpPod.patch defaultVersion environment request

theorem complete_patchPodProgress (names : Nat → Uuid) (newV4 : Uuid) (sdpPod : SDPPod)
    (defaultVersion : Option String)
    (request : PodRequest) (store : InMemoryIdentityStore) :
    (patchPodProgress names newV4 sdpPod defaultVersion request).complete newV4 store =
      patchPod names newV4 sdpPod defaultVersion request store := by
  unfold patchPodProgress patchPod
  cases request.serviceId (names 0) with
  | error e => rfl
  | ok serviceId =>
    dsimp only
    rw [Progress.complete_map, PodEnvironment.complete_progress]
    cases PodEnvironment.create names newV4 request store with
    | mk environment store' => cases environment <;> rfl

theorem patchPodProgress_awaits {names : Nat → Uuid} {newV4 : Uuid} {sdpPod : SDPPod} {defaultVersion : Option String}
    {request : PodRequest} {serviceId : String}
    {resume : Except SDPServiceError (ServiceIdentity × Uuid) → Except PatchFailure (List AddOperation)}
    (h : patchPodProgress names newV4 sdpPod defaultVersion request = .awaits serviceId resume) :
    (∀ newV4', patchPodProgress names newV4' sdpPod defaultVersion request = .awaits serviceId resume) ∧
      ∀ e, resume (.error e) = .error (.error e) := by
  unfold patchPodProgress at h ⊢
  cases hId : request.serviceId (names 0) with
  | error e =>
    rw [hId] at h
    cases h
  | ok id =>
    rw [hId] at h
    obtain ⟨environment, hAwaits, rfl⟩ := Progress.map_eq_awaits.mp h
    constructor
    · intro newV4'
      dsimp only
      rw [PodEnvironment.progress_eq_of_awaits names newV4 request hAwaits]
      rfl
    · intro e
      rw [Function.comp_apply, PodEnvironment.progress_error names newV4 request hAwaits]

/-- `attempt_patch!` of a patcher that gives the answer. -/
def AdmissionRequest.counted (request : AdmissionRequest) (random : Uuid) (attempts : AttemptsStore)
    (answer : PatchResult) :
    PatchResult × AttemptsStore :=
  let (answer, s) := request.attempt random (fun identities => (answer, identities)) ⟨attempts, .new⟩
  (answer, s.attempts)

/-- `mutate`, as far as it gets without a device id. No other request needs one. -/
def mutateProgress (context : MutateContext) (review : AdmissionReview) (attempts : AttemptsStore) :
    Progress (PatchResult × AttemptsStore) :=
  match review with
  | .inl (.pods request) =>
    let admission := AdmissionRequest.pods request
    match admission.admissionId (context.names 0), admission.isCandidate with
    | .ok _, true =>
      (patchPodProgress (fun n => context.names (n + 1)) context.newV4 context.sdpPod
        context.defaultVersion request).map
        fun patched => admission.counted (context.names 0) attempts (podAnswer patched)
    | _, _ => .done (admission.counted (context.names 0) attempts (.ok (.allow none)))
  | .inl (.deployments _) | .inr _ =>
    let (answer, s) := mutate context review ⟨attempts, .new⟩
    .done (answer, s.attempts)

theorem attempt_eq (request : AdmissionRequest) (random : Uuid)
    (patcher : InMemoryIdentityStore → PatchResult × InMemoryIdentityStore) (s : InjectorState) {id : String}
    (hId : request.admissionId random = .ok id) (hCandidate : request.isCandidate = true) :
    request.attempt random patcher s =
      ((request.counted random s.attempts (patcher s.identities).1).1,
        ⟨(request.counted random s.attempts (patcher s.identities).1).2, (patcher s.identities).2⟩) := by
  simp only [AdmissionRequest.attempt, AdmissionRequest.counted, attemptPatch, hId, hCandidate, if_true]
  cases patcher s.identities with
  | mk patched identities =>
    dsimp only
    cases patched with
    | ok response => cases response <;> rfl
    | error e =>
      cases e with
      | withResponse e =>
        by_cases hExceeded : (s.attempts.lookup id).getD 0 + 1 > MAX_PATCH_ATTEMPTS <;> simp [hExceeded]
      | withoutResponse e => rfl
      | panicked => rfl

/-- An admission that is refused before its patcher runs, or that is let through without it. -/
theorem attempt_eq_of_not (request : AdmissionRequest) (random : Uuid)
    (patcher : InMemoryIdentityStore → PatchResult × InMemoryIdentityStore) (s : InjectorState)
    (answer : PatchResult)
    (h : ∀ id, request.admissionId random = .ok id → request.isCandidate = false) :
    request.attempt random patcher s =
      ((request.counted random s.attempts answer).1,
        ⟨(request.counted random s.attempts answer).2, s.identities⟩) := by
  simp only [AdmissionRequest.attempt, AdmissionRequest.counted, attemptPatch]
  cases hId : request.admissionId random with
  | error e => rfl
  | ok id => simp only [h id hId, Bool.false_eq_true, if_false]

theorem attempt_answer (request : AdmissionRequest) (random : Uuid) (answer : PatchResult) (s : InjectorState) :
    request.attempt random (fun identities => (answer, identities)) s =
      ((request.counted random s.attempts answer).1,
        ⟨(request.counted random s.attempts answer).2, s.identities⟩) := by
  by_cases hPatched : ∃ id, request.admissionId random = .ok id ∧ request.isCandidate = true
  · obtain ⟨id, hId, hCandidate⟩ := hPatched
    exact attempt_eq request random _ s hId hCandidate
  · refine attempt_eq_of_not request random _ s answer fun id hId => ?_
    exact Bool.eq_false_iff.mpr fun hCandidate => hPatched ⟨id, hId, hCandidate⟩

/-- The handler that gets what the store has does what is said of `mutate`. -/
theorem mutate_eq_complete (context : MutateContext) (review : AdmissionReview) (s : InjectorState) :
    mutate context review s =
      ((((mutateProgress context review s.attempts).complete context.newV4 s.identities).1).1,
        ⟨(((mutateProgress context review s.attempts).complete context.newV4 s.identities).1).2,
          ((mutateProgress context review s.attempts).complete context.newV4 s.identities).2⟩) := by
  cases review with
  | inl request =>
    cases request with
    | pods request =>
      unfold mutateProgress
      dsimp only
      split
      · rename_i id hId hCandidate
        rw [Progress.complete_map, complete_patchPodProgress, mutate, attempt_eq _ _ _ _ hId hCandidate]
      · rename_i hNot
        refine attempt_eq_of_not _ _ _ _ _ fun id hId => ?_
        cases hCandidate : (AdmissionRequest.pods request).isCandidate with
        | false => rfl
        | true => exact absurd hCandidate (hNot id hId)
    | deployments request =>
      unfold mutateProgress mutate
      dsimp only
      cases request.requestNamespace with
      | none => rfl
      | some ns =>
        dsimp only
        cases context.namespaceOf ns with
        | error e => rfl
        | ok nsObject => exact attempt_answer _ _ _ s
  | inr resource => cases resource <;> rfl

/-- The answer without the texts of its errors. -/
def withoutText (answer : PatchResult) : PatchResult :=
  match answer with
  | .ok (.retryWithError _ attempt) => .ok (.retryWithError "" attempt)
  | .ok (.maxRetryExceeded _) => .ok (.maxRetryExceeded "")
  | .ok (.allow patch) => .ok (.allow patch)
  | .error (.withResponse _) => .error (.withResponse "")
  | .error (.withoutResponse _) => .error (.withoutResponse "")
  | .error .panicked => .error .panicked

theorem counted_error (request : AdmissionRequest) (random : Uuid) (attempts : AttemptsStore) (e e' : SDPServiceError) :
    withoutText (request.counted random attempts (.error (.withResponse e))).1 =
        withoutText (request.counted random attempts (.error (.withResponse e'))).1 ∧
      (request.counted random attempts (.error (.withResponse e))).2 =
        (request.counted random attempts (.error (.withResponse e'))).2 := by
  simp only [AdmissionRequest.counted, AdmissionRequest.attempt, attemptPatch]
  cases request.admissionId random with
  | error _ => exact ⟨rfl, rfl⟩
  | ok id =>
    cases request.isCandidate with
    | false => exact ⟨rfl, rfl⟩
    | true =>
      by_cases hExceeded : (attempts.lookup id).getD 0 + 1 > MAX_PATCH_ATTEMPTS <;> simp [hExceeded, withoutText]

section Awaits

variable {context : MutateContext} {review : AdmissionReview} {attempts : AttemptsStore} {serviceId : String}
  {resume : Except SDPServiceError (ServiceIdentity × Uuid) → PatchResult × AttemptsStore}

theorem mutateProgress_awaits (h : mutateProgress context review attempts = .awaits serviceId resume) :
    (∀ newV4, mutateProgress { context with newV4 := newV4 } review attempts = .awaits serviceId resume) ∧
      ∃ request, ∀ e, resume (.error e) =
        AdmissionRequest.counted (.pods request) (context.names 0) attempts (.error (.withResponse e)) := by
  unfold mutateProgress at h ⊢
  cases review with
  | inl request =>
    cases request with
    | deployments request => cases h
    | pods request =>
      dsimp only at h ⊢
      split at h
      · obtain ⟨patched, hPatched, rfl⟩ := Progress.map_eq_awaits.mp h
        obtain ⟨hSame, hError⟩ := patchPodProgress_awaits hPatched
        constructor
        · intro newV4
          rw [hSame newV4]
          rfl
        · refine ⟨request, fun e => ?_⟩
          rw [Function.comp_apply, hError]
          rfl
      · cases h
  | inr resource => cases h

end Awaits

end SdpK8sInjector.Injector
