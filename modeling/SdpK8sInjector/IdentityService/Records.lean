import SdpK8sInjector.IdentityService.Reconciliation

/-! # What the IdentityManager keeps of the reports it has received

The sets of known candidates and of known users are functions of the messages
received so far. No other handler writes them.
-/

namespace SdpK8sInjector.IdentityService.IdentityManager

open Lib Common ServiceCredentialsProvider

variable (outcomes : Nat → CallOutcome) (order : IterationOrder)

structure SameRecords (m m' : IdentityManager) : Prop where
  received : m'.identityManagerQueue.received = m.identityManagerQueue.received
  candidates : m'.existingServiceCandidates = m.existingServiceCandidates
  missing : m'.missingServiceCandidates = m.missingServiceCandidates
  activated : m'.existingActivatedCredentials = m.existingActivatedCredentials
  deactivated : m'.existingDeactivatedCredentials = m.existingDeactivatedCredentials

namespace SameRecords

variable {m m' m'' : IdentityManager}

theorem refl (m : IdentityManager) : SameRecords m m := ⟨rfl, rfl, rfl, rfl, rfl⟩

theorem trans (h : SameRecords m m') (h' : SameRecords m' m'') : SameRecords m m'' :=
  ⟨h'.received.trans h.received, h'.candidates.trans h.candidates, h'.missing.trans h.missing,
    h'.activated.trans h.activated, h'.deactivated.trans h.deactivated⟩

theorem foldl {α : Type} {step : IdentityManager → α → IdentityManager}
    (hStep : ∀ m x, SameRecords m (step m x)) (xs : List α) (m : IdentityManager) :
    SameRecords m (xs.foldl step m) := by
  induction xs generalizing m with
  | nil => exact refl m
  | cons x rest ih => exact (hStep m x).trans (ih _)

end SameRecords

theorem deleteServiceIdentity_sameRecords (identity : ServiceIdentity) (m : IdentityManager) :
    SameRecords m (m.deleteServiceIdentity outcomes identity) := by
  rcases deleteServiceIdentity_cases outcomes identity m with ⟨e, api, -, h⟩ | ⟨api, -, h⟩ <;>
    exact h ▸ ⟨rfl, rfl, rfl, rfl, rfl⟩

theorem requestServiceIdentity_sameRecords (candidate : ServiceCandidate) (m : IdentityManager) :
    SameRecords m (m.requestServiceIdentity outcomes candidate) := by
  have h := requestServiceIdentity_outcome outcomes candidate m
  generalize m.requestServiceIdentity outcomes candidate = m' at h ⊢
  cases h <;> exact ⟨rfl, rfl, rfl, rfl, rfl⟩

theorem reconcile_sameRecords (m : IdentityManager) : SameRecords m (m.reconcile outcomes order) := by
  obtain ⟨_, _, _, h⟩ := reconcile_spec outcomes order m
  rw [h.frame]
  exact ⟨rfl, rfl, rfl, rfl, rfl⟩

theorem identityManagerReady_sameRecords (m : IdentityManager) :
    SameRecords m (m.identityManagerReady outcomes order) := by
  have hRequests : SameRecords (m.reconcile outcomes order)
      ((m.reconcile outcomes order).requestMissing outcomes order) :=
    SameRecords.foldl (fun m c => requestServiceIdentity_sameRecords _ c m) _ _
  obtain ⟨h₁, h₂, h₃, h₄, h₅⟩ := (reconcile_sameRecords _ _ m).trans hRequests
  exact ⟨h₁, h₂, h₃, h₄, h₅⟩

/-- Messages that report a candidate or a user. -/
def IsReport : IdentityManagerProtocol → Prop
  | .foundServiceCandidate _ | .foundServiceUser _ _ => True
  | _ => False

theorem handle_sameRecords {msg : IdentityManagerProtocol} (hMsg : ¬IsReport msg) (m : IdentityManager) :
    SameRecords m (handle outcomes order msg m) := by
  cases msg with
  | requestServiceIdentity candidate => exact requestServiceIdentity_sameRecords _ candidate m
  | deleteServiceIdentity identity => exact deleteServiceIdentity_sameRecords _ identity m
  | foundServiceCandidate candidate => exact absurd trivial hMsg
  | foundServiceUser user activated => exact absurd trivial hMsg
  | deletedServiceCandidate candidate =>
    change SameRecords m (m.deletedServiceCandidate candidate)
    rcases deletedServiceCandidate_cases candidate m with ⟨_, _, _, _, h⟩ | ⟨_, h⟩ <;> rw [h] <;>
      exact ⟨rfl, rfl, rfl, rfl, rfl⟩
  | identityCreatorReady =>
    obtain ⟨_, _, h⟩ := identityCreatorReadyHandler_cases m
    change SameRecords m m.identityCreatorReadyHandler
    exact h ▸ ⟨rfl, rfl, rfl, rfl, rfl⟩
  | deploymentWatcherReady =>
    obtain ⟨_, _, h⟩ := deploymentWatcherReady_cases m
    change SameRecords m m.deploymentWatcherReady
    exact h ▸ ⟨rfl, rfl, rfl, rfl, rfl⟩
  | identityManagerReady => exact identityManagerReady_sameRecords _ _ m
  | activatedServiceUser user serviceNs serviceName =>
    change SameRecords m (m.activatedServiceUser outcomes user serviceNs serviceName)
    rcases activatedServiceUser_cases outcomes user serviceNs serviceName m with
      ⟨_, h⟩ | ⟨_, _, h⟩ <;> rw [h] <;> exact ⟨rfl, rfl, rfl, rfl, rfl⟩
  | releaseDeviceId lookup uuid =>
    change SameRecords m (m.releaseDeviceId outcomes lookup uuid)
    rcases releaseDeviceId_cases outcomes lookup uuid m with
      ⟨_, h⟩ | ⟨_, _, _, _, h⟩ <;> rw [h] <;> exact ⟨rfl, rfl, rfl, rfl, rfl⟩
  | identityManagerInitialized => exact SameRecords.refl m
  | identityManagerStarted => exact SameRecords.refl m
  | identityManagerDebug text => exact SameRecords.refl m

variable {outcomes} {order}

theorem handle_missing {m : IdentityManager} {msg : IdentityManagerProtocol} {id : String} {c : ServiceCandidate}
    (h : (handle outcomes order msg m).missingServiceCandidates.lookup id = some c) :
    m.missingServiceCandidates.lookup id = some c ∨
      msg = .foundServiceCandidate c ∧ MaybeService.serviceId c = .ok id := by
  by_cases hReport : IsReport msg
  · cases msg with
    | foundServiceUser user activated => cases activated <;> exact .inl h
    | foundServiceCandidate candidate =>
      change (m.foundServiceCandidate candidate).missingServiceCandidates.lookup id = some c at h
      rcases foundServiceCandidate_cases candidate m with ⟨_, hEq⟩ | ⟨_, _, _, _, hEq⟩ |
        ⟨id', hId, _, hEq⟩ <;>
        rw [hEq] at h
      · exact .inl h
      · exact .inl h
      · rw [HashMap.lookup_insert_eq_ite] at h
        split at h
        · cases h
          exact .inr ⟨rfl, hId.trans (congrArg _ (Eq.symm ‹_›))⟩
        · exact .inl h
    | _ => exact False.elim hReport
  · rw [(handle_sameRecords outcomes order hReport m).missing] at h
    exact .inl h

def MissingKeyed (m : IdentityManager) : Prop :=
  ∀ id c, m.missingServiceCandidates.lookup id = some c → MaybeService.serviceId c = .ok id

theorem MissingKeyed.handled {m : IdentityManager} (h : MissingKeyed m) (msg : IdentityManagerProtocol) :
    MissingKeyed (handle outcomes order msg m) := by
  intro id c hLookup
  rcases handle_missing hLookup with hBefore | ⟨_, hId⟩
  · exact h id c hBefore
  · exact hId

/-- The records as functions of the received messages. -/
structure Recorded (m : IdentityManager) : Prop where
  activated : ∀ id, id ∈ m.existingActivatedCredentials ↔
    ∃ user, .foundServiceUser user true ∈ m.identityManagerQueue.received ∧ user.id = id
  deactivated : ∀ id, id ∈ m.existingDeactivatedCredentials ↔
    ∃ user, .foundServiceUser user false ∈ m.identityManagerQueue.received ∧ user.id = id
  candidates : ∀ id, id ∈ m.existingServiceCandidates ∨ id ∈ m.missingServiceCandidates ↔
    ∃ c, .foundServiceCandidate c ∈ m.identityManagerQueue.received ∧ MaybeService.serviceId c = .ok id
  missing_keyed : MissingKeyed m

theorem registerOrUpdateIdentity_sameRecords (identity : ServiceIdentity) (m : IdentityManager) :
    SameRecords m (m.registerOrUpdateIdentity identity) := ⟨rfl, rfl, rfl, rfl, rfl⟩

theorem initializeFrom_sameRecords (m : IdentityManager) (stored : List ServiceIdentity) :
    SameRecords m (m.initializeFrom stored) :=
  (SameRecords.foldl (fun m i => registerOrUpdateIdentity_sameRecords i m) stored m).trans
    ⟨rfl, rfl, rfl, rfl, rfl⟩

theorem recorded_initializeFrom (clusterId : String) (api : ServiceIdentityAPI) (stored : List ServiceIdentity) :
    Recorded ((new clusterId api).initializeFrom stored) := by
  obtain ⟨hReceived, hCandidates, hMissing, hActivated, hDeactivated⟩ :=
    initializeFrom_sameRecords (new clusterId api) stored
  generalize (new clusterId api).initializeFrom stored = m at *
  constructor <;> simp [MissingKeyed, hReceived, hCandidates, hMissing, hActivated, hDeactivated, new, Channel.empty]

/-- The message taken from the queue is part of what the handler sees as received. -/
theorem Recorded.handled {m : IdentityManager} (h : Recorded m) {msg : IdentityManagerProtocol}
    {queue : Channel IdentityManagerProtocol} (hRecv : m.identityManagerQueue.recv = some (msg, queue)) :
    Recorded (handle outcomes order msg { m with identityManagerQueue := queue }) := by
  obtain ⟨rest, -, rfl⟩ := Channel.recv_eq_some.mp hRecv
  let m₁ : IdentityManager :=
    { m with identityManagerQueue := ⟨m.identityManagerQueue.received ++ [msg], rest⟩ }
  have hKeyed : MissingKeyed (IdentityManager.handle outcomes order msg m₁) :=
    MissingKeyed.handled (m := m₁) h.missing_keyed msg
  by_cases hMsg : IsReport msg
  · cases msg with
    | foundServiceUser user activated =>
      cases activated <;>
      · refine ⟨fun id => ?_, fun id => ?_, fun id => ?_, hKeyed⟩ <;>
          simp [handle, foundServiceUser, h.activated, h.deactivated, h.candidates, or_and_right,
            exists_or, or_comm, eq_comm]
    | foundServiceCandidate candidate =>
      change Recorded (m₁.foundServiceCandidate candidate)
      change MissingKeyed (m₁.foundServiceCandidate candidate) at hKeyed
      rcases foundServiceCandidate_cases candidate m₁ with
        ⟨⟨e, hId⟩, hEq⟩ | ⟨id', identity, hId, -, hEq⟩ | ⟨id', hId, -, hEq⟩ <;> rw [hEq] at hKeyed ⊢
      · refine ⟨fun id => ?_, fun id => ?_, fun id => ?_, hKeyed⟩ <;>
          simp [m₁, h.activated, h.deactivated, h.candidates, or_and_right, exists_or, hId]
      · refine ⟨fun id => ?_, fun id => ?_, fun id => ?_, hKeyed⟩
        · simp [m₁, h.activated]
        · simp [m₁, h.deactivated]
        · simp only [m₁, AList.mem_insert, List.mem_append, List.mem_singleton, or_and_right, exists_or, or_assoc,
            h.candidates]
          simp [hId, or_comm, eq_comm]
      · refine ⟨fun id => ?_, fun id => ?_, fun id => ?_, hKeyed⟩
        · simp [m₁, h.activated]
        · simp [m₁, h.deactivated]
        · simp only [m₁, AList.mem_insert, List.mem_append, List.mem_singleton, or_and_right, exists_or,
            or_left_comm, h.candidates]
          simp [hId, or_comm, eq_comm]
    | _ => exact absurd hMsg id
  · obtain ⟨hReceived, hCandidates, hMissing, hActivated, hDeactivated⟩ :=
      handle_sameRecords outcomes order hMsg m₁
    have hUser : ∀ user activated, msg ≠ .foundServiceUser user activated := by
      rintro user activated rfl
      exact hMsg trivial
    have hCandidate : ∀ c, msg ≠ .foundServiceCandidate c := by
      rintro c rfl
      exact hMsg trivial
    refine ⟨fun id => ?_, fun id => ?_, fun id => ?_, hKeyed⟩
    · simpa [m₁, hActivated, hReceived, (hUser _ _).symm] using h.activated id
    · simpa [m₁, hDeactivated, hReceived, (hUser _ _).symm] using h.deactivated id
    · simpa [m₁, hCandidates, hMissing, hReceived, (hCandidate _).symm] using h.candidates id

theorem Recorded.step {m m' : IdentityManager} {event : Event} (h : Recorded m)
    (hNext : next outcomes m event = some m') : Recorded m' := by
  cases event with
  | arrive msg =>
    cases hNext
    exact ⟨h.activated, h.deactivated, h.candidates, h.missing_keyed⟩
  | handle order =>
    obtain ⟨⟨msg, queue⟩, hRecv, rfl⟩ := Option.map_eq_some_iff.mp hNext
    exact h.handled hRecv

end SdpK8sInjector.IdentityService.IdentityManager
