import SdpK8sInjector.IdentityService.Mirror
import SdpK8sInjector.IdentityService.Records
import SdpK8sInjector.Lib.Transition

/-! # Deletion and re-creation of one service

The deletion of a candidate is not carried out where it is handled: it is put
back at the end of the queue. A request that is already waiting finds the
identity still registered, and the deletion comes after it.
-/

namespace SdpK8sInjector.IdentityService.IdentityManager

open Lib Common ServiceCredentialsProvider

variable {outcomes : Nat → CallOutcome} {order : IterationOrder} {id : String}

def Registered (id : String) (m : IdentityManager) : Prop := ∃ i, m.identities.lookup id = some i

theorem Registered.deleted {m : IdentityManager} (h : Registered id m) {identity : ServiceIdentity}
    (hOther : Service.serviceId identity ≠ id) : Registered id (m.deleteServiceIdentity outcomes identity) := by
  obtain ⟨deleted, hSub, hDeleted, -⟩ := deleteServiceIdentity_deleted outcomes identity m
  obtain ⟨i, hi⟩ := h
  refine ⟨i, ?_⟩
  rw [hDeleted.identities, HashMap.lookup_eraseAll, if_neg, hi]
  intro hMem
  obtain ⟨x, hx, rfl⟩ := List.mem_map.mp hMem
  exact hOther (congrArg _ (List.mem_singleton.mp (hSub.subset hx)).symm)

theorem Registered.update {m m' : IdentityManager} (h : Registered id m) {identity : ServiceIdentity}
    (hIdentities : m'.identities = AList.insert (Service.serviceId identity) identity m.identities) :
    Registered id m' := by
  obtain ⟨i, hi⟩ := h
  rw [Registered, hIdentities]
  simp only [HashMap.lookup_insert_eq_ite]
  split
  · exact ⟨_, rfl⟩
  · exact ⟨i, hi⟩

theorem Registered.identityManagerReady {m : IdentityManager} (hKeyed : MissingKeyed m)
    (hCalls : (m.identityManagerReady outcomes order).failures = m.failures)
    (hErrors : (m.identityManagerReady outcomes order).emptyPoolErrors = m.emptyPoolErrors)
    (hStays : id ∈ m.missingServiceCandidates ∨
      ∃ i ∈ m.serviceCredentialsProvider.identities, Service.serviceId i = id ∧ m.Retained i) :
    Registered id (m.identityManagerReady outcomes order) := by
  obtain ⟨extra, users, orphans, hReconciled⟩ := reconcile_spec outcomes order m
  have hGrows := reconcile_grows outcomes order m
  have hRequestsGrow := requestMissing_grows outcomes order (m.reconcile outcomes order)
  have hRequested := foldl_requestServiceIdentity_requested outcomes
    (order.walk (HashMap.values (m.reconcile outcomes order).missingServiceCandidates)) (m.reconcile outcomes order)
  have hMissing := (reconcile_sameRecords outcomes order m).missing
  rcases hStays with hMem | ⟨i, hi, rfl, hRetained⟩
  · obtain ⟨c, hLookup⟩ := HashMap.mem_iff_exists_lookup.mp hMem
    exact hRequested.served
      (.inr (prefix_between hGrows.emptyPoolErrors hRequestsGrow.emptyPoolErrors hErrors).2) c
      (by rw [hMissing]; exact order.mem_walk.mpr (HashMap.mem_values.mpr ⟨id, hLookup⟩)) id
      (hKeyed id c hLookup)
  · have hFailures := (prefix_between hGrows.failures hRequestsGrow.failures hCalls).1
    have hLeft := (hReconciled.mem_remaining i).mpr
      ⟨hi, fun hDeleted => ((hReconciled.mem_deleted hFailures i).mp hDeleted).2 hRetained⟩
    exact ⟨i, hRequested.kept _ i ((mem_identities _).mp hLeft)⟩

/-- Whether the message deletes the identity of the service. -/
def deletes (id : String) : IdentityManagerProtocol → Bool
  | .deleteServiceIdentity x => Service.serviceId x == id
  | _ => false

/-- What the watcher says about the service: `true` for a request, `false` for a deletion. -/
def intent (id : String) : IdentityManagerProtocol → Option Bool
  | .requestServiceIdentity c => if (MaybeService.serviceId c).toOption = some id then some true else none
  | .deletedServiceCandidate c => if (MaybeService.serviceId c).toOption = some id then some false else none
  | _ => none

def lastIntent (id : String) (messages : List IdentityManagerProtocol) : Option Bool :=
  (messages.filterMap (intent id)).getLast?

theorem lastIntent_append_singleton (messages : List IdentityManagerProtocol) (msg : IdentityManagerProtocol) :
    lastIntent id (messages ++ [msg]) = (intent id msg).or (lastIntent id messages) := by
  cases h : intent id msg <;> simp [lastIntent, List.filterMap_append, h]

theorem toOption_serviceId_eq {c : ServiceCandidate} :
    (MaybeService.serviceId c).toOption = some id ↔ MaybeService.serviceId c = .ok id := by
  cases MaybeService.serviceId c <;> simp [Except.toOption]

/-- The messages that only the manager itself sends. -/
def isSelfSent : IdentityManagerProtocol → Bool
  | .deleteServiceIdentity _ | .identityManagerReady => true
  | _ => false

/-- No deletion of the service waits behind a request for it, a reconciliation does not
remove what was requested last, and no deletion names the object of another service. -/
def InOrder (id : String) (m : IdentityManager) : IdentityManagerProtocol → Prop
  | .requestServiceIdentity c => (MaybeService.serviceId c).toOption = some id →
      ∀ msg ∈ m.identityManagerQueue.pending, deletes id msg = false
  | .identityManagerReady => lastIntent id m.identityManagerQueue.received = some true →
      ∀ i ∈ m.serviceCredentialsProvider.identities, Service.serviceId i = id →
        id ∈ m.missingServiceCandidates ∨ m.Retained i
  | .deleteServiceIdentity x => m.Spares (.deleteServiceIdentity x)
  | _ => True

instance (id : String) (m : IdentityManager) : DecidablePred (InOrder id m)
  | .requestServiceIdentity c => inferInstanceAs (Decidable ((MaybeService.serviceId c).toOption = some id →
      ∀ msg ∈ m.identityManagerQueue.pending, deletes id msg = false))
  | .identityManagerReady => inferInstanceAs (Decidable (lastIntent id m.identityManagerQueue.received = some true →
      ∀ i ∈ m.serviceCredentialsProvider.identities, Service.serviceId i = id →
        id ∈ m.missingServiceCandidates ∨ m.Retained i))
  | .deleteServiceIdentity x => inferInstanceAs (Decidable (m.Spares (.deleteServiceIdentity x)))
  | .foundServiceCandidate _ | .deletedServiceCandidate _ | .foundServiceUser _ _ | .identityCreatorReady
  | .deploymentWatcherReady | .identityManagerInitialized | .identityManagerStarted | .identityManagerDebug _
  | .activatedServiceUser _ _ _ | .releaseDeviceId _ _ => .isTrue trivial

def OrderedStep (id : String) (m : IdentityManager) : Event → Prop
  | .arrive msg => isSelfSent msg = false
  | .handle _ => ∀ msg ∈ m.identityManagerQueue.pending.head?, InOrder id m msg

instance (id : String) (m : IdentityManager) : DecidablePred (OrderedStep id m) := fun event => by
  unfold OrderedStep
  split <;> infer_instance

/-- A service that was requested last is registered, and nothing in the queue deletes it. -/
structure Settled (id : String) (m : IdentityManager) : Prop where
  mirrored : Mirrored m
  keyed : MissingKeyed m
  wanted : lastIntent id m.identityManagerQueue.received = some true →
    Registered id m ∧ ∀ msg ∈ m.identityManagerQueue.pending, deletes id msg = false

theorem Registered.handled {m : IdentityManager} (h : Registered id m) {msg : IdentityManagerProtocol}
    (hDelete : deletes id msg = false) (hReady : msg ≠ .identityManagerReady) :
    Registered id (handle outcomes order msg m) := by
  cases msg with
  | requestServiceIdentity candidate =>
    obtain ⟨i, hi⟩ := h
    exact ⟨i, (requestServiceIdentity_requested _ candidate m).kept id i hi⟩
  | deleteServiceIdentity identity => exact h.deleted (by simpa [deletes] using hDelete)
  | identityManagerReady => exact absurd rfl hReady
  | foundServiceCandidate candidate =>
    change Registered id (m.foundServiceCandidate candidate)
    rcases foundServiceCandidate_cases candidate m with ⟨-, hEq⟩ | ⟨_, _, -, -, hEq⟩ | ⟨_, -, -, hEq⟩ <;>
      rw [hEq] <;> exact h
  | foundServiceUser user activated => cases activated <;> exact h
  | deletedServiceCandidate candidate =>
    change Registered id (m.deletedServiceCandidate candidate)
    rcases deletedServiceCandidate_cases candidate m with ⟨_, _, _, _, hEq⟩ | ⟨_, hEq⟩ <;> rw [hEq] <;> exact h
  | identityCreatorReady =>
    obtain ⟨_, _, hEq⟩ := identityCreatorReadyHandler_cases m
    change Registered id m.identityCreatorReadyHandler
    rw [hEq]
    exact h
  | deploymentWatcherReady =>
    obtain ⟨_, _, hEq⟩ := deploymentWatcherReady_cases m
    change Registered id m.deploymentWatcherReady
    rw [hEq]
    exact h
  | activatedServiceUser user serviceNs serviceName =>
    change Registered id (m.activatedServiceUser outcomes user serviceNs serviceName)
    rcases activatedServiceUser_cases outcomes user serviceNs serviceName m with
      ⟨_, hEq⟩ | ⟨i, _, hEq⟩ <;> rw [hEq]
    · exact h
    · exact h.update rfl
  | releaseDeviceId lookup uuid =>
    change Registered id (m.releaseDeviceId outcomes lookup uuid)
    rcases releaseDeviceId_cases outcomes lookup uuid m with
      ⟨_, hEq⟩ | ⟨i, _, _, _, hEq⟩ <;> rw [hEq]
    · exact h
    · exact h.update rfl
  | identityManagerInitialized | identityManagerStarted | identityManagerDebug => exact h

/-- The deletion that a handled message puts back in the queue is that of its own service. -/
theorem deletes_selfSent {m : IdentityManager} {msg x : IdentityManagerProtocol} (hx : x ∈ m.selfSent msg)
    (hDeletes : deletes id x = true) : intent id msg = some false := by
  cases tellsItself_of_mem hx with
  | creatorReady hWatchers => cases hDeletes
  | watcherReady hWatchers hCreator => cases hDeletes
  | deleted candidate identity hCandidate hIdentity =>
    have hId : Service.serviceId identity = id := by simpa [deletes] using hDeletes
    rw [intent, if_pos (toOption_serviceId_eq.mpr (hId ▸ hCandidate))]

theorem Settled.handled {m : IdentityManager} (h : Settled id m) {msg : IdentityManagerProtocol}
    {queue : Channel IdentityManagerProtocol} (hRecv : m.identityManagerQueue.recv = some (msg, queue))
    (hOrder : InOrder id m msg)
    (hCalls : (handle outcomes order msg { m with identityManagerQueue := queue }).failures = m.failures)
    (hErrors : (handle outcomes order msg { m with identityManagerQueue := queue }).emptyPoolErrors =
      m.emptyPoolErrors) :
    Settled id (handle outcomes order msg { m with identityManagerQueue := queue }) := by
  obtain ⟨rest, hPending, rfl⟩ := Channel.recv_eq_some.mp hRecv
  let m₁ : IdentityManager :=
    { m with identityManagerQueue := ⟨m.identityManagerQueue.received ++ [msg], rest⟩ }
  have hSpares : m₁.Spares msg := by cases msg <;> first | exact hOrder | exact trivial
  have hMirrored : Mirrored (handle outcomes order msg m₁) := Mirrored.handled (m := m₁) h.mirrored hSpares hCalls
  have hKeyed : MissingKeyed (handle outcomes order msg m₁) := MissingKeyed.handled (m := m₁) h.keyed msg
  refine ⟨hMirrored, hKeyed, ?_⟩
  rw [handle_queue, Channel.received_sendAll, Channel.pending_sendAll, lastIntent_append_singleton]
  intro hLast
  have hSelf : ∀ x ∈ m₁.selfSent msg, deletes id x = false := fun x hx => by
    by_contra hDeletes
    rw [deletes_selfSent hx (by simpa using hDeletes)] at hLast
    simp at hLast
  have hRequest : intent id msg = some true →
      Registered id (handle outcomes order msg m₁) ∧ ∀ x ∈ rest, deletes id x = false := by
    intro hIntent
    cases msg with
    | requestServiceIdentity c =>
      have hId : (MaybeService.serviceId c).toOption = some id := by
        by_contra hOther
        simp [intent, hOther] at hIntent
      refine ⟨(requestServiceIdentity_requested _ c m₁).served (.inr hErrors) c (List.mem_singleton_self c) id
        (toOption_serviceId_eq.mp hId), fun x hx => hOrder hId x ?_⟩
      rw [hPending]
      exact List.mem_cons_of_mem _ hx
    | _ => simp [intent] at hIntent
  have hBefore : lastIntent id m.identityManagerQueue.received = some true →
      Registered id (handle outcomes order msg m₁) ∧ ∀ x ∈ rest, deletes id x = false := by
    intro hWanted
    obtain ⟨hRegistered, hClear⟩ := h.wanted hWanted
    rw [hPending] at hClear
    refine ⟨?_, fun x hx => hClear x (List.mem_cons_of_mem _ hx)⟩
    by_cases hReady : msg = .identityManagerReady
    · subst hReady
      refine Registered.identityManagerReady (m := m₁) h.keyed hCalls hErrors ?_
      obtain ⟨i, hi⟩ := hRegistered
      have hKey := ServiceCredentialsProvider.keyed _ _ i hi
      have hMem := (mem_identities (p := m.serviceCredentialsProvider)).mpr (hKey ▸ hi)
      exact (hOrder hWanted i hMem hKey).imp_right fun hRetained => ⟨i, hMem, hKey, hRetained⟩
    · exact Registered.handled (m := m₁) hRegistered (hClear msg List.mem_cons_self) hReady
  have hBoth : Registered id (handle outcomes order msg m₁) ∧ ∀ x ∈ rest, deletes id x = false := by
    cases hIntent : intent id msg with
    | none => exact hBefore (by simpa [hIntent] using hLast)
    | some requested => exact hRequest (by simpa [hIntent] using hLast)
  exact ⟨hBoth.1, fun x hx => (List.mem_append.mp hx).elim (hBoth.2 x) (hSelf x)⟩

theorem Settled.of_steps {m₀ m : IdentityManager} (h₀ : Settled id m₀)
    (hRun : Steps (next outcomes) (OrderedStep id) m₀ m) :
    Grows m₀ m ∧
      (m.failures = m₀.failures → m.emptyPoolErrors = m₀.emptyPoolErrors → Settled id m) := by
  refine hRun.invariant (fun m => Grows m₀ m ∧
    (m.failures = m₀.failures → m.emptyPoolErrors = m₀.emptyPoolErrors → Settled id m)) ?_
    ⟨Grows.refl m₀, fun _ _ => h₀⟩
  rintro m event m' ⟨hGrows, hSettled⟩ hOrder hNext
  cases event with
  | arrive msg =>
    cases hNext
    refine ⟨⟨hGrows.failures, hGrows.emptyPoolErrors⟩, fun hCalls hErrors => ?_⟩
    obtain ⟨hMirrored, hKeyed, hWanted⟩ := hSettled hCalls hErrors
    refine ⟨hMirrored, hKeyed, fun hLast => ?_⟩
    obtain ⟨hRegistered, hClear⟩ := hWanted hLast
    refine ⟨hRegistered, fun x hx => ?_⟩
    rcases List.mem_append.mp hx with hx | hx
    · exact hClear x hx
    · cases List.mem_singleton.mp hx
      cases msg <;> first | rfl | cases hOrder
  | handle order =>
    obtain ⟨⟨msg, queue⟩, hRecv, rfl⟩ := Option.map_eq_some_iff.mp hNext
    obtain ⟨hFailuresGrow, hErrorsGrow⟩ := handle_grows outcomes order msg
      { m with identityManagerQueue := queue }
    refine ⟨⟨hGrows.failures.trans hFailuresGrow, hGrows.emptyPoolErrors.trans hErrorsGrow⟩,
      fun hCalls hErrors => ?_⟩
    obtain ⟨hCallsBefore, hCallsNow⟩ := prefix_between hGrows.failures hFailuresGrow hCalls
    obtain ⟨hErrorsBefore, hErrorsNow⟩ := prefix_between hGrows.emptyPoolErrors hErrorsGrow hErrors
    refine (hSettled hCallsBefore hErrorsBefore).handled hRecv (hOrder msg ?_) hCallsNow hErrorsNow
    obtain ⟨rest, hPending, -⟩ := Channel.recv_eq_some.mp hRecv
    simp [hPending]

/-- In every run of ordered steps without failing calls or refused requests, a service whose
last message was a request ends up registered, with its object, once the queue is empty. -/
theorem requested_last_registered {m₀ m : IdentityManager} (queue : List IdentityManagerProtocol)
    (hQueue : m₀.identityManagerQueue = .holding queue) (hMirrored : Mirrored m₀) (hKeyed : MissingKeyed m₀)
    (hRun : Steps (next outcomes) (OrderedStep id) m₀ m) (hCalls : m.failures = m₀.failures)
    (hErrors : m.emptyPoolErrors = m₀.emptyPoolErrors) (hDrained : m.identityManagerQueue.pending = [])
    (hLast : lastIntent id m.identityManagerQueue.history = some true) :
    ∃ i, m.identities.lookup id = some i ∧
      ∃ o, m.objects.lookup (Service.serviceName i) = some o ∧ Service.serviceId o = id := by
  have hSettled : Settled id m₀ :=
    ⟨hMirrored, hKeyed, by simp [hQueue, Channel.holding, lastIntent]⟩
  obtain ⟨hMirrored, -, hWanted⟩ := (Settled.of_steps hSettled hRun).2 hCalls hErrors
  rw [Channel.history, hDrained, List.append_nil] at hLast
  obtain ⟨i, hi⟩ := (hWanted hLast).1
  have hKey := ServiceCredentialsProvider.keyed _ _ i hi
  obtain ⟨o, ho, hId⟩ := hMirrored i ((mem_identities _).mpr (hKey ▸ hi))
  exact ⟨i, hi, o, ho, hId.trans hKey⟩

def sampleQueued (queue : List IdentityManagerProtocol) : IdentityManager :=
  { restored "cluster" [sampleIdentity "a" "u1"] with identityManagerQueue := .holding queue }

def sampleRecreation : List Event :=
  [.handle .asStored, .handle .asStored] ++
    deliver [.foundServiceUser (sampleUser "u2") false, .requestServiceIdentity (sampleCandidate "a")]

theorem requested_last_registered_sample :
    ∃ i, (runD (next fun _ => .delivered) (sampleQueued [.deletedServiceCandidate (sampleCandidate "a")])
        sampleRecreation).identities.lookup "ns_a" = some i ∧
      ∃ o, (runD (next fun _ => .delivered) (sampleQueued [.deletedServiceCandidate (sampleCandidate "a")])
        sampleRecreation).objects.lookup (Service.serviceName i) = some o ∧ Service.serviceId o = "ns_a" :=
  requested_last_registered [.deletedServiceCandidate (sampleCandidate "a")] rfl (by decide)
    (fun _ _ h => by cases h) (Steps.of_runD sampleRecreation (by decide) (by decide))
    (by decide) (by decide) (by decide)
    (by decide)

def sampleOvertaken : IdentityManager :=
  sampleQueued [.deletedServiceCandidate (sampleCandidate "a"), .requestServiceIdentity (sampleCandidate "a")]

/-- The request finds the identity still registered, and the deletion that waits behind it
does not find out that the candidate is back. -/
theorem requested_last_deleted :
    Mirrored sampleOvertaken ∧ ∃ m, Steps (next fun _ => .delivered) (fun _ _ => True) sampleOvertaken m ∧
      m.failures = [] ∧ m.emptyPoolErrors = [] ∧ m.identityManagerQueue.pending = [] ∧
      lastIntent "ns_a" m.identityManagerQueue.history = some true ∧
      m.identities.lookup "ns_a" = none ∧ m.objects.lookup "ns-a" = none :=
  ⟨by decide, runD (next fun _ => .delivered) sampleOvertaken
    [.handle .asStored, .handle .asStored, .handle .asStored], Steps.of_runD _ (by decide) (by decide), by decide⟩

end SdpK8sInjector.IdentityService.IdentityManager
