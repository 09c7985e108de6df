import SdpK8sInjector.IdentityService.Writes

/-! # One message of the manager, seen from one service

Between its creation and its deletion an identity is changed in two places only:
a notice of activation replaces its user, and a release may record a device id.
The messages to the creator tell which services are created and deleted.
-/

namespace SdpK8sInjector.IdentityService.IdentityManager

open Lib Common ServiceCredentialsProvider

variable {outcomes : Nat → CallOutcome} {order : IterationOrder} {requested : ServiceCandidate → Prop}

/-- The service that the message activates, and the user it sends along. -/
def activates : IdentityCreatorProtocol → Option (String × ServiceUser)
  | .activateServiceUser user _ serviceNs serviceName _ => some (formatServiceId serviceNs serviceName, user)
  | _ => none

/-- The message is about the deletion of the identity with the given id. -/
def removesIdentity (key : String) : IdentityCreatorProtocol → Bool
  | .deleteServiceUser _ serviceNs serviceName => formatServiceId serviceNs serviceName = key
  | _ => false

/-- What the message makes of the identity registered under the given id, unless it is deleted. -/
def heldAfter (key : String) : IdentityManagerProtocol → ServiceIdentity → ServiceIdentity
  | .activatedServiceUser user serviceNs serviceName, i =>
    if formatServiceId serviceNs serviceName = key then i.withUser user else i
  | .releaseDeviceId lookup uuid, i =>
    if formatServiceId lookup.ns lookup.name = key then recordDeviceId uuid i else i
  | _, i => i

/-- The identity that the message itself says to delete. -/
def namedBy : IdentityManagerProtocol → List ServiceIdentity
  | .deleteServiceIdentity identity => [identity]
  | _ => []

/-- A turn that changes identities by `after`, creates them for the requested candidates and deletes registered ones,
or those that are named. -/
structure Turn (requested : ServiceCandidate → Prop) (after : String → ServiceIdentity → ServiceIdentity)
    (named : List ServiceIdentity) (m m' : IdentityManager) (sent : List IdentityCreatorProtocol) : Prop where
  queue : m'.identityCreatorQueue = m.identityCreatorQueue.sendAll sent
  kept : ∀ key i, m.identities.lookup key = some i → (∀ x ∈ sent, removesIdentity key x = false) →
    m'.identities.lookup key = some (after key i) ∧ ∀ x ∈ sent, ∀ user, activates x ≠ some (key, user)
  fresh : ∀ key i', m'.identities.lookup key = some i' →
    (∃ i, m.identities.lookup key = some i ∧ ∀ x ∈ sent, removesIdentity key x = false) ∨
      ∃ c, requested c ∧ MaybeService.serviceId c = .ok key
  activated : ∀ x ∈ sent, ∀ key user, activates x = some (key, user) →
    ∃ i', m'.identities.lookup key = some i' ∧ i'.credentials = user
  removed : ∀ user serviceNs serviceName, .deleteServiceUser user serviceNs serviceName ∈ sent →
    (∃ i ∈ named, .deleteServiceUser user serviceNs serviceName = deletionOf i) ∨
      ∃ i, m.identities.lookup (formatServiceId serviceNs serviceName) = some i ∧ i.credentials = user

namespace Turn

variable {after : String → ServiceIdentity → ServiceIdentity}
  {m m' m'' : IdentityManager} {sent sent' : List IdentityCreatorProtocol}

/-- Nothing is created or deleted. -/
theorem of_updates (hQueue : m'.identityCreatorQueue = m.identityCreatorQueue.sendAll sent)
    (hSent : ∀ x ∈ sent, activates x = none ∧ ∀ key, removesIdentity key x = false)
    (hIdentities : ∀ key, m'.identities.lookup key = (m.identities.lookup key).map (after key)) :
    Turn requested after [] m m' sent where
  queue := hQueue
  kept key i hLookup _ := by
    refine ⟨by rw [hIdentities, hLookup]; rfl, fun x hx user hActivates => ?_⟩
    cases (hSent x hx).1.symm.trans hActivates
  fresh key i' hLookup := by
    rw [hIdentities] at hLookup
    obtain ⟨i, hi, -⟩ := Option.map_eq_some_iff.mp hLookup
    exact .inl ⟨i, hi, fun x hx => (hSent x hx).2 key⟩
  activated x hx key user hActivates := by
    cases (hSent x hx).1.symm.trans hActivates
  removed user serviceNs serviceName hx := by
    have hRemoves := (hSent _ hx).2 (formatServiceId serviceNs serviceName)
    simp [removesIdentity] at hRemoves

theorem of_same (hQueue : m'.identityCreatorQueue = m.identityCreatorQueue)
    (hIdentities : m'.identities = m.identities) :
    Turn requested (fun _ i => i) [] m m' [] := by
  refine of_updates (by rw [hQueue, Channel.sendAll_nil]) (List.forall_mem_nil _) fun key => ?_
  rw [hIdentities]
  exact Option.map_id'.symm

/-- Two turns that change no identity, of which only the first one deletes. -/
theorem trans (h : Turn requested (fun _ i => i) [] m m' sent) (h' : Turn requested (fun _ i => i) [] m' m'' sent')
    (hLater : ∀ x ∈ sent', ∀ key, removesIdentity key x = false) :
    Turn requested (fun _ i => i) [] m m'' (sent ++ sent') where
  queue := by rw [h'.queue, h.queue, Channel.sendAll_sendAll]
  kept key i hLookup hKept := by
    obtain ⟨hFirst, hNone⟩ := h.kept key i hLookup fun x hx => hKept x (List.mem_append_left _ hx)
    obtain ⟨hLast, hNone'⟩ := h'.kept key i hFirst fun x hx => hKept x (List.mem_append_right _ hx)
    refine ⟨hLast, fun x hx => ?_⟩
    rcases List.mem_append.mp hx with hx | hx
    · exact hNone x hx
    · exact hNone' x hx
  fresh key i' hLookup := by
    rcases h'.fresh key i' hLookup with ⟨i, hi, -⟩ | hRequested
    · rcases h.fresh key i hi with ⟨i₀, hi₀, hKept⟩ | hRequested
      · refine .inl ⟨i₀, hi₀, fun x hx => ?_⟩
        rcases List.mem_append.mp hx with hx | hx
        · exact hKept x hx
        · exact hLater x hx key
      · exact .inr hRequested
    · exact .inr hRequested
  activated x hx key user hActivates := by
    rcases List.mem_append.mp hx with hx | hx
    · obtain ⟨i, hi, hUser⟩ := h.activated x hx key user hActivates
      exact ⟨i, (h'.kept key i hi fun y hy => hLater y hy key).1, hUser⟩
    · exact h'.activated x hx key user hActivates
  removed user serviceNs serviceName hx := by
    rcases List.mem_append.mp hx with hx | hx
    · exact h.removed user serviceNs serviceName hx
    · have hRemoves := hLater _ hx (formatServiceId serviceNs serviceName)
      simp [removesIdentity] at hRemoves

end Turn

theorem mem_activationOf {m : IdentityManager} {lookup : ServiceLookup} {user : ServiceUser} {rest : List ServiceUser}
    {labels : Labels} {x : IdentityCreatorProtocol} (hx : x ∈ m.activationOf lookup user rest labels) :
    x = .createIdentity ∨ x = .activateServiceUser user m.clusterId lookup.ns lookup.name labels := by
  unfold activationOf at hx
  rcases List.mem_append.mp hx with hx | hx
  · split at hx
    · exact .inl (List.mem_singleton.mp hx)
    · cases hx
  · exact .inr (List.mem_singleton.mp hx)

variable (outcomes) in
theorem requestServiceIdentity_turn (candidate : ServiceCandidate)
    (hRequested : requested candidate) (m : IdentityManager) :
    ∃ sent, Turn requested (fun _ i => i) [] m (m.requestServiceIdentity outcomes candidate) sent ∧
      ∀ x ∈ sent, ∀ key, removesIdentity key x = false := by
  have hOutcome := requestServiceIdentity_outcome outcomes candidate m
  generalize m.requestServiceIdentity outcomes candidate = m' at hOutcome ⊢
  -- a new identity, whatever becomes of its object
  have hNew : ∀ (m' : IdentityManager) (id : String) (identity : ServiceIdentity)
      (sent : List IdentityCreatorProtocol),
      MaybeService.serviceId candidate = .ok id → m.identities.lookup id = none →
      m'.identities = AList.insert id identity m.identities →
      m'.identityCreatorQueue = m.identityCreatorQueue.sendAll sent →
      (∀ x ∈ sent, (activates x = none ∨ activates x = some (id, identity.credentials)) ∧
        ∀ key, removesIdentity key x = false) →
      Turn requested (fun _ i => i) [] m m' sent ∧ ∀ x ∈ sent, ∀ key, removesIdentity key x = false := by
    intro m' id identity sent hId hNone hIdentities hQueue hSent
    have hOther : ∀ key i, m.identities.lookup key = some i → key ≠ id := by
      rintro key i hLookup rfl
      cases hNone.symm.trans hLookup
    refine ⟨⟨hQueue, fun key i hLookup _ => ⟨?_, fun x hx user hActivates => ?_⟩, fun key i' hLookup => ?_,
      fun x hx key user hActivates => ?_, fun user serviceNs serviceName hx => ?_⟩, fun x hx => (hSent x hx).2⟩
    · rw [hIdentities, HashMap.lookup_insert_eq_ite, if_neg (hOther key i hLookup), hLookup]
    · rcases (hSent x hx).1 with hQuiet | hActivated
      · cases hQuiet.symm.trans hActivates
      · rw [hActivated] at hActivates
        exact hOther key i hLookup (Prod.mk.inj (Option.some.inj hActivates)).1.symm
    · rw [hIdentities, HashMap.lookup_insert_eq_ite] at hLookup
      split at hLookup
      · exact .inr ⟨candidate, hRequested, hId.trans (congrArg _ (Eq.symm ‹_›))⟩
      · exact .inl ⟨i', hLookup, fun x hx => (hSent x hx).2 key⟩
    · rcases (hSent x hx).1 with hQuiet | hActivated
      · cases hQuiet.symm.trans hActivates
      · rw [hActivated] at hActivates
        obtain ⟨rfl, rfl⟩ := Prod.mk.inj (Option.some.inj hActivates)
        exact ⟨identity, by rw [hIdentities, AList.lookup_insert], rfl⟩
    · have hRemoves := (hSent _ hx).2 (formatServiceId serviceNs serviceName)
      simp [removesIdentity] at hRemoves
  cases hOutcome with
  | noNamespace | registered | emptyPool => exact ⟨[], Turn.of_same rfl rfl, List.forall_mem_nil _⟩
  | createFailed id lookup user rest e api hId hLookup hFormat hPool hCreate =>
    subst hFormat
    exact ⟨[], hNew _ _ (identityFor lookup user) [] hId hLookup rfl (Channel.sendAll_nil _).symm
      (List.forall_mem_nil _)⟩
  | created id lookup labels user rest api hId hLookup hFormat hPool hCreate =>
    subst hFormat
    refine ⟨_, hNew _ _ (identityFor lookup user) _ hId hLookup rfl rfl fun x hx => ?_⟩
    rcases mem_activationOf hx with rfl | rfl
    · exact ⟨.inl rfl, fun _ => rfl⟩
    · exact ⟨.inr rfl, fun _ => rfl⟩

variable (outcomes) in
theorem requestAll_turn (candidates : List ServiceCandidate)
    (hRequested : ∀ c ∈ candidates, requested c) (m : IdentityManager) :
    ∃ sent, Turn requested (fun _ i => i)
    [] m (candidates.foldl (fun m c => m.requestServiceIdentity outcomes c) m) sent ∧
      ∀ x ∈ sent, ∀ key, removesIdentity key x = false := by
  induction candidates generalizing m with
  | nil => exact ⟨[], Turn.of_same rfl rfl, List.forall_mem_nil _⟩
  | cons c rest ih =>
    obtain ⟨sent, hFirst, hQuiet⟩ := requestServiceIdentity_turn outcomes c
      (hRequested c List.mem_cons_self) m
    obtain ⟨sent', hRest, hQuiet'⟩ := ih (fun c hc => hRequested c (List.mem_cons_of_mem _ hc))
      (m.requestServiceIdentity outcomes c)
    refine ⟨sent ++ sent', hFirst.trans hRest hQuiet', fun x hx => ?_⟩
    rcases List.mem_append.mp hx with hx | hx
    · exact hQuiet x hx
    · exact hQuiet' x hx

variable (outcomes order requested) in
theorem reconcile_turn (m : IdentityManager) :
    ∃ sent, Turn requested (fun _ i => i) [] m (m.reconcile outcomes order) sent := by
  obtain ⟨extra, users, orphans, h⟩ := reconcile_spec outcomes order m
  let sent : List IdentityCreatorProtocol := extra.map deletionOf ++ users.map .deleteSDPUser ++
    orphans.map deletionOf ++ [.reconcileSDPUsers (HashSet.ofList
      ((m.reconcile outcomes order).serviceCredentialsProvider.identities.map fun s => s.credentials.name))]
  -- only what is deleted has a message of its own
  have hSent : ∀ x ∈ sent,
      (∃ i ∈ extra ++ orphans, x = deletionOf i) ∨ activates x = none ∧
      ∀ key, removesIdentity key x = false := by
    intro x hx
    simp only [sent, List.mem_append, List.mem_map, List.mem_singleton] at hx
    rcases hx with ((⟨i, hi, rfl⟩ | ⟨id, -, rfl⟩) | ⟨i, hi, rfl⟩) | rfl
    · exact .inl ⟨i, List.mem_append_left _ hi, rfl⟩
    · exact .inr ⟨rfl, fun _ => rfl⟩
    · exact .inl ⟨i, List.mem_append_right _ hi, rfl⟩
    · exact .inr ⟨rfl, fun _ => rfl⟩
  have hDeletion : ∀ i ∈ extra ++ orphans, deletionOf i ∈ sent := by
    intro i hi
    rcases List.mem_append.mp hi with hi | hi
    · exact List.mem_append_left _ (List.mem_append_left _ (List.mem_append_left _ (List.mem_map_of_mem hi)))
    · exact List.mem_append_left _ (List.mem_append_right _ (List.mem_map_of_mem hi))
  have hQuiet : ∀ x, (∃ i ∈ extra ++ orphans, x = deletionOf i) ∨
      activates x = none ∧ (∀ key, removesIdentity key x = false) → activates x = none := by
    rintro x (⟨i, -, rfl⟩ | hx)
    · rfl
    · exact hx.1
  refine ⟨sent, h.queue, fun key i hLookup hKept => ⟨?_, fun x hx user hActivates => ?_⟩,
    fun key i' hLookup => ?_,
    fun x hx key user hActivates => ?_, fun user serviceNs serviceName hx => ?_⟩
  · rw [h.identities, HashMap.lookup_eraseAll, if_neg, hLookup]
    intro hMem
    obtain ⟨j, hj, rfl⟩ := List.mem_map.mp hMem
    simpa [removesIdentity, deletionOf, Service.serviceId] using hKept _ (hDeletion j hj)
  · cases (hQuiet x (hSent x hx)).symm.trans hActivates
  · rw [h.identities, HashMap.lookup_eraseAll] at hLookup
    split at hLookup
    · cases hLookup
    · refine .inl ⟨i', hLookup, fun x hx => ?_⟩
      rcases hSent x hx with ⟨j, hj, rfl⟩ | ⟨-, hOther⟩
      · have hNe : Service.serviceId j ≠ key := fun hEq => ‹_ ∉ _› (List.mem_map.mpr ⟨j, hj, hEq⟩)
        simpa [removesIdentity, deletionOf, Service.serviceId] using hNe
      · exact hOther key
  · cases (hQuiet x (hSent x hx)).symm.trans hActivates
  · rcases hSent _ hx with ⟨j, hj, hEq⟩ | ⟨-, hOther⟩
    · cases hEq
      have hRegistered : j ∈ m.serviceCredentialsProvider.identities := by
        rcases List.mem_append.mp hj with hj | hj
        · exact (h.extra_spec j hj).1
        · exact (h.orphans_spec j hj).1
      exact .inr ⟨j, (mem_identities _).mp hRegistered, rfl⟩
    · simpa [removesIdentity] using hOther (formatServiceId serviceNs serviceName)

theorem identityManagerReady_turn {m : IdentityManager}
    (hRequested : ∀ c ∈ HashMap.values m.missingServiceCandidates, requested c) :
    ∃ sent, Turn requested (fun _ i => i) [] m (m.identityManagerReady outcomes order) sent := by
  obtain ⟨sent, hReconciled⟩ := reconcile_turn outcomes order requested m
  have hMissing : (m.reconcile outcomes order).missingServiceCandidates = m.missingServiceCandidates := by
    obtain ⟨_, _, _, h⟩ := reconcile_spec outcomes order m
    rw [h.frame]
  obtain ⟨sent', hRequests, hQuiet⟩ := requestAll_turn outcomes
    (order.walk (HashMap.values (m.reconcile outcomes order).missingServiceCandidates))
    (fun c hc => hRequested c (hMissing ▸ order.mem_walk.mp hc)) (m.reconcile outcomes order)
  have hTurn := hReconciled.trans hRequests hQuiet
  exact ⟨sent ++ sent', hTurn.queue, hTurn.kept, hTurn.fresh, hTurn.activated, hTurn.removed⟩

theorem Turn.of_replace {after : String → ServiceIdentity → ServiceIdentity} {m m' : IdentityManager}
    {sent : List IdentityCreatorProtocol} {key : String} {i identity : ServiceIdentity}
    (hRegistered : m.identities.lookup key = some i) (hId : Service.serviceId identity = key)
    (hIdentities : m'.identities = AList.insert (Service.serviceId identity) identity m.identities)
    (hQueue : m'.identityCreatorQueue = m.identityCreatorQueue.sendAll sent)
    (hSent : ∀ x ∈ sent, activates x = none ∧ ∀ key, removesIdentity key x = false)
    (hAfter : after key i = identity) (hOther : ∀ key' j, key ≠ key' → after key' j = j) :
    Turn requested after [] m m' sent := by
  refine of_updates hQueue hSent fun key' => ?_
  rw [hIdentities, HashMap.lookup_insert_eq_ite, hId]
  split
  · rename_i hSame
    rw [hSame, hRegistered, Option.map_some, hAfter]
  · rename_i hNe
    cases m.identities.lookup key' with
    | none => rfl
    | some j => rw [Option.map_some, hOther key' j (Ne.symm hNe)]

theorem Turn.congr {after after' : String → ServiceIdentity → ServiceIdentity} {named : List ServiceIdentity}
    {m m' : IdentityManager} {sent : List IdentityCreatorProtocol} (h : Turn requested after named m m' sent)
    (hAfter : ∀ key i, m.identities.lookup key = some i → after' key i = after key i) :
    Turn requested after' named m m' sent := by
  refine ⟨h.queue, fun key i hLookup hKept => ?_, h.fresh, h.activated, h.removed⟩
  rw [hAfter key i hLookup]
  exact h.kept key i hLookup hKept

variable (outcomes) in
theorem deleteServiceIdentity_turn (identity : ServiceIdentity) (m : IdentityManager) :
    ∃ sent, Turn requested (fun _ i => i) [identity] m (m.deleteServiceIdentity outcomes identity) sent := by
  rcases deleteServiceIdentity_cases outcomes identity m with ⟨e, api, _, hEq⟩ | ⟨api, _, hEq⟩ <;> rw [hEq]
  · have hSame : Turn requested (fun _ i => i) [] m { m with serviceIdentityApi := api } [] := Turn.of_same rfl rfl
    exact ⟨[], hSame.queue, hSame.kept, hSame.fresh, hSame.activated, fun _ _ _ h => (by cases h)⟩
  · refine ⟨[deletionOf identity], rfl, fun key i hLookup hKept => ⟨?_, ?_⟩, fun key i' hLookup => ?_, ?_, ?_⟩
    · have hNe : Service.serviceId identity ≠ key := by
        simpa [removesIdentity, deletionOf, Service.serviceId] using hKept _ (List.mem_singleton_self _)
      change AList.lookup key (AList.erase (Service.serviceId identity) m.identities) = some i
      rw [HashMap.lookup_erase_eq_ite, if_neg (Ne.symm hNe), hLookup]
    · intro x hx user hActivates
      rw [List.mem_singleton.mp hx] at hActivates
      cases hActivates
    · change AList.lookup key (AList.erase (Service.serviceId identity) m.identities) = some i' at hLookup
      rw [HashMap.lookup_erase_eq_ite] at hLookup
      split at hLookup
      · cases hLookup
      · refine .inl ⟨i', hLookup, fun x hx => ?_⟩
        rw [List.mem_singleton.mp hx]
        simpa [removesIdentity, deletionOf, Service.serviceId] using Ne.symm ‹¬_›
    · intro x hx key user hActivates
      rw [List.mem_singleton.mp hx] at hActivates
      cases hActivates
    · intro user serviceNs serviceName hx
      exact .inl ⟨identity, List.mem_singleton_self _, List.mem_singleton.mp hx⟩

/-- The services that the handler of the message may create an identity for. -/
def createdIds (m : IdentityManager) : IdentityManagerProtocol → List String
  | .requestServiceIdentity c => (MaybeService.serviceId c).toOption.toList.filter (· ∉ m.identities)
  | .identityManagerReady =>
    (HashMap.values m.missingServiceCandidates).filterMap fun c => (MaybeService.serviceId c).toOption
  | _ => []

variable (outcomes order) in
theorem handle_turn (msg : IdentityManagerProtocol) (m : IdentityManager) :
    ∃ sent, Turn (m.RequestedBy msg) (fun key => heldAfter key msg)
    (namedBy msg) m (handle outcomes order msg m) sent ∧
      ∀ c, msg = .requestServiceIdentity c → ∀ x ∈ sent, ∀ key, removesIdentity key x = false := by
  by_cases hRequest : ∃ c, msg = .requestServiceIdentity c
  · obtain ⟨c, rfl⟩ := hRequest
    have hRequested : m.RequestedBy (.requestServiceIdentity c) c := rfl
    obtain ⟨sent, hTurn, hQuiet⟩ := requestServiceIdentity_turn outcomes c hRequested m
    exact ⟨sent, hTurn, fun _ _ => hQuiet⟩
  suffices hTurn : ∃ sent, Turn (m.RequestedBy msg) (fun key => heldAfter key msg) (namedBy msg) m
      (handle outcomes order msg m) sent by
    obtain ⟨sent, hTurn⟩ := hTurn
    exact ⟨sent, hTurn, fun c hc => absurd ⟨c, hc⟩ hRequest⟩
  cases msg with
  | requestServiceIdentity candidate => exact absurd ⟨candidate, rfl⟩ hRequest
  | deleteServiceIdentity identity => exact deleteServiceIdentity_turn outcomes identity m
  | identityManagerReady => exact identityManagerReady_turn fun _ hc => hc
  | foundServiceCandidate candidate =>
    refine ⟨[], ?_⟩
    rcases foundServiceCandidate_cases candidate m with ⟨_, hEq⟩ | ⟨_, _, _, _, hEq⟩ | ⟨_, _, _, hEq⟩ <;>
      rw [handle, hEq] <;> exact Turn.of_same rfl rfl
  | foundServiceUser user activated => cases activated <;> exact ⟨[], Turn.of_same rfl rfl⟩
  | deletedServiceCandidate candidate =>
    refine ⟨[], ?_⟩
    rcases deletedServiceCandidate_cases candidate m with ⟨_, _, _, _, hEq⟩ | ⟨_, hEq⟩ <;> rw [handle, hEq] <;>
      exact Turn.of_same rfl rfl
  | identityCreatorReady =>
    obtain ⟨_, _, hEq⟩ := identityCreatorReadyHandler_cases m
    refine ⟨[], ?_⟩
    rw [handle, hEq]
    exact Turn.of_same rfl rfl
  | deploymentWatcherReady =>
    obtain ⟨_, _, hEq⟩ := deploymentWatcherReady_cases m
    refine ⟨[], ?_⟩
    rw [handle, hEq]
    exact Turn.of_same rfl rfl
  | activatedServiceUser user serviceNs serviceName =>
    refine ⟨[], ?_⟩
    rcases activatedServiceUser_cases outcomes user serviceNs serviceName m with ⟨hNone, hEq⟩ |
      ⟨i, hLookup, hEq⟩ <;>
      rw [handle, hEq]
    · refine Turn.congr (Turn.of_same rfl rfl) fun key i hLookup => if_neg ?_
      rintro rfl
      cases hNone.symm.trans hLookup
    · have hId : Service.serviceId (i.withUser user) = formatServiceId serviceNs serviceName := keyed _ _ i hLookup
      exact Turn.of_replace hLookup hId rfl (Channel.sendAll_nil _).symm (List.forall_mem_nil _) (if_pos rfl)
        fun key' j hNe => if_neg hNe
  | releaseDeviceId lookup uuid =>
    rcases releaseDeviceId_cases outcomes lookup uuid m with ⟨hNone, hEq⟩ | ⟨i, sent, hLookup, hSent, hEq⟩ <;>
      rw [handle, hEq]
    · refine ⟨[], Turn.congr (Turn.of_same rfl rfl) fun key i hLookup => if_neg ?_⟩
      rintro rfl
      cases hNone.symm.trans hLookup
    · refine ⟨sent, Turn.of_replace hLookup ((serviceId_recordDeviceId uuid i).trans (keyed _ _ i hLookup)) rfl rfl
        (fun x hx => ?_) (if_pos rfl) fun key' j hNe => if_neg hNe⟩
      rcases hSent with rfl | rfl
      · cases hx
      · rw [List.mem_singleton.mp hx]
        exact ⟨rfl, fun _ => rfl⟩
  | identityManagerInitialized | identityManagerStarted | identityManagerDebug => exact ⟨[], Turn.of_same rfl rfl⟩

theorem kept_or_created {msg : IdentityManagerProtocol} {m m' : IdentityManager} {sent : List IdentityCreatorProtocol}
    {after : String → ServiceIdentity → ServiceIdentity} {named : List ServiceIdentity}
    (hTurn : Turn (m.RequestedBy msg) after named m m' sent)
    (hQuiet : ∀ c, msg = .requestServiceIdentity c → ∀ x ∈ sent, ∀ key, removesIdentity key x = false)
    {key : String} {i' : ServiceIdentity} (hLookup : m'.identities.lookup key = some i') :
    (∃ i, m.identities.lookup key = some i ∧ i' = after key i ∧
      ∀ x ∈ sent, ∀ user, activates x ≠ some (key, user)) ∨
      key ∈ m.createdIds msg := by
  have hKept : ∀ i, m.identities.lookup key = some i → (∀ x ∈ sent, removesIdentity key x = false) →
      ∃ i, m.identities.lookup key = some i ∧ i' = after key i ∧
        ∀ x ∈ sent, ∀ user, activates x ≠ some (key, user) := by
    intro i hi hNone
    obtain ⟨hAfter, hSent⟩ := hTurn.kept key i hi hNone
    exact ⟨i, hi, Option.some.inj (hLookup.symm.trans hAfter), hSent⟩
  rcases hTurn.fresh key i' hLookup with ⟨i, hi, hNone⟩ | ⟨c, hRequested, hId⟩
  · exact .inl (hKept i hi hNone)
  · cases msg with
    | requestServiceIdentity candidate =>
      cases hRequested
      cases hBefore : m.identities.lookup key with
      | some i => exact .inl (hBefore ▸ hKept i hBefore fun x hx => hQuiet c rfl x hx key)
      | none =>
        right
        simp [createdIds, hId, Except.toOption, AList.lookup_eq_none.mp hBefore]
    | identityManagerReady => exact .inr (List.mem_filterMap.mpr ⟨c, hRequested, by rw [hId]; rfl⟩)
    | _ => cases hRequested

end SdpK8sInjector.IdentityService.IdentityManager
