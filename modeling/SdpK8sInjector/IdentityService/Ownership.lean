import SdpK8sInjector.IdentityService.EmptyPool
import SdpK8sInjector.Lib.Ledger

/-! # Which service owns which user

The users of the pool are free, and so are those on their way to it. A user is
bound to a service by its identity and by every message that may still write it
into one. What is deleted, or was found activated, is spent.
-/

namespace SdpK8sInjector.IdentityService

open Lib Common

/-- The users that the message brings into the pool. -/
def IdentityManagerProtocol.freed : IdentityManagerProtocol → List String
  | .foundServiceUser user false => [user.id]
  | _ => []

def IdentityManagerProtocol.binds : IdentityManagerProtocol → List (String × String)
  | .activatedServiceUser user serviceNs serviceName => [(user.id, formatServiceId serviceNs serviceName)]
  | _ => []

def IdentityManagerProtocol.spends : IdentityManagerProtocol → List String
  | .foundServiceUser user true => [user.id]
  | .deleteServiceIdentity identity => [identity.credentials.id]
  | _ => []

def IdentityCreatorProtocol.binds : IdentityCreatorProtocol → List (String × String)
  | .activateServiceUser user _ serviceNs serviceName _ => [(user.id, formatServiceId serviceNs serviceName)]
  | _ => []

def IdentityCreatorProtocol.spends : IdentityCreatorProtocol → List String
  | .deleteServiceUser user _ _ => [user.id]
  | .deleteSDPUser id => [id]
  | _ => []

namespace IdentityManager

open ServiceCredentialsProvider

variable {outcomes : Nat → CallOutcome} {order : IterationOrder} {fresh : Set String}

/-- The ledger of the manager, of the messages on their way to it and of the users that the creator will find. -/
def ledger (m : IdentityManager) (inFlight : List IdentityManagerProtocol) (coming : List SDPUser) :
    Ledger String String where
  free := m.pool.map ServiceUser.id ++ inFlight.flatMap IdentityManagerProtocol.freed ++
    (coming.filter SDPUser.disabled).map SDPUser.id
  bound := {p | (∃ i ∈ m.serviceCredentialsProvider.identities, (i.credentials.id, Service.serviceId i) = p) ∨
    (∃ msg ∈ inFlight, p ∈ msg.binds) ∨ ∃ msg ∈ m.identityCreatorQueue.history, p ∈ msg.binds}
  spent :=
    {a | (∃ msg ∈ inFlight, a ∈ msg.spends) ∨ (∃ msg ∈ m.identityCreatorQueue.history, a ∈ msg.spends) ∨
    a ∈ m.existingActivatedCredentials ∨ ∃ u ∈ coming, u.disabled = false ∧ u.id = a}

section Ledger

variable {m m' : IdentityManager} {inFlight inFlight' : List IdentityManagerProtocol} {coming : List SDPUser}

theorem held_bound {i : ServiceIdentity} (hi : i ∈ m.serviceCredentialsProvider.identities) :
    (i.credentials.id, Service.serviceId i) ∈ (ledger m inFlight coming).bound := .inl ⟨i, hi, rfl⟩

theorem held_used {i : ServiceIdentity} (hi : i ∈ m.serviceCredentialsProvider.identities) :
    i.credentials.id ∈ (ledger m inFlight coming).used := .inr ⟨_, held_bound hi⟩

theorem activated_used {a : String} (ha : a ∈ m.existingActivatedCredentials) :
    a ∈ (ledger m inFlight coming).used := .inl (.inr (.inr (.inl ha)))

/-- Nobody becomes free, and what is sent concerns users that are used already. -/
theorem ledger_evolves {sent : List IdentityCreatorProtocol}
    (hPool : (m'.pool.map ServiceUser.id ++ inFlight'.flatMap IdentityManagerProtocol.freed).Subperm
      (m.pool.map ServiceUser.id ++ inFlight.flatMap IdentityManagerProtocol.freed))
    (hHeld : ∀ i ∈ m'.serviceCredentialsProvider.identities,
      (i.credentials.id, Service.serviceId i) ∈ (ledger m inFlight coming).bound)
    (hQueue : m'.identityCreatorQueue = m.identityCreatorQueue.sendAll sent)
    (hActivated : ∀ a ∈ m'.existingActivatedCredentials, a ∈ (ledger m inFlight coming).used)
    (hFlight : ∀ msg ∈ inFlight', (∀ p ∈ msg.binds, p ∈ (ledger m inFlight coming).bound) ∧
      ∀ a ∈ msg.spends, a ∈ (ledger m inFlight coming).used)
    (hSent : ∀ msg ∈ sent, (∀ p ∈ msg.binds, p ∈ (ledger m inFlight coming).bound) ∧
      ∀ a ∈ msg.spends, a ∈ (ledger m inFlight coming).used) :
    Ledger.Evolves fresh (ledger m inFlight coming) (ledger m' inFlight' coming) := by
  apply Ledger.Evolves.shrink
  · exact (List.subperm_append_right _).mpr hPool
  · rintro p (⟨i, hi, rfl⟩ | ⟨msg, hMsg, hp⟩ | ⟨msg, hMsg, hp⟩)
    · exact hHeld i hi
    · exact (hFlight msg hMsg).1 p hp
    · rw [hQueue, Channel.history_sendAll] at hMsg
      rcases List.mem_append.mp hMsg with hMsg | hMsg
      · exact .inr (.inr ⟨msg, hMsg, hp⟩)
      · exact (hSent msg hMsg).1 p hp
  · rintro a (⟨msg, hMsg, ha⟩ | ⟨msg, hMsg, ha⟩ | ha | hComing)
    · exact (hFlight msg hMsg).2 a ha
    · rw [hQueue, Channel.history_sendAll] at hMsg
      rcases List.mem_append.mp hMsg with hMsg | hMsg
      · exact .inl (.inr (.inl ⟨msg, hMsg, ha⟩))
      · exact (hSent msg hMsg).2 a ha
    · exact hActivated a ha
    · exact .inl (.inr (.inr (.inr hComing)))

theorem flight_known (inFlight : List IdentityManagerProtocol) (m : IdentityManager) (coming : List SDPUser) :
    ∀ msg ∈ inFlight, (∀ p ∈ msg.binds, p ∈ (ledger m inFlight coming).bound) ∧
      ∀ a ∈ msg.spends, a ∈ (ledger m inFlight coming).used :=
  fun msg hMsg => ⟨fun _ hp => .inr (.inl ⟨msg, hMsg, hp⟩), fun _ ha => .inl (.inl ⟨msg, hMsg, ha⟩)⟩

theorem drop_evolves (msg : IdentityManagerProtocol) (inFlight : List IdentityManagerProtocol) :
    Ledger.Evolves fresh (ledger m (msg :: inFlight) coming) (ledger m inFlight coming) := by
  refine ledger_evolves ?_ (fun i => held_bound) (Channel.sendAll_nil _).symm (fun a => activated_used)
    (fun x hx => flight_known (msg :: inFlight) m coming x (List.mem_cons_of_mem msg hx)) (by simp)
  rw [List.flatMap_cons]
  exact ((List.subperm_append_left _).mpr (List.sublist_append_right _ _).subperm)

theorem bind_evolves (id : String) {user : ServiceUser} {rest : List ServiceUser} {sent : List IdentityCreatorProtocol}
    (hPool : m.pool = user :: rest) (hRest : m'.pool = rest)
    (hHeld : ∀ i ∈ m'.serviceCredentialsProvider.identities,
      i ∈ m.serviceCredentialsProvider.identities ∨ (i.credentials.id, Service.serviceId i) = (user.id, id))
    (hQueue : m'.identityCreatorQueue = m.identityCreatorQueue.sendAll sent)
    (hActivated : m'.existingActivatedCredentials = m.existingActivatedCredentials)
    (hSent : ∀ msg ∈ sent, (∀ p ∈ msg.binds, p = (user.id, id)) ∧ msg.spends = []) :
    Ledger.Evolves fresh (ledger m inFlight coming) (ledger m' inFlight coming) := by
  refine Ledger.Evolves.single (.bind user.id id (rest.map ServiceUser.id ++
    inFlight.flatMap IdentityManagerProtocol.freed ++ (coming.filter SDPUser.disabled).map SDPUser.id) ?_ ?_ ?_ ?_)
  · simp only [ledger, hPool, List.map_cons, List.cons_append]
    exact List.Perm.refl _
  · simp only [ledger, hRest]
    exact List.Subperm.refl _
  · rintro p (⟨i, hi, rfl⟩ | ⟨msg, hMsg, hp⟩ | ⟨msg, hMsg, hp⟩)
    · rcases hHeld i hi with hi | hEq
      · exact .inr (held_bound hi)
      · exact .inl hEq
    · exact .inr (.inr (.inl ⟨msg, hMsg, hp⟩))
    · rw [hQueue, Channel.history_sendAll] at hMsg
      rcases List.mem_append.mp hMsg with hMsg | hMsg
      · exact .inr (.inr (.inr ⟨msg, hMsg, hp⟩))
      · exact .inl ((hSent msg hMsg).1 p hp)
  · rintro a (⟨msg, hMsg, ha⟩ | ⟨msg, hMsg, ha⟩ | ha | hComing)
    · exact .inr (.inl (.inl ⟨msg, hMsg, ha⟩))
    · rw [hQueue, Channel.history_sendAll] at hMsg
      rcases List.mem_append.mp hMsg with hMsg | hMsg
      · exact .inr (.inl (.inr (.inl ⟨msg, hMsg, ha⟩)))
      · rw [(hSent msg hMsg).2] at ha
        cases ha
    · exact .inr (activated_used (hActivated ▸ ha))
    · exact .inr (.inl (.inr (.inr (.inr hComing))))

theorem mem_identities_insert {i : ServiceIdentity} (identity : ServiceIdentity)
    (hInsert : m'.identities = AList.insert (Service.serviceId identity) identity m.identities)
    (hi : i ∈ m'.serviceCredentialsProvider.identities) :
    i ∈ m.serviceCredentialsProvider.identities ∨ i = identity := by
  have hLookup : m'.identities.lookup (Service.serviceId i) = some i := (mem_identities _).mp hi
  rw [hInsert, HashMap.lookup_insert_eq_ite] at hLookup
  split at hLookup
  · exact .inr (Option.some.inj hLookup).symm
  · exact .inl ((mem_identities _).mpr hLookup)

theorem request_evolves (c : ServiceCandidate) :
    Ledger.Evolves fresh (ledger m inFlight coming)
      (ledger (m.requestServiceIdentity outcomes c) inFlight coming) := by
  have hOutcome := requestServiceIdentity_outcome outcomes c m
  generalize m.requestServiceIdentity outcomes c = m' at hOutcome ⊢
  cases hOutcome with
  | noNamespace | registered | emptyPool => exact Ledger.Evolves.refl _
  | created id lookup labels user rest api hId hLookup hFormat hPool hCreate =>
    refine bind_evolves id hPool rfl (fun i hi => ?_) rfl rfl fun msg hMsg => ?_
    · refine (mem_identities_insert (identityFor lookup user) rfl hi).imp_right ?_
      rintro rfl
      exact congrArg _ hFormat.symm
    · rcases List.mem_append.mp hMsg with hMsg | hMsg
      · split at hMsg
        · rw [List.mem_singleton.mp hMsg]
          exact ⟨by simp [IdentityCreatorProtocol.binds], rfl⟩
        · cases hMsg
      · rw [List.mem_singleton.mp hMsg]
        exact ⟨by simp [IdentityCreatorProtocol.binds, hFormat], rfl⟩
  | createFailed id lookup user rest e api hId hLookup hFormat hPool hCreate =>
    refine bind_evolves id hPool rfl (fun i hi => ?_) (Channel.sendAll_nil _).symm rfl (by simp)
    refine (mem_identities_insert (identityFor lookup user) rfl hi).imp_right ?_
    rintro rfl
    exact congrArg _ hFormat.symm

theorem foldl_request_evolves (candidates : List ServiceCandidate) :
    Ledger.Evolves fresh (ledger m inFlight coming)
      (ledger (candidates.foldl (fun m c => m.requestServiceIdentity outcomes c) m) inFlight coming) := by
  induction candidates generalizing m with
  | nil => exact Ledger.Evolves.refl _
  | cons c rest ih => exact (request_evolves c).trans ih

theorem delete_evolves (identity : ServiceIdentity)
    (hUsed : identity.credentials.id ∈ (ledger m inFlight coming).used) :
    Ledger.Evolves fresh (ledger m inFlight coming)
      (ledger (m.deleteServiceIdentity outcomes identity) inFlight coming) := by
  rcases deleteServiceIdentity_cases outcomes identity m with ⟨e, api, -, hEq⟩ | ⟨api, -, hEq⟩ <;> rw [hEq]
  · exact Ledger.Evolves.refl _
  · refine ledger_evolves (List.Subperm.refl _) (fun i hi => held_bound ?_)
      (Channel.send_eq_sendAll _ _) (fun a ha => activated_used (m := m) ha)
      (flight_known inFlight m coming) fun msg hMsg => ?_
    · have hLookup := (mem_identities _).mp hi
      rw [services_unregisterIdentity, HashMap.lookup_erase_eq_ite] at hLookup
      split at hLookup
      · cases hLookup
      · exact (mem_identities _).mpr hLookup
    · rw [List.mem_singleton.mp hMsg]
      simpa [deletionOf, IdentityCreatorProtocol.binds, IdentityCreatorProtocol.spends] using hUsed

theorem reconcile_evolves (outcomes : Nat → CallOutcome) (order : IterationOrder) :
    Ledger.Evolves fresh (ledger m inFlight coming) (ledger (m.reconcile outcomes order) inFlight coming) := by
  obtain ⟨extra, users, orphans, hReconciled⟩ := reconcile_spec outcomes order m
  have hDeletion : ∀ i ∈ m.serviceCredentialsProvider.identities,
      (∀ p ∈ (deletionOf i).binds, p ∈ (ledger m inFlight coming).bound) ∧
        ∀ a ∈ (deletionOf i).spends, a ∈ (ledger m inFlight coming).used := by
    intro i hi
    simpa [deletionOf, IdentityCreatorProtocol.binds, IdentityCreatorProtocol.spends] using held_used hi
  refine ledger_evolves ?_ (fun i hi => ?_) hReconciled.queue (fun a ha => ?_) (flight_known inFlight m coming)
    fun msg hMsg => ?_
  · rw [hReconciled.pool]
  · exact held_bound ((hReconciled.mem_remaining i).mp hi).1
  · rw [hReconciled.frame] at ha
    exact activated_used ha
  · simp only [List.mem_append, List.mem_map, List.mem_singleton] at hMsg
    rcases hMsg with ((⟨i, hi, rfl⟩ | ⟨id, hId, rfl⟩) | ⟨i, hi, rfl⟩) | rfl
    · exact hDeletion i (hReconciled.extra_spec i hi).1
    · have hActivated := ((hReconciled.users_spec id).mp hId).1
      simpa [IdentityCreatorProtocol.binds, IdentityCreatorProtocol.spends] using activated_used hActivated
    · exact hDeletion i (hReconciled.orphans_spec i hi).1
    · simp [IdentityCreatorProtocol.binds, IdentityCreatorProtocol.spends]

theorem update_evolves (identity : ServiceIdentity) {sent : List IdentityCreatorProtocol}
    (hInsert : m'.identities = AList.insert (Service.serviceId identity) identity m.identities)
    (hPool : m'.pool = m.pool)
    (hBound : (identity.credentials.id, Service.serviceId identity) ∈ (ledger m inFlight coming).bound)
    (hQueue : m'.identityCreatorQueue = m.identityCreatorQueue.sendAll sent)
    (hActivated : m'.existingActivatedCredentials = m.existingActivatedCredentials)
    (hSent : ∀ msg ∈ sent, msg.binds = [] ∧ msg.spends = []) :
    Ledger.Evolves fresh (ledger m inFlight coming) (ledger m' inFlight coming) := by
  refine ledger_evolves ?_ (fun i hi => ?_) hQueue (fun a ha => activated_used (hActivated ▸ ha))
    (flight_known inFlight m coming) fun msg hMsg => ?_
  · rw [hPool]
  · rcases mem_identities_insert identity hInsert hi with hi | rfl
    · exact held_bound hi
    · exact hBound
  · rw [(hSent msg hMsg).1, (hSent msg hMsg).2]
    simp

theorem tell_evolves {msg : IdentityManagerProtocol} {told : List IdentityManagerProtocol}
    (hTold : ∀ x ∈ told, x.freed = [] ∧ x.binds = [] ∧
      ∀ a ∈ x.spends, a ∈ (ledger m (msg :: inFlight) coming).used)
    (hSame : m'.serviceCredentialsProvider = m.serviceCredentialsProvider ∧
      m'.identityCreatorQueue = m.identityCreatorQueue ∧
      m'.existingActivatedCredentials = m.existingActivatedCredentials) :
    Ledger.Evolves fresh (ledger m (msg :: inFlight) coming) (ledger m' (told ++ inFlight) coming) := by
  obtain ⟨hProvider, hQueue, hActivated⟩ := hSame
  have hFreed : told.flatMap IdentityManagerProtocol.freed = [] :=
    List.flatMap_eq_nil_iff.mpr fun x hx => (hTold x hx).1
  refine ledger_evolves ?_ (fun i hi => held_bound (hProvider ▸ hi)) (hQueue.trans (Channel.sendAll_nil _).symm)
    (fun a ha => activated_used (hActivated ▸ ha)) (fun x hx => ?_) (by simp)
  · rw [IdentityManager.pool, hProvider, List.flatMap_append, hFreed, List.nil_append, List.flatMap_cons]
    exact (List.subperm_append_left _).mpr (List.sublist_append_right _ _).subperm
  · rcases List.mem_append.mp hx with hx | hx
    · obtain ⟨-, hBinds, hSpends⟩ := hTold x hx
      exact ⟨by simp [hBinds], hSpends⟩
    · exact flight_known (msg :: inFlight) m coming x (List.mem_cons_of_mem msg hx)

theorem handle_evolves (outcomes : Nat → CallOutcome) (order : IterationOrder) (msg : IdentityManagerProtocol)
    (m : IdentityManager) :
    Ledger.Evolves fresh (ledger m (msg :: inFlight) coming)
      (ledger (handle outcomes order msg m) (m.selfSent msg ++ inFlight) coming) := by
  cases msg with
  | requestServiceIdentity c => exact (request_evolves c).trans (drop_evolves _ inFlight)
  | deleteServiceIdentity identity =>
    refine Ledger.Evolves.trans (delete_evolves identity ?_) (drop_evolves _ inFlight)
    exact .inl (.inl ⟨_, List.mem_cons_self, List.mem_singleton_self _⟩)
  | identityManagerReady =>
    refine Ledger.Evolves.trans (reconcile_evolves outcomes order)
      (Ledger.Evolves.trans ?_ (drop_evolves .identityManagerReady inFlight))
    exact foldl_request_evolves _
  | foundServiceCandidate candidate =>
    refine Ledger.Evolves.trans ?_ (drop_evolves (.foundServiceCandidate candidate) inFlight)
    change Ledger.Evolves fresh _ (ledger (m.foundServiceCandidate candidate) _ coming)
    rcases foundServiceCandidate_cases candidate m with ⟨-, hEq⟩ | ⟨_, _, -, -, hEq⟩ | ⟨_, -, -, hEq⟩ <;>
      rw [hEq] <;> exact Ledger.Evolves.refl _
  | foundServiceUser user activated =>
    cases activated with
    | true =>
      refine ledger_evolves ?_ (fun i => held_bound (m := m)) (Channel.sendAll_nil _).symm (fun a ha => ?_)
        (fun x hx => flight_known _ m coming x (List.mem_cons_of_mem _ hx)) (by simp)
      · exact List.Subperm.refl _
      · rcases (AList.mem_insert _).mp ha with rfl | ha
        · exact .inl (.inl ⟨_, List.mem_cons_self, List.mem_singleton_self _⟩)
        · exact activated_used ha
    | false =>
      refine ledger_evolves ?_ (fun i => held_bound (m := m)) (Channel.sendAll_nil _).symm
        (fun a => activated_used (m := m)) (fun x hx => flight_known _ m coming x (List.mem_cons_of_mem _ hx)) (by simp)
      have hPush : (handle outcomes order (.foundServiceUser user false) m).pool = m.pool ++ [user] := rfl
      rw [hPush]
      simp only [List.map_append, List.map_cons, List.map_nil, selfSent, List.nil_append, List.flatMap_cons,
        IdentityManagerProtocol.freed, List.append_assoc]
      exact List.Subperm.refl _
  | deletedServiceCandidate candidate =>
    refine tell_evolves (fun x hx => ?_) ?_
    · cases tellsItself_of_mem hx with
      | deleted candidate i hCandidate hIdentity =>
        refine ⟨rfl, rfl, fun a ha => ?_⟩
        rw [List.mem_singleton.mp ha]
        exact held_used ((mem_identities _).mpr hIdentity)
    · change (m.deletedServiceCandidate candidate).serviceCredentialsProvider = _ ∧
        (m.deletedServiceCandidate candidate).identityCreatorQueue = _ ∧
          (m.deletedServiceCandidate candidate).existingActivatedCredentials = _
      rcases deletedServiceCandidate_cases candidate m with ⟨_, _, _, _, hEq⟩ | ⟨_, hEq⟩ <;> rw [hEq] <;>
        exact ⟨rfl, rfl, rfl⟩
  | identityCreatorReady =>
    refine tell_evolves (fun x hx => ?_) ?_
    · cases tellsItself_of_mem hx
      exact ⟨rfl, rfl, by simp [IdentityManagerProtocol.spends]⟩
    · obtain ⟨_, _, hEq⟩ := identityCreatorReadyHandler_cases m
      simp [handle, hEq]
  | deploymentWatcherReady =>
    refine tell_evolves (fun x hx => ?_) ?_
    · cases tellsItself_of_mem hx
      exact ⟨rfl, rfl, by simp [IdentityManagerProtocol.spends]⟩
    · obtain ⟨_, _, hEq⟩ := deploymentWatcherReady_cases m
      simp [handle, hEq]
  | activatedServiceUser user serviceNs serviceName =>
    refine Ledger.Evolves.trans ?_ (drop_evolves (.activatedServiceUser user serviceNs serviceName) inFlight)
    change Ledger.Evolves fresh _ (ledger (m.activatedServiceUser outcomes user serviceNs serviceName) _ coming)
    rcases activatedServiceUser_cases outcomes user serviceNs serviceName m with ⟨_, hEq⟩ |
      ⟨i, hLookup, hEq⟩ <;>
      rw [hEq]
    · exact Ledger.Evolves.refl _
    · have hId : Service.serviceId (i.withUser user) = formatServiceId serviceNs serviceName :=
        ServiceCredentialsProvider.keyed _ _ i hLookup
      refine update_evolves (i.withUser user) rfl rfl ?_ (Channel.sendAll_nil _).symm rfl (by simp)
      refine .inr (.inl ⟨_, List.mem_cons_self, ?_⟩)
      rw [hId]
      exact List.mem_singleton_self _
  | releaseDeviceId lookup uuid =>
    refine Ledger.Evolves.trans ?_ (drop_evolves (.releaseDeviceId lookup uuid) inFlight)
    change Ledger.Evolves fresh _ (ledger (m.releaseDeviceId outcomes lookup uuid) _ coming)
    rcases releaseDeviceId_cases outcomes lookup uuid m with ⟨_, hEq⟩ |
      ⟨i, sent, hLookup, hSent, hEq⟩ <;> rw [hEq]
    · exact Ledger.Evolves.refl _
    · have hi : i ∈ m.serviceCredentialsProvider.identities :=
        (mem_identities _).mpr (ServiceCredentialsProvider.keyed _ _ i hLookup ▸ hLookup)
      refine update_evolves (recordDeviceId uuid i) rfl rfl ?_ rfl rfl ?_
      · rw [credentials_id_recordDeviceId, serviceId_recordDeviceId]
        exact held_bound hi
      · rcases hSent with rfl | rfl <;> simp [IdentityCreatorProtocol.binds, IdentityCreatorProtocol.spends]
  | identityManagerInitialized | identityManagerStarted | identityManagerDebug => exact drop_evolves _ inFlight

end Ledger

/-- No user is offered twice, held twice, or offered once it is held or given up. -/
structure Exclusive (m : IdentityManager) : Prop where
  offered : (m.pool.map ServiceUser.id).Nodup
  unheld : ∀ user ∈ m.pool, ∀ i ∈ m.serviceCredentialsProvider.identities, user.id ≠ i.credentials.id
  held : ∀ i ∈ m.serviceCredentialsProvider.identities, ∀ j ∈ m.serviceCredentialsProvider.identities,
    i.credentials.id = j.credentials.id → i = j
  keptBack : ∀ msg ∈ m.identityCreatorQueue.history, ∀ id ∈ msg.spends,
    (∀ user ∈ m.pool, user.id ≠ id) ∧
      ∀ lookup identity provider, m.serviceCredentialsProvider.nextIdentity lookup =
        (some (identity, true), provider) →
        identity.credentials.id ≠ id

theorem exclusive_of_sound {m : IdentityManager} {inFlight : List IdentityManagerProtocol} {coming : List SDPUser}
    (h : (ledger m inFlight coming).Sound) : Exclusive m := by
  have hOffered : ∀ user ∈ m.pool, user.id ∈ (ledger m inFlight coming).free := fun user hUser =>
    List.mem_append_left _ (List.mem_append_left _ (List.mem_map_of_mem hUser))
  have hUnspent : ∀ msg ∈ m.identityCreatorQueue.history, ∀ id ∈ msg.spends,
      ∀ user ∈ m.pool, user.id ≠ id := by
    rintro msg hMsg _ hSpends user hUser rfl
    exact h.unused _ (hOffered user hUser) (.inl (.inr (.inl ⟨msg, hMsg, hSpends⟩)))
  constructor
  · have hNodup := h.nodup
    rw [ledger, List.append_assoc] at hNodup
    exact (List.nodup_append.mp hNodup).1
  · intro user hUser i hi hEq
    exact h.unused _ (hOffered user hUser) (hEq ▸ held_used hi)
  · intro i hi j hj hSame
    have hServices : Service.serviceId i = Service.serviceId j :=
      h.functional _ _ _ (held_bound hi) (hSame ▸ held_bound hj)
    have hLookup := (mem_identities _).mp hi
    rw [hServices, (mem_identities _).mp hj] at hLookup
    exact (Option.some.inj hLookup).symm
  · intro msg hMsg id hSpends
    refine ⟨hUnspent msg hMsg id hSpends, fun lookup identity provider hNext => ?_⟩
    rcases nextIdentity_cases m.serviceCredentialsProvider lookup with ⟨i, -, hCase⟩ | ⟨-, -, hCase⟩ |
      ⟨user, rest, -, hPool, hCase⟩ <;> rw [hCase] at hNext <;> cases hNext
    have hUser : user ∈ m.pool := by
      rw [pool, hPool]
      exact List.mem_cons_self
    exact hUnspent msg hMsg id hSpends user hUser

end IdentityManager

namespace Processes

open IdentityManager
open IdentityCreator (recoveredUsers FreshIds)

variable {outcomes : Nat → CallOutcome} {env : Surroundings}

/-- The users that the creator will find once it starts. -/
def coming (env : Surroundings) (s : Processes) : List SDPUser :=
  if s.creator.status = .waiting then
    recoveredUsers env s.creator.secret.store s.creator.secret.calls s.creator.listedUsers
  else []

def ledger (env : Surroundings) (s : Processes) : Ledger String String :=
  s.manager.ledger (s.manager.identityManagerQueue.pending ++ s.creator.outbox) (s.coming env)

/-- The ids that are drawn between two numbers of draws. -/
def drawnIds (env : Surroundings) (first last : Nat) : Set String :=
  {id | ∃ n, first ≤ n ∧ n < last ∧ id = (env.newV4 n).toString}

/-- Messages in another order make the same ledger. -/
theorem evolves_perm (m : IdentityManager) (coming : List SDPUser) {inFlight inFlight' : List IdentityManagerProtocol}
    {fresh : Set String} (h : inFlight'.Perm inFlight) :
    Ledger.Evolves fresh (m.ledger inFlight coming) (m.ledger inFlight' coming) := by
  refine ledger_evolves ?_ (fun i => held_bound) (Channel.sendAll_nil _).symm (fun a => activated_used)
    (fun x hx => flight_known inFlight m coming x (h.mem_iff.mp hx)) (by simp)
  exact ((h.flatMap_right _).append_left _).subperm

/-- A message arrives that frees nobody and concerns only users that are used already. -/
theorem evolves_append {m : IdentityManager} {inFlight : List IdentityManagerProtocol} {coming : List SDPUser}
    {fresh : Set String} {msg : IdentityManagerProtocol} (hFreed : msg.freed = [])
    (hBinds : ∀ p ∈ msg.binds, p ∈ (m.ledger inFlight coming).bound) (hSpends : msg.spends = []) :
    Ledger.Evolves fresh (m.ledger inFlight coming) (m.ledger (inFlight ++ [msg]) coming) := by
  refine ledger_evolves ?_ (fun i => held_bound) (Channel.sendAll_nil _).symm (fun a => activated_used)
    (fun x hx => ?_) (by simp)
  · rw [List.flatMap_append, List.flatMap_cons, hFreed, List.flatMap_nil, List.append_nil, List.append_nil]
  · rcases List.mem_append.mp hx with hx | hx
    · exact flight_known inFlight m coming x hx
    · rw [List.mem_singleton.mp hx]
      exact ⟨hBinds, by simp [hSpends]⟩

theorem evolves_add {m : IdentityManager} {inFlight : List IdentityManagerProtocol} {coming : List SDPUser}
    {fresh : Set String} (user : ServiceUser) (hFresh : user.id ∈ fresh)
    (hNew : user.id ∉ (m.ledger inFlight coming).names) :
    Ledger.Evolves fresh (m.ledger inFlight coming)
      (m.ledger (inFlight ++ [.foundServiceUser user false]) coming) := by
  refine Ledger.Evolves.single (.add user.id hFresh hNew ?_ ?_ ?_)
  · have hMiddle : (m.ledger (inFlight ++ [.foundServiceUser user false]) coming).free =
        (m.pool.map ServiceUser.id ++ inFlight.flatMap IdentityManagerProtocol.freed) ++
          user.id :: (coming.filter SDPUser.disabled).map SDPUser.id := by
      simp [IdentityManager.ledger, IdentityManagerProtocol.freed]
    rw [hMiddle]
    exact List.perm_middle.subperm
  · rintro p (hp | ⟨msg, hMsg, hp⟩ | hp)
    · exact .inl hp
    · rcases List.mem_append.mp hMsg with hMsg | hMsg
      · exact .inr (.inl ⟨msg, hMsg, hp⟩)
      · rw [List.mem_singleton.mp hMsg] at hp
        cases hp
    · exact .inr (.inr hp)
  · rintro a (⟨msg, hMsg, ha⟩ | ha)
    · rcases List.mem_append.mp hMsg with hMsg | hMsg
      · exact .inl (.inl ⟨msg, hMsg, ha⟩)
      · rw [List.mem_singleton.mp hMsg] at ha
        cases ha
    · exact .inl (.inr ha)

theorem evolves_addAll {m : IdentityManager} {coming : List SDPUser} {fresh : Set String} (users : List ServiceUser)
    (inFlight : List IdentityManagerProtocol) (draws : List Nat)
    (hDraws : users.map ServiceUser.id = draws.map fun n => (env.newV4 n).toString)
    (hDistinct : draws.Pairwise fun k n => env.newV4 k ≠ env.newV4 n)
    (hFresh : ∀ n ∈ draws, (env.newV4 n).toString ∈ fresh)
    (hNew : ∀ id ∈ (m.ledger inFlight coming).names, ∀ n ∈ draws, id ≠ (env.newV4 n).toString) :
    Ledger.Evolves fresh (m.ledger inFlight coming)
      (m.ledger (inFlight ++ users.map fun u => .foundServiceUser u false) coming) := by
  induction users generalizing inFlight draws with
  | nil => simpa using Ledger.Evolves.refl _
  | cons user rest ih =>
    cases draws with
    | nil => cases hDraws
    | cons n draws =>
      obtain ⟨hId, hRest⟩ := List.cons.inj hDraws
      obtain ⟨hLater, hDistinct⟩ := List.pairwise_cons.mp hDistinct
      let announced : List IdentityManagerProtocol := inFlight ++ [.foundServiceUser user false]
      have hUnseen : user.id ∉ (m.ledger inFlight coming).names :=
        fun hMem => hNew user.id hMem n List.mem_cons_self hId
      have hNames : ∀ id ∈ (m.ledger announced coming).names, ∀ k ∈ draws, id ≠ (env.newV4 k).toString := by
        intro id hMem k hk
        rcases Ledger.names_evolves (evolves_add user (Set.mem_singleton user.id) hUnseen) hMem with hOld | hEq
        · exact hNew id hOld k (List.mem_cons_of_mem n hk)
        · rw [Set.mem_singleton_iff.mp hEq, hId]
          exact fun hSame => hLater k hk (Uuid.toString_injective hSame)
      have hOne : Ledger.Evolves fresh (m.ledger inFlight coming) (m.ledger announced coming) :=
        evolves_add user (hId ▸ hFresh n List.mem_cons_self) hUnseen
      have hAll := ih announced draws hRest hDistinct (fun k hk => hFresh k (List.mem_cons_of_mem n hk)) hNames
      rw [List.append_assoc] at hAll
      exact hOne.trans hAll

theorem evolves_found {m : IdentityManager} {inFlight : List IdentityManagerProtocol} {fresh : Set String}
    {recovered coming : List SDPUser} (hComing : recovered.Sublist coming) {found : List (ServiceUser × Bool)}
    (hFound : found.map (fun p => (p.1.id, p.2)) = recovered.map fun u => (u.id, !u.disabled)) :
    Ledger.Evolves fresh (m.ledger inFlight coming)
      (m.ledger (inFlight ++ found.map fun p => .foundServiceUser p.1 p.2) []) := by
  have hFreed : (found.map fun p => IdentityManagerProtocol.foundServiceUser p.1 p.2).flatMap
      IdentityManagerProtocol.freed = (recovered.filter SDPUser.disabled).map SDPUser.id := by
    clear hComing
    induction found generalizing recovered with
    | nil =>
      have hNone : recovered = [] := List.map_eq_nil_iff.mp hFound.symm
      rw [hNone]
      rfl
    | cons p rest ih =>
      cases recovered with
      | nil => cases hFound
      | cons u us =>
        obtain ⟨hHead, hTail⟩ := List.cons.inj hFound
        obtain ⟨hId, hFlag⟩ := Prod.mk.inj hHead
        rw [List.map_cons, List.flatMap_cons, ih hTail]
        cases hDisabled : u.disabled <;>
          simp [IdentityManagerProtocol.freed, hFlag, hDisabled, hId]
  apply Ledger.Evolves.shrink
  · simp only [IdentityManager.ledger, List.flatMap_append, hFreed, List.filter_nil, List.map_nil, List.append_nil,
      ← List.append_assoc]
    exact (((hComing.filter _).map _).append_left _).subperm
  · rintro p (hp | ⟨msg, hMsg, hp⟩ | hp)
    · exact .inl hp
    · rcases List.mem_append.mp hMsg with hMsg | hMsg
      · exact .inr (.inl ⟨msg, hMsg, hp⟩)
      · obtain ⟨q, -, rfl⟩ := List.mem_map.mp hMsg
        cases hp
    · exact .inr (.inr hp)
  · rintro a (⟨msg, hMsg, ha⟩ | ha | ha | ⟨u, hu, -⟩)
    · rcases List.mem_append.mp hMsg with hMsg | hMsg
      · exact .inl (.inl ⟨msg, hMsg, ha⟩)
      · obtain ⟨q, hq, rfl⟩ := List.mem_map.mp hMsg
        have hPair := List.mem_map_of_mem (f := fun p : ServiceUser × Bool => (p.1.id, p.2)) hq
        rw [hFound] at hPair
        obtain ⟨u, hu, hPair⟩ := List.mem_map.mp hPair
        obtain ⟨hId, hFlag⟩ := Prod.mk.inj hPair
        cases hActivated : q.2 with
        | false =>
          rw [hActivated] at ha
          cases ha
        | true =>
          rw [hActivated] at ha hFlag
          refine .inl (.inr (.inr (.inr ⟨u, hComing.subset hu, by simpa using hFlag, ?_⟩)))
          exact hId.trans (List.mem_singleton.mp ha).symm
    · exact .inl (.inr (.inl ha))
    · exact .inl (.inr (.inr (.inl ha)))
    · cases hu

end Processes

end SdpK8sInjector.IdentityService
