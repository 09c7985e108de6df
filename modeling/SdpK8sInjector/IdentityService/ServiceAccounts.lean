import SdpK8sInjector.IdentityService.ActivationEffects

/-! # What the secret and the config map of a service hold

A write of the secret replaces the entries of one user with those of another, or
fails as a whole. The config map is deleted before it is created again, and a failure
can leave the service without one.
-/

namespace SdpK8sInjector.Common

namespace ServiceUser

variable (user user' : ServiceUser)

/-- The entries of the secret are those of the user. -/
def Fills (secret : Secret) : Prop := ∀ field, secret.fields.lookup field = user.entries.lookup field

theorem lookup_entries_or (field : String) :
    (user.entries.lookup field).or (user'.entries.lookup field) = user.entries.lookup field := by
  simp only [entries, List.lookup_cons, List.lookup_nil]
  split
  · rfl
  · split
    · rfl
    · split <;> rfl

variable {user user'}

theorem Fills.fill {secret : Secret} (h : user'.Fills secret) : user.Fills (user.fill secret.fields) := by
  intro field
  rw [lookup_fill, h field, lookup_entries_or]

theorem fills_fill_empty : user.Fills (user.fill ∅) := by
  intro field
  rw [lookup_fill, AList.lookup_empty, Option.or_none]

theorem secretsName_injective (serviceNs : String) : Function.Injective (secretsName serviceNs) := by
  intro name name' h
  unfold secretsName at h
  have hLists := congrArg String.toList h
  simp only [String.toList_append] at hLists
  exact String.toList_inj.mp (List.append_cancel_left (List.append_cancel_right hLists))

theorem configmapName_injective (serviceNs : String) :
    Function.Injective fun name => (ServiceConfigFields.new serviceNs name).configmapName := by
  intro name name' h
  have hLists := congrArg String.toList h
  simp only [ServiceConfigFields.new, String.toList_append] at hLists
  exact String.toList_inj.mp (List.append_cancel_left (List.append_cancel_right hLists))

end ServiceUser

end SdpK8sInjector.Common

namespace SdpK8sInjector.IdentityService

open Lib Common

def IdentityCreatorProtocol.Concerns (serviceNs serviceName : String) : IdentityCreatorProtocol → Prop
  | .activateServiceUser _ _ ns name _ => ns = serviceNs ∧ name = serviceName
  | .deleteServiceUser _ ns name => ns = serviceNs ∧ name = serviceName
  | _ => False

instance (serviceNs serviceName : String) :
    (msg : IdentityCreatorProtocol) → Decidable (msg.Concerns serviceNs serviceName)
  | .activateServiceUser _ _ ns name _ => inferInstanceAs (Decidable (ns = serviceNs ∧ name = serviceName))
  | .deleteServiceUser _ ns name => inferInstanceAs (Decidable (ns = serviceNs ∧ name = serviceName))
  | .createIdentity | .deleteSDPUser _ | .reconcileSDPUsers _ | .releaseDeviceId _ _ | .startService =>
    .isFalse fun h => h

/-- One of the messages asked for the activation of the user for the service, under the name that the user has now. -/
def ActivatedFor (msgs : List IdentityCreatorProtocol) (serviceNs serviceName : String) (user : ServiceUser) : Prop :=
  ∃ user' clusterId labels suffix,
    .activateServiceUser user' clusterId serviceNs serviceName labels ∈ msgs ∧
    ∃ name, getServiceUsername suffix clusterId serviceNs serviceName = some name ∧
      user = { user' with name := name }

namespace Accounts

section Objects

variable (accounts : Accounts) (serviceNs serviceName : String)

def secretOf : Option Secret := accounts.secrets.store.lookup (serviceNs, ServiceUser.secretsName serviceNs serviceName)

def configOf : Option ConfigMap :=
  accounts.configMaps.store.lookup (serviceNs, (ServiceConfigFields.new serviceNs serviceName).configmapName)

end Objects

variable {accounts : Accounts} {serviceNs serviceName : String} {user : ServiceUser} {ns name : String}

theorem key_ne {ns name serviceNs serviceName : String} {f : String → String → String}
    (hInj : ∀ ns, Function.Injective (f ns))
    (hOther : ¬(ns = serviceNs ∧ name = serviceName)) :
    (serviceNs, f serviceNs serviceName) ≠ (ns, f ns name) := by
  intro hKey
  obtain ⟨rfl, hName⟩ := Prod.mk.inj hKey
  exact hOther ⟨rfl, (hInj _ hName).symm⟩

theorem write_other (outcomes : AccountOutcomes) (hOther : ¬(ns = serviceNs ∧ name = serviceName)) :
    (accounts.write outcomes user ns name).secretOf serviceNs serviceName = accounts.secretOf serviceNs serviceName ∧
      (accounts.write outcomes user ns name).configOf serviceNs serviceName =
      accounts.configOf serviceNs serviceName := by
  obtain ⟨_, hSecret, -⟩ := user.createOrUpdateSecrets_puts outcomes.secrets ns name accounts.secrets
  obtain ⟨_, hConfig, -⟩ := ServiceUser.createConfig_puts outcomes.configMaps ns name accounts.configMaps
  exact ⟨hSecret.lookup_of_ne (key_ne ServiceUser.secretsName_injective hOther),
    hConfig.lookup_of_ne (key_ne ServiceUser.configmapName_injective hOther)⟩

theorem delete_other (outcomes : AccountOutcomes) (hOther : ¬(ns = serviceNs ∧ name = serviceName)) :
    (accounts.delete outcomes ns name).secretOf serviceNs serviceName = accounts.secretOf serviceNs serviceName ∧
      (accounts.delete outcomes ns name).configOf serviceNs serviceName = accounts.configOf serviceNs serviceName := by
  obtain ⟨_, hSecret, -⟩ := ServiceUser.deleteSecrets_puts outcomes.secrets ns name accounts.secrets
  obtain ⟨_, hConfig, -⟩ := ServiceUser.deleteConfig_puts outcomes.configMaps ns name accounts.configMaps
  exact ⟨hSecret.lookup_of_ne (key_ne ServiceUser.secretsName_injective hOther),
    hConfig.lookup_of_ne (key_ne ServiceUser.configmapName_injective hOther)⟩

end Accounts

namespace IdentityCreator

variable {env : Surroundings} (outcomes : AccountOutcomes) (c : IdentityCreator) {msg : IdentityCreatorProtocol}
  (accounts : Accounts) {serviceNs serviceName : String}

theorem handleAccounts_other (hOther : ¬msg.Concerns serviceNs serviceName) :
    (c.handleAccounts outcomes env msg accounts).secretOf serviceNs serviceName =
    accounts.secretOf serviceNs serviceName ∧
      (c.handleAccounts outcomes env msg accounts).configOf serviceNs serviceName =
        accounts.configOf serviceNs serviceName := by
  unfold handleAccounts
  split
  · split
    · exact Accounts.write_other outcomes hOther
    · exact ⟨rfl, rfl⟩
  · exact Accounts.delete_other outcomes hOther
  · exact ⟨rfl, rfl⟩

/-- The secret of a service is kept, deleted, or filled with the entries of the user that is activated. -/
theorem handleAccounts_secretOf (serviceNs serviceName : String) :
    let before := accounts.secretOf serviceNs serviceName
    let after := (c.handleAccounts outcomes env msg accounts).secretOf serviceNs serviceName
    after = before ∨ after = none ∨ ∃ user name clusterId labels,
      Activates env c msg user name clusterId serviceNs serviceName labels ∧
      after = some (ServiceUser.fill { user with name := name } (Secret.stored before)) := by
  intro before after
  by_cases hConcerns : msg.Concerns serviceNs serviceName
  · cases hStatus : c.status with
    | waiting => exact .inl (by simp [after, before, handleAccounts, hStatus])
    | panicked => exact .inl (by simp [after, before, handleAccounts, hStatus])
    | running =>
      cases msg with
      | activateServiceUser user clusterId ns name' labels =>
        obtain ⟨rfl, rfl⟩ := hConcerns
        cases hName : getServiceUsername (env.randomSuffix c.drawn) clusterId ns name' with
        | none => exact .inl (by simp [after, before, handleAccounts, hStatus, hName])
        | some name =>
          obtain ⟨object, hPuts, hObject, -⟩ := ServiceUser.createOrUpdateSecrets_puts outcomes.secrets
            { user with name := name } ns name' accounts.secrets
          have hAfter : after = object := by
            simp only [after, handleAccounts, hStatus, hName]
            exact hPuts.lookup_self
          rcases hObject with hSame | hFilled
          · exact .inl (hAfter.trans hSame)
          · exact .inr (.inr ⟨user, name, clusterId, labels, ⟨hStatus, rfl, hName⟩, hAfter.trans hFilled⟩)
      | deleteServiceUser user ns name' =>
        obtain ⟨rfl, rfl⟩ := hConcerns
        obtain ⟨object, hPuts, hObject⟩ := ServiceUser.deleteSecrets_puts outcomes.secrets ns name' accounts.secrets
        have hAfter : after = object := by
          simp only [after, handleAccounts, hStatus]
          exact hPuts.lookup_self
        exact hObject.imp (fun hSame => hAfter.trans hSame) fun hNone => .inl (hAfter.trans hNone)
      | startService => exact hConcerns.elim
      | createIdentity => exact hConcerns.elim
      | deleteSDPUser sdpUserId => exact hConcerns.elim
      | reconcileSDPUsers names => exact hConcerns.elim
      | releaseDeviceId user deviceId => exact hConcerns.elim
  · exact .inl (handleAccounts_other outcomes c accounts hConcerns).1

/-- The activation of a user whose calls return leaves both objects of the service, with the entries of the user. -/
theorem handleAccounts_activated {user : ServiceUser} {name clusterId : String} {labels : Labels}
    (h : Activates env c msg user name clusterId serviceNs serviceName labels)
    (hSecret : (ServiceUser.createOrUpdateSecrets outcomes.secrets { user with name := name } serviceNs serviceName
      accounts.secrets).1 = .ok ())
    (hConfig : (ServiceUser.createConfig outcomes.configMaps serviceNs serviceName accounts.configMaps).1 = .ok ()) :
    (c.handleAccounts outcomes env msg accounts).secretOf serviceNs serviceName =
        some (ServiceUser.fill { user with name := name } (Secret.stored (accounts.secretOf serviceNs serviceName))) ∧
      (c.handleAccounts outcomes env msg accounts).configOf serviceNs serviceName = some ServiceUser.newConfig := by
  obtain ⟨_, hSecretPuts, -, hFilled⟩ := ServiceUser.createOrUpdateSecrets_puts outcomes.secrets
    { user with name := name } serviceNs serviceName accounts.secrets
  obtain ⟨_, hConfigPuts, -, hCreated⟩ :=
    ServiceUser.createConfig_puts outcomes.configMaps serviceNs serviceName accounts.configMaps
  have hHandle : c.handleAccounts outcomes env msg accounts =
      accounts.write outcomes { user with name := name } serviceNs serviceName := by
    rw [h.message]
    simp only [handleAccounts, h.running, h.named]
  rw [hHandle]
  exact ⟨hSecretPuts.lookup_self.trans (hFilled hSecret), hConfigPuts.lookup_self.trans (hCreated hConfig)⟩

end IdentityCreator

namespace Provisioning

open Processes

variable {outcomes : Nat → CallOutcome} {env : Surroundings} {accountOutcomes : AccountOutcomes} {s t : Provisioning}
  {event : Event} {serviceNs serviceName : String}

/-- Only the creator that receives a message touches the objects of the services. -/
theorem next_accounts (hNext : next outcomes env accountOutcomes s event = some t) : t.accounts = s.accounts ∨
    ∃ order msg, event = .receive order ∧ s.manager.identityCreatorQueue.pending.head? = some msg ∧
      t.accounts = s.creator.handleAccounts accountOutcomes env msg s.accounts := by
  obtain ⟨processes, hProcesses, rfl⟩ := Option.map_eq_some_iff.mp hNext
  cases next_move outcomes env hProcesses with
  | arrive msg hMsg => exact .inl rfl
  | handle order msg queue hRecv => exact .inl rfl
  | receive order msg queue hOutbox hStatus hRecv =>
    obtain ⟨rest, hPending, -⟩ := Channel.recv_eq_some.mp hRecv
    simp only [manager, hRecv]
    exact .inr ⟨order, msg, rfl, by rw [hPending]; rfl, rfl⟩
  | deliver msg rest hOutbox => exact .inl rfl

theorem history_mono (hNext : next outcomes env accountOutcomes s event = some t) {msg : IdentityCreatorProtocol}
    (h : msg ∈ s.manager.identityCreatorQueue.history) : msg ∈ t.manager.identityCreatorQueue.history := by
  obtain ⟨processes, hProcesses, rfl⟩ := Option.map_eq_some_iff.mp hNext
  have hCount : List.count msg s.manager.identityCreatorQueue.history ≤
      List.count msg processes.manager.identityCreatorQueue.history := told_le (· == msg) hProcesses
  exact List.count_pos_iff.mp (Nat.lt_of_lt_of_le (List.count_pos_iff.mpr h) hCount)

/-- The secret of the service has the entries of one user: of one that was activated for the service, or of the one
that the first secret has. -/
def Credited (first : Option Secret) (serviceNs serviceName : String) (s : Provisioning) : Prop :=
  ∀ secret, s.accounts.secretOf serviceNs serviceName = some secret → ∃ user : ServiceUser, user.Fills secret ∧
    (ActivatedFor s.manager.identityCreatorQueue.history serviceNs serviceName user ∨
      ∃ old, first = some old ∧ user.Fills old)

theorem Credited.step {first : Option Secret} (h : Credited first serviceNs serviceName s)
    (hNext : next outcomes env accountOutcomes s event = some t) : Credited first serviceNs serviceName t := by
  have hKept : ∀ user, ActivatedFor s.manager.identityCreatorQueue.history serviceNs serviceName user →
      ActivatedFor t.manager.identityCreatorQueue.history serviceNs serviceName user := by
    rintro user ⟨user', clusterId, labels, suffix, hMsg, hName⟩
    exact ⟨user', clusterId, labels, suffix, history_mono hNext hMsg, hName⟩
  have hSame : ∀ secret, s.accounts.secretOf serviceNs serviceName = some secret → ∃ user : ServiceUser,
      user.Fills secret ∧ (ActivatedFor t.manager.identityCreatorQueue.history serviceNs serviceName user ∨
        ∃ old, first = some old ∧ user.Fills old) := by
    intro secret hSecret
    obtain ⟨user, hFills, hUser⟩ := h secret hSecret
    exact ⟨user, hFills, hUser.imp_left (hKept user)⟩
  intro secret hSecret
  rcases next_accounts hNext with hAccounts | ⟨order, msg, rfl, hHead, hAccounts⟩
  · exact hSame secret (hAccounts ▸ hSecret)
  · rw [hAccounts] at hSecret
    rcases s.creator.handleAccounts_secretOf accountOutcomes s.accounts serviceNs serviceName with
      hBefore | hNone | ⟨user, name, clusterId, labels, hActivates, hFilled⟩
    · exact hSame secret (hBefore.symm.trans hSecret)
    · cases hNone.symm.trans hSecret
    · cases hFilled.symm.trans hSecret
      have hSent : msg ∈ t.manager.identityCreatorQueue.history :=
        history_mono hNext (Channel.mem_history_of_pending (List.mem_of_mem_head? hHead))
      refine ⟨_, ?_, .inl ⟨user, clusterId, labels, _, hActivates.message ▸ hSent,
        name, hActivates.named, rfl⟩⟩
      cases hOld : s.accounts.secretOf serviceNs serviceName with
      | none => exact ServiceUser.fills_fill_empty
      | some old =>
        obtain ⟨user', hFills, -⟩ := h old hOld
        exact hFills.fill

theorem credited_of_steps {clusterId : String} {stored : List ServiceIdentity} {system : System} {secret : SecretApi}
    {poolSize : Nat} {accounts : Accounts}
    (hFirst : ∀ old, accounts.secretOf serviceNs serviceName = some old → ∃ user : ServiceUser, user.Fills old)
    (hRun : Steps (next outcomes env accountOutcomes) (fun _ _ => True)
      (started clusterId stored system secret poolSize accounts) s) :
    Credited (accounts.secretOf serviceNs serviceName) serviceNs serviceName s := by
  refine hRun.invariant _ (fun _ _ _ hBefore _ hNext => hBefore.step hNext) fun old hOld => ?_
  obtain ⟨user, hFills⟩ := hFirst old hOld
  exact ⟨user, hFills, .inr ⟨old, hOld, hFills⟩⟩

/-- No step is about the objects of the service. -/
def Elsewhere (serviceNs serviceName : String) (s : Provisioning) : Event → Prop
  | .receive _ => ∀ msg ∈ s.manager.identityCreatorQueue.pending.head?, ¬msg.Concerns serviceNs serviceName
  | _ => True

instance (serviceNs serviceName : String) (s : Provisioning) :
    (event : Event) → Decidable (Elsewhere serviceNs serviceName s event)
  | .receive _ => inferInstanceAs (Decidable
      (∀ msg ∈ s.manager.identityCreatorQueue.pending.head?, ¬msg.Concerns serviceNs serviceName))
  | .arrive _ | .handle _ | .deliver => .isTrue trivial

/-- Steps elsewhere leave the objects of the service alone, whatever calls they lose. -/
theorem objects_elsewhere (hRun : Steps (next outcomes env accountOutcomes) (Elsewhere serviceNs serviceName) s t) :
    t.accounts.secretOf serviceNs serviceName = s.accounts.secretOf serviceNs serviceName ∧
      t.accounts.configOf serviceNs serviceName = s.accounts.configOf serviceNs serviceName := by
  refine hRun.invariant (fun u => u.accounts.secretOf serviceNs serviceName =
    s.accounts.secretOf serviceNs serviceName ∧
    u.accounts.configOf serviceNs serviceName = s.accounts.configOf serviceNs serviceName) ?_ ⟨rfl, rfl⟩
  intro u event v hBefore hElsewhere hNext
  rcases next_accounts hNext with hAccounts | ⟨order, msg, rfl, hHead, hAccounts⟩
  · rw [hAccounts]
    exact hBefore
  · obtain ⟨hSecret, hConfig⟩ := u.creator.handleAccounts_other accountOutcomes u.accounts (hElsewhere msg hHead)
    rw [hAccounts]
    exact ⟨hSecret.trans hBefore.1, hConfig.trans hBefore.2⟩

end Provisioning

end SdpK8sInjector.IdentityService
