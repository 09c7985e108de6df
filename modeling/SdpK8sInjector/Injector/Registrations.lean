import SdpK8sInjector.Injector.IdentityStore

/-! # The services that the store of the injector knows

The store has two maps with one key for each service. What the watcher reports
of a service registers it, updates it or unregisters it. An update only looks
at the device ids of what it is given.
-/

namespace SdpK8sInjector.Injector

open Lib Common

namespace InMemoryIdentityStore

variable (parseStr : String → Option Uuid) {store : InMemoryIdentityStore}

/-- Whether the service is registered after the call. -/
def Call.registers (serviceId : String) (registered : Bool) : Call → Bool
  | .registerOrUpdate service _ => serviceId = Service.serviceId service || registered
  | .unregisterService other => serviceId ≠ other && registered
  | .pushDeviceId _ _ | .popDeviceId _ _ => registered

theorem mem_insert_of_lookup {m : HashMap String RegisteredDeviceId} {id key : String} {r r' : RegisteredDeviceId}
    (h : m.lookup id = some r) : key ∈ AList.insert id r' m ↔ key ∈ m := by
  rw [AList.mem_insert, or_iff_right_of_imp]
  rintro rfl
  exact HashMap.mem_iff_exists_lookup.mpr ⟨r, h⟩

theorem identities_pushDeviceId (id : String) (uuid : Uuid) :
    (store.pushDeviceId id uuid).2.identities = store.identities := by
  unfold pushDeviceId
  split <;> rfl

theorem identities_popDeviceId (newV4 : Uuid) (id : String) :
    (store.popDeviceId newV4 id).2.identities = store.identities := by
  unfold popDeviceId
  split
  · generalize RegisteredDeviceId.pop newV4 _ = popped
    obtain ⟨released, r⟩ := popped
    cases released <;> rfl
  · rfl

theorem mem_identities_perform (call : Call) (key : String) :
    key ∈ (store.perform parseStr call).identities ↔ call.registers key (key ∈ store.identities) = true := by
  cases call with
  | registerOrUpdate service used => simp [perform, registerOrUpdate, Call.registers, AList.mem_insert]
  | pushDeviceId id uuid => simp [perform, identities_pushDeviceId, Call.registers]
  | popDeviceId id newV4 => simp [perform, identities_popDeviceId, Call.registers]
  | unregisterService id => simp [perform, unregisterService, Call.registers, AList.mem_erase]

theorem mem_registeredDeviceIds_perform (call : Call) (key : String) :
    key ∈ (store.perform parseStr call).registeredDeviceIds ↔
      call.registers key (key ∈ store.registeredDeviceIds) = true := by
  cases call with
  | registerOrUpdate service used => simp [perform, registerOrUpdate, Call.registers, AList.mem_insert]
  | unregisterService id => simp [perform, unregisterService, Call.registers, AList.mem_erase]
  | pushDeviceId id uuid =>
    rw [Call.registers, decide_eq_true_iff, perform, pushDeviceId]
    split
    · rename_i hPool
      exact mem_insert_of_lookup hPool
    · rfl
  | popDeviceId id newV4 =>
    rw [Call.registers, decide_eq_true_iff, perform, popDeviceId]
    split
    · rename_i hPool
      generalize RegisteredDeviceId.pop newV4 _ = popped
      obtain ⟨released, r⟩ := popped
      cases released <;> exact mem_insert_of_lookup hPool
    · rfl

/-- Both maps have the same keys, and each is the id of the service that it leads to. -/
structure WellFormed (store : InMemoryIdentityStore) : Prop where
  keys : ∀ key, key ∈ store.identities ↔ key ∈ store.registeredDeviceIds
  named : ∀ key identity, store.identities.lookup key = some identity → Service.serviceId identity = key
  nodup : ∀ key r, store.registeredDeviceIds.lookup key = some r → r.ids.Nodup

theorem wellFormed_new : WellFormed new where
  keys _ := Iff.rfl
  named key identity h := by cases h
  nodup _ r _ := r.nodup

theorem serviceId_updated (h : store.WellFormed) (service : ServiceIdentity) (used : Option (List String)) :
    Service.serviceId (store.updated service used) = Service.serviceId service := by
  rw [updated, ServiceIdentity.serviceId_withUser]
  cases hFound : store.identities.lookup (Service.serviceId service) with
  | none => rfl
  | some identity => exact h.named _ identity hFound

theorem WellFormed.perform (h : store.WellFormed) (call : Call) : (store.perform parseStr call).WellFormed where
  keys key := by
    rw [mem_identities_perform, mem_registeredDeviceIds_perform, decide_eq_decide.mpr (h.keys key)]
  nodup _ r _ := r.nodup
  named key identity hFound := by
    cases call with
    | registerOrUpdate service used =>
      rw [InMemoryIdentityStore.perform, lookup_identities_registerOrUpdate] at hFound
      split at hFound
      · rename_i hKey
        cases hFound
        exact (serviceId_updated h service used).trans hKey.symm
      · exact h.named key identity hFound
    | pushDeviceId id uuid =>
      rw [InMemoryIdentityStore.perform, identities_pushDeviceId] at hFound
      exact h.named key identity hFound
    | popDeviceId id newV4 =>
      rw [InMemoryIdentityStore.perform, identities_popDeviceId] at hFound
      exact h.named key identity hFound
    | unregisterService id =>
      rw [InMemoryIdentityStore.perform, unregisterService, HashMap.lookup_erase_eq_ite] at hFound
      split at hFound
      · cases hFound
      · exact h.named key identity hFound

theorem WellFormed.foldl_perform (h : store.WellFormed) (calls : List Call) :
    (calls.foldl (InMemoryIdentityStore.perform parseStr) store).WellFormed := by
  induction calls generalizing store with
  | nil => exact h
  | cons call rest ih => exact ih (h.perform parseStr call)

theorem mem_identities_foldl_perform (calls : List Call) (key : String) :
    key ∈ (calls.foldl (perform parseStr) store).identities ↔
      calls.foldl (Call.registers key) (key ∈ store.identities) = true := by
  induction calls generalizing store with
  | nil => simp
  | cons call rest ih =>
    rw [List.foldl_cons, List.foldl_cons, ih]
    simp only [mem_identities_perform, Bool.decide_eq_true]

/-- The call fails for a service that is not registered, which leaves the store as it is, and for no other. -/
def RefusesUnregistered {α : Type} (store : InMemoryIdentityStore) (serviceId : String)
    (result : Except SDPServiceError α × InMemoryIdentityStore) : Prop :=
  ((∃ e, result.1 = .error e) ↔ serviceId ∉ store.identities) ∧
    (serviceId ∉ store.identities → result.2 = store)

theorem WellFormed.lookup_cases (h : store.WellFormed) (id : String) :
    (id ∉ store.identities ∧ store.identities.lookup id = none ∧ store.registeredDeviceIds.lookup id = none) ∨
      ∃ identity r, id ∈ store.identities ∧ store.identities.lookup id = some identity ∧
        store.registeredDeviceIds.lookup id = some r := by
  by_cases hId : id ∈ store.identities
  · obtain ⟨identity, hFound⟩ := HashMap.mem_iff_exists_lookup.mp hId
    obtain ⟨r, hPool⟩ := HashMap.mem_iff_exists_lookup.mp ((h.keys id).mp hId)
    exact .inr ⟨identity, r, hId, hFound, hPool⟩
  · exact .inl ⟨hId, AList.lookup_eq_none.mpr hId,
      AList.lookup_eq_none.mpr fun hPool => hId ((h.keys id).mpr hPool)⟩

theorem WellFormed.refuses_pop (h : store.WellFormed) (newV4 : Uuid) (id : String) :
    store.RefusesUnregistered id (store.popDeviceId newV4 id) := by
  rcases h.lookup_cases id with ⟨hId, hFound, hPool⟩ | ⟨identity, r, hId, hFound, hPool⟩
  · rw [popDeviceId, hFound, hPool]
    exact ⟨iff_of_true ⟨_, rfl⟩ hId, fun _ => rfl⟩
  · refine ⟨iff_of_false ?_ (not_not.mpr hId), fun hNot => absurd hId hNot⟩
    rintro ⟨e, hFails⟩
    cases (popDeviceId_registered newV4 hFound hPool).1.symm.trans hFails

theorem WellFormed.refuses_push (h : store.WellFormed) (id : String) (uuid : Uuid) :
    store.RefusesUnregistered id (store.pushDeviceId id uuid) := by
  rcases h.lookup_cases id with ⟨hId, hFound, hPool⟩ | ⟨identity, r, hId, hFound, hPool⟩
  · rw [pushDeviceId, hFound, hPool]
    exact ⟨iff_of_true ⟨_, rfl⟩ hId, fun _ => rfl⟩
  · rw [pushDeviceId, hFound, hPool]
    refine ⟨iff_of_false ?_ (not_not.mpr hId), fun hNot => absurd hId hNot⟩
    rintro ⟨e, hFails⟩
    cases hFails

theorem WellFormed.isSome_unregisterService (h : store.WellFormed) (id : String) :
    (store.unregisterService id).1.isSome = true ↔ id ∈ store.identities := by
  rcases h.lookup_cases id with ⟨hId, hFound, hPool⟩ | ⟨identity, r, hId, hFound, hPool⟩
  · simp [unregisterService, hFound, hId]
  · simp [unregisterService, hFound, hPool, hId]

/-- After any calls the store is well formed, a service is in it exactly if it was registered last, and the calls that
follow fail or find nothing exactly for the services that are not. -/
theorem representation_invariant (calls : List Call) :
    let store := calls.foldl (perform parseStr) new
    store.WellFormed ∧
      (∀ id, id ∈ store.identities ↔ calls.foldl (Call.registers id) false = true) ∧
      (∀ id newV4, store.RefusesUnregistered id (store.popDeviceId newV4 id)) ∧
      (∀ id uuid, store.RefusesUnregistered id (store.pushDeviceId id uuid)) ∧
      ∀ id, (store.unregisterService id).1.isSome = true ↔ id ∈ store.identities := by
  intro store
  have hWellFormed : store.WellFormed := wellFormed_new.foldl_perform parseStr calls
  refine ⟨hWellFormed, fun id => ?_, fun id newV4 => hWellFormed.refuses_pop newV4 id,
    fun id uuid => hWellFormed.refuses_push id uuid, hWellFormed.isSome_unregisterService⟩
  exact mem_identities_foldl_perform parseStr calls id

/-! ## What the provider of device ids does -/

/-- A message to `DeviceIdProvider::run`: the first two come from the watcher, a request from the injector. The last
field of a found identity is what the system answers about its device ids, the one of a request what is drawn for it. -/
inductive ProviderEvent where
  | foundServiceIdentity (service : ServiceIdentity) (reapplied : Bool) (usedDeviceIds : Option (List String))
  | deletedServiceIdentity (service : ServiceIdentity)
  | requestDeviceId (serviceId : String) (newV4 : Uuid)

def ProviderEvent.call : ProviderEvent → Call
  | .foundServiceIdentity service _ used => .registerOrUpdate service used
  | .deletedServiceIdentity service => .unregisterService (Service.serviceId service)
  | .requestDeviceId serviceId newV4 => .popDeviceId serviceId newV4

/-- The store after the messages. -/
def provide (events : List ProviderEvent) (store : InMemoryIdentityStore) : InMemoryIdentityStore :=
  (events.map ProviderEvent.call).foldl (perform parseStr) store

/-- The identity that came first since the service was last deleted. -/
def ProviderEvent.first (id : String) (received : Option ServiceIdentity) : ProviderEvent → Option ServiceIdentity
  | .foundServiceIdentity service _ _ => if Service.serviceId service = id then some (received.getD service)
    else received
  | .deletedServiceIdentity service => if Service.serviceId service = id then none else received
  | .requestDeviceId _ _ => received

/-- The two agree in everything except the device ids. -/
def SameButDeviceIds (a b : ServiceIdentity) : Prop :=
  a.withUser { a.credentials with deviceIds := b.credentials.deviceIds } = b

instance (a b : ServiceIdentity) : Decidable (SameButDeviceIds a b) := inferInstanceAs (Decidable (_ = _))

theorem sameButDeviceIds_refl (a : ServiceIdentity) : SameButDeviceIds a a := rfl

theorem sameButDeviceIds_withUser (a : ServiceIdentity) (ids : Option (List String)) :
    SameButDeviceIds a (a.withUser { a.credentials with deviceIds := ids }) := rfl

theorem SameButDeviceIds.symm {a b : ServiceIdentity} (h : SameButDeviceIds a b) : SameButDeviceIds b a := by
  rw [← h]
  rfl

theorem SameButDeviceIds.trans {a b c : ServiceIdentity} (hab : SameButDeviceIds a b) (hbc : SameButDeviceIds b c) :
    SameButDeviceIds a c := by
  rw [← hbc, ← hab]
  rfl

/-- What is stored of a service is the identity that came first, apart from the device ids. -/
def KeepsFirst (id : String) (first : Option ServiceIdentity) (store : InMemoryIdentityStore) : Prop :=
  Option.Rel SameButDeviceIds first (store.identities.lookup id)

theorem KeepsFirst.step {id : String} {first : Option ServiceIdentity} (h : KeepsFirst id first store)
    (event : ProviderEvent) : KeepsFirst id (event.first id first) (store.perform parseStr event.call) := by
  cases event with
  | foundServiceIdentity service reapplied used =>
    rw [KeepsFirst, ProviderEvent.call, perform, lookup_identities_registerOrUpdate, ProviderEvent.first]
    by_cases hKey : id = Service.serviceId service
    · subst hKey
      rw [if_pos rfl, if_pos rfl]
      refine .some ?_
      rw [KeepsFirst] at h
      rw [updated]
      generalize store.identities.lookup (Service.serviceId service) = stored at h ⊢
      cases h with
      | some hSame => exact hSame.trans (sameButDeviceIds_withUser _ _)
      | none => exact sameButDeviceIds_withUser _ _
    · rw [if_neg hKey, if_neg (Ne.symm hKey)]
      exact h
  | deletedServiceIdentity service =>
    rw [KeepsFirst, ProviderEvent.call, perform, unregisterService, HashMap.lookup_erase_eq_ite, ProviderEvent.first]
    by_cases hKey : id = Service.serviceId service
    · rw [if_pos hKey, if_pos hKey.symm]
      exact .none
    · rw [if_neg hKey, if_neg (Ne.symm hKey)]
      exact h
  | requestDeviceId serviceId newV4 =>
    rw [KeepsFirst, ProviderEvent.call, perform, identities_popDeviceId]
    exact h

theorem keepsFirst_provide (store : InMemoryIdentityStore) (id : String) (events : List ProviderEvent) :
    KeepsFirst id (events.foldl (fun first event => event.first id first) (store.identities.lookup id))
      (provide parseStr events store) := by
  have hRun : ∀ first, KeepsFirst id first store →
      KeepsFirst id (events.foldl (fun first event => event.first id first) first) (provide parseStr events store) := by
    induction events generalizing store with
    | nil => exact fun _ h => h
    | cons event rest ih => exact fun first h => ih (store.perform parseStr event.call) _ (h.step parseStr event)
  apply hRun
  rw [KeepsFirst]
  cases store.identities.lookup id with
  | none => exact .none
  | some identity => exact .some (sameButDeviceIds_refl identity)

/-- Neither found nor deleted is the identity of the service. -/
def ProviderEvent.Leaves (id : String) : ProviderEvent → Prop
  | .foundServiceIdentity service _ _ | .deletedServiceIdentity service => Service.serviceId service ≠ id
  | .requestDeviceId _ _ => True

theorem ProviderEvent.Leaves.call {id : String} {event : ProviderEvent} (h : event.Leaves id) :
    event.call.Leaves id := by
  cases event <;> exact h

theorem ProviderEvent.Leaves.registers {id : String} {event : ProviderEvent} (h : event.Leaves id) (registered : Bool) :
    event.call.registers id registered = registered := by
  cases event with
  | foundServiceIdentity service reapplied used =>
    rw [ProviderEvent.call, Call.registers, decide_eq_false (Ne.symm h), Bool.false_or]
  | deletedServiceIdentity service =>
    rw [ProviderEvent.call, Call.registers, decide_eq_true (Ne.symm h), Bool.true_and]
  | requestDeviceId serviceId newV4 => rfl

theorem provide_leaves (store : InMemoryIdentityStore) {id : String} {events : List ProviderEvent}
    (h : ∀ event ∈ events, event.Leaves id) :
    (provide parseStr events store).identities.lookup id = store.identities.lookup id ∧
      (id ∈ (provide parseStr events store).registeredDeviceIds ↔ id ∈ store.registeredDeviceIds) := by
  induction events generalizing store with
  | nil => exact ⟨rfl, Iff.rfl⟩
  | cons event rest ih =>
    have hEvent := h event List.mem_cons_self
    obtain ⟨hSame, hKept⟩ := ih (store.perform parseStr event.call) fun e he => h e (List.mem_cons_of_mem event he)
    refine ⟨hSame.trans (perform_leaves parseStr hEvent.call), hKept.trans ?_⟩
    rw [mem_registeredDeviceIds_perform, hEvent.registers, decide_eq_true_iff]

/-- An update answers with the identity that it was given, apart from the device ids, and so does the next request for
the service, whatever is asked and reported of other services before it. -/
def ReturnsLatest (store : InMemoryIdentityStore) (service : ServiceIdentity) (used : Option (List String)) : Prop :=
  SameButDeviceIds (store.registerOrUpdate parseStr service used).1 service ∧
    ∀ others : List ProviderEvent, (∀ event ∈ others, event.Leaves (Service.serviceId service)) → ∀ newV4,
      ∃ identity d, ((provide parseStr others (store.registerOrUpdate parseStr service used).2).popDeviceId newV4
          (Service.serviceId service)).1 = .ok (identity, d) ∧
        SameButDeviceIds identity service

theorem returnsLatest_iff (service : ServiceIdentity) (used : Option (List String)) :
    ReturnsLatest parseStr store service used ↔ SameButDeviceIds (store.updated service used) service := by
  constructor
  · exact fun h => h.1
  · intro hSame
    refine ⟨hSame, fun others hOthers newV4 => ?_⟩
    let after := (store.registerOrUpdate parseStr service used).2
    obtain ⟨hIdentity, hPool⟩ := provide_leaves parseStr after hOthers
    have hFound : after.identities.lookup (Service.serviceId service) = some (store.updated service used) :=
      (lookup_identities_registerOrUpdate parseStr used _).trans (if_pos rfl)
    have hRegistered : Service.serviceId service ∈ after.registeredDeviceIds :=
      HashMap.mem_iff_exists_lookup.mpr ⟨_, AList.lookup_insert _⟩
    obtain ⟨r, hr⟩ := HashMap.mem_iff_exists_lookup.mp (hPool.mpr hRegistered)
    exact ⟨_, _, (popDeviceId_registered newV4 (hIdentity.trans hFound) hr).1, hSame⟩

/-- After any messages an identity is what is returned from then on exactly if it agrees, apart from the device ids,
with the one that came first since its service was last deleted, or that was stored from the start. -/
theorem latest_returned_iff (store : InMemoryIdentityStore) (events : List ProviderEvent) (service : ServiceIdentity)
    (used : Option (List String)) :
    ReturnsLatest parseStr (provide parseStr events store) service used ↔
      ∀ first, events.foldl (fun first event => event.first (Service.serviceId service) first)
        (store.identities.lookup (Service.serviceId service)) = some first → SameButDeviceIds first service := by
  have hKept := keepsFirst_provide parseStr store (Service.serviceId service) events
  rw [returnsLatest_iff, updated]
  rw [KeepsFirst] at hKept
  generalize events.foldl _ _ = first at hKept ⊢
  generalize (provide parseStr events store).identities.lookup _ = stored at hKept ⊢
  cases hKept with
  | none =>
    refine iff_of_true (sameButDeviceIds_withUser service _).symm fun first h => ?_
    cases h
  | @some first stored hSame =>
    have hStored : SameButDeviceIds first (stored.withUser { stored.credentials with
        deviceIds := mergeDeviceIds stored.credentials.deviceIds (deviceIdList service.credentials) (used.getD []) }) :=
      hSame.trans (sameButDeviceIds_withUser stored _)
    constructor
    · intro h _ hFirst
      cases hFirst
      exact hStored.trans h
    · intro h
      exact hStored.symm.trans (h first rfl)

/-- The user of the service is renamed after the service was registered. -/
theorem renamed_user_not_returned : ¬∀ (parseStr : String → Option Uuid) (store : InMemoryIdentityStore)
    (events : List ProviderEvent) (service : ServiceIdentity) (used : Option (List String)),
    ReturnsLatest parseStr (provide parseStr events store) service used := by
  intro h
  let renamed := (sampleService none).withUser { (sampleService none).credentials with name := "cluster_ns_a_fghij" }
  have hSame := (h parseCanonical new [.foundServiceIdentity (sampleService none) false none] renamed none).1
  revert hSame
  decide

end InMemoryIdentityStore

end SdpK8sInjector.Injector
