import SdpK8sInjector.Injector.DeviceId
import SdpK8sInjector.Lib.FirstNew

/-! # What a run of calls makes of the store of the injector

An update of a service adds its new device ids to the stored identity at the end
and to the pool in front. The two decide separately, by the text of the id, what
is new, and only the first one asks which ids are used.
-/

namespace SdpK8sInjector.Injector

open Lib Common

theorem RegisteredDeviceId.ids_push (uuid : Uuid) (r : RegisteredDeviceId) :
    (r.push uuid).2.ids = pushNew r.ids uuid := by
  unfold push pushNew
  by_cases h : uuid ∈ r.ids
  · rw [dif_neg (not_not.mpr h), if_pos h]
  · rw [dif_pos h, if_neg h]

theorem ids_releaseNew (parseStr : String → Option Uuid) (current deviceIds : List String) (r : RegisteredDeviceId) :
    (releaseNew parseStr current deviceIds r).ids =
      (firstNew r.ids ((deviceIds.filter (· ∉ current)).filterMap parseStr)).reverse ++ r.ids := by
  rw [← foldl_pushNew]
  induction deviceIds generalizing r with
  | nil => rfl
  | cons deviceId rest ih =>
    rw [releaseNew, List.foldl_cons]
    refine (ih _).trans ?_
    by_cases hKnown : deviceId ∈ current
    · simp [hKnown]
    · cases hParse : parseStr deviceId with
      | none => simp [hKnown, hParse]
      | some uuid => simp [hKnown, hParse, RegisteredDeviceId.ids_push]

theorem mergeDeviceIds_none (src used : List String) : mergeDeviceIds none src used = none := by
  induction src with
  | nil => rfl
  | cons deviceId rest ih => exact ih

theorem mergeDeviceIds_some (ids src used : List String) :
    mergeDeviceIds (some ids) src used = some (ids ++ firstNew ids (src.filter (· ∉ used))) := by
  rw [← foldl_appendNew]
  induction src generalizing ids with
  | nil => rfl
  | cons deviceId rest ih =>
    rw [mergeDeviceIds, List.foldl_cons]
    dsimp only
    by_cases hUsed : deviceId ∈ used
    · rw [if_neg fun h => h.2 hUsed, List.filter_cons_of_neg (by simpa using hUsed)]
      exact ih ids
    · rw [List.filter_cons_of_pos (by simpa using hUsed), List.foldl_cons, appendNew]
      by_cases hKnown : deviceId ∈ ids
      · rw [if_neg fun h => h.1 hKnown, if_pos hKnown]
        exact ih ids
      · rw [if_pos ⟨hKnown, hUsed⟩, if_neg hKnown]
        exact ih (ids ++ [deviceId])

namespace InMemoryIdentityStore

/-- The result names the id even where it was in the pool already. -/
def pushDeviceId (serviceId : String) (uuid : Uuid) (store : InMemoryIdentityStore) :
    Except SDPServiceError (Option Uuid) × InMemoryIdentityStore :=
  match store.identities.lookup serviceId, store.registeredDeviceIds.lookup serviceId with
  | some _, some registeredDeviceId =>
    (.ok (some uuid), { store with
      registeredDeviceIds := AList.insert serviceId (registeredDeviceId.push uuid).2 store.registeredDeviceIds })
  | _, _ => (.error ("ServiceIdentity is missing for service " ++ serviceId), store)

/-- The operations of the trait `IdentityStore`. -/
inductive Call where
  | registerOrUpdate (service : ServiceIdentity) (usedDeviceIds : Option (List String))
  | pushDeviceId (serviceId : String) (uuid : Uuid)
  | popDeviceId (serviceId : String) (newV4 : Uuid)
  | unregisterService (serviceId : String)

def perform (parseStr : String → Option Uuid) (store : InMemoryIdentityStore) : Call → InMemoryIdentityStore
  | .registerOrUpdate service used => (store.registerOrUpdate parseStr service used).2
  | .pushDeviceId serviceId uuid => (store.pushDeviceId serviceId uuid).2
  | .popDeviceId serviceId newV4 => (store.popDeviceId newV4 serviceId).2
  | .unregisterService serviceId => (store.unregisterService serviceId).2

/-- The call does not register or unregister the service. -/
def Call.Leaves (serviceId : String) : Call → Prop
  | .registerOrUpdate service _ => Service.serviceId service ≠ serviceId
  | .unregisterService other => other ≠ serviceId
  | .pushDeviceId _ _ | .popDeviceId _ _ => True

/-- Device ids are requested one after the other; `newV4` is what is drawn where the pool is empty. -/
def popDeviceIds (serviceId : String) : List Uuid → InMemoryIdentityStore →
    List (Except SDPServiceError (ServiceIdentity × Uuid)) × InMemoryIdentityStore
  | [], store => ([], store)
  | newV4 :: rest, store =>
    let (result, store) := store.popDeviceId newV4 serviceId
    let (results, store) := popDeviceIds serviceId rest store
    (result :: results, store)

section Updates

variable (parseStr : String → Option Uuid) {store : InMemoryIdentityStore} {service : ServiceIdentity}

/-- The identity that is stored for the service after an update. -/
def updated (store : InMemoryIdentityStore) (service : ServiceIdentity) (used : Option (List String)) :
    ServiceIdentity :=
  let registered := (store.identities.lookup (Service.serviceId service)).getD service
  registered.withUser { registered.credentials with
    deviceIds := mergeDeviceIds registered.credentials.deviceIds (deviceIdList service.credentials) (used.getD []) }

theorem registerOrUpdate_fst (used : Option (List String)) :
    (store.registerOrUpdate parseStr service used).1 = store.updated service used := rfl

theorem lookup_identities_registerOrUpdate (used : Option (List String)) (key : String) :
    (store.registerOrUpdate parseStr service used).2.identities.lookup key =
      if key = Service.serviceId service then some (store.updated service used) else store.identities.lookup key := by
  rw [lookup_registerOrUpdate, registerOrUpdate_fst]

theorem lookup_registeredDeviceIds_registerOrUpdate_of_ne (used : Option (List String)) {key : String}
    (hKey : key ≠ Service.serviceId service) :
    (store.registerOrUpdate parseStr service used).2.registeredDeviceIds.lookup key =
      store.registeredDeviceIds.lookup key := by
  rw [registerOrUpdate, HashMap.lookup_insert_eq_ite, if_neg hKey]

/-- The pool gets the new ids in front, whether they are used or not. -/
theorem pool_registerOrUpdate_self (used : Option (List String)) :
    (store.registerOrUpdate parseStr service used).2.pool (Service.serviceId service) =
      (firstNew (store.pool (Service.serviceId service)) (((deviceIdList service.credentials).filter
        (· ∉ store.remembered (Service.serviceId service))).filterMap parseStr)).reverse ++
        store.pool (Service.serviceId service) := by
  rw [pool_registerOrUpdate, if_pos rfl, ids_releaseNew]
  rfl

theorem remembered_of_lookup {key : String} {i : ServiceIdentity} (h : store.identities.lookup key = some i) :
    store.remembered key = deviceIdList i.credentials := by
  rw [remembered, h]
  rfl

end Updates

section Pops

variable {store : InMemoryIdentityStore} {serviceId : String} {i : ServiceIdentity} {r : RegisteredDeviceId}

theorem popDeviceId_registered (newV4 : Uuid) (hFound : store.identities.lookup serviceId = some i)
    (hPool : store.registeredDeviceIds.lookup serviceId = some r) :
    (store.popDeviceId newV4 serviceId).1 = .ok (i, r.ids.headD newV4) ∧
      (store.popDeviceId newV4 serviceId).2.identities = store.identities ∧
      ∃ r', (store.popDeviceId newV4 serviceId).2.registeredDeviceIds.lookup serviceId = some r' ∧
        r'.ids = r.ids.tail := by
  unfold popDeviceId
  rw [hFound, hPool]
  dsimp only
  rcases RegisteredDeviceId.pop_cases newV4 r with ⟨hEmpty, hPop⟩ | ⟨uuid, rest, hIds, hReleased, hRest⟩
  · rw [hPop, hEmpty]
    exact ⟨rfl, rfl, r, AList.lookup_insert _, hEmpty⟩
  · cases hPop : r.pop newV4 with
    | mk released r' =>
      rw [hPop] at hReleased hRest
      dsimp only at hReleased hRest
      subst hReleased
      rw [hIds]
      exact ⟨rfl, rfl, r', AList.lookup_insert _, hRest⟩

/-- First come the ids of the pool in their order, then fresh ones. -/
theorem popDeviceIds_registered (hFound : store.identities.lookup serviceId = some i)
    (hPool : store.registeredDeviceIds.lookup serviceId = some r) (draws : List Uuid) :
    (popDeviceIds serviceId draws store).1 =
        (r.ids.take draws.length ++ draws.drop r.ids.length).map (fun d => .ok (i, d)) ∧
      (popDeviceIds serviceId draws store).2.pool serviceId = r.ids.drop draws.length ∧
      (popDeviceIds serviceId draws store).2.identities = store.identities := by
  induction draws generalizing store r with
  | nil =>
    refine ⟨by simp [popDeviceIds], ?_, rfl⟩
    simp [popDeviceIds, pool, hPool]
  | cons newV4 rest ih =>
    obtain ⟨hResult, hSame, r', hPool', hIds⟩ := popDeviceId_registered newV4 hFound hPool
    obtain ⟨hResults, hLeft, hKept⟩ := ih (hSame ▸ hFound) hPool'
    refine ⟨?_, ?_, hKept.trans hSame⟩
    · rw [popDeviceIds]
      dsimp only
      rw [hResult, hResults, hIds]
      cases r.ids <;> simp
    · refine hLeft.trans ?_
      rw [hIds, List.length_cons, List.drop_tail]

end Pops

section Order

variable (parseStr : String → Option Uuid) {store : InMemoryIdentityStore} {service : ServiceIdentity}

/-- An update of a registered service: the stored list grows at its end, the pool in front, and the ids are handed out
newest first. -/
theorem update_order {i : ServiceIdentity} {cur : List String}
    (hFound : store.identities.lookup (Service.serviceId service) = some i)
    (hList : i.credentials.deviceIds = some cur) :
    let id := Service.serviceId service
    let after := (store.registerOrUpdate parseStr service none).2
    let stored := i.withUser { i.credentials with
      deviceIds := some (cur ++ firstNew cur (deviceIdList service.credentials)) }
    let new := firstNew (store.pool id) (((deviceIdList service.credentials).filter (· ∉ cur)).filterMap parseStr)
    after.identities.lookup id = some stored ∧
      after.pool id = new.reverse ++ store.pool id ∧ (after.pool id).Nodup ∧
      (∀ draws, (popDeviceIds id draws after).1 =
        ((new.reverse ++ store.pool id).take draws.length ++ draws.drop (new.reverse ++ store.pool id).length).map
          fun d => .ok (stored, d)) ∧
      ∀ key, key ≠ id → after.identities.lookup key = store.identities.lookup key ∧
        after.registeredDeviceIds.lookup key = store.registeredDeviceIds.lookup key := by
  intro id after stored new
  have hStored : after.identities.lookup id = some stored := by
    have hLookup : after.identities.lookup id = some (store.updated service none) :=
      (lookup_identities_registerOrUpdate parseStr none id).trans (if_pos rfl)
    have hAll : (deviceIdList service.credentials).filter (· ∉ ([] : List String)) =
        deviceIdList service.credentials :=
      List.filter_eq_self.mpr fun _ _ => by simp
    rw [hLookup, updated, hFound, Option.getD_some, hList, Option.getD_none, mergeDeviceIds_some, hAll]
  have hPool : after.pool id = new.reverse ++ store.pool id := by
    have hRemembered : store.remembered id = cur := by
      rw [remembered_of_lookup hFound, deviceIdList, hList]
      rfl
    refine (pool_registerOrUpdate_self parseStr none).trans ?_
    rw [hRemembered]
  refine ⟨hStored, hPool, nodup_pool after id, fun draws => ?_, fun key hKey => ⟨?_, ?_⟩⟩
  · obtain ⟨r, hRegistered⟩ : ∃ r, after.registeredDeviceIds.lookup id = some r := ⟨_, AList.lookup_insert _⟩
    have hIds : r.ids = new.reverse ++ store.pool id := by
      rw [← hPool, pool, hRegistered]
      rfl
    rw [(popDeviceIds_registered hStored hRegistered draws).1, hIds]
  · exact (lookup_identities_registerOrUpdate parseStr none key).trans (if_neg hKey)
  · exact lookup_registeredDeviceIds_registerOrUpdate_of_ne parseStr none hKey

def sampleDeviceIds : List Uuid :=
  [⟨"f464d45a-869e-45e2-a4c0-b604fc2feafc", by decide⟩, ⟨"ecdfa8b7-39d9-44ba-8358-e8a693bf9c6d", by decide⟩,
    ⟨"b46eb528-a4fd-42b8-80b7-836d09fdb78c", by decide⟩]

def sampleService (deviceIds : Option (List String)) : ServiceIdentity :=
  .new "ns-a" ⟨⟨"u", "cluster_ns_a_abcde", "pw", "", deviceIds⟩, "a", "ns", ∅, false⟩

def sampleStore : InMemoryIdentityStore :=
  (new.registerOrUpdate parseCanonical (sampleService (some ["f464d45a-869e-45e2-a4c0-b604fc2feafc"])) none).2

theorem update_order_sample :
    (sampleStore.registerOrUpdate parseCanonical (sampleService (some (sampleDeviceIds.map Uuid.toString))) none).2.pool
      "ns_a" = sampleDeviceIds.reverse := by
  have hFound : sampleStore.identities.lookup
      (Service.serviceId (sampleService (some (sampleDeviceIds.map Uuid.toString)))) =
      some (sampleService (some ["f464d45a-869e-45e2-a4c0-b604fc2feafc"])) := by decide
  exact (update_order parseCanonical hFound rfl).2.1.trans (by decide)

end Order

section Used

variable (parseStr : String → Option Uuid) (store : InMemoryIdentityStore) (service : ServiceIdentity)
  (used : List String)

/-- Ids that are used are in the pool only if they were. -/
def UsedStayOut (before after : InMemoryIdentityStore) (id : String) : Prop :=
  ∀ x ∈ used, ∀ d, parseStr x = some d → d ∉ before.pool id → d ∉ after.pool id

/-- What is new in the pool is new in the stored list, and the other way round. -/
def PooledAsStored (before after : InMemoryIdentityStore) (id : String) : Prop :=
  ∀ d, d ∉ before.pool id →
    (d ∈ after.pool id ↔ ∃ x ∈ after.remembered id, x ∉ before.remembered id ∧ parseStr x = some d)

/-- An id that is new in the update and denotes a used one is in the pool already; where a stored identity has no list,
all ids of the update are. -/
def NewUnused : Prop :=
  (∀ x ∈ deviceIdList service.credentials, x ∉ store.remembered (Service.serviceId service) →
    ∀ d, parseStr x = some d →
    (∃ u ∈ used, parseStr u = some d) → d ∈ store.pool (Service.serviceId service)) ∧
  ∀ i, store.identities.lookup (Service.serviceId service) = some i → i.credentials.deviceIds = none →
    ∀ x ∈ deviceIdList service.credentials, ∀ d, parseStr x = some d →
      d ∈ store.pool (Service.serviceId service)

variable {service used} in
/-- What an update adds to the stored list. -/
theorem newly_remembered_iff {x : String} :
    (x ∈ (store.registerOrUpdate parseStr service (some used)).2.remembered (Service.serviceId service) ∧
      x ∉ store.remembered (Service.serviceId service)) ↔
    x ∈ deviceIdList service.credentials ∧ x ∉ store.remembered (Service.serviceId service) ∧
      ∀ i, store.identities.lookup (Service.serviceId service) = some i →
        i.credentials.deviceIds.isSome = true ∧ x ∉ used := by
  cases hFound : store.identities.lookup (Service.serviceId service) with
  | none =>
    have hKeeps : store.KeepsList (Service.serviceId service) := by
      intro i hi
      cases hFound.symm.trans hi
    rw [mem_remembered_registerOrUpdate hKeeps]
    simp only [hFound, true_or, and_true, reduceCtorEq, false_implies, implies_true]
    tauto
  | some i =>
    cases hList : i.credentials.deviceIds with
    | none =>
      have hNothing : (store.registerOrUpdate parseStr service (some used)).2.remembered
          (Service.serviceId service) = [] := by
        rw [remembered, lookup_identities_registerOrUpdate, if_pos rfl, updated, hFound, Option.getD_some, hList,
          mergeDeviceIds_none]
        rfl
      rw [hNothing]
      constructor
      · rintro ⟨hMem, -⟩
        cases hMem
      · rintro ⟨-, -, hAll⟩
        have hSome := (hAll i rfl).1
        rw [hList] at hSome
        cases hSome
    | some ids =>
      have hKeeps : store.KeepsList (Service.serviceId service) := by
        intro j hj
        cases hFound.symm.trans hj
        rw [hList]
        rfl
      rw [mem_remembered_registerOrUpdate hKeeps, hFound]
      simp only [reduceCtorEq, false_or, Option.getD_some, Option.some.injEq, forall_eq',
        hList, Option.isSome_some, true_and]
      tauto

/-- An update keeps the used ids out of the pool and pools what it stores exactly if what is new in it is not used. -/
theorem used_stay_out_iff :
    UsedStayOut parseStr used store (store.registerOrUpdate parseStr service (some used)).2
    (Service.serviceId service) ∧
      PooledAsStored parseStr store (store.registerOrUpdate parseStr service (some used)).2
      (Service.serviceId service) ↔
    NewUnused parseStr store service used := by
  have hPool : ∀ d, d ∉ store.pool (Service.serviceId service) →
      (d ∈ (store.registerOrUpdate parseStr service (some used)).2.pool (Service.serviceId service) ↔
        ∃ x ∈ deviceIdList service.credentials, x ∉ store.remembered (Service.serviceId service) ∧
          parseStr x = some d) := by
    intro d hd
    rw [mem_pool_registerOrUpdate]
    simp [hd]
  constructor
  · rintro ⟨hOut, hSame⟩
    constructor
    · rintro x hx hNew d hParse ⟨u, hu, hUsed⟩
      by_contra hd
      exact hOut u hu d hUsed hd ((hPool d hd).mpr ⟨x, hx, hNew, hParse⟩)
    · intro i hi hList x hx d hParse
      by_contra hd
      have hNew : x ∉ store.remembered (Service.serviceId service) := by
        rw [remembered_of_lookup hi, deviceIdList, hList]
        exact List.not_mem_nil
      obtain ⟨y, hy, hyNew, -⟩ := (hSame d hd).mp ((hPool d hd).mpr ⟨x, hx, hNew, hParse⟩)
      have hKept := (((newly_remembered_iff parseStr store).mp ⟨hy, hyNew⟩).2.2 i hi).1
      rw [hList] at hKept
      cases hKept
  · rintro ⟨hUnused, hListed⟩
    constructor
    · intro u hu d hUsed hd hMem
      obtain ⟨x, hx, hNew, hParse⟩ := (hPool d hd).mp hMem
      exact hd (hUnused x hx hNew d hParse ⟨u, hu, hUsed⟩)
    · intro d hd
      rw [hPool d hd]
      constructor
      · rintro ⟨x, hx, hNew, hParse⟩
        refine ⟨x, ?_, hNew, hParse⟩
        refine ((newly_remembered_iff parseStr store).mpr ⟨hx, hNew, fun i hi => ⟨?_, fun hu => ?_⟩⟩).1
        · rw [Option.isSome_iff_ne_none]
          exact fun hList => hd (hListed i hi hList x hx d hParse)
        · exact hd (hUnused x hx hNew d hParse ⟨x, hu, hParse⟩)
      · rintro ⟨x, hx, hNew, hParse⟩
        exact ⟨x, ((newly_remembered_iff parseStr store).mp ⟨hx, hNew⟩).1, hNew, hParse⟩

/-- The system reports the only id of an update as used, and it is pooled all the same. -/
theorem used_id_pooled : ¬∀ (parseStr : String → Option Uuid) (store : InMemoryIdentityStore)
    (service : ServiceIdentity)
    (used : List String),
    UsedStayOut parseStr used store (store.registerOrUpdate parseStr service (some used)).2
    (Service.serviceId service) ∧
      PooledAsStored parseStr store (store.registerOrUpdate parseStr service (some used)).2
      (Service.serviceId service) := by
  intro h
  let service := sampleService (some ["ecdfa8b7-39d9-44ba-8358-e8a693bf9c6d"])
  have hOut := (h parseCanonical sampleStore service ["ecdfa8b7-39d9-44ba-8358-e8a693bf9c6d"]).1
  exact hOut _ List.mem_cons_self ⟨"ecdfa8b7-39d9-44ba-8358-e8a693bf9c6d", by decide⟩ (by decide)
    (by decide) (by decide)

end Used

section Reapplied

variable (parseStr : String → Option Uuid)

/-- Applying the identity once more changes neither the pool of its service nor what is stored for it. -/
def Settled (service : ServiceIdentity) (store : InMemoryIdentityStore) : Prop :=
  (store.registerOrUpdate parseStr service none).2.pool (Service.serviceId service) =
    store.pool (Service.serviceId service) ∧
    (store.registerOrUpdate parseStr service none).2.identities.lookup (Service.serviceId service) =
      store.identities.lookup (Service.serviceId service)

/-- An update of a stored list takes over all of its ids, and where no list is stored it has none to give. -/
def TakenOver (store : InMemoryIdentityStore) (service : ServiceIdentity) (used : Option (List String)) : Prop :=
  ∀ i, store.identities.lookup (Service.serviceId service) = some i → ∀ x ∈ deviceIdList service.credentials,
    match i.credentials.deviceIds with
    | some cur => x ∈ cur ∨ x ∉ used.getD []
    | none => parseStr x = none

variable {store : InMemoryIdentityStore} {service : ServiceIdentity} {used : Option (List String)}

theorem deviceIds_updated : (store.updated service used).credentials.deviceIds =
    mergeDeviceIds ((store.identities.lookup (Service.serviceId service)).getD service).credentials.deviceIds
      (deviceIdList service.credentials) (used.getD []) := rfl

theorem takenOver_iff : TakenOver parseStr store service used ↔ ∀ x ∈ deviceIdList service.credentials,
    match (store.updated service used).credentials.deviceIds with
    | some ids => x ∈ ids
    | none => parseStr x = none := by
  rw [TakenOver, deviceIds_updated]
  cases hFound : store.identities.lookup (Service.serviceId service) with
  | none =>
    constructor
    · intro _ x hx
      rw [Option.getD_none]
      cases hList : service.credentials.deviceIds with
      | none =>
        rw [deviceIdList, hList] at hx
        cases hx
      | some ids =>
        rw [deviceIdList, hList] at hx
        rw [mergeDeviceIds_some]
        exact List.mem_append_left _ hx
    · intro _ i hi
      cases hi
  | some i =>
    rw [Option.getD_some]
    simp only [Option.some.injEq, forall_eq']
    refine forall₂_congr fun x hx => ?_
    cases i.credentials.deviceIds with
    | none => rw [mergeDeviceIds_none]
    | some cur =>
      rw [mergeDeviceIds_some]
      simp only [List.mem_append, mem_firstNew, List.mem_filter, hx, true_and, decide_eq_true_eq]
      tauto

theorem settled_iff {i : ServiceIdentity} (hFound : store.identities.lookup (Service.serviceId service) = some i) :
    Settled parseStr service store ↔
      (∀ x ∈ deviceIdList service.credentials, x ∉ store.remembered (Service.serviceId service) →
        ∀ d, parseStr x = some d → d ∈ store.pool (Service.serviceId service)) ∧
      ∀ cur, i.credentials.deviceIds = some cur → ∀ x ∈ deviceIdList service.credentials, x ∈ cur := by
  rw [Settled]
  apply and_congr
  · rw [pool_registerOrUpdate_self, List.append_left_eq_self, List.reverse_eq_nil_iff, firstNew_eq_nil_iff]
    simp only [List.mem_filterMap, List.mem_filter, decide_eq_true_eq]
    constructor
    · exact fun h x hx hNew d hParse => h d ⟨x, ⟨hx, hNew⟩, hParse⟩
    · rintro h d ⟨x, ⟨hx, hNew⟩, hParse⟩
      exact h x hx hNew d hParse
  · rw [lookup_identities_registerOrUpdate, if_pos rfl, hFound, Option.some.injEq]
    have hIds : (store.updated service none).credentials.deviceIds =
        mergeDeviceIds i.credentials.deviceIds (deviceIdList service.credentials) [] := by
      rw [deviceIds_updated, hFound]
      rfl
    have hUpdated : store.updated service none = i.withUser { i.credentials with
        deviceIds := mergeDeviceIds i.credentials.deviceIds (deviceIdList service.credentials) [] } := by
      rw [updated, hFound]
      rfl
    cases hList : i.credentials.deviceIds with
    | none =>
      refine iff_of_true ?_ fun cur h => nomatch h
      rw [hUpdated, hList, mergeDeviceIds_none, ← hList]
      rfl
    | some cur =>
      have hAll : (deviceIdList service.credentials).filter (· ∉ ([] : List String)) =
          deviceIdList service.credentials :=
        List.filter_eq_self.mpr fun _ _ => by simp
      rw [hList, mergeDeviceIds_some, hAll] at hIds
      simp only [Option.some.injEq, forall_eq']
      constructor
      · intro hSame
        rw [hSame, hList, Option.some.injEq, List.self_eq_append_right, firstNew_eq_nil_iff] at hIds
        exact hIds
      · intro hKnown
        rw [hUpdated, hList, mergeDeviceIds_some, hAll, firstNew_eq_nil_iff.mpr hKnown, List.append_nil, ← hList]
        rfl

theorem perform_leaves {call : Call} {id : String} (h : call.Leaves id) :
    (store.perform parseStr call).identities.lookup id = store.identities.lookup id := by
  cases call with
  | registerOrUpdate service used =>
    exact (lookup_identities_registerOrUpdate parseStr used id).trans (if_neg (Ne.symm h))
  | pushDeviceId serviceId uuid =>
    unfold perform pushDeviceId
    dsimp only
    split <;> rfl
  | popDeviceId serviceId newV4 =>
    unfold perform popDeviceId
    dsimp only
    split
    · generalize RegisteredDeviceId.pop newV4 _ = popped
      obtain ⟨released, r⟩ := popped
      cases released <;> rfl
    · rfl
  | unregisterService serviceId => exact AList.lookup_erase_ne (Ne.symm h)

theorem foldl_perform_leaves {calls : List Call} {id : String} (h : ∀ call ∈ calls, call.Leaves id) :
    (calls.foldl (perform parseStr) store).identities.lookup id = store.identities.lookup id := by
  induction calls generalizing store with
  | nil => rfl
  | cons call rest ih =>
    refine (ih fun c hc => h c (List.mem_cons_of_mem call hc)).trans ?_
    exact perform_leaves parseStr (h call List.mem_cons_self)

theorem foldl_popDeviceId (id : String) (draws : List Uuid) :
    (draws.map (.popDeviceId id)).foldl (perform parseStr) store = (popDeviceIds id draws store).2 := by
  induction draws generalizing store with
  | nil => rfl
  | cons newV4 rest ih => exact ih

/-- Applying an identity again changes nothing, whatever is pushed and popped in between, exactly if its last update
was taken over. -/
theorem reapply_iff (store : InMemoryIdentityStore) (service : ServiceIdentity) (used : Option (List String)) :
    (∀ calls : List Call, (∀ call ∈ calls, call.Leaves (Service.serviceId service)) →
      Settled parseStr service (calls.foldl (perform parseStr) (store.registerOrUpdate parseStr service used).2)) ↔
    TakenOver parseStr store service used := by
  let applied := (store.registerOrUpdate parseStr service used).2
  have hApplied : applied.identities.lookup (Service.serviceId service) = some (store.updated service used) :=
    (lookup_identities_registerOrUpdate parseStr used _).trans (if_pos rfl)
  rw [takenOver_iff]
  constructor
  · intro hSettled x hx
    cases hList : (store.updated service used).credentials.deviceIds with
    | some ids => exact ((settled_iff parseStr hApplied).mp (hSettled [] fun _ h => nomatch h)).2 ids hList x hx
    | none =>
      dsimp only
      by_contra hParse
      obtain ⟨d, hd⟩ := Option.ne_none_iff_exists'.mp hParse
      -- the whole pool is handed out
      obtain ⟨r, hRegistered⟩ : ∃ r, applied.registeredDeviceIds.lookup (Service.serviceId service) = some r :=
        ⟨_, AList.lookup_insert _⟩
      have hPops :=
        hSettled ((List.replicate r.ids.length d).map (.popDeviceId (Service.serviceId service))) fun call hCall => by
        obtain ⟨_, -, rfl⟩ := List.mem_map.mp hCall
        exact trivial
      rw [foldl_popDeviceId] at hPops
      obtain ⟨-, hEmpty, hSame⟩ := popDeviceIds_registered hApplied hRegistered (List.replicate r.ids.length d)
      rw [List.length_replicate, List.drop_length] at hEmpty
      have hStored : (popDeviceIds (Service.serviceId service)
          (List.replicate r.ids.length d) applied).2.identities.lookup
          (Service.serviceId service) = some (store.updated service used) := hSame ▸ hApplied
      have hPool := ((settled_iff parseStr hStored).mp hPops).1 x hx (by
        rw [remembered_of_lookup hStored, deviceIdList, hList]
        exact List.not_mem_nil) d hd
      rw [hEmpty] at hPool
      cases hPool
  · intro hTaken calls hCalls
    have hStored := (foldl_perform_leaves parseStr hCalls).trans hApplied
    refine (settled_iff parseStr hStored).mpr ⟨fun x hx hNew d hParse => ?_, fun cur hList x hx => ?_⟩
    · have hMem := hTaken x hx
      rw [remembered_of_lookup hStored, deviceIdList] at hNew
      cases hList : (store.updated service used).credentials.deviceIds with
      | none =>
        rw [hList] at hMem
        cases hMem.symm.trans hParse
      | some ids =>
        rw [hList] at hMem hNew
        exact absurd hMem hNew
    · have hMem := hTaken x hx
      rw [hList] at hMem
      exact hMem

/-- An id that was reported as used goes to the pool, is handed out, and is offered again. -/
theorem used_id_offered_again : ¬∀ (parseStr : String → Option Uuid) (store : InMemoryIdentityStore)
    (service : ServiceIdentity) (used : Option (List String)) (calls : List Call),
    (∀ call ∈ calls, call.Leaves (Service.serviceId service)) →
      Settled parseStr service (calls.foldl (perform parseStr) (store.registerOrUpdate parseStr service used).2) := by
  intro h
  let service := sampleService (some ["ecdfa8b7-39d9-44ba-8358-e8a693bf9c6d"])
  let calls : List Call := [.popDeviceId "ns_a" ⟨"b46eb528-a4fd-42b8-80b7-836d09fdb78c", by decide⟩]
  have hLeaves : ∀ call ∈ calls, call.Leaves (Service.serviceId service) := by
    intro call hCall
    rw [List.mem_singleton.mp hCall]
    exact trivial
  have hPool := (h parseCanonical sampleStore service (some ["ecdfa8b7-39d9-44ba-8358-e8a693bf9c6d"]) calls hLeaves).1
  revert hPool
  decide

end Reapplied

end InMemoryIdentityStore

end SdpK8sInjector.Injector
