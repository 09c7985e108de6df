import SdpK8sInjector.Injector.Registrations
import SdpK8sInjector.Lib.RequestReply

/-! # The requests for device ids and the provider that answers them

Each admission of a pod sends its request to the provider and waits for the reply. The
provider deals with the service identities that the watcher finds in between. A
requester that has waited for too long leaves, and does not take back its request.
-/

namespace SdpK8sInjector.Injector

open Lib Common InMemoryIdentityStore

/-- What the watcher sends. The last field is what the system answers about the device ids of the identity. -/
inductive WatcherMessage where
  | foundServiceIdentity (service : ServiceIdentity) (reapplied : Bool) (usedDeviceIds : Option (List String))
  | deletedServiceIdentity (service : ServiceIdentity)
deriving DecidableEq

def WatcherMessage.event : WatcherMessage → ProviderEvent
  | .foundServiceIdentity service reapplied used => .foundServiceIdentity service reapplied used
  | .deletedServiceIdentity service => .deletedServiceIdentity service

inductive DeviceIdProviderResponseProtocol where
  | assignedDeviceId (service : ServiceIdentity) (deviceId : Uuid)
  | notFound
deriving DecidableEq

/-- The literal capacity of the channel that `main` makes for the requests. -/
def deviceIdChannelSize : Nat := 50

/-- What `DeviceIdProvider::run` does with one message. -/
def deviceIdProvider (parseStr : String → Option Uuid) :
    Server InMemoryIdentityStore String Uuid DeviceIdProviderResponseProtocol WatcherMessage where
  answer serviceId newV4 store :=
    let (result, store) := store.popDeviceId newV4 serviceId
    match result with
    | .ok (serviceIdentity, uuid) => (.assignedDeviceId serviceIdentity uuid, store)
    | .error _ => (.notFound, store)
  handle msg store := store.perform parseStr msg.event.call

abbrev DeviceIdCall := Call String DeviceIdProviderResponseProtocol

abbrev DeviceIdEvent := Exchange.Event String Uuid WatcherMessage

/-- The state of the provider with its two channels, and of those that wait for a device id. -/
abbrev DeviceIdExchange := Exchange InMemoryIdentityStore String Uuid DeviceIdProviderResponseProtocol WatcherMessage

/-- What `InjectorDeviceIdRequester::request` returns. A requester that is dropped gives up as well as one that meets
the timeout. -/
def requested (c : DeviceIdCall) : Option (Except SDPServiceError (ServiceIdentity × Uuid)) :=
  match c.state with
  | .sending | .waiting => none
  | .returned (.assignedDeviceId serviceIdentity deviceId) => some (.ok (serviceIdentity, deviceId))
  | .returned .notFound => some (.error ("Device id not found for service " ++ c.request))
  | .gaveUp => some (.error ("Error getting device id for service " ++ c.request ++ ": deadline has elapsed"))

def dealtEvent : Dealt String Uuid WatcherMessage → ProviderEvent
  | .request _ serviceId newV4 => .requestDeviceId serviceId newV4
  | .message msg => msg.event

namespace DeviceIdExchange

section

variable (parseStr : String → Option Uuid)

def next (s : DeviceIdExchange) (event : DeviceIdEvent) : Option DeviceIdExchange :=
  Exchange.next (deviceIdProvider parseStr) deviceIdChannelSize s event

/-- What the provider has become of the store that it started with. -/
def Reachable (init : InMemoryIdentityStore) (s : DeviceIdExchange) : Prop :=
  Steps (next parseStr) (fun _ _ => True) (Exchange.start init) s

end

variable {parseStr : String → Option Uuid} {init store : InMemoryIdentityStore} {s t : DeviceIdExchange}

variable (parseStr) in
theorem answer_eq (serviceId : String) (newV4 : Uuid) (store : InMemoryIdentityStore) :
    ((deviceIdProvider parseStr).answer serviceId newV4 store).2 = (store.popDeviceId newV4 serviceId).2 ∧
      ∀ identity d, ((deviceIdProvider parseStr).answer serviceId newV4 store).1 = .assignedDeviceId identity d ↔
        (store.popDeviceId newV4 serviceId).1 = .ok (identity, d) := by
  rw [deviceIdProvider]
  dsimp only
  cases store.popDeviceId newV4 serviceId with
  | mk result store' =>
    cases result with
    | error e => exact ⟨rfl, fun identity d => by simp⟩
    | ok found => exact ⟨rfl, fun identity d => by simp [Prod.ext_iff]⟩

theorem deal_eq (store : InMemoryIdentityStore) (d : Dealt String Uuid WatcherMessage) :
    (deviceIdProvider parseStr).deal store d = store.perform parseStr (dealtEvent d).call := by
  cases d with
  | request caller serviceId newV4 => exact (answer_eq parseStr serviceId newV4 store).1
  | message msg => rfl

/-- The provider does to the store what the messages, one after the other, do. -/
theorem after_eq (store : InMemoryIdentityStore) (log : List (Dealt String Uuid WatcherMessage)) :
    (deviceIdProvider parseStr).after store log = provide parseStr (log.map dealtEvent) store := by
  induction log generalizing store with
  | nil => rfl
  | cons d rest ih =>
    rw [Server.after, List.foldl_cons, deal_eq]
    exact ih (store.perform parseStr (dealtEvent d).call)

theorem Reachable.consistent (h : Reachable parseStr init s) : s.Consistent (deviceIdProvider parseStr) init :=
  Exchange.Consistent.of_steps h (Exchange.consistent_start init)

theorem requested_ok {c : DeviceIdCall} {identity : ServiceIdentity} {d : Uuid} :
    requested c = some (.ok (identity, d)) ↔ c.state = .returned (.assignedDeviceId identity d) := by
  unfold requested
  split <;> simp_all

theorem Reachable.trans (h : Reachable parseStr init s) (hLater : Steps (next parseStr) (fun _ _ => True) s t) :
    Reachable parseStr init t := Steps.trans h hLater

/-- The store is what the messages make of it in the order in which the provider dealt with them. Each request that
returned is one of them, once, with the result that the store gave there, and requests are in the order in which they
were sent, those that had returned before those that were made later. -/
theorem requests_linearizable (h : Reachable parseStr init s) (hLater : Steps (next parseStr) (fun _ _ => True) s t) :
    t.server = provide parseStr (t.log.map dealtEvent) init ∧
      t.queue.received = t.log.filterMap Dealt.caller ∧
      (∀ caller c reply, t.calls[caller]? = some c → c.state = .returned reply →
        ∃ before newV4 rest, t.log = before ++ .request caller c.request newV4 :: rest ∧
          (∀ found, requested c = some (.ok found) ↔
            ((provide parseStr (before.map dealtEvent) init).popDeviceId newV4 c.request).1 = .ok found) ∧
          caller ∉ before.filterMap Dealt.caller ∧ caller ∉ rest.filterMap Dealt.caller) ∧
      ∀ i j c reply, s.calls[i]? = some c → c.state = .returned reply → s.calls.length ≤ j →
        j ∈ t.queue.received → [i, j].Sublist t.queue.received := by
  have hConsistent := (h.trans hLater).consistent
  refine ⟨hConsistent.server.trans (after_eq init t.log), hConsistent.callers_eq, ?_, ?_⟩
  · intro caller c reply hFound hState
    obtain ⟨before, newV4, rest, hLog, hReply, hOnce⟩ := hConsistent.returned hFound hState
    refine ⟨before, newV4, rest, hLog, fun found => ?_, hOnce⟩
    obtain ⟨identity, d⟩ := found
    rw [requested_ok, hState, ← after_eq, ← (answer_eq parseStr c.request newV4 _).2, hReply]
    exact ⟨CallState.returned.inj, congrArg _⟩
  · intro i j c reply hFound hState hNew hDealt
    have hBefore := h.consistent
    obtain ⟨rest, hLog⟩ := Exchange.log_prefix hLater
    have hPlaced := hBefore.placed i c hFound
    rw [Exchange.Placed, hState] at hPlaced
    have hFirst : i ∈ s.log.filterMap Dealt.caller := hBefore.callers_eq ▸ hBefore.mem_received hPlaced.1
    have hThen : j ∉ s.log.filterMap Dealt.caller := fun hOld => absurd
      (hBefore.known j (Channel.mem_history_of_received (hBefore.callers_eq ▸ hOld))) (Nat.not_lt.mpr hNew)
    rw [hConsistent.callers_eq, ← hLog, List.filterMap_append] at hDealt ⊢
    exact (List.singleton_sublist.mpr hFirst).append
      (List.singleton_sublist.mpr ((List.mem_append.mp hDealt).resolve_left hThen))

def sampleDrawn : Uuid := ⟨"5ad0cd02-2e26-4cf6-9a4d-3d4c1f8e2a10", by decide⟩

/-- A device id that is assigned, released when its service is found again, assigned once more, and another one that is
drawn for a requester that has left. -/
def sampleRequests : List DeviceIdEvent :=
  let found := .foundServiceIdentity (sampleService (some ["f464d45a-869e-45e2-a4c0-b604fc2feafc"])) false none
  [.handle found, .call "ns_a", .send 0, .take sampleDrawn, .reply, .receive 0,
    .handle (.deletedServiceIdentity (sampleService none)), .handle found, .call "ns_a",
    .send 1, .take sampleDrawn, .reply,
    .receive 1, .call "ns_a", .send 2, .giveUp 2, .take sampleDrawn, .reply]

def sampleRequested (n : Nat) : DeviceIdExchange :=
  runD (next parseCanonical) (Exchange.start new) (sampleRequests.take n)

theorem reachable_sampleRequested (n : Nat)
    (h : (run (next parseCanonical) (Exchange.start new) (sampleRequests.take n)).isSome = true) :
    Reachable parseCanonical new (sampleRequested n) :=
  Steps.of_runD _ (Admits.of_forall (fun _ _ _ => trivial) _) h

theorem requests_linearizable_sample :
    [0, 1].Sublist (runD (next parseCanonical) (sampleRequested 6) (sampleRequests.drop 6)).queue.received := by
  have hLater : Steps (next parseCanonical) (fun _ _ => True) (sampleRequested 6)
      (runD (next parseCanonical) (sampleRequested 6) (sampleRequests.drop 6)) :=
    Steps.of_runD _ (Admits.of_forall (fun _ _ _ => trivial) _) (by decide +kernel)
  exact (requests_linearizable (reachable_sampleRequested 6 (by decide +kernel)) hLater).2.2.2 0 1
    ⟨"ns_a", .returned (.assignedDeviceId (sampleService (some ["f464d45a-869e-45e2-a4c0-b604fc2feafc"]))
      (sampleDeviceIds.headD sampleDrawn)), []⟩ _ (by decide +kernel) rfl (by decide +kernel) (by decide +kernel)

/-- An identity of the service lists the id, and the store does not remember it. -/
def Releases (parseStr : String → Option Uuid) (store : InMemoryIdentityStore) (serviceId : String) (d : Uuid) :
    WatcherMessage → Prop
  | .foundServiceIdentity service _ _ => serviceId = Service.serviceId service ∧
      ∃ deviceId ∈ deviceIdList service.credentials, deviceId ∉ store.remembered serviceId ∧
        parseStr deviceId = some d
  | .deletedServiceIdentity _ => False

theorem popDeviceId_error {newV4 : Uuid} {serviceId : String} {e : SDPServiceError}
    (h : (store.popDeviceId newV4 serviceId).1 = .error e) : (store.popDeviceId newV4 serviceId).2 = store := by
  cases hFound : store.identities.lookup serviceId with
  | none => simp [popDeviceId, hFound]
  | some identity =>
    cases hPool : store.registeredDeviceIds.lookup serviceId with
    | none => simp [popDeviceId, hFound, hPool]
    | some r => cases (popDeviceId_registered newV4 hFound hPool).1.symm.trans h

theorem pool_popDeviceId_subset {newV4 : Uuid} {asked serviceId : String} {d : Uuid}
    (h : d ∈ (store.popDeviceId newV4 asked).2.pool serviceId) : d ∈ store.pool serviceId := by
  cases hPop : (store.popDeviceId newV4 asked).1 with
  | error e => rwa [popDeviceId_error hPop] at h
  | ok found =>
    obtain ⟨-, hOther, hHere⟩ := popDeviceId_ok hPop
    by_cases hKey : serviceId = asked
    · subst hKey
      rcases hHere with ⟨-, -, hEmpty⟩ | hTaken
      · rw [hEmpty] at h
        cases h
      · rw [hTaken]
        exact List.mem_cons_of_mem _ h
    · rwa [hOther serviceId hKey] at h

/-- What enters the pool of a service is released by what the watcher has found. -/
theorem pool_deal {serviceId : String} {d : Uuid} {e : Dealt String Uuid WatcherMessage}
    (hBefore : d ∉ store.pool serviceId) (hAfter : d ∈ ((deviceIdProvider parseStr).deal store e).pool serviceId) :
    ∃ msg, e = .message msg ∧ Releases parseStr store serviceId d msg := by
  rw [deal_eq] at hAfter
  cases e with
  | request caller asked newV4 => exact absurd (pool_popDeviceId_subset hAfter) hBefore
  | message msg =>
    refine ⟨msg, rfl, ?_⟩
    cases msg with
    | foundServiceIdentity service reapplied used =>
      exact (mem_pool_registerOrUpdate.mp hAfter).resolve_left hBefore
    | deletedServiceIdentity service =>
      have hErased : d ∈ (store.unregisterService (Service.serviceId service)).2.pool serviceId := hAfter
      rw [pool_unregisterService] at hErased
      split at hErased
      · cases hErased
      · exact hBefore hErased

theorem released_of_pool {serviceId : String} {d : Uuid} {log : List (Dealt String Uuid WatcherMessage)}
    (hBefore : d ∉ store.pool serviceId)
    (hAfter : d ∈ ((deviceIdProvider parseStr).after store log).pool serviceId) :
    ∃ before msg rest, log = before ++ .message msg :: rest ∧
      Releases parseStr ((deviceIdProvider parseStr).after store before) serviceId d msg := by
  induction log generalizing store with
  | nil => exact absurd hAfter hBefore
  | cons e log ih =>
    by_cases hNow : d ∈ ((deviceIdProvider parseStr).deal store e).pool serviceId
    · obtain ⟨msg, rfl, hReleases⟩ := pool_deal hBefore hNow
      exact ⟨[], msg, log, rfl, hReleases⟩
    · obtain ⟨before, msg, rest, rfl, hReleases⟩ := ih hNow hAfter
      exact ⟨e :: before, msg, rest, rfl, hReleases⟩

/-- The id that is assigned is not in the pool any more. -/
theorem not_mem_pool_of_popped {newV4 : Uuid} {serviceId : String} {identity : ServiceIdentity} {d : Uuid}
    (h : (store.popDeviceId newV4 serviceId).1 = .ok (identity, d)) :
    d ∉ (store.popDeviceId newV4 serviceId).2.pool serviceId := by
  obtain ⟨-, -, ⟨-, -, hEmpty⟩ | hTaken⟩ := popDeviceId_ok h
  · rw [hEmpty]
    exact List.not_mem_nil
  · have hNodup := store.nodup_pool serviceId
    rw [hTaken] at hNodup
    exact (List.nodup_cons.mp hNodup).1

theorem mem_of_pair_sublist {α : Type} {xs ys : List α} {i j : α} (hNodup : (xs ++ j :: ys).Nodup)
    (h : [i, j].Sublist (xs ++ j :: ys)) : i ∈ xs := by
  obtain ⟨l, r, hSplit, hLeft, hRight⟩ := List.sublist_append_iff.mp h
  have hNotLater := (List.nodup_cons.mp (List.nodup_append.mp hNodup).2.1).1
  cases l with
  | nil =>
    obtain rfl : r = [i, j] := hSplit.symm
    have hTail : [j].Sublist ys := hRight.tail
    exact absurd (List.singleton_sublist.mp hTail) hNotLater
  | cons x l =>
    obtain rfl : i = x := (List.cons.inj hSplit).1
    exact hLeft.subset List.mem_cons_self

/-- Two requests for one service get the same device id only if the second one found the pool empty and drew the id that
the first one had, or if the watcher found an identity of the service in between that lists the id, which the store did
not remember. -/
theorem same_id_released (h : Reachable parseStr init s) {i j : Nat} {c c' : DeviceIdCall}
    {identity identity' : ServiceIdentity}
    {d : Uuid} (hFirst : s.calls[i]? = some c) (hSecond : s.calls[j]? = some c') (hService : c'.request = c.request)
    (hOrder : [i, j].Sublist s.queue.received) (hRequested : requested c = some (.ok (identity, d)))
    (hRequested' : requested c' = some (.ok (identity', d))) :
    (∃ before rest, s.log = before ++ .request j c'.request d :: rest ∧
        (provide parseStr (before.map dealtEvent) init).pool c.request = []) ∨
      ∃ before msg rest, s.log = before ++ .message msg :: rest ∧ i ∈ before.filterMap Dealt.caller ∧
        j ∈ rest.filterMap Dealt.caller ∧
        Releases parseStr (provide parseStr (before.map dealtEvent) init) c.request d msg := by
  have hConsistent := h.consistent
  obtain ⟨before, newV4, rest, hLog, hReply, hBefore, hRest⟩ :=
    hConsistent.returned hFirst (requested_ok.mp hRequested)
  obtain ⟨before', newV4', rest', hLog', hReply', hBefore', hRest'⟩ :=
    hConsistent.returned hSecond (requested_ok.mp hRequested')
  have hTaken := (answer_eq parseStr c.request newV4 _).2 identity d |>.mp hReply.symm
  have hTaken' := (answer_eq parseStr c'.request newV4' _).2 identity' d |>.mp hReply'.symm
  have hEarlier : i ∈ before'.filterMap Dealt.caller := by
    have hNodup := (List.nodup_append.mp hConsistent.nodup).1
    rw [hConsistent.callers_eq, hLog', List.filterMap_append] at hNodup hOrder
    exact mem_of_pair_sublist hNodup hOrder
  obtain ⟨mid, rfl, hMid⟩ : ∃ mid, before' = before ++ .request i c.request newV4 :: mid ∧
      rest = mid ++ .request j c'.request newV4' :: rest' := by
    rcases List.append_eq_append_iff.mp (hLog.symm.trans hLog') with ⟨mid, rfl, hRest⟩ | ⟨mid, rfl, -⟩
    · cases mid with
      | nil => exact absurd (by simpa using hEarlier) hBefore
      | cons e mid =>
        cases hRest
        exact ⟨mid, rfl, rfl⟩
    · exact absurd (by rw [List.filterMap_append]; exact List.mem_append_left _ hEarlier) hBefore
  rw [Server.after, List.foldl_append, List.foldl_cons] at hTaken'
  have hGone := not_mem_pool_of_popped hTaken
  rw [← (answer_eq parseStr c.request newV4 _).1] at hGone
  rw [hService] at hTaken'
  obtain ⟨-, -, ⟨rfl, hEmpty, -⟩ | hPooled⟩ := popDeviceId_ok hTaken'
  · refine .inl ⟨_, _, hLog', ?_⟩
    rw [← after_eq, Server.after, List.foldl_append, List.foldl_cons]
    exact hEmpty
  · obtain ⟨between, msg, after, rfl, hReleases⟩ := released_of_pool hGone (by
      rw [← Server.after] at hPooled
      exact hPooled ▸ List.mem_cons_self)
    refine .inr ⟨before ++ .request i c.request newV4 :: between, msg, after ++ .request j c'.request newV4' :: rest',
      ?_, ?_, ?_, ?_⟩
    · simp [hLog']
    · simp [Dealt.caller]
    · simp [Dealt.caller]
    · rw [← after_eq, Server.after, List.foldl_append, List.foldl_cons]
      exact hReleases

theorem same_id_released_sample :
    ∃ before msg rest, (sampleRequested 13).log = before ++ .message msg :: rest ∧
      0 ∈ before.filterMap Dealt.caller ∧
      Releases parseCanonical (provide parseCanonical (before.map dealtEvent) new)
      "ns_a" (sampleDeviceIds.headD sampleDrawn)
        msg := by
  let c : DeviceIdCall := ⟨"ns_a", .returned (.assignedDeviceId
    (sampleService (some ["f464d45a-869e-45e2-a4c0-b604fc2feafc"])) (sampleDeviceIds.headD sampleDrawn)), []⟩
  have hFirst : (sampleRequested 13).calls[0]? = some c := by decide +kernel
  have hSecond : (sampleRequested 13).calls[1]? = some c := by decide +kernel
  have hDrawn : .request 1 "ns_a" (sampleDeviceIds.headD sampleDrawn) ∉ (sampleRequested 13).log := by decide +kernel
  rcases same_id_released (reachable_sampleRequested 13 (by decide +kernel)) hFirst
    hSecond rfl (by decide +kernel) rfl rfl with
    ⟨before, rest, hLog, -⟩ | ⟨before, msg, rest, hLog, hBefore, -, hReleases⟩
  · exact absurd (hLog ▸ List.mem_append_right _ List.mem_cons_self) hDrawn
  · exact ⟨before, msg, rest, hLog, hBefore, hReleases⟩

/-- What the provider has assigned is with its requester or on the way to it, unless the requester gave up. It is in the
pool again only if the watcher has found an identity since then that lists it, which the store did not remember. -/
theorem assigned_id_lost_iff (h : Reachable parseStr init s)
    {before rest : List (Dealt String Uuid WatcherMessage)} {i : Nat}
    {serviceId : String} {newV4 d : Uuid} {identity : ServiceIdentity}
    (hLog : s.log = before ++ .request i serviceId newV4 :: rest)
    (hAssigned : ((provide parseStr (before.map dealtEvent) init).popDeviceId newV4 serviceId).1 = .ok (identity, d)) :
    (∃ c, s.calls[i]? = some c ∧ c.request = serviceId ∧
      (c.state = .gaveUp ↔ ¬(requested c = some (.ok (identity, d)) ∨
        c.state = .waiting ∧ (s.replying = some (i, .assignedDeviceId identity d) ∨
          c.replies = [.assignedDeviceId identity d])))) ∧
    (d ∈ s.server.pool serviceId → ∃ between msg later, rest = between ++ .message msg :: later ∧
      Releases parseStr (provide parseStr ((before ++ .request i serviceId newV4 :: between).map dealtEvent) init)
      serviceId d
        msg) := by
  have hConsistent := h.consistent
  obtain ⟨c, hFound, hRequest⟩ :=
    hConsistent.asked i serviceId newV4 (hLog ▸ List.mem_append_right _ List.mem_cons_self)
  have hReply : ((deviceIdProvider parseStr).answer serviceId newV4 ((deviceIdProvider parseStr).after init before)).1 =
      .assignedDeviceId identity d := by
    rw [(answer_eq parseStr serviceId newV4 _).2, after_eq]
    exact hAssigned
  have hAnswer : (i, .assignedDeviceId identity d) ∈ (deviceIdProvider parseStr).answers init s.log :=
    Server.mem_answers.mpr ⟨before, serviceId, newV4, rest, hLog, hReply.symm⟩
  refine ⟨⟨c, hFound, hRequest, ?_⟩, ?_⟩
  · have hPlaced := hConsistent.placed i c hFound
    rw [requested_ok]
    unfold Exchange.Placed at hPlaced
    cases hState : c.state with
    | sending =>
      rw [hState] at hPlaced
      exact absurd (Channel.mem_history_of_received (hConsistent.mem_received hAnswer)) hPlaced.1
    | waiting =>
      rw [hState] at hPlaced
      rcases hPlaced with ⟨hPending, -⟩ | ⟨reply, hReplying, -⟩ | ⟨reply, hGiven, hReplies, -⟩
      · exact absurd hPending (hConsistent.not_pending hAnswer)
      · obtain rfl := hConsistent.answer_unique (hConsistent.replying _ hReplying) hAnswer
        simp [hReplying]
      · obtain rfl := hConsistent.answer_unique hGiven hAnswer
        simp [hReplies]
    | returned reply =>
      rw [hState] at hPlaced
      obtain rfl := hConsistent.answer_unique hPlaced.1 hAnswer
      simp
    | gaveUp => simp
  · intro hPooled
    have hGone := not_mem_pool_of_popped hAssigned
    rw [hConsistent.server, hLog, Server.after, List.foldl_append, List.foldl_cons] at hPooled
    rw [← after_eq, ← (answer_eq parseStr serviceId newV4 _).1] at hGone
    obtain ⟨between, msg, later, rfl, hReleases⟩ := released_of_pool hGone hPooled
    refine ⟨between, msg, later, rfl, ?_⟩
    rw [← after_eq, Server.after, List.foldl_append, List.foldl_cons]
    exact hReleases

theorem assigned_id_lost_sample : ∃ c, (sampleRequested 18).calls[2]? = some c ∧ c.request = "ns_a" ∧
    (c.state = .gaveUp ↔ ¬(requested c =
      some (.ok (sampleService (some ["f464d45a-869e-45e2-a4c0-b604fc2feafc"]), sampleDrawn)) ∨
      c.state = .waiting ∧
        ((sampleRequested 18).replying = some (2, .assignedDeviceId
            (sampleService (some ["f464d45a-869e-45e2-a4c0-b604fc2feafc"])) sampleDrawn) ∨
          c.replies = [.assignedDeviceId (sampleService (some ["f464d45a-869e-45e2-a4c0-b604fc2feafc"]))
            sampleDrawn]))) := by
  let found :=
    WatcherMessage.foundServiceIdentity (sampleService (some ["f464d45a-869e-45e2-a4c0-b604fc2feafc"])) false none
  let before : List (Dealt String Uuid WatcherMessage) := [.message found, .request 0 "ns_a" sampleDrawn,
    .message (.deletedServiceIdentity (sampleService none)), .message found, .request 1 "ns_a" sampleDrawn]
  have hLog : (sampleRequested 18).log = before ++ .request 2 "ns_a" sampleDrawn :: [] := by decide +kernel
  exact (assigned_id_lost_iff (reachable_sampleRequested 18 (by decide +kernel)) hLog (by decide +kernel)).1

/-- The provider never waits for a requester: it can send the reply that it has, and when it has dealt with the requests
in its channel, at most fifty, each requester that waits has its reply and each one that has not sent its request
can. -/
theorem requests_answered (h : Reachable parseStr init s) :
    (s.replying.isSome = true → (next parseStr s .reply).isSome = true) ∧
      s.queue.pending.length ≤ deviceIdChannelSize ∧
      ∀ draws : List Uuid, s.replying = none → draws.length = s.queue.pending.length →
        ∃ t, run (next parseStr) s (draws.flatMap fun newV4 => [.take newV4, .reply]) = some t ∧
          ∀ (caller : Nat) (c : DeviceIdCall), s.calls[caller]? = some c →
            (c.state = .waiting → (next parseStr t (.receive caller)).isSome = true) ∧
            (c.state = .sending → (next parseStr t (.send caller)).isSome = true) := by
  have hConsistent := h.consistent
  refine ⟨hConsistent.isSome_reply deviceIdChannelSize, Exchange.length_pending_le h, fun draws hIdle hDraws => ?_⟩
  obtain ⟨t, hRun, hEnd, hIdleEnd, hEmpty, hCalls⟩ := hConsistent.drains deviceIdChannelSize hIdle hDraws
  refine ⟨t, hRun, fun caller c hFound => ?_⟩
  obtain ⟨c', hFound', hState'⟩ := hCalls caller c hFound
  constructor
  · intro hState
    have hPlaced := hEnd.placed caller c' hFound'
    rw [Exchange.Placed, hState', hState, hEmpty, hIdleEnd] at hPlaced
    obtain ⟨hNone, -⟩ | ⟨reply, hNone, -⟩ | ⟨reply, -, hReplies, -⟩ := hPlaced
    · cases hNone
    · cases hNone
    · simp [next, Exchange.next, Exchange.advance, hFound', Call.receive, hState', hState, hReplies]
  · intro hState
    simp [next, Exchange.next, Exchange.advance, hFound', Call.sent, hState', hState, hEmpty, deviceIdChannelSize]

theorem requests_answered_sample : ∃ t, run (next parseCanonical) (sampleRequested 10)
    [.take sampleDrawn, .reply] = some t ∧
    (next parseCanonical t (.receive 1)).isSome = true := by
  obtain ⟨t, hRun, hCalls⟩ :=
    (requests_answered (reachable_sampleRequested 10 (by decide +kernel))).2.2 [sampleDrawn]
    (by decide +kernel) (by decide +kernel)
  exact ⟨t, hRun, (hCalls 1 ⟨"ns_a", .waiting, []⟩ (by decide +kernel)).1 rfl⟩

end DeviceIdExchange

end SdpK8sInjector.Injector
