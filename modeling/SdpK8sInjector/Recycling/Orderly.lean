import SdpK8sInjector.Recycling.Fleet

/-! # Device ids are handed out once

As long as the injector learns of no device id that is in use, it hands every one
of them out to one pod at a time.
-/

namespace SdpK8sInjector.Recycling.Fleet

open Lib Common IdentityService Injector

variable {outcomes : Nat → CallOutcome} {env : Surroundings} {newV4 : Nat → Uuid}
  {bound : Nat} {services : String → Bool}
  {s t : Fleet} {event : Event}

/-- No id is in use twice, and those that are still to be drawn are new. -/
structure Orderly (newV4 : Nat → Uuid) (bound : Nat) (services : String → Bool) (s : Fleet) : Prop where
  exclusive : (s.leases services).Exclusive
  fresh : ∀ n, s.drawn ≤ n → n < bound → (s.leases services).Unused (newV4 n)

/-- The ids that the injector learns from the identity are nowhere in use and were drawn before. -/
def Learns (env : Surroundings) (newV4 : Nat → Uuid) (bound : Nat) (services : String → Bool) (s : Fleet)
    (identity : ServiceIdentity) : Prop :=
  services (Service.serviceId identity) = true →
    ∀ x ∈ deviceIdList identity.credentials, x ∉ s.store.remembered (Service.serviceId identity) →
      ∀ d, env.parseUuid x = some d → (s.leases services).Unused d ∧ ∀ n, s.drawn ≤ n →
        n < bound → newV4 n ≠ d

theorem free_eq {key : String} (hKey : services key = true) : (s.leases services).free key = s.store.pool key := by
  simp [leases, hKey]

theorem orderly_started (service : Processes) : Orderly newV4 bound services (started service) := by
  have hNone : (started service).leases services = ⟨fun _ => [], []⟩ := by
    simp [leases, started, held]
  constructor
  · rw [hNone]
    constructor <;> simp
  · simp [hNone, Leases.Unused]

namespace Orderly

theorem shrink (h : Orderly newV4 bound services s) (hDrawn : t.drawn = s.drawn)
    (hFree : ∀ k, ((t.leases services).free k).Sublist ((s.leases services).free k))
    (hHeld : (t.held services).Sublist (s.held services)) : Orderly newV4 bound services t where
  exclusive := h.exclusive.shrink hFree hHeld
  fresh n hn hBound := (h.fresh n (hDrawn ▸ hn) hBound).of_shrink hFree hHeld

/-- A pod of another service, or one that gets a new id, or one that gets an id of the pool. -/
theorem podCreated (h : Orderly newV4 bound services s)
    (hDistinct : ∀ i < bound, ∀ j < bound, newV4 i = newV4 j → i = j)
    (hBound : t.drawn ≤ bound) {p : LivePod}
    {store : InMemoryIdentityStore} {identity : ServiceIdentity} (hEvicted : p.evicted = false)
    (hPop : s.store.popDeviceId (newV4 s.drawn) p.pod.serviceId = (.ok (identity, p.pod.deviceId), store))
    (hStore : t.store = store) (hDrawn : t.drawn = s.drawn + 1) (hPods : t.pods = p :: s.pods) :
    Orderly newV4 bound services t := by
  obtain ⟨-, hOther, hTaken⟩ := InMemoryIdentityStore.popDeviceId_ok (congrArg Prod.fst hPop)
  rw [hPop] at hOther hTaken
  have hLater : ∀ n, t.drawn ≤ n → n < bound → s.drawn ≤ n ∧ newV4 n ≠ newV4 s.drawn := by
    intro n hn hLt
    refine ⟨by omega, fun hSame => ?_⟩
    have hEq := hDistinct n hLt s.drawn (by omega) hSame
    omega
  cases hService : services p.pod.serviceId with
  | false =>
    have hSame : t.leases services = s.leases services := by
      simp only [leases, held, hPods, List.filter_cons, hService, Bool.false_and, Bool.false_eq_true, if_false,
        Leases.mk.injEq, and_true]
      funext key
      split
      · rw [hStore]
        refine hOther key ?_
        rintro rfl
        simp_all
      · rfl
    exact ⟨hSame ▸ h.exclusive, fun n hn hLt => hSame ▸ h.fresh n (hLater n hn hLt).1 hLt⟩
  | true =>
    have hHeld : t.held services = p.pod.deviceId :: s.held services := by
      simp [held, hPods, hService, hEvicted]
    have hFree : ∀ key, (t.leases services).free key =
        if key = p.pod.serviceId then store.pool key else (s.leases services).free key := by
      intro key
      simp only [leases, hStore]
      by_cases hKey : key = p.pod.serviceId
      · simp [hKey, hService]
      · simp [hKey, hOther key hKey]
    have hLeases : t.leases services = { (s.leases services).withFree p.pod.serviceId (store.pool p.pod.serviceId) with
        held := p.pod.deviceId :: (s.leases services).held } := by
      have hFun : (t.leases services).free =
          Function.update (s.leases services).free p.pod.serviceId (store.pool p.pod.serviceId) := by
        funext key
        rw [hFree]
        by_cases hKey : key = p.pod.serviceId
        · subst hKey
          simp
        · simp [hKey]
      calc t.leases services = ⟨(t.leases services).free, t.held services⟩ := rfl
        _ = _ := by rw [hFun, hHeld]; rfl
    have hBefore := free_eq (s := s) hService
    rcases hTaken with ⟨hNew, hEmpty, hStill⟩ | hPool
    · have hUnused := h.fresh s.drawn le_rfl (by omega)
      rw [← hNew] at hUnused
      have hSame : (s.leases services).withFree p.pod.serviceId (store.pool p.pod.serviceId) = s.leases services := by
        rw [Leases.withFree, hStill, ← hEmpty, ← hBefore, Function.update_eq_self]
      rw [hSame] at hLeases
      refine ⟨hLeases ▸ h.exclusive.fresh hUnused, fun n hn hLt => ?_⟩
      obtain ⟨hLe, hNe⟩ := hLater n hn hLt
      obtain ⟨hNotHeld, hNotFree⟩ := h.fresh n hLe hLt
      rw [hLeases]
      refine ⟨fun hMem => ?_, hNotFree⟩
      rcases List.mem_cons.mp hMem with hEq | hMem
      · exact hNe (hEq.trans hNew)
      · exact hNotHeld hMem
    · refine ⟨hLeases ▸ h.exclusive.take (hBefore.trans hPool), fun n hn hLt => ?_⟩
      obtain ⟨hNotHeld, hNotFree⟩ := h.fresh n (hLater n hn hLt).1 hLt
      have hGone : p.pod.deviceId ∈ (s.leases services).free p.pod.serviceId := by
        rw [hBefore, hPool]
        exact List.mem_cons_self
      rw [hLeases]
      refine ⟨fun hMem => ?_, fun key hMem => ?_⟩
      · rcases List.mem_cons.mp hMem with hEq | hMem
        · exact hNotFree _ (hEq ▸ hGone)
        · exact hNotHeld hMem
      · rcases Leases.mem_withFree.mp hMem with ⟨-, hRest⟩ | ⟨-, hFree⟩
        · refine hNotFree p.pod.serviceId ?_
          rw [hBefore, hPool]
          exact List.mem_cons_of_mem _ hRest
        · exact hNotFree key hFree

theorem found (h : Orderly newV4 bound services s) {identity : ServiceIdentity} {used : Option (List String)}
    (hLearns : s.Learns env newV4 bound services identity) :
    Orderly newV4 bound services { s with store := (s.store.registerOrUpdate env.parseUuid identity used).2 } := by
  let key : String := Service.serviceId identity
  let t : Fleet := { s with store := (s.store.registerOrUpdate env.parseUuid identity used).2 }
  have hOther : ∀ k, k ≠ key → t.store.pool k = s.store.pool k := fun k hk => by
    rw [InMemoryIdentityStore.pool_registerOrUpdate, if_neg hk]
  cases hService : services key with
  | false =>
    have hSame : t.leases services = s.leases services := by
      simp only [leases, Leases.mk.injEq]
      refine ⟨?_, rfl⟩
      funext k
      split
      · refine hOther k ?_
        rintro rfl
        simp_all
      · rfl
    exact ⟨hSame ▸ h.exclusive, fun n hn hLt => hSame ▸ h.fresh n hn hLt⟩
  | true =>
    have hLeases : t.leases services = (s.leases services).withFree key (t.store.pool key) := by
      simp only [leases, Leases.withFree, Leases.mk.injEq]
      refine ⟨?_, rfl⟩
      funext k
      by_cases hk : k = key
      · subst hk
        simp [hService]
      · simp [hk, hOther k hk]
    have hFrom : ∀ d ∈ t.store.pool key, d ∈ (s.leases services).free key ∨
        (s.leases services).Unused d ∧ ∀ n, s.drawn ≤ n → n < bound → newV4 n ≠ d := by
      intro d hd
      rcases InMemoryIdentityStore.mem_pool_registerOrUpdate.mp hd with hd | ⟨-, x, hx, hNew, hParse⟩
      · exact .inl (free_eq hService ▸ hd)
      · exact .inr (hLearns hService x hx hNew d hParse)
    refine ⟨?_, fun n hn hLt => ?_⟩
    · exact hLeases ▸ h.exclusive.refill (InMemoryIdentityStore.nodup_pool _ _) fun d hd =>
        (hFrom d hd).imp_right And.left
    · change (t.leases services).Unused (newV4 n)
      rw [hLeases]
      obtain ⟨hNotHeld, hNotFree⟩ := h.fresh n hn hLt
      refine ⟨hNotHeld, fun k hMem => ?_⟩
      rcases Leases.mem_withFree.mp hMem with ⟨-, hPool⟩ | ⟨-, hOld⟩
      · rcases hFrom _ hPool with hFree | ⟨-, hDrawn⟩
        · exact hNotFree _ hFree
        · exact hDrawn n hn hLt rfl
      · exact hNotFree k hOld

/-- The only step that can break the order is one in which the injector learns of new ids. -/
theorem step (h : Orderly newV4 bound services s)
    (hDistinct : ∀ i < bound, ∀ j < bound, newV4 i = newV4 j → i = j)
    (hBound : t.drawn ≤ bound) (hNext : s.next outcomes env newV4 event = some t)
    (hLearns : ∀ identity used, event = .found identity used → s.Learns env newV4 bound services identity) :
    Orderly newV4 bound services t := by
  cases next_move hNext with
  | service | onBoarded => exact h.shrink rfl (fun _ => List.Sublist.refl _) (List.Sublist.refl _)
  | podCreated uid pod random ns hNs environment identity store hName hPop hNew =>
    rw [← hName] at hPop
    have hTaken : s.store.popDeviceId (newV4 s.drawn) (InjectedPod.inject environment ns pod hNs).serviceId =
        (.ok (identity, (InjectedPod.inject environment ns pod hNs).deviceId), store) := hPop
    exact h.podCreated hDistinct hBound (p := ⟨uid, .inject environment ns pod hNs, false⟩) rfl hTaken rfl rfl rfl
  | podApplied uid status random p hPod hUid =>
    refine h.shrink (drawn_report uid _) (fun k => ?_) ?_
    · rw [leases_report]
      exact List.Sublist.refl _
    · rw [held_report]
      exact held_applied uid status
  | podDeleted uid random p hPod hUid =>
    refine h.shrink (drawn_report uid _) (fun k => ?_) ?_
    · rw [leases_report]
      exact List.Sublist.refl _
    · rw [held_report]
      exact held_removed uid
  | found identity used hVersion => exact h.found (hLearns identity used rfl)
  | gone identity hVersion =>
    refine h.shrink rfl (fun k => ?_) (List.Sublist.refl _)
    simp only [leases, InMemoryIdentityStore.pool_unregisterService]
    split
    · split
      · exact List.nil_sublist _
      · exact List.Sublist.refl _
    · exact List.Sublist.refl _
  | restart =>
    refine h.shrink rfl (fun k => ?_) (List.Sublist.refl _)
    simp [leases]

/-- The id of a pod that does not hold it any more is nowhere. -/
theorem unused_of_dropped (h : Orderly newV4 bound services s) {p : LivePod} (hPod : p ∈ s.pods)
    (hService : services p.pod.serviceId = true) (hHolds : p.evicted = false)
    (hPools : ∀ k, (t.leases services).free k = (s.leases services).free k)
    (hKept : ∀ q' ∈ t.pods, q'.evicted = false → ∃ q ∈ s.pods, q ≠ p ∧ q.evicted = false ∧
      q'.pod.serviceId = q.pod.serviceId ∧ q'.pod.deviceId = q.pod.deviceId) :
    (t.leases services).Unused p.pod.deviceId ∧ ∀ n, s.drawn ≤ n → n < bound →
      newV4 n ≠ p.pod.deviceId := by
  have hMem : ∀ q : LivePod, q ∈ s.pods → services q.pod.serviceId = true → q.evicted = false →
      q ∈ s.pods.filter fun p => services p.pod.serviceId && !p.evicted := by
    intro q hq hWanted hEvicted
    simp [List.mem_filter, hq, hWanted, hEvicted]
  have hHeld : p.pod.deviceId ∈ s.held services := List.mem_map_of_mem (hMem p hPod hService hHolds)
  refine ⟨⟨fun hStill => ?_, fun k hFree => ?_⟩, fun n hn hLt hSame => ?_⟩
  · obtain ⟨q', hq', hWanted, hEvicted, hDevice⟩ := mem_held.mp hStill
    obtain ⟨q, hq, hNe, hBefore, hSame, hId⟩ := hKept q' hq' hEvicted
    exact hNe (List.inj_on_of_nodup_map h.exclusive.held (hMem q hq (hSame ▸ hWanted) hBefore)
      (hMem p hPod hService hHolds) (hId.symm.trans hDevice))
  · exact h.exclusive.apart k p.pod.deviceId (hPools k ▸ hFree) hHeld
  · exact (h.fresh n hn hLt).1 (hSame ▸ hHeld)

end Orderly

end SdpK8sInjector.Recycling.Fleet
