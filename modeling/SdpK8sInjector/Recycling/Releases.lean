import SdpK8sInjector.IdentityService.DeviceRemovals
import SdpK8sInjector.Recycling.Exclusivity

/-! # Releases on their way to the creator

The device id of a pod that is gone is unregistered by the creator, some time after the
manager has made it known as free. The creator also unregisters the devices of users that
it deletes, whoever has them.
-/

namespace SdpK8sInjector.IdentityService.IdentityManager

open Lib Common

variable {outcomes : Nat → CallOutcome} {order : IterationOrder} {m m' m'' : IdentityManager}

/-- No other release is under way to the creator than before. -/
def SameReleases (m m' : IdentityManager) : Prop :=
  ∀ user d, .releaseDeviceId user d ∈ m'.identityCreatorQueue.pending →
    .releaseDeviceId user d ∈ m.identityCreatorQueue.pending

namespace SameReleases

theorem of_queue (h : m'.identityCreatorQueue = m.identityCreatorQueue) : SameReleases m m' :=
  fun _ _ hx => h ▸ hx

theorem of_sendAll {sent : List IdentityCreatorProtocol}
    (h : m'.identityCreatorQueue = m.identityCreatorQueue.sendAll sent)
    (hSent : ∀ user d, .releaseDeviceId user d ∉ sent) : SameReleases m m' := by
  intro user d hx
  rw [h, Channel.pending_sendAll] at hx
  exact (List.mem_append.mp hx).resolve_right (hSent user d)

theorem trans (h : SameReleases m m') (h' : SameReleases m' m'') : SameReleases m m'' :=
  fun user d hx => h user d (h' user d hx)

theorem foldl {α : Type} {step : IdentityManager → α → IdentityManager}
    (hStep : ∀ m x, SameReleases m (step m x))
    (xs : List α) (m : IdentityManager) : SameReleases m (xs.foldl step m) := by
  induction xs generalizing m with
  | nil => exact of_queue rfl
  | cons x rest ih => exact (hStep m x).trans (ih _)

end SameReleases

theorem requestServiceIdentity_sameReleases (c : ServiceCandidate) (m : IdentityManager) :
    SameReleases m (m.requestServiceIdentity outcomes c) := by
  have h := requestServiceIdentity_outcome outcomes c m
  generalize m.requestServiceIdentity outcomes c = m' at h ⊢
  cases h with
  | noNamespace | registered | emptyPool | createFailed => exact .of_queue rfl
  | created =>
    refine .of_sendAll rfl fun user d hx => ?_
    rcases List.mem_append.mp hx with hx | hx
    · split at hx
      · cases List.mem_singleton.mp hx
      · cases hx
    · cases List.mem_singleton.mp hx

theorem identityManagerReady_sameReleases (m : IdentityManager) :
    SameReleases m (m.identityManagerReady outcomes order) := by
  obtain ⟨_, _, _, h⟩ := reconcile_spec outcomes order m
  have hReconcile : SameReleases m (m.reconcile outcomes order) := by
    refine .of_sendAll h.queue fun user d hx => ?_
    simp [deletionOf] at hx
  have hMissing : SameReleases (m.reconcile outcomes order)
      ((m.reconcile outcomes order).requestMissing outcomes order) :=
    .foldl (fun m c => requestServiceIdentity_sameReleases c m) _ _
  exact hReconcile.trans hMissing

/-- The manager asks for a release only while it handles one. -/
theorem releases_handle (msg : IdentityManagerProtocol) (m : IdentityManager) {user : ServiceUser} {d : Uuid}
    (hx : .releaseDeviceId user d ∈ (handle outcomes order msg m).identityCreatorQueue.pending) :
    .releaseDeviceId user d ∈ m.identityCreatorQueue.pending ∨ ∃ lookup, msg = .releaseDeviceId lookup d := by
  suffices hSame : (∀ lookup uuid, msg ≠ .releaseDeviceId lookup uuid) →
      SameReleases m (handle outcomes order msg m) by
    cases msg with
    | releaseDeviceId lookup uuid =>
      rcases releaseDeviceId_cases outcomes lookup uuid m with ⟨-, h⟩ | ⟨_, sent, -, hSent, h⟩
      · rw [handle, h] at hx
        exact .inl hx
      · rw [handle, h, Channel.pending_sendAll] at hx
        rcases List.mem_append.mp hx with hx | hx
        · exact .inl hx
        · rcases hSent with rfl | rfl
          · cases hx
          · cases List.mem_singleton.mp hx
            exact .inr ⟨lookup, rfl⟩
    | _ => exact .inl (hSame (fun _ _ h => by cases h) user d hx)
  intro hOther
  cases msg with
  | requestServiceIdentity candidate => exact requestServiceIdentity_sameReleases candidate m
  | identityManagerReady => exact identityManagerReady_sameReleases m
  | deleteServiceIdentity identity =>
    rcases deleteServiceIdentity_cases outcomes identity m with ⟨_, _, -, h⟩ | ⟨_, -, h⟩ <;> rw [handle, h]
    · exact .of_queue rfl
    · refine .of_sendAll (Channel.send_eq_sendAll _ _) fun user d hx => ?_
      cases List.mem_singleton.mp hx
  | foundServiceCandidate candidate =>
    rcases foundServiceCandidate_cases candidate m with ⟨-, h⟩ | ⟨_, _, -, -, h⟩ | ⟨_, -, -, h⟩ <;>
      rw [handle, h] <;>
      exact .of_queue rfl
  | foundServiceUser user activated => cases activated <;> exact .of_queue rfl
  | deletedServiceCandidate candidate =>
    rcases deletedServiceCandidate_cases candidate m with ⟨_, _, _, _, h⟩ | ⟨_, h⟩ <;> rw [handle, h] <;>
      exact .of_queue rfl
  | identityCreatorReady =>
    obtain ⟨_, _, h⟩ := identityCreatorReadyHandler_cases m
    rw [handle, h]
    exact .of_queue rfl
  | deploymentWatcherReady =>
    obtain ⟨_, _, h⟩ := deploymentWatcherReady_cases m
    rw [handle, h]
    exact .of_queue rfl
  | activatedServiceUser user serviceNs serviceName =>
    rcases activatedServiceUser_cases outcomes user serviceNs serviceName m with ⟨_, h⟩ | ⟨_, _, h⟩ <;>
      rw [handle, h] <;>
      exact .of_queue rfl
  | releaseDeviceId lookup uuid => exact absurd rfl (hOther lookup uuid)
  | identityManagerInitialized | identityManagerStarted | identityManagerDebug => exact .of_queue rfl

end SdpK8sInjector.IdentityService.IdentityManager

namespace SdpK8sInjector.Recycling.Fleet

open Lib Common IdentityService Injector

variable {outcomes : Nat → CallOutcome} {env : Surroundings} {newV4 : Nat → Uuid}
  {s t : Fleet} {event : Event} {d : Uuid}

/-- The ids of all pods that have not been reported as evicted. -/
abbrev liveIds (s : Fleet) : List Uuid := s.held fun _ => true

def releasedId : IdentityManagerProtocol → Option Uuid
  | .releaseDeviceId _ d => some d
  | _ => none

def unregisteredId : IdentityCreatorProtocol → Option Uuid
  | .releaseDeviceId _ d => some d
  | _ => none

/-- The release of the id is still to be handled, by the manager or by the creator. -/
def InFlight (s : Fleet) (d : Uuid) : Prop :=
  (∃ lookup, .releaseDeviceId lookup d ∈ s.service.manager.identityManagerQueue.pending) ∨
    ∃ user, .releaseDeviceId user d ∈ s.service.manager.identityCreatorQueue.pending

instance (s : Fleet) (d : Uuid) : Decidable (s.InFlight d) :=
  decidable_of_iff
    ((∃ x ∈ s.service.manager.identityManagerQueue.pending, releasedId x = some d) ∨
      ∃ x ∈ s.service.manager.identityCreatorQueue.pending, unregisteredId x = some d)
    (or_congr
      ⟨fun ⟨x, hx, hId⟩ => by cases x <;> cases hId; exact ⟨_, hx⟩, fun ⟨_, hx⟩ => ⟨_, hx, rfl⟩⟩
      ⟨fun ⟨x, hx, hId⟩ => by cases x <;> cases hId; exact ⟨_, hx⟩, fun ⟨_, hx⟩ => ⟨_, hx, rfl⟩⟩)

/-- The id that the next pod of the service gets. -/
def nextId (newV4 : Nat → Uuid) (s : Fleet) (serviceId : String) : Uuid :=
  (s.store.pool serviceId).headD (newV4 s.drawn)

/-- The device is registered under the id of a pod that has not been reported as evicted. -/
def InUse (s : Fleet) (device : OnBoardedUser) : Prop := ∃ d ∈ s.liveIds, device.HasDeviceId d

instance (s : Fleet) : DecidablePred s.InUse := fun device =>
  inferInstanceAs (Decidable (∃ d ∈ s.liveIds, device.HasDeviceId d))

/-- The message asks for the device of one id, and not for those of a user. -/
def isDeviceRelease : IdentityCreatorProtocol → Bool
  | .releaseDeviceId _ _ => true
  | _ => false

/-- With the users that the creator deletes for the message, or finds gone, no device goes that is in use. -/
def SparesUsed (env : Surroundings) (s : Fleet) (msg : IdentityCreatorProtocol) : Prop :=
  isDeviceRelease msg = false →
    ∀ device ∈ s.devices, s.service.creator.Selects env msg device → ¬s.InUse device

instance (s : Fleet) : DecidablePred (s.SparesUsed env) := fun msg =>
  inferInstanceAs (Decidable (isDeviceRelease msg = false →
    ∀ device ∈ s.devices, s.service.creator.Selects env msg device → ¬s.InUse device))

/-- A pod that gets an id that is in no use and whose release is done with, the first report that a pod is gone, and a
user that goes without a device in use. -/
def ReleasesOnce (env : Surroundings) (newV4 : Nat → Uuid) (s : Fleet) : Event → Prop
  | .podCreated _ pod random => ∀ ns ∈ pod.ns,
      ¬s.InFlight (s.nextId newV4 (formatServiceId ns (pod.namedName random))) ∧
        s.nextId newV4 (formatServiceId ns (pod.namedName random)) ∉ s.liveIds
  | .podApplied uid status random => ∀ p ∈ s.pods, p.uid = uid →
      (PodWatcher.reapplied env.parseUuid random (p.pod.withStatus status).object).isSome = true → p.evicted = false
  | .podDeleted uid random => ∀ p ∈ s.pods, p.uid = uid →
      (PodWatcher.deleted env.parseUuid random p.pod.object).isSome = true → p.evicted = false
  | .service (.receive _) => ∀ msg ∈ s.service.manager.identityCreatorQueue.pending.head?, s.SparesUsed env msg
  | _ => True

structure Assigned (s : Fleet) : Prop where
  distinct : s.liveIds.Nodup
  settled : ∀ d, s.InFlight d → d ∉ s.liveIds
  uids : (s.pods.map LivePod.uid).Nodup
  admitted : ∀ p ∈ s.pods, p.uid ∈ s.admitted
  releases : s.releases.Nodup
  released : ∀ uid ∈ s.releases, uid ∈ s.admitted ∧ ∀ p ∈ s.pods, p.uid = uid → p.evicted = true
  outbox : ∀ x ∈ s.service.creator.outbox, Processes.isFromCreator x = true

theorem nextId_of_popDeviceId {serviceId : String} {identity : ServiceIdentity}
    (h : (s.store.popDeviceId (newV4 s.drawn) serviceId).1 = .ok (identity, d)) : s.nextId newV4 serviceId = d := by
  obtain ⟨-, -, hTaken⟩ := InMemoryIdentityStore.popDeviceId_ok h
  unfold nextId
  rcases hTaken with ⟨hFresh, hEmpty, -⟩ | hPool
  · rw [hEmpty, List.headD_nil, hFresh]
  · rw [hPool, List.headD_cons]

theorem mem_liveIds : d ∈ s.liveIds ↔ ∃ p ∈ s.pods, p.evicted = false ∧ p.pod.deviceId = d := by
  simp [mem_held]

/-- The identity service takes up no release that was not on its way before. -/
theorem inFlight_of_service {event : Processes.Event} {service : Processes}
    (hNext : Processes.next outcomes env s.service event = some service) (hEvent : bringsRelease event = false)
    (hOutbox : ∀ x ∈ s.service.creator.outbox, Processes.isFromCreator x = true)
    (h : (s.withService service).InFlight d) : s.InFlight d := by
  cases Processes.next_move outcomes env hNext with
  | arrive msg hMsg =>
    refine h.imp_left fun ⟨lookup, hx⟩ => ⟨lookup, ?_⟩
    rcases List.mem_append.mp hx with hx | hx
    · exact hx
    · cases List.mem_singleton.mp hx
      cases hEvent
  | deliver msg rest hOut =>
    refine h.imp_left fun ⟨lookup, hx⟩ => ⟨lookup, ?_⟩
    rcases List.mem_append.mp hx with hx | hx
    · exact hx
    · cases List.mem_singleton.mp hx
      cases hOutbox _ (hOut ▸ List.mem_cons_self)
  | receive order msg queue hOut hStatus hRecv =>
    obtain ⟨rest, hPending, hQueue⟩ := Channel.recv_eq_some.mp hRecv
    refine h.imp_right fun ⟨user, hx⟩ => ⟨user, ?_⟩
    change .releaseDeviceId user d ∈ queue.pending at hx
    rw [hQueue] at hx
    exact hPending ▸ List.mem_cons_of_mem _ hx
  | handle order msg queue hRecv =>
    obtain ⟨rest, hPending, hQueue⟩ := Channel.recv_eq_some.mp hRecv
    rcases h with ⟨lookup, hx⟩ | ⟨user, hx⟩
    · change .releaseDeviceId lookup d ∈
        (IdentityManager.handle outcomes order msg _).identityManagerQueue.pending at hx
      rw [IdentityManager.handle_queue, Channel.pending_sendAll] at hx
      rcases List.mem_append.mp hx with hx | hx
      · change .releaseDeviceId lookup d ∈ queue.pending at hx
        rw [hQueue] at hx
        exact .inl ⟨lookup, hPending ▸ List.mem_cons_of_mem _ hx⟩
      · cases IdentityManager.tellsItself_of_mem hx
    · rcases IdentityManager.releases_handle msg _ hx with hOld | ⟨lookup, rfl⟩
      · exact .inr ⟨user, hOld⟩
      · exact .inl ⟨lookup, hPending ▸ List.mem_cons_self⟩

/-- A report brings at most the release of its own pod. -/
theorem inFlight_report {uid : Nat} {msg : Option IdentityManagerProtocol} (h : (s.report uid msg).InFlight d) :
    s.InFlight d ∨ ∃ lookup, msg = some (.releaseDeviceId lookup d) := by
  rcases h with ⟨lookup, hx⟩ | ⟨user, hx⟩
  · rcases mem_pending_report hx with hOld | hMsg
    · exact .inl (.inl ⟨lookup, hOld⟩)
    · exact .inr ⟨lookup, hMsg⟩
  · refine .inl (.inr ⟨user, ?_⟩)
    cases msg with
    | none => exact hx
    | some msg =>
      cases hExited : s.service.exited <;> simpa [report, notify, hExited, IdentityManager.sendToSelf] using hx

namespace Assigned

theorem started {service : Processes} (hOutbox : ∀ x ∈ service.creator.outbox, Processes.isFromCreator x = true) :
    (started service).Assigned where
  distinct := List.nodup_nil
  settled _ _ := List.not_mem_nil
  uids := List.nodup_nil
  admitted := nofun
  releases := List.nodup_nil
  released := nofun
  outbox := hOutbox

/-- Of the pods that are there and not evicted, no two have the same id. -/
theorem eq_of_deviceId (h : s.Assigned) {p q : LivePod} (hp : p ∈ s.pods) (hq : q ∈ s.pods)
    (hLive : p.evicted = false)
    (hLive' : q.evicted = false) (hId : p.pod.deviceId = q.pod.deviceId) : p = q := by
  refine List.inj_on_of_nodup_map h.distinct ?_ ?_ hId
  · simp [hp, hLive]
  · simp [hq, hLive']

theorem service (h : s.Assigned) {event : Processes.Event} {service : Processes}
    (hNext : Processes.next outcomes env s.service event = some service) (hEvent : bringsRelease event = false) :
    (s.withService service).Assigned where
  distinct := h.distinct
  settled d hd := h.settled d (inFlight_of_service hNext hEvent h.outbox hd)
  uids := h.uids
  admitted := h.admitted
  releases := h.releases
  released := h.released
  outbox x hx := by
    cases Processes.next_move outcomes env hNext with
    | arrive | handle => exact h.outbox x hx
    | deliver msg rest hOut => exact h.outbox x (hOut ▸ List.mem_cons_of_mem _ hx)
    | receive order msg queue => exact Processes.receive_outbox env order msg _ h.outbox x hx

theorem podCreated (h : s.Assigned) {p : LivePod} {store : InMemoryIdentityStore} {drawn : Nat}
    (hEvicted : p.evicted = false) (hNew : p.uid ∉ s.admitted) (hFlight : ¬s.InFlight p.pod.deviceId)
    (hUnused : p.pod.deviceId ∉ s.liveIds) :
    Assigned { s with store := store, drawn := drawn, pods := p :: s.pods, admitted := p.uid :: s.admitted } := by
  have hIds : ∀ t : Fleet, t.pods = p :: s.pods → t.liveIds = p.pod.deviceId :: s.liveIds := by
    intro t ht
    simp [liveIds, held, ht, hEvicted]
  refine ⟨?_, fun d hd => ?_, ?_, ?_, h.releases, ?_, h.outbox⟩
  · rw [hIds _ rfl]
    exact List.nodup_cons.mpr ⟨hUnused, h.distinct⟩
  · rw [hIds _ rfl, List.mem_cons, not_or]
    refine ⟨?_, h.settled d hd⟩
    rintro rfl
    exact hFlight hd
  · refine List.nodup_cons.mpr ⟨fun hMem => ?_, h.uids⟩
    obtain ⟨q, hq, hUid⟩ := List.mem_map.mp hMem
    exact hNew (hUid ▸ h.admitted q hq)
  · intro q hq
    rcases List.mem_cons.mp hq with rfl | hq
    · exact List.mem_cons_self
    · exact List.mem_cons_of_mem _ (h.admitted q hq)
  · intro uid hUid
    obtain ⟨hAdmitted, hAll⟩ := h.released uid hUid
    refine ⟨List.mem_cons_of_mem _ hAdmitted, fun q hq hSame => ?_⟩
    rcases List.mem_cons.mp hq with rfl | hq
    · exact absurd (hSame ▸ hAdmitted) hNew
    · exact hAll q hq hSame

/-- The pods are the same or fewer, and if there is a release it is the first of its pod. -/
theorem reported (h : s.Assigned) {u : Fleet} {uid : Nat} {msg : Option IdentityManagerProtocol}
    (hService : u.service = s.service) (hReleases : u.releases = s.releases) (hAdmitted : u.admitted = s.admitted)
    (hIds : u.liveIds.Sublist s.liveIds) (hUids : (u.pods.map LivePod.uid).Sublist (s.pods.map LivePod.uid))
    (hPods : ∀ q ∈ u.pods, ∃ r ∈ s.pods, q.uid = r.uid ∧ (r.evicted = true → q.evicted = true))
    (hGone : ∀ lookup d, msg = some (.releaseDeviceId lookup d) → d ∉ u.liveIds)
    (hFirst : msg.isSome = true → uid ∈ s.admitted ∧ uid ∉ s.releases ∧ ∀ q ∈ u.pods, q.uid = uid →
      q.evicted = true) :
    (u.report uid msg).Assigned := by
  have hSame : (u.report uid msg).liveIds = u.liveIds := held_report uid msg
  have hStill : ∀ uid' ∈ s.releases, ∀ q ∈ u.pods, q.uid = uid' → q.evicted = true := by
    intro uid' hUid' q hq hSame
    obtain ⟨r, hr, hEq, hEvicted⟩ := hPods q hq
    exact hEvicted ((h.released uid' hUid').2 r hr (hEq.symm.trans hSame))
  refine ⟨?_, fun d hd => ?_, ?_, ?_, ?_, ?_, ?_⟩
  · rw [hSame]
    exact h.distinct.sublist hIds
  · rw [hSame]
    rcases inFlight_report hd with hOld | ⟨lookup, hMsg⟩
    · refine fun hMem => h.settled d ?_ (hIds.subset hMem)
      rwa [InFlight, ← hService]
    · exact hGone lookup d hMsg
  · rw [pods_report]
    exact h.uids.sublist hUids
  · intro q hq
    rw [pods_report] at hq
    obtain ⟨r, hr, hEq, -⟩ := hPods q hq
    cases msg <;> exact hAdmitted.symm ▸ hEq ▸ h.admitted r hr
  · cases msg with
    | none => exact hReleases.symm ▸ h.releases
    | some msg =>
      refine (List.nodup_append.mpr ⟨hReleases.symm ▸ h.releases, List.nodup_singleton uid, ?_⟩)
      intro a ha b hb
      rw [List.mem_singleton.mp hb]
      rintro rfl
      exact (hFirst rfl).2.1 (hReleases ▸ ha)
  · intro uid' hUid'
    rw [pods_report]
    cases msg with
    | none =>
      have hOld : uid' ∈ s.releases := hReleases ▸ hUid'
      exact ⟨hAdmitted.symm ▸ (h.released uid' hOld).1, hStill uid' hOld⟩
    | some msg =>
      rcases List.mem_append.mp hUid' with hOld | hNew
      · have hOld : uid' ∈ s.releases := hReleases ▸ hOld
        exact ⟨hAdmitted.symm ▸ (h.released uid' hOld).1, hStill uid' hOld⟩
      · rw [List.mem_singleton.mp hNew]
        exact ⟨hAdmitted.symm ▸ (hFirst rfl).1, (hFirst rfl).2.2⟩
  · rw [(report_frame uid msg).2.2.1, hService]
    exact h.outbox

theorem podApplied (h : s.Assigned) (hParse : ∀ d : Uuid, env.parseUuid d.toString = some d) {uid : Nat}
    {status : Option PodStatus} {random : Uuid} {p : LivePod} (hPod : p ∈ s.pods) (hUid : p.uid = uid)
    (hFirst : (PodWatcher.reapplied env.parseUuid random (p.pod.withStatus status).object).isSome = true →
      p.evicted = false) :
    ((s.applied uid status).report uid
      (PodWatcher.reapplied env.parseUuid random (p.pod.withStatus status).object)).Assigned := by
  have hUids : (s.applied uid status).pods.map LivePod.uid = s.pods.map LivePod.uid := by
    rw [applied, List.map_map]
    refine List.map_congr_left fun q _ => ?_
    rw [Function.comp_apply, LivePod.applied]
    split <;> rfl
  have hPods : ∀ q ∈ (s.applied uid status).pods, ∃ r ∈ s.pods, q.uid = r.uid ∧
      q.pod.deviceId = r.pod.deviceId ∧
      (r.evicted = true → q.evicted = true) ∧
      (r.uid = uid → InjectedPod.isEvicted status = true → q.evicted = true) := by
    intro q hq
    obtain ⟨r, hr, rfl⟩ := List.mem_map.mp hq
    refine ⟨r, hr, ?_⟩
    by_cases hSame : r.uid = uid
    · refine ⟨by simp [LivePod.applied, hSame], by simp [LivePod.applied, hSame]; rfl, fun hOld => ?_,
        fun _ hNow => ?_⟩
      · simp [LivePod.applied, hSame, hOld]
      · simp [LivePod.applied, hSame, hNow]
    · simp [LivePod.applied, hSame]
  -- a release is that of a pod which is evicted now, and was not before
  have hReleased : ∀ lookup d,
      PodWatcher.reapplied env.parseUuid random (p.pod.withStatus status).object = some (.releaseDeviceId lookup d) →
        InjectedPod.isEvicted status = true ∧ d = p.pod.deviceId := by
    intro lookup d hMsg
    rw [InjectedPod.reapplied_eq hParse] at hMsg
    split at hMsg
    · rename_i hReported
      cases hMsg
      exact ⟨hReported.1, rfl⟩
    · cases hMsg
  refine h.reported rfl rfl rfl (held_applied uid status) (hUids ▸ List.Sublist.refl _) (fun q hq => ?_)
    (fun lookup d hMsg hMem => ?_) fun hSome => ?_
  · obtain ⟨r, hr, hEq, -, hStill, -⟩ := hPods q hq
    exact ⟨r, hr, hEq, hStill⟩
  · obtain ⟨hEvicted, rfl⟩ := hReleased lookup d hMsg
    obtain ⟨q, hq, hLive, hId⟩ := mem_liveIds.mp hMem
    obtain ⟨r, hr, -, hSame, hStill, hNow⟩ := hPods q hq
    have hBefore : r.evicted = false := by
      by_contra hNot
      simp [hStill (Bool.not_eq_false _ ▸ hNot)] at hLive
    have hHeld := hFirst (by rw [hMsg]; rfl)
    cases h.eq_of_deviceId hr hPod hBefore hHeld (hSame.symm.trans hId)
    simp [hNow hUid hEvicted] at hLive
  · obtain ⟨msg, hMsg⟩ := Option.isSome_iff_exists.mp hSome
    have hEvicted : InjectedPod.isEvicted status = true := by
      rw [InjectedPod.reapplied_eq hParse] at hMsg
      split at hMsg
      · rename_i hReported
        exact hReported.1
      · cases hMsg
    refine ⟨hUid ▸ h.admitted p hPod, fun hOld => ?_, fun q hq hSame => ?_⟩
    · have hAlready := (h.released uid hOld).2 p hPod hUid
      rw [hFirst hSome] at hAlready
      cases hAlready
    · obtain ⟨r, -, hEq, -, -, hNow⟩ := hPods q hq
      exact hNow (hEq.symm.trans hSame) hEvicted

theorem podDeleted (h : s.Assigned) (hParse : ∀ d : Uuid, env.parseUuid d.toString = some d)
    {uid : Nat} {random : Uuid}
    {p : LivePod} (hPod : p ∈ s.pods) (hUid : p.uid = uid)
    (hFirst : (PodWatcher.deleted env.parseUuid random p.pod.object).isSome = true → p.evicted = false) :
    ((s.removed uid).report uid (PodWatcher.deleted env.parseUuid random p.pod.object)).Assigned := by
  have hGone : ∀ q ∈ (s.removed uid).pods, q ∈ s.pods ∧ q.uid ≠ uid := by
    intro q hq
    simpa [removed] using hq
  refine h.reported rfl rfl rfl (held_removed uid) (List.filter_sublist.map _)
    (fun q hq => ⟨q, (hGone q hq).1, rfl, id⟩) (fun lookup d hMsg hMem => ?_) fun hSome => ?_
  · have hHeld := hFirst (by rw [hMsg]; rfl)
    rw [InjectedPod.deleted_eq hParse] at hMsg
    split at hMsg
    · cases hMsg
      obtain ⟨q, hq, hLive, hId⟩ := mem_liveIds.mp hMem
      cases h.eq_of_deviceId (hGone q hq).1 hPod hLive hHeld hId
      exact (hGone _ hq).2 hUid
    · cases hMsg
  · refine ⟨hUid ▸ h.admitted p hPod, fun hOld => ?_, fun q hq hSame => absurd hSame (hGone q hq).2⟩
    have hAlready := (h.released uid hOld).2 p hPod hUid
    rw [hFirst hSome] at hAlready
    cases hAlready

theorem step (h : s.Assigned) (hParse : ∀ d : Uuid, env.parseUuid d.toString = some d)
    (hOnce : s.ReleasesOnce env newV4 event) (hNext : s.next outcomes env newV4 event = some t) : t.Assigned := by
  cases next_move hNext with
  | service event service hEvent hService => exact h.service hService hEvent
  | podCreated uid pod random ns hNs environment identity store hName hPop hNew =>
    have hId := nextId_of_popDeviceId (congrArg Prod.fst hPop)
    obtain ⟨hFlight, hUnused⟩ := hOnce ns hNs
    rw [hId] at hFlight hUnused
    exact h.podCreated rfl hNew hFlight hUnused
  | podApplied uid status random p hPod hUid => exact h.podApplied hParse hPod hUid (hOnce p hPod hUid)
  | podDeleted uid random p hPod hUid => exact h.podDeleted hParse hPod hUid (hOnce p hPod hUid)
  | found | gone | restart | onBoarded =>
    exact ⟨h.distinct, h.settled, h.uids, h.admitted, h.releases, h.released, h.outbox⟩

end Assigned

/-- The creator releases no id that a pod has, and so it unregisters no device in use. -/
theorem Assigned.registered (h : s.Assigned) {event : Processes.Event} {service : Processes}
    (hOnce : s.ReleasesOnce env newV4 (.service event))
    (hNext : Processes.next outcomes env s.service event = some service)
    {device : OnBoardedUser} (hDevice : device ∈ s.devices) (hUsed : s.InUse device) :
    device ∈ (s.withService service).devices := by
  cases Processes.next_move outcomes env hNext with
  | arrive | handle | deliver => exact hDevice
  | receive order msg queue hOutbox hStatus hRecv =>
    obtain ⟨rest, hPending, -⟩ := Channel.recv_eq_some.mp hRecv
    have hHead : s.service.manager.identityCreatorQueue.pending.head? = some msg := by rw [hPending]; rfl
    have hSpares := hOnce msg hHead
    refine ((s.service.creator.receive_unregisters order msg).spared device hDevice).resolve_right ?_
    rintro ⟨device', hDevice', hSelected, hSame⟩
    have hUsed' : s.InUse device' := by
      obtain ⟨d, hd, hId⟩ := hUsed
      exact ⟨d, hd, by rwa [OnBoardedUser.HasDeviceId, hSame]⟩
    cases msg with
    | releaseDeviceId user d =>
      obtain ⟨d', hd', hId⟩ := hUsed'
      cases OnBoardedUser.eq_of_hasDeviceId (IdentityCreator.Selects.of_releaseDeviceId hSelected) hId
      exact h.settled d (.inr ⟨user, List.mem_of_head? hHead⟩) hd'
    | _ => exact hSpares rfl device' hDevice' hSelected hUsed'

/-- If every pod is reported as gone only once and gets an id whose release is done with, and no user is deleted with a
device in use, then the creator takes no release of an id that a pod has, whatever it takes next leaves the devices in
use, and no pod's id is released twice. -/
theorem live_ids_registered {service : Processes} (hParse : ∀ d : Uuid, env.parseUuid d.toString = some d)
    (hOutbox : ∀ x ∈ service.creator.outbox, Processes.isFromCreator x = true)
    (hRun : Steps (next outcomes env newV4) (ReleasesOnce env newV4) (started service) s) :
    (∀ user d, s.service.manager.identityCreatorQueue.pending.head? = some (.releaseDeviceId user d) →
      ∀ p ∈ s.pods, p.evicted = false → p.pod.deviceId ≠ d) ∧
    (∀ event t, s.ReleasesOnce env newV4 (.service event) → s.next outcomes env newV4 (.service event) = some t →
      ∀ device ∈ s.devices, s.InUse device → device ∈ t.devices) ∧
    s.releases.Nodup := by
  have hAssigned : s.Assigned :=
    hRun.invariant Assigned (fun _ _ _ h hOnce hNext => h.step hParse hOnce hNext) (.started hOutbox)
  refine ⟨fun user d hHead p hp hLive hId => ?_, fun event t hOnce hNext device hDevice hUsed => ?_,
    hAssigned.releases⟩
  · have hFlight : s.InFlight d := .inr ⟨user, List.mem_of_head? hHead⟩
    exact hAssigned.settled d hFlight (mem_liveIds.mpr ⟨p, hp, hLive, hId⟩)
  · cases next_move hNext with
    | service event service hEvent hService => exact hAssigned.registered hOnce hService hDevice hUsed

instance (s : Fleet) (event : Event) : Decidable (s.ReleasesOnce env newV4 event) := by
  unfold ReleasesOnce
  split <;> infer_instance

def sampleDevice (n : Nat) : OnBoardedUser :=
  ⟨"CN=" ++ String.ofList ((sampleId n).toString.toList.filter (· != '-')) ++ ",CN=cluster_ns_a_abcde,OU=service",
    (sampleId n).toString, "cluster_ns_a_abcde", 0⟩

/-- Two pods are there when the first is deleted, and the creator has its release before it when it has started. -/
def sampleReleasing : Fleet :=
  runD sampleNext (started sampleService)
    [.found (sampleIdentity []) none, samplePod 1, samplePod 2, .onBoarded [sampleDevice 0, sampleDevice 1],
      .podDeleted 1 (sampleId 255), .service (.handle .asStored), .service (.receive .asStored), .service .deliver,
      .service .deliver]

theorem live_ids_registered_sample :
    sampleReleasing.service.manager.identityCreatorQueue.pending.head?.bind unregisteredId = some (sampleId 0) ∧
      sampleReleasing.releases = [1] ∧ sampleReleasing.releases.Nodup ∧
      sampleDevice 1 ∈ (runD sampleNext sampleReleasing [.service (.receive .asStored)]).devices := by
  have hRun : Steps sampleNext (ReleasesOnce sampleSurroundings sampleId) (started sampleService) sampleReleasing :=
    .of_runD _ (by decide +kernel) (by decide +kernel)
  have hOutbox : ∀ x ∈ sampleService.creator.outbox, Processes.isFromCreator x = true := fun x hx => by cases hx
  have hState : sampleReleasing.service.manager.identityCreatorQueue.pending.head?.bind unregisteredId =
        some (sampleId 0) ∧ sampleReleasing.releases = [1] ∧ sampleDevice 1 ∈ sampleReleasing.devices ∧
      sampleReleasing.InUse (sampleDevice 1) ∧
      sampleReleasing.ReleasesOnce sampleSurroundings sampleId (.service (.receive .asStored)) ∧
      (sampleNext sampleReleasing (.service (.receive .asStored))).isSome = true := by
    decide +kernel
  obtain ⟨hHead, hReleases, hDevice, hUsed, hOnce, hNext⟩ := hState
  obtain ⟨-, hRegistered, hNodup⟩ := live_ids_registered parseCanonical_toString hOutbox hRun
  exact ⟨hHead, hReleases, hNodup, hRegistered _ _ hOnce (next_eq_runD hNext) _ hDevice hUsed⟩

/-- The first pod is evicted, its id comes back and goes to the second pod, and then the first pod is deleted. -/
def sampleEvicted : List Event :=
  [.found (sampleIdentity []) none, samplePod 1, .podApplied 1 (some ⟨some "Evicted"⟩) (sampleId 255),
    .service (.handle .asStored), .service (.receive .asStored), .service .deliver, .service .deliver,
    .service (.receive .asStored), .found (sampleIdentity [sampleId 0]) none, samplePod 2, .onBoarded [sampleDevice 0],
    .podDeleted 1 (sampleId 255), .service (.handle .asStored), .service (.handle .asStored),
    .service (.handle .asStored)]

theorem evicted_then_deleted_unregisters_live_id :
    Steps sampleNext (fun _ _ => True) (started sampleService)
    (runD sampleNext (started sampleService) sampleEvicted) ∧
      let s := runD sampleNext (started sampleService) sampleEvicted
      let t := runD sampleNext s [.service (.receive .asStored)]
      (sampleNext s (.service (.receive .asStored))).isSome = true ∧
        s.service.manager.identityCreatorQueue.pending.head?.bind unregisteredId = some (sampleId 0) ∧
        s.pods.map (fun p => (p.uid, p.pod.deviceId, p.evicted)) = [(2, sampleId 0, false)] ∧
        s.devices = [sampleDevice 0] ∧ s.InUse (sampleDevice 0) ∧ t.devices = [] ∧ s.releases = [1, 1] :=
  ⟨.of_runD _ (.of_forall (fun _ _ _ => trivial) _) (by decide +kernel), by decide +kernel⟩

end SdpK8sInjector.Recycling.Fleet
