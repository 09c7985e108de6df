import SdpK8sInjector.IdentityService.ManagerSpec

/-! # What one reconciliation deletes

The three passes of `identity_manager_ready`, with any pattern of failing API
calls. Which identities are deleted depends on the calls; that the messages sent
are those of the deleted identities does not.
-/

namespace SdpK8sInjector.IdentityService.IdentityManager

open Lib Common ServiceCredentialsProvider

variable (outcomes : Nat → CallOutcome) (order : IterationOrder)

abbrev failures (m : IdentityManager) : List ApiError := m.serviceIdentityApi.failed

abbrev objects (m : IdentityManager) : HashMap String ServiceIdentity := m.serviceIdentityApi.store.objects

theorem mem_identities_of_lookup {m : IdentityManager} {id : String} {i : ServiceIdentity}
    (h : m.identities.lookup id = some i) : i ∈ m.serviceCredentialsProvider.identities :=
  (mem_identities _).mpr (ServiceCredentialsProvider.keyed _ _ i h ▸ h)

/-- `m'` differs from `m` by the deletion of `deleted`, and by the calls made for it. -/
structure Deleted (m m' : IdentityManager) (deleted : List ServiceIdentity) : Prop where
  identities : m'.identities = HashMap.eraseAll m.identities (deleted.map Service.serviceId)
  pool : m'.pool = m.pool
  queue : m'.identityCreatorQueue = m.identityCreatorQueue.sendAll (deleted.map deletionOf)
  frame : m' = { m with
    serviceIdentityApi := m'.serviceIdentityApi
    serviceCredentialsProvider := m'.serviceCredentialsProvider
    identityCreatorQueue := m'.identityCreatorQueue }
  failures : m.failures <+: m'.failures
  objects : m'.failures = m.failures →
    m'.objects = HashMap.eraseAll m.objects (deleted.map Service.serviceName)

theorem Deleted.nil (m : IdentityManager) : Deleted m m [] where
  identities := rfl
  pool := rfl
  queue := by simp
  frame := rfl
  failures := List.prefix_refl _
  objects _ := rfl

theorem Deleted.append {m m' m'' : IdentityManager} {xs ys : List ServiceIdentity}
    (h : Deleted m m' xs) (h' : Deleted m' m'' ys) : Deleted m m'' (xs ++ ys) where
  identities := by
    rw [h'.identities, h.identities, HashMap.eraseAll, HashMap.eraseAll, ← List.foldl_append,
      ← List.map_append]
    rfl
  pool := h'.pool.trans h.pool
  queue := by rw [h'.queue, h.queue, Channel.sendAll_sendAll, List.map_append]
  frame := by
    rw [h'.frame, h.frame]
  failures := h.failures.trans h'.failures
  objects hFailures := by
    obtain ⟨hFirst, hLast⟩ := prefix_between h.failures h'.failures hFailures
    rw [h'.objects hLast, h.objects hFirst, List.map_append, HashMap.eraseAll_append]

theorem deleteServiceIdentity_deleted (identity : ServiceIdentity) (m : IdentityManager) :
    ∃ deleted, deleted.Sublist [identity] ∧ Deleted m (m.deleteServiceIdentity outcomes identity) deleted ∧
      ((m.deleteServiceIdentity outcomes identity).failures = m.failures → deleted = [identity]) := by
  rcases deleteServiceIdentity_cases outcomes identity m with
    ⟨e, api, hCall, hResult⟩ | ⟨api, hCall, hResult⟩
  · have hFailed : api.failed = m.failures ++ [e] := by
      have hError := (Remote.call_error (congrArg Prod.fst hCall)).1
      rwa [show Remote.call _ _ _ _ = (Except.error e, api) from hCall] at hError
    refine ⟨[], List.nil_sublist _, ?_, fun h => ?_⟩
    · rw [hResult]
      exact ⟨rfl, rfl, by simp, rfl, ⟨[e], hFailed.symm⟩, fun h => absurd (hFailed.symm.trans h) (by simp)⟩
    · rw [hResult] at h
      exact absurd (hFailed.symm.trans h) (by simp)
  · obtain ⟨-, hFailed, hObjects⟩ := ServiceIdentityAPI.delete_ok (congrArg Prod.fst hCall)
    rw [hCall] at hFailed hObjects
    refine ⟨[identity], List.Sublist.refl _, ?_, fun _ => rfl⟩
    rw [hResult]
    exact ⟨rfl, rfl, rfl, rfl, ⟨[], (List.append_nil _).trans hFailed.symm⟩, fun _ => hObjects⟩

theorem foldl_deleteServiceIdentity (identities : List ServiceIdentity) (m : IdentityManager) :
    ∃ deleted, deleted.Sublist identities ∧
      Deleted m (identities.foldl (fun m i => m.deleteServiceIdentity outcomes i) m) deleted ∧
      ((identities.foldl (fun m i => m.deleteServiceIdentity outcomes i) m).failures = m.failures →
        deleted = identities) := by
  induction identities generalizing m with
  | nil => exact ⟨[], List.Sublist.refl _, Deleted.nil m, fun _ => rfl⟩
  | cons identity rest ih =>
    obtain ⟨one, hOne, hDeletedOne, hAllOne⟩ := deleteServiceIdentity_deleted outcomes identity m
    obtain ⟨more, hMore, hDeletedMore, hAllMore⟩ := ih (m.deleteServiceIdentity outcomes identity)
    refine ⟨one ++ more, hOne.append hMore, hDeletedOne.append hDeletedMore, fun h => ?_⟩
    obtain ⟨hFirst, hRest⟩ := prefix_between hDeletedOne.failures hDeletedMore.failures h
    rw [hAllOne hFirst, hAllMore hRest]
    rfl

/-- The guard set never meets a second identity of the same service, so step 3 is
a pass over what step 1 did not remove. -/
theorem foldl_deleteUnlessRemoved (identities : List ServiceIdentity)
    (hNodup : (identities.map Service.serviceId).Nodup) (m : IdentityManager) (removed : HashSet String) :
    (identities.foldl
      (fun (m, removed) identity =>
        if Service.serviceId identity ∈ removed then (m, removed)
        else (m.deleteServiceIdentity outcomes identity, AList.insert (Service.serviceId identity) () removed))
      (m, removed)).1 =
    (identities.filter fun i => Service.serviceId i ∉ removed).foldl
      (fun m i => m.deleteServiceIdentity outcomes i) m := by
  induction identities generalizing m removed with
  | nil => rfl
  | cons identity rest ih =>
    obtain ⟨hFresh, hRest⟩ := List.nodup_cons.mp hNodup
    by_cases h : Service.serviceId identity ∈ removed
    · simp only [List.foldl_cons, if_pos h, ih hRest]
      rw [List.filter_cons_of_neg (by simpa using h)]
    · simp only [List.foldl_cons, if_neg h, ih hRest]
      rw [List.filter_cons_of_pos (by simpa using h), List.foldl_cons]
      congr 1
      refine List.filter_congr fun other hOther => ?_
      have hNe : Service.serviceId other ≠ Service.serviceId identity := fun hEq =>
        hFresh (hEq ▸ List.mem_map_of_mem hOther)
      simp [hNe]

theorem foldl_sendDeleteSDPUser (ids : List String) (m : IdentityManager) :
    ids.foldl (fun m id => m.sendToCreator (.deleteSDPUser id)) m =
      { m with identityCreatorQueue := m.identityCreatorQueue.sendAll (ids.map .deleteSDPUser) } := by
  induction ids generalizing m with
  | nil => simp
  | cons id rest ih =>
    rw [List.foldl_cons, ih]
    simp [sendToCreator, Channel.send_eq_sendAll]

theorem deleteExtraServiceIdentities_eq (m : IdentityManager) :
    m.deleteExtraServiceIdentities outcomes order =
      ((order.walk (m.serviceCredentialsProvider.extraServiceIdentities m.existingServiceCandidates)).foldl
          (fun m i => m.deleteServiceIdentity outcomes i) m,
        HashSet.ofList ((order.walk
          (m.serviceCredentialsProvider.extraServiceIdentities m.existingServiceCandidates)).map
            Service.serviceId)) := by
  rw [deleteExtraServiceIdentities, HashSet.ofList, List.foldl_map]
  generalize (∅ : HashSet String) = removed
  generalize order.walk _ = identities
  induction identities generalizing m removed with
  | nil => rfl
  | cons identity rest ih => exact ih _ _

/-- What a reconciliation did: `extra` went in step 1, `users` in step 2, `orphans` in step 3. -/
structure Reconciled (m m' : IdentityManager) (extra : List ServiceIdentity) (users : List String)
    (orphans : List ServiceIdentity) : Prop where
  extra_spec : ∀ i ∈ extra, i ∈ m.serviceCredentialsProvider.identities ∧
    Service.serviceId i ∉ m.existingServiceCandidates
  users_spec : ∀ id, id ∈ users ↔ id ∈ m.existingActivatedCredentials ∧
    ∀ i ∈ m.serviceCredentialsProvider.identities, i ∉ extra → i.credentials.id ≠ id
  users_nodup : users.Nodup
  orphans_spec : ∀ i ∈ orphans, i ∈ m.serviceCredentialsProvider.identities ∧
    Service.serviceId i ∈ m.existingServiceCandidates ∧
    i.credentials.id ∈ m.existingDeactivatedCredentials
  ids_nodup : ((extra ++ orphans).map Service.serviceId).Nodup
  identities : m'.identities = HashMap.eraseAll m.identities ((extra ++ orphans).map Service.serviceId)
  pool : m'.pool = m.pool
  queue : m'.identityCreatorQueue = m.identityCreatorQueue.sendAll
    (extra.map deletionOf ++ users.map .deleteSDPUser ++ orphans.map deletionOf ++
      [.reconcileSDPUsers (HashSet.ofList (m'.serviceCredentialsProvider.identities.map fun s => s.credentials.name))])
  frame : m' = { m with
    serviceIdentityApi := m'.serviceIdentityApi
    serviceCredentialsProvider := m'.serviceCredentialsProvider
    identityCreatorQueue := m'.identityCreatorQueue }
  failures : m.failures <+: m'.failures
  objects : m'.failures = m.failures →
    m'.objects = HashMap.eraseAll m.objects ((extra ++ orphans).map Service.serviceName)
  complete : m'.failures = m.failures → ∀ i ∈ m.serviceCredentialsProvider.identities,
    (Service.serviceId i ∉ m.existingServiceCandidates → i ∈ extra) ∧
    (Service.serviceId i ∈ m.existingServiceCandidates →
      i.credentials.id ∈ m.existingDeactivatedCredentials → i ∈ orphans)

theorem mem_identities_of_eraseAll {m m' : IdentityManager} {deleted : List ServiceIdentity}
    (h : m'.identities = HashMap.eraseAll m.identities (deleted.map Service.serviceId))
    (hMem : ∀ i ∈ deleted, i ∈ m.serviceCredentialsProvider.identities) (i : ServiceIdentity) :
    i ∈ m'.serviceCredentialsProvider.identities ↔ i ∈ m.serviceCredentialsProvider.identities ∧
    i ∉ deleted := by
  rw [mem_identities, mem_identities]
  change m'.identities.lookup _ = _ ↔ _
  rw [h, HashMap.lookup_eraseAll]
  constructor
  · intro hLookup
    split at hLookup
    · cases hLookup
    · exact ⟨hLookup, fun hDeleted => ‹_ ∉ _› (List.mem_map_of_mem hDeleted)⟩
  · rintro ⟨hLookup, hKept⟩
    rw [if_neg, hLookup]
    intro hId
    obtain ⟨j, hj, hEq⟩ := List.mem_map.mp hId
    have hLookupJ := (mem_identities _).mp (hMem j hj)
    rw [hEq, hLookup] at hLookupJ
    exact hKept (Option.some.inj hLookupJ ▸ hj)

theorem reconcile_spec (m : IdentityManager) :
    ∃ extra users orphans, Reconciled m (m.reconcile outcomes order) extra users orphans := by
  have hWalkNodup : ∀ (p : ServiceCredentialsProvider) (f : ServiceIdentity → Bool),
      ((order.walk (p.identities.filter f)).map Service.serviceId).Nodup := fun p f =>
    ((order.perm _).map _).nodup_iff.mpr (p.identities_serviceId_nodup.sublist (List.filter_sublist.map _))
  -- step 1
  let extras := order.walk (m.serviceCredentialsProvider.extraServiceIdentities m.existingServiceCandidates)
  obtain ⟨extra, hExtraSub, hExtra, hExtraAll⟩ := foldl_deleteServiceIdentity outcomes extras m
  generalize hM1 : extras.foldl (fun m i => m.deleteServiceIdentity outcomes i) m = m1 at hExtra hExtraAll
  have hExtras : ∀ i, i ∈ extras ↔ i ∈ m.serviceCredentialsProvider.identities ∧
      Service.serviceId i ∉ m.existingServiceCandidates := by simp [extras, extraServiceIdentities]
  have hExtraSpec : ∀ i ∈ extra, i ∈ m.serviceCredentialsProvider.identities ∧
      Service.serviceId i ∉ m.existingServiceCandidates := fun i hi => (hExtras i).mp (hExtraSub.subset hi)
  have hMem1 : ∀ i, i ∈ m1.serviceCredentialsProvider.identities ↔
      i ∈ m.serviceCredentialsProvider.identities ∧ i ∉ extra := fun i =>
    mem_identities_of_eraseAll hExtra.identities (fun j hj => (hExtraSpec j hj).1) i
  have hActivated : m1.existingActivatedCredentials = m.existingActivatedCredentials := by rw [hExtra.frame]
  have hDeactivated : m1.existingDeactivatedCredentials = m.existingDeactivatedCredentials := by
    rw [hExtra.frame]
  -- step 2 only sends messages
  let users := order.walk (m1.serviceCredentialsProvider.orphanServiceUsers m1.existingActivatedCredentials)
  let m2 : IdentityManager :=
    { m1 with identityCreatorQueue := m1.identityCreatorQueue.sendAll (users.map .deleteSDPUser) }
  -- step 3 works on what step 1 left
  let removed := HashSet.ofList (extras.map Service.serviceId)
  let candidates := (order.walk (m2.serviceCredentialsProvider.orphanServiceIdentities
    m2.existingDeactivatedCredentials)).filter fun i => Service.serviceId i ∉ removed
  have hWalk2Nodup : ((order.walk (m2.serviceCredentialsProvider.orphanServiceIdentities
      m2.existingDeactivatedCredentials)).map Service.serviceId).Nodup :=
    hWalkNodup m2.serviceCredentialsProvider _
  obtain ⟨orphans, hOrphansSub, hOrphans, hOrphansAll⟩ :=
    foldl_deleteServiceIdentity outcomes candidates m2
  generalize hM3 : candidates.foldl (fun m i => m.deleteServiceIdentity outcomes i) m2 = m3
    at hOrphans hOrphansAll
  have hCandidates : ∀ i, i ∈ candidates ↔ i ∈ m1.serviceCredentialsProvider.identities ∧
      i.credentials.id ∈ m.existingDeactivatedCredentials ∧
      ∀ j ∈ extras, Service.serviceId j ≠ Service.serviceId i := by
    intro i
    simp [candidates, removed, m2, orphanServiceIdentities, hDeactivated, and_assoc]
  have hReconcile : m.reconcile outcomes order = m3.sendToCreator (.reconcileSDPUsers
      (HashSet.ofList (m3.serviceCredentialsProvider.identities.map fun s => s.credentials.name))) := by
    have hStep3 := foldl_deleteUnlessRemoved outcomes _ hWalk2Nodup m2 removed
    rw [reconcile, deleteExtraServiceIdentities_eq, hM1]
    dsimp only
    rw [deleteOrphanServiceUsers, foldl_sendDeleteSDPUser,
      show (m2.deleteOrphanServiceIdentities outcomes order removed).1 = m3 from hStep3.trans hM3]
  have hOrphansSpec : ∀ i ∈ orphans, i ∈ m.serviceCredentialsProvider.identities ∧
      Service.serviceId i ∈ m.existingServiceCandidates ∧
      i.credentials.id ∈ m.existingDeactivatedCredentials := fun i hi => by
    obtain ⟨hMem, hUser, hKept⟩ := (hCandidates i).mp (hOrphansSub.subset hi)
    refine ⟨((hMem1 i).mp hMem).1, ?_, hUser⟩
    by_contra hUnknown
    exact hKept i ((hExtras i).mpr ⟨((hMem1 i).mp hMem).1, hUnknown⟩) rfl
  refine ⟨extra, users, orphans, hExtraSpec, fun id => ?_, ?_, hOrphansSpec, ?_, ?_, ?_, ?_, ?_, ?_, ?_, ?_⟩
  · simp only [users, IterationOrder.mem_walk, orphanServiceUsers, HashSet.mem_difference, HashSet.mem_ofList,
      List.mem_map, hActivated, hMem1, not_exists, not_and, and_imp]
  · exact order.nodup_walk (HashSet.difference_nodup _ _)
  · rw [List.map_append]
    refine List.nodup_append'.mpr ⟨?_, ?_, fun id hLeft hRight => ?_⟩
    · exact (hWalkNodup m.serviceCredentialsProvider _).sublist (hExtraSub.map _)
    · exact hWalk2Nodup.sublist ((hOrphansSub.trans List.filter_sublist).map _)
    · obtain ⟨i, hi, rfl⟩ := List.mem_map.mp hLeft
      obtain ⟨j, hj, hEq⟩ := List.mem_map.mp hRight
      exact (hExtraSpec i hi).2 (hEq ▸ (hOrphansSpec j hj).2.1)
  · rw [hReconcile, List.map_append, HashMap.eraseAll_append, ← hExtra.identities]
    exact hOrphans.identities
  · rw [hReconcile]
    exact hOrphans.pool.trans hExtra.pool
  · simp only [hReconcile, sendToCreator, Channel.send_eq_sendAll, hOrphans.queue, m2, hExtra.queue,
      Channel.sendAll_sendAll]
  · rw [hReconcile, hOrphans.frame]
    simp only [m2]
    rw [hExtra.frame]
    rfl
  · rw [hReconcile]
    exact hExtra.failures.trans hOrphans.failures
  · intro h
    rw [hReconcile] at h ⊢
    obtain ⟨hFirst, hLast⟩ := prefix_between hExtra.failures hOrphans.failures h
    rw [List.map_append, HashMap.eraseAll_append, ← hExtra.objects hFirst]
    exact hOrphans.objects hLast
  · intro h i hi
    rw [hReconcile] at h
    obtain ⟨hFirst, hLast⟩ := prefix_between hExtra.failures hOrphans.failures h
    have hAll : extra = extras := hExtraAll hFirst
    refine ⟨fun hUnknown => hAll ▸ (hExtras i).mpr ⟨hi, hUnknown⟩, fun hKnown hUser => ?_⟩
    rw [hOrphansAll hLast, hCandidates, hMem1]
    refine ⟨⟨hi, fun hExtraMem => (hExtraSpec i hExtraMem).2 hKnown⟩, hUser, fun j hj hEq => ?_⟩
    exact ((hExtras j).mp hj).2 (hEq ▸ hKnown)

/-- What a reconciliation has to leave: the candidate is known and the user is not deactivated. -/
def Retained (m : IdentityManager) (i : ServiceIdentity) : Prop :=
  Service.serviceId i ∈ m.existingServiceCandidates ∧ i.credentials.id ∉ m.existingDeactivatedCredentials

instance (m : IdentityManager) : DecidablePred m.Retained := fun _ => inferInstanceAs (Decidable (_ ∧ _))

def NamedInDeletion (id : String) (sent : List IdentityCreatorProtocol) : Prop :=
  IdentityCreatorProtocol.deleteSDPUser id ∈ sent ∨
    ∃ user serviceNs serviceName, IdentityCreatorProtocol.deleteServiceUser user serviceNs serviceName ∈ sent ∧
      user.id = id

section Complete

variable {m m' : IdentityManager} {extra orphans : List ServiceIdentity} {users : List String}

theorem Reconciled.mem_deleted (h : Reconciled m m' extra users orphans) (hFailures : m'.failures = m.failures)
    (i : ServiceIdentity) :
    i ∈ extra ++ orphans ↔ i ∈ m.serviceCredentialsProvider.identities ∧ ¬m.Retained i := by
  rw [List.mem_append, Retained]
  constructor
  · rintro (hi | hi)
    · exact ⟨(h.extra_spec i hi).1, fun hRetained => (h.extra_spec i hi).2 hRetained.1⟩
    · exact ⟨(h.orphans_spec i hi).1, fun hRetained => hRetained.2 (h.orphans_spec i hi).2.2⟩
  · rintro ⟨hi, hRemoved⟩
    obtain ⟨hExtra, hOrphan⟩ := h.complete hFailures i hi
    by_cases hKnown : Service.serviceId i ∈ m.existingServiceCandidates
    · exact .inr (hOrphan hKnown (not_not.mp fun hUser => hRemoved ⟨hKnown, hUser⟩))
    · exact .inl (hExtra hKnown)

theorem Reconciled.mem_remaining (h : Reconciled m m' extra users orphans) (i : ServiceIdentity) :
    i ∈ m'.serviceCredentialsProvider.identities ↔
      i ∈ m.serviceCredentialsProvider.identities ∧ i ∉ extra ++ orphans := by
  refine mem_identities_of_eraseAll h.identities (fun j hj => ?_) i
  rcases List.mem_append.mp hj with hj | hj
  · exact (h.extra_spec j hj).1
  · exact (h.orphans_spec j hj).1

theorem Reconciled.mem_users (h : Reconciled m m' extra users orphans) (hFailures : m'.failures = m.failures)
    (id : String) :
    id ∈ users ↔ id ∈ m.existingActivatedCredentials ∧
      ∀ i ∈ m.serviceCredentialsProvider.identities, Service.serviceId i ∈ m.existingServiceCandidates →
        i.credentials.id ≠ id := by
  rw [h.users_spec]
  refine and_congr_right fun _ => forall₂_congr fun i hi => ?_
  refine imp_congr_left ⟨fun hKept => ?_, fun hKnown hExtra => (h.extra_spec i hExtra).2 hKnown⟩
  exact not_not.mp fun hUnknown => hKept ((h.complete hFailures i hi).1 hUnknown)

/-- The two users of deleted and of remaining identities differ, so no remaining user is given up. -/
theorem Reconciled.namedInDeletion (h : Reconciled m m' extra users orphans)
    (hFailures : m'.failures = m.failures)
    (hDistinct : (m.serviceCredentialsProvider.identities.map fun i => i.credentials.id).Nodup)
    {sent : List IdentityCreatorProtocol} (names : HashSet String)
    (hSent : ∀ msg, msg ∈ sent ↔
      msg ∈ (extra ++ orphans).map deletionOf ++ users.map .deleteSDPUser ++ [.reconcileSDPUsers names]) :
    (∀ id ∈ m.existingActivatedCredentials,
      (∀ i ∈ m'.serviceCredentialsProvider.identities, i.credentials.id ≠ id) → NamedInDeletion id sent) ∧
    ∀ i ∈ m'.serviceCredentialsProvider.identities, ¬NamedInDeletion i.credentials.id sent := by
  have hDelete : ∀ id, IdentityCreatorProtocol.deleteSDPUser id ∈ sent ↔ id ∈ users := by
    simp [hSent, deletionOf]
  have hGiveUp : ∀ user serviceNs serviceName,
      IdentityCreatorProtocol.deleteServiceUser user serviceNs serviceName ∈ sent ↔
        ∃ i ∈ extra ++ orphans, deletionOf i = .deleteServiceUser user serviceNs serviceName := by
    intro user serviceNs serviceName
    rw [hSent, List.mem_append, List.mem_append, List.mem_map]
    simp
  constructor
  · intro id hActivated hUnheld
    by_cases hUser : id ∈ users
    · exact .inl ((hDelete id).mpr hUser)
    · rw [h.mem_users hFailures] at hUser
      push Not at hUser
      obtain ⟨i, hi, -, hId⟩ := hUser hActivated
      have hDeleted : i ∈ extra ++ orphans := by
        by_contra hKept
        exact hUnheld i ((h.mem_remaining i).mpr ⟨hi, hKept⟩) hId
      exact .inr ⟨_, _, _, (hGiveUp _ _ _).mpr ⟨i, hDeleted, rfl⟩, hId⟩
  · intro i hi hNamed
    obtain ⟨hMem, hKept⟩ := (h.mem_remaining i).mp hi
    rcases hNamed with hUser | ⟨user, serviceNs, serviceName, hDeletion, hId⟩
    · have hRetained := not_not.mp fun hNot => hKept ((h.mem_deleted hFailures i).mpr ⟨hMem, hNot⟩)
      exact ((h.mem_users hFailures _).mp ((hDelete _).mp hUser)).2 i hMem hRetained.1 rfl
    · obtain ⟨j, hj, hEq⟩ := (hGiveUp _ _ _).mp hDeletion
      cases hEq
      have hSame := List.inj_on_of_nodup_map hDistinct ((h.mem_deleted hFailures j).mp hj).1 hMem hId
      exact hKept (hSame ▸ hj)

end Complete

/-- With every call succeeding, a reconciliation deletes the identities that are not
retained, once each, and the activated users that no known candidate holds. -/
theorem reconcile_exact (m : IdentityManager)
    (hDistinct : (m.serviceCredentialsProvider.identities.map fun i => i.credentials.id).Nodup)
    (hCalls : (m.reconcile outcomes order).failures = m.failures) :
    (∀ i, i ∈ (m.reconcile outcomes order).serviceCredentialsProvider.identities ↔
      i ∈ m.serviceCredentialsProvider.identities ∧ m.Retained i) ∧
    ∃ (sent : List IdentityCreatorProtocol) (removed : List ServiceIdentity) (unheld : List String)
      (names : HashSet String),
      (m.reconcile outcomes order).identityCreatorQueue = m.identityCreatorQueue.sendAll sent ∧
      sent.Perm (removed.map deletionOf ++ unheld.map .deleteSDPUser ++ [.reconcileSDPUsers names]) ∧
      (removed.Nodup ∧ ∀ i, i ∈ removed ↔ i ∈ m.serviceCredentialsProvider.identities ∧ ¬m.Retained i) ∧
      (unheld.Nodup ∧ ∀ id, id ∈ unheld ↔ id ∈ m.existingActivatedCredentials ∧
        ∀ i ∈ m.serviceCredentialsProvider.identities, Service.serviceId i ∈ m.existingServiceCandidates →
          i.credentials.id ≠ id) ∧
      (∀ name, name ∈ names ↔ ∃ i ∈ (m.reconcile outcomes order).serviceCredentialsProvider.identities,
        i.credentials.name = name) ∧
      (∀ id ∈ m.existingActivatedCredentials,
        (∀ i ∈ (m.reconcile outcomes order).serviceCredentialsProvider.identities, i.credentials.id ≠ id) →
          NamedInDeletion id sent) ∧
      ∀ i ∈ (m.reconcile outcomes order).serviceCredentialsProvider.identities,
        ¬NamedInDeletion i.credentials.id sent := by
  obtain ⟨extra, users, orphans, h⟩ := reconcile_spec outcomes order m
  generalize m.reconcile outcomes order = m' at h hCalls
  have hNodup : (extra ++ orphans).Nodup := List.Nodup.of_map _ h.ids_nodup
  let names := HashSet.ofList (m'.serviceCredentialsProvider.identities.map fun s => s.credentials.name)
  refine ⟨fun i => ?_, _, extra ++ orphans, users, names, h.queue, ?_, ⟨hNodup, h.mem_deleted hCalls⟩,
    ⟨h.users_nodup, h.mem_users hCalls⟩, fun name => ?_, ?_⟩
  · rw [h.mem_remaining, h.mem_deleted hCalls]
    tauto
  · rw [List.map_append]
    refine List.Perm.append_right _ ?_
    rw [List.append_assoc, List.append_assoc]
    exact List.Perm.append_left _ List.perm_append_comm
  · rw [HashSet.mem_ofList, List.mem_map]
  · refine h.namedInDeletion hCalls hDistinct names fun msg => ?_
    simp only [List.mem_append, List.map_append]
    tauto

def sampleUser (id : String) : ServiceUser := ⟨id, id, "secret", "profile", some []⟩

def sampleIdentity (service user : String) : ServiceIdentity :=
  identityFor (.new "ns" service none) (sampleUser user)

def sampleCandidate (service : String) : ServiceCandidate :=
  .sdpService ⟨⟨"object", by decide, some "ns", ∅, ∅⟩, ⟨"Deployment", service⟩⟩

/-- Each message is handled as soon as it arrives. -/
def deliver (messages : List IdentityManagerProtocol) : List Event :=
  messages.flatMap fun msg => [.arrive msg, .handle .asStored]

/-- The candidate of `a` and `c` is known, the user of `c` is deactivated, and nobody holds `u4`. -/
def sampleBeforeReconcile : IdentityManager :=
  { restored "cluster" [sampleIdentity "a" "u1", sampleIdentity "b" "u2", sampleIdentity "c" "u3"] with
    existingServiceCandidates := HashSet.ofList ["ns_a", "ns_c"]
    existingActivatedCredentials := HashSet.ofList ["u1", "u2", "u4"]
    existingDeactivatedCredentials := HashSet.ofList ["u3"] }

theorem reconcile_exact_sample :
    sampleIdentity "a" "u1" ∈
        (sampleBeforeReconcile.reconcile (fun _ => .delivered) .asStored).serviceCredentialsProvider.identities ∧
      sampleIdentity "c" "u3" ∉
        (sampleBeforeReconcile.reconcile (fun _ => .delivered) .asStored).serviceCredentialsProvider.identities := by
  have h := (reconcile_exact (fun _ => .delivered) .asStored sampleBeforeReconcile
    (by decide) (by decide)).1
  exact ⟨(h _).mpr (by decide), fun hMem => absurd ((h _).mp hMem) (by decide)⟩

end SdpK8sInjector.IdentityService.IdentityManager
