import SdpK8sInjector.Common.Lookups
import SdpK8sInjector.IdentityService.Announcements
import SdpK8sInjector.IdentityService.Confluence
import SdpK8sInjector.IdentityService.Isolation

/-! # Lookups of namespaces that fail

An object whose namespace cannot be looked up is taken for one that is no candidate.
The manager does not hear of it, and reconciles without it.
-/

namespace SdpK8sInjector.IdentityService

open Lib Common ServiceCandidateProtocol Watching

/-- The objects of one kind that are listed, and how the lookups of their watcher end. -/
structure Listing (E : Type) where
  objects : List (Entity E)
  lookups : Nat → CallOutcome
  uids_nodup : (objects.map Entity.uid).Nodup

namespace Listing

variable {E : Type} [ServiceCandidateProtocol E] (namespaces : HashMap String Namespace) (l : Listing E)

def lookedUp : List (Entity E × Option Namespace) := (lookUpAll l.lookups true l.objects ⟨namespaces, 0, []⟩).1

/-- The watcher when it has announced itself. -/
def watched : Watching IdentityManagerProtocol :=
  (start.list (l.lookedUp namespaces)).notify candidateWatcher.notificationMessage

/-- The candidates that the manager hears of. -/
def candidates : List ServiceCandidate :=
  (l.lookedUp namespaces).filterMap fun o => (candidateKey o.1.object o.2).map fun _ => serviceCandidate o.1.object

/-- The object is a candidate for the service with the id, in a namespace that is enabled. -/
def IsCandidate (e : E) (id : String) : Prop :=
  candidateKey e ((SimpleWatchingProtocol.objectNs e).bind namespaces.lookup) = some id

instance (e : E) (id : String) : Decidable (IsCandidate namespaces e id) := inferInstanceAs (Decidable (_ = _))

def Lists (id : String) : Prop := ∃ e ∈ l.objects, IsCandidate namespaces e.object id

/-- Each candidate whose key is remembered has been announced. -/
def AppliedAnnounced : Prop :=
  ∀ e ∈ l.objects, ∀ id, IsCandidate namespaces e.object id → id ∈ (l.watched namespaces).applied →
    e.uid ∈ (l.watched namespaces).announced

/-- No lookup for a candidate fails. -/
def CandidatesFound : Prop :=
  ∀ pre e post, l.objects = pre ++ e :: post → ∀ id, IsCandidate namespaces e.object id →
    l.lookups (pre.countP hasNs) = .delivered

variable {namespaces l}

/-- This is what `watch` comes to, and what it has sent. -/
theorem run_watched : ∃ s, run (Cluster.next l.lookups candidateWatcher)
    { Cluster.start namespaces with objects := l.objects }
    (.list :: (List.replicate l.objects.length .listed ++ [.notify])) = some s ∧
    s.watching = l.watched namespaces := by
  rw [run, Cluster.next]
  simp only [Cluster.start, Option.bind_some]
  rw [run_listed _ _ l.objects _ rfl]
  exact ⟨_, rfl, rfl⟩

theorem mem_lookedUp {e : Entity E} {ns : Option Namespace} : (e, ns) ∈ l.lookedUp namespaces ↔
    ∃ pre post, l.objects = pre ++ e :: post ∧ ns = nsFound l.lookups namespaces (pre.countP hasNs) e.object := by
  rw [lookedUp, mem_lookUpAll]
  simp only [Nat.zero_add]

theorem queue_watched : (l.watched namespaces).queue =
    (l.candidates namespaces).map .foundServiceCandidate ++ [.deploymentWatcherReady] := by
  change (start.list _).queue ++ [IdentityManagerProtocol.deploymentWatcherReady] = _
  rw [queue_list, candidates, List.map_filterMap]
  congr 1
  change [] ++ _ = _
  rw [List.nil_append]
  congr 1
  funext o
  rw [initialized_eq, Option.map_map]
  rfl

theorem appliedAnnounced_iff : l.AppliedAnnounced namespaces ↔ l.CandidatesFound namespaces := by
  constructor
  · intro hAnnounced pre e post hObjects id hCandidate
    have hKnown : id ∈ (l.watched namespaces).applied := by
      refine Announcements.mem_applied_list.mpr (.inr ⟨(e, _), mem_lookedUp.mpr ⟨pre, post, hObjects, rfl⟩, ?_⟩)
      exact (candidateKey_eq_some.mp hCandidate).2
    have hMem : e ∈ l.objects := hObjects ▸ List.mem_append_right _ List.mem_cons_self
    obtain hNever | ⟨⟨e', ns⟩, hLookedUp, hSent, hUid⟩ :=
      mem_announced_list.mp (hAnnounced e hMem id hCandidate hKnown)
    · cases hNever
    obtain ⟨pre', post', hObjects', rfl⟩ := mem_lookedUp.mp hLookedUp
    have hMem' : e' ∈ l.objects := hObjects' ▸ List.mem_append_right _ List.mem_cons_self
    obtain rfl : e' = e := List.inj_on_of_nodup_map l.uids_nodup hMem' hMem hUid
    -- the object is listed once
    have hNodup : (pre' ++ e' :: post').Nodup := hObjects' ▸ List.Nodup.of_map _ l.uids_nodup
    have hOnce : e' ∉ pre' ++ post' := (List.nodup_cons.mp (List.nodup_middle.mp hNodup)).1
    rw [List.mem_append, not_or] at hOnce
    obtain ⟨rfl, -⟩ := (List.append_cons_inj_of_notMem hOnce.1 hOnce.2).mp (hObjects'.symm.trans hObjects)
    by_contra hFailed
    rw [initialized_eq, nsFound, if_neg hFailed] at hSent
    simp [candidateKey, isEnabled] at hSent
  · intro hFound e hMem id hCandidate _
    obtain ⟨pre, post, hObjects⟩ := List.append_of_mem hMem
    refine mem_announced_list.mpr (.inr ⟨(e, _), mem_lookedUp.mpr ⟨pre, post, hObjects, rfl⟩, ?_, rfl⟩)
    rw [nsFound, if_pos (hFound pre e post hObjects id hCandidate), initialized_eq, Option.isSome_map]
    rw [IsCandidate] at hCandidate
    simp [hCandidate]

theorem mem_candidates (hFound : l.CandidatesFound namespaces) {e : Entity E} (hMem : e ∈ l.objects) {id : String}
    (hCandidate : IsCandidate namespaces e.object id) : serviceCandidate e.object ∈ l.candidates namespaces := by
  obtain ⟨pre, post, hObjects⟩ := List.append_of_mem hMem
  refine List.mem_filterMap.mpr ⟨(e, _), mem_lookedUp.mpr ⟨pre, post, hObjects, rfl⟩, ?_⟩
  rw [nsFound, if_pos (hFound pre e post hObjects id hCandidate)]
  rw [IsCandidate] at hCandidate
  simp [hCandidate]

end Listing

namespace IdentityManager

open ServiceCredentialsProvider (identityFor)

variable (outcomes : Nat → CallOutcome) {m : IdentityManager} {name : String} {o : ServiceIdentity}

theorem lookup_delete {identity : ServiceIdentity} (hOther : Service.serviceName identity ≠ name)
    (h : m.objects.lookup name = some o) :
    (m.deleteServiceIdentity outcomes identity).objects.lookup name = some o := by
  have hKept : (m.serviceIdentityApi.delete outcomes identity).2.store.objects.lookup name = some o :=
    ServiceIdentityAPI.delete_keeps identity (Ne.symm hOther) h
  rcases deleteServiceIdentity_cases outcomes identity m with ⟨_, _, hCall, hEq⟩ | ⟨_, hCall, hEq⟩ <;>
    rw [hCall] at hKept <;> rw [hEq] <;> exact hKept

theorem lookup_request (c : ServiceCandidate) (h : m.objects.lookup name = some o) :
    (m.requestServiceIdentity outcomes c).objects.lookup name = some o := by
  have hOutcome := requestServiceIdentity_outcome outcomes c m
  generalize m.requestServiceIdentity outcomes c = m' at hOutcome ⊢
  cases hOutcome with
  | noNamespace | registered | emptyPool => exact h
  | created id lookup labels user rest api _ _ _ _ hCreate | createFailed id lookup user rest e api _ _ _ _ hCreate =>
    have hKept : (m.serviceIdentityApi.create outcomes (identityFor lookup user)).2.store.objects.lookup
        name = some o :=
      ServiceIdentityAPI.create_keeps (identityFor lookup user) h
    rw [hCreate] at hKept
    exact hKept

theorem lookup_foldl_request (candidates : List ServiceCandidate) (h : m.objects.lookup name = some o) :
    (candidates.foldl (fun m c => m.requestServiceIdentity outcomes c) m).objects.lookup name = some o := by
  induction candidates generalizing m with
  | nil => exact h
  | cons c rest ih => exact ih (lookup_request outcomes c h)

section Steps

variable {identities : List ServiceIdentity} (hOther : ∀ i ∈ identities, Service.serviceName i ≠ name)

include hOther

theorem lookup_foldl_delete (h : m.objects.lookup name = some o) :
    (identities.foldl (fun m i => m.deleteServiceIdentity outcomes i) m).objects.lookup name = some o := by
  induction identities generalizing m with
  | nil => exact h
  | cons i rest ih =>
    obtain ⟨hFirst, hRest⟩ := List.forall_mem_cons.mp hOther
    exact ih hRest (lookup_delete outcomes hFirst h)

theorem lookup_foldl_deleteUnless (h : m.objects.lookup name = some o) (removed : HashSet String) :
    (identities.foldl (fun (m, removed) identity =>
      if Service.serviceId identity ∈ removed then (m, removed)
      else (m.deleteServiceIdentity outcomes identity, AList.insert (Service.serviceId identity) () removed))
      (m, removed)).1.objects.lookup name = some o := by
  induction identities generalizing m removed with
  | nil => exact h
  | cons i rest ih =>
    obtain ⟨hFirst, hRest⟩ := List.forall_mem_cons.mp hOther
    rw [List.foldl_cons]
    dsimp only
    split
    · exact ih hRest h removed
    · exact ih hRest (lookup_delete outcomes hFirst h) _

end Steps

variable (order : IterationOrder)

/-- An object stays unless it goes by the name of an identity that is to be removed. -/
theorem lookup_reconcile (hOther : ∀ i ∈ m.serviceCredentialsProvider.identities, ¬m.Retained i →
    Service.serviceName i ≠ name) (h : m.objects.lookup name = some o) :
    (m.reconcile outcomes order).objects.lookup name = some o := by
  -- step 1
  let extras := order.walk (m.serviceCredentialsProvider.extraServiceIdentities m.existingServiceCandidates)
  have hExtras : ∀ i ∈ extras, i ∈ m.serviceCredentialsProvider.identities ∧ ¬m.Retained i := by
    intro i hi
    rw [IterationOrder.mem_walk] at hi
    obtain ⟨hMem, hUnknown⟩ := List.mem_filter.mp hi
    exact ⟨hMem, fun hRetained => of_decide_eq_true hUnknown hRetained.1⟩
  obtain ⟨extra, hSublist, hDeleted, -⟩ := foldl_deleteServiceIdentity outcomes extras m
  have hFirst := lookup_foldl_delete outcomes (fun i hi => hOther i (hExtras i hi).1 (hExtras i hi).2) h
  generalize hM1 : extras.foldl (fun m i => m.deleteServiceIdentity outcomes i) m = m1 at hDeleted hFirst
  have hDeactivated : m1.existingDeactivatedCredentials = m.existingDeactivatedCredentials := by rw [hDeleted.frame]
  -- step 3
  have hOrphans : ∀ i ∈ order.walk (m1.serviceCredentialsProvider.orphanServiceIdentities
      m1.existingDeactivatedCredentials), Service.serviceName i ≠ name := by
    intro i hi
    rw [IterationOrder.mem_walk, hDeactivated] at hi
    obtain ⟨hMem, hUser⟩ := List.mem_filter.mp hi
    have hBefore := (mem_identities_of_eraseAll hDeleted.identities
      (fun j hj => (hExtras j (hSublist.subset hj)).1) i).mp hMem
    exact hOther i hBefore.1 fun hRetained => hRetained.2 (of_decide_eq_true hUser)
  have hLast : ∀ queue removed,
    ({ m1 with identityCreatorQueue := queue }.deleteOrphanServiceIdentities outcomes order
      removed).1.objects.lookup name = some o := fun queue removed =>
    lookup_foldl_deleteUnless outcomes (m := { m1 with identityCreatorQueue := queue }) hOrphans hFirst removed
  rw [reconcile, deleteExtraServiceIdentities_eq, hM1]
  dsimp only
  rw [deleteOrphanServiceUsers, foldl_sendDeleteSDPUser]
  exact hLast _ _

end IdentityManager

open IdentityManager (reconcile_spec identityManagerReady_requested lookup_reconcile lookup_foldl_request)
open ServiceCredentialsProvider (mem_identities)
open Gathering

/-- The identity stays, with its object and its user. The object is known by its name alone. -/
structure Untouched (m m' : IdentityManager) (i : ServiceIdentity) : Prop where
  registered : m'.identities.lookup (Service.serviceId i) = some i
  stored : (∀ j ∈ m.serviceCredentialsProvider.identities, Service.serviceName j =
    Service.serviceName i → j = i) →
    ∀ o, m.objects.lookup (Service.serviceName i) = some o → m'.objects.lookup (Service.serviceName i) = some o
  user : ∀ user, (user, some (Service.serviceId i)) ∉ deletions m'

theorem untouched_of_retained {m : IdentityManager} (hNone : deletions m = []) {i : ServiceIdentity}
    (hi : i ∈ m.serviceCredentialsProvider.identities) (hRetained : m.Retained i) (outcomes : Nat → CallOutcome)
    (order : IterationOrder) : Untouched m (m.identityManagerReady outcomes order) i := by
  obtain ⟨extra, users, orphans, h⟩ := reconcile_spec outcomes order m
  have hKept : i ∉ extra ++ orphans := by
    rw [List.mem_append, not_or]
    exact ⟨fun hExtra => (h.extra_spec i hExtra).2 hRetained.1, fun hOrphan =>
      hRetained.2 (h.orphans_spec i hOrphan).2.2⟩
  have hRemains : (m.reconcile outcomes order).identities.lookup (Service.serviceId i) = some i :=
    (mem_identities _).mp ((h.mem_remaining i).mpr ⟨hi, hKept⟩)
  constructor
  · exact (identityManagerReady_requested outcomes order m).kept _ i hRemains
  · intro hNames o hObject
    refine lookup_foldl_request outcomes _ (lookup_reconcile outcomes order (fun j hj hRemoved hName => ?_) hObject)
    exact hRemoved (hNames j hj hName ▸ hRetained)
  · intro user hDeletion
    rw [mem_deletions hNone] at hDeletion
    exact hDeletion.2 ⟨i, hRemains⟩

/-- What there is when the service starts. -/
structure AtStartup where
  namespaces : HashMap String Namespace
  deployments : Listing Deployment
  sdpServices : Listing SDPService
  users : List (ServiceUser × Bool)

namespace AtStartup

variable (x : AtStartup)

def found : Findings := ⟨x.deployments.candidates x.namespaces, x.sdpServices.candidates x.namespaces, x.users⟩

theorem stream_found : x.found.stream .deploymentWatcher = (x.deployments.watched x.namespaces).queue ∧
    x.found.stream .sdpServiceWatcher = (x.sdpServices.watched x.namespaces).queue :=
  ⟨Listing.queue_watched.symm, Listing.queue_watched.symm⟩

/-- A candidate for the service is listed, in a namespace that is enabled. -/
def Lists (id : String) : Prop := x.deployments.Lists x.namespaces id ∨ x.sdpServices.Lists x.namespaces id

/-- The user of the identity is not reported as deactivated. -/
def Live (i : ServiceIdentity) : Prop := ∀ u ∈ x.users, u.2 = false → u.1.id ≠ i.credentials.id

instance (i : ServiceIdentity) : Decidable (x.Live i) := inferInstanceAs (Decidable (∀ u ∈ _, _ → _))

/-- In whatever order the reports arrive, no live identity of a listed candidate is deleted. -/
def KeepsLive (clusterId : String) (stored : List ServiceIdentity) : Prop :=
  ∀ outcomes s, Reachable outcomes clusterId stored x.found s → AboutToReconcile s →
    ∀ i ∈ s.manager.serviceCredentialsProvider.identities, x.Lists (Service.serviceId i) → x.Live i →
      ∀ calls order, Untouched s.manager (s.manager.identityManagerReady calls order) i

def AppliedAnnounced : Prop :=
  x.deployments.AppliedAnnounced x.namespaces ∧ x.sdpServices.AppliedAnnounced x.namespaces

def CandidatesFound : Prop :=
  x.deployments.CandidatesFound x.namespaces ∧ x.sdpServices.CandidatesFound x.namespaces

variable {x}

theorem reported_of_lists (hFound : x.CandidatesFound) {id : String} (hLists : x.Lists id) :
    ∃ c p, .foundServiceCandidate c ∈ x.found.stream p ∧ MaybeService.serviceId c = .ok id := by
  have hId : ∀ {E : Type} [ServiceCandidateProtocol E] {e : E}, Listing.IsCandidate x.namespaces e id →
      MaybeService.serviceId (serviceCandidate e) = .ok id := by
    intro E _ e hCandidate
    have hKey := (candidateKey_eq_some.mp hCandidate).2
    rw [key] at hKey
    cases hId : MaybeService.serviceId (serviceCandidate e) with
    | error err => rw [hId] at hKey; cases hKey
    | ok id' => rw [hId] at hKey; cases hKey; rfl
  rcases hLists with ⟨e, hMem, hCandidate⟩ | ⟨e, hMem, hCandidate⟩
  · refine ⟨_, .deploymentWatcher, List.mem_append_left _ (List.mem_map_of_mem ?_), hId hCandidate⟩
    exact Listing.mem_candidates hFound.1 hMem hCandidate
  · refine ⟨_, .sdpServiceWatcher, List.mem_append_left _ (List.mem_map_of_mem ?_), hId hCandidate⟩
    exact Listing.mem_candidates hFound.2 hMem hCandidate

theorem keepsLive_of_found (hFound : x.CandidatesFound) (clusterId : String) (stored : List ServiceIdentity) :
    x.KeepsLive clusterId stored := by
  intro outcomes s hRun hReady i hi hLists hLive calls order
  have h := reachable_accounted hRun
  have hGathered := gathered_of_ready h (ready_mem_history hReady)
  have hFiled := reachable_filed hRun (ready_notMem_received h hReady)
  refine untouched_of_retained hFiled.deletions hi ⟨?_, fun hDeactivated => ?_⟩ calls order
  · obtain ⟨c, p, hStream, hId⟩ := reported_of_lists hFound hLists
    obtain ⟨j, hStored, -⟩ := hFiled.startup.stored_of_registered ((mem_identities _).mp hi)
    rw [existing_iff hFiled]
    exact ⟨⟨c, (mem_received_iff h hGathered rfl).mpr ⟨p, hStream⟩, hId⟩, j, hStored⟩
  · obtain ⟨user, hReceived, hId⟩ := (hFiled.startup.recorded.deactivated _).mp hDeactivated
    obtain ⟨p, hStream⟩ := (mem_received_iff h hGathered rfl).mp hReceived
    simp only [Findings.stream, List.mem_append, List.mem_singleton] at hStream
    cases p with
    | deploymentWatcher | sdpServiceWatcher =>
      rcases hStream with hReport | hAnnouncement
      · obtain ⟨_, _, hEq⟩ := List.mem_map.mp hReport
        cases hEq
      · cases hAnnouncement
    | identityCreator =>
      rcases hStream with hReport | hAnnouncement
      · obtain ⟨u, hu, hEq⟩ := List.mem_map.mp hReport
        injection hEq with hUser hActivated
        exact hLive u hu hActivated (hUser ▸ hId)
      · cases hAnnouncement

/-- The live identities are kept, and what is remembered has been announced, exactly if no lookup for a candidate
fails. -/
theorem live_identities_kept_iff (x : AtStartup) (clusterId : String) (stored : List ServiceIdentity) :
    (x.KeepsLive clusterId stored ∧ x.AppliedAnnounced) ↔ x.CandidatesFound := by
  have hAnnounced : x.AppliedAnnounced ↔ x.CandidatesFound :=
    and_congr Listing.appliedAnnounced_iff Listing.appliedAnnounced_iff
  constructor
  · exact fun h => hAnnounced.mp h.2
  · exact fun h => ⟨keepsLive_of_found h clusterId stored, hAnnounced.mpr h⟩

/-- One deployment with an identity, and the lookup of its namespace is lost. -/
def sampleLost : AtStartup where
  namespaces := AList.singleton "ns" ⟨AList.singleton SDP_INJECTOR_LABEL "enabled"⟩
  deployments := ⟨[⟨0, sampleDeployment⟩], fun _ => .requestLost, by decide⟩
  sdpServices := ⟨[], fun _ => .delivered, by decide⟩
  users := [(IdentityManager.sampleUser "u1", true)]

def sampleIdentities : List ServiceIdentity := [IdentityManager.sampleIdentity "web" "u1"]

def sampleReady : Gathering :=
  runD (next fun _ => .delivered) (started "cluster" sampleIdentities sampleLost.found)
    (inTurn [.identityCreator, .identityCreator, .deploymentWatcher, .sdpServiceWatcher])

theorem lost_lookup_deletes_identity :
    ¬sampleLost.KeepsLive "cluster" sampleIdentities ∧ ¬sampleLost.AppliedAnnounced := by
  constructor
  · intro h
    have hRun : Reachable (fun _ => .delivered) "cluster" sampleIdentities sampleLost.found sampleReady :=
      Steps.of_runD _ (Admits.of_forall (fun _ _ _ => trivial) _) (by decide +kernel)
    have hKept := h _ _ hRun (by decide +kernel) (IdentityManager.sampleIdentity "web" "u1") (by decide +kernel)
      (.inl ⟨_, List.mem_singleton_self _, by decide +kernel⟩) (by decide +kernel) (fun _ => .delivered) .asStored
    exact absurd hKept.registered (by decide +kernel)
  · intro h
    exact absurd (h.1 _ (List.mem_singleton_self _) "ns_web" (by decide +kernel) (by decide +kernel))
      (by decide +kernel)

end AtStartup

end SdpK8sInjector.IdentityService
