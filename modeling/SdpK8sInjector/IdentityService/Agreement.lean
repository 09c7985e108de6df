import SdpK8sInjector.IdentityService.Startup
import SdpK8sInjector.IdentityService.Writes
import Mathlib.Data.List.Induction

/-! # The registered identities as a copy of the objects in the API

Memory is keyed by service id and the API by service name. Over services that
the names tell apart the two maps hold the same specs, after every message.
-/

namespace SdpK8sInjector.IdentityService

open Lib Common ServiceCredentialsProvider

/-- Services that neither key confuses. -/
structure Services where
  mem : String → String → Prop
  plain : ∀ ns name, mem ns name → '_' ∉ ns.toList ∧ '_' ∉ name.toList
  distinct : ∀ ns name ns' name', mem ns name → mem ns' name' →
    formatServiceName ns name = formatServiceName ns' name' → ns = ns' ∧ name = name'

namespace Services

variable (S : Services)

def Has {α : Type} [Named α] [Namespaced α] (x : α) : Prop := S.mem (Namespaced.ns x) (Named.name x)

/-- A candidate without a namespace is about no service at all. -/
def Names (c : ServiceCandidate) : Prop := ∀ ns, MaybeNamespaced.ns c = some ns → S.mem ns (Named.name c)

def Over : IdentityManagerProtocol → Prop
  | .requestServiceIdentity c | .foundServiceCandidate c | .deletedServiceCandidate c => S.Names c
  | .deleteServiceIdentity identity => S.Has identity
  | .activatedServiceUser _ serviceNs serviceName => S.mem serviceNs serviceName
  | .releaseDeviceId lookup _ => S.mem lookup.ns lookup.name
  | _ => True

def Admits (_ : IdentityManager) : IdentityManager.Event → Prop
  | .arrive msg => S.Over msg
  | .handle _ => True

variable {S}

/-- Within one namespace the names of the services are all that their keys differ in. -/
def within (ns : String) (hNs : '_' ∉ ns.toList) : Services where
  mem ns' name := ns' = ns ∧ '_' ∉ name.toList
  plain := by
    rintro ns' name ⟨rfl, hName⟩
    exact ⟨hNs, hName⟩
  distinct := by
    rintro ns' name _ name' ⟨rfl, _⟩ ⟨rfl, _⟩ h
    refine ⟨rfl, String.toList_inj.mp ?_⟩
    simpa [formatServiceName] using congrArg String.toList h

theorem serviceId_inj {ns name ns' name' : String} (h : S.mem ns name) :
    formatServiceId ns name = formatServiceId ns' name' ↔ ns = ns' ∧ name = name' := by
  constructor
  · exact formatServiceId_injective (S.plain _ _ h).1 (S.plain _ _ h).2
  · rintro ⟨rfl, rfl⟩
    rfl

theorem serviceName_inj {ns name ns' name' : String} (h : S.mem ns name) (h' : S.mem ns' name') :
    formatServiceName ns name = formatServiceName ns' name' ↔ ns = ns' ∧ name = name' := by
  constructor
  · exact S.distinct _ _ _ _ h h'
  · rintro ⟨rfl, rfl⟩
    rfl

end Services

/-- The same specs under the two keys of every service, and nothing else on either side. -/
structure Agree (S : Services) (services objects : HashMap String ServiceIdentity) : Prop where
  registered : ∀ id i, services.lookup id = some i → S.Has i ∧ Service.serviceId i = id
  stored : ∀ key o, objects.lookup key = some o → S.Has o ∧ Service.serviceName o = key
  same : ∀ ns name, S.mem ns name →
    (services.lookup (formatServiceId ns name)).map ServiceIdentity.spec =
      (objects.lookup (formatServiceName ns name)).map ServiceIdentity.spec

namespace Agree

variable {S : Services} {services objects : HashMap String ServiceIdentity}

theorem empty : Agree S ∅ ∅ := ⟨by simp, by simp, by simp⟩

theorem insert (h : Agree S services objects) {i o : ServiceIdentity} (hMem : S.Has i) (hSpec : o.spec = i.spec) :
    Agree S (AList.insert (Service.serviceId i) i services) (AList.insert (Service.serviceName i) o objects) where
  registered id j hLookup := by
    rw [HashMap.lookup_insert_eq_ite] at hLookup
    split at hLookup
    · cases hLookup
      exact ⟨hMem, Eq.symm ‹_›⟩
    · exact h.registered id j hLookup
  stored key p hLookup := by
    rw [HashMap.lookup_insert_eq_ite] at hLookup
    split at hLookup
    · cases hLookup
      have hNs : Namespaced.ns o = Namespaced.ns i := congrArg ServiceIdentitySpec.serviceNamespace hSpec
      have hName : Named.name o = Named.name i := congrArg ServiceIdentitySpec.serviceName hSpec
      refine ⟨?_, ?_⟩
      · rw [Services.Has, hNs, hName]
        exact hMem
      · rw [Service.serviceName, hNs, hName]
        exact Eq.symm ‹_›
    · exact h.stored key p hLookup
  same ns name hService := by
    rw [HashMap.lookup_insert_eq_ite, HashMap.lookup_insert_eq_ite]
    simp only [Service.serviceId, Service.serviceName, Services.serviceId_inj hService,
      Services.serviceName_inj hService hMem]
    split
    · simp [hSpec]
    · exact h.same ns name hService

theorem eraseAll (h : Agree S services objects) {deleted : List ServiceIdentity} (hMem : ∀ x ∈ deleted, S.Has x) :
    Agree S (HashMap.eraseAll services (deleted.map Service.serviceId))
      (HashMap.eraseAll objects (deleted.map Service.serviceName)) where
  registered id j hLookup := by
    rw [HashMap.lookup_eraseAll] at hLookup
    split at hLookup
    · cases hLookup
    · exact h.registered id j hLookup
  stored key p hLookup := by
    rw [HashMap.lookup_eraseAll] at hLookup
    split at hLookup
    · cases hLookup
    · exact h.stored key p hLookup
  same ns name hService := by
    rw [HashMap.lookup_eraseAll, HashMap.lookup_eraseAll]
    have hBoth : formatServiceId ns name ∈ deleted.map Service.serviceId ↔
        formatServiceName ns name ∈ deleted.map Service.serviceName := by
      simp only [List.mem_map, Service.serviceId, Service.serviceName]
      refine exists_congr fun x => and_congr_right fun hx => ?_
      rw [eq_comm, Services.serviceId_inj hService, eq_comm (a := formatServiceName _ _),
        Services.serviceName_inj hService (hMem x hx)]
    simp only [hBoth]
    split
    · rfl
    · exact h.same ns name hService

theorem specs_eq (h : Agree S services objects) (id : String) (spec : ServiceIdentitySpec) :
    (∃ i, services.lookup id = some i ∧ i.spec = spec) ↔
      ∃ key o, objects.lookup key = some o ∧ Service.serviceId o = id ∧ o.spec = spec := by
  constructor
  · rintro ⟨i, hLookup, rfl⟩
    obtain ⟨hMem, rfl⟩ := h.registered id i hLookup
    have hSame := h.same _ _ hMem
    rw [show services.lookup (formatServiceId (Namespaced.ns i) (Named.name i)) = some i from hLookup] at hSame
    obtain ⟨o, ho, hSpec⟩ := Option.map_eq_some_iff.mp hSame.symm
    exact ⟨_, o, ho, congrArg (fun spec : ServiceIdentitySpec =>
      formatServiceId spec.serviceNamespace spec.serviceName) hSpec, hSpec⟩
  · rintro ⟨key, o, ho, rfl, rfl⟩
    obtain ⟨hMem, rfl⟩ := h.stored key o ho
    have hSame := h.same _ _ hMem
    rw [show objects.lookup (formatServiceName (Namespaced.ns o) (Named.name o)) = some o from ho] at hSame
    obtain ⟨i, hi, hSpec⟩ := Option.map_eq_some_iff.mp hSame
    exact ⟨i, hi, hSpec⟩

end Agree

namespace IdentityManager

variable {outcomes : Nat → CallOutcome} {order : IterationOrder} {S : Services}

theorem Services.has_of_serviceId {c : ServiceCandidate} (hNames : S.Names c) {identity : ServiceIdentity}
    (hId : MaybeService.serviceId c = .ok (Service.serviceId identity)) : S.Has identity := by
  obtain ⟨ns, hNs, hFormat⟩ := MaybeService.serviceId_eq_ok.mp hId
  have hMem := hNames ns hNs
  obtain ⟨hSameNs, hSameName⟩ := (Services.serviceId_inj hMem).mp hFormat.symm
  rw [Services.Has, ← hSameNs, ← hSameName]
  exact hMem

theorem agree_write {requested : ServiceCandidate → Prop} (hRequested : ∀ c, requested c → S.Names c)
    {m m' : IdentityManager} (h : Agree S m.identities m.objects) (hWrite : Write requested m m') :
    Agree S m'.identities m'.objects := by
  cases hWrite with
  | keep hIdentities hObjects =>
    rw [hIdentities, hObjects]
    exact h
  | create c identity hCandidate hId _ hIdentities hObjects =>
    rw [hIdentities, hObjects]
    exact h.insert (Services.has_of_serviceId (hRequested c hCandidate) hId) rfl
  | replace i identity hi hNs hName hIdentities hObjects =>
    have hLookup := (mem_identities _).mp hi
    have hMem : S.Has identity := by
      rw [Services.Has, hNs, hName]
      exact (h.registered _ i hLookup).1
    rcases hObjects with hNone | ⟨o, hObjects, hSpec⟩
    · have hSame := h.same _ _ hMem
      rw [Service.serviceName] at hNone
      rw [hNone, hNs, hName, show m.identities.lookup (formatServiceId _ _) = some i from hLookup] at hSame
      cases hSame
    · rw [hIdentities, hObjects]
      exact h.insert hMem hSpec
  | erase deleted hDeleted hIdentities hObjects =>
    rw [hIdentities, hObjects]
    exact h.eraseAll fun x hx => (h.registered _ x ((mem_identities _).mp (hDeleted x hx))).1

theorem agree_writes {requested : ServiceCandidate → Prop} (hRequested : ∀ c, requested c → S.Names c)
    {m m' : IdentityManager} (h : Agree S m.identities m.objects) (hWrites : Writes requested m m') :
    Agree S m'.identities m'.objects := by
  induction hWrites with
  | refl => exact h
  | tail _ hWrite ih => exact agree_write hRequested ih hWrite

/-- What a run keeps: the two maps agree, and nothing on its way names another service. -/
structure Tracked (S : Services) (m : IdentityManager) : Prop where
  agree : Agree S m.identities m.objects
  missing : ∀ id c, m.missingServiceCandidates.lookup id = some c → S.Names c
  pending : ∀ msg ∈ m.identityManagerQueue.pending, S.Over msg

theorem Tracked.handled_agree {m : IdentityManager} (h : Tracked S m) {msg : IdentityManagerProtocol}
    (hMsg : S.Over msg)
    (hCalls : (handle outcomes order msg m).failures = m.failures) :
    Agree S (handle outcomes order msg m).identities (handle outcomes order msg m).objects := by
  by_cases hKind : ∀ x, msg ≠ .deleteServiceIdentity x
  · refine agree_writes (fun c hc => ?_) h.agree (handle_writes hKind hCalls)
    cases msg with
    | requestServiceIdentity candidate =>
      cases hc
      exact hMsg
    | identityManagerReady =>
      obtain ⟨id, hLookup⟩ := HashMap.mem_values.mp hc
      exact h.missing id c hLookup
    | _ => cases hc
  · obtain ⟨x, rfl⟩ := not_forall_not.mp hKind
    obtain ⟨deleted, _, hDeleted, hAll⟩ := deleteServiceIdentity_deleted outcomes x m
    cases hAll hCalls
    change Agree S (m.deleteServiceIdentity outcomes x).identities (m.deleteServiceIdentity outcomes x).objects
    rw [hDeleted.identities, hDeleted.objects hCalls]
    refine h.agree.eraseAll fun y hy => ?_
    rw [List.mem_singleton.mp hy]
    exact hMsg

theorem Tracked.selfSent {m : IdentityManager} (h : Tracked S m) (msg : IdentityManagerProtocol) :
    ∀ x ∈ m.selfSent msg, S.Over x := by
  intro x hx
  cases IdentityManager.tellsItself_of_mem hx with
  | creatorReady hWatchers => exact trivial
  | watcherReady hWatchers hCreator => exact trivial
  | deleted candidate identity hCandidate hIdentity => exact (h.agree.registered _ identity hIdentity).1

theorem Tracked.step {m m' : IdentityManager} (h : Tracked S m) {event : Event} (hAdmitted : S.Admits m event)
    (hNext : next outcomes m event = some m') (hCalls : m'.failures = m.failures) : Tracked S m' := by
  cases event with
  | arrive msg =>
    cases hNext
    refine ⟨h.agree, h.missing, fun x hx => ?_⟩
    rcases List.mem_append.mp hx with hx | hx
    · exact h.pending x hx
    · rw [List.mem_singleton.mp hx]
      exact hAdmitted
  | handle order =>
    obtain ⟨⟨msg, queue⟩, hRecv, rfl⟩ := Option.map_eq_some_iff.mp hNext
    obtain ⟨rest, hPending, rfl⟩ := Channel.recv_eq_some.mp hRecv
    let m₁ : IdentityManager :=
      { m with identityManagerQueue := ⟨m.identityManagerQueue.received ++ [msg], rest⟩ }
    have hRest : ∀ x ∈ rest, S.Over x := fun x hx => h.pending x (hPending ▸ List.mem_cons_of_mem msg hx)
    have hMsg : S.Over msg := h.pending msg (hPending ▸ List.mem_cons_self)
    have h₁ : Tracked S m₁ := ⟨h.agree, h.missing, hRest⟩
    refine ⟨h₁.handled_agree hMsg hCalls, fun id c hLookup => ?_, fun x hx => ?_⟩
    · rcases handle_missing (m := m₁) hLookup with hBefore | ⟨rfl, _⟩
      · exact h.missing id c hBefore
      · exact hMsg
    · dsimp only at hx
      rw [handle_queue, Channel.pending_sendAll] at hx
      rcases List.mem_append.mp hx with hx | hx
      · exact hRest x hx
      · exact h₁.selfSent msg x hx

theorem Tracked.run {m m' : IdentityManager} (h : Tracked S m) (hRun : Steps (next outcomes) S.Admits m m')
    (hCalls : m'.failures = m.failures) : Tracked S m' := by
  have hInvariant : m.failures <+: m'.failures ∧ (m'.failures = m.failures → Tracked S m') := by
    refine hRun.invariant (fun m' => m.failures <+: m'.failures ∧ (m'.failures = m.failures → Tracked S m')) ?_
      ⟨List.prefix_refl _, fun _ => h⟩
    rintro s event t ⟨hGrown, hTracked⟩ hAdmitted hNext
    have hStep : s.failures <+: t.failures := by
      cases event with
      | arrive msg =>
        cases hNext
        exact List.prefix_refl _
      | handle order =>
        obtain ⟨⟨msg, queue⟩, _, rfl⟩ := Option.map_eq_some_iff.mp hNext
        exact (handle_grows outcomes order msg { s with identityManagerQueue := queue }).failures
    refine ⟨hGrown.trans hStep, fun hSame => ?_⟩
    obtain ⟨hFirst, hLast⟩ := prefix_between hGrown hStep hSame
    exact (hTracked hFirst).step hAdmitted hNext hLast
  exact hInvariant.2 hCalls

theorem holding_append (xs : List ServiceIdentity) (x : ServiceIdentity) (hPlain : '_' ∉ x.metadataName.toList)
    (hFresh : x.metadataName ∉ (ObjectStore.holding xs).objects) :
    (ObjectStore.holding (xs ++ [x])).objects =
      AList.insert x.metadataName x (ObjectStore.holding xs).objects := by
  have hCreate : ObjectStore.create x (ObjectStore.holding xs) = .ok (x, (ObjectStore.holding xs).put x hPlain) :=
    ObjectStore.create_eq_ok.mpr ⟨rfl, hFresh, hPlain, rfl⟩
  rw [ObjectStore.holding, List.foldl_append]
  simp only [List.foldl_cons, List.foldl_nil]
  rw [show List.foldl _ ObjectStore.empty xs = ObjectStore.holding xs from rfl, hCreate]
  rfl

/-- What the API lists, each object under the name of its service, is restored as it is stored. -/
theorem agree_restored (clusterId : String) (stored : List ServiceIdentity)
    (hStored : ∀ i ∈ stored, S.Has i ∧ i.metadataName = Service.serviceName i)
    (hNames : (stored.map ServiceIdentity.metadataName).Nodup) :
    Agree S (restored clusterId stored).identities (restored clusterId stored).objects := by
  have hFold : ∀ m : IdentityManager, m.identities = ∅ →
      Agree S (stored.foldl registerOrUpdateIdentity m).identities (ObjectStore.holding stored).objects ∧
        ∀ key ∈ (ObjectStore.holding stored).objects, key ∈ stored.map ServiceIdentity.metadataName := by
    intro m hEmpty
    induction stored using List.reverseRecOn with
    | nil => exact ⟨hEmpty ▸ Agree.empty, fun key hKey => absurd hKey (AList.notMem_empty key)⟩
    | append_singleton xs x ih =>
      rw [List.map_append] at hNames
      obtain ⟨hAgree, hKeys⟩ := ih (fun i hi => hStored i (List.mem_append_left _ hi))
        (List.Nodup.of_append_left hNames)
      obtain ⟨hMem, hName⟩ := hStored x (by simp)
      have hFresh : x.metadataName ∉ (ObjectStore.holding xs).objects := fun hKey =>
        (List.nodup_append'.mp hNames).2.2 (hKeys _ hKey) (by simp)
      have hPlain : '_' ∉ x.metadataName.toList := by
        rw [hName, Service.serviceName, toList_formatServiceName]
        simp [S.plain _ _ hMem]
      rw [holding_append xs x hPlain hFresh, List.foldl_append]
      refine ⟨hName ▸ hAgree.insert hMem rfl, fun key hKey => ?_⟩
      rw [List.map_append, List.mem_append]
      rcases (AList.mem_insert _).mp hKey with rfl | hKey
      · exact .inr (by simp)
      · exact .inl (hKeys key hKey)
  have hObjects : (restored clusterId stored).objects = (ObjectStore.holding stored).objects := by
    obtain ⟨_, hRestored⟩ := restored_frame clusterId stored
    rw [hRestored]
    rfl
  rw [hObjects]
  exact (hFold (new clusterId ⟨.holding stored, 0, []⟩) rfl).1

/-- After every message the services hold, under their ids, the specs of the objects in the API. -/
theorem specs_agree {clusterId : String} {stored : List ServiceIdentity} {m : IdentityManager}
    (hStored : ∀ i ∈ stored, S.Has i ∧ i.metadataName = Service.serviceName i)
    (hNames : (stored.map ServiceIdentity.metadataName).Nodup)
    (hRun : Steps (next outcomes) S.Admits (restored clusterId stored) m) (hCalls : m.failures = []) :
    (∀ id spec, (∃ i, m.identities.lookup id = some i ∧ i.spec = spec) ↔
      ∃ key o, m.objects.lookup key = some o ∧ Service.serviceId o = id ∧ o.spec = spec) ∧
    ∀ id i, m.identities.lookup id = some i → Service.serviceId i = id := by
  have hSame := initializeFrom_sameRecords (new clusterId ⟨.holding stored, 0, []⟩) stored
  have hStart : Tracked S (restored clusterId stored) := by
    refine ⟨agree_restored clusterId stored hStored hNames, fun id c hLookup => ?_, fun msg hMsg => ?_⟩
    · rw [restored, hSame.missing] at hLookup
      cases hLookup
    · obtain ⟨_, hRestored⟩ := restored_frame clusterId stored
      rw [hRestored] at hMsg
      cases hMsg
  have hFailures : (restored clusterId stored).failures = [] := by
    obtain ⟨_, hRestored⟩ := restored_frame clusterId stored
    rw [hRestored]
    rfl
  have hTracked := hStart.run hRun (hCalls.trans hFailures.symm)
  exact ⟨hTracked.agree.specs_eq, fun id i hLookup => (hTracked.agree.registered id i hLookup).2⟩

/-- A request, the activation of a user, a released device id and a deletion. -/
def sampleMessages : List IdentityManagerProtocol :=
  [.foundServiceUser (sampleUser "u2") false, .requestServiceIdentity (sampleCandidate "b"),
    .activatedServiceUser (sampleUser "u2") "ns" "b",
    .releaseDeviceId (.new "ns" "b" none) ⟨"00000000-0000-0000-0000-00000000000b", by decide⟩,
    .deletedServiceCandidate (sampleCandidate "a")]

def sampleEvents : List Event := deliver sampleMessages ++ [.handle .asStored]

def sampleAgreed : IdentityManager :=
  runD (next fun _ => .delivered) (restored "cluster" [sampleIdentity "a" "u1"]) sampleEvents

theorem specs_agree_sample :
    (∀ id spec, (∃ i, sampleAgreed.identities.lookup id = some i ∧ i.spec = spec) ↔
      ∃ key o, sampleAgreed.objects.lookup key = some o ∧ Service.serviceId o = id ∧ o.spec = spec) ∧
    ∀ id i, sampleAgreed.identities.lookup id = some i → Service.serviceId i = id := by
  let S : Services := .within "ns" (by decide)
  have hStored : ∀ i ∈ [sampleIdentity "a" "u1"], S.Has i ∧ i.metadataName = Service.serviceName i := by
    intro i hi
    rw [List.mem_singleton.mp hi]
    exact ⟨⟨rfl, by decide⟩, rfl⟩
  have hOver : ∀ event ∈ sampleEvents, ∀ m, S.Admits m event := by
    have hNames : ∀ service, '_' ∉ service.toList → S.Names (sampleCandidate service) := by
      intro service hPlain ns hNs
      cases hNs
      exact ⟨rfl, hPlain⟩
    intro event hEvent m
    rcases List.mem_append.mp hEvent with hDelivered | hLast
    · obtain ⟨msg, hMsg, hMem⟩ := List.mem_flatMap.mp hDelivered
      simp only [List.mem_cons, List.not_mem_nil, or_false] at hMem
      rcases hMem with rfl | rfl
      · simp only [sampleMessages, List.mem_cons, List.not_mem_nil, or_false] at hMsg
        rcases hMsg with rfl | rfl | rfl | rfl | rfl
        exacts [trivial, hNames "b" (by decide), ⟨rfl, by decide⟩, ⟨rfl, by decide⟩, hNames "a" (by decide)]
      · exact trivial
    · rw [List.mem_singleton.mp hLast]
      exact trivial
  have hRun : Steps (next fun _ => .delivered) S.Admits (restored "cluster" [sampleIdentity "a" "u1"]) sampleAgreed :=
    Steps.of_runD sampleEvents (Admits.of_forall hOver _) (by decide)
  exact specs_agree hStored (by decide) hRun (by decide)

end IdentityManager

end SdpK8sInjector.IdentityService
