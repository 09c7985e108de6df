import SdpK8sInjector.IdentityService.ClientProfiles
import SdpK8sInjector.IdentityService.Creator
import SdpK8sInjector.Lib.Transition

/-! # The client profile of a cluster and its URL

Each request lists the profiles, creates one if the cluster has none, and asks for the URL.
Between these calls other clusters create theirs, and any call can be lost.
-/

namespace SdpK8sInjector.IdentityService

open Lib Common

structure ProfileStore where
  profiles : List ClientProfile
deriving DecidableEq

namespace ProfileStore

def getClientProfiles (s : ProfileStore) : Except SDPClientError (List ClientProfile × ProfileStore) :=
  .ok (s.profiles, s)

def createClientProfile (p : ClientProfile) (s : ProfileStore) :
    Except SDPClientError (ClientProfile × ProfileStore) :=
  if s.profiles.any fun q => q.id == p.id then .error .conflict else .ok (p, ⟨s.profiles ++ [p]⟩)

def getProfileClientUrl (urlOf : String → String) (id : String) (s : ProfileStore) :
    Except SDPClientError (String × ProfileStore) :=
  if s.profiles.any fun q => q.id == id then .ok (urlOf id, s) else .error .notFound

end ProfileStore

abbrev ProfileSystem := Remote ProfileStore SDPClientError

namespace ProfileSystem

variable (outcomes : Nat → CallOutcome)

/-- The profiles are filtered here and not by the controller. -/
def getClientProfiles (system : ProfileSystem) (tag : Option String) :
    Except SDPClientError (List ClientProfile) × ProfileSystem :=
  match system.call outcomes .request ProfileStore.getClientProfiles with
  | (.ok ps, system) =>
    (.ok (match tag with
      | some tag => ps.filter fun p => p.tags.contains tag
      | none => ps), system)
  | (.error e, system) => (.error e, system)

def createClientProfile (system : ProfileSystem) (p : ClientProfile) :
    Except SDPClientError ClientProfile × ProfileSystem :=
  system.call outcomes .request (ProfileStore.createClientProfile p)

def getProfileClientUrl (urlOf : String → String) (system : ProfileSystem) (id : String) :
    Except SDPClientError String × ProfileSystem :=
  system.call outcomes .request (ProfileStore.getProfileClientUrl urlOf id)

end ProfileSystem

/-- Where a request for the URL is: it has listed the profiles, or it has found or made the one to use. -/
inductive ProfileTask where
  | idle
  | listed (ps : List ClientProfile)
  | chosen (profileId profileName : String)
deriving DecidableEq

structure UrlRequests where
  system : ProfileSystem
  task : ProfileTask
  returned : List (Except IdentityServiceError String)

/-- What the requests meet outside, and how an error is displayed. -/
structure ProfileEnvironment where
  outcomes : Nat → CallOutcome
  display : SDPClientError → String
  lowercase : String → String
  urlOf : String → String
  clusterId : String

namespace UrlRequests

variable (env : ProfileEnvironment)

/-- The last call of a request, with its error. -/
def askUrl (profileId profileName : String) (system : ProfileSystem) :
    Except IdentityServiceError String × ProfileSystem :=
  match system.getProfileClientUrl env.outcomes env.urlOf profileId with
  | (.error e, system) => (.error (.text
      ("Unable to get the client profile url for client profile " ++ profileName ++ ": " ++ env.display e)), system)
  | (.ok url, system) => (.ok url, system)

def start (profiles : List ClientProfile) : UrlRequests := ⟨⟨⟨profiles⟩, 0, []⟩, .idle, []⟩

def fail (message : String) (e : SDPClientError) (r : UrlRequests) : UrlRequests :=
  { r with task := .idle, returned := r.returned ++ [.error (.text (message ++ env.display e))] }

def list (r : UrlRequests) : UrlRequests :=
  match r.system.getClientProfiles env.outcomes none with
  | (.error e, system) => { r with system := system }.fail env "Unable to get client profiles: " e
  | (.ok ps, system) => { r with system := system, task := .listed ps }

/-- `none` where the cluster id cannot be truncated, which ends the process. -/
def choose (id : Uuid) (suffix : RandomSuffix 5) (ps : List ClientProfile) (r : UrlRequests) : Option UrlRequests :=
  (ClientProfile.getOrCreateClientProfileUrl env.lowercase id suffix env.clusterId ps).map fun (profileType, _) =>
    match profileType with
    | .freshClientProfile p =>
      match r.system.createClientProfile env.outcomes p with
      | (.error e, system) => { r with system := system }.fail env "Unable to create a new client profile: " e
      | (.ok p, system) => { r with system := system, task := .chosen p.id p.name }
    | .existingClientProfile p => { r with task := .chosen p.id p.name }

def url (profileId profileName : String) (r : UrlRequests) : UrlRequests :=
  let (result, system) := askUrl env profileId profileName r.system
  ⟨system, .idle, r.returned ++ [result]⟩

inductive Event where
  | list
  | choose (id : Uuid) (suffix : RandomSuffix 5)
  | url
  | other (p : ClientProfile)

/-- Others create profiles between the calls of a request. -/
def next (r : UrlRequests) : Event → Option UrlRequests
  | .list =>
    match r.task with
    | .idle => some (r.list env)
    | _ => none
  | .choose id suffix =>
    match r.task with
    | .listed ps => r.choose env id suffix ps
    | _ => none
  | .url =>
    match r.task with
    | .chosen profileId profileName => some (r.url env profileId profileName)
    | _ => none
  | .other p => some { r with system := { r.system with store := ⟨r.system.store.profiles ++ [p]⟩ } }

/-- `get_client_profile_url`, where nothing comes between its calls. -/
def getClientProfileUrl (id : Uuid) (suffix : RandomSuffix 5) (system : ProfileSystem) :
    Option (Except IdentityServiceError String × ProfileSystem) :=
  match system.getClientProfiles env.outcomes none with
  | (.error e, system) => some (.error (.text ("Unable to get client profiles: " ++ env.display e)), system)
  | (.ok ps, system) =>
    (ClientProfile.getOrCreateClientProfileUrl env.lowercase id suffix env.clusterId ps).map fun (profileType, _) =>
      match profileType with
      | .freshClientProfile p =>
        match system.createClientProfile env.outcomes p with
        | (.error e, system) => (.error (.text ("Unable to create a new client profile: " ++ env.display e)), system)
        | (.ok p, system) => askUrl env p.id p.name system
      | .existingClientProfile p => askUrl env p.id p.name system

/-- The requests go through the calls of the function. -/
theorem run_of_getClientProfileUrl {id : Uuid} {suffix : RandomSuffix 5} {r : UrlRequests} (hIdle : r.task = .idle)
    {result : Except IdentityServiceError String} {system : ProfileSystem}
    (h : getClientProfileUrl env id suffix r.system = some (result, system)) :
    ∃ events, events <+: [Event.list, .choose id suffix, .url] ∧
      run (next env) r events = some ⟨system, .idle, r.returned ++ [result]⟩ := by
  unfold getClientProfileUrl at h
  cases hList : r.system.getClientProfiles env.outcomes none with
  | mk listed system₁ =>
    rw [hList] at h
    have hFirst : next env r .list = some (r.list env) := by simp only [next, hIdle]
    cases listed with
    | error e =>
      cases h
      exact ⟨[.list], ⟨_, rfl⟩, by simp only [run, hFirst, Option.bind_some, list, hList, fail]⟩
    | ok ps =>
      obtain ⟨⟨profileType, leftovers⟩, hGot, hRest⟩ := Option.map_eq_some_iff.mp h
      have hListed : r.list env = ⟨system₁, .listed ps, r.returned⟩ := by simp only [list, hList]
      have hChosen : ∀ (p : ClientProfile)
          (system₂ : ProfileSystem), askUrl env p.id p.name system₂ = (result, system) →
          next env ⟨system₁, .listed ps, r.returned⟩ (.choose id suffix) =
          some ⟨system₂, .chosen p.id p.name, r.returned⟩ →
          run (next env) r [.list, .choose id suffix, .url] = some ⟨system, .idle, r.returned ++ [result]⟩ := by
        intro p system₂ hAsked hNext
        simp only [run, hFirst, hListed, Option.bind_some, hNext]
        simp only [next, url, hAsked, Option.bind_some]
      cases profileType with
      | freshClientProfile p =>
        cases hCreate : system₁.createClientProfile env.outcomes p with
        | mk created system₂ =>
          simp only [hCreate] at hRest
          cases created with
          | error e =>
            cases hRest
            refine ⟨[.list, .choose id suffix], ⟨[.url], rfl⟩, ?_⟩
            simp only [run, hFirst, hListed, Option.bind_some]
            simp only [next, choose, hGot, hCreate, Option.map_some, fail, Option.bind_some]
          | ok q =>
            refine ⟨_, List.prefix_refl _, hChosen q system₂ hRest ?_⟩
            simp only [next, choose, hGot, hCreate, Option.map_some]
      | existingClientProfile p =>
        refine ⟨_, List.prefix_refl _, hChosen p system₁ hRest ?_⟩
        simp only [next, choose, hGot, Option.map_some]

/-! ## One profile for each cluster -/

/-- The profiles that are taken for those of the cluster. -/
def own (shortName : String) (ps : List ClientProfile) : List ClientProfile :=
  ps.filter fun p => startsWith p.name shortName

def profiles (r : UrlRequests) : List ClientProfile := r.system.store.profiles

/-- The cluster has the profiles it began with, or one that it made since it had none. Requests use the first. -/
structure OneProfile (shortName : String) (initial : List ClientProfile) (r : UrlRequests) : Prop where
  kept : own shortName r.profiles = own shortName initial ∨
    own shortName initial = [] ∧ ∃ p, own shortName r.profiles = [p] ∧
      ClientProfile.CreatedFor env.lowercase env.clusterId p
  listed : ∀ ps, r.task = .listed ps → own shortName ps = own shortName r.profiles
  chosen : ∀ id name, r.task = .chosen id name → ∃ p, (own shortName r.profiles).head? = some p ∧ p.id = id
  returned : ∀ url, .ok url ∈ r.returned → ∃ p, (own shortName r.profiles).head? = some p ∧
    url = env.urlOf p.id

variable {env} {shortName : String} {initial : List ClientProfile} {r t : UrlRequests}

theorem getClientProfiles_spec (outcomes : Nat → CallOutcome) (system : ProfileSystem) :
    (system.getClientProfiles outcomes none).2.store = system.store ∧
      ∀ ps, (system.getClientProfiles outcomes none).1 = .ok ps → ps = system.store.profiles := by
  have hStore : (system.call outcomes .request ProfileStore.getClientProfiles).2.store = system.store :=
    Remote.call_invariant (fun store => store = system.store) rfl fun _ _ hOp => by cases hOp; rfl
  unfold ProfileSystem.getClientProfiles
  cases hCall : system.call outcomes .request ProfileStore.getClientProfiles with
  | mk result system' =>
    rw [hCall] at hStore
    cases result with
    | error e => exact ⟨hStore, fun ps h => by cases h⟩
    | ok listed =>
      refine ⟨hStore, fun ps h => ?_⟩
      obtain ⟨store, hOp, -⟩ := Remote.call_ok (congrArg Prod.fst hCall)
      cases hOp
      cases h
      rfl

variable (env) in
theorem askUrl_spec (profileId profileName : String) (system : ProfileSystem) :
    (askUrl env profileId profileName system).2.store = system.store ∧
      ∀ url, (askUrl env profileId profileName system).1 = .ok url → url = env.urlOf profileId := by
  have hOp : ∀ url store, ProfileStore.getProfileClientUrl env.urlOf profileId system.store = .ok (url, store) →
      url = env.urlOf profileId ∧ store = system.store := by
    intro url store h
    unfold ProfileStore.getProfileClientUrl at h
    split at h <;> cases h
    exact ⟨rfl, rfl⟩
  have hStore : (system.getProfileClientUrl env.outcomes env.urlOf profileId).2.store = system.store :=
    Remote.call_invariant (fun store => store = system.store) rfl fun url store h => (hOp url store h).2
  unfold askUrl
  cases hCall : system.getProfileClientUrl env.outcomes env.urlOf profileId with
  | mk result system' =>
    rw [hCall] at hStore
    cases result with
    | error e => exact ⟨hStore, fun url h => by cases h⟩
    | ok asked =>
      refine ⟨hStore, fun url h => ?_⟩
      obtain ⟨store, hDone, -⟩ := Remote.call_ok (congrArg Prod.fst hCall)
      cases h
      exact (hOp _ store hDone).1

/-- A profile that cannot be created may be there all the same. -/
theorem createClientProfile_spec (outcomes : Nat → CallOutcome) (p : ClientProfile) (system : ProfileSystem) :
    ((system.createClientProfile outcomes p).2.store = system.store ∨
        (system.createClientProfile outcomes p).2.store.profiles = system.store.profiles ++ [p]) ∧
      ∀ q, (system.createClientProfile outcomes p).1 = .ok q →
        q = p ∧ (system.createClientProfile outcomes p).2.store.profiles = system.store.profiles ++ [p] := by
  have hOp : ∀ q store, ProfileStore.createClientProfile p system.store = .ok (q, store) →
      q = p ∧ store.profiles = system.store.profiles ++ [p] := by
    intro q store h
    unfold ProfileStore.createClientProfile at h
    split at h <;> cases h
    exact ⟨rfl, rfl⟩
  refine ⟨?_, fun q hDone => ?_⟩
  · exact Remote.call_invariant (fun store => store = system.store ∨ store.profiles = system.store.profiles ++ [p])
      (.inl rfl) fun q store h => .inr (hOp q store h).2
  · obtain ⟨store, hStore, hSystem⟩ := Remote.call_ok hDone
    obtain ⟨rfl, hProfiles⟩ := hOp q store hStore
    exact ⟨rfl, (congrArg (fun s => s.store.profiles) hSystem).trans hProfiles⟩

/-- One is made for a cluster that has none; else the first is taken. -/
theorem getOrCreate_own {id : Uuid} {suffix : RandomSuffix 5} {ps : List ClientProfile}
    {profileType : ClientProfileType}
    {leftovers : Option (List ClientProfile)} (hShort : truncate 14 env.clusterId = some shortName)
    (h : ClientProfile.getOrCreateClientProfileUrl env.lowercase id suffix env.clusterId ps =
      some (profileType, leftovers)) :
    (own shortName ps = [] ∧ profileType =
        .freshClientProfile (ClientProfile.fresh env.lowercase id (shortName ++ "-" ++ suffix.val))) ∨
      ∃ p, (own shortName ps).head? = some p ∧ profileType = .existingClientProfile p := by
  simp only [ClientProfile.getOrCreateClientProfileUrl, getProfileClientUrlName, hShort, Option.map_some,
    Option.some.injEq] at h
  unfold own
  split at h <;> rename_i hFound <;> cases h <;> rw [hFound]
  · exact .inl ⟨rfl, rfl⟩
  · exact .inr ⟨_, rfl, rfl⟩
  · exact .inr ⟨_, rfl, rfl⟩

namespace OneProfile

theorem start (profiles : List ClientProfile) : OneProfile env shortName profiles (.start profiles) where
  kept := .inl rfl
  listed ps h := by cases h
  chosen id name h := by cases h
  returned url h := absurd h List.not_mem_nil

theorem same (h : OneProfile env shortName initial r) (hOwn : own shortName t.profiles = own shortName r.profiles)
    (hListed : ∀ ps, t.task = .listed ps → own shortName ps = own shortName r.profiles)
    (hChosen : ∀ id name, t.task = .chosen id name → ∃ p, (own shortName r.profiles).head? = some p ∧ p.id = id)
    (hReturned : ∀ url, .ok url ∈ t.returned → ∃ p, (own shortName r.profiles).head? = some p ∧
      url = env.urlOf p.id) :
    OneProfile env shortName initial t where
  kept := hOwn ▸ h.kept
  listed := hOwn ▸ hListed
  chosen := hOwn ▸ hChosen
  returned := hOwn ▸ hReturned

theorem list (h : OneProfile env shortName initial r) : OneProfile env shortName initial (r.list env) := by
  obtain ⟨hStore, hListed⟩ := getClientProfiles_spec env.outcomes r.system
  unfold UrlRequests.list
  cases hCall : r.system.getClientProfiles env.outcomes none with
  | mk result system =>
    rw [hCall] at hStore hListed
    have hOwn : own shortName system.store.profiles = own shortName r.profiles := by rw [hStore]; rfl
    cases result with
    | error e =>
      refine h.same hOwn (fun ps hTask => by cases hTask) (fun id name hTask => by cases hTask) fun url hUrl => ?_
      exact h.returned url (by simpa [UrlRequests.fail] using hUrl)
    | ok ps =>
      refine h.same hOwn (fun ps' hTask => ?_) (fun id name hTask => by cases hTask) h.returned
      cases hTask
      rw [hListed ps rfl]
      rfl

theorem url {id name : String} (h : OneProfile env shortName initial r) (hTask : r.task = .chosen id name) :
    OneProfile env shortName initial (r.url env id name) := by
  obtain ⟨hStore, hUrl⟩ := askUrl_spec env id name r.system
  have hOwn : own shortName (r.url env id name).profiles = own shortName r.profiles :=
    congrArg (fun store => own shortName store.profiles) hStore
  refine h.same hOwn (fun ps hTask => by cases hTask) (fun id name hTask => by cases hTask) fun url hReturned => ?_
  rcases List.mem_append.mp hReturned with hOld | hNew
  · exact h.returned url hOld
  · obtain ⟨p, hHead, rfl⟩ := h.chosen id name hTask
    exact ⟨p, hHead, hUrl url (List.mem_singleton.mp hNew).symm⟩

theorem other {p : ClientProfile} (h : OneProfile env shortName initial r)
    (hOther : startsWith p.name shortName = false) :
    OneProfile env shortName initial { r with
      system := { r.system with store := ⟨r.system.store.profiles ++ [p]⟩ } } := by
  refine h.same ?_ h.listed h.chosen h.returned
  simp [own, profiles, List.filter_append, hOther]

theorem made {p : ClientProfile} (h : OneProfile env shortName initial r) (hNone : own shortName r.profiles = [])
    (hCreated : ClientProfile.CreatedFor env.lowercase env.clusterId p)
    (hShort : truncate 14 env.clusterId = some shortName)
    (hProfiles : t.profiles = r.profiles ++ [p]) (hListed : ∀ ps, t.task ≠ .listed ps)
    (hChosen : ∀ id name, t.task = .chosen id name → p.id = id)
    (hReturned : ∀ url, .ok url ∈ t.returned → .ok url ∈ r.returned) : OneProfile env shortName initial t := by
  have hOwn : own shortName t.profiles = [p] := by
    rw [hProfiles, own, List.filter_append]
    exact (congrArg (· ++ _) hNone).trans (by simp [hCreated.startsWith hShort])
  have hInitial : own shortName initial = [] := by
    rcases h.kept with hSame | ⟨hNil, -⟩
    · exact hSame.symm.trans hNone
    · exact hNil
  refine ⟨.inr ⟨hInitial, p, hOwn, hCreated⟩, fun ps hTask => absurd hTask (hListed ps), fun id name hTask => ?_,
    fun url hUrl => ?_⟩
  · exact ⟨p, by rw [hOwn]; rfl, hChosen id name hTask⟩
  · obtain ⟨q, hHead, -⟩ := h.returned url (hReturned url hUrl)
    rw [hNone] at hHead
    cases hHead

theorem choose {id : Uuid} {suffix : RandomSuffix 5} {ps : List ClientProfile} (h : OneProfile env shortName initial r)
    (hShort : truncate 14 env.clusterId = some shortName) (hTask : r.task = .listed ps)
    (hNext : r.choose env id suffix ps = some t) : OneProfile env shortName initial t := by
  have hListed := h.listed ps hTask
  obtain ⟨⟨profileType, leftovers⟩, hGot, hEq⟩ := Option.map_eq_some_iff.mp hNext
  subst hEq
  rcases getOrCreate_own hShort hGot with ⟨hNone, rfl⟩ | ⟨p, hHead, rfl⟩
  · have hCreated : ClientProfile.CreatedFor env.lowercase env.clusterId
        (ClientProfile.fresh env.lowercase id (shortName ++ "-" ++ suffix.val)) :=
      ClientProfile.createdFor_iff.mpr ⟨id, suffix, shortName, hShort, rfl⟩
    generalize ClientProfile.fresh env.lowercase id (shortName ++ "-" ++ suffix.val) = p at hCreated
    obtain ⟨hStore, hDone⟩ := createClientProfile_spec env.outcomes p r.system
    have hNoOwn : own shortName r.profiles = [] := hListed.symm.trans hNone
    cases hCall : r.system.createClientProfile env.outcomes p with
    | mk result system =>
      rw [hCall] at hStore hDone
      simp only [hCall]
      cases result with
      | error e =>
        have hReturned : ∀ url,
          .ok url ∈ ({ r with system := system }.fail env "Unable to create a new client profile: "
            e).returned → .ok url ∈ r.returned := fun url hUrl => by simpa [UrlRequests.fail] using hUrl
        rcases hStore with hSame | hProfiles
        · refine h.same (congrArg (fun store => own shortName store.profiles) hSame) (fun ps hTask => by cases hTask)
            (fun id name hTask => by cases hTask) fun url hUrl => h.returned url (hReturned url hUrl)
        · exact h.made hNoOwn hCreated hShort hProfiles (fun ps hTask => by cases hTask)
            (fun id name hTask => by cases hTask)
            hReturned
      | ok q =>
        obtain ⟨rfl, hProfiles⟩ := hDone q rfl
        exact h.made hNoOwn hCreated hShort hProfiles (fun ps hTask => by cases hTask)
          (fun id name hTask => by cases hTask; rfl) fun url hUrl => hUrl
  · refine h.same rfl (fun ps hTask => by cases hTask) (fun id name hChosen => ?_) h.returned
    cases hChosen
    exact ⟨p, hListed ▸ hHead, rfl⟩

end OneProfile

/-- Whatever is lost and whatever other clusters do between the calls, the requests create at most one profile, and none
if the cluster has one; and every URL that they return is that of its first profile. -/
theorem one_profile_for_cluster (hShort : truncate 14 env.clusterId = some shortName)
    (h : Steps (next env) (fun _ event => ∀ p, event = .other p →
      startsWith p.name shortName = false) (.start initial) r) :
    (own shortName r.profiles = own shortName initial ∨ own shortName initial = [] ∧
        ∃ p, own shortName r.profiles = [p] ∧ ClientProfile.CreatedFor env.lowercase env.clusterId p) ∧
      ∀ url, .ok url ∈ r.returned → ∃ p, (own shortName r.profiles).head? = some p ∧
        url = env.urlOf p.id := by
  have hInv : OneProfile env shortName initial r := by
    refine Steps.invariant (OneProfile env shortName initial) (fun s event t hs hOther hNext => ?_) h (.start initial)
    cases event with
    | list =>
      cases hTask : s.task <;> simp only [next, hTask, Option.some.injEq, reduceCtorEq] at hNext
      exact hNext ▸ hs.list
    | choose id suffix =>
      cases hTask : s.task <;> simp only [next, hTask, reduceCtorEq] at hNext
      exact hs.choose hShort hTask hNext
    | url =>
      cases hTask : s.task <;> simp only [next, hTask, Option.some.injEq, reduceCtorEq] at hNext
      exact hNext ▸ hs.url hTask
    | other p =>
      cases hNext
      exact hs.other (hOther p rfl)
  exact ⟨hInv.kept, hInv.returned⟩

section Sample

open ClientProfile

/-- The reply to the first creation is lost. -/
def sampleEnvironment : ProfileEnvironment where
  outcomes n := if n = 1 then .replyLost else .delivered
  display _ := "lost"
  lowercase := toLowercase
  urlOf id := "appgate://" ++ id
  clusterId := "my-cluster-1"

def sampleEvents : List Event :=
  [.list, .other (fresh toLowercase sampleProfileId "other-a1b2c"),
    .choose ⟨"7b1c5a0e-93d2-4f6b-8a47-51e0c2d9f3a1", by decide⟩
    sampleSuffix, .list, .choose ⟨"d84e2f97-0b6a-4c35-9e1f-6a7380b4c5d2", by decide⟩ sampleSuffix, .url]

theorem one_profile_for_cluster_sample :
    (runD (next sampleEnvironment) (.start []) sampleEvents).returned =
        [.error (.text "Unable to create a new client profile: lost"),
          .ok "appgate://7b1c5a0e-93d2-4f6b-8a47-51e0c2d9f3a1"] ∧
      ∃ p, (own "my-cluster-1" (runD (next sampleEnvironment) (.start []) sampleEvents).profiles).head? = some p ∧
        "appgate://7b1c5a0e-93d2-4f6b-8a47-51e0c2d9f3a1" = "appgate://" ++ p.id := by
  have hReturned : (runD (next sampleEnvironment) (.start []) sampleEvents).returned =
      [.error (.text "Unable to create a new client profile: lost"),
        .ok "appgate://7b1c5a0e-93d2-4f6b-8a47-51e0c2d9f3a1"] := by decide +kernel
  have hOthers : ∀ event ∈ sampleEvents, ∀ s : UrlRequests, ∀ p, event = .other p →
      startsWith p.name "my-cluster-1" = false := by
    intro event hEvent s p hOther
    subst hOther
    simp only [sampleEvents, List.mem_cons, reduceCtorEq, false_or, or_false, List.not_mem_nil,
      Event.other.injEq] at hEvent
    subst hEvent
    decide
  have hRun : Steps (next sampleEnvironment)
      (fun _ event => ∀ p, event = .other p → startsWith p.name "my-cluster-1" = false)
      (.start []) (runD (next sampleEnvironment) (.start []) sampleEvents) :=
    Steps.of_runD sampleEvents (Admits.of_forall hOthers (.start [])) (by decide +kernel)
  obtain ⟨-, hUrls⟩ := one_profile_for_cluster (by decide +kernel) hRun
  exact ⟨hReturned, hUrls _ (by rw [hReturned]; simp)⟩

end Sample

end UrlRequests

end SdpK8sInjector.IdentityService
