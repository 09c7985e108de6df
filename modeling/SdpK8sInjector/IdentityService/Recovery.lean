import SdpK8sInjector.IdentityService.CreatorSpec

/-! # What the IdentityCreator recovers when it starts

A listed user is recovered if its read of the secret succeeds and finds a
password. Every other listed user is deleted, also when only the read failed.
-/

namespace SdpK8sInjector.IdentityService.IdentityCreator

open Lib Common

variable (env : Surroundings)

def listedUsers (c : IdentityCreator) : List SDPUser :=
  c.system.store.users.map fun u => { u with password := none }

theorem mem_recoveredUsers {secret : Option Secret} {call : Nat} {us : List SDPUser} {u : SDPUser} :
    u ∈ recoveredUsers env secret call us ↔
      ∃ n, us[n]? = some u ∧ (readPassword env secret (call + n) u.id).isSome := by
  induction us generalizing call with
  | nil => simp [recoveredUsers]
  | cons v vs ih =>
    simp only [recoveredUsers, List.mem_append, ih]
    constructor
    · rintro (h | ⟨n, hn, hRead⟩)
      · split at h
        · obtain rfl := List.mem_singleton.mp h
          exact ⟨0, rfl, by simpa⟩
        · cases h
      · exact ⟨n + 1, hn, by rwa [show call + (n + 1) = call + 1 + n by omega]⟩
    · rintro ⟨n, hn, hRead⟩
      cases n with
      | zero =>
        obtain rfl := Option.some.inj hn
        exact .inl (by simp_all)
      | succ n => exact .inr ⟨n, hn, by rwa [show call + 1 + n = call + (n + 1) by omega]⟩

theorem mem_lostUsers {secret : Option Secret} {call : Nat} {us : List SDPUser} {u : SDPUser} :
    u ∈ lostUsers env secret call us ↔
      ∃ n, us[n]? = some u ∧ readPassword env secret (call + n) u.id = none := by
  induction us generalizing call with
  | nil => simp [lostUsers]
  | cons v vs ih =>
    simp only [lostUsers, List.mem_append, ih]
    constructor
    · rintro (h | ⟨n, hn, hRead⟩)
      · split at h
        · cases h
        · obtain rfl := List.mem_singleton.mp h
          exact ⟨0, rfl, by simp_all⟩
      · exact ⟨n + 1, hn, by rwa [show call + (n + 1) = call + 1 + n by omega]⟩
    · rintro ⟨n, hn, hRead⟩
      cases n with
      | zero =>
        obtain rfl := Option.some.inj hn
        exact .inl (by simp_all)
      | succ n => exact .inr ⟨n, hn, by rwa [show call + 1 + n = call + (n + 1) by omega]⟩

/-- The given users were recovered or deleted, and the pool was filled up with fresh ones. -/
structure Initialized (c c' : IdentityCreator) (listed : List SDPUser) (found : List (ServiceUser × Bool))
    (gone : List String) (created : List ServiceUser) : Prop where
  outbox : c'.outbox = c.outbox ++ found.map (fun p => .foundServiceUser p.1 p.2) ++
    created.map fun u => .foundServiceUser u false
  found_ids : found.map (fun p => (p.1.id, p.2)) =
    (recoveredUsers env c.secret.store c.secret.calls listed).map fun u => (u.id, !u.disabled)
  created_ids : FreshIds env (created.map ServiceUser.id) c.drawn c'.drawn
  drawn : c.drawn ≤ c'.drawn
  deletedUsers : c'.system.store.deletedUsers = c.system.store.deletedUsers ++ gone
  gone_sublist : gone.Sublist ((lostUsers env c.secret.store c.secret.calls listed).map SDPUser.id)
  kept : ∀ u ∈ recoveredUsers env c.secret.store c.secret.calls listed,
    u.id ++ "-service-password" ∈ Secret.stored c.secret.store →
      u.id ++ "-service-password" ∈ Secret.stored c'.secret.store
  complete : (∀ n, env.systemOutcomes n = .delivered) →
    ∀ u ∈ lostUsers env c.secret.store c.secret.calls listed, u.id ∈ gone
  status : c'.status = c.status

theorem Initialized.early {c c' : IdentityCreator} (hOutbox : c'.outbox = c.outbox)
    (hDeleted : c'.system.store.deletedUsers = c.system.store.deletedUsers) (hDrawn : c'.drawn = c.drawn)
    (hStatus : c'.status = c.status) : Initialized env c c' [] [] [] [] := by
  constructor <;> simp [hOutbox, hDeleted, hDrawn, hStatus, recoveredUsers, lostUsers, FreshIds]

/-- The creator once the users and the profile have been fetched. -/
def fetched (c : IdentityCreator) : IdentityCreator :=
  { c with
    system := { c.system with calls := c.system.calls + 1 }
    profileRequests := c.profileRequests + 1 }

theorem Initialized.recovered {c c' : IdentityCreator} {r : Recovery} {found : List (ServiceUser × Bool)}
    {gone : List String} {created : List ServiceUser} {secret : SecretApi} {pool : Nat}
    (h : Recovered env c.listedUsers ⟨c.fetched, pool, ∅⟩ r found gone)
    (hCreated : Created env { r.creator with secret := secret } c' created)
    (hKept : ∀ field ∈ r.knownServiceUsers,
      (Secret.stored secret.store).lookup field = (Secret.stored r.creator.secret.store).lookup field) :
    Initialized env c c' c.listedUsers found gone created where
  outbox := by rw [hCreated.outbox, h.outbox]; rfl
  found_ids := h.found_ids
  created_ids := by
    obtain ⟨draws, hIds, hOrdered, hBounds⟩ := hCreated.ids
    have hDrawn : r.creator.drawn = c.drawn + c.listedUsers.length := congrArg IdentityCreator.drawn h.frame
    refine ⟨draws, hIds, hOrdered, fun n hn => ⟨?_, (hBounds n hn).2⟩⟩
    have hFirst : r.creator.drawn ≤ n := (hBounds n hn).1
    omega
  drawn := by
    have hDrawn : r.creator.drawn = c.drawn + c.listedUsers.length := congrArg IdentityCreator.drawn h.frame
    have hLast : r.creator.drawn ≤ c'.drawn := hCreated.drawn
    omega
  deletedUsers := hCreated.deletedUsers.trans h.deleted
  gone_sublist := h.gone_sublist
  kept u hu hField := by
    have hKnown := (h.known _).mpr (.inr ⟨u, hu, rfl⟩)
    apply hCreated.secret
    rw [← AList.lookup_isSome, hKept _ hKnown, h.secret, AList.lookup_isSome]
    exact hField
  complete hDelivered u hu := by
    obtain ⟨n, hn, -⟩ := (mem_lostUsers env).mp hu
    obtain ⟨v, hv, rfl⟩ := List.mem_map.mp (List.mem_of_getElem? hn)
    exact h.complete hDelivered _ hu ⟨v, hv, rfl⟩
  status := by
    rw [hCreated.status, h.frame]
    rfl

theorem initialized_of_fetched (c : IdentityCreator) (url : String) :
    ∃ found gone created, Initialized env c
      (fillPool env (c.listedUsers.foldl (recoverUser env url) ⟨c.fetched, c.serviceUsersPoolSize, ∅⟩)).2
      c.listedUsers found gone created := by
  obtain ⟨found, gone, hFold⟩ := foldl_recoverUser_spec env url c.listedUsers (by simp [listedUsers])
    ⟨c.fetched, c.serviceUsersPoolSize, ∅⟩
  obtain ⟨created, secret, hCreated, hKept⟩ := fillPool_spec env
    (c.listedUsers.foldl (recoverUser env url) ⟨c.fetched, c.serviceUsersPoolSize, ∅⟩)
  exact ⟨found, gone, created, Initialized.recovered env hFold hCreated hKept⟩

/-- The users and the profile were fetched, or `initialize` ended there. -/
theorem initializeFrom_cases (c : IdentityCreator) :
    (∃ system e, c.initializeFrom env = (.error e, { c with system := system }) ∧
      system.store = c.system.store ∧ (c.system.getUsers env.systemOutcomes).1.isOk = false) ∨
    (∃ system e, c.initializeFrom env =
        (.error (.system e), { c with system := system, profileRequests := c.profileRequests + 1 }) ∧
      system.store = c.system.store ∧ env.clientProfileUrl c.profileRequests = .error e) ∨
    ∃ url, env.clientProfileUrl c.profileRequests = .ok url ∧
      (c.system.getUsers env.systemOutcomes).1 = .ok c.listedUsers ∧
      c.initializeFrom env =
        ((fillPool env (c.listedUsers.foldl (recoverUser env url) ⟨c.fetched, c.serviceUsersPoolSize, ∅⟩)).1.map
          fun _ => url,
        (fillPool env (c.listedUsers.foldl (recoverUser env url) ⟨c.fetched, c.serviceUsersPoolSize, ∅⟩)).2) := by
  have hSame : (c.system.call env.systemOutcomes .request Controller.getUsers).2.store = c.system.store := by
    rcases Remote.call_store with hSame | ⟨users, hStore⟩
    · exact hSame
    · exact (congrArg Prod.snd (Except.ok.inj hStore)).symm
  unfold initializeFrom
  cases hUsers : c.system.getUsers env.systemOutcomes with
  | mk result system =>
    have hCall : c.system.call env.systemOutcomes .request Controller.getUsers = (result, system) := hUsers
    rw [hCall] at hSame
    cases result with
    | error e =>
      exact .inl ⟨system, _, rfl, hSame, rfl⟩
    | ok users =>
      obtain ⟨store, hStore, hSystem⟩ := Remote.call_ok (congrArg Prod.fst hCall)
      rw [hCall] at hSystem
      cases hStore
      dsimp only at hSystem
      subst hSystem
      cases hUrl : env.clientProfileUrl c.profileRequests with
      | error e =>
        refine .inr (.inl ⟨{ c.system with calls := c.system.calls + 1 }, e, ?_, rfl, rfl⟩)
        simp only [getClientProfileUrl, hUrl, Except.mapError]
      | ok url =>
        refine .inr (.inr ⟨url, rfl, rfl, ?_⟩)
        simp only [getClientProfileUrl, hUrl, Except.mapError]
        rfl

/-- Where nothing could be fetched, nothing is listed and nothing happens. -/
theorem initializeFrom_spec (c : IdentityCreator) :
    ∃ listed found gone created, Initialized env c (c.initializeFrom env).2 listed found gone created ∧
      (listed = c.listedUsers ∨ listed = [] ∧ (c.initializeFrom env).2.secret = c.secret ∧
        ∃ e, (c.initializeFrom env).1 = .error e) := by
  rcases initializeFrom_cases env c with ⟨system, e, hInit, hStore, -⟩ | ⟨system, e, hInit, hStore, -⟩ |
    ⟨url, -, -, hInit⟩
  · rw [hInit]
    exact ⟨[], [], [], [], Initialized.early env rfl (congrArg Controller.deletedUsers hStore) rfl rfl,
      .inr ⟨rfl, rfl, e, rfl⟩⟩
  · rw [hInit]
    exact ⟨[], [], [], [], Initialized.early env rfl (congrArg Controller.deletedUsers hStore) rfl rfl,
      .inr ⟨rfl, rfl, _, rfl⟩⟩
  · obtain ⟨found, gone, created, hInitialized⟩ := initialized_of_fetched env c url
    rw [hInit]
    exact ⟨c.listedUsers, found, gone, created, hInitialized, .inl rfl⟩

/-- The password of the `n`-th listed user is read from a secret that is there. -/
def ReadSucceeds (c : IdentityCreator) (n : Nat) : Prop :=
  env.secretOutcomes (c.secret.calls + n) = .delivered ∧ c.secret.store.isSome

/-- The users that `initialize` has deleted from the system. -/
def newlyDeleted (c : IdentityCreator) : List String :=
  (c.initializeFrom env).2.system.store.deletedUsers.drop c.system.store.deletedUsers.length

/-- Whoever is deleted, or loses the entry of the secret, had no password in a secret that was read. -/
structure DeletesOnlyUnreadable (c : IdentityCreator) : Prop where
  listed : ∀ id ∈ newlyDeleted env c, ∃ u ∈ c.listedUsers, u.id = id
  unreadable : ∀ n u, c.listedUsers[n]? = some u →
    u.id ∈ newlyDeleted env c ∨ (u.id ++ "-service-password" ∈ Secret.stored c.secret.store ∧
      u.id ++ "-service-password" ∉ Secret.stored (c.initializeFrom env).2.secret.store) →
    ReadSucceeds env c n ∧ readablePassword c.secret.store u.id = none

theorem newlyDeleted_eq {c : IdentityCreator} {listed : List SDPUser} {found : List (ServiceUser × Bool)}
    {gone : List String} {created : List ServiceUser}
    (h : Initialized env c (c.initializeFrom env).2 listed found gone created) : newlyDeleted env c = gone := by
  unfold newlyDeleted
  rw [h.deletedUsers, List.drop_left]

theorem deletesOnlyUnreadable_of_reads (c : IdentityCreator)
    (hReads : ∀ n < c.listedUsers.length, ReadSucceeds env c n) : DeletesOnlyUnreadable env c := by
  obtain ⟨listed, found, gone, created, hInit, hListed⟩ := initializeFrom_spec env c
  have hGone := newlyDeleted_eq env hInit
  have hSublist := hInit.gone_sublist.subset
  rcases hListed with rfl | ⟨rfl, hSecret, -⟩
  · constructor
    · intro id hId
      rw [hGone] at hId
      obtain ⟨u, hu, rfl⟩ := List.mem_map.mp (hSublist hId)
      obtain ⟨n, hn, -⟩ := (mem_lostUsers env).mp hu
      exact ⟨u, List.mem_of_getElem? hn, rfl⟩
    · intro n u hn hRemoved
      have hRead := hReads n (List.getElem?_eq_some_iff.mp hn).1
      refine ⟨hRead, ?_⟩
      rw [hGone] at hRemoved
      rcases hRemoved with hId | ⟨hBefore, hAfter⟩
      · obtain ⟨v, hv, hSame⟩ := List.mem_map.mp (hSublist hId)
        obtain ⟨k, hk, hLost⟩ := (mem_lostUsers env).mp hv
        have hReadLost := hReads k (List.getElem?_eq_some_iff.mp hk).1
        rw [readPassword, if_pos hReadLost.1, hSame] at hLost
        exact hLost
      · by_contra hPassword
        apply hAfter
        apply hInit.kept u _ hBefore
        rw [mem_recoveredUsers]
        refine ⟨n, hn, ?_⟩
        rw [readPassword, if_pos hRead.1]
        exact Option.isSome_iff_ne_none.mpr hPassword
  · rw [List.sublist_nil.mp hInit.gone_sublist] at hGone
    constructor
    · intro id hId
      rw [hGone] at hId
      cases hId
    · intro n u hn hRemoved
      rw [hGone, hSecret] at hRemoved
      rcases hRemoved with hId | ⟨hBefore, hAfter⟩
      · cases hId
      · exact absurd hBefore hAfter

theorem reads_of_deletesOnlyUnreadable (c : IdentityCreator) (hSystem : ∀ n, env.systemOutcomes n = .delivered)
    (hUrl : ∃ url, env.clientProfileUrl c.profileRequests = .ok url) (h : DeletesOnlyUnreadable env c) :
    ∀ n < c.listedUsers.length, ReadSucceeds env c n := by
  intro n hn
  obtain ⟨url, hUrl⟩ := hUrl
  have hUser : c.listedUsers[n]? = some c.listedUsers[n] := List.getElem?_eq_getElem hn
  by_contra hRead
  have hNone : readPassword env c.secret.store (c.secret.calls + n) c.listedUsers[n].id = none := by
    unfold readPassword
    split
    · rename_i hOutcome
      cases hStore : c.secret.store with
      | none => rfl
      | some secret => exact absurd ⟨hOutcome, hStore ▸ rfl⟩ hRead
    · rfl
  have hFetched : (c.system.getUsers env.systemOutcomes).1.isOk = true := by
    rw [System.getUsers, Remote.call_delivered (hSystem _) rfl]
    rfl
  rcases initializeFrom_cases env c with ⟨system, e, -, -, hFailed⟩ | ⟨_, e, -, -, hError⟩ |
    ⟨url', hUrl', -, hInit⟩
  · rw [hFetched] at hFailed
    cases hFailed
  · rw [hUrl] at hError
    cases hError
  · obtain ⟨found, gone, created, hFetchedAll⟩ := initialized_of_fetched env c url'
    have hInitialized : Initialized env c (c.initializeFrom env).2 c.listedUsers found gone created := by
      rw [hInit]
      exact hFetchedAll
    apply hRead
    refine (h.unreadable n _ hUser (.inl ?_)).1
    rw [newlyDeleted_eq env hInitialized]
    exact hInitialized.complete hSystem _ ((mem_lostUsers env).mpr ⟨n, hUser, hNone⟩)

/-- `initialize` deletes for want of a password only, exactly if every listed user's read succeeds. With some
read failed it does so only where it is stopped first, by a controller that cannot be reached. -/
theorem deletes_only_unreadable_iff (c : IdentityCreator) :
    ((∀ n < c.listedUsers.length, ReadSucceeds env c n) → DeletesOnlyUnreadable env c) ∧
      ((∀ n, env.systemOutcomes n = .delivered) → (∃ url, env.clientProfileUrl c.profileRequests = .ok url) →
        (DeletesOnlyUnreadable env c ↔ ∀ n < c.listedUsers.length, ReadSucceeds env c n)) :=
  ⟨deletesOnlyUnreadable_of_reads env c, fun hSystem hUrl =>
    ⟨reads_of_deletesOnlyUnreadable env c hSystem hUrl, deletesOnlyUnreadable_of_reads env c⟩⟩

def sampleDigit (n : Nat) : Char :=
  ['0', '1', '2', '3', '4', '5', '6', '7', '8', '9', 'a', 'b', 'c', 'd', 'e', 'f'].getD (n % 16) '0'

theorem sampleDigit_isHexadecimal (n : Nat) :
    ((sampleDigit n).isDigit || ('a' ≤ sampleDigit n && sampleDigit n ≤ 'f')) = true := by
  have h : ∀ k < 16, ((sampleDigit k).isDigit || ('a' ≤ sampleDigit k && sampleDigit k ≤ 'f')) = true := by decide
  have hMod : sampleDigit n = sampleDigit (n % 16) := by rw [sampleDigit, sampleDigit, Nat.mod_mod]
  rw [hMod]
  exact h _ (Nat.mod_lt _ (by decide))

/-- Uuids that differ for the first 256 numbers. -/
def sampleUuid (n : Nat) : Uuid where
  text := String.ofList (sampleDigit n :: sampleDigit (n / 16) :: "000000-0000-4000-8000-000000000000".toList)
  canonical := by
    have hTail : ("000000-0000-4000-8000-000000000000".toList.zipIdx 2).all (fun (c, i) =>
        if i ∈ [8, 13, 18, 23] then c == '-' else c.isDigit || ('a' ≤ c && c ≤ 'f')) = true := by decide
    rw [isCanonicalUuid, String.toList_ofList, List.zipIdx_cons, List.zipIdx_cons, List.all_cons, List.all_cons, hTail]
    simp [sampleDigit_isHexadecimal]

/-- A controller that answers, in surroundings where the given calls for the secret fail. -/
def sampleSurroundings (secretOutcomes : Nat → CallOutcome) : Surroundings where
  systemOutcomes _ := .delivered
  secretOutcomes := secretOutcomes
  clientProfileUrl _ := .ok "appgate://profile"
  newV4 := sampleUuid
  randomSuffix _ := "abcde"
  parseUuid _ := none
  matchesUsername name username := name == username

def sampleCreator (users : List SDPUser) (data : HashMap String ByteString) : IdentityCreator :=
  .new ⟨⟨users, [], []⟩, 0, []⟩ ⟨some ⟨some data⟩, 0, []⟩ 0

def sampleActive (id : String) : SDPUser := ⟨id, id, ∅, [], none, false⟩

/-- One user has a password and the other has none; both reads succeed. -/
theorem deletes_only_unreadable_sample :
    DeletesOnlyUnreadable (sampleSurroundings fun _ => .delivered)
      (sampleCreator [sampleActive "a", sampleActive "b"] (AList.singleton "a-service-password" (.text "pw"))) ∧
    newlyDeleted (sampleSurroundings fun _ => .delivered)
      (sampleCreator [sampleActive "a", sampleActive "b"] (AList.singleton "a-service-password" (.text "pw"))) =
        ["b"] :=
  ⟨(deletes_only_unreadable_iff _ _).1 fun _ _ => ⟨rfl, rfl⟩, by decide⟩

/-- The password is stored, but the one read of it is lost. -/
theorem read_failure_deletes :
    ¬ DeletesOnlyUnreadable (sampleSurroundings fun n => if n = 0 then .requestLost else .delivered)
      (sampleCreator [sampleActive "a"] (AList.singleton "a-service-password" (.text "pw"))) := by
  intro h
  have hRead := (h.unreadable 0 (sampleActive "a") rfl (.inl (by decide))).1.1
  cases hRead

end SdpK8sInjector.IdentityService.IdentityCreator
