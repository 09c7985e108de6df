import SdpK8sInjector.IdentityService.Exclusive
import SdpK8sInjector.IdentityService.Replenishment

/-! # How the creator starts where every call succeeds

The users that the controller lists, the entries of the secret and the reports to the
manager are brought into line: each listed user either has a password and is reported,
or it is deleted, and what else is in the secret is cleaned up.
-/

namespace SdpK8sInjector.IdentityService.IdentityCreator

open Lib Common

/-- Every call reaches its store and returns. -/
structure Delivered (env : Surroundings) : Prop where
  system : ∀ n, env.systemOutcomes n = .delivered
  secret : ∀ n, env.secretOutcomes n = .delivered
  profile : ∀ n, ∃ url, env.clientProfileUrl n = .ok url

/-- The entry of the secret that holds the password of the user. -/
def pwField (id : String) : String := id ++ "-service-password"

theorem pwField_injective {id id' : String} (h : pwField id = pwField id') : id = id' := by
  have hLists := congrArg String.toList h
  simp only [pwField, String.toList_append] at hLists
  exact String.toList_inj.mp (List.append_cancel_right hLists)

theorem readablePassword_eq (secret : Option Secret) (id : String) :
    readablePassword secret id = ((Secret.stored secret).lookup (pwField id)).bind bytesToString := by
  cases secret <;> rfl

/-- The password of the user is there and can be read. -/
def Readable (secret : Option Secret) (u : SDPUser) : Prop := (readablePassword secret u.id).isSome = true

instance (secret : Option Secret) : DecidablePred (Readable secret) := fun _ => inferInstanceAs (Decidable (_ = true))

section Recovery

variable {env : Surroundings}

theorem readPassword_delivered (h : Delivered env) (secret : Option Secret) (call : Nat) (id : String) :
    readPassword env secret call id = readablePassword secret id := if_pos (h.secret call)

variable (env) in
theorem getRegisteredDeviceIdsForUser_store (system : System) (u : SDPUser) :
    (system.getRegisteredDeviceIdsForUser env.systemOutcomes env.matchesUsername u).2.store = system.store := by
  rcases (Remote.call_store :
    (system.getRegisteredDeviceIdsForUser env.systemOutcomes env.matchesUsername u).2.store = system.store ∨ _) with
    hSame | ⟨_, hQuery⟩
  · exact hSame
  · exact (congrArg Prod.snd (Except.ok.inj hQuery)).symm

theorem recoverUser_found (h : Delivered env) (url : String) (r : Recovery) (u : SDPUser) {pwd : String}
    (hRead : readablePassword r.creator.secret.store u.id = some pwd) :
    ∃ deviceIds system secret, system.store = r.creator.system.store ∧ secret.store = r.creator.secret.store ∧
      recoverUser env url r u =
        { creator := { r.creator with
            system := system
            secret := secret
            drawn := r.creator.drawn + 1
            outbox :=
              r.creator.outbox ++ [.foundServiceUser ⟨u.id, u.name, pwd, url, some deviceIds⟩ (!u.disabled)] }
          missingUsers := r.missingUsers - u.disabled.toNat
          knownServiceUsers := AList.insert (pwField u.id) () r.knownServiceUsers } := by
  have hQueried := getRegisteredDeviceIdsForUser_store env r.creator.system u
  generalize hQuery : r.creator.system.getRegisteredDeviceIdsForUser env.systemOutcomes env.matchesUsername u =
    query at hQueried
  obtain ⟨devices, system⟩ := query
  let c : IdentityCreator := { r.creator with system := system }
  let deviceIds := (devices.toOption.getD []).filterMap fun d => env.parseUuid d.deviceId
  obtain ⟨secret, hStore, -, hResult⟩ := recoverSdpUser_spec env u url deviceIds c
  rw [readPassword_delivered h, show readablePassword c.secret.store u.id = some pwd from hRead] at hResult
  refine ⟨deviceIds.map Uuid.toString, system, secret, hQueried, hStore, ?_⟩
  simp only [recoverUser, hQuery, c, deviceIds, hResult, Option.map_some, sendToManager]
  congr 1
  cases u.disabled
  · simp
  · simp only [Bool.not_true, Bool.not_false, true_and, Bool.toNat_true]
    split <;> omega

theorem recoverUser_lost (h : Delivered env) (url : String) (r : Recovery) (u : SDPUser) (hPassword : u.password = none)
    (hRead : readablePassword r.creator.secret.store u.id = none)
    (hPresent : ∃ v ∈ r.creator.system.store.users, v.id = u.id) :
    ∃ system secret, system.store.users = (r.creator.system.store.users.filter fun v => v.id != u.id) ∧
      system.store.deletedUsers = r.creator.system.store.deletedUsers ++ [u.id] ∧
      secret.store = r.creator.secret.store ∧
      recoverUser env url r u =
        { r with creator := { r.creator with system := system, secret := secret, drawn := r.creator.drawn + 1 } } := by
  have hQueried := getRegisteredDeviceIdsForUser_store env r.creator.system u
  generalize hQuery : r.creator.system.getRegisteredDeviceIdsForUser env.systemOutcomes env.matchesUsername u =
    query at hQueried
  obtain ⟨devices, system⟩ := query
  let c : IdentityCreator := { r.creator with system := system }
  let deviceIds := (devices.toOption.getD []).filterMap fun d => env.parseUuid d.deviceId
  obtain ⟨secret, hStore, -, hResult⟩ := recoverSdpUser_spec env u url deviceIds c
  rw [readPassword_delivered h, show readablePassword c.secret.store u.id = none from hRead] at hResult
  have hDevices := System.unregisterDeviceIdsForUsername_sameUsers env.systemOutcomes env.matchesUsername system
    u.prefixName none none none false
  have hNone : ServiceUser.fromSdpUser u "" none (some []) = none := by simp [ServiceUser.fromSdpUser, hPassword]
  generalize hReleased : (system.unregisterDeviceIdsForUsername env.systemOutcomes env.matchesUsername
    u.prefixName none none none false).2 = released at hDevices
  have hUsers : released.store.users = r.creator.system.store.users := hDevices.users.trans (congrArg _ hQueried)
  have hLog : released.store.deletedUsers = r.creator.system.store.deletedUsers :=
    hDevices.deletedUsers.trans (congrArg _ hQueried)
  have hFound : Controller.deleteUser u.id released.store = .ok ((), { released.store with
      users := released.store.users.filter fun v => v.id != u.id
      deletedUsers := released.store.deletedUsers ++ [u.id] }) := by
    obtain ⟨v, hv, hSame⟩ := hPresent
    exact if_pos (List.any_eq_true.mpr ⟨v, hUsers ▸ hv, by simp [hSame]⟩)
  have hDeleted : released.call env.systemOutcomes .request (Controller.deleteUser u.id) = _ :=
    Remote.call_delivered (h.system released.calls) hFound
  refine ⟨(released.deleteUser env.systemOutcomes u.id).2, secret, ?_, ?_, hStore, ?_⟩
  · rw [System.deleteUser, hDeleted, ← hUsers]
  · rw [System.deleteUser, hDeleted, ← hLog]
  · simp only [recoverUser, hQuery, c, deviceIds, hResult, Option.map_none, deleteSdpUser, hNone, hReleased]

/-- The listed users with a password, and those without one. -/
def readableUsers (secret : Option Secret) (us : List SDPUser) : List SDPUser := us.filter fun u => Readable secret u

def unreadableUsers (secret : Option Secret) (us : List SDPUser) : List SDPUser :=
  us.filter fun u => ¬Readable secret u

/-- From `r` to `r'` the given users were reported or deleted. -/
structure WentThrough (us : List SDPUser) (r r' : Recovery) (found : List (ServiceUser × Bool)) : Prop where
  outbox : r'.creator.outbox = r.creator.outbox ++ found.map fun p => .foundServiceUser p.1 p.2
  reported : found.map (fun p => (p.1.id, p.1.name, some p.1.password, p.2)) =
    (readableUsers r.creator.secret.store us).map fun u =>
      (u.id, u.name, readablePassword r.creator.secret.store u.id, !u.disabled)
  missing : r'.missingUsers = r.missingUsers - (readableUsers r.creator.secret.store us).countP SDPUser.disabled
  known : ∀ field, field ∈ r'.knownServiceUsers ↔
    field ∈ r.knownServiceUsers ∨ ∃ u ∈ readableUsers r.creator.secret.store us, field = pwField u.id
  secret : r'.creator.secret.store = r.creator.secret.store
  users : r'.creator.system.store.users = r.creator.system.store.users.filter fun v =>
    v.id ∉ (unreadableUsers r.creator.secret.store us).map SDPUser.id
  deleted : r'.creator.system.store.deletedUsers = r.creator.system.store.deletedUsers ++
    (unreadableUsers r.creator.secret.store us).map SDPUser.id
  drawn : r'.creator.drawn = r.creator.drawn + us.length
  frame : r'.creator = { r.creator with
    system := r'.creator.system
    secret := r'.creator.secret
    drawn := r'.creator.drawn
    outbox := r'.creator.outbox }

theorem WentThrough.nil (r : Recovery) : WentThrough [] r r [] := by
  constructor <;> simp [readableUsers, unreadableUsers]

theorem WentThrough.cons {u : SDPUser} {us : List SDPUser} {r r' r'' : Recovery}
    {found found' : List (ServiceUser × Bool)}
    (h : WentThrough [u] r r' found) (h' : WentThrough us r' r'' found') :
    WentThrough (u :: us) r r'' (found ++ found') := by
  have hReadable : readableUsers r.creator.secret.store (u :: us) =
      readableUsers r.creator.secret.store [u] ++ readableUsers r'.creator.secret.store us := by
    rw [h.secret, readableUsers, readableUsers, readableUsers, ← List.filter_append, List.singleton_append]
  have hUnreadable : unreadableUsers r.creator.secret.store (u :: us) =
      unreadableUsers r.creator.secret.store [u] ++ unreadableUsers r'.creator.secret.store us := by
    rw [h.secret, unreadableUsers, unreadableUsers, unreadableUsers, ← List.filter_append, List.singleton_append]
  constructor
  · rw [h'.outbox, h.outbox, List.append_assoc, List.map_append]
  · rw [List.map_append, h.reported, h'.reported, hReadable, List.map_append, h.secret]
  · rw [h'.missing, h.missing, hReadable, List.countP_append]
    omega
  · intro field
    rw [h'.known, h.known, hReadable]
    simp only [List.mem_append, or_and_right, exists_or, or_assoc]
  · exact h'.secret.trans h.secret
  · rw [h'.users, h.users, hUnreadable, List.filter_filter, List.map_append]
    refine List.filter_congr fun v _ => ?_
    rw [Bool.eq_iff_iff]
    simp only [Bool.and_eq_true, decide_eq_true_eq, List.mem_append, not_or, and_comm]
  · rw [h'.deleted, h.deleted, hUnreadable, List.map_append, List.append_assoc]
  · rw [h'.drawn, h.drawn]
    simp only [List.length_cons, List.length_nil]
    omega
  · rw [h'.frame, h.frame]

theorem recoverUser_wentThrough (h : Delivered env) (url : String) (r : Recovery)
    {u : SDPUser} (hPassword : u.password = none)
    (hPresent : ∃ v ∈ r.creator.system.store.users, v.id = u.id) :
    ∃ found, WentThrough [u] r (recoverUser env url r u) found := by
  cases hRead : readablePassword r.creator.secret.store u.id with
  | some pwd =>
    obtain ⟨deviceIds, system, secret, hSystem, hSecret, hEq⟩ := recoverUser_found h url r u hRead
    have hIs : Readable r.creator.secret.store u := by simp [Readable, hRead]
    have hReadable : readableUsers r.creator.secret.store [u] = [u] := by simp [readableUsers, hIs]
    have hUnreadable : unreadableUsers r.creator.secret.store [u] = [] := by simp [unreadableUsers, hIs]
    rw [hEq]
    refine ⟨[(⟨u.id, u.name, pwd, url, some deviceIds⟩, !u.disabled)], rfl,
      ?_, ?_, ?_, hSecret, ?_, ?_, rfl, rfl⟩
    · rw [hReadable]
      simp [hRead]
    · rw [hReadable, List.countP_singleton]
      cases u.disabled <;> rfl
    · intro field
      rw [hReadable, AList.mem_insert, or_comm]
      simp
    · rw [hUnreadable]
      simp [hSystem]
    · rw [hUnreadable]
      simp [hSystem]
  | none =>
    obtain ⟨system, secret, hUsers, hDeleted, hSecret, hEq⟩ := recoverUser_lost h url r u hPassword hRead hPresent
    have hIs : ¬Readable r.creator.secret.store u := by simp [Readable, hRead]
    have hReadable : readableUsers r.creator.secret.store [u] = [] := by simp [readableUsers, hIs]
    have hUnreadable : unreadableUsers r.creator.secret.store [u] = [u] := by simp [unreadableUsers, hIs]
    rw [hEq]
    refine ⟨[], (List.append_nil _).symm, ?_, ?_, ?_, hSecret, ?_, ?_, rfl, rfl⟩
    · rw [hReadable]
      rfl
    · rw [hReadable]
      rfl
    · intro field
      rw [hReadable]
      simp
    · rw [hUnreadable]
      refine hUsers.trans (List.filter_congr fun v _ => ?_)
      simp [bne, beq_eq_decide]
    · rw [hUnreadable]
      exact hDeleted

/-- All the users are gone through, each of them while it is still there. -/
theorem foldl_recoverUser_wentThrough (h : Delivered env) (url : String) {us : List SDPUser}
    (hPasswords : ∀ u ∈ us, u.password = none) (hNodup : (us.map SDPUser.id).Nodup) {r : Recovery}
    (hPresent : ∀ u ∈ us, ∃ v ∈ r.creator.system.store.users, v.id = u.id) :
    ∃ found, WentThrough us r (us.foldl (recoverUser env url) r) found := by
  induction us generalizing r with
  | nil => exact ⟨[], .nil r⟩
  | cons u rest ih =>
    obtain ⟨hOther, hRest⟩ := List.nodup_cons.mp hNodup
    obtain ⟨found, hOne⟩ := recoverUser_wentThrough h url r (hPasswords u List.mem_cons_self)
      (hPresent u List.mem_cons_self)
    have hStill : ∀ w ∈ rest, ∃ v ∈ (recoverUser env url r u).creator.system.store.users, v.id = w.id := by
      intro w hw
      obtain ⟨v, hv, hSame⟩ := hPresent w (List.mem_cons_of_mem u hw)
      refine ⟨v, ?_, hSame⟩
      rw [hOne.users]
      refine List.mem_filter.mpr ⟨hv, decide_eq_true fun hGone => hOther ?_⟩
      obtain ⟨x, hx, hId⟩ := List.mem_map.mp hGone
      obtain rfl := List.mem_singleton.mp (List.mem_filter.mp hx).1
      rw [hId, hSame]
      exact List.mem_map_of_mem hw
    obtain ⟨found', hAll⟩ := ih (fun v hv => hPasswords v (List.mem_cons_of_mem u hv)) hRest hStill
    exact ⟨found ++ found', hOne.cons hAll⟩

end Recovery

section Pool

variable {env : Surroundings}

theorem call_secret_delivered (h : Delivered env) {α : Type} {api : SecretApi}
    {op : Option Secret → Except SecretError (α × Option Secret)}
    {a : α} {store : Option Secret} (hOp : op api.store = .ok (a, store)) :
    ∃ api', api.call env.secretOutcomes .transport op = (.ok a, api') ∧ api'.store = store :=
  ⟨_, Remote.call_delivered (h.secret api.calls) hOp, rfl⟩

theorem cleanupSecretEntries_delivered (h : Delivered env) (known : HashSet String) {c : IdentityCreator} {s : Secret}
    (hStore : c.secret.store = some s) :
    ∃ secret, c.cleanupSecretEntries env known = (.ok (), { c with secret := secret }) ∧
    secret.store.isSome = true ∧
      ∀ field, (Secret.stored secret.store).lookup field = if field ∈ known then s.fields.lookup field
        else none := by
  obtain ⟨api, hGet, hRead⟩ :=
    call_secret_delivered h (by rw [hStore]; rfl : Secret.get c.secret.store = .ok (s, some s))
  unfold cleanupSecretEntries
  rw [hGet]
  dsimp only
  have hFields : Secret.stored api.store = s.fields := by rw [hRead]; rfl
  cases hData : s.data with
  | none =>
    have hNone : s.fields = ∅ := by rw [Secret.fields, hData]; rfl
    refine ⟨api, rfl, by rw [hRead]; rfl, fun field => ?_⟩
    rw [hFields, hNone]
    split <;> rfl
  | some data =>
    have hKeys : s.fields = data := by rw [Secret.fields, hData]; rfl
    have hPatches : ∀ field, field ∈ data.keys.filter (· ∉ known) ↔ field ∈ data ∧ field ∉ known :=
      fun field => List.mem_filter.trans (and_congr AList.mem_keys.symm decide_eq_true_iff)
    have hUnknown : ∀ field, field ∉ data.keys.filter (· ∉ known) → field ∉ known →
        data.lookup field = none := by
      intro field hKept hField
      rw [AList.lookup_eq_none]
      exact fun hMem => hKept ((hPatches field).mpr ⟨hMem, hField⟩)
    dsimp only
    split
    · rename_i hEmpty
      refine ⟨api, rfl, by rw [hRead]; rfl, fun field => ?_⟩
      rw [hFields, hKeys]
      split
      · rfl
      · rename_i hField
        exact hUnknown field (by rw [List.isEmpty_iff.mp hEmpty]; exact List.not_mem_nil) hField
    · have hRemove : Secret.remove (data.keys.filter (· ∉ known)) api.store =
          .ok ((), some ⟨some (HashMap.eraseAll s.fields (data.keys.filter (· ∉ known)))⟩) := by
        rw [hRead]
        exact if_pos fun field hField => hKeys ▸ ((hPatches field).mp hField).1
      obtain ⟨api', hCall, hRemoved⟩ := call_secret_delivered h hRemove
      rw [hCall]
      refine ⟨api', rfl, by rw [hRemoved]; rfl, fun field => ?_⟩
      rw [hRemoved]
      change (HashMap.eraseAll s.fields _).lookup field = _
      rw [HashMap.lookup_eraseAll, hKeys]
      by_cases hField : field ∈ known
      · rw [if_pos hField, if_neg fun hMem => ((hPatches field).mp hMem).2 hField]
      · rw [if_neg hField]
        split
        · rfl
        · exact hUnknown field ‹_› hField

theorem updateSecretsFields_delivered (h : Delivered env) (user : ServiceUser) {api : SecretApi} {s : Secret}
    (hStore : api.store = some s) (hNew : pwField user.id ∉ s.fields) :
    ∃ api', user.updateSecretsFields env.secretOutcomes api IDENTITY_MANAGER_SECRET_NAME false = (.ok (), api') ∧
      api'.store = some ⟨some (AList.insert (pwField user.id) (.text user.password) s.fields)⟩ := by
  obtain ⟨api₁, hGet, hRead⟩ :=
    call_secret_delivered h (by rw [hStore]; rfl : Secret.get api.store = .ok (s, some s))
  have hHas : user.hasSecretsFields env.secretOutcomes api IDENTITY_MANAGER_SECRET_NAME =
      ((true, false, true), api₁) := by
    have hLookup : s.fields.lookup (pwField user.id) = none := AList.lookup_eq_none.mpr hNew
    have hGlobal : isSecretsNamespaced IDENTITY_MANAGER_SECRET_NAME = false := by decide
    unfold ServiceUser.hasSecretsFields ServiceUser.getSecretsFields
    rw [ServiceUser.secretsFieldNames_global, hGet, hGlobal]
    dsimp only
    cases hData : s.data with
    | none => rfl
    | some data =>
      rw [Secret.fields, hData, Option.getD_some, pwField] at hLookup
      simp only [hLookup]
      rfl
  have hMerge : Secret.merge [(pwField user.id, .text user.password)] api₁.store =
      .ok ((), some ⟨some (AList.insert (pwField user.id) (.text user.password) s.fields)⟩) := by rw [hRead]; rfl
  obtain ⟨api₂, hCall, hWritten⟩ := call_secret_delivered h hMerge
  refine ⟨api₂, ?_, hWritten⟩
  unfold ServiceUser.updateSecretsFields
  rw [hHas]
  exact hCall

/-- From `c` to `c'` fresh users were created: in the system, in the secret, and for the manager. -/
structure FilledUp (env : Surroundings) (c c' : IdentityCreator) (created : List ServiceUser) : Prop where
  outbox : c'.outbox = c.outbox ++ created.map fun u => .foundServiceUser u false
  ids : created.map ServiceUser.id = (List.range' c.drawn created.length 2).map fun n => (env.newV4 n).toString
  drawn : c'.drawn = c.drawn + 2 * created.length
  users : ∃ posted, c'.system.store.users = c.system.store.users ++ posted ∧
    posted.map (fun u => (u.id, u.name, u.disabled)) = created.map fun u => (u.id, u.name, true)
  deletedUsers : c'.system.store.deletedUsers = c.system.store.deletedUsers
  secret : c'.secret.store.isSome = true
  entries : ∀ field, field ∈ Secret.stored c'.secret.store ↔
    field ∈ Secret.stored c.secret.store ∨ ∃ u ∈ created, field = pwField u.id
  passwords : ∀ u ∈ created, readablePassword c'.secret.store u.id = some u.password
  kept : ∀ field ∈ Secret.stored c.secret.store,
    (Secret.stored c'.secret.store).lookup field = (Secret.stored c.secret.store).lookup field

theorem createUser_delivered (h : Delivered env) {c : IdentityCreator} {s : Secret} (hStore : c.secret.store = some s)
    (hUser : ∀ u ∈ c.system.store.users, u.id ≠ (env.newV4 c.drawn).toString)
    (hEntry : pwField (env.newV4 c.drawn).toString ∉ s.fields) :
    ∃ user c', c.createUser env = (.ok user, c') ∧
      FilledUp env c (c'.sendToManager (.foundServiceUser user false)) [user] := by
  obtain ⟨url, hUrl⟩ := h.profile c.profileRequests
  let sdpUser := SDPUser.new (env.newV4 (c.drawn + 1)).toString (env.newV4 c.drawn).toString none none
  have hFree : (c.system.store.users.any fun v => v.id == sdpUser.id) = false := by
    rw [List.any_eq_false]
    exact fun v hv => by simpa [sdpUser, SDPUser.new] using hUser v hv
  have hPosted : Controller.createUser sdpUser c.system.store =
      .ok ({ sdpUser with password := none }, { c.system.store with users := c.system.store.users ++ [sdpUser] }) := by
    rw [Controller.createUser, hFree]
    rfl
  have hCall : c.system.call env.systemOutcomes .request (Controller.createUser sdpUser) = _ :=
    Remote.call_delivered (h.system c.system.calls) hPosted
  let user : ServiceUser := ⟨sdpUser.id, sdpUser.name, (env.newV4 (c.drawn + 1)).toString, url, some []⟩
  obtain ⟨api, hUpdate, hWritten⟩ := updateSecretsFields_delivered h user hStore hEntry
  let c' : IdentityCreator :=
    { c with
      drawn := c.drawn + 2
      profileRequests := c.profileRequests + 1
      system := { c.system with
        store := { c.system.store with users := c.system.store.users ++ [sdpUser] }
        calls := c.system.calls + 1 }
      secret := api }
  refine ⟨user, c', ?_, ?_⟩
  · simp only [createUser, draw, getClientProfileUrl, hUrl, Except.mapError, System.createUser]
    rw [show c.system.call env.systemOutcomes .request (Controller.createUser _) = _ from hCall]
    dsimp only
    rw [show ServiceUser.fromSdpUser _ url none (some []) = some user from rfl]
    dsimp only
    rw [hUpdate]
  · have hFields : Secret.stored c.secret.store = s.fields := by rw [hStore]; rfl
    have hAfter : Secret.stored api.store = AList.insert (pwField user.id) (.text user.password) s.fields := by
      rw [hWritten]
      rfl
    refine ⟨rfl, rfl, rfl, ⟨[sdpUser], rfl, rfl⟩, rfl, ?_, ?_, ?_, ?_⟩
    · change api.store.isSome = true
      rw [hWritten]
      rfl
    · intro field
      change field ∈ Secret.stored api.store ↔ _
      rw [hAfter, hFields, AList.mem_insert, or_comm]
      simp
    · intro u hu
      rw [List.mem_singleton.mp hu]
      change readablePassword api.store user.id = some user.password
      rw [readablePassword, hWritten]
      change ((AList.insert (pwField user.id) (.text user.password) s.fields).lookup (pwField user.id)).bind
        bytesToString = _
      rw [AList.lookup_insert]
      rfl
    · intro field hField
      change (Secret.stored api.store).lookup field = _
      rw [hAfter, hFields, AList.lookup_insert_ne]
      rintro rfl
      exact hEntry (hFields ▸ hField)

theorem FilledUp.nil {c : IdentityCreator} {s : Secret} (hStore : c.secret.store = some s) : FilledUp env c c [] := by
  constructor <;> simp [hStore]

theorem FilledUp.append {c c' c'' : IdentityCreator} {us us' : List ServiceUser} (h : FilledUp env c c' us)
    (h' : FilledUp env c' c'' us') : FilledUp env c c'' (us ++ us') := by
  obtain ⟨posted, hUsers, hPosted⟩ := h.users
  obtain ⟨posted', hUsers', hPosted'⟩ := h'.users
  have hKept : ∀ u ∈ us, pwField u.id ∈ Secret.stored c'.secret.store :=
    fun u hu => (h.entries _).mpr (.inr ⟨u, hu, rfl⟩)
  constructor
  · rw [h'.outbox, h.outbox, List.append_assoc, List.map_append]
  · rw [List.map_append, h.ids, h'.ids, h.drawn, ← List.map_append, List.length_append, List.range'_append]
  · rw [h'.drawn, h.drawn, List.length_append]
    omega
  · exact ⟨posted ++ posted',
      by rw [hUsers', hUsers, List.append_assoc], by rw [List.map_append, hPosted, hPosted', List.map_append]⟩
  · exact h'.deletedUsers.trans h.deletedUsers
  · exact h'.secret
  · intro field
    rw [h'.entries, h.entries]
    simp only [List.mem_append, or_and_right, exists_or, or_assoc]
  · intro u hu
    rcases List.mem_append.mp hu with hu | hu
    · rw [readablePassword_eq, h'.kept _ (hKept u hu), ← readablePassword_eq]
      exact h.passwords u hu
    · exact h'.passwords u hu
  · intro field hField
    rw [h'.kept field ((h.entries field).mpr (.inl hField)), h.kept field hField]

theorem createMissingUsers_delivered (h : Delivered env) (n : Nat) {c : IdentityCreator} {s : Secret}
    (hStore : c.secret.store = some s)
    (hDistinct : ∀ k m, c.drawn ≤ k → k < m → m < c.drawn + 2 * n → env.newV4 k ≠ env.newV4 m)
    (hUsers : ∀ u ∈ c.system.store.users, ∀ k, c.drawn ≤ k → k < c.drawn + 2 * n →
      u.id ≠ (env.newV4 k).toString)
    (hEntries : ∀ k, c.drawn ≤ k → k < c.drawn + 2 * n → pwField (env.newV4 k).toString ∉ s.fields) :
    ∃ created c', createMissingUsers env n c = (.ok (), c') ∧ created.length = n ∧ FilledUp env c c' created := by
  induction n generalizing c s with
  | zero => exact ⟨[], c, rfl, rfl, .nil hStore⟩
  | succ n ih =>
    obtain ⟨user, c₁, hCreate, hFilled⟩ := createUser_delivered h hStore
      (fun u hu => hUsers u hu c.drawn le_rfl (by omega)) (hEntries c.drawn le_rfl (by omega))
    let sent := c₁.sendToManager (.foundServiceUser user false)
    have hDrawn : sent.drawn = c.drawn + 2 := hFilled.drawn
    have hId : user.id = (env.newV4 c.drawn).toString := (List.cons.inj hFilled.ids).1
    obtain ⟨s', hStore'⟩ := Option.isSome_iff_exists.mp hFilled.secret
    have hFields : Secret.stored sent.secret.store = s'.fields := by rw [hStore']; rfl
    obtain ⟨posted, hPosted, hIds⟩ := hFilled.users
    have hNewer : ∀ k, sent.drawn ≤ k → k < sent.drawn + 2 * n → user.id ≠ (env.newV4 k).toString := by
      intro k hFirst hLast hSame
      rw [hId] at hSame
      exact hDistinct c.drawn k le_rfl (by omega) (by omega) (Uuid.toString_injective hSame)
    have hUsers' : ∀ u ∈ sent.system.store.users, ∀ k, sent.drawn ≤ k → k < sent.drawn + 2 * n →
        u.id ≠ (env.newV4 k).toString := by
      intro u hu k hFirst hLast
      rw [hPosted] at hu
      rcases List.mem_append.mp hu with hu | hu
      · exact hUsers u hu k (by omega) (by omega)
      · have hSame := List.mem_map_of_mem (f := fun u : SDPUser => (u.id, u.name, u.disabled)) hu
        rw [hIds] at hSame
        obtain ⟨hSame, -⟩ := Prod.mk.inj (List.mem_singleton.mp hSame)
        rw [hSame]
        exact hNewer k hFirst hLast
    have hEntries' : ∀ k, sent.drawn ≤ k → k < sent.drawn + 2 * n →
        pwField (env.newV4 k).toString ∉ s'.fields := by
      intro k hFirst hLast hMem
      rw [← hFields, hFilled.entries] at hMem
      rcases hMem with hMem | ⟨u, hu, hSame⟩
      · refine hEntries k (by omega) (by omega) ?_
        rw [hStore] at hMem
        exact hMem
      · rw [List.mem_singleton.mp hu] at hSame
        exact hNewer k hFirst hLast (pwField_injective hSame).symm
    have hDistinct' : ∀ k m, sent.drawn ≤ k → k < m → m < sent.drawn + 2 * n → env.newV4 k ≠ env.newV4 m :=
      fun k m hFirst hLt hLast => hDistinct k m (by omega) hLt (by omega)
    obtain ⟨created, c', hRest, hLength, hRestFilled⟩ := ih hStore' hDistinct' hUsers' hEntries'
    refine ⟨user :: created, c', ?_, by rw [List.length_cons, hLength], hFilled.append hRestFilled⟩
    rw [createMissingUsers, hCreate]
    exact hRest

end Pool

section Agreement

variable {env : Surroundings}

theorem initializeFrom_delivered (h : Delivered env) (c : IdentityCreator) :
    ∃ url, c.initializeFrom env =
      ((fillPool env (c.listedUsers.foldl (recoverUser env url) ⟨c.fetched, c.serviceUsersPoolSize, ∅⟩)).1.map
        fun _ => url,
      (fillPool env (c.listedUsers.foldl (recoverUser env url) ⟨c.fetched, c.serviceUsersPoolSize, ∅⟩)).2) := by
  rcases initializeFrom_cases env c with ⟨system, e, -, -, hFailed⟩ | ⟨system, e, -, -, hFailed⟩ |
    ⟨url, -, -, hInit⟩
  · have hUsers : c.system.call env.systemOutcomes .request Controller.getUsers = _ :=
      Remote.call_delivered (h.system c.system.calls) (rfl : Controller.getUsers c.system.store = .ok _)
    rw [System.getUsers, hUsers] at hFailed
    cases hFailed
  · obtain ⟨url, hUrl⟩ := h.profile c.profileRequests
    cases hUrl.symm.trans hFailed
  · exact ⟨url, hInit⟩

/-- What the start of the creator makes of the system, of the secret and of the reports. -/
structure Agreed (env : Surroundings) (c c' : IdentityCreator) (found : List (ServiceUser × Bool))
    (created : List ServiceUser) : Prop where
  outbox : c'.outbox = c.outbox ++ found.map (fun p => .foundServiceUser p.1 p.2) ++
    created.map fun u => .foundServiceUser u false
  reported : found.map (fun p => (p.1.id, p.1.name, some p.1.password, p.2)) =
    (readableUsers c.secret.store c.system.store.users).map fun u =>
      (u.id, u.name, readablePassword c.secret.store u.id, !u.disabled)
  created_length : created.length =
    c.serviceUsersPoolSize - (readableUsers c.secret.store c.system.store.users).countP SDPUser.disabled
  deleted : c'.system.store.deletedUsers = c.system.store.deletedUsers ++
    (unreadableUsers c.secret.store c.system.store.users).map SDPUser.id
  users : ∃ posted, c'.system.store.users = readableUsers c.secret.store c.system.store.users ++ posted ∧
    posted.map (fun u => (u.id, u.name, u.disabled)) = created.map fun u => (u.id, u.name, true)
  entries : ∀ field, field ∈ Secret.stored c'.secret.store ↔
    ∃ u ∈ found.map Prod.fst ++ created, field = pwField u.id
  passwords : ∀ u ∈ found.map Prod.fst ++ created, readablePassword c'.secret.store u.id = some u.password

section Listed

variable {c : IdentityCreator}

theorem map_readableUsers_listed {α : Type} (secret : Option Secret) (f : SDPUser → α)
    (hSame : ∀ u : SDPUser, f { u with password := none } = f u) :
    (readableUsers secret c.listedUsers).map f = (readableUsers secret c.system.store.users).map f := by
  have hFilter : readableUsers secret c.listedUsers =
      (readableUsers secret c.system.store.users).map fun u => { u with password := none } := by
    rw [readableUsers, listedUsers, List.filter_map]
    rfl
  rw [hFilter, List.map_map]
  exact List.map_congr_left fun u _ => hSame u

theorem map_unreadableUsers_listed (secret : Option Secret) :
    (unreadableUsers secret c.listedUsers).map SDPUser.id =
    (unreadableUsers secret c.system.store.users).map SDPUser.id := by
  have hFilter : unreadableUsers secret c.listedUsers =
      (unreadableUsers secret c.system.store.users).map fun u => { u with password := none } := by
    rw [unreadableUsers, listedUsers, List.filter_map]
    rfl
  rw [hFilter, List.map_map]
  rfl

theorem filter_notMem_unreadableUsers (secret : Option Secret) (us : List SDPUser) :
    (us.filter fun v => v.id ∉ (unreadableUsers secret us).map SDPUser.id) = readableUsers secret us := by
  refine List.filter_congr fun v hv => decide_eq_decide.mpr ?_
  constructor
  · intro hNot
    by_contra hUnreadable
    exact hNot (List.mem_map_of_mem (List.mem_filter.mpr ⟨hv, decide_eq_true hUnreadable⟩))
  · intro hReadable hMem
    obtain ⟨u, hu, hSame⟩ := List.mem_map.mp hMem
    have hNot : ¬Readable secret u := of_decide_eq_true (List.mem_filter.mp hu).2
    rw [Readable, hSame] at hNot
    exact hNot hReadable

end Listed

/-- What `initialize` has come to when it cleans up the secret. -/
structure Recounted (c : IdentityCreator) (r : Recovery) (found : List (ServiceUser × Bool)) : Prop where
  outbox : r.creator.outbox = c.outbox ++ found.map fun p => .foundServiceUser p.1 p.2
  reported : found.map (fun p => (p.1.id, p.1.name, some p.1.password, p.2)) =
    (readableUsers c.secret.store c.system.store.users).map fun u =>
      (u.id, u.name, readablePassword c.secret.store u.id, !u.disabled)
  missing : r.missingUsers = c.serviceUsersPoolSize -
    (readableUsers c.secret.store c.system.store.users).countP SDPUser.disabled
  known : ∀ field, field ∈ r.knownServiceUsers ↔
    ∃ u ∈ readableUsers c.secret.store c.system.store.users, field = pwField u.id
  secret : r.creator.secret.store = c.secret.store
  users : r.creator.system.store.users = readableUsers c.secret.store c.system.store.users
  deleted : r.creator.system.store.deletedUsers = c.system.store.deletedUsers ++
    (unreadableUsers c.secret.store c.system.store.users).map SDPUser.id
  drawn : r.creator.drawn = c.drawn + c.system.store.users.length

theorem initializeFrom_recounted (h : Delivered env) {c : IdentityCreator}
    (hNodup : (c.system.store.users.map SDPUser.id).Nodup) :
    ∃ url r found, Recounted c r found ∧
      c.initializeFrom env = ((fillPool env r).1.map fun _ => url, (fillPool env r).2) := by
  obtain ⟨url, hInit⟩ := initializeFrom_delivered h c
  have hIds := Processes.ids_listedUsers c
  have hPresent : ∀ u ∈ c.listedUsers, ∃ v ∈ c.system.store.users, v.id = u.id := by
    intro u hu
    exact List.mem_map.mp (hIds ▸ List.mem_map_of_mem hu)
  let fetched : Recovery := ⟨c.fetched, c.serviceUsersPoolSize, ∅⟩
  obtain ⟨found, hThrough⟩ :
      ∃ found, WentThrough c.listedUsers fetched (c.listedUsers.foldl (recoverUser env url) fetched) found :=
    foldl_recoverUser_wentThrough h url (by simp [listedUsers]) (hIds ▸ hNodup) hPresent
  refine ⟨url, _, found, ?_, hInit⟩
  constructor
  · exact hThrough.outbox
  · exact hThrough.reported.trans (map_readableUsers_listed _ _ fun _ => rfl)
  · have hFlags := map_readableUsers_listed c.secret.store SDPUser.disabled (c := c) fun _ => rfl
    have hCount := congrArg (List.countP id) hFlags
    rw [List.countP_map, List.countP_map] at hCount
    exact hThrough.missing.trans (congrArg (c.serviceUsersPoolSize - ·) hCount)
  · intro field
    have hListed : (∃ u ∈ readableUsers c.secret.store c.listedUsers, field = pwField u.id) ↔
        ∃ u ∈ readableUsers c.secret.store c.system.store.users, field = pwField u.id := by
      have hMaps := map_readableUsers_listed c.secret.store (fun u => pwField u.id) (c := c) fun _ => rfl
      have hMem := congrArg (field ∈ ·) hMaps
      simpa only [List.mem_map, eq_comm (b := field), eq_iff_iff] using hMem
    rw [hThrough.known, ← hListed]
    exact or_iff_right (by simp [fetched])
  · exact hThrough.secret
  · rw [hThrough.users, map_unreadableUsers_listed]
    exact filter_notMem_unreadableUsers _ _
  · rw [hThrough.deleted, map_unreadableUsers_listed]
    rfl
  · have hLength : c.listedUsers.length = c.system.store.users.length := by simp [listedUsers]
    exact hThrough.drawn.trans (congrArg (c.drawn + ·) hLength)

namespace Recounted

variable {c : IdentityCreator} {r : Recovery} {found : List (ServiceUser × Bool)}

theorem mem_found (h : Recounted c r found) {p : ServiceUser × Bool} (hp : p ∈ found) :
    ∃ u ∈ readableUsers c.secret.store c.system.store.users, u.id = p.1.id ∧
      readablePassword c.secret.store u.id = some p.1.password := by
  have hMem := List.mem_map_of_mem (f := fun p : ServiceUser × Bool => (p.1.id, p.1.name, some p.1.password, p.2)) hp
  rw [h.reported] at hMem
  obtain ⟨u, hu, hSame⟩ := List.mem_map.mp hMem
  simp only [Prod.mk.injEq] at hSame
  exact ⟨u, hu, hSame.1, hSame.2.2.1⟩

theorem exists_found (h : Recounted c r found) {u : SDPUser}
    (hu : u ∈ readableUsers c.secret.store c.system.store.users) : ∃ p ∈ found, p.1.id = u.id := by
  have hMem := List.mem_map_of_mem
    (f := fun u : SDPUser => (u.id, u.name, readablePassword c.secret.store u.id, !u.disabled)) hu
  rw [← h.reported] at hMem
  obtain ⟨p, hp, hSame⟩ := List.mem_map.mp hMem
  exact ⟨p, hp, congrArg Prod.fst hSame⟩

end Recounted

/-- After the cleanup the secret has the entries of the readable users, as they were. -/
theorem Recounted.cleanup (h : Delivered env) {c : IdentityCreator} {r : Recovery} {found : List (ServiceUser × Bool)}
    (hRecounted : Recounted c r found) {s : Secret} (hStore : c.secret.store = some s) :
    ∃ cleaned s', r.creator.cleanupSecretEntries env r.knownServiceUsers =
      (.ok (), { r.creator with secret := cleaned }) ∧
      cleaned.store = some s' ∧
      (∀ field, field ∈ s'.fields →
        ∃ u ∈ readableUsers c.secret.store c.system.store.users, field = pwField u.id) ∧
      ∀ u ∈ readableUsers c.secret.store c.system.store.users, pwField u.id ∈ s'.fields ∧
        s'.fields.lookup (pwField u.id) = (Secret.stored c.secret.store).lookup (pwField u.id) := by
  have hSecret : r.creator.secret.store = some s := hRecounted.secret.trans hStore
  obtain ⟨cleaned, hCleanup, hSome, hCleaned⟩ := cleanupSecretEntries_delivered h r.knownServiceUsers hSecret
  obtain ⟨s', hStore'⟩ := Option.isSome_iff_exists.mp hSome
  have hFields : Secret.stored cleaned.store = s'.fields := by rw [hStore']; rfl
  rw [hFields] at hCleaned
  refine ⟨cleaned, s', hCleanup, hStore', fun field hField => ?_, fun u hu => ?_⟩
  · have hLookup := hCleaned field
    split at hLookup
    · exact (hRecounted.known field).mp ‹_›
    · exact absurd hField (AList.lookup_eq_none.mp hLookup)
  · have hOld : s'.fields.lookup (pwField u.id) = (Secret.stored c.secret.store).lookup (pwField u.id) := by
      rw [hCleaned, if_pos ((hRecounted.known _).mpr ⟨u, hu, rfl⟩), hStore]
      rfl
    have hRead : Readable c.secret.store u := of_decide_eq_true (List.mem_filter.mp hu).2
    rw [Readable, readablePassword_eq, ← hOld] at hRead
    exact ⟨AList.lookup_isSome.mp (Option.isSome_of_isSome_bind hRead), hOld⟩

/-- Where every call succeeds and what is drawn is new, the start brings the three stores into line. -/
theorem initialize_agrees (h : Delivered env) {c : IdentityCreator} {s : Secret} (hStore : c.secret.store = some s)
    (hNodup : (c.system.store.users.map SDPUser.id).Nodup)
    (hDraws : Processes.RandomDraws env [] c.system
      (c.drawn + c.system.store.users.length + 2 * c.serviceUsersPoolSize)) :
    ∃ url c' found created, c.initializeFrom env = (.ok url, c') ∧ Agreed env c c' found created := by
  obtain ⟨url, r, found, hRecounted, hInit⟩ := initializeFrom_recounted h hNodup
  let readable := readableUsers c.secret.store c.system.store.users
  obtain ⟨cleaned, s', hCleanup, hStore', hLeft, hOld⟩ := hRecounted.cleanup h hStore
  have hFields : Secret.stored cleaned.store = s'.fields := by rw [hStore']; rfl
  have hListedNew : ∀ u ∈ readable, ∀ k < c.drawn + c.system.store.users.length + 2 * c.serviceUsersPoolSize,
      u.id ≠ (env.newV4 k).toString := fun u hu => hDraws.listed u (List.mem_filter.mp hu).1
  have hLast : r.creator.drawn + 2 * r.missingUsers ≤
      c.drawn + c.system.store.users.length + 2 * c.serviceUsersPoolSize := by
    have hDrawn := hRecounted.drawn
    have hMissing := hRecounted.missing
    omega
  have hUsersNew : ∀ u ∈ r.creator.system.store.users,
      ∀ k < c.drawn + c.system.store.users.length + 2 * c.serviceUsersPoolSize, u.id ≠ (env.newV4 k).toString := by
    rw [hRecounted.users]
    exact hListedNew
  obtain ⟨created, c', hCreate, hLength, hFilled⟩ := createMissingUsers_delivered h r.missingUsers
    (c := { r.creator with secret := cleaned }) hStore'
    (fun k m _ hLt hm => hDraws.distinct k m hLt (hm.trans_le hLast))
    (fun u hu k _ hk => hUsersNew u hu k (hk.trans_le hLast))
    (fun k _ hk hMem => by
      obtain ⟨u, hu, hSame⟩ := hLeft _ hMem
      exact hListedNew u hu k (hk.trans_le hLast) (pwField_injective hSame).symm)
  have hResult : c.initializeFrom env = (.ok url, c') := by
    rw [hInit, fillPool, hCleanup]
    dsimp only
    rw [hCreate]
    rfl
  refine ⟨url, c', found, created, hResult, ?_⟩
  constructor
  · rw [hFilled.outbox, hRecounted.outbox]
  · exact hRecounted.reported
  · exact hLength.trans hRecounted.missing
  · exact hFilled.deletedUsers.trans hRecounted.deleted
  · obtain ⟨posted, hPosted, hNames⟩ := hFilled.users
    exact ⟨posted, hPosted.trans (congrArg (· ++ posted) hRecounted.users), hNames⟩
  · intro field
    rw [hFilled.entries]
    simp only [List.mem_append, or_and_right, exists_or]
    refine or_congr_left ⟨fun hField => ?_, ?_⟩
    · rw [hFields] at hField
      obtain ⟨u, hu, rfl⟩ := hLeft field hField
      obtain ⟨p, hp, hSame⟩ := hRecounted.exists_found hu
      exact ⟨p.1, List.mem_map_of_mem hp, by rw [hSame]⟩
    · rintro ⟨user, hUser, rfl⟩
      obtain ⟨p, hp, rfl⟩ := List.mem_map.mp hUser
      obtain ⟨u, hu, hSame, -⟩ := hRecounted.mem_found hp
      rw [← hSame, hFields]
      exact (hOld u hu).1
  · intro user hUser
    rcases List.mem_append.mp hUser with hUser | hUser
    · obtain ⟨p, hp, rfl⟩ := List.mem_map.mp hUser
      obtain ⟨u, hu, hSame, hPassword⟩ := hRecounted.mem_found hp
      have hEntry : pwField u.id ∈ Secret.stored cleaned.store := hFields ▸ (hOld u hu).1
      rw [← hSame, readablePassword_eq, hFilled.kept _ hEntry, hFields, (hOld u hu).2, ← readablePassword_eq]
      exact hPassword
    · exact hFilled.passwords user hUser

end Agreement

section Samples

/-- One listed user has a password, the other one has an entry that cannot be read; another entry is nobody's. -/
def sampleDisagreeing : IdentityCreator :=
  .new ⟨⟨[⟨"u1", "u1", ∅, [], none, true⟩, ⟨"u2", "u2", ∅, [], none, false⟩], [], []⟩, 0, []⟩
    ⟨some ⟨some (AList.insert "u1-service-password" (.text "pw") <|
      AList.insert "u2-service-password" (.other [255]) <|
      AList.singleton "u3-service-password" (.text "pw"))⟩, 0, []⟩ Processes.CREDENTIALS_POOL_SIZE

theorem initialize_agrees_sample : ∃ url c' found created,
    sampleDisagreeing.initializeFrom (sampleSurroundings fun _ => .delivered) = (.ok url, c') ∧
      created.length = 9 ∧ Agreed (sampleSurroundings fun _ => .delivered) sampleDisagreeing c' found created := by
  have hDelivered : Delivered (sampleSurroundings fun _ => .delivered) :=
    ⟨fun _ => rfl, fun _ => rfl, fun _ => ⟨_, rfl⟩⟩
  have hDraws : Processes.RandomDraws (sampleSurroundings fun _ => .delivered) [] sampleDisagreeing.system 22 := by
    refine ⟨fun k n hLt hn => ?_, fun i hi => absurd hi List.not_mem_nil, by decide +kernel⟩
    have hDistinct : ∀ n < 22, ∀ k < n, sampleUuid k ≠ sampleUuid n := by decide +kernel
    exact hDistinct n hn k hLt
  obtain ⟨url, c', found, created, hInit, hAgreed⟩ := initialize_agrees hDelivered rfl (by decide) hDraws
  exact ⟨url, c', found, created, hInit, hAgreed.created_length.trans (by decide), hAgreed⟩

end Samples

end SdpK8sInjector.IdentityService.IdentityCreator
