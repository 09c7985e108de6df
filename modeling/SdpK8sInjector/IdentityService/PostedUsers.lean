import SdpK8sInjector.IdentityService.Recovery

/-! # Users that come with a message

The creator posts users under ids that it draws, and the record of an activated user
under the name that the user had. All others were there before.
-/

namespace SdpK8sInjector.IdentityService.IdentityCreator

open Lib Common

variable (env : Surroundings)

/-- Every user that comes has an id that was drawn in between. -/
structure Posts (c c' : IdentityCreator) : Prop where
  drawn : c.drawn ≤ c'.drawn
  users : ∀ v ∈ c'.system.store.users, v ∈ c.system.store.users ∨
    ∃ n, c.drawn ≤ n ∧ n < c'.drawn ∧ v.id = (env.newV4 n).toString

variable {env} {c c' c'' : IdentityCreator}

namespace Posts

theorem of_subset (hDrawn : c.drawn ≤ c'.drawn)
    (hUsers : ∀ v ∈ c'.system.store.users, v ∈ c.system.store.users) :
    Posts env c c' :=
  ⟨hDrawn, fun v hv => .inl (hUsers v hv)⟩

theorem of_sameUsers (hDrawn : c.drawn ≤ c'.drawn) (h : System.SameUsers c.system c'.system) : Posts env c c' :=
  .of_subset hDrawn fun _ hv => h.users ▸ hv

theorem trans (h : Posts env c c') (h' : Posts env c' c'') : Posts env c c'' where
  drawn := h.drawn.trans h'.drawn
  users v hv := by
    rcases h'.users v hv with hv | ⟨n, hFirst, hLast, hId⟩
    · exact (h.users v hv).imp_right fun ⟨n, hFirst, hLast, hId⟩ => ⟨n, hFirst, hLast.trans_le h'.drawn, hId⟩
    · exact .inr ⟨n, h.drawn.trans hFirst, hLast, hId⟩

end Posts

theorem users_deleteUser {outcomes : Nat → CallOutcome} {system : System} {id : String} {v : SDPUser}
    (hv : v ∈ (system.deleteUser outcomes id).2.store.users) : v ∈ system.store.users := by
  refine Remote.call_invariant (fun store : Controller => v ∈ store.users → v ∈ system.store.users)
    (fun hv => hv) ?_ hv
  intro a store h
  unfold Controller.deleteUser at h
  split at h <;> cases h
  exact fun hv => (List.mem_filter.mp hv).1

theorem deleteSdpUser_posts (u : SDPUser) (c : IdentityCreator) : Posts env c (c.deleteSdpUser env u).2 := by
  have hReleased := System.unregisterDeviceIdsForUsername_sameUsers env.systemOutcomes env.matchesUsername c.system
    u.prefixName none none none false
  obtain ⟨system, secret, hFrame⟩ := deleteSdpUser_frame env u c
  refine .of_subset (by rw [hFrame]) fun v hv => ?_
  unfold deleteSdpUser at hv
  cases hSecrets : ServiceUser.fromSdpUser u "" none (some []) with
  | none =>
    rw [hSecrets] at hv
    exact hReleased.users ▸ users_deleteUser hv
  | some serviceUser =>
    rw [hSecrets] at hv
    dsimp only at hv
    cases hClear : serviceUser.deleteSecretsFields env.secretOutcomes c.secret IDENTITY_MANAGER_SECRET_NAME with
    | mk result secret =>
      rw [hClear] at hv
      cases result with
      | error e => exact hv
      | ok => exact hReleased.users ▸ users_deleteUser hv

theorem recoverUser_posts (url : String) (r : Recovery) (u : SDPUser) :
    Posts env r.creator (recoverUser env url r u).creator := by
  have hDevices :=
    System.getRegisteredDeviceIds_sameUsers env.systemOutcomes env.matchesUsername r.creator.system u.name
  generalize hQuery : r.creator.system.getRegisteredDeviceIdsForUser env.systemOutcomes env.matchesUsername u = query
  obtain ⟨devices, system⟩ := query
  rw [show r.creator.system.getRegisteredDeviceIds env.systemOutcomes env.matchesUsername u.name =
    (devices, system) from hQuery] at hDevices
  let c : IdentityCreator := { r.creator with system := system }
  obtain ⟨secret, -, -, hResult⟩ := recoverSdpUser_spec env u url
    ((devices.toOption.getD []).filterMap fun d => env.parseUuid d.deviceId) c
  cases hRead : readPassword env c.secret.store c.secret.calls u.id with
  | some pwd =>
    rw [hRead] at hResult
    simp only [recoverUser, hQuery, c, hResult, Option.map_some]
    exact .of_sameUsers (Nat.le_succ _) hDevices
  | none =>
    rw [hRead] at hResult
    simp only [recoverUser, hQuery, c, hResult, Option.map_none]
    have hQueried : Posts env r.creator { c with drawn := c.drawn + 1, secret := secret } :=
      .of_sameUsers (Nat.le_succ _) hDevices
    exact hQueried.trans (deleteSdpUser_posts u _)

theorem foldl_recoverUser_posts (url : String) (us : List SDPUser) (r : Recovery) :
    Posts env r.creator (us.foldl (recoverUser env url) r).creator := by
  induction us generalizing r with
  | nil => exact .of_subset le_rfl fun _ => id
  | cons u rest ih => exact (recoverUser_posts url r u).trans (ih _)

theorem users_createUser {outcomes : Nat → CallOutcome} {system : System} {u v : SDPUser}
    (hv : v ∈ (system.createUser outcomes u).2.store.users) : v ∈ system.store.users ∨ v.id = u.id := by
  have hCall : ∀ v ∈ (system.call outcomes .request (Controller.createUser u)).2.store.users,
      v ∈ system.store.users ∨ v.id = u.id := by
    refine Remote.call_invariant (fun store : Controller => ∀ v ∈ store.users, v ∈ system.store.users ∨
      v.id = u.id)
      (fun v hv => .inl hv) ?_
    intro a store h v hv
    unfold Controller.createUser at h
    split at h <;> cases h
    rcases List.mem_append.mp hv with hv | hv
    · exact .inl hv
    · exact .inr (by rw [List.mem_singleton.mp hv])
  unfold System.createUser at hv
  split at hv
  · rename_i hResult
    exact hCall v (by rw [hResult]; exact hv)
  · rename_i hResult
    exact hCall v (by rw [hResult]; exact hv)

theorem createUser_posts (c : IdentityCreator) : Posts env c (c.createUser env).2 := by
  unfold createUser
  simp only [draw, getClientProfileUrl]
  cases env.clientProfileUrl c.profileRequests with
  | error e => exact .of_subset (Nat.le_add_right _ 2) fun _ => id
  | ok url =>
    simp only [Except.mapError]
    have hUsers : ∀ v ∈ (c.system.createUser env.systemOutcomes
        (SDPUser.new (env.newV4 (c.drawn + 1)).toString (env.newV4 c.drawn).toString none none)).2.store.users,
        v ∈ c.system.store.users ∨ ∃ n, c.drawn ≤ n ∧ n < c.drawn + 2 ∧ v.id = (env.newV4 n).toString :=
      fun v hv => (users_createUser hv).imp_right fun hId => ⟨c.drawn, le_rfl, by omega, hId⟩
    split
    · rename_i e system hCreate
      rw [hCreate] at hUsers
      exact ⟨Nat.le_add_right _ 2, hUsers⟩
    · rename_i created system hCreate
      rw [hCreate] at hUsers
      split
      · split <;> exact ⟨Nat.le_add_right _ 2, hUsers⟩
      · exact ⟨Nat.le_add_right _ 2, hUsers⟩

theorem createMissingUsers_posts (n : Nat) (c : IdentityCreator) : Posts env c (createMissingUsers env n c).2 := by
  induction n generalizing c with
  | zero => exact .of_subset le_rfl fun _ => id
  | succ n ih =>
    have hOne : Posts env c (c.createUser env).2 := createUser_posts c
    unfold createMissingUsers
    split
    · rename_i e c' hCreate
      rw [hCreate] at hOne
      exact hOne
    · rename_i user c' hCreate
      rw [hCreate] at hOne
      have hRest := ih (c'.sendToManager (.foundServiceUser user false))
      exact ⟨hOne.drawn.trans hRest.drawn, (hOne.trans ⟨hRest.drawn, hRest.users⟩).users⟩

theorem initializeFrom_posts (c : IdentityCreator) : Posts env c (c.initializeFrom env).2 := by
  rcases initializeFrom_cases env c with ⟨system, e, hInit, hStore, -⟩ | ⟨system, e, hInit, hStore, -⟩ |
    ⟨url, -, -, hInit⟩
  · rw [hInit]
    exact .of_subset le_rfl fun v hv => congrArg Controller.users hStore ▸ hv
  · rw [hInit]
    exact .of_subset le_rfl fun v hv => congrArg Controller.users hStore ▸ hv
  · rw [hInit]
    have hRecovered : Posts env c.fetched
        (c.listedUsers.foldl (recoverUser env url) ⟨c.fetched, c.serviceUsersPoolSize, ∅⟩).creator :=
      foldl_recoverUser_posts url c.listedUsers ⟨c.fetched, c.serviceUsersPoolSize, ∅⟩
    generalize c.listedUsers.foldl (recoverUser env url) ⟨c.fetched, c.serviceUsersPoolSize, ∅⟩ = r at hRecovered
    obtain ⟨secret, hCleanup, -⟩ := cleanupSecretEntries_spec env r.knownServiceUsers r.creator
    have hFetched : Posts env c r.creator := ⟨hRecovered.drawn, hRecovered.users⟩
    change Posts env c (fillPool env r).2
    unfold fillPool
    cases hResult : r.creator.cleanupSecretEntries env r.knownServiceUsers with
    | mk result c₁ =>
      rw [hResult] at hCleanup
      cases hCleanup
      cases result with
      | error e => exact ⟨hFetched.drawn, hFetched.users⟩
      | ok =>
        let kept : IdentityCreator := { r.creator with secret := secret }
        have hCreated : Posts env kept (createMissingUsers env r.missingUsers kept).2 :=
          createMissingUsers_posts r.missingUsers kept
        exact hFetched.trans ⟨hCreated.drawn, hCreated.users⟩

/-- The name under which the creator posts the record of a user that the message activates, taken for the id. -/
def renamedId : IdentityCreatorProtocol → Option String
  | .activateServiceUser user _ _ _ _ => some user.name
  | _ => none

/-- Every user that comes is the one that the message renames, or has an id that was drawn in between. -/
def PostsFor (env : Surroundings) (msg : IdentityCreatorProtocol) (c c' : IdentityCreator) : Prop :=
  ∀ v ∈ c'.system.store.users, v ∈ c.system.store.users ∨ renamedId msg = some v.id ∨
    ∃ n, c.drawn ≤ n ∧ n < c'.drawn ∧ v.id = (env.newV4 n).toString

theorem Posts.toPostsFor {msg : IdentityCreatorProtocol} (h : Posts env c c') : PostsFor env msg c c' :=
  fun v hv => (h.users v hv).imp_right .inr

theorem users_modifyUser {outcomes : Nat → CallOutcome} {system : System} {u v : SDPUser}
    (hv : v ∈ (system.modifyUser outcomes u).2.store.users) : v ∈ system.store.users ∨ v.id = u.id := by
  revert v
  refine Remote.call_invariant (fun store : Controller => ∀ {v}, v ∈ store.users →
    v ∈ system.store.users ∨ v.id = u.id)
    (fun hv => .inl hv) ?_
  intro a store h v hv
  unfold Controller.modifyUser at h
  split at h <;> cases h
  obtain ⟨w, hw, rfl⟩ := List.mem_map.mp hv
  split
  · exact .inr rfl
  · exact .inl hw

theorem handle_postsFor (order : IterationOrder) (msg : IdentityCreatorProtocol) (c : IdentityCreator) :
    PostsFor env msg c (c.handle env order msg) := by
  have hDrawn : Posts env c (c.draw env).2 := .of_subset (Nat.le_succ _) fun _ => id
  cases msg with
  | createIdentity =>
    refine Posts.toPostsFor ?_
    have hOne : Posts env c (c.createUser env).2 := createUser_posts c
    unfold handle
    dsimp only
    split
    · rename_i user c' hCreate
      rw [hCreate] at hOne
      exact ⟨hOne.drawn, hOne.users⟩
    · rename_i e c' hCreate
      rw [hCreate] at hOne
      exact hOne
  | deleteServiceUser user serviceNs serviceName => exact (hDrawn.trans (deleteSdpUser_posts _ _)).toPostsFor
  | deleteSDPUser id => exact (hDrawn.trans (deleteSdpUser_posts _ _)).toPostsFor
  | reconcileSDPUsers names =>
    obtain ⟨system, drawn, hHandle, hSame, hLe⟩ := reconcileSDPUsers_frame env order names c
    refine Posts.toPostsFor ?_
    rw [handle, hHandle]
    exact .of_sameUsers hLe hSame
  | releaseDeviceId user d =>
    have hReleased : Posts env c (c.handle env order (.releaseDeviceId user d)) :=
      .of_sameUsers (Nat.le_succ _) (System.unregisterDeviceId_sameUsers env.systemOutcomes c.system _ false)
    exact hReleased.toPostsFor
  | startService => exact fun v hv => .inl hv
  | activateServiceUser user clusterId serviceNs serviceName labels =>
    intro v hv
    dsimp only [handle, activateServiceUser] at hv
    split at hv
    · exact .inl hv
    · rename_i name hName
      rcases users_modifyUser hv with hOld | hId
      · exact .inl ((System.getUser_sameUsers env.systemOutcomes c.system user.id).users ▸ hOld)
      · refine .inr (.inl ?_)
        rw [hId]
        split <;> rfl

theorem receive_postsFor (order : IterationOrder) (msg : IdentityCreatorProtocol) (c : IdentityCreator) :
    PostsFor env msg c (c.receive env order msg) := by
  cases hStatus : c.status with
  | waiting =>
    unfold receive
    rw [hStatus]
    cases msg with
    | startService =>
      have hInit : Posts env c (c.initializeFrom env).2 := initializeFrom_posts c
      dsimp only
      split
      · rename_i url c' hResult
        rw [hResult] at hInit
        exact hInit.toPostsFor
      · rename_i e c' hResult
        rw [hResult] at hInit
        exact hInit.toPostsFor
    | _ => exact fun v hv => .inl hv
  | running =>
    have hHandled : PostsFor env msg c (c.handle env order msg) := handle_postsFor order msg c
    unfold receive
    rw [hStatus]
    cases msg <;> exact hHandled
  | panicked =>
    unfold receive
    rw [hStatus]
    cases msg <;> exact fun v hv => .inl hv

end SdpK8sInjector.IdentityService.IdentityCreator
