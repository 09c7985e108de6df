import SdpK8sInjector.IdentityService.Ownership

/-! # Users are owned by one service at a time

Drawing is the only way for a new user to come up, and only a deactivated user
that a stored identity already holds can be offered to a second service.
-/

namespace SdpK8sInjector.IdentityService.Processes

open Lib Common IdentityManager
open IdentityCreator (recoveredUsers FreshIds)

variable {outcomes : Nat → CallOutcome} {env : Surroundings}

/-- The uuids up to the `last` draw are different. -/
def DistinctDraws (env : Surroundings) (last : Nat) : Prop := ∀ k n, k < n →
    n < last → env.newV4 k ≠ env.newV4 n

/-- The ledger is sound and no name in it is drawn later. -/
structure Owned (env : Surroundings) (last : Nat) (s : Processes) : Prop where
  sound : (s.ledger env).Sound
  undrawn : ∀ id ∈ (s.ledger env).names, ∀ n, s.creator.drawn ≤ n → n < last → id ≠ (env.newV4 n).toString

theorem ledger_recv {m : IdentityManager} {inFlight : List IdentityManagerProtocol} {coming : List SDPUser}
    {msg : IdentityCreatorProtocol} {queue : Channel IdentityCreatorProtocol}
    (hRecv : m.identityCreatorQueue.recv = some (msg, queue)) :
    IdentityManager.ledger { m with identityCreatorQueue := queue } inFlight coming = m.ledger inFlight coming := by
  simp only [IdentityManager.ledger, IdentityManager.pool, Channel.history_recv hRecv]

theorem evolves_drawn {ids : List String} (users : List ServiceUser) {m : IdentityManager}
    {inFlight : List IdentityManagerProtocol} {coming : List SDPUser} {first last : Nat}
    (hIds : FreshIds env ids first last) (hUsers : users.map ServiceUser.id = ids)
    (hDistinct : DistinctDraws env last)
    (hUndrawn : ∀ id ∈ (m.ledger inFlight coming).names, ∀ n, first ≤ n →
      n < last → id ≠ (env.newV4 n).toString) :
    Ledger.Evolves (drawnIds env first last) (m.ledger inFlight coming)
      (m.ledger (inFlight ++ users.map fun u => .foundServiceUser u false) coming) := by
  obtain ⟨draws, rfl, hOrdered, hBounds⟩ := hIds
  refine evolves_addAll users inFlight draws hUsers ?_ ?_ ?_
  · exact hOrdered.imp_of_mem fun _ hn hLt => hDistinct _ _ hLt (hBounds _ hn).2
  · exact fun n hn => ⟨n, (hBounds n hn).1, (hBounds n hn).2, rfl⟩
  · exact fun id hId n hn => hUndrawn id hId n (hBounds n hn).1 (hBounds n hn).2

/-- Whom the creator has found and created when it starts is on the way to the manager. -/
theorem initialize_evolves {m : IdentityManager} {inFlight : List IdentityManagerProtocol} {c : IdentityCreator}
    (hOutbox : c.outbox = []) (hDistinct : DistinctDraws env (c.initializeFrom env).2.drawn)
    (hUndrawn : ∀ id ∈ (m.ledger inFlight
        (recoveredUsers env c.secret.store c.secret.calls c.listedUsers)).names,
      ∀ n, c.drawn ≤ n → n < (c.initializeFrom env).2.drawn → id ≠ (env.newV4 n).toString) :
    Ledger.Evolves (drawnIds env c.drawn (c.initializeFrom env).2.drawn)
      (m.ledger inFlight (recoveredUsers env c.secret.store c.secret.calls c.listedUsers))
      (m.ledger (inFlight ++ (c.initializeFrom env).2.outbox) []) := by
  obtain ⟨listed, found, gone, created, hInit, hListed⟩ := IdentityCreator.initializeFrom_spec env c
  have hRecovered : (recoveredUsers env c.secret.store c.secret.calls listed).Sublist
      (recoveredUsers env c.secret.store c.secret.calls c.listedUsers) := by
    rcases hListed with rfl | ⟨rfl, -⟩
    · exact List.Sublist.refl _
    · exact List.nil_sublist _
  let reported : List IdentityManagerProtocol := inFlight ++ found.map fun p => .foundServiceUser p.1 p.2
  have hFound : ∀ fresh, Ledger.Evolves fresh
      (m.ledger inFlight (recoveredUsers env c.secret.store c.secret.calls c.listedUsers)) (m.ledger reported []) :=
    fun fresh => evolves_found hRecovered hInit.found_ids
  have hUnchanged : ∀ id ∈ (m.ledger reported []).names,
      ∀ n, c.drawn ≤ n → n < (c.initializeFrom env).2.drawn → id ≠ (env.newV4 n).toString :=
    fun id hId => hUndrawn id ((Ledger.names_evolves (hFound ∅) hId).resolve_right (Set.notMem_empty id))
  rw [hInit.outbox, hOutbox, List.nil_append, ← List.append_assoc]
  exact (hFound _).trans (evolves_drawn created hInit.created_ids rfl hDistinct hUnchanged)

theorem handle_drawn (order : IterationOrder) (msg : IdentityCreatorProtocol) (c : IdentityCreator) :
    c.drawn ≤ (c.handle env order msg).drawn := by
  cases IdentityCreator.handle_answer env order msg c with
  | silent hSame hDrawn | created user hSame hId hDrawn => exact hDrawn
  | activated user clusterId serviceNs serviceName labels userName hMsg hSame hDrawn => exact hDrawn

theorem move_drawn {s t : Processes} {event : Event} (hMove : Move outcomes env s event t) :
    s.creator.drawn ≤ t.creator.drawn := by
  cases hMove with
  | arrive | handle | deliver => exact le_rfl
  | receive order msg queue hOutbox hStatus hRecv =>
    rcases receive_cases env order msg s.creator with ⟨-, status, ready, -, -, hEq⟩ | hEq | ⟨-, hEq⟩ <;>
      simp only [hEq]
    · obtain ⟨listed, found, gone, created, hInit, -⟩ := IdentityCreator.initializeFrom_spec env s.creator
      exact hInit.drawn
    · exact le_rfl
    · exact handle_drawn order msg s.creator

theorem answer_evolves {m : IdentityManager} {inFlight : List IdentityManagerProtocol} {msg : IdentityCreatorProtocol}
    {c c' : IdentityCreator} (hOutbox : c.outbox = []) (hAnswer : IdentityCreator.Answer env msg c c')
    (hMsg : msg ∈ m.identityCreatorQueue.history) (hDistinct : DistinctDraws env c'.drawn)
    (hUndrawn : ∀ id ∈ (m.ledger inFlight []).names,
      ∀ n, c.drawn ≤ n → n < c'.drawn → id ≠ (env.newV4 n).toString) :
    Ledger.Evolves (drawnIds env c.drawn c'.drawn) (m.ledger inFlight []) (m.ledger (inFlight ++ c'.outbox) []) := by
  cases hAnswer with
  | silent hSame hDrawn =>
    rw [hSame, hOutbox, List.append_nil]
    exact Ledger.Evolves.refl _
  | created user hSame hId hDrawn =>
    rw [hSame, hOutbox, List.nil_append]
    exact evolves_drawn [user] hId rfl hDistinct hUndrawn
  | activated user clusterId serviceNs serviceName labels userName hBound hSame hDrawn =>
    subst hBound
    rw [hSame, hOutbox, List.nil_append]
    refine evolves_append rfl (fun p hp => .inr (.inr ⟨_, hMsg, ?_⟩)) rfl
    exact hp

theorem receive_evolves {s : Processes} (order : IterationOrder) {msg : IdentityCreatorProtocol}
    {queue : Channel IdentityCreatorProtocol} (hOutbox : s.creator.outbox = [])
    (hRecv : s.manager.identityCreatorQueue.recv = some (msg, queue))
    (hDistinct : DistinctDraws env (s.creator.receive env order msg).drawn)
    (hUndrawn : ∀ id ∈ (s.ledger env).names, ∀ n, s.creator.drawn ≤ n →
      n < (s.creator.receive env order msg).drawn → id ≠ (env.newV4 n).toString) :
    Ledger.Evolves (drawnIds env s.creator.drawn (s.creator.receive env order msg).drawn) (s.ledger env)
      (ledger env ⟨{ s.manager with identityCreatorQueue := queue }, s.creator.receive env order msg⟩) := by
  have hBefore : s.ledger env = s.manager.ledger s.manager.identityManagerQueue.pending (s.coming env) := by
    rw [ledger, hOutbox, List.append_nil]
  rw [hBefore] at hUndrawn ⊢
  rw [ledger, ledger_recv hRecv]
  rcases receive_cases env order msg s.creator with ⟨hWaiting, status, ready, hStatus, hReady, hEq⟩ | hEq |
    ⟨hRunning, hEq⟩
  · have hComing : s.coming env =
        recoveredUsers env s.creator.secret.store s.creator.secret.calls s.creator.listedUsers := if_pos hWaiting
    rw [hComing] at hUndrawn ⊢
    simp only [hEq] at hDistinct hUndrawn
    have hStarted := initialize_evolves hOutbox hDistinct hUndrawn
    simp only [hEq, coming, hStatus, if_false]
    rcases hReady with rfl | rfl
    · rw [List.append_nil]
      exact hStarted
    · rw [← List.append_assoc]
      exact hStarted.trans (evolves_append rfl (by simp [IdentityManagerProtocol.binds]) rfl)
  · have hSame : s.coming env = coming env ⟨{ s.manager with identityCreatorQueue := queue }, s.creator⟩ := rfl
    simp only [hEq, hOutbox, List.append_nil, ← hSame]
    exact Ledger.Evolves.refl _
  · have hNone : s.coming env = [] := if_neg (by simp [hRunning])
    have hLater : (s.creator.handle env order msg).status ≠ .waiting := by
      rcases IdentityCreator.handle_status env order msg s.creator with hSame | hPanic
      · simp [hSame, hRunning]
      · simp [hPanic]
    rw [hNone] at hUndrawn ⊢
    simp only [hEq] at hDistinct hUndrawn
    simp only [hEq, coming, hLater, if_false]
    obtain ⟨rest, hPending, -⟩ := Channel.recv_eq_some.mp hRecv
    exact answer_evolves hOutbox (IdentityCreator.handle_answer env order msg s.creator)
      (Channel.mem_history_of_pending (hPending ▸ List.mem_cons_self)) hDistinct hUndrawn

theorem move_evolves {s t : Processes} {event : Event} (hMove : Move outcomes env s event t)
    (hDistinct : DistinctDraws env t.creator.drawn)
    (hUndrawn : ∀ id ∈ (s.ledger env).names,
      ∀ n, s.creator.drawn ≤ n → n < t.creator.drawn → id ≠ (env.newV4 n).toString) :
    Ledger.Evolves (drawnIds env s.creator.drawn t.creator.drawn) (s.ledger env) (t.ledger env) := by
  cases hMove with
  | arrive msg hMsg =>
    have hQuiet : msg.freed = [] ∧ msg.binds = [] ∧ msg.spends = [] := by
      cases msg <;> first | exact ⟨rfl, rfl, rfl⟩ | cases hMsg
    refine Ledger.Evolves.trans (evolves_append hQuiet.1 (by simp [hQuiet.2.1]) hQuiet.2.2) ?_
    refine evolves_perm (s.manager.sendToSelf msg) (s.coming env) ?_
    simp only [sendToSelf, Channel.pending_send, List.append_assoc]
    exact (List.perm_append_singleton msg s.creator.outbox).symm.append_left _
  | handle order msg queue hRecv =>
    obtain ⟨rest, hPending, rfl⟩ := Channel.recv_eq_some.mp hRecv
    have hBefore : s.ledger env = s.manager.ledger (msg :: (rest ++ s.creator.outbox)) (s.coming env) := by
      rw [ledger, hPending, List.cons_append]
    rw [hBefore]
    let m : IdentityManager :=
      { s.manager with identityManagerQueue := ⟨s.manager.identityManagerQueue.received ++ [msg], rest⟩ }
    refine Ledger.Evolves.trans (handle_evolves outcomes order msg m) ?_
    refine evolves_perm _ (s.coming env) ?_
    rw [handle_queue, Channel.pending_sendAll, ← List.append_assoc]
    exact List.perm_append_comm.append_right _
  | receive order msg queue hOutbox hStatus hRecv => exact receive_evolves order hOutbox hRecv hDistinct hUndrawn
  | deliver msg rest hOutbox =>
    refine evolves_perm s.manager (s.coming env) (List.Perm.of_eq ?_)
    simp [sendToSelf, hOutbox]

theorem Owned.move {last : Nat} {s t : Processes} {event : Event} (h : Owned env last s)
    (hMove : Move outcomes env s event t) (hDistinct : DistinctDraws env last) (hLast : t.creator.drawn ≤ last) :
    Owned env last t := by
  have hDrawn := move_drawn hMove
  have hEvolves := move_evolves hMove (fun k n hLt hn => hDistinct k n hLt (by omega))
    fun id hId n hFirst hn => h.undrawn id hId n hFirst (by omega)
  refine ⟨h.sound.evolves hEvolves, fun id hId n hFirst hn => ?_⟩
  rcases Ledger.names_evolves hEvolves hId with hId | ⟨k, -, hk, rfl⟩
  · exact h.undrawn id hId n (by omega) hn
  · exact fun hSame => hDistinct k n (by omega) hn (Uuid.toString_injective hSame)

section Started

variable {clusterId : String} {stored : List ServiceIdentity} {users : List SDPUser} {system : System}
  {secret : SecretApi} {poolSize : Nat}

/-- The uuids up to the `last` draw are random: they are different, and nobody has one of them yet. -/
structure RandomDraws (env : Surroundings) (stored : List ServiceIdentity) (system : System) (last : Nat) : Prop where
  distinct : DistinctDraws env last
  stored : ∀ i ∈ stored, ∀ n < last, i.credentials.id ≠ (env.newV4 n).toString
  listed : ∀ u ∈ system.store.users, ∀ n < last, u.id ≠ (env.newV4 n).toString

/-- No stored identity holds a disabled user whose password the creator will read. -/
def NoneContended (env : Surroundings) (stored : List ServiceIdentity) (c : IdentityCreator) : Prop :=
  ∀ i ∈ stored, ∀ u ∈ recoveredUsers env c.secret.store c.secret.calls c.listedUsers,
    u.disabled = true → u.id ≠ i.credentials.id

theorem recoveredUsers_sublist (secretStore : Option Secret) (call : Nat) (us : List SDPUser) :
    (recoveredUsers env secretStore call us).Sublist us := by
  induction us generalizing call with
  | nil => exact List.Sublist.refl _
  | cons u rest ih =>
    rw [recoveredUsers]
    split
    · exact (ih _).cons_cons u
    · exact (ih _).cons u

theorem ids_listedUsers (c : IdentityCreator) :
    c.listedUsers.map SDPUser.id = c.system.store.users.map SDPUser.id := by
  simp [IdentityCreator.listedUsers, Function.comp_def]

/-- Nothing is on its way yet but the users that the creator will find. -/
theorem ledger_started :
    (started clusterId stored system secret poolSize).ledger env =
      { free := ((recoveredUsers env secret.store secret.calls
          (IdentityCreator.new system secret poolSize).listedUsers).filter SDPUser.disabled).map SDPUser.id
        bound := {p | ∃ i ∈ (restored clusterId stored).serviceCredentialsProvider.identities,
          (i.credentials.id, Service.serviceId i) = p}
        spent := {a | ∃ u ∈ recoveredUsers env secret.store secret.calls
          (IdentityCreator.new system secret poolSize).listedUsers, u.disabled = false ∧ u.id = a} } := by
  obtain ⟨provider, hRestored⟩ := restored_frame clusterId stored
  have hPool := pool_restored clusterId stored
  rw [ledger, IdentityManager.ledger, started, hPool, hRestored]
  simp [coming, IdentityCreator.new, new, sendToCreator, Channel.empty, Channel.history,
    IdentityCreatorProtocol.binds, IdentityCreatorProtocol.spends]

theorem mem_stored {i : ServiceIdentity}
    (hi : i ∈ (restored clusterId stored).serviceCredentialsProvider.identities) :
    i ∈ stored := mem_of_restored ((ServiceCredentialsProvider.mem_identities _).mp hi)

theorem owned_started {last : Nat} (hStored : (stored.map fun i => i.credentials.id).Nodup)
    (hListed : (system.store.users.map SDPUser.id).Nodup) (hDraws : RandomDraws env stored system last)
    (hNone : NoneContended env stored (.new system secret poolSize)) :
    Owned env last (started clusterId stored system secret poolSize) := by
  let recovered := recoveredUsers env secret.store secret.calls
    (IdentityCreator.new system secret poolSize).listedUsers
  have hSublist : (recovered.map SDPUser.id).Sublist (system.store.users.map SDPUser.id) := by
    have hIds := ids_listedUsers (IdentityCreator.new system secret poolSize)
    exact hIds ▸ (recoveredUsers_sublist secret.store secret.calls _).map SDPUser.id
  have hNodup : (recovered.map SDPUser.id).Nodup := hListed.sublist hSublist
  have hRandom : ∀ u ∈ recovered, ∀ n < last, u.id ≠ (env.newV4 n).toString := by
    intro u hu n hn
    obtain ⟨v, hv, hSame⟩ := List.mem_map.mp (hSublist.subset (List.mem_map_of_mem hu))
    exact hSame ▸ hDraws.listed v hv n hn
  constructor
  · rw [ledger_started]
    constructor
    · exact hNodup.sublist (List.filter_sublist.map SDPUser.id)
    · intro a ha hUsed
      obtain ⟨u, hu, rfl⟩ := List.mem_map.mp ha
      obtain ⟨hu, hDisabled⟩ := List.mem_filter.mp hu
      rcases hUsed with ⟨v, hv, hEnabled, hSame⟩ | ⟨_, i, hi, hHeld⟩
      · cases List.inj_on_of_nodup_map hNodup hv hu hSame
        simp [hDisabled] at hEnabled
      · exact hNone i (mem_stored hi) u hu hDisabled (congrArg Prod.fst hHeld).symm
    · rintro a o o' ⟨i, hi, hHeld⟩ ⟨j, hj, hHeld'⟩
      obtain ⟨rfl, rfl⟩ := Prod.mk.inj hHeld
      obtain ⟨hSame, rfl⟩ := Prod.mk.inj hHeld'
      rw [List.inj_on_of_nodup_map hStored (mem_stored hi) (mem_stored hj) hSame.symm]
  · rw [ledger_started]
    rintro id (hId | ⟨u, hu, -, rfl⟩ | ⟨_, i, hi, hHeld⟩) n - hn
    · obtain ⟨u, hu, rfl⟩ := List.mem_map.mp hId
      exact hRandom u (List.mem_filter.mp hu).1 n hn
    · exact hRandom u hu n hn
    · cases hHeld
      exact hDraws.stored i (mem_stored hi) n hn

/-- The manager after the reconciliation, once it has served the given candidates. -/
def served (outcomes : Nat → CallOutcome) (order : IterationOrder) (m : IdentityManager)
    (candidates : List ServiceCandidate) : IdentityManager :=
  candidates.foldl (fun m c => m.requestServiceIdentity outcomes c) (m.reconcile outcomes order)

/-- Where no stored identity holds a disabled user that is recovered, every user is exclusive in every state of
every run, and so it is in between, each time that a missing candidate is served. -/
theorem users_exclusive {s : Processes} (hStored : (stored.map fun i => i.credentials.id).Nodup)
    (hListed : (system.store.users.map SDPUser.id).Nodup) (hDraws : RandomDraws env stored system s.creator.drawn)
    (hNone : NoneContended env stored (.new system secret poolSize))
    (hRun : Steps (next outcomes env) (fun _ _ => True) (started clusterId stored system secret poolSize) s) :
    Exclusive s.manager ∧
      ∀ order queue candidates,
        Exclusive (served outcomes order { s.manager with identityManagerQueue := queue } candidates) := by
  have hOwned : s.creator.drawn ≤ s.creator.drawn → Owned env s.creator.drawn s := by
    refine hRun.invariant (fun t => t.creator.drawn ≤ s.creator.drawn → Owned env s.creator.drawn t) ?_ fun _ => ?_
    · intro t event u hOwned _ hNext hLast
      have hMove := next_move outcomes env hNext
      exact (hOwned (le_trans (move_drawn hMove) hLast)).move hMove hDraws.distinct hLast
    · exact owned_started hStored hListed hDraws hNone
  have hSound : (s.ledger env).Sound := (hOwned le_rfl).sound
  refine ⟨exclusive_of_sound hSound, fun order queue candidates => ?_⟩
  let m : IdentityManager := { s.manager with identityManagerQueue := queue }
  have hServed : Ledger.Evolves ∅ (s.ledger env)
      ((served outcomes order m candidates).ledger (s.manager.identityManagerQueue.pending ++ s.creator.outbox)
        (s.coming env)) :=
    (reconcile_evolves (m := m) outcomes order).trans (foldl_request_evolves candidates)
  exact exclusive_of_sound (hSound.evolves hServed)

end Started

def sampleDisabled (id : String) : SDPUser := { IdentityCreator.sampleActive id with disabled := true }

/-- The service with one stored identity, of candidate `a` and user `u1`, and with the given users. -/
def sampleStored (users : List SDPUser) : Processes :=
  started "cluster" [sampleIdentity "a" "u1"] ⟨⟨users, [], []⟩, 0, []⟩
    ⟨some ⟨some (AList.singleton "u1-service-password" (.text "pw"))⟩, 0, []⟩ 0

def sampleReconciling : List Event := sampleStartup 2 ++ [.handle .asStored]

def sampleReconciled (users : List SDPUser) : Processes :=
  runD (next (fun _ => .delivered) (IdentityCreator.sampleSurroundings fun _ => .delivered)) (sampleStored users)
    sampleReconciling

theorem users_exclusive_sample : Exclusive (sampleReconciled [IdentityCreator.sampleActive "u1"]).manager := by
  have hRun : Steps (next (fun _ => .delivered) (IdentityCreator.sampleSurroundings fun _ => .delivered))
      (fun _ _ => True) (sampleStored [IdentityCreator.sampleActive "u1"])
      (sampleReconciled [IdentityCreator.sampleActive "u1"]) := by
    unfold sampleReconciled
    exact Steps.of_runD sampleReconciling (by decide +kernel) (by decide +kernel)
  have hDrawn : (sampleReconciled [IdentityCreator.sampleActive "u1"]).creator.drawn = 1 := by decide +kernel
  have hFirst : ∀ n < 1, "u1" ≠ (IdentityCreator.sampleUuid n).toString := by decide
  refine (users_exclusive (by decide) (by decide) ⟨?_, ?_, ?_⟩ ?_ hRun).1
  · intro k n hLt hn
    omega
  · intro i hi n hn
    rw [List.mem_singleton.mp hi]
    exact hFirst n (hDrawn ▸ hn)
  · intro u hu n hn
    rw [List.mem_singleton.mp hu]
    exact hFirst n (hDrawn ▸ hn)
  · unfold NoneContended
    decide

/-- The disabled user is in the pool while the identity holds it, and stays there once it is given up. -/
theorem contended_user_offered :
    ([sampleIdentity "a" "u1"].map fun i => i.credentials.id).Nodup ∧
      ([sampleDisabled "u1"].map SDPUser.id).Nodup ∧
      Steps (next (fun _ => .delivered) (IdentityCreator.sampleSurroundings fun _ => .delivered)) (fun _ _ => True)
        (sampleStored [sampleDisabled "u1"]) (sampleReconciled [sampleDisabled "u1"]) ∧
      .identityManagerReady ∈ (sampleReconciled [sampleDisabled "u1"]).manager.identityManagerQueue.received ∧
      ¬Exclusive (sampleReconciled [sampleDisabled "u1"]).manager := by
  refine ⟨by decide, by decide, ?_, by decide +kernel, fun h => ?_⟩
  · unfold sampleReconciled
    exact Steps.of_runD sampleReconciling (by decide +kernel) (by decide +kernel)
  · have hOffered : ∃ user ∈ (sampleReconciled [sampleDisabled "u1"]).manager.pool, user.id = "u1" := by
      decide +kernel
    have hGivenUp : ∃ msg ∈ (sampleReconciled [sampleDisabled "u1"]).manager.identityCreatorQueue.history,
        "u1" ∈ msg.spends := by decide +kernel
    obtain ⟨user, hUser, hId⟩ := hOffered
    obtain ⟨msg, hMsg, hSpends⟩ := hGivenUp
    exact (h.keptBack msg hMsg "u1" hSpends).1 user hUser hId

end SdpK8sInjector.IdentityService.Processes
