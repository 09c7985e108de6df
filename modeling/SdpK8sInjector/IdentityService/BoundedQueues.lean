import SdpK8sInjector.IdentityService.Processes
import SdpK8sInjector.IdentityService.Reconciliation
import SdpK8sInjector.IdentityService.Startup

/-! # Queues with room for so many messages

A party that has a message to send waits while the queue of the receiver is full, and
takes its next message when it has sent what the last one made it send.
-/

namespace SdpK8sInjector.IdentityService

open Lib Common

namespace IdentityManager

variable (outcomes : Nat → CallOutcome) (order : IterationOrder)

/-- What is handled makes the manager send to itself, once, or to the creator. -/
theorem handle_sends_one (msg : IdentityManagerProtocol) (m : IdentityManager) :
    (m.selfSent msg).length ≤ 1 ∧
      (m.selfSent msg = [] ∨ (handle outcomes order msg m).identityCreatorQueue = m.identityCreatorQueue) := by
  cases msg with
  | identityCreatorReady =>
    obtain ⟨_, _, hEq⟩ := identityCreatorReadyHandler_cases m
    refine ⟨?_, .inr (by rw [handle, hEq])⟩
    rw [selfSent]
    split <;> simp
  | deploymentWatcherReady =>
    obtain ⟨_, _, hEq⟩ := deploymentWatcherReady_cases m
    refine ⟨?_, .inr (by rw [handle, hEq])⟩
    rw [selfSent]
    split <;> simp
  | deletedServiceCandidate candidate =>
    constructor
    · rw [selfSent]
      cases ServiceLookup.tryFromService candidate with
      | error e => simp
      | ok lookup => cases m.serviceCredentialsProvider.identity lookup <;> simp
    · right
      rcases deletedServiceCandidate_cases candidate m with ⟨_, _, _, _, hEq⟩ | ⟨_, hEq⟩ <;> rw [handle, hEq]
      rfl
  | _ => exact ⟨Nat.zero_le 1, .inl rfl⟩

end IdentityManager

/-- For how many messages the queues of the two parties have room. -/
structure Capacities where
  manager : Nat
  creator : Nat

/-- The queues of both parties. What the manager has still to send is in the channels of its state, and what the creator
has still to send is in its outbox. -/
structure BoundedProcesses where
  manager : IdentityManager
  creator : IdentityCreator
  managerQueue : List IdentityManagerProtocol
  creatorQueue : List IdentityCreatorProtocol
deriving DecidableEq

namespace BoundedProcesses

open Processes (isFromWatchers)

inductive Event where
  | arrive (msg : IdentityManagerProtocol)
  | handle (order : IterationOrder)
  | sendToSelf
  | sendToCreator
  | receive (order : IterationOrder)
  | sendToManager

variable (s : BoundedProcesses)

abbrev toSelf : List IdentityManagerProtocol := s.manager.identityManagerQueue.pending

abbrev toCreator : List IdentityCreatorProtocol := s.manager.identityCreatorQueue.pending

abbrev toManager : List IdentityManagerProtocol := s.creator.outbox

/-- What was sent before a panic is still delivered. -/
def exited : Bool := s.creator.status = .panicked ∧ s.toManager = []

section Next

variable (capacity : Capacities) (outcomes : Nat → CallOutcome) (env : Surroundings)

def next (s : BoundedProcesses) (event : Event) : Option BoundedProcesses :=
  if s.exited then none
  else match event with
    | .arrive msg =>
      if isFromWatchers msg ∧ s.managerQueue.length < capacity.manager then
        some { s with managerQueue := s.managerQueue ++ [msg] }
      else none
    | .handle order =>
      match s.managerQueue with
      | [] => none
      | msg :: rest =>
        if s.toSelf = [] ∧ s.toCreator = [] then
          some { s with manager := IdentityManager.handle outcomes order msg s.manager, managerQueue := rest }
        else none
    | .sendToSelf =>
      match s.manager.identityManagerQueue.recv with
      | none => none
      | some (msg, unsent) =>
        if s.managerQueue.length < capacity.manager then
          some { s with
            manager := { s.manager with identityManagerQueue := unsent }
            managerQueue := s.managerQueue ++ [msg] }
        else none
    | .sendToCreator =>
      match s.manager.identityCreatorQueue.recv with
      | none => none
      | some (msg, unsent) =>
        if s.creatorQueue.length < capacity.creator then
          some { s with
            manager := { s.manager with identityCreatorQueue := unsent }
            creatorQueue := s.creatorQueue ++ [msg] }
        else none
    | .receive order =>
      match s.creatorQueue with
      | [] => none
      | msg :: rest =>
        if s.toManager = [] then
          some { s with creator := s.creator.receive env order msg, creatorQueue := rest }
        else none
    | .sendToManager =>
      match s.toManager with
      | [] => none
      | msg :: rest =>
        if s.managerQueue.length < capacity.manager then
          some { s with creator := { s.creator with outbox := rest }, managerQueue := s.managerQueue ++ [msg] }
        else none

/-- A service that has restored the stored identities, with the message that starts the creator still to be sent. -/
def started (clusterId : String) (stored : List ServiceIdentity) (system : System) (secret : SecretApi)
    (serviceUsersPoolSize : Nat) : BoundedProcesses :=
  ⟨.restored clusterId stored, .new system secret serviceUsersPoolSize, [], []⟩

end Next

section Blocked

variable (capacity : Capacities)

/-- The manager waits for its own queue, from which only it takes messages. -/
def BlockedOnSelf : Prop := s.toSelf ≠ [] ∧ capacity.manager ≤ s.managerQueue.length

def ManagerBlocked : Prop := s.toCreator ≠ [] ∧ capacity.creator ≤ s.creatorQueue.length

def CreatorBlocked : Prop := s.toManager ≠ [] ∧ capacity.manager ≤ s.managerQueue.length

def Deadlocked : Prop := s.BlockedOnSelf capacity ∨ s.ManagerBlocked capacity ∧ s.CreatorBlocked capacity

/-- The manager needs no place in its queue to go on, when the creator has the given messages left to send. -/
def ManagesWithout (left : List IdentityManagerProtocol) : Prop :=
  s.toSelf = [] ∧ (s.ManagerBlocked capacity → left = [])

/-- The last place of a queue is taken only where nobody is then left waiting for the receiver to take a message while
the receiver waits itself. -/
def LeavesRoom (s : BoundedProcesses) : Event → Prop
  | .arrive _ => s.managerQueue.length + 1 = capacity.manager → s.ManagesWithout capacity s.toManager
  | .sendToManager => s.managerQueue.length + 1 = capacity.manager → s.ManagesWithout capacity s.toManager.tail
  | .sendToCreator => s.creatorQueue.length + 1 = capacity.creator → s.CreatorBlocked capacity →
    s.toCreator.tail = []
  | .handle _ | .sendToSelf | .receive _ => True

instance : Decidable (s.BlockedOnSelf capacity) := inferInstanceAs (Decidable (_ ∧ _))

instance : Decidable (s.ManagerBlocked capacity) := inferInstanceAs (Decidable (_ ∧ _))

instance : Decidable (s.CreatorBlocked capacity) := inferInstanceAs (Decidable (_ ∧ _))

instance : Decidable (s.Deadlocked capacity) := inferInstanceAs (Decidable (_ ∨ _))

instance (left : List IdentityManagerProtocol) : Decidable (s.ManagesWithout capacity left) :=
  inferInstanceAs (Decidable (_ ∧ _))

instance : DecidablePred (s.LeavesRoom capacity) := fun event => by
  unfold LeavesRoom
  split <;> infer_instance

end Blocked

section Moves

variable (capacity : Capacities) (outcomes : Nat → CallOutcome) (env : Surroundings)

inductive Move (s : BoundedProcesses) : Event → BoundedProcesses → Prop where
  | arrive (msg : IdentityManagerProtocol) (hRoom : s.managerQueue.length < capacity.manager) :
      Move s (.arrive msg) { s with managerQueue := s.managerQueue ++ [msg] }
  | handle (order : IterationOrder) (msg : IdentityManagerProtocol) (rest : List IdentityManagerProtocol)
      (hQueue : s.managerQueue = msg :: rest) (hSelf : s.toSelf = []) (hCreator : s.toCreator = []) :
      Move s (.handle order)
        { s with manager := IdentityManager.handle outcomes order msg s.manager, managerQueue := rest }
  | sendToSelf (msg : IdentityManagerProtocol) (unsent : Channel IdentityManagerProtocol)
      (hSelf : s.toSelf = msg :: unsent.pending) (hRoom : s.managerQueue.length < capacity.manager) :
      Move s .sendToSelf { s with
        manager := { s.manager with identityManagerQueue := unsent }
        managerQueue := s.managerQueue ++ [msg] }
  | sendToCreator (msg : IdentityCreatorProtocol) (unsent : Channel IdentityCreatorProtocol)
      (hCreator : s.toCreator = msg :: unsent.pending) (hRoom : s.creatorQueue.length < capacity.creator) :
      Move s .sendToCreator { s with
        manager := { s.manager with identityCreatorQueue := unsent }
        creatorQueue := s.creatorQueue ++ [msg] }
  | receive (order : IterationOrder) (msg : IdentityCreatorProtocol) (rest : List IdentityCreatorProtocol)
      (hQueue : s.creatorQueue = msg :: rest) (hManager : s.toManager = []) :
      Move s (.receive order) { s with creator := s.creator.receive env order msg, creatorQueue := rest }
  | sendToManager (msg : IdentityManagerProtocol) (rest : List IdentityManagerProtocol)
      (hManager : s.toManager = msg :: rest) (hRoom : s.managerQueue.length < capacity.manager) :
      Move s .sendToManager
        { s with creator := { s.creator with outbox := rest }, managerQueue := s.managerQueue ++ [msg] }

variable {capacity outcomes env} {s t : BoundedProcesses} {event : Event}

theorem next_move (h : next capacity outcomes env s event = some t) : Move capacity outcomes env s event t := by
  unfold next at h
  split at h
  · cases h
  · cases event with
    | arrive msg =>
      dsimp only at h
      split at h
      · cases h
        exact .arrive msg (And.right ‹_›)
      · cases h
    | handle order =>
      dsimp only at h
      split at h
      · cases h
      · rename_i msg rest hQueue
        split at h
        · rename_i hIdle
          cases h
          exact .handle order msg rest hQueue hIdle.1 hIdle.2
        · cases h
    | sendToSelf =>
      dsimp only at h
      split at h
      · cases h
      · rename_i msg unsent hRecv
        split at h
        · cases h
          obtain ⟨rest, hPending, rfl⟩ := Channel.recv_eq_some.mp hRecv
          exact .sendToSelf msg _ hPending ‹_›
        · cases h
    | sendToCreator =>
      dsimp only at h
      split at h
      · cases h
      · rename_i msg unsent hRecv
        split at h
        · cases h
          obtain ⟨rest, hPending, rfl⟩ := Channel.recv_eq_some.mp hRecv
          exact .sendToCreator msg _ hPending ‹_›
        · cases h
    | receive order =>
      dsimp only at h
      split at h
      · cases h
      · rename_i msg rest hQueue
        split at h
        · cases h
          exact .receive order msg rest hQueue ‹_›
        · cases h
    | sendToManager =>
      dsimp only at h
      split at h
      · cases h
      · rename_i msg rest hManager
        split at h
        · cases h
          exact .sendToManager msg rest hManager ‹_›
        · cases h

end Moves

/-- No queue holds more than it has room for, and what the manager has left to send is for one queue, and one message if
it is its own. -/
structure Fits (capacity : Capacities) (s : BoundedProcesses) : Prop where
  manager : s.managerQueue.length ≤ capacity.manager
  creator : s.creatorQueue.length ≤ capacity.creator
  once : s.toSelf.length ≤ 1
  apart : s.toSelf = [] ∨ s.toCreator = []

section Runs

variable {capacity : Capacities} {outcomes : Nat → CallOutcome} {env : Surroundings}

theorem length_append_le {α : Type} {xs : List α} {n : Nat} (h : xs.length < n)
    (x : α) : (xs ++ [x]).length ≤ n := by
  rw [List.length_append]
  exact h

theorem fits_next {s t : BoundedProcesses} {event : Event} (hs : Fits capacity s)
    (h : next capacity outcomes env s event = some t) : Fits capacity t := by
  have hManager := hs.manager
  have hCreator := hs.creator
  have hOnce := hs.once
  have hApart := hs.apart
  induction next_move h with
  | arrive msg hRoom => exact ⟨length_append_le hRoom msg, hCreator, hOnce, hApart⟩
  | handle order msg rest hQueue hSelf hIdle =>
    have hSends := IdentityManager.handle_sends_one outcomes order msg s.manager
    have hSent : (IdentityManager.handle outcomes order msg s.manager).identityManagerQueue.pending =
        s.manager.selfSent msg := by
      rw [IdentityManager.handle_queue, Channel.pending_sendAll]
      exact congrArg (· ++ s.manager.selfSent msg) hSelf
    refine ⟨?_, hCreator, ?_, ?_⟩
    · rw [hQueue, List.length_cons] at hManager
      show rest.length ≤ capacity.manager
      omega
    · show (IdentityManager.handle outcomes order msg s.manager).identityManagerQueue.pending.length ≤ 1
      rw [hSent]
      exact hSends.1
    · rcases hSends.2 with hNone | hSame
      · exact .inl (hSent.trans hNone)
      · exact .inr ((congrArg Channel.pending hSame).trans hIdle)
  | sendToSelf msg unsent hSelf hRoom =>
    rw [hSelf, List.length_cons] at hOnce
    refine ⟨length_append_le hRoom msg, hCreator, ?_, .inl ?_⟩
    · show unsent.pending.length ≤ 1
      omega
    · exact List.eq_nil_of_length_eq_zero (Nat.le_zero.mp (Nat.le_of_succ_le_succ hOnce))
  | sendToCreator msg unsent hSent hRoom =>
    refine ⟨hManager, length_append_le hRoom msg, hOnce, .inl ?_⟩
    rcases hApart with hNone | hNone
    · exact hNone
    · rw [hNone] at hSent
      cases hSent
  | receive order msg rest hQueue hIdle =>
    rw [hQueue, List.length_cons] at hCreator
    exact ⟨hManager, Nat.le_of_succ_le hCreator, hOnce, hApart⟩
  | sendToManager msg rest hSent hRoom => exact ⟨length_append_le hRoom msg, hCreator, hOnce, hApart⟩

/-- Taking a place in the manager's queue is harmless unless it is the last one and the manager needs it. -/
theorem deadlocked_append_iff {s t : BoundedProcesses} {msg : IdentityManagerProtocol}
    (hRoom : s.managerQueue.length < capacity.manager) (hQueue : t.managerQueue = s.managerQueue ++ [msg])
    (hManager : t.manager = s.manager) (hCreator : t.creatorQueue = s.creatorQueue) :
    ¬t.Deadlocked capacity ↔
      (s.managerQueue.length + 1 = capacity.manager → s.ManagesWithout capacity t.toManager) := by
  have hLast : capacity.manager ≤ t.managerQueue.length ↔ s.managerQueue.length + 1 = capacity.manager := by
    rw [hQueue, List.length_append, List.length_singleton]
    omega
  have hBlocked : t.ManagerBlocked capacity ↔ s.ManagerBlocked capacity := by
    rw [ManagerBlocked, ManagerBlocked, toCreator, toCreator, hManager, hCreator]
  rw [Deadlocked, BlockedOnSelf, CreatorBlocked, hBlocked, hLast, ManagesWithout, toSelf, hManager]
  tauto

theorem deadlocked_next_iff {s t : BoundedProcesses} {event : Event} (hs : Fits capacity s)
    (hFree : ¬s.Deadlocked capacity) (h : next capacity outcomes env s event = some t) :
    ¬t.Deadlocked capacity ↔ s.LeavesRoom capacity event := by
  have hManager := hs.manager
  have hCreator := hs.creator
  induction next_move h with
  | arrive msg hRoom => exact deadlocked_append_iff hRoom rfl rfl rfl
  | handle order msg rest hQueue hSelf hIdle =>
    rw [hQueue, List.length_cons] at hManager
    have hPlace : ¬capacity.manager ≤ rest.length := by omega
    refine iff_of_true ?_ trivial
    rintro (⟨_, hFull⟩ | ⟨_, _, hFull⟩)
    · exact hPlace hFull
    · exact hPlace hFull
  | sendToSelf msg unsent hSelf hRoom =>
    have hOnce := hs.once
    rw [hSelf, List.length_cons] at hOnce
    have hSent : unsent.pending = [] := List.eq_nil_of_length_eq_zero (by omega)
    have hIdle : s.toCreator = [] := hs.apart.resolve_left (by simp [hSelf])
    refine iff_of_true ?_ trivial
    rintro (⟨hWaiting, _⟩ | ⟨⟨hWaiting, _⟩, _⟩)
    · exact hWaiting hSent
    · exact hWaiting hIdle
  | sendToCreator msg unsent hSent hRoom =>
    have hSelf : s.toSelf = [] := hs.apart.resolve_right (by simp [hSent])
    have hLast : capacity.creator ≤ (s.creatorQueue ++ [msg]).length ↔
        s.creatorQueue.length + 1 = capacity.creator := by
      rw [List.length_append, List.length_singleton]
      omega
    simp only [Deadlocked, BlockedOnSelf, ManagerBlocked, hLast, LeavesRoom, hSent, List.tail_cons]
    change ¬(s.toSelf ≠ [] ∧ _ ∨ (_ ∧ _) ∧ s.CreatorBlocked capacity) ↔ _
    rw [hSelf]
    tauto
  | receive order msg rest hQueue hIdle =>
    rw [hQueue, List.length_cons] at hCreator
    refine iff_of_true ?_ trivial
    rintro (hSelf | ⟨⟨_, hFull⟩, _⟩)
    · exact hFree (.inl hSelf)
    · exact absurd (show capacity.creator ≤ rest.length from hFull) (by omega)
  | sendToManager msg rest hSent hRoom =>
    have hTail : s.toManager.tail = rest := by rw [hSent, List.tail_cons]
    rw [LeavesRoom, hTail]
    exact deadlocked_append_iff hRoom rfl rfl rfl

/-- What is deadlocked remains so, whatever happens. -/
theorem deadlocked_remains {s t : BoundedProcesses} {event : Event} (hs : Fits capacity s)
    (h : next capacity outcomes env s event = some t) (hDeadlocked : s.Deadlocked capacity) :
    t.Deadlocked capacity := by
  have hFull : capacity.manager ≤ s.managerQueue.length := by
    rcases hDeadlocked with ⟨_, hFull⟩ | ⟨_, _, hFull⟩
    · exact hFull
    · exact hFull
  induction next_move h with
  | arrive msg hRoom => omega
  | sendToSelf msg unsent hSelf hRoom => omega
  | sendToManager msg rest hSent hRoom => omega
  | handle order msg rest hQueue hSelf hIdle =>
    rcases hDeadlocked with ⟨hWaiting, _⟩ | ⟨⟨hWaiting, _⟩, _⟩
    · exact absurd hSelf hWaiting
    · exact absurd hIdle hWaiting
  | sendToCreator msg unsent hSent hRoom =>
    rcases hDeadlocked with ⟨hWaiting, _⟩ | ⟨⟨_, hFull⟩, _⟩
    · have hNone : s.toCreator = [] := hs.apart.resolve_left hWaiting
      rw [hNone] at hSent
      cases hSent
    · omega
  | receive order msg rest hQueue hIdle =>
    rcases hDeadlocked with hSelf | ⟨_, hWaiting, _⟩
    · exact .inl hSelf
    · exact absurd hIdle hWaiting

section Started

variable (clusterId : String) (stored : List ServiceIdentity) (system : System) (secret : SecretApi)
  (serviceUsersPoolSize : Nat)

theorem toSelf_started : (started clusterId stored system secret serviceUsersPoolSize).toSelf = [] := by
  obtain ⟨provider, hRestored⟩ := IdentityManager.restored_frame clusterId stored
  change (IdentityManager.restored clusterId stored).identityManagerQueue.pending = []
  rw [hRestored]
  rfl

theorem fits_started : Fits capacity (started clusterId stored system secret serviceUsersPoolSize) := by
  have hSelf := toSelf_started clusterId stored system secret serviceUsersPoolSize
  refine ⟨Nat.zero_le _, Nat.zero_le _, ?_, .inl hSelf⟩
  rw [hSelf]
  exact Nat.zero_le 1

theorem not_deadlocked_started :
    ¬(started clusterId stored system secret serviceUsersPoolSize).Deadlocked capacity := by
  rintro (⟨hSelf, _⟩ | ⟨_, hManager, _⟩)
  · exact hSelf (toSelf_started clusterId stored system secret serviceUsersPoolSize)
  · exact hManager rfl

end Started

/-- Neither party ever waits for a queue that is not emptied again, if and only if every step of the run leaves the room
that is needed. -/
theorem never_deadlocked_iff (capacity : Capacities) (outcomes : Nat → CallOutcome) (env : Surroundings)
    (clusterId : String) (stored : List ServiceIdentity) (system : System) (secret : SecretApi)
    (serviceUsersPoolSize : Nat) (labels : List Event)
    (hRun : (run (next capacity outcomes env) (started clusterId stored system secret serviceUsersPoolSize)
      labels).isSome = true) :
    Throughout (next capacity outcomes env) (fun s => ¬s.Deadlocked capacity)
        (started clusterId stored system secret serviceUsersPoolSize) labels ↔
      Admits (next capacity outcomes env) (LeavesRoom capacity)
        (started clusterId stored system secret serviceUsersPoolSize) labels :=
  throughout_iff_admits (fun _ _ _ => fits_next) (fun _ _ _ => deadlocked_next_iff)
    (fits_started clusterId stored system secret serviceUsersPoolSize)
    (not_deadlocked_started clusterId stored system secret serviceUsersPoolSize) hRun

end Runs

open IdentityManager (sampleIdentity sampleCandidate)

def sampleCapacities : Capacities := ⟨50, 50⟩

def sampleNext : BoundedProcesses → Event → Option BoundedProcesses :=
  next sampleCapacities (fun _ => .delivered) (IdentityCreator.sampleSurroundings fun _ => .delivered)

def sampleStarted : BoundedProcesses :=
  started "cluster" [sampleIdentity "a" "u1"] ⟨⟨[IdentityCreator.sampleActive "u1"], [], []⟩, 0, []⟩
    ⟨some ⟨some (AList.singleton "u1-service-password" (.text "pw"))⟩, 0, []⟩ 0

/-- The creator starts and answers, candidate `a` is found and both watchers are ready. -/
def sampleStartup : List Event :=
  [.sendToCreator, .receive .asStored, .sendToManager, .sendToManager,
    .arrive (.foundServiceCandidate (sampleCandidate "a")),
    .arrive .deploymentWatcherReady, .arrive .deploymentWatcherReady] ++ List.replicate 5 (.handle .asStored) ++
    [.sendToSelf, .handle .asStored, .sendToCreator]

/-- Candidate `a` is deleted, and the watchers report others before the manager has sent its message to itself. -/
def sampleBurst (reports : Nat) : List Event :=
  [.arrive (.deletedServiceCandidate (sampleCandidate "a")), .handle .asStored] ++
    List.replicate reports (.arrive (.foundServiceCandidate (sampleCandidate "b")))

theorem never_deadlocked_sample :
    Throughout sampleNext (fun s => ¬s.Deadlocked sampleCapacities) sampleStarted (sampleStartup ++ sampleBurst 49) :=
  (never_deadlocked_iff sampleCapacities (fun _ => .delivered) (IdentityCreator.sampleSurroundings fun _ => .delivered)
    "cluster" [sampleIdentity "a" "u1"] ⟨⟨[IdentityCreator.sampleActive "u1"], [], []⟩, 0, []⟩
    ⟨some ⟨some (AList.singleton "u1-service-password" (.text "pw"))⟩,
      0, []⟩ 0 (sampleStartup ++ sampleBurst 49)
    (by decide +kernel)).mpr (by decide +kernel)

def sampleBlocked : BoundedProcesses := runD sampleNext sampleStarted (sampleStartup ++ sampleBurst 50)

/-- The deletion is for the manager itself, which waits for a place in the queue that only it empties. -/
theorem deleted_candidate_blocks :
    Steps sampleNext (fun _ _ => True) sampleStarted sampleBlocked ∧
      sampleBlocked.toSelf = [.deleteServiceIdentity (sampleIdentity "a" "u1")] ∧
      sampleBlocked.BlockedOnSelf sampleCapacities :=
  ⟨Steps.of_runD (sampleStartup ++ sampleBurst 50) (by decide +kernel) (by decide +kernel), by decide +kernel,
    by decide +kernel⟩

end BoundedProcesses

end SdpK8sInjector.IdentityService
