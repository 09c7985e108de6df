import SdpK8sInjector.IdentityService.Records
import SdpK8sInjector.IdentityService.Recovery
import SdpK8sInjector.IdentityService.Requests
import SdpK8sInjector.Lib.Transition

/-! # The identity service: manager and creator side by side

The creator takes one message at a time and sends what it has to send before it
takes the next one. A panic of the creator ends the process.
-/

namespace SdpK8sInjector.IdentityService

open Lib Common

structure Processes where
  manager : IdentityManager
  creator : IdentityCreator
deriving DecidableEq

namespace Processes

/-- The messages that the watchers of candidates and pods send. -/
def isFromWatchers : IdentityManagerProtocol → Bool
  | .foundServiceCandidate _ | .requestServiceIdentity _ | .deletedServiceCandidate _ | .deploymentWatcherReady
  | .releaseDeviceId _ _ => true
  | _ => false

def isFromCreator : IdentityManagerProtocol → Bool
  | .foundServiceUser _ _ | .identityCreatorReady | .activatedServiceUser _ _ _ => true
  | _ => false

inductive Event where
  | arrive (msg : IdentityManagerProtocol)
  | handle (order : IterationOrder)
  | receive (order : IterationOrder)
  | deliver

/-- What was sent before a panic is still delivered. -/
def exited (s : Processes) : Bool := s.creator.status = .panicked ∧ s.creator.outbox = []

variable (outcomes : Nat → CallOutcome) (env : Surroundings)

def next (s : Processes) (event : Event) : Option Processes :=
  if s.exited then none
  else match event with
    | .arrive msg => if isFromWatchers msg then some { s with manager := s.manager.sendToSelf msg } else none
    | .handle order => (s.manager.next outcomes (.handle order)).map fun manager => { s with manager := manager }
    | .receive order =>
      if s.creator.outbox = [] then
        s.manager.identityCreatorQueue.recv.map fun (msg, queue) =>
          ⟨{ s.manager with identityCreatorQueue := queue }, s.creator.receive env order msg⟩
      else none
    | .deliver =>
      match s.creator.outbox with
      | [] => none
      | msg :: rest => some ⟨s.manager.sendToSelf msg, { s.creator with outbox := rest }⟩

/-- A service that has restored the stored identities and not yet asked for the users. -/
def started (clusterId : String) (stored : List ServiceIdentity) (system : System) (secret : SecretApi)
    (serviceUsersPoolSize : Nat) : Processes :=
  ⟨.restored clusterId stored, .new system secret serviceUsersPoolSize⟩

/-- What is registered at the controller has become this. -/
def withDevices (devices : List OnBoardedUser) (s : Processes) : Processes :=
  let system := s.creator.system
  { s with creator := { s.creator with system := { system with store := { system.store with devices := devices } } } }

inductive Move (s : Processes) : Event → Processes → Prop where
  | arrive (msg : IdentityManagerProtocol) (hMsg : isFromWatchers msg = true) :
      Move s (.arrive msg) { s with manager := s.manager.sendToSelf msg }
  | handle (order : IterationOrder) (msg : IdentityManagerProtocol) (queue : Channel IdentityManagerProtocol)
      (hRecv : s.manager.identityManagerQueue.recv = some (msg, queue)) :
      Move s (.handle order)
        { s with manager := IdentityManager.handle outcomes order msg { s.manager with identityManagerQueue := queue } }
  | receive (order : IterationOrder) (msg : IdentityCreatorProtocol) (queue : Channel IdentityCreatorProtocol)
      (hOutbox : s.creator.outbox = []) (hStatus : s.creator.status ≠ .panicked)
      (hRecv : s.manager.identityCreatorQueue.recv = some (msg, queue)) :
      Move s (.receive order)
        ⟨{ s.manager with identityCreatorQueue := queue }, s.creator.receive env order msg⟩
  | deliver (msg : IdentityManagerProtocol) (rest : List IdentityManagerProtocol)
      (hOutbox : s.creator.outbox = msg :: rest) :
      Move s .deliver ⟨s.manager.sendToSelf msg, { s.creator with outbox := rest }⟩

theorem next_move {s t : Processes} {event : Event} (h : next outcomes env s event = some t) :
    Move outcomes env s event t := by
  unfold next at h
  split at h
  · cases h
  · rename_i hRunning
    cases event with
    | arrive msg =>
      dsimp only at h
      split at h
      · cases h
        exact .arrive msg ‹_›
      · cases h
    | handle order =>
      obtain ⟨manager, hManager, rfl⟩ := Option.map_eq_some_iff.mp h
      obtain ⟨⟨msg, queue⟩, hRecv, rfl⟩ := Option.map_eq_some_iff.mp hManager
      exact .handle order msg queue hRecv
    | receive order =>
      dsimp only at h
      split at h
      · obtain ⟨⟨msg, queue⟩, hRecv, rfl⟩ := Option.map_eq_some_iff.mp h
        refine .receive order msg queue ‹_› (fun hStatus => hRunning ?_) hRecv
        simp [exited, *]
      · cases h
    | deliver =>
      dsimp only at h
      split at h
      · cases h
      · cases h
        exact .deliver _ _ ‹_›

theorem receive_cases (order : IterationOrder) (msg : IdentityCreatorProtocol) (c : IdentityCreator) :
    (c.status = .waiting ∧ ∃ status ready, status ≠ .waiting ∧
      (ready = [] ∨ ready = [.identityCreatorReady]) ∧
      c.receive env order msg = { (c.initializeFrom env).2 with
        status := status, outbox := (c.initializeFrom env).2.outbox ++ ready }) ∨
    c.receive env order msg = c ∨
    c.status = .running ∧ c.receive env order msg = c.handle env order msg := by
  unfold IdentityCreator.receive
  split
  · rename_i hWaiting
    refine .inl ⟨hWaiting, ?_⟩
    cases c.initializeFrom env with
    | mk result c' =>
      cases result with
      | ok url => exact ⟨.running, [.identityCreatorReady], by simp, .inr rfl, rfl⟩
      | error e => exact ⟨.panicked, [], by simp, .inl rfl, by simp⟩
  · exact .inr (.inl rfl)
  · rename_i hRunning
    exact .inr (.inr ⟨hRunning, rfl⟩)
  · exact .inr (.inl rfl)

theorem receive_outbox (order : IterationOrder) (msg : IdentityCreatorProtocol) (c : IdentityCreator)
    (h : ∀ x ∈ c.outbox, isFromCreator x = true) :
    ∀ x ∈ (c.receive env order msg).outbox, isFromCreator x = true := by
  have hInitialized : ∀ x ∈ (c.initializeFrom env).2.outbox, isFromCreator x = true := by
    obtain ⟨listed, found, gone, created, hInit, -⟩ := IdentityCreator.initializeFrom_spec env c
    rw [hInit.outbox]
    intro x hx
    rcases List.mem_append.mp hx with hx | hx
    · rcases List.mem_append.mp hx with hx | hx
      · exact h x hx
      · obtain ⟨p, -, rfl⟩ := List.mem_map.mp hx
        rfl
    · obtain ⟨u, -, rfl⟩ := List.mem_map.mp hx
      rfl
  have hHandled : ∀ x ∈ (c.handle env order msg).outbox, isFromCreator x = true := by
    intro x hx
    cases IdentityCreator.handle_answer env order msg c with
    | silent hSame hDrawn => exact h x (hSame ▸ hx)
    | created user hSame hId hDrawn =>
      rcases List.mem_append.mp (hSame ▸ hx) with hx | hx
      · exact h x hx
      · rw [List.mem_singleton.mp hx]
        rfl
    | activated user clusterId serviceNs serviceName labels userName hMsg hSame hDrawn =>
      rcases List.mem_append.mp (hSame ▸ hx) with hx | hx
      · exact h x hx
      · rw [List.mem_singleton.mp hx]
        rfl
  rcases receive_cases env order msg c with ⟨_, status, ready, _, hReady, hEq⟩ | hEq | ⟨_, hEq⟩ <;> rw [hEq]
  · intro x hx
    rcases List.mem_append.mp hx with hx | hx
    · exact hInitialized x hx
    · rcases hReady with rfl | rfl
      · cases hx
      · rw [List.mem_singleton.mp hx]
        rfl
  · exact h
  · exact hHandled

end Processes

end SdpK8sInjector.IdentityService
