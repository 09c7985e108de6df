import SdpK8sInjector.Common.Injection
import SdpK8sInjector.Lib.Remote

/-! # The watcher of one kind of object

First the objects are listed, and each one that was listed counts as applied. Then
the events of a stream are followed. The receiver of the messages stays.
-/

namespace SdpK8sInjector.Common

open Lib

class SimpleWatchingProtocol (E : Type) (P : outParam Type) where
  initialized : E → Option Namespace → Option P
  applied : E → Option Namespace → Option P
  reapplied : E → Option Namespace → Option P
  deleted : E → Option Namespace → Option P
  key : E → Option String
  /-- `ResourceExt::namespace` -/
  objectNs : E → Option String

structure WatcherConfig (P : Type) where
  /-- Whether there is an API for namespaces. -/
  apiNs : Bool
  notificationMessage : Option P

inductive WatcherOperation where
  | apply
  | reApply
deriving DecidableEq

/-- The `uid` tells an object from a later one of the same name. -/
structure Entity (E : Type) where
  uid : Nat
  object : E
deriving DecidableEq

inductive WatcherEvent (E : Type) where
  | apply (e : Entity E)
  | delete (e : Entity E)
  | init
  | initApply (e : Entity E)
  | initDone
deriving DecidableEq

/-- The object whose namespace is looked up for the event. -/
def WatcherEvent.subject {E : Type} : WatcherEvent E → Option (Entity E)
  | .apply e | .delete e => some e
  | .init | .initApply _ | .initDone => none

/-- Why a message was sent. -/
inductive Notice where
  | initialized
  | applied
  | reapplied
  | deleted
deriving DecidableEq

/-- What `watch` remembers, and what it has sent. For each message about an object, `notices` has the `uid`. -/
structure Watching (P : Type) where
  applied : HashSet String
  queue : List P
  notices : List (Notice × Nat)
deriving DecidableEq

/-- The namespaces, and how many of them were looked up so far. -/
abbrev NamespaceApi := Remote (HashMap String Namespace) String

def NamespaceApi.getOpt (outcomes : Nat → CallOutcome) (api : NamespaceApi) (name : String) :
    Except String (Option Namespace) × NamespaceApi :=
  api.call outcomes "request" fun store => .ok (store.lookup name, store)

def getNs (outcomes : Nat → CallOutcome) (apiNs : Bool) (nsName : Option String) (api : NamespaceApi) :
    Except String (Option Namespace) × NamespaceApi :=
  if apiNs then
    match nsName with
    | some ns =>
      let (result, api) := api.getOpt outcomes ns
      (result.mapError ("Error getting namespace: " ++ ·), api)
    | none => (.error "Unable to get namespace", api)
  else (.ok none, api)

/-- A failed lookup is logged and leaves the object without a namespace. -/
def nsOrNone (result : Except String (Option Namespace)) : Option Namespace := result.toOption.join

namespace Watching

variable {E P : Type} [SimpleWatchingProtocol E P]

def start : Watching P := ⟨∅, [], []⟩

def send (notice : Notice) (uid : Nat) (msg : P) (w : Watching P) : Watching P :=
  { w with queue := w.queue ++ [msg], notices := w.notices ++ [(notice, uid)] }

/-- One turn of the initial loop. -/
def initialTurn (e : Entity E) (ns : Option Namespace) (w : Watching P) : Watching P :=
  let w := match SimpleWatchingProtocol.initialized e.object ns with
    | some msg => w.send .initialized e.uid msg
    | none => w
  match SimpleWatchingProtocol.key e.object with
  | some key => { w with applied := AList.insert key () w.applied }
  | none => w

def operation (key : Option String) (w : Watching P) : WatcherOperation :=
  match key with
  | some key => if key ∈ w.applied then .reApply else .apply
  | none => .apply

/-- One turn of the event loop. -/
def eventTurn (event : WatcherEvent E) (ns : Option Namespace) (w : Watching P) : Watching P :=
  match event with
  | .apply e =>
    let key := SimpleWatchingProtocol.key e.object
    match w.operation key with
    | .apply =>
      match SimpleWatchingProtocol.applied e.object ns with
      | some msg =>
        let w := w.send .applied e.uid msg
        match key with
        | some key => { w with applied := AList.insert key () w.applied }
        | none => w
      | none => w
    | .reApply =>
      match SimpleWatchingProtocol.reapplied e.object ns with
      | some msg => w.send .reapplied e.uid msg
      | none => w
  | .delete e =>
    match SimpleWatchingProtocol.deleted e.object ns with
    | some msg =>
      let w := w.send .deleted e.uid msg
      match SimpleWatchingProtocol.key e.object with
      | some key => { w with applied := w.applied.erase key }
      | none => w
    | none => w
  | .init | .initApply _ | .initDone => w

/-- The objects are listed, each of them with the namespace that is found for it. -/
def list (objects : List (Entity E × Option Namespace)) (w : Watching P) : Watching P :=
  objects.foldl (fun w (e, ns) => w.initialTurn e ns) w

def notify (msg : Option P) (w : Watching P) : Watching P := { w with queue := w.queue ++ msg.toList }

def handle (events : List (WatcherEvent E × Option Namespace)) (w : Watching P) : Watching P :=
  events.foldl (fun w (event, ns) => w.eventTurn event ns) w

/-- A run of `watch` in which the lookups and the sends succeed. -/
def watch (config : WatcherConfig P) (objects : List (Entity E × Option Namespace))
    (events : List (WatcherEvent E × Option Namespace)) : Watching P :=
  ((start.list objects).notify config.notificationMessage).handle events

theorem watch_append (config : WatcherConfig P) (objects : List (Entity E × Option Namespace))
    (before after : List (WatcherEvent E × Option Namespace)) :
    watch config objects (before ++ after) = (watch config objects before).handle after := by
  rw [watch, handle, List.foldl_append]
  rfl

/-- The objects announced by a message that they are there. -/
def announced (w : Watching P) : List Nat :=
  w.notices.filterMap fun (notice, uid) =>
    if notice = .initialized ∨ notice = .applied then some uid else none

def retracted (w : Watching P) : List Nat :=
  w.notices.filterMap fun (notice, uid) => if notice = .deleted then some uid else none

section Turns

variable (w : Watching P) (ns : Option Namespace) (e : Entity E)

@[simp] theorem announced_send (notice : Notice) (uid : Nat) (msg : P) : (w.send notice uid msg).announced =
    w.announced ++ if notice = .initialized ∨ notice = .applied then [uid] else [] := by
  rw [announced, send, List.filterMap_append]
  split <;> simp [announced, *]

@[simp] theorem retracted_send (notice : Notice) (uid : Nat) (msg : P) : (w.send notice uid msg).retracted =
    w.retracted ++ if notice = .deleted then [uid] else [] := by
  rw [retracted, send, List.filterMap_append]
  split <;> simp [retracted, *]

@[simp] theorem announced_applied (keys : HashSet String) : announced { w with applied := keys } = w.announced := rfl

@[simp] theorem retracted_applied (keys : HashSet String) : retracted { w with applied := keys } = w.retracted := rfl

theorem announced_initialTurn : (w.initialTurn e ns).announced =
    w.announced ++ if (SimpleWatchingProtocol.initialized e.object ns).isSome then [e.uid] else [] := by
  unfold initialTurn
  cases SimpleWatchingProtocol.initialized e.object ns <;> cases SimpleWatchingProtocol.key e.object <;> simp

/-- An object that is applied is announced, unless its key is known already or there is no message for it. -/
theorem announced_apply : (w.eventTurn (.apply e) ns).announced =
    w.announced ++ if w.operation (SimpleWatchingProtocol.key e.object) = .apply ∧
      (SimpleWatchingProtocol.applied e.object ns).isSome then [e.uid] else [] := by
  simp only [eventTurn]
  cases w.operation (SimpleWatchingProtocol.key e.object) with
  | apply =>
    cases SimpleWatchingProtocol.applied e.object ns <;> cases SimpleWatchingProtocol.key e.object <;> simp
  | reApply => cases SimpleWatchingProtocol.reapplied e.object ns <;> simp

theorem retracted_apply : (w.eventTurn (.apply e) ns).retracted = w.retracted := by
  simp only [eventTurn]
  cases w.operation (SimpleWatchingProtocol.key e.object) with
  | apply =>
    cases SimpleWatchingProtocol.applied e.object ns <;> cases SimpleWatchingProtocol.key e.object <;> simp
  | reApply => cases SimpleWatchingProtocol.reapplied e.object ns <;> simp

theorem announced_delete : (w.eventTurn (.delete e) ns).announced = w.announced := by
  simp only [eventTurn]
  cases SimpleWatchingProtocol.deleted e.object ns <;> cases SimpleWatchingProtocol.key e.object <;> simp

theorem retracted_delete : (w.eventTurn (.delete e) ns).retracted =
    w.retracted ++ if (SimpleWatchingProtocol.deleted e.object ns).isSome then [e.uid] else [] := by
  simp only [eventTurn]
  cases SimpleWatchingProtocol.deleted e.object ns <;> cases SimpleWatchingProtocol.key e.object <;> simp

/-- The message for an object that is applied, whether its key is known or not. -/
theorem queue_apply : (w.eventTurn (.apply e) ns).queue = w.queue ++
    (if w.operation (SimpleWatchingProtocol.key e.object) = .apply then SimpleWatchingProtocol.applied e.object ns
      else SimpleWatchingProtocol.reapplied e.object ns).toList := by
  simp only [eventTurn]
  cases w.operation (SimpleWatchingProtocol.key e.object) with
  | apply =>
    cases SimpleWatchingProtocol.applied e.object ns <;> cases SimpleWatchingProtocol.key e.object <;> simp [send]
  | reApply => cases SimpleWatchingProtocol.reapplied e.object ns <;> simp [send]

theorem queue_delete :
    (w.eventTurn (.delete e) ns).queue = w.queue ++ (SimpleWatchingProtocol.deleted e.object ns).toList := by
  simp only [eventTurn]
  cases SimpleWatchingProtocol.deleted e.object ns <;> cases SimpleWatchingProtocol.key e.object <;> simp [send]

theorem queue_initialTurn :
    (w.initialTurn e ns).queue = w.queue ++ (SimpleWatchingProtocol.initialized e.object ns).toList := by
  unfold initialTurn
  cases SimpleWatchingProtocol.initialized e.object ns <;> cases SimpleWatchingProtocol.key e.object <;> simp [send]

variable {key : String}

theorem mem_applied_initialTurn :
    key ∈ (w.initialTurn e ns).applied ↔ SimpleWatchingProtocol.key e.object = some key ∨ key ∈ w.applied := by
  unfold initialTurn
  cases SimpleWatchingProtocol.initialized e.object ns <;> cases SimpleWatchingProtocol.key e.object <;>
    simp [send, eq_comm]

theorem mem_applied_apply : key ∈ (w.eventTurn (.apply e) ns).applied ↔ key ∈ w.applied ∨
    (SimpleWatchingProtocol.key e.object = some key ∧ (SimpleWatchingProtocol.applied e.object ns).isSome) := by
  simp only [eventTurn, operation]
  cases hKey : SimpleWatchingProtocol.key e.object with
  | none => cases SimpleWatchingProtocol.applied e.object ns <;> simp [send]
  | some key' =>
    by_cases hMem : key' ∈ w.applied
    · have hSame : key' = key → key ∈ w.applied := fun h => h ▸ hMem
      cases SimpleWatchingProtocol.reapplied e.object ns <;> simp [hMem, send] <;> tauto
    · cases SimpleWatchingProtocol.applied e.object ns <;> simp [hMem, send, eq_comm, or_comm]

theorem mem_applied_delete : key ∈ (w.eventTurn (.delete e) ns).applied ↔ key ∈ w.applied ∧
    ¬(SimpleWatchingProtocol.key e.object = some key ∧ (SimpleWatchingProtocol.deleted e.object ns).isSome) := by
  simp only [eventTurn]
  cases SimpleWatchingProtocol.deleted e.object ns <;> cases SimpleWatchingProtocol.key e.object <;>
    simp [send, AList.mem_erase, eq_comm, and_comm]

end Turns

section List

variable {w : Watching P}

theorem queue_list (objects : List (Entity E × Option Namespace)) : (w.list objects).queue =
    w.queue ++ objects.filterMap fun o => SimpleWatchingProtocol.initialized o.1.object o.2 := by
  induction objects generalizing w with
  | nil => simp [Watching.list]
  | cons o rest ih =>
    change ((w.initialTurn o.1 o.2).list rest).queue = _
    rw [ih, queue_initialTurn, List.append_assoc, List.filterMap_cons]
    cases SimpleWatchingProtocol.initialized o.1.object o.2 <;> simp

theorem mem_announced_list {objects : List (Entity E × Option Namespace)} {uid : Nat} :
    uid ∈ (w.list objects).announced ↔ uid ∈ w.announced ∨
      ∃ o ∈ objects, (SimpleWatchingProtocol.initialized o.1.object o.2).isSome ∧ o.1.uid = uid := by
  induction objects generalizing w with
  | nil => simp [Watching.list]
  | cons o rest ih =>
    change uid ∈ ((w.initialTurn o.1 o.2).list rest).announced ↔ _
    rw [ih, announced_initialTurn, List.mem_append, or_assoc, List.exists_mem_cons_iff]
    refine or_congr_right (or_congr_left ?_)
    split <;> simp [*, eq_comm]

end List

end Watching

end SdpK8sInjector.Common
