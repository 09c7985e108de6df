import SdpK8sInjector.Common.Watcher
import SdpK8sInjector.Lib.Transition

/-! # A cluster under watch

Objects come, change and go while `watch` lists them, waits, opens its stream and
opens it again. The stream lists the objects each time that it is opened, and then
reports what changes.
-/

namespace SdpK8sInjector.Common

open Lib

/-- How far `watch` has come, and what it still has in its hands. -/
inductive Phase (E : Type) where
  | unlisted
  | listing (rest : List (Entity E))
  | waiting
  | streaming (pending : List (WatcherEvent E))
deriving DecidableEq

structure Cluster (E P : Type) where
  objects : List (Entity E)
  created : Nat
  namespaces : NamespaceApi
  phase : Phase E
  watching : Watching P
deriving DecidableEq

/-- The API is changed in the first four ways. `restart` loses the events after the first `kept` ones. -/
inductive ClusterEvent (E : Type) where
  | create (object : E)
  | modify (uid : Nat) (object : E)
  | delete (uid : Nat)
  | setNamespace (name : String) (ns : Option Namespace)
  | list
  | listed
  | notify
  | openStream
  | restart (kept : Nat)
  | event

namespace Phase

variable {E : Type}

/-- Only an open stream sees what changes. -/
def observe (event : WatcherEvent E) : Phase E → Phase E
  | .streaming pending => .streaming (pending ++ [event])
  | phase => phase

def isStreaming : Phase E → Bool
  | .streaming _ => true
  | _ => false

/-- Of the pending events the first `kept` ones stay. -/
def truncate (kept : Nat) : Phase E → Phase E
  | .streaming pending => .streaming (pending.take kept)
  | phase => phase

/-- What a stream reports when it is opened. -/
def reported (objects : List (Entity E)) : List (WatcherEvent E) :=
  .init :: objects.map .initApply ++ [.initDone]

end Phase

namespace Cluster

variable {E P : Type} [SimpleWatchingProtocol E P]

/-- A namespace is created or changed, or it goes. -/
def setNamespace (name : String) (ns : Option Namespace) (s : Cluster E P) : Cluster E P :=
  let store := match ns with
    | some ns => AList.insert name ns s.namespaces.store
    | none => s.namespaces.store.erase name
  { s with namespaces := { s.namespaces with store := store } }

section Next

variable (outcomes : Nat → CallOutcome) (config : WatcherConfig P)

def lookUp (e : Entity E) (s : Cluster E P) : Option Namespace × NamespaceApi :=
  let (result, api) := getNs outcomes config.apiNs (SimpleWatchingProtocol.objectNs e.object) s.namespaces
  (nsOrNone result, api)

def next (s : Cluster E P) : ClusterEvent E → Option (Cluster E P)
  | .create object =>
    let e : Entity E := ⟨s.created, object⟩
    some { s with objects := s.objects ++ [e], created := s.created + 1, phase := s.phase.observe (.apply e) }
  | .modify uid object =>
    if s.objects.any fun e => e.uid == uid then
      let e : Entity E := ⟨uid, object⟩
      some { s with
        objects := s.objects.map fun o => if o.uid == uid then e else o
        phase := s.phase.observe (.apply e) }
    else none
  | .delete uid =>
    (s.objects.find? fun e => e.uid == uid).map fun e =>
      { s with objects := s.objects.filter fun o => o.uid != uid, phase := s.phase.observe (.delete e) }
  | .setNamespace name ns => some (s.setNamespace name ns)
  | .list =>
    match s.phase with
    | .unlisted => some { s with phase := .listing s.objects }
    | _ => none
  | .listed =>
    match s.phase with
    | .listing (e :: rest) =>
      let (ns, api) := s.lookUp outcomes config e
      some { s with namespaces := api, phase := .listing rest, watching := s.watching.initialTurn e ns }
    | _ => none
  | .notify =>
    match s.phase with
    | .listing [] =>
      let queue := s.watching.queue ++ config.notificationMessage.toList
      some { s with phase := .waiting, watching := { s.watching with queue := queue } }
    | _ => none
  | .openStream =>
    match s.phase with
    | .waiting => some { s with phase := .streaming (Phase.reported s.objects) }
    | _ => none
  | .restart kept =>
    match s.phase with
    | .streaming pending => some { s with phase := .streaming (pending.take kept ++ Phase.reported s.objects) }
    | _ => none
  | .event =>
    match s.phase with
    | .streaming (event :: rest) =>
      let (ns, api) := match event.subject with
        | some e => s.lookUp outcomes config e
        | none => (none, s.namespaces)
      some { s with namespaces := api, phase := .streaming rest, watching := s.watching.eventTurn event ns }
    | _ => none

end Next

/-- Nothing was created and nothing was listed yet. -/
def start (namespaces : HashMap String Namespace) : Cluster E P :=
  ⟨[], 0, ⟨namespaces, 0, []⟩, .unlisted, .start⟩

section CaughtUp

variable (config : WatcherConfig P) (s : Cluster E P)

/-- The namespace that a successful lookup finds. -/
def nsOf (e : Entity E) : Option Namespace :=
  if config.apiNs then (SimpleWatchingProtocol.objectNs e.object).bind s.namespaces.store.lookup else none

def nsFor (event : WatcherEvent E) : Option Namespace := event.subject.bind (s.nsOf config)

/-- What `watch` will remember once it has handled what it has in its hands, with lookups that succeed. -/
def caughtUp : Watching P :=
  match s.phase with
  | .unlisted | .waiting => s.watching
  | .listing rest => rest.foldl (fun w e => w.initialTurn e (s.nsOf config e)) s.watching
  | .streaming pending => pending.foldl (fun w event => w.eventTurn event (s.nsFor config event)) s.watching

/-- The protocol has a message for the object. -/
def Answered (e : Entity E) : Prop :=
  (SimpleWatchingProtocol.initialized e.object (s.nsOf config e)).isSome ∨
    (SimpleWatchingProtocol.applied e.object (s.nsOf config e)).isSome

/-- Who is there was announced since it was created, and who is gone was retracted. -/
structure NothingLost : Prop where
  announced : ∀ e ∈ s.objects, s.Answered config e → e.uid ∈ s.watching.announced
  retracted : ∀ uid ∈ s.watching.announced, uid ∉ s.objects.map Entity.uid → uid ∈ s.watching.retracted

end CaughtUp

section Undisturbed

variable (outcomes : Nat → CallOutcome) (config : WatcherConfig P)

/-- The protocol answers alike in both namespaces. -/
def SameAnswers (e : Entity E) (ns ns' : Option Namespace) : Prop :=
  SimpleWatchingProtocol.initialized e.object ns = SimpleWatchingProtocol.initialized e.object ns' ∧
    SimpleWatchingProtocol.applied e.object ns = SimpleWatchingProtocol.applied e.object ns' ∧
    SimpleWatchingProtocol.reapplied e.object ns = SimpleWatchingProtocol.reapplied e.object ns' ∧
    SimpleWatchingProtocol.deleted e.object ns = SimpleWatchingProtocol.deleted e.object ns'

/-- The objects that `watch` still has to look at. -/
def inHand (s : Cluster E P) : List (Entity E) :=
  match s.phase with
  | .unlisted | .waiting => []
  | .listing rest => rest
  | .streaming pending => pending.filterMap WatcherEvent.subject

/-- The object that is looked at next. -/
def nextInHand (s : Cluster E P) : Option (Entity E) :=
  match s.phase with
  | .listing (e :: _) => some e
  | .streaming (event :: _) => event.subject
  | _ => none

/-- The stream is open, and once `watch` has caught up it does not know the key of the object. -/
def Announceable (s : Cluster E P) (e : Entity E) : Prop :=
  s.phase.isStreaming = true ∧ (SimpleWatchingProtocol.applied e.object (s.nsOf config e)).isSome ∧
    ∀ key ∈ SimpleWatchingProtocol.key e.object, key ∉ (s.caughtUp config).applied

/-- Before the list everything may happen. Later an object becomes one that has to be announced only where it will
be, an announced one goes only where that is seen, and neither namespaces nor lookups change what is answered. -/
def Undisturbed (s : Cluster E P) : ClusterEvent E → Prop
  | .create object => s.phase = .unlisted ∨ ¬s.Answered config ⟨s.created, object⟩ ∨
    s.Announceable config ⟨s.created, object⟩
  | .modify uid object => s.phase = .unlisted ∨ ¬s.Answered config ⟨uid, object⟩ ∨
    uid ∈ (s.caughtUp config).announced ∨ s.Announceable config ⟨uid, object⟩
  | .delete uid => uid ∉ (s.caughtUp config).announced ∨ s.phase.isStreaming = true ∧
    ∀ e ∈ s.objects, e.uid = uid → (SimpleWatchingProtocol.deleted e.object (s.nsOf config e)).isSome
  | .setNamespace name ns => s.phase = .unlisted ∨
    ∀ e ∈ s.objects ++ s.inHand, SameAnswers e (s.nsOf config e) ((s.setNamespace name ns).nsOf config e)
  | .list => ∀ e ∈ s.objects, s.Answered config e →
    (SimpleWatchingProtocol.initialized e.object (s.nsOf config e)).isSome
  | .listed | .event => ∀ e ∈ s.nextInHand, SameAnswers e (s.lookUp outcomes config e).1 (s.nsOf config e)
  | .restart kept => caughtUp config { s with phase := s.phase.truncate kept } = s.caughtUp config
  | .notify | .openStream => True

section Decidable

variable [DecidableEq E] [DecidableEq P]

instance (e : Entity E) (ns ns' : Option Namespace) : Decidable (SameAnswers e ns ns') :=
  inferInstanceAs (Decidable (_ ∧ _ ∧ _ ∧ _))

instance (s : Cluster E P) (e : Entity E) : Decidable (s.Answered config e) :=
  inferInstanceAs (Decidable (_ ∨ _))

instance (s : Cluster E P) (e : Entity E) : Decidable (s.Announceable config e) :=
  inferInstanceAs (Decidable (_ ∧ _ ∧ _))

instance (s : Cluster E P) (label : ClusterEvent E) : Decidable (s.Undisturbed outcomes config label) := by
  unfold Undisturbed
  split <;> infer_instance

end Decidable

end Undisturbed

/-- Once `watch` has caught up, nothing will be lost. -/
structure KeptUp (config : WatcherConfig P) (s : Cluster E P) : Prop where
  unlisted : s.phase = .unlisted → s.watching.notices = []
  announced : s.phase ≠ .unlisted → ∀ e ∈ s.objects, s.Answered config e →
    e.uid ∈ (s.caughtUp config).announced
  retracted : ∀ uid ∈ (s.caughtUp config).announced, uid ∉ s.objects.map Entity.uid →
    uid ∈ (s.caughtUp config).retracted

section KeptUp

variable {outcomes : Nat → CallOutcome} {config : WatcherConfig P} {s : Cluster E P}

theorem initialTurn_same {e : Entity E} {ns ns' : Option Namespace} (h : SameAnswers e ns ns') (w : Watching P) :
    w.initialTurn e ns = w.initialTurn e ns' := by
  simp only [Watching.initialTurn, h.1]

theorem eventTurn_same {event : WatcherEvent E} {ns ns' : Option Namespace}
    (h : ∀ e ∈ event.subject, SameAnswers e ns ns') (w : Watching P) :
    w.eventTurn event ns = w.eventTurn event ns' := by
  cases event with
  | apply e =>
    obtain ⟨-, hApplied, hReapplied, -⟩ := h e rfl
    simp only [Watching.eventTurn, hApplied, hReapplied]
  | delete e =>
    obtain ⟨-, -, -, hDeleted⟩ := h e rfl
    simp only [Watching.eventTurn, hDeleted]
  | init | initApply | initDone => rfl

/-- What is reported when the stream is opened is ignored. -/
theorem foldl_reported (objects : List (Entity E)) (w : Watching P) :
    (Phase.reported objects).foldl (fun w event => w.eventTurn event (s.nsFor config event)) w = w := by
  have hIgnored : ∀ xs : List (Entity E), (xs.map WatcherEvent.initApply).foldl
      (fun w event => w.eventTurn event (s.nsFor config event)) w = w := by
    intro xs
    induction xs with
    | nil => rfl
    | cons x rest ih => exact ih
  rw [Phase.reported, List.cons_append, List.foldl_cons, List.foldl_append]
  change List.foldl _ (List.foldl _ w _) _ = w
  rw [hIgnored]
  rfl

variable (config s) in
theorem caughtUp_observe (event : WatcherEvent E) (objects : List (Entity E)) (created : Nat) :
    caughtUp config { s with objects := objects, created := created, phase := s.phase.observe event } =
      if s.phase.isStreaming then (s.caughtUp config).eventTurn event (s.nsFor config event)
      else s.caughtUp config := by
  obtain ⟨objects', created', namespaces, phase, watching⟩ := s
  cases phase with
  | streaming pending =>
    simp only [caughtUp, Phase.observe, List.foldl_append]
    rfl
  | unlisted | listing | waiting => rfl

theorem nsOf_congr {t : Cluster E P} (h : t.namespaces.store = s.namespaces.store) (e : Entity E) :
    t.nsOf config e = s.nsOf config e := by
  rw [nsOf, nsOf, h]

theorem store_lookUp (e : Entity E) : (s.lookUp outcomes config e).2.store = s.namespaces.store := by
  have hGet : ∀ name, (s.namespaces.getOpt outcomes name).2.store = s.namespaces.store := by
    intro name
    rcases Remote.call_store with hSame | ⟨found, hStore⟩
    · exact hSame
    · exact (congrArg Prod.snd (Except.ok.inj hStore)).symm
  simp only [lookUp, getNs]
  split
  · cases SimpleWatchingProtocol.objectNs e.object with
    | none => rfl
    | some name => exact hGet name
  · rfl

theorem operation_unknown {key : Option String} {w : Watching P} (h : ∀ k ∈ key, k ∉ w.applied) :
    w.operation key = .apply := by
  cases key with
  | none => rfl
  | some k => exact if_neg (h k rfl)

theorem announced_foldl_initialTurn (find : Entity E → Option Namespace) (es : List (Entity E)) (w : Watching P)
    (uid : Nat) : uid ∈ (es.foldl (fun w e => w.initialTurn e (find e)) w).announced ↔ uid ∈ w.announced ∨
      ∃ e ∈ es, (SimpleWatchingProtocol.initialized e.object (find e)).isSome ∧ e.uid = uid := by
  have hList : es.foldl (fun w e => w.initialTurn e (find e)) w = w.list (es.map fun e => (e, find e)) := by
    rw [Watching.list, List.foldl_map]
  rw [hList, Watching.mem_announced_list]
  simp

theorem observe_eq_unlisted {phase : Phase E} {event : WatcherEvent E} :
    phase.observe event = .unlisted ↔ phase = .unlisted := by
  cases phase <;> simp [Phase.observe]

/-- What `watch` still has to look at is answered alike, so it will know the same. -/
theorem caughtUp_same {t : Cluster E P} (hPhase : t.phase = s.phase) (hWatching : t.watching = s.watching)
    (h : ∀ e ∈ s.inHand, SameAnswers e (s.nsOf config e) (t.nsOf config e)) :
    t.caughtUp config = s.caughtUp config := by
  rw [caughtUp, caughtUp, hPhase, hWatching]
  rw [inHand] at h
  cases hCase : s.phase with
  | unlisted | waiting => rfl
  | listing rest =>
    rw [hCase] at h
    refine List.foldl_ext _ _ _ fun w e he => ?_
    exact (initialTurn_same (h e he) w).symm
  | streaming pending =>
    rw [hCase] at h
    refine List.foldl_ext _ _ _ fun w seen hSeen => ?_
    refine (eventTurn_same (fun e he => ?_) w).symm
    rw [nsFor, nsFor, Option.mem_def.mp he]
    exact h e (List.mem_filterMap.mpr ⟨seen, hSeen, he⟩)

namespace KeptUp

/-- Whoever is there when `watch` lists will be announced. -/
theorem listed (h : KeptUp config s) (hPhase : s.phase = .unlisted)
    (hAllowed : ∀ e ∈ s.objects, s.Answered config e →
      (SimpleWatchingProtocol.initialized e.object (s.nsOf config e)).isSome) :
    KeptUp config { s with phase := .listing s.objects } := by
  have hNobody : s.watching.announced = [] := by
    rw [Watching.announced, h.unlisted hPhase]
    rfl
  constructor
  · exact fun hUnlisted => by cases hUnlisted
  · intro _ e he hAnswered
    exact (announced_foldl_initialTurn _ _ _ _).mpr (.inr ⟨e, he, hAllowed e he hAnswered, rfl⟩)
  · intro uid hUid hGone
    rcases (announced_foldl_initialTurn _ _ _ _).mp hUid with hBefore | ⟨e, he, -, rfl⟩
    · rw [hNobody] at hBefore
      cases hBefore
    · exact absurd (List.mem_map_of_mem he) hGone

/-- An object that is new or changed is announced if it has to be. -/
theorem applied {objects : List (Entity E)} {created : Nat} (h : KeptUp config s) (e : Entity E) (hMem : e ∈ objects)
    (hObjects : ∀ o ∈ objects, o = e ∨ o ∈ s.objects)
    (hUids : ∀ uid ∈ s.objects.map Entity.uid, uid ∈ objects.map Entity.uid)
    (hAllowed : s.phase = .unlisted ∨ ¬s.Answered config e ∨ e.uid ∈ (s.caughtUp config).announced ∨
      s.Announceable config e) :
    KeptUp config { s with objects := objects, created := created, phase := s.phase.observe (.apply e) } := by
  have hCaughtUp := caughtUp_observe config s (.apply e) objects created
  have hGrows : ∀ uid ∈ (s.caughtUp config).announced, uid ∈ (caughtUp config
      { s with objects := objects, created := created, phase := s.phase.observe (.apply e) }).announced := by
    intro uid hUid
    rw [hCaughtUp]
    split
    · rw [Watching.announced_apply]
      exact List.mem_append_left _ hUid
    · exact hUid
  constructor
  · intro hUnlisted
    exact h.unlisted (observe_eq_unlisted.mp hUnlisted)
  · intro hListed o ho hAnswered
    have hBefore : s.phase ≠ .unlisted := fun hPhase => hListed (observe_eq_unlisted.mpr hPhase)
    rcases hObjects o ho with rfl | ho
    · rcases hAllowed with hPhase | hNot | hKnown | ⟨hStreaming, hApplied, hKey⟩
      · exact absurd hPhase hBefore
      · exact absurd hAnswered hNot
      · exact hGrows _ hKnown
      · rw [hCaughtUp, if_pos hStreaming, Watching.announced_apply, if_pos ⟨operation_unknown hKey, hApplied⟩]
        exact List.mem_append_right _ (List.mem_singleton_self _)
    · exact hGrows _ (h.announced hBefore o ho hAnswered)
  · intro uid hUid hGone
    have hGoneBefore : uid ∉ s.objects.map Entity.uid := fun hMem => hGone (hUids uid hMem)
    have hOther : uid ≠ e.uid := fun hEq => hGone (hEq ▸ List.mem_map_of_mem hMem)
    rw [hCaughtUp] at hUid ⊢
    split at hUid
    · rename_i hStreaming
      rw [if_pos hStreaming, Watching.retracted_apply]
      rw [Watching.announced_apply] at hUid
      apply h.retracted uid _ hGoneBefore
      refine (List.mem_append.mp hUid).resolve_right fun hNew => ?_
      split at hNew
      · exact hOther (List.mem_singleton.mp hNew)
      · cases hNew
    · rename_i hStreaming
      rw [if_neg hStreaming]
      exact h.retracted uid hUid hGoneBefore

/-- An announced object that goes is retracted. -/
theorem deleted (h : KeptUp config s) {uid : Nat} {e : Entity E} (hMem : e ∈ s.objects) (hUid : e.uid = uid)
    (hAllowed : uid ∉ (s.caughtUp config).announced ∨ s.phase.isStreaming = true ∧
      ∀ e ∈ s.objects, e.uid = uid → (SimpleWatchingProtocol.deleted e.object (s.nsOf config e)).isSome) :
    KeptUp config { s with
      objects := s.objects.filter fun o => o.uid != uid, phase := s.phase.observe (.delete e) } := by
  have hCaughtUp := caughtUp_observe config s (.delete e)
    (s.objects.filter fun o => o.uid != uid) s.created
  have hSame : (caughtUp config { s with
      objects := s.objects.filter fun o => o.uid != uid, created := s.created,
      phase := s.phase.observe (.delete e) }).announced = (s.caughtUp config).announced := by
    rw [hCaughtUp]
    split
    · exact Watching.announced_delete _ _ _
    · rfl
  constructor
  · intro hUnlisted
    exact h.unlisted (observe_eq_unlisted.mp hUnlisted)
  · intro hListed o ho hAnswered
    have hBefore : s.phase ≠ .unlisted := fun hPhase => hListed (observe_eq_unlisted.mpr hPhase)
    exact hSame ▸ h.announced hBefore o (List.mem_filter.mp ho).1 hAnswered
  · intro other hOther hGone
    have hAnnounced : other ∈ (s.caughtUp config).announced := hSame ▸ hOther
    change other ∈ (caughtUp config { s with
      objects := s.objects.filter fun o => o.uid != uid, created := s.created,
      phase := s.phase.observe (.delete e) }).retracted
    rw [hCaughtUp]
    by_cases hEq : other = uid
    · subst hEq
      obtain ⟨hStreaming, hDeleted⟩ := hAllowed.resolve_left fun hNot => hNot hAnnounced
      rw [if_pos hStreaming, Watching.retracted_delete]
      refine List.mem_append_right _ ?_
      have hFound : (SimpleWatchingProtocol.deleted e.object (s.nsFor config (.delete e))).isSome :=
        hDeleted e hMem hUid
      rw [if_pos hFound, hUid]
      exact List.mem_singleton_self _
    · have hBefore : other ∈ (s.caughtUp config).retracted := by
        refine h.retracted other hAnnounced fun hMem => hGone ?_
        obtain ⟨o, ho, rfl⟩ := List.mem_map.mp hMem
        exact List.mem_map_of_mem (List.mem_filter.mpr ⟨ho, by simpa using hEq⟩)
      split
      · rw [Watching.retracted_delete]
        exact List.mem_append_left _ hBefore
      · exact hBefore

/-- Nothing is new, and `watch` will know the same. -/
theorem same {t : Cluster E P} (h : KeptUp config s) (hObjects : t.objects = s.objects)
    (hStore : t.namespaces.store = s.namespaces.store) (hPhase : s.phase ≠ .unlisted)
    (hPhase' : t.phase ≠ .unlisted)
    (hAnnounced : (t.caughtUp config).announced = (s.caughtUp config).announced)
    (hRetracted : (t.caughtUp config).retracted = (s.caughtUp config).retracted) : KeptUp config t := by
  constructor
  · exact fun hUnlisted => absurd hUnlisted hPhase'
  · intro _ e he hAnswered
    rw [hAnnounced]
    refine h.announced hPhase e (hObjects ▸ he) ?_
    rwa [Answered, nsOf_congr hStore] at hAnswered
  · rw [hAnnounced, hRetracted, hObjects]
    exact h.retracted

/-- A namespace that matters to nobody comes, changes or goes. -/
theorem renamed (h : KeptUp config s) (name : String) (ns : Option Namespace)
    (hAllowed : s.phase = .unlisted ∨ ∀ e ∈ s.objects ++ s.inHand,
      SameAnswers e (s.nsOf config e) ((s.setNamespace name ns).nsOf config e)) :
    KeptUp config (s.setNamespace name ns) := by
  by_cases hUnlisted : s.phase = .unlisted
  · have hLater : (s.setNamespace name ns).caughtUp config = s.watching := by
      simp only [caughtUp, setNamespace, hUnlisted]
    have hNobody : ((s.setNamespace name ns).caughtUp config).announced = [] := by
      rw [hLater, Watching.announced, h.unlisted hUnlisted]
      rfl
    refine ⟨fun _ => h.unlisted hUnlisted, fun hListed => absurd hUnlisted hListed, fun uid hUid => ?_⟩
    rw [hNobody] at hUid
    cases hUid
  · have hSame := hAllowed.resolve_left hUnlisted
    have hCaughtUp : (s.setNamespace name ns).caughtUp config = s.caughtUp config :=
      caughtUp_same rfl rfl fun e he => hSame e (List.mem_append_right _ he)
    refine ⟨fun hPhase => absurd hPhase hUnlisted, fun hListed e he hAnswered => ?_, ?_⟩
    · rw [hCaughtUp]
      refine h.announced hUnlisted e he ?_
      obtain ⟨hInitialized, hApplied, -⟩ := hSame e (List.mem_append_left _ he)
      rwa [Answered, ← hInitialized, ← hApplied] at hAnswered
    · rw [hCaughtUp]
      exact h.retracted

theorem created (h : KeptUp config s) (object : E)
    (hAllowed : s.Undisturbed outcomes config (.create object)) :
    KeptUp config { s with
      objects := s.objects ++ [⟨s.created, object⟩]
      created := s.created + 1
      phase := s.phase.observe (.apply ⟨s.created, object⟩) } := by
  refine h.applied ⟨s.created, object⟩ (List.mem_append_right _ (List.mem_singleton_self _)) (fun o ho => ?_)
    (fun uid hUid => ?_) ?_
  · exact (List.mem_append.mp ho).symm.imp_left List.mem_singleton.mp
  · rw [List.map_append]
    exact List.mem_append_left _ hUid
  · exact hAllowed.imp_right (Or.imp_right .inr)

theorem modified (h : KeptUp config s) {uid : Nat} {object : E} (hFound : s.objects.any (fun e => e.uid == uid) = true)
    (hAllowed : s.Undisturbed outcomes config (.modify uid object)) :
    KeptUp config { s with
      objects := s.objects.map fun o => if o.uid == uid then ⟨uid, object⟩ else o
      phase := s.phase.observe (.apply ⟨uid, object⟩) } := by
  obtain ⟨old, hOld, hUid⟩ := List.any_eq_true.mp hFound
  refine h.applied ⟨uid, object⟩ ?_ (fun o ho => ?_) (fun other hOther => ?_) hAllowed
  · exact List.mem_map.mpr ⟨old, hOld, if_pos hUid⟩
  · obtain ⟨o', ho', rfl⟩ := List.mem_map.mp ho
    split
    · exact .inl rfl
    · exact .inr ho'
  · obtain ⟨o, ho, rfl⟩ := List.mem_map.mp hOther
    rw [List.map_map]
    refine List.mem_map.mpr ⟨o, ho, ?_⟩
    simp only [Function.comp_apply]
    split
    · exact (eq_of_beq ‹_›).symm
    · rfl

theorem listedNext (h : KeptUp config s) {e : Entity E} {rest : List (Entity E)}
    (hPhase : s.phase = .listing (e :: rest))
    (hLookup : SameAnswers e (s.lookUp outcomes config e).1 (s.nsOf config e)) :
    KeptUp config { s with
      namespaces := (s.lookUp outcomes config e).2
      phase := .listing rest
      watching := s.watching.initialTurn e (s.lookUp outcomes config e).1 } := by
  let t : Cluster E P := { s with
    namespaces := (s.lookUp outcomes config e).2
    phase := .listing rest
    watching := s.watching.initialTurn e (s.lookUp outcomes config e).1 }
  have hNs : t.nsOf config = s.nsOf config := funext (nsOf_congr (store_lookUp e))
  have hCaughtUp : t.caughtUp config = s.caughtUp config := by
    simp only [caughtUp, hPhase, List.foldl_cons, ← initialTurn_same hLookup]
    exact congrArg (fun find => rest.foldl (fun w e => w.initialTurn e (find e)) t.watching) hNs
  exact h.same rfl (store_lookUp e) (by simp [hPhase]) (by simp) (by rw [hCaughtUp]) (by rw [hCaughtUp])

theorem seenNext (h : KeptUp config s) {seen : WatcherEvent E} {rest : List (WatcherEvent E)} {e : Entity E}
    (hPhase : s.phase = .streaming (seen :: rest)) (hSubject : seen.subject = some e)
    (hLookup : SameAnswers e (s.lookUp outcomes config e).1 (s.nsOf config e)) :
    KeptUp config { s with
      namespaces := (s.lookUp outcomes config e).2
      phase := .streaming rest
      watching := s.watching.eventTurn seen (s.lookUp outcomes config e).1 } := by
  have hTurn : s.watching.eventTurn seen (s.lookUp outcomes config e).1 =
      s.watching.eventTurn seen (s.nsFor config seen) := by
    refine eventTurn_same (fun e' he' => ?_) s.watching
    rw [hSubject] at he'
    cases he'
    rw [nsFor, hSubject]
    exact hLookup
  let t : Cluster E P := { s with
    namespaces := (s.lookUp outcomes config e).2
    phase := .streaming rest
    watching := s.watching.eventTurn seen (s.lookUp outcomes config e).1 }
  have hNs : t.nsOf config = s.nsOf config := funext (nsOf_congr (store_lookUp e))
  have hCaughtUp : t.caughtUp config = s.caughtUp config := by
    simp only [caughtUp, hPhase, List.foldl_cons, ← hTurn]
    exact congrArg (fun find => rest.foldl
      (fun w seen => w.eventTurn seen (seen.subject.bind find)) t.watching) hNs
  exact h.same rfl (store_lookUp e) (by simp [hPhase]) (by simp) (by rw [hCaughtUp]) (by rw [hCaughtUp])

theorem step {t : Cluster E P} {label : ClusterEvent E} (h : KeptUp config s)
    (hAllowed : s.Undisturbed outcomes config label) (hNext : next outcomes config s label = some t) :
    KeptUp config t := by
  cases label with
  | create object =>
    cases hNext
    exact h.created object hAllowed
  | modify uid object =>
    simp only [next] at hNext
    split at hNext
    · rename_i hFound
      cases hNext
      exact h.modified hFound hAllowed
    · cases hNext
  | delete uid =>
    obtain ⟨e, hFind, rfl⟩ := Option.map_eq_some_iff.mp hNext
    have hUid : e.uid = uid := by simpa using List.find?_some hFind
    exact h.deleted (List.mem_of_find?_eq_some hFind) hUid hAllowed
  | setNamespace name ns =>
    cases hNext
    exact h.renamed name ns hAllowed
  | list =>
    simp only [next] at hNext
    split at hNext
    · rename_i hPhase
      cases hNext
      exact h.listed hPhase hAllowed
    · cases hNext
  | listed =>
    simp only [next] at hNext
    split at hNext
    · rename_i e rest hPhase
      cases hNext
      exact h.listedNext hPhase (hAllowed e (by rw [nextInHand, hPhase]; rfl))
    · cases hNext
  | notify =>
    simp only [next] at hNext
    split at hNext
    · rename_i hPhase
      cases hNext
      have hCaughtUp : s.caughtUp config = s.watching := by simp only [caughtUp, hPhase, List.foldl_nil]
      exact h.same rfl rfl (by simp [hPhase]) (by simp) (by rw [hCaughtUp]; rfl) (by rw [hCaughtUp]; rfl)
    · cases hNext
  | openStream =>
    simp only [next] at hNext
    split at hNext
    · rename_i hPhase
      cases hNext
      have hCaughtUp : caughtUp config { s with phase := .streaming (Phase.reported s.objects) } =
          s.caughtUp config := by
        simp only [caughtUp, hPhase]
        exact foldl_reported s.objects s.watching
      exact h.same rfl rfl (by simp [hPhase]) (by simp) (by rw [hCaughtUp]) (by rw [hCaughtUp])
    · cases hNext
  | restart kept =>
    simp only [next] at hNext
    split at hNext
    · rename_i pending hPhase
      cases hNext
      have hCaughtUp : caughtUp config { s with
          phase := .streaming (pending.take kept ++ Phase.reported s.objects) } = s.caughtUp config := by
        rw [← hAllowed, hPhase, Phase.truncate]
        simp only [caughtUp, List.foldl_append]
        exact foldl_reported s.objects _
      exact h.same rfl rfl (by simp [hPhase]) (by simp) (by rw [hCaughtUp]) (by rw [hCaughtUp])
    · cases hNext
  | event =>
    simp only [next] at hNext
    split at hNext
    · rename_i seen rest hPhase
      cases hNext
      cases hSubject : seen.subject with
      | none =>
        have hCaughtUp : caughtUp config { s with
            phase := .streaming rest, watching := s.watching.eventTurn seen none } = s.caughtUp config := by
          simp only [caughtUp, hPhase, List.foldl_cons, nsFor, hSubject, Option.bind_none]
          rfl
        exact h.same rfl rfl (by simp [hPhase]) (by simp) (by rw [hCaughtUp]) (by rw [hCaughtUp])
      | some e =>
        refine h.seenNext hPhase hSubject (hAllowed e ?_)
        simp only [nextInHand, hPhase, hSubject, Option.mem_def]
    · cases hNext

end KeptUp

theorem keptUp_start (config : WatcherConfig P) (namespaces : HashMap String Namespace) :
    KeptUp config (start namespaces : Cluster E P) := by
  refine ⟨fun _ => rfl, fun hListed => absurd rfl hListed, fun uid hUid => ?_⟩
  cases hUid

/-- Nothing is lost in a run that is undisturbed: in each state in which no event is pending, who is there was
announced and who is gone was retracted. -/
theorem watch_loses_nothing {namespaces : HashMap String Namespace}
    (hRun : Steps (next outcomes config) (Undisturbed outcomes config) (start namespaces) s)
    (hSettled : s.phase = .streaming []) : s.NothingLost config := by
  have hKept := hRun.invariant (KeptUp config) (fun _ _ _ h hAllowed hNext => h.step hAllowed hNext)
    (keptUp_start config namespaces)
  have hCaughtUp : s.caughtUp config = s.watching := by simp only [caughtUp, hSettled, List.foldl_nil]
  constructor
  · intro e he hAnswered
    exact hCaughtUp ▸ hKept.announced (by simp [hSettled]) e he hAnswered
  · rw [← hCaughtUp]
    exact hKept.retracted

end KeptUp

end Cluster

end SdpK8sInjector.Common
