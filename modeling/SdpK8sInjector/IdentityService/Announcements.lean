import SdpK8sInjector.IdentityService.CandidateWatcher

/-! # What is announced and what is retracted

The watcher remembers the keys that it takes for applied. The manager has to know of
a candidate from the time it is applied until it is deleted, so a key that is
remembered should be one with an announcement.
-/

namespace SdpK8sInjector.IdentityService

open Lib Common Watching

/-- A message that there is a candidate of that key. -/
def announces (key : String) : IdentityManagerProtocol → Bool
  | .foundServiceCandidate c | .requestServiceIdentity c => (MaybeService.serviceId c).toOption = some key
  | _ => false

def retracts (key : String) : IdentityManagerProtocol → Bool
  | .deletedServiceCandidate c => (MaybeService.serviceId c).toOption = some key
  | _ => false

/-- An announcement was sent, and no retraction since. -/
def outstanding (key : String) : List IdentityManagerProtocol → Bool
  | [] => false
  | msg :: rest => outstanding key rest || (announces key msg && rest.all fun x => !retracts key x)

theorem outstanding_append_singleton (key : String) (sent : List IdentityManagerProtocol)
    (msg : IdentityManagerProtocol) :
    outstanding key (sent ++ [msg]) = (announces key msg || (outstanding key sent && !retracts key msg)) := by
  induction sent with
  | nil => simp [outstanding]
  | cons x rest ih =>
    simp only [List.cons_append, outstanding, ih, List.all_append, List.all_cons, List.all_nil, Bool.and_true]
    cases announces key msg <;> cases retracts key msg <;> simp

namespace ServiceCandidateProtocol

variable {E : Type} [ServiceCandidateProtocol E]

/-- The key that a message about the object has. There is none unless the object is a candidate in an enabled
namespace. -/
def candidateKey (e : E) (ns : Option Namespace) : Option String := if isEnabled e ns then key e else none

theorem candidateKey_eq_some {e : E} {ns : Option Namespace} {k : String} :
    candidateKey e ns = some k ↔ isEnabled e ns = true ∧ key e = some k := by
  simp [candidateKey]

theorem whenOk_isEnabled {α : Type} (e : E) (ns : Option Namespace) (msg : α) :
    whenOk e (if isEnabled e ns then some msg else none) = (candidateKey e ns).map fun _ => msg := by
  unfold whenOk candidateKey key
  cases MaybeService.serviceId (serviceCandidate e) <;> split <;> simp_all [Except.toOption]

theorem initialized_eq (e : E) (ns : Option Namespace) : SimpleWatchingProtocol.initialized e ns =
    (candidateKey e ns).map fun _ => .foundServiceCandidate (serviceCandidate e) := whenOk_isEnabled e ns _

theorem applied_eq (e : E) (ns : Option Namespace) : SimpleWatchingProtocol.applied e ns =
    (candidateKey e ns).map fun _ => .requestServiceIdentity (serviceCandidate e) := whenOk_isEnabled e ns _

@[simp] theorem reapplied_eq (e : E) (ns : Option Namespace) : SimpleWatchingProtocol.reapplied e ns = none := rfl

theorem deleted_eq (e : E) (ns : Option Namespace) : SimpleWatchingProtocol.deleted e ns =
    (candidateKey e ns).map fun _ => .deletedServiceCandidate (serviceCandidate e) := whenOk_isEnabled e ns _

theorem key_eq (e : E) : SimpleWatchingProtocol.key e = (MaybeService.serviceId (serviceCandidate e)).toOption := rfl

/-- A message is sent for the key exactly where it is the key of a candidate. -/
theorem key_and_isSome {msg : Option IdentityManagerProtocol} {sent : IdentityManagerProtocol} {e : E}
    {ns : Option Namespace} {k : String} (hMsg : msg = (candidateKey e ns).map fun _ => sent) :
    (SimpleWatchingProtocol.key e = some k ∧ msg.isSome) ↔ candidateKey e ns = some k := by
  rw [hMsg, Option.isSome_map, candidateKey]
  change (key e = some k ∧ _) ↔ _
  cases isEnabled e ns with
  | false => simp
  | true =>
    refine ⟨And.left, fun h => ⟨h, ?_⟩⟩
    simp only [if_true] at h ⊢
    rw [h, Option.isSome_some]

end ServiceCandidateProtocol

namespace Announcements

open ServiceCandidateProtocol

variable {E : Type} [ServiceCandidateProtocol E] {k : String} {w : Watching IdentityManagerProtocol} {e : Entity E}
  {ns : Option Namespace} {config : WatcherConfig IdentityManagerProtocol}
  {objects : List (Entity E × Option Namespace)}

theorem outstanding_initialTurn : outstanding k (w.initialTurn e ns).queue = true ↔
    outstanding k w.queue = true ∨ candidateKey e.object ns = some k := by
  rw [queue_initialTurn, initialized_eq]
  cases hKey : candidateKey e.object ns with
  | none => simp
  | some k' =>
    have hSame := (candidateKey_eq_some.mp hKey).2
    rw [key] at hSame
    simp [outstanding_append_singleton, announces, retracts, hSame, or_comm]

/-- An object that is applied as a candidate is announced if its key is not taken for applied already. -/
theorem outstanding_apply : outstanding k (w.eventTurn (.apply e) ns).queue = true ↔
    outstanding k w.queue = true ∨ (candidateKey e.object ns = some k ∧ k ∉ w.applied) := by
  rw [queue_apply, applied_eq]
  cases hKey : candidateKey e.object ns with
  | none => simp
  | some k' =>
    have hSame := (candidateKey_eq_some.mp hKey).2
    rw [key] at hSame
    rw [key_eq, hSame]
    by_cases hMem : k' ∈ w.applied
    · have hNot : ¬(k' = k ∧ k ∉ w.applied) := fun h => h.2 (h.1 ▸ hMem)
      simp [operation, hMem, hNot]
    · have hUnknown : k' = k ↔ k' = k ∧ k ∉ w.applied := ⟨fun h => ⟨h, h ▸ hMem⟩, And.left⟩
      simp [operation, hMem, outstanding_append_singleton, announces, retracts, hSame, ← hUnknown, or_comm]

theorem outstanding_delete : outstanding k (w.eventTurn (.delete e) ns).queue = true ↔
    outstanding k w.queue = true ∧ candidateKey e.object ns ≠ some k := by
  rw [queue_delete, deleted_eq]
  cases hKey : candidateKey e.object ns with
  | none => simp
  | some k' =>
    have hSame := (candidateKey_eq_some.mp hKey).2
    rw [key] at hSame
    simp [outstanding_append_singleton, announces, retracts, hSame]

/-- The key is taken for applied, but nothing is announced. -/
def Silent (k : String) (w : Watching IdentityManagerProtocol) : Prop :=
  k ∈ w.applied ∧ outstanding k w.queue = false

/-- The event is the deletion of a candidate of that key. -/
def removes (k : String) : WatcherEvent E × Option Namespace → Bool
  | (.delete e, ns) => candidateKey e.object ns = some k
  | _ => false

/-- Only the deletion of a candidate ends the silence, and nothing brings it. -/
theorem silent_eventTurn (event : WatcherEvent E) (ns : Option Namespace) :
    Silent k (w.eventTurn event ns) ↔ Silent k w ∧ removes k (event, ns) = false := by
  simp only [Silent, ← Bool.not_eq_true]
  cases event with
  | apply e =>
    rw [mem_applied_apply, key_and_isSome (applied_eq e.object ns), outstanding_apply]
    simp only [removes]
    tauto
  | delete e =>
    rw [mem_applied_delete, key_and_isSome (deleted_eq e.object ns), outstanding_delete]
    simp only [removes, decide_eq_true_eq]
    tauto
  | init | initApply | initDone => simp [eventTurn, removes]

theorem silent_handle (events : List (WatcherEvent E × Option Namespace)) :
    Silent k (w.handle events) ↔ Silent k w ∧ ∀ x ∈ events, removes k x = false := by
  induction events generalizing w with
  | nil => simp [Watching.handle]
  | cons x events ih =>
    change Silent k ((w.eventTurn x.1 x.2).handle events) ↔ _
    rw [ih, silent_eventTurn, List.forall_mem_cons, and_assoc]

/-- The key is one of a listed object, and none of the objects that have it was a candidate when it was listed. -/
def ListedSilently (k : String) (objects : List (Entity E × Option Namespace)) : Prop :=
  (∃ o ∈ objects, key o.1.object = some k) ∧ ∀ o ∈ objects, candidateKey o.1.object o.2 ≠ some k

theorem mem_applied_list : k ∈ (w.list objects).applied ↔ k ∈ w.applied ∨
    ∃ o ∈ objects, key o.1.object = some k := by
  induction objects generalizing w with
  | nil => simp [Watching.list]
  | cons o objects ih =>
    change k ∈ ((w.initialTurn o.1 o.2).list objects).applied ↔ _
    rw [ih, mem_applied_initialTurn, List.exists_mem_cons_iff]
    change (key o.1.object = some k ∨ _) ∨ _ ↔ _
    tauto

theorem outstanding_list : outstanding k (w.list objects).queue = true ↔
    outstanding k w.queue = true ∨ ∃ o ∈ objects, candidateKey o.1.object o.2 = some k := by
  induction objects generalizing w with
  | nil => simp [Watching.list]
  | cons o objects ih =>
    change outstanding k ((w.initialTurn o.1 o.2).list objects).queue = true ↔ _
    rw [ih, outstanding_initialTurn, List.exists_mem_cons_iff, or_assoc]


theorem silent_watch (events : List (WatcherEvent E × Option Namespace)) :
    Silent k (watch candidateWatcher objects events) ↔ ListedSilently k objects ∧
    ∀ x ∈ events, removes k x = false := by
  have hListed : Silent k ((start.list objects).notify candidateWatcher.notificationMessage) ↔
      ListedSilently k objects := by
    have hQueue : outstanding k ((start.list objects).notify candidateWatcher.notificationMessage).queue =
        outstanding k (start.list objects).queue := by
      change outstanding k (_ ++ [.deploymentWatcherReady]) = _
      simp [outstanding_append_singleton, announces, retracts]
    change k ∈ (start.list objects).applied ∧ _ ↔ _
    rw [hQueue, ← Bool.not_eq_true, mem_applied_list, outstanding_list, ListedSilently]
    simp [start, outstanding]
  rw [watch, silent_handle, hListed]

/-- Every object that is applied as a candidate has an announcement once this is handled. -/
def AnnouncesEvery (objects : List (Entity E × Option Namespace))
    (events : List (WatcherEvent E × Option Namespace)) :
    Prop :=
  ∀ before e ns after k, events = before ++ (.apply e, ns) :: after → candidateKey e.object ns = some k →
    outstanding k (watch candidateWatcher objects (before ++ [(.apply e, ns)])).queue = true

/-- The announcements miss those whose key was listed without any candidate, until one of them is deleted. -/
theorem announces_every_iff (objects : List (Entity E × Option Namespace))
    (events : List (WatcherEvent E × Option Namespace)) :
    AnnouncesEvery objects events ↔ ∀ before e ns after k, events = before ++ (.apply e, ns) :: after →
      candidateKey e.object ns = some k → ListedSilently k objects → ∃ x ∈ before, removes k x = true := by
  have hApplied : ∀ (before : List (WatcherEvent E × Option Namespace)) e ns k, candidateKey e.object ns = some k →
      (outstanding k (watch candidateWatcher objects (before ++ [(.apply e, ns)])).queue = true ↔
        ¬Silent k (watch candidateWatcher objects before)) := by
    intro before e ns k hKey
    rw [watch_append]
    change outstanding k (eventTurn (.apply e) ns _).queue = true ↔ _
    rw [outstanding_apply, Silent, ← Bool.not_eq_true]
    tauto
  constructor
  · intro hEvery before e ns after k hEvents hKey hSilently
    have hHeard := (hApplied before e ns k hKey).mp (hEvery before e ns after k hEvents hKey)
    by_contra hNone
    refine hHeard ((silent_watch before).mpr ⟨hSilently, fun x hx => ?_⟩)
    exact Bool.not_eq_true _ ▸ fun hRemoves => hNone ⟨x, hx, hRemoves⟩
  · intro hAlways before e ns after k hEvents hKey
    refine (hApplied before e ns k hKey).mpr fun hSilent => ?_
    obtain ⟨hSilently, hKept⟩ := (silent_watch before).mp hSilent
    obtain ⟨x, hx, hRemoves⟩ := hAlways before e ns after k hEvents hKey hSilently
    exact absurd hRemoves (by simp [hKept x hx])

def sampleNamespace : Namespace := ⟨AList.singleton SDP_INJECTOR_LABEL "enabled"⟩

def sampleDisabled : Deployment :=
  ⟨{ sampleDeployment.metadata with annotations := AList.singleton SDP_INJECTOR_ANNOTATION_ENABLED "false" }⟩

/-- The annotation goes after the deployment was listed. -/
theorem enabled_later_not_announced : ¬AnnouncesEvery [(⟨0, sampleDisabled⟩, some sampleNamespace)]
    [(.apply ⟨0, sampleDeployment⟩, some sampleNamespace)] := by
  intro h
  exact absurd (h [] _ _ [] "ns_web" rfl (by decide)) (by decide)

/-- What is to follow from the deletion of an object with an announcement. A candidate that comes later under its key is
announced again. -/
structure Retracted (objects : List (Entity E × Option Namespace)) (before : List (WatcherEvent E × Option Namespace))
    (e : Entity E) (ns : Option Namespace) (k : String) : Prop where
  sent : (watch candidateWatcher objects (before ++ [(.delete e, ns)])).queue =
    (watch candidateWatcher objects before).queue ++ [.deletedServiceCandidate (serviceCandidate e.object)]
  unknown : k ∉ (watch candidateWatcher objects (before ++ [(.delete e, ns)])).applied
  again : ∀ later e' ns', candidateKey e'.object ns' = some k →
    outstanding k (watch candidateWatcher objects (before ++ (.delete e, ns) :: later ++ [(.apply e', ns')])).queue =
    true

/-- Every deletion of an object with an announcement is reported. -/
def RetractsEvery (objects : List (Entity E × Option Namespace)) (events : List (WatcherEvent E × Option Namespace)) :
    Prop :=
  ∀ before e ns after k, events = before ++ (.delete e, ns) :: after → key e.object = some k →
    outstanding k (watch candidateWatcher objects before).queue = true → Retracted objects before e ns k

/-- A deletion is reported if the object is still a candidate, in a namespace that is still enabled. -/
theorem retracts_every_iff (objects : List (Entity E × Option Namespace))
    (events : List (WatcherEvent E × Option Namespace)) :
    RetractsEvery objects events ↔ ∀ before e ns after k, events = before ++ (.delete e, ns) :: after →
      key e.object = some k → outstanding k (watch candidateWatcher objects before).queue = true →
        isEnabled e.object ns = true := by
  constructor
  · intro hEvery before e ns after k hEvents hKey hOutstanding
    have hSent := (hEvery before e ns after k hEvents hKey hOutstanding).sent
    rw [watch_append] at hSent
    change (eventTurn (.delete e) ns _).queue = _ at hSent
    rw [queue_delete, deleted_eq, List.append_cancel_left_eq] at hSent
    by_contra hNot
    simp [candidateKey, hNot] at hSent
  · intro hAlways before e ns after k hEvents hKey hOutstanding
    have hCandidate : candidateKey e.object ns = some k :=
      candidateKey_eq_some.mpr ⟨hAlways before e ns after k hEvents hKey hOutstanding, hKey⟩
    have hForgotten : k ∉ (watch candidateWatcher objects (before ++ [(.delete e, ns)])).applied := by
      rw [watch_append]
      change k ∉ (eventTurn (.delete e) ns _).applied
      rw [mem_applied_delete, key_and_isSome (deleted_eq e.object ns)]
      exact fun h => h.2 hCandidate
    refine ⟨?_, hForgotten, fun later e' ns' hKey' => ?_⟩
    · rw [watch_append]
      change (eventTurn (.delete e) ns _).queue = _
      rw [queue_delete, deleted_eq, hCandidate]
      rfl
    · have hHeard : ¬Silent k (watch candidateWatcher objects (before ++ (.delete e, ns) :: later)) := by
        rw [List.append_cons, watch_append, silent_handle]
        exact fun h => hForgotten h.1.1
      rw [watch_append]
      change outstanding k (eventTurn (.apply e') ns' _).queue = true
      rw [outstanding_apply]
      rw [Silent, ← Bool.not_eq_true] at hHeard
      tauto

/-- The annotation comes before the deployment is deleted. -/
theorem disabled_later_not_retracted : ¬RetractsEvery [(⟨0, sampleDeployment⟩, some sampleNamespace)]
    [(.delete ⟨0, sampleDisabled⟩, some sampleNamespace)] := by
  intro h
  exact absurd (h [] _ _ [] "ns_web" rfl (by decide) (by decide)).unknown (by decide)

end Announcements

end SdpK8sInjector.IdentityService
