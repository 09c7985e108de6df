import SdpK8sInjector.Common.Cluster

/-! # The lookups of the initial loop

Each object that is in a namespace takes one call, and finds nothing where the call fails.
-/

namespace SdpK8sInjector.Common

open Lib

variable {E P : Type} [SimpleWatchingProtocol E P] (outcomes : Nat → CallOutcome)

/-- The objects with the namespaces that are found for them, one call after the other. -/
def lookUpAll (apiNs : Bool) : List (Entity E) → NamespaceApi → List (Entity E × Option Namespace) × NamespaceApi
  | [], api => ([], api)
  | e :: rest, api =>
    let (result, api) := getNs outcomes apiNs (SimpleWatchingProtocol.objectNs e.object) api
    let (found, api) := lookUpAll apiNs rest api
    ((e, nsOrNone result) :: found, api)

/-- The initial loop of `watch`, and what comes after it. -/
theorem run_listed (config : WatcherConfig P) (es : List (Entity E)) (s : Cluster E P) (h : s.phase = .listing es)
    (labels : List (ClusterEvent E)) :
    run (Cluster.next outcomes config) s (List.replicate es.length .listed ++ labels) =
      run (Cluster.next outcomes config) { s with
        namespaces := (lookUpAll outcomes config.apiNs es s.namespaces).2
        phase := .listing []
        watching := s.watching.list (lookUpAll outcomes config.apiNs es s.namespaces).1 } labels := by
  induction es generalizing s with
  | nil =>
    obtain ⟨objects, created, namespaces, phase, watching⟩ := s
    cases h
    rfl
  | cons e rest ih =>
    have hNext : Cluster.next outcomes config s .listed = some { s with
        namespaces := (s.lookUp outcomes config e).2
        phase := .listing rest
        watching := s.watching.initialTurn e (s.lookUp outcomes config e).1 } := by
      simp only [Cluster.next, h]
    rw [List.length_cons, List.replicate_succ, List.cons_append, run, hNext, Option.bind_some, ih _ rfl]
    rfl

/-- What the call with the given number finds for the object. -/
def nsFound (namespaces : HashMap String Namespace) (call : Nat) (e : E) : Option Namespace :=
  if outcomes call = .delivered then (SimpleWatchingProtocol.objectNs e).bind namespaces.lookup else none

/-- An object in no namespace takes no call. -/
def hasNs (e : Entity E) : Bool := (SimpleWatchingProtocol.objectNs e.object).isSome

theorem nsOrNone_getNs (api : NamespaceApi) (e : E) :
    nsOrNone (getNs outcomes true (SimpleWatchingProtocol.objectNs e) api).1 =
      nsFound outcomes api.store api.calls e := by
  unfold getNs
  rw [if_pos rfl, nsFound]
  cases SimpleWatchingProtocol.objectNs e with
  | none => simp [nsOrNone, Except.toOption]
  | some name =>
    simp only [NamespaceApi.getOpt, Remote.call]
    cases outcomes api.calls <;> simp [nsOrNone, Except.mapError, Except.toOption]

theorem getNs_api (api : NamespaceApi) (e : Entity E) :
    (getNs outcomes true (SimpleWatchingProtocol.objectNs e.object) api).2.store = api.store ∧
      (getNs outcomes true (SimpleWatchingProtocol.objectNs e.object) api).2.calls =
        api.calls + if hasNs e then 1 else 0 := by
  unfold getNs
  rw [if_pos rfl, hasNs]
  cases SimpleWatchingProtocol.objectNs e.object with
  | none => exact ⟨rfl, rfl⟩
  | some name =>
    simp only [NamespaceApi.getOpt, Remote.call]
    cases outcomes api.calls <;> exact ⟨rfl, rfl⟩

/-- Each object is looked up by a call of its own, whose number is that of the objects in namespaces before it. -/
theorem mem_lookUpAll (es : List (Entity E)) (api : NamespaceApi) (e : Entity E) (ns : Option Namespace) :
    (e, ns) ∈ (lookUpAll outcomes true es api).1 ↔ ∃ pre post, es = pre ++ e :: post ∧
      ns = nsFound outcomes api.store (api.calls + pre.countP hasNs) e.object := by
  induction es generalizing api with
  | nil => simp [lookUpAll]
  | cons first rest ih =>
    obtain ⟨hStore, hCalls⟩ := getNs_api outcomes api first
    simp only [lookUpAll, List.mem_cons, Prod.mk.injEq, nsOrNone_getNs, ih, hStore, hCalls]
    constructor
    · rintro (⟨rfl, rfl⟩ | ⟨pre, post, rfl, rfl⟩)
      · exact ⟨[], rest, rfl, rfl⟩
      · refine ⟨first :: pre, post, rfl, ?_⟩
        rw [List.countP_cons, Nat.add_right_comm, Nat.add_assoc]
    · rintro ⟨pre, post, hSplit, rfl⟩
      cases pre with
      | nil =>
        cases hSplit
        exact .inl ⟨rfl, rfl⟩
      | cons _ pre =>
        cases hSplit
        refine .inr ⟨pre, post, rfl, ?_⟩
        rw [List.countP_cons, ← Nat.add_assoc, Nat.add_right_comm]

end SdpK8sInjector.Common
