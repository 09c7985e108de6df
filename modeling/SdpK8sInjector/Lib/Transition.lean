import Mathlib.Logic.Relation

/-! # Runs of a transition system whose steps meet a condition

`next s l` is the state after label `l` in `s`, or `none` where `l` is not
enabled. A run is executable, so that a concrete schedule can be evaluated; the
relation `Steps` quantifies over all schedules.
-/

namespace SdpK8sInjector.Lib

variable {State Label : Type*} {next : State → Label → Option State}

/-- One step along some label that `allowed` admits in the state before it. -/
def Step (next : State → Label → Option State) (allowed : State → Label → Prop) (s t : State) : Prop :=
  ∃ label, allowed s label ∧ next s label = some t

def Steps (next : State → Label → Option State) (allowed : State → Label → Prop) :
    State → State → Prop :=
  Relation.ReflTransGen (Step next allowed)

/-- The run along the given labels, stopping with `none` at the first one that is not enabled. -/
def run (next : State → Label → Option State) : State → List Label → Option State
  | s, [] => some s
  | s, label :: rest => (next s label).bind fun t => run next t rest

theorem run_append (s : State) (labels rest : List Label) :
    run next s (labels ++ rest) = (run next s labels).bind fun t => run next t rest := by
  induction labels generalizing s with
  | nil => rfl
  | cons label labels ih => simp only [List.cons_append, run, ih, Option.bind_assoc]

/-- The state that a run reaches, or where it started if a label is not enabled. -/
def runD (next : State → Label → Option State) (s : State) (labels : List Label) : State :=
  (run next s labels).getD s

theorem next_eq_runD {s : State} {label : Label} (h : (next s label).isSome = true) :
    next s label = some (runD next s [label]) := by
  obtain ⟨t, hNext⟩ := Option.isSome_iff_exists.mp h
  simp [runD, run, hNext]

/-- Every label of the run is admitted in the state it meets. -/
def Admits (next : State → Label → Option State) (allowed : State → Label → Prop) :
    State → List Label → Prop
  | _, [] => True
  | s, label :: rest => allowed s label ∧ ∀ t, next s label = some t → Admits next allowed t rest

theorem Admits.of_forall {allowed : State → Label → Prop} {labels : List Label}
    (h : ∀ label ∈ labels, ∀ s, allowed s label) (s : State) : Admits next allowed s labels := by
  induction labels generalizing s with
  | nil => exact trivial
  | cons label rest ih =>
    exact ⟨h label List.mem_cons_self s, fun t _ => ih (fun l hl => h l (List.mem_cons_of_mem label hl)) t⟩

/-- What an invariant makes of the labels that a run admits. -/
theorem Admits.strengthen {allowed allowed' : State → Label → Prop} {Inv : State → Prop}
    (hInv : ∀ s label t, Inv s → allowed s label → next s label = some t → Inv t)
    (hMore : ∀ s label t, Inv s → allowed s label → next s label = some t → allowed' s label)
    {labels : List Label} {s : State} (hs : Inv s) (hRun : (run next s labels).isSome = true)
    (h : Admits next allowed s labels) : Admits next allowed' s labels := by
  induction labels generalizing s with
  | nil => exact trivial
  | cons label rest ih =>
    obtain ⟨u, hu⟩ := Option.isSome_iff_exists.mp hRun
    obtain ⟨t, hNext, hRest⟩ := Option.bind_eq_some_iff.mp hu
    refine ⟨hMore s label t hs h.1 hNext, fun t' hNext' => ?_⟩
    obtain rfl := Option.some.inj (hNext.symm.trans hNext')
    exact ih (hInv s label t hs h.1 hNext) (by rw [hRest]; rfl) (h.2 t hNext)

namespace Steps

variable {allowed allowed' : State → Label → Prop} {s t u : State}

theorem refl (s : State) : Steps next allowed s s := Relation.ReflTransGen.refl

theorem trans (hst : Steps next allowed s t) (htu : Steps next allowed t u) : Steps next allowed s u :=
  Relation.ReflTransGen.trans hst htu

theorem tail (hst : Steps next allowed s t) (htu : Step next allowed t u) : Steps next allowed s u :=
  Relation.ReflTransGen.tail hst htu

theorem mono (hMono : ∀ s label, allowed s label → allowed' s label) (h : Steps next allowed s t) :
    Steps next allowed' s t :=
  Relation.ReflTransGen.mono
    (fun _ _ ⟨label, hAllowed, hNext⟩ => ⟨label, hMono _ _ hAllowed, hNext⟩) _ _ h

/-- What every admitted step preserves, every run preserves. -/
theorem invariant (Inv : State → Prop)
    (hStep : ∀ s label t, Inv s → allowed s label → next s label = some t → Inv t)
    (h : Steps next allowed s t) (hInit : Inv s) : Inv t := by
  induction h with
  | refl => exact hInit
  | tail _ hLast ih =>
    obtain ⟨label, hAllowed, hNext⟩ := hLast
    exact hStep _ label _ ih hAllowed hNext

theorem of_run (labels : List Label) (hAdmits : Admits next allowed s labels)
    (hRun : run next s labels = some t) : Steps next allowed s t := by
  induction labels generalizing s with
  | nil =>
    cases hRun
    exact refl _
  | cons label rest ih =>
    obtain ⟨mid, hNext, hRest⟩ := Option.bind_eq_some_iff.mp hRun
    exact trans (tail (refl s) ⟨label, hAdmits.1, hNext⟩) (ih (hAdmits.2 mid hNext) hRest)

theorem of_runD (labels : List Label) (hAdmits : Admits next allowed s labels)
    (hRun : (run next s labels).isSome = true) : Steps next allowed s (runD next s labels) := by
  obtain ⟨t, h⟩ := Option.isSome_iff_exists.mp hRun
  rw [runD, h]
  exact of_run labels hAdmits h

end Steps

/-- Every state that the run meets has the property. -/
def Throughout (next : State → Label → Option State) (P : State → Prop) : State → List Label → Prop
  | s, [] => P s
  | s, label :: rest => P s ∧ ∀ t, next s label = some t → Throughout next P t rest

theorem Throughout.head {P : State → Prop} {s : State} {labels : List Label}
    (h : Throughout next P s labels) : P s := by
  cases labels with
  | nil => exact h
  | cons label rest => exact h.1

/-- A run keeps a property throughout if and only if its steps are those that do. -/
theorem throughout_iff_admits {allowed : State → Label → Prop} {Inv P : State → Prop}
    (hInv : ∀ s label t, Inv s → next s label = some t → Inv t)
    (hStep : ∀ s label t, Inv s → P s → next s label = some t → (P t ↔ allowed s label))
    {labels : List Label} {s : State} (hs : Inv s) (hP : P s) (hRun : (run next s labels).isSome = true) :
    Throughout next P s labels ↔ Admits next allowed s labels := by
  induction labels generalizing s with
  | nil => exact iff_of_true hP trivial
  | cons label rest ih =>
    obtain ⟨u, hu⟩ := Option.isSome_iff_exists.mp hRun
    obtain ⟨t, hNext, hRest⟩ := Option.bind_eq_some_iff.mp hu
    have hIff := fun hPt : P t => ih (hInv s label t hs hNext) hPt (Option.isSome_iff_exists.mpr ⟨u, hRest⟩)
    simp only [Throughout, Admits, hNext, Option.some.injEq, forall_eq', hP, true_and]
    constructor
    · exact fun h => ⟨(hStep s label t hs hP hNext).mp h.head, (hIff h.head).mp h⟩
    · exact fun h => (hIff ((hStep s label t hs hP hNext).mpr h.1)).mpr h.2

instance decidableAdmits (next : State → Label → Option State) (allowed : State → Label → Prop)
    [∀ s label, Decidable (allowed s label)] :
    (s : State) → (labels : List Label) → Decidable (Admits next allowed s labels)
  | _, [] => .isTrue trivial
  | s, label :: rest =>
    match h : next s label with
    | none => decidable_of_iff (allowed s label) (by simp [Admits, h])
    | some t =>
      haveI := decidableAdmits next allowed t rest
      decidable_of_iff (allowed s label ∧ Admits next allowed t rest) (by simp [Admits, h])

end SdpK8sInjector.Lib
