import SdpK8sInjector.Lib.Transition

/-! # The certificate of the injector and its reload

A watcher tells of changes of the certificate and the key, and a task of the injector
raises a flag for them. The server looks at the flag before it waits for the next
connection, loads both files and lowers the flag. When the watcher tells of a change,
and whether it does, is not fixed here.
-/

namespace SdpK8sInjector.Injector

open Lib

/-- A certificate and the private key that it is for. -/
structure Certificate where
  serial : Nat
  key : Nat
deriving DecidableEq, Repr

/-- What `watch_files` tells apart: `kind.is_modify()`, and among the rest the creation of a file. -/
inductive NotifyEvent where
  | modify
  | create
  | other
deriving DecidableEq, Repr

inductive ServerPhase where
  | checking
  | loading
  | reading (cert : Certificate)
  | loaded
  | accepting
deriving DecidableEq, Repr

structure CertReload where
  /-- What loading the file would give, if it gives anything. -/
  cert : Option Certificate
  key : Option Nat
  /-- A file has changed since the watcher last told of a modified or created file. -/
  unnoticed : Bool
  /-- The channel from the watcher holds one event. -/
  queue : Option NotifyEvent
  reloadCerts : Bool
  acceptor : Certificate
  phase : ServerPhase
  /-- The certificate that each unfinished handshake began with. -/
  handshakes : List Certificate
  /-- How often the server has come back from waiting for a connection. -/
  returns : Nat
  timeouts : Nat
deriving DecidableEq, Repr

namespace CertReload

/-- `main` has loaded the files before it starts the watcher. -/
def start (cert : Certificate) : CertReload where
  cert := some cert
  key := some cert.key
  unnoticed := false
  queue := none
  reloadCerts := false
  acceptor := cert
  phase := .checking
  handshakes := []
  returns := 0
  timeouts := 0

inductive Event where
  | writeCert (cert : Option Certificate)
  | writeKey (key : Option Nat)
  | notify (event : NotifyEvent)
  | receive
  | check (timedOut : Bool)
  | readCert
  | readKey
  | reset
  | connect
  | complete (i : Nat)
  | fail (i : Nat)
deriving DecidableEq, Repr

/-- The watcher waits until there is room for its event. -/
def notify (s : CertReload) (event : NotifyEvent) : Option CertReload :=
  match s.queue with
  | none => some { s with queue := some event, unnoticed := if event = .other then s.unnoticed else false }
  | some _ => none

/-- `watch_files` -/
def receive (s : CertReload) (event : NotifyEvent) : CertReload :=
  match event with
  | .modify => { s with queue := none, reloadCerts := true }
  | .create | .other => { s with queue := none }

def next (s : CertReload) : Event → Option CertReload
  | .writeCert cert => some { s with cert := cert, unnoticed := true }
  | .writeKey key => some { s with key := key, unnoticed := true }
  | .notify event => s.notify event
  | .receive => s.queue.map s.receive
  | .check timedOut =>
    if s.phase = .checking then
      if timedOut then some { s with phase := .accepting, timeouts := s.timeouts + 1 }
      else some { s with phase := if s.reloadCerts then .loading else .accepting }
    else none
  | .readCert =>
    if s.phase = .loading then
      match s.cert with
      | some cert => some { s with phase := .reading cert }
      | none => some { s with phase := .accepting }
    else none
  | .readKey =>
    match s.phase with
    | .reading cert =>
      -- `with_single_cert` refuses a key that is not that of the certificate
      if s.key = some cert.key then some { s with acceptor := cert, phase := .loaded }
      else some { s with phase := .accepting }
    | _ => none
  | .reset => if s.phase = .loaded then some { s with reloadCerts := false, phase := .accepting } else none
  | .connect =>
    if s.phase = .accepting then some { s with handshakes := s.handshakes ++ [s.acceptor] } else none
  | .complete i | .fail i =>
    if s.phase = .accepting ∧ i < s.handshakes.length then
      some { s with handshakes := s.handshakes.eraseIdx i, phase := .checking, returns := s.returns + 1 }
    else none

/-- What `load_ssl` makes of the files as they are. -/
def loadable (s : CertReload) : Option Certificate :=
  match s.cert, s.key with
  | some cert, some key => if key = cert.key then some cert else none
  | _, _ => none

/-- There is a certificate to load that is not the one in use. -/
def Stale (s : CertReload) : Prop := s.loadable.any (· != s.acceptor) = true

/-- The watcher has still to tell of the last change, or what it has told of it is still to be received. -/
def Due (s : CertReload) : Prop := s.unnoticed = true ∨ s.queue = some .modify ∨ s.queue = some .create

/-- All changes were told of, and yet the server keeps a certificate that is outdated. -/
def Forgotten (s : CertReload) : Prop := s.Stale ∧ s.reloadCerts = false ∧ ¬s.Due

instance (s : CertReload) : Decidable s.Stale := inferInstanceAs (Decidable (_ = true))

instance (s : CertReload) : Decidable s.Due := inferInstanceAs (Decidable (_ ∨ _))

instance (s : CertReload) : Decidable s.Forgotten := inferInstanceAs (Decidable (_ ∧ _))

/-- A step that loses no change. The flag is not lowered for an outdated certificate unless more is to be told of it,
and no outdated certificate was replaced by a file that counts as created. -/
def Keeps (s : CertReload) : Event → Prop
  | .receive => s.queue = some .create → s.Stale → s.reloadCerts = false → s.unnoticed = true
  | .reset => s.Stale → s.Due
  | _ => True

instance (s : CertReload) (event : Event) : Decidable (s.Keeps event) :=
  match event with
  | .receive => inferInstanceAs (Decidable (_ → _))
  | .reset => inferInstanceAs (Decidable (_ → _))
  | .writeCert _ | .writeKey _ | .notify _ | .check _ | .readCert | .readKey | .connect | .complete _ | .fail _ =>
    .isTrue trivial

/-- No file counts as created, and no modification is told of while the files are loaded and the flag is lowered. -/
def ToldBetweenLoads (s : CertReload) : Event → Prop
  | .receive => s.queue ≠ some .create ∧
      (s.queue = some .modify → s.phase = .checking ∨ s.phase = .loading ∨ s.phase = .accepting)
  | _ => True

/-- Only a server that has found the flag set loads anything. -/
def Flagged (s : CertReload) : Prop := s.phase = .checking ∨ s.phase = .accepting ∨ s.reloadCerts = true

variable {s t : CertReload} {cert : Certificate} {event : Event}

theorem stale_iff : s.Stale ↔ ∃ cert, s.cert = some cert ∧ s.key = some cert.key ∧ cert ≠ s.acceptor := by
  unfold Stale loadable
  cases s.cert with
  | none => simp
  | some cert =>
    cases s.key with
    | none => simp
    | some key => by_cases hKey : key = cert.key <;> simp [hKey]

theorem not_forgotten_of_due (h : t.Due) : ¬t.Forgotten := fun ⟨_, _, hNone⟩ => hNone h

theorem not_forgotten_of_flag (h : t.reloadCerts = true) : ¬t.Forgotten :=
  fun ⟨_, hFlag, _⟩ => by simp [h] at hFlag

/-- A step that leaves the files, the acceptor, the flag and what is to be told as they are. -/
theorem not_forgotten_frame (h : ¬s.Forgotten) (hCert : t.cert = s.cert) (hKey : t.key = s.key)
    (hAcceptor : t.acceptor = s.acceptor) (hFlag : t.reloadCerts = s.reloadCerts) (hDue : s.Due → t.Due) :
    ¬t.Forgotten := by
  rintro ⟨hStale, hLow, hNone⟩
  refine h ⟨?_, hFlag ▸ hLow, fun hDue' => hNone (hDue hDue')⟩
  rw [stale_iff] at hStale ⊢
  rwa [hCert, hKey, hAcceptor] at hStale

theorem notify_cases {told : NotifyEvent} (h : s.notify told = some t) : s.queue = none ∧
    t = { s with queue := some told, unnoticed := if told = .other then s.unnoticed else false } := by
  unfold notify at h
  split at h
  · cases h
    exact ⟨‹_›, rfl⟩
  · cases h

theorem due_of_notify {told : NotifyEvent} (h : s.notify told = some t) (hDue : told = .other → s.Due) : t.Due := by
  obtain ⟨hQueue, rfl⟩ := notify_cases h
  cases told with
  | modify => exact .inr (.inl rfl)
  | create => exact .inr (.inr rfl)
  | other =>
    refine .inl ((hDue rfl).resolve_right ?_)
    simp [hQueue]

theorem next_flagged (h : s.Flagged) (hNext : s.next event = some t) : t.Flagged := by
  cases event with
  | writeCert | writeKey =>
    cases hNext
    exact h
  | notify told =>
    obtain ⟨-, rfl⟩ := notify_cases hNext
    exact h
  | receive =>
    obtain ⟨told, -, rfl⟩ := Option.map_eq_some_iff.mp hNext
    cases told with
    | modify => exact .inr (.inr rfl)
    | create | other => exact h
  | check | readCert | readKey | reset | connect | complete | fail =>
    simp only [next] at hNext
    split at hNext <;> (try split at hNext) <;> cases hNext <;> simp_all [Flagged]

theorem not_forgotten_next (hFlagged : s.Flagged) (h : ¬s.Forgotten) (hNext : s.next event = some t) :
    ¬t.Forgotten ↔ s.Keeps event := by
  cases event with
  | writeCert | writeKey =>
    cases hNext
    exact iff_of_true (not_forgotten_of_due (.inl rfl)) trivial
  | notify told =>
    refine iff_of_true ?_ trivial
    by_cases hDue : told = .other → s.Due
    · exact not_forgotten_of_due (due_of_notify hNext hDue)
    · obtain ⟨hOther, hNone⟩ := Classical.not_imp.mp hDue
      obtain ⟨-, rfl⟩ := notify_cases hNext
      exact not_forgotten_frame h rfl rfl rfl rfl fun hDue => absurd hDue hNone
  | receive =>
    obtain ⟨told, hQueue, rfl⟩ := Option.map_eq_some_iff.mp hNext
    cases told with
    | modify => exact iff_of_true (not_forgotten_of_flag rfl) (fun hCreate => by simp [hQueue] at hCreate)
    | other =>
      refine iff_of_true (not_forgotten_frame h rfl rfl rfl rfl fun hDue => ?_)
        (fun hCreate => by simp [hQueue] at hCreate)
      exact .inl (hDue.resolve_right (by simp [hQueue]))
    | create =>
      -- the event was all that was still to come
      rw [Keeps]
      constructor
      · intro hKept _ hStale hLow
        refine Classical.byContradiction fun hTold => hKept ⟨hStale, hLow, ?_⟩
        simpa [Due, receive] using hTold
      · rintro hKept ⟨hStale, hLow, hNone⟩
        exact hNone (.inl (hKept hQueue hStale hLow))
  | readKey =>
    simp only [next] at hNext
    split at hNext
    · rename_i hPhase
      have hFlag : s.reloadCerts = true := by simpa [Flagged, hPhase] using hFlagged
      split at hNext <;> cases hNext <;> exact iff_of_true (not_forgotten_of_flag hFlag) trivial
    · cases hNext
  | reset =>
    simp only [next] at hNext
    split at hNext <;> cases hNext
    exact ⟨fun hKept hStale => Classical.byContradiction fun hNone => hKept ⟨hStale, rfl, hNone⟩,
      fun hKept hLost => hLost.2.2 (hKept hLost.1)⟩
  | check | readCert | connect | complete | fail =>
    simp only [next] at hNext
    split at hNext <;> (try split at hNext) <;> cases hNext <;>
      exact iff_of_true (not_forgotten_frame h rfl rfl rfl rfl id) trivial

/-- What was read of a load that is under way is still what there is, unless more is to be told. -/
structure Sound (s : CertReload) : Prop where
  reading : ∀ cert, s.phase = .reading cert → s.cert = some cert ∨ s.Due
  loaded : s.phase = .loaded → s.cert = some s.acceptor ∨ s.Due

theorem Sound.of_due (h : t.Due) : t.Sound := ⟨fun _ _ => .inr h, fun _ => .inr h⟩

theorem Sound.frame (h : s.Sound) (hPhase : t.phase = s.phase) (hCert : t.cert = s.cert)
    (hAcceptor : t.acceptor = s.acceptor)
    (hDue : s.Due → t.Due) : t.Sound where
  reading cert hReading := hCert ▸ (h.reading cert (hPhase ▸ hReading)).imp_right hDue
  loaded hLoaded := hCert ▸ hAcceptor ▸ (h.loaded (hPhase ▸ hLoaded)).imp_right hDue

theorem Sound.next (h : s.Sound) (hTold : s.ToldBetweenLoads event) (hNext : s.next event = some t) : t.Sound := by
  cases event with
  | writeCert | writeKey =>
    cases hNext
    exact .of_due (.inl rfl)
  | notify told =>
    by_cases hDue : told = .other → s.Due
    · exact .of_due (due_of_notify hNext hDue)
    · obtain ⟨-, hNone⟩ := Classical.not_imp.mp hDue
      obtain ⟨-, rfl⟩ := notify_cases hNext
      exact h.frame rfl rfl rfl fun hDue => absurd hDue hNone
  | receive =>
    obtain ⟨told, hQueue, rfl⟩ := Option.map_eq_some_iff.mp hNext
    cases told with
    | modify =>
      refine ⟨fun cert hReading => ?_, fun hLoaded => ?_⟩ <;>
        rcases hTold.2 hQueue with hPhase | hPhase | hPhase <;>
        simp_all [CertReload.receive]
    | create => exact absurd hQueue hTold.1
    | other => exact h.frame rfl rfl rfl fun hDue => .inl (hDue.resolve_right (by simp [hQueue]))
  | readCert =>
    simp only [CertReload.next] at hNext
    split at hNext
    · split at hNext <;> cases hNext
      · rename_i cert hCert
        refine ⟨fun cert' hReading => .inl ?_, fun hLoaded => by cases hLoaded⟩
        cases hReading
        exact hCert
      · exact ⟨fun cert hReading => (by cases hReading), fun hLoaded => by cases hLoaded⟩
    · cases hNext
  | readKey =>
    simp only [CertReload.next] at hNext
    split at hNext
    · rename_i cert hPhase
      split at hNext <;> cases hNext
      · exact ⟨fun cert hReading => (by cases hReading), fun _ => h.reading cert hPhase⟩
      · exact ⟨fun cert hReading => (by cases hReading), fun hLoaded => by cases hLoaded⟩
    · cases hNext
  | connect =>
    simp only [CertReload.next] at hNext
    split at hNext <;> cases hNext
    exact h.frame rfl rfl rfl id
  | check timedOut =>
    simp only [CertReload.next] at hNext
    split at hNext <;> (try split at hNext) <;> cases hNext <;>
      exact ⟨fun cert hReading => by cases hFlag : s.reloadCerts <;> simp [hFlag] at hReading,
        fun hLoaded => by cases hFlag : s.reloadCerts <;> simp [hFlag] at hLoaded⟩
  | reset | complete | fail =>
    simp only [CertReload.next] at hNext
    split at hNext <;> cases hNext
    exact ⟨fun cert hReading => (by cases hReading), fun hLoaded => by cases hLoaded⟩

/-- What was loaded while nothing was told of is what there is. -/
theorem Sound.keeps (h : s.Sound) (hTold : s.ToldBetweenLoads event) (hNext : s.next event = some t) :
    s.Keeps event := by
  cases event with
  | receive => exact fun hCreate => absurd hCreate hTold.1
  | reset =>
    simp only [CertReload.next] at hNext
    split at hNext
    · rename_i hPhase
      intro hStale
      obtain ⟨cert, hCert, -, hNew⟩ := stale_iff.mp hStale
      refine (h.loaded hPhase).resolve_left fun hSame => hNew ?_
      exact Option.some.inj (hCert.symm.trans hSame)
    · cases hNext
  | _ => exact trivial

/-- A change is forgotten exactly if the flag is lowered for a certificate that is outdated, after all was told, or if
the certificate was replaced by a file that counts as created. It is neither if nothing is told of while the files are
loaded. -/
theorem change_forgotten_iff (cert : Certificate) {events : List Event}
    (hRun : (run next (start cert) events).isSome = true) :
    (Throughout next (fun s => ¬s.Forgotten) (start cert) events ↔ Admits next Keeps (start cert) events) ∧
      (Admits next ToldBetweenLoads (start cert) events → Admits next Keeps (start cert) events) := by
  have hStart : ¬(start cert).Forgotten := fun h => by simpa [Stale, start, loadable] using h.1
  have hSound : (start cert).Sound := ⟨fun _ h => (by cases h), fun h => by cases h⟩
  exact ⟨throughout_iff_admits (fun _ _ _ => next_flagged) (fun _ _ _ => not_forgotten_next) (.inl rfl) hStart hRun,
    Admits.strengthen (fun _ _ _ => Sound.next) (fun _ _ _ => Sound.keeps) hSound hRun⟩

/-! ## How long a forgotten change stays so -/

/-- The watcher does not tell of a modification. -/
def Untold (event : Event) : Prop := event ≠ .notify .modify

/-- The server has an outdated certificate, and nothing makes it load another. -/
structure Idle (s : CertReload) (acceptor : Certificate) : Prop where
  flag : s.reloadCerts = false
  queue : s.queue ≠ some .modify
  phase : s.phase = .checking ∨ s.phase = .accepting
  acceptor : s.acceptor = acceptor

theorem Idle.next (h : s.Idle cert) (hUntold : Untold event) (hNext : s.next event = some t) : t.Idle cert := by
  obtain ⟨hFlag, hQueue, hPhase, hAcceptor⟩ := h
  cases event with
  | writeCert | writeKey =>
    cases hNext
    exact ⟨hFlag, hQueue, hPhase, hAcceptor⟩
  | notify told =>
    obtain ⟨-, rfl⟩ := notify_cases hNext
    refine ⟨hFlag, fun hTold => hUntold ?_, hPhase, hAcceptor⟩
    rw [Option.some.inj hTold]
  | receive =>
    obtain ⟨told, hTold, rfl⟩ := Option.map_eq_some_iff.mp hNext
    cases told with
    | modify => exact absurd hTold hQueue
    | create | other => exact ⟨hFlag, nofun, hPhase, hAcceptor⟩
  | check timedOut =>
    simp only [CertReload.next] at hNext
    split at hNext
    · split at hNext <;> cases hNext
      · exact ⟨hFlag, hQueue, .inr rfl, hAcceptor⟩
      · exact ⟨hFlag, hQueue, .inr (by simp [hFlag]), hAcceptor⟩
    · cases hNext
  | readCert | reset =>
    simp only [CertReload.next] at hNext
    split at hNext
    · rename_i hHere
      simp [hHere] at hPhase
    · cases hNext
  | readKey =>
    simp only [CertReload.next] at hNext
    split at hNext
    · rename_i hHere
      simp [hHere] at hPhase
    · cases hNext
  | connect =>
    simp only [CertReload.next] at hNext
    split at hNext <;> cases hNext
    exact ⟨hFlag, hQueue, hPhase, hAcceptor⟩
  | complete | fail =>
    simp only [CertReload.next] at hNext
    split at hNext <;> cases hNext
    exact ⟨hFlag, hQueue, .inl rfl, hAcceptor⟩

/-- The server goes on with the outdated certificate, whatever becomes of the files, until the watcher tells of another
modification. -/
theorem forgotten_until_told (hs : Steps next (fun _ _ => True) (start cert) s) (hForgotten : s.Forgotten)
    (h : Steps next (fun _ event => Untold event) s t) : t.acceptor = s.acceptor ∧ t.reloadCerts = false := by
  have hFlagged : s.Flagged := hs.invariant Flagged (fun _ _ _ h _ hNext => next_flagged h hNext) (.inl rfl)
  have hPhase : s.phase = .checking ∨ s.phase = .accepting := by
    simpa [Flagged, hForgotten.2.1] using hFlagged
  have hIdle : s.Idle s.acceptor := ⟨hForgotten.2.1, fun hTold => hForgotten.2.2 (.inr (.inl hTold)), hPhase, rfl⟩
  have hStill : t.Idle s.acceptor := h.invariant (fun t => t.Idle s.acceptor) (fun _ _ _ => Idle.next) hIdle
  exact ⟨hStill.acceptor, hStill.flag⟩

/-! ## How long a change that was told of is put off -/

/-- A step that leaves the files as they are. -/
def Quiet : Event → Prop
  | .writeCert _ | .writeKey _ => False
  | _ => True

/-- How often the server may come back from waiting before it loads, if the wait for the lock has timed out so often. -/
def Within (s : CertReload) (extra : Nat) (t : CertReload) : Prop :=
  t.returns + s.timeouts ≤ s.returns + t.timeouts + extra

/-- The files are as they were, and the server has their certificate or is on the way to it. -/
structure Reloading (s : CertReload) (renewed : Certificate) (t : CertReload) : Prop where
  cert : t.cert = s.cert
  key : t.key = s.key
  progress : t.acceptor = renewed ∧ (∀ c, t.phase = .reading c → c = renewed) ∨ t.reloadCerts = true ∧
    match t.phase with
    | .checking | .loading => s.Within 1 t
    | .reading c => c = renewed
    | .accepting => s.Within 0 t
    | .loaded => False

theorem loadable_eq_some (h : s.loadable = some cert) : s.cert = some cert ∧ s.key = some cert.key := by
  unfold loadable at h
  split at h
  · rename_i c key hCert hKey
    split at h <;> cases h
    rename_i hFits
    exact ⟨hCert, hFits ▸ hKey⟩
  · cases h

/-- What leaves the files and the server alone, and does not lower the flag. -/
theorem Reloading.frame {u : CertReload} (h : s.Reloading cert t) (hCert : u.cert = t.cert) (hKey : u.key = t.key)
    (hAcceptor : u.acceptor = t.acceptor) (hPhase : u.phase = t.phase)
    (hFlag : t.reloadCerts = true → u.reloadCerts = true)
    (hReturns : u.returns = t.returns) (hTimeouts : u.timeouts = t.timeouts) : s.Reloading cert u := by
  refine ⟨hCert.trans h.cert, hKey.trans h.key, h.progress.imp ?_ (And.imp hFlag ?_)⟩
  · rw [hAcceptor, hPhase]
    exact id
  · simp only [Within, hPhase, hReturns, hTimeouts]
    exact id

theorem Reloading.next {u : CertReload} (hLoadable : s.loadable = some cert) (h : s.Reloading cert t)
    (hQuiet : Quiet event) (hNext : t.next event = some u) : s.Reloading cert u := by
  obtain ⟨hCert, hKey⟩ := loadable_eq_some hLoadable
  rw [← h.cert] at hCert
  rw [← h.key] at hKey
  have hProgress := h.progress
  cases event with
  | writeCert | writeKey => cases hQuiet
  | notify told =>
    obtain ⟨-, rfl⟩ := notify_cases hNext
    exact h.frame rfl rfl rfl rfl id rfl rfl
  | receive =>
    obtain ⟨told, -, rfl⟩ := Option.map_eq_some_iff.mp hNext
    cases told with
    | modify => exact h.frame rfl rfl rfl rfl (fun _ => rfl) rfl rfl
    | create | other => exact h.frame rfl rfl rfl rfl id rfl rfl
  | connect =>
    simp only [CertReload.next] at hNext
    split at hNext <;> cases hNext
    exact h.frame rfl rfl rfl rfl id rfl rfl
  | check timedOut =>
    simp only [CertReload.next] at hNext
    split at hNext
    · rename_i hPhase
      simp only [hPhase, Within] at hProgress
      split at hNext <;> cases hNext
      · -- one more wait for each time the lock is not free
        refine ⟨h.cert, h.key, hProgress.imp (fun hDone => ⟨hDone.1, by simp⟩) (And.imp id fun hWithin => ?_)⟩
        simp only [Within]
        omega
      · refine ⟨h.cert, h.key, hProgress.imp (fun hDone => ⟨hDone.1, fun c hReading => ?_⟩)
          fun ⟨hFlag, hWithin⟩ => ⟨hFlag, ?_⟩⟩
        · cases hFlag : t.reloadCerts <;> simp [hFlag] at hReading
        · simpa only [hFlag, if_true, Within] using hWithin
    · cases hNext
  | readCert =>
    simp only [CertReload.next] at hNext
    split at hNext
    · split at hNext
      · rename_i c hRead
        cases hNext
        obtain rfl := Option.some.inj (hRead.symm.trans hCert)
        exact ⟨h.cert, h.key, hProgress.imp (fun hDone => ⟨hDone.1, fun c hReading => by cases hReading; rfl⟩)
          (And.imp id fun _ => rfl)⟩
      · rename_i hNone
        cases hNone.symm.trans hCert
    · cases hNext
  | readKey =>
    simp only [CertReload.next] at hNext
    split at hNext
    · rename_i c hPhase
      obtain rfl : c = cert := by
        simp only [hPhase] at hProgress
        exact hProgress.elim (fun hDone => hDone.2 c rfl) And.right
      rw [if_pos hKey] at hNext
      cases hNext
      exact ⟨h.cert, h.key, .inl ⟨rfl, fun c hReading => by cases hReading⟩⟩
    · cases hNext
  | reset =>
    simp only [CertReload.next] at hNext
    split at hNext <;> cases hNext
    rename_i hPhase
    simp only [hPhase, and_false, or_false] at hProgress
    exact ⟨h.cert, h.key, .inl ⟨hProgress.1, fun c hReading => by cases hReading⟩⟩
  | complete | fail =>
    simp only [CertReload.next] at hNext
    split at hNext <;> cases hNext
    rename_i hHere
    simp only [hHere.1, Within] at hProgress
    refine ⟨h.cert, h.key, hProgress.imp (fun hDone => ⟨hDone.1, fun c hReading => by cases hReading⟩)
      (And.imp id ?_)⟩
    simp only [Within]
    omega

/-- Once a change was told of and the files are left alone, the server waits for one more connection at most, and one
more for every time it cannot get the lock; every handshake after that begins with the new certificate. A load that has
read another certificate before is not under way. -/
theorem reloaded_after_returns (hFlag : s.reloadCerts = true) (hPhase : s.phase ≠ .loaded)
    (hReading : ∀ c, s.phase = .reading c → c = cert) (hLoadable : s.loadable = some cert)
    (h : Steps next (fun _ event => Quiet event) s t) (hReturns : s.returns + t.timeouts < t.returns + s.timeouts)
    (hAccepting : t.phase = .accepting) : t.acceptor = cert := by
  have hStart : s.Reloading cert s := by
    refine ⟨rfl, rfl, .inr ⟨hFlag, ?_⟩⟩
    cases hNow : s.phase with
    | reading c => exact hReading c hNow
    | loaded => exact absurd hNow hPhase
    | checking | loading | accepting => simp [Within]
  have hRun : s.Reloading cert t := h.invariant (s.Reloading cert) (fun _ _ _ => Reloading.next hLoadable) hStart
  rcases hRun.progress with hDone | ⟨-, hWithin⟩
  · exact hDone.1
  · rw [hAccepting] at hWithin
    exact absurd hWithin (Nat.not_le_of_lt hReturns)

section Samples

/-- The certificate is renewed, with the key that it had. Before the new one is loaded it is renewed again, and told
of. -/
def renewedTwice : List Event :=
  [.writeCert (some ⟨1, 0⟩), .notify .modify, .receive, .check false, .readCert,
    .writeCert (some ⟨2, 0⟩), .notify .modify,
    .receive, .readKey, .reset]

theorem change_forgotten_iff_sample :
    (run next (start ⟨0, 0⟩) renewedTwice).isSome = true ∧
      ¬Throughout next (fun s => ¬s.Forgotten) (start ⟨0, 0⟩) renewedTwice ∧
      Throughout next (fun s => ¬s.Forgotten) (start ⟨0, 0⟩) (renewedTwice.take 9) := by
  have hRun : (run next (start ⟨0, 0⟩) renewedTwice).isSome = true := by decide +kernel
  obtain ⟨hIff, -⟩ := change_forgotten_iff ⟨0, 0⟩ hRun
  obtain ⟨hBefore, -⟩ := change_forgotten_iff ⟨0, 0⟩
    (by decide +kernel : (run next (start ⟨0, 0⟩) (renewedTwice.take 9)).isSome = true)
  exact ⟨hRun, mt hIff.mp (by decide +kernel), hBefore.mpr (by decide +kernel)⟩

def leftAlone : List Event :=
  [.connect, .complete 0, .writeCert (some ⟨3, 0⟩), .notify .create, .receive, .check false]

theorem forgotten_until_told_sample :
    (runD next (runD next (start ⟨0, 0⟩) renewedTwice) leftAlone).acceptor = ⟨1, 0⟩ ∧
      (runD next (runD next (start ⟨0, 0⟩) renewedTwice) leftAlone).loadable = some ⟨3, 0⟩ := by
  have hs : Steps next (fun _ _ => True) (start ⟨0, 0⟩) (runD next (start ⟨0, 0⟩) renewedTwice) :=
    Steps.of_runD renewedTwice (Admits.of_forall (fun _ _ _ => trivial) _) (by decide +kernel)
  have hUntold : ∀ event ∈ leftAlone, ∀ _ : CertReload, Untold event := by
    simp [leftAlone, Untold]
  have h : Steps next (fun _ event => Untold event) (runD next (start ⟨0, 0⟩) renewedTwice)
      (runD next (runD next (start ⟨0, 0⟩) renewedTwice) leftAlone) :=
    Steps.of_runD _ (Admits.of_forall hUntold _) (by decide +kernel)
  obtain ⟨hSame, -⟩ := forgotten_until_told hs (by decide +kernel) h
  exact ⟨hSame.trans (by decide +kernel), by decide +kernel⟩

/-- The certificate is renewed while the server waits for a connection. -/
def renewedOnce : List Event :=
  [.check false, .writeKey (some 1), .writeCert (some ⟨1, 1⟩), .notify .modify, .receive]

def servedTwice : List Event :=
  [.connect, .complete 0, .check true, .connect, .complete 0, .check false, .readCert, .readKey, .reset]

theorem reloaded_after_returns_sample :
    (runD next (start ⟨0, 0⟩) renewedOnce).acceptor = ⟨0, 0⟩ ∧
      (runD next (runD next (start ⟨0, 0⟩) renewedOnce) servedTwice).acceptor = ⟨1, 1⟩ := by
  have hQuiet : ∀ event ∈ servedTwice, ∀ _ : CertReload, Quiet event := by
    simp [servedTwice, Quiet]
  have h : Steps next (fun _ event => Quiet event) (runD next (start ⟨0, 0⟩) renewedOnce)
      (runD next (runD next (start ⟨0, 0⟩) renewedOnce) servedTwice) :=
    Steps.of_runD _ (Admits.of_forall hQuiet _) (by decide +kernel)
  have hAccepting : (runD next (start ⟨0, 0⟩) renewedOnce).phase = .accepting := by decide +kernel
  exact ⟨by decide +kernel, reloaded_after_returns (by decide +kernel) (by simp [hAccepting])
    (fun c hReading => by cases hReading.symm.trans hAccepting) (by decide +kernel) h (by decide +kernel)
    (by decide +kernel)⟩

end Samples

end CertReload

end SdpK8sInjector.Injector
