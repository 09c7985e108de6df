import SdpK8sInjector.Common.Names
import SdpK8sInjector.Common.System

/-! # Devices that the controller gives up

Every call removes devices by their distinguished names, so that with a device that was
looked for goes every other one of the same distinguished name.
-/

namespace SdpK8sInjector.Common

open Lib

namespace System

/-- No device comes, and each one that goes has the distinguished name of a selected one. -/
structure Unregisters (selected : OnBoardedUser → Prop) (s s' : System) : Prop where
  known : ∀ d ∈ s'.store.devices, d ∈ s.store.devices
  spared : ∀ d ∈ s.store.devices, d ∈ s'.store.devices ∨
    ∃ d' ∈ s.store.devices, selected d' ∧ d'.distinguishedName = d.distinguishedName

namespace Unregisters

variable {selected selected' : OnBoardedUser → Prop} {s s' s'' : System}

theorem of_devices (h : s'.store.devices = s.store.devices) : Unregisters selected s s' :=
  ⟨fun _ hd => h ▸ hd, fun _ hd => .inl (h ▸ hd)⟩

theorem trans (h : Unregisters selected s s') (h' : Unregisters selected s' s'') : Unregisters selected s s'' where
  known d hd := h.known d (h'.known d hd)
  spared d hd := by
    rcases h.spared d hd with hStill | hGone
    · exact (h'.spared d hStill).imp_right fun ⟨d', hd', hSelected⟩ => ⟨d', h.known d' hd', hSelected⟩
    · exact .inr hGone

theorem mono (h : Unregisters selected s s') (hSelected : ∀ d, selected d → selected' d) :
    Unregisters selected' s s' where
  known := h.known
  spared d hd := (h.spared d hd).imp_right fun ⟨d', hd', hOld, hSame⟩ => ⟨d', hd', hSelected d' hOld, hSame⟩

/-- A call that does not touch the devices. -/
theorem call {α : Type} {outcomes : Nat → CallOutcome} {op : Controller → Except SDPClientError (α × Controller)}
    (hOp : ∀ a store, op s.store = .ok (a, store) → store.devices = s.store.devices) :
    Unregisters selected s (s.call outcomes .request op).2 :=
  of_devices (Remote.call_invariant (fun store : Controller => store.devices = s.store.devices) rfl hOp)

end Unregisters

variable (outcomes : Nat → CallOutcome) {matchesUsername : String → String → Bool}
  {selected : OnBoardedUser → Prop}

theorem getRegisteredDeviceIds_unregisters (system : System) (username : String) :
    Unregisters selected system (system.getRegisteredDeviceIds outcomes matchesUsername username).2 := by
  refine .call fun a store h => ?_
  cases h
  rfl

theorem getUser_unregisters (system : System) (id : String) :
    Unregisters selected system (system.getUser outcomes id).2 := by
  refine .call fun a store h => ?_
  unfold Controller.getUser at h
  split at h <;> cases h
  rfl

theorem createUser_unregisters (system : System) (u : SDPUser) :
    Unregisters selected system (system.createUser outcomes u).2 := by
  have hCall : Unregisters selected system (system.call outcomes .request (Controller.createUser u)).2 := by
    refine .call fun a store h => ?_
    unfold Controller.createUser at h
    split at h <;> cases h
    rfl
  unfold createUser
  split
  · rename_i h
    rwa [h] at hCall
  · rename_i h
    rwa [h] at hCall

theorem modifyUser_unregisters (system : System) (u : SDPUser) :
    Unregisters selected system (system.modifyUser outcomes u).2 := by
  refine .call fun a store h => ?_
  unfold Controller.modifyUser at h
  split at h <;> cases h
  rfl

theorem deleteUser_unregisters (system : System) (id : String) :
    Unregisters selected system (system.deleteUser outcomes id).2 := by
  refine .call fun a store h => ?_
  unfold Controller.deleteUser at h
  split at h <;> cases h
  rfl

theorem unregisterDeviceId_unregisters (system : System) (distinguishedName : String) (dryRun : Bool) :
    Unregisters (fun d => d.distinguishedName = distinguishedName) system
      (system.unregisterDeviceId outcomes distinguishedName dryRun).2 := by
  unfold unregisterDeviceId
  split
  · have hStore : (system.call outcomes .request (Controller.deleteDevice distinguishedName)).2.store.devices =
          system.store.devices ∨
        (system.call outcomes .request (Controller.deleteDevice distinguishedName)).2.store.devices =
          system.store.devices.filter fun d => d.distinguishedName != distinguishedName := by
      rcases Remote.call_store with hSame | ⟨a, hStore⟩
      · exact .inl (congrArg Controller.devices hSame)
      · unfold Controller.deleteDevice at hStore
        split at hStore
        · exact .inr (congrArg Controller.devices (Prod.mk.inj (Except.ok.inj hStore)).2.symm)
        · cases hStore
    rcases hStore with hSame | hFiltered
    · exact .of_devices hSame
    · constructor
      · intro d hd
        rw [hFiltered] at hd
        exact List.mem_of_mem_filter hd
      · intro d hd
        rw [hFiltered]
        by_cases hName : d.distinguishedName = distinguishedName
        · exact .inr ⟨d, hd, hName, rfl⟩
        · exact .inl (List.mem_filter.mpr ⟨hd, by simpa using hName⟩)
  · exact .of_devices rfl

theorem unregisterAll_unregisters (dryRun : Bool) (devices : List OnBoardedUser) (system : System) :
    Unregisters (fun d => ∃ x ∈ devices, d.distinguishedName = x.distinguishedName) system
      (unregisterAll outcomes dryRun devices system).2 := by
  induction devices generalizing system with
  | nil => exact .of_devices rfl
  | cons device rest ih =>
    have hOne := (unregisterDeviceId_unregisters outcomes system device.distinguishedName dryRun).mono
      fun d hd => (⟨device, List.mem_cons_self, hd⟩ :
        ∃ x ∈ device :: rest, d.distinguishedName = x.distinguishedName)
    unfold unregisterAll
    split
    · rename_i system' hCall
      rw [hCall] at hOne
      exact hOne.trans ((ih system').mono fun d ⟨x, hx, hSame⟩ => ⟨x, List.mem_cons_of_mem _ hx, hSame⟩)
    · rename_i e system' hCall
      rw [hCall] at hOne
      exact hOne

/-- A release by name takes devices that the query finds and the filter lets through. -/
theorem unregisterDeviceIdsForUsername_unregisters (system : System) (username : String)
    (filterOut filterIn : Option (HashSet String)) (since : Option UInt64) (dryRun : Bool) :
    Unregisters (fun d => matchesUsername username d.username = true ∧
      filterOnBoardedUser filterOut filterIn since d = true)
      system
      (system.unregisterDeviceIdsForUsername outcomes matchesUsername username filterOut filterIn since dryRun).2 := by
  have hQuery : Unregisters (fun d => matchesUsername username d.username = true ∧
      filterOnBoardedUser filterOut filterIn since d = true) system
      (system.getRegisteredDeviceIds outcomes matchesUsername username).2 :=
    getRegisteredDeviceIds_unregisters outcomes system username
  unfold unregisterDeviceIdsForUsername
  split
  · rename_i devices system' hCall
    rw [hCall] at hQuery
    have hAll := unregisterAll_unregisters outcomes dryRun
      (devices.filter (filterOnBoardedUser filterOut filterIn since)) system'
    refine ⟨fun d hd => hQuery.known d (hAll.known d hd), fun d hd => ?_⟩
    rcases hQuery.spared d hd with hStill | hGone
    · refine (hAll.spared d hStill).imp_right fun ⟨d', hd', ⟨x, hx, hSame⟩, hName⟩ => ?_
      obtain ⟨store, hOp, -⟩ := Remote.call_ok (congrArg Prod.fst hCall)
      cases hOp
      obtain ⟨hListed, hFilter⟩ := List.mem_filter.mp hx
      obtain ⟨hMem, hMatches⟩ := List.mem_filter.mp hListed
      exact ⟨x, hMem, ⟨hMatches, hFilter⟩, hSame.symm.trans hName⟩
    · exact .inr hGone
  · rename_i e system' hCall
    rw [hCall] at hQuery
    exact hQuery

/-- What was logged of failures is still logged. -/
theorem failed_prefix_unregisterAll (dryRun : Bool) (devices : List OnBoardedUser) (system : System) :
    system.failed <+: (unregisterAll outcomes dryRun devices system).2.failed := by
  induction devices generalizing system with
  | nil => exact List.prefix_refl _
  | cons device rest ih =>
    have hOne : system.failed <+: (system.unregisterDeviceId outcomes device.distinguishedName dryRun).2.failed := by
      unfold unregisterDeviceId
      split
      · exact Remote.failed_prefix_call
      · exact List.prefix_refl _
    unfold unregisterAll
    split
    · rename_i system' hCall
      rw [hCall] at hOne
      exact hOne.trans (ih system')
    · rename_i e system' hCall
      rw [hCall] at hOne
      exact hOne

/-- Without a failing call no device is left that has the distinguished name of a given one. -/
theorem unregisterAll_clean (devices : List OnBoardedUser) (system : System)
    (hCalls : (unregisterAll outcomes false devices system).2.failed = system.failed) :
    ∀ d ∈ (unregisterAll outcomes false devices system).2.store.devices, ∀ x ∈ devices,
      d.distinguishedName ≠ x.distinguishedName := by
  induction devices generalizing system with
  | nil => exact fun _ _ x hx => absurd hx List.not_mem_nil
  | cons device rest ih =>
    unfold unregisterAll unregisterDeviceId at hCalls ⊢
    simp only [Bool.not_false, if_true] at hCalls ⊢
    cases hCall : system.call outcomes .request (Controller.deleteDevice device.distinguishedName) with
    | mk result system' =>
      rw [hCall] at hCalls
      cases result with
      | error e =>
        have hFailed := (Remote.call_error (congrArg Prod.fst hCall)).1
        rw [hCall] at hFailed
        rw [show system'.failed = system.failed from hCalls] at hFailed
        simp at hFailed
      | ok u =>
        obtain ⟨store, hOp, hAfter⟩ := Remote.call_ok (congrArg Prod.fst hCall)
        rw [hCall] at hAfter
        obtain rfl : system' = { system with store := store, calls := system.calls + 1 } := hAfter
        have hRest := ih _ hCalls
        intro d hd x hx
        rcases List.mem_cons.mp hx with rfl | hx
        · have hBefore := (unregisterAll_unregisters outcomes false rest _).known d hd
          unfold Controller.deleteDevice at hOp
          split at hOp <;> cases hOp
          simpa using (List.mem_filter.mp hBefore).2
        · exact hRest d hd x hx

theorem failed_prefix_unregisterDeviceIdsForUsername (system : System) (username : String)
    (filterOut filterIn : Option (HashSet String)) (since : Option UInt64) (dryRun : Bool) :
    system.failed <+: (system.unregisterDeviceIdsForUsername outcomes matchesUsername username filterOut filterIn since
      dryRun).2.failed := by
  have hQuery : system.failed <+: (system.getRegisteredDeviceIds outcomes matchesUsername username).2.failed :=
    Remote.failed_prefix_call
  unfold unregisterDeviceIdsForUsername
  split
  · rename_i devices system' hCall
    rw [hCall] at hQuery
    exact hQuery.trans (failed_prefix_unregisterAll outcomes dryRun _ system')
  · rename_i e system' hCall
    rw [hCall] at hQuery
    exact hQuery

/-- Without a failing call no device is left that the query finds and the filter lets through. -/
theorem unregisterDeviceIdsForUsername_clean (system : System) (username : String)
    (filterOut filterIn : Option (HashSet String)) (since : Option UInt64)
    (hCalls : (system.unregisterDeviceIdsForUsername outcomes matchesUsername username filterOut filterIn since
      false).2.failed = system.failed) :
    ∀ d ∈ (system.unregisterDeviceIdsForUsername outcomes matchesUsername username filterOut filterIn since
      false).2.store.devices, ¬(matchesUsername username d.username = true ∧
        filterOnBoardedUser filterOut filterIn since d = true) := by
  have hReleased : Unregisters (fun d => matchesUsername username d.username = true ∧
      filterOnBoardedUser filterOut filterIn since d = true) system
      (system.unregisterDeviceIdsForUsername outcomes matchesUsername username filterOut filterIn since false).2 :=
    unregisterDeviceIdsForUsername_unregisters outcomes system username filterOut filterIn since false
  have hKnown := hReleased.known
  unfold unregisterDeviceIdsForUsername at hCalls hKnown ⊢
  cases hCall : system.getRegisteredDeviceIds outcomes matchesUsername username with
  | mk result system' =>
    rw [hCall] at hCalls hKnown
    cases result with
    | error e =>
      have hFailed := (Remote.call_error (congrArg Prod.fst hCall)).1
      rw [show (system.call outcomes .request (Controller.getRegisteredDeviceIds matchesUsername username)).2 = system'
        from congrArg Prod.snd hCall, show system'.failed = system.failed from hCalls] at hFailed
      simp at hFailed
    | ok devices =>
      obtain ⟨store, hOp, hAfter⟩ := Remote.call_ok (congrArg Prod.fst hCall)
      obtain rfl : system' = { system with store := store, calls := system.calls + 1 } :=
        (congrArg Prod.snd hCall).symm.trans hAfter
      cases hOp
      rintro d hd ⟨hMatches, hFilter⟩
      refine unregisterAll_clean outcomes _ _ hCalls d hd d ?_ rfl
      exact List.mem_filter.mpr ⟨List.mem_filter.mpr ⟨hKnown d hd, hMatches⟩, hFilter⟩

end System

section DeviceNames

/-- The distinguished name of a device with this id, whoever has registered it. -/
def OnBoardedUser.HasDeviceId (device : OnBoardedUser) (d : Uuid) : Prop :=
  startsWith device.distinguishedName ("CN=" ++ String.ofList (d.toString.toList.filter (· != '-')) ++ ",CN=") = true

instance (device : OnBoardedUser) (d : Uuid) : Decidable (device.HasDeviceId d) :=
  inferInstanceAs (Decidable (_ = true))

/-- Texts with their hyphens in the same places are the same if they are without them. -/
theorem eq_of_filter_hyphens {as bs : List Char} (hLength : as.length = bs.length)
    (hPlaces : ∀ i : Nat, as[i]? = some '-' ↔ bs[i]? = some '-')
    (hFilter : as.filter (· != '-') = bs.filter (· != '-')) : as = bs := by
  induction as generalizing bs with
  | nil => exact (List.length_eq_zero_iff.mp hLength.symm).symm
  | cons a as ih =>
    obtain ⟨b, bs, rfl⟩ := List.exists_cons_of_length_eq_add_one hLength.symm
    have hRest : ∀ i : Nat, as[i]? = some '-' ↔ bs[i]? = some '-' := fun i => by simpa using hPlaces (i + 1)
    have hHead : a = '-' ↔ b = '-' := by simpa using hPlaces 0
    have hLength' : as.length = bs.length := by simpa using hLength
    by_cases ha : a = '-'
    · obtain rfl := ha
      obtain rfl := hHead.mp rfl
      rw [ih hLength' hRest (by simpa using hFilter)]
    · have hb : b ≠ '-' := fun hb => ha (hHead.mpr hb)
      simp only [List.filter_cons, bne_iff_ne, ne_eq, ha, hb, not_false_eq_true, if_true] at hFilter
      obtain ⟨rfl, hTail⟩ := List.cons.inj hFilter
      rw [ih hLength' hRest hTail]

/-- A canonical text has hyphens in four places and no comma anywhere. -/
theorem Uuid.chars (d : Uuid) : d.toString.toList.length = 36 ∧
    ∀ i c, d.toString.toList[i]? = some c → (c = '-' ↔ i ∈ [8, 13, 18, 23]) ∧ c ≠ ',' := by
  have hCanonical := d.canonical
  simp only [isCanonicalUuid, Bool.and_eq_true, beq_iff_eq, List.all_eq_true] at hCanonical
  obtain ⟨hLength, hAll⟩ := hCanonical
  refine ⟨hLength, fun i c hc => ?_⟩
  have hChar := hAll (c, i) (List.mem_zipIdx_iff_getElem?.mpr hc)
  dsimp only at hChar
  split at hChar
  · rename_i hPlace
    obtain rfl : c = '-' := by simpa using hChar
    exact ⟨iff_of_true rfl hPlace, by decide⟩
  · rename_i hPlace
    constructor
    · refine iff_of_false (fun hHyphen => ?_) hPlace
      subst hHyphen
      simp at hChar
    · intro hComma
      subst hComma
      simp at hChar

theorem Uuid.eq_of_simple {d d' : Uuid}
    (h : d.toString.toList.filter (· != '-') = d'.toString.toList.filter (· != '-')) : d = d' := by
  obtain ⟨hLength, hChars⟩ := d.chars
  obtain ⟨hLength', hChars'⟩ := d'.chars
  refine Uuid.toString_injective
    (String.toList_inj.mp (eq_of_filter_hyphens (hLength.trans hLength'.symm) (fun i => ?_) h))
  have hPlace : ∀ {e : Uuid}, e.toString.toList.length = 36 →
      (∀ i c, e.toString.toList[i]? = some c → (c = '-' ↔ i ∈ [8, 13, 18, 23]) ∧ c ≠ ',') →
      (e.toString.toList[i]? = some '-' ↔ i ∈ [8, 13, 18, 23]) := by
    intro e hLength hChars
    refine ⟨fun hSome => (hChars i '-' hSome).1.mp rfl, fun hi => ?_⟩
    have hLt : i < e.toString.toList.length := by
      rw [hLength]
      simp only [List.mem_cons, List.not_mem_nil, or_false] at hi
      omega
    rw [List.getElem?_eq_getElem hLt, (hChars i _ (List.getElem?_eq_getElem hLt)).1.mpr hi]
  rw [hPlace hLength hChars, hPlace hLength' hChars']

theorem Uuid.comma_notMem (d : Uuid) : ',' ∉ d.toString.toList.filter (· != '-') := by
  intro hMem
  obtain ⟨i, hi⟩ := List.mem_iff_getElem?.mp (List.mem_of_mem_filter hMem)
  exact (d.chars.2 i ',' hi).2 rfl

/-- The device that is unregistered for a user has the id that was asked for, and no other. -/
theorem OnBoardedUser.eq_of_hasDeviceId {device : OnBoardedUser} {d d' : Uuid} {name : String}
    (hName : device.distinguishedName =
      "CN=" ++ String.ofList (d.toString.toList.filter (· != '-')) ++ ",CN=" ++ name ++ ",OU=service")
    (h : device.HasDeviceId d') : d' = d := by
  unfold HasDeviceId at h
  rw [startsWith_iff, hName] at h
  obtain ⟨rest, hRest⟩ := h
  simp only [String.toList_append, String.toList_ofList, List.append_assoc] at hRest
  have hComma : ∀ cs : List Char, ",CN=".toList ++ cs = ',' :: ("CN=".toList ++ cs) := fun _ => rfl
  have hFirst : ∀ (e : Uuid) (cs : List Char),
      (e.toString.toList.filter (· != '-') ++ (",CN=".toList ++ cs)).takeWhile (· != ',') =
        e.toString.toList.filter (· != '-') := by
    intro e cs
    rw [hComma, List.takeWhile_append_of_pos, List.takeWhile_cons_of_neg (by decide), List.append_nil]
    intro c hc
    exact bne_iff_ne.mpr fun hSame => e.comma_notMem (hSame ▸ hc)
  have hAfter := congrArg (List.takeWhile (· != ',')) (List.append_cancel_left hRest)
  rw [hFirst, hFirst] at hAfter
  exact Uuid.eq_of_simple hAfter

end DeviceNames

end SdpK8sInjector.Common
