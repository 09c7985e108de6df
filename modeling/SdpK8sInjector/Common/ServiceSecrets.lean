import SdpK8sInjector.Common.Secrets

/-! # The secret and the config map of one service

They are kept in the namespace of the service, under names that are made from
those of the namespace and the service. An API call concerns one object only.
-/

namespace SdpK8sInjector.Common

open Lib

/-- The objects of one kind, by namespace and name. -/
abbrev Objects (α : Type) := HashMap (String × String) α

namespace Objects

variable {α : Type} (key : String × String)

def getOpt (objects : Objects α) : Except SecretError (Option α × Objects α) := .ok (objects.lookup key, objects)

/-- A create on a name in use is refused. -/
def create (object : α) (objects : Objects α) : Except SecretError (Unit × Objects α) :=
  if key ∈ objects then .error .invalid else .ok ((), AList.insert key object objects)

def delete (objects : Objects α) : Except SecretError (Unit × Objects α) :=
  if key ∈ objects then .ok ((), objects.erase key) else .error .notFound

def put (object : Option α) (objects : Objects α) : Objects α :=
  match object with
  | some object => AList.insert key object objects
  | none => objects.erase key

theorem lookup_put (object : Option α) (objects : Objects α) (key' : String × String) :
    (put key object objects).lookup key' = if key' = key then object else objects.lookup key' := by
  cases object with
  | none =>
    simp only [put, HashMap.lookup_erase_eq_ite, eq_comm]
  | some object =>
    simp only [put, HashMap.lookup_insert_eq_ite, eq_comm]

end Objects

abbrev ObjectApi (α : Type) := Remote (Objects α) SecretError

def Objects.callsFor {α β : Type} (key : String × String)
    (op : Remote (Option α) SecretError → β × Remote (Option α) SecretError)
    (api : ObjectApi α) : β × ObjectApi α :=
  let (result, one) := op ⟨api.store.lookup key, api.calls, api.failed⟩
  (result, ⟨Objects.put key one.store api.store, one.calls, one.failed⟩)

structure ConfigMap where
  data : Option (HashMap String String)
deriving DecidableEq

structure ServiceConfigFields where
  configmapName : String
  logLevel : String

def ServiceConfigFields.new (serviceNs serviceName : String) : ServiceConfigFields where
  configmapName := serviceNs ++ "-" ++ serviceName ++ "-service-config"
  logLevel := "appgate-loglevel"

namespace ServiceUser

variable (outcomes : Nat → CallOutcome) (user : ServiceUser) (serviceNs serviceName : String)

def secretsName : String := serviceNs ++ "-" ++ serviceName ++ "-service-user"

def createOrUpdateSecrets (api : ObjectApi Secret) : Except SecretError Unit × ObjectApi Secret :=
  let (userField, pwField, urlField) := user.secretsFieldNames true
  let secretName := secretsName serviceNs serviceName
  match api.call outcomes .transport (Objects.getOpt (serviceNs, secretName)) with
  | (.error e, api) => (.error e, api)
  | (.ok (some _), api) =>
    Objects.callsFor (serviceNs, secretName) (fun api => user.updateSecretsFields outcomes api secretName true) api
  | (.ok none, api) =>
    let data :=
      [(userField, ByteString.text user.name), (pwField, .text user.password), (urlField, .text user.profileUrl)]
    api.call outcomes .transport
      (Objects.create (serviceNs, secretName) ⟨some (data.foldl (fun data e => AList.insert e.1 e.2 data) ∅)⟩)

def deleteSecrets (api : ObjectApi Secret) : Except SecretError Unit × ObjectApi Secret :=
  let secretName := secretsName serviceNs serviceName
  match api.call outcomes .transport (Objects.getOpt (serviceNs, secretName)) with
  | (.error e, api) => (.error e, api)
  | (.ok (some _), api) => api.call outcomes .transport (Objects.delete (serviceNs, secretName))
  | (.ok none, api) => (.ok (), api)

def deleteConfig (api : ObjectApi ConfigMap) : Except SecretError Unit × ObjectApi ConfigMap :=
  let configMapName := (ServiceConfigFields.new serviceNs serviceName).configmapName
  match api.call outcomes .transport (Objects.getOpt (serviceNs, configMapName)) with
  | (.error e, api) => (.error e, api)
  | (.ok (some _), api) => api.call outcomes .transport (Objects.delete (serviceNs, configMapName))
  | (.ok none, api) => (.ok (), api)

/-- An old config map is deleted first. -/
def createConfig (api : ObjectApi ConfigMap) : Except SecretError Unit × ObjectApi ConfigMap :=
  let fields := ServiceConfigFields.new serviceNs serviceName
  let key := (serviceNs, fields.configmapName)
  let config : ConfigMap := ⟨some (AList.singleton fields.logLevel "INFO")⟩
  match api.call outcomes .transport (Objects.getOpt key) with
  | (.error e, api) => (.error e, api)
  | (.ok (some _), api) =>
    match api.call outcomes .transport (Objects.delete key) with
    | (.error e, api) => (.error e, api)
    | (.ok (), api) => api.call outcomes .transport (Objects.create key config)
  | (.ok none, api) => api.call outcomes .transport (Objects.create key config)

end ServiceUser

/-- One object is as given, and the others are as they were. -/
def Objects.Puts {α : Type} (key : String × String) (object : Option α) (objects objects' : Objects α) : Prop :=
  ∀ key', objects'.lookup key' = if key' = key then object else objects.lookup key'

namespace Objects.Puts

variable {α : Type} {key : String × String} {object object' : Option α} {objects objects' objects'' : Objects α}

theorem refl (key : String × String) (objects : Objects α) : Puts key (objects.lookup key) objects objects := by
  intro key'
  split
  · rename_i hKey
    rw [hKey]
  · rfl

theorem trans (h : Puts key object objects objects') (h' : Puts key object' objects' objects'') :
    Puts key object' objects objects'' := by
  intro key'
  rw [h' key']
  split
  · rfl
  · rename_i hOther
    rw [h key', if_neg hOther]

theorem lookup_self (h : Puts key object objects objects') : objects'.lookup key = object := by
  rw [h key, if_pos rfl]

theorem lookup_of_ne (h : Puts key object objects objects') {key' : String × String} (hOther : key' ≠ key) :
    objects'.lookup key' = objects.lookup key' := by
  rw [h key', if_neg hOther]

/-- What a call leaves of the object is what was there, or what the operation puts there if it gets that far. -/
theorem of_call {β : Type} {outcomes : Nat → CallOutcome} {api : ObjectApi α}
    {op : Objects α → Except SecretError (β × Objects α)} {new : Option α}
    (hOp : ∀ b store, op api.store = .ok (b, store) → Puts key new api.store store) :
    ∃ object, Puts key object api.store (api.call outcomes .transport op).2.store ∧
      (object = api.store.lookup key ∨ object = new) ∧
      ∀ b, (api.call outcomes .transport op).1 = .ok b → object = new := by
  cases hResult : (api.call outcomes .transport op).1 with
  | ok b =>
    obtain ⟨store, hStore, hCall⟩ := Remote.call_ok hResult
    refine ⟨new, ?_, .inr rfl, fun _ _ => rfl⟩
    rw [hCall]
    exact hOp b store hStore
  | error e =>
    rcases (Remote.call_error hResult).2 with hSame | ⟨b, hStore⟩
    · refine ⟨_, ?_, .inl rfl, fun _ h => by cases h⟩
      rw [hSame]
      exact refl key api.store
    · exact ⟨new, hOp b _ hStore, .inr rfl, fun _ h => by cases h⟩

end Objects.Puts

namespace Objects

variable {α : Type} {key : String × String} {api : ObjectApi α}

theorem call_getOpt_store (outcomes : Nat → CallOutcome) (key : String × String) (api : ObjectApi α) :
    (api.call outcomes .transport (getOpt key)).2.store = api.store := by
  rcases Remote.call_store with hSame | ⟨found, hStore⟩
  · exact hSame
  · exact (congrArg Prod.snd (Except.ok.inj hStore)).symm

theorem call_getOpt_ok {outcomes : Nat → CallOutcome} {found : Option α}
    (h : (api.call outcomes .transport (getOpt key)).1 = .ok found) : found = api.store.lookup key := by
  obtain ⟨store, hStore, -⟩ := Remote.call_ok h
  exact (congrArg Prod.fst (Except.ok.inj hStore)).symm

theorem puts_delete {u : Unit} {objects store : Objects α} (h : delete key objects = .ok (u, store)) :
    Puts key none objects store := by
  intro key'
  unfold delete at h
  split at h
  · cases h
    exact HashMap.lookup_erase_eq_ite objects key' key
  · cases h

theorem puts_create {object : α} {u : Unit} {objects store : Objects α}
    (h : create key object objects = .ok (u, store)) :
    Puts key (some object) objects store := by
  intro key'
  unfold create at h
  split at h
  · cases h
  · cases h
    exact HashMap.lookup_insert_eq_ite objects key' key object

/-- An object is deleted if it is found. -/
theorem puts_deleteFound (outcomes : Nat → CallOutcome) {result : Except SecretError Unit × ObjectApi α}
    (hError : ∀ e api', api.call outcomes .transport (getOpt key) = (.error e, api') → result = (.error e, api'))
    (hFound : ∀ old api', api.call outcomes .transport (getOpt key) = (.ok (some old), api') →
      result = api'.call outcomes .transport (delete key))
    (hNone : ∀ api', api.call outcomes .transport (getOpt key) = (.ok none, api') → result = (.ok (), api')) :
    ∃ object, Puts key object api.store result.2.store ∧ (object = api.store.lookup key ∨ object = none) := by
  have hStore := call_getOpt_store outcomes key api
  cases hCall : api.call outcomes .transport (getOpt key) with
  | mk stored api' =>
    rw [hCall] at hStore
    dsimp only at hStore
    rw [← hStore]
    cases stored with
    | error e =>
      rw [hError e api' hCall]
      exact ⟨_, .refl key api'.store, .inl rfl⟩
    | ok found =>
      cases found with
      | none =>
        rw [hNone api' hCall]
        exact ⟨_, .refl key api'.store, .inl rfl⟩
      | some old =>
        rw [hFound old api' hCall]
        obtain ⟨object, hPuts, hObject, -⟩ := Objects.Puts.of_call fun (u : Unit) store => puts_delete
        exact ⟨object, hPuts, hObject⟩

end Objects

namespace ServiceUser

variable (outcomes : Nat → CallOutcome) (user : ServiceUser) (serviceNs serviceName : String)

theorem isSecretsNamespaced_secretsName : isSecretsNamespaced (secretsName serviceNs serviceName) = true := by
  have hLast : ∀ s : String, (s ++ "-service-user").toList.getLast? = some 'r' := by
    intro s
    rw [String.toList_append, List.getLast?_append]
    rfl
  have hOther : secretsName serviceNs serviceName ≠ IDENTITY_MANAGER_SECRET_NAME := by
    intro hEq
    have hChar := hLast (serviceNs ++ "-" ++ serviceName)
    rw [show serviceNs ++ "-" ++ serviceName ++ "-service-user" = _ from hEq] at hChar
    revert hChar
    decide
  simpa [isSecretsNamespaced] using hOther

def entries : List (String × ByteString) :=
  [("service-username", .text user.name), ("service-password", .text user.password),
    ("service-url", .text user.profileUrl)]

/-- The secret with the entries of the user over what it has. -/
def fill (data : HashMap String ByteString) : Secret :=
  ⟨some (user.entries.foldl (fun data e => AList.insert e.1 e.2 data) data)⟩

theorem lookup_fill (data : HashMap String ByteString) (field : String) :
    (user.fill data).fields.lookup field = (user.entries.lookup field).or (data.lookup field) := by
  simp only [fill, Secret.fields, entries, List.foldl_cons, List.foldl_nil, Option.getD_some,
    HashMap.lookup_insert_eq_ite, List.lookup_cons, List.lookup_nil]
  by_cases hName : field = "service-username"
  · subst hName
    simp
  · by_cases hPwd : field = "service-password"
    · subst hPwd
      simp
    · by_cases hUrl : field = "service-url"
      · subst hUrl
        simp
      · simp [hName, hPwd, hUrl, beq_eq_false_iff_ne.mpr]

/-- The secret names the user. -/
def Names (secret : Secret) : Prop := secret.fields.lookup "service-username" = some (.text user.name)

theorem names_fill (data : HashMap String ByteString) : user.Names (user.fill data) := user.lookup_fill data _

/-- An unconditional update leaves the secret alone, or fills it. -/
theorem updateSecretsFields_fill (api : SecretApi) :
    ((user.updateSecretsFields outcomes api (secretsName serviceNs serviceName) true).2.store = api.store ∨
      ∃ secret, api.store = some secret ∧
        (user.updateSecretsFields outcomes api (secretsName serviceNs serviceName) true).2.store =
          some (user.fill secret.fields)) ∧
    ((user.updateSecretsFields outcomes api (secretsName serviceNs serviceName) true).1 = .ok () →
      ∃ secret, api.store = some secret ∧
        (user.updateSecretsFields outcomes api (secretsName serviceNs serviceName) true).2.store =
          some (user.fill secret.fields)) := by
  have hRead := user.getSecretsFields_store outcomes api (secretsName serviceNs serviceName)
  unfold updateSecretsFields hasSecretsFields
  rw [isSecretsNamespaced_secretsName]
  generalize user.getSecretsFields outcomes api (secretsName serviceNs serviceName) = found at hRead ⊢
  obtain ⟨⟨userName, pwd, url⟩, api'⟩ := found
  simp only [if_true, Bool.or_true, secretsFieldNames, List.cons_append, List.nil_append, List.length_cons,
    List.length_nil, Nat.lt_add_left_iff_pos, Nat.zero_lt_succ] at hRead ⊢
  have hMerged : ∀ {u : Unit} {store : Option Secret}, Secret.merge user.entries api'.store = .ok (u, store) →
      ∃ secret, api.store = some secret ∧ store = some (user.fill secret.fields) := by
    intro u store hMerge
    cases hBefore : api'.store with
    | none =>
      rw [hBefore] at hMerge
      cases hMerge
    | some secret =>
      rw [hBefore] at hMerge
      exact ⟨secret, hRead.symm.trans hBefore, (congrArg Prod.snd (Except.ok.inj hMerge)).symm⟩
  change ((api'.call outcomes SecretError.transport (Secret.merge user.entries)).2.store = api.store ∨ _) ∧
    ((api'.call outcomes SecretError.transport (Secret.merge user.entries)).1 = .ok () → _)
  constructor
  · rcases (Remote.call_store : (api'.call outcomes SecretError.transport (Secret.merge user.entries)).2.store =
        api'.store ∨ _) with hSame | ⟨u, hStore⟩
    · exact .inl (hSame.trans hRead)
    · exact .inr (hMerged hStore)
  · intro hOk
    obtain ⟨store, hStore, hCall⟩ := Remote.call_ok hOk
    obtain ⟨secret, hBefore, rfl⟩ := hMerged hStore
    exact ⟨secret, hBefore, congrArg Remote.store hCall⟩

/-- The secret of the service is as it was, or filled, and it is filled if the call returns without an error. -/
theorem createOrUpdateSecrets_puts (api : ObjectApi Secret) :
    ∃ object, Objects.Puts (serviceNs, secretsName serviceNs serviceName) object api.store
        (user.createOrUpdateSecrets outcomes serviceNs serviceName api).2.store ∧
      (object = api.store.lookup (serviceNs, secretsName serviceNs serviceName) ∨
        object = some (user.fill (Secret.stored (api.store.lookup (serviceNs, secretsName serviceNs serviceName))))) ∧
      ((user.createOrUpdateSecrets outcomes serviceNs serviceName api).1 = .ok () →
        object = some (user.fill (Secret.stored
          (api.store.lookup (serviceNs, secretsName serviceNs serviceName))))) := by
  let key := (serviceNs, secretsName serviceNs serviceName)
  have hStore := Objects.call_getOpt_store outcomes key api
  have hFound : ∀ found, (api.call outcomes .transport (Objects.getOpt key)).1 = .ok found →
      found = api.store.lookup key := fun found => Objects.call_getOpt_ok
  unfold createOrUpdateSecrets
  dsimp only
  cases hCall : api.call outcomes .transport (Objects.getOpt (serviceNs, secretsName serviceNs serviceName)) with
  | mk result api' =>
    rw [hCall] at hStore hFound
    dsimp only at hStore
    cases result with
    | error e =>
      refine ⟨_, ?_, .inl rfl, fun h => by cases h⟩
      rw [hStore]
      exact .refl key api.store
    | ok found =>
      have hBefore := hFound found rfl
      cases found with
      | none =>
        have hNew : some (user.fill (Secret.stored (api.store.lookup key))) = some (user.fill ∅) := by
          rw [← hBefore]
          rfl
        rw [hNew, ← hStore]
        obtain ⟨object, hPuts, hObject, hOk⟩ := Objects.Puts.of_call fun (u : Unit) store => Objects.puts_create
        exact ⟨object, hPuts, hObject, hOk ()⟩
      | some secret =>
        have hNew : Secret.stored (api.store.lookup key) = secret.fields := by
          rw [← hBefore]
          rfl
        have hSecret : api'.store.lookup key = some secret := by
          rw [hStore]
          exact hBefore.symm
        rw [hNew, ← hStore]
        obtain ⟨hCases, hOk⟩ := user.updateSecretsFields_fill outcomes serviceNs serviceName
          ⟨api'.store.lookup key, api'.calls, api'.failed⟩
        refine ⟨_, fun key' => Objects.lookup_put key _ api'.store key', ?_, fun h => ?_⟩
        · refine hCases.imp_right fun ⟨secret', hSame, hFilled⟩ => ?_
          cases hSecret.symm.trans hSame
          exact hFilled
        · obtain ⟨secret', hSame, hFilled⟩ := hOk h
          cases hSecret.symm.trans hSame
          exact hFilled

theorem deleteSecrets_puts (api : ObjectApi Secret) :
    ∃ object, Objects.Puts (serviceNs, secretsName serviceNs serviceName) object api.store
        (deleteSecrets outcomes serviceNs serviceName api).2.store ∧
      (object = api.store.lookup (serviceNs, secretsName serviceNs serviceName) ∨ object = none) := by
  refine Objects.puts_deleteFound outcomes (fun e api' hCall => ?_) (fun old api' hCall => ?_) fun api' hCall => ?_ <;>
    simp only [deleteSecrets, hCall]

theorem deleteConfig_puts (api : ObjectApi ConfigMap) :
    ∃ object, Objects.Puts (serviceNs, (ServiceConfigFields.new serviceNs serviceName).configmapName) object api.store
        (deleteConfig outcomes serviceNs serviceName api).2.store ∧
      (object = api.store.lookup (serviceNs, (ServiceConfigFields.new serviceNs serviceName).configmapName) ∨
        object = none) := by
  refine Objects.puts_deleteFound outcomes (fun e api' hCall => ?_) (fun old api' hCall => ?_) fun api' hCall => ?_ <;>
    simp only [deleteConfig, hCall]

/-- The config map that `create_config` creates. -/
def newConfig : ConfigMap := ⟨some (AList.singleton "appgate-loglevel" "INFO")⟩

/-- A failure can leave the service without the config map that it had. -/
theorem createConfig_puts (api : ObjectApi ConfigMap) :
    ∃ object, Objects.Puts (serviceNs, (ServiceConfigFields.new serviceNs serviceName).configmapName) object api.store
        (createConfig outcomes serviceNs serviceName api).2.store ∧
      (object = api.store.lookup (serviceNs, (ServiceConfigFields.new serviceNs serviceName).configmapName) ∨
        object = none ∨ object = some newConfig) ∧
      ((createConfig outcomes serviceNs serviceName api).1 = .ok () → object = some newConfig) := by
  let key := (serviceNs, (ServiceConfigFields.new serviceNs serviceName).configmapName)
  have hStore := Objects.call_getOpt_store outcomes key api
  have hCreated : ∀ api : ObjectApi ConfigMap, ∃ object, Objects.Puts key object api.store
      (api.call outcomes .transport (Objects.create key newConfig)).2.store ∧
      (object = api.store.lookup key ∨ object = some newConfig) ∧
      ∀ u, (api.call outcomes .transport (Objects.create key newConfig)).1 = .ok u → object = some newConfig :=
    fun api => Objects.Puts.of_call fun (u : Unit) store => Objects.puts_create
  unfold createConfig
  dsimp only
  cases hCall : api.call outcomes .transport
      (Objects.getOpt (serviceNs, (ServiceConfigFields.new serviceNs serviceName).configmapName)) with
  | mk result api' =>
    rw [hCall] at hStore
    dsimp only at hStore
    rw [← hStore]
    cases result with
    | error e => exact ⟨_, .refl key api'.store, .inl rfl, fun h => by cases h⟩
    | ok found =>
      cases found with
      | none =>
        obtain ⟨object, hPuts, hObject, hOk⟩ := hCreated api'
        exact ⟨object, hPuts, hObject.imp_right .inr, hOk ()⟩
      | some old =>
        obtain ⟨deleted, hDelete, hDeleted⟩ : ∃ deleted, Objects.Puts key deleted api'.store
            (api'.call outcomes .transport (Objects.delete key)).2.store ∧
            (deleted = api'.store.lookup key ∨ deleted = none) := by
          obtain ⟨deleted, hPuts, hDeleted, -⟩ := Objects.Puts.of_call fun (u : Unit) store => Objects.puts_delete
          exact ⟨deleted, hPuts, hDeleted⟩
        dsimp only
        cases hDeleteCall : api'.call outcomes .transport
            (Objects.delete (serviceNs, (ServiceConfigFields.new serviceNs serviceName).configmapName)) with
        | mk result api'' =>
          rw [show api'.call outcomes .transport (Objects.delete key) = _ from hDeleteCall] at hDelete
          cases result with
          | error e => exact ⟨deleted, hDelete, hDeleted.imp_right .inl, fun h => by cases h⟩
          | ok u =>
            obtain ⟨object, hPuts, hObject, hOk⟩ := hCreated api''
            refine ⟨object, hDelete.trans hPuts, ?_, hOk ()⟩
            rcases hObject with hSame | hNew
            · rw [hSame, hDelete.lookup_self]
              exact hDeleted.imp_right .inl
            · exact .inr (.inr hNew)

/-- At most the given object is written, and there what is said to be written. -/
def WritesOnly {α : Type} (key : String × String) (written : α → Prop) (objects objects' : Objects α) : Prop :=
  ∀ key' object, objects'.lookup key' = some object → objects.lookup key' = some object ∨
    key' = key ∧ written object

theorem writesOnly_of_puts {α : Type} {key : String × String} {written : α → Prop} {object : Option α}
    {objects objects' : Objects α} (h : Objects.Puts key object objects objects')
    (hObject : ∀ a, object = some a → objects.lookup key = some a ∨ written a) :
    WritesOnly key written objects objects' := by
  intro key' a hLookup
  rw [h key'] at hLookup
  split at hLookup
  · rename_i hKey
    rw [hKey]
    exact (hObject a hLookup).imp_right fun hWritten => ⟨rfl, hWritten⟩
  · exact .inl hLookup

/-- What may have been deleted was not written. -/
theorem writesOnly_of_deleted {α : Type} {name key : String × String} {written : α → Prop} {object : Option α}
    {objects objects' : Objects α} (h : Objects.Puts name object objects objects')
    (hObject : object = objects.lookup name ∨ object = none) : WritesOnly key written objects objects' := by
  intro key' a hLookup
  rw [h key'] at hLookup
  split at hLookup
  · rename_i hKey
    rw [hKey]
    rcases hObject with hSame | hNone
    · exact .inl (hSame.symm.trans hLookup)
    · cases hNone.symm.trans hLookup
  · exact .inl hLookup

theorem WritesOnly.refl {α : Type} {key : String × String} {written : α → Prop} (objects : Objects α) :
    WritesOnly key written objects objects := fun _ _ hLookup => .inl hLookup

theorem createOrUpdateSecrets_writes (api : ObjectApi Secret) :
    WritesOnly (serviceNs, secretsName serviceNs serviceName) user.Names api.store
      (user.createOrUpdateSecrets outcomes serviceNs serviceName api).2.store := by
  obtain ⟨object, hPuts, hObject, -⟩ := user.createOrUpdateSecrets_puts outcomes serviceNs serviceName api
  refine writesOnly_of_puts hPuts fun secret hSecret => ?_
  rcases hObject with hSame | hFilled
  · exact .inl (hSame.symm.trans hSecret)
  · cases hFilled.symm.trans hSecret
    exact .inr (user.names_fill _)

theorem createConfig_writes (api : ObjectApi ConfigMap) :
    WritesOnly (serviceNs, (ServiceConfigFields.new serviceNs serviceName).configmapName) (fun _ => True) api.store
      (createConfig outcomes serviceNs serviceName api).2.store := by
  obtain ⟨object, hPuts, -⟩ := createConfig_puts outcomes serviceNs serviceName api
  exact writesOnly_of_puts hPuts fun _ _ => .inr trivial

theorem deleteSecrets_writes (api : ObjectApi Secret) {key : String × String} {written : Secret → Prop} :
    WritesOnly key written api.store (deleteSecrets outcomes serviceNs serviceName api).2.store := by
  obtain ⟨object, hPuts, hObject⟩ := deleteSecrets_puts outcomes serviceNs serviceName api
  exact writesOnly_of_deleted hPuts hObject

theorem deleteConfig_writes (api : ObjectApi ConfigMap) {key : String × String} {written : ConfigMap → Prop} :
    WritesOnly key written api.store (deleteConfig outcomes serviceNs serviceName api).2.store := by
  obtain ⟨object, hPuts, hObject⟩ := deleteConfig_puts outcomes serviceNs serviceName api
  exact writesOnly_of_deleted hPuts hObject

end ServiceUser

end SdpK8sInjector.Common
