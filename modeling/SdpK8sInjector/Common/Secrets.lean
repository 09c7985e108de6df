import SdpK8sInjector.Common.Service
import SdpK8sInjector.Lib.Remote

/-! # The secret that holds the passwords of the service users -/

namespace SdpK8sInjector.Common

open Lib

/-- The bytes of an entry: the UTF-8 encoding of a text, or of none. -/
inductive ByteString where
  | text (s : String)
  | other (bytes : List UInt8)
deriving DecidableEq

def bytesToString : ByteString → Option String
  | .text s => some s
  | .other _ => none

structure Secret where
  data : Option (HashMap String ByteString)
deriving DecidableEq

inductive SecretError where
  | transport
  | notFound
  | invalid
deriving DecidableEq, Repr

namespace Secret

def fields (s : Secret) : HashMap String ByteString := s.data.getD ∅

def stored (s : Option Secret) : HashMap String ByteString := (s.map fields).getD ∅

def get (s : Option Secret) : Except SecretError (Secret × Option Secret) :=
  match s with
  | some secret => .ok (secret, s)
  | none => .error .notFound

/-- A JSON patch that removes the given entries; it is refused as a whole if one is missing. -/
def remove (removed : List String) (s : Option Secret) : Except SecretError (Unit × Option Secret) :=
  match s with
  | some secret =>
    if ∀ field ∈ removed, field ∈ secret.fields then
      .ok ((), some ⟨some (HashMap.eraseAll secret.fields removed)⟩)
    else .error .invalid
  | none => .error .notFound

/-- A merge patch that writes the given entries. -/
def merge (entries : List (String × ByteString)) (s : Option Secret) :
    Except SecretError (Unit × Option Secret) :=
  match s with
  | some secret => .ok ((), some ⟨some (entries.foldl (fun data e => AList.insert e.1 e.2 data) secret.fields)⟩)
  | none => .error .notFound

theorem lookup_stored_remove {s s' : Option Secret} {removed : List String} {u : Unit}
    (h : remove removed s = .ok (u, s')) {field : String} (hField : field ∉ removed) :
    (stored s').lookup field = (stored s).lookup field := by
  cases s with
  | none => cases h
  | some secret =>
    simp only [remove] at h
    split at h
    · cases h
      simp [stored, fields, HashMap.lookup_eraseAll, hField]
    · cases h

theorem mem_foldl_insert (entries : List (String × ByteString)) (data : HashMap String ByteString) {field : String}
    (h : field ∈ data) : field ∈ entries.foldl (fun data e => AList.insert e.1 e.2 data) data := by
  induction entries generalizing data with
  | nil => exact h
  | cons e rest ih => exact ih _ ((AList.mem_insert _).mpr (.inr h))

theorem mem_stored_merge {s s' : Option Secret} {entries : List (String × ByteString)} {u : Unit}
    (h : merge entries s = .ok (u, s')) {field : String} (hField : field ∈ stored s) : field ∈ stored s' := by
  cases s with
  | none => cases h
  | some secret =>
    cases h
    exact mem_foldl_insert entries secret.fields hField

theorem stored_get {s s' : Option Secret} {secret : Secret} (h : get s = .ok (secret, s')) :
    s' = s ∧ s = some secret := by
  cases s with
  | none => cases h
  | some secret' =>
    cases h
    exact ⟨rfl, rfl⟩

end Secret

abbrev SecretApi := Remote (Option Secret) SecretError

def IDENTITY_MANAGER_SECRET_NAME : String := "sdp-identity-service-creds"

def isSecretsNamespaced (secretsName : String) : Bool := secretsName != IDENTITY_MANAGER_SECRET_NAME

/-- The password that a read of the secret finds for the user with the given id. -/
def readablePassword (secret : Option Secret) (id : String) : Option String :=
  secret.bind fun s => (s.fields.lookup (id ++ "-service-password")).bind bytesToString

namespace ServiceUser

variable (outcomes : Nat → CallOutcome)

def secretsFieldNames (user : ServiceUser) (namespaced : Bool) : String × String × String :=
  if namespaced then ("service-username", "service-password", "service-url")
  else (user.id ++ "-service-username", user.id ++ "-service-password", user.id ++ "-service-url")

/-- A read that fails and an entry that is absent or unreadable look the same. -/
def getSecretsFields (user : ServiceUser) (api : SecretApi) (secretsName : String) :
    (Option String × Option String × Option String) × SecretApi :=
  let (userField, pwField, urlField) := user.secretsFieldNames (isSecretsNamespaced secretsName)
  match api.call outcomes .transport Secret.get with
  | (.ok secret, api) =>
    (match secret.data with
      | some data => ((data.lookup userField).bind bytesToString, (data.lookup pwField).bind bytesToString,
          (data.lookup urlField).bind bytesToString)
      | none => (none, none, none), api)
  | (.error _, api) => ((none, none, none), api)

def hasSecretsFields (user : ServiceUser) (api : SecretApi) (secretsName : String) :
    (Bool × Bool × Bool) × SecretApi :=
  let ((userName, pwd, url), api) := user.getSecretsFields outcomes api secretsName
  if isSecretsNamespaced secretsName then ((userName.isSome, pwd.isSome, url.isSome), api)
  else ((true, pwd.isSome, true), api)

def restore (user : ServiceUser) (api : SecretApi) (secretsName : String) : Option ServiceUser × SecretApi :=
  let ((_, pwd, _), api) := user.getSecretsFields outcomes api secretsName
  (pwd.map fun pwd => { user with password := pwd }, api)

def deleteSecretsFields (user : ServiceUser) (api : SecretApi) (secretsName : String) :
    Except SecretError Unit × SecretApi :=
  let (userField, pwField, urlField) := user.secretsFieldNames (isSecretsNamespaced secretsName)
  match api.call outcomes .transport Secret.get with
  | (.error e, api) => (.error e, api)
  | (.ok secret, api) =>
    match secret.data with
    | some data =>
      api.call outcomes .transport (Secret.remove ([userField, pwField, urlField].filter (· ∈ data)))
    | none => (.ok (), api)

def updateSecretsFields (user : ServiceUser) (api : SecretApi) (secretsName : String)
    (updateAlways : Bool) : Except SecretError Unit × SecretApi :=
  let (userField, pwField, urlField) := user.secretsFieldNames (isSecretsNamespaced secretsName)
  let ((userExists, passwdExists, urlExists), api) := user.hasSecretsFields outcomes api secretsName
  let data :=
    (if !userExists || updateAlways then [(userField, ByteString.text user.name)] else []) ++
      (if !passwdExists || updateAlways then [(pwField, ByteString.text user.password)] else []) ++
      (if !urlExists || updateAlways then [(urlField, ByteString.text user.profileUrl)] else [])
  if data.length > 0 then api.call outcomes .transport (Secret.merge data) else (.ok (), api)

variable (user : ServiceUser) (api : SecretApi)

theorem secretsFieldNames_global :
    user.secretsFieldNames (isSecretsNamespaced IDENTITY_MANAGER_SECRET_NAME) =
      (user.id ++ "-service-username", user.id ++ "-service-password", user.id ++ "-service-url") := rfl

/-- A restored user has the password that was read; nothing is restored from a failed read. -/
theorem restore_eq :
    (user.restore outcomes api IDENTITY_MANAGER_SECRET_NAME).1 =
        (if outcomes api.calls = .delivered then readablePassword api.store user.id else none).map
          (fun pwd => { user with password := pwd }) ∧
      (user.restore outcomes api IDENTITY_MANAGER_SECRET_NAME).2.store = api.store ∧
      (user.restore outcomes api IDENTITY_MANAGER_SECRET_NAME).2.calls = api.calls + 1 := by
  unfold restore getSecretsFields
  rw [secretsFieldNames_global]
  cases hStore : api.store with
  | none =>
    cases hOutcome : outcomes api.calls <;>
      simp [Remote.call, Remote.failWith, Secret.get, hOutcome, hStore, readablePassword]
  | some secret =>
    cases hOutcome : outcomes api.calls <;> cases hData : secret.data <;>
      simp [Remote.call, Remote.failWith, Secret.get, hOutcome, hStore, hData, readablePassword, Secret.fields]

theorem getSecretsFields_store (secretsName : String) :
    (user.getSecretsFields outcomes api secretsName).2.store = api.store := by
  unfold getSecretsFields
  have hGet : (api.call outcomes .transport Secret.get).2.store = api.store := by
    rcases Remote.call_store with hSame | ⟨secret, hStore⟩
    · exact hSame
    · exact (Secret.stored_get hStore).1
  cases hCall : api.call outcomes .transport Secret.get with
  | mk result api' =>
    rw [hCall] at hGet
    cases result <;> exact hGet

theorem updateSecretsFields_stored (secretsName : String) (updateAlways : Bool) (field : String)
    (h : field ∈ Secret.stored api.store) :
    field ∈ Secret.stored (user.updateSecretsFields outcomes api secretsName updateAlways).2.store := by
  have hRead := user.getSecretsFields_store outcomes api secretsName
  have hHas : (user.hasSecretsFields outcomes api secretsName).2.store = api.store := by
    unfold hasSecretsFields
    generalize user.getSecretsFields outcomes api secretsName = found at hRead ⊢
    obtain ⟨⟨userName, pwd, url⟩, api'⟩ := found
    dsimp only
    split <;> exact hRead
  unfold updateSecretsFields
  generalize user.hasSecretsFields outcomes api secretsName = checked at hHas ⊢
  obtain ⟨⟨userExists, passwdExists, urlExists⟩, api'⟩ := checked
  dsimp only at hHas ⊢
  rw [← hHas] at h
  generalize (_ ++ _ ++ _ : List (String × ByteString)) = data
  split
  · rcases Remote.call_store with hSame | ⟨u, hStore⟩
    · rw [hSame]
      exact h
    · exact Secret.mem_stored_merge hStore h
  · exact h

/-- The fields are gone where no failure was logged. -/
theorem deleteSecretsFields_ok (secretsName : String)
    (h : (user.deleteSecretsFields outcomes api secretsName).2.failed = api.failed) :
    (user.deleteSecretsFields outcomes api secretsName).1 = .ok () := by
  unfold deleteSecretsFields at h ⊢
  cases hCall : api.call outcomes .transport Secret.get with
  | mk result api' =>
    simp only [hCall] at h ⊢
    cases result with
    | error e =>
      have hFailed := (Remote.call_error (congrArg Prod.fst hCall)).1
      rw [hCall, show api'.failed = api.failed from h] at hFailed
      simp at hFailed
    | ok stored =>
      obtain ⟨store, -, hAfter⟩ := Remote.call_ok (congrArg Prod.fst hCall)
      obtain rfl : api' = { api with store := store, calls := api.calls + 1 } :=
        (congrArg Prod.snd hCall).symm.trans hAfter
      dsimp only at h ⊢
      cases hData : stored.data with
      | none => rfl
      | some data =>
        simp only [hData] at h ⊢
        obtain ⟨u, store', -, hRemoved⟩ := Remote.call_succeeds h
        rw [hRemoved]

end ServiceUser

end SdpK8sInjector.Common
