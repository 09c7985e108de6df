import SdpK8sInjector.Common.System
import SdpK8sInjector.Lib.Json

/-! # What goes to the SDP system and what comes back, as JSON

A password goes out and never comes back. The text of a date is read by a parser
that is given.
-/

namespace SdpK8sInjector.Common

open Lib Serde

instance : Serde UInt32 where
  toJson n := .num n.toNat
  ofJson
    | .num n => if 0 ≤ n ∧ n < UInt32.size then some (.ofNat n.toNat) else none
    | _ => none
  ofJson_null := rfl
  ofJson_toJson n := by
    have hLt : (n.toNat : Int) < 4294967296 := Int.ofNat_lt.mpr n.toNat_lt
    simp [UInt32.size, hLt]

/-- A required field, read in a given way. -/
def fieldWith {α : Type} (read : Json → Option α) (key : String) (members : List (String × Json)) : Option α :=
  (members.lookup key).bind read

/-- A field with a default, which may be missing but not `null`. -/
def defaultField {α : Type} [Serde α] (key : String) (default : α) (members : List (String × Json)) : Option α :=
  match members.lookup key with
  | none => some default
  | some j => ofJson j

/-- An array whose items are read in a given way. -/
def items {α : Type} (read : Json → Option α) : Json → Option (List α)
  | .arr js => js.mapM read
  | _ => none

structure Credentials where
  username : String
  password : String
  providerName : String
  deviceId : String
deriving DecidableEq

def Credentials.serialize (c : Credentials) : Json :=
  .obj (record [("username", some (toJson c.username)), ("password", some (toJson c.password)),
    ("providerName", some (toJson c.providerName)), ("deviceId", some (toJson c.deviceId))])

structure LoginUser where
  name : String
  needTwoFactorAuth : Bool
  canAccessAuditLogs : Bool
deriving DecidableEq

def LoginUser.deserialize : Json → Option LoginUser
  | .obj members => do
    let name ← field "name" members
    let needTwoFactorAuth ← field "needTwoFactorAuth" members
    let canAccessAuditLogs ← field "canAccessAuditLogs" members
    some ⟨name, needTwoFactorAuth, canAccessAuditLogs⟩
  | _ => none

/-- Instants are counted in nanoseconds from the epoch. -/
structure Login where
  user : LoginUser
  token : String
  expires : Int
deriving DecidableEq

def SDPUser.serialize (u : SDPUser) : Json :=
  .obj (record [("id", some (toJson u.id)), ("name", some (toJson u.name)), ("labels", some (toJson u.labels)),
    ("tags", some (toJson u.tags)), ("password", some ((u.password.map toJson).getD .null)),
    ("disabled", some (toJson u.disabled))])

/-- The failed attempts and the lock are read and checked, and kept by nothing here. -/
def SDPUser.deserialize : Json → Option SDPUser
  | .obj members => do
    let id ← field "id" members
    let name ← field "name" members
    let labels ← field "labels" members
    let tags ← defaultField "tags" [] members
    let disabled ← field "disabled" members
    let _failedLoginAttempts : Option UInt32 ← optionalField "failedLoginAttempts" members
    let _lockStart : Option String ← optionalField "lockStart" members
    some ⟨id, name, labels, tags, none, disabled⟩
  | _ => none

/-- Everything comes back as it was sent except the password. -/
theorem SDPUser.deserialize_serialize (u : SDPUser) :
    SDPUser.deserialize u.serialize = some { u with password := none } := by
  simp [SDPUser.serialize, SDPUser.deserialize, field, optionalField, defaultField, readOptional]

/-- `SDPUsers` -/
def SDPUsers.deserialize : Json → Option (List SDPUser)
  | .obj members => fieldWith (items SDPUser.deserialize) "data" members
  | _ => none

/-- `DateTime::timestamp` counts whole seconds from the epoch, and downwards before it. -/
def timestamp (instant : Int) : Int := instant / 1000000000

section Dates

variable (dateTime : String → Option Int)

def Login.deserialize : Json → Option Login
  | .obj members => do
    let user ← fieldWith LoginUser.deserialize "user" members
    let token ← field "token" members
    let expires ← (field "expires" members).bind dateTime
    some ⟨user, token, expires⟩
  | _ => none

def OnBoardedUser.deserialize : Json → Option OnBoardedUser
  | .obj members => do
    let distinguishedName ← field "distinguishedName" members
    let deviceId ← field "deviceId" members
    let username ← field "username" members
    let lastSeenAt ← (field "lastSeenAt" members).bind dateTime
    some ⟨distinguishedName, deviceId, username, timestamp lastSeenAt⟩
  | _ => none

/-- `OnBoardedUsers` -/
def OnBoardedUsers.deserialize : Json → Option (List OnBoardedUser)
  | .obj members => fieldWith (items (OnBoardedUser.deserialize dateTime)) "data" members
  | _ => none

end Dates

theorem items_map {α β : Type} {read : Json → Option β} {write : α → Json} {f : α → β} (xs : List α)
    (h : ∀ x ∈ xs, read (write x) = some (f x)) : items read (.arr (xs.map write)) = some (xs.map f) := by
  rw [items]
  induction xs with
  | nil => rfl
  | cons x xs ih =>
    rw [List.map_cons, List.mapM_cons, h x List.mem_cons_self, ih fun y hy => h y (List.mem_cons_of_mem x hy)]
    rfl

end SdpK8sInjector.Common
