import Mathlib.Algebra.GroupWithZero.Nat
import CaseSorter.Lib.IsoTime

/-! The tables of `web.db` and the accounts of users.ts, with passwords.ts. A stored time is the
instant its text denotes; where the source compares the texts, so does the model. Random
identifiers, tokens and password hashes are arguments of what makes them. -/

namespace CaseSorter.Web.Auth

open CaseSorter.IsoTime

inductive Role
  | viewer
  | operator
  | administrator
  deriving DecidableEq, Repr

inductive RevocationReason
  | logout
  | rotated
  | passwordChanged
  | userDisabled
  | administrative
  deriving DecidableEq, Repr

structure UserRow where
  userId : String
  username : String
  passwordHash : String
  role : Role
  createdAt : Int
  passwordChangedAt : Int
  disabledAt : Option Int
  deriving DecidableEq, Repr

structure SessionRow where
  sessionId : String
  tokenHash : String
  userId : String
  createdAt : Int
  lastSeenAt : Int
  idleExpiresAt : Int
  absoluteExpiresAt : Int
  revokedAt : Option Int
  revokedReason : Option RevocationReason
  deriving DecidableEq, Repr

structure BootstrapRow where
  tokenHash : String
  issuedAt : Int
  expiresAt : Int
  claimedAt : Option Int
  claimedUserId : Option String
  deriving DecidableEq, Repr

structure Database where
  users : List UserRow
  sessions : List SessionRow
  bootstrapTokens : List BootstrapRow
  initializedAt : Option Int
  deriving DecidableEq, Repr

def Database.migrated : Database := ⟨[], [], [], none⟩

/-- What the runtime gives: Unicode's tables, SHA-256, and Argon2id, whose encodings of one
password differ by the salt, and which verifies nothing against what it cannot read. -/
structure Runtime where
  nfkc : String → String
  toLowerCase : String → String
  sha256 : String → String
  hash : String → String → String
  verify : String → String → Bool

def plainRuntime : Runtime where
  nfkc s := s
  toLowerCase s := s
  sha256 s := "digest:" ++ s
  hash _ password := "$argon2id$" ++ password
  verify encoded password := encoded = "$argon2id$" ++ password

inductive Raised
  | weakPassword (message : String)
  | invalidUsername (message : String)
  | duplicateUsername (message : String)
  | unknownUser (message : String)
  | provisioning (message : String)
  | sqlite (message : String)
  | failed (message : String)
  deriving DecidableEq, Repr

def minimumPasswordLength : Nat := 12

def maximumPasswordLength : Nat := 128

/-- `String.prototype.length`: UTF-16 code units. -/
def utf16Length (s : String) : Nat :=
  (s.toList.map fun c => if c.toNat < 0x10000 then 1 else 2).sum

/-- What `String.prototype.trim` takes off. -/
def isTrimmed (c : Char) : Bool :=
  c.toNat ∈ [0x9, 0xA, 0xB, 0xC, 0xD, 0x20, 0xA0, 0x1680, 0x2028, 0x2029, 0x202F, 0x205F, 0x3000,
    0xFEFF] || (0x2000 ≤ c.toNat && c.toNat ≤ 0x200A)

def trim (s : String) : String :=
  .ofList ((s.toList.dropWhile isTrimmed).reverse.dropWhile isTrimmed).reverse

def assertUsablePassword (rt : Runtime) (password : String) : Except Raised Unit :=
  let normalized := rt.nfkc password
  if utf16Length normalized < minimumPasswordLength then
    .error (.weakPassword s!"a password must be at least {minimumPasswordLength} characters")
  else if maximumPasswordLength < utf16Length normalized then
    .error (.weakPassword s!"a password must be at most {maximumPasswordLength} characters")
  else if (trim normalized).isEmpty then
    .error (.weakPassword "a password must not be only whitespace")
  else .ok ()

def hashPassword (rt : Runtime) (password salt : String) : Except Raised String :=
  (assertUsablePassword rt password).map fun _ => rt.hash salt (rt.nfkc password)

def verifyPassword (rt : Runtime) (encoded password : String) : Bool :=
  if maximumPasswordLength < utf16Length (rt.nfkc password) then false
  else rt.verify encoded (rt.nfkc password)

structure UserRecord where
  userId : String
  username : String
  role : Role
  createdAt : Int
  passwordChangedAt : Int
  disabledAt : Option Int
  deriving DecidableEq, Repr

def UserRow.toRecord (u : UserRow) : UserRecord :=
  ⟨u.userId, u.username, u.role, u.createdAt, u.passwordChangedAt, u.disabledAt⟩

structure PreparedUser where
  userId : String
  username : String
  passwordHash : String
  role : Role
  deriving DecidableEq, Repr

def minimumUsernameLength : Nat := 3

def maximumUsernameLength : Nat := 32

/-- `USERNAME_PATTERN`. -/
def usernamePattern (s : String) : Bool :=
  let plain (c : Char) : Bool := ('a' ≤ c && c ≤ 'z') || ('0' ≤ c && c ≤ '9')
  match s.toList with
  | [] => false
  | c :: cs => plain c && cs.all fun d => plain d || d == '.' || d == '_' || d == '-'

def normalizeUsername (rt : Runtime) (username : String) : Except Raised String :=
  let normalized := rt.toLowerCase (trim (rt.nfkc username))
  if utf16Length normalized < minimumUsernameLength ∨
      maximumUsernameLength < utf16Length normalized ∨ usernamePattern normalized = false then
    .error (.invalidUsername (s!"a username must be {minimumUsernameLength}-" ++
      s!"{maximumUsernameLength} characters of lowercase letters, digits, dot, underscore or " ++
      "hyphen, starting with a letter or digit"))
  else .ok normalized

def prepareUser (rt : Runtime) (username password : String) (role : Role)
    (userId salt : String) : Except Raised PreparedUser := do
  let username ← normalizeUsername rt username
  assertUsablePassword rt password
  let passwordHash ← hashPassword rt password salt
  pure ⟨userId, username, passwordHash, role⟩

namespace Database

def findUserById (db : Database) (userId : String) : Option UserRecord :=
  (db.users.find? fun u => u.userId = userId).map UserRow.toRecord

def readRowByUsername (db : Database) (username : String) : Option UserRow :=
  db.users.find? fun u => u.username = username

def requireUser (db : Database) (userId : String) : Except Raised UserRecord :=
  match db.findUserById userId with
  | none => .error (.unknownUser s!"no user {userId}")
  | some user => .ok user

def insertUser (db : Database) (prepared : PreparedUser) (now : Int) :
    Except Raised (UserRecord × Database) :=
  if db.users.any fun u => u.userId = prepared.userId ∨ u.username = prepared.username then
    .error (.duplicateUsername s!"the username {prepared.username} is already taken")
  else
    let row : UserRow :=
      ⟨prepared.userId, prepared.username, prepared.passwordHash, prepared.role, now, now, none⟩
    let after := { db with users := db.users ++ [row] }
    (after.requireUser prepared.userId).map fun user => (user, after)

end Database

theorem Database.findUserById_userId {db : Database} {userId : String} {user : UserRecord}
    (h : db.findUserById userId = some user) : user.userId = userId := by
  obtain ⟨row, found, rfl⟩ := Option.map_eq_some_iff.mp h
  have same := List.find?_some found
  exact of_decide_eq_true same

theorem Database.insertUser_ok {db after : Database} {prepared : PreparedUser} {now : Int}
    {user : UserRecord} (h : db.insertUser prepared now = .ok (user, after)) :
    ∃ row : UserRow, user = row.toRecord ∧ row.role = prepared.role ∧
      row.userId = prepared.userId ∧ after = { db with users := db.users ++ [row] } := by
  unfold Database.insertUser at h
  dsimp only at h
  split_ifs at h with taken
  have absent : db.users.find? (fun u => u.userId = prepared.userId) = none := by
    rw [List.find?_eq_none]
    intro u member same
    refine taken (List.any_eq_true.mpr ⟨u, member, ?_⟩)
    exact decide_eq_true (.inl (of_decide_eq_true same))
  simp only [requireUser, findUserById, List.find?_append, absent, List.find?_cons,
    Option.none_or, decide_true, Option.map_some, Except.map, Except.ok.injEq,
    Prod.mk.injEq] at h
  obtain ⟨rfl, rfl⟩ := h
  exact ⟨_, rfl, rfl, rfl, rfl⟩

end CaseSorter.Web.Auth
