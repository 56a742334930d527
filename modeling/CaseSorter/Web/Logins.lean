import CaseSorter.Lib.Runs
import CaseSorter.Web.Sessions

/-! Sign-ins and changes of a password that are under way at once: `authenticate` and
`changePassword` of users.ts, `startSession` of boundary.ts and the login action of
routes/login. A call moves from one suspension to the next. The traffic keeps beside the
database the changes that have completed, how many of them there were of an account when a
sign-in read its row, and under how many each session was authorised. -/

namespace CaseSorter.Web.Auth

open CaseSorter.IsoTime CaseSorter.Runs

inductive LoginRefusal
  | unknownUser
  | disabled
  | invalidPassword
  deriving DecidableEq, Repr

inductive LoginProgress
  | spending (reason : LoginRefusal)
  | verifying (row : UserRow)
  | rehashing (row : UserRow)
  | authenticated (user : UserRecord)
  | started (session : SessionRecord)
  | refused (reason : LoginRefusal)
  | raised (e : Raised)
  deriving DecidableEq, Repr

def LoginProgress.account : LoginProgress → Option String
  | .verifying row => some row.userId
  | .rehashing row => some row.userId
  | .authenticated user => some user.userId
  | _ => none

def LoginProgress.row : LoginProgress → Option UserRow
  | .verifying row => some row
  | .rehashing row => some row
  | _ => none

structure Login where
  password : String
  presented : Option String
  now : Int
  read : Nat
  progress : LoginProgress
  deriving DecidableEq, Repr

inductive ChangeProgress
  | hashing
  | changed (user : UserRecord)
  | raised (e : Raised)
  deriving DecidableEq, Repr

structure PasswordChange where
  userId : String
  password : String
  now : Int
  progress : ChangeProgress
  deriving DecidableEq, Repr

structure Traffic where
  database : Database
  logins : List Login
  changes : List PasswordChange
  completed : List (String × String)
  authority : List (String × Nat)
  deriving DecidableEq, Repr

inductive TrafficEvent
  | login (username password : String) (presented : Option String) (now : Int)
  | spent (login : Nat)
  | verified (login : Nat)
  | rehashed (login : Nat) (salt : String)
  | startSession (login : Nat) (token sessionId : String)
  | changePassword (userId password : String) (now : Int)
  | changed (change : Nat) (salt : String)
  deriving DecidableEq, Repr

def changeCount (completed : List (String × String)) (userId : String) : Nat :=
  completed.countP fun c => c.1 = userId

def inForce (completed : List (String × String)) (userId : String) : Option String :=
  (completed.find? fun c => c.1 = userId).map Prod.snd

namespace Database

/-- The `UPDATE` of `authenticate`. -/
def rehash (db : Database) (userId passwordHash : String) : Database :=
  (db.updateUser userId fun u => { u with passwordHash := passwordHash }).2

/-- `startSession`; a session that raises has still slid the one it presents. -/
def startSession (rt : Runtime) (db : Database) (presented : Option String)
    (userId token sessionId : String) (now : Int) : Except Raised SessionRecord × Database :=
  let (existing, db) :=
    match presented with
    | none => (none, db)
    | some old =>
      let (answer, db) := db.resolveSession rt old now
      (some answer, db)
  let replaces :=
    match existing with
    | some (.ok session _) => some session.sessionId
    | _ => none
  match db.issueSession rt token sessionId userId replaces now with
  | .error e => (.error e, db)
  | .ok (session, after) => (.ok session, after)

end Database

namespace Traffic

def start (users : List UserRow) : Traffic := ⟨⟨users, [], [], none⟩, [], [], [], []⟩

def count (s : Traffic) (userId : String) : Nat := changeCount s.completed userId

/-- `authenticate` to its first suspension. -/
def submit (rt : Runtime) (s : Traffic) (username password : String) (presented : Option String)
    (now : Int) : Login :=
  match normalizeUsername rt username with
  | .error _ => ⟨password, presented, now, 0, .spending .unknownUser⟩
  | .ok name =>
    match s.database.readRowByUsername name with
    | none => ⟨password, presented, now, 0, .spending .unknownUser⟩
    | some row =>
      if row.disabledAt.isSome then ⟨password, presented, now, 0, .spending .disabled⟩
      else ⟨password, presented, now, s.count row.userId, .verifying row⟩

/-- The end of `authenticate`. -/
def authenticated (db : Database) (userId : String) : LoginProgress :=
  match db.requireUser userId with
  | .error e => .raised e
  | .ok user => .authenticated user

/-- `authenticate` after the password has been verified. -/
def verify (rt : Runtime) (needsRehash : String → Bool) (s : Traffic) (l : Login)
    (row : UserRow) : LoginProgress :=
  if verifyPassword rt row.passwordHash l.password = false then .refused .invalidPassword
  else if needsRehash row.passwordHash then .rehashing row
  else authenticated s.database row.userId

def advance (s : Traffic) (i : Nat) (l : Login) (progress : LoginProgress) : Traffic :=
  { s with logins := s.logins.set i { l with progress := progress } }

def settle (s : Traffic) (i : Nat) (c : PasswordChange) (progress : ChangeProgress) : Traffic :=
  { s with changes := s.changes.set i { c with progress := progress } }

def commit (s : Traffic) (i : Nat) (c : PasswordChange) (passwordHash : String) : Traffic :=
  match s.database.applyPasswordChange c.userId passwordHash c.now with
  | .error e => s.settle i c (.raised e)
  | .ok db =>
    match db.requireUser c.userId with
    | .error e => { s.settle i c (.raised e) with database := db }
    | .ok user =>
      { s.settle i c (.changed user) with
        database := db
        completed := (c.userId, c.password) :: s.completed }

def step (rt : Runtime) (needsRehash : String → Bool) (s : Traffic) :
    TrafficEvent → Option Traffic
  | .login username password presented now =>
    some { s with logins := s.logins ++ [s.submit rt username password presented now] }
  | .spent i =>
    match s.logins[i]? with
    | some l =>
      match l.progress with
      | .spending reason => some (s.advance i l (.refused reason))
      | _ => none
    | none => none
  | .verified i =>
    match s.logins[i]? with
    | some l =>
      match l.progress with
      | .verifying row => some (s.advance i l (verify rt needsRehash s l row))
      | _ => none
    | none => none
  | .rehashed i salt =>
    match s.logins[i]? with
    | some l =>
      match l.progress with
      | .rehashing row =>
        match hashPassword rt l.password salt with
        | .error e => some (s.advance i l (.raised e))
        | .ok upgraded =>
          let db := s.database.rehash row.userId upgraded
          some { s.advance i l (authenticated db row.userId) with database := db }
      | _ => none
    | none => none
  | .startSession i token sessionId =>
    match s.logins[i]? with
    | some l =>
      match l.progress with
      | .authenticated user =>
        match s.database.startSession rt l.presented user.userId token sessionId l.now with
        | (.error e, db) => some { s.advance i l (.raised e) with database := db }
        | (.ok session, db) =>
          some { s.advance i l (.started session) with
            database := db
            authority := (sessionId, l.read) :: s.authority }
      | _ => none
    | none => none
  | .changePassword userId password now =>
    some { s with changes := s.changes ++ [⟨userId, password, now, .hashing⟩] }
  | .changed i salt =>
    match s.changes[i]? with
    | some c =>
      match c.progress with
      | .hashing =>
        match hashPassword rt c.password salt with
        | .error e => some (s.settle i c (.raised e))
        | .ok passwordHash => some (s.commit i c passwordHash)
      | _ => none
    | none => none

/-- Where a sign-in writes a hash or starts its session, the password of its account has not
been changed since it read the row. -/
def Undisturbed (s : Traffic) : TrafficEvent → Bool
  | .rehashed i _ | .startSession i _ _ =>
    match s.logins[i]? with
    | some l => l.progress.account.all fun userId => l.read = s.count userId
    | none => true
  | _ => true

def Exact (rt : Runtime) (passwords : List String) (passwordHash password : String) : Prop :=
  ∀ q, rt.nfkc q ∈ passwords →
    (verifyPassword rt passwordHash q = true ↔ rt.nfkc q = rt.nfkc password)

/-- The stored hash of an account is of the password its last change has put in force, and a
session that is accepted was authorised by a row read after that change. -/
structure InForce (rt : Runtime) (passwords : List String) (s : Traffic) : Prop where
  stored : ∀ u ∈ s.database.users, ∀ p, inForce s.completed u.userId = some p →
    Exact rt passwords u.passwordHash p
  authorised : ∀ token now session user,
    (s.database.resolveSession rt token now).1 = .ok session user →
    ∀ n, (session.sessionId, n) ∈ s.authority → n = s.count user.userId

end Traffic

/-- Argon2id tells some passwords apart. -/
def Distinguishes (rt : Runtime) (passwords : List String) : Prop :=
  ∀ salt, ∀ p ∈ passwords, ∀ q ∈ passwords, rt.verify (rt.hash salt p) q = true ↔ q = p

def TrafficEvent.password : TrafficEvent → Option String
  | .login _ password _ _ => some password
  | .changePassword _ password _ => some password
  | _ => none

theorem hashPassword_ok {rt : Runtime} {password salt passwordHash : String}
    (h : hashPassword rt password salt = .ok passwordHash) :
    passwordHash = rt.hash salt (rt.nfkc password) ∧
      utf16Length (rt.nfkc password) ≤ maximumPasswordLength := by
  unfold hashPassword assertUsablePassword at h
  dsimp only at h
  split_ifs at h with short long
  · cases h
  · cases h
  · cases h
  · cases h
    exact ⟨rfl, Nat.not_lt.mp long⟩

theorem exact_hash {rt : Runtime} {passwords : List String} (argon : Distinguishes rt passwords)
    {password salt passwordHash : String} (known : rt.nfkc password ∈ passwords)
    (hashed : hashPassword rt password salt = .ok passwordHash) :
    Traffic.Exact rt passwords passwordHash password := by
  obtain ⟨rfl, short⟩ := hashPassword_ok hashed
  intro q among
  unfold verifyPassword
  split_ifs with long
  · refine ⟨nofun, fun same => ?_⟩
    rw [same] at long
    omega
  · exact argon salt _ known _ among

theorem changeCount_cons (userId password other : String) (completed : List (String × String)) :
    changeCount ((userId, password) :: completed) other =
      changeCount completed other + if userId = other then 1 else 0 := by
  unfold changeCount
  rw [List.countP_cons]
  simp only [decide_eq_true_eq]

theorem inForce_cons_same (userId password : String) (completed : List (String × String)) :
    inForce ((userId, password) :: completed) userId = some password := by
  simp [inForce]

theorem inForce_cons_other {userId other : String} (differ : userId ≠ other) (password : String)
    (completed : List (String × String)) :
    inForce ((userId, password) :: completed) other = inForce completed other := by
  simp [inForce, differ]

namespace Traffic

variable {rt : Runtime} {passwords : List String} {needsRehash : String → Bool}
  {s t : Traffic} {e : TrafficEvent}

/-- A sign-in under way: it read its row at some change of the account; if that was the last
one, the hash in the row is of the password in force, and a password to rehash is that one. -/
structure LoginSound (rt : Runtime) (passwords : List String)
    (completed : List (String × String)) (l : Login) : Prop where
  known : rt.nfkc l.password ∈ passwords
  read : ∀ userId, l.progress.account = some userId → l.read ≤ changeCount completed userId
  row : ∀ row, l.progress.row = some row → l.read = changeCount completed row.userId →
    ∀ p, inForce completed row.userId = some p → Exact rt passwords row.passwordHash p
  checked : ∀ row, l.progress = .rehashing row →
    verifyPassword rt row.passwordHash l.password = true

theorem account_of_row {progress : LoginProgress} {row : UserRow} (h : progress.row = some row) :
    progress.account = some row.userId := by
  cases progress <;> cases h <;> rfl

theorem LoginSound.completed {completed : List (String × String)} {l : Login}
    (h : LoginSound rt passwords completed l) (userId password : String) :
    LoginSound rt passwords ((userId, password) :: completed) l where
  known := h.known
  read other is := by
    rw [changeCount_cons]
    exact Nat.le_add_right_of_le (h.read other is)
  row row is last p forced := by
    rw [changeCount_cons] at last
    split_ifs at last with same
    · have := h.read row.userId (account_of_row is)
      omega
    · rw [inForce_cons_other same] at forced
      exact h.row row is last p forced
  checked := h.checked

theorem LoginSound.let_go {completed : List (String × String)} {l : Login}
    (h : LoginSound rt passwords completed l) {progress : LoginProgress}
    (bare : progress.row = none)
    (account : ∀ userId, progress.account = some userId → l.progress.account = some userId) :
    LoginSound rt passwords completed { l with progress := progress } where
  known := h.known
  read userId is := h.read userId (account userId is)
  row row is := by
    rw [show progress.row = some row from is] at bare
    cases bare
  checked row is := by
    rw [show progress = .rehashing row from is] at bare
    cases bare

theorem LoginSound.done {completed : List (String × String)} {l : Login}
    (h : LoginSound rt passwords completed l) {progress : LoginProgress}
    (gone : progress.account = none) :
    LoginSound rt passwords completed { l with progress := progress } := by
  refine h.let_go ?_ fun userId is => ?_
  · cases held : progress.row with
    | none => rfl
    | some row =>
      rw [account_of_row held] at gone
      cases gone
  · rw [gone] at is
    cases is

/-- Everything but the sign-ins and the changes under way: sessions by their names, stored
hashes, and the sessions that are not revoked, each authorised since the last change. -/
structure StoreSound (rt : Runtime) (passwords : List String) (db : Database)
    (completed : List (String × String)) (authority : List (String × Nat)) : Prop where
  keyed : db.Keyed
  stored : ∀ u ∈ db.users, ∀ p, inForce completed u.userId = some p →
    Exact rt passwords u.passwordHash p
  live : ∀ r ∈ db.sessions, r.revokedAt = none → ∀ n, (r.sessionId, n) ∈ authority →
    n = changeCount completed r.userId
  written : ∀ a ∈ authority, ∃ r ∈ db.sessions, r.sessionId = a.1

structure Sound (rt : Runtime) (passwords : List String) (s : Traffic) : Prop where
  store : StoreSound rt passwords s.database s.completed s.authority
  logins : ∀ l ∈ s.logins, LoginSound rt passwords s.completed l
  changes : ∀ c ∈ s.changes, rt.nfkc c.password ∈ passwords

theorem sound_start (rt : Runtime) (passwords : List String) (users : List UserRow) :
    Sound rt passwords (start users) where
  store := by
    refine ⟨⟨List.nodup_nil, List.nodup_nil⟩, fun _ _ _ forced => ?_, fun _ member => ?_,
      fun _ member => ?_⟩
    · cases forced
    · cases member
    · cases member
  logins _ member := by cases member
  changes _ member := by cases member

theorem Sound.advance (h : Sound rt passwords s) {i : Nat} {l : Login} {progress : LoginProgress}
    (sound : LoginSound rt passwords s.completed { l with progress := progress }) :
    Sound rt passwords (s.advance i l progress) where
  store := h.store
  logins m member := by
    rcases List.mem_or_eq_of_mem_set member with old | rfl
    · exact h.logins m old
    · exact sound
  changes := h.changes

theorem Sound.settle (h : Sound rt passwords s) {i : Nat} {c : PasswordChange}
    (member : c ∈ s.changes) (progress : ChangeProgress) :
    Sound rt passwords (s.settle i c progress) where
  store := h.store
  logins := h.logins
  changes d inside := by
    rcases List.mem_or_eq_of_mem_set inside with old | rfl
    · exact h.changes d old
    · exact h.changes c member

theorem Sound.with_store (h : Sound rt passwords s) {db : Database}
    {authority : List (String × Nat)}
    (store : StoreSound rt passwords db s.completed authority) :
    Sound rt passwords { s with database := db, authority := authority } :=
  ⟨store, h.logins, h.changes⟩

theorem submit_sound (h : Sound rt passwords s) {username password : String}
    {presented : Option String} {now : Int} (known : rt.nfkc password ∈ passwords) :
    LoginSound rt passwords s.completed (s.submit rt username password presented now) := by
  have idle : ∀ reason, LoginSound rt passwords s.completed
      ⟨password, presented, now, 0, .spending reason⟩ := by
    intro reason
    refine ⟨known, fun _ is => ?_, fun _ is => ?_, fun _ is => ?_⟩ <;> cases is
  unfold submit
  split
  · exact idle _
  · split
    · exact idle _
    · rename_i row found
      split_ifs
      · exact idle _
      · refine ⟨known, fun userId is => ?_, fun held is _ p forced => ?_, fun _ is => ?_⟩
        · cases is
          exact Nat.le_refl _
        · cases is
          exact h.store.stored row (List.mem_of_find?_eq_some found) p forced
        · cases is

theorem authenticated_bare (db : Database) (userId : String) :
    (authenticated db userId).row = none ∧
      ∀ other, (authenticated db userId).account = some other → other = userId := by
  unfold authenticated
  cases found : db.requireUser userId with
  | error e =>
    refine ⟨rfl, fun other is => ?_⟩
    cases is
  | ok user =>
    refine ⟨rfl, fun other is => ?_⟩
    cases is
    unfold Database.requireUser at found
    split at found
    · cases found
    · rename_i user' known
      cases found
      exact Database.findUserById_userId known

theorem verify_sound {l : Login} {row : UserRow} (h : LoginSound rt passwords s.completed l)
    (held : l.progress = .verifying row) :
    LoginSound rt passwords s.completed
      { l with progress := verify rt needsRehash s l row } := by
  unfold verify
  split_ifs with wrong stale
  · exact h.done rfl
  · refine ⟨h.known, fun userId is => ?_, fun other is => ?_, fun other is => ?_⟩
    · exact h.read userId (by rw [held]; exact is)
    · exact h.row other (by rw [held]; exact is)
    · cases is
      exact Bool.not_eq_false _ ▸ wrong
  · obtain ⟨bare, account⟩ := authenticated_bare s.database row.userId
    refine h.let_go bare fun userId is => ?_
    rw [held, account userId is]
    rfl

theorem StoreSound.rehash {completed : List (String × String)} {authority : List (String × Nat)}
    {db : Database} (h : StoreSound rt passwords db completed authority) {row : UserRow}
    {passwordHash : String}
    (right : ∀ p, inForce completed row.userId = some p → Exact rt passwords passwordHash p) :
    StoreSound rt passwords (db.rehash row.userId passwordHash) completed authority where
  keyed := ⟨h.keyed.sessionIds, h.keyed.tokenHashes⟩
  stored u member p forced := by
    obtain ⟨old, inside, is⟩ := List.mem_map.mp member
    split_ifs at is with same
    · subst is
      exact right p (same ▸ forced)
    · subst is
      exact h.stored old inside p forced
  live := h.live
  written := h.written

theorem StoreSound.evolve {completed : List (String × String)} {authority : List (String × Nat)}
    {db after : Database} {now : Int} (h : StoreSound rt passwords db completed authority)
    (users : after.users = db.users) (evolution : Evolution now db.sessions after.sessions [])
    (kept : ∀ r ∈ db.sessions, ∃ r' ∈ after.sessions, r'.sessionId = r.sessionId) :
    StoreSound rt passwords after completed authority where
  keyed := ⟨evolution.names (fun _ _ evolves => evolves.sessionId) h.keyed.sessionIds
      List.nodup_nil nofun,
    evolution.names (fun _ _ evolves => evolves.tokenHash) h.keyed.tokenHashes
      List.nodup_nil nofun⟩
  stored := users ▸ h.stored
  live r member live n authorised := by
    rcases evolution.cases member with ⟨old, inside, evolves⟩ | new
    · rw [evolves.userId]
      refine h.live old inside ?_ n (evolves.sessionId ▸ authorised)
      by_contra revoked
      have still := evolves.revokedAt (Option.isSome_iff_ne_none.mpr revoked)
      rw [live] at still
      cases still
    · cases new
  written a member := by
    obtain ⟨r, inside, same⟩ := h.written a member
    obtain ⟨r', inside', same'⟩ := kept r inside
    exact ⟨r', inside', same'.trans same⟩

theorem StoreSound.issue {completed : List (String × String)} {authority : List (String × Nat)}
    {db after : Database} {token sessionId userId : String} {replaces : Option String} {now : Int}
    {stored : SessionRecord} (h : StoreSound rt passwords db completed authority)
    (issued : db.issueSession rt token sessionId userId replaces now = .ok (stored, after)) :
    StoreSound rt passwords after completed
      ((sessionId, changeCount completed userId) :: authority) := by
  obtain ⟨users, evolution, fresh, kept⟩ := Database.issueSession_ok issued
  have unwritten : ∀ n, (sessionId, n) ∉ authority := by
    intro n member
    obtain ⟨r, inside, same⟩ := h.written _ member
    exact (fresh r inside).1 same
  refine ⟨⟨?_, ?_⟩, users ▸ h.stored, fun r member live n authorised => ?_,
    fun a member => ?_⟩
  · refine evolution.names (fun _ _ evolves => evolves.sessionId) h.keyed.sessionIds
      (List.nodup_singleton _) fun r among old inside same => ?_
    rw [List.mem_singleton.mp among] at same
    exact (fresh old inside).1 same.symm
  · refine evolution.names (fun _ _ evolves => evolves.tokenHash) h.keyed.tokenHashes
      (List.nodup_singleton _) fun r among old inside same => ?_
    rw [List.mem_singleton.mp among] at same
    exact (fresh old inside).2 same.symm
  · rcases evolution.cases member with ⟨old, inside, evolves⟩ | new
    · rw [evolves.userId]
      rw [evolves.sessionId] at authorised
      rcases List.mem_cons.mp authorised with is | before
      · exact absurd (Prod.mk.inj is).1 (fresh old inside).1
      · refine h.live old inside ?_ n before
        by_contra revoked
        have still := evolves.revokedAt (Option.isSome_iff_ne_none.mpr revoked)
        rw [live] at still
        cases still
    · rw [List.mem_singleton.mp new] at authorised ⊢
      rcases List.mem_cons.mp authorised with is | before
      · exact (Prod.mk.inj is).2
      · exact absurd before (unwritten n)
  · rcases List.mem_cons.mp member with rfl | before
    · exact ⟨_, evolution.new_mem (List.mem_singleton_self _), rfl⟩
    · obtain ⟨r, inside, same⟩ := h.written a before
      obtain ⟨r', inside', same'⟩ := kept r inside
      exact ⟨r', inside', same'.trans same⟩

theorem StoreSound.resolve {completed : List (String × String)}
    {authority : List (String × Nat)} {db : Database}
    (h : StoreSound rt passwords db completed authority) (token : String) (now : Int) :
    StoreSound rt passwords (db.resolveSession rt token now).2 completed authority :=
  h.evolve (db.resolveSession_users rt token now)
    (Database.evolution_resolveSession h.keyed rt token now)
    (db.kept_resolveSession rt token now)

theorem StoreSound.startSession {completed : List (String × String)}
    {authority : List (String × Nat)} {db : Database}
    (h : StoreSound rt passwords db completed authority) (presented : Option String)
    (userId token sessionId : String) (now : Int) :
    match db.startSession rt presented userId token sessionId now with
    | (.error _, after) => StoreSound rt passwords after completed authority
    | (.ok _, after) => StoreSound rt passwords after completed
        ((sessionId, changeCount completed userId) :: authority) := by
  have issue : ∀ (between : Database) (replaces : Option String),
      StoreSound rt passwords between completed authority →
      match (match between.issueSession rt token sessionId userId replaces now with
        | .error e => (.error e, between)
        | .ok (session, after) => (.ok session, after) :
          Except Raised SessionRecord × Database) with
      | (.error _, after) => StoreSound rt passwords after completed authority
      | (.ok _, after) => StoreSound rt passwords after completed
          ((sessionId, changeCount completed userId) :: authority) := by
    intro between replaces sound
    cases issued : between.issueSession rt token sessionId userId replaces now with
    | error e => exact sound
    | ok both => exact sound.issue issued
  cases presented with
  | none => exact issue db _ h
  | some old => exact issue _ _ (h.resolve old now)

theorem Sound.commit (h : Sound rt passwords s) {i : Nat} {c : PasswordChange}
    (member : c ∈ s.changes) {passwordHash : String}
    (right : Exact rt passwords passwordHash c.password) :
    Sound rt passwords (s.commit i c passwordHash) := by
  unfold Traffic.commit
  cases applied : s.database.applyPasswordChange c.userId passwordHash c.now with
  | error e => exact h.settle member _
  | ok db =>
    obtain ⟨users, evolution, revoked⟩ := Database.applyPasswordChange_ok applied
    obtain ⟨user, found⟩ := Database.requireUser_applyPasswordChange applied
    dsimp only
    rw [found]
    refine ⟨⟨⟨?_, ?_⟩, fun u inside p forced => ?_, fun r inside live n authorised => ?_,
      fun a inside => ?_⟩, fun l inside => (h.logins l inside).completed c.userId c.password,
      (h.settle member (.changed user)).changes⟩
    · exact evolution.names (fun _ _ evolves => evolves.sessionId) h.store.keyed.sessionIds
        List.nodup_nil nofun
    · exact evolution.names (fun _ _ evolves => evolves.tokenHash) h.store.keyed.tokenHashes
        List.nodup_nil nofun
    · rw [show Database.users _ = _ from users] at inside
      obtain ⟨old, among, is⟩ := List.mem_map.mp inside
      split_ifs at is with same
      · subst is
        have put : inForce ((c.userId, c.password) :: s.completed) old.userId = some p := forced
        rw [same, inForce_cons_same] at put
        cases put
        exact right
      · subst is
        refine h.store.stored old among p ?_
        rwa [← inForce_cons_other (Ne.symm same) c.password]
    · rcases evolution.cases inside with ⟨old, among, evolves⟩ | new
      · have other : c.userId ≠ old.userId := by
          intro same
          have gone := revoked r inside (evolves.userId.trans same.symm)
          rw [live] at gone
          cases gone
        rw [changeCount_cons, evolves.userId, if_neg other]
        refine h.store.live old among ?_ n (evolves.sessionId ▸ authorised)
        by_contra before
        have still := evolves.revokedAt (Option.isSome_iff_ne_none.mpr before)
        rw [live] at still
        cases still
      · cases new
    · obtain ⟨r, among, same⟩ := h.store.written a inside
      obtain ⟨r', among', same'⟩ := Database.kept_applyPasswordChange applied r among
      exact ⟨r', among', same'.trans same⟩

theorem sound_step {e : TrafficEvent} (argon : Distinguishes rt passwords)
    (h : Sound rt passwords s) (known : ∀ p ∈ e.password, rt.nfkc p ∈ passwords)
    (undisturbed : s.Undisturbed e = true) (stepped : step rt needsRehash s e = some t) :
    Sound rt passwords t := by
  cases e with
  | login username password presented now =>
    cases stepped
    refine ⟨h.store, fun l member => ?_, h.changes⟩
    rcases List.mem_append.mp member with old | new
    · exact h.logins l old
    · rw [List.mem_singleton.mp new]
      exact submit_sound h (known password rfl)
  | spent i =>
    simp only [step] at stepped
    split at stepped
    · rename_i l at_i
      split at stepped
      · cases stepped
        exact h.advance ((h.logins l (List.mem_of_getElem? at_i)).done rfl)
      · cases stepped
    · cases stepped
  | verified i =>
    simp only [step] at stepped
    split at stepped
    · rename_i l at_i
      split at stepped
      · rename_i row held
        cases stepped
        exact h.advance (verify_sound (h.logins l (List.mem_of_getElem? at_i)) held)
      · cases stepped
    · cases stepped
  | rehashed i salt =>
    simp only [step] at stepped
    split at stepped
    · rename_i l at_i
      split at stepped
      · rename_i row held
        have sound := h.logins l (List.mem_of_getElem? at_i)
        cases hashed : hashPassword rt l.password salt with
        | error e =>
          rw [hashed] at stepped
          cases stepped
          exact h.advance (sound.done rfl)
        | ok upgraded =>
          rw [hashed] at stepped
          cases stepped
          simp only [Undisturbed, at_i, held, LoginProgress.account, Option.all_some,
            decide_eq_true_eq] at undisturbed
          obtain ⟨bare, account⟩ :=
            authenticated_bare (s.database.rehash row.userId upgraded) row.userId
          have next := h.advance (i := i) (sound.let_go bare fun userId is => by
            rw [held, account userId is]
            rfl)
          refine next.with_store (h.store.rehash fun p forced => ?_)
          have fits := sound.row row (by rw [held]; rfl) undisturbed p forced
          have same := (fits l.password sound.known).mp (sound.checked row held)
          have made := exact_hash argon sound.known hashed
          intro q among
          rw [← same]
          exact made q among
      · cases stepped
    · cases stepped
  | startSession i token sessionId =>
    simp only [step] at stepped
    split at stepped
    · rename_i l at_i
      split at stepped
      · rename_i user held
        have sound := h.logins l (List.mem_of_getElem? at_i)
        have store := h.store.startSession l.presented user.userId token sessionId l.now
        simp only [Undisturbed, at_i, held, LoginProgress.account, Option.all_some,
          decide_eq_true_eq] at undisturbed
        split at stepped
        · rename_i e db raised
          rw [raised] at store
          cases stepped
          exact (h.advance (sound.done rfl)).with_store store
        · rename_i session db ok
          rw [ok] at store
          cases stepped
          rw [undisturbed]
          exact (h.advance (sound.done rfl)).with_store store
      · cases stepped
    · cases stepped
  | changePassword userId password now =>
    cases stepped
    refine ⟨h.store, h.logins, fun c member => ?_⟩
    rcases List.mem_append.mp member with old | new
    · exact h.changes c old
    · rw [List.mem_singleton.mp new]
      exact known password rfl
  | changed i salt =>
    simp only [step] at stepped
    split at stepped
    · rename_i c at_i
      have member := List.mem_of_getElem? at_i
      split at stepped
      · cases hashed : hashPassword rt c.password salt with
        | error e =>
          rw [hashed] at stepped
          cases stepped
          exact h.settle member _
        | ok passwordHash =>
          rw [hashed] at stepped
          cases stepped
          exact h.commit member (exact_hash argon (h.changes c member) hashed)
      · cases stepped
    · cases stepped

theorem sound_run {users : List UserRow} {es : List TrafficEvent}
    (argon : Distinguishes rt passwords)
    (known : ∀ e ∈ es, ∀ p ∈ e.password, rt.nfkc p ∈ passwords)
    (ran : run (step rt needsRehash) (start users) es = some s)
    (undisturbed : Meets (step rt needsRehash) (fun s e => s.Undisturbed e = true)
      (start users) es) : Sound rt passwords s :=
  run_invariant (fun _ _ _ h ok stepped => sound_step argon h ok.1 ok.2 stepped)
    (sound_start rt passwords users)
    (meets_and (meets_of_forall (fun _ e member => known e member) _) undisturbed) ran

/-- In every run in which no sign-in writes a hash or starts its session after a change of the
password it has not seen, the password that the last change has put in force is, among the
passwords of the run, the one that the stored hash verifies, and every session that is
accepted was authorised since that change. -/
theorem change_in_force {users : List UserRow} {es : List TrafficEvent}
    (argon : Distinguishes rt passwords)
    (known : ∀ e ∈ es, ∀ p ∈ e.password, rt.nfkc p ∈ passwords)
    (ran : run (step rt needsRehash) (start users) es = some s)
    (undisturbed : Meets (step rt needsRehash) (fun s e => s.Undisturbed e = true)
      (start users) es) : InForce rt passwords s := by
  have sound := sound_run argon known ran undisturbed
  refine ⟨sound.store.stored, fun token now session user accepted n authorised => ?_⟩
  obtain ⟨r, member, -, same, live, -, owner, -⟩ := Database.resolveSession_ok accepted
  rw [count, Database.findUserById_userId owner]
  exact sound.store.live r member live n (same ▸ authorised)

def legacy (encoded : String) : Bool := encoded = "$argon2id$battery staple"

def mara : UserRow := ⟨"user_1", "mara", "$argon2id$battery staple", .operator, 0, 0, none⟩

theorem plainRuntime_distinguishes :
    Distinguishes plainRuntime ["battery staple", "correct horse"] := by
  intro salt
  show ∀ p ∈ ["battery staple", "correct horse"], ∀ q ∈ ["battery staple", "correct horse"],
    decide ("$argon2id$" ++ p = "$argon2id$" ++ q) = true ↔ q = p
  decide +kernel

def inTurn : List TrafficEvent :=
  [.login "mara" "battery staple" none 0, .verified 0, .rehashed 0 "salt",
    .startSession 0 "one" "sess_1", .changePassword "user_1" "correct horse" 1000,
    .changed 0 "salt", .login "mara" "correct horse" (some "one") 2000, .verified 1,
    .startSession 1 "two" "sess_2"]

theorem change_in_force_inTurn :
    InForce plainRuntime ["battery staple", "correct horse"]
        (runD (step plainRuntime legacy) (start [mara]) inTurn) ∧
      ((runD (step plainRuntime legacy) (start [mara]) inTurn).database.resolveSession
        plainRuntime "two" 3000).1.isOk = true :=
  ⟨change_in_force plainRuntime_distinguishes (by decide +kernel)
    (run_eq_runD (by decide +kernel)) (by decide +kernel), by decide +kernel⟩

def overtaken : List TrafficEvent :=
  [.login "mara" "battery staple" none 0, .verified 0,
    .changePassword "user_1" "correct horse" 0, .changed 0 "salt", .rehashed 0 "salt",
    .startSession 0 "one" "sess_1"]

/-- The old password is in force again, and its session is accepted. -/
theorem change_in_force_overtaken :
    (run (step plainRuntime legacy) (start [mara]) overtaken).isSome = true ∧
      inForce (runD (step plainRuntime legacy) (start [mara]) overtaken).completed "user_1" =
        some "correct horse" ∧
      (runD (step plainRuntime legacy) (start [mara]) overtaken).database.users.map (fun u =>
        (verifyPassword plainRuntime u.passwordHash "battery staple",
          verifyPassword plainRuntime u.passwordHash "correct horse")) = [(true, false)] ∧
      ((runD (step plainRuntime legacy) (start [mara]) overtaken).database.resolveSession
        plainRuntime "one" 1000).1.isOk = true ∧
      (runD (step plainRuntime legacy) (start [mara]) overtaken).authority = [("sess_1", 0)] ∧
      (runD (step plainRuntime legacy) (start [mara]) overtaken).count "user_1" = 1 := by
  decide +kernel

end Traffic

end CaseSorter.Web.Auth
