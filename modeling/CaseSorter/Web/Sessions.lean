import Mathlib.Data.List.Nodup
import CaseSorter.Web.Accounts

/-! The sessions of sessions.ts, and the two operations of users.ts that revoke them. The
texts of two instants are compared, not the instants. -/

namespace CaseSorter.Web.Auth

open CaseSorter.IsoTime

def idleTimeoutMs : Int := 30 * 60 * 1000

def absoluteLifetimeMs : Int := 12 * 60 * 60 * 1000

structure SessionRecord where
  sessionId : String
  userId : String
  createdAt : Int
  lastSeenAt : Int
  idleExpiresAt : Int
  absoluteExpiresAt : Int
  revokedAt : Option Int
  revokedReason : Option RevocationReason
  deriving DecidableEq, Repr

namespace SessionRow

def toRecord (r : SessionRow) : SessionRecord :=
  ⟨r.sessionId, r.userId, r.createdAt, r.lastSeenAt, r.idleExpiresAt, r.absoluteExpiresAt,
    r.revokedAt, r.revokedReason⟩

def revoke (r : SessionRow) (reason : RevocationReason) (now : Int) : SessionRow :=
  { r with revokedAt := some now, revokedReason := some reason }

end SessionRow

inductive SessionRejection
  | unknown
  | revoked
  | expired
  | userDisabled
  deriving DecidableEq, Repr

inductive ResolvedSession
  | ok (session : SessionRecord) (user : UserRecord)
  | rejected (reason : SessionRejection)
  deriving DecidableEq, Repr

def ResolvedSession.isOk : ResolvedSession → Bool
  | .ok _ _ => true
  | .rejected _ => false

def hasExpired (session : SessionRecord) (now : Int) : Bool :=
  isoText session.idleExpiresAt ≤ isoText now || isoText session.absoluteExpiresAt ≤ isoText now

def slidIdle (absoluteExpiresAt now : Int) : Int :=
  if now + idleTimeoutMs < absoluteExpiresAt then now + idleTimeoutMs else absoluteExpiresAt

namespace Database

/-- The `UPDATE` that revokes the sessions among `which` that are not revoked yet, and how many
rows it changed. -/
def revokeWhere (db : Database) (which : SessionRow → Bool) (reason : RevocationReason)
    (now : Int) : Nat × Database :=
  (db.sessions.countP fun r => which r && r.revokedAt.isNone,
    { db with
      sessions := db.sessions.map fun r =>
        if which r && r.revokedAt.isNone then r.revoke reason now else r })

def revokeSession (db : Database) (sessionId : String) (reason : RevocationReason) (now : Int) :
    Bool × Database :=
  let (changes, db) := db.revokeWhere (fun r => r.sessionId = sessionId) reason now
  (0 < changes, db)

def revokeSessionByToken (rt : Runtime) (db : Database) (token : String)
    (reason : RevocationReason) (now : Int) : Bool × Database :=
  let (changes, db) := db.revokeWhere (fun r => r.tokenHash = rt.sha256 token) reason now
  (0 < changes, db)

def revokeSessionsForUser (db : Database) (userId : String) (reason : RevocationReason)
    (now : Int) : Nat × Database :=
  db.revokeWhere (fun r => r.userId = userId) reason now

def readSessionById (db : Database) (sessionId : String) : Option SessionRecord :=
  (db.sessions.find? fun r => r.sessionId = sessionId).map SessionRow.toRecord

/-- What `issueSession` writes for a new session. -/
def newSession (sessionId tokenHash userId : String) (now : Int) : SessionRow where
  sessionId := sessionId
  tokenHash := tokenHash
  userId := userId
  createdAt := now
  lastSeenAt := now
  idleExpiresAt := now + idleTimeoutMs
  absoluteExpiresAt := now + absoluteLifetimeMs
  revokedAt := none
  revokedReason := none

def supersede (db : Database) (replaces : Option String) (now : Int) : Database :=
  match replaces with
  | none => db
  | some sessionId =>
    if sessionId.isEmpty then db else (db.revokeSession sessionId .rotated now).2

/-- The transaction of `issueSession`. -/
def issueSession (rt : Runtime) (db : Database) (token sessionId userId : String)
    (replaces : Option String) (now : Int) : Except Raised (SessionRecord × Database) :=
  let db := db.supersede replaces now
  if db.sessions.any fun r => r.sessionId = sessionId then
    .error (.sqlite "UNIQUE constraint failed: sessions.session_id")
  else if db.sessions.any fun r => r.tokenHash = rt.sha256 token then
    .error (.sqlite "UNIQUE constraint failed: sessions.token_hash")
  else if (db.findUserById userId).isNone then .error (.sqlite "FOREIGN KEY constraint failed")
  else
    let db := { db with
      sessions := db.sessions ++ [newSession sessionId (rt.sha256 token) userId now] }
    match db.readSessionById sessionId with
    | none => .error (.failed "the session that was just written could not be read back")
    | some stored => .ok (stored, db)

def slideIdleWindow (db : Database) (session : SessionRecord) (now : Int) :
    SessionRecord × Database :=
  let idleExpiresAt := slidIdle session.absoluteExpiresAt now
  ({ session with lastSeenAt := now, idleExpiresAt := idleExpiresAt },
    { db with
      sessions := db.sessions.map fun r =>
        if r.sessionId = session.sessionId then
          { r with lastSeenAt := now, idleExpiresAt := idleExpiresAt }
        else r })

def resolveSession (rt : Runtime) (db : Database) (token : String) (now : Int) :
    ResolvedSession × Database :=
  match db.sessions.find? fun r => r.tokenHash = rt.sha256 token with
  | none => (.rejected .unknown, db)
  | some row =>
    let session := row.toRecord
    if session.revokedAt.isSome then (.rejected .revoked, db)
    else if hasExpired session now then (.rejected .expired, db)
    else
      match db.findUserById session.userId with
      | none => (.rejected .unknown, db)
      | some user =>
        if user.disabledAt.isSome then (.rejected .userDisabled, db)
        else
          let (session, db) := db.slideIdleWindow session now
          (.ok session user, db)

def pruneExpiredSessions (db : Database) (now : Int) : Nat × Database :=
  let expired (r : SessionRow) : Bool := isoText r.absoluteExpiresAt ≤ isoText now
  (db.sessions.countP expired, { db with sessions := db.sessions.filter fun r => !expired r })

/-- An `UPDATE` of one account, and how many rows it changed. -/
def updateUser (db : Database) (userId : String) (f : UserRow → UserRow) : Nat × Database :=
  (db.users.countP fun u => u.userId = userId,
    { db with users := db.users.map fun u => if u.userId = userId then f u else u })

/-- The transaction of `changePassword`. -/
def applyPasswordChange (db : Database) (userId passwordHash : String) (now : Int) :
    Except Raised Database :=
  let (changes, db) := db.updateUser userId fun u =>
    { u with passwordHash := passwordHash, passwordChangedAt := now }
  if changes = 0 then .error (.unknownUser s!"no user {userId}")
  else .ok (db.revokeSessionsForUser userId .passwordChanged now).2

def changePassword (rt : Runtime) (db : Database) (userId password salt : String)
    (now : Int) : Except Raised (UserRecord × Database) := do
  assertUsablePassword rt password
  let passwordHash ← hashPassword rt password salt
  let db ← db.applyPasswordChange userId passwordHash now
  let user ← db.requireUser userId
  pure (user, db)

def setUserDisabled (db : Database) (userId : String) (disabled : Bool) (now : Int) :
    Except Raised (UserRecord × Database) :=
  let (changes, db) := db.updateUser userId fun u =>
    { u with disabledAt := if disabled then some now else none }
  if changes = 0 then .error (.unknownUser s!"no user {userId}")
  else
    let db := if disabled then (db.revokeSessionsForUser userId .userDisabled now).2 else db
    (db.requireUser userId).map fun user => (user, db)

end Database

/-- A row before and after an operation at `now`: only a live session slides, and a revoked one
stays revoked. -/
structure Evolves (now : Int) (before after : SessionRow) : Prop where
  sessionId : after.sessionId = before.sessionId
  tokenHash : after.tokenHash = before.tokenHash
  userId : after.userId = before.userId
  createdAt : after.createdAt = before.createdAt
  absoluteExpiresAt : after.absoluteExpiresAt = before.absoluteExpiresAt
  revokedAt : before.revokedAt.isSome → after.revokedAt.isSome
  idleExpiresAt : after.idleExpiresAt = before.idleExpiresAt ∨
    before.revokedAt = none ∧ hasExpired before.toRecord now = false ∧
      after.idleExpiresAt = slidIdle before.absoluteExpiresAt now

theorem Evolves.refl (now : Int) (r : SessionRow) : Evolves now r r where
  sessionId := rfl
  tokenHash := rfl
  userId := rfl
  createdAt := rfl
  absoluteExpiresAt := rfl
  revokedAt := id
  idleExpiresAt := .inl rfl

theorem evolves_revoke (now : Int) (r : SessionRow) (reason : RevocationReason) :
    Evolves now r (r.revoke reason now) where
  sessionId := rfl
  tokenHash := rfl
  userId := rfl
  createdAt := rfl
  absoluteExpiresAt := rfl
  revokedAt _ := rfl
  idleExpiresAt := .inl rfl

theorem slidIdle_between {createdAt absolute now : Int} (created : createdAt ≤ absolute)
    (past : createdAt ≤ now) :
    createdAt ≤ slidIdle absolute now ∧ slidIdle absolute now ≤ absolute := by
  unfold slidIdle idleTimeoutMs
  split_ifs <;> omega

theorem Evolves.dated {now clock : Int} {before after : SessionRow}
    (h : Evolves now before after) (forward : clock ≤ now)
    (dated : before.createdAt ∈ plain ∧ before.createdAt ≤ clock ∧
      before.createdAt ≤ before.idleExpiresAt ∧
      before.idleExpiresAt ≤ before.absoluteExpiresAt) :
    after.createdAt ∈ plain ∧ after.createdAt ≤ now ∧
      after.createdAt ≤ after.idleExpiresAt ∧
      after.idleExpiresAt ≤ after.absoluteExpiresAt := by
  obtain ⟨inside, past, idle, absolute⟩ := dated
  rw [h.createdAt, h.absoluteExpiresAt]
  refine ⟨inside, Int.le_trans past forward, ?_⟩
  rcases h.idleExpiresAt with kept | ⟨-, -, slid⟩
  · rw [kept]
    exact ⟨idle, absolute⟩
  · rw [slid]
    exact slidIdle_between (Int.le_trans idle absolute) (Int.le_trans past forward)

def Evolution (now : Int) (before after new : List SessionRow) : Prop :=
  ∃ (keep : SessionRow → Bool) (f : SessionRow → SessionRow),
    after = (before.filter keep).map f ++ new ∧ ∀ r ∈ before, Evolves now r (f r)

theorem evolution_of_map {now : Int} {rows : List SessionRow} {f : SessionRow → SessionRow}
    (evolves : ∀ r ∈ rows, Evolves now r (f r)) (new : List SessionRow) :
    Evolution now rows (rows.map f ++ new) new := by
  refine ⟨fun _ => true, f, ?_, evolves⟩
  rw [List.filter_true]

theorem evolution_refl (now : Int) (rows new : List SessionRow) :
    Evolution now rows (rows ++ new) new := by
  have map := evolution_of_map (f := id) (fun r (_ : r ∈ rows) => Evolves.refl now r) new
  rwa [List.map_id] at map

theorem evolution_same (now : Int) (rows : List SessionRow) : Evolution now rows rows [] := by
  have same := evolution_refl now rows []
  rwa [List.append_nil] at same

theorem Evolution.cases {now : Int} {before after new : List SessionRow} {r : SessionRow}
    (h : Evolution now before after new) (member : r ∈ after) :
    (∃ old ∈ before, Evolves now old r) ∨ r ∈ new := by
  obtain ⟨keep, f, rfl, evolves⟩ := h
  rcases List.mem_append.mp member with left | right
  · obtain ⟨old, inside, rfl⟩ := List.mem_map.mp left
    have inside := List.mem_of_mem_filter inside
    exact .inl ⟨old, inside, evolves old inside⟩
  · exact .inr right

theorem Evolution.new_mem {now : Int} {before after new : List SessionRow}
    (h : Evolution now before after new) {r : SessionRow} (member : r ∈ new) : r ∈ after := by
  obtain ⟨keep, f, rfl, -⟩ := h
  exact List.mem_append_right _ member

theorem Evolution.names {now : Int} {before after new : List SessionRow}
    (h : Evolution now before after new) {name : SessionRow → String}
    (kept : ∀ old r, Evolves now old r → name r = name old) (distinct : (before.map name).Nodup)
    (fresh : (new.map name).Nodup)
    (apart : ∀ r ∈ new, ∀ old ∈ before, name r ≠ name old) :
    (after.map name).Nodup := by
  obtain ⟨keep, f, rfl, evolves⟩ := h
  rw [List.map_append, List.map_map]
  have same : (before.filter keep).map (name ∘ f) = (before.filter keep).map name := by
    refine List.map_congr_left fun r member => ?_
    exact kept _ _ (evolves r (List.mem_of_mem_filter member))
  rw [same, List.nodup_append]
  refine ⟨distinct.sublist (List.filter_sublist.map _), fresh, ?_⟩
  intro a left b right
  obtain ⟨old, inside, rfl⟩ := List.mem_map.mp left
  obtain ⟨r, member, rfl⟩ := List.mem_map.mp right
  exact (apart r member old (List.mem_of_mem_filter inside)).symm

namespace Database

variable {db : Database} {now : Int}

/-- No two sessions have one identifier or one token. -/
structure Keyed (db : Database) : Prop where
  sessionIds : (db.sessions.map SessionRow.sessionId).Nodup
  tokenHashes : (db.sessions.map SessionRow.tokenHash).Nodup

theorem evolution_revokeWhere (db : Database) (which : SessionRow → Bool)
    (reason : RevocationReason) (now : Int) (new : List SessionRow) :
    Evolution now db.sessions ((db.revokeWhere which reason now).2.sessions ++ new) new := by
  refine evolution_of_map (fun r _ => ?_) new
  split_ifs
  · exact evolves_revoke now r reason
  · exact Evolves.refl now r

theorem revoked_revokeWhere {which : SessionRow → Bool} {reason : RevocationReason}
    {r : SessionRow} (member : r ∈ (db.revokeWhere which reason now).2.sessions)
    (chosen : which r = true) : r.revokedAt.isSome := by
  obtain ⟨old, -, is⟩ := List.mem_map.mp member
  split_ifs at is with live
  · rw [← is]
    rfl
  · subst is
    rw [chosen, Bool.true_and, Option.isNone_iff_eq_none] at live
    exact Option.isSome_iff_ne_none.mpr live

theorem evolves_supersede (db : Database) (replaces : Option String) (now : Int) :
    ∃ f, (db.supersede replaces now).sessions = db.sessions.map f ∧
      ∀ r, Evolves now r (f r) := by
  have same : ∃ f, db.sessions = db.sessions.map f ∧ ∀ r, Evolves now r (f r) :=
    ⟨id, db.sessions.map_id.symm, Evolves.refl now⟩
  unfold supersede
  cases replaces with
  | none => exact same
  | some sessionId =>
    dsimp only
    split_ifs
    · exact same
    · refine ⟨_, rfl, fun r => ?_⟩
      split_ifs
      · exact evolves_revoke now r .rotated
      · exact Evolves.refl now r

theorem supersede_users (db : Database) (replaces : Option String) (now : Int) :
    (db.supersede replaces now).users = db.users := by
  unfold supersede
  cases replaces with
  | none => rfl
  | some sessionId =>
    dsimp only
    split_ifs <;> rfl

theorem evolution_resolveSession (keyed : db.Keyed) (rt : Runtime) (token : String) (now : Int) :
    Evolution now db.sessions (db.resolveSession rt token now).2.sessions [] := by
  unfold resolveSession
  split
  · exact evolution_same now _
  · rename_i row found
    dsimp only
    split_ifs with revoked expired
    · exact evolution_same now _
    · exact evolution_same now _
    · split
      · exact evolution_same now _
      · split_ifs
        · exact evolution_same now _
        · have slid := @evolution_of_map now db.sessions
            (fun r => if r.sessionId = row.sessionId then
              { r with lastSeenAt := now, idleExpiresAt := slidIdle row.absoluteExpiresAt now }
              else r) (fun r member => ?_) []
          · rwa [List.append_nil] at slid
          · split_ifs with same
            · have is := List.inj_on_of_nodup_map keyed.sessionIds member
                (List.mem_of_find?_eq_some found) same
              subst is
              refine ⟨rfl, rfl, rfl, rfl, rfl, id, .inr ⟨?_, ?_, rfl⟩⟩
              · exact Option.not_isSome_iff_eq_none.mp revoked
              · exact Bool.eq_false_iff.mpr expired
            · exact Evolves.refl now r

theorem resolveSession_ok {rt : Runtime} {token : String} {session : SessionRecord}
    {user : UserRecord}
    (h : (db.resolveSession rt token now).1 = .ok session user) :
    ∃ r ∈ db.sessions, r.tokenHash = rt.sha256 token ∧ r.sessionId = session.sessionId ∧
      r.revokedAt = none ∧ hasExpired r.toRecord now = false ∧
      db.findUserById r.userId = some user ∧ user.disabledAt = none := by
  unfold resolveSession at h
  split at h
  · cases h
  · rename_i r found
    dsimp only at h
    split_ifs at h with revoked expired
    split at h
    · cases h
    · rename_i user' known
      split_ifs at h with disabled
      cases h
      refine ⟨r, List.mem_of_find?_eq_some found, ?_, rfl, ?_, ?_, known, ?_⟩
      · simpa using List.find?_some found
      · exact Option.not_isSome_iff_eq_none.mp revoked
      · exact Bool.eq_false_iff.mpr expired
      · exact Option.not_isSome_iff_eq_none.mp disabled

theorem kept_resolveSession (db : Database) (rt : Runtime) (token : String) (now : Int) :
    ∀ r ∈ db.sessions, ∃ r' ∈ (db.resolveSession rt token now).2.sessions,
      r'.sessionId = r.sessionId := by
  intro r member
  unfold resolveSession
  split
  · exact ⟨r, member, rfl⟩
  · dsimp only
    split_ifs
    · exact ⟨r, member, rfl⟩
    · exact ⟨r, member, rfl⟩
    · split
      · exact ⟨r, member, rfl⟩
      · split_ifs
        · exact ⟨r, member, rfl⟩
        · refine ⟨_, List.mem_map_of_mem member, ?_⟩
          split_ifs <;> rfl

theorem resolveSession_users (db : Database) (rt : Runtime) (token : String) (now : Int) :
    (db.resolveSession rt token now).2.users = db.users := by
  unfold resolveSession
  split
  · rfl
  · dsimp only
    split_ifs
    · rfl
    · rfl
    · split
      · rfl
      · split_ifs <;> rfl

theorem evolution_pruneExpiredSessions (db : Database) (now : Int) :
    Evolution now db.sessions (db.pruneExpiredSessions now).2.sessions [] := by
  refine ⟨fun r => !decide (isoText r.absoluteExpiresAt ≤ isoText now), id, ?_,
    fun r _ => Evolves.refl now r⟩
  rw [List.map_id, List.append_nil]
  rfl

theorem issueSession_ok {rt : Runtime} {token sessionId userId : String}
    {replaces : Option String} {stored : SessionRecord} {after : Database}
    (h : db.issueSession rt token sessionId userId replaces now = .ok (stored, after)) :
    after.users = db.users ∧
      Evolution now db.sessions after.sessions
        [newSession sessionId (rt.sha256 token) userId now] ∧
      (∀ r ∈ db.sessions, r.sessionId ≠ sessionId ∧ r.tokenHash ≠ rt.sha256 token) ∧
      ∀ r ∈ db.sessions, ∃ r' ∈ after.sessions, r'.sessionId = r.sessionId := by
  obtain ⟨f, sessions, evolves⟩ := evolves_supersede db replaces now
  have users := supersede_users db replaces now
  unfold issueSession at h
  generalize db.supersede replaces now = between at h sessions users
  dsimp only at h
  split_ifs at h with id_taken hash_taken absent
  split at h
  · cases h
  · cases h
    refine ⟨users, ?_, fun r member => ⟨fun same => id_taken ?_, fun same => hash_taken ?_⟩,
      fun r member => ⟨f r, List.mem_append_left _ ?_, (evolves r).sessionId⟩⟩
    · show Evolution now db.sessions (between.sessions ++ _) _
      rw [sessions]
      exact evolution_of_map (fun r _ => evolves r) _
    · refine List.any_eq_true.mpr ⟨f r, sessions ▸ List.mem_map_of_mem member, ?_⟩
      rw [(evolves r).sessionId, same, decide_eq_true_eq]
    · refine List.any_eq_true.mpr ⟨f r, sessions ▸ List.mem_map_of_mem member, ?_⟩
      rw [(evolves r).tokenHash, same, decide_eq_true_eq]
    · exact sessions ▸ List.mem_map_of_mem member

theorem updateUser_sessions (db : Database) (userId : String) (f : UserRow → UserRow) :
    (db.updateUser userId f).2.sessions = db.sessions := rfl

theorem applyPasswordChange_ok {userId passwordHash : String} {after : Database}
    (h : db.applyPasswordChange userId passwordHash now = .ok after) :
    after.users = (db.updateUser userId fun u =>
        { u with passwordHash := passwordHash, passwordChangedAt := now }).2.users ∧
      Evolution now db.sessions after.sessions [] ∧
      ∀ r ∈ after.sessions, r.userId = userId → r.revokedAt.isSome := by
  unfold applyPasswordChange at h
  dsimp only at h
  split_ifs at h
  cases h
  refine ⟨rfl, ?_, fun r member same => revoked_revokeWhere member (decide_eq_true same)⟩
  have evolution := evolution_revokeWhere (db.updateUser userId fun u =>
    { u with passwordHash := passwordHash, passwordChangedAt := now }).2
    (fun r => r.userId = userId) .passwordChanged now []
  rwa [List.append_nil] at evolution

theorem kept_applyPasswordChange {userId passwordHash : String} {after : Database}
    (h : db.applyPasswordChange userId passwordHash now = .ok after) :
    ∀ r ∈ db.sessions, ∃ r' ∈ after.sessions, r'.sessionId = r.sessionId := by
  unfold applyPasswordChange at h
  dsimp only at h
  split_ifs at h
  cases h
  intro r member
  refine ⟨_, List.mem_map_of_mem member, ?_⟩
  split_ifs <;> rfl

theorem requireUser_applyPasswordChange {userId passwordHash : String} {after : Database}
    (h : db.applyPasswordChange userId passwordHash now = .ok after) :
    ∃ user, after.requireUser userId = .ok user := by
  unfold applyPasswordChange at h
  dsimp only at h
  split_ifs at h with unknown
  cases h
  obtain ⟨u, member, same⟩ := List.countP_pos_iff.mp (Nat.pos_of_ne_zero unknown)
  unfold requireUser findUserById
  cases found : ((db.updateUser userId fun u => { u with
      passwordHash := passwordHash, passwordChangedAt := now }).2.revokeSessionsForUser userId
      .passwordChanged now).2.users.find? (fun u => u.userId = userId) with
  | none =>
    have absent := List.find?_eq_none.mp found _ (List.mem_map_of_mem member)
    rw [if_pos (of_decide_eq_true same)] at absent
    exact absurd same absent
  | some row => exact ⟨row.toRecord, rfl⟩

theorem changePassword_ok {rt : Runtime} {userId password salt : String} {user : UserRecord}
    {after : Database} (h : db.changePassword rt userId password salt now = .ok (user, after)) :
    db.applyPasswordChange userId (rt.hash salt (rt.nfkc password)) now = .ok after := by
  unfold changePassword hashPassword at h
  cases usable : assertUsablePassword rt password with
  | error e =>
    rw [usable] at h
    cases h
  | ok u =>
    rw [usable] at h
    cases applied : db.applyPasswordChange userId (rt.hash salt (rt.nfkc password)) now with
    | error e =>
      simp only [bind, Except.bind, Except.map, applied] at h
      cases h
    | ok between =>
      simp only [bind, Except.bind, Except.map, applied] at h
      cases found : between.requireUser userId with
      | error e =>
        rw [found] at h
        cases h
      | ok record =>
        rw [found] at h
        cases h
        rfl

theorem setUserDisabled_ok {userId : String} {disabled : Bool} {user : UserRecord}
    {after : Database} (h : db.setUserDisabled userId disabled now = .ok (user, after)) :
    Evolution now db.sessions after.sessions [] ∧
      (disabled = true → ∀ r ∈ after.sessions, r.userId = userId → r.revokedAt.isSome) := by
  unfold setUserDisabled at h
  dsimp only at h
  generalize between_eq : (db.updateUser userId fun u =>
    { u with disabledAt := if disabled then some now else none }).2 = between at h
  have sessions : between.sessions = db.sessions := by rw [← between_eq, updateUser_sessions]
  cases disabled with
  | true =>
    simp only [if_true] at h
    split_ifs at h
    cases found : (between.revokeSessionsForUser userId .userDisabled now).2.requireUser userId with
    | error e =>
      rw [found] at h
      cases h
    | ok record =>
      rw [found] at h
      cases h
      refine ⟨?_, fun _ r member same => revoked_revokeWhere member (decide_eq_true same)⟩
      have evolution := evolution_revokeWhere between (fun r => r.userId = userId) .userDisabled
        now []
      rwa [List.append_nil, sessions] at evolution
  | false =>
    simp only [Bool.false_eq_true, if_false] at h
    split_ifs at h
    cases found : between.requireUser userId with
    | error e =>
      rw [found] at h
      cases h
    | ok record =>
      rw [found] at h
      cases h
      exact ⟨sessions ▸ evolution_same now _, nofun⟩

end Database

end CaseSorter.Web.Auth
