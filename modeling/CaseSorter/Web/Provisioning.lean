import CaseSorter.Lib.Runs
import CaseSorter.Web.Accounts

/-! The bootstrap of provisioning.ts, with any number of calls on one database. Outside of
transactions a call moves statement by statement; a transaction is one step, and one that
raises leaves the database as it was. -/

namespace CaseSorter.Web.Auth

open CaseSorter.IsoTime CaseSorter.Runs

def digestsMatch (left right : String) : Bool := left = right

inductive ClaimOutcome
  | ok (user : UserRecord)
  | alreadyProvisioned
  | noOutstandingToken
  | invalidToken
  | expired
  | raised (e : Raised)
  deriving DecidableEq, Repr

namespace Database

def isProvisioned (db : Database) : Bool := db.initializedAt.isSome

/-- The transaction of `issueBootstrapToken`. -/
def issueToken (db : Database) (digest : String) (issuedAt expiresAt : Int) :
    Except Raised Database :=
  let kept := db.bootstrapTokens.filter fun row => row.claimedAt.isSome
  if kept.any fun row => row.tokenHash = digest then
    .error (.sqlite "UNIQUE constraint failed: bootstrap_tokens.token_hash")
  else .ok { db with bootstrapTokens := kept ++ [⟨digest, issuedAt, expiresAt, none, none⟩] }

def outstanding (db : Database) : Option BootstrapRow :=
  db.bootstrapTokens.find? fun row => row.claimedAt.isNone

def isOutstanding (tokenHash : String) (row : BootstrapRow) : Bool :=
  row.tokenHash = tokenHash && row.claimedAt.isNone

/-- The `UPDATE` that spends a token, and how many rows it changed. -/
def spendToken (db : Database) (tokenHash userId : String) (now : Int) : Nat × Database :=
  (db.bootstrapTokens.countP (isOutstanding tokenHash),
    { db with
      bootstrapTokens := db.bootstrapTokens.map fun row =>
        if isOutstanding tokenHash row then
          { row with claimedAt := some now, claimedUserId := some userId }
        else row })

/-- The transaction of `claimBootstrapToken`. -/
def claimToken (db : Database) (tokenHash : String) (prepared : PreparedUser) (now : Int) :
    Except Raised (UserRecord × Database) :=
  match db.insertUser prepared now with
  | .error e => .error e
  | .ok (created, db) =>
    let (changes, db) := db.spendToken tokenHash created.userId now
    if changes = 0 then .error (.provisioning "the bootstrap token was claimed concurrently")
    else .ok (created, { db with initializedAt := some now })

end Database

inductive ClaimProgress
  | checked
  | found (tokenHash : String)
  | prepared (tokenHash : String) (user : PreparedUser)
  | ended (outcome : ClaimOutcome)
  deriving DecidableEq, Repr

structure Claim where
  token : String
  username : String
  password : String
  now : Int
  progress : ClaimProgress
  deriving DecidableEq, Repr

def ClaimProgress.pending : ClaimProgress → Bool
  | .ended _ => false
  | _ => true

def ClaimProgress.target : ClaimProgress → Option String
  | .found tokenHash => some tokenHash
  | .prepared tokenHash _ => some tokenHash
  | _ => none

inductive Call
  | issuing (issuedAt expiresAt : Int)
  | granted (token : String) (issuedAt expiresAt : Int)
  | refused (e : Raised)
  | claiming (claim : Claim)
  deriving DecidableEq, Repr

def Call.created : Call → Option UserRecord
  | .claiming c =>
    match c.progress with
    | .ended (.ok user) => some user
    | _ => none
  | _ => none

def Call.presented (rt : Runtime) : Call → Option String
  | .claiming c => some (rt.sha256 c.token)
  | _ => none

/-- The database and all calls on it, those that are over included. -/
structure Provisioning where
  database : Database
  calls : List Call
  deriving DecidableEq, Repr

inductive ProvisioningEvent
  | issue (now lifetimeMs : Int)
  | issueCommit (call : Nat) (token : String)
  | claim (token username password : String) (now : Int)
  | lookup (call : Nat)
  | prepare (call : Nat) (userId salt : String)
  | commit (call : Nat)
  deriving DecidableEq, Repr

namespace Provisioning

def start : Provisioning := ⟨.migrated, []⟩

def add (s : Provisioning) (call : Call) : Provisioning := { s with calls := s.calls ++ [call] }

def set (s : Provisioning) (i : Nat) (call : Call) : Provisioning :=
  { s with calls := s.calls.set i call }

/-- `issueBootstrapToken` to its transaction. -/
def issue (s : Provisioning) (now lifetimeMs : Int) : Call :=
  if lifetimeMs ≤ 0 then
    .refused (.provisioning "a bootstrap token must be given a positive lifetime")
  else if s.database.isProvisioned then
    .refused (.provisioning
      "this appliance is already provisioned; create further accounts as an administrator")
  else .issuing now (now + lifetimeMs)

/-- `claimBootstrapToken` from the lookup to the suspension. -/
def lookup (rt : Runtime) (s : Provisioning) (c : Claim) : ClaimProgress :=
  match s.database.outstanding with
  | none => .ended .noOutstandingToken
  | some row =>
    if digestsMatch row.tokenHash (rt.sha256 c.token) = false then .ended .invalidToken
    else if isoText row.expiresAt ≤ isoText c.now then .ended .expired
    else .found row.tokenHash

def step (rt : Runtime) (s : Provisioning) : ProvisioningEvent → Option Provisioning
  | .issue now lifetimeMs => some (s.add (s.issue now lifetimeMs))
  | .issueCommit i token =>
    match s.calls[i]? with
    | some (.issuing issuedAt expiresAt) =>
      match s.database.issueToken (rt.sha256 token) issuedAt expiresAt with
      | .error e => some (s.set i (.refused e))
      | .ok db => some { s.set i (.granted token issuedAt expiresAt) with database := db }
    | _ => none
  | .claim token username password now =>
    let progress :=
      if s.database.isProvisioned then .ended .alreadyProvisioned else ClaimProgress.checked
    some (s.add (.claiming ⟨token, username, password, now, progress⟩))
  | .lookup i =>
    match s.calls[i]? with
    | some (.claiming c) =>
      match c.progress with
      | .checked => some (s.set i (.claiming { c with progress := lookup rt s c }))
      | _ => none
    | _ => none
  | .prepare i userId salt =>
    match s.calls[i]? with
    | some (.claiming c) =>
      match c.progress with
      | .found tokenHash =>
        match prepareUser rt c.username c.password .administrator userId salt with
        | .error e => some (s.set i (.claiming { c with progress := .ended (.raised e) }))
        | .ok user => some (s.set i (.claiming { c with progress := .prepared tokenHash user }))
      | _ => none
    | _ => none
  | .commit i =>
    match s.calls[i]? with
    | some (.claiming c) =>
      match c.progress with
      | .prepared tokenHash user =>
        match s.database.claimToken tokenHash user c.now with
        | .error e => some (s.set i (.claiming { c with progress := .ended (.raised e) }))
        | .ok (created, db) =>
          some
            { s.set i (.claiming { c with progress := .ended (.ok created) }) with database := db }
      | _ => none
    | _ => none

/-- The accounts that claims have returned. -/
def created (s : Provisioning) : List UserRecord := s.calls.filterMap Call.created

/-- A token comes out of the random source when no claim that has begun presents it. -/
def Unguessed (rt : Runtime) (s : Provisioning) : ProvisioningEvent → Prop
  | .issueCommit _ token => ∀ call ∈ s.calls, call.presented rt ≠ some (rt.sha256 token)
  | _ => True

instance (rt : Runtime) (s : Provisioning) : ∀ e, Decidable (Unguessed rt s e)
  | .issueCommit _ token =>
    inferInstanceAs (Decidable (∀ call ∈ s.calls, call.presented rt ≠ some (rt.sha256 token)))
  | .issue _ _ | .claim _ _ _ _ | .lookup _ | .prepare _ _ _ | .commit _ => .isTrue trivial

end Provisioning

namespace Database

variable {db after : Database} {tokenHash digest : String}

theorem issueToken_ok {issuedAt expiresAt : Int}
    (h : db.issueToken digest issuedAt expiresAt = .ok after) :
    after.users = db.users ∧ after.initializedAt = db.initializedAt ∧
      ∀ row ∈ after.bootstrapTokens, row.claimedAt = none → row.tokenHash = digest := by
  unfold issueToken at h
  dsimp only at h
  split_ifs at h
  cases h
  refine ⟨rfl, rfl, fun row member unclaimed => ?_⟩
  rcases List.mem_append.mp member with old | new
  · have claimed := (List.mem_filter.mp old).2
    rw [unclaimed] at claimed
    cases claimed
  · rw [List.mem_singleton.mp new]

theorem mem_spendToken {userId : String} {now : Int} {row : BootstrapRow}
    (member : row ∈ (db.spendToken tokenHash userId now).2.bootstrapTokens)
    (unclaimed : row.claimedAt = none) :
    row ∈ db.bootstrapTokens ∧ row.tokenHash ≠ tokenHash := by
  obtain ⟨old, inside, is⟩ := List.mem_map.mp member
  split_ifs at is with spent
  · rw [← is] at unclaimed
    cases unclaimed
  · subst is
    refine ⟨inside, fun same => spent ?_⟩
    simp [isOutstanding, same, unclaimed]

theorem claimToken_ok {prepared : PreparedUser} {now : Int} {user : UserRecord}
    (h : db.claimToken tokenHash prepared now = .ok (user, after)) :
    (∃ row ∈ db.bootstrapTokens, row.tokenHash = tokenHash ∧ row.claimedAt = none) ∧
      (∃ row : UserRow, user = row.toRecord ∧ after.users = db.users ++ [row]) ∧
      after.initializedAt.isSome ∧
      ∀ row ∈ after.bootstrapTokens, row.claimedAt = none →
        row ∈ db.bootstrapTokens ∧ row.tokenHash ≠ tokenHash := by
  unfold claimToken at h
  cases inserted : db.insertUser prepared now with
  | error e =>
    rw [inserted] at h
    cases h
  | ok both =>
    obtain ⟨made, between⟩ := both
    obtain ⟨row, record, -, -, between_eq⟩ := insertUser_ok inserted
    rw [inserted] at h
    dsimp only at h
    split_ifs at h with changes
    cases h
    have tokens : between.bootstrapTokens = db.bootstrapTokens := by rw [between_eq]
    refine ⟨?_, ⟨row, record, ?_⟩, rfl, fun left member unclaimed => ?_⟩
    · have some_row := List.countP_pos_iff.mp (Nat.pos_of_ne_zero changes)
      obtain ⟨old, member, is⟩ := some_row
      rw [tokens] at member
      rw [isOutstanding, Bool.and_eq_true, decide_eq_true_eq, Option.isNone_iff_eq_none] at is
      exact ⟨old, member, is⟩
    · show between.users = _
      rw [between_eq]
    · rw [← tokens]
      exact mem_spendToken member unclaimed

end Database

namespace Provisioning

variable {rt : Runtime} {s t : Provisioning}

/-- The token a claim is about to spend is the one it presents, and in a provisioned database
nothing is left of it. -/
structure ClaimSound (rt : Runtime) (db : Database) (c : Claim) : Prop where
  target : ∀ tokenHash, c.progress.target = some tokenHash → tokenHash = rt.sha256 c.token
  spent : db.initializedAt.isSome → c.progress.pending = true →
    ∀ row ∈ db.bootstrapTokens, row.claimedAt = none → row.tokenHash ≠ rt.sha256 c.token

/-- All outstanding tokens are one, every claim is sound, and the accounts are those that
claims have returned: one at most, and none before the database is provisioned. -/
structure Sound (rt : Runtime) (s : Provisioning) : Prop where
  single : ∀ a ∈ s.database.bootstrapTokens, ∀ b ∈ s.database.bootstrapTokens,
    a.claimedAt = none → b.claimedAt = none → a.tokenHash = b.tokenHash
  claims : ∀ c, .claiming c ∈ s.calls → ClaimSound rt s.database c
  users : s.database.users.map UserRow.toRecord = s.created
  unprovisioned : s.database.initializedAt = none → s.created = []
  most : s.created.length ≤ 1

theorem sound_start (rt : Runtime) : Sound rt start where
  single := by simp [start, Database.migrated]
  claims := by simp [start]
  users := rfl
  unprovisioned _ := rfl
  most := Nat.zero_le _

theorem created_set {i : Nat} {old : Call} (at_i : s.calls[i]? = some old)
    (bare : old.created = none) (call : Call) :
    ∃ front back, s.created = front ++ back ∧
      (s.set i call).created = front ++ call.created.toList ++ back := by
  obtain ⟨bound, is⟩ := List.getElem?_eq_some_iff.mp at_i
  obtain ⟨front, back, split, -, changed⟩ := @List.exists_of_set _ i call s.calls bound
  refine ⟨front.filterMap Call.created, back.filterMap Call.created, ?_, ?_⟩
  · unfold created
    rw [split, is, List.filterMap_append, List.filterMap_cons_none bare]
  · unfold created set
    dsimp only
    rw [changed, List.filterMap_append, List.append_assoc]
    cases got : call.created with
    | none => rw [List.filterMap_cons_none got, Option.toList_none, List.nil_append]
    | some user =>
      rw [List.filterMap_cons_some got, Option.toList_some, List.singleton_append]

theorem created_set_none {i : Nat} {old call : Call} (at_i : s.calls[i]? = some old)
    (bare : old.created = none) (quiet : call.created = none) :
    (s.set i call).created = s.created := by
  obtain ⟨front, back, before, after⟩ := created_set at_i bare call
  rw [after, before, quiet, Option.toList_none, List.append_nil]

theorem created_add {call : Call} (quiet : call.created = none) :
    (s.add call).created = s.created := by
  unfold created add
  rw [List.filterMap_append, List.filterMap_cons_none quiet, List.filterMap_nil, List.append_nil]

theorem Sound.quiet (h : Sound rt s) {calls : List Call}
    (claims : ∀ c, .claiming c ∈ calls → .claiming c ∈ s.calls ∨
      ClaimSound rt s.database c)
    (created : Provisioning.created { s with calls := calls } = s.created) :
    Sound rt { s with calls := calls } where
  single := h.single
  claims c member := (claims c member).elim (h.claims c) id
  users := h.users.trans created.symm
  unprovisioned none := created.trans (h.unprovisioned none)
  most := created ▸ h.most

theorem Sound.set_quiet (h : Sound rt s) {i : Nat} {old call : Call}
    (at_i : s.calls[i]? = some old) (bare : old.created = none) (quiet : call.created = none)
    (sound : ∀ c, call = .claiming c → ClaimSound rt s.database c) :
      Sound rt (s.set i call) := by
  refine h.quiet (fun c member => ?_) (created_set_none at_i bare quiet)
  rcases List.mem_or_eq_of_mem_set member with old | new
  · exact .inl old
  · exact .inr (sound c new.symm)

theorem Sound.add_quiet (h : Sound rt s) {call : Call} (quiet : call.created = none)
    (sound : ∀ c, call = .claiming c → ClaimSound rt s.database c) : Sound rt (s.add call) := by
  refine h.quiet (fun c member => ?_) (created_add quiet)
  rcases List.mem_append.mp member with old | new
  · exact .inl old
  · exact .inr (sound c (List.mem_singleton.mp new).symm)

theorem claimSound_ended (db : Database) {c : Claim} {outcome : ClaimOutcome}
    (ended : c.progress = .ended outcome) : ClaimSound rt db c where
  target tokenHash is := by
    rw [ended] at is
    cases is
  spent _ pending := by
    rw [ended] at pending
    cases pending

theorem ClaimSound.advance {db : Database} {c : Claim} (h : ClaimSound rt db c)
    (pending : c.progress.pending = true) {progress : ClaimProgress}
    (target : ∀ tokenHash, progress.target = some tokenHash → tokenHash = rt.sha256 c.token) :
    ClaimSound rt db { c with progress := progress } where
  target := target
  spent provisioned _ := h.spent provisioned pending

theorem sound_lookup {c : Claim} (h : ClaimSound rt s.database c)
    (checked : c.progress = .checked) :
    ClaimSound rt s.database { c with progress := lookup rt s c } ∧
      Call.created (.claiming { c with progress := lookup rt s c }) = none := by
  unfold lookup
  split
  · exact ⟨claimSound_ended _ rfl, rfl⟩
  · split_ifs with other expired
    · exact ⟨claimSound_ended _ rfl, rfl⟩
    · exact ⟨claimSound_ended _ rfl, rfl⟩
    · refine ⟨h.advance (by rw [checked]; rfl) fun tokenHash is => ?_, rfl⟩
      cases is
      rw [digestsMatch, decide_eq_false_iff_not, Decidable.not_not] at other
      exact other

theorem Sound.issued (h : Sound rt s) {i : Nat} {token : String} {issuedAt expiresAt : Int}
    {db : Database} (at_i : s.calls[i]? = some (.issuing issuedAt expiresAt))
    (issued : s.database.issueToken (rt.sha256 token) issuedAt expiresAt = .ok db)
    (unguessed : ∀ call ∈ s.calls, call.presented rt ≠ some (rt.sha256 token)) :
    Sound rt { s.set i (.granted token issuedAt expiresAt) with database := db } := by
  obtain ⟨users, initialized, fresh⟩ := Database.issueToken_ok issued
  have created : (s.set i (.granted token issuedAt expiresAt)).created = s.created :=
    created_set_none at_i rfl rfl
  refine ⟨?_, fun c member => ?_, ?_, ?_, ?_⟩
  · intro a ha b hb free free'
    rw [fresh a ha free, fresh b hb free']
  · rcases List.mem_or_eq_of_mem_set member with old | new
    · refine ⟨(h.claims c old).target, fun _ _ row inside free same => ?_⟩
      exact unguessed _ old (congrArg some (same.symm.trans (fresh row inside free)))
    · cases new
  · show db.users.map UserRow.toRecord = (s.set i _).created
    rw [users, h.users, created]
  · show db.initializedAt = none → (s.set i _).created = []
    rw [initialized, created]
    exact h.unprovisioned
  · show (s.set i _).created.length ≤ 1
    rw [created]
    exact h.most

theorem Sound.claimed (h : Sound rt s) {i : Nat} {c : Claim} {tokenHash : String}
    {prepared : PreparedUser} {user : UserRecord} {db : Database}
    (at_i : s.calls[i]? = some (.claiming c)) (ready : c.progress = .prepared tokenHash prepared)
    (claimed : s.database.claimToken tokenHash prepared c.now = .ok (user, db)) :
    Sound rt
      { s.set i (.claiming { c with progress := .ended (.ok user) }) with database := db } := by
  obtain ⟨⟨spent, inside, same, free⟩, ⟨row, record, users⟩, provisioned, left⟩ :=
    Database.claimToken_ok claimed
  have sound := h.claims c (List.mem_of_getElem? at_i)
  have target : tokenHash = rt.sha256 c.token := sound.target tokenHash (by rw [ready]; rfl)
  have unprovisioned : s.database.initializedAt = none := by
    by_contra some_instant
    refine sound.spent (Option.isSome_iff_ne_none.mpr some_instant) ?_ spent inside free ?_
    · rw [ready]
      rfl
    · rw [same, target]
  have nothing := h.unprovisioned unprovisioned
  have gone : Call.created (.claiming c) = none := by
    rw [Call.created, ready]
  obtain ⟨front, back, before, after⟩ :=
    created_set at_i gone (.claiming { c with progress := .ended (.ok user) })
  rw [nothing] at before
  obtain ⟨rfl, rfl⟩ := List.append_eq_nil_iff.mp before.symm
  have none_left : ∀ left ∈ db.bootstrapTokens, left.claimedAt ≠ none := by
    intro other member unclaimed
    obtain ⟨old, differs⟩ := left other member unclaimed
    exact differs ((h.single other old spent inside unclaimed free).trans same)
  refine ⟨?_, fun d member => ?_, ?_, ?_, ?_⟩
  · intro a ha _ _ unclaimed
    exact absurd unclaimed (none_left a ha)
  · refine ⟨fun digest is => ?_, fun _ _ other inside unclaimed => ?_⟩
    · rcases List.mem_or_eq_of_mem_set member with old | new
      · exact (h.claims d old).target digest is
      · cases new
        cases is
    · exact absurd unclaimed (none_left other inside)
  · show db.users.map UserRow.toRecord = (s.set i _).created
    rw [after, users, List.map_append, h.users, nothing, record]
    rfl
  · intro unset
    rw [show db.initializedAt = none from unset] at provisioned
    cases provisioned
  · show (s.set i _).created.length ≤ 1
    rw [after]
    exact Nat.le_refl 1

theorem sound_step {e : ProvisioningEvent} (h : Sound rt s) (unguessed : Unguessed rt s e)
    (stepped : step rt s e = some t) : Sound rt t := by
  cases e with
  | issue now lifetimeMs =>
    cases stepped
    refine h.add_quiet ?_ fun c is => ?_ <;> unfold issue at *
    · split_ifs <;> rfl
    · split_ifs at is
  | issueCommit i token =>
    simp only [step] at stepped
    split at stepped
    · rename_i issuedAt expiresAt at_i
      cases issued : s.database.issueToken (rt.sha256 token) issuedAt expiresAt with
      | error e =>
        rw [issued] at stepped
        cases stepped
        exact h.set_quiet at_i rfl rfl nofun
      | ok db =>
        rw [issued] at stepped
        cases stepped
        exact h.issued at_i issued unguessed
    · cases stepped
  | claim token username password now =>
    cases stepped
    by_cases provisioned : s.database.isProvisioned = true
    · rw [if_pos provisioned]
      exact h.add_quiet rfl fun c is => by
        cases is
        exact claimSound_ended _ rfl
    · rw [if_neg provisioned]
      refine h.add_quiet rfl fun c is => ?_
      cases is
      exact ⟨nofun, fun yes => absurd yes provisioned⟩
  | lookup i =>
    simp only [step] at stepped
    split at stepped
    · rename_i c at_i
      split at stepped
      · rename_i checked
        cases stepped
        obtain ⟨sound, bare⟩ := sound_lookup (h.claims c (List.mem_of_getElem? at_i)) checked
        refine h.set_quiet at_i (by rw [Call.created, checked]) bare fun d is => ?_
        cases is
        exact sound
      · cases stepped
    · cases stepped
  | prepare i userId salt =>
    simp only [step] at stepped
    split at stepped
    · rename_i c at_i
      split at stepped
      · rename_i tokenHash found
        have sound := h.claims c (List.mem_of_getElem? at_i)
        have bare : Call.created (.claiming c) = none := by rw [Call.created, found]
        cases made : prepareUser rt c.username c.password .administrator userId salt with
        | error e =>
          rw [made] at stepped
          cases stepped
          refine h.set_quiet at_i bare rfl fun d is => ?_
          cases is
          exact claimSound_ended _ rfl
        | ok user =>
          rw [made] at stepped
          cases stepped
          refine h.set_quiet at_i bare rfl fun d is => ?_
          cases is
          refine sound.advance (by rw [found]; rfl) fun digest is => ?_
          exact sound.target digest (by rw [found]; exact is)
      · cases stepped
    · cases stepped
  | commit i =>
    simp only [step] at stepped
    split at stepped
    · rename_i c at_i
      split at stepped
      · rename_i tokenHash prepared ready
        cases claimed : s.database.claimToken tokenHash prepared c.now with
        | error e =>
          rw [claimed] at stepped
          cases stepped
          refine h.set_quiet at_i (by rw [Call.created, ready]) rfl fun d is => ?_
          cases is
          exact claimSound_ended _ rfl
        | ok both =>
          obtain ⟨user, db⟩ := both
          rw [claimed] at stepped
          cases stepped
          exact h.claimed at_i ready claimed
      · cases stepped
    · cases stepped

theorem users_step {e : ProvisioningEvent} (stepped : step rt s e = some t) :
    s.database.users <+: t.database.users := by
  cases e with
  | issueCommit i token =>
    simp only [step] at stepped
    split at stepped
    · rename_i issuedAt expiresAt at_i
      cases issued : s.database.issueToken (rt.sha256 token) issuedAt expiresAt with
      | error e =>
        rw [issued] at stepped
        cases stepped
        exact List.prefix_rfl
      | ok db =>
        rw [issued] at stepped
        cases stepped
        exact (Database.issueToken_ok issued).1 ▸ List.prefix_rfl
    · cases stepped
  | commit i =>
    simp only [step] at stepped
    split at stepped
    · rename_i c at_i
      split at stepped
      · rename_i tokenHash prepared ready
        cases claimed : s.database.claimToken tokenHash prepared c.now with
        | error e =>
          rw [claimed] at stepped
          cases stepped
          exact List.prefix_rfl
        | ok both =>
          obtain ⟨user, db⟩ := both
          rw [claimed] at stepped
          cases stepped
          obtain ⟨-, ⟨row, -, users⟩, -⟩ := Database.claimToken_ok claimed
          exact users ▸ List.prefix_append _ _
      · cases stepped
    · cases stepped
  | issue | claim =>
    cases stepped
    exact List.prefix_rfl
  | lookup | prepare =>
    simp only [step] at stepped
    repeat' split at stepped
    all_goals cases stepped
    all_goals exact List.prefix_rfl

theorem users_run {es : List ProvisioningEvent} (ran : run (step rt) s es = some t) :
    s.database.users <+: t.database.users :=
  run_invariant (motive := fun u => s.database.users <+: u.database.users)
    (fun _ _ _ held (_ : True) stepped => held.trans (users_step stepped)) List.prefix_rfl
    (meets_of_forall (fun _ _ _ => trivial) s) ran

theorem sound_run {es : List ProvisioningEvent} (ran : run (step rt) start es = some s)
    (unguessed : Meets (step rt) (Unguessed rt) start es) : Sound rt s :=
  run_invariant (fun _ _ _ h unguessed stepped => sound_step h unguessed stepped) (sound_start rt)
    unguessed ran

/-- With tokens that nobody presents before they exist, at most one claim returns an account,
every account is one that a claim has returned, and from the first on they stay as they are. -/
theorem bootstrap_once {es : List ProvisioningEvent} (ran : run (step rt) start es = some s)
    (unguessed : Meets (step rt) (Unguessed rt) start es) :
    s.created.length ≤ 1 ∧ s.database.users.map UserRow.toRecord = s.created ∧
      ∀ before after t, es = before ++ after → run (step rt) start before = some t →
        t.created ≠ [] → s.database.users = t.database.users := by
  have sound := sound_run ran unguessed
  refine ⟨sound.most, sound.users, fun before after t split reached claimed => ?_⟩
  subst split
  obtain ⟨u, first, rest⟩ := run_append_eq_some.mp ran
  cases reached.symm.trans first
  have earlier := sound_run reached (meets_append unguessed)
  have kept := users_run rest
  have some_user : t.database.users.length ≠ 0 := by
    intro empty
    refine claimed ?_
    rw [← earlier.users, List.length_eq_zero_iff.mp empty]
    rfl
  have most : s.database.users.length ≤ 1 := by
    rw [← List.length_map (f := UserRow.toRecord), sound.users]
    exact sound.most
  exact (kept.eq_of_length_le (by omega)).symm

def contested : List ProvisioningEvent :=
  [.issue 0 3600000, .issueCommit 0 "one", .claim "one" "admin" "correct horse" 1000,
    .claim "one" "other" "battery staple" 1000, .issue 1000 3600000, .lookup 1, .lookup 2,
    .prepare 1 "user_1" "salt one", .prepare 2 "user_2" "salt two",
    .commit 2, .commit 1, .issueCommit 3 "two"]

theorem bootstrap_once_contested :
    (runD (step plainRuntime) start contested).created.length ≤ 1 ∧
      (runD (step plainRuntime) start contested).database.users.map UserRow.toRecord =
        (runD (step plainRuntime) start contested).created ∧
      ∀ before after t, contested = before ++ after →
        run (step plainRuntime) start before = some t → t.created ≠ [] →
        (runD (step plainRuntime) start contested).database.users = t.database.users :=
  bootstrap_once (run_eq_runD (by decide +kernel)) (by decide +kernel)

end Provisioning

end CaseSorter.Web.Auth
