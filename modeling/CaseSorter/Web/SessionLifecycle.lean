import CaseSorter.Lib.Runs
import CaseSorter.Web.Sessions

/-! The life of a session, over every sequence of the operations on sessions and the two on
accounts that revoke them, with a clock that does not go back. The ledger keeps beside the
database the tokens that were issued and the digests of the sessions that were revoked. -/

namespace CaseSorter.Web.Auth

open CaseSorter.IsoTime CaseSorter.Runs

inductive SessionEvent
  | issueSession (token sessionId userId : String) (replaces : Option String) (now : Int)
  | resolveSession (token : String) (now : Int)
  | revokeSession (sessionId : String) (reason : RevocationReason) (now : Int)
  | revokeSessionByToken (token : String) (reason : RevocationReason) (now : Int)
  | setUserDisabled (userId : String) (disabled : Bool) (now : Int)
  | changePassword (userId password salt : String) (now : Int)
  | pruneExpiredSessions (now : Int)
  deriving DecidableEq, Repr

def SessionEvent.now : SessionEvent → Int
  | .issueSession _ _ _ _ now => now
  | .resolveSession _ now => now
  | .revokeSession _ _ now => now
  | .revokeSessionByToken _ _ now => now
  | .setUserDisabled _ _ now => now
  | .changePassword _ _ _ now => now
  | .pruneExpiredSessions now => now

structure SessionLedger where
  database : Database
  clock : Int
  issued : List (String × String)
  revoked : List String
  deriving DecidableEq, Repr

namespace SessionLedger

/-- Accounts, and no session yet. -/
def start (users : List UserRow) (clock : Int) : SessionLedger :=
  ⟨⟨users, [], [], none⟩, clock, [], []⟩

def effect (rt : Runtime) (db : Database) : SessionEvent → Database
  | .issueSession token sessionId userId replaces now =>
    match db.issueSession rt token sessionId userId replaces now with
    | .ok (_, after) => after
    | .error _ => db
  | .resolveSession token now => (db.resolveSession rt token now).2
  | .revokeSession sessionId reason now => (db.revokeSession sessionId reason now).2
  | .revokeSessionByToken token reason now => (db.revokeSessionByToken rt token reason now).2
  | .setUserDisabled userId disabled now =>
    match db.setUserDisabled userId disabled now with
    | .ok (_, after) => after
    | .error _ => db
  | .changePassword userId password salt now =>
    match db.changePassword rt userId password salt now with
    | .ok (_, after) => after
    | .error _ => db
  | .pruneExpiredSessions now => (db.pruneExpiredSessions now).2

def issues (rt : Runtime) (db : Database) : SessionEvent → List (String × String)
  | .issueSession token sessionId userId replaces now =>
    match db.issueSession rt token sessionId userId replaces now with
    | .ok _ => [(token, userId)]
    | .error _ => []
  | _ => []

def revokedDigests (db : Database) : List String :=
  (db.sessions.filter fun r => r.revokedAt.isSome).map SessionRow.tokenHash

def step (rt : Runtime) (s : SessionLedger) (e : SessionEvent) : Option SessionLedger :=
  if e.now < s.clock then none
  else
    let after := effect rt s.database e
    some
      { database := after
        clock := e.now
        issued := issues rt s.database e ++ s.issued
        revoked := revokedDigests after ++ s.revoked }

def answer (rt : Runtime) (s : SessionLedger) (token : String) (now : Int) : ResolvedSession :=
  (s.database.resolveSession rt token now).1

/-- A token that is issued is a new one, and one that is presented has the digest of an issued
one only by being it. -/
def Unforged (rt : Runtime) (s : SessionLedger) : SessionEvent → Prop
  | .issueSession token _ _ _ _ => ∀ old ∈ s.issued, rt.sha256 old.1 ≠ rt.sha256 token
  | .resolveSession token _ =>
    ∀ old ∈ s.issued, rt.sha256 old.1 = rt.sha256 token → old.1 = token
  | _ => True

instance (rt : Runtime) (s : SessionLedger) : ∀ e, Decidable (Unforged rt s e)
  | .issueSession token _ _ _ _ =>
    inferInstanceAs (Decidable (∀ old ∈ s.issued, rt.sha256 old.1 ≠ rt.sha256 token))
  | .resolveSession token _ =>
    inferInstanceAs
      (Decidable (∀ old ∈ s.issued, rt.sha256 old.1 = rt.sha256 token → old.1 = token))
  | .revokeSession _ _ _ | .revokeSessionByToken _ _ _ | .setUserDisabled _ _ _
  | .changePassword _ _ _ _ | .pruneExpiredSessions _ => .isTrue trivial

/-- The event ends the session of a token for good: it finds it revoked or expired, or it
completes a change of the password or a disabling of the account the token was issued for. -/
def Ends (rt : Runtime) (s : SessionLedger) (token : String) : SessionEvent → Prop
  | .resolveSession presented now =>
    presented = token ∧
      (s.answer rt token now = .rejected .revoked ∨ s.answer rt token now = .rejected .expired)
  | .changePassword userId password salt now =>
    (token, userId) ∈ s.issued ∧
      (s.database.changePassword rt userId password salt now).isOk = true
  | .setUserDisabled userId disabled now =>
    (token, userId) ∈ s.issued ∧ disabled = true ∧
      (s.database.setUserDisabled userId disabled now).isOk = true
  | _ => False

theorem effect_cases (rt : Runtime) {db : Database} (keyed : db.Keyed) (e : SessionEvent) :
    (issues rt db e = [] ∧ Evolution e.now db.sessions (effect rt db e).sessions []) ∨
      ∃ token sessionId userId replaces now,
        e = .issueSession token sessionId userId replaces now ∧
          issues rt db e = [(token, userId)] ∧
          Evolution now db.sessions (effect rt db e).sessions
            [Database.newSession sessionId (rt.sha256 token) userId now] ∧
          ∀ r ∈ db.sessions, r.sessionId ≠ sessionId ∧ r.tokenHash ≠ rt.sha256 token := by
  cases e with
  | issueSession token sessionId userId replaces now =>
    cases issued : db.issueSession rt token sessionId userId replaces now with
    | error e =>
      refine .inl ?_
      simp only [issues, effect, issued]
      exact ⟨trivial, evolution_same now _⟩
    | ok both =>
      obtain ⟨stored, after⟩ := both
      obtain ⟨-, evolution, fresh, -⟩ := Database.issueSession_ok issued
      refine .inr ⟨token, sessionId, userId, replaces, now, rfl, ?_, ?_, fresh⟩
      · simp only [issues, issued]
      · simpa only [effect, issued] using evolution
  | resolveSession token now =>
    exact .inl ⟨rfl, Database.evolution_resolveSession keyed rt token now⟩
  | revokeSession sessionId reason now =>
    have evolution := Database.evolution_revokeWhere db (fun r => r.sessionId = sessionId) reason
      now []
    rw [List.append_nil] at evolution
    exact .inl ⟨rfl, evolution⟩
  | revokeSessionByToken token reason now =>
    have evolution := Database.evolution_revokeWhere db (fun r => r.tokenHash = rt.sha256 token)
      reason now []
    rw [List.append_nil] at evolution
    exact .inl ⟨rfl, evolution⟩
  | setUserDisabled userId disabled now =>
    refine .inl ⟨rfl, ?_⟩
    cases done : db.setUserDisabled userId disabled now with
    | error e =>
      simp only [effect, done]
      exact evolution_same now _
    | ok both =>
      simp only [effect, done]
      exact (Database.setUserDisabled_ok done).1
  | changePassword userId password salt now =>
    refine .inl ⟨rfl, ?_⟩
    cases done : db.changePassword rt userId password salt now with
    | error e =>
      simp only [effect, done]
      exact evolution_same now _
    | ok both =>
      simp only [effect, done]
      exact (Database.applyPasswordChange_ok (Database.changePassword_ok done)).2.1
  | pruneExpiredSessions now =>
    exact .inl ⟨rfl, Database.evolution_pruneExpiredSessions db now⟩

theorem step_eq_some {rt : Runtime} {s t : SessionLedger} {e : SessionEvent} :
    step rt s e = some t ↔
      s.clock ≤ e.now ∧
        t = { database := effect rt s.database e
              clock := e.now
              issued := issues rt s.database e ++ s.issued
              revoked := revokedDigests (effect rt s.database e) ++ s.revoked } := by
  unfold step
  split_ifs with back
  · exact ⟨nofun, fun both => absurd both.1 (Int.not_le.mpr back)⟩
  · exact ⟨fun is => ⟨Int.not_lt.mp back, (Option.some.inj is).symm⟩,
      fun both => congrArg some both.2.symm⟩

theorem hasExpired_mono {session : SessionRecord} {t u : Int} (ht : t ∈ plain) (hu : u ∈ plain)
    (le : t ≤ u) (expired : hasExpired session t = true) : hasExpired session u = true := by
  have texts := isoText_mono ht hu le
  unfold hasExpired at expired ⊢
  rw [Bool.or_eq_true, decide_eq_true_eq, decide_eq_true_eq] at expired ⊢
  exact expired.imp (le_trans · texts) (le_trans · texts)

def Dead (rt : Runtime) (s : SessionLedger) (digest : String) : Prop :=
  (∃ old ∈ s.issued, rt.sha256 old.1 = digest) ∧
    ∃ reading ∈ plain, reading ≤ s.clock ∧
    ∀ r ∈ s.database.sessions, r.tokenHash = digest →
      r.revokedAt.isSome ∨ hasExpired r.toRecord reading = true

/-- The sessions are of tokens that were issued, each of which is one of its own; their dates
are in order, and what was revoked stays dead. -/
structure Sound (rt : Runtime) (s : SessionLedger) : Prop where
  keyed : s.database.Keyed
  dated : ∀ r ∈ s.database.sessions, r.createdAt ∈ plain ∧ r.createdAt ≤ s.clock ∧
    r.createdAt ≤ r.idleExpiresAt ∧ r.idleExpiresAt ≤ r.absoluteExpiresAt
  tokens : ∀ r ∈ s.database.sessions, ∃ token, (token, r.userId) ∈ s.issued ∧
    rt.sha256 token = r.tokenHash
  distinct : (s.issued.map fun p => rt.sha256 p.1).Nodup
  revoked : ∀ digest ∈ s.revoked, Dead rt s digest

variable {rt : Runtime} {s t : SessionLedger} {e : SessionEvent} {digest : String}

theorem sound_start (rt : Runtime) (users : List UserRow) (clock : Int) :
    Sound rt (start users clock) where
  keyed := ⟨List.nodup_nil, List.nodup_nil⟩
  dated := nofun
  tokens := nofun
  distinct := List.nodup_nil
  revoked := nofun

theorem dead_step (h : Dead rt s digest) (keyed : s.database.Keyed) (now : e.now ∈ plain)
    (unforged : Unforged rt s e) (stepped : step rt s e = some t) : Dead rt t digest := by
  obtain ⟨forward, rfl⟩ := step_eq_some.mp stepped
  obtain ⟨⟨old, issued, same⟩, reading, inside, behind, all⟩ := h
  refine ⟨⟨old, List.mem_append_right _ issued, same⟩, reading, inside, ?_, ?_⟩
  · exact Int.le_trans behind forward
  have evolved : ∀ before after, before ∈ s.database.sessions → Evolves e.now before after →
      after.tokenHash = digest →
      after.revokedAt.isSome ∨ hasExpired after.toRecord reading = true := by
    intro before after member evolves is
    rcases all before member (evolves.tokenHash ▸ is) with revoked | expired
    · exact .inl (evolves.revokedAt revoked)
    · rcases evolves.idleExpiresAt with kept | ⟨-, live, -⟩
      · refine .inr ?_
        unfold hasExpired SessionRow.toRecord at expired ⊢
        dsimp only at expired ⊢
        rwa [kept, evolves.absoluteExpiresAt]
      · have still := hasExpired_mono inside now (Int.le_trans behind forward) expired
        rw [live] at still
        cases still
  intro r member is
  rcases effect_cases rt keyed e with
    ⟨-, evolution⟩ | ⟨token, sessionId, userId, replaces, at_now, rfl, -, evolution, -⟩
  · rcases evolution.cases member with ⟨before, inside, evolves⟩ | new
    · exact evolved before r inside evolves is
    · cases new
  · rcases evolution.cases member with ⟨before, inside, evolves⟩ | new
    · exact evolved before r inside evolves is
    · rw [List.mem_singleton.mp new] at is
      exact absurd (same.trans is.symm) (unforged old issued)

theorem Sound.dead (h : Sound rt s) {r : SessionRow} (member : r ∈ s.database.sessions)
    {reading : Int} (inside : reading ∈ plain) (behind : reading ≤ s.clock)
    (gone : r.revokedAt.isSome ∨ hasExpired r.toRecord reading = true) :
    Dead rt s r.tokenHash := by
  obtain ⟨token, issued, same⟩ := h.tokens r member
  refine ⟨⟨_, issued, same⟩, reading, inside, behind, fun other among is => ?_⟩
  rwa [List.inj_on_of_nodup_map h.keyed.tokenHashes among member is]

theorem sound_step (h : Sound rt s) (now : e.now ∈ plain) (unforged : Unforged rt s e)
    (stepped : step rt s e = some t) : Sound rt t := by
  have dead : ∀ digest, Dead rt s digest → Dead rt t digest :=
    fun digest dead => dead_step dead h.keyed now unforged stepped
  obtain ⟨forward, is⟩ := step_eq_some.mp stepped
  -- all but the digests of revoked sessions, which are dead by the rest
  have base : ∀ revoked, (∀ digest ∈ revoked, Dead rt t digest) →
      Sound rt { t with revoked := revoked } := by
    subst is
    intro revoked known
    rcases effect_cases rt h.keyed e with
      ⟨none, evolution⟩ | ⟨token, sessionId, userId, replaces, at_now, rfl, new,
        evolution, fresh⟩
    · refine ⟨⟨?_, ?_⟩, fun r member => ?_, fun r member => ?_, ?_, known⟩
      · exact evolution.names (fun _ _ evolves => evolves.sessionId) h.keyed.sessionIds
          List.nodup_nil nofun
      · exact evolution.names (fun _ _ evolves => evolves.tokenHash) h.keyed.tokenHashes
          List.nodup_nil nofun
      · rcases evolution.cases member with ⟨before, inside, evolves⟩ | new
        · exact evolves.dated forward (h.dated before inside)
        · cases new
      · rcases evolution.cases member with ⟨before, inside, evolves⟩ | new
        · obtain ⟨token, issued, same⟩ := h.tokens before inside
          rw [evolves.userId, evolves.tokenHash]
          exact ⟨token, List.mem_append_right _ issued, same⟩
        · cases new
      · show ((issues rt s.database e ++ s.issued).map _).Nodup
        rw [none]
        exact h.distinct
    · refine ⟨⟨?_, ?_⟩, fun r member => ?_, fun r member => ?_, ?_, known⟩
      · refine evolution.names (fun _ _ evolves => evolves.sessionId) h.keyed.sessionIds
          (List.nodup_singleton _) fun r among old inside same => ?_
        rw [List.mem_singleton.mp among] at same
        exact (fresh old inside).1 same.symm
      · refine evolution.names (fun _ _ evolves => evolves.tokenHash) h.keyed.tokenHashes
          (List.nodup_singleton _) fun r among old inside same => ?_
        rw [List.mem_singleton.mp among] at same
        exact (fresh old inside).2 same.symm
      · rcases evolution.cases member with ⟨before, inside, evolves⟩ | among
        · exact evolves.dated forward (h.dated before inside)
        · rw [List.mem_singleton.mp among]
          refine ⟨now, Int.le_refl at_now, ?_, ?_⟩
          · show at_now ≤ at_now + idleTimeoutMs
            unfold idleTimeoutMs
            omega
          · show at_now + idleTimeoutMs ≤ at_now + absoluteLifetimeMs
            unfold idleTimeoutMs absoluteLifetimeMs
            omega
      · rcases evolution.cases member with ⟨before, inside, evolves⟩ | among
        · obtain ⟨token, issued, same⟩ := h.tokens before inside
          rw [evolves.userId, evolves.tokenHash]
          exact ⟨token, List.mem_append_right _ issued, same⟩
        · rw [List.mem_singleton.mp among]
          exact ⟨token, List.mem_append_left _ (new ▸ List.mem_cons_self), rfl⟩
      · show ((issues rt s.database _ ++ s.issued).map _).Nodup
        rw [new, List.singleton_append, List.map_cons, List.nodup_cons]
        refine ⟨fun known => ?_, h.distinct⟩
        obtain ⟨old, inside, same⟩ := List.mem_map.mp known
        exact unforged old inside same
  refine base t.revoked fun digest revoked => ?_
  have split : digest ∈ revokedDigests t.database ∨ digest ∈ s.revoked := by
    subst is
    exact List.mem_append.mp revoked
  rcases split with new | old
  · obtain ⟨r, member, rfl⟩ := List.mem_map.mp new
    obtain ⟨inside, gone⟩ := List.mem_filter.mp member
    have clock : e.now ≤ t.clock := by
      subst is
      exact Int.le_refl _
    exact (base [] nofun).dead inside now clock (.inl gone)
  · exact dead digest (h.revoked digest old)

theorem sound_run {users : List UserRow} {clock : Int} {es : List SessionEvent}
    (ran : run (step rt) (start users clock) es = some s)
    (readings : ∀ e ∈ es, e.now ∈ plain)
    (unforged : Meets (step rt) (Unforged rt) (start users clock) es) : Sound rt s :=
  run_invariant (fun _ _ _ h ok stepped => sound_step h ok.1 ok.2 stepped)
    (sound_start rt users clock)
    (meets_and (meets_of_forall (fun _ e member => readings e member) _) unforged) ran

theorem answer_over {token : String} {now : Int}
    (h : s.answer rt token now = .rejected .revoked ∨
      s.answer rt token now = .rejected .expired) :
    ∃ r ∈ s.database.sessions, r.tokenHash = rt.sha256 token ∧
      (r.revokedAt.isSome ∨ hasExpired r.toRecord now = true) ∧
      (s.database.resolveSession rt token now).2 = s.database := by
  unfold answer at h
  unfold Database.resolveSession at h ⊢
  split at h
  · rcases h with h | h <;> cases h
  · rename_i r found
    have hash : r.tokenHash = rt.sha256 token := by simpa using List.find?_some found
    have member := List.mem_of_find?_eq_some found
    dsimp only at h ⊢
    split_ifs at h ⊢ with revoked expired
    · exact ⟨r, member, hash, .inl revoked, rfl⟩
    · exact ⟨r, member, hash, .inr expired, rfl⟩
    · split at h
      · rcases h with h | h <;> cases h
      · split_ifs at h
        · rcases h with h | h <;> cases h
        · rcases h with h | h <;> cases h

theorem dead_answer {token : String} {now : Int} (h : Dead rt s (rt.sha256 token))
    (inside : now ∈ plain) (forward : s.clock ≤ now) :
      (s.answer rt token now).isOk = false := by
  obtain ⟨-, reading, plain_reading, behind, all⟩ := h
  by_contra accepted
  cases is : s.answer rt token now with
  | rejected reason =>
    rw [is] at accepted
    exact accepted rfl
  | ok session user =>
    obtain ⟨r, member, hash, -, live, unexpired, -⟩ := Database.resolveSession_ok is
    rcases all r member hash with revoked | expired
    · rw [live] at revoked
      cases revoked
    · have still := hasExpired_mono plain_reading inside (Int.le_trans behind forward) expired
      rw [unexpired] at still
      cases still

theorem dead_of_ends {token : String} (h : Sound rt s) (ends : s.Ends rt token e)
    (now : e.now ∈ plain) (unforged : Unforged rt s e) (stepped : step rt s e = some t) :
    Dead rt t (rt.sha256 token) := by
  have sound := sound_step h now unforged stepped
  obtain ⟨forward, is⟩ := step_eq_some.mp stepped
  -- a completed change or disabling leaves every session of the account revoked
  have all : ∀ userId, (token, userId) ∈ s.issued →
      (∀ r ∈ t.database.sessions, r.userId = userId → r.revokedAt.isSome) →
      Dead rt t (rt.sha256 token) := by
    intro userId issued revoked
    have still : (token, userId) ∈ t.issued := by
      subst is
      exact List.mem_append_right _ issued
    refine ⟨⟨_, still, rfl⟩, e.now, now, ?_,
      fun r member hash => .inl (revoked r member ?_)⟩
    · subst is
      exact Int.le_refl _
    · obtain ⟨other, issued', same⟩ := sound.tokens r member
      have pair := List.inj_on_of_nodup_map sound.distinct issued' still (same.trans hash)
      exact (Prod.mk.inj pair).2
  cases e with
  | resolveSession presented at_now =>
    obtain ⟨rfl, gone⟩ := ends
    obtain ⟨r, member, hash, gone, unchanged⟩ := answer_over gone
    subst is
    have among : r ∈ (effect rt s.database (.resolveSession presented at_now)).sessions := by
      show r ∈ (s.database.resolveSession rt presented at_now).2.sessions
      rw [unchanged]
      exact member
    exact hash ▸ sound.dead among now (Int.le_refl _) gone
  | changePassword userId password salt at_now =>
    refine all userId ends.1 ?_
    cases done : s.database.changePassword rt userId password salt at_now with
    | error raised =>
      have ok := ends.2
      rw [done] at ok
      cases ok
    | ok both =>
      subst is
      simp only [effect, done]
      exact (Database.applyPasswordChange_ok (Database.changePassword_ok done)).2.2
  | setUserDisabled userId disabled at_now =>
    refine all userId ends.1 ?_
    cases done : s.database.setUserDisabled userId disabled at_now with
    | error raised =>
      have ok := ends.2.2
      rw [done] at ok
      cases ok
    | ok both =>
      subst is
      simp only [effect, done]
      exact (Database.setUserDisabled_ok done).2 ends.2.1
  | issueSession | revokeSession | revokeSessionByToken | pruneExpiredSessions => cases ends

theorem dead_run {es : List SessionEvent} (h : Dead rt s digest) (sound : Sound rt s)
    (readings : ∀ e ∈ es, e.now ∈ plain) (unforged : Meets (step rt) (Unforged rt) s es)
    (ran : run (step rt) s es = some t) : Dead rt t digest :=
  (run_invariant (motive := fun u => Sound rt u ∧ Dead rt u digest)
    (fun _ _ _ both ok stepped => ⟨sound_step both.1 ok.1 ok.2 stepped,
      dead_step both.2 both.1.keyed ok.1 ok.2 stepped⟩) ⟨sound, h⟩
    (meets_and (meets_of_forall (fun _ e member => readings e member) _) unforged) ran).2

/-- With a clock between the years 0 and 9999, whatever the sequence of operations: the idle
expiry never exceeds the absolute one; only a token that was issued and not revoked, of an
account that is not disabled, is accepted, strictly before both expiries; and one whose session
has ended is never accepted again. -/
theorem session_lifecycle {users : List UserRow} {clock : Int} {es : List SessionEvent}
    (ran : run (step rt) (start users clock) es = some s)
    (readings : ∀ e ∈ es, e.now ∈ plain)
    (unforged : Meets (step rt) (Unforged rt) (start users clock) es) :
    (∀ r ∈ s.database.sessions, r.idleExpiresAt ≤ r.absoluteExpiresAt) ∧
      ∀ token now, s.clock ≤ now → now ∈ plain →
        Unforged rt s (.resolveSession token now) →
        (∀ session user, s.answer rt token now = .ok session user →
          (token, user.userId) ∈ s.issued ∧ rt.sha256 token ∉ s.revoked ∧
            user.disabledAt = none ∧
            ∃ r ∈ s.database.sessions, r.tokenHash = rt.sha256 token ∧
              r.sessionId = session.sessionId ∧ r.revokedAt = none ∧
              now < r.idleExpiresAt ∧ now < r.absoluteExpiresAt) ∧
        ∀ before e after t, es = before ++ e :: after →
          run (step rt) (start users clock) before = some t → t.Ends rt token e →
          (s.answer rt token now).isOk = false := by
  have sound := sound_run ran readings unforged
  refine ⟨fun r member => (sound.dated r member).2.2.2, fun token now forward inside known =>
    ⟨fun session user is => ?_, fun before e after t split reached ends => ?_⟩⟩
  · obtain ⟨r, member, hash, id, live, unexpired, owner, enabled⟩ :=
      Database.resolveSession_ok is
    obtain ⟨other, issued, same⟩ := sound.tokens r member
    have is_token : other = token := known _ issued (same.trans hash)
    have is_owner : r.userId = user.userId := (Database.findUserById_userId owner).symm
    refine ⟨is_token ▸ is_owner ▸ issued,
      fun revoked => ?_, enabled, r, member, hash, id, live, ?_⟩
    · have refused := dead_answer (sound.revoked _ revoked) inside forward
      rw [is] at refused
      cases refused
    · obtain ⟨created, past, ordered, absolute⟩ := sound.dated r member
      have idle : now < r.idleExpiresAt := by
        by_contra passed
        have passed := Int.not_lt.mp passed
        have texts := isoText_mono (plain_between created inside ordered passed) inside passed
        unfold hasExpired at unexpired
        rw [Bool.or_eq_false_iff, decide_eq_false_iff_not] at unexpired
        exact unexpired.1 texts
      exact ⟨idle, Int.lt_of_lt_of_le idle absolute⟩
  · subst split
    obtain ⟨u, first, rest⟩ := run_append_eq_some.mp ran
    cases reached.symm.trans first
    obtain ⟨v, stepped, last⟩ := run_cons_eq_some.mp rest
    have meets := unforged.rest reached
    have earlier : Sound rt t := sound_run reached
      (fun e member => readings e (List.mem_append_left _ member)) (meets_append unforged)
    have at_e : e.now ∈ plain := readings e (List.mem_append_right _ List.mem_cons_self)
    have dead := dead_of_ends earlier ends at_e meets.1 stepped
    have later := dead_run dead (sound_step earlier at_e meets.1 stepped)
      (fun e member => readings e (List.mem_append_right _ (List.mem_cons_of_mem _ member)))
      (meets.2 v stepped) last
    exact dead_answer later inside forward

def mary : UserRow :=
  ⟨"user_1", "mary", "$argon2id$battery staple", .operator, 0, 0, none⟩

def signedIn : List SessionEvent :=
  [.issueSession "one" "sess_1" "user_1" none 0, .resolveSession "one" 1000,
    .issueSession "two" "sess_2" "user_1" (some "sess_1") 2000, .resolveSession "one" 3000,
    .setUserDisabled "user_1" true 4000, .setUserDisabled "user_1" false 5000,
    .issueSession "three" "sess_3" "user_1" none 6000,
    .changePassword "user_1" "correct horse" "salt" 7000,
    .pruneExpiredSessions 8000, .issueSession "four" "sess_4" "user_1" none 9000]

theorem session_lifecycle_signedIn :
    (runD (step plainRuntime) (start [mary] 0) signedIn).answer plainRuntime "four" 10000 =
        .ok ⟨"sess_4", "user_1", 9000, 10000, 1810000, 43209000, none, none⟩
          ⟨"user_1", "mary", .operator, 0, 7000, none⟩ ∧
      ((runD (step plainRuntime) (start [mary] 0) signedIn).answer plainRuntime "three"
        10000).isOk = false ∧
      ∀ r ∈ (runD (step plainRuntime) (start [mary] 0) signedIn).database.sessions,
        r.idleExpiresAt ≤ r.absoluteExpiresAt := by
  have ran : (run (step plainRuntime) (start [mary] 0) signedIn).isSome = true := by
    decide +kernel
  have both := session_lifecycle (run_eq_runD ran) (by decide +kernel) (by decide +kernel)
  refine ⟨by decide +kernel, ?_, both.1⟩
  refine (both.2 "three" 10000 (by decide +kernel) (by decide +kernel) (by decide +kernel)).2
    (signedIn.take 7) (signedIn.getD 7 (.pruneExpiredSessions 0)) (signedIn.drop 8)
    (runD (step plainRuntime) (start [mary] 0) (signedIn.take 7)) (by decide +kernel)
    (run_eq_runD (by decide +kernel)) ?_
  show _ ∧ _
  decide +kernel

def lastEvening : Int := 253402300200000

/-- An expiry in the year 10000 begins with a sign, so it is read as long past until the clock
has reached that year itself: a token that was rejected as expired is accepted ten minutes
later. -/
theorem session_lifecycle_year10000 :
    run (step plainRuntime) (start [mary] 0)
        [.issueSession "one" "sess_1" "user_1" none lastEvening,
          .resolveSession "one" (lastEvening + 1)] ≠ none ∧
      (runD (step plainRuntime) (start [mary] 0)
        [.issueSession "one" "sess_1" "user_1" none lastEvening]).answer plainRuntime "one"
          (lastEvening + 1) = .rejected .expired ∧
      ((runD (step plainRuntime) (start [mary] 0)
        [.issueSession "one" "sess_1" "user_1" none lastEvening,
          .resolveSession "one" (lastEvening + 1)]).answer plainRuntime "one"
          (lastEvening + 600000)).isOk = true := by
  decide +kernel

end SessionLedger

end CaseSorter.Web.Auth
