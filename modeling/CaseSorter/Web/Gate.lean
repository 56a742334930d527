import CaseSorter.Web.Limits
import CaseSorter.Web.SessionLifecycle

/-! The hook of hooks.server.ts: whose request it is, what a request that would change something has
to show, and which requests reach a handler. The hook is suspended while it reads the body of a
request, so that sessions come and go between the two sections of one request. It rests on
capabilities.ts, policy.ts, authorization.ts, cookies.ts, boundary.ts, csrf.ts and limits.ts. -/

namespace CaseSorter.Web.Auth

open CaseSorter.Runs CaseSorter.Web.Limits

inductive Capability
  | machineRead
  | machineStop
  | machineOperate
  | visionTrain
  | machineRecover
  | configWrite
  | usersManage
  | protocolDirect
  deriving DecidableEq, Repr

namespace Capability

def viewer : List Capability := [machineRead, machineStop]

def operator : List Capability := viewer ++ [machineOperate, visionTrain]

def administrator : List Capability := operator ++ [machineRecover, configWrite, usersManage]

end Capability

def grants : Role → List Capability
  | .viewer => Capability.viewer
  | .operator => Capability.operator
  | .administrator => Capability.administrator

def can (role : Role) (capability : Capability) : Bool := capability ∈ grants role

/-- `anyone` is the source's `public`. -/
inductive RoutePolicy
  | anyone
  | authenticated
  | capability (capability : Capability)
  deriving DecidableEq, Repr

def routePolicies : List (String × RoutePolicy) :=
  [("/", .capability .machineRead), ("/events", .capability .machineRead),
    ("/operations", .capability .machineRead), ("/system", .capability .machineRead),
    ("/dataset", .capability .machineRead), ("/routing", .capability .machineRead),
    ("/login", .anyone), ("/logout", .authenticated)]

def routePolicy (routeId : Option String) : Option RoutePolicy :=
  routeId.bind fun id => routePolicies.lookup id

structure HttpError where
  status : Nat
  message : String
  deriving DecidableEq, Repr

def unauthenticated : HttpError := ⟨401, "Sign in to continue."⟩

def forbidden : HttpError := ⟨403, "Your account is not permitted to do that."⟩

def requireCapability (user : Option UserRecord) (capability : Capability) :
    Except HttpError UserRecord :=
  match user with
  | none => .error unauthenticated
  | some user => if can user.role capability then .ok user else .error forbidden

def requireRouteAccess (user : UserRecord) : Option RoutePolicy → Except HttpError UserRecord
  | none => .error forbidden
  | some (.capability capability) => requireCapability (some user) capability
  | some _ => .ok user

inductive WebProfile
  | development
  | test
  | production
  deriving DecidableEq, Repr

/-- What the browser sent, and what the response writes over it; a deletion writes the empty
text. -/
structure Cookies where
  sent : List (String × String)
  written : List (String × String)
  deriving DecidableEq, Repr

namespace Cookies

def get (cookies : Cookies) (name : String) : Option String :=
  (cookies.written.lookup name).or (cookies.sent.lookup name)

def set (cookies : Cookies) (name value : String) : Cookies :=
  { cookies with written := (name, value) :: cookies.written }

def delete (cookies : Cookies) (name : String) : Cookies := cookies.set name ""

end Cookies

def sessionCookieName : WebProfile → String
  | .production => "__Host-cs71_session"
  | _ => "cs71_session"

def readSessionCookie (cookies : Cookies) (profile : WebProfile) : Option String :=
  (cookies.get (sessionCookieName profile)).filter (· ≠ "")

inductive RequestAuthentication
  | authenticated (user : UserRecord) (session : SessionRecord)
  | refused (rejection : Option SessionRejection)
  deriving DecidableEq, Repr

def authenticateRequest (rt : Runtime) (db : Database) (cookies : Cookies) (profile : WebProfile)
    (now : Int) : RequestAuthentication × Database × Cookies :=
  match readSessionCookie cookies profile with
  | none => (.refused none, db, cookies)
  | some token =>
    match db.resolveSession rt token now with
    | (.ok session user, db) => (.authenticated user session, db, cookies)
    | (.rejected reason, db) =>
      (.refused (some reason), db, cookies.delete (sessionCookieName profile))

inductive FormValue
  | text (value : String)
  | file
  deriving DecidableEq, Repr

/-- A request as it comes to the hook: `origin` is the one the server believes it serves, the
names of the headers are in small letters, and `form` is what the body is parsed to. -/
structure BrowserRequest where
  method : String
  origin : String
  routeId : Option String
  headers : List (String × String)
  cookies : List (String × String)
  address : String
  form : Option (List (String × FormValue))
  deriving DecidableEq, Repr

/-- What the service is deployed with. `hmac` is the keyed digest, of a key and a text;
`exceeds` says whether `Number` of a text is finite and greater. -/
structure Deployment where
  runtime : Runtime
  profile : WebProfile
  hmac : String → String → String
  exceeds : String → Nat → Bool

def csrfCookieName : WebProfile → String
  | .production => "__Host-cs71_csrf"
  | _ => "cs71_csrf"

def isStateChanging (method : String) : Bool := method.toUpper ∉ ["GET", "HEAD", "OPTIONS"]

def csrfTokenFor (d : Deployment) (sessionToken : String) : String :=
  d.hmac sessionToken "cs71-csrf-v1"

/-- The token this request must present; `issued` is a fresh one. -/
def establishCsrfToken (d : Deployment) (cookies : Cookies) (issued : String) :
    String × Cookies :=
  match readSessionCookie cookies d.profile with
  | some token => (csrfTokenFor d token, cookies)
  | none =>
    match (cookies.get (csrfCookieName d.profile)).filter (· ≠ "") with
    | some existing => (existing, cookies)
    | none => (issued, cookies.set (csrfCookieName d.profile) issued)

def isForm (contentType : String) : Bool :=
  ["application/x-www-form-urlencoded", "multipart/form-data"].any fun kind =>
    kind.toList.isPrefixOf contentType.toLower.toList

def presentedCsrfToken (r : BrowserRequest) : Option String :=
  match r.headers.lookup "x-csrf-token" with
  | some header => some header
  | none =>
    if isForm ((r.headers.lookup "content-type").getD "") then
      match r.form.bind (·.lookup "csrf_token") with
      | some (.text value) => some value
      | _ => none
    else none

def csrfTokenMatches (expected : String) (presented : Option String) : Bool :=
  presented = some expected

def originIsTrusted (r : BrowserRequest) : Bool := r.headers.lookup "origin" = some r.origin

def maximumFormBytes : Nat := 16 * 1024

def stateChangeLimit : Nat := 30

def stateChangeWindowMs : Int := 60 * 1000

def declaresOversizedBody (d : Deployment) (r : BrowserRequest) : Bool :=
  d.exceeds ((r.headers.lookup "content-length").getD "0") maximumFormBytes

def stateChanges : RateLimiter String := .new stateChangeLimit stateChangeWindowMs 4096

def crossSite : HttpError := ⟨403, "This request did not come from the appliance."⟩

def tooLarge : HttpError := ⟨413, "That submission is larger than this appliance accepts."⟩

def tooMany : HttpError := ⟨429, "Too many requests. Wait a moment and try again."⟩

def internalError : HttpError := ⟨500, "Internal Error"⟩

/-- How the hook ends: with the handler of the route, which is given the account, or without. -/
inductive Verdict
  | resolve (user : Option UserRecord)
  | redirect (rejection : Option SessionRejection)
  | error (e : HttpError)
  deriving DecidableEq, Repr

/-- What the hook has found before it reads the body. -/
structure Arrival where
  request : BrowserRequest
  authentication : RequestAuthentication
  csrfToken : String
  cookies : Cookies
  deriving DecidableEq, Repr

namespace Arrival

def user (a : Arrival) : Option UserRecord :=
  match a.authentication with
  | .authenticated user _ => some user
  | .refused _ => none

def authorize (a : Arrival) : Verdict :=
  if routePolicy a.request.routeId = some .anyone then .resolve a.user
  else
    match a.authentication with
    | .refused rejection => .redirect rejection
    | .authenticated user _ =>
      if a.request.routeId = none then .resolve (some user)
      else
        match requireRouteAccess user (routePolicy a.request.routeId) with
        | .ok user => .resolve (some user)
        | .error e => .error e

/-- The end of `guardStateChange`, and what comes after it. -/
def proceed (a : Arrival) : Verdict :=
  if csrfTokenMatches a.csrfToken (presentedCsrfToken a.request) then a.authorize
  else .error crossSite

end Arrival

/-- `guardStateChange` to its suspension. -/
def guardStateChange (d : Deployment) (limiter : RateLimiter String) (r : BrowserRequest)
    (now : Int) : Except HttpError Unit × RateLimiter String :=
  if originIsTrusted r = false then (.error crossSite, limiter)
  else if declaresOversizedBody d r then (.error tooLarge, limiter)
  else
    match limiter.check r.address now with
    | (some decision, limiter) =>
      (if decision.allowed then .ok () else .error tooMany, limiter)
    | (none, limiter) => (.error internalError, limiter)

/-- The service between two sections of its requests. `reading` are the requests whose body is
being read; `answers` is a record, newest first, that no function reads. -/
structure Gate where
  ledger : SessionLedger
  stateChanges : RateLimiter String
  reading : List Arrival
  answers : List (Arrival × Verdict)

/-- An operation on the sessions that a handler makes, a request that arrives, or the body of
one that has been read. -/
inductive GateEvent
  | session (e : SessionEvent)
  | arrive (r : BrowserRequest) (issued : String) (now : Int)
  | read (k : Nat)
  deriving DecidableEq, Repr

namespace Gate

def start (users : List UserRow) (clock : Int) : Gate :=
  ⟨.start users clock, Auth.stateChanges, [], []⟩

/-- The session token of a request. -/
def presents (d : Deployment) (r : BrowserRequest) : Option String :=
  readSessionCookie ⟨r.cookies, []⟩ d.profile

/-- What the hook finds out about a request before it guards state changes. -/
def arrival (d : Deployment) (g : Gate) (r : BrowserRequest) (issued : String) (now : Int) :
    Arrival :=
  let (authentication, _, cookies) :=
    authenticateRequest d.runtime g.ledger.database ⟨r.cookies, []⟩ d.profile now
  let (csrfToken, cookies) := establishCsrfToken d cookies issued
  ⟨r, authentication, csrfToken, cookies⟩

def resolved (d : Deployment) (g : Gate) (r : BrowserRequest) (now : Int) :
    Option SessionLedger :=
  match presents d r with
  | none => some g.ledger
  | some token => SessionLedger.step d.runtime g.ledger (.resolveSession token now)

def step (d : Deployment) (g : Gate) : GateEvent → Option Gate
  | .session e =>
    (SessionLedger.step d.runtime g.ledger e).map fun ledger => { g with ledger := ledger }
  | .arrive r issued now =>
    (g.resolved d r now).map fun ledger =>
      let a := g.arrival d r issued now
      if isStateChanging r.method then
        match guardStateChange d g.stateChanges r now with
        | (.ok _, limiter) => ⟨ledger, limiter, g.reading ++ [a], g.answers⟩
        | (.error e, limiter) => ⟨ledger, limiter, g.reading, (a, .error e) :: g.answers⟩
      else ⟨ledger, g.stateChanges, g.reading, (a, a.authorize) :: g.answers⟩
  | .read k =>
    (g.reading[k]?).map fun a =>
      { g with reading := g.reading.eraseIdx k, answers := (a, a.proceed) :: g.answers }

/-- The readings of the clock lie between the years 0 and 9999, and no token is forged. -/
def Fair (d : Deployment) (g : Gate) : GateEvent → Prop
  | .session e => e.now ∈ IsoTime.plain ∧ SessionLedger.Unforged d.runtime g.ledger e
  | .arrive r _ now =>
    now ∈ IsoTime.plain ∧ ∀ token ∈ presents d r,
      SessionLedger.Unforged d.runtime g.ledger (.resolveSession token now)
  | .read _ => True

instance (d : Deployment) (g : Gate) : ∀ e, Decidable (Fair d g e)
  | .session e =>
    inferInstanceAs
      (Decidable (e.now ∈ IsoTime.plain ∧ SessionLedger.Unforged d.runtime g.ledger e))
  | .arrive r _ now =>
    inferInstanceAs (Decidable (now ∈ IsoTime.plain ∧ ∀ token ∈ presents d r,
      SessionLedger.Unforged d.runtime g.ledger (.resolveSession token now)))
  | .read _ => .isTrue trivial

/-- The account may see the route. -/
def Allowed (account : UserRecord) (routeId : Option String) : Prop :=
  ∀ policy ∈ routePolicy routeId, ∀ capability, policy = .capability capability →
    can account.role capability = true

/-- What the request has shown if it would change something. -/
def Shown (d : Deployment) (a : Arrival) : Prop :=
  isStateChanging a.request.method = true →
    originIsTrusted a.request = true ∧ declaresOversizedBody d a.request = false ∧
      presentedCsrfToken a.request = some a.csrfToken

/-- The account is that of a session whose token was issued to it and is the request's own. -/
def Honoured (d : Deployment) (issued : List (String × String)) (a : Arrival)
    (account : UserRecord) : Prop :=
  ∃ token, presents d a.request = some token ∧ (token, account.userId) ∈ issued ∧
    account.disabledAt = none ∧ a.csrfToken = csrfTokenFor d token

variable {d : Deployment} {g : Gate} {r : BrowserRequest} {issued : String} {now : Int}

theorem arrival_request (d : Deployment) (g : Gate) (r : BrowserRequest) (issued : String)
    (now : Int) : (g.arrival d r issued now).request = r := rfl

theorem arrival_authenticated {user : UserRecord} {session : SessionRecord}
    (h : (g.arrival d r issued now).authentication = .authenticated user session) :
    ∃ token, presents d r = some token ∧
      g.ledger.answer d.runtime token now = .ok session user ∧
      (g.arrival d r issued now).csrfToken = csrfTokenFor d token := by
  unfold arrival authenticateRequest at h ⊢
  cases shown : readSessionCookie ⟨r.cookies, []⟩ d.profile with
  | none =>
    rw [shown] at h
    cases h
  | some token =>
    rw [shown] at h
    unfold presents SessionLedger.answer
    cases found : g.ledger.database.resolveSession d.runtime token now with
    | mk answer db =>
      cases answer with
      | rejected reason =>
        simp only [found] at h
        cases h
      | ok s u =>
        simp only [found] at h
        cases h
        refine ⟨token, shown, congrArg Prod.fst found, ?_⟩
        simp only [found, establishCsrfToken, shown]

theorem csrfCookieName_ne (profile : WebProfile) :
    (sessionCookieName profile == csrfCookieName profile) = false := by
  cases profile <;> decide

theorem arrival_refused (fresh : String) {token : String} (shown : presents d r = some token)
    (h : (g.ledger.answer d.runtime token now).isOk = false) :
    (∃ reason, (g.arrival d r fresh now).authentication = .refused (some reason)) ∧
      (g.arrival d r fresh now).cookies.get (sessionCookieName d.profile) = some "" := by
  unfold presents at shown
  unfold SessionLedger.answer at h
  unfold arrival authenticateRequest
  cases found : g.ledger.database.resolveSession d.runtime token now with
  | mk answer db =>
    cases answer with
    | ok s u =>
      rw [found] at h
      cases h
    | rejected reason =>
      have deleted : ((⟨r.cookies, []⟩ : Cookies).delete (sessionCookieName d.profile)).get
          (sessionCookieName d.profile) = some "" := by
        simp [Cookies.delete, Cookies.set, Cookies.get]
      simp only [shown, found]
      refine ⟨⟨reason, rfl⟩, ?_⟩
      unfold establishCsrfToken readSessionCookie
      rw [deleted]
      simp only [Option.filter_some, ne_eq, not_true_eq_false, decide_false, Bool.false_eq_true,
        if_false]
      split
      · exact deleted
      · unfold Cookies.set Cookies.get Cookies.delete Cookies.set
        simp [List.lookup_cons, csrfCookieName_ne]

theorem Honoured.mono {before after : List (String × String)} {a : Arrival}
    {account : UserRecord} (h : Honoured d before a account)
    (grows : ∀ p ∈ before, p ∈ after) : Honoured d after a account := by
  obtain ⟨token, shown, known, enabled, csrf⟩ := h
  exact ⟨token, shown, grows _ known, enabled, csrf⟩

theorem authorize_resolve {a : Arrival} {user : Option UserRecord}
    (h : a.authorize = .resolve user) :
    routePolicy a.request.routeId = some .anyone ∨
      ∃ account session, a.authentication = .authenticated account session ∧
        user = some account ∧ (a.request.routeId = none ∨
          routePolicy a.request.routeId ≠ none ∧ Allowed account a.request.routeId) := by
  unfold Arrival.authorize at h
  by_cases anyone : routePolicy a.request.routeId = some .anyone
  · exact .inl anyone
  rw [if_neg anyone] at h
  right
  cases found : a.authentication with
  | refused rejection =>
    rw [found] at h
    cases h
  | authenticated account session =>
    rw [found] at h
    dsimp only at h
    by_cases absent : a.request.routeId = none
    · rw [if_pos absent] at h
      cases h
      exact ⟨account, session, rfl, rfl, .inl absent⟩
    rw [if_neg absent] at h
    obtain ⟨same, declared, may⟩ : user = some account ∧
      routePolicy a.request.routeId ≠ none ∧
        Allowed account a.request.routeId := by
      unfold Allowed
      cases policy : routePolicy a.request.routeId with
      | none =>
        rw [policy] at h
        cases h
      | some p =>
        rw [policy] at h
        cases p with
        | anyone => exact absurd policy anyone
        | authenticated =>
          cases h
          exact ⟨rfl, by simp, by simp⟩
        | capability c =>
          unfold requireRouteAccess requireCapability at h
          dsimp only at h
          by_cases granted : can account.role c = true
          · rw [if_pos granted] at h
            cases h
            exact ⟨rfl, by simp, by simpa using granted⟩
          · rw [if_neg granted] at h
            cases h
    exact ⟨account, session, rfl, same, .inr ⟨declared, may⟩⟩

/-- What holds whenever no section of the hook is running. -/
structure Mediated (d : Deployment) (g : Gate) : Prop where
  sound : SessionLedger.Sound d.runtime g.ledger
  honoured : ∀ a ∈ g.reading ++ g.answers.map Prod.fst, ∀ account session,
    a.authentication = .authenticated account session → Honoured d g.ledger.issued a account
  reading : ∀ a ∈ g.reading, originIsTrusted a.request = true ∧
    declaresOversizedBody d a.request = false
  answers : ∀ a user, (a, Verdict.resolve user) ∈ g.answers →
    a.authorize = .resolve user ∧ Shown d a

theorem mediated_start (d : Deployment) (users : List UserRow) (clock : Int) :
    Mediated d (start users clock) where
  sound := SessionLedger.sound_start d.runtime users clock
  honoured a member := by cases member
  reading a member := by cases member
  answers a user member := by cases member

theorem resolved_ledger {ledger : SessionLedger} (h : SessionLedger.Sound d.runtime g.ledger)
    (fair : Fair d g (.arrive r issued now)) (stepped : g.resolved d r now = some ledger) :
    SessionLedger.Sound d.runtime ledger ∧ (∀ p ∈ g.ledger.issued, p ∈ ledger.issued) ∧
      ∀ account session,
        (g.arrival d r issued now).authentication = .authenticated account session →
        Honoured d ledger.issued (g.arrival d r issued now) account := by
  obtain ⟨inside, unforged⟩ := fair
  have grows : SessionLedger.Sound d.runtime ledger ∧
    ∀ p ∈ g.ledger.issued, p ∈ ledger.issued := by
    unfold resolved at stepped
    cases shown : presents d r with
    | none =>
      rw [shown] at stepped
      cases stepped
      exact ⟨h, fun p member => member⟩
    | some token =>
      rw [shown] at stepped
      have ok := unforged token shown
      refine ⟨SessionLedger.sound_step (e := .resolveSession token now) h inside ok stepped,
        fun p member => ?_⟩
      obtain ⟨-, rfl⟩ := SessionLedger.step_eq_some.mp stepped
      exact List.mem_append_right _ member
  refine ⟨grows.1, grows.2, fun account session found => ?_⟩
  obtain ⟨token, shown, answered, csrf⟩ := arrival_authenticated found
  obtain ⟨row, member, hash, -, -, -, owner, enabled⟩ := Database.resolveSession_ok answered
  obtain ⟨other, known, same⟩ := h.tokens row member
  have is_token : other = token := unforged token shown _ known (same.trans hash)
  have is_owner : row.userId = account.userId := (Database.findUserById_userId owner).symm
  refine ⟨token, shown, grows.2 _ ?_, enabled, csrf⟩
  rw [← is_token, ← is_owner]
  exact known

theorem guardStateChange_ok {limiter after : RateLimiter String} {u : Unit}
    (h : guardStateChange d limiter r now = (.ok u, after)) :
    originIsTrusted r = true ∧ declaresOversizedBody d r = false := by
  unfold guardStateChange at h
  split_ifs at h with origin size
  · cases h
  · cases h
  · exact ⟨Bool.eq_true_of_not_eq_false origin, Bool.eq_false_of_not_eq_true size⟩

theorem mediated_step {e : GateEvent} {t : Gate} (h : Mediated d g) (fair : Fair d g e)
    (stepped : step d g e = some t) : Mediated d t := by
  cases e with
  | session e =>
    obtain ⟨ledger, moved, rfl⟩ := Option.map_eq_some_iff.mp stepped
    have sound := SessionLedger.sound_step h.sound fair.1 fair.2 moved
    obtain ⟨-, rfl⟩ := SessionLedger.step_eq_some.mp moved
    refine ⟨sound, fun a member account session found => ?_, h.reading, h.answers⟩
    exact (h.honoured a member account session found).mono
      fun p known => List.mem_append_right _ known
  | arrive r issued now =>
    obtain ⟨ledger, moved, is⟩ := Option.map_eq_some_iff.mp stepped
    obtain ⟨sound, grows, honoured⟩ := resolved_ledger h.sound fair moved
    have kept : ∀ a ∈ g.reading ++ g.answers.map Prod.fst, ∀ account session,
        a.authentication = .authenticated account session → Honoured d ledger.issued a account :=
      fun a member account session found => (h.honoured a member account session found).mono grows
    -- an answer given at once is no handler's, or one to a request that changes nothing
    have settle : ∀ limiter v, (∀ user, v = .resolve user →
        (g.arrival d r issued now).authorize = .resolve user ∧
          isStateChanging r.method = false) →
        Mediated d
          ⟨ledger, limiter, g.reading, (g.arrival d r issued now, v) :: g.answers⟩ := by
      intro limiter v reached
      refine ⟨sound, fun a member account session found => ?_, h.reading,
        fun a user member => ?_⟩
      · rcases List.mem_append.mp member with old | new
        · exact kept a (List.mem_append_left _ old) account session found
        · rcases List.mem_cons.mp new with rfl | old
          · exact honoured account session found
          · exact kept a (List.mem_append_right _ old) account session found
      · rcases List.mem_cons.mp member with new | old
        · cases new
          obtain ⟨authorized, quiet⟩ := reached user rfl
          refine ⟨authorized, fun changing => ?_⟩
          rw [arrival_request, quiet] at changing
          cases changing
        · exact h.answers a user old
    split_ifs at is with changing
    · cases guarded : guardStateChange d g.stateChanges r now with
      | mk verdict limiter =>
        rw [guarded] at is
        cases verdict with
        | error e =>
          subst is
          exact settle limiter (.error e) fun user reached => by cases reached
        | ok u =>
          subst is
          refine ⟨sound, fun a member account session found => ?_,
            fun a member => ?_, h.answers⟩
          · rw [List.append_assoc, List.mem_append] at member
            rcases member with old | rest
            · exact kept a (List.mem_append_left _ old) account session found
            · rcases List.mem_append.mp rest with new | old
              · rw [List.mem_singleton.mp new] at found ⊢
                exact honoured account session found
              · exact kept a (List.mem_append_right _ old) account session found
          · rcases List.mem_append.mp member with old | new
            · exact h.reading a old
            · rw [List.mem_singleton.mp new]
              exact guardStateChange_ok guarded
    · subst is
      exact settle g.stateChanges _ fun user reached =>
        ⟨reached, Bool.eq_false_of_not_eq_true changing⟩
  | read k =>
    obtain ⟨a, at_k, rfl⟩ := Option.map_eq_some_iff.mp stepped
    have member := List.mem_of_getElem? at_k
    refine ⟨h.sound, fun b among account session found => ?_, fun b among => ?_,
      fun b user among => ?_⟩
    · rcases List.mem_append.mp among with left | right
      · exact h.honoured b (List.mem_append_left _ (List.mem_of_mem_eraseIdx left)) account session
          found
      · rcases List.mem_cons.mp right with rfl | old
        · exact h.honoured b (List.mem_append_left _ member) account session found
        · exact h.honoured b (List.mem_append_right _ old) account session found
    · exact h.reading b (List.mem_of_mem_eraseIdx among)
    · rcases List.mem_cons.mp among with new | old
      · obtain ⟨rfl, reached⟩ := Prod.mk.inj new
        unfold Arrival.proceed at reached
        split_ifs at reached with same
        refine ⟨reached.symm, fun _ => ?_⟩
        obtain ⟨origin, size⟩ := h.reading b member
        exact ⟨origin, size, of_decide_eq_true same⟩
      · exact h.answers b user old

theorem mediated_run {users : List UserRow} {clock : Int} {es : List GateEvent}
    (fair : Meets (step d) (Fair d) (start users clock) es)
    (ran : run (step d) (start users clock) es = some g) : Mediated d g :=
  run_invariant (fun _ _ _ h ok stepped => mediated_step h ok stepped)
    (mediated_start d users clock) fair ran

def installation : Deployment where
  runtime := plainRuntime
  profile := .production
  hmac key text := key ++ ":" ++ text
  exceeds text bound :=
    text.toList.all Char.isDigit && bound < Nat.ofDigitChars 10 text.toList 0

def dashboard : BrowserRequest :=
  ⟨"GET", "https://sorter", some "/", [], [("__Host-cs71_session", "one")], "10.0.0.7", none⟩

def logout : BrowserRequest where
  method := "POST"
  origin := "https://sorter"
  routeId := some "/logout"
  headers := [("origin", "https://sorter"), ("content-length", "31"),
    ("content-type", "application/x-www-form-urlencoded")]
  cookies := [("__Host-cs71_session", "one")]
  address := "10.0.0.7"
  form := some [("csrf_token", .text "one:cs71-csrf-v1")]

def visits : List GateEvent :=
  [.session (.issueSession "one" "sess_1" "user_1" none 0), .arrive dashboard "new" 1000,
    .arrive logout "new" 2000, .session (.revokeSession "sess_1" .administrative 2500), .read 0,
    .arrive dashboard "new" 3000]

end Gate

end CaseSorter.Web.Auth
