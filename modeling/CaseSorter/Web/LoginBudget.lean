import CaseSorter.Web.Accounts
import CaseSorter.Web.Limits

/-! The budget of sign-in attempts. An attempt is counted under the username as it was written,
in lower case and cut off; it is checked against the account of the username with its white space
trimmed and its characters normalized. -/

namespace CaseSorter.Web.LoginBudget

open CaseSorter.Runs CaseSorter.Web.Auth CaseSorter.Web.Limits RateLimiter

/-- A string of the runtime: its UTF-16 code units. -/
abbrev JsString := List Nat

def codeUnits (c : Char) : JsString :=
  if c.toNat < 0x10000 then [c.toNat]
  else [0xd800 + (c.toNat - 0x10000) / 1024, 0xdc00 + (c.toNat - 0x10000) % 1024]

def utf16 (s : String) : JsString := s.toList.flatMap codeUnits

def loginAttemptLimit : Nat := 5

def loginWindowMs : Int := 60 * 1000

def defaultMaximumKeys : Nat := 4096

/-- The `logins` of `createWebLimits`. -/
def logins : RateLimiter JsString := new loginAttemptLimit loginWindowMs defaultMaximumKeys

def accountKey (rt : Runtime) (username : String) : JsString :=
  (utf16 (rt.toLowerCase username)).take 64

def addressKey (address : String) : JsString := utf16 "address:" ++ utf16 address

def userKey (rt : Runtime) (username : String) : JsString := utf16 "user:" ++ accountKey rt username

/-- The account `authenticate` checks the password of. -/
def resolve (rt : Runtime) (db : Database) (username : String) : Option UserRow :=
  match normalizeUsername rt username with
  | .error _ => none
  | .ok normalized => db.readRowByUsername normalized

/-- What the login action does with the limiter: an attempt is counted under both keys and goes on
to the password unless one refuses it or `loginWork` is full; succeeding forgets both keys. -/
inductive LoginEvent
  | attempt (address username : String) (now : Int) (busy : Bool)
  | succeed (address username : String)
  deriving DecidableEq, Repr

def LoginEvent.calls (rt : Runtime) : LoginEvent → List (Call JsString)
  | .attempt address username now _ =>
    [.check (addressKey address) now, .check (userKey rt username) now]
  | .succeed address username => [.forget (addressKey address), .forget (userKey rt username)]

def reaches (rt : Runtime) (p : String → Bool) (l : RateLimiter JsString) : LoginEvent → Bool
  | .attempt address username now busy =>
    p username && l.allows (addressKey address) (.check (addressKey address) now) &&
      (l.next (.check (addressKey address) now)).allows (userKey rt username)
        (.check (userKey rt username) now) && !busy
  | .succeed _ _ => false

/-- How many of the events are attempts on such an account whose password is checked. -/
def reached (rt : Runtime) (p : String → Bool) : RateLimiter JsString → List LoginEvent → Nat
  | _, [] => 0
  | l, e :: es =>
    (reaches rt p l e).toNat + reached rt p ((e.calls rt).foldl next l) es

theorem codeUnits_length (c : Char) :
    (codeUnits c).length = if c.toNat < 0x10000 then 1 else 2 := by
  unfold codeUnits
  split_ifs <;> rfl

theorem utf16_length (s : String) : (utf16 s).length = utf16Length s := by
  rw [utf16, List.length_flatMap, utf16Length]
  exact congrArg List.sum (List.map_congr_left fun c _ => codeUnits_length c)

theorem flatMap_codeUnits_plain {s t : List Char} (plain : ∀ c ∈ t, c.toNat < 0x80)
    (same : s.flatMap codeUnits = t.flatMap codeUnits) : s = t := by
  induction t generalizing s with
  | nil =>
    cases s with
    | nil => rfl
    | cons c s =>
      have length := congrArg List.length same
      rw [List.flatMap_cons, List.length_append, codeUnits_length] at length
      split_ifs at length <;> simp at length
  | cons d t ih =>
    have small := plain d (List.mem_cons_self ..)
    have unit : codeUnits d = [d.toNat] := if_pos (by omega)
    cases s with
    | nil =>
      rw [List.flatMap_cons, unit] at same
      cases same
    | cons c s =>
      rw [List.flatMap_cons, List.flatMap_cons, unit] at same
      unfold codeUnits at same
      split_ifs at same with basic
      · obtain ⟨first, rest⟩ := List.cons.inj same
        rw [Char.toNat_inj.mp first, ih (fun c member =>
          plain c (List.mem_cons_of_mem _ member)) rest]
      · -- no plain character is a surrogate
        have first := (List.cons.inj same).1
        omega

theorem utf16_plain {s t : String} (plain : ∀ c ∈ t.toList, c.toNat < 0x80)
    (same : utf16 s = utf16 t) : s = t :=
  String.toList_inj.mp (flatMap_codeUnits_plain plain same)

theorem usernamePattern_plain {s : String} (h : usernamePattern s = true) :
    ∀ c ∈ s.toList, c.toNat < 0x80 := by
  have small {c : Char} (plain : (('a' ≤ c && c ≤ 'z') || ('0' ≤ c && c ≤ '9')) = true) :
      c.toNat < 0x80 := by
    rcases Bool.or_eq_true_iff.mp plain with letter | digit
    · have below : c.toNat ≤ 122 := of_decide_eq_true (Bool.and_eq_true_iff.mp letter).2
      omega
    · have below : c.toNat ≤ 57 := of_decide_eq_true (Bool.and_eq_true_iff.mp digit).2
      omega
  unfold usernamePattern at h
  dsimp only at h
  split at h
  · next empty => rw [empty]; exact nofun
  · next c cs chars =>
    rw [chars]
    obtain ⟨first, rest⟩ := Bool.and_eq_true_iff.mp h
    intro d member
    rcases List.mem_cons.mp member with rfl | later
    · exact small first
    · have among := List.all_eq_true.mp rest d later
      rcases Bool.or_eq_true_iff.mp among with among | minus
      · rcases Bool.or_eq_true_iff.mp among with among | underscore
        · rcases Bool.or_eq_true_iff.mp among with plain | dot
          · exact small plain
          · rw [eq_of_beq dot]
            decide
        · rw [eq_of_beq underscore]
          decide
      · rw [eq_of_beq minus]
        decide

theorem resolve_some {rt : Runtime} {db : Database} {username : String} {row : UserRow}
    (h : resolve rt db username = some row) :
    usernamePattern row.username = true ∧ utf16Length row.username ≤ maximumUsernameLength := by
  unfold resolve at h
  cases normalized : normalizeUsername rt username with
  | error e =>
    rw [normalized] at h
    cases h
  | ok name =>
    rw [normalized] at h
    have own := List.find?_some (p := fun u : UserRow => u.username = name) h
    have own : row.username = name := of_decide_eq_true own
    unfold normalizeUsername at normalized
    dsimp only at normalized
    split_ifs at normalized with refused
    rw [not_or, not_or, Bool.not_eq_false, Nat.not_lt, Nat.not_lt] at refused
    cases normalized
    rw [own]
    exact ⟨refused.2.2, refused.2.1⟩

theorem userKey_iff {rt : Runtime} {name username plain : String}
    (pattern : usernamePattern name = true) (short : utf16Length name ≤ maximumUsernameLength)
    (spelt : rt.toLowerCase plain = name) :
    userKey rt username = userKey rt plain ↔ rt.toLowerCase username = name := by
  have length := utf16_length name
  unfold maximumUsernameLength at short
  have whole : (utf16 name).take 64 = utf16 name := List.take_of_length_le (by omega)
  rw [userKey, userKey, List.append_cancel_left_eq, accountKey, accountKey, spelt, whole]
  constructor
  · intro same
    have lengths := congrArg List.length same
    rw [List.length_take] at lengths
    rw [List.take_of_length_le (by omega)] at same
    exact utf16_plain (usernamePattern_plain pattern) same
  · intro own
    rw [own, whole]

theorem addressKey_ne (rt : Runtime) (address username : String) :
    addressKey address ≠ userKey rt username := by
  intro same
  have first := congrArg (List.take 1) same
  rw [addressKey, userKey, List.take_append_of_le_length (by decide),
    List.take_append_of_le_length (by decide)] at first
  exact absurd first (by decide)

theorem reaches_le {rt : Runtime} {p : String → Bool} {key : JsString} {e : LoginEvent}
    (l : RateLimiter JsString)
    (own : ∀ address username now busy, e = .attempt address username now busy →
      p username = true → userKey rt username = key) :
    (reaches rt p l e).toNat ≤ allowedCount key l (e.calls rt) := by
  cases e with
  | succeed address username => exact Nat.zero_le _
  | attempt address username now busy =>
    by_cases counted : reaches rt p l (.attempt address username now busy) = true
    · rw [counted]
      simp only [reaches, Bool.and_eq_true] at counted
      have same := own _ _ _ _ rfl counted.1.1.1
      rw [LoginEvent.calls, allowedCount, allowedCount, ← same, counted.1.2]
      exact (Nat.le_add_right ..).trans (Nat.le_add_left ..)
    · rw [Bool.eq_false_of_not_eq_true counted]
      exact Nat.zero_le _

theorem reached_le {rt : Runtime} {p : String → Bool} {es : List LoginEvent}
    (l : RateLimiter JsString) (key : JsString)
    (own : ∀ address username now busy, .attempt address username now busy ∈ es →
      p username = true → userKey rt username = key) :
    reached rt p l es ≤ allowedCount key l (es.flatMap (LoginEvent.calls rt)) := by
  induction es generalizing l with
  | nil => exact Nat.zero_le _
  | cons e es ih =>
    rw [List.flatMap_cons, allowedCount_append, reached]
    refine Nat.add_le_add (reaches_le l ?_) (ih _ ?_)
    · rintro address username now busy rfl
      exact own _ _ _ _ (List.mem_cons_self ..)
    · exact fun address username now busy member => own _ _ _ _ (List.mem_cons_of_mem _ member)

theorem reached_budget {rt : Runtime} {p : String → Bool} {l : RateLimiter JsString}
    {address username : String} {opened : Int} {busy : Bool} {during : List LoginEvent}
    (positive : 1 ≤ l.limit)
    (opens : (l.next (.check (addressKey address) opened)).Opens (userKey rt username) opened)
    (roomy : Meets step HasRoom l
      ((.attempt address username opened busy :: during).flatMap (LoginEvent.calls rt)))
    (own : ∀ a u now busy, .attempt a u now busy ∈ during → p u = true →
      userKey rt u = userKey rt username)
    (failing : ∀ a u, .succeed a u ∈ during → userKey rt u ≠ userKey rt username)
    (within : ∀ a u now busy, .attempt a u now busy ∈ during → now < opened + l.windowMs) :
    reached rt p l (.attempt address username opened busy :: during) ≤ l.limit := by
  have counted : reached rt p l (.attempt address username opened busy :: during) ≤ _ :=
    reached_le l (userKey rt username) fun a u now b member resolved => by
      rcases List.mem_cons.mp member with first | later
      · cases first
        rfl
      · exact own _ _ _ _ later resolved
  have other : l.allows (userKey rt username) (.check (addressKey address) opened) = false := by
    rw [allows, decide_eq_false (addressKey_ne rt address username)]
    rfl
  obtain ⟨limit, windowMs, -⟩ := next_params l (.check (addressKey address) opened)
  rw [← windowMs] at within
  rw [← limit] at positive ⊢
  refine (counted.trans_eq ?_).trans
    (opened_budget positive opens ((roomy.2 _ rfl).2 _ rfl) ?_ ?_)
  · rw [List.flatMap_cons, LoginEvent.calls, List.cons_append, allowedCount, other]
    exact Nat.zero_add _
  · intro forgotten
    obtain ⟨e, member, call⟩ := List.mem_flatMap.mp forgotten
    cases e with
    | attempt a u now b =>
      simp only [LoginEvent.calls, List.mem_cons, reduceCtorEq, List.not_mem_nil, or_false] at call
    | succeed a u =>
      simp only [LoginEvent.calls, List.mem_cons, Call.forget.injEq, List.not_mem_nil,
        or_false] at call
      rcases call with same | same
      · exact addressKey_ne rt a username same.symm
      · exact failing a u member same.symm
  · intro call among now time
    obtain ⟨e, member, call⟩ := List.mem_flatMap.mp among
    cases e with
    | attempt a u at' b =>
      simp only [LoginEvent.calls, List.mem_cons, List.not_mem_nil, or_false] at call
      rcases call with rfl | rfl <;> cases time <;> exact within _ _ _ _ member
    | succeed a u =>
      simp only [LoginEvent.calls, List.mem_cons, List.not_mem_nil, or_false] at call
      rcases call with rfl | rfl <;> cases time

/-- The spellings of one account that share its key are those that are its name up to the case of
their letters; as long as every check finds room, no window of that key lets more attempts on the
account through to the password than the limit, when all are spelt so and none succeeds. -/
theorem login_budget (rt : Runtime) (db : Database) (row : UserRow) (name : String)
    (found : resolve rt db name = some row) :
    (∀ username plain, rt.toLowerCase plain = row.username →
      (userKey rt username = userKey rt plain ↔ rt.toLowerCase username = row.username)) ∧
    ∀ before address username opened busy during,
      let l := (before.flatMap (LoginEvent.calls rt)).foldl next logins
      Meets step HasRoom logins ((before ++ .attempt address username opened busy :: during).flatMap
        (LoginEvent.calls rt)) →
      rt.toLowerCase username = row.username →
      (l.next (.check (addressKey address) opened)).Opens (userKey rt username) opened →
      (∀ a u now busy, .attempt a u now busy ∈ during → resolve rt db u = some row →
        rt.toLowerCase u = row.username) →
      (∀ a u, .succeed a u ∈ during → rt.toLowerCase u ≠ row.username) →
      (∀ a u now busy, .attempt a u now busy ∈ during → now < opened + loginWindowMs) →
      reached rt (fun u => resolve rt db u = some row) l
        (.attempt address username opened busy :: during) ≤ loginAttemptLimit := by
  obtain ⟨pattern, short⟩ := resolve_some found
  constructor
  · exact fun username plain spelt => userKey_iff pattern short spelt
  · intro before address username opened busy during
    dsimp only
    intro roomy spelt opens own failing within
    obtain ⟨limit, windowMs, -⟩ :=
      foldl_next_params logins (before.flatMap (LoginEvent.calls rt))
    rw [List.flatMap_append] at roomy
    have ran := run_total next logins (before.flatMap (LoginEvent.calls rt))
    refine (reached_budget ?_ opens (roomy.rest ran) ?_ ?_ ?_).trans_eq limit
    · rw [limit]
      decide
    · exact fun a u now b member resolved =>
        (userKey_iff pattern short spelt).mpr (own a u now b member (of_decide_eq_true resolved))
    · exact fun a u member same => failing a u member ((userKey_iff pattern short spelt).mp same)
    · rw [windowMs]
      exact within

def amy : UserRow := ⟨"user_1", "amy", "$argon2id$battery staple", .operator, 0, 0, none⟩

def amys : Database := ⟨[amy], [], [], none⟩

/-- A space before the name is another key for the same account, whose password is checked a sixth
time in one window. -/
theorem spaced_name_escapes :
    resolve plainRuntime amys "amy" = some amy ∧ resolve plainRuntime amys " amy" = some amy ∧
    userKey plainRuntime " amy" ≠ userKey plainRuntime "amy" ∧
    reached plainRuntime (fun u => resolve plainRuntime amys u = some amy) logins
      [.attempt "::1" "amy" 0 false, .attempt "::2" "amy" 1 false, .attempt "::1" "amy" 2 false,
        .attempt "::2" "amy" 3 false, .attempt "::1" "amy" 4 false,
        .attempt "::2" " amy" 5 false] = 6 := by
  decide +kernel

def amyAgain : List LoginEvent :=
  [.attempt "::2" "amy" 1 true, .attempt "::1" "amy" 2 false, .attempt "::2" "amy" 3 false,
    .attempt "::1" "amy" 4 true, .attempt "::2" "amy" 5 false, .attempt "::1" "amy" 6 false]

theorem login_budget_seven :
    amyAgain.length = 6 ∧
      reached plainRuntime (fun u => resolve plainRuntime amys u = some amy) logins
        (.attempt "::1" "amy" 0 false :: amyAgain) ≤ loginAttemptLimit := by
  have attempts : ∀ e ∈ amyAgain,
      ∃ a now busy, e = .attempt a "amy" now busy ∧ now < 0 + loginWindowMs := by
    simp only [amyAgain, List.forall_mem_cons, LoginEvent.attempt.injEq, true_and]
    refine ⟨⟨_, _, _, ⟨rfl, rfl, rfl⟩, ?_⟩, ⟨_, _, _, ⟨rfl, rfl, rfl⟩, ?_⟩,
      ⟨_, _, _, ⟨rfl, rfl, rfl⟩, ?_⟩, ⟨_, _, _, ⟨rfl, rfl, rfl⟩, ?_⟩,
      ⟨_, _, _, ⟨rfl, rfl, rfl⟩, ?_⟩, ⟨_, _, _, ⟨rfl, rfl, rfl⟩, ?_⟩,
      List.forall_mem_nil _⟩
    all_goals decide
  refine ⟨rfl, (login_budget plainRuntime amys amy "amy" (by decide +kernel)).2 [] "::1" "amy" 0
    false amyAgain (by decide +kernel) rfl (by decide +kernel) ?_ ?_ ?_⟩
  · intro a u now busy member _
    obtain ⟨_, _, _, same, -⟩ := attempts _ member
    cases same
    rfl
  · intro a u member
    obtain ⟨_, _, _, same, -⟩ := attempts _ member
    cases same
  · intro a u now busy member
    obtain ⟨_, _, _, same, within⟩ := attempts _ member
    cases same
    exact within

end CaseSorter.Web.LoginBudget
