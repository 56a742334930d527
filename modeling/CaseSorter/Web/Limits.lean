import CaseSorter.Lib.Mappings
import CaseSorter.Lib.Runs
import Mathlib.Algebra.Order.Group.Int
import Mathlib.Data.List.Dedup
import Mathlib.Data.List.Count

/-! The rate limiter of limits.ts: how many windows its map holds, and how many checks a window
allows. A check makes room before it looks its key up, so that a full map gives up a window that
is still counting. -/

namespace CaseSorter.Web.Limits

open CaseSorter.Runs CaseSorter.Mappings

variable {κ : Type*}

structure RateLimitDecision where
  allowed : Bool
  retryAfterMs : Int
  deriving DecidableEq, Repr

structure Window where
  count : Nat
  resetAt : Int
  deriving DecidableEq, Repr

/-- The `Map`: its entries in the order of their insertion. -/
abbrev Windows (κ : Type*) := List (κ × Window)

namespace Windows

/-- The first loop of `#evict`. -/
def expire (ws : Windows κ) (now : Int) : Windows κ := ws.filter fun e => ¬e.2.resetAt ≤ now

/-- The `reduce` over the entries, which raises a `TypeError` where there are none. -/
def oldest : Windows κ → Option (κ × Window)
  | [] => none
  | e :: rest => some (rest.foldl (fun a b => if a.2.resetAt ≤ b.2.resetAt then a else b) e)

theorem oldest_mem {ws : Windows κ} {e : κ × Window} (h : ws.oldest = some e) : e ∈ ws := by
  have inside (l : Windows κ) (a : κ × Window) :
      l.foldl (fun a b => if a.2.resetAt ≤ b.2.resetAt then a else b) a ∈ a :: l := by
    induction l generalizing a with
    | nil => exact List.mem_singleton.mpr rfl
    | cons b l ih =>
      rw [List.foldl_cons]
      split_ifs
      · have member := ih a
        grind
      · have member := ih b
        grind
  cases ws with
  | nil => cases h
  | cons first rest =>
    cases h
    exact inside rest first

variable [DecidableEq κ]

/-- The second loop of `#evict`, with one pass for each entry at most; false where it raises. -/
def makeRoom (maximumKeys : Nat) : Nat → Windows κ → Bool × Windows κ
  | 0, ws => (ws.length < maximumKeys, ws)
  | passes + 1, ws =>
    if ws.length < maximumKeys then (true, ws)
    else match ws.oldest with
      | none => (false, ws)
      | some e => makeRoom maximumKeys passes (delete ws e.1)

def evict (ws : Windows κ) (maximumKeys : Nat) (now : Int) : Bool × Windows κ :=
  makeRoom maximumKeys (ws.expire now).length (ws.expire now)

theorem makeRoom_sublist (maximumKeys passes : Nat) (ws : Windows κ) :
    (makeRoom maximumKeys passes ws).2.Sublist ws := by
  induction passes generalizing ws with
  | zero => exact .refl ws
  | succ passes ih =>
    unfold makeRoom
    split_ifs
    · exact .refl ws
    · split
      · exact .refl ws
      · exact (ih _).trans List.filter_sublist

theorem evict_sublist (maximumKeys : Nat) (now : Int) (ws : Windows κ) :
    (ws.evict maximumKeys now).2.Sublist ws :=
  (makeRoom_sublist _ _ _).trans List.filter_sublist

theorem delete_length {ws : Windows κ} {e : κ × Window} (member : e ∈ ws) :
    (delete ws e.1).length < ws.length := by
  rcases (List.filter_sublist (p := fun d => d.1 ≠ e.1) (l := ws)).length_le.lt_or_eq with less |
    same
  · exact less
  · have whole := List.filter_eq_self.mp (List.filter_sublist.eq_of_length same) e member
    exact absurd rfl (of_decide_eq_true whole)

theorem makeRoom_room (maximumKeys passes : Nat) (ws : Windows κ) (enough : ws.length ≤ passes) :
    ((makeRoom maximumKeys passes ws).1 = true ∧
      (makeRoom maximumKeys passes ws).2.length < maximumKeys) ∨
    ((makeRoom maximumKeys passes ws).1 = false ∧ (makeRoom maximumKeys passes ws).2 = [] ∧
      maximumKeys = 0) := by
  induction passes generalizing ws with
  | zero =>
    have empty : ws = [] := List.length_eq_zero_iff.mp (Nat.le_zero.mp enough)
    subst empty
    rw [makeRoom]
    rcases Nat.eq_zero_or_pos maximumKeys with zero | positive
    · exact .inr ⟨by simp [zero], rfl, zero⟩
    · exact .inl ⟨by simpa using positive, positive⟩
  | succ passes ih =>
    unfold makeRoom
    split_ifs with room
    · exact .inl ⟨rfl, room⟩
    · cases first : ws.oldest with
      | none =>
        cases ws with
        | nil => exact .inr ⟨rfl, rfl, Nat.le_zero.mp (Nat.le_of_not_lt room)⟩
        | cons e rest => cases first
      | some e =>
        have shorter := delete_length (oldest_mem first)
        exact ih _ (by omega)

theorem evict_roomy {ws : Windows κ} {maximumKeys : Nat} {now : Int}
    (room : (ws.expire now).length < maximumKeys) :
    ws.evict maximumKeys now = (true, ws.expire now) := by
  unfold evict
  cases (ws.expire now).length with
  | zero => rw [makeRoom, decide_eq_true room]
  | succ n => rw [makeRoom, if_pos room]

end Windows

variable [DecidableEq κ]

/-- A fixed-window counter per key. -/
structure RateLimiter (κ : Type*) where
  limit : Nat
  windowMs : Int
  maximumKeys : Nat
  windows : Windows κ
  keyed : Keyed windows

namespace RateLimiter

def new (limit : Nat) (windowMs : Int) (maximumKeys : Nat) : RateLimiter κ :=
  ⟨limit, windowMs, maximumKeys, [], List.nodup_nil⟩

def put (l : RateLimiter κ) (key : κ) (window : Window) : RateLimiter κ :=
  { l with windows := Mappings.put l.windows key window, keyed := l.keyed.put key window }

/-- The map after `#evict`. -/
def evicted (l : RateLimiter κ) (now : Int) : RateLimiter κ :=
  { l with windows := (l.windows.evict l.maximumKeys now).2
           keyed := l.keyed.sublist (Windows.evict_sublist _ _ _) }

/-- Record an attempt against `key` and say whether it is within budget; nothing where the
eviction raises. -/
def check (l : RateLimiter κ) (key : κ) (now : Int) :
    Option RateLimitDecision × RateLimiter κ :=
  let evicted := l.evicted now
  if (l.windows.evict l.maximumKeys now).1 = false then (none, evicted)
  else
    match evicted.windows.lookup key with
    | none => (some ⟨true, 0⟩, evicted.put key ⟨1, now + l.windowMs⟩)
    | some window =>
      if window.resetAt ≤ now then (some ⟨true, 0⟩, evicted.put key ⟨1, now + l.windowMs⟩)
      else
        let counted := evicted.put key { window with count := window.count + 1 }
        if l.limit < window.count + 1 then (some ⟨false, window.resetAt - now⟩, counted)
        else (some ⟨true, 0⟩, counted)

def forget (l : RateLimiter κ) (key : κ) : RateLimiter κ :=
  { l with windows := Mappings.delete l.windows key, keyed := l.keyed.delete key }

end RateLimiter

inductive Call (κ : Type*)
  | check (key : κ) (now : Int)
  | forget (key : κ)
  deriving DecidableEq, Repr

def Call.key : Call κ → κ
  | .check key _ => key
  | .forget key => key

def Call.time? : Call κ → Option Int
  | .check _ now => some now
  | .forget _ => none

namespace RateLimiter

def next (l : RateLimiter κ) : Call κ → RateLimiter κ
  | .check key now => (l.check key now).2
  | .forget key => l.forget key

def step (l : RateLimiter κ) (call : Call κ) : Option (RateLimiter κ) := some (l.next call)

def allows (l : RateLimiter κ) (key : κ) : Call κ → Bool
  | .check other now => other = key && (l.check other now).1.any (·.allowed)
  | .forget _ => false

/-- How many of the calls are checks of the key that are allowed. -/
def allowedCount (key : κ) : RateLimiter κ → List (Call κ) → Nat
  | _, [] => 0
  | l, call :: calls => (l.allows key call).toNat + allowedCount key (l.next call) calls

/-- A check of the key opens a window of it: it does not raise, and no window counts on. -/
def Opens (l : RateLimiter κ) (key : κ) (now : Int) : Prop :=
  (l.windows.evict l.maximumKeys now).1 = true ∧
    ∀ window ∈ (l.evicted now).windows.lookup key, window.resetAt ≤ now

instance (l : RateLimiter κ) (key : κ) (now : Int) : Decidable (l.Opens key now) :=
  inferInstanceAs (Decidable (_ ∧ _))

/-- A check finds fewer windows still counting than the map may hold. -/
def HasRoom (l : RateLimiter κ) : Call κ → Prop
  | .check _ now => (l.windows.expire now).length < l.maximumKeys
  | .forget _ => True

instance (l : RateLimiter κ) : ∀ call, Decidable (l.HasRoom call)
  | .check _ now => inferInstanceAs (Decidable ((l.windows.expire now).length < l.maximumKeys))
  | .forget _ => .isTrue trivial

theorem check_cases (l : RateLimiter κ) (key : κ) (now : Int) :
    ((l.windows.evict l.maximumKeys now).1 = false ∧ l.check key now = (none, l.evicted now)) ∨
    ((l.windows.evict l.maximumKeys now).1 = true ∧
      (∀ window ∈ (l.evicted now).windows.lookup key, window.resetAt ≤ now) ∧
      l.check key now = (some ⟨true, 0⟩, (l.evicted now).put key ⟨1, now + l.windowMs⟩)) ∨
    ∃ window, (l.windows.evict l.maximumKeys now).1 = true ∧
      (l.evicted now).windows.lookup key = some window ∧ now < window.resetAt ∧
      (l.check key now).1.any (·.allowed) = decide (window.count + 1 ≤ l.limit) ∧
      (l.check key now).2 = (l.evicted now).put key { window with count := window.count + 1 } := by
  unfold check
  dsimp only
  split_ifs with raises
  · exact .inl ⟨raises, rfl⟩
  · right
    have answered := Bool.eq_true_of_not_eq_false raises
    split
    · next none' =>
      refine .inl ⟨answered, ?_, rfl⟩
      rw [none']
      exact nofun
    · next window found =>
      split_ifs with expired above
      · refine .inl ⟨answered, ?_, rfl⟩
        rw [found]
        rintro _ ⟨⟩
        exact expired
      · exact .inr ⟨window, answered, found, Int.lt_of_not_ge expired,
          (decide_eq_false (Nat.not_le_of_lt above)).symm, rfl⟩
      · exact .inr ⟨window, answered, found, Int.lt_of_not_ge expired,
          (decide_eq_true (Nat.le_of_not_lt above)).symm, rfl⟩

theorem next_params (l : RateLimiter κ) (call : Call κ) :
    (l.next call).limit = l.limit ∧ (l.next call).windowMs = l.windowMs ∧
      (l.next call).maximumKeys = l.maximumKeys := by
  cases call with
  | forget key => exact ⟨rfl, rfl, rfl⟩
  | check key now =>
    rw [next]
    rcases check_cases l key now with ⟨-, after⟩ | ⟨-, -, after⟩ |
      ⟨_, -, -, -, -, after⟩ <;>
      rw [after] <;> exact ⟨rfl, rfl, rfl⟩

theorem evicted_roomy {l : RateLimiter κ} {now : Int}
    (room : (l.windows.expire now).length < l.maximumKeys) :
    (l.evicted now).windows = l.windows.expire now :=
  congrArg Prod.snd (Windows.evict_roomy room)

theorem lookup_expire (l : RateLimiter κ) {key : κ} {now : Int} {window : Window}
    (held : l.windows.lookup key = some window) (counting : now < window.resetAt) :
    (l.windows.expire now).lookup key = some window := by
  rw [Windows.expire, lookup_filter l.keyed, held, Option.filter_some, if_pos]
  exact decide_eq_true (Int.not_le.mpr counting)

theorem allowedCount_append (key : κ) (l : RateLimiter κ) (calls more : List (Call κ)) :
    allowedCount key l (calls ++ more) =
      allowedCount key l calls + allowedCount key (calls.foldl next l) more := by
  induction calls generalizing l with
  | nil => exact (Nat.zero_add _).symm
  | cons call calls ih =>
    rw [List.cons_append, allowedCount, allowedCount, ih, Nat.add_assoc, List.foldl_cons]

theorem allowedCount_le {l : RateLimiter κ} {key : κ} {window : Window} {calls : List (Call κ)}
    (held : l.windows.lookup key = some window) (roomy : Meets step HasRoom l calls)
    (kept : Call.forget key ∉ calls)
    (within : ∀ call ∈ calls, ∀ now ∈ call.time?, now < window.resetAt) :
    allowedCount key l calls ≤ l.limit - window.count := by
  induction calls generalizing l window with
  | nil => exact Nat.zero_le _
  | cons call calls ih =>
    obtain ⟨room, roomy⟩ := roomy
    have roomy := roomy _ rfl
    have kept' : Call.forget key ∉ calls := fun member => kept (List.mem_cons_of_mem _ member)
    have within' : ∀ c ∈ calls, ∀ now ∈ c.time?, now < window.resetAt :=
      fun c member => within c (List.mem_cons_of_mem _ member)
    rw [allowedCount]
    cases call with
    | forget other =>
      have apart : key ≠ other := by
        rintro rfl
        exact kept (List.mem_cons_self ..)
      have still : (l.next (.forget other)).windows.lookup key = some window := by
        rw [next, forget, lookup_delete l.keyed, if_neg apart, held]
      have rest := ih still roomy kept' within'
      rw [(next_params ..).1] at rest
      simpa [allows] using rest
    | check other now =>
      have counting := within _ (List.mem_cons_self ..) now rfl
      have live := lookup_expire l held counting
      rw [← evicted_roomy room] at live
      by_cases own : other = key
      · subst own
        rcases check_cases l other now with ⟨raises, -⟩ | ⟨-, opens, -⟩ |
          ⟨found, -, same, -, allowed, after⟩
        · have answered := congrArg Prod.fst (Windows.evict_roomy room)
          rw [raises] at answered
          cases answered
        · exact absurd (opens _ live) (Int.not_le.mpr counting)
        · rw [live] at same
          cases same
          have still : (l.next (.check other now)).windows.lookup other =
              some { window with count := window.count + 1 } := by
            rw [next, after, put, lookup_put, if_pos rfl]
          have rest := ih still roomy kept' within'
          rw [(next_params ..).1] at rest
          rw [allows, allowed]
          simp only [decide_true, Bool.true_and]
          by_cases more : window.count + 1 ≤ l.limit
          · rw [decide_eq_true more]
            simp only [Bool.toNat_true] at rest ⊢
            omega
          · rw [decide_eq_false more]
            simp only [Bool.toNat_false] at rest ⊢
            omega
      · have still : (l.next (.check other now)).windows.lookup key = some window := by
          rw [next]
          rcases check_cases l other now with ⟨-, after⟩ | ⟨-, -, after⟩ |
            ⟨_, -, -, -, -, after⟩
          · rw [after, live]
          · rw [after, put, lookup_put, if_neg (Ne.symm own), live]
          · rw [after, put, lookup_put, if_neg (Ne.symm own), live]
        have rest := ih still roomy kept' within'
        rw [(next_params ..).1] at rest
        simpa [allows, own] using rest

theorem opens_window {l : RateLimiter κ} {key : κ} {now : Int} (opens : l.Opens key now) :
    (l.next (.check key now)).windows.lookup key = some ⟨1, now + l.windowMs⟩ := by
  rw [next]
  rcases check_cases l key now with ⟨raises, -⟩ | ⟨-, -, after⟩ |
    ⟨_, -, found, counting, -⟩
  · rw [opens.1] at raises
    cases raises
  · rw [after, put, lookup_put, if_pos rfl]
  · exact absurd (opens.2 _ found) (Int.not_le.mpr counting)

theorem next_length {l : RateLimiter κ} (call : Call κ)
    (few : l.windows.length ≤ l.maximumKeys) :
    (l.next call).windows.length ≤ (l.next call).maximumKeys := by
  rw [(next_params ..).2.2]
  cases call with
  | forget key => exact (List.filter_sublist.length_le).trans few
  | check key now =>
    have room := Windows.makeRoom_room l.maximumKeys _ (l.windows.expire now) le_rfl
    have put_le (window : Window) (less : (l.evicted now).windows.length < l.maximumKeys) :
        ((l.evicted now).put key window).windows.length ≤ l.maximumKeys :=
      (length_put_le key window).trans less
    have evicted_le : (l.evicted now).windows.length ≤ l.maximumKeys :=
      (Windows.evict_sublist _ _ _).length_le.trans few
    rw [next]
    rcases check_cases l key now with ⟨-, after⟩ | ⟨answered, -, after⟩ |
      ⟨_, answered, -, -, -, after⟩
    · rw [after]
      exact evicted_le
    · rw [after]
      rcases room with ⟨-, less⟩ | ⟨raises, -⟩
      · exact put_le _ less
      · exact absurd (answered.symm.trans raises) (by decide)
    · rw [after]
      rcases room with ⟨-, less⟩ | ⟨raises, -⟩
      · exact put_le _ less
      · exact absurd (answered.symm.trans raises) (by decide)

theorem next_keys {l : RateLimiter κ} {call : Call κ} {key : κ}
    (held : key ∈ (l.next call).windows.map Prod.fst) :
    key = call.key ∨ key ∈ l.windows.map Prod.fst := by
  cases call with
  | forget other => exact .inr ((List.filter_sublist.map Prod.fst).subset held)
  | check other now =>
    have before : key ∈ (l.evicted now).windows.map Prod.fst → key ∈ l.windows.map Prod.fst :=
      fun member => ((Windows.evict_sublist _ _ _).map Prod.fst).subset member
    have after_put (window : Window)
        (member : key ∈ ((l.evicted now).put other window).windows.map Prod.fst) :
        key = other ∨ key ∈ l.windows.map Prod.fst := by
      rw [put, keys_put] at member
      split_ifs at member
      · exact .inr (before member)
      · rcases List.mem_append.mp member with old | own
        · exact .inr (before old)
        · exact .inl (List.mem_singleton.mp own)
    rw [next] at held
    rcases check_cases l other now with ⟨-, after⟩ | ⟨-, -, after⟩ |
      ⟨_, -, -, -, -, after⟩
    · rw [after] at held
      exact .inr (before held)
    · rw [after] at held
      exact after_put _ held
    · rw [after] at held
      exact after_put _ held

theorem meets_hasRoom {l : RateLimiter κ} {keys : List κ} {calls : List (Call κ)}
    (few : keys.dedup.length < l.maximumKeys) (held : l.windows.map Prod.fst ⊆ keys)
    (used : calls.map Call.key ⊆ keys) : Meets step HasRoom l calls := by
  induction calls generalizing l with
  | nil => trivial
  | cons call calls ih =>
    refine ⟨?_, ?_⟩
    · cases call with
      | forget key => trivial
      | check key now =>
        have sub : (l.windows.expire now).map Prod.fst ⊆ keys.dedup := fun other member =>
          List.mem_dedup.mpr (held ((List.filter_sublist.map Prod.fst).subset member))
        have fewer := (List.subperm_of_subset (l.keyed.filter _) sub).length_le
        rw [List.length_map] at fewer
        exact fewer.trans_lt few
    · rintro _ ⟨⟩
      refine ih (by rwa [(next_params ..).2.2]) ?_ ?_
      · intro key member
        rcases next_keys member with rfl | old
        · exact used (List.mem_cons_self ..)
        · exact held old
      · exact fun key member => used (List.mem_cons_of_mem _ member)

end RateLimiter

open RateLimiter

theorem foldl_next_params (l : RateLimiter κ) (calls : List (Call κ)) :
    (calls.foldl next l).limit = l.limit ∧ (calls.foldl next l).windowMs = l.windowMs ∧
      (calls.foldl next l).maximumKeys = l.maximumKeys := by
  induction calls generalizing l with
  | nil => exact ⟨rfl, rfl, rfl⟩
  | cons call calls ih =>
    obtain ⟨limit, windowMs, maximumKeys⟩ := next_params l call
    rw [← limit, ← windowMs, ← maximumKeys]
    exact ih (l.next call)

theorem foldl_next_length {l : RateLimiter κ} (calls : List (Call κ))
    (few : l.windows.length ≤ l.maximumKeys) :
    (calls.foldl next l).windows.length ≤ l.maximumKeys := by
  induction calls generalizing l with
  | nil => exact few
  | cons call calls ih =>
    rw [← (next_params l call).2.2]
    exact ih (next_length call few)

theorem opened_budget {l : RateLimiter κ} {key : κ} {opened : Int} {during : List (Call κ)}
    (positive : 1 ≤ l.limit) (opens : l.Opens key opened)
    (roomy : Meets step HasRoom (l.next (.check key opened)) during)
    (kept : Call.forget key ∉ during)
    (within : ∀ call ∈ during, ∀ now ∈ call.time?, now < opened + l.windowMs) :
    allowedCount key l (.check key opened :: during) ≤ l.limit := by
  have rest := allowedCount_le (opens_window opens) roomy kept within
  rw [(next_params ..).1] at rest
  have one := Bool.toNat_le (l.allows key (.check key opened))
  calc allowedCount key l (.check key opened :: during)
      ≤ 1 + (l.limit - 1) := Nat.add_le_add one rest
    _ = l.limit := Nat.add_sub_cancel' positive

/-- The map never holds more windows than it may; a window allows no more checks than the limit
where every check finds room; and every check does where fewer keys are used than it may hold. -/
theorem rateLimiter_keeps (limit : Nat) (windowMs : Int) (maximumKeys : Nat)
    (calls : List (Call κ)) :
    (calls.foldl next (new limit windowMs maximumKeys)).windows.length ≤ maximumKeys ∧
    (1 ≤ limit → Meets step HasRoom (new limit windowMs maximumKeys) calls →
      ∀ before key opened during after,
        calls = before ++ .check key opened :: (during ++ after) →
        (before.foldl next (new limit windowMs maximumKeys)).Opens key opened →
        Call.forget key ∉ during →
        (∀ call ∈ during, ∀ now ∈ call.time?, now < opened + windowMs) →
        allowedCount key (before.foldl next (new limit windowMs maximumKeys))
          (.check key opened :: during) ≤ limit) ∧
    ((calls.map Call.key).dedup.length < maximumKeys →
      Meets step HasRoom (new limit windowMs maximumKeys) calls) := by
  refine ⟨foldl_next_length calls (Nat.zero_le _), ?_, ?_⟩
  · rintro positive roomy before key opened during after rfl opens kept within
    have ran : run step (new limit windowMs maximumKeys) before =
        some (before.foldl next (new limit windowMs maximumKeys)) := run_total next _ _
    have left := meets_append ((roomy.rest ran).2 _ rfl)
    obtain ⟨sameLimit, sameWindow, -⟩ :=
      foldl_next_params (new limit windowMs maximumKeys : RateLimiter κ) before
    refine (opened_budget (positive.trans_eq sameLimit.symm) opens left kept ?_).trans_eq sameLimit
    rwa [sameWindow]
  · exact fun few => meets_hasRoom few (List.nil_subset _) (List.Subset.refl _)

/-- One key and room for one: each check gives up the window that counts it, and is allowed. -/
theorem full_map_forgets :
    ¬∀ (limit : Nat) (windowMs : Int) (maximumKeys : Nat) (before during : List (Call String))
      (key : String) (opened : Int),
      ((before ++ .check key opened :: during).filterMap Call.time?).Pairwise (· ≤ ·) →
      ((before ++ .check key opened :: during).map Call.key).dedup.length ≤ maximumKeys →
      (before.foldl next (new limit windowMs maximumKeys)).Opens key opened →
      Call.forget key ∉ during →
      (∀ call ∈ during, ∀ now ∈ call.time?, now < opened + windowMs) →
      allowedCount key (before.foldl next (new limit windowMs maximumKeys))
        (.check key opened :: during) ≤ limit := by
  intro claimed
  have counted := claimed 1 10 1 [] [.check "a" 1] "a" 0 (by decide) (by decide) (by decide)
    (by decide) (by decide)
  revert counted
  decide

theorem rateLimiter_keeps_two_keys :
    ([.check "a" 0, .check "b" 5, .check "a" 7, .check "a" 9].foldl next
      (new 2 10 3 : RateLimiter String)).windows.length ≤ 3 ∧
    allowedCount "a" (new 2 10 3) [.check "a" 0, .check "b" 5, .check "a" 7, .check "a" 9] ≤
      2 := by
  obtain ⟨few, budget, roomy⟩ :=
    rateLimiter_keeps 2 10 3 [.check "a" 0, .check "b" 5, .check "a" 7, .check "a" 9]
  exact ⟨few, budget (by decide) (roomy (by decide)) [] "a" 0
    [.check "b" 5, .check "a" 7, .check "a" 9] [] rfl (by decide) (by decide) (by decide)⟩

end CaseSorter.Web.Limits
