import CaseSorter.Lib.Runs
import CaseSorter.Daemon.HealthyStorage

/-! Reuse of an idempotency key over storage that never fails. The lookup hides an
expired record, the insertion relies on a primary key over all of them, and nothing
prunes in between: the key of an expired record cannot be admitted again. -/

namespace CaseSorter.Daemon

open CaseSorter.Actions CaseSorter.Transactions CaseSorter.Runs

namespace Call

open Domain

def Admissible (c : Call) (d : Domain) : Prop :=
  requireIdempotencyKey c.caller.idempotencyKey = .ok () ∧
  (∃ window, d.requireDeadline c.caller.deadlineMs = .ok window) ∧
  match c.request with
  | .submit action body expected =>
    ∃ intent, intentFor action body = .ok intent ∧
      Passes (some expected) (requireReady intent) d.machine
  | .stop expected => Passes expected (fun _ => .ok ()) d.machine
  | .connect expected => Passes (some expected) (fun _ => .ok ()) d.machine
  | .recover expected => Passes (some expected) (fun _ => .ok ()) d.machine
  | .configure changes expected =>
    (∃ v g t w, d.configurationOf d.db.appliedConfiguration = .ok (v, g, t) ∧
      v.withChanges changes = .ok w) ∧
    Passes (some expected) (fun _ => .ok ()) d.machine

/-- No expired record still bears the key of a request that would be admitted. -/
def KeyUsable (d : Domain) (c : Call) : Prop :=
  ∀ row ∈ d.db.idempotency, row.key = c.caller.idempotencyKey →
    row.liveAt c.caller.now = true ∨ ¬ c.Admissible d

/-- What the reuse of a key must never cost: no journal error, no latched fault, and a
key whose record is no longer live admits a new operation that becomes its live record. -/
structure Reusable (c : Call) (d : Domain) : Prop where
  quiet : ∀ e, (exec c.perform d).1 = .error e → e.isJournal = false
  unlatched : (exec c.perform d).2.machine.journalAvailable = true
  admitted : ∀ row ∈ d.db.idempotency, row.key = c.caller.idempotencyKey →
    row.liveAt c.caller.now = false → c.Admissible d →
    ∃ record, (exec c.perform d).2.db.idempotencyRecord c.caller.idempotencyKey c.caller.now =
      some record ∧ record.operationId ∉ d.db.operationIds

def CallerOk (caller : Caller) (d : Domain) : Prop :=
  requireIdempotencyKey caller.idempotencyKey = .ok () ∧
    ∃ window, d.requireDeadline caller.deadlineMs = .ok window

theorem ensures_requireCaller (caller : Caller) (d : Domain) (sound : d.Sound) :
    Ensures (· = d) (requireCaller caller) (fun _ t => t = d ∧ CallerOk caller d) Quiet := by
  rintro t rfl
  simp only [requireCaller, exec_bind, exec_ofExcept, exec_get]
  cases hk : requireIdempotencyKey caller.idempotencyKey with
  | error e => exact ⟨requireIdempotencyKey_error hk, sound⟩
  | ok u =>
    cases hw : t.requireDeadline caller.deadlineMs with
    | error e =>
      simp only [hw]
      refine ⟨?_, sound⟩
      unfold requireDeadline at hw
      split_ifs at hw
      cases hw
      rfl
    | ok window =>
      simp only [hw]
      exact ⟨trivial, hk, window, hw⟩

theorem ensures_ofExcept {α : Type} {r : Except Raised α} {P : Domain → Prop}
    (sound : ∀ d, P d → d.Sound) (quiet : ∀ e, r = .error e → e.isJournal = false) :
    Ensures P (Domain.ofExcept r) (fun a d => P d ∧ r = .ok a) Quiet := by
  intro d hd
  rw [exec_ofExcept]
  cases hr : r with
  | error e => exact ⟨quiet e hr, sound d hd⟩
  | ok a => exact ⟨hd, rfl⟩

theorem ensures_currentConfiguration (d : Domain) (sound : d.Sound) :
    Ensures (· = d) currentConfiguration
      (fun r t => t = d ∧ d.configurationOf d.db.appliedConfiguration = .ok r) Quiet := by
  rintro t rfl
  simp only [currentConfiguration, exec_bind, Journal.appliedConfiguration, exec_read sound,
    exec_get, exec_ofExcept]
  cases hr : t.configurationOf t.db.appliedConfiguration with
  | error e => exact ⟨configurationOf_error hr, sound⟩
  | ok r => exact ⟨rfl, rfl⟩

section Perform

variable {c : Call} {d : Domain}

theorem ensures_admission_usable (activity kind : String) {expected : Option Nat}
    {check : MachineSnapshot → Except Raised Unit}
    {proceed : MachineSnapshot → DomainM OperationRecord} (healthy : c.caller.threat = none)
    (sound : d.Sound) (usable : c.KeyUsable d)
    (quiet_check : ∀ view e, check view = .error e → e.isJournal = false)
    (quiet_proceed : ∀ view, Ensures
      (fun d => d.Sound ∧ c.caller.idempotencyKey ∉ d.db.idempotency.map (·.key))
      (proceed view) Listed Quiet)
    {P : Domain → Prop} (at_d : ∀ t, P t → t = d)
    (admissible : ∀ t, P t → Passes expected check d.machine → c.Admissible d) :
    Ensures P (admission activity kind c.caller expected check proceed)
      (fun a d => Listed a.record d) Quiet := by
  refine (ensures_admission activity kind healthy quiet_check quiet_proceed).weaken ?_
    (fun _ _ h => h) (fun _ _ h => h)
  intro t ht
  obtain rfl := at_d t ht
  refine ⟨sound, fun row member key_eq => ?_⟩
  exact (usable row member key_eq).imp id fun refused passes => refused (admissible t ht passes)

theorem ensures_session (action : SessionAction) (expected : Nat)
    (healthy : c.caller.threat = none) (sound : d.Sound) (usable : c.KeyUsable d)
    (admissible : CallerOk c.caller d → Passes (some expected) (fun _ => .ok ()) d.machine →
      c.Admissible d) :
    Ensures (· = d)
      (do
        let result ← admitSession action c.caller expected
        handOver c.refusal c.caller.now result)
      (fun _ t => t.Sound) Quiet := by
  refine ensures_bind (ensures_bind (ensures_requireCaller c.caller d sound) fun window => ?_)
    fun a => ensures_handOver c.refusal c.caller.now a
  exact ensures_admission_usable _ _ healthy sound usable (fun _ _ h => by cases h)
    (fun view => ensures_admitOperation _ _ _ _ _) (fun t h => h.1) (fun t h => admissible h.2)

theorem ensures_perform (healthy : c.caller.threat = none) (sound : d.Sound)
    (usable : c.KeyUsable d) : Ensures (· = d) c.perform (fun _ t => t.Sound) Quiet := by
  have caller_checked := ensures_requireCaller c.caller d sound
  unfold perform
  cases hr : c.request with
  | submit action body expected =>
    have admitted : Ensures (· = d) (admitSubmit action body c.caller expected)
        (fun r t => Listed r.2.record t) Quiet := by
      refine ensures_bind (ensures_ofExcept (fun t h => h ▸ sound) fun e => intentFor_error)
        fun intent => ?_
      by_cases hi : intentFor action body = .ok intent
      · refine ensures_bind (caller_checked.weaken (fun t h => h.1) (fun _ _ h => h)
          (fun _ _ h => h)) fun window => ?_
        refine ensures_bind (ensures_admission_usable _ _ healthy sound usable
          (fun _ _ => requireReady_error) (fun view => ensures_admitOperation _ _ _ _ _)
          (fun t h => h.1)
          fun t h passes => ?_) fun a => ensures_pure fun t h => h
        simp only [Admissible, hr]
        exact ⟨h.2.1, h.2.2, intent, hi, passes⟩
      · intro t h
        exact absurd h.2 hi
    exact ensures_bind admitted fun r => ensures_handOver _ _ r.2
  | stop expected =>
    refine ensures_bind (ensures_bind caller_checked fun window => ?_)
      fun a => ensures_handOver c.refusal c.caller.now a
    refine ensures_admission_usable _ _ healthy sound usable (fun _ _ h => by cases h) ?_
      (fun t h => h.1) fun t h passes => ?_
    · intro view
      exact ensures_bind (ensures_admitOperation _ _ _ _ _) fun accepted =>
        ensures_transition_listed rfl _
    · simp only [Admissible, hr]
      exact ⟨h.2.1, h.2.2, passes⟩
  | connect expected =>
    refine ensures_session .connect expected healthy sound usable fun ok passes => ?_
    simp only [Admissible, hr]
    exact ⟨ok.1, ok.2, passes⟩
  | recover expected =>
    refine ensures_session .recover expected healthy sound usable fun ok passes => ?_
    simp only [Admissible, hr]
    exact ⟨ok.1, ok.2, passes⟩
  | configure changes expected =>
    have admitted : Ensures (· = d) (admitConfigure changes c.caller expected)
        (fun a t => Listed a.record t) Quiet := by
      refine ensures_bind caller_checked fun window => ?_
      by_cases ok : CallerOk c.caller d
      · refine ensures_bind ((ensures_currentConfiguration d sound).weaken (fun t h => h.1)
          (fun _ _ h => h) (fun _ _ h => h)) fun r => ?_
        obtain ⟨v, g, moment⟩ := r
        refine ensures_bind (ensures_ofExcept (fun t h => h.1 ▸ sound)
          fun e => ConfigurationValues.withChanges_error) fun candidate => ?_
        refine ensures_admission_usable _ _ healthy sound usable (fun _ _ h => by cases h) ?_
          (fun t h => h.1.1) fun t h passes => ?_
        · intro view
          refine ensures_bind (ensures_admitOperation _ _ _ _ _) fun accepted => ?_
          exact ensures_bind (ensures_transition_listed rfl _) fun running =>
            ensures_applyConfiguration running candidate c.caller
        · simp only [Admissible, hr]
          exact ⟨ok.1, ok.2, ⟨v, g, moment, candidate, h.1.2, h.2⟩, passes⟩
      · intro t h
        exact absurd h.2 ok
    exact ensures_bind admitted fun a => ensures_pure fun t h => h.1

def Refused {α : Type} (j : Journal) (P : Domain → Prop) (x : DomainM α) : Prop :=
  Ensures P x (fun _ _ => False) (fun _ t => t.journal = j)

theorem refused_bind_pre {α β : Type} {j : Journal} {P : Domain → Prop}
    {R : β → Domain → Prop}
    {x : DomainM β} {f : β → DomainM α} (hx : Ensures P x R fun _ t => t.journal = j)
    (hf : ∀ b, Refused j (R b) (f b)) : Refused j P (x >>= f) := ensures_bind hx hf

theorem refused_bind {α β : Type} {j : Journal} {P : Domain → Prop} {x : DomainM β}
    {f : β → DomainM α} (hx : Refused j P x) : Refused j P (x >>= f) :=
  ensures_bind hx fun _ _ h => h.elim

theorem refused_admitOperation (action : OperationAction) {caller : Caller} (view : MachineSnapshot)
    (window : Nat) (reason : String) {db : Db}
    (taken : caller.idempotencyKey ∈ db.idempotency.map (·.key)) :
    Refused (Journal.open db) (fun t => t.journal = Journal.open db)
      (admitOperation action caller view window reason) := by
  intro t ht
  simp only [admitOperation, exec_bind, exec_newOperationId, exec_ofExcept]
  cases made : newOperation t.nextId action caller view.generation window with
  | error e => exact ht
  | ok operation =>
    simp only [exec_get, exec_onJournal]
    obtain ⟨e, recorded⟩ := Journal.recordAdmission_taken operation
      s!"admitted against generation {view.generation}"
      (newIdempotency t.nextId caller { t with nextId := t.nextId + 1 }) taken
    rw [← ht] at recorded
    rw [recorded]
    exact ht

theorem ensures_still {α : Type} {x : DomainM α} (still : (exec x d).2 = d) :
    Ensures (· = d) x (fun _ t => t = d) fun _ t => t.journal = d.journal := by
  rintro t rfl
  rcases h : exec x t with ⟨e | a, u⟩
  · rw [h] at still
    exact congrArg Domain.journal still
  · rw [h] at still
    exact still

theorem exec_requireCaller_still (caller : Caller) (d : Domain) :
    (exec (requireCaller caller) d).2 = d := by
  simp only [requireCaller, exec_bind, exec_ofExcept, exec_get]
  cases requireIdempotencyKey caller.idempotencyKey <;> rfl

theorem exec_currentConfiguration_still (sound : d.Sound) :
    (exec currentConfiguration d).2 = d := by
  simp only [currentConfiguration, exec_bind, Journal.appliedConfiguration, exec_read sound,
    exec_get, exec_ofExcept]

theorem refused_durable {α : Type} {j : Journal} {P : Domain → Prop} {body : DomainM α}
    (activity : String) (now : Nat) (h : Refused j P body) :
    Refused j P (durable activity now body) := by
  refine ensures_tryCatch h fun e => ?_
  intro t ht
  cases e <;> exact ht

theorem refused_admission (activity kind : String) {caller : Caller} {expected : Option Nat}
    {check : MachineSnapshot → Except Raised Unit}
    {proceed : MachineSnapshot → DomainM OperationRecord} (healthy : caller.threat = none)
    (sound : d.Sound) (absent : d.db.idempotencyRecord caller.idempotencyKey caller.now = none)
    (refused_proceed : ∀ view,
      Refused d.journal (fun t => t.journal = d.journal) (proceed view)) :
    Refused d.journal (· = d) (admission activity kind caller expected check proceed) := by
  rintro t rfl
  have durable_view : requireDurable t.machine = .ok () := by
    rw [requireDurable, if_pos sound.available]
  have replayed : exec (replay caller.idempotencyKey caller.fingerprint caller.now) t =
      (.ok none, t) := by
    simp only [replay, exec_bind, Journal.idempotencyRecord, exec_read sound, absent, exec_pure]
  simp only [admission, exec_bind, refreshDurability, healthy, exec_get, exec_pure, exec_ofExcept,
    durable_view]
  refine refused_durable activity caller.now ?_ t (rfl : t = t)
  rintro _ rfl
  rw [exec_bind, replayed]
  simp only [exec_bind, exec_ofExcept]
  cases requireGeneration kind expected t.machine with
  | error e => rfl
  | ok u =>
    cases check t.machine with
    | error e => rfl
    | ok v =>
      have proceeded := refused_proceed t.machine t rfl
      rcases hp : exec (proceed t.machine) t with ⟨e | record, u⟩
      all_goals
        rw [hp] at proceeded
        simp only [hp]
        exact proceeded

theorem refused_perform (healthy : c.caller.threat = none) (sound : d.Sound)
    (absent : d.db.idempotencyRecord c.caller.idempotencyKey c.caller.now = none)
    (taken : c.caller.idempotencyKey ∈ d.db.idempotency.map (·.key)) :
    Refused d.journal (· = d) c.perform := by
  have caller_checked := ensures_still (exec_requireCaller_still c.caller d)
  have refused : ∀ action view window reason, Refused d.journal (fun t => t.journal = d.journal)
      (admitOperation action c.caller view window reason) := by
    intro action view window reason
    rw [sound.journal]
    exact refused_admitOperation action view window reason taken
  have session : ∀ action expected, Refused d.journal (· = d)
      (admitSession action c.caller expected) := by
    intro action expected
    refine refused_bind_pre caller_checked fun window => ?_
    exact refused_admission _ _ healthy sound absent fun view => refused _ _ _ _
  unfold perform
  cases c.request with
  | submit action body expected =>
    refine refused_bind ?_
    refine refused_bind_pre (ensures_still rfl) fun intent => ?_
    refine refused_bind_pre caller_checked fun window => ?_
    exact refused_bind (refused_admission _ _ healthy sound absent fun view => refused _ _ _ _)
  | stop expected =>
    refine refused_bind (refused_bind_pre caller_checked fun window => ?_)
    exact refused_admission _ _ healthy sound absent fun view => refused_bind (refused _ _ _ _)
  | connect expected => exact refused_bind (session .connect expected)
  | recover expected => exact refused_bind (session .recover expected)
  | configure changes expected =>
    refine refused_bind (refused_bind_pre caller_checked fun window => ?_)
    refine refused_bind_pre (ensures_still (exec_currentConfiguration_still sound)) fun r => ?_
    refine refused_bind_pre (ensures_still rfl) fun candidate => ?_
    exact refused_admission _ _ healthy sound absent fun view => refused_bind (refused _ _ _ _)

theorem reusable_iff (healthy : c.caller.threat = none) (sound : d.Sound) :
    c.Reusable d ↔ c.KeyUsable d := by
  constructor
  · intro reusable row member key_eq
    by_contra neither
    obtain ⟨expired, admissible⟩ := not_or.mp neither
    obtain ⟨record, found, -⟩ := reusable.admitted row member key_eq (by simpa using expired)
      (not_not.mp admissible)
    have absent : d.db.idempotencyRecord c.caller.idempotencyKey c.caller.now = none := by
      rw [← key_eq, Db.idempotencyRecord, Db.find_idempotency member]
      simpa using expired
    have refused :=
      refused_perform healthy sound absent (List.mem_map.mpr ⟨row, member, key_eq⟩)
      d rfl
    rcases h : exec c.perform d with ⟨e | r, t⟩
    · rw [h] at refused found
      have same : t.db = d.db := congrArg (·.connection.committed) refused
      simp only [same, absent] at found
      cases found
    · rw [h] at refused
      exact refused
  · intro usable
    have performed := ensures_perform healthy sound usable d rfl
    refine ⟨?_, ?_, ?_⟩
    · intro e raised
      rcases h : exec c.perform d with ⟨e' | r, t⟩
      · rw [h] at raised performed
        cases raised
        exact performed.1
      · rw [h] at raised
        cases raised
    · rcases h : exec c.perform d with ⟨e' | r, t⟩
      · rw [h] at performed
        exact performed.2.available
      · rw [h] at performed
        exact performed.available
    · intro row member key_eq expired admissible
      rcases usable row member key_eq with live | refused
      · rw [expired] at live
        cases live
      · exact absurd admissible refused

end Perform

end Call
namespace HistoryEvent

open Domain

/-- Every request of the history has a usable key when it is made. -/
def KeyUsable (d : Domain) : HistoryEvent → Prop
  | .call c => c.KeyUsable d
  | _ => True

/-- Storage never fails: the durability monitor reports nothing at a request, and the
engine serves every statement. -/
def Healthy : HistoryEvent → Prop
  | .call c => c.caller.threat = none
  | .storage engine => engine = []
  | _ => True

theorem sound_after {α : Type} {x : DomainM α} {d : Domain} {Q : α → Domain → Prop}
    (h : Ensures (· = d) x Q Quiet) (kept : ∀ a t, Q a t → t.Sound) : (exec x d).2.Sound := by
  have held := h d rfl
  rcases hx : exec x d with ⟨e | a, t⟩
  · rw [hx] at held
    exact held.2
  · rw [hx] at held
    exact kept a t held

theorem sound_of_view {d : Domain} (sound : d.Sound) {m : MachineSnapshot}
    (same : m.journalAvailable = d.machine.journalAvailable) :
    (d.observe m).Sound :=
  ⟨sound.journal, same.trans sound.available, sound.operations, sound.configurations⟩

theorem ensures_dispatch (operation : OperationRecord) (now : Nat) :
    Ensures (Listed operation) (Domain.dispatch operation now) (fun _ d => d.Sound) Quiet := by
  unfold Domain.dispatch
  by_cases expired : operation.expiredAt now = true
  · simp only [if_pos expired]
    exact ensures_bind (R := fun _ _ => False) (ensures_throw fun d h => ⟨rfl, h.1⟩)
      fun _ _ h => h.elim
  · simp only [if_neg expired]
    exact ensures_bind (ensures_transition_listed rfl now) fun r => ensures_pure fun d h => h.1

theorem sound_prune {d : Domain} (sound : d.Sound) (now : Nat) :
    (exec (onJournal (Journal.pruneIdempotency now)) d).2.Sound := by
  have pruned : Journal.pruneIdempotency now (Journal.open d.db) =
      (.ok (d.db.idempotency.countP fun record => !record.liveAt now),
        Journal.open ((Db.deleteExpired now d.db).get rfl)) := by
    rw [Journal.pruneIdempotency, pruneScript, Journal.write_open]
    rfl
  rw [exec_onJournal, sound.journal, pruned]
  exact ⟨rfl, sound.available, sound.operations, sound.configurations⟩

theorem sound_step {d t : Domain} {e : HistoryEvent} (sound : d.Sound)
    (ok : e.KeyUsable d ∧ e.Healthy) (stepped : step d e = some t) : t.Sound := by
  cases e with
  | call c =>
    cases stepped
    exact sound_after (Call.ensures_perform ok.2 sound ok.1) fun _ _ h => h
  | observeConnection state reason =>
    cases stepped
    refine sound_of_view sound ?_
    unfold MachineSnapshot.observeConnection
    split_ifs <;> rfl
  | observeProfile firmware readiness =>
    cases stepped
    refine sound_of_view sound ?_
    unfold MachineSnapshot.observeProfile
    split_ifs <;> rfl
  | dispatch operationId now =>
    simp only [step, Option.map_eq_some_iff] at stepped
    obtain ⟨operation, found, rfl⟩ := stepped
    have listed : Listed operation d := by
      refine ⟨sound, ?_⟩
      rw [Db.readOperation_operationId found]
      exact Db.mem_operationIds_iff.mpr ⟨operation, found⟩
    exact sound_after ((ensures_dispatch operation now).weaken (fun t h => h ▸ listed)
      (fun _ _ h => h) (fun _ _ h => h)) fun _ _ h => h
  | settle operationId result now =>
    cases result with
    | error failure =>
      cases stepped
      exact sound_after ((ensures_resolve operationId failure now).weaken (fun t h => h ▸ sound)
        (fun _ _ h => h) (fun _ _ h => h)) fun _ _ h => h
    | ok result =>
      cases stepped
      exact sound_after ((ensures_complete operationId result now).weaken (fun t h => h ▸ sound)
        (fun _ _ h => h) (fun _ _ h => h)) fun _ _ h => h
  | settleStop operationId failure now =>
    cases failure with
    | some failure =>
      cases stepped
      exact sound_after ((ensures_resolve operationId failure now).weaken (fun t h => h ▸ sound)
        (fun _ _ h => h) (fun _ _ h => h)) fun _ _ h => h
    | none =>
      simp only [step, Option.map_eq_some_iff] at stepped
      obtain ⟨operation, found, rfl⟩ := stepped
      refine sound_after ((ensures_safeTransition (stopped operationId) now).weaken (fun t h => ?_)
        (fun _ _ h => h) (fun _ _ h => h)) fun _ _ h => h
      rw [h]
      exact ⟨sound, Db.mem_operationIds_iff.mpr ⟨operation, found⟩⟩
  | prune now =>
    cases stepped
    exact sound_prune sound now
  | restart policy now =>
    cases stepped
    exact ⟨rfl, rfl, sound.operations, sound.configurations⟩
  | storage engine =>
    cases stepped
    obtain rfl : engine = [] := ok.2
    refine ⟨?_, sound.available, sound.operations, sound.configurations⟩
    show ({ d.journal with engine := [] } : Journal) = _
    rw [sound.journal]
    rfl

end HistoryEvent

/-- Over storage that never fails, after every history in which each request's key was
usable, a key is reusable exactly when no expired record stands in its way. -/
theorem expiredKey_reusable (policy : Policy) (started : Nat) (history : List HistoryEvent)
    (d : Domain) (healthy : ∀ e ∈ history, e.Healthy)
    (usable : Meets HistoryEvent.step HistoryEvent.KeyUsable (Domain.new policy .empty 0 started [])
      history)
    (reached : run HistoryEvent.step (Domain.new policy .empty 0 started []) history = some d)
    (c : Call) (monitored : c.caller.threat = none) : c.Reusable d ↔ c.KeyUsable d := by
  have start : (Domain.new policy .empty 0 started []).Sound :=
    ⟨rfl, rfl, fun _ h => absurd h List.not_mem_nil, fun _ h => absurd h List.not_mem_nil⟩
  have meets := meets_and usable (meets_of_forall (fun _ e he => healthy e he) _)
  exact Call.reusable_iff monitored
    (run_invariant (fun _ _ _ sound ok => HistoryEvent.sound_step sound ok) start meets reached)

/-- A stop of any generation under `key`. -/
def stopCall (key : String) (now : Nat) : Call where
  request := .stop none
  caller := ⟨⟨"operator", "admin"⟩, key, "stop", 1000, now, none⟩

def firstLife : Domain := Domain.new .standard .empty 0 0 []

def afterStop : Domain := (exec (stopCall "k" 0).perform firstLife).2

/-- Within its window the key replays its operation. -/
theorem expiredKey_reusable_live : (stopCall "k" 1).Reusable afterStop := by
  have live : ∀ row ∈ afterStop.db.idempotency, row.liveAt 1 = true := by decide +kernel
  refine (expiredKey_reusable {} 0 [.call (stopCall "k" 0)] afterStop ?_ ?_ rfl
    (stopCall "k" 1) rfl).mpr fun row member _ => .inl (live row member)
  · intro e member
    rw [List.mem_singleton.mp member]
    rfl
  · exact ⟨fun row member => absurd member List.not_mem_nil, fun _ _ => trivial⟩

/-- A day later the same key takes the daemon out of service. -/
theorem expiredKey_latches :
    run HistoryEvent.step firstLife [.call (stopCall "k" 0)] = some afterStop ∧
      ¬ (stopCall "k" 86400000).Reusable afterStop := by
  refine ⟨rfl, fun reusable => ?_⟩
  have latched : (exec (stopCall "k" 86400000).perform afterStop).2.machine.journalAvailable =
      false := by decide +kernel
  rw [reusable.unlatched] at latched
  cases latched

end CaseSorter.Daemon
