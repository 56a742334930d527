import CaseSorter.Daemon.Beats
import CaseSorter.Daemon.ConfigurationHistory

/-! The deadline bound. A daemon life begins with the limit of its policy and every configuration
applied in it can only lower that limit, so the limit is the least one set since the start,
whatever the journal says has been applied last. -/

namespace CaseSorter.Daemon

open CaseSorter.Actions CaseSorter.Transactions CaseSorter.Runs

def ConfigurationValues.deadlineLimit (v : ConfigurationValues) : Int := v.value .maxDeadlineMs

namespace Domain

/-- Some configurations were applied, each of which may have lowered the limit. -/
structure Lowers (d t : Domain) : Prop where
  least : t.minDeadlineMs = d.minDeadlineMs
  applied : ∃ applied, t.appliedHistory = applied ++ d.appliedHistory ∧
    t.maxDeadlineMs = (applied.map ConfigurationValues.deadlineLimit).foldr min d.maxDeadlineMs

theorem lowers_same {d t : Domain} (least : t.minDeadlineMs = d.minDeadlineMs)
    (history : t.appliedHistory = d.appliedHistory) (limit : t.maxDeadlineMs = d.maxDeadlineMs) :
    Lowers d t := ⟨least, [], history, limit⟩

instance : Std.Refl Lowers := ⟨fun _ => lowers_same rfl rfl rfl⟩

instance : IsTrans Domain Lowers where
  trans d u t first second := by
    obtain ⟨older, history, limit⟩ := first.applied
    obtain ⟨newer, history', limit'⟩ := second.applied
    refine ⟨second.least.trans first.least, newer ++ older, ?_, ?_⟩
    · rw [history', history, List.append_assoc]
    · rw [limit', limit, List.map_append, List.foldr_append]

theorem lowers_beats : Beats Lowers fun _ => True where
  read read d := lowers_same rfl rfl rfl
  supply d := lowers_same rfl rfl rfl
  fault reason now d := lowers_same rfl rfl rfl
  enter operation reason key d := lowers_same rfl rfl rfl
  write move now _ d := by
    rw [exec_writeTransition]
    rcases Journal.recordTransition ⟨move, d.machine.generation + 1, now⟩ d.journal with
      ⟨e | record, j⟩
    · exact lowers_same rfl rfl rfl
    · exact lowers_same rfl rfl rfl
  prune now d := lowers_same rfl rfl rfl
  connection d state reason := lowers_same rfl rfl rfl
  profile d firmware readiness := lowers_same rfl rfl rfl
  storage d engine := lowers_same rfl rfl rfl

theorem lowers_commit (operation : OperationRecord) (values : ConfigurationValues)
    (caller : Caller) : Keeps Lowers (commitConfiguration operation values caller) := by
  intro d
  simp only [commitConfiguration, exec_bind, exec_get, exec_newOperationId, exec_onJournal]
  generalize ConfigurationSnapshot.mk d.nextId (d.machine.generation + 1) values.asMapping
    s!"{caller.actor.role}:{caller.actor.userId}" caller.now = snapshot
  rcases Journal.recordConfiguration snapshot d.journal with ⟨e | u, j⟩
  · exact lowers_same rfl rfl rfl
  · exact ⟨rfl, [values], rfl, Int.min_comm _ _⟩

section Requests

variable {R : Domain → Domain → Prop} [Std.Refl R] [IsTrans Domain R]

theorem Beats.enters (beats : Beats R fun _ => True)
    (commits : ∀ operation values caller, Keeps R (commitConfiguration operation values caller))
    (caller : Caller) (p : Prepared) : Keeps R (p.admitSection caller) := by
  refine beats.admitting fun view => ?_
  by_cases configures : p.action = .configure
  · cases p with
    | configure changes candidate window expected =>
      refine keeps_bind (beats.admits (fun _ _ => trivial) _ _ _ _ _) fun accepted => ?_
      refine keeps_bind (beats.moves trivial _) fun running => ?_
      rw [applyConfiguration_eq]
      exact keeps_bind (commits _ _ _) fun _ => beats.moves trivial _
    | stop window expected => cases configures
    | session action window expected => cases action <;> cases configures
    | submit action intent window expected =>
      exact beats.admits (fun _ _ => trivial) _ _ _ _ _
  · exact beats.proceeds (fun _ _ => trivial) caller configures view

theorem Beats.handsOver (beats : Beats R fun _ => True) (refusal : Option Failure) (now : Nat)
    (a : Admission) : Keeps R (handOver refusal now a) := by
  cases a with
  | replayed record => cases refusal <;> exact keeps_pure _
  | admitted record =>
    cases refusal with
    | none => exact keeps_pure _
    | some e =>
      refine keeps_bind ?_ fun _ => keeps_throw _
      exact beats.settles (resolution_operationId e) fun _ _ => trivial

theorem Beats.performs (beats : Beats R fun _ => True)
    (commits : ∀ operation values caller, Keeps R (commitConfiguration operation values caller))
    (c : Call) : Keeps R c.perform := by
  have called : Keeps R (requireCaller c.caller) := by
    refine keeps_bind (keeps_given _) fun _ => ?_
    exact keeps_bind keeps_get fun d => keeps_given _
  have enters := beats.enters commits c.caller
  unfold Call.perform
  cases c.request with
  | submit action body expected =>
    refine keeps_bind ?_ fun r => beats.handsOver _ _ r.2
    refine keeps_bind (keeps_given _) fun intent => keeps_bind called fun window => ?_
    exact keeps_bind (enters (.submit action intent window expected)) fun _ => keeps_pure _
  | stop expected =>
    refine keeps_bind ?_ fun a => beats.handsOver _ _ a
    exact keeps_bind called fun window => enters (.stop window expected)
  | connect expected =>
    refine keeps_bind ?_ fun a => beats.handsOver _ _ a
    exact keeps_bind called fun window => enters (.session .connect window expected)
  | recover expected =>
    refine keeps_bind ?_ fun a => beats.handsOver _ _ a
    exact keeps_bind called fun window => enters (.session .recover window expected)
  | configure changes expected =>
    refine keeps_bind ?_ fun _ => keeps_pure _
    refine keeps_bind called fun window => keeps_bind ?_ fun current => ?_
    · refine keeps_bind (beats.read _) fun applied => ?_
      exact keeps_bind keeps_get fun d => keeps_given _
    · refine keeps_bind (keeps_given _) fun candidate => ?_
      exact enters (.configure changes candidate window expected)

end Requests

end Domain

namespace HistoryEvent

def restarts : HistoryEvent → Bool
  | .restart _ _ => true
  | _ => false

theorem lowers_step {d t : Domain} {e : HistoryEvent} (goesOn : e.restarts = false)
    (stepped : step d e = some t) : Domain.Lowers d t := by
  have beats := Domain.lowers_beats
  cases e with
  | call c =>
    cases stepped
    exact beats.performs Domain.lowers_commit c d
  | observeConnection state reason =>
    cases stepped
    exact Domain.lowers_same rfl rfl rfl
  | observeProfile firmware readiness =>
    cases stepped
    exact Domain.lowers_same rfl rfl rfl
  | dispatch operationId now =>
    simp only [step, Option.map_eq_some_iff] at stepped
    obtain ⟨operation, -, rfl⟩ := stepped
    exact beats.dispatches (fun _ _ => trivial) operation now d
  | settle operationId result now =>
    cases result with
    | ok result =>
      cases stepped
      exact beats.settles (Domain.completion_operationId result) (fun _ _ => trivial) d
    | error failure =>
      cases stepped
      exact beats.settles (Domain.resolution_operationId failure) (fun _ _ => trivial) d
  | settleStop operationId failure now =>
    cases failure with
    | some failure =>
      cases stepped
      exact beats.settles (Domain.resolution_operationId failure) (fun _ _ => trivial) d
    | none =>
      simp only [step, Option.map_eq_some_iff] at stepped
      obtain ⟨operation, -, rfl⟩ := stepped
      exact beats.safely trivial now d
  | prune now =>
    cases stepped
    exact beats.prune now d
  | restart policy now => cases goesOn
  | storage engine =>
    cases stepped
    exact beats.storage d engine

theorem lowers_run {d t : Domain} {life : List HistoryEvent}
    (goesOn : ∀ e ∈ life, e.restarts = false) (ran : run step d life = some t) :
    Domain.Lowers d t := by
  induction life generalizing d with
  | nil =>
    cases ran
    exact refl _
  | cons e life ih =>
    obtain ⟨u, stepped, rest⟩ := run_cons_eq_some.mp ran
    refine IsTrans.trans _ _ _ (lowers_step (goesOn e (List.mem_cons_self ..)) stepped) ?_
    exact ih (fun e' member => goesOn e' (List.mem_cons_of_mem _ member)) rest

end HistoryEvent

def limitsSet (policy : Policy) (applied : List ConfigurationValues) : List Int :=
  applied.map ConfigurationValues.deadlineLimit ++ [policy.maxDeadlineMs]

/-- The reported limit is the least one set since the start, or no deadline is long enough for
either of the two. -/
def InForce (policy : Policy) (applied : List ConfigurationValues) (reported : Int) : Prop :=
  (reported ∈ limitsSet policy applied ∧ ∀ limit ∈ limitsSet policy applied,
    reported ≤ limit) ∨
    (reported < policy.minDeadlineMs ∧
      ∃ limit ∈ limitsSet policy applied, limit < policy.minDeadlineMs)

instance (policy : Policy) (applied : List ConfigurationValues) (reported : Int) :
    Decidable (InForce policy applied reported) := by
  unfold InForce
  infer_instance

theorem foldr_min_least (limits : List Int) (limit : Int) :
    limits.foldr min limit ∈ limits ++ [limit] ∧
      ∀ l ∈ limits ++ [limit], limits.foldr min limit ≤ l := by
  induction limits with
  | nil => simp
  | cons first limits ih =>
    obtain ⟨member, least⟩ := ih
    rw [List.foldr_cons]
    refine ⟨?_, fun l found => ?_⟩
    · rcases Int.le_total first (limits.foldr min limit) with le | le
      · rw [Int.min_eq_left le]
        exact List.mem_cons_self ..
      · rw [Int.min_eq_right le]
        exact List.mem_cons_of_mem _ member
    · rcases List.mem_cons.mp found with rfl | found
      · exact Int.min_le_left _ _
      · exact Int.le_trans (Int.min_le_right _ _) (least l found)

theorem requireDeadline_accepts {d : Domain} {deadline : Int} :
    (∃ window, d.requireDeadline deadline = .ok window) ↔
      d.minDeadlineMs ≤ deadline ∧ deadline ≤ d.maxDeadlineMs := by
  unfold Domain.requireDeadline
  split_ifs with within
  · simp [within]
  · simp [within]

/-- The longest deadline that `configuration()` reports. -/
def Domain.reportedLimit (d : Domain) : Option Int :=
  (exec Domain.currentConfiguration d).1.toOption.map fun read => read.1.deadlineLimit

/-- In a daemon life, over whatever the earlier ones have left, the reported bound is the one in
force exactly where it is the least set since the start. -/
theorem reportedLimit_inForce (policy : Policy) (db : Db) (nextId now : Nat)
    (earlier : List ConfigurationValues) (life : List HistoryEvent) (d : Domain)
    (goesOn : ∀ e ∈ life, e.restarts = false)
    (reached : run HistoryEvent.step (Domain.new policy db nextId now earlier) life = some d)
    (applied : List ConfigurationValues) (since : d.appliedHistory = applied ++ earlier) :
    ∀ reported ∈ d.reportedLimit,
      (∀ deadline, (∃ window, d.requireDeadline deadline = .ok window) ↔
          d.minDeadlineMs ≤ deadline ∧ deadline ≤ reported) ↔
        InForce policy applied reported := by
  intro reported _
  obtain ⟨least, applied', since', limit⟩ := HistoryEvent.lowers_run goesOn reached
  obtain rfl : applied = applied' := List.append_cancel_right (since.symm.trans since')
  have bottom : d.minDeadlineMs = policy.minDeadlineMs := least
  obtain ⟨member, below⟩ := foldr_min_least
    (applied.map ConfigurationValues.deadlineLimit) policy.maxDeadlineMs
  have force : d.maxDeadlineMs ∈ limitsSet policy applied := limit ▸ member
  have floor : ∀ l ∈ limitsSet policy applied, d.maxDeadlineMs ≤ l := limit ▸ below
  simp only [requireDeadline_accepts]
  constructor
  · intro same
    by_cases agrees : reported = d.maxDeadlineMs
    · exact .inl (agrees ▸ ⟨force, floor⟩)
    · have longer := same (max reported d.maxDeadlineMs)
      exact .inr ⟨by omega, d.maxDeadlineMs, force, by omega⟩
  · rintro (⟨set, smallest⟩ | ⟨short, limit', set, short'⟩) deadline
    · have agrees := Int.le_antisymm (floor reported set) (smallest _ force)
      rw [agrees]
    · have lower := floor limit' set
      omega

def setDeadlineLimit (key : String) (limit : Int) (expected now : Nat) : HistoryEvent :=
  .call
    { request := .configure [("max_deadline_ms", limit)] expected
      caller := ⟨⟨"administrator", "admin"⟩, key, key, 1000, now, none⟩ }

def lowered : List HistoryEvent := [setDeadlineLimit "a" 60000 1 0]

theorem reportedLimit_inForce_lowered :
    ∃ d, run HistoryEvent.step (Domain.new {} .empty 0 0 []) lowered = some d ∧
      d.reportedLimit = some 60000 ∧
      (∀ deadline, (∃ window, d.requireDeadline deadline = .ok window) ↔
        d.minDeadlineMs ≤ deadline ∧ deadline ≤ 60000) := by
  have ran : run HistoryEvent.step (Domain.new {} .empty 0 0 []) lowered =
      some (lifeAfter lowered) := run_eq_runD (by decide +kernel)
  have reports : (lifeAfter lowered).reportedLimit = some 60000 := by decide +kernel
  refine ⟨lifeAfter lowered, ran, reports, ?_⟩
  refine (reportedLimit_inForce {} .empty 0 0 [] lowered (lifeAfter lowered) (by decide) ran
    (lifeAfter lowered).appliedHistory (List.append_nil _).symm 60000 reports).mpr ?_
  decide +kernel

def raisedAgain : List HistoryEvent := lowered ++ [setDeadlineLimit "b" 90000 5 1]

theorem reportedLimit_passed :
    Meets HistoryEvent.step HistoryEvent.Successful (Domain.new {} .empty 0 0 []) raisedAgain ∧
      (lifeAfter raisedAgain).reportedLimit = some 90000 ∧
      (lifeAfter raisedAgain).minDeadlineMs ≤ 80000 ∧
      ((lifeAfter raisedAgain).requireDeadline 80000).isOk = false ∧
    Meets HistoryEvent.step HistoryEvent.Successful (Domain.new {} .empty 0 0 [])
        (lowered ++ [.restart {} 1]) ∧
      (lifeAfter (lowered ++ [.restart {} 1])).reportedLimit = some 60000 ∧
      ((lifeAfter (lowered ++ [.restart {} 1])).requireDeadline 80000).isOk = true := by
  refine ⟨?_, ?_, ?_, ?_, ?_, ?_, ?_⟩ <;> decide +kernel

end CaseSorter.Daemon
