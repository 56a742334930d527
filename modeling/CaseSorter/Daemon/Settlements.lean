import CaseSorter.Daemon.AdmittedOnce
import CaseSorter.Host.Fields

/-! When an outcome is recorded. The host's grammar of a terminal, the daemon's check of its
fields and the journal's check of a reason meet in the callback of a future, where nothing
but the checks can refuse the move while storage fails nothing. -/

namespace CaseSorter.Daemon

open CaseSorter.Actions CaseSorter.Transactions CaseSorter.Runs

def Response.ofHost (r : Host.Response) : Response where
  requestId := r.requestId
  kind := r.kind
  fields := r.fields.map fun f => (String.ofList f.1, String.ofList f.2)
  name := r.name.map String.ofList

def Completion.FromWire (c : Completion) : Prop :=
  ∃ line crcRequired r, Host.parseV2Line line crcRequired = .ok (.response r) ∧
    c.terminalResponse = some (.ofHost r)

def hasCapital (name : String) : Bool := name.toList.any Char.isUpper

theorem isUpper_iff (c : Char) : c.isUpper = true ↔ 65 ≤ c.toNat ∧ c.toNat ≤ 90 := by
  change decide ((65 : UInt32) ≤ c.val ∧ c.val ≤ 90) = true ↔ _
  simp [UInt32.le_iff_toNat_le, ← Char.toNat_val]

theorem isLower_iff (c : Char) : c.isLower = true ↔ 97 ≤ c.toNat ∧ c.toNat ≤ 122 := by
  change (decide ((97 : UInt32) ≤ c.val) && decide (c.val ≤ 122)) = true ↔ _
  simp [UInt32.le_iff_toNat_le, ← Char.toNat_val]

theorem isDigit_iff (c : Char) : c.isDigit = true ↔ 48 ≤ c.toNat ∧ c.toNat ≤ 57 := by
  simp [Char.isDigit, UInt32.le_iff_toNat_le, ← Char.toNat_val]

theorem isLetter_iff (c : Char) :
    Host.isLetter c = true ↔ c.isLower = true ∨ c.isUpper = true := by
  rw [isLower_iff, isUpper_iff]
  simp only [Host.isLetter, Bool.or_eq_true, Bool.and_eq_true, decide_eq_true_eq]
  exact Or.comm

theorem hostDigit_iff (c : Char) : Host.isDigit c = true ↔ c.isDigit = true := by
  rw [isDigit_iff]
  simp only [Host.isDigit, Bool.and_eq_true, decide_eq_true_eq]
  exact Iff.rfl

theorem not_isUpper_of_isLower {c : Char} (lower : c.isLower = true) : c.isUpper = false := by
  rw [← Bool.not_eq_true, isUpper_iff]
  rw [isLower_iff] at lower
  omega

theorem not_isUpper_of_isDigit {c : Char} (digit : c.isDigit = true) : c.isUpper = false := by
  rw [← Bool.not_eq_true, isUpper_iff]
  rw [isDigit_iff] at digit
  omega

theorem isTerminalFieldName_iff {name : Host.Text} (h : Host.isName name = true) :
    isTerminalFieldName (String.ofList name) = !hasCapital (String.ofList name) := by
  unfold isTerminalFieldName hasCapital
  rw [String.toList_ofList]
  cases name with
  | nil => simp [Host.isName] at h
  | cons c cs =>
    simp only [Host.isName, List.head?_cons, Option.any_some, List.all_cons, Bool.and_eq_true,
      Bool.or_eq_true, List.all_eq_true, decide_eq_true_eq, isLetter_iff, hostDigit_iff] at h
    obtain ⟨first, -, rest⟩ := h
    rw [Bool.eq_iff_iff]
    simp only [Bool.and_eq_true, List.all_eq_true, Bool.or_eq_true, beq_iff_eq,
      Bool.not_eq_true', List.any_eq_false, List.mem_cons, forall_eq_or_imp, Bool.not_eq_true]
    constructor
    · rintro ⟨lower, others⟩
      refine ⟨not_isUpper_of_isLower lower, fun d member => ?_⟩
      rcases others d member with (lower | digit) | rfl
      · exact not_isUpper_of_isLower lower
      · exact not_isUpper_of_isDigit digit
      · rfl
    · rintro ⟨small, others⟩
      refine ⟨first.resolve_right (by simp [small]), fun d member => ?_⟩
      rcases rest d member with ((lower | upper) | digit) | underscore
      · exact .inl (.inl lower)
      · exact absurd upper (by simp [others d member])
      · exact .inl (.inr digit)
      · exact .inr underscore

theorem requireTerminalFields_ofHost {fields : Host.Fields} (h : Host.Bounded 64 fields) :
    requireTerminalFields (fields.map fun f => (String.ofList f.1, String.ofList f.2)) = .ok () ↔
      ∀ f ∈ fields, hasCapital (String.ofList f.1) = false := by
  have few : ¬ (fields.map fun f => (String.ofList f.1, String.ofList f.2)).length >
      maxTerminalFields := by
    have count := h.count
    rw [List.length_map, maxTerminalFields]
    omega
  have short : ∀ f ∈ fields, ¬ maxTerminalValueLength < (String.ofList f.2).toList.length := by
    intro f member
    rw [String.toList_ofList]
    exact Nat.not_lt.mpr (h.values f member)
  unfold requireTerminalFields
  rw [if_neg few]
  constructor
  · intro accepted f member
    split at accepted
    · rename_i none
      rw [List.find?_eq_none] at none
      have named := none _ (List.mem_map.mpr ⟨f, member, rfl⟩)
      simp only [isTerminalFieldName_iff (h.names f member), Bool.not_not, Bool.or_eq_true,
        decide_eq_true_eq, not_or, Bool.not_eq_true] at named
      exact named.1
    · split_ifs at accepted
  · intro small
    have none : (fields.map fun f => (String.ofList f.1, String.ofList f.2)).find? (fun f =>
        !isTerminalFieldName f.1 || f.2.toList.length > maxTerminalValueLength) = none := by
      rw [List.find?_eq_none]
      intro g member
      obtain ⟨f, was, rfl⟩ := List.mem_map.mp member
      simp only [isTerminalFieldName_iff (h.names f was), small f was, Bool.not_false,
        Bool.not_true, Bool.false_or, gt_iff_lt, decide_eq_true_eq]
      exact short f was
    rw [none]

def Failure.fits (current : OperationState) : Failure → Bool
  | .domain (.deadlineExpired _) | .preemptedByStop _ | .preemptedByRecovery _ => true
  | .workerUncertain m => m.toList.length ≤ 466
  | .workerNotRunning m | .sessionNotReady m | .queueFull m | .stopInProgress m =>
    m.toList.length ≤ 494
  | .domain e => e.message.toList.length ≤ if current = .running then 472 else 484
  | .other _ m => m.toList.length ≤ if current = .running then 472 else 484

example : "worker could not establish a trusted outcome: ".toList.length + 466 = 512 := by decide
example : "never dispatched: ".toList.length + 494 = 512 := by decide
example : "failed before transmission: ".toList.length + 484 = 512 := by decide
example : "transmitted without a trusted terminal: ".toList.length + 472 = 512 := by decide

theorem requireReason_prefixed (label message : String)
    (visible : label.toList.all isSpace = false) :
    requireReason (label ++ message) = .ok () ↔
      label.toList.length + message.toList.length ≤ 512 := by
  have visible' : (label ++ message).toList.all isSpace = false := by
    rw [String.toList_append, List.all_append, visible, Bool.false_and]
  unfold requireReason
  rw [visible', if_neg (by decide), String.toList_append, List.length_append]
  split_ifs with long
  · exact ⟨(fun h => by cases h), fun short => absurd short (Nat.not_le.mpr long)⟩
  · exact ⟨fun _ => Nat.le_of_not_lt long, fun _ => rfl⟩

theorem requireReason_classify (e : Failure) (current : OperationState) :
    requireReason (e.classify current).2 = .ok () ↔ e.fits current = true := by
  have prefixed (label message : String) (visible : label.toList.all isSpace = false) (room : Nat)
      (length : label.toList.length + room = 512) :
      requireReason (label ++ message) = .ok () ↔ (message.toList.length ≤ room) := by
    rw [requireReason_prefixed label message visible]
    omega
  have dispatched (m : String) : requireReason ("never dispatched: " ++ m) = .ok () ↔
      decide (m.toList.length ≤ 494) = true := by
    rw [decide_eq_true_eq]
    exact prefixed _ _ (by decide) 494 (by decide)
  have failed (m : String) : requireReason
      (if current ≠ .running then (OperationState.failed, "failed before transmission: " ++ m)
        else (.uncertain, "transmitted without a trusted terminal: " ++ m)).2 = .ok () ↔
      decide (m.toList.length ≤ if current = .running then 472 else 484) = true := by
    rw [decide_eq_true_eq]
    by_cases running : current = .running
    · rw [if_neg (not_not.mpr running), if_pos running]
      exact prefixed _ _ (by decide) 472 (by decide)
    · rw [if_pos running, if_neg running]
      exact prefixed _ _ (by decide) 484 (by decide)
  cases e with
  | workerUncertain m =>
    rw [Failure.fits, decide_eq_true_eq]
    exact prefixed "worker could not establish a trusted outcome: " m (by decide) 466 (by decide)
  | domain e =>
    cases e with
    | deadlineExpired m =>
      have plain : requireReason "deadline expired before transmission" = .ok () := by decide
      exact ⟨fun _ => rfl, fun _ => plain⟩
    | _ => exact failed _
  | other typeName m => exact failed m
  | preemptedByStop m =>
    have plain : requireReason "invalidated by a trusted priority stop" = .ok () := by decide
    exact ⟨fun _ => rfl, fun _ => plain⟩
  | preemptedByRecovery m =>
    have plain : requireReason "discarded by session recovery; never replayed" = .ok () := by decide
    exact ⟨fun _ => rfl, fun _ => plain⟩
  | workerNotRunning m => exact dispatched m
  | sessionNotReady m => exact dispatched m
  | queueFull m => exact dispatched m
  | stopInProgress m => exact dispatched m

namespace Domain

variable {d : Domain} {i : OperationId} {row : OperationRecord} {move : Move} {now : Nat}

theorem exec_current_steady (steady : d.Steady) (i : OperationId) (now : Nat) :
    exec (current i now) d = (.ok (d.db.readOperation i), d) := by
  have same : d.journal = Journal.open d.db := steady
  have read : exec (onJournal (Journal.operation i)) d = (.ok (d.db.readOperation i), d) := by
    rw [exec_onJournal, Journal.operation, same, Journal.guard_open]
    simp only [← same]
  rw [current, exec_tryCatch, read]

theorem recordTransition_checked {t : TransitionWrite} {db : Db}
    (found : db.readOperation t.operationId = some row)
    (allowed : canTransition row.state t.toState = true) (forward : row.generation ≤ t.generation)
    (trusted : t.trustedTerminal = true ↔ t.toState = .succeeded) :
    (t.toMove.Fit ∧ ∃ record j, Journal.recordTransition t (Journal.open db) =
      (.ok record, j)) ∨
      (¬ t.toMove.Fit ∧
        ∃ e, Journal.recordTransition t (Journal.open db) = (.error e, Journal.open db)) := by
  unfold Journal.recordTransition
  cases said : requireReason t.reason with
  | error e =>
    refine .inr ⟨fun fit => ?_, e, ?_⟩
    · cases said.symm.trans fit.reason
    · have refused : transitionScript t = .error e := by
        simp only [transitionScript, said, bind, Except.bind]
      rw [refused]
      rfl
  | ok u =>
    rw [transitionScript_said said trusted, Journal.write_open]
    rcases TransitionWrite.body_allowed trusted found allowed forward with
      ⟨fields, record, returned⟩ | ⟨e, refused, raised⟩
    · rw [returned]
      refine .inl ⟨⟨said, trusted, fun given is => ?_⟩, record, _, rfl⟩
      unfold TransitionWrite.requireFields at fields
      rw [is] at fields
      exact fields
    · rw [raised]
      refine .inr ⟨fun fit => ?_, e, rfl⟩
      unfold TransitionWrite.requireFields at refused
      cases given : t.terminalFields with
      | none =>
        rw [given] at refused
        cases refused
      | some fields =>
        rw [given] at refused
        cases refused.symm.trans (fit.fields fields given)

theorem transition_checked (steady : d.Steady)
    (found : d.db.readOperation move.operationId = some row)
    (allowed : canTransition row.state move.toState = true)
    (reached : row.generation ≤ d.machine.generation)
    (trusted : move.trustedTerminal = true ↔ move.toState = .succeeded) :
    (move.Fit ∧ ∃ record t, exec (transition move now) d = (.ok record, t)) ∨
      (¬ move.Fit ∧ ∃ e t, exec (transition move now) d = (.error e, t) ∧ t.db = d.db) := by
  have same : d.journal = Journal.open d.db := steady
  have written := exec_writeTransition move now d
  rw [transition, exec_tryCatch]
  rcases recordTransition_checked (t := d.writeOf move now) found allowed
    (Nat.le_succ_of_le reached) trusted with ⟨fit, record, j, recorded⟩ |
      ⟨unfit, e, refused⟩
  · rw [← same, show d.writeOf move now = ⟨move, d.machine.generation + 1, now⟩
      from rfl] at recorded
    rw [recorded] at written
    rw [written]
    exact .inl ⟨fit, _, _, rfl⟩
  · rw [← same, show d.writeOf move now = ⟨move, d.machine.generation + 1, now⟩
      from rfl] at refused
    rw [refused] at written
    rw [written]
    refine .inr ⟨unfit, ?_⟩
    cases e <;> exact ⟨_, _, rfl, rfl⟩

theorem settle_iff {choose : OperationRecord → Option Move} (steady : d.Steady)
    (found : d.db.readOperation i = some row) (chosen : choose row = some move)
    (own : move.operationId = row.operationId) (ends : isTerminal move.toState = true)
    (allowed : canTransition row.state move.toState = true)
    (reached : row.generation ≤ d.machine.generation)
    (trusted : move.trustedTerminal = true ↔ move.toState = .succeeded) :
    (∃ row', (exec (do
        match (← current i now).bind choose with
        | none => pure ()
        | some move => safeTransition move now) d).2.db.readOperation i = some row' ∧
      isTerminal row'.state = true) ↔ move.Fit := by
  have named : move.operationId = i := own.trans (Db.readOperation_operationId found)
  subst named
  rw [exec_bind, exec_current_steady steady]
  simp only [found, Option.bind_some, chosen]
  rw [safeTransition, exec_tryCatch, exec_bind]
  rcases @transition_checked _ _ _ now steady found allowed reached trusted with
    ⟨fit, record, t, moved⟩ | ⟨unfit, e, t, refused, same⟩
  · rw [moved]
    refine ⟨fun _ => fit, fun _ => ⟨record, (transition_changes moved).2, ?_⟩⟩
    rw [(transition_left moved).1]
    exact ends
  · rw [refused]
    refine ⟨?_, fun fit => absurd fit unfit⟩
    rintro ⟨row', read, ended⟩
    have read' : d.db.readOperation move.operationId = some row' := by
      rw [← read, ← same]
      cases e <;> rfl
    cases found.symm.trans read'
    rw [canTransition_open allowed] at ended
    cases ended

end Domain

/-- What the client or the worker may answer an operation with: an exception, or to a
command the completion of a terminal that the host has accepted. -/
def Callback.Answered : Callback → Settlement → Prop
  | _, .error _ => True
  | .settle _, .ok (some (.completion c)) => c.FromWire
  | _, _ => False

/-- The reason has room for the message, or no field of the terminal has a capital. -/
def recordable (current : OperationState) : Settlement → Bool
  | .error e => e.fits current
  | .ok (some (.completion c)) => (c.terminalFields.getD []).all fun f => !hasCapital f.1
  | .ok _ => true

theorem classify_unresolved (e : Failure) (current : OperationState) :
    (e.classify current).1 ∈ unresolved := by
  unfold Failure.classify
  split
  all_goals try split_ifs
  all_goals simp [unresolved]

theorem unresolved_ends {current state : OperationState} (member : state ∈ unresolved) :
    isTerminal state = true ∧ state ≠ .succeeded ∧
      (isTerminal current = false → canTransition current state = true) := by
  revert member
  cases state <;> cases current <;> decide

theorem fit_iff {m : Move} (trusted : m.trustedTerminal = true ↔ m.toState = .succeeded) :
    m.Fit ↔ requireReason m.reason = .ok () ∧
      ∀ fields, m.terminalFields = some fields → requireTerminalFields fields = .ok () :=
  ⟨fun fit => ⟨fit.reason, fit.fields⟩, fun ⟨reason, fields⟩ =>
    ⟨reason, trusted, fields⟩⟩

theorem Callback.chosen {c : Callback} {r : Settlement} {row : OperationRecord}
    (answered : c.Answered r) (opened : isTerminal row.state = false)
    (dispatched : ∀ x, r = .ok x → row.state = .running) :
    ∃ move, c.choose r row = some move ∧ move.operationId = row.operationId ∧
      isTerminal move.toState = true ∧ canTransition row.state move.toState = true ∧
      (move.trustedTerminal = true ↔ move.toState = .succeeded) ∧
      (move.Fit ↔ recordable row.state r = true) := by
  have failed (e : Failure) : ∃ move, Domain.resolution e row = some move ∧
      move.operationId = row.operationId ∧ isTerminal move.toState = true ∧
      canTransition row.state move.toState = true ∧
      (move.trustedTerminal = true ↔ move.toState = .succeeded) ∧
      (move.Fit ↔ e.fits row.state = true) := by
    obtain ⟨ends, other, may⟩ := unresolved_ends (classify_unresolved e row.state)
    have trusted : (false = true ↔ (e.classify row.state).1 = .succeeded) :=
      ⟨(fun h => by cases h), fun h => absurd h other⟩
    refine ⟨_, by rw [Domain.resolution, if_neg (by simp [opened])], rfl, ends, may opened,
      trusted, ?_⟩
    rw [fit_iff trusted, ← requireReason_classify]
    exact ⟨And.left, fun said => ⟨said, fun fields is => by cases is⟩⟩
  match c, r with
  | .settle i, .error e => exact failed e
  | .settleStop i, .error e => exact failed e
  | .settle i, .ok (some (.completion comp)) =>
    obtain ⟨line, crcRequired, host, parsed, terminal⟩ := answered
    have running := dispatched _ rfl
    have fields : comp.terminalFields =
        some (host.fields.map fun f => (String.ofList f.1, String.ofList f.2)) := by
      rw [Completion.terminalFields, terminal]
      rfl
    have checked := requireTerminalFields_ofHost (Host.parseV2Line_bounded parsed).1
    have recorded : recordable row.state (.ok (some (.completion comp))) = true ↔
        ∀ f ∈ host.fields, hasCapital (String.ofList f.1) = false := by
      simp only [recordable, fields, Option.getD_some, List.all_map, List.all_eq_true,
        Function.comp_apply, Bool.not_eq_true']
    have chosen : ∃ state reason, requireReason reason = .ok () ∧ isTerminal state = true ∧
        canTransition .running state = true ∧
        Domain.completion (.completion comp) row = some
          { operationId := row.operationId
            toState := state
            reason := reason
            trustedTerminal := decide (state = .succeeded)
            outcome := some (if comp.isTrustedTerminal then "done" else comp.error.getD "error")
            protocolRequestId := some comp.requestId
            terminalFields := comp.terminalFields } := by
      rw [Domain.completion, if_neg (by simp [opened])]
      cases trusted : comp.isTrustedTerminal with
      | true =>
        exact ⟨.succeeded, "trusted correlated firmware terminal", by decide, rfl, rfl, rfl⟩
      | false =>
        exact ⟨.failed, "firmware reported a correlated error terminal",
          by decide, rfl, rfl, rfl⟩
    obtain ⟨state, reason, said, ends, may, chosen⟩ := chosen
    refine ⟨_, chosen, rfl, ends, running ▸ may, decide_eq_true_iff, ?_⟩
    rw [fit_iff decide_eq_true_iff, recorded, ← checked, fields]
    refine ⟨fun fit => fit.2 _ rfl, fun accepted => ⟨said, fun given is => ?_⟩⟩
    cases is
    exact accepted

theorem Callback.run_eq {c : Callback} {r : Settlement} (answered : c.Answered r) (now : Nat) :
    c.run r now = (do
      match (← Domain.current c.operationId now).bind (c.choose r) with
      | none => pure ()
      | some move => Domain.safeTransition move now) := by
  match c, r with
  | .settle i, .error e => rfl
  | .settleStop i, .error e => rfl
  | .settle i, .ok (some (.completion comp)) => rfl

theorem Callback.settles_iff {c : Callback} {r : Settlement} {d : Domain} {row : OperationRecord}
    {now : Nat} (answered : c.Answered r) (steady : d.Steady)
    (found : d.db.readOperation c.operationId = some row)
    (reached : row.generation ≤ d.machine.generation)
    (dispatched : ∀ x, r = .ok x → 2 ≤ row.state.rank) :
    (∃ row', (exec (c.run r now) d).2.db.readOperation c.operationId = some row' ∧
      isTerminal row'.state = true) ↔
      isTerminal row.state = true ∨ recordable row.state r = true := by
  cases opened : isTerminal row.state with
  | true =>
    have kept := (c.advances_run r now d).commits.later found
    obtain ⟨row', read, later⟩ := kept
    rw [later.of_terminal opened] at read
    exact ⟨fun _ => .inl rfl, fun _ => ⟨row, read, opened⟩⟩
  | false =>
    have running : ∀ x, r = .ok x → row.state = .running := by
      intro x is
      have rank := dispatched x is
      cases state : row.state <;> simp_all [OperationState.rank, isTerminal]
    obtain ⟨move, chosen, own, ends, allowed, trusted, fit⟩ := c.chosen answered opened running
    rw [c.run_eq answered]
    rw [Domain.settle_iff steady found chosen own ends allowed reached trusted, fit]
    simp

namespace System

/-- The section runs the callback of the future with what it was resolved with. -/
def Runs (s : System) (f : FutureId) (c : Callback) (r : Settlement) : SystemEvent → Prop
  | .task _ => s.tasks.head? = some (.callback f c r)
  | .api k _ => ∃ answer, s.api[k]? = some (.settling f c r answer)
  | _ => False

variable {s t : System} {e : SystemEvent}

theorem Runs.domain {f : FutureId} {c : Callback} {r : Settlement} (runs : s.Runs f c r e)
    (stepped : s.step e = some t) : ∃ now, t.domain = (exec (c.run r now) s.domain).2 := by
  cases e with
  | task now =>
    have head : s.tasks.head? = some (.callback f c r) := runs
    simp only [step] at stepped
    split at stepped
    · cases stepped
    · rename_i task rest owed
      rw [owed, List.head?_cons] at head
      cases head
      cases stepped
      exact ⟨now, rfl⟩
  | api k now =>
    obtain ⟨answer, at_k⟩ := runs
    simp only [step, at_k, Option.map_some, Option.some.injEq] at stepped
    subst stepped
    exact ⟨now, rfl⟩
  | _ => exact runs.elim

/-- Storage is told to fail nothing. -/
def Served : SystemEvent → Prop
  | .storage engine => engine = []
  | _ => True

instance : DecidablePred Served
  | .storage engine => inferInstanceAs (Decidable (engine = []))
  | .call _ _ | .api _ _ | .task _ | .thread _ | .dispatch _ | .failPreempted _ | .start
  | .startTimeout | .close | .refresh _ _ | .prune _ => .isTrue trivial

theorem Bound.begun {first : OperationId} (bound : s.Bound first) {f : FutureId} {i : OperationId}
    {x : Option WorkerResult} (owns : s.Owns (.settle i) f)
    (resolved : s.worker.futures f = .resolved (.ok x)) : s.domain.db.Begun i := by
  obtain ⟨given, item, was, rfl⟩ := owns
  rcases bound.given i _ given with stopped | ⟨item', operation, was', same, gate, rfl⟩
  · exact absurd stopped (bound.lane.kinds item was)
  · obtain rfl := bound.lane.items.unique item' item was' was same
    exact bound.dispatched item' operation (bound.lane.items.results item' x was resolved) gate

theorem Bound.row {first : OperationId} (bound : s.Bound first) {f : FutureId} {c : Callback}
    {r : Settlement} (runs : s.Runs f c r e) (answered : c.Answered r) :
    ∃ row, s.domain.db.readOperation c.operationId = some row ∧
      row.generation ≤ s.domain.machine.generation ∧ ∀ x, r = .ok x →
        2 ≤ row.state.rank := by
  have both : s.Owns c f ∧ s.worker.futures f = .resolved r := by
    cases e with
    | task now => exact bound.tasks f c r (List.mem_of_head? runs)
    | api k now =>
      obtain ⟨answer, at_k⟩ := runs
      exact bound.threads _ (List.mem_of_getElem? at_k)
    | _ => exact runs.elim
  obtain ⟨owns, resolved⟩ := both
  have claimed : c.operationId ∈ s.claimed :=
    List.mem_append_right _ (List.mem_map.mpr ⟨_, owns.1, rfl⟩)
  obtain ⟨mine, known⟩ := bound.claims _ claimed
  obtain ⟨row, found⟩ := Db.mem_operationIds_iff.mp known
  have named := Db.readOperation_operationId found
  refine ⟨row, found, ?_, fun x is => ?_⟩
  · exact (bound.current row (List.mem_of_find?_eq_some found)).2 (named ▸ mine)
  · subst is
    cases c with
    | settleStop i => simp [Callback.Answered] at answered
    | settle i =>
      obtain ⟨row', -, read, rank, -⟩ := bound.begun owns resolved
      cases found.symm.trans read
      exact rank

theorem steady_step (steady : s.domain.Steady) (served : Served e) (stepped : s.step e = some t) :
    t.domain.Steady := by
  refine (step_steps stepped).advances.steady ?_
  cases e with
  | storage engine =>
    cases (show engine = [] from served)
    have same : s.domain.journal = Journal.open s.domain.db := steady
    show ({ s.domain.journal with engine := [] } : Journal) = Journal.open s.domain.db
    rw [same]
    rfl
  | _ => exact steady

/-- In every run over storage that fails nothing, the callback of a future that was resolved
with an exception, or with a terminal the host has accepted, leaves the row of its operation
ended exactly when it had ended already, or no field of the terminal has a capital, or the
reason has room for the message of the exception. -/
theorem operation_settles (policy : Policy) (db : Db) (nextId started : Nat)
    (appliedHistory : List ConfigurationValues) (capacity attempts : Nat) (pos : 0 < capacity)
    (es : List SystemEvent) (s t : System) (supplied : ∀ i ∈ db.operationIds, i < nextId)
    (served : ∀ e ∈ es, Served e)
    (reached : run step (System.new policy db nextId started appliedHistory capacity attempts pos)
      es = some s)
    (e : SystemEvent) (f : FutureId) (c : Callback) (r : Settlement) (runs : s.Runs f c r e)
    (answered : c.Answered r) (stepped : s.step e = some t) :
    ∃ row, s.domain.db.readOperation c.operationId = some row ∧
      ((∃ row', t.domain.db.readOperation c.operationId = some row' ∧
        isTerminal row'.state = true) ↔
        isTerminal row.state = true ∨ recordable row.state r = true) := by
  have meets : Meets step (fun _ e => Served e)
      (System.new policy db nextId started appliedHistory capacity attempts pos) es :=
    meets_of_forall (fun _ e member => served e member) _
  have bound := run_invariant (fun _ _ _ inv _ next => bound_step inv (step_steps next))
    (bound_new policy started appliedHistory capacity attempts pos supplied) meets reached
  have start : (System.new policy db nextId started appliedHistory capacity attempts
      pos).domain.Steady := rfl
  have steady := run_invariant (fun _ _ _ steady ok next => steady_step steady ok next) start meets
    reached
  obtain ⟨row, found, current, dispatched⟩ := bound.row runs answered
  obtain ⟨now, ran⟩ := runs.domain stepped
  rw [ran]
  exact ⟨row, found, c.settles_iff answered steady found current dispatched⟩

def emptyDaemon : System := System.new .standard .empty 0 0 [] 16 1 sixteen_pos

def homeCaller : Caller := ⟨⟨"operator", "admin"⟩, "k", "home", 1000, 0, none⟩

def broughtUp : List SystemEvent :=
  [.start, .thread .go, .task 0, .thread .opened, .thread .go, .task 0, .thread .verified,
    .thread .go, .task 0, .thread (.profile idleProfile), .task 0, .thread .go,
    .task 0, .thread .go]

def homed (terminal : Host.Response) : List SystemEvent :=
  broughtUp ++ [.call (.submit .home [("axis", .text "feeder")] 6) homeCaller, .api 0 1, .api 0 1,
    .api 0 1, .thread .go, .thread .go, .dispatch 2, .thread (.written 1), .thread .go,
    .thread (.response (.ofHost terminal)), .thread .go, .thread .go]

def doneWith (name : String) : Host.Response :=
  { requestId := 1, kind := .done, fields := [(name.toList, "idle".toList)] }

def homeOutcome (terminal : Host.Response) : Settlement :=
  .ok (some (.completion ⟨1, true, [.ofHost terminal], none⟩))

theorem fromWire_doneWith (name line : String)
    (parsed : Host.parseV2Line line.toList false = .ok (.response (doneWith name))) :
    (Callback.settle 0).Answered (homeOutcome (doneWith name)) :=
  ⟨line.toList, false, doneWith name, parsed, rfl⟩

theorem operation_settles_homed :
    ((runD System.step emptyDaemon (homed (doneWith "state") ++ [.task 3])).domain.db.readOperation
      0).map (fun row => isTerminal row.state) = some true := by
  have ran : run System.step emptyDaemon (homed (doneWith "state")) =
      some (runD System.step emptyDaemon (homed (doneWith "state"))) :=
    run_eq_runD (by decide +kernel)
  have next : (runD System.step emptyDaemon (homed (doneWith "state"))).step (.task 3) =
      some (runD System.step emptyDaemon (homed (doneWith "state") ++ [.task 3])) :=
    step_runD (by decide +kernel)
  obtain ⟨row, found, settles⟩ := operation_settles {} .empty 0 0 [] 16 1 (by decide)
    (homed (doneWith "state")) _ _ (fun i member => absurd member List.not_mem_nil)
    (by decide +kernel) ran (.task 3) 0 (.settle 0) (homeOutcome (doneWith "state"))
    (show _ = _ by decide +kernel)
    (fromWire_doneWith "state" "@1 done:state=idle" (by decide +kernel)) next
  have small : recordable row.state (homeOutcome (doneWith "state")) = true := by
    cases row.state <;> decide
  obtain ⟨row', read, ended⟩ := settles.mpr (.inr small)
  rw [show (Callback.settle 0).operationId = 0 from rfl] at read
  rw [read, Option.map_some, ended]

/-- The host accepts the terminal, and the operation is still running when its callback has
run. -/
theorem operation_staysRunning :
    Host.parseV2Line "@1 done:State=idle".toList false = .ok (.response (doneWith "State")) ∧
      (run System.step emptyDaemon (homed (doneWith "State") ++ [.task 3])).isSome = true ∧
      (runD System.step emptyDaemon (homed (doneWith "State"))).tasks =
        [.callback 0 (.settle 0) (homeOutcome (doneWith "State"))] ∧
      ((runD System.step emptyDaemon (homed (doneWith "State") ++
        [.task 3])).domain.db.readOperation
        0).map (·.state) = some .running := by
  refine ⟨?_, ?_, ?_, ?_⟩
  · decide +kernel
  · decide +kernel
  · decide +kernel
  · decide +kernel

end System

end CaseSorter.Daemon
