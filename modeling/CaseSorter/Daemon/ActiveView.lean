import CaseSorter.Daemon.AdmittedOnce
import CaseSorter.Daemon.Generations

/-! The active operation of the published view. The end of any operation clears it; while
no operation ends beside a running one, every view published while an operation runs
names one that has not ended. -/

namespace CaseSorter.Daemon

open CaseSorter.Actions CaseSorter.Transactions CaseSorter.Runs

/-- While an operation runs, the view names one that has not ended. -/
def PublishedView.Shows (p : PublishedView) : Prop :=
  (∃ i row, p.db.readOperation i = some row ∧ row.state = .running) →
    ∃ i row, p.view.activeOperationId = some i ∧ p.db.readOperation i = some row ∧
      isTerminal row.state = false

namespace Domain

def Running (d : Domain) (i : OperationId) : Prop :=
  ∃ row, d.db.readOperation i = some row ∧ row.state = .running

/-- The view in force shows what runs now. -/
def Shows (d : Domain) : Prop := PublishedView.Shows ⟨d.machine, d.db⟩

structure Tracks (d : Domain) : Prop where
  named : ∀ i, d.machine.activeOperationId = some i →
    ∃ row, d.db.readOperation i = some row ∧ isTerminal row.state = false
  shown : ∀ i, d.Running i → d.machine.activeOperationId ≠ none

theorem Tracks.shows {d : Domain} (h : d.Tracks) : d.Shows := by
  rintro ⟨i, running⟩
  cases active : d.machine.activeOperationId with
  | none => exact absurd active (h.shown i running)
  | some j =>
    obtain ⟨row, found, unended⟩ := h.named j active
    exact ⟨j, row, rfl, found, unended⟩

def Shown (d t : Domain) : Prop :=
  (∀ p ∈ d.history, p.Shows) → ∀ p ∈ t.history, p.Shows

theorem shown_beat {d t : Domain} (beat : Beat d t) (shows : t.Shows) : Shown d t := by
  intro before p member
  cases beat with
  | still _ history _ _ => exact before p (history ▸ member)
  | published history _ =>
    rw [history] at member
    rcases List.mem_append.mp member with old | new
    · exact before p old
    · rw [List.mem_singleton.mp new]
      exact shows

/-- Where only operations of `Q` run, the tracking view is kept, on every view on the way. -/
def Tells (Q : OperationId → Prop) (d t : Domain) : Prop :=
  d.Tracks → (∀ i, d.Running i → Q i) → t.Tracks ∧
    (∀ i, t.Running i → Q i) ∧ Shown d t

instance (Q : OperationId → Prop) : Std.Refl (Tells Q) :=
  ⟨fun _ tracks only => ⟨tracks, only, id⟩⟩

instance (Q : OperationId → Prop) : IsTrans Domain (Tells Q) :=
  ⟨fun _ _ _ first second tracks only => by
    obtain ⟨tracks', only', shown⟩ := first tracks only
    obtain ⟨tracks'', only'', shown'⟩ := second tracks' only'
    exact ⟨tracks'', only'', shown' ∘ shown⟩⟩

section Beats

variable {Q : OperationId → Prop} {d t : Domain}

theorem tells_of_beat (beat : Beat d t) (tracks : d.Tracks → t.Tracks)
    (only : ∀ i, t.Running i → (∀ j, d.Running j → Q j) → Q i) : Tells Q d t :=
  fun before own => ⟨tracks before, fun i running => only i running own,
    shown_beat beat (tracks before).shows⟩

theorem tells_of_rows (beat : Beat d t)
    (active : t.machine.activeOperationId = d.machine.activeOperationId)
    (rows : ∀ i row, d.db.readOperation i = some row → t.db.readOperation i = some row)
    (running : ∀ i, t.Running i → d.Running i) : Tells Q d t := by
  refine tells_of_beat beat (fun tracks => ⟨fun i named => ?_, fun i runs => ?_⟩)
    fun i runs own => own i (running i runs)
  · obtain ⟨row, found, unended⟩ := tracks.named i (active ▸ named)
    exact ⟨row, rows i row found, unended⟩
  · rw [active]
    exact tracks.shown i (running i runs)

theorem tells_of_db (beat : Beat d t)
    (active : t.machine.activeOperationId = d.machine.activeOperationId)
    (same : t.db.operations = d.db.operations) : Tells Q d t := by
  have read : ∀ i, t.db.readOperation i = d.db.readOperation i := fun i => by
    rw [Db.readOperation, same, Db.readOperation]
  refine tells_of_rows beat active (fun i row found => (read i).trans found) fun i running => ?_
  obtain ⟨row, found, runs⟩ := running
  exact ⟨row, (read i).symm.trans found, runs⟩

/-- The moves that keep the view tracking where only operations of `Q` run: an end must
leave nothing running. -/
def Unseen (Q : OperationId → Prop) (m : Move) : Prop :=
  if isTerminal m.toState then ∀ i, Q i → i = m.operationId
  else m.toState = .running → Q m.operationId

theorem rows_moved {w : TransitionWrite} {db db' : Db}
    (h : (JournalWrite.transition w).Changes db db') :
    (∃ row, db'.readOperation w.operationId = some row ∧ row.state = w.toState) ∧
      ∀ i, i ≠ w.operationId → db'.readOperation i = db.readOperation i := by
  obtain ⟨current, forward, trusted, found, -, replaced, -⟩ := changes_transition h
  have named : current.operationId = w.operationId := Db.readOperation_operationId found
  refine ⟨⟨w.move current forward trusted, ?_, rfl⟩, fun i other => ?_⟩
  · rw [readOperation_replace replaced, found, Option.map_some]
    exact congrArg some (if_pos rfl)
  · rw [readOperation_replace replaced]
    cases read : db.readOperation i with
    | none => rfl
    | some row =>
      have own := Db.readOperation_operationId read
      rw [Option.map_some, if_neg]
      show row.operationId ≠ current.operationId
      rw [own, named]
      exact other

theorem tells_moved {w : TransitionWrite} (beat : Beat d t) (allowed : Unseen Q w.toMove)
    (active : t.machine.activeOperationId =
      if isTerminal w.toState then none else some w.operationId)
    (changed : (JournalWrite.transition w).Changes d.db t.db) : Tells Q d t := by
  obtain ⟨⟨moved, row, state⟩, others⟩ := rows_moved changed
  have before : ∀ i, t.Running i → i ≠ w.operationId → d.Running i :=
    fun i ⟨row, found, runs⟩ other => ⟨row, (others i other).symm.trans found, runs⟩
  by_cases ended : isTerminal w.toState = true
  · have only : ∀ i, Q i → i = w.operationId := by
      rw [Unseen, if_pos ended] at allowed
      exact allowed
    -- the operation that ends no longer runs, so what runs has run before
    have left : ∀ i, t.Running i → i ≠ w.operationId := by
      rintro i ⟨row', found, runs⟩ rfl
      cases row.symm.trans found
      rw [← state, runs] at ended
      cases ended
    intro tracks own
    have none : ∀ i, ¬ t.Running i := fun i runs =>
      left i runs (only i (own i (before i runs (left i runs))))
    have tracks' : t.Tracks := by
      refine ⟨fun i named => ?_, fun i runs => absurd runs (none i)⟩
      rw [active, if_pos ended] at named
      cases named
    exact ⟨tracks', fun i runs => absurd runs (none i), shown_beat beat tracks'.shows⟩
  · rw [if_neg ended] at active
    refine tells_of_beat beat (fun _ => ⟨fun i named => ?_, fun i _ => ?_⟩) fun i runs own => ?_
    · rw [active] at named
      cases named
      exact ⟨moved, row, by rw [state]; simpa using ended⟩
    · rw [active]
      simp
    · by_cases other : i = w.operationId
      · obtain ⟨row', found, runs⟩ := runs
        subst other
        cases row.symm.trans found
        rw [Unseen, if_neg ended] at allowed
        exact allowed (state.symm.trans runs)
      · exact own i (before i runs other)

theorem tells_write {move : Move} (allowed : Unseen Q move) (now : Nat) :
    Keeps (Tells Q) (writeTransition move now) := by
  intro d
  rcases h : exec (writeTransition move now) d with ⟨r, t⟩
  rcases beat_writeTransition h with ⟨record, rfl, history, next⟩ |
    ⟨-, machine, history, same⟩
  · rw [exec_writeTransition] at h
    rcases hr : Journal.recordTransition ⟨move, d.machine.generation + 1, now⟩ d.journal with
      ⟨e | record', j⟩
    · rw [hr] at h
      cases h
    · rw [hr] at h
      cases h
      obtain ⟨-, db', changed, connection, -⟩ := Journal.recordTransition_ok hr
      have committed : j.connection.committed = db' := by rw [connection]
      refine tells_moved (w := d.writeOf move now) (.published history next) allowed rfl ?_
      show (JournalWrite.transition _).Changes d.db j.connection.committed
      rw [committed]
      exact changed
  · exact tells_of_db (beat_of_db machine history same) (by rw [machine]) (by rw [same])

theorem tells_enter (operation : OperationRecord) (reason : String)
    (key : Option IdempotencyRecord) :
    Keeps (Tells Q) (onJournal (Journal.recordAdmission operation reason key)) := by
  intro d
  rcases h : exec (onJournal (Journal.recordAdmission operation reason key)) d with ⟨r, t⟩
  obtain ⟨⟨machine, history⟩, ⟨a, -, effect⟩ | ⟨-, same⟩⟩ := write_cases _ h
  · have changed : (JournalWrite.admission operation reason key).Changes d.db t.db := effect
    obtain ⟨script, -, ok, -⟩ := effect
    have queued := admissionScript_queued ok
    obtain ⟨-, inserted, -, -, configurations⟩ := changes_admission changed
    refine tells_of_rows (.still machine history (moves_admission changed) configurations)
      (by rw [machine])
      (fun i row found => readOperation_insert inserted found) fun i ⟨row, found, runs⟩ => ?_
    cases old : d.db.readOperation i with
    | some row' =>
      cases (readOperation_insert inserted old).symm.trans found
      exact ⟨row, old, runs⟩
    | none =>
      -- the row that is new is queued
      rw [Db.readOperation, inserted, List.find?_append,
        show d.db.operations.find? _ = none from old, Option.none_or, List.find?_singleton] at found
      split_ifs at found
      cases found
      rw [queued] at runs
      cases runs
  · exact tells_of_db (beat_of_db machine history same) (by rw [machine]) (by rw [same])

theorem tells_beats : Beats (Tells Q) (Unseen Q) where
  read read d := tells_of_db (beat_read read d) rfl (by
    have same := (Journal.guard_connection read d.journal).1
    exact congrArg Db.operations same)
  supply d := tells_of_db (beat_of_db rfl rfl rfl) rfl rfl
  fault reason now d := by
    refine tells_of_db (beat_fault reason now d) ?_ rfl
    show (d.machine.recordJournalFault reason _ now).activeOperationId = _
    unfold MachineSnapshot.recordJournalFault
    split_ifs <;> rfl
  enter := tells_enter
  write move now allowed := tells_write allowed now
  prune now d := by
    rcases h : exec (onJournal (Journal.pruneIdempotency now)) d with ⟨r, t⟩
    obtain ⟨⟨machine, history⟩, ⟨a, -, effect⟩ | ⟨-, same⟩⟩ := write_cases _ h
    · obtain ⟨rows, log, -, configurations⟩ := @changes_prune now _ _ effect
      exact tells_of_db (.still machine history (by rw [Db.moves, log, Db.moves]) configurations)
        (by rw [machine]) rows
    · exact tells_of_db (beat_of_db machine history same) (by rw [machine]) (by rw [same])
  connection d state reason := by
    refine tells_of_db (beat_connection d state reason) ?_ rfl
    simp only [observe_machine, MachineSnapshot.observeConnection]
    split_ifs <;> rfl
  profile d firmware readiness := by
    refine tells_of_db (beat_profile d firmware readiness) ?_ rfl
    simp only [observe_machine, MachineSnapshot.observeProfile]
    split_ifs <;> rfl
  storage d engine := tells_of_db (beat_of_db rfl rfl rfl) rfl rfl

theorem tells_commit {operation : OperationRecord} {values : ConfigurationValues} {caller : Caller}
    {r : Except Raised Unit} (row : d.db.readOperation operation.operationId = some operation)
    (unended : isTerminal operation.state = false)
    (h : exec (commitConfiguration operation values caller) d = (r, t)) : Tells Q d t := by
  rcases commitConfiguration_cases h with
    ⟨-, history, snapshot, changed, -, carried, machine⟩ | ⟨-, machine, history, same⟩
  · have rows := (changes_configuration changed).1
    have read : ∀ i, t.db.readOperation i = d.db.readOperation i := fun i => by
      rw [Db.readOperation, rows, Db.readOperation]
    have active : t.machine.activeOperationId = some operation.operationId := by rw [machine]; rfl
    refine tells_of_beat (.published history (publishes_configuration changed carried machine))
      (fun _ => ⟨fun i named => ?_, fun i _ => ?_⟩) fun i running own => ?_
    · rw [active] at named
      cases named
      exact ⟨operation, (read _).trans row, unended⟩
    · rw [active]
      simp
    · obtain ⟨row', found, runs⟩ := running
      exact own i ⟨row', (read i).symm.trans found, runs⟩
  · exact tells_of_db (beat_of_db machine history same) (by rw [machine]) (by rw [same])

end Beats

theorem tells_configure (caller : Caller) (changes : List (String × Int))
    (candidate : ConfigurationValues) (window expected : Nat)
    (view : MachineSnapshot) {d : Domain} (tracks : d.Tracks) (idle : ∀ i, ¬ d.Running i) :
    (exec ((Prepared.configure changes candidate window expected).proceed caller view)
      d).2.Tracks ∧
      Shown d
        (exec ((Prepared.configure changes candidate window expected).proceed caller view)
          d).2 := by
  have accepts : ∀ m : Move, m.toState = .accepted → Unseen (fun _ => False) m := by
    intro m accepted
    rw [Unseen, accepted]
    exact fun running => by cases running
  have admitted := (tells_beats (Q := fun _ => False)).admits accepts .configure caller view window
    "admitted as a daemon configuration change"
  simp only [Prepared.proceed, exec_bind]
  rcases made :
    exec (admitOperation .configure caller view window "admitted as a daemon configuration change")
    d with ⟨e | accepted, d₁⟩
  · obtain ⟨tracks₁, -, shown₁⟩ := admitted.of_exec made tracks idle
    exact ⟨tracks₁, shown₁⟩
  obtain ⟨tracks₁, idle₁, shown₁⟩ := admitted.of_exec made tracks idle
  -- from here on the change is all that may run
  have own : ∀ i, d₁.Running i → i = accepted.operationId := fun i runs =>
    (idle₁ i runs).elim
  have beats : Beats (Tells (· = accepted.operationId)) (Unseen (· = accepted.operationId)) :=
    tells_beats
  have runs : Unseen (· = accepted.operationId)
      { operationId := accepted.operationId
        toState := .running
        reason := "applying the configuration change" } := fun _ => rfl
  dsimp only
  rcases moved : exec (transition
      { operationId := accepted.operationId
        toState := .running
        reason := "applying the configuration change" } caller.now)
          d₁ with ⟨e | running, d₂⟩
  · obtain ⟨tracks₂, -, shown₂⟩ :=
      (beats.moves runs caller.now).of_exec moved tracks₁ own
    exact ⟨tracks₂, shown₂ ∘ shown₁⟩
  obtain ⟨tracks₂, own₂, shown₂⟩ :=
    (beats.moves runs caller.now).of_exec moved tracks₁ own
  obtain ⟨stands, named⟩ := transition_stands moved
  simp only [applyConfiguration_eq, exec_bind]
  rcases committed : exec (commitConfiguration running candidate caller) d₂ with ⟨e | u, d₃⟩
  · obtain ⟨tracks₃, -, shown₃⟩ := tells_commit stands.row (by rw [stands.state]; rfl)
      committed tracks₂
      own₂
    exact ⟨tracks₃, shown₃ ∘ shown₂ ∘ shown₁⟩
  obtain ⟨tracks₃, own₃, shown₃⟩ := tells_commit stands.row
    (by rw [stands.state]; rfl) committed
    tracks₂ own₂
  have ends : Unseen (· = accepted.operationId)
      { operationId := running.operationId
        toState := .succeeded
        reason := "configuration committed"
        trustedTerminal := true
        outcome := some "applied"
        terminalFields := some (candidate.asMapping.map fun field =>
          (field.1, toString field.2)) } :=
    fun i is => is.trans named.symm
  obtain ⟨tracks₄, -, shown₄⟩ := beats.moves ends caller.now d₃ tracks₃ own₃
  exact ⟨tracks₄, shown₄ ∘ shown₃ ∘ shown₂ ∘ shown₁⟩

section Configure

variable {caller : Caller} {expected : Option Nat} {d : Domain}

def Fresh (d : Domain) (caller : Caller) (expected : Option Nat) : Prop :=
  d.view.idempotencyRecord caller.idempotencyKey caller.now = none ∧
    requireGeneration "request" expected d.machine = .ok ()

instance : Decidable (Fresh d caller expected) := inferInstanceAs (Decidable (_ ∧ _))

theorem tells_admitConfigure (changes : List (String × Int)) (candidate : ConfigurationValues)
    (window g : Nat) (alone : Fresh d caller (some g) → ∀ i, ¬ d.Running i) :
    Tells (fun _ => True) d
      (exec ((Prepared.configure changes candidate window g).admitSection caller) d).2 := by
  rcases h :
    exec ((Prepared.configure changes candidate window g).admitSection caller) d with ⟨r, t⟩
  rw [Prepared.admit_eq] at h
  have idles : Idles (Tells fun _ => True) := (tells_beats (Q := fun _ => True)).toIdles
  -- a change that proceeds finds nothing running
  have proceeds : ∀ {u v : Domain} {x : Except Raised OperationRecord}, OnlyRead d u →
      Tells (fun _ => True) d u → Fresh d caller (some g) →
      exec ((Prepared.configure changes candidate window g).proceed caller d.machine) u = (x, v) →
      Tells (fun _ => True) d v := by
    intro u v x only still fresh made tracks _
    obtain ⟨tracks', -, shown⟩ := still tracks fun _ _ => trivial
    have same : u.db = d.db := congrArg (·.committed) only.connection
    have idle : ∀ i, ¬ u.Running i := fun i ⟨row, found, runs⟩ =>
      alone fresh i ⟨row, same ▸ found, runs⟩
    obtain ⟨tracks'', shown'⟩ := tells_configure caller changes candidate window g
      d.machine tracks' idle
    rw [made] at tracks'' shown'
    exact ⟨tracks'', fun _ _ => trivial, shown' ∘ shown⟩
  cases admission_cases idles h with
  | unavailable still _ => exact still
  | conflict still _ _ => exact still
  | replayed still _ _ _ => exact still
  | stale still _ _ => exact still
  | unfit still _ _ _ => exact still
  | admitted only still absent current _ made =>
    exact proceeds only still ⟨absent, current⟩ made
  | failed only still absent current _ broke after _ _ =>
    exact IsTrans.trans _ _ _ (proceeds only still ⟨absent, current⟩ broke) after

end Configure

def runningIds (d : Domain) : List OperationId :=
  (d.db.operations.filter (·.state = .running)).map (·.operationId)

theorem running_iff {d : Domain} {i : OperationId} : d.Running i ↔ i ∈ d.runningIds := by
  constructor
  · rintro ⟨row, found, runs⟩
    refine List.mem_map.mpr ⟨row, ?_, Db.readOperation_operationId found⟩
    exact List.mem_filter.mpr ⟨List.mem_of_find?_eq_some found, decide_eq_true runs⟩
  · intro member
    obtain ⟨row, kept, rfl⟩ := List.mem_map.mp member
    obtain ⟨stored, runs⟩ := List.mem_filter.mp kept
    obtain ⟨found, read⟩ := Db.mem_operationIds_iff.mp (List.mem_map.mpr ⟨row, stored, rfl⟩)
    have same : found = row := List.inj_on_of_nodup_map d.db.operation_ids
      (List.mem_of_find?_eq_some read) stored (Db.readOperation_operationId read)
    exact ⟨row, same ▸ read, of_decide_eq_true runs⟩

end Domain

namespace System

def endsAlone (s : System) : SystemEvent → Bool
  | .api k _ =>
    match s.api[k]? with
    | some (.admitting caller (.configure _ _ _ expected)) =>
      decide (s.domain.Fresh caller (some expected) → s.domain.runningIds = [])
    | some (.refused _ operation _) => s.domain.runningIds.all (· = operation.operationId)
    | some (.settling _ c _ _) => s.domain.runningIds.all (· = c.operationId)
    | _ => true
  | .task _ =>
    match s.tasks with
    | .callback _ c _ :: _ => s.domain.runningIds.all (· = c.operationId)
    | _ => true
  | _ => true

def EndsAlone (s : System) (e : SystemEvent) : Prop := s.endsAlone e = true

instance (s : System) (e : SystemEvent) : Decidable (s.EndsAlone e) :=
  inferInstanceAs (Decidable (_ = true))

theorem Steps.tells {s t : System} {e : SystemEvent} (steps : Steps s e t)
    (alone : s.EndsAlone e) : Domain.Tells (fun _ => True) s.domain t.domain := by
  have opens : ∀ m : Move, m.toState = .accepted ∨ m.toState = .running →
      Domain.Unseen (fun _ => True) m := by
    intro m opened
    have unended : isTerminal m.toState = false := by
      rcases opened with is | is <;> rw [is] <;> rfl
    rw [Domain.Unseen, if_neg (by rw [unended]; exact Bool.false_ne_true)]
    exact fun _ => trivial
  refine steps.beats Domain.tells_beats opens fun i ends => ?_
  cases i with
  | none =>
    refine steps.configures ends fun k now caller p is at_k configures => ?_
    subst is
    cases p with
    | configure changes candidate window expected =>
      refine Domain.tells_admitConfigure changes candidate window expected fun fresh i runs => ?_
      simp only [EndsAlone, endsAlone, at_k, decide_eq_true_eq] at alone
      have member := Domain.running_iff.mp runs
      rw [alone fresh] at member
      cases member
    | submit action intent window expected =>
      exact Domain.tells_beats.admitting (fun view => Domain.tells_beats.admits
        (fun m accepted => opens m (.inl accepted)) _ _ _ _ _) s.domain
    | session action window expected => cases action <;> cases configures
    | stop window expected => cases configures
  | some i =>
    have own : ∀ j, s.domain.Running j → j = i := by
      intro j runs
      have member := Domain.running_iff.mp runs
      cases ends with
      | withdrawn at_k =>
        simp only [EndsAlone, endsAlone, at_k, List.all_eq_true, decide_eq_true_eq] at alone
        exact alone j member
      | settled at_k =>
        simp only [EndsAlone, endsAlone, at_k, List.all_eq_true, decide_eq_true_eq] at alone
        exact alone j member
      | task owed =>
        simp only [EndsAlone, endsAlone, owed, List.all_eq_true, decide_eq_true_eq] at alone
        exact alone j member
    intro tracks _
    have told : Domain.Tells (· = i) s.domain t.domain :=
      steps.settles ends Domain.tells_beats fun m named => by
        unfold Domain.Unseen
        split_ifs
        · exact fun j is => is.trans named.symm
        · exact fun _ => named
    obtain ⟨tracks', -, shown⟩ := told tracks own
    exact ⟨tracks', fun _ _ => trivial, shown⟩

/-- In every run that starts with nothing running and whose operations all end alone, every
view published while an operation runs names one that has not ended. -/
theorem activeOperation_shown (policy : Policy) (db : Db) (nextId started : Nat)
    (appliedHistory : List ConfigurationValues) (capacity attempts : Nat) (pos : 0 < capacity)
    (es : List SystemEvent) (s : System) (idle : ∀ row ∈ db.operations, row.state ≠ .running)
    (alone : Meets System.step EndsAlone
      (System.new policy db nextId started appliedHistory capacity attempts pos) es)
    (reached : run System.step
      (System.new policy db nextId started appliedHistory capacity attempts pos) es = some s) :
    (∀ p ∈ s.domain.history, p.Shows) ∧ s.domain.Shows := by
  have start : (Domain.new policy db nextId started appliedHistory).Tracks := by
    refine ⟨fun i named => (by cases named), fun i ⟨row, found, runs⟩ => ?_⟩
    exact absurd runs (idle row (List.mem_of_find?_eq_some found))
  have kept : s.domain.Tracks ∧ ∀ p ∈ s.domain.history, p.Shows := run_invariant
    (motive := fun s => s.domain.Tracks ∧ ∀ p ∈ s.domain.history, p.Shows)
    (fun s e t kept ok h =>
      have told := (step_steps h).tells ok kept.1 fun _ _ => trivial
      ⟨told.1, told.2.2 kept.2⟩)
    ⟨start, fun p first => List.mem_singleton.mp first ▸ start.shows⟩ alone reached
  exact ⟨kept.2, kept.1.shows⟩

/-- A stop that the worker refuses is withdrawn while nothing else runs. -/
theorem activeOperation_shown_refused :
    let d := (runD System.step firstDaemon
      [.call (.stop none) stopCaller, .api 0 0, .api 0 0]).domain
    (∀ p ∈ d.history, p.Shows) ∧ d.Shows ∧ d.runningIds = [0] ∧ d.history.length = 3 := by
  intro d
  obtain ⟨published, current⟩ := activeOperation_shown {} .empty 0 0 [] 1 1 (by decide)
    [.call (.stop none) stopCaller, .api 0 0, .api 0 0] _
    (fun row member => absurd member List.not_mem_nil) (by decide +kernel)
    (run_eq_runD (by decide +kernel))
  exact ⟨published, current, by decide +kernel, by decide +kernel⟩

def withdrawnBeside : List SystemEvent :=
  [.call (.stop none) stopCaller, .api 0 0,
    .call (.stop none) { stopCaller with idempotencyKey := "l" }, .api 1 0, .api 1 0, .api 1 0]

theorem activeOperation_cleared :
    (run System.step firstDaemon withdrawnBeside).isSome = true ∧
      ∃ p ∈ (runD System.step firstDaemon withdrawnBeside).domain.history, ¬ p.Shows := by
  refine ⟨by decide +kernel, ?_⟩
  have last : ((runD System.step firstDaemon withdrawnBeside).domain.history.getLast?.map
      fun p => (p.view.activeOperationId, p.db.operations.map fun row =>
        (row.operationId, row.state))) = some (none, [(0, .running), (1, .cancelled)]) := by
    decide +kernel
  obtain ⟨p, ends, shape⟩ := Option.map_eq_some_iff.mp last
  obtain ⟨none, rows⟩ := Prod.mk.inj shape
  refine ⟨p, List.mem_of_getLast? ends, fun shows => ?_⟩
  obtain ⟨first, others, operations, named, -⟩ := List.map_eq_cons_iff.mp rows
  obtain ⟨named, runs⟩ := Prod.mk.inj named
  have found : p.db.readOperation 0 = some first := by
    unfold Db.readOperation
    rw [operations, List.find?_cons_of_pos]
    exact decide_eq_true named
  obtain ⟨i, row, active, -⟩ := shows ⟨0, first, found, runs⟩
  rw [none] at active
  cases active

end System
end CaseSorter.Daemon
