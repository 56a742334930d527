import Mathlib.Data.List.Chain
import CaseSorter.Daemon.Beats

/-! Generations. Every view the daemon publishes is one generation further than the last,
and a row that is written for a view carries the generation of that view. -/

namespace CaseSorter.Daemon

open CaseSorter.Actions CaseSorter.Transactions CaseSorter.Runs

/-- The entries that transitions have written; an admission writes the first of its
operation, which comes from no state. -/
def Db.moves (db : Db) : List TransitionRecord := db.transitions.filter (·.fromState.isSome)

/-- The view published once a transition is durable. -/
def TransitionRecord.view (r : TransitionRecord) (m : MachineSnapshot) : MachineSnapshot :=
  m.transition (if isTerminal r.toState then none else some r.operationId)
    s!"operation {r.toState.value}: {r.reason}"

inductive MachineSnapshot.Observed (m : MachineSnapshot) : MachineSnapshot → Prop
  | connection (state : ConnectionState) (reason : String) :
    Observed m (m.observeConnection state reason)
  | profile (firmware : FirmwareProfile) (readiness : MachineReadiness) :
    Observed m (m.observeProfile firmware readiness)
  | fault (reason : String) (i now : Nat) : Observed m (m.recordJournalFault reason i now)

theorem MachineSnapshot.Observed.generation {m view : MachineSnapshot} (h : m.Observed view)
    (new : view ≠ m) : view.generation = m.generation + 1 := by
  cases h with
  | connection state reason =>
    unfold observeConnection at new ⊢
    split_ifs at new ⊢
    · exact absurd rfl new
    · rfl
  | profile firmware readiness =>
    unfold observeProfile at new ⊢
    split_ifs at new ⊢
    · exact absurd rfl new
    · rfl
  | fault reason i now =>
    unfold recordJournalFault at new ⊢
    split_ifs at new ⊢
    · rfl
    · exact absurd rfl new

inductive Publishes (before after : PublishedView) : Prop
  | observed (seen : before.view.Observed after.view) (new : after.view ≠ before.view)
      (moves : after.db.moves = before.db.moves)
      (configurations : after.db.configurations = before.db.configurations)
  | moved {r : TransitionRecord} (row : after.db.moves = before.db.moves ++ [r])
      (configurations : after.db.configurations = before.db.configurations)
      (view : after.view = r.view before.view) (carried : r.generation = after.view.generation)
  | configured {c : ConfigurationSnapshot} {i : OperationId}
      (moves : after.db.moves = before.db.moves)
      (row : after.db.configurations = before.db.configurations ++ [c])
      (view : after.view = before.view.transition (some i) "configuration applied")
      (carried : c.generation = after.view.generation)

theorem Publishes.generation {before after : PublishedView} (h : Publishes before after) :
    after.view.generation = before.view.generation + 1 := by
  cases h with
  | observed seen new _ _ => exact seen.generation new
  | moved _ _ view _ =>
    rw [view]
    rfl
  | configured _ _ view _ =>
    rw [view]
    rfl

theorem Publishes.of_same {before before' after : PublishedView} (h : Publishes before after)
    (view : before'.view = before.view) (moves : before'.db.moves = before.db.moves)
    (configurations : before'.db.configurations = before.db.configurations) :
    Publishes before' after := by
  cases h with
  | observed seen new moves' configurations' =>
    exact .observed (view ▸ seen) (view ▸ new) (moves'.trans moves.symm)
      (configurations'.trans configurations.symm)
  | moved row configurations' view' carried =>
    exact .moved (moves ▸ row) (configurations'.trans configurations.symm)
      (view ▸ view') carried
  | configured moves' row view' carried =>
    exact .configured (moves'.trans moves.symm) (configurations ▸ row) (view ▸ view') carried

/-- The history ends in the view in force, and no row has been written since. -/
structure Coupled (d : Domain) : Prop where
  chain : d.history.IsChain Publishes
  current : ∃ last ∈ d.history.getLast?, last.view = d.machine ∧
    last.db.moves = d.db.moves ∧
    last.db.configurations = d.db.configurations

inductive Beat (d t : Domain) : Prop
  | still (machine : t.machine = d.machine) (history : t.history = d.history)
      (moves : t.db.moves = d.db.moves) (configurations : t.db.configurations = d.db.configurations)
  | published (history : t.history = d.history ++ [⟨t.machine, t.db⟩])
      (next : Publishes ⟨d.machine, d.db⟩ ⟨t.machine, t.db⟩)

theorem Beat.coupled {d t : Domain} (beat : Beat d t) (h : Coupled d) : Coupled t := by
  obtain ⟨last, ends, view, moves, configurations⟩ := h.current
  cases beat with
  | still machine history moves' configurations' =>
    exact ⟨history ▸ h.chain, last, history ▸ ends, view.trans machine.symm,
      moves.trans moves'.symm, configurations.trans configurations'.symm⟩
  | published history next =>
    refine ⟨?_, ⟨t.machine, t.db⟩, ?_, rfl, rfl, rfl⟩
    · rw [history, List.isChain_append]
      refine ⟨h.chain, List.isChain_singleton _, fun before among after first => ?_⟩
      cases ends.symm.trans among
      cases first
      exact next.of_same view moves configurations
    · rw [history]
      exact List.getLast?_concat

theorem Beat.grows {d t : Domain} (beat : Beat d t) : d.history <+: t.history := by
  cases beat with
  | still _ history _ _ => exact history ▸ List.prefix_refl _
  | published history _ => exact history ▸ List.prefix_append _ _

/-- What beats keep, however many. -/
structure Played (d t : Domain) : Prop where
  grows : d.history <+: t.history
  coupled : Coupled d → Coupled t

instance : Std.Refl Played := ⟨fun _ => ⟨List.prefix_refl _, id⟩⟩

instance : IsTrans Domain Played :=
  ⟨fun _ _ _ first second =>
    ⟨first.grows.trans second.grows, second.coupled ∘ first.coupled⟩⟩

theorem Beat.played {d t : Domain} (beat : Beat d t) : Played d t := ⟨beat.grows, beat.coupled⟩

section Beats

variable {d t : Domain}

theorem beat_of_db (machine : t.machine = d.machine) (history : t.history = d.history)
    (same : t.db = d.db) : Beat d t :=
  .still machine history (by rw [same]) (by rw [same])

theorem played_of_db (machine : t.machine = d.machine) (history : t.history = d.history)
    (same : t.db = d.db) : Played d t := (beat_of_db machine history same).played

theorem beat_observation {view : MachineSnapshot} (seen : d.machine.Observed view)
    (observed : t.machine = view)
    (history : t.history =
      if view = d.machine then d.history else d.history ++ [⟨view, d.db⟩])
    (same : t.db = d.db) : Beat d t := by
  by_cases old : view = d.machine
  · rw [if_pos old] at history
    exact beat_of_db (observed.trans old) history same
  · rw [if_neg old] at history
    subst observed
    exact .published (same ▸ history) (.observed seen old (by rw [same]) (by rw [same]))

theorem moves_admission {operation : OperationRecord} {reason : String}
    {key : Option IdempotencyRecord} {db db' : Db}
    (h : (JournalWrite.admission operation reason key).Changes db db') : db'.moves = db.moves := by
  obtain ⟨-, -, log, -⟩ := changes_admission h
  rw [Db.moves, log, List.filter_append, Db.moves]
  exact List.append_nil _

theorem moves_transition {w : TransitionWrite} {db db' : Db}
    (h : (JournalWrite.transition w).Changes db db') :
    db'.configurations = db.configurations ∧ ∃ r, db'.moves = db.moves ++ [r] ∧
      r.generation = w.generation ∧ r.toState = w.toState ∧ r.operationId = w.operationId ∧
      r.reason = w.reason := by
  obtain ⟨current, -, -, -, -, -, log, -, configurations⟩ := changes_transition h
  refine ⟨configurations, ⟨db.transitions.length + 1, w.operationId,
    some current.state, w.toState,
    w.generation, w.occurredAt, w.reason⟩, ?_, rfl, rfl, rfl, rfl⟩
  rw [Db.moves, log, List.filter_append, Db.moves]
  rfl

theorem write_cases {α : Type} {body : Except Raised (Script Db Raised α)} (d : Domain)
    {r : Except Raised α} {t : Domain} (h : exec
      (Domain.onJournal (Journal.write body)) d = (r, t)) :
    (t.machine = d.machine ∧ t.history = d.history) ∧
      ((∃ a, r = .ok a ∧ Effect body d.db t.db) ∨
        ((∃ e, r = .error e) ∧ t.db = d.db)) := by
  have same : t.machine = d.machine ∧ t.history = d.history := by
    rw [Domain.exec_onJournal] at h
    rw [← (Prod.mk.inj h).2]
    exact ⟨rfl, rfl⟩
  refine ⟨same, ?_⟩
  cases r with
  | ok a => exact .inl ⟨a, rfl, Domain.write_changes h⟩
  | error e =>
    rw [Domain.exec_onJournal] at h
    obtain ⟨raised, rfl⟩ := Prod.mk.inj h
    exact .inr ⟨⟨e, rfl⟩, (Journal.write_error (Prod.ext raised rfl)).1⟩

theorem beat_writeTransition {move : Move} {now : Nat} {r : Except Raised OperationRecord}
    (h : exec (Domain.writeTransition move now) d = (r, t)) :
    (∃ record, r = .ok record ∧ t.history = d.history ++ [⟨t.machine, t.db⟩] ∧
        Publishes ⟨d.machine, d.db⟩ ⟨t.machine, t.db⟩) ∨
      ((∃ e, r = .error e) ∧ t.machine = d.machine ∧ t.history = d.history ∧
        t.db = d.db) := by
  rw [Domain.exec_writeTransition] at h
  rcases hr : Journal.recordTransition ⟨move, d.machine.generation + 1, now⟩ d.journal with
    ⟨e | record, j⟩
  · rw [hr] at h
    cases h
    obtain ⟨same, -⟩ := Journal.write_error (Journal.recordTransition_error hr)
    exact .inr ⟨⟨e, rfl⟩, rfl, rfl, same⟩
  · rw [hr] at h
    cases h
    obtain ⟨-, db', changed, connection, -⟩ := Journal.recordTransition_ok hr
    obtain ⟨configurations, row, moves, generation, state, own, reason⟩ :=
      moves_transition changed
    have committed : j.connection.committed = db' := by rw [connection]
    refine .inl ⟨record, rfl, rfl, .moved (r := row) ?_ ?_ ?_ generation⟩
    · show j.connection.committed.moves = _
      rw [committed]
      exact moves
    · show j.connection.committed.configurations = _
      rw [committed]
      exact configurations
    · rw [TransitionRecord.view, state, own, reason]
      rfl

theorem commitConfiguration_cases {operation : OperationRecord} {values : ConfigurationValues}
    {caller : Caller} {r : Except Raised Unit}
    (h : exec (Domain.commitConfiguration operation values caller) d = (r, t)) :
    (r = .ok () ∧ t.history = d.history ++ [⟨t.machine, t.db⟩] ∧
        ∃ snapshot, (JournalWrite.configuration snapshot).Changes d.db t.db ∧
          snapshot.payload = values.asMapping ∧ snapshot.generation = t.machine.generation ∧
          t.machine = d.machine.transition (some operation.operationId) "configuration applied") ∨
      ((∃ e, r = .error e) ∧ t.machine = d.machine ∧ t.history = d.history ∧
        t.db = d.db) := by
  simp only [Domain.commitConfiguration, exec_bind, exec_get, Domain.exec_newOperationId] at h
  generalize snapshot_eq : ConfigurationSnapshot.mk d.nextId (d.machine.generation + 1)
    values.asMapping s!"{caller.actor.role}:{caller.actor.userId}" caller.now = snapshot at h
  rcases hw : exec (Domain.onJournal (Journal.recordConfiguration snapshot))
    { d with nextId := d.nextId + 1 } with ⟨e | u, v⟩
  · rw [hw] at h
    cases h
    obtain ⟨⟨machine, history⟩, ⟨a, returned, -⟩ | ⟨-, same⟩⟩ := write_cases _ hw
    · cases returned
    · exact .inr ⟨⟨e, rfl⟩, machine, history, same⟩
  · rw [hw] at h
    obtain ⟨⟨machine, history⟩, ⟨a, -, effect⟩ | ⟨⟨e, raised⟩, -⟩⟩ :=
      write_cases _ hw
    · cases h
      refine .inl ⟨rfl, ?_, snapshot, effect, by rw [← snapshot_eq], ?_, ?_⟩
      · show v.history ++ _ = d.history ++ _
        rw [history]
        rfl
      · show snapshot.generation = v.machine.generation + 1
        rw [machine, ← snapshot_eq]
      · show v.machine.transition _ _ = d.machine.transition _ _
        rw [machine]
    · cases raised

theorem publishes_configuration {snapshot : ConfigurationSnapshot} {i : OperationId}
    (changed : (JournalWrite.configuration snapshot).Changes d.db t.db)
    (carried : snapshot.generation = t.machine.generation)
    (machine : t.machine = d.machine.transition (some i) "configuration applied") :
    Publishes ⟨d.machine, d.db⟩ ⟨t.machine, t.db⟩ := by
  obtain ⟨-, log, -, row⟩ := changes_configuration changed
  refine .configured ?_ row machine carried
  show t.db.moves = d.db.moves
  rw [Db.moves, log, Db.moves]

theorem beat_enter (operation : OperationRecord) (reason : String) (key : Option IdempotencyRecord)
    (d : Domain) :
    Beat d (exec (Domain.onJournal (Journal.recordAdmission operation reason key)) d).2 := by
  rcases h :
    exec (Domain.onJournal (Journal.recordAdmission operation reason key)) d with ⟨r, t⟩
  obtain ⟨⟨machine, history⟩, ⟨a, -, effect⟩ | ⟨-, same⟩⟩ := write_cases _ h
  · exact .still machine history (@moves_admission operation _ _ _ _ effect)
      (@changes_admission operation _ _ _ _ effect).2.2.2.2
  · exact beat_of_db machine history same

theorem beat_prune (now : Nat) (d : Domain) :
    Beat d (exec (Domain.onJournal (Journal.pruneIdempotency now)) d).2 := by
  rcases h : exec (Domain.onJournal (Journal.pruneIdempotency now)) d with ⟨r, t⟩
  obtain ⟨⟨machine, history⟩, ⟨a, -, effect⟩ | ⟨-, same⟩⟩ := write_cases _ h
  · obtain ⟨-, log, -, configurations⟩ := @changes_prune now _ _ effect
    exact .still machine history (by rw [Db.moves, log, Db.moves]) configurations
  · exact beat_of_db machine history same

theorem beat_read {α : Type} (read : Db → α) (d : Domain) :
    Beat d (exec (Domain.onJournal (Journal.guard read)) d).2 :=
  beat_of_db rfl rfl (Journal.guard_connection read d.journal).1

theorem beat_fault (reason : String) (now : Nat) (d : Domain) :
    Beat d (exec (Domain.recordJournalFault reason now) d).2 :=
  beat_observation (.fault reason d.nextId now) rfl rfl rfl

theorem beat_connection (d : Domain) (state : ConnectionState) (reason : String) :
    Beat d (d.observe (d.machine.observeConnection state reason)) :=
  beat_observation (.connection state reason) rfl rfl rfl

theorem beat_profile (d : Domain) (firmware : FirmwareProfile) (readiness : MachineReadiness) :
    Beat d (d.observe (d.machine.observeProfile firmware readiness)) :=
  beat_observation (.profile firmware readiness) rfl rfl rfl

theorem played_beats : Domain.Beats Played fun _ => True where
  read read d := (beat_read read d).played
  supply d := played_of_db rfl rfl rfl
  fault reason now d := (beat_fault reason now d).played
  enter operation reason key d := (beat_enter operation reason key d).played
  write move now _ d := by
    rcases h : exec (Domain.writeTransition move now) d with ⟨r, t⟩
    rcases beat_writeTransition h with ⟨record, -, history, next⟩ |
      ⟨-, machine, history, same⟩
    · exact (Beat.published history next).played
    · exact played_of_db machine history same
  prune now d := (beat_prune now d).played
  connection d state reason := (beat_connection d state reason).played
  profile d firmware readiness := (beat_profile d firmware readiness).played
  storage d engine := played_of_db rfl rfl rfl

theorem played_commit (operation : OperationRecord) (values : ConfigurationValues)
    (caller : Caller) : Keeps Played (Domain.commitConfiguration operation values caller) := by
  intro d
  rcases h : exec (Domain.commitConfiguration operation values caller) d with ⟨r, t⟩
  rcases commitConfiguration_cases h with
    ⟨-, history, snapshot, changed, -, carried, machine⟩ | ⟨-, machine, history, same⟩
  · exact (Beat.published history (publishes_configuration changed carried machine)).played
  · exact played_of_db machine history same

theorem played_proceed (caller : Caller) (p : Prepared) (view : MachineSnapshot) :
    Keeps Played (p.proceed caller view) := by
  by_cases configures : p.action = .configure
  · cases p with
    | configure changes candidate window expected =>
      refine keeps_bind (played_beats.admits (fun _ _ => trivial) _ _ _ _ _) fun accepted => ?_
      refine keeps_bind (played_beats.moves trivial _) fun running => ?_
      rw [Domain.applyConfiguration_eq]
      exact keeps_bind (played_commit _ _ _) fun _ => played_beats.moves trivial _
    | submit action intent window expected =>
      exact played_beats.admits (fun _ _ => trivial) _ _ _ _ _
    | session action window expected => cases action <;> cases configures
    | stop window expected => cases configures
  · exact played_beats.proceeds (fun _ _ => trivial) caller configures view

theorem System.Steps.played {s t : System} {e : SystemEvent} (steps : System.Steps s e t) :
    Played s.domain t.domain := by
  refine steps.beats played_beats (fun _ _ => trivial) fun i ends => ?_
  cases i with
  | some i => exact steps.settles ends played_beats fun _ _ => trivial
  | none =>
    refine steps.configures ends fun k now caller p _ _ _ => ?_
    exact played_beats.admitting (played_proceed caller p) s.domain

end Beats

section Chain

variable {first last : PublishedView} {history : List PublishedView}

theorem chain_moves (chain : (first :: history).IsChain Publishes)
    (ends : last ∈ (first :: history).getLast?) :
    ∃ rows, last.db.moves = first.db.moves ++ rows ∧ ∀ r ∈ rows,
      ∃ before after, [before, after] <:+: first :: history ∧
        after.db.moves = before.db.moves ++ [r] ∧ after.view = r.view before.view ∧
        after.view.generation = r.generation := by
  induction history generalizing first with
  | nil =>
    cases ends
    exact ⟨[], (List.append_nil _).symm, fun _ none => absurd none List.not_mem_nil⟩
  | cons second history ih =>
    obtain ⟨next, later⟩ := List.isChain_cons_cons.mp chain
    rw [List.getLast?_cons_cons] at ends
    obtain ⟨rows, reaches, written⟩ := ih later ends
    have old : ∀ r ∈ rows, ∃ before after, [before, after] <:+: first :: second :: history ∧
        after.db.moves = before.db.moves ++ [r] ∧ after.view = r.view before.view ∧
        after.view.generation = r.generation := by
      intro r member
      obtain ⟨before, after, inside, rest⟩ := written r member
      exact ⟨before, after, List.infix_cons inside, rest⟩
    cases next with
    | observed _ _ moves _ => exact ⟨rows, by rw [reaches, moves], old⟩
    | configured moves _ _ _ => exact ⟨rows, by rw [reaches, moves], old⟩
    | @moved r row _ view carried =>
      refine ⟨r :: rows, by rw [reaches, row, List.append_assoc]; rfl, fun r' member => ?_⟩
      rcases List.mem_cons.mp member with rfl | earlier
      · exact ⟨first, second, ⟨[], history, rfl⟩, row, view, carried.symm⟩
      · exact old r' earlier

theorem chain_configurations (chain : (first :: history).IsChain Publishes)
    (ends : last ∈ (first :: history).getLast?) :
    ∃ rows, last.db.configurations = first.db.configurations ++ rows ∧ ∀ c ∈ rows,
      ∃ before after i, [before, after] <:+: first :: history ∧
        after.db.configurations = before.db.configurations ++ [c] ∧
        after.view = before.view.transition (some i) "configuration applied" ∧
        after.view.generation = c.generation := by
  induction history generalizing first with
  | nil =>
    cases ends
    exact ⟨[], (List.append_nil _).symm, fun _ none => absurd none List.not_mem_nil⟩
  | cons second history ih =>
    obtain ⟨next, later⟩ := List.isChain_cons_cons.mp chain
    rw [List.getLast?_cons_cons] at ends
    obtain ⟨rows, reaches, written⟩ := ih later ends
    have old : ∀ c ∈ rows, ∃ before after i,
        [before, after] <:+: first :: second :: history ∧
        after.db.configurations = before.db.configurations ++ [c] ∧
        after.view = before.view.transition (some i) "configuration applied" ∧
        after.view.generation = c.generation := by
      intro c member
      obtain ⟨before, after, i, inside, rest⟩ := written c member
      exact ⟨before, after, i, List.infix_cons inside, rest⟩
    cases next with
    | observed _ _ _ configurations => exact ⟨rows, by rw [reaches, configurations], old⟩
    | moved _ configurations _ _ => exact ⟨rows, by rw [reaches, configurations], old⟩
    | @configured c i _ row view carried =>
      refine ⟨c :: rows, by rw [reaches, row, List.append_assoc]; rfl, fun c' member => ?_⟩
      rcases List.mem_cons.mp member with rfl | earlier
      · exact ⟨first, second, i, ⟨[], history, rfl⟩, row, view, carried.symm⟩
      · exact old c' earlier

theorem chain_generations (chain : (first :: history).IsChain Publishes) :
    (first :: history).map (·.view.generation) =
      List.range' first.view.generation (history.length + 1) := by
  induction history generalizing first with
  | nil => rfl
  | cons second history ih =>
    obtain ⟨next, later⟩ := List.isChain_cons_cons.mp chain
    rw [List.map_cons, ih later, next.generation, List.length_cons, ← List.range'_succ]

end Chain

theorem transition_unpublished {move : Move} {now : Nat} {d t : Domain} {e : Raised}
    (h : exec (Domain.transition move now) d = (.error e, t)) :
    t.db = d.db ∧ ((t.machine = d.machine ∧ t.history = d.history) ∨
      ∃ reason i, t.machine = d.machine.recordJournalFault reason i now ∧
        t.history = (d.observe (d.machine.recordJournalFault reason i now)).history) := by
  rw [Domain.transition, exec_tryCatch] at h
  rcases hw : exec (Domain.writeTransition move now) d with ⟨x | record, u⟩
  · obtain ⟨record, returned, -⟩ | ⟨-, machine, history, same⟩ := beat_writeTransition hw
    · cases returned
    · rw [hw] at h
      cases x with
      | journalError m =>
        cases h
        refine ⟨same, .inr ⟨
          s!"journal failure recording {move.toState.value} for operation {move.operationId}: {m}",
          u.nextId, ?_, ?_⟩⟩
        · rw [← machine]
          rfl
        · unfold Domain.observe
          rw [← machine, ← history, ← same]
          rfl
      | _ =>
        cases h
        exact ⟨same, .inl ⟨machine, history⟩⟩
  · rw [hw] at h
    cases h

/-- In every state that any interleaving of the daemon's sections reaches, whatever storage
does: the views published so far follow each other generation by generation up to the one in
force, an observation or a fault comes without a row, and every row of a transition or a
configuration has been written for the next view and carries its generation. A write that fails
moves neither the tables nor, on its own account, the view. -/
theorem generations_coupled (policy : Policy) (db : Db) (nextId started : Nat)
    (appliedHistory : List ConfigurationValues) (capacity attempts : Nat) (pos : 0 < capacity)
    (es : List SystemEvent) (s : System)
    (reached : run System.step
      (System.new policy db nextId started appliedHistory capacity attempts pos) es = some s) :
    (∃ later, s.domain.history = ⟨.initial, db⟩ :: later ∧ Coupled s.domain ∧
      s.domain.history.map (·.view.generation) = List.range' 1 s.domain.history.length ∧
      (∃ rows, s.domain.db.moves = db.moves ++ rows ∧ ∀ r ∈ rows,
        ∃ before after, [before, after] <:+: s.domain.history ∧
          after.db.moves = before.db.moves ++ [r] ∧ after.view = r.view before.view ∧
          after.view.generation = r.generation) ∧
      ∃ rows, s.domain.db.configurations = db.configurations ++ rows ∧ ∀ c ∈ rows,
        ∃ before after i, [before, after] <:+: s.domain.history ∧
          after.db.configurations = before.db.configurations ++ [c] ∧
          after.view = before.view.transition (some i) "configuration applied" ∧
          after.view.generation = c.generation) ∧
      (∀ e t, s.step e = some t → s.domain.history <+: t.domain.history) ∧
      (∀ (d t : Domain) (move : Move) (now : Nat) (e : Raised),
        exec (Domain.transition move now) d = (.error e, t) → t.db = d.db ∧
          ((t.machine = d.machine ∧ t.history = d.history) ∨
            ∃ reason i, t.machine = d.machine.recordJournalFault reason i now ∧
              t.history = (d.observe (d.machine.recordJournalFault reason i now)).history)) ∧
      ∀ (d t : Domain) (operation : OperationRecord) (values : ConfigurationValues)
        (caller : Caller) (e : Raised),
        exec (Domain.commitConfiguration operation values caller) d = (.error e, t) →
          t.db = d.db ∧ t.machine = d.machine ∧ t.history = d.history := by
  have played : Played (Domain.new policy db nextId started appliedHistory) s.domain :=
    run_invariant
      (motive := fun s => Played (Domain.new policy db nextId started appliedHistory) s.domain)
      (fun _ _ _ before (_ : True) h => IsTrans.trans _ _ _ before (System.step_steps h).played)
      (refl (r := Played) _) (meets_of_forall (fun _ _ _ => trivial) _) reached
  have coupled : Coupled s.domain :=
    played.coupled ⟨List.isChain_singleton _, _, rfl, rfl, rfl, rfl⟩
  obtain ⟨later, grown⟩ := played.grows
  refine ⟨⟨later, grown.symm, coupled, ?_⟩, fun e t h => (System.step_steps h).played.grows,
    fun d t move now e h => transition_unpublished h, fun d t operation values caller e h => ?_⟩
  · obtain ⟨chain, last, ends, -, moves, configurations⟩ := coupled
    rw [← grown] at chain ends ⊢
    refine ⟨chain_generations chain, ?_, ?_⟩
    · rw [← moves]
      exact chain_moves chain ends
    · rw [← configurations]
      exact chain_configurations chain ends
  · obtain ⟨returned, -⟩ | ⟨-, machine, history, same⟩ := commitConfiguration_cases h
    · cases returned
    · exact ⟨same, machine, history⟩

/-- A first stop publishes its acceptance and that it runs. -/
theorem generations_coupled_stop :
    ∃ later, (runD System.step (System.new {} .empty 0 0 [] 1 1 (by decide))
        [.call (.stop none) ⟨⟨"operator", "admin"⟩, "k", "stop", 1000, 0, none⟩,
          .api 0 0]).domain.history = ⟨.initial, .empty⟩ :: later ∧
      later.map (·.view.generation) = [2, 3] ∧ later.map (·.db.moves.length) = [1, 2] := by
  obtain ⟨⟨later, first, coupled, generations, -⟩, -⟩ :=
    generations_coupled {} .empty 0 0 [] 1 1 (by decide)
    [.call (.stop none) ⟨⟨"operator", "admin"⟩, "k", "stop", 1000, 0, none⟩, .api 0 0] _
    (run_eq_runD (by decide +kernel))
  refine ⟨later, first, ?_, ?_⟩
  all_goals
    rw [← @List.tail_cons _ (⟨.initial, .empty⟩ : PublishedView) later, ← first]
    decide +kernel

end CaseSorter.Daemon
