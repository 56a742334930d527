import Mathlib.Algebra.GroupWithZero.Nat
import Mathlib.Data.List.Nodup
import Mathlib.Data.List.Sort

/-! Forward-only schema migrations over a ledger. The ledger is read in one transaction and each
missing migration is applied in one of its own, with its row of the ledger; the process may die
between any two calls of the engine, and loses the transaction that is open. -/

namespace CaseSorter.Migrations

structure Migration where
  version : Nat
  name : String
  statements : List String
  deriving DecidableEq, Repr

/-- A row of the ledger. -/
structure Applied where
  version : Nat
  name : String
  appliedAt : Nat
  checksum : String
  deriving DecidableEq, Repr

/-- The ledger, if it has been created, and the statements that the schema has come from. -/
structure Database where
  ledger : Option (List Applied)
  schema : List String
  deriving DecidableEq, Repr

inductive Outcome
  | opened
  | unknownVersions (versions : List Nat)
  | diverged (version : Nat) (name : String)
  | died
  deriving DecidableEq, Repr

/-- What an opening leaves, and the migration statements it has run, kept or lost. -/
structure Opening where
  outcome : Outcome
  database : Database
  ran : List String
  deriving DecidableEq, Repr

def Database.rows (db : Database) : List Applied := db.ledger.getD []

def Database.withLedger (db : Database) : Database := { db with ledger := some db.rows }

def recorded (applied : List Applied) (m : Migration) : Option Applied :=
  applied.find? fun row => row.version = m.version

def Migration.calls (m : Migration) : Nat := m.statements.length + 3

def readCalls : Nat := 4

def unknownVersions (migrations : List Migration) (applied : List Applied) : List Nat :=
  ((applied.map Applied.version).filter fun v =>
    v ∉ migrations.map Migration.version).insertionSort
    (· ≤ ·)

section

variable (checksum : List String → String) (clock : Nat → Nat)

def Migration.row (m : Migration) : Applied :=
  ⟨m.version, m.name, clock m.version, checksum m.statements⟩

def Database.record (db : Database) (m : Migration) : Database :=
  ⟨some (db.rows ++ [m.row checksum clock]), db.schema ++ m.statements⟩

/-- The loop over the list. `applied` is the ledger as it was read, and `life` how many calls of
the engine are still answered. -/
def applyMissing (applied : List Applied) : List Migration → Nat → Database → Opening
  | [], _, db => ⟨.opened, db, []⟩
  | m :: rest, life, db =>
    match recorded applied m with
    | some row =>
      if row.checksum ≠ checksum m.statements then ⟨.diverged m.version row.name, db, []⟩
      else applyMissing applied rest life db
    | none =>
      if life < m.calls then ⟨.died, db, m.statements.take (life - 1)⟩
      else
        let opening := applyMissing applied rest (life - m.calls) (db.record checksum clock m)
        { opening with ran := m.statements ++ opening.ran }

def migrate (migrations : List Migration) (life : Nat) (db : Database) : Opening :=
  if life < readCalls then ⟨.died, db, []⟩
  else
    match unknownVersions migrations db.rows with
    | [] => applyMissing checksum clock db.rows migrations (life - readCalls) db.withLedger
    | unknown => ⟨.unknownVersions unknown, db.withLedger, []⟩

end

variable {checksum : List String → String} {clock : Nat → Nat}

/-- The first `k` migrations are in the ledger, each as it is. -/
structure Recorded (checksum : List String → String) (migrations : List Migration) (k : Nat)
    (db : Database) : Prop where
  most : k ≤ migrations.length
  rows : db.rows.map (fun row => (row.version, row.checksum)) =
    (migrations.take k).map fun m => (m.version, checksum m.statements)

inductive Left (checksum : List String → String) (migrations : List Migration) : Database → Prop
  | fresh : Left checksum migrations ⟨none, []⟩
  | opened {db : Database} (known life : Nat) (clock : Nat → Nat)
    (left : Left checksum migrations db) :
    Left checksum migrations (migrate checksum clock (migrations.take known) life db).database

def Numbered (migrations : List Migration) : Prop :=
  migrations.map Migration.version = List.range' 1 migrations.length

instance (migrations : List Migration) : Decidable (Numbered migrations) :=
  inferInstanceAs (Decidable (_ = _))

/-- What openings by any numbered lists leave, whatever their statements are. -/
inductive Written : Database → Prop
  | fresh : Written ⟨none, []⟩
  | opened {db : Database} {migrations : List Migration} (numbered : Numbered migrations)
    (checksum : List String → String) (life : Nat) (clock : Nat → Nat) (written : Written db) :
    Written (migrate checksum clock migrations life db).database

/-- No statement of a migration has run, and the file is as it was. -/
structure Opening.Untouched (opening : Opening) (db : Database) : Prop where
  refused : opening.outcome ≠ .opened
  ran : opening.ran = []
  rows : opening.database.rows = db.rows
  schema : opening.database.schema = db.schema

/-- What an opening of a file by a list of migrations does, and what the next one finds. -/
structure Resumes (checksum : List String → String) (migrations : List Migration) : Prop where
  left {db : Database} (left : Left checksum migrations db) :
    ∃ k, Recorded checksum migrations k db ∧
      db.schema = (migrations.take k).flatMap Migration.statements
  missing {db : Database} {k : Nat} (here : Recorded checksum migrations k db)
    (clock : Nat → Nat) (life : Nat)
    (enough : readCalls + ((migrations.drop k).map Migration.calls).sum ≤ life) :
    let opening := migrate checksum clock migrations life db
    opening.outcome = .opened ∧
      opening.ran = (migrations.drop k).flatMap Migration.statements ∧
      opening.database.rows =
        db.rows ++ (migrations.drop k).map (Migration.row checksum clock) ∧
      opening.database.schema =
        db.schema ++ (migrations.drop k).flatMap Migration.statements ∧
      ∀ (clock : Nat → Nat) (life : Nat),
        let second := migrate checksum clock migrations life opening.database
        second.ran = [] ∧ second.database.rows = opening.database.rows ∧
          second.database.schema = opening.database.schema ∧
          (readCalls ≤ life → second.outcome = .opened)
  crash {db : Database} {k : Nat} (here : Recorded checksum migrations k db)
    (clock : Nat → Nat) (life : Nat) :
    let opening := migrate checksum clock migrations life db
    ∃ j lost, k ≤ j ∧ Recorded checksum migrations j opening.database ∧
      opening.database.schema =
        db.schema ++ ((migrations.take j).drop k).flatMap Migration.statements ∧
      opening.ran = ((migrations.take j).drop k).flatMap Migration.statements ++ lost ∧
      lost <+: ((migrations.drop j).take 1).flatMap Migration.statements
  unknown {db : Database} {row : Applied} (member : row ∈ db.rows)
    (unknown : row.version ∉ migrations.map Migration.version) (clock : Nat → Nat)
    (life : Nat) : (migrate checksum clock migrations life db).Untouched db
  changed {db : Database} {k : Nat} (versions : db.rows.map Applied.version = List.range' 1 k)
    {row : Applied} (member : row ∈ db.rows) {m : Migration} (among : m ∈ migrations)
    (same : row.version = m.version) (changed : row.checksum ≠ checksum m.statements)
    (clock : Nat → Nat) (life : Nat) :
    (migrate checksum clock migrations life db).Untouched db
  /-- In a ledger with a gap, what is missing before the changed row is applied first. -/
  refused {db : Database} (distinct : (db.rows.map Applied.version).Nodup) {row : Applied}
    (member : row ∈ db.rows) {m : Migration} (among : m ∈ migrations)
    (same : row.version = m.version) (changed : row.checksum ≠ checksum m.statements)
    (clock : Nat → Nat) (life : Nat) :
    (migrate checksum clock migrations life db).outcome ≠ .opened

theorem Recorded.versions {migrations : List Migration} {k : Nat} {db : Database}
    (here : Recorded checksum migrations k db) :
    db.rows.map Applied.version = (migrations.take k).map Migration.version := by
  have firsts := congrArg (List.map Prod.fst) here.rows
  rwa [List.map_map, List.map_map] at firsts

@[simp] theorem rows_withLedger (db : Database) : db.withLedger.rows = db.rows := rfl

@[simp] theorem schema_withLedger (db : Database) : db.withLedger.schema = db.schema := rfl

theorem recorded_eq_none {applied : List Applied} {m : Migration} :
    recorded applied m = none ↔ m.version ∉ applied.map Applied.version := by
  rw [recorded, List.find?_eq_none, List.mem_map]
  constructor
  · rintro absent ⟨row, member, same⟩
    exact absent row member (decide_eq_true same)
  · rintro absent row member same
    exact absent ⟨row, member, of_decide_eq_true same⟩

theorem recorded_row {applied : List Applied} {m : Migration} {row : Applied}
    (found : recorded applied m = some row) : row ∈ applied ∧ row.version = m.version := by
  rw [recorded] at found
  have matched := List.find?_some found
  exact ⟨List.mem_of_find?_eq_some found, of_decide_eq_true matched⟩

theorem recorded_of_mem {applied : List Applied} (distinct : (applied.map Applied.version).Nodup)
    {m : Migration} {row : Applied} (member : row ∈ applied) (same : row.version = m.version) :
    recorded applied m = some row := by
  cases found : recorded applied m with
  | none =>
    rw [recorded_eq_none, ← same] at found
    exact absurd (List.mem_map_of_mem member) found
  | some other =>
    obtain ⟨there, alike⟩ := recorded_row found
    rw [List.inj_on_of_nodup_map distinct there member (alike.trans same.symm)]

def Database.recordAll (checksum : List String → String) (clock : Nat → Nat) (db : Database)
    (migrations : List Migration) : Database :=
  migrations.foldl (Database.record checksum clock) db

theorem rows_recordAll (db : Database) (migrations : List Migration) :
    (db.recordAll checksum clock migrations).rows =
      db.rows ++ migrations.map (Migration.row checksum clock) := by
  induction migrations generalizing db with
  | nil => rw [List.map_nil, List.append_nil]; rfl
  | cons m migrations ih =>
    rw [Database.recordAll, List.foldl_cons]
    exact (ih _).trans (List.append_assoc _ _ _)

theorem schema_recordAll (db : Database) (migrations : List Migration) :
    (db.recordAll checksum clock migrations).schema =
      db.schema ++ migrations.flatMap Migration.statements := by
  induction migrations generalizing db with
  | nil => rw [List.flatMap_nil, List.append_nil]; rfl
  | cons m migrations ih =>
    rw [Database.recordAll, List.foldl_cons]
    exact (ih _).trans (List.append_assoc _ _ _)

variable (checksum clock)

theorem applyMissing_recorded {applied : List Applied} {before : List Migration}
    (same : ∀ m ∈ before, ∃ row, recorded applied m = some row ∧
      row.checksum = checksum m.statements) (rest : List Migration) (life : Nat) (db : Database) :
    applyMissing checksum clock applied (before ++ rest) life db =
      applyMissing checksum clock applied rest life db := by
  induction before with
  | nil => rfl
  | cons m before ih =>
    obtain ⟨row, found, as⟩ := same m List.mem_cons_self
    rw [List.cons_append, applyMissing, found]
    dsimp only
    rw [if_neg (not_not_intro as)]
    exact ih fun m member => same m (List.mem_cons_of_mem _ member)

theorem applyMissing_missing {applied : List Applied} {missing : List Migration}
    (absent : ∀ m ∈ missing, recorded applied m = none) (life : Nat) (db : Database) :
    ∃ j lost, j ≤ missing.length ∧
      (applyMissing checksum clock applied missing life db).database =
        db.recordAll checksum clock (missing.take j) ∧
      (applyMissing checksum clock applied missing life db).ran =
        (missing.take j).flatMap Migration.statements ++ lost ∧
      lost <+: ((missing.drop j).take 1).flatMap Migration.statements ∧
      ((missing.map Migration.calls).sum ≤ life →
        j = missing.length ∧ lost = [] ∧
          (applyMissing checksum clock applied missing life db).outcome = .opened) := by
  induction missing generalizing life db with
  | nil => exact ⟨0, [], le_rfl, rfl, rfl, List.nil_prefix, fun _ => ⟨rfl, rfl, rfl⟩⟩
  | cons m missing ih =>
    rw [applyMissing, absent m List.mem_cons_self]
    dsimp only
    split_ifs with short
    · refine ⟨0, m.statements.take (life - 1), Nat.zero_le _, rfl, rfl, ?_, fun enough => ?_⟩
      · rw [List.drop_zero, List.take_succ_cons, List.take_zero, List.flatMap_singleton]
        exact List.take_prefix _ _
      · rw [List.map_cons, List.sum_cons] at enough
        omega
    · obtain ⟨j, lost, most, database, ran, part, whole⟩ :=
        ih (fun m member => absent m (List.mem_cons_of_mem _ member)) (life - m.calls)
          (db.record checksum clock m)
      refine ⟨j + 1, lost, Nat.succ_le_succ most, database, ?_, part, fun enough => ?_⟩
      · rw [ran, List.take_succ_cons, List.flatMap_cons, List.append_assoc]
      · rw [List.map_cons, List.sum_cons] at enough
        obtain ⟨all, nothing, opened⟩ := whole (by omega)
        exact ⟨congrArg Nat.succ all, nothing, opened⟩

theorem applyMissing_diverged {applied : List Applied} {migrations : List Migration}
    {bad : Migration} (among : bad ∈ migrations) {row : Applied}
    (found : recorded applied bad = some row) (changed : row.checksum ≠ checksum bad.statements)
    (life : Nat) (db : Database) :
    (applyMissing checksum clock applied migrations life db).outcome ≠ .opened := by
  induction migrations generalizing life db with
  | nil => cases among
  | cons m migrations ih =>
    rw [applyMissing]
    cases here : recorded applied m with
    | some other =>
      dsimp only
      split_ifs with differ
      · exact Outcome.noConfusion
      · rcases List.mem_cons.mp among with rfl | later
        · rw [found] at here
          cases here
          exact absurd changed differ
        · exact ih later life db
    | none =>
      dsimp only
      split_ifs with short
      · exact Outcome.noConfusion
      · rcases List.mem_cons.mp among with rfl | later
        · rw [found] at here
          cases here
        · exact ih later _ _

theorem applyMissing_changed {applied : List Applied} {before : List Migration}
    (present : ∀ m ∈ before, ∃ row, recorded applied m = some row) {bad : Migration}
    (among : bad ∈ before) {row : Applied} (found : recorded applied bad = some row)
    (changed : row.checksum ≠ checksum bad.statements) (rest : List Migration) (life : Nat)
    (db : Database) :
    ∃ version name, applyMissing checksum clock applied (before ++ rest) life db =
      ⟨.diverged version name, db, []⟩ := by
  induction before with
  | nil => cases among
  | cons m before ih =>
    obtain ⟨other, here⟩ := present m List.mem_cons_self
    rw [List.cons_append, applyMissing, here]
    dsimp only
    split_ifs with differ
    · exact ⟨_, _, rfl⟩
    · rcases List.mem_cons.mp among with rfl | later
      · rw [found] at here
        cases here
        exact absurd changed differ
      · exact ih (fun m member => present m (List.mem_cons_of_mem _ member)) later

theorem unknownVersions_eq_nil {migrations : List Migration} {applied : List Applied} :
    unknownVersions migrations applied = [] ↔
      ∀ row ∈ applied, row.version ∈ migrations.map Migration.version := by
  rw [unknownVersions, ← List.length_eq_zero_iff, List.length_insertionSort,
    List.length_eq_zero_iff, List.filter_eq_nil_iff, List.forall_mem_map]
  simp only [decide_not, Bool.not_eq_true', decide_eq_false_iff_not, not_not]

theorem migrate_unknown {migrations : List Migration} {db : Database} {row : Applied}
    (member : row ∈ db.rows) (unknown : row.version ∉ migrations.map Migration.version)
    (life : Nat) : (migrate checksum clock migrations life db).Untouched db := by
  rw [migrate]
  split_ifs with short
  · exact ⟨Outcome.noConfusion, rfl, rfl, rfl⟩
  · split
    · rename_i none'
      exact absurd (unknownVersions_eq_nil.mp none' row member) unknown
    · exact ⟨Outcome.noConfusion, rfl, rfl, rfl⟩

theorem migrate_known {migrations : List Migration} {db : Database}
    (known : ∀ row ∈ db.rows, row.version ∈ migrations.map Migration.version) {life : Nat}
    (lives : readCalls ≤ life) :
    migrate checksum clock migrations life db =
      applyMissing checksum clock db.rows migrations (life - readCalls) db.withLedger := by
  rw [migrate, if_neg (Nat.not_lt.mpr lives), unknownVersions_eq_nil.mpr known]

theorem migrate_short {migrations : List Migration} {db : Database} {life : Nat}
    (short : life < readCalls) :
    migrate checksum clock migrations life db = ⟨.died, db, []⟩ := by
  rw [migrate, if_pos short]

section

variable {migrations : List Migration} (distinct : (migrations.map Migration.version).Nodup)
include distinct

theorem versions_take_nodup (k : Nat) : ((migrations.take k).map Migration.version).Nodup :=
  distinct.sublist ((List.take_sublist k migrations).map _)

theorem mem_take_of_version {k : Nat} {m : Migration} (member : m ∈ migrations)
    (among : m.version ∈ (migrations.take k).map Migration.version) :
      m ∈ migrations.take k := by
  obtain ⟨other, there, same⟩ := List.mem_map.mp among
  rwa [← List.inj_on_of_nodup_map distinct (List.mem_of_mem_take there) member same]

theorem version_of_mem_drop {k : Nat} {m : Migration} (member : m ∈ migrations.drop k) :
    m.version ∉ (migrations.take k).map Migration.version := by
  rintro among
  have parted : (migrations.take k ++ migrations.drop k).Nodup := by
    rw [List.take_append_drop]
    exact distinct.of_map
  exact List.disjoint_of_nodup_append parted
    (mem_take_of_version distinct (List.mem_of_mem_drop member) among) member

theorem migrate_changed {db : Database} {k : Nat}
    (versions : db.rows.map Applied.version = (migrations.take k).map Migration.version)
    {row : Applied} (member : row ∈ db.rows) {m : Migration} (among : m ∈ migrations)
    (same : row.version = m.version) (changed : row.checksum ≠ checksum m.statements)
    (life : Nat) : (migrate checksum clock migrations life db).Untouched db := by
  rcases Nat.lt_or_ge life readCalls with short | lives
  · rw [migrate_short checksum clock short]
    exact ⟨Outcome.noConfusion, rfl, rfl, rfl⟩
  have once : (db.rows.map Applied.version).Nodup := by
    rw [versions]
    exact versions_take_nodup distinct k
  have known : ∀ row ∈ db.rows, row.version ∈ migrations.map Migration.version := by
    intro row member
    have there := List.mem_map_of_mem (f := Applied.version) member
    rw [versions] at there
    exact (List.take_sublist k migrations).map _ |>.subset there
  have early : m ∈ migrations.take k := by
    apply mem_take_of_version distinct among
    rw [← versions, ← same]
    exact List.mem_map_of_mem member
  have present : ∀ m ∈ migrations.take k, ∃ row, recorded db.rows m = some row := by
    intro m member
    rw [← Option.isSome_iff_exists, Option.isSome_iff_ne_none, ne_eq, recorded_eq_none, versions,
      not_not]
    exact List.mem_map_of_mem member
  obtain ⟨version, name, stopped⟩ := applyMissing_changed checksum clock present early
    (recorded_of_mem once member same) changed (migrations.drop k) (life - readCalls)
    db.withLedger
  rw [List.take_append_drop] at stopped
  rw [migrate_known checksum clock known lives, stopped]
  exact ⟨Outcome.noConfusion, rfl, rfl, rfl⟩

theorem migrate_recorded {db : Database} {k : Nat}
    (here : Recorded checksum migrations k db) (life : Nat) :
    ∃ j lost, k ≤ j ∧ Recorded checksum migrations j
        (migrate checksum clock migrations life db).database ∧
      (migrate checksum clock migrations life db).database.rows =
        db.rows ++ ((migrations.take j).drop k).map (Migration.row checksum clock) ∧
      (migrate checksum clock migrations life db).database.schema =
        db.schema ++ ((migrations.take j).drop k).flatMap Migration.statements ∧
      (migrate checksum clock migrations life db).ran =
        ((migrations.take j).drop k).flatMap Migration.statements ++ lost ∧
      lost <+: ((migrations.drop j).take 1).flatMap Migration.statements ∧
      (readCalls + ((migrations.drop k).map Migration.calls).sum ≤ life →
        j = migrations.length ∧ lost = [] ∧
          (migrate checksum clock migrations life db).outcome = .opened) := by
  rcases Nat.lt_or_ge life readCalls with short | lives
  · rw [migrate_short checksum clock short]
    refine ⟨k, [], le_rfl, here, ?_, ?_, ?_, List.nil_prefix, fun enough => ?_⟩
    · rw [List.drop_eq_nil_of_le (List.length_take_le _ _), List.map_nil, List.append_nil]
    · rw [List.drop_eq_nil_of_le (List.length_take_le _ _), List.flatMap_nil, List.append_nil]
    · rw [List.drop_eq_nil_of_le (List.length_take_le _ _), List.flatMap_nil, List.append_nil]
    · omega
  have versions := here.versions
  have once : (db.rows.map Applied.version).Nodup := by
    rw [versions]
    exact versions_take_nodup distinct k
  have known : ∀ row ∈ db.rows, row.version ∈ migrations.map Migration.version := by
    intro row member
    have there := List.mem_map_of_mem (f := Applied.version) member
    rw [versions] at there
    exact (List.take_sublist k migrations).map _ |>.subset there
  have same : ∀ m ∈ migrations.take k, ∃ row, recorded db.rows m = some row ∧
      row.checksum = checksum m.statements := by
    intro m member
    have pair : (m.version, checksum m.statements) ∈
        db.rows.map fun row => (row.version, row.checksum) := by
      rw [here.rows]
      exact List.mem_map_of_mem (f := fun m => (m.version, checksum m.statements)) member
    obtain ⟨row, there, alike⟩ := List.mem_map.mp pair
    rw [Prod.mk.injEq] at alike
    exact ⟨row, recorded_of_mem once there alike.1, alike.2⟩
  have absent : ∀ m ∈ migrations.drop k, recorded db.rows m = none := by
    intro m member
    rw [recorded_eq_none, versions]
    exact version_of_mem_drop distinct member
  obtain ⟨i, lost, most, database, ran, part, whole⟩ := applyMissing_missing checksum clock
    absent (life - readCalls) db.withLedger
  have skipped := applyMissing_recorded checksum clock same (migrations.drop k)
    (life - readCalls) db.withLedger
  rw [List.take_append_drop] at skipped
  rw [migrate_known checksum clock known lives, skipped]
  have segment : (migrations.drop k).take i = (migrations.take (k + i)).drop k := by
    rw [List.take_drop]
  have length : i ≤ migrations.length - k := by rwa [List.length_drop] at most
  have bound := here.most
  rw [segment] at database ran
  have rows : (applyMissing checksum clock db.rows (migrations.drop k) (life - readCalls)
      db.withLedger).database.rows =
      db.rows ++ ((migrations.take (k + i)).drop k).map (Migration.row checksum clock) := by
    rw [database, rows_recordAll, rows_withLedger]
  refine ⟨k + i, lost, Nat.le_add_right _ _, ⟨by omega, ?_⟩, rows, ?_, ran, ?_,
    fun enough => ?_⟩
  · rw [rows, List.map_append, here.rows, List.map_map]
    calc (migrations.take k).map (fun m => (m.version, checksum m.statements)) ++
          ((migrations.take (k + i)).drop k).map (fun m => (m.version, checksum m.statements))
        = (((migrations.take (k + i)).take k) ++ ((migrations.take (k + i)).drop k)).map
            fun m => (m.version, checksum m.statements) := by
          rw [List.take_take, Nat.min_eq_left (Nat.le_add_right k i), List.map_append]
      _ = (migrations.take (k + i)).map fun m => (m.version, checksum m.statements) := by
          rw [List.take_append_drop]
  · rw [database, schema_recordAll, schema_withLedger]
  · rwa [List.drop_drop] at part
  · obtain ⟨all, nothing, opened⟩ := whole (by omega)
    rw [List.length_drop] at all
    exact ⟨by omega, nothing, opened⟩

end

variable {checksum clock}

theorem left_recorded {migrations : List Migration}
    (distinct : (migrations.map Migration.version).Nodup) {db : Database}
    (left : Left checksum migrations db) :
    ∃ k, Recorded checksum migrations k db ∧
      db.schema = (migrations.take k).flatMap Migration.statements := by
  induction left with
  | fresh => exact ⟨0, ⟨Nat.zero_le _, rfl⟩, rfl⟩
  | @opened db known life clock left ih =>
    obtain ⟨k, here, schema⟩ := ih
    rcases Nat.lt_or_ge known k with short | enough
    · -- the file is ahead of this version of the list, which refuses it
      have ahead : known < migrations.length := Nat.lt_of_lt_of_le short here.most
      have member : migrations[known] ∈ migrations.take k := List.mem_take_iff_getElem.mpr
        ⟨known, by omega, rfl⟩
      have pair : (migrations[known].version, checksum migrations[known].statements) ∈
          db.rows.map fun row => (row.version, row.checksum) := by
        rw [here.rows]
        exact List.mem_map_of_mem (f := fun m => (m.version, checksum m.statements)) member
      obtain ⟨row, there, alike⟩ := List.mem_map.mp pair
      rw [Prod.mk.injEq] at alike
      have unknown : row.version ∉ (migrations.take known).map Migration.version := by
        rw [alike.1]
        apply version_of_mem_drop distinct
        rw [List.drop_eq_getElem_cons ahead]
        exact List.mem_cons_self
      have kept := migrate_unknown checksum clock there unknown life
      refine ⟨k, ⟨here.most, ?_⟩, ?_⟩
      · rw [kept.rows, here.rows]
      · rw [kept.schema, schema]
    · have within : Recorded checksum (migrations.take known) k db := by
        refine ⟨?_, ?_⟩
        · rw [List.length_take]
          exact le_min enough here.most
        · rw [here.rows, List.take_take, Nat.min_eq_left enough]
      obtain ⟨j, lost, later, stays, -, grown, -⟩ := migrate_recorded checksum clock
        (versions_take_nodup distinct known) within life
      have most := stays.most
      rw [List.length_take] at most
      have shorter : (migrations.take known).take j = migrations.take j := by
        rw [List.take_take, Nat.min_eq_left (by omega)]
      refine ⟨j, ⟨by omega, ?_⟩, ?_⟩
      · rw [stays.rows, shorter]
      · rw [grown, shorter, schema, ← List.flatMap_append]
        congr 1
        calc migrations.take k ++ (migrations.take j).drop k
            = (migrations.take j).take k ++ (migrations.take j).drop k := by
              rw [List.take_take, Nat.min_eq_left later]
          _ = migrations.take j := List.take_append_drop _ _

theorem Numbered.nodup {migrations : List Migration} (numbered : Numbered migrations) :
    (migrations.map Migration.version).Nodup := by
  rw [numbered]
  exact List.nodup_range'

theorem Numbered.take {migrations : List Migration} (numbered : Numbered migrations) {k : Nat}
    (most : k ≤ migrations.length) :
    (migrations.take k).map Migration.version = List.range' 1 k := by
  rw [List.map_take, numbered, List.take_range'_of_length_ge most]

theorem aligned_rows {rows : List Applied} {migrations : List Migration}
    (versions : rows.map Applied.version = migrations.map Migration.version)
    (same : ∀ row ∈ rows, ∀ m ∈ migrations, row.version = m.version →
      row.checksum = checksum m.statements) :
    rows.map (fun row => (row.version, row.checksum)) =
      migrations.map fun m => (m.version, checksum m.statements) := by
  induction rows generalizing migrations with
  | nil =>
    rw [List.map_nil, eq_comm, List.map_eq_nil_iff] at versions
    rw [versions]
    rfl
  | cons row rows ih =>
    cases migrations with
    | nil => cases versions
    | cons m migrations =>
      rw [List.map_cons, List.map_cons, List.cons.injEq] at versions
      rw [List.map_cons, List.map_cons, versions.1,
        same row List.mem_cons_self m List.mem_cons_self versions.1,
        ih versions.2 fun row member m among =>
          same row (List.mem_cons_of_mem _ member) m (List.mem_cons_of_mem _ among)]

variable (checksum clock) in
theorem Numbered.migrate_cases {migrations : List Migration} (numbered : Numbered migrations)
    {db : Database} {k : Nat} (versions : db.rows.map Applied.version = List.range' 1 k)
    (life : Nat) :
    (migrate checksum clock migrations life db).Untouched db ∨
      Recorded checksum migrations k db := by
  rcases Nat.lt_or_ge migrations.length k with ahead | most
  · left
    have last : k ∈ db.rows.map Applied.version := by
      rw [versions, List.mem_range'_1]
      omega
    obtain ⟨row, member, rfl⟩ := List.mem_map.mp last
    refine migrate_unknown checksum clock member ?_ life
    rw [numbered, List.mem_range'_1]
    omega
  · have aligned : db.rows.map Applied.version = (migrations.take k).map Migration.version := by
      rw [versions, numbered.take most]
    by_cases changed : ∃ row ∈ db.rows, ∃ m ∈ migrations, row.version = m.version ∧
        row.checksum ≠ checksum m.statements
    · obtain ⟨row, member, m, among, same, differ⟩ := changed
      exact Or.inl (migrate_changed checksum clock numbered.nodup aligned member among
        same differ life)
    · refine Or.inr ⟨most, aligned_rows aligned fun row member m among same => ?_⟩
      by_contra differ
      exact changed ⟨row, member, m, List.mem_of_mem_take among, same, differ⟩

theorem Written.numbered {db : Database} (written : Written db) :
    ∃ k, db.rows.map Applied.version = List.range' 1 k := by
  induction written with
  | fresh => exact ⟨0, rfl⟩
  | @opened db migrations numbered checksum life clock written ih =>
    obtain ⟨k, versions⟩ := ih
    rcases numbered.migrate_cases checksum clock versions life with
      refused | here
    · exact ⟨k, by rw [refused.rows, versions]⟩
    · obtain ⟨j, lost, -, stays, -⟩ :=
        migrate_recorded checksum clock numbered.nodup here life
      exact ⟨j, by rw [stays.versions, numbered.take stays.most]⟩

theorem Numbered.resumes {migrations : List Migration} (numbered : Numbered migrations) :
    Resumes checksum migrations where
  left := left_recorded numbered.nodup
  missing := by
    intro db k here clock life enough
    obtain ⟨j, lost, -, stays, rows, schema, ran, -, whole⟩ :=
      migrate_recorded checksum clock numbered.nodup here life
    obtain ⟨rfl, rfl, opened⟩ := whole enough
    rw [List.take_length] at rows schema ran
    rw [List.append_nil] at ran
    refine ⟨opened, ran, rows, schema, fun again life' => ?_⟩
    obtain ⟨i, lost', later, still, rows', schema', ran', part, whole'⟩ :=
      migrate_recorded checksum again numbered.nodup stays life'
    obtain rfl : i = migrations.length := Nat.le_antisymm still.most later
    rw [List.drop_length, List.take_nil, List.flatMap_nil, List.prefix_nil] at part
    rw [List.take_length, List.drop_length] at rows' schema' ran'
    rw [List.drop_length] at whole'
    rw [List.map_nil, List.append_nil] at rows'
    rw [List.flatMap_nil, List.append_nil] at schema'
    rw [part] at ran'
    exact ⟨ran', rows', schema', fun lives => (whole' lives).2.2⟩
  crash := by
    intro db k here clock life
    obtain ⟨j, lost, later, stays, -, schema, ran, part, -⟩ :=
      migrate_recorded checksum clock numbered.nodup here life
    exact ⟨j, lost, later, stays, schema, ran, part⟩
  unknown := fun member unknown clock life => migrate_unknown checksum clock member unknown life
  changed := by
    intro db k versions row member m among same changed clock life
    rcases numbered.migrate_cases checksum clock versions life with refused | here
    · exact refused
    · exact migrate_changed checksum clock numbered.nodup here.versions member among
        same changed life
  refused := by
    intro db distinct row member m among same changed clock life
    rcases Nat.lt_or_ge life readCalls with short | lives
    · rw [migrate_short checksum clock short]
      exact Outcome.noConfusion
    by_cases known : ∀ row ∈ db.rows, row.version ∈ migrations.map Migration.version
    · rw [migrate_known checksum clock known lives]
      exact applyMissing_diverged checksum clock among (recorded_of_mem distinct member same)
        changed _ _
    · simp only [not_forall] at known
      obtain ⟨other, there, unknown⟩ := known
      exact (migrate_unknown checksum clock there unknown life).refused

end CaseSorter.Migrations
