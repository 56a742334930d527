import CaseSorter.Daemon.Migrations

/-! The dataset store's schema, and what opening either store does to its file. The engine and the
loop over the list are those of `CaseSorter.Migrations`; a failing call of the engine loses the
open transaction as the end of the process does. -/

namespace CaseSorter.Vision
open Migrations

def checksum (sha256 : String → String) (statements : List String) : String :=
  sha256 ("\n".intercalate statements)

def migrations : List Migration :=
  [ ⟨1, "examples",
        [ "
            CREATE TABLE examples (
                operation_id TEXT PRIMARY KEY,
                slot INTEGER NOT NULL,
                frame_png BLOB NOT NULL,
                frame_captured_at TEXT NOT NULL,
                operation_created_at TEXT NOT NULL,
                recorded_at TEXT NOT NULL
            )
            ",
          "CREATE INDEX examples_by_slot ON examples(slot)" ]⟩,
  ⟨2, "models",
        [ "
            CREATE TABLE models (
                version INTEGER PRIMARY KEY AUTOINCREMENT,
                trained_at TEXT NOT NULL,
                model_blob BLOB NOT NULL,
                included_classes TEXT NOT NULL,
                excluded_classes TEXT NOT NULL,
                accuracy_by_class TEXT NOT NULL,
                minimum_examples_per_class INTEGER NOT NULL,
                training_example_count INTEGER NOT NULL,
                holdout_example_count INTEGER NOT NULL
            )
            " ]⟩,
  ⟨3, "activations",
        [ "
            CREATE TABLE activations (
                activation_id INTEGER PRIMARY KEY AUTOINCREMENT,
                version INTEGER NOT NULL REFERENCES models(version),
                activated_at TEXT NOT NULL
            )
            " ]⟩,
  ⟨4, "suggestions",
        [ "
            CREATE TABLE suggestions (
                suggestion_id INTEGER PRIMARY KEY AUTOINCREMENT,
                model_version INTEGER NOT NULL REFERENCES models(version),
                suggested_slot INTEGER NOT NULL,
                confidence REAL NOT NULL,
                frame_captured_at TEXT NOT NULL,
                suggested_at TEXT NOT NULL
            )
            ",
          "
            CREATE TABLE suggestion_outcomes (
                outcome_id INTEGER PRIMARY KEY AUTOINCREMENT,
                suggestion_id INTEGER NOT NULL UNIQUE REFERENCES suggestions(suggestion_id),
                operation_id TEXT NOT NULL UNIQUE,
                actual_slot INTEGER NOT NULL,
                correct INTEGER NOT NULL,
                recorded_at TEXT NOT NULL
            )
            " ]⟩,
  ⟨5, "suggestion_primer_axis",
        [ "ALTER TABLE suggestions ADD COLUMN primer_present INTEGER" ]⟩,
  ⟨6, "autonomous_sort",
        [ "
            CREATE TABLE autonomous_attempts (
                attempt_id INTEGER PRIMARY KEY AUTOINCREMENT,
                suggestion_id INTEGER NOT NULL UNIQUE REFERENCES suggestions(suggestion_id),
                operation_id TEXT NOT NULL UNIQUE,
                slot INTEGER NOT NULL,
                attempted_at TEXT NOT NULL
            )
            ",
          "
            CREATE TABLE autonomous_reviews (
                review_id INTEGER PRIMARY KEY AUTOINCREMENT,
                attempt_id INTEGER NOT NULL UNIQUE REFERENCES autonomous_attempts(attempt_id),
                correct INTEGER NOT NULL,
                reviewed_at TEXT NOT NULL
            )
            " ]⟩ ]

theorem migrations_numbered : Numbered migrations := by decide

/-- Both stores resume exactly; the ledgers that a numbered list can leave are numbered, so that
`Resumes.changed` covers every one of them. -/
theorem stores_resume (sha256 : String → String) :
    Resumes (Daemon.checksum sha256) Daemon.migrations ∧
      Resumes (checksum sha256) migrations ∧
      ∀ db, Written db → ∃ k, db.rows.map Applied.version = List.range' 1 k :=
  ⟨Daemon.migrations_numbered.resumes, migrations_numbered.resumes,
    fun _ written => written.numbered⟩

end CaseSorter.Vision
