import CaseSorter.Lib.Migrations

/-! The journal's schema. -/

namespace CaseSorter.Daemon
open Migrations

def checksum (sha256 : String → String) (statements : List String) : String :=
  sha256 ("\n".intercalate statements)

def migrations : List Migration :=
  [ ⟨1, "operations_and_idempotency",
        [ "
            CREATE TABLE operations (
                operation_id TEXT PRIMARY KEY,
                action TEXT NOT NULL,
                fingerprint TEXT NOT NULL,
                state TEXT NOT NULL,
                generation INTEGER NOT NULL,
                created_at TEXT NOT NULL,
                deadline_at TEXT NOT NULL,
                actor_user_id TEXT NOT NULL,
                actor_role TEXT NOT NULL,
                trusted_terminal INTEGER NOT NULL DEFAULT 0,
                outcome TEXT,
                terminal_at TEXT,
                protocol_request_id INTEGER
            )
            ",
          "
            CREATE TABLE operation_transitions (
                transition_id INTEGER PRIMARY KEY AUTOINCREMENT,
                operation_id TEXT NOT NULL REFERENCES operations(operation_id),
                from_state TEXT,
                to_state TEXT NOT NULL,
                generation INTEGER NOT NULL,
                occurred_at TEXT NOT NULL,
                reason TEXT NOT NULL
            )
            ",
          "
            CREATE TABLE idempotency_records (
                key TEXT PRIMARY KEY,
                fingerprint TEXT NOT NULL,
                operation_id TEXT NOT NULL REFERENCES operations(operation_id),
                created_at TEXT NOT NULL,
                expires_at TEXT NOT NULL
            )
            ",
          ("CREATE INDEX operation_transitions_by_operation ON" ++
            " operation_transitions(operation_id, transition_id)"),
          "CREATE INDEX idempotency_records_by_expiry ON idempotency_records(expires_at)",
          "
            CREATE TRIGGER operation_transitions_no_update
            BEFORE UPDATE ON operation_transitions
            BEGIN
                SELECT RAISE(ABORT, 'operation_transitions is append-only');
            END
            ",
          "
            CREATE TRIGGER operation_transitions_no_delete
            BEFORE DELETE ON operation_transitions
            BEGIN
                SELECT RAISE(ABORT, 'operation_transitions is append-only');
            END
            ",
          "
            CREATE TRIGGER operations_insert_requires_trusted_terminal
            BEFORE INSERT ON operations
            WHEN NEW.state = 'succeeded' AND NEW.trusted_terminal <> 1
            BEGIN
                SELECT RAISE(ABORT, 'succeeded requires a trusted firmware terminal');
            END
            ",
          "
            CREATE TRIGGER operations_update_requires_trusted_terminal
            BEFORE UPDATE ON operations
            WHEN NEW.state = 'succeeded' AND NEW.trusted_terminal <> 1
            BEGIN
                SELECT RAISE(ABORT, 'succeeded requires a trusted firmware terminal');
            END
            " ]⟩,
  ⟨2, "operation_terminal_fields",
        [ "ALTER TABLE operations ADD COLUMN terminal_fields TEXT" ]⟩,
  ⟨3, "configuration_snapshots",
        [ "
            CREATE TABLE configuration_snapshots (
                config_id TEXT PRIMARY KEY,
                generation INTEGER NOT NULL,
                payload TEXT NOT NULL,
                source TEXT NOT NULL,
                created_at TEXT NOT NULL
            )
            ",
          ("CREATE INDEX configuration_snapshots_by_generation ON" ++
            " configuration_snapshots(generation DESC)") ]⟩ ]

theorem migrations_numbered : Numbered migrations := by decide

end CaseSorter.Daemon
