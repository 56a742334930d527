import CaseSorter.Daemon.Journal
import CaseSorter.Lib.IsoDatetime

/-! The instants of the journal as the texts that its rows hold. A moment counts microseconds from
the first of the year 1, where `datetime` begins; what the engine compares as text it compares in
time, so that the queries over texts are those over moments. -/

namespace CaseSorter.Daemon

open CaseSorter.IsoTime

def instant (moment : Nat) : Int := moment + dayFromYear 1 * daySeconds * 1000000

def Representable (moment : Nat) : Prop := instant moment ∈ calendar

def encodeTime (moment : Nat) : List Char := isoformat (instant moment)

def decodeTime (text : List Char) : Option Nat :=
  (fromisoformat text).map fun t => (t - dayFromYear 1 * daySeconds * 1000000).toNat

theorem instant_of_calendar {t : Int} (h : t ∈ calendar) :
    ∃ moment, Representable moment ∧ instant moment = t := by
  have first := dayFromYear_mono h.1
  have own := (yearOfDay_spec (t / 1000000 / daySeconds)).1
  have days := first.trans own
  unfold daySeconds at days
  have moment : instant (t - dayFromYear 1 * daySeconds * 1000000).toNat = t := by
    unfold instant daySeconds
    omega
  exact ⟨_, by rwa [Representable, moment], moment⟩

structure IdempotencyRow where
  key : String
  fingerprint : String
  operationId : OperationId
  createdAt : List Char
  expiresAt : List Char
  deriving DecidableEq

def IdempotencyRecord.row (r : IdempotencyRecord) : IdempotencyRow :=
  ⟨r.key, r.fingerprint, r.operationId, encodeTime r.createdAt, encodeTime r.expiresAt⟩

/-- `_decode_idempotency`; nothing where a text cannot be read or the record refuses its times. -/
def decodeIdempotency (row : IdempotencyRow) : Option IdempotencyRecord := do
  let createdAt ← decodeTime row.createdAt
  let expiresAt ← decodeTime row.expiresAt
  if expires_after : createdAt < expiresAt then
    some { row with createdAt, expiresAt, expires_after }
  else none

namespace IdempotencyRow

/-- The rows that the `DELETE` of `prune_idempotency` leaves. -/
def prune (rows : List IdempotencyRow) (moment : List Char) : List IdempotencyRow :=
  rows.filter fun row => ¬row.expiresAt ≤ moment

/-- `idempotency_record` over the rows; nothing where the decoding raises. -/
def read (rows : List IdempotencyRow) (key : String) (moment : Nat) :
    Option (Option IdempotencyRecord) :=
  match rows.find? (·.key = key) with
  | none => some none
  | some row => (decodeIdempotency row).map fun record =>
    if record.liveAt moment then some record else none

end IdempotencyRow

def IdempotencyRecord.Timed (r : IdempotencyRecord) : Prop :=
  Representable r.createdAt ∧ Representable r.expiresAt

theorem encodeTime_le {t u : Nat} (ht : Representable t) (hu : Representable u) :
    encodeTime t ≤ encodeTime u ↔ t ≤ u := by
  rw [encodeTime, encodeTime, isoformat_le ht hu, instant, instant]
  omega

theorem decodeTime_encodeTime {t : Nat} (h : Representable t) :
    decodeTime (encodeTime t) = some t := by
  rw [decodeTime, encodeTime, fromisoformat_isoformat h, Option.map_some, Option.some.injEq,
    instant]
  omega

theorem decodeIdempotency_row {r : IdempotencyRecord} (h : r.Timed) :
    decodeIdempotency r.row = some r := by
  unfold decodeIdempotency IdempotencyRecord.row
  simp only [decodeTime_encodeTime h.1, decodeTime_encodeTime h.2, Option.bind_eq_bind,
    Option.bind_some]
  rw [dif_pos r.expires_after]

namespace IdempotencyRow

theorem prune_rows {records : List IdempotencyRecord} {moment : Nat}
    (timed : ∀ r ∈ records, r.Timed) (h : Representable moment) :
    prune (records.map IdempotencyRecord.row) (encodeTime moment) =
      (records.filter (·.liveAt moment)).map IdempotencyRecord.row := by
  rw [prune, List.filter_map]
  refine congrArg (List.map IdempotencyRecord.row) (List.filter_congr fun r member => ?_)
  rw [Function.comp_apply, IdempotencyRecord.liveAt, decide_eq_decide]
  exact (not_congr (encodeTime_le (timed r member).2 h)).trans Nat.not_le

theorem read_rows {records : List IdempotencyRecord} (timed : ∀ r ∈ records, r.Timed)
    (key : String) (moment : Nat) :
    read (records.map IdempotencyRecord.row) key moment =
      some ((records.find? (·.key = key)).filter (·.liveAt moment)) := by
  have kept : (records.map IdempotencyRecord.row).find? (·.key = key) =
      (records.find? (·.key = key)).map IdempotencyRecord.row := List.find?_map
  rw [read, kept]
  cases found : records.find? (·.key = key) with
  | none => rfl
  | some r =>
    have known := decodeIdempotency_row (timed r (List.mem_of_find?_eq_some found))
    rw [Option.map_some]
    dsimp only
    rw [known, Option.map_some, Option.filter_some]

theorem pruned_iff (db : Db) {moment : Nat} (timed : ∀ r ∈ db.idempotency, r.Timed)
    (h : Representable moment) {r : IdempotencyRecord} (member : r ∈ db.idempotency) :
    r.row ∉ prune (db.idempotency.map IdempotencyRecord.row) (encodeTime moment) ↔
      read (db.idempotency.map IdempotencyRecord.row) r.key moment = some none := by
  rw [prune_rows timed h, read_rows timed, Db.find_idempotency member, Option.some.injEq,
    Option.filter_some]
  constructor
  · intro gone
    rw [if_neg]
    exact fun live => gone (List.mem_map_of_mem (List.mem_filter.mpr ⟨member, live⟩))
  · intro expired kept
    obtain ⟨other, among, same⟩ := List.mem_map.mp kept
    obtain ⟨among, live⟩ := List.mem_filter.mp among
    have keys : other.key = r.key := congrArg IdempotencyRow.key same
    rw [List.inj_on_of_nodup_map db.idempotency_keys among member keys] at live
    rw [if_pos live] at expired
    cases expired

end IdempotencyRow

end CaseSorter.Daemon
