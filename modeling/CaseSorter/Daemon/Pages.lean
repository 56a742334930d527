import Mathlib.Data.Nat.Basic
import Mathlib.Algebra.Group.Nat.Defs
import CaseSorter.Lib.Paging
import CaseSorter.Daemon.Api
import CaseSorter.Daemon.Commits

/-! The history of operations in pages. A page is read newest first from a cursor, the row
identity of the last row of the page before; where a page is not full the history has ended.
A client that follows the cursors meets a journal that goes on growing. -/

namespace CaseSorter.Daemon

open CaseSorter.Actions (bind_eq_ok)
open CaseSorter.Paging CaseSorter.Transactions

namespace Api

def defaultPageSize : Int := 25

def maxPageSize : Int := 100

/-- `query.get(name)` and of it the last. -/
def lastValue (query : Query) (name : String) : Option String :=
  ((query.lookup name).getD []).getLast?

def boundedInt (query : Query) (name : String) (default maximum : Int) : Except ApiRaised Int :=
  match lastValue query name with
  | none => .ok default
  | some text =>
    match intOf text with
    | none => validationFailed s!"{name} must be an integer"
    | some value =>
      if 1 ≤ value ∧ value ≤ maximum then .ok value
      else validationFailed s!"{name} must be between 1 and {maximum}"

def optionalCursor (query : Query) : Except ApiRaised (Option Int) :=
  match lastValue query "cursor" with
  | none => .ok none
  | some text =>
    match intOf text with
    | none => validationFailed "cursor is not a cursor issued by this daemon"
    | some cursor => .ok (some cursor)

def operationStates : List OperationState :=
  [.queued, .accepted, .running, .succeeded, .failed, .cancelled, .uncertain]

def operationActions : List OperationAction :=
  [.connect, .recover, .home, .sort, .feed, .stop, .configure]

def optionalEnum {α : Type} (query : Query) (name : String) (vocabulary : List α)
    (value : α → String) : Except ApiRaised (Option α) :=
  match lastValue query name with
  | none => .ok none
  | some text =>
    match vocabulary.find? (value · == text.toLower) with
    | none => validationFailed s!"{name} is not a known {name} value"
    | some found => .ok (some found)

structure PageRequest where
  limit : Int
  cursor : Option Int
  state : Option OperationState
  action : Option OperationAction
  deriving DecidableEq, Repr

def pageRequest (query : Query) : Except ApiRaised PageRequest := do
  let limit ← boundedInt query "limit" defaultPageSize maxPageSize
  let cursor ← optionalCursor query
  let state ← optionalEnum query "state" operationStates OperationState.value
  let action ← optionalEnum query "type" operationActions OperationAction.value
  return ⟨limit, cursor, state, action⟩

/-- The body of the answer, the encoding of its operations left out. -/
structure OperationPage where
  items : List OperationRecord
  nextCursor : Option String
  deriving DecidableEq, Repr

def operationPage (query : Query) (j : Journal) : Except ApiRaised OperationPage × Journal :=
  match pageRequest query with
  | .error e => (.error e, j)
  | .ok r =>
    -- No row identity is negative.
    match j.recentOperations r.limit.toNat (r.cursor.map Int.toNat) r.state r.action with
    | (.ok rows, j) =>
      (.ok ⟨rows.map Prod.snd,
        if (rows.length : Int) = r.limit then rows.getLast?.map fun row => toString row.1
        else none⟩, j)
    | (.error (.journalError message), j) =>
      (.error (.api "JOURNAL_UNAVAILABLE" s!"the operation journal is unavailable: {message}"), j)
    | (.error e, j) => (.error (.domain e), j)

end Api

/-- What has been read of the history, and the cursor of the page to come. -/
structure HistoryWalk where
  visited : List OperationRecord
  cursor : Option String
  ended : Bool
  deriving DecidableEq, Repr

namespace HistoryWalk

def new : HistoryWalk := ⟨[], none, false⟩

def query (first : Api.Query) (w : HistoryWalk) : Api.Query :=
  match w.cursor with
  | none => first
  | some cursor => ("cursor", [cursor]) :: first

def read (first : Api.Query) (w : HistoryWalk) (j : Journal) : HistoryWalk :=
  if w.ended then w
  else
    match (Api.operationPage (w.query first) j).1 with
    | .error _ => w
    | .ok page => ⟨w.visited ++ page.items, page.nextCursor, page.nextCursor.isNone⟩

/-- The walk after its first pages; `reads n` is the journal as the page `n` finds it. -/
def after (first : Api.Query) (reads : Nat → Db) : Nat → HistoryWalk
  | 0 => new
  | n + 1 => (after first reads n).read first (.open (reads n))

end HistoryWalk

namespace Db

def newestFirst (db : Db) : List (Nat × OperationRecord) :=
  ((db.operations.zipIdx 1).map Prod.swap).reverse

def selects (state : Option OperationState) (action : Option OperationAction)
    (operation : OperationRecord) : Bool :=
  state.all (operation.state = ·) && action.all (operation.action = ·)

theorem recentOperations_page (limit : Nat) (before : Option Nat) (state : Option OperationState)
    (action : Option OperationAction) (db : Db) :
    db.recentOperations limit before state action =
      page limit before (db.newestFirst.filter fun row => selects state action row.2) := by
  unfold recentOperations page below newestFirst
  rw [List.filter_reverse, List.filter_reverse, List.filter_map, List.filter_map,
    List.filter_filter, ← List.map_reverse, ← List.map_take]
  refine congrArg₂ List.map rfl (congrArg (List.take limit) (congrArg List.reverse ?_))
  refine List.filter_congr fun row _ => ?_
  simp [selects, Bool.and_assoc]

theorem mem_newestFirst {db : Db} {rowid : Nat} {operation : OperationRecord} :
    (rowid, operation) ∈ db.newestFirst ↔ 1 ≤ rowid ∧
      db.operations[rowid - 1]? = some operation := by
  unfold newestFirst
  rw [List.mem_reverse, List.mem_map]
  constructor
  · rintro ⟨row, member, same⟩
    obtain ⟨lowest, here⟩ := List.mem_zipIdx_iff_le_and_getElem?_sub.mp member
    cases same
    exact ⟨lowest, here⟩
  · rintro ⟨lowest, here⟩
    exact ⟨(operation, rowid), List.mem_zipIdx_iff_le_and_getElem?_sub.mpr
      ⟨lowest, here⟩, rfl⟩

theorem newestFirst_descending (db : Db) : Descending db.newestFirst := by
  unfold newestFirst
  rw [Descending, List.pairwise_reverse, List.pairwise_map, List.pairwise_iff_getElem]
  intro i j inI inJ less
  simp only [List.getElem_zipIdx, Prod.fst_swap]
  omega

theorem newestFirst_start {start db : Db} (grown : start.operations <+: db.operations) :
    db.newestFirst.filter (fun row => decide (row.1 ≤ start.operations.length)) =
      start.newestFirst := by
  obtain ⟨later, same⟩ := grown
  unfold newestFirst
  rw [← same, List.zipIdx_append, List.map_append, List.reverse_append, List.filter_append]
  have none_later : ((later.zipIdx (1 + start.operations.length)).map Prod.swap).reverse.filter
      (fun row => decide (row.1 ≤ start.operations.length)) = [] := by
    refine List.filter_eq_nil_iff.mpr fun row member => ?_
    obtain ⟨pair, placed, rfl⟩ := List.mem_map.mp (List.mem_reverse.mp member)
    have lowest := (List.mem_zipIdx_iff_le_and_getElem?_sub.mp placed).1
    simp only [Prod.fst_swap, decide_eq_true_eq]
    omega
  rw [none_later, List.nil_append, List.filter_eq_self]
  intro row member
  obtain ⟨pair, placed, rfl⟩ := List.mem_map.mp (List.mem_reverse.mp member)
  obtain ⟨lowest, here⟩ := List.mem_zipIdx_iff_le_and_getElem?_sub.mp placed
  obtain ⟨bound, -⟩ := List.getElem?_eq_some_iff.mp here
  simp only [Prod.fst_swap, decide_eq_true_eq]
  omega

end Db

theorem strip_digits {text : List Char} (digits : ∀ c ∈ text, c.isDigit = true) :
    Api.strip text = text := by
  have unspaced : ∀ c : Char, c.isDigit = true → isSpace c = false := by
    intro c digit
    rw [Char.isDigit_iff_toNat] at digit
    have lowest : '0'.toNat = 48 := rfl
    have highest : '9'.toNat = 57 := rfl
    simp only [isSpace, Bool.or_eq_false_iff, Bool.and_eq_false_iff, decide_eq_false_iff_not,
      beq_eq_false_iff_ne]
    omega
  have kept : ∀ chars : List Char, (∀ c ∈ chars, c.isDigit = true) →
      chars.dropWhile isSpace = chars := by
    intro chars all
    cases chars with
    | nil => rfl
    | cons c chars => simp [unspaced c (all c List.mem_cons_self)]
  unfold Api.strip
  rw [kept text digits, kept text.reverse (by simpa using digits), List.reverse_reverse]

theorem intOf_toString {n : Nat} (short : n < 2 ^ 63) :
    Api.intOf (toString n) = some (n : Int) := by
  have digits : ∀ c ∈ Nat.toDigits 10 n, c.isDigit = true := fun c member =>
    Nat.isDigit_of_mem_toDigits (by omega) (by omega) member
  have signless : ∀ sign : Char, sign.isDigit = false →
    (Nat.toDigits 10 n).head? ≠ some sign := by
    intro sign other first
    rw [digits sign (List.mem_of_mem_head? first)] at other
    cases other
  have text : (toString n).toList = Nat.toDigits 10 n := Nat.toList_repr
  have length : (Nat.toDigits 10 n).length ≤ 4300 := by
    have few : (Nat.toDigits 10 n).length ≤ 19 :=
      (Nat.length_toDigits_le_iff (by omega) (by omega)).mpr (short.trans (by decide))
    omega
  unfold Api.intOf
  simp only [text, strip_digits digits, signless '-' (by decide), signless '+' (by decide), or_self,
    if_false, List.splitOn_eq_singleton Nat.underscore_not_in_toDigits,
    List.filter_eq_self.mpr digits, Nat.ofDigitChars_ten_toDigits, length, List.all_cons,
    List.all_nil, List.all_eq_true.mpr digits, Nat.toDigits_ne_nil, ne_eq, not_false_eq_true,
    decide_true, Bool.and_true, if_true]

namespace Api

theorem pageRequest_eq_ok {query : Query} {r : PageRequest} (h : pageRequest query = .ok r) :
    boundedInt query "limit" defaultPageSize maxPageSize = .ok r.limit ∧
      optionalCursor query = .ok r.cursor ∧
      optionalEnum query "state" operationStates OperationState.value = .ok r.state ∧
      optionalEnum query "type" operationActions OperationAction.value = .ok r.action := by
  obtain ⟨limit, limited, h⟩ := bind_eq_ok h
  obtain ⟨cursor, placed, h⟩ := bind_eq_ok h
  obtain ⟨state, stated, h⟩ := bind_eq_ok h
  obtain ⟨action, typed, h⟩ := bind_eq_ok h
  cases h
  exact ⟨limited, placed, stated, typed⟩

theorem limit_bounds {query : Query} {r : PageRequest} (h : pageRequest query = .ok r) :
    1 ≤ r.limit ∧ r.limit ≤ 100 := by
  have limited := (pageRequest_eq_ok h).1
  unfold boundedInt at limited
  split at limited
  · rw [← Except.ok.inj limited]
    decide
  · split at limited
    · cases limited
    · split_ifs at limited with inside
      · cases limited
        exact inside
      · cases limited

theorem lastValue_cursor (query : Query) (cursor : String) :
    lastValue (("cursor", [cursor]) :: query) "cursor" = some cursor := by
  simp [lastValue]

theorem lastValue_other (query : Query) (cursor name : String) (other : name ≠ "cursor") :
    lastValue (("cursor", [cursor]) :: query) name = lastValue query name := by
  rw [lastValue, List.lookup_cons, beq_false_of_ne other, lastValue]

theorem pageRequest_cursor {query : Query} {r : PageRequest} {cursor : Nat}
    (h : pageRequest query = .ok r) (short : cursor < 2 ^ 63) :
    pageRequest (("cursor", [toString cursor]) :: query) =
      .ok { r with cursor := some (cursor : Int) } := by
  obtain ⟨limited, -, stated, typed⟩ := pageRequest_eq_ok h
  have placed : optionalCursor (("cursor", [toString cursor]) :: query) =
      .ok (some (cursor : Int)) := by
    simp only [optionalCursor, lastValue_cursor, intOf_toString short]
  unfold boundedInt at limited
  unfold optionalEnum at stated typed
  unfold pageRequest boundedInt optionalEnum
  rw [lastValue_other _ _ _ (by decide), lastValue_other _ _ _ (by decide),
    lastValue_other _ _ _ (by decide), limited, placed, stated, typed]
  rfl

theorem operationPage_open {query : Query} {r : PageRequest} (h : pageRequest query = .ok r)
    (db : Db) :
    (operationPage query (.open db)).1 =
      let rows := page r.limit.toNat (r.cursor.map Int.toNat)
        (db.newestFirst.filter fun row => Db.selects r.state r.action row.2)
      .ok ⟨rows.map Prod.snd, (next r.limit.toNat rows).map toString⟩ := by
  obtain ⟨least, -⟩ := limit_bounds h
  have served : (Journal.open db).recentOperations r.limit.toNat (r.cursor.map Int.toNat) r.state
      r.action = (.ok (db.recentOperations r.limit.toNat (r.cursor.map Int.toNat) r.state r.action),
        .open db) := by
    unfold Journal.recentOperations
    rw [if_neg (by omega)]
    rfl
  have full : ∀ length : Nat, (length : Int) = r.limit ↔ length = r.limit.toNat := by
    intro length
    omega
  unfold operationPage
  simp only [h, served, full, Db.recentOperations_page, next]
  split_ifs
  · rw [Option.map_map]
    rfl
  · rfl

end Api

/-- The client's walk is the walk over the rows, its cursors in text. -/
structure HistoryWalk.Follows (h : HistoryWalk) (w : Walk Nat OperationRecord) : Prop where
  visited : h.visited = w.visited.map Prod.snd
  cursor : h.cursor = w.before.map toString
  ended : h.ended = w.ended

namespace HistoryWalk

section

variable {query : Api.Query} {r : Api.PageRequest}

def rowsOf (r : Api.PageRequest) (db : Db) : List (Nat × OperationRecord) :=
  db.newestFirst.filter fun row => Db.selects r.state r.action row.2

theorem rowsOf_descending (r : Api.PageRequest) (db : Db) : Descending (rowsOf r db) :=
  db.newestFirst_descending.sublist List.filter_sublist

theorem Follows.read {h : HistoryWalk} {w : Walk Nat OperationRecord} (follows : h.Follows w)
    (parsed : Api.pageRequest query = .ok r) (first : r.cursor = none)
    (short : ∀ cursor, w.before = some cursor → cursor < 2 ^ 63) (db : Db) :
    (h.read query (.open db)).Follows (w.read r.limit.toNat (rowsOf r db)) := by
  obtain ⟨visited, cursor, ended⟩ := follows
  have request : Api.pageRequest (h.query query) =
      .ok { r with cursor := w.before.map fun c => (c : Int) } := by
    unfold HistoryWalk.query
    rw [cursor]
    cases before : w.before with
    | none => simp [parsed, ← first]
    | some c => exact Api.pageRequest_cursor parsed (short c before)
  have placed : (w.before.map fun c => (c : Int)).map Int.toNat = w.before := by
    cases w.before <;> rfl
  unfold HistoryWalk.read Walk.read
  rw [ended, Api.operationPage_open request]
  split_ifs with stop
  · exact ⟨visited, cursor, ended⟩
  · simp only [placed]
    refine ⟨?_, rfl, ?_⟩
    · rw [visited, List.map_append]
      rfl
    · rw [Option.isNone_map]
      rfl

theorem follows_after (parsed : Api.pageRequest query = .ok r) (first : r.cursor = none)
    {reads : Nat → Db}
    (short : ∀ n cursor,
      (Walk.after r.limit.toNat (fun k => rowsOf r (reads k)) n).before = some cursor →
        cursor < 2 ^ 63) (n : Nat) :
    (after query reads n).Follows
      (Walk.after r.limit.toNat (fun k => rowsOf r (reads k)) n) := by
  induction n with
  | zero => exact ⟨rfl, rfl, rfl⟩
  | succ n ih => exact ih.read parsed first (short n) (reads n)

theorem rowsOf_keys {db : Db} {row : Nat × OperationRecord} (h : row ∈ rowsOf r db) :
    1 ≤ row.1 ∧ row.1 ≤ db.operations.length := by
  obtain ⟨lowest, here⟩ := Db.mem_newestFirst.mp (List.mem_of_mem_filter h)
  obtain ⟨bound, -⟩ := List.getElem?_eq_some_iff.mp here
  omega

theorem rowsOf_start (r : Api.PageRequest) {start db : Db}
    (grown : start.operations <+: db.operations) :
    (rowsOf r db).filter (fun row => decide (row.1 ≤ start.operations.length)) =
      rowsOf r start := by
  unfold rowsOf
  rw [List.filter_comm, Db.newestFirst_start grown]

theorem rowsOf_known {start db : Db} (grown : start.operations <+: db.operations)
    {row : Nat × OperationRecord} (h : row ∈ rowsOf r db) :
    row.2.operationId ∈ start.operationIds ↔ row.1 ≤ start.operations.length := by
  obtain ⟨lowest, here⟩ := Db.mem_newestFirst.mp (List.mem_of_mem_filter h)
  obtain ⟨later, same⟩ := grown
  constructor
  · intro known
    obtain ⟨old, member, named⟩ := List.mem_map.mp known
    obtain ⟨i, inside, old_at⟩ := List.mem_iff_getElem.mp member
    have old_i : db.operations[i]? = some old := by
      rw [← same, List.getElem?_append_left inside, List.getElem?_eq_getElem inside, old_at]
    have bound_i : i < (db.operations.map (·.operationId)).length := by
      rw [List.length_map, ← same, List.length_append]
      omega
    have place : (db.operations.map (·.operationId))[i]? =
        (db.operations.map (·.operationId))[row.1 - 1]? := by
      rw [List.getElem?_map, List.getElem?_map, old_i, here, Option.map_some, Option.map_some,
        named]
    have := (List.getElem?_inj bound_i db.operation_ids).mp place
    omega
  · intro early
    have inside : row.1 - 1 < start.operations.length := by omega
    rw [← same, List.getElem?_append_left inside] at here
    exact List.mem_map.mpr ⟨row.2, List.mem_of_getElem? here, rfl⟩

theorem rowsOf_map_snd (r : Api.PageRequest) (db : Db) :
    (rowsOf r db).map Prod.snd =
      (db.operations.filter (Db.selects r.state r.action)).reverse := by
  unfold rowsOf Db.newestFirst
  rw [List.filter_reverse, List.map_reverse, List.filter_map, List.map_map]
  have bare := congrArg (List.filter (Db.selects r.state r.action))
    (List.zipIdx_map_fst 1 db.operations)
  rw [List.filter_map] at bare
  rw [← bare]
  rfl

end

end HistoryWalk

/-- A write that leaves the operations of `start` as they are: it may admit and move others. -/
def Spares (start : Db) : JournalWrite → Prop
  | .transition t => t.operationId ∉ start.operationIds
  | .admission .. | .configuration _ | .prune _ => True

theorem Spares.changes {start db db' : Db} {w : JournalWrite} (spares : Spares start w)
    (changed : w.Changes db db') (grown : start.operations <+: db.operations) :
    start.operations <+: db'.operations := by
  cases w with
  | admission operation reason key =>
    rw [(changes_admission changed).2.1]
    exact grown.trans (List.prefix_append _ _)
  | configuration snapshot => rwa [(changes_configuration changed).1]
  | prune moment => rwa [(changes_prune changed).1]
  | transition t =>
    obtain ⟨current, forward, trusted, found, -, moved, -⟩ := changes_transition changed
    obtain ⟨later, same⟩ := grown
    have kept : Db.replaceOperation (t.move current forward trusted) start.operations =
        start.operations := by
      refine (List.map_congr_left (g := id) fun row member => if_neg fun moving => spares ?_).trans
        (List.map_id _)
      have named : row.operationId = t.operationId :=
        moving.trans (Db.readOperation_operationId found : current.operationId = t.operationId)
      exact List.mem_map.mpr ⟨row, member, named⟩
    rw [moved, ← same, Db.replaceOperation, List.map_append, ← Db.replaceOperation, kept]
    exact List.prefix_append _ _

theorem Spares.commits {start db db' : Db} (h : Commits (fun _ w => Spares start w) db db')
    (grown : start.operations <+: db.operations) : start.operations <+: db'.operations := by
  induction h with
  | refl => exact grown
  | tail _ last ih =>
    obtain ⟨w, spares, changed⟩ := last
    exact spares.changes changed ih

/-- Whatever is admitted between the pages, a client that follows the cursors comes to an end, and
of the operations that were there at the start it has then read those of its filter, newest first.
A row identity has 64 bits. -/
theorem history_pages (start : Db) (reads : Nat → Db) (query : Api.Query) (r : Api.PageRequest)
    (parsed : Api.pageRequest query = .ok r) (first : r.cursor = none)
    (before : Commits (fun _ w => Spares start w) start (reads 0))
    (between : ∀ n, Commits (fun _ w => Spares start w) (reads n) (reads (n + 1)))
    (rowids : (reads 0).operations.length < 2 ^ 63) :
    ∃ pages, pages ≤ (reads 0).operations.length / r.limit.toNat + 1 ∧
      (HistoryWalk.after query reads pages).ended = true ∧
      (HistoryWalk.after query reads pages).visited.filter
          (fun operation => operation.operationId ∈ start.operationIds) =
        (start.operations.filter (Db.selects r.state r.action)).reverse := by
  have grown : ∀ n, start.operations <+: (reads n).operations := by
    intro n
    induction n with
    | zero => exact Spares.commits before (List.prefix_refl _)
    | succ n ih => exact Spares.commits (between n) ih
  obtain ⟨least, -⟩ := Api.limit_bounds parsed
  have positive : 0 < r.limit.toNat := by omega
  let rows := fun n => HistoryWalk.rowsOf r (reads n)
  let count := (reads 0).operations.length
  have ordered : ∀ n, Descending (rows n) := fun n => HistoryWalk.rowsOf_descending r (reads n)
  have firstKeys : ∀ row ∈ rows 0, row.1 ∈ List.range' 1 count := by
    intro row member
    have := HistoryWalk.rowsOf_keys member
    rw [List.mem_range'_1]
    omega
  have lowerKeys : ∀ n, ∀ row ∈ rows n, ∀ key ∈ List.range' 1 count, row.1 < key →
      row.1 ∈ List.range' 1 count := by
    intro n row member key known less
    have := HistoryWalk.rowsOf_keys member
    rw [List.mem_range'_1] at known ⊢
    omega
  have keys := @Walk.keys_after _ _ _ r.limit.toNat rows _ firstKeys lowerKeys
  have short : ∀ n cursor, (Walk.after r.limit.toNat rows n).before = some cursor →
      cursor < 2 ^ 63 := by
    intro n cursor placed
    have known := List.mem_range'_1.mp ((keys n).2.1 cursor placed)
    omega
  have follows := HistoryWalk.follows_after parsed first short (count / r.limit.toNat + 1)
  have ended : (Walk.after r.limit.toNat rows (count / r.limit.toNat + 1)).ended = true :=
    Walk.ended_after firstKeys lowerKeys positive ordered (by
      rw [List.length_range']
      exact Nat.lt_mul_of_div_lt (Nat.lt_succ_self _) positive)
  have covers : Walk.Covers r.limit.toNat (fun rowid => decide (rowid ≤ start.operations.length))
      (HistoryWalk.rowsOf r start) _ _ :=
    Walk.covers_after positive ordered (fun n => HistoryWalk.rowsOf_start r (grown n))
      (count / r.limit.toNat + 1)
  refine ⟨count / r.limit.toNat + 1, Nat.le_refl _, follows.ended.trans ended, ?_⟩
  rw [follows.visited, List.filter_map, ← HistoryWalk.rowsOf_map_snd, ← covers.complete ended]
  refine congrArg (List.map Prod.snd) (List.filter_congr fun row member => ?_)
  obtain ⟨n, seen⟩ := Walk.mem_after member
  exact decide_eq_decide.mpr (HistoryWalk.rowsOf_known (grown n) seen)

def pagedSort (operationId : OperationId) : OperationRecord :=
  ⟨operationId, .sort, "", .queued, 1, 0, 1, ⟨"", ""⟩, false, none, none, none, none,
    Nat.one_pos, Nat.one_pos, queued_untrusted⟩

def twoSorts : Db :=
  ⟨[pagedSort 0, pagedSort 1], [], [], [], by decide, List.nodup_nil, by decide⟩

def threeSorts : Db :=
  ⟨[pagedSort 0, pagedSort 1, pagedSort 2], [⟨1, 2, none, .queued, 1, 0, "admitted"⟩], [], [],
    by decide, List.nodup_nil, by decide⟩

theorem admitted_threeSorts :
    Commits (fun _ w => Spares twoSorts w) twoSorts threeSorts :=
  .single ⟨.admission (pagedSort 2) "admitted" none, trivial, _, (), rfl, rfl⟩

theorem history_pages_threeSorts :
    ∃ pages, pages ≤ 2 / 1 + 1 ∧
      (HistoryWalk.after [("limit", ["1"])]
        (fun n => if n = 0 then twoSorts else threeSorts) pages).ended = true ∧
      (HistoryWalk.after [("limit", ["1"])]
          (fun n => if n = 0 then twoSorts else threeSorts) pages).visited.filter
          (fun operation => operation.operationId ∈ twoSorts.operationIds) =
        (twoSorts.operations.filter (Db.selects none none)).reverse :=
  history_pages twoSorts (fun n => if n = 0 then twoSorts else threeSorts) [("limit", ["1"])]
    ⟨1, none, none, none⟩ (by decide) rfl .refl
    (fun n => by cases n with
      | zero => exact admitted_threeSorts
      | succ n => exact .refl)
    (by decide)

end CaseSorter.Daemon
