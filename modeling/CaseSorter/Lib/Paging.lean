import Mathlib.Order.Lattice
import Mathlib.Order.Basic
import Mathlib.Data.List.Basic

/-! Reading a keyed list in pages. The rows stand in descending order of their keys, a page holds
the first of those below a cursor, and the key of its last row is the cursor of the next page; a
page that is not full is the last. The list may change between two pages. -/

namespace CaseSorter.Paging

variable {κ α : Type*}

def next (limit : Nat) (rows : List (κ × α)) : Option κ :=
  if rows.length = limit then rows.getLast?.map Prod.fst else none

theorem next_eq_some {limit : Nat} {rows : List (κ × α)} {cursor : κ}
    (h : next limit rows = some cursor) :
    rows.length = limit ∧ ∃ last, rows.getLast? = some last ∧ last.1 = cursor := by
  unfold next at h
  split_ifs at h with full
  exact ⟨full, Option.map_eq_some_iff.mp h⟩

theorem next_eq_none {limit : Nat} {rows : List (κ × α)} (positive : 0 < limit)
    (h : next limit rows = none) : rows.length ≠ limit := by
  intro full
  rw [next, if_pos full, Option.map_eq_none_iff, List.getLast?_eq_none_iff] at h
  rw [h] at full
  exact Nat.ne_of_lt positive full

variable [LinearOrder κ]

abbrev Descending (rows : List (κ × α)) : Prop := rows.Pairwise fun row later => later.1 < row.1

def below (before : Option κ) (rows : List (κ × α)) : List (κ × α) :=
  rows.filter fun row => before.all fun cursor => decide (row.1 < cursor)

def page (limit : Nat) (before : Option κ) (rows : List (κ × α)) : List (κ × α) :=
  (below before rows).take limit

theorem mem_below {before : Option κ} {rows : List (κ × α)} {row : κ × α} :
    row ∈ below before rows ↔ row ∈ rows ∧ ∀ cursor, before = some cursor →
      row.1 < cursor := by
  cases before with
  | none => simp [below]
  | some cursor => simp [below]

theorem below_none (rows : List (κ × α)) : below none rows = rows :=
  List.filter_eq_self.mpr fun _ _ => rfl

theorem below_filter (before : Option κ) (p : κ × α → Bool) (rows : List (κ × α)) :
    (below before rows).filter p = below before (rows.filter p) :=
  List.filter_comm _ _ _

theorem below_below {before : Option κ} {cursor : κ} (rows : List (κ × α))
    (lower : ∀ b, before = some b → cursor < b) :
    below (some cursor) (below before rows) = below (some cursor) rows := by
  unfold below
  rw [List.filter_filter]
  refine List.filter_congr fun row _ => ?_
  cases before with
  | none => simp
  | some b =>
    have inside : row.1 < cursor → row.1 < b := fun h => h.trans (lower b rfl)
    simpa using inside

theorem Descending.below {rows : List (κ × α)} (h : Descending rows) (before : Option κ) :
    Descending (below before rows) :=
  h.sublist List.filter_sublist

theorem take_append_below {rows : List (κ × α)} (ordered : Descending rows) {limit : Nat}
    {last : κ × α} (h : (rows.take limit).getLast? = some last) :
    rows = rows.take limit ++ below (some last.1) rows := by
  obtain ⟨front, front_last⟩ := List.getLast?_eq_some_iff.mp h
  have parts := List.take_append_drop limit rows
  have apart := ordered
  rw [← parts, front_last] at apart
  obtain ⟨head, -, lower⟩ := List.pairwise_append.mp apart
  obtain ⟨-, -, upper⟩ := List.pairwise_append.mp head
  have kept : CaseSorter.Paging.below (some last.1) (rows.drop limit) = rows.drop limit := by
    refine List.filter_eq_self.mpr fun row member => ?_
    simpa using lower last (by simp) row member
  have dropped : CaseSorter.Paging.below (some last.1) (rows.take limit) = [] := by
    refine List.filter_eq_nil_iff.mpr fun row member => ?_
    rw [front_last] at member
    rcases List.mem_append.mp member with higher | here
    · simpa using (upper row higher last (by simp)).le
    · simp [List.mem_singleton.mp here]
  have whole : CaseSorter.Paging.below (some last.1) rows = rows.drop limit := by
    conv_lhs => rw [← parts]
    rw [CaseSorter.Paging.below, List.filter_append]
    exact (congrArg₂ (· ++ ·) dropped kept).trans (List.nil_append _)
  rw [whole, parts]

theorem page_append_below {rows : List (κ × α)} (ordered : Descending rows) {limit : Nat}
    {before : Option κ} {last : κ × α} (h : (page limit before rows).getLast? = some last) :
    below before rows = page limit before rows ++ below (some last.1) rows := by
  have member : last ∈ below before rows :=
    List.mem_of_mem_take (List.mem_of_getLast? h)
  have split := take_append_below (ordered.below before) h
  rwa [below_below rows (mem_below.mp member).2] at split

theorem page_short {rows : List (κ × α)} {limit : Nat} {before : Option κ}
    (h : (page limit before rows).length ≠ limit) :
    page limit before rows = below before rows := by
  refine List.take_of_length_le (Nat.le_of_not_lt fun longer => h ?_)
  rw [page, List.length_take]
  omega

/-- What has been read, and where to read on. -/
structure Walk (κ α : Type*) where
  visited : List (κ × α)
  before : Option κ
  ended : Bool

namespace Walk

def new : Walk κ α := ⟨[], none, false⟩

def read (limit : Nat) (w : Walk κ α) (rows : List (κ × α)) : Walk κ α :=
  if w.ended then w
  else
    let seen := page limit w.before rows
    ⟨w.visited ++ seen, next limit seen, (next limit seen).isNone⟩

/-- The walk after its first pages; `rows n` is the list as the page `n` finds it. -/
def after (limit : Nat) (rows : Nat → List (κ × α)) : Nat → Walk κ α
  | 0 => new
  | n + 1 => (after limit rows n).read limit (rows n)

/-- The rows that stay in the list, `start`, are those whose keys meet `p`; a walk has read the
first of them, and the rest lies below its cursor. -/
structure Covers (limit : Nat) (p : κ → Bool) (start : List (κ × α)) (n : Nat)
    (w : Walk κ α) :
    Prop where
  descending : Descending w.visited
  above : ∀ row ∈ w.visited, ∀ cursor, w.before = some cursor → cursor ≤ row.1
  begins : w.ended = false → w.before = none → w.visited = []
  covered : w.ended = false →
    w.visited.filter (fun row => p row.1) ++ below w.before start = start
  complete : w.ended = true → w.visited.filter (fun row => p row.1) = start
  count : w.ended = false → w.visited.length = n * limit

section

variable {limit : Nat} {p : κ → Bool} {start rows : List (κ × α)} {n : Nat} {w : Walk κ α}

theorem covers_new : Covers limit p start 0 (new : Walk κ α) :=
  ⟨List.Pairwise.nil, fun _ member => (by cases member), fun _ _ => rfl,
    fun _ => below_none start, fun ended => (by cases ended), fun _ => (Nat.zero_mul limit).symm⟩

theorem Covers.descends (h : Covers limit p start n w) (running : w.ended = false)
    (ordered : Descending rows) : Descending (w.visited ++ page limit w.before rows) := by
  refine List.pairwise_append.mpr ⟨h.descending,
    (ordered.below w.before).sublist (List.take_sublist _ _), fun row seen later member => ?_⟩
  have inside := (mem_below.mp (List.mem_of_mem_take member)).2
  cases from_ : w.before with
  | none =>
    rw [h.begins running from_] at seen
    cases seen
  | some cursor => exact (inside cursor from_).trans_le (h.above row seen cursor from_)

theorem Covers.read (h : Covers limit p start n w) (positive : 0 < limit)
    (ordered : Descending rows) (kept : rows.filter (fun row => p row.1) = start) :
    Covers limit p start (n + 1) (w.read limit rows) := by
  unfold Walk.read
  cases running : w.ended with
  | true =>
    rw [if_pos rfl]
    exact ⟨h.descending, h.above, fun r => (by simp [running] at r),
      fun r => (by simp [running] at r), h.complete, fun r => (by simp [running] at r)⟩
  | false =>
    rw [if_neg Bool.false_ne_true]
    have descends := h.descends running ordered
    have covered := h.covered running
    have rest : below w.before start =
        (below w.before rows).filter fun row => p row.1 := by
      rw [below_filter, kept]
    dsimp only
    cases further : next limit (page limit w.before rows) with
    | none =>
      have whole := page_short (next_eq_none positive further)
      refine ⟨descends, fun _ _ _ c => (by cases c), fun r => (by cases r),
        fun r => (by cases r), fun _ => ?_, fun r => (by cases r)⟩
      rw [List.filter_append, whole, ← rest, covered]
    | some cursor =>
      obtain ⟨full, last, here, rfl⟩ := next_eq_some further
      refine ⟨descends, fun row member cursor same => ?_, fun _ c => (by cases c), fun _ => ?_,
        fun r => (by cases r), fun _ => ?_⟩
      · cases same
        obtain ⟨front, parts⟩ := List.getLast?_eq_some_iff.mp here
        rw [parts, ← List.append_assoc] at descends member
        rcases List.mem_append.mp member with higher | same
        · exact ((List.pairwise_append.mp descends).2.2 row higher last (by simp)).le
        · rw [List.mem_singleton.mp same]
      · rw [page_append_below ordered here, List.filter_append, below_filter, kept] at rest
        rw [List.filter_append, List.append_assoc, ← rest, covered]
      · rw [List.length_append, h.count running, full, Nat.succ_mul]

end

section

variable {limit : Nat} {rows : Nat → List (κ × α)} {p : κ → Bool} {start : List (κ × α)}

theorem covers_after (positive : 0 < limit) (ordered : ∀ n, Descending (rows n))
    (kept : ∀ n, (rows n).filter (fun row => p row.1) = start) (n : Nat) :
    Covers limit p start n (after limit rows n) := by
  induction n with
  | zero => exact covers_new
  | succ n ih => exact ih.read positive (ordered n) (kept n)

theorem mem_after {row : κ × α} {n : Nat} (h : row ∈ (after limit rows n).visited) :
    ∃ m, row ∈ rows m := by
  induction n with
  | zero => cases h
  | succ n ih =>
    unfold after Walk.read at h
    split_ifs at h
    · exact ih h
    · rcases List.mem_append.mp h with old | new
      · exact ih old
      · exact ⟨n, (mem_below.mp (List.mem_of_mem_take new)).1⟩

theorem keys_after {keys : List κ} (first : ∀ row ∈ rows 0, row.1 ∈ keys)
    (lower : ∀ n, ∀ row ∈ rows n, ∀ key ∈ keys, row.1 < key → row.1 ∈ keys)
    (n : Nat) :
    (∀ row ∈ (after limit rows n).visited, row.1 ∈ keys) ∧
      (∀ cursor, (after limit rows n).before = some cursor → cursor ∈ keys) ∧
      (n = 0 ∨ (after limit rows n).ended = true ∨ (after limit rows n).before ≠ none) := by
  induction n with
  | zero => exact ⟨fun _ member => (by cases member), fun _ c => (by cases c), .inl rfl⟩
  | succ n ih =>
    obtain ⟨visited, cursors, placed⟩ := ih
    unfold after Walk.read
    cases running : (after limit rows n).ended with
    | true =>
      rw [if_pos rfl]
      exact ⟨visited, cursors, .inr (.inl running)⟩
    | false =>
      rw [if_neg Bool.false_ne_true]
      have seen : ∀ row ∈ page limit (after limit rows n).before (rows n), row.1 ∈ keys := by
        intro row member
        obtain ⟨present, inside⟩ := mem_below.mp (List.mem_of_mem_take member)
        cases from_ : (after limit rows n).before with
        | some cursor =>
          exact lower n row present cursor (cursors cursor from_) (inside cursor from_)
        | none =>
          rcases placed with rfl | ended | going
          · exact first row present
          · rw [running] at ended
            cases ended
          · exact absurd from_ going
      dsimp only
      refine ⟨fun row member => ?_, fun cursor going => ?_, .inr ?_⟩
      · rcases List.mem_append.mp member with old | new
        · exact visited row old
        · exact seen row new
      · obtain ⟨-, last, here, rfl⟩ := next_eq_some going
        exact seen last (List.mem_of_getLast? here)
      · cases going : next limit (page limit (after limit rows n).before (rows n)) with
        | none => exact .inl rfl
        | some cursor => exact .inr nofun

theorem ended_after {keys : List κ} (first : ∀ row ∈ rows 0, row.1 ∈ keys)
    (lower : ∀ n, ∀ row ∈ rows n, ∀ key ∈ keys, row.1 < key → row.1 ∈ keys)
    (positive : 0 < limit) (ordered : ∀ n, Descending (rows n)) {n : Nat}
    (many : keys.length < n * limit) : (after limit rows n).ended = true := by
  by_contra running
  rw [Bool.not_eq_true] at running
  have covers : Covers limit (fun _ => false) [] n (after limit rows n) :=
    covers_after positive ordered (fun n => by simp) n
  have distinct : ((after limit rows n).visited.map Prod.fst).Nodup := by
    refine List.pairwise_map.mpr (covers.descending.imp fun lower same => ?_)
    exact absurd same.symm lower.ne
  have inside : (after limit rows n).visited.map Prod.fst ⊆ keys := by
    intro key member
    obtain ⟨row, seen, rfl⟩ := List.mem_map.mp member
    exact (keys_after first lower n).1 row seen
  have few := distinct.length_le_of_subset inside
  rw [List.length_map, covers.count running] at few
  omega

end

end Walk

end CaseSorter.Paging
