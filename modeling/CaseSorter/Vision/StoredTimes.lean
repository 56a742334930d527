import CaseSorter.Daemon.StoredTimes
import CaseSorter.Vision.Labels

/-! The query for an unmatched suggestion over the texts that its rows hold: whichever row the
engine returns is of a newest suggestion. -/

namespace CaseSorter.Vision

open CaseSorter.IsoTime CaseSorter.Daemon

structure SuggestionRow where
  suggestionId : Nat
  suggestedAt : List Char
  deriving DecidableEq

def suggestionRow (suggestion : Nat × Nat) : SuggestionRow :=
  ⟨suggestion.1, encodeTime suggestion.2⟩

def unmatchedRows (rows : List SuggestionRow) (matched : List Nat) (moment : List Char) :
    List SuggestionRow :=
  rows.filter fun row => row.suggestionId ∉ matched ∧ row.suggestedAt ≤ moment

/-- What `ORDER BY suggested_at DESC LIMIT 1` may return: of equal texts any. -/
def MayReturn (rows : List SuggestionRow) : Option SuggestionRow → Prop
  | none => rows = []
  | some row => row ∈ rows ∧ ∀ other ∈ rows, other.suggestedAt ≤ row.suggestedAt

def Eligible (suggestions : List (Nat × Nat)) (matched : List Nat) (moment : Nat)
    (suggestion : Nat × Nat) : Prop :=
  suggestion ∈ suggestions ∧ suggestion.1 ∉ matched ∧ suggestion.2 ≤ moment

/-- The row of an eligible suggestion of a greatest moment; none where none is eligible. -/
def Newest (suggestions : List (Nat × Nat)) (matched : List Nat) (moment : Nat) :
    Option SuggestionRow → Prop
  | none => ∀ s, ¬Eligible suggestions matched moment s
  | some row => ∃ s, Eligible suggestions matched moment s ∧ row = suggestionRow s ∧
      ∀ other, Eligible suggestions matched moment other → other.2 ≤ s.2

theorem mem_unmatchedRows {suggestions : List (Nat × Nat)} {matched : List Nat} {moment : Nat}
    (timed : ∀ s ∈ suggestions, Representable s.2) (h : Representable moment)
    {row : SuggestionRow} :
    row ∈ unmatchedRows (suggestions.map suggestionRow) matched (encodeTime moment) ↔
      ∃ s, Eligible suggestions matched moment s ∧ row = suggestionRow s := by
  rw [unmatchedRows, List.mem_filter, decide_eq_true_eq, List.mem_map]
  constructor
  · rintro ⟨⟨s, member, rfl⟩, unmatched, before⟩
    exact ⟨s, ⟨member, unmatched, (encodeTime_le (timed s member) h).mp before⟩, rfl⟩
  · rintro ⟨s, ⟨member, unmatched, before⟩, rfl⟩
    exact ⟨⟨s, member, rfl⟩, unmatched, (encodeTime_le (timed s member) h).mpr before⟩

theorem mayReturn_newest {suggestions : List (Nat × Nat)} {matched : List Nat} {moment : Nat}
    (timed : ∀ s ∈ suggestions, Representable s.2) (h : Representable moment)
    {answer : Option SuggestionRow}
    (returned : MayReturn (unmatchedRows (suggestions.map suggestionRow) matched
      (encodeTime moment)) answer) : Newest suggestions matched moment answer := by
  cases answer with
  | none =>
    intro s eligible
    have member := (mem_unmatchedRows timed h).mpr ⟨s, eligible, rfl⟩
    rw [show unmatchedRows _ _ _ = [] from returned] at member
    cases member
  | some row =>
    obtain ⟨s, eligible, rfl⟩ := (mem_unmatchedRows timed h).mp returned.1
    refine ⟨s, eligible, rfl, fun other another => ?_⟩
    have below := returned.2 _ ((mem_unmatchedRows timed h).mpr ⟨other, another, rfl⟩)
    exact (encodeTime_le (timed other another.1) (timed s eligible.1)).mp below

theorem argmax_mayReturn {suggestions : List (Nat × Nat)} {matched : List Nat} {moment : Nat}
    (timed : ∀ s ∈ suggestions, Representable s.2) (h : Representable moment) :
    MayReturn (unmatchedRows (suggestions.map suggestionRow) matched (encodeTime moment))
      (((suggestions.filter fun s => s.1 ∉ matched ∧ s.2 ≤ moment).argmax Prod.snd).map
        suggestionRow) := by
  have kept {s : Nat × Nat} :
      (s ∈ suggestions.filter fun s => s.1 ∉ matched ∧ s.2 ≤ moment) ↔
        Eligible suggestions matched moment s := by
    rw [List.mem_filter, decide_eq_true_eq, Eligible]
  cases newest :
    (suggestions.filter fun s => s.1 ∉ matched ∧ s.2 ≤ moment).argmax Prod.snd with
  | none =>
    refine List.eq_nil_iff_forall_not_mem.mpr fun row member => ?_
    obtain ⟨s, eligible, -⟩ := (mem_unmatchedRows timed h).mp member
    have among := kept.mpr eligible
    rw [List.argmax_eq_none.mp newest] at among
    cases among
  | some s =>
    have eligible := kept.mp (List.argmax_mem newest)
    refine ⟨(mem_unmatchedRows timed h).mpr ⟨s, eligible, rfl⟩, fun row member => ?_⟩
    obtain ⟨other, another, rfl⟩ := (mem_unmatchedRows timed h).mp member
    exact (encodeTime_le (timed other another.1) (timed s eligible.1)).mpr
      (List.le_of_mem_argmax (kept.mpr another) newest)

/-- Texts of the calendar compare as its instants do and are read back; hence pruning deletes what
is read as expired, and the unmatched suggestion is a newest one. -/
theorem stored_times_sort :
    (∀ t ∈ calendar, ∀ u ∈ calendar,
      (isoformat t < isoformat u ↔ t < u) ∧ (isoformat t = isoformat u ↔ t = u)) ∧
    (∀ t ∈ calendar, fromisoformat (isoformat t) = some t) ∧
    (∀ (db : Db) moment, Representable moment → (∀ r ∈ db.idempotency, r.Timed) →
      ∀ r ∈ db.idempotency,
        r.row ∉ IdempotencyRow.prune (db.idempotency.map IdempotencyRecord.row)
            (encodeTime moment) ↔
          IdempotencyRow.read (db.idempotency.map IdempotencyRecord.row) r.key moment =
            some none) ∧
    ∀ (suggestions : List (Nat × Nat)) (matched : List Nat) (moment : Nat),
      (∀ s ∈ suggestions, Representable s.2) → Representable moment →
      ∀ answer, MayReturn (unmatchedRows (suggestions.map suggestionRow) matched
          (encodeTime moment)) answer → Newest suggestions matched moment answer :=
  ⟨fun _ ht _ hu =>
    ⟨isoformat_strictMono.lt_iff_lt ht hu, isoformat_strictMono.eq_iff_eq ht hu⟩,
    fun _ => fromisoformat_isoformat,
    fun db _ h timed _ member => IdempotencyRow.pruned_iff db timed h member,
    fun _ _ _ timed h _ => mayReturn_newest timed h⟩

end CaseSorter.Vision
