import Mathlib.Data.List.Basic
import Mathlib.Logic.Function.Iterate

/-! The remainder of a cyclic redundancy check, kept in a shift register of any width. A step is
linear over exclusive or, and it loses nothing where the polynomial is odd: two messages whose
difference fits into the register do not have one remainder. -/

namespace CaseSorter.ShiftRegister

variable {w : Nat} (poly : BitVec w)

def shift (s : BitVec w) : BitVec w := if s.msb then (s <<< 1) ^^^ poly else s <<< 1

def top (b : Bool) : BitVec w := if b then BitVec.twoPow w (w - 1) else 0#w

def feed (s : BitVec w) (b : Bool) : BitVec w := shift poly (s ^^^ top b)

def feedAll (s : BitVec w) (bits : List Bool) : BitVec w := bits.foldl (feed poly) s

def aligned : List Bool → BitVec w
  | [] => 0#w
  | b :: bits => top b ^^^ (aligned bits >>> 1)

theorem xor_cancel (a b p : BitVec w) : a ^^^ p ^^^ (b ^^^ p) = a ^^^ b := by
  rw [BitVec.xor_comm b p, ← BitVec.xor_assoc, BitVec.xor_assoc a, BitVec.xor_self,
    BitVec.xor_zero]

theorem shift_xor (a b : BitVec w) : shift poly (a ^^^ b) = shift poly a ^^^ shift poly b := by
  unfold shift
  rw [BitVec.msb_xor, BitVec.shiftLeft_xor_distrib]
  cases a.msb <;> cases b.msb
  · rfl
  · exact BitVec.xor_assoc ..
  · simp only [Bool.true_xor, Bool.not_false, if_true, Bool.false_eq_true, if_false]
    rw [BitVec.xor_assoc, BitVec.xor_comm (b <<< 1), ← BitVec.xor_assoc]
  · exact (xor_cancel ..).symm

@[simp] theorem shift_zero : shift poly 0#w = 0#w := by
  simp [shift]

theorem top_xor (a b : Bool) : (top (a ^^ b) : BitVec w) = top a ^^^ top b := by
  cases a <;> cases b <;> simp [top]

theorem feed_xor (s t : BitVec w) (a b : Bool) :
    feed poly (s ^^^ t) (a ^^ b) = feed poly s a ^^^ feed poly t b := by
  have swap : s ^^^ t ^^^ (top a ^^^ top b) = s ^^^ top a ^^^ (t ^^^ top b) := by
    rw [BitVec.xor_assoc, BitVec.xor_assoc, ← BitVec.xor_assoc t, BitVec.xor_comm t,
      BitVec.xor_assoc (top a)]
  rw [feed, top_xor, swap, shift_xor]
  rfl

theorem feedAll_xor (s t : BitVec w) {as bs : List Bool} (length : as.length = bs.length) :
    feedAll poly (s ^^^ t) (as.zipWith xor bs) = feedAll poly s as ^^^ feedAll poly t bs := by
  induction as generalizing bs s t with
  | nil =>
    cases bs with
    | nil => rfl
    | cons b bs => cases length
  | cons a as ih =>
    cases bs with
    | nil => cases length
    | cons b bs =>
      rw [List.zipWith_cons_cons, feedAll, List.foldl_cons, feed_xor]
      exact ih _ _ (Nat.succ.inj length)

theorem feedAll_append (s : BitVec w) (as bs : List Bool) :
    feedAll poly s (as ++ bs) = feedAll poly (feedAll poly s as) bs := List.foldl_append

theorem feedAll_replicate (s : BitVec w) (n : Nat) :
    feedAll poly s (List.replicate n false) = (shift poly)^[n] s := by
  induction n generalizing s with
  | zero => rfl
  | succ n ih =>
    have quiet : feed poly s false = shift poly s := by simp [feed, top]
    rw [List.replicate_succ, feedAll, List.foldl_cons, quiet, Function.iterate_succ_apply]
    exact ih _

theorem aligned_getMsbD (bits : List Bool) (i : Nat) :
    (aligned bits : BitVec w).getMsbD i = (decide (i < w) && bits.getD i false) := by
  have first (b : Bool) (i : Nat) :
      (top b : BitVec w).getMsbD i = (decide (i < w) && (b && decide (i = 0))) := by
    cases b with
    | false => simp [top]
    | true =>
      rw [top, if_pos rfl, BitVec.getMsbD_eq_getLsbD, BitVec.getLsbD_twoPow]
      by_cases inside : i < w
      · simp only [inside, decide_true, Bool.true_and]
        rw [decide_eq_true (by omega), Bool.true_and, decide_eq_decide]
        omega
      · simp [inside]
  induction bits generalizing i with
  | nil => simp [aligned]
  | cons b bits ih =>
    rw [aligned, BitVec.getMsbD_xor, first, BitVec.getMsbD_ushiftRight, ih]
    cases i with
    | zero => simp
    | succ i =>
      by_cases inside : i + 1 < w
      · simp [inside, Nat.lt_of_succ_lt inside]
      · simp [inside]

theorem feedAll_eq (s : BitVec w) {bits : List Bool} (short : bits.length ≤ w) :
    feedAll poly s bits = (shift poly)^[bits.length] (s ^^^ aligned bits) := by
  induction bits generalizing s with
  | nil => simp [feedAll, aligned]
  | cons b bits ih =>
    have plain : shift poly (aligned bits >>> 1) = aligned bits := by
      have clear : ((aligned bits : BitVec w) >>> 1).msb = false := by
        rw [BitVec.msb_eq_getMsbD_zero, BitVec.getMsbD_ushiftRight]
        simp
      rw [shift, clear, if_neg Bool.false_ne_true]
      refine BitVec.eq_of_getMsbD_eq fun i inside => ?_
      rw [BitVec.getMsbD_shiftLeft, BitVec.getMsbD_ushiftRight, Nat.add_sub_cancel]
      by_cases last : i + 1 < w
      · simp [last]
      · have past : bits.length ≤ i := by
          rw [List.length_cons] at short
          omega
        simp [aligned_getMsbD, last, List.getD_eq_getElem?_getD, past]
    rw [feedAll, List.foldl_cons]
    refine (ih _ (Nat.le_of_succ_le short)).trans ?_
    rw [List.length_cons, Function.iterate_succ_apply, aligned, ← BitVec.xor_assoc, shift_xor,
      plain]
    rfl

theorem shift_eq_zero (odd : poly.getLsbD 0 = true) {s : BitVec w} (h : shift poly s = 0#w) :
    s = 0#w := by
  unfold shift at h
  split_ifs at h with carry
  · -- the bit that the polynomial puts in at the bottom is the only one there
    have bottom := congrArg (fun v => v.getLsbD 0) h
    simp only [BitVec.getLsbD_xor, BitVec.getLsbD_shiftLeft, odd] at bottom
    simp at bottom
  · refine BitVec.eq_of_getMsbD_eq fun i inside => ?_
    rw [BitVec.getMsbD_zero]
    cases i with
    | zero =>
      rw [← BitVec.msb_eq_getMsbD_zero]
      exact Bool.eq_false_iff.mpr carry
    | succ i =>
      have next := congrArg (fun v => v.getMsbD i) h
      simpa using next

theorem iterate_shift_eq_zero (odd : poly.getLsbD 0 = true) (n : Nat) {s : BitVec w}
    (h : (shift poly)^[n] s = 0#w) : s = 0#w := by
  induction n generalizing s with
  | zero => exact h
  | succ n ih => exact shift_eq_zero poly odd (ih h)

theorem feedAll_burst (odd : poly.getLsbD 0 = true) (before after : Nat) {burst : List Bool}
    (short : burst.length ≤ w) (some_bit : true ∈ burst) :
    feedAll poly 0#w (List.replicate before false ++ burst ++ List.replicate after false) ≠
      0#w := by
  intro none'
  rw [feedAll_append, feedAll_append, feedAll_replicate, feedAll_replicate] at none'
  have still : (shift poly)^[before] 0#w = 0#w := Function.iterate_fixed (shift_zero poly) before
  rw [still] at none'
  have left := iterate_shift_eq_zero poly odd after none'
  rw [feedAll_eq poly 0#w short, BitVec.zero_xor] at left
  have all := iterate_shift_eq_zero poly odd burst.length left
  obtain ⟨i, inside, bit⟩ := List.mem_iff_getElem.mp some_bit
  have read := aligned_getMsbD (w := w) burst i
  rw [all, BitVec.getMsbD_zero, decide_eq_true (by omega), Bool.true_and,
    List.getD_eq_getElem?_getD, List.getElem?_eq_getElem inside, bit] at read
  cases read

theorem zipWith_xor_getElem? {as bs : List Bool} (length : as.length = bs.length) (i : Nat) :
    (as.zipWith xor bs)[i]? = some true ↔ as[i]? ≠ bs[i]? := by
  rw [List.getElem?_zipWith]
  rcases Nat.lt_or_ge i as.length with inside | outside
  · rw [List.getElem?_eq_getElem inside, List.getElem?_eq_getElem (length ▸ inside)]
    cases as[i] <;> cases bs[i] <;> decide
  · rw [List.getElem?_eq_none outside, List.getElem?_eq_none (length ▸ outside)]
    exact ⟨nofun, fun apart => absurd rfl apart⟩

theorem eq_replicate_of_no_true {ds : List Bool} (quiet : ∀ i : Nat, ds[i]? ≠ some true) :
    ds = List.replicate ds.length false := by
  rw [List.eq_replicate_iff]
  refine ⟨rfl, fun d member => ?_⟩
  obtain ⟨i, read⟩ := List.getElem?_of_mem member
  cases d with
  | false => rfl
  | true => exact absurd read (quiet i)

theorem feedAll_apart (odd : poly.getLsbD 0 = true) (s : BitVec w) {as bs : List Bool}
    (length : as.length = bs.length) (differ : as ≠ bs) (start : Nat)
    (within : ∀ i, as[i]? ≠ bs[i]? → start ≤ i ∧ i < start + w) :
    feedAll poly s as ≠ feedAll poly s bs := by
  intro same
  have difference := feedAll_xor poly s s length
  rw [same, BitVec.xor_self, BitVec.xor_self] at difference
  have read (i : Nat) : (as.zipWith xor bs)[i]? = some true → start ≤ i ∧ i < start + w :=
    fun h => within i ((zipWith_xor_getElem? length i).mp h)
  obtain ⟨i, here⟩ : ∃ i, as[i]? ≠ bs[i]? := by
    by_contra none'
    exact differ (List.ext_getElem? fun i => Classical.byContradiction fun h => none' ⟨i, h⟩)
  have bit := (zipWith_xor_getElem? length i).mpr here
  obtain ⟨first, last⟩ := within i here
  generalize as.zipWith xor bs = ds at difference read bit
  have before : ds.take start = List.replicate (ds.take start).length false :=
    eq_replicate_of_no_true fun j h => by
      rw [List.getElem?_take] at h
      split_ifs at h with early
      have := read j h
      omega
  have after : ds.drop (start + w) = List.replicate (ds.drop (start + w)).length false :=
    eq_replicate_of_no_true fun j h => by
      rw [List.getElem?_drop] at h
      have := read _ h
      omega
  have parts : ds = ds.take start ++ (ds.drop start).take w ++ ds.drop (start + w) := by
    rw [List.append_assoc, ← List.drop_drop, List.take_append_drop, List.take_append_drop]
  rw [parts, before, after] at difference
  refine feedAll_burst poly odd _ _ (List.length_take_le ..) ?_ difference
  refine List.mem_of_getElem? (i := i - start) ?_
  rw [List.getElem?_take_of_lt (by omega), List.getElem?_drop, Nat.add_sub_cancel' first, bit]

end CaseSorter.ShiftRegister
