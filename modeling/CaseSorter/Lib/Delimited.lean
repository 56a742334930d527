import Mathlib.Data.List.Basic

/-! Texts divided by a doubled mark. A text is cut at the first two marks in a row; what has been
cut off stays so however the text goes on, so a text may be divided as it arrives. -/

namespace CaseSorter.Delimited

variable {α : Type*} [DecidableEq α] (mark : α)

def cut : List α → Option (List α × List α)
  | a :: b :: rest =>
    if a = mark ∧ b = mark then some ([], rest)
    else (cut (b :: rest)).map fun parts => (a :: parts.1, parts.2)
  | _ => none

variable {mark}

theorem cut_eq_some {text piece rest : List α} (h : cut mark text = some (piece, rest)) :
    text = piece ++ mark :: mark :: rest ∧ cut mark (piece ++ [mark]) = none := by
  induction text generalizing piece with
  | nil => cases h
  | cons a text ih =>
    cases text with
    | nil => cases h
    | cons b text =>
      unfold cut at h
      split_ifs at h with marks
      · cases h
        exact ⟨by rw [marks.1, marks.2]; rfl, rfl⟩
      · obtain ⟨⟨piece', rest'⟩, found, same⟩ := Option.map_eq_some_iff.mp h
        cases same
        obtain ⟨parts, uncut⟩ := ih found
        refine ⟨by rw [parts]; rfl, ?_⟩
        cases piece' with
        | nil =>
          have second : b = mark := (List.cons.inj parts).1
          have first : a ≠ mark := fun same => marks ⟨same, second⟩
          simp [cut, first]
        | cons c piece' =>
          have second : b = c := (List.cons.inj parts).1
          simp only [List.cons_append] at uncut ⊢
          unfold cut
          rw [if_neg (second ▸ marks), uncut]
          rfl

theorem cut_append {text piece rest : List α} (h : cut mark text = some (piece, rest))
    (more : List α) : cut mark (text ++ more) = some (piece, rest ++ more) := by
  induction text generalizing piece with
  | nil => cases h
  | cons a text ih =>
    cases text with
    | nil => cases h
    | cons b text =>
      unfold cut at h
      simp only [List.cons_append]
      unfold cut
      split_ifs at h ⊢ with marks
      · cases h
        rfl
      · obtain ⟨⟨piece', rest'⟩, found, same⟩ := Option.map_eq_some_iff.mp h
        cases same
        have whole := ih found
        rw [List.cons_append] at whole
        rw [whole]
        rfl

theorem cut_reaches {text more piece rest : List α} (uncut : cut mark text = none)
    (h : cut mark (text ++ more) = some (piece, rest)) : text.length ≤ piece.length + 1 := by
  induction text generalizing piece with
  | nil => exact Nat.zero_le _
  | cons a text ih =>
    cases text with
    | nil => exact Nat.succ_le_succ (Nat.zero_le _)
    | cons b text =>
      unfold cut at uncut
      simp only [List.cons_append] at h
      unfold cut at h
      split_ifs at uncut h with marks
      rw [Option.map_eq_none_iff] at uncut
      obtain ⟨⟨piece', rest'⟩, found, same⟩ := Option.map_eq_some_iff.mp h
      cases same
      exact Nat.succ_le_succ (ih uncut found)

theorem cut_length {text piece rest : List α} (h : cut mark text = some (piece, rest)) :
    rest.length < text.length := by
  rw [(cut_eq_some h).1]
  simp only [List.length_append, List.length_cons]
  omega

theorem cut_marked {piece : List α} (uncut : cut mark (piece ++ [mark]) = none) (rest : List α) :
    cut mark (piece ++ mark :: mark :: rest) = some (piece, rest) := by
  induction piece with
  | nil => simp [cut]
  | cons a piece ih =>
    cases piece with
    | nil =>
      have first : a ≠ mark := by simpa [cut] using uncut
      simp [cut, first]
    | cons b piece =>
      simp only [List.cons_append] at uncut ih ⊢
      unfold cut at uncut ⊢
      split_ifs at uncut ⊢ with marks
      rw [Option.map_eq_none_iff] at uncut
      rw [ih uncut]
      rfl

theorem uncut_of_unmarked {piece : List α} (unmarked : mark ∉ piece) :
    cut mark (piece ++ [mark]) = none := by
  induction piece with
  | nil => rfl
  | cons a piece ih =>
    have first : a ≠ mark := fun same => unmarked (by simp [same])
    have others := ih fun member => unmarked (List.mem_cons_of_mem _ member)
    cases piece with
    | nil => simp [cut, first]
    | cons b piece =>
      simp only [List.cons_append] at others ⊢
      unfold cut
      rw [if_neg (fun both => first both.1), others]
      rfl

variable (mark)

/-- Everything that can be cut off, and what is left. -/
def pieces (text : List α) : List (List α) × List α :=
  match found : cut mark text with
  | none => ([], text)
  | some (piece, rest) =>
    have : rest.length < text.length := cut_length found
    (piece :: (pieces rest).1, (pieces rest).2)
termination_by text.length

variable {mark}

theorem pieces_uncut {text : List α} (uncut : cut mark text = none) :
    pieces mark text = ([], text) := by
  unfold pieces
  split
  · rfl
  · rename_i found
    rw [uncut] at found
    cases found

theorem pieces_cut {text piece rest : List α} (found : cut mark text = some (piece, rest)) :
    pieces mark text = (piece :: (pieces mark rest).1, (pieces mark rest).2) := by
  rw [pieces]
  split
  · rename_i uncut
    rw [uncut] at found
    cases found
  · rename_i found'
    cases found.symm.trans found'
    rfl

theorem pieces_left (mark : α) (text : List α) : cut mark (pieces mark text).2 = none := by
  induction text using pieces.induct mark with
  | case1 text uncut => rwa [pieces_uncut uncut]
  | case2 text piece rest found shorter ih =>
    rw [pieces_cut found]
    exact ih

theorem pieces_append (mark : α) (text more : List α) :
    pieces mark (text ++ more) =
      ((pieces mark text).1 ++ (pieces mark ((pieces mark text).2 ++ more)).1,
        (pieces mark ((pieces mark text).2 ++ more)).2) := by
  induction text using pieces.induct mark with
  | case1 text uncut =>
    rw [pieces_uncut uncut]
    rfl
  | case2 text piece rest found shorter ih =>
    rw [pieces_cut found, pieces_cut (cut_append found more), ih]
    rfl

theorem mem_pieces {text piece : List α} (h : piece ∈ (pieces mark text).1) :
    ∃ front rest, text = front ++ (piece ++ mark :: mark :: rest) ∧
      (pieces mark front).2 = [] ∧ cut mark (piece ++ [mark]) = none ∧
        (pieces mark front).1.length < (pieces mark text).1.length := by
  induction text using pieces.induct mark with
  | case1 text uncut =>
    rw [pieces_uncut uncut] at h
    cases h
  | case2 text first rest found shorter ih =>
    obtain ⟨parts, uncut⟩ := cut_eq_some found
    rw [pieces_cut found] at h ⊢
    rcases List.mem_cons.mp h with rfl | member
    · refine ⟨[], rest, parts, ?_, uncut, ?_⟩
      · rw [pieces_uncut rfl]
      · rw [pieces_uncut rfl]
        exact Nat.succ_pos _
    · obtain ⟨front, after, place, cleared, open_, fewer⟩ := ih member
      have begun := cut_marked uncut front
      refine ⟨first ++ mark :: mark :: front, after, ?_, ?_, open_, ?_⟩
      · rw [parts, place]
        simp
      · rw [pieces_cut begun]
        exact cleared
      · rw [pieces_cut begun]
        exact Nat.succ_lt_succ fewer

end CaseSorter.Delimited
