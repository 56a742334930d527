import CaseSorter.Lib.Delimited

/-! The `frames` generator of events.ts. A chunk is appended to the buffer, the buffer is divided
at its blank lines, and only what is left of it is measured: a frame is found too long only when a
chunk ends within it. -/

namespace CaseSorter.Web

open CaseSorter.Delimited

def maximumEventBytes : Nat := 64 * 1024

/-- A byte of an ASCII stream, which `toString('utf8')` makes one character of a string. -/
abbrev AsciiByte := Fin 128

def newline : AsciiByte := 10

inductive FramesEnd
  | finished
  | malformed (detail : String)
  deriving DecidableEq, Repr

def tooLong : FramesEnd := .malformed s!"an event exceeded {maximumEventBytes} bytes"

/-- The frames yielded for the chunks of a response that is not aborted, and the end. -/
def frames (buffer : List AsciiByte) : List (List AsciiByte) → List (List AsciiByte) × FramesEnd
  | [] => ([], .finished)
  | chunk :: chunks =>
    let (found, buffer) := pieces newline (buffer ++ chunk)
    if maximumEventBytes < buffer.length then (found, tooLong)
    else
      let (more, ending) := frames buffer chunks
      (found ++ more, ending)

def framesOf (text : List AsciiByte) : List (List AsciiByte) × FramesEnd :=
  ((pieces newline text).1,
    if maximumEventBytes < (pieces newline text).2.length then tooLong else .finished)

theorem frames_whole (text : List AsciiByte) : frames [] [text] = framesOf text := by
  simp only [frames, framesOf, List.nil_append]
  split_ifs
  · rfl
  · simp

theorem frames_short {buffer : List AsciiByte} (uncut : cut newline buffer = none)
    (room : buffer.length ≤ maximumEventBytes) (chunks : List (List AsciiByte))
    (short : ∀ frame ∈ (pieces newline (buffer ++ chunks.flatten)).1,
      frame.length < maximumEventBytes) :
    frames buffer chunks = framesOf (buffer ++ chunks.flatten) := by
  induction chunks generalizing buffer with
  | nil =>
    rw [List.flatten_nil, List.append_nil, framesOf, pieces_uncut uncut,
      if_neg (Nat.not_lt.mpr room)]
    rfl
  | cons chunk chunks ih =>
    have whole := pieces_append newline (buffer ++ chunk) chunks.flatten
    have left := pieces_left newline (buffer ++ chunk)
    rw [List.flatten_cons, ← List.append_assoc] at short ⊢
    rw [framesOf, whole]
    rw [whole] at short
    simp only [frames]
    generalize pieces newline (buffer ++ chunk) = divided at *
    obtain ⟨found, buffer'⟩ := divided
    dsimp only at *
    by_cases long : maximumEventBytes < buffer'.length
    · -- no frame can begin with the buffer, so there is none to come and it only grows
      have last : cut newline (buffer' ++ chunks.flatten) = none := by
        cases found : cut newline (buffer' ++ chunks.flatten) with
        | none => rfl
        | some parts =>
          have reaches := cut_reaches left found
          have fits := short parts.1 (by rw [pieces_cut found]; simp)
          omega
      have grown : maximumEventBytes < (buffer' ++ chunks.flatten).length := by
        rw [List.length_append]
        omega
      rw [if_pos long, pieces_uncut last, if_pos grown, List.append_nil]
    · have rest := ih left (Nat.le_of_not_lt long) fun frame member =>
        short frame (List.mem_append_right _ member)
      rw [if_neg long, rest]
      rfl

theorem frames_between {text frame : List AsciiByte} (member : frame ∈ (pieces newline text).1)
    (long : maximumEventBytes ≤ frame.length) :
    ∃ chunk rest, chunk ++ rest = text ∧ ∀ more,
      (frames [] (chunk :: more)).1.length < (pieces newline text).1.length := by
  obtain ⟨front, rest, place, cleared, uncut, fewer⟩ := mem_pieces member
  have divided := pieces_append newline front (frame ++ [newline])
  rw [cleared, List.nil_append, pieces_uncut uncut, List.append_nil] at divided
  refine ⟨front ++ (frame ++ [newline]), newline :: rest, by rw [place]; simp, fun more => ?_⟩
  have tooLong : maximumEventBytes < (frame ++ [newline]).length := by
    rw [List.length_append, List.length_singleton]
    omega
  simp only [frames, List.nil_append, divided]
  rw [if_pos tooLong]
  exact fewer

/-- Two ways of cutting a text into chunks give the same frames and the same end, whatever they
are, exactly where every frame of the text is shorter than the maximum. -/
theorem frames_chunking (text : List AsciiByte) :
    (∀ chunks others : List (List AsciiByte), chunks.flatten = text → others.flatten = text →
        frames [] chunks = frames [] others) ↔
      ∀ frame ∈ (pieces newline text).1, frame.length < maximumEventBytes := by
  constructor
  · intro same frame member
    by_contra long
    obtain ⟨chunk, rest, whole, fewer⟩ := frames_between member (Nat.le_of_not_lt long)
    have equal := same [chunk, rest] [text] (by simpa using whole) (by simp)
    rw [frames_whole] at equal
    have lengths := congrArg (fun outcome => outcome.1.length) equal
    exact absurd lengths (Nat.ne_of_lt (fewer [rest]))
  · intro short chunks others whole whole'
    have all : ∀ chunks : List (List AsciiByte), chunks.flatten = text →
        frames [] chunks = framesOf text := by
      rintro chunks rfl
      exact frames_short rfl (Nat.zero_le _) chunks short
    rw [all chunks whole, all others whole']

theorem frames_apart {event : List AsciiByte} (unmarked : newline ∉ event)
    (long : maximumEventBytes ≤ event.length) :
    frames [] [event ++ [newline, newline]] = ([event], .finished) ∧
      frames [] [event ++ [newline], [newline]] = ([], tooLong) := by
  have uncut := uncut_of_unmarked unmarked
  have ends : pieces newline (event ++ [newline, newline]) = ([event], []) := by
    rw [pieces_cut (cut_marked uncut []), pieces_uncut rfl]
  have tooLong : maximumEventBytes < (event ++ [newline]).length := by
    rw [List.length_append, List.length_singleton]
    omega
  constructor
  · rw [frames_whole, framesOf, ends]
    rfl
  · simp only [frames, List.nil_append, pieces_uncut uncut]
    rw [if_pos tooLong]

theorem frames_chunked_apart :
    let event := List.replicate 65537 (120 : AsciiByte)
    frames [] [event ++ [newline, newline]] = ([event], .finished) ∧
      frames [] [event ++ [newline], [newline]] = ([], tooLong) := by
  refine frames_apart (fun member => ?_) ?_
  · exact absurd (List.eq_of_mem_replicate member) (by decide)
  · rw [List.length_replicate]
    decide

end CaseSorter.Web
