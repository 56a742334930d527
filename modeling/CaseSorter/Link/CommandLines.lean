import CaseSorter.Link.StopLines

/-! The v1 line framing of the sketch on any stream of bytes. A CR is held back until the
next byte shows whether it ends the line; what a line feed is answered with depends on the
line that it ends and on nothing before it. -/

namespace CaseSorter.Link

open CaseSorter.Firmware

/-- What the framer makes of a line. -/
inductive CommandLine
  | ready (frame : Bytes)
  | tooLong
  | invalid
  deriving DecidableEq, Repr

/-- The command parser as `checkSerial` runs it: it is reset after each frame that is ready. -/
def commandByte (p : CommandParser) (byte : UInt8) : CommandParser × Option CommandLine :=
  match p.consume byte with
  | (p, .noFrame) => (p, none)
  | (p, .frameReady) => (.reset, some (.ready p.buffer))
  | (p, .frameOverflow) => (p, some .tooLong)
  | (p, .frameInvalid) => (p, some .invalid)

def lineText (line : Bytes) : Bytes :=
  if line.getLast? = some carriageReturn then line.dropLast else line

def nulInTime (text : Bytes) : Bool :=
  0 ∈ text ∧ (text.takeWhile (· ≠ 0)).length ≤ commandMaxLength

def commandLine (line : Bytes) : CommandLine :=
  if (lineText line).length ≤ commandMaxLength ∧ 0 ∉ lineText line then .ready (lineText line)
  else if nulInTime (lineText line) then .invalid
  else .tooLong

theorem lineText_cr (line : Bytes) : lineText (line ++ [carriageReturn]) = line := by
  simp [lineText]

theorem lineText_data (line : Bytes) {byte : UInt8} (data : byte ≠ carriageReturn) :
    lineText (line ++ [byte]) = line ++ [byte] := by
  simp [lineText, data]

theorem lineText_eq (line : Bytes) :
    line =
      lineText line ++ if line.getLast? = some carriageReturn then [carriageReturn] else [] := by
  induction line using List.reverseRecOn with
  | nil => rfl
  | append_singleton line byte ih =>
    by_cases data : byte = carriageReturn
    · rw [data, lineText_cr, if_pos (by simp)]
    · rw [lineText_data line data, if_neg (by simpa using data), List.append_nil]

theorem zero_mem_lineText (line : Bytes) : 0 ∈ lineText line ↔ 0 ∈ line := by
  have split := lineText_eq line
  constructor
  · intro member
    rw [split]
    exact List.mem_append_left _ member
  · intro member
    rw [split] at member
    split_ifs at member with ended
    · simpa [carriageReturn] using member
    · simpa using member

theorem takeWhile_zero {line : Bytes} (nul : 0 ∈ line) (rest : Bytes) :
    (line ++ rest).takeWhile (· ≠ 0) = line.takeWhile (· ≠ 0) := by
  induction line with
  | nil => cases nul
  | cons b line ih =>
    rw [List.cons_append, List.takeWhile_cons, List.takeWhile_cons]
    split_ifs with data
    · have later : 0 ∈ line := by
        rcases List.mem_cons.mp nul with here | later
        · simp [← here] at data
        · exact later
      rw [ih later]
    · rfl

theorem takeWhile_lineText {line : Bytes} (nul : 0 ∈ line) :
    (lineText line).takeWhile (· ≠ 0) = line.takeWhile (· ≠ 0) := by
  conv_rhs => rw [lineText_eq line]
  exact (takeWhile_zero ((zero_mem_lineText line).mpr nul) _).symm

theorem takeWhile_data {line : Bytes} (data : 0 ∉ line) : line.takeWhile (· ≠ 0) = line := by
  rw [List.takeWhile_eq_self_iff]
  intro b member
  simpa using fun is : b = 0 => data (is ▸ member)

theorem commandLine_nul {line : Bytes} (nul : 0 ∈ line) :
    commandLine line =
      if (line.takeWhile (· ≠ 0)).length ≤ commandMaxLength then .invalid else .tooLong := by
  have text := (zero_mem_lineText line).mpr nul
  simp only [commandLine, nulInTime, takeWhile_lineText nul, text, not_true_eq_false, and_false,
    if_false, true_and, decide_eq_true_eq]

theorem commandLine_data {line : Bytes} (data : 0 ∉ line) :
    commandLine line =
      if (lineText line).length ≤ commandMaxLength then .ready (lineText line) else .tooLong := by
  have text := mt (zero_mem_lineText line).mp data
  simp only [commandLine, nulInTime, text, not_false_eq_true, and_true, false_and,
    decide_false, Bool.false_eq_true, if_false]

theorem commandLine_zero {line : Bytes} (data : 0 ∉ line) :
    commandLine (line ++ [0]) =
      if line.length ≤ commandMaxLength then .invalid else .tooLong := by
  have before : (line ++ [0]).takeWhile (· ≠ 0) = line := by
    rw [List.takeWhile_append, takeWhile_data data]
    simp
  rw [commandLine_nul (by simp), before]

theorem commandLine_long {line : Bytes} (data : 0 ∉ line) (long : commandMaxLength < line.length)
    (byte : UInt8) : commandLine (line ++ [byte]) = .tooLong := by
  by_cases zero : byte = 0
  · rw [zero, commandLine_zero data, if_neg (Nat.not_le.mpr long)]
  · rw [commandLine_data (by simp [data, Ne.symm zero]), if_neg]
    by_cases cr : byte = carriageReturn
    · rw [cr, lineText_cr]
      omega
    · rw [lineText_data line cr, List.length_append]
      omega

theorem lineText_length (line : Bytes) : (lineText line).length ≤ line.length := by
  conv_rhs => rw [lineText_eq line]
  simp

theorem commandLine_append {line : Bytes} (rejected : ∀ frame, commandLine line ≠ .ready frame)
    (byte : UInt8) : commandLine (line ++ [byte]) = commandLine line := by
  by_cases nul : 0 ∈ line
  · rw [commandLine_nul nul, commandLine_nul (List.mem_append_left _ nul), takeWhile_zero nul]
  · have long : commandMaxLength < (lineText line).length := by
      by_contra short
      rw [commandLine_data nul, if_pos (Nat.le_of_not_lt short)] at rejected
      exact rejected _ rfl
    rw [commandLine_data nul, if_neg (Nat.not_le.mpr long)]
    exact commandLine_long nul (Nat.lt_of_lt_of_le long (lineText_length line)) byte

inductive Reading : CommandParser → Bytes → Prop
  | data {line : Bytes} (clean : 0 ∉ line) (fits : (lineText line).length ≤ commandMaxLength) :
    Reading ⟨lineText line, false, false, line.getLast? = some carriageReturn⟩ line
  | tooLong {buffer line : Bytes} {invalid pending : Bool}
      (fits : buffer.length ≤ commandMaxLength) (given : commandLine line = .tooLong) :
    Reading ⟨buffer, true, invalid, pending⟩ line
  | invalid {buffer line : Bytes} {pending : Bool} (fits : buffer.length ≤ commandMaxLength)
      (given : commandLine line = .invalid) :
    Reading ⟨buffer, false, true, pending⟩ line

theorem Reading.fits {p : CommandParser} {line : Bytes} (h : Reading p line) :
    p.buffer.length ≤ commandMaxLength := by
  cases h <;> assumption

theorem reading_reset : Reading .reset [] := .data List.not_mem_nil (Nat.zero_le _)

theorem Reading.flushed {line : Bytes} (fits : (lineText line).length ≤ commandMaxLength)
    {byte : UInt8} (inner : byte ≠ lineFeed) :
    (CommandParser.mk (lineText line) false false
      (line.getLast? = some carriageReturn)).consume byte =
      if commandMaxLength < line.length then (⟨lineText line, true, false, false⟩, .noFrame)
      else if byte = carriageReturn then (⟨line, false, false, true⟩, .noFrame)
      else if byte = 0 then (⟨line, false, true, false⟩, .noFrame)
      else ((CommandParser.mk line false false false).append byte, .noFrame) := by
  have split := lineText_eq line
  by_cases ended : line.getLast? = some carriageReturn
  · rw [if_pos ended] at split
    have length : line.length = (lineText line).length + 1 := by
      conv_lhs => rw [split]
      simp
    by_cases full : (lineText line).length = commandMaxLength
    · have long : commandMaxLength < line.length := by omega
      simp [CommandParser.consume, CommandParser.append, inner, ended, full, long]
    · have short : ¬ commandMaxLength < line.length := by omega
      simp [CommandParser.consume, CommandParser.append, inner, ended, full, short, ← split]
  · rw [if_neg ended, List.append_nil] at split
    rw [← split] at fits ⊢
    have short : ¬ commandMaxLength < line.length := by omega
    simp [CommandParser.consume, inner, ended, short]

theorem Reading.consume {p : CommandParser} {line : Bytes} (h : Reading p line) {byte : UInt8}
    (inner : byte ≠ lineFeed) :
    (p.consume byte).2 = .noFrame ∧ Reading (p.consume byte).1 (line ++ [byte]) := by
  cases h with
  | data clean fits =>
    rw [Reading.flushed fits inner]
    split_ifs with long cr zero
    · exact ⟨rfl, .tooLong fits (commandLine_long clean long byte)⟩
    · refine ⟨rfl, ?_⟩
      subst cr
      have kept : 0 ∉ line ++ [carriageReturn] := by simp [clean, carriageReturn]
      have next := Reading.data kept (by rw [lineText_cr]; omega)
      simpa [lineText_cr] using next
    · refine ⟨rfl, .invalid (by omega) ?_⟩
      rw [zero, commandLine_zero clean, if_pos (by omega)]
    · refine ⟨rfl, ?_⟩
      have kept : 0 ∉ line ++ [byte] := by simp [clean, Ne.symm zero]
      have text := lineText_data line cr
      unfold CommandParser.append
      dsimp only
      split_ifs with full
      · refine .tooLong (Nat.le_of_eq full) ?_
        rw [commandLine_data kept, text, if_neg]
        simp [full]
      · have next := Reading.data kept (by
          rw [text, List.length_append, List.length_singleton]
          omega)
        simpa [text, cr] using next
  | tooLong fits given =>
    refine ⟨by simp [CommandParser.consume, inner], ?_⟩
    have stays := commandLine_append (fun frame is => by rw [given] at is; cases is) byte
    simpa [CommandParser.consume, inner] using .tooLong fits (stays.trans given)
  | invalid fits given =>
    refine ⟨by simp [CommandParser.consume, inner], ?_⟩
    have stays := commandLine_append (fun frame is => by rw [given] at is; cases is) byte
    simpa [CommandParser.consume, inner] using .invalid fits (stays.trans given)

theorem Reading.lineFeed {p : CommandParser} {line : Bytes} (h : Reading p line) :
    commandByte p lineFeed = (.reset, some (commandLine line)) := by
  cases h with
  | data clean fits =>
    rw [commandLine_data clean, if_pos fits]
    rfl
  | tooLong fits given =>
    rw [given]
    rfl
  | invalid fits given =>
    rw [given]
    rfl

theorem Reading.inside {p : CommandParser} {line : Bytes} (h : Reading p line) {byte : UInt8}
    (inner : byte ≠ Firmware.lineFeed) :
    (commandByte p byte).2 = none ∧ Reading (commandByte p byte).1 (line ++ [byte]) := by
  obtain ⟨silent, next⟩ := h.consume inner
  unfold commandByte
  rcases read : p.consume byte with ⟨q, result⟩
  rw [read] at silent next
  dsimp only at silent
  subst silent
  exact ⟨rfl, next⟩

theorem reading_stream (bytes : Bytes) :
    Reading (feed commandByte .reset bytes).1 (currentLine bytes) := by
  induction bytes using List.reverseRecOn with
  | nil => exact reading_reset
  | append_singleton bytes byte ih =>
    rw [feed_concat, currentLine_append]
    split_ifs with ended
    · rw [ended, ih.lineFeed]
      exact reading_reset
    · exact (ih.inside ended).2

/-- After any stream, the next byte has a result if and only if it is a line feed, which is
the one of the line that it ends; the buffer never holds more than its limit. -/
theorem commandLine_framing (before : Bytes) (byte : UInt8) :
    (commandByte (feed commandByte .reset before).1 byte).2 =
        (if byte = lineFeed then some (commandLine (currentLine before)) else none) ∧
      (commandByte (feed commandByte .reset before).1 byte).1.buffer.length ≤
        commandMaxLength := by
  have reading := reading_stream before
  split_ifs with ended
  · rw [ended, reading.lineFeed]
    exact ⟨rfl, Nat.zero_le _⟩
  · obtain ⟨silent, next⟩ := reading.inside ended
    exact ⟨silent, next.fits⟩

example : commandLine (ascii "stop\r\r") = .ready (ascii "stop\r") := by decide

end CaseSorter.Link
