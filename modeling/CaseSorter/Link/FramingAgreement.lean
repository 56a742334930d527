import CaseSorter.Host.Framing
import CaseSorter.Link.RequestEncoding

/-! The two framers of protocol v2. The frame parser of the sketch keeps a CR as a flag and
the line reader of the host as a byte of the line; from `Framing` on, both split a stream at
the same line feeds into the same lines and the same rejections. -/

namespace CaseSorter.Link

open CaseSorter.Firmware CaseSorter.Host

/-- What a framer makes of the bytes up to a line feed. -/
inductive Framed
  | line (content : Text)
  | tooLong
  | invalid
  deriving DecidableEq, Repr

def decoded (bytes : Bytes) : Text := bytes.map fun b => Char.ofNat b.toNat

/-- The frame parser as `checkSerial` runs it: it is reset after each frame that is ready. -/
def frameByte (p : V2FrameParser) (byte : UInt8) : V2FrameParser × Option Framed :=
  match p.consume byte with
  | (p, .noFrame) => (p, none)
  | (p, .frameReady) => (.reset, some (.line (decoded p.buffer)))
  | (p, .frameOverflow) => (p, some .tooLong)
  | (p, .frameInvalid) => (p, some .invalid)

def framed : Except FramingError Text → Framed
  | .ok content => .line content
  | .error (.discarded (.tooLong _)) => .tooLong
  | .error (.discarded .bareCarriageReturn) | .error (.discarded .nonPrintable) => .invalid
  | .error .nonAscii => .invalid

def readByte (r : LineReader) (byte : UInt8) : LineReader × Option Framed :=
  ((r.consume byte true).1, (r.consume byte true).2.map framed)

/-- The results with the positions of their line feeds. -/
def splits {σ : Type} (consume : σ → UInt8 → σ × Option Framed) :
    σ → Nat → Bytes → List (Nat × Framed)
  | _, _, [] => []
  | s, position, byte :: bytes =>
    match consume s byte with
    | (s, some result) => (position, result) :: splits consume s (position + 1) bytes
    | (s, none) => splits consume s (position + 1) bytes

/-- Successive calls of `read_line`, with the bytes that arrive during each: the results of
those that do not time out, and the bytes that are left. -/
def reads : LineReader → Nat → Bytes → List Bytes → List (Nat × Framed) × Bytes
  | _, _, unread, [] => ([], unread)
  | r, position, unread, arrived :: calls =>
    let (r, left, result) := r.readLine true (unread ++ arrived)
    let next := position + (unread ++ arrived).length - left.length
    let (results, rest) := reads r next left calls
    (match result with
      | some result => (next - 1, framed result) :: results
      | none => results, rest)

inductive Framing : V2FrameParser → LineReader → Prop
  | reading {p : V2FrameParser} {r : LineReader} (v2Limit : r.v2Limit = v2MaxLineLength)
      (kept : p.discardedResult = .noFrame) (reason : r.discardedReason = none)
      (line : r.line = p.buffer ++ if p.pendingCarriageReturn then [carriageReturn] else [])
      (printable : ∀ b ∈ p.buffer, Firmware.isPrintable b = true)
      (short : p.buffer.length ≤ v2MaxLineLength) : Framing p r
  | tooLong {p : V2FrameParser} {r : LineReader} (v2Limit : r.v2Limit = v2MaxLineLength)
      (discarded : p.discardedResult = .frameOverflow) (limit : Nat)
      (reason : r.discardedReason = some (.tooLong limit)) : Framing p r
  | invalid {p : V2FrameParser} {r : LineReader} (v2Limit : r.v2Limit = v2MaxLineLength)
      (discarded : p.discardedResult = .frameInvalid)
      (reason : r.discardedReason = some .bareCarriageReturn ∨
        r.discardedReason = some .nonPrintable) : Framing p r

theorem framing_reset {r : LineReader} (v2Limit : r.v2Limit = v2MaxLineLength)
    (reason : r.discardedReason = none) (line : r.line = []) : Framing .reset r :=
  .reading v2Limit rfl reason line nofun (Nat.zero_le _)

theorem printable_below {b : UInt8} (h : Firmware.isPrintable b = true) : b < 128 ∧ b ≠ 13 := by
  simp only [Firmware.isPrintable, Bool.and_eq_true, decide_eq_true_eq, UInt8.le_iff_toNat_le] at h
  obtain ⟨low, high⟩ := h
  refine ⟨UInt8.lt_iff_toNat_lt.mpr (Nat.lt_of_le_of_lt high (by decide)), fun same => ?_⟩
  rw [same] at low
  exact absurd low (by decide)

theorem last_printable {bytes : Bytes}
    (printable : ∀ b ∈ bytes, Firmware.isPrintable b = true) :
    bytes.getLast? ≠ some 13 := fun last =>
  (printable_below (printable 13 (List.mem_of_getLast? last))).2 rfl

theorem decode_printable {bytes : Bytes}
    (printable : ∀ b ∈ bytes, Firmware.isPrintable b = true) :
    decodeAscii bytes = .ok (decoded bytes) := by
  have small : (bytes.all fun b => decide (b < 128)) = true :=
    List.all_eq_true.mpr fun b member => decide_eq_true (printable_below (printable b member)).1
  unfold decodeAscii
  rw [if_pos small]
  rfl

theorem Framing.at_lineFeed {p : V2FrameParser} {r : LineReader} (h : Framing p r) :
    (frameByte p lineFeed).2 = (readByte r lineFeed).2 ∧
      Framing (frameByte p lineFeed).1 (readByte r lineFeed).1 := by
  cases h with
  | reading v2Limit kept reason line printable short =>
    have payload : r.payload = p.buffer := by
      unfold LineReader.payload
      rw [line]
      cases p.pendingCarriageReturn with
      | true => simp [carriageReturn]
      | false => simp [last_printable printable]
    have framed : frameByte p lineFeed = (.reset, some (.line (decoded p.buffer))) := by
      simp [frameByte, V2FrameParser.consume, kept]
    have read : readByte r lineFeed = ({ r with line := [] }, some (.line (decoded p.buffer))) := by
      simp [readByte, LineReader.consume, lineFeed, reason, payload,
        decode_printable printable, Link.framed]
    rw [framed, read]
    exact ⟨rfl, framing_reset v2Limit reason rfl⟩
  | tooLong v2Limit discarded limit reason =>
    have framed : frameByte p lineFeed = (.reset, some .tooLong) := by
      simp [frameByte, V2FrameParser.consume, discarded]
    have read : readByte r lineFeed = (r.clear, some .tooLong) := by
      simp [readByte, LineReader.consume, lineFeed, reason, Link.framed]
    rw [framed, read]
    exact ⟨rfl, framing_reset v2Limit rfl rfl⟩
  | invalid v2Limit discarded reason =>
    have framed : frameByte p lineFeed = (.reset, some .invalid) := by
      simp [frameByte, V2FrameParser.consume, discarded]
    have read : readByte r lineFeed = (r.clear, some .invalid) := by
      rcases reason with reason | reason <;>
        simp [readByte, LineReader.consume, lineFeed, reason, Link.framed]
    rw [framed, read]
    exact ⟨rfl, framing_reset v2Limit rfl rfl⟩

theorem nonPrintable_iff (byte : UInt8) :
    (decide (byte < 32) || decide (126 < byte)) = !Firmware.isPrintable byte := by
  rw [Bool.eq_iff_iff]
  simp only [Firmware.isPrintable, Bool.or_eq_true, Bool.not_eq_true', Bool.and_eq_false_iff,
    decide_eq_true_eq, decide_eq_false_iff_not, UInt8.le_iff_toNat_le, UInt8.lt_iff_toNat_lt]
  omega

theorem Framing.after_carriageReturn {p : V2FrameParser} {r : LineReader}
    (v2Limit : r.v2Limit = v2MaxLineLength) (kept : p.discardedResult = .noFrame)
    (reason : r.discardedReason = none) (line : r.line = p.buffer ++ [carriageReturn])
    (pending : p.pendingCarriageReturn = true) {byte : UInt8} (other : byte ≠ lineFeed) :
    (frameByte p byte).2 = (readByte r byte).2 ∧
      Framing (frameByte p byte).1 (readByte r byte).1 := by
  have inner : byte ≠ 10 := other
  have last : r.line.getLast? = some 13 := by
    rw [line]
    exact List.getLast?_concat
  have framed : frameByte p byte = (p.discard .frameInvalid, none) := by
    simp [frameByte, V2FrameParser.consume, kept, other, pending]
  have read : readByte r byte =
      ({ r with discardedReason := some .bareCarriageReturn }, none) := by
    simp [readByte, LineReader.consume, LineReader.append, inner, reason, last]
  rw [framed, read]
  exact ⟨rfl, .invalid v2Limit rfl (.inl rfl)⟩

theorem Framing.inside_line {p : V2FrameParser} {r : LineReader}
    (v2Limit : r.v2Limit = v2MaxLineLength) (kept : p.discardedResult = .noFrame)
    (reason : r.discardedReason = none) (line : r.line = p.buffer)
    (printable : ∀ b ∈ p.buffer, Firmware.isPrintable b = true)
    (short : p.buffer.length ≤ v2MaxLineLength)
    (pending : p.pendingCarriageReturn = false) {byte : UInt8} (other : byte ≠ lineFeed) :
    (frameByte p byte).2 = (readByte r byte).2 ∧
      Framing (frameByte p byte).1 (readByte r byte).1 := by
  have inner : byte ≠ 10 := other
  have last : r.line.getLast? ≠ some 13 := by
    rw [line]
    exact last_printable printable
  have read : readByte r byte = (r.append byte true, none) := by
    simp [readByte, LineReader.consume, inner, reason]
  have limit : r.limit true = v2MaxLineLength := v2Limit
  rw [read]
  by_cases turn : byte = carriageReturn
  · have framed : frameByte p byte = ({ p with pendingCarriageReturn := true }, none) := by
      simp [frameByte, V2FrameParser.consume, kept, pending, turn,
        show carriageReturn ≠ lineFeed by decide]
    have appended : r.append byte true = { r with line := r.line ++ [byte] } := by
      simp [LineReader.append, last, turn, carriageReturn]
    rw [framed, appended]
    refine ⟨rfl, .reading v2Limit kept reason ?_ printable short⟩
    simp [line, turn]
  · have turned : byte ≠ 13 := turn
    cases plain : Firmware.isPrintable byte with
    | false =>
      have framed : frameByte p byte = (p.discard .frameInvalid, none) := by
        simp [frameByte, V2FrameParser.consume, kept, other, pending, turn, plain]
      have appended : r.append byte true =
          { r with discardedReason := some .nonPrintable } := by
        unfold LineReader.append
        rw [nonPrintable_iff, plain]
        simp [last, turned]
      rw [framed, appended]
      exact ⟨rfl, .invalid v2Limit rfl (.inr rfl)⟩
    | true =>
      -- both check the length last
      by_cases full : p.buffer.length = v2MaxLineLength
      · have framed : frameByte p byte = (p.discard .frameOverflow, none) := by
          simp [frameByte, V2FrameParser.consume, kept, other, pending, turn, plain, full]
        have appended : r.append byte true =
            { r with discardedReason := some (.tooLong v2MaxLineLength) } := by
          unfold LineReader.append
          rw [nonPrintable_iff, plain, limit, line, full]
          simp [← line, last, turned]
        rw [framed, appended]
        exact ⟨rfl, .tooLong v2Limit rfl _ rfl⟩
      · have framed : frameByte p byte = ({ p with buffer := p.buffer ++ [byte] }, none) := by
          simp [frameByte, V2FrameParser.consume, kept, other, pending, turn, plain, full]
        have room : ¬ v2MaxLineLength ≤ r.line.length := by
          rw [line]
          omega
        have appended : r.append byte true = { r with line := r.line ++ [byte] } := by
          unfold LineReader.append
          rw [nonPrintable_iff, plain, limit]
          simp [last, room]
        rw [framed, appended]
        refine ⟨rfl, .reading v2Limit kept reason ?_ ?_ ?_⟩
        · simp [line, pending]
        · intro b member
          rcases List.mem_append.mp member with old | new
          · exact printable b old
          · rw [List.mem_singleton.mp new]
            exact plain
        · rw [List.length_append, List.length_singleton]
          omega

theorem Framing.at_other {p : V2FrameParser} {r : LineReader} (h : Framing p r) {byte : UInt8}
    (other : byte ≠ lineFeed) :
    (frameByte p byte).2 = (readByte r byte).2 ∧
      Framing (frameByte p byte).1 (readByte r byte).1 := by
  have inner : byte ≠ 10 := other
  cases h with
  | tooLong v2Limit discarded limit reason =>
    have framed : frameByte p byte = (p, none) := by
      simp [frameByte, V2FrameParser.consume, discarded, other]
    have read : readByte r byte = (r, none) := by
      simp [readByte, LineReader.consume, inner, reason]
    rw [framed, read]
    exact ⟨rfl, .tooLong v2Limit discarded limit reason⟩
  | invalid v2Limit discarded reason =>
    have framed : frameByte p byte = (p, none) := by
      simp [frameByte, V2FrameParser.consume, discarded, other]
    have read : readByte r byte = (r, none) := by
      rcases reason with reason | reason <;> simp [readByte, LineReader.consume, inner, reason]
    rw [framed, read]
    exact ⟨rfl, .invalid v2Limit discarded reason⟩
  | reading v2Limit kept reason line printable short =>
    cases pending : p.pendingCarriageReturn with
    | true =>
      rw [pending, if_pos rfl] at line
      exact after_carriageReturn v2Limit kept reason line pending other
    | false =>
      rw [pending, if_neg Bool.false_ne_true, List.append_nil] at line
      exact inside_line v2Limit kept reason line printable short pending other

theorem Framing.byte {p : V2FrameParser} {r : LineReader} (h : Framing p r) (byte : UInt8) :
    (frameByte p byte).2 = (readByte r byte).2 ∧
      Framing (frameByte p byte).1 (readByte r byte).1 := by
  by_cases feed : byte = lineFeed
  · rw [feed]
    exact h.at_lineFeed
  · exact h.at_other feed

theorem Framing.splits_eq {p : V2FrameParser} {r : LineReader} (h : Framing p r) (position : Nat)
    (bytes : Bytes) : splits frameByte p position bytes = splits readByte r position bytes := by
  induction bytes generalizing p r position with
  | nil => rfl
  | cons byte bytes ih =>
    obtain ⟨same, next⟩ := h.byte byte
    unfold splits
    generalize frameByte p byte = framed at same next ⊢
    generalize readByte r byte = read at same next ⊢
    obtain ⟨p, result⟩ := framed
    obtain ⟨r, result⟩ := read
    cases same
    cases result with
    | none => exact ih next (position + 1)
    | some result => exact congrArg _ (ih next (position + 1))

theorem readLine_splits (r : LineReader) (position : Nat) (incoming : Bytes) :
    ∃ read, incoming = read ++ (r.readLine true incoming).2.1 ∧
      ((r.readLine true incoming).2.2 = none ∨ read ≠ []) ∧
      ((r.readLine true incoming).2.2 = none → (r.readLine true incoming).2.1 = []) ∧
      ∀ more, splits readByte r position (read ++ more) =
        (match (r.readLine true incoming).2.2 with
          | some result =>
            (position + read.length - 1, framed result) ::
              splits readByte (r.readLine true incoming).1 (position + read.length) more
          | none =>
            splits readByte (r.readLine true incoming).1 (position + read.length) more) := by
  induction incoming generalizing r position with
  | nil => exact ⟨[], rfl, .inl rfl, fun _ => rfl, fun more => rfl⟩
  | cons byte incoming ih =>
    unfold LineReader.readLine
    cases consumed : r.consume byte true with
    | mk next result =>
      cases result with
      | some result =>
        refine ⟨[byte], rfl, .inr (by simp), nofun, fun more => ?_⟩
        simp [splits, readByte, consumed]
      | none =>
        obtain ⟨read, split, -, used, rest⟩ := ih next (position + 1)
        refine ⟨byte :: read, congrArg _ split, .inr (by simp), used, fun more => ?_⟩
        have count : position + (byte :: read).length = position + 1 + read.length := by
          rw [List.length_cons]
          omega
        rw [count, ← rest more]
        simp [splits, readByte, consumed]

theorem reads_splits (r : LineReader) (position : Nat) (unread : Bytes) (calls : List Bytes) :
    ∃ read, unread ++ calls.flatten = read ++ (reads r position unread calls).2 ∧
      (reads r position unread calls).1 = splits readByte r position read := by
  induction calls generalizing r position unread with
  | nil => exact ⟨[], by simp [reads], rfl⟩
  | cons arrived calls ih =>
    obtain ⟨first, split, -, -, rest⟩ := readLine_splits r position (unread ++ arrived)
    unfold reads
    generalize r.readLine true (unread ++ arrived) = called at split rest ⊢
    obtain ⟨next, left, result⟩ := called
    dsimp only at split rest ⊢
    have count : position + (unread ++ arrived).length - left.length = position + first.length := by
      rw [split, List.length_append]
      omega
    obtain ⟨second, later, results⟩ := ih next (position + first.length) left
    rw [count]
    refine ⟨first ++ second, ?_, ?_⟩
    · rw [List.flatten_cons, ← List.append_assoc, split, List.append_assoc, later,
        List.append_assoc]
    · rw [rest second, ← results]

theorem reads_all (r : LineReader) (position : Nat) {unread : Bytes} {turns : Nat}
    (enough : unread.length ≤ turns) :
    (reads r position unread (List.replicate turns [])).2 = [] := by
  induction turns generalizing r position unread with
  | zero => exact List.eq_nil_of_length_eq_zero (Nat.le_zero.mp enough)
  | succ turns ih =>
    obtain ⟨read, split, progress, used, -⟩ := readLine_splits r position (unread ++ [])
    rw [List.replicate_succ]
    refine ih _ _ ?_
    show (r.readLine true (unread ++ [])).2.1.length ≤ turns
    rcases progress with timeout | given
    · rw [used timeout]
      exact Nat.zero_le _
    · have length := congrArg List.length split
      have positive := List.length_pos_iff.mpr given
      simp only [List.length_append, List.length_nil] at length
      omega

/-- The whole stream, and what of it any calls of `read_line` have read. -/
theorem framing_agrees (bytes : Bytes) (calls : List Bytes) :
    (reads .initial 0 bytes (List.replicate bytes.length [])).1 =
      splits frameByte .reset 0 bytes ∧
      ∃ read, calls.flatten = read ++ (reads .initial 0 [] calls).2 ∧
        (reads .initial 0 [] calls).1 = splits frameByte .reset 0 read := by
  have start : Framing .reset .initial := framing_reset rfl rfl rfl
  constructor
  · obtain ⟨read, split, results⟩ :=
      reads_splits .initial 0 bytes (List.replicate bytes.length [])
    rw [reads_all .initial 0 (Nat.le_refl _)] at split
    have whole : read = bytes := by simpa using split.symm
    rw [results, start.splits_eq, whole]
  · obtain ⟨read, split, results⟩ := reads_splits .initial 0 [] calls
    exact ⟨read, split, results.trans (start.splits_eq 0 read).symm⟩

end CaseSorter.Link
