import CaseSorter.Link.RequestEncoding

/-! The detector of the raw stop line on any stream of bytes. After `stop` and a CR it
starts again in the middle of the line, whatever the next byte is, so that the tail of a
longer line can be taken for a stop. -/

namespace CaseSorter.Link

open CaseSorter.Firmware

/-- The bytes since the last LF. -/
def currentLine (bytes : Bytes) : Bytes :=
  bytes.foldl (fun line byte => if byte = lineFeed then [] else line ++ [byte]) []

def isStopLine (line : Bytes) : Bool :=
  line = ascii "stop" ∨ line = ascii "stop" ++ [carriageReturn]

/-- `stop`, a CR and one more byte, once or several times, and then a stop line. -/
def hidesStopLine : Bytes → Bool
  | 115 :: 116 :: 111 :: 112 :: 13 :: _ :: rest => isStopLine rest || hidesStopLine rest
  | _ => false

def stopFires (before : Bytes) (byte : UInt8) : Bool :=
  ((feed RawStopLineDetector.consume .reset before).1.consume byte).2

/-- `CommandParser` frames the line as `stop`. -/
def framesStop (line : Bytes) : Prop :=
  let (parser, result) := (feed CommandParser.consume .reset line).1.consume lineFeed
  result = .frameReady ∧ parser.buffer = ascii "stop"

/-- The detector fires at the end of the stop lines of a stream and nowhere else, and
these are the lines that the v1 parser frames as `stop`. -/
structure DetectsStops (stream : Bytes) : Prop where
  exact : ∀ before byte after, stream = before ++ byte :: after →
    (stopFires before byte ↔ byte = lineFeed ∧ isStopLine (currentLine before))
  framed : ∀ before after, stream = before ++ lineFeed :: after →
    (stopFires before lineFeed ↔ framesStop (currentLine before))

theorem currentLine_append (bytes : Bytes) (byte : UInt8) :
    currentLine (bytes ++ [byte]) =
      if byte = lineFeed then [] else currentLine bytes ++ [byte] := by
  simp only [currentLine, List.foldl_append, List.foldl_cons, List.foldl_nil]

theorem currentLine_inner (bytes : Bytes) : lineFeed ∉ currentLine bytes := by
  induction bytes using List.reverseRecOn with
  | nil => exact List.not_mem_nil
  | append_singleton bytes byte ih =>
    rw [currentLine_append]
    split_ifs with ended
    · exact List.not_mem_nil
    · intro member
      rcases List.mem_append.mp member with inner | last
      · exact ih inner
      · exact ended (List.mem_singleton.mp last).symm

theorem feed_concat {σ β : Type} (consume : σ → UInt8 → σ × β) (s : σ) (bytes : Bytes)
    (byte : UInt8) :
    (feed consume s (bytes ++ [byte])).1 = (consume (feed consume s bytes).1 byte).1 := by
  rw [feed_append]
  rfl

theorem consume_lineFeed (d : RawStopLineDetector) :
    d.consume lineFeed = (.reset, decide (d.state = 4 ∨ d.state = 5)) := by
  unfold RawStopLineDetector.consume
  rw [if_pos (show lineFeed = lineFeed from rfl)]
  split_ifs with spent
  · simp [spent]
  · simp [spent]

theorem feed_currentLine (bytes : Bytes) :
    (feed RawStopLineDetector.consume .reset bytes).1 =
      (feed RawStopLineDetector.consume .reset (currentLine bytes)).1 := by
  induction bytes using List.reverseRecOn with
  | nil => rfl
  | append_singleton bytes byte ih =>
    rw [feed_concat, currentLine_append]
    split_ifs with ended
    · rw [ended, consume_lineFeed]
      rfl
    · rw [feed_concat, ih]

theorem consume_inner (d : RawStopLineDetector) {byte : UInt8} (inner : byte ≠ lineFeed) :
    (d.consume byte).2 = false := by
  unfold RawStopLineDetector.consume
  split_ifs <;> simp [inner]

theorem feed_other {line : Bytes} (inner : lineFeed ∉ line) :
    (feed RawStopLineDetector.consume ⟨6⟩ line).1 = ⟨6⟩ := by
  induction line with
  | nil => rfl
  | cons byte line ih =>
    simp only [List.mem_cons, not_or] at inner
    have stays : RawStopLineDetector.consume ⟨6⟩ byte = (⟨6⟩, false) := by
      simp [RawStopLineDetector.consume, RawStopLineDetector.matchesNext, Ne.symm inner.1]
    rw [feed, stays]
    exact ih inner.2

theorem feed_matching {d : RawStopLineDetector} (early : d.state < 4) {byte : UInt8}
    {line : Bytes} (inner : lineFeed ∉ byte :: line) :
    (feed RawStopLineDetector.consume d (byte :: line)).1 =
      if d.matchesNext byte then (feed RawStopLineDetector.consume ⟨d.state + 1⟩ line).1
      else ⟨6⟩ := by
  simp only [List.mem_cons, not_or] at inner
  have next : d.consume byte = if d.matchesNext byte then (⟨d.state + 1⟩, false)
      else (⟨6⟩, false) := by
    unfold RawStopLineDetector.consume
    rw [if_neg (by omega), if_neg (Ne.symm inner.1), if_neg (by omega)]
  rw [feed, next]
  split_ifs
  · rfl
  · exact feed_other inner.2

theorem feed_stop (rest : Bytes) :
    (feed RawStopLineDetector.consume .reset (ascii "stop" ++ rest)).1 =
      (feed RawStopLineDetector.consume ⟨4⟩ rest).1 := rfl

theorem feed_unmatched {line : Bytes} (inner : lineFeed ∉ line)
    (other : ∀ rest, line ≠ ascii "stop" ++ rest) :
    ¬ ((feed RawStopLineDetector.consume .reset line).1.state = 4 ∨
      (feed RawStopLineDetector.consume .reset line).1.state = 5) := by
  have tail {byte : UInt8} {line : Bytes} (inner : lineFeed ∉ byte :: line) : lineFeed ∉ line :=
    fun member => inner (List.mem_cons_of_mem _ member)
  rcases line with - | ⟨s, line⟩
  · decide
  rw [feed_matching (by decide) inner]
  split_ifs with first
  swap
  · decide
  rcases line with - | ⟨t, line⟩
  · decide
  rw [feed_matching (by decide) (tail inner)]
  split_ifs with second
  swap
  · decide
  rcases line with - | ⟨o, line⟩
  · decide
  rw [feed_matching (by decide) (tail (tail inner))]
  split_ifs with third
  swap
  · decide
  rcases line with - | ⟨p, line⟩
  · decide
  rw [feed_matching (by decide) (tail (tail (tail inner)))]
  split_ifs with fourth
  swap
  · decide
  simp only [RawStopLineDetector.matchesNext, RawStopLineDetector.reset, decide_eq_true_eq,
    Nat.zero_add, Nat.reduceAdd, Nat.reduceEqDiff, false_and, true_and, false_or, or_false,
    reduceCtorEq] at first second third fourth
  refine absurd ?_ (other line)
  rw [first, second, third, fourth]
  rfl

theorem hidesStopLine_iff (line : Bytes) :
    hidesStopLine line ↔ ∃ byte rest, line = ascii "stop" ++ carriageReturn :: byte :: rest ∧
      (isStopLine rest ∨ hidesStopLine rest) := by
  constructor
  · intro hides
    unfold hidesStopLine at hides
    split at hides
    · rename_i byte rest
      exact ⟨byte, rest, rfl, by simpa using hides⟩
    · cases hides
  · rintro ⟨byte, rest, rfl, hides⟩
    change (isStopLine rest || hidesStopLine rest) = true
    simpa using hides

theorem feed_line {line : Bytes} (inner : lineFeed ∉ line) :
    (feed RawStopLineDetector.consume .reset line).1.state = 4 ∨
        (feed RawStopLineDetector.consume .reset line).1.state = 5 ↔
      isStopLine line ∨ hidesStopLine line := by
  induction n : line.length using Nat.strong_induction_on generalizing line with
  | _ n ih =>
    rw [hidesStopLine_iff]
    by_cases begins : ∃ rest, line = ascii "stop" ++ rest
    · obtain ⟨rest, rfl⟩ := begins
      rw [feed_stop]
      rcases rest with - | ⟨c, rest⟩
      · exact ⟨fun _ => .inl (by decide), fun _ => .inl rfl⟩
      by_cases cr : c = carriageReturn
      · subst cr
        rcases rest with - | ⟨b, rest⟩
        · exact ⟨fun _ => .inl (by decide), fun _ => .inr rfl⟩
        · have later : lineFeed ∉ rest := fun member => inner (by simp [member])
          have again : (feed RawStopLineDetector.consume ⟨4⟩ (carriageReturn :: b :: rest)).1 =
              (feed RawStopLineDetector.consume .reset rest).1 := rfl
          rw [again, ih rest.length (by simp [← n]; omega) later rfl]
          constructor
          · exact fun found => .inr ⟨b, rest, rfl, found⟩
          · rintro (stop | ⟨_, _, same, found⟩)
            · simp [isStopLine, ascii] at stop
            · cases same
              exact found
      · have past : lineFeed ∉ rest := fun member => inner (by simp [member])
        have next : c ≠ lineFeed := fun is => inner (by simp [is])
        have lost : RawStopLineDetector.consume ⟨4⟩ c = (⟨6⟩, false) := by
          simp [RawStopLineDetector.consume, RawStopLineDetector.matchesNext, next, cr]
        rw [feed, lost, feed_other past]
        constructor
        · exact fun reached => absurd reached (by decide)
        · rintro (stop | ⟨_, _, same, -⟩)
          · simp [isStopLine, ascii, cr] at stop
          · simp [ascii, cr] at same
    · have unmatched := feed_unmatched inner fun rest is => begins ⟨rest, is⟩
      refine iff_of_false unmatched ?_
      rintro (stop | ⟨byte, rest, same, -⟩)
      · simp only [isStopLine, decide_eq_true_eq] at stop
        rcases stop with stop | stop
        · exact begins ⟨[], stop.trans (List.append_nil _).symm⟩
        · exact begins ⟨_, stop⟩
      · exact begins ⟨_, same⟩

def CommandParser.Buffers (p : CommandParser) (line : Bytes) : Prop :=
  p.overflowed ∨ p.invalid ∨
    line = p.buffer ++ if p.pendingCarriageReturn then [carriageReturn] else []

theorem append_buffers (p : CommandParser) (byte : UInt8) :
    (p.append byte).overflowed ∨ (p.append byte).buffer = p.buffer ++ [byte] := by
  unfold CommandParser.append
  split_ifs
  · exact .inl rfl
  · exact .inr rfl

theorem append_pending (p : CommandParser) (byte : UInt8) :
    (p.append byte).pendingCarriageReturn = p.pendingCarriageReturn := by
  unfold CommandParser.append
  split_ifs <;> rfl

theorem CommandParser.Buffers.flush {p : CommandParser} {line : Bytes}
    (h : CommandParser.Buffers p line) (overrun : ¬ p.overflowed) (invalid : ¬ p.invalid) :
    let q := if p.pendingCarriageReturn then
        { p.append carriageReturn with pendingCarriageReturn := false }
      else p
    q.overflowed ∨ q.buffer = line ∧ q.pendingCarriageReturn = false := by
  have read := (h.resolve_left overrun).resolve_left invalid
  dsimp only
  cases pending : p.pendingCarriageReturn
  · rw [pending, if_neg nofun, List.append_nil] at read
    rw [if_neg nofun]
    exact .inr ⟨read.symm, pending⟩
  · rw [pending, if_pos rfl] at read
    rw [if_pos rfl]
    rcases append_buffers p carriageReturn with past | more
    · exact .inl past
    · exact .inr ⟨more.trans read.symm, rfl⟩

theorem CommandParser.Buffers.consume {p : CommandParser} {line : Bytes}
    (h : CommandParser.Buffers p line) {byte : UInt8} (inner : byte ≠ lineFeed) :
    CommandParser.Buffers (p.consume byte).1 (line ++ [byte]) := by
  unfold CommandParser.consume
  rw [if_neg inner, if_neg inner, if_neg inner]
  by_cases overrun : p.overflowed
  · rw [if_pos overrun]
    exact .inl overrun
  by_cases invalid : p.invalid
  · rw [if_neg overrun, if_pos invalid]
    exact .inr (.inl invalid)
  rw [if_neg overrun, if_neg invalid]
  have flushed := h.flush overrun invalid
  dsimp only at flushed ⊢
  generalize (if p.pendingCarriageReturn = true then
    { p.append carriageReturn with pendingCarriageReturn := false } else p) = q at flushed ⊢
  split_ifs with past cr zero
  · exact .inl past
  · obtain ⟨read, -⟩ := flushed.resolve_left past
    exact .inr (.inr (by rw [if_pos rfl, read, cr]))
  · exact .inr (.inl rfl)
  · obtain ⟨read, unpending⟩ := flushed.resolve_left past
    rcases append_buffers q byte with lost | more
    · exact .inl lost
    · refine .inr (.inr ?_)
      rw [append_pending, more, unpending, read, if_neg nofun, List.append_nil]

theorem feed_buffers {line : Bytes} (inner : lineFeed ∉ line) :
    CommandParser.Buffers (feed CommandParser.consume .reset line).1 line := by
  induction line using List.reverseRecOn with
  | nil => exact .inr (.inr rfl)
  | append_singleton line byte ih =>
    simp only [List.mem_append, List.mem_singleton, not_or] at inner
    rw [feed_concat]
    exact (ih inner.1).consume (Ne.symm inner.2)

theorem framesStop_iff {line : Bytes} (inner : lineFeed ∉ line) :
    framesStop line ↔ isStopLine line := by
  constructor
  · intro framed
    have buffered := feed_buffers inner
    unfold framesStop at framed
    generalize (feed CommandParser.consume .reset line).1 = p at framed buffered
    have ended : lineFeed = lineFeed := rfl
    unfold CommandParser.consume at framed
    rw [if_pos ended, if_pos ended, if_pos ended] at framed
    split_ifs at framed with overrun invalid
    · cases framed.1
    · cases framed.1
    · have read := (buffered.resolve_left overrun).resolve_left invalid
      rw [framed.2] at read
      simp only [isStopLine, decide_eq_true_eq]
      cases pending : p.pendingCarriageReturn
      · rw [pending, if_neg nofun, List.append_nil] at read
        exact .inl read
      · rw [pending, if_pos rfl] at read
        exact .inr read
  · intro stop
    simp only [isStopLine, decide_eq_true_eq] at stop
    rcases stop with rfl | rfl
    · exact ⟨rfl, rfl⟩
    · exact ⟨rfl, rfl⟩

theorem stopFires_lineFeed (before : Bytes) :
    stopFires before lineFeed ↔
      isStopLine (currentLine before) ∨ hidesStopLine (currentLine before) := by
  rw [stopFires, consume_lineFeed, decide_eq_true_eq, feed_currentLine,
    feed_line (currentLine_inner before)]

theorem isStopLine_not_hides {line : Bytes} (stop : isStopLine line) :
    hidesStopLine line = false := by
  simp only [isStopLine, decide_eq_true_eq] at stop
  rcases stop with rfl | rfl <;> rfl

/-- The detector is exact on a stream if and only if none of its lines hides a stop line
behind `stop`, a CR and another byte. -/
theorem detectsStops_iff (stream : Bytes) :
    DetectsStops stream ↔ ∀ before after, stream = before ++ lineFeed :: after →
      hidesStopLine (currentLine before) = false := by
  constructor
  · intro detects before after split
    by_contra hides
    rw [Bool.not_eq_false] at hides
    have fires := (stopFires_lineFeed before).mpr (.inr hides)
    have stop := ((detects.exact before lineFeed after split).mp fires).2
    rw [isStopLine_not_hides stop] at hides
    cases hides
  · intro open'
    have exact (before after : Bytes) (split : stream = before ++ lineFeed :: after) :
        stopFires before lineFeed ↔ isStopLine (currentLine before) := by
      rw [stopFires_lineFeed, open' before after split]
      exact or_iff_left Bool.false_ne_true
    refine ⟨fun before byte after split => ?_, fun before after split => ?_⟩
    · by_cases ended : byte = lineFeed
      · subst ended
        exact (exact before after split).trans (and_iff_right rfl).symm
      · rw [stopFires, consume_inner _ ended]
        exact iff_of_false nofun fun stop => ended stop.1
    · rw [framesStop_iff (currentLine_inner before)]
      exact exact before after split

/-- `stop`, CR, `X` and `stop` on one line: the detector fires at its end. -/
def hiddenStop : Bytes := ascii "stop\rXstop\n"

theorem not_detectsStops : ¬ DetectsStops hiddenStop := by
  intro detects
  have line := ((detects.exact (ascii "stop\rXstop") lineFeed [] rfl).mp (by decide)).2
  revert line
  decide

end CaseSorter.Link
