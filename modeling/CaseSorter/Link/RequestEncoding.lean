import CaseSorter.Firmware.Framing
import CaseSorter.Host.Parsing

/-! What the host writes for a request, read by the firmware: the frame parser, the
request envelope and the detector of the raw stop line. -/

namespace CaseSorter.Link

open CaseSorter.Firmware CaseSorter.Host

/-- `encode("ascii")` of a text that is ASCII. -/
def encode (t : Text) : Bytes := t.map fun c => UInt8.ofNat c.toNat

/-- A byte-driven machine fed a list of bytes: where it ends, and what it returned for
each of them. -/
def feed {σ β : Type} (consume : σ → UInt8 → σ × β) : σ → Bytes → σ × List β
  | s, [] => (s, [])
  | s, b :: bs =>
    ((feed consume (consume s b).1 bs).1, (consume s b).2 :: (feed consume (consume s b).1 bs).2)

theorem feed_append {σ β : Type} (consume : σ → UInt8 → σ × β) (s : σ) (bs cs : Bytes) :
    feed consume s (bs ++ cs) =
      ((feed consume (feed consume s bs).1 cs).1,
        (feed consume s bs).2 ++ (feed consume (feed consume s bs).1 cs).2) := by
  induction bs generalizing s with
  | nil => rfl
  | cons b bs ih => simp only [List.cons_append, feed, ih]

theorem toNat_encoded {c : Char} (small : c.toNat < 256) :
    (UInt8.ofNat c.toNat).toNat = c.toNat := by
  rw [UInt8.toNat_ofNat']
  exact Nat.mod_eq_of_lt small

theorem printable_encoded {c : Char} (h : Host.isPrintable c = true) :
    Firmware.isPrintable (UInt8.ofNat c.toNat) = true ∧ UInt8.ofNat c.toNat ≠ lineFeed ∧
      UInt8.ofNat c.toNat ≠ carriageReturn := by
  simp only [Host.isPrintable, Bool.and_eq_true, decide_eq_true_eq] at h
  have value := toNat_encoded (show c.toNat < 256 by omega)
  refine ⟨?_, fun is => ?_, fun is => ?_⟩
  · simp only [Firmware.isPrintable, Bool.and_eq_true, decide_eq_true_eq,
      UInt8.le_iff_toNat_le, value]
    exact h
  · rw [is] at value
    simp only [lineFeed, UInt8.reduceToNat] at value
    omega
  · rw [is] at value
    simp only [carriageReturn, UInt8.reduceToNat] at value
    omega

theorem space_encoded {c : Char} (h : Host.isPrintable c = true) :
    UInt8.ofNat c.toNat = space ↔ Host.isSpace c = true := by
  simp only [Host.isPrintable, Bool.and_eq_true, decide_eq_true_eq] at h
  have value := toNat_encoded (show c.toNat < 256 by omega)
  rw [← UInt8.toNat_inj, value]
  simp only [space, UInt8.reduceToNat, Host.isSpace, Bool.or_eq_true, Bool.and_eq_true,
    decide_eq_true_eq]
  omega

theorem digits_toString (n : Nat) : (toString n).toList = Nat.toDigits 10 n := Nat.toList_repr

theorem isDigit_encoded {c : Char} (h : c.isDigit = true) :
    Firmware.isDigit (UInt8.ofNat c.toNat) = true ∧
      digitValue (UInt8.ofNat c.toNat) = c.toNat - '0'.toNat ∧ Host.isPrintable c = true := by
  simp only [Char.isDigit, Bool.and_eq_true, decide_eq_true_eq, ge_iff_le] at h
  have low : 48 ≤ c.toNat := h.1
  have high : c.toNat ≤ 57 := h.2
  have value := toNat_encoded (show c.toNat < 256 by omega)
  refine ⟨?_, ?_, ?_⟩
  · simp only [Firmware.isDigit, Bool.and_eq_true, decide_eq_true_eq, UInt8.le_iff_toNat_le, value]
    exact ⟨low, high⟩
  · rw [digitValue, value]
    rfl
  · simp only [Host.isPrintable, Bool.and_eq_true, decide_eq_true_eq]
    omega

theorem le_ofDigitChars (digits : List Char) (n : Nat) : n ≤ Nat.ofDigitChars 10 digits n := by
  induction digits generalizing n with
  | nil => exact Nat.le_refl n
  | cons c digits ih =>
    refine Nat.le_trans ?_ (ih (10 * n + (c.toNat - '0'.toNat)))
    omega

theorem envelopeId_digits {digits : List Char} (all : ∀ c ∈ digits, c.isDigit = true) {n : Nat}
    (small : Nat.ofDigitChars 10 digits n ≤ 65535) {b : UInt8} (end' : Firmware.isDigit b = false)
    (rest : Bytes) :
    envelopeId (encode digits ++ b :: rest) n = some (Nat.ofDigitChars 10 digits n, b :: rest) := by
  induction digits generalizing n with
  | nil =>
    rw [encode, List.map_nil, List.nil_append, envelopeId, end']
    rfl
  | cons c digits ih =>
    obtain ⟨digit, value, -⟩ := isDigit_encoded (all c List.mem_cons_self)
    have next : Nat.ofDigitChars 10 (c :: digits) n =
        Nat.ofDigitChars 10 digits (n * 10 + (c.toNat - '0'.toNat)) := by
      rw [Nat.mul_comm]
      rfl
    rw [next] at small ⊢
    have bounded := Nat.le_trans (le_ofDigitChars digits _) small
    rw [encode, List.map_cons, List.cons_append, envelopeId, if_pos digit, value,
      if_neg (Nat.not_lt.mpr bounded)]
    exact ih (fun c member => all c (List.mem_cons_of_mem _ member)) small

theorem strip_eq {t : Text} (h : strip t = t) :
    (∀ c, t.head? = some c → Host.isSpace c = false) ∧
      ∀ c, t.getLast? = some c → Host.isSpace c = false := by
  have kept : t.dropWhile Host.isSpace = t := by
    refine (List.dropWhile_suffix Host.isSpace).eq_of_length ?_
    have once := (List.dropWhile_suffix (l := t) Host.isSpace).length_le
    have twice := (List.rdropWhile_prefix Host.isSpace (t.dropWhile Host.isSpace)).length_le
    rw [show List.rdropWhile Host.isSpace (t.dropWhile Host.isSpace) = t from h] at twice
    exact Nat.le_antisymm once twice
  rw [strip, kept] at h
  refine ⟨fun c head => ?_, fun c last => ?_⟩
  · cases t with
    | nil => cases head
    | cons d t =>
      cases head
      have first := List.dropWhile_eq_self_iff.mp kept (Nat.zero_lt_succ _)
      simpa using first
  · cases t with
    | nil => cases last
    | cons d t =>
      have end' := List.rdropWhile_eq_self_iff.mp h (List.cons_ne_nil _ _)
      rw [List.getLast?_eq_some_getLast (List.cons_ne_nil d t)] at last
      cases last
      simpa using end'

theorem formatRequest_eq_ok {requestId : Nat} {command frame : Text}
    (h : formatRequest requestId command false = .ok frame) :
    (1 ≤ requestId ∧ requestId ≤ 65535) ∧ command ≠ [] ∧ strip command = command ∧
      (∀ c ∈ command, Host.isPrintable c = true) ∧
      frame = '@' :: (toString requestId).toList ++ ' ' :: command ∧ frame.length ≤ 64 := by
  unfold formatRequest at h
  by_cases range : (requestId < 1 || 65535 < requestId) = true
  · rw [if_pos range] at h
    cases h
  rw [if_neg range] at h
  by_cases fits : (command = [] || command ≠ strip command || command.contains '*' ||
      !command.all Host.isPrintable) = true
  · rw [if_pos fits] at h
    cases h
  rw [if_neg fits] at h
  dsimp only at h
  rw [if_neg (by decide : ¬ false = true)] at h
  split_ifs at h with ascii
  change (if 64 < ('@' :: (toString requestId).toList ++ ' ' :: command).length then
      Except.error (ProtocolError.parse "v2 request exceeds 64 bytes") else .ok _) = .ok frame at h
  split_ifs at h with long
  cases h
  simp only [Bool.or_eq_true, decide_eq_true_eq, not_or, Bool.not_eq_true', Bool.not_eq_true,
    ne_eq, not_not, Bool.not_eq_false, List.all_eq_true] at range fits
  exact ⟨⟨by omega, by omega⟩, fits.1.1.1, fits.1.1.2.symm, fits.2, rfl, by omega⟩

theorem feed_printable {bs : Bytes} (printable : ∀ b ∈ bs, Firmware.isPrintable b = true ∧
      b ≠ lineFeed ∧ b ≠ carriageReturn) (buffer : Bytes)
    (fits : buffer.length + bs.length ≤ v2MaxLineLength) :
    feed V2FrameParser.consume ⟨buffer, .noFrame, false⟩ bs =
      (⟨buffer ++ bs, .noFrame, false⟩, List.replicate bs.length .noFrame) := by
  induction bs generalizing buffer with
  | nil => simp [feed]
  | cons b bs ih =>
    obtain ⟨visible, notFeed, notReturn⟩ := printable b List.mem_cons_self
    rw [List.length_cons] at fits
    have room : ¬ buffer.length = v2MaxLineLength := by omega
    have consumed : V2FrameParser.consume ⟨buffer, .noFrame, false⟩ b =
        (⟨buffer ++ [b], .noFrame, false⟩, .noFrame) := by
      simp [V2FrameParser.consume, notFeed, notReturn, visible, room]
    have rest := ih (fun b member => printable b (List.mem_cons_of_mem _ member))
      (buffer ++ [b]) (by rw [List.length_append, List.length_singleton]; omega)
    rw [feed, consumed, rest, List.append_assoc]
    rfl

theorem feed_frame {bs terminator : Bytes}
    (printable : ∀ b ∈ bs, Firmware.isPrintable b = true ∧
      b ≠ lineFeed ∧ b ≠ carriageReturn) (fits : bs.length ≤ v2MaxLineLength)
    (ends : terminator = [lineFeed] ∨ terminator = [carriageReturn, lineFeed]) :
    feed V2FrameParser.consume .reset (bs ++ terminator) =
      (⟨bs, .noFrame, false⟩,
        List.replicate (bs.length + terminator.length - 1) .noFrame ++ [.frameReady]) := by
  have body := feed_printable printable [] (by simpa using fits)
  rw [feed_append, show V2FrameParser.reset = ⟨[], .noFrame, false⟩ from rfl, body]
  rcases ends with rfl | rfl
  · simp [feed, V2FrameParser.consume]
  · simp [feed, V2FrameParser.consume, List.replicate_succ', carriageReturn, lineFeed]

theorem feed_otherLine (bs : Bytes) (inner : ∀ b ∈ bs, b ≠ lineFeed) :
    feed RawStopLineDetector.consume ⟨6⟩ (bs ++ [lineFeed]) =
      (.reset, List.replicate (bs.length + 1) false) := by
  induction bs with
  | nil => rfl
  | cons b bs ih =>
    have stays : RawStopLineDetector.consume ⟨6⟩ b = (⟨6⟩, false) := by
      simp [RawStopLineDetector.consume, inner b List.mem_cons_self,
        RawStopLineDetector.matchesNext]
    rw [List.cons_append, feed, stays, ih fun b member => inner b (List.mem_cons_of_mem _ member)]
    rfl

section Framed

variable {requestId : Nat} {command : Text}

theorem encode_frame : encode ('@' :: (toString requestId).toList ++ ' ' :: command) =
    atSign :: (encode (toString requestId).toList ++ space :: encode command) := by
  rw [encode, List.map_append, List.map_cons, List.map_cons]
  rfl

theorem envelope_read (range : 1 ≤ requestId ∧ requestId ≤ 65535) (given : command ≠ [])
    (stripped : strip command = command) (printable : ∀ c ∈ command, Host.isPrintable c = true)
    (digits : ∀ c ∈ (toString requestId).toList, c.isDigit = true)
    (bytes : ∀ b ∈ encode ('@' :: (toString requestId).toList ++ ' ' :: command),
      Firmware.isPrintable b = true ∧ b ≠ lineFeed ∧ b ≠ carriageReturn)
    (short : (encode ('@' :: (toString requestId).toList ++ ' ' :: command)).length ≤ 64) :
    parseV2RequestEnvelope (encode ('@' :: (toString requestId).toList ++ ' ' :: command)) =
      .ready ⟨requestId, encode command, true⟩ := by
  obtain ⟨first, last⟩ := strip_eq stripped
  rw [encode_frame] at bytes short ⊢
  have value : Nat.ofDigitChars 10 (toString requestId).toList 0 = requestId := by
    rw [digits_toString, Nat.ofDigitChars_ten_toDigits]
  have named := envelopeId_digits digits (n := 0) (by rw [value]; exact range.2)
    (b := space) (by decide) (encode command)
  rw [value] at named
  have some' : 0 < (encode (toString requestId).toList).length := by
    rw [encode, List.length_map, digits_toString]
    exact Nat.length_toDigits_pos
  have head : ¬ (encode command).head? = some space := by
    intro is
    rw [encode, List.head?_map, Option.map_eq_some_iff] at is
    obtain ⟨c, head, byte⟩ := is
    rw [space_encoded (printable c (List.mem_of_mem_head? head)), first c head] at byte
    cases byte
  have end' :
      ¬ (atSign :: (encode (toString requestId).toList ++ space :: encode command)).getLast? =
        some space := by
    intro is
    obtain ⟨d, tail, rfl⟩ := List.exists_cons_of_ne_nil given
    rw [List.append_cons, ← List.cons_append, List.getLast?_append_of_ne_nil _ (by simp [encode]),
      encode, List.getLast?_map, Option.map_eq_some_iff] at is
    obtain ⟨c, end', byte⟩ := is
    rw [space_encoded (printable c (List.mem_of_mem_getLast? end')), last c end'] at byte
    cases byte
  have visible : ¬ (!(atSign :: (encode (toString requestId).toList ++
      space :: encode command)).all Firmware.isPrintable) = true := by
    simp only [Bool.not_eq_true', Bool.not_eq_false, List.all_eq_true]
    exact fun b member => (bytes b member).1
  have long :
      ¬ ((atSign :: (encode (toString requestId).toList ++ space :: encode command)).length = 0 ∨
        v2MaxLineLength < (atSign :: (encode (toString requestId).toList ++
          space :: encode command)).length) := by
    rw [v2MaxLineLength]
    simp only [List.length_cons] at short ⊢
    omega
  have some'' : encode command ≠ [] := by
    simpa [encode] using given
  rw [parseV2RequestEnvelope, if_neg long, if_neg visible, if_neg (by simp), List.tail_cons, named]
  dsimp only
  rw [if_neg, List.tail_cons, if_neg]
  · simp only [not_or]
    exact ⟨some'', head, end'⟩
  · simp only [List.length_append, List.length_cons, List.head?_cons, not_or]
    refine ⟨?_, ?_, ?_⟩
    · omega
    · omega
    · simp

theorem detector_read {terminator : Bytes}
    (bytes : ∀ b ∈ encode ('@' :: (toString requestId).toList ++ ' ' :: command),
      Firmware.isPrintable b = true ∧ b ≠ lineFeed ∧ b ≠ carriageReturn)
    (ends : terminator = [lineFeed] ∨ terminator = [carriageReturn, lineFeed]) :
    (feed RawStopLineDetector.consume .reset
        (encode ('@' :: (toString requestId).toList ++ ' ' :: command) ++ terminator)).2 =
      List.replicate ((encode ('@' :: (toString requestId).toList ++ ' ' :: command)).length +
        terminator.length) false := by
  rw [encode_frame] at bytes ⊢
  obtain ⟨before, rfl, inner⟩ : ∃ before, terminator = before ++ [lineFeed] ∧
      ∀ b ∈ before, b ≠ lineFeed := by
    rcases ends with rfl | rfl
    · exact ⟨[], rfl, by simp⟩
    · exact ⟨[carriageReturn], rfl, by simp [carriageReturn, lineFeed]⟩
  have other := feed_otherLine (encode (toString requestId).toList ++
    space :: encode command ++ before) (fun b member => by
      rcases List.mem_append.mp member with body | rest
      · exact (bytes b (List.mem_cons_of_mem _ body)).2.1
      · exact inner b rest)
  have opened : RawStopLineDetector.consume .reset atSign = (⟨6⟩, false) := by decide
  rw [List.cons_append, ← List.append_assoc, feed, opened, other, List.length_cons,
    ← List.replicate_succ]
  refine congrArg (fun n => List.replicate n false) ?_
  simp only [List.length_append, List.length_singleton]
  omega

end Framed

/-- Every request the host accepts is one the firmware reads back, at the line feed and
not before, with its ID and its command; it is not taken for a raw stop. -/
theorem formatRequest_roundTrip (requestId : Nat) (command frame : Text)
    (accepted : formatRequest requestId command false = .ok frame) (terminator : Bytes)
    (ends : terminator = [lineFeed] ∨ terminator = [carriageReturn, lineFeed]) :
    feed V2FrameParser.consume .reset (encode frame ++ terminator) =
        (⟨encode frame, .noFrame, false⟩,
          List.replicate (frame.length + terminator.length - 1) .noFrame ++ [.frameReady]) ∧
      parseV2RequestEnvelope (encode frame) = .ready ⟨requestId, encode command, true⟩ ∧
      (feed RawStopLineDetector.consume .reset (encode frame ++ terminator)).2 =
        List.replicate (frame.length + terminator.length) false := by
  obtain ⟨range, given, stripped, printable, rfl, short⟩ := formatRequest_eq_ok accepted
  have digits : ∀ c ∈ (toString requestId).toList, c.isDigit = true := by
    intro c member
    rw [digits_toString] at member
    exact Nat.isDigit_of_mem_toDigits (by decide) (by decide) member
  have visible : ∀ c ∈ '@' :: (toString requestId).toList ++ ' ' :: command,
      Host.isPrintable c = true := by
    intro c member
    rw [List.cons_append, List.mem_cons, List.mem_append, List.mem_cons] at member
    rcases member with rfl | digit | rfl | member
    · decide
    · exact (isDigit_encoded (digits c digit)).2.2
    · decide
    · exact printable c member
  have bytes : ∀ b ∈ encode ('@' :: (toString requestId).toList ++ ' ' :: command),
      Firmware.isPrintable b = true ∧ b ≠ lineFeed ∧ b ≠ carriageReturn := by
    intro b member
    obtain ⟨c, of, rfl⟩ := List.mem_map.mp member
    exact printable_encoded (visible c of)
  have length : (encode ('@' :: (toString requestId).toList ++ ' ' :: command)).length =
      ('@' :: (toString requestId).toList ++ ' ' :: command).length := List.length_map _
  refine ⟨?_, ?_, ?_⟩
  · rw [← length] at short ⊢
    exact feed_frame bytes short ends
  · exact envelope_read range given stripped printable digits bytes (length ▸ short)
  · rw [← length]
    exact detector_read bytes ends

/-- The largest ID, an inner space and a frame of exactly 64 bytes. -/
theorem formatRequest_roundTrip_largest :
    formatRequest 65535 ("a b".toList ++ List.replicate 54 'c') false =
        .ok ("@65535 a b".toList ++ List.replicate 54 'c') ∧
      parseV2RequestEnvelope (encode ("@65535 a b".toList ++ List.replicate 54 'c')) =
        .ready ⟨65535, encode ("a b".toList ++ List.replicate 54 'c'), true⟩ := by
  have accepted : formatRequest 65535 ("a b".toList ++ List.replicate 54 'c') false =
      .ok ("@65535 a b".toList ++ List.replicate 54 'c') := by decide +kernel
  exact ⟨accepted, (formatRequest_roundTrip 65535 _ _ accepted [carriageReturn, lineFeed]
    (.inr rfl)).2.1⟩

end CaseSorter.Link
