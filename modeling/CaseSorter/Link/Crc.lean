import CaseSorter.Firmware.Crc16
import CaseSorter.Link.FramingAgreement

/-! The check of a frame on both sides of the link: the sketch and the host compute one value,
what the host appends it verifies and removes, and it refuses a body that a short burst of errors
has changed. -/

namespace CaseSorter.Link

open CaseSorter.Firmware CaseSorter.Host CaseSorter.ShiftRegister

theorem crcBit_toNat (crc : UInt16) : Host.crcBit crc.toNat = (Firmware.crcBit crc).toNat := by
  have high : crc.toNat &&& 0x8000 ≠ 0 ↔ crc &&& 0x8000 ≠ 0 := by
    rw [ne_eq, ne_eq, ← UInt16.toNat_inj, UInt16.toNat_and]
    rfl
  have low (n : Nat) : n &&& 0xFFFF = n % 2 ^ 16 := Nat.and_two_pow_sub_one_eq_mod n 16
  have moved : (crc <<< 1).toNat = crc.toNat <<< 1 % 2 ^ 16 := UInt16.toNat_shiftLeft ..
  unfold Host.crcBit Firmware.crcBit
  by_cases carry : crc &&& 0x8000 ≠ 0
  · rw [if_pos carry, if_pos (high.mpr carry), UInt16.toNat_xor, moved, Nat.and_xor_distrib_right,
      low]
    rfl
  · rw [if_neg carry, if_neg (high.not.mpr carry), moved, low]

theorem crcByte_toNat (crc : UInt16) (byte : UInt8) :
    Host.crcByte crc.toNat byte.toNat = (crc16CcittFalseUpdateByte crc byte).toNat := by
  have loop (n : Nat) (crc : UInt16) :
      (List.range n).foldl (fun crc _ => Host.crcBit crc) crc.toNat =
        (Firmware.crcBit^[n] crc).toNat := by
    induction n with
    | zero => rfl
    | succ n ih =>
      rw [List.range_succ, List.foldl_append, ih, Function.iterate_succ_apply', ← crcBit_toNat]
      rfl
  have taken : crc.toNat ^^^ (byte.toNat <<< 8) = (crc ^^^ (byte.toUInt16 <<< 8)).toNat := by
    have small := byte.toNat_lt
    have moved : (byte.toUInt16 <<< 8).toNat = byte.toNat <<< 8 % 2 ^ 16 :=
      UInt16.toNat_shiftLeft ..
    rw [UInt16.toNat_xor, moved, Nat.shiftLeft_eq, Nat.mod_eq_of_lt (by omega)]
  rw [Host.crcByte, taken, loop]
  rfl

theorem toNat_ofNat_byte (byte : UInt8) : (Char.ofNat byte.toNat).toNat = byte.toNat := by
  have valid : byte.toNat.isValidChar := .inl (by have := byte.toNat_lt; omega)
  rw [Char.ofNat, dif_pos valid]
  rfl

theorem crc_agree (bytes : Bytes) :
    Host.crc16CcittFalse (decoded bytes) = (Firmware.crc16CcittFalse bytes).toNat := by
  have loop (crc : UInt16) :
      ((decoded bytes).map Char.toNat).foldl Host.crcByte crc.toNat =
        (crc16CcittFalseUpdate crc bytes).toNat := by
    induction bytes generalizing crc with
    | nil => rfl
    | cons byte bytes ih =>
      rw [decoded, List.map_cons, List.map_cons, List.foldl_cons, toNat_ofNat_byte, crcByte_toNat]
      exact ih _
  exact loop crc16CcittFalseInitial

theorem hexDigit_plain : ∀ n < 16, isHexDigit (hexDigit n) = true ∧ hexDigit n ≠ '*' :=
  by decide

theorem hexDigit_injective : ∀ n < 16, ∀ m < 16, hexDigit n = hexDigit m → n = m := by decide

theorem formatCrc_plain (t : Text) : ∀ c ∈ formatCrc t, isHexDigit c = true ∧ c ≠ '*' := by
  have digit (k : Nat) := hexDigit_plain (k % 16) (Nat.mod_lt _ (by decide))
  intro c member
  simp only [formatCrc, List.mem_cons, List.not_mem_nil, or_false] at member
  rcases member with rfl | rfl | rfl | rfl <;> exact digit _

theorem beforeStar_append (body : Text) {suffix : Text} (plain : ∀ c ∈ suffix, c ≠ '*') :
    beforeStar (body ++ '*' :: suffix) = body := by
  have later : ∀ c ∈ suffix.reverse, decide (c ≠ '*') = true := fun c member =>
    decide_eq_true (plain c (List.mem_reverse.mp member))
  rw [beforeStar, List.reverse_append, List.reverse_cons, List.append_assoc,
    List.dropWhile_append_of_pos later, List.singleton_append, List.dropWhile_cons_of_neg (by simp),
    List.tail_cons, List.reverse_reverse]

theorem afterStar_append (body : Text) {suffix : Text} (plain : ∀ c ∈ suffix, c ≠ '*') :
    afterStar (body ++ '*' :: suffix) = suffix := by
  have later : ∀ c ∈ suffix.reverse, decide (c ≠ '*') = true := fun c member =>
    decide_eq_true (plain c (List.mem_reverse.mp member))
  rw [afterStar, List.reverse_append, List.reverse_cons, List.append_assoc,
    List.takeWhile_append_of_pos later, List.singleton_append, List.takeWhile_cons_of_neg (by simp),
    List.append_nil, List.reverse_reverse]

theorem removeAndVerifyCrc_suffixed (body other kept : Text) :
    removeAndVerifyCrc (body ++ '*' :: formatCrc other) true = .ok kept ↔
      isAscii body = true ∧ formatCrc other = formatCrc body ∧ kept = body := by
  have plain := formatCrc_plain other
  have starred : (body ++ '*' :: formatCrc other).contains '*' = true := by simp
  have digits : (formatCrc other).all isHexDigit = true :=
    List.all_eq_true.mpr fun c member => (plain c member).1
  have length : (formatCrc other).length = 4 := rfl
  unfold removeAndVerifyCrc
  rw [starred, afterStar_append body fun c member => (plain c member).2,
    beforeStar_append body fun c member => (plain c member).2]
  simp only [digits, length]
  split_ifs with absent malformed other' bad
  · cases absent
  · cases malformed
  · refine ⟨nofun, fun all => ?_⟩
    rw [all.1] at other'
    cases other'
  · exact ⟨nofun, fun all => absurd all.2.1 bad⟩
  · have ascii' : isAscii body = true := by simpa using other'
    rw [Except.ok.injEq]
    exact ⟨fun same => ⟨ascii', not_ne_iff.mp bad, same.symm⟩, fun all => all.2.2.symm⟩

theorem decoded_encode {t : Text} (small : ∀ c ∈ t, c.toNat < 256) :
    decoded (encode t) = t := by
  induction t with
  | nil => rfl
  | cons c t ih =>
    have own := toNat_encoded (small c List.mem_cons_self)
    rw [encode, decoded, List.map_cons, List.map_cons, own, Char.ofNat_toNat]
    exact congrArg (c :: ·) (ih fun d member => small d (List.mem_cons_of_mem _ member))

theorem formatCrc_injective {s t : Text} (small : ∀ c ∈ s, c.toNat < 256)
    (small' : ∀ c ∈ t, c.toNat < 256) (same : formatCrc s = formatCrc t) :
    Firmware.crc16CcittFalse (encode s) = Firmware.crc16CcittFalse (encode t) := by
  have whole := crc_agree (encode s)
  have whole' := crc_agree (encode t)
  have bound := (Firmware.crc16CcittFalse (encode s)).toNat_lt
  have bound' := (Firmware.crc16CcittFalse (encode t)).toNat_lt
  rw [decoded_encode small] at whole
  rw [decoded_encode small'] at whole'
  rw [← UInt16.toNat_inj]
  rw [← whole] at bound ⊢
  rw [← whole'] at bound' ⊢
  have digit {n m : Nat} (k : Nat) (h : hexDigit (n / k % 16) = hexDigit (m / k % 16)) :
      n / k % 16 = m / k % 16 :=
    hexDigit_injective _ (Nat.mod_lt _ (by decide)) _ (Nat.mod_lt _ (by decide)) h
  simp only [formatCrc, List.cons.injEq, and_true] at same
  obtain ⟨first, second, third, fourth⟩ := same
  have one := digit 4096 first
  have two := digit 256 second
  have three := digit 16 third
  have four := hexDigit_injective _ (Nat.mod_lt _ (by decide)) _ (Nat.mod_lt _ (by decide)) fourth
  omega

theorem byteBits_injective : Function.Injective byteBits := by
  intro a b same
  refine UInt8.toBitVec_inj.mp (BitVec.eq_of_getMsbD_eq fun i inside => ?_)
  exact List.map_inj_left.mp same i (List.mem_range.mpr inside)

theorem bits_injective {a b : Bytes} (length : a.length = b.length) (same : bits a = bits b) :
    a = b := by
  induction a generalizing b with
  | nil => exact (List.length_eq_zero_iff.mp length.symm).symm
  | cons x a ih =>
    cases b with
    | nil => cases length
    | cons y b =>
      obtain ⟨first, rest⟩ := List.append_inj same rfl
      rw [byteBits_injective first, ih (Nat.succ.inj length) rest]

theorem bits_length (bytes : Bytes) : (bits bytes).length = 8 * bytes.length := by
  induction bytes with
  | nil => rfl
  | cons byte bytes ih =>
    rw [bits, List.flatMap_cons, List.length_append, ← bits, ih, byteBits_length,
      List.length_cons]
    omega

/-- Two bodies of one length that differ, and nowhere outside sixteen bits in a row. -/
def BurstApart (a b : Bytes) : Prop :=
  a.length = b.length ∧ a ≠ b ∧
    ∃ start, ∀ i : Nat, (bits a)[i]? ≠ (bits b)[i]? → start ≤ i ∧ i < start + 16

theorem burst_crc {a b : Bytes} (apart : BurstApart a b) :
    Firmware.crc16CcittFalse a ≠ Firmware.crc16CcittFalse b := by
  obtain ⟨length, differ, start, within⟩ := apart
  intro same
  have registers := congrArg UInt16.toBitVec same
  rw [Firmware.crc16CcittFalse, Firmware.crc16CcittFalse, update_feedAll, update_feedAll]
    at registers
  refine feedAll_apart polynomial (by decide) _ ?_ (fun eq => differ (bits_injective length eq))
    start within registers
  rw [bits_length, bits_length, length]

/-- The two implementations compute one value, over a concatenation as over its parts in turn; the
digits of every value are read back; the host verifies and removes what it appends; and a body
changed within sixteen bits in a row does not pass with its old suffix. -/
theorem crc_codec :
    (∀ bytes, Host.crc16CcittFalse (decoded bytes) = (Firmware.crc16CcittFalse bytes).toNat) ∧
    (∀ crc bytes more, crc16CcittFalseUpdate crc (bytes ++ more) =
      crc16CcittFalseUpdate (crc16CcittFalseUpdate crc bytes) more) ∧
    (∀ crc, ∃ output, formatCrc16CcittFalse 5 crc = some output ∧
      parseCrc16CcittFalse output 4 = some crc) ∧
    (∀ frame, isAscii frame = true → ∃ suffixed, appendCrc frame = .ok suffixed ∧
      removeAndVerifyCrc suffixed true = .ok frame) ∧
    ∀ frame changed, isAscii frame = true → (∀ c ∈ changed, c.toNat < 256) →
      BurstApart (encode frame) (encode changed) →
      ∀ kept, removeAndVerifyCrc (changed ++ '*' :: formatCrc frame) true ≠ .ok kept := by
  refine ⟨crc_agree, crc16CcittFalseUpdate_append, ?_, ?_, ?_⟩
  · intro crc
    exact ⟨_, rfl, parse_format 5 crc _ rfl⟩
  · intro frame plain
    have appended : appendCrc frame = .ok (frame ++ '*' :: formatCrc frame) := if_pos plain
    exact ⟨_, appended, (removeAndVerifyCrc_suffixed frame frame frame).mpr
      ⟨plain, rfl, rfl⟩⟩
  · intro frame changed plain small apart kept passed
    obtain ⟨-, same, -⟩ := (removeAndVerifyCrc_suffixed changed frame kept).mp passed
    have ascii' : ∀ c ∈ frame, c.toNat < 256 := by
      intro c member
      have below := of_decide_eq_true (List.all_eq_true.mp plain c member)
      omega
    exact burst_crc apart (formatCrc_injective ascii' small same)

end CaseSorter.Link
