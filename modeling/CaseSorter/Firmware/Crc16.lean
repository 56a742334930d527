import Mathlib.Algebra.Group.Nat.Defs
import CaseSorter.Firmware.Framing
import CaseSorter.Lib.ShiftRegister

/-! crc16.cpp: the CRC-16/CCITT-FALSE of the sketch, its four hexadecimal digits, and the shift
register it is. -/

namespace CaseSorter.Firmware

open CaseSorter.ShiftRegister

def crc16CcittFalseInitial : UInt16 := 0xFFFF

def crcBit (crc : UInt16) : UInt16 :=
  if crc &&& 0x8000 ≠ 0 then (crc <<< 1) ^^^ 0x1021 else crc <<< 1

def crc16CcittFalseUpdateByte (crc : UInt16) (byte : UInt8) : UInt16 :=
  crcBit^[8] (crc ^^^ (byte.toUInt16 <<< 8))

def crc16CcittFalseUpdate (crc : UInt16) (bytes : Bytes) : UInt16 :=
  bytes.foldl crc16CcittFalseUpdateByte crc

def crc16CcittFalse (bytes : Bytes) : UInt16 := crc16CcittFalseUpdate crc16CcittFalseInitial bytes

def hex : Bytes := ascii "0123456789ABCDEF"

/-- What `output` holds, up to the zero that ends it. -/
def formatCrc16CcittFalse (capacity : Nat) (crc : UInt16) : Option Bytes :=
  if capacity < 5 then none
  else some [hex.getD ((crc >>> 12) &&& 0xF).toNat 0, hex.getD ((crc >>> 8) &&& 0xF).toNat 0,
    hex.getD ((crc >>> 4) &&& 0xF).toNat 0, hex.getD (crc &&& 0xF).toNat 0, 0]

def nibble (character : UInt8) : Option UInt8 :=
  if 48 ≤ character ∧ character ≤ 57 then some (character - 48)
  else if 65 ≤ character ∧ character ≤ 70 then some (character - 65 + 10)
  else none

def parseCrcLoop : Bytes → UInt16 → Option UInt16
  | [], parsed => some parsed
  | character :: rest, parsed =>
    match nibble character with
    | none => none
    | some n => parseCrcLoop rest ((parsed <<< 4) ||| n.toUInt16)

def parseCrc16CcittFalse (text : Bytes) (length : Nat) : Option UInt16 :=
  if length ≠ 4 then none else parseCrcLoop (text.take length) 0

theorem crc16CcittFalseUpdate_append (crc : UInt16) (bytes more : Bytes) :
    crc16CcittFalseUpdate crc (bytes ++ more) =
      crc16CcittFalseUpdate (crc16CcittFalseUpdate crc bytes) more := List.foldl_append

theorem nibble_hex : ∀ n < 16, nibble (hex.getD n 0) = some (UInt8.ofNat n) := by decide

theorem shifted_nibble {parsed : UInt16} {n : Nat} (small : parsed.toNat < 4096) (digit : n < 16) :
    ((parsed <<< 4) ||| (UInt8.ofNat n).toUInt16).toNat = parsed.toNat * 16 + n := by
  have value : (UInt8.ofNat n).toUInt16.toNat = n := by
    rw [UInt8.toNat_toUInt16, UInt8.toNat_ofNat']
    exact Nat.mod_eq_of_lt (by omega)
  have moved : (parsed <<< 4).toNat = parsed.toNat <<< 4 := by
    rw [UInt16.toNat_shiftLeft]
    change parsed.toNat <<< 4 % 65536 = _
    rw [Nat.shiftLeft_eq]
    omega
  rw [UInt16.toNat_or, value, moved, ← Nat.shiftLeft_add_eq_or_of_lt digit, Nat.shiftLeft_eq]

theorem parseCrcLoop_hex {n : Nat} (digit : n < 16) (rest : Bytes) (parsed : UInt16) :
    parseCrcLoop (hex.getD n 0 :: rest) parsed =
      parseCrcLoop rest ((parsed <<< 4) ||| (UInt8.ofNat n).toUInt16) := by
  rw [parseCrcLoop, nibble_hex n digit]

theorem nibble_toNat (crc : UInt16) (k : Nat) (few : k < 16) :
    ((crc >>> UInt16.ofNat k) &&& 0xF).toNat = crc.toNat / 2 ^ k % 16 := by
  have count : (UInt16.ofNat k).toNat % 16 = k := by
    rw [UInt16.toNat_ofNat']
    omega
  rw [UInt16.toNat_and, UInt16.toNat_shiftRight, count, Nat.shiftRight_eq_div_pow]
  exact Nat.and_two_pow_sub_one_eq_mod _ 4

theorem parse_format (capacity : Nat) (crc : UInt16) (output : Bytes)
    (h : formatCrc16CcittFalse capacity crc = some output) :
    parseCrc16CcittFalse output 4 = some crc := by
  unfold formatCrc16CcittFalse at h
  split_ifs at h
  cases h
  have whole := crc.toNat_lt
  have first := nibble_toNat crc 12 (by decide)
  have second := nibble_toNat crc 8 (by decide)
  have third := nibble_toNat crc 4 (by decide)
  have fourth : (crc &&& 0xF).toNat = crc.toNat % 16 := by
    rw [UInt16.toNat_and]
    exact Nat.and_two_pow_sub_one_eq_mod _ 4
  change ((crc >>> 12) &&& 0xF).toNat = _ at first
  change ((crc >>> 8) &&& 0xF).toNat = _ at second
  change ((crc >>> 4) &&& 0xF).toNat = _ at third
  have less (k : Nat) : crc.toNat / k % 16 < 16 := Nat.mod_lt _ (by decide)
  have last : crc.toNat % 16 < 16 := Nat.mod_lt _ (by decide)
  have zero : (0 : UInt16).toNat < 4096 := by decide
  have one := shifted_nibble zero (less (2 ^ 12))
  have two := shifted_nibble (by rw [one, UInt16.toNat_zero]; omega) (less (2 ^ 8))
  have three := shifted_nibble (by rw [two, one, UInt16.toNat_zero]; omega) (less (2 ^ 4))
  have four := shifted_nibble (by rw [three, two, one, UInt16.toNat_zero]; omega) last
  rw [parseCrc16CcittFalse, if_neg (by decide), first, second, third, fourth]
  simp only [List.take_succ_cons, List.take_zero]
  rw [parseCrcLoop_hex (less _), parseCrcLoop_hex (less _), parseCrcLoop_hex (less _),
    parseCrcLoop_hex last, parseCrcLoop, Option.some.injEq, ← UInt16.toNat_inj, four, three, two,
    one, UInt16.toNat_zero]
  omega

def byteBits (byte : UInt8) : List Bool := (List.range 8).map byte.toBitVec.getMsbD

def bits (bytes : Bytes) : List Bool := bytes.flatMap byteBits

def polynomial : BitVec 16 := 0x1021#16

theorem crcBit_shift (crc : UInt16) : (crcBit crc).toBitVec = shift polynomial crc.toBitVec := by
  have high : crc &&& 0x8000 ≠ 0 ↔ crc.toBitVec.msb = true := by
    have others : ∀ i < 15, (0x8000#16).getMsbD (i + 1) = false := by decide
    have bit : (crc &&& 0x8000).toBitVec = if crc.toBitVec.msb then 0x8000#16 else 0#16 := by
      rw [UInt16.toBitVec_and]
      change crc.toBitVec &&& 0x8000#16 = _
      refine BitVec.eq_of_getMsbD_eq fun i inside => ?_
      cases i with
      | zero =>
        rw [BitVec.getMsbD_and, ← BitVec.msb_eq_getMsbD_zero]
        cases crc.toBitVec.msb <;> rfl
      | succ i =>
        rw [BitVec.getMsbD_and, others i (by omega), Bool.and_false]
        cases crc.toBitVec.msb
        · exact BitVec.getMsbD_zero.symm
        · exact (others i (by omega)).symm
    rw [ne_eq, ← UInt16.toBitVec_inj, bit]
    cases crc.toBitVec.msb <;> decide
  unfold crcBit shift
  by_cases carry : crc &&& 0x8000 ≠ 0
  · rw [if_pos carry, if_pos (high.mp carry)]
    rfl
  · rw [if_neg carry, if_neg (high.not.mp carry)]
    rfl

theorem iterate_crcBit (n : Nat) (crc : UInt16) :
    (crcBit^[n] crc).toBitVec = (shift polynomial)^[n] crc.toBitVec := by
  induction n generalizing crc with
  | zero => rfl
  | succ n ih => rw [Function.iterate_succ_apply, ih, crcBit_shift, Function.iterate_succ_apply]

theorem byteBits_length (byte : UInt8) : (byteBits byte).length = 8 := rfl

theorem aligned_byteBits (byte : UInt8) :
    (aligned (byteBits byte) : BitVec 16) = (byte.toUInt16 <<< 8).toBitVec := by
  have moved : (byte.toUInt16 <<< 8).toBitVec = byte.toBitVec.setWidth 16 <<< 8 := rfl
  refine BitVec.eq_of_getMsbD_eq fun i inside => ?_
  rw [moved, aligned_getMsbD, BitVec.getMsbD_shiftLeft, BitVec.getMsbD_setWidth, byteBits,
    decide_eq_true inside, Bool.true_and, List.getD_eq_getElem?_getD, List.getElem?_map]
  rcases Nat.lt_or_ge i 8 with early | late
  · rw [List.getElem?_range early]
    simp
  · rw [List.getElem?_eq_none (by simpa using late), BitVec.getMsbD_of_ge _ _ (by omega)]
    simp

theorem updateByte_feedAll (crc : UInt16) (byte : UInt8) :
    (crc16CcittFalseUpdateByte crc byte).toBitVec =
      feedAll polynomial crc.toBitVec (byteBits byte) := by
  rw [feedAll_eq _ _ (byteBits_length byte ▸ by decide), crc16CcittFalseUpdateByte,
    iterate_crcBit, UInt16.toBitVec_xor, aligned_byteBits]
  rfl

theorem update_feedAll (crc : UInt16) (bytes : Bytes) :
    (crc16CcittFalseUpdate crc bytes).toBitVec = feedAll polynomial crc.toBitVec (bits bytes) := by
  induction bytes generalizing crc with
  | nil => rfl
  | cons byte bytes ih =>
    rw [bits, List.flatMap_cons, feedAll_append, ← updateByte_feedAll, ← bits, ← ih]
    rfl

end CaseSorter.Firmware
