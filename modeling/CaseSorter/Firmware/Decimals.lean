import Mathlib.Algebra.Group.Int.Defs
import Mathlib.Algebra.Group.Nat.Defs
import CaseSorter.Firmware.SetterAgreement

/-! `parseUint32` and `parseInt32` of logic.cpp in the 32 bits that the controller has. No sum
leaves them, so that a text is accepted exactly when it denotes a number within the bounds. -/

namespace CaseSorter.Firmware

theorem le_foldl_decimal (text : Bytes) (n : Nat) :
    n ≤ text.foldl (fun n d => n * 10 + digitValue d) n := by
  induction text generalizing n with
  | nil => exact Nat.le_refl n
  | cons d text ih =>
    have next := ih (n * 10 + digitValue d)
    rw [List.foldl_cons]
    omega

theorem parseUint32Loop_of_decimal {maximum : Nat} {text : Bytes} {parsed : Nat}
    (digits : ∀ d ∈ text, isDigit d = true)
    (most : text.foldl (fun n d => n * 10 + digitValue d) parsed ≤ maximum) :
    parseUint32Loop maximum text parsed =
      some (text.foldl (fun n d => n * 10 + digitValue d) parsed) := by
  induction text generalizing parsed with
  | nil => rfl
  | cons d text ih =>
    have digit := digits d List.mem_cons_self
    have small := digitValue_le digit
    have grows := le_foldl_decimal text (parsed * 10 + digitValue d)
    rw [List.foldl_cons] at most ⊢
    rw [parseUint32Loop, if_neg (by simp [digit]), if_neg (by omega)]
    exact ih (fun e member => digits e (List.mem_cons_of_mem _ member)) most

theorem parseUint32_iff {text : Bytes} {maximum value : Nat} :
    parseUint32 text maximum = some value ↔ Unsigned text value ∧ value ≤ maximum := by
  constructor
  · exact parseUint32_decimal
  · rintro ⟨⟨some, digits, rfl⟩, most⟩
    rw [parseUint32, if_neg some]
    exact parseUint32Loop_of_decimal digits most

def digitsOf (text : Bytes) : Bytes :=
  if text.head? = some minus ∨ text.head? = some plus then text.tail else text

theorem signed_iff {text : Bytes} {value : Int} :
    Signed text value ↔ ∃ magnitude, Unsigned (digitsOf text) magnitude ∧
      value = if text.head? = some minus then -(magnitude : Int) else magnitude := by
  have first {digits : Bytes} {n : Nat} (decimal : Unsigned digits n) :
      digits.head? ≠ some minus ∧ digits.head? ≠ some plus := by
    obtain ⟨some, all, -⟩ := decimal
    cases digits with
    | nil => exact absurd rfl some
    | cons d rest =>
      have digit := all d List.mem_cons_self
      rw [List.head?_cons]
      constructor
      · rintro ⟨⟩
        revert digit
        decide
      · rintro ⟨⟩
        revert digit
        decide
  constructor
  · rintro ⟨digits, magnitude, decimal, ⟨rfl, rfl⟩ | ⟨rfl | rfl, rfl⟩⟩
    · exact ⟨magnitude, decimal, rfl⟩
    · exact ⟨magnitude, decimal, rfl⟩
    · have bare := first decimal
      refine ⟨magnitude, ?_, (if_neg bare.1).symm⟩
      rwa [digitsOf, if_neg (not_or.mpr bare)]
  · rintro ⟨magnitude, decimal, rfl⟩
    refine ⟨digitsOf text, magnitude, decimal, ?_⟩
    unfold digitsOf at decimal ⊢
    cases text with
    | nil => exact absurd rfl decimal.1
    | cons d rest =>
      simp only [List.head?_cons, Option.some.injEq, List.tail_cons]
      by_cases negative : d = minus
      · exact .inl ⟨by rw [if_pos (.inl negative), negative], if_pos negative⟩
      · refine .inr ⟨?_, if_neg negative⟩
        by_cases positive : d = plus
        · exact .inl (by rw [if_pos (.inr positive), positive])
        · exact .inr (by rw [if_neg (not_or.mpr ⟨negative, positive⟩)])

theorem parseInt32_digitsOf (text : Bytes) (minimum maximum : Int) :
    parseInt32 text minimum maximum =
      if maximum < minimum ∨ text = [] then none
      else if digitsOf text = [] then none
      else
        match parseUint32 (digitsOf text)
          (if text.head? = some minus then (if minimum < 0 then (-minimum).toNat else 0)
            else if 0 < maximum then maximum.toNat else 0) with
        | none => none
        | some magnitude =>
          let parsed : Int := if text.head? = some minus then -(magnitude : Int) else magnitude
          if parsed < minimum ∨ maximum < parsed then none else some parsed := rfl

theorem parseInt32_range {text : Bytes} {minimum maximum value : Int}
    (h : parseInt32 text minimum maximum = some value) :
      minimum ≤ value ∧ value ≤ maximum := by
  unfold parseInt32 at h
  dsimp only at h
  split_ifs at h
  all_goals
    split at h
    · cases h
    · split_ifs at h with outside
      cases h
      omega

theorem parseInt32_of_signed {text : Bytes} {minimum maximum value : Int}
    (signed : Signed text value) (least : minimum ≤ value) (most : value ≤ maximum) :
    parseInt32 text minimum maximum = some value := by
  obtain ⟨magnitude, decimal, same⟩ := signed_iff.mp signed
  have digits : digitsOf text ≠ [] := decimal.1
  have some' : text ≠ [] := by
    rintro rfl
    exact digits rfl
  have limited : magnitude ≤ if text.head? = some minus then (if minimum < 0 then
      (-minimum).toNat else 0) else if 0 < maximum then maximum.toNat else 0 := by
    split_ifs at same ⊢ <;> omega
  have parsed := parseUint32_iff.mpr ⟨decimal, limited⟩
  rw [parseInt32_digitsOf, if_neg (not_or.mpr ⟨by omega, some'⟩), if_neg digits, parsed]
  dsimp only
  rw [← same, if_neg (by omega)]

theorem parseInt32_iff {text : Bytes} {minimum maximum value : Int} :
    parseInt32 text minimum maximum = some value ↔
      Signed text value ∧ minimum ≤ value ∧ value ≤ maximum :=
  ⟨fun h => ⟨parseInt32_decimal h, parseInt32_range h⟩,
    fun h => parseInt32_of_signed h.1 h.2.1 h.2.2⟩

namespace Fixed

def parseUint32Loop (maximum : UInt32) : Bytes → UInt32 → Option UInt32
  | [], parsed => some parsed
  | c :: rest, parsed =>
    if !isDigit c then none
    else
      let digit := (c - 48).toUInt32
      if maximum / 10 < parsed ∨ (parsed = maximum / 10 ∧ maximum % 10 < digit) then none
      else parseUint32Loop maximum rest (parsed * 10 + digit)

/-- What the sums of the loop come to where no width bounds them. -/
def exactSums (maximum : UInt32) : Bytes → UInt32 → List Nat
  | [], _ => []
  | c :: rest, parsed =>
    if !isDigit c then []
    else
      let digit := (c - 48).toUInt32
      if maximum / 10 < parsed ∨ (parsed = maximum / 10 ∧ maximum % 10 < digit) then []
      else (parsed.toNat * 10 + digit.toNat) :: exactSums maximum rest (parsed * 10 + digit)

/-- The result, and what stands in `*value` after the call. -/
def parseUint32 (text : Bytes) (maximum value : UInt32) : Bool × UInt32 :=
  if text = [] then (false, value)
  else match parseUint32Loop maximum text 0 with
    | none => (false, value)
    | some parsed => (true, parsed)

/-- An `int32_t` result; nothing where the arithmetic overflows, which C++ leaves undefined. -/
def checked (i : Int) : Option Int32 :=
  if -2 ^ 31 ≤ i ∧ i < 2 ^ 31 then some (Int32.ofInt i) else none

def magnitudeLimit (negative : Bool) (minimum maximum : Int32) : Option UInt32 :=
  if negative then
    if minimum < 0 then do
      let next ← checked (minimum.toInt + 1)
      let opposite ← checked (-next.toInt)
      return opposite.toUInt32 + 1
    else some 0
  else some (if 0 < maximum then maximum.toUInt32 else 0)

def signedValue (negative : Bool) (magnitude : UInt32) : Option Int32 :=
  if negative && magnitude = 0x80000000 then some Int32.minValue
  else if negative then checked (-magnitude.toInt32.toInt)
  else some magnitude.toInt32

/-- As `parseUint32`; nothing at all where an overflow has left the behaviour undefined. The
magnitude is not read where its parse fails. -/
def parseInt32 (text : Bytes) (minimum maximum value : Int32) : Option (Bool × Int32) :=
  if maximum < minimum ∨ text = [] then some (false, value)
  else if digitsOf text = [] then some (false, value)
  else do
    let negative : Bool := text.head? = some minus
    let limit ← magnitudeLimit negative minimum maximum
    match parseUint32 (digitsOf text) limit 0 with
    | (false, _) => return (false, value)
    | (true, magnitude) =>
      let parsed ← signedValue negative magnitude
      if parsed < minimum ∨ maximum < parsed then return (false, value)
      return (true, parsed)

theorem digit_toNat {c : UInt8} (digit : isDigit c = true) :
    (c - 48).toUInt32.toNat = digitValue c := by
  simp only [isDigit, Bool.and_eq_true, decide_eq_true_eq, UInt8.le_iff_toNat_le] at digit
  rw [UInt8.toNat_toUInt32, UInt8.toNat_sub_of_le _ _ (UInt8.le_iff_toNat_le.mpr digit.1)]
  rfl

theorem guard_toNat {maximum parsed digit : UInt32} :
    (maximum / 10 < parsed ∨ (parsed = maximum / 10 ∧ maximum % 10 < digit)) ↔
      maximum.toNat / 10 < parsed.toNat ∨
        (parsed.toNat = maximum.toNat / 10 ∧ maximum.toNat % 10 < digit.toNat) := by
  rw [UInt32.lt_iff_toNat_lt, UInt32.lt_iff_toNat_lt, ← UInt32.toNat_inj, UInt32.toNat_div,
    UInt32.toNat_mod]
  rfl

theorem next_toNat {m parsed digit : UInt32}
    (most : parsed.toNat * 10 + digit.toNat ≤ m.toNat) :
    (parsed * 10 + digit).toNat = parsed.toNat * 10 + digit.toNat := by
  have bound := m.toNat_lt
  rw [UInt32.toNat_add, UInt32.toNat_mul]
  change (parsed.toNat * 10 % 2 ^ 32 + digit.toNat) % 2 ^ 32 = _
  omega

theorem exactSums_lt {maximum : UInt32} {text : Bytes} {parsed : UInt32} :
    ∀ sum ∈ exactSums maximum text parsed, sum ≤ maximum.toNat := by
  induction text generalizing parsed with
  | nil => exact nofun
  | cons c text ih =>
    intro sum member
    rw [exactSums] at member
    dsimp only at member
    split_ifs at member with digit guard
    · cases member
    · cases member
    · have digit : isDigit c = true := by simpa using digit
      have small := digitValue_le digit
      rw [← digit_toNat digit] at small
      rcases List.mem_cons.mp member with rfl | later
      · rw [guard_toNat] at guard
        omega
      · exact ih sum later

theorem parseUint32Loop_toNat (maximum : UInt32) (text : Bytes) (parsed : UInt32) :
    (parseUint32Loop maximum text parsed).map UInt32.toNat =
      Firmware.parseUint32Loop maximum.toNat text parsed.toNat := by
  induction text generalizing parsed with
  | nil => rfl
  | cons c text ih =>
    rw [parseUint32Loop, Firmware.parseUint32Loop]
    by_cases digit : isDigit c = true
    · have value := digit_toNat digit
      have small := digitValue_le digit
      rw [← value] at small ⊢
      simp only [digit, Bool.not_true, Bool.false_eq_true, if_false]
      by_cases guard : maximum / 10 < parsed ∨
          (parsed = maximum / 10 ∧ maximum % 10 < (c - 48).toUInt32)
      · rw [if_pos guard, if_pos (guard_toNat.mp guard)]
        rfl
      · have most := guard_toNat.not.mp guard
        rw [if_neg guard, if_neg most, ih, next_toNat (m := maximum) (by omega)]
    · simp [digit]

theorem parseUint32_eq (text : Bytes) (maximum value : UInt32) :
    parseUint32 text maximum value =
      match Firmware.parseUint32 text maximum.toNat with
      | none => (false, value)
      | some n => (true, UInt32.ofNat n) := by
  have loop := parseUint32Loop_toNat maximum text 0
  unfold parseUint32 Firmware.parseUint32
  change _ = Firmware.parseUint32Loop maximum.toNat text 0 at loop
  rw [← loop]
  split_ifs
  · rfl
  · cases parseUint32Loop maximum text 0 with
    | none => rfl
    | some parsed => exact congrArg (Prod.mk true) (UInt32.ofNat_toNat).symm

theorem checked_some {i : Int} (least : -2 ^ 31 ≤ i) (most : i < 2 ^ 31) :
    checked i = some (Int32.ofInt i) := if_pos ⟨least, most⟩

theorem toUInt32_toNat {i : Int32} (nonneg : 0 ≤ i.toInt) :
    (i.toUInt32.toNat : Int) = i.toInt := by
  change (i.toBitVec.toNat : Int) = i.toBitVec.toInt
  change 0 ≤ i.toBitVec.toInt at nonneg
  rw [BitVec.toInt_eq_toNat_cond] at nonneg ⊢
  split_ifs at nonneg ⊢ <;> omega

theorem toInt32_toInt {m : UInt32} (small : m.toNat < 2 ^ 31) : m.toInt32.toInt = m.toNat := by
  change m.toBitVec.toInt = m.toBitVec.toNat
  change m.toBitVec.toNat < 2 ^ 31 at small
  rw [BitVec.toInt_eq_toNat_cond, if_pos (by omega)]

theorem magnitudeLimit_toNat (negative : Bool) (minimum maximum : Int32) :
    ∃ limit, magnitudeLimit negative minimum maximum = some limit ∧
      limit.toNat =
        if negative = true then (if minimum.toInt < 0 then (-minimum.toInt).toNat else 0)
        else if 0 < maximum.toInt then maximum.toInt.toNat else 0 := by
  have least := minimum.le_toInt
  unfold magnitudeLimit
  simp only [Int32.lt_iff_toInt_lt, Int32.toInt_zero]
  split_ifs with sign below above
  · have next : checked (minimum.toInt + 1) = some (Int32.ofInt (minimum.toInt + 1)) :=
      checked_some (by omega) (by omega)
    have value := Int32.toInt_ofInt_of_le (n := minimum.toInt + 1) (by omega) (by omega)
    have opposite : checked (-(Int32.ofInt (minimum.toInt + 1)).toInt) =
        some (Int32.ofInt (-(minimum.toInt + 1))) := by
      rw [value]
      exact checked_some (by omega) (by omega)
    have magnitude := Int32.toInt_ofInt_of_le (n := -(minimum.toInt + 1)) (by omega) (by omega)
    have whole := toUInt32_toNat (i := Int32.ofInt (-(minimum.toInt + 1))) (by omega)
    refine ⟨(Int32.ofInt (-(minimum.toInt + 1))).toUInt32 + 1, ?_, ?_⟩
    · rw [next, Option.bind_eq_bind, Option.bind_some, opposite]
      rfl
    · rw [UInt32.toNat_add]
      change (_ + 1) % 2 ^ 32 = _
      omega
  · exact ⟨0, rfl, rfl⟩
  · have whole := toUInt32_toNat (i := maximum) (by omega)
    exact ⟨_, rfl, by omega⟩
  · exact ⟨0, rfl, rfl⟩

theorem signedValue_toInt {negative : Bool} {magnitude : UInt32}
    (small : magnitude.toNat < 2 ^ 31 ∨ (negative = true ∧ magnitude.toNat = 2 ^ 31)) :
    ∃ parsed, signedValue negative magnitude = some parsed ∧
      parsed.toInt = if negative = true then -(magnitude.toNat : Int) else magnitude.toNat := by
  unfold signedValue
  by_cases least : magnitude.toNat = 2 ^ 31
  · have same : magnitude = 0x80000000 := UInt32.toNat_inj.mp least
    have sign : negative = true := by
      rcases small with small | ⟨sign, -⟩
      · omega
      · exact sign
    subst sign same
    exact ⟨Int32.minValue, rfl, rfl⟩
  · have other : ¬magnitude = 0x80000000 := by
      rintro rfl
      exact least rfl
    have value := toInt32_toInt (m := magnitude) (by omega)
    rw [decide_eq_false other, Bool.and_false, if_neg Bool.false_ne_true]
    cases negative with
    | false => exact ⟨_, rfl, value⟩
    | true =>
      rw [if_pos rfl, value]
      refine ⟨_, checked_some (by omega) (by omega), ?_⟩
      rw [Int32.toInt_ofInt_of_le (by omega) (by omega), if_pos rfl]

theorem parseInt32_eq (text : Bytes) (minimum maximum value : Int32) :
    parseInt32 text minimum maximum value =
      match Firmware.parseInt32 text minimum.toInt maximum.toInt with
      | none => some (false, value)
      | some i => some (true, Int32.ofInt i) := by
  rw [parseInt32, parseInt32_digitsOf]
  simp only [Int32.lt_iff_toInt_lt]
  by_cases refused : maximum.toInt < minimum.toInt ∨ text = []
  · rw [if_pos refused, if_pos refused]
  by_cases missing : digitsOf text = []
  · rw [if_neg refused, if_neg refused, if_pos missing, if_pos missing]
  rw [if_neg refused, if_neg refused, if_neg missing, if_neg missing]
  obtain ⟨limit, computed, limitNat⟩ :=
    magnitudeLimit_toNat (text.head? = some minus) minimum maximum
  simp only [decide_eq_true_eq] at limitNat
  rw [computed, ← limitNat]
  simp only [Option.bind_eq_bind, Option.bind_some, parseUint32_eq]
  cases read : Firmware.parseUint32 (digitsOf text) limit.toNat with
  | none => rfl
  | some n =>
    have most := (parseUint32_decimal read).2
    have below := maximum.toInt_lt
    have least := minimum.le_toInt
    have wide := limit.toNat_lt
    have whole : (UInt32.ofNat n).toNat = n :=
      UInt32.toNat_ofNat_of_lt' (Nat.lt_of_le_of_lt most wide)
    obtain ⟨parsed, known, denotes⟩ : ∃ parsed,
        signedValue (text.head? = some minus) (UInt32.ofNat n) = some parsed ∧
          parsed.toInt = if decide (text.head? = some minus) = true then
            -((UInt32.ofNat n).toNat : Int) else (UInt32.ofNat n).toNat := by
      refine signedValue_toInt ?_
      rw [whole, decide_eq_true_eq]
      rw [limitNat] at most
      by_cases sign : text.head? = some minus
      · rw [if_pos sign] at most
        rcases Nat.lt_or_ge n (2 ^ 31) with small | large
        · exact .inl small
        · exact .inr ⟨sign, by split_ifs at most <;> omega⟩
      · rw [if_neg sign] at most
        exact .inl (by split_ifs at most <;> omega)
    rw [whole] at denotes
    simp only [decide_eq_true_eq] at denotes
    simp only [known, Option.bind_some, ← denotes]
    split_ifs
    · rfl
    · exact congrArg (fun i => some (true, i)) (Int32.ofInt_toInt parsed).symm

end Fixed

/-- Both parsers accept exactly the numbers within their bounds, store what they denote, leave
`*value` alone otherwise, and compute nothing that does not fit. -/
theorem decimals_bounded :
    (∀ text (maximum value : UInt32),
      ((Fixed.parseUint32 text maximum value).1 = true ↔
        ∃ n, Unsigned text n ∧ n ≤ maximum.toNat) ∧
      ((Fixed.parseUint32 text maximum value).1 = true →
        Unsigned text (Fixed.parseUint32 text maximum value).2.toNat) ∧
      ((Fixed.parseUint32 text maximum value).1 = false →
        (Fixed.parseUint32 text maximum value).2 = value) ∧
      ∀ sum ∈ Fixed.exactSums maximum text 0, sum < 2 ^ 32) ∧
    ∀ text (minimum maximum value : Int32), ∃ result,
      Fixed.parseInt32 text minimum maximum value = some result ∧
      (result.1 = true ↔ ∃ i, Signed text i ∧ minimum.toInt ≤ i ∧ i ≤ maximum.toInt) ∧
      (result.1 = true → Signed text result.2.toInt) ∧
      (result.1 = false → result.2 = value) := by
  constructor
  · intro text maximum value
    have wide := maximum.toNat_lt
    have exact' : ∀ sum ∈ Fixed.exactSums maximum text 0, sum < 2 ^ 32 :=
      fun sum member => Nat.lt_of_le_of_lt (Fixed.exactSums_lt sum member) wide
    rw [Fixed.parseUint32_eq]
    cases read : Firmware.parseUint32 text maximum.toNat with
    | none =>
      refine ⟨⟨nofun, ?_⟩, nofun, fun _ => rfl, exact'⟩
      rintro ⟨n, decimal⟩
      rw [parseUint32_iff.mpr decimal] at read
      cases read
    | some n =>
      have accepted := parseUint32_iff.mp read
      have whole : (UInt32.ofNat n).toNat = n :=
        UInt32.toNat_ofNat_of_lt' (Nat.lt_of_le_of_lt accepted.2 wide)
      refine ⟨⟨fun _ => ⟨n, accepted⟩, fun _ => rfl⟩, fun _ => ?_, nofun, exact'⟩
      rw [whole]
      exact accepted.1
  · intro text minimum maximum value
    rw [Fixed.parseInt32_eq]
    cases read : Firmware.parseInt32 text minimum.toInt maximum.toInt with
    | none =>
      refine ⟨_, rfl, ⟨nofun, ?_⟩, nofun, fun _ => rfl⟩
      rintro ⟨i, signed⟩
      rw [parseInt32_iff.mpr signed] at read
      cases read
    | some i =>
      have accepted := parseInt32_iff.mp read
      have below := maximum.toInt_lt
      have least := minimum.le_toInt
      refine ⟨_, rfl, ⟨fun _ => ⟨i, accepted⟩, fun _ => rfl⟩, fun _ => ?_, nofun⟩
      rw [Int32.toInt_ofInt_of_le (by omega) (by omega)]
      exact accepted.1

example : Fixed.parseInt32 (ascii "-2147483648") Int32.minValue (-1) 7 =
    some (true, Int32.minValue) := by decide +kernel

end CaseSorter.Firmware
