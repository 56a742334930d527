import Mathlib.Data.Int.ConditionallyCompleteOrder
import Mathlib.Order.ConditionallyCompleteLattice.Indexed
import Mathlib.Data.Char
import Mathlib.Data.List.Lex
import Mathlib.Data.Int.Order.Basic
import Mathlib.Order.Monotone.Defs

/-! Instants as text. An instant is a number of milliseconds since 1970 in the proleptic
Gregorian calendar; its text is the extended format of ISO 8601 that JavaScript writes, with
four digits of the year, or a sign and six. Between the years 0 and 9999 the texts are in the
order of the instants. -/

namespace CaseSorter.IsoTime

/-- On `D`, the texts have `width` characters and are in the order of the numbers. -/
structure OrderedOn (D : Set Int) (width : Nat) (f : Int → List Char) : Prop where
  length : ∀ x ∈ D, (f x).length = width
  mono : StrictMonoOn f D

theorem append_lt_append {a b : List Char} (length : a.length = b.length) (lt : a < b)
    (c d : List Char) : a ++ c < b ++ d := by
  induction a generalizing b with
  | nil =>
    rw [List.length_nil, eq_comm, List.length_eq_zero_iff] at length
    rw [length] at lt
    exact absurd lt (lt_irrefl _)
  | cons x a ih =>
    cases b with
    | nil => cases length
    | cons y b =>
      rw [List.cons_lt_cons_iff] at lt
      rw [List.cons_append, List.cons_append, List.cons_lt_cons_iff]
      rcases lt with first | ⟨same, rest⟩
      · exact .inl first
      · exact .inr ⟨same, ih (Nat.succ.inj length) rest⟩

theorem append_lt_append_left (a : List Char) {c d : List Char} (lt : c < d) : a ++ c < a ++ d := by
  induction a with
  | nil => exact lt
  | cons x a ih =>
    rw [List.cons_append, List.cons_append, List.cons_lt_cons_iff]
    exact .inr ⟨rfl, ih⟩

section

variable {D S : Set Int} {width rest : Nat} {f g : Int → List Char}

theorem OrderedOn.comp (h : OrderedOn S width f) {p : Int → Int}
    (inside : ∀ x ∈ D, p x ∈ S) (order : StrictMonoOn p D) :
    OrderedOn D width fun x => f (p x) where
  length x member := h.length _ (inside x member)
  mono x hx y hy lt := h.mono (inside x hx) (inside y hy) (order hx hy lt)

theorem OrderedOn.pair (first : OrderedOn S width f) {m : Int → Int}
    (inside : ∀ x ∈ D, m x ∈ S) (order : MonotoneOn m D)
    (second : ∀ k, OrderedOn {x | x ∈ D ∧ m x = k} rest g) (separator : List Char) :
    OrderedOn D (width + separator.length + rest)
      fun x => f (m x) ++ separator ++ g x where
  length x member := by
    rw [List.length_append, List.length_append, first.length _ (inside x member),
      (second (m x)).length _ ⟨member, rfl⟩]
  mono x hx y hy lt := by
    have length := (first.length _ (inside x hx)).trans (first.length _ (inside y hy)).symm
    rcases (order hx hy lt.le).lt_or_eq with less | same
    · refine append_lt_append ?_ (append_lt_append length ?_ _ _) _ _
      · rw [List.length_append, List.length_append, length]
      · exact first.mono (inside x hx) (inside y hy) less
    · dsimp only
      rw [same]
      exact append_lt_append_left _ ((second (m y)).mono ⟨hx, same⟩ ⟨hy, rfl⟩ lt)

theorem OrderedOn.suffix (h : OrderedOn D width f) (suffix : List Char) :
    OrderedOn D (width + suffix.length) fun x => f x ++ suffix where
  length x member := by rw [List.length_append, h.length x member]
  mono x hx y hy lt :=
    append_lt_append ((h.length x hx).trans (h.length y hy).symm) (h.mono hx hy lt) _ _

def upTo (n : Int) : Set Int := {x | 0 ≤ x ∧ x < n}

theorem OrderedOn.radix {n k : Int} (positive : 0 < k) (first : OrderedOn (upTo n) width f)
    (second : OrderedOn (upTo k) rest g) (separator : List Char) :
    OrderedOn (upTo (n * k)) (width + separator.length + rest)
      fun x => f (x / k) ++ separator ++ g (x % k) := by
  refine first.pair ?_ ?_ (fun q => second.comp ?_ ?_) separator
  · intro x member
    exact ⟨Int.ediv_nonneg member.1 positive.le, Int.ediv_lt_of_lt_mul positive member.2⟩
  · intro x _ y _ le
    exact Int.ediv_le_ediv positive le
  · intro x _
    exact ⟨Int.emod_nonneg x positive.ne', Int.emod_lt_of_pos x positive⟩
  · rintro x ⟨-, same⟩ y ⟨-, same'⟩ lt
    have split := Int.mul_ediv_add_emod x k
    have split' := Int.mul_ediv_add_emod y k
    rw [same] at split
    rw [same'] at split'
    dsimp only
    omega

end

def digit (n : Int) : List Char := [Char.ofNat (48 + n.toNat)]

def twoDigits (n : Int) : List Char := digit (n / 10) ++ [] ++ digit (n % 10)

def threeDigits (n : Int) : List Char := digit (n / 100) ++ [] ++ twoDigits (n % 100)

def fourDigits (n : Int) : List Char := twoDigits (n / 100) ++ [] ++ twoDigits (n % 100)

def sixDigits (n : Int) : List Char := twoDigits (n / 10000) ++ [] ++ fourDigits (n % 10000)

theorem digit_ordered : OrderedOn (upTo 10) 1 digit where
  length _ _ := rfl
  mono := by
    have order : ∀ x < 10, ∀ y < x, Char.ofNat (48 + y) < Char.ofNat (48 + x) := by decide
    rintro x ⟨low, high⟩ y ⟨low', high'⟩ lt
    rw [digit, digit, List.cons_lt_cons_iff]
    exact .inl (order y.toNat (by omega) x.toNat (by omega))

theorem twoDigits_ordered : OrderedOn (upTo 100) 2 twoDigits :=
  digit_ordered.radix (by decide) digit_ordered []

theorem threeDigits_ordered : OrderedOn (upTo 1000) 3 threeDigits :=
  digit_ordered.radix (by decide) twoDigits_ordered []

theorem fourDigits_ordered : OrderedOn (upTo 10000) 4 fourDigits :=
  twoDigits_ordered.radix (by decide) twoDigits_ordered []

def dayFromYear (y : Int) : Int :=
  365 * (y - 1970) + (y - 1969) / 4 - (y - 1901) / 100 + (y - 1601) / 400

def yearOfDay (d : Int) : Int :=
  let y := 1970 + d * 400 / 146097
  if dayFromYear (y + 1) ≤ d then y + 1 else if dayFromYear y ≤ d then y else y - 1

attribute [local grind =] dayFromYear yearOfDay

theorem yearOfDay_spec (d : Int) :
    dayFromYear (yearOfDay d) ≤ d ∧ d < dayFromYear (yearOfDay d + 1) := by
  unfold yearOfDay
  dsimp only
  split_ifs with late early
  · unfold dayFromYear at *
    omega
  · exact ⟨early, Int.not_le.mp late⟩
  · rw [Int.sub_add_cancel]
    refine ⟨?_, Int.not_le.mp early⟩
    unfold dayFromYear
    omega

theorem dayFromYear_mono {y z : Int} (le : y ≤ z) : dayFromYear y ≤ dayFromYear z := by
  unfold dayFromYear
  omega

theorem yearOfDay_mono {d e : Int} (le : d ≤ e) : yearOfDay d ≤ yearOfDay e := by
  by_contra less
  have first := (yearOfDay_spec d).1
  have next := (yearOfDay_spec e).2
  have := dayFromYear_mono (show yearOfDay e + 1 ≤ yearOfDay d by omega)
  omega

def leapDays (y : Int) : Int := if y % 4 = 0 ∧ (y % 100 ≠ 0 ∨ y % 400 = 0) then 1 else 0

def monthStarts (leap : Int) : List Int :=
  [0, 31, 59 + leap, 90 + leap, 120 + leap, 151 + leap, 181 + leap, 212 + leap, 243 + leap,
    273 + leap, 304 + leap, 334 + leap]

def dayInYear (d : Int) : Int := d - dayFromYear (yearOfDay d)

def monthIn (leap day : Int) : Nat := (monthStarts leap).countP (· ≤ day)

def dateIn (leap day : Int) : Int := day - (monthStarts leap).getD (monthIn leap day - 1) 0 + 1

def monthOfDay (d : Int) : Int := monthIn (leapDays (yearOfDay d)) (dayInYear d)

def dateOfDay (d : Int) : Int := dateIn (leapDays (yearOfDay d)) (dayInYear d)

attribute [local grind =] leapDays monthIn dateIn dayInYear monthOfDay dateOfDay

theorem dayInYear_bounds (d : Int) : 0 ≤ dayInYear d ∧ dayInYear d < 366 := by
  have spec := yearOfDay_spec d
  unfold dayInYear
  unfold dayFromYear at *
  omega

theorem leapDays_cases (y : Int) : leapDays y = 0 ∨ leapDays y = 1 := by
  unfold leapDays
  split_ifs
  · exact .inr rfl
  · exact .inl rfl

theorem dateIn_bounds {leap day : Int} (few : leap = 0 ∨ leap = 1) (low : 0 ≤ day)
    (high : day < 366) : 0 ≤ dateIn leap day ∧ dateIn leap day < 100 := by
  have all : ∀ l < 2, ∀ n < 366, 0 ≤ dateIn (l : Nat) (n : Nat) ∧
      dateIn (l : Nat) (n : Nat) < 100 := by decide +kernel
  have one := all leap.toNat (by omega) day.toNat (by omega)
  rwa [Int.toNat_of_nonneg low, Int.toNat_of_nonneg (by omega)] at one

theorem monthIn_mono (leap : Int) {d e : Int} (le : d ≤ e) :
    monthIn leap d ≤ monthIn leap e := by
  refine List.countP_mono_left fun start _ => ?_
  simp only [decide_eq_true_eq]
  omega

def yearText (y : Int) : List Char :=
  if 0 ≤ y ∧ y < 10000 then fourDigits y
  else (if y < 0 then '-' else '+') :: sixDigits y.natAbs

def dateText (d : Int) : List Char :=
  yearText (yearOfDay d) ++ ['-'] ++ (twoDigits (monthOfDay d) ++ ['-'] ++ twoDigits (dateOfDay d))

def secondText (ms : Int) : List Char := twoDigits (ms / 1000) ++ ['.'] ++ threeDigits (ms % 1000)

def minuteText (ms : Int) : List Char :=
  twoDigits (ms / 60000) ++ [':'] ++ secondText (ms % 60000)

def timeText (ms : Int) : List Char :=
  twoDigits (ms / 3600000) ++ [':'] ++ minuteText (ms % 3600000)

def dayMs : Int := 86400000

/-- `Date.prototype.toISOString`. -/
def isoText (t : Int) : List Char := dateText (t / dayMs) ++ ['T'] ++ timeText (t % dayMs) ++ ['Z']

def plainDays : Set Int := {d | 0 ≤ yearOfDay d ∧ yearOfDay d < 10000}

/-- The instants of the years 0 to 9999. -/
def plain : Set Int := {t | t / dayMs ∈ plainDays}

theorem OrderedOn.within {D E : Set Int} {width : Nat} {f : Int → List Char}
    (h : OrderedOn E width f) (within : ∀ x ∈ D, x ∈ E) : OrderedOn D width f :=
  ⟨fun x member => h.length x (within x member),
    fun x hx y hy lt => h.mono (within x hx) (within y hy) lt⟩

theorem yearText_ordered : OrderedOn (upTo 10000) 4 yearText := by
  have same : ∀ y ∈ upTo 10000, yearText y = fourDigits y := fun y member => if_pos member
  refine ⟨fun y member => ?_, fun y hy z hz lt => ?_⟩
  · rw [same y member]
    exact fourDigits_ordered.length y member
  · rw [same y hy, same z hz]
    exact fourDigits_ordered.mono hy hz lt

theorem dateOfDay_ordered (year month : Int) :
    OrderedOn {d | (d ∈ plainDays ∧ yearOfDay d = year) ∧ monthOfDay d = month} 2
      fun d => twoDigits (dateOfDay d) := by
  refine twoDigits_ordered.comp ?_ ?_
  · intro d _
    have bounds := dayInYear_bounds d
    exact dateIn_bounds (leapDays_cases _) bounds.1 bounds.2
  · rintro d ⟨⟨-, inYear⟩, inMonth⟩ e ⟨⟨-, inYear'⟩, inMonth'⟩ lt
    unfold monthOfDay at inMonth inMonth'
    rw [inYear] at inMonth
    rw [inYear'] at inMonth'
    have same : monthIn (leapDays year) (dayInYear d) = monthIn (leapDays year) (dayInYear e) := by
      omega
    unfold dateOfDay dateIn
    rw [inYear, inYear', same]
    unfold dayInYear
    rw [inYear, inYear']
    omega

theorem monthText_ordered (year : Int) :
    OrderedOn {d | d ∈ plainDays ∧ yearOfDay d = year} 5
      fun d => twoDigits (monthOfDay d) ++ ['-'] ++ twoDigits (dateOfDay d) := by
  refine twoDigits_ordered.pair ?_ ?_ (dateOfDay_ordered year) ['-']
  · intro d _
    have most : monthIn (leapDays (yearOfDay d)) (dayInYear d) ≤ 12 := List.countP_le_length
    unfold monthOfDay
    exact ⟨by omega, by omega⟩
  · rintro d ⟨-, inYear⟩ e ⟨-, inYear'⟩ le
    unfold monthOfDay
    rw [inYear, inYear']
    have := monthIn_mono (leapDays year)
      (show dayInYear d ≤ dayInYear e by unfold dayInYear; rw [inYear, inYear']; omega)
    omega

theorem dateText_ordered : OrderedOn plainDays 10 dateText :=
  yearText_ordered.pair (m := yearOfDay) (fun _ member => member)
    (fun _ _ _ _ le => yearOfDay_mono le) monthText_ordered ['-']

theorem timeText_ordered : OrderedOn (upTo dayMs) 12 timeText := by
  have second : OrderedOn (upTo 60000) 6 secondText :=
    (twoDigits_ordered.within fun x member => ⟨member.1, by have := member.2; omega⟩).radix
      (n := 60) (by decide) threeDigits_ordered ['.']
  have minute : OrderedOn (upTo 3600000) 9 minuteText :=
    (twoDigits_ordered.within fun x member => ⟨member.1, by have := member.2; omega⟩).radix
      (n := 60) (by decide) second [':']
  exact (twoDigits_ordered.within fun x member => ⟨member.1, by have := member.2; omega⟩).radix
    (n := 24) (by decide) minute [':']

theorem isoText_ordered : OrderedOn plain 24 isoText := by
  refine (dateText_ordered.pair (D := plain) (m := fun t => t / dayMs)
    (fun _ member => member) ?_ (fun day => timeText_ordered.comp
      (p := fun t => t % dayMs) ?_ ?_) ['T']).suffix ['Z']
  · intro t _ u _ le
    exact Int.ediv_le_ediv (by decide) le
  · intro t _
    exact ⟨Int.emod_nonneg t (by decide), Int.emod_lt_of_pos t (by decide)⟩
  · rintro t ⟨-, same⟩ u ⟨-, same'⟩ lt
    unfold dayMs at *
    dsimp only
    omega

theorem isoText_strictMono : StrictMonoOn isoText plain := isoText_ordered.mono

theorem isoText_mono {t u : Int} (ht : t ∈ plain) (hu : u ∈ plain) (le : t ≤ u) :
    isoText t ≤ isoText u :=
  isoText_strictMono.monotoneOn ht hu le

theorem plain_between {t u v : Int} (ht : t ∈ plain) (hv : v ∈ plain) (first : t ≤ u)
    (second : u ≤ v) : u ∈ plain := by
  have low : yearOfDay (t / dayMs) ≤ yearOfDay (u / dayMs) :=
    yearOfDay_mono (Int.ediv_le_ediv (by decide) first)
  have high : yearOfDay (u / dayMs) ≤ yearOfDay (v / dayMs) :=
    yearOfDay_mono (Int.ediv_le_ediv (by decide) second)
  exact ⟨Int.le_trans ht.1 low, Int.lt_of_le_of_lt high hv.2⟩

instance : DecidablePred (· ∈ plain) := fun t =>
  inferInstanceAs (Decidable (0 ≤ yearOfDay (t / dayMs) ∧ yearOfDay (t / dayMs) < 10000))

example : isoText 1709251199999 = "2024-02-29T23:59:59.999Z".toList := by decide +kernel

example : isoText 253402300800000 = "+010000-01-01T00:00:00.000Z".toList := by decide +kernel

end CaseSorter.IsoTime
