import CaseSorter.Lib.IsoTime
import Mathlib.Tactic.Ring

/-! Instants in microseconds as Python's `datetime.isoformat` writes them in UTC. The microseconds
are left out where there are none, so that the texts differ in length; they still are in the
order of the instants, and are read back. -/

namespace CaseSorter.IsoTime

def daySeconds : Int := 86400

def minuteClock (s : Int) : List Char := twoDigits (s / 60) ++ [':'] ++ twoDigits (s % 60)

def clockText (s : Int) : List Char := twoDigits (s / 3600) ++ [':'] ++ minuteClock (s % 3600)

def secondsText (s : Int) : List Char :=
  dateText (s / daySeconds) ++ ['T'] ++ clockText (s % daySeconds)

def utcOffset : List Char := ['+', '0', '0', ':', '0', '0']

def fractionText (us : Int) : List Char :=
  (if us = 0 then [] else '.' :: sixDigits us) ++ utcOffset

/-- `datetime.isoformat` of an instant in UTC. -/
def isoformat (t : Int) : List Char := secondsText (t / 1000000) ++ fractionText (t % 1000000)

/-- The days of the years that `datetime` knows. -/
def calendarDays : Set Int := {d | 1 ≤ yearOfDay d ∧ yearOfDay d < 10000}

/-- The instants of those years. -/
def calendar : Set Int := {t | t / 1000000 / daySeconds ∈ calendarDays}

theorem sixDigits_ordered : OrderedOn (upTo 1000000) 6 sixDigits :=
  twoDigits_ordered.radix (n := 100) (k := 10000) (by decide) fourDigits_ordered []

theorem clockText_ordered : OrderedOn (upTo daySeconds) 8 clockText := by
  have minute : OrderedOn (upTo 3600) 5 minuteClock :=
    (twoDigits_ordered.within fun x member => ⟨member.1, by have := member.2; omega⟩).radix
      (n := 60) (k := 60) (by decide)
      (twoDigits_ordered.within fun x member => ⟨member.1, by have := member.2; omega⟩) [':']
  exact (twoDigits_ordered.within fun x member => ⟨member.1, by have := member.2; omega⟩).radix
    (n := 24) (k := 3600) (by decide) minute [':']

theorem secondsText_ordered :
    OrderedOn {s | s / daySeconds ∈ calendarDays} 19 secondsText := by
  refine (dateText_ordered.within (D := calendarDays) ?_).pair (m := fun s => s / daySeconds)
    (fun _ member => member) ?_ (fun day => clockText_ordered.comp
      (p := fun s => s % daySeconds) ?_ ?_) ['T']
  · rintro d ⟨low, high⟩
    exact ⟨by omega, high⟩
  · intro s _ t _ le
    exact Int.ediv_le_ediv (by decide) le
  · intro s _
    exact ⟨Int.emod_nonneg s (by decide), Int.emod_lt_of_pos s (by decide)⟩
  · rintro s ⟨-, same⟩ t ⟨-, same'⟩ lt
    unfold daySeconds at *
    dsimp only
    omega

theorem fractionText_strictMono : StrictMonoOn fractionText (upTo 1000000) := by
  rintro x hx y hy lt
  have more : y ≠ 0 := by have := hx.1; omega
  unfold fractionText
  rw [if_neg more]
  by_cases none' : x = 0
  · rw [if_pos none', List.nil_append, utcOffset, List.cons_append, List.cons_lt_cons_iff]
    exact .inl (by decide)
  · rw [if_neg none', List.cons_append, List.cons_append, List.cons_lt_cons_iff]
    have length := (sixDigits_ordered.length x hx).trans (sixDigits_ordered.length y hy).symm
    exact .inr ⟨rfl, append_lt_append length (sixDigits_ordered.mono hx hy lt) _ _⟩

theorem micros_mem (t : Int) : t % 1000000 ∈ upTo 1000000 :=
  ⟨Int.emod_nonneg t (by decide), Int.emod_lt_of_pos t (by decide)⟩

theorem isoformat_strictMono : StrictMonoOn isoformat calendar := by
  intro t ht u hu lt
  have le : t / 1000000 ≤ u / 1000000 := Int.ediv_le_ediv (by decide) lt.le
  unfold isoformat
  rcases le.lt_or_eq with less | same
  · exact append_lt_append
      ((secondsText_ordered.length _ ht).trans (secondsText_ordered.length _ hu).symm)
      (secondsText_ordered.mono ht hu less) _ _
  · rw [same]
    exact append_lt_append_left _ (fractionText_strictMono (micros_mem t) (micros_mem u) (by omega))

theorem isoformat_le {t u : Int} (ht : t ∈ calendar) (hu : u ∈ calendar) :
    isoformat t ≤ isoformat u ↔ t ≤ u :=
  isoformat_strictMono.le_iff_le ht hu

def digitOf (c : Char) : Int := c.toNat - 48

def number (t : List Char) : Int := t.foldl (fun n c => 10 * n + digitOf c) 0

def field (width : Nat) (t : List Char) : Int × List Char := (number (t.take width), t.drop width)

def mark (c : Char) : List Char → Option (List Char)
  | [] => none
  | d :: rest => if d = c then some rest else none

def dayOf (year month date : Int) : Int :=
  dayFromYear year + (monthStarts (leapDays year)).getD (month.toNat - 1) 0 + (date - 1)

def readFraction (t : List Char) : Option Int :=
  if t = utcOffset then some 0
  else do
    let t ← mark '.' t
    let (us, t) := field 6 t
    if t = utcOffset then some us else none

/-- `datetime.fromisoformat` of the texts that `isoformat` writes in UTC, the others unread. -/
def fromisoformat (t : List Char) : Option Int := do
  let (year, t) := field 4 t
  let (month, t) := field 2 (← mark '-' t)
  let (date, t) := field 2 (← mark '-' t)
  let (hour, t) := field 2 (← mark 'T' t)
  let (minute, t) := field 2 (← mark ':' t)
  let (second, t) := field 2 (← mark ':' t)
  let us ← readFraction t
  some ((dayOf year month date * daySeconds + hour * 3600 + minute * 60 + second) * 1000000 + us)

theorem foldl_number (n : Int) (b : List Char) :
    b.foldl (fun n c => 10 * n + digitOf c) n = n * 10 ^ b.length + number b := by
  induction b generalizing n with
  | nil => simp [number]
  | cons c b ih =>
    rw [number, List.foldl_cons, List.foldl_cons, ih, ih (10 * 0 + digitOf c), List.length_cons,
      pow_succ]
    ring

theorem number_append (a b : List Char) :
    number (a ++ b) = number a * 10 ^ b.length + number b := by
  rw [number, List.foldl_append, foldl_number]
  rfl

theorem number_digit {n : Int} (member : n ∈ upTo 10) : number (digit n) = n := by
  have all : ∀ k < 10, digitOf (Char.ofNat (48 + k)) = k := by decide
  obtain ⟨low, high⟩ := member
  have one := all n.toNat (by omega)
  simp only [number, digit, List.foldl_cons, List.foldl_nil, one]
  omega

theorem number_twoDigits {n : Int} (member : n ∈ upTo 100) : number (twoDigits n) = n := by
  obtain ⟨low, high⟩ := member
  rw [twoDigits, List.append_nil, number_append, number_digit ⟨by omega, by omega⟩,
    number_digit ⟨by omega, by omega⟩, digit_ordered.length _ ⟨by omega, by omega⟩]
  omega

theorem number_fourDigits {n : Int} (member : n ∈ upTo 10000) : number (fourDigits n) = n := by
  obtain ⟨low, high⟩ := member
  rw [fourDigits, List.append_nil, number_append, number_twoDigits ⟨by omega, by omega⟩,
    number_twoDigits ⟨by omega, by omega⟩, twoDigits_ordered.length _ ⟨by omega, by omega⟩]
  omega

theorem number_sixDigits {n : Int} (member : n ∈ upTo 1000000) : number (sixDigits n) = n := by
  obtain ⟨low, high⟩ := member
  rw [sixDigits, List.append_nil, number_append, number_twoDigits ⟨by omega, by omega⟩,
    number_fourDigits ⟨by omega, by omega⟩,
    fourDigits_ordered.length _ ⟨by omega, by omega⟩]
  omega

theorem field_append {width : Nat} {text : List Char} (length : text.length = width)
    (rest : List Char) : field width (text ++ rest) = (number text, rest) := by
  rw [field, ← length, List.take_left, List.drop_left]

theorem mark_cons (c : Char) (rest : List Char) : mark c (c :: rest) = some rest := if_pos rfl

theorem field_two {n : Int} (member : n ∈ upTo 100) (rest : List Char) :
    field 2 (twoDigits n ++ rest) = (n, rest) := by
  rw [field_append (twoDigits_ordered.length n member), number_twoDigits member]

theorem readFraction_fractionText {us : Int} (member : us ∈ upTo 1000000) :
    readFraction (fractionText us) = some us := by
  unfold fractionText
  split_ifs with zero
  · rw [zero]
    rfl
  · have other : ¬('.' :: sixDigits us) ++ utcOffset = utcOffset := by
      rw [utcOffset, List.cons_append, List.cons.injEq]
      exact fun same => absurd same.1 (by decide)
    rw [readFraction, if_neg other, List.cons_append, mark_cons]
    simp only [Option.bind_eq_bind, Option.bind_some,
      field_append (sixDigits_ordered.length us member), if_pos, number_sixDigits member]

theorem dayOf_spec (d : Int) : dayOf (yearOfDay d) (monthOfDay d) (dateOfDay d) = d := by
  unfold dayOf dateOfDay dateIn monthOfDay
  rw [Int.toNat_natCast]
  unfold dayInYear
  omega

theorem fromisoformat_isoformat {t : Int} (member : t ∈ calendar) :
    fromisoformat (isoformat t) = some t := by
  obtain ⟨low, high⟩ := member
  have year : yearOfDay (t / 1000000 / daySeconds) ∈ upTo 10000 := ⟨by omega, high⟩
  have month : monthOfDay (t / 1000000 / daySeconds) ∈ upTo 100 := by
    have most : monthIn (leapDays (yearOfDay (t / 1000000 / daySeconds)))
      (dayInYear (t / 1000000 / daySeconds)) ≤ 12 := List.countP_le_length
    unfold monthOfDay
    exact ⟨by omega, by omega⟩
  have date : dateOfDay (t / 1000000 / daySeconds) ∈ upTo 100 := by
    have bounds := dayInYear_bounds (t / 1000000 / daySeconds)
    exact dateIn_bounds (leapDays_cases _) bounds.1 bounds.2
  have day := dayOf_spec (t / 1000000 / daySeconds)
  have written : yearText (yearOfDay (t / 1000000 / daySeconds)) =
      fourDigits (yearOfDay (t / 1000000 / daySeconds)) := if_pos year
  have hour : t / 1000000 % daySeconds / 3600 ∈ upTo 100 := by
    unfold daySeconds
    exact ⟨by omega, by omega⟩
  have minute : t / 1000000 % daySeconds % 3600 / 60 ∈ upTo 100 := ⟨by omega, by omega⟩
  have second : t / 1000000 % daySeconds % 3600 % 60 ∈ upTo 100 := ⟨by omega, by omega⟩
  unfold isoformat secondsText clockText minuteClock dateText fromisoformat
  simp only [written, List.append_assoc, List.cons_append, List.nil_append,
    Option.bind_eq_bind,
    field_append (fourDigits_ordered.length _ year), number_fourDigits year, mark_cons,
    Option.bind_some, field_two month, field_two date, field_two hour, field_two minute,
    field_two second, readFraction_fractionText (micros_mem t), day, Option.some.injEq]
  unfold daySeconds
  omega

example : isoformat 0 = "1970-01-01T00:00:00+00:00".toList := by decide +kernel

example : isoformat (-1) = "1969-12-31T23:59:59.999999+00:00".toList := by decide +kernel

end CaseSorter.IsoTime
