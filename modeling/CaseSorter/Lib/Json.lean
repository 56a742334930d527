import CaseSorter.Lib.Mappings
import Mathlib.Data.List.Lex
import Mathlib.Data.List.Perm.Basic
import Mathlib.Data.List.Sort
import Mathlib.Data.Char

/-! JSON values and the text Python's `json.dumps` writes for them with `sort_keys=True`,
`separators=(",", ":")` and `ensure_ascii=True`. No two values without floats have one text, up
to the order of an object's members. -/

namespace CaseSorter.Json

open CaseSorter.Mappings

abbrev Text := List Char

/-- JSON values over the strings `σ` and the floats `φ`. -/
inductive Value (σ φ : Type)
  | null
  | bool (b : Bool)
  | int (i : Int)
  | float (x : φ)
  | str (s : σ)
  | list (items : List (Value σ φ))
  | dict (members : List (σ × Value σ φ))

abbrev Floatless := Value Text Empty

/-- `\uXXXX` of one UTF-16 code unit. -/
def unit (n : Nat) : Text :=
  ['\\', 'u', Nat.digitChar (n / 4096 % 16), Nat.digitChar (n / 256 % 16),
    Nat.digitChar (n / 16 % 16), Nat.digitChar (n % 16)]

/-- `py_encode_basestring_ascii` of one character; those beyond 0xFFFF are a surrogate pair. -/
def escape (c : Char) : Text :=
  if c = '\\' then ['\\', '\\']
  else if c = '"' then ['\\', '"']
  else if c = '\x08' then ['\\', 'b']
  else if c = '\x0c' then ['\\', 'f']
  else if c = '\n' then ['\\', 'n']
  else if c = '\r' then ['\\', 'r']
  else if c = '\t' then ['\\', 't']
  else if 0x20 ≤ c.toNat ∧ c.toNat ≤ 0x7e then [c]
  else if c.toNat < 0x10000 then unit c.toNat
  else
    let n := c.toNat - 0x10000
    unit (0xd800 ||| ((n >>> 10) &&& 0x3ff)) ++ unit (0xdc00 ||| (n &&& 0x3ff))

def quoted (s : Text) : Text := '"' :: (s.flatMap escape ++ ['"'])

/-- `int.__repr__`. -/
def number (i : Int) : Text := (toString i).toList

mutual

/-- `json.dumps` of a value whose members are in the order they are written. -/
def dumps : Floatless → Text
  | .null => "null".toList
  | .bool true => "true".toList
  | .bool false => "false".toList
  | .int i => number i
  | .float x => x.elim
  | .str s => quoted s
  | .list items => '[' :: dumpsItems [] items
  | .dict members => '{' :: dumpsMembers [] members

/-- The items of a list up to its closing bracket, the first after `separator`. -/
def dumpsItems (separator : Text) : List Floatless → Text
  | [] => [']']
  | value :: rest => separator ++ (dumps value ++ dumpsItems [','] rest)

/-- The members of an object up to its closing brace, the first after `separator`. -/
def dumpsMembers (separator : Text) : List (Text × Floatless) → Text
  | [] => ['}']
  | (name, value) :: rest =>
    separator ++ (quoted name ++ (':' :: (dumps value ++ dumpsMembers [','] rest)))

end

abbrev ByName (a b : Text × Floatless) : Prop := a.1 ≤ b.1

mutual

def sortKeys : Floatless → Floatless
  | .null => .null
  | .bool b => .bool b
  | .int i => .int i
  | .float x => .float x
  | .str s => .str s
  | .list items => .list (sortItems items)
  | .dict members => .dict ((sortValues members).insertionSort ByName)

def sortItems : List Floatless → List Floatless
  | [] => []
  | value :: rest => sortKeys value :: sortItems rest

def sortValues : List (Text × Floatless) → List (Text × Floatless)
  | [] => []
  | (name, value) :: rest => (name, sortKeys value) :: sortValues rest

end

/-- `json.dumps` with sorted keys. -/
def canonical (v : Floatless) : Text := dumps (sortKeys v)

def hexValue (c : Char) : Nat := if c.isDigit then c.toNat - 48 else c.toNat - 87

def unitValue (t : Text) : Nat := (t.take 4).foldl (fun n c => 16 * n + hexValue c) 0

def shortValue (c : Char) : Nat :=
  if c = 'b' then 8 else if c = 'f' then 12 else if c = 'n' then 10
  else if c = 'r' then 13 else if c = 't' then 9 else c.toNat

def readUnits (t : Text) : Nat × Text :=
  if 0xd800 ≤ unitValue t ∧ unitValue t < 0xdc00 then
    (0x10000 + (unitValue t - 0xd800) * 1024 + (unitValue (t.drop 6) - 0xdc00), t.drop 10)
  else (unitValue t, t.drop 4)

def readChar : Text → Option (Nat × Text)
  | [] => none
  | c :: rest =>
    if c = '"' then none
    else if c ≠ '\\' then some (c.toNat, rest)
    else if rest.head? = some 'u' then some (readUnits rest.tail)
    else some (shortValue (rest.headD 'u'), rest.tail)

theorem hexValue_digitChar : ∀ n < 16, hexValue (Nat.digitChar n) = n := by decide

theorem unitValue_digits {n : Nat} (small : n < 0x10000) (rest : Text) :
    unitValue ((unit n).drop 2 ++ rest) = n := by
  have digit (k : Nat) : hexValue (Nat.digitChar (k % 16)) = k % 16 :=
    hexValue_digitChar _ (Nat.mod_lt _ (by decide))
  simp only [unit, unitValue, List.drop_succ_cons, List.drop_zero, List.cons_append,
    List.take_succ_cons, List.nil_append, List.take_zero, List.foldl_cons, List.foldl_nil, digit]
  omega

theorem readUnits_unit {n : Nat} (small : n < 0x10000) (plain : ¬(0xd800 ≤ n ∧ n < 0xdc00))
    (rest : Text) : readUnits ((unit n).drop 2 ++ rest) = (n, rest) := by
  rw [readUnits, unitValue_digits small, if_neg plain]
  rfl

theorem readUnits_pair {n m : Nat} (high : n < 1024) (low : m < 1024) (rest : Text) :
    readUnits ((unit (0xd800 + n)).drop 2 ++ (unit (0xdc00 + m) ++ rest)) =
      (0x10000 + n * 1024 + m, rest) := by
  have second : unitValue (((unit (0xd800 + n)).drop 2 ++ (unit (0xdc00 + m) ++ rest)).drop 6) =
      0xdc00 + m := unitValue_digits (by omega) rest
  rw [readUnits, unitValue_digits (by omega), if_pos (by omega), second]
  simp only [Nat.add_sub_cancel_left]
  rfl

theorem readChar_escape (c : Char) (rest : Text) :
    readChar (escape c ++ rest) = some (c.toNat, rest) := by
  have valid : c.toNat < 0xd800 ∨ 0xdfff < c.toNat ∧ c.toNat < 0x110000 := c.valid
  unfold escape
  split_ifs with h₁ h₂ h₃ h₄ h₅ h₆ h₇ plain small
  · rw [h₁]; rfl
  · rw [h₂]; rfl
  · rw [h₃]; rfl
  · rw [h₄]; rfl
  · rw [h₅]; rfl
  · rw [h₆]; rfl
  · rw [h₇]; rfl
  · rw [List.singleton_append, readChar, if_neg h₂, if_pos h₁]
  · have units := readUnits_unit small (by omega) rest
    exact congrArg some units
  · -- the two units of a pair carry ten bits each
    have high : 0xd800 ||| (((c.toNat - 0x10000) >>> 10) &&& 0x3ff) =
        0xd800 + (c.toNat - 0x10000) / 1024 := by
      rw [show 0x3ff = 2 ^ 10 - 1 from rfl, Nat.and_two_pow_sub_one_eq_mod,
        Nat.shiftRight_eq_div_pow, Nat.mod_eq_of_lt (by omega), show 0xd800 = 2 ^ 10 * 54 from rfl,
        Nat.two_pow_add_eq_or_of_lt (by omega)]
    have low : 0xdc00 ||| ((c.toNat - 0x10000) &&& 0x3ff) =
        0xdc00 + (c.toNat - 0x10000) % 1024 := by
      rw [show 0x3ff = 2 ^ 10 - 1 from rfl, Nat.and_two_pow_sub_one_eq_mod,
        show 0xdc00 = 2 ^ 10 * 55 from rfl, Nat.two_pow_add_eq_or_of_lt (Nat.mod_lt _ (by decide))]
    dsimp only
    rw [high, low, List.append_assoc]
    have pair := readUnits_pair (n := (c.toNat - 0x10000) / 1024)
      (m := (c.toNat - 0x10000) % 1024) (by omega) (Nat.mod_lt _ (by decide)) rest
    have whole : 0x10000 + (c.toNat - 0x10000) / 1024 * 1024 + (c.toNat - 0x10000) % 1024 =
        c.toNat := by omega
    rw [whole] at pair
    exact congrArg some pair

theorem escapes_cancel {s t r u : Text}
    (same : s.flatMap escape ++ '"' :: r = t.flatMap escape ++ '"' :: u) : s = t ∧ r = u := by
  induction s generalizing t with
  | nil =>
    cases t with
    | nil => exact ⟨rfl, (List.cons.inj same).2⟩
    | cons d t =>
      have read := congrArg readChar same
      rw [List.flatMap_cons, List.append_assoc, readChar_escape] at read
      cases read
  | cons c s ih =>
    cases t with
    | nil =>
      have read := congrArg readChar same
      rw [List.flatMap_cons, List.append_assoc, readChar_escape] at read
      cases read
    | cons d t =>
      have read := congrArg readChar same
      rw [List.flatMap_cons, List.append_assoc, readChar_escape, List.flatMap_cons,
        List.append_assoc, readChar_escape, Option.some.injEq, Prod.mk.injEq] at read
      obtain ⟨rest, tail⟩ := ih read.2
      have first : c = d := Char.toNat_inj.mp read.1
      exact ⟨by rw [first, rest], tail⟩

theorem quoted_cancel {s t r u : Text} (same : quoted s ++ r = quoted t ++ u) :
    s = t ∧ r = u := by
  simp only [quoted, List.cons_append, List.append_assoc, List.nil_append, List.cons.injEq,
    true_and] at same
  exact escapes_cancel same

def isNumeric (c : Char) : Bool := c.isDigit || c = '-'

def Ends (t : Text) : Prop := ∀ c ∈ t.head?, isNumeric c = false

theorem span_cancel {p : Char → Bool} {a b r s : Text} (inside : ∀ c ∈ a, p c = true)
    (inside' : ∀ c ∈ b, p c = true) (ends : ∀ c ∈ r.head?, p c = false)
    (ends' : ∀ c ∈ s.head?, p c = false) (same : a ++ r = b ++ s) : a = b ∧ r = s := by
  induction a generalizing b with
  | nil =>
    cases b with
    | nil => exact ⟨rfl, same⟩
    | cons d b =>
      rw [List.nil_append] at same
      rw [same] at ends
      have out := ends d rfl
      rw [inside' d (List.mem_cons_self ..)] at out
      cases out
  | cons c a ih =>
    cases b with
    | nil =>
      rw [List.nil_append] at same
      rw [← same] at ends'
      have out := ends' c rfl
      rw [inside c (List.mem_cons_self ..)] at out
      cases out
    | cons d b =>
      obtain ⟨first, rest⟩ := List.cons.inj same
      obtain ⟨eq, tail⟩ := ih (fun x member => inside x (List.mem_cons_of_mem _ member))
        (fun x member => inside' x (List.mem_cons_of_mem _ member)) rest
      exact ⟨by rw [first, eq], tail⟩

theorem number_eq (i : Int) :
    number i = if 0 ≤ i then Nat.toDigits 10 i.toNat else '-' :: Nat.toDigits 10 (-i).toNat := by
  rw [number, Int.toString_eq_repr, Int.repr_eq_if]
  split_ifs with sign
  · exact Nat.toList_repr
  · rw [String.toList_append, Nat.toList_repr]
    rfl

theorem digits_isDigit {n : Nat} {c : Char} (member : c ∈ Nat.toDigits 10 n) : c.isDigit = true :=
  Nat.isDigit_of_mem_toDigits (by decide) (by decide) member

theorem number_numeric (i : Int) : ∀ c ∈ number i, isNumeric c = true := by
  intro c member
  rw [number_eq] at member
  unfold isNumeric
  split_ifs at member
  · rw [digits_isDigit member, Bool.true_or]
  · rcases List.mem_cons.mp member with minus | digit
    · rw [minus]
      rfl
    · rw [digits_isDigit digit, Bool.true_or]

def numberValue (t : Text) : Int :=
  if t.head? = some '-' then -(Nat.ofDigitChars 10 t.tail 0 : Int)
  else (Nat.ofDigitChars 10 t 0 : Int)

theorem numberValue_number (i : Int) : numberValue (number i) = i := by
  rw [number_eq]
  unfold numberValue
  split_ifs with sign minus minus
  · exact absurd (digits_isDigit (List.mem_of_mem_head? minus)) (by decide)
  · rw [Nat.ofDigitChars_ten_toDigits]
    omega
  · rw [List.tail_cons, Nat.ofDigitChars_ten_toDigits]
    omega
  · exact absurd rfl minus

theorem number_cancel {i j : Int} {r s : Text} (ends : Ends r) (ends' : Ends s)
    (same : number i ++ r = number j ++ s) : i = j ∧ r = s := by
  obtain ⟨texts, rest⟩ := span_cancel (number_numeric i) (number_numeric j) ends ends' same
  refine ⟨?_, rest⟩
  rw [← numberValue_number i, texts, numberValue_number]

def kind : Floatless → Nat
  | .null => 0
  | .bool true => 1
  | .bool false => 2
  | .int _ => 3
  | .float x => x.elim
  | .str _ => 4
  | .list _ => 5
  | .dict _ => 6

def kindOf (c : Char) : Nat :=
  if c = 'n' then 0 else if c = 't' then 1 else if c = 'f' then 2 else if c = '"' then 4
  else if c = '[' then 5 else if c = '{' then 6 else if c = ']' then 7 else 3

theorem kindOf_numeric {c : Char} (numeric : isNumeric c = true) : kindOf c = 3 := by
  unfold kindOf
  split_ifs with h₁ h₂ h₃ h₄ h₅ h₆ h₇
  · rw [h₁] at numeric; cases numeric
  · rw [h₂] at numeric; cases numeric
  · rw [h₃] at numeric; cases numeric
  · rw [h₄] at numeric; cases numeric
  · rw [h₅] at numeric; cases numeric
  · rw [h₆] at numeric; cases numeric
  · rw [h₇] at numeric; cases numeric
  · rfl

theorem dumps_kind (v : Floatless) (r : Text) :
    (dumps v ++ r).head?.map kindOf = some (kind v) := by
  cases v with
  | null => rfl
  | bool b => cases b <;> rfl
  | int i =>
    have numeric := number_numeric i
    rw [dumps]
    cases digits : number i with
    | nil =>
      have value := numberValue_number i
      rw [number_eq] at digits
      split_ifs at digits
      exact absurd digits Nat.toDigits_ne_nil
    | cons c rest =>
      rw [digits] at numeric
      exact congrArg some (kindOf_numeric (numeric c (List.mem_cons_self ..)))
  | float x => exact x.elim
  | str s => rfl
  | list items => rfl
  | dict members => rfl

theorem dumps_opens (v : Floatless) (r t : Text) : dumps v ++ r ≠ ']' :: t := by
  intro same
  have closing := dumps_kind v r
  rw [same, List.head?_cons, Option.map_some, Option.some.injEq] at closing
  cases v with
  | bool b => cases b <;> cases closing
  | float x => exact x.elim
  | _ => cases closing

theorem items_ends (items : List Floatless) (r : Text) : Ends (dumpsItems [','] items ++ r) := by
  intro c first
  cases items with
  | nil =>
    cases first
    rfl
  | cons value rest =>
    cases first
    rfl

theorem members_ends (members : List (Text × Floatless)) (r : Text) :
    Ends (dumpsMembers [','] members ++ r) := by
  intro c first
  cases members with
  | nil =>
    cases first
    rfl
  | cons member rest =>
    cases first
    rfl

mutual

theorem dumps_cancel : ∀ (v w : Floatless) {r s : Text}, Ends r → Ends s →
    dumps v ++ r = dumps w ++ s → v = w ∧ r = s
  | v, w, r, s, ends, ends', same => by
    have kinds : kind v = kind w := by
      have first := congrArg (fun t => t.head?.map kindOf) same
      rwa [dumps_kind, dumps_kind, Option.some.injEq] at first
    match v, w, kinds with
    | .null, .null, _ => exact ⟨rfl, List.append_cancel_left same⟩
    | .bool true, .bool true, _ => exact ⟨rfl, List.append_cancel_left same⟩
    | .bool false, .bool false, _ => exact ⟨rfl, List.append_cancel_left same⟩
    | .int i, .int j, _ =>
      obtain ⟨eq, rest⟩ := number_cancel ends ends' same
      exact ⟨by rw [eq], rest⟩
    | .str a, .str b, _ =>
      obtain ⟨eq, rest⟩ := quoted_cancel same
      exact ⟨by rw [eq], rest⟩
    | .list a, .list b, _ =>
      obtain ⟨eq, rest⟩ := items_cancel a b (.inl rfl) (List.cons.inj same).2
      exact ⟨by rw [eq], rest⟩
    | .dict a, .dict b, _ =>
      obtain ⟨eq, rest⟩ := members_cancel a b (.inl rfl) (List.cons.inj same).2
      exact ⟨by rw [eq], rest⟩

theorem items_cancel : ∀ (a b : List Floatless) {separator r s : Text},
    separator = [] ∨ separator = [','] →
    dumpsItems separator a ++ r = dumpsItems separator b ++ s → a = b ∧ r = s
  | [], [], _, _, _, _, same => ⟨rfl, (List.cons.inj same).2⟩
  | [], value :: b, separator, r, s, few, same => by
    rcases few with rfl | rfl
    · rw [dumpsItems, dumpsItems, List.nil_append, List.append_assoc] at same
      exact absurd same.symm (dumps_opens value _ _)
    · cases same
  | value :: a, [], separator, r, s, few, same => by
    rcases few with rfl | rfl
    · rw [dumpsItems, dumpsItems, List.nil_append, List.append_assoc] at same
      exact absurd same (dumps_opens value _ _)
    · cases same
  | value :: a, value' :: b, separator, r, s, few, same => by
    simp only [dumpsItems, List.append_assoc] at same
    obtain ⟨first, rest⟩ := dumps_cancel value value' (items_ends a r) (items_ends b s)
      (List.append_cancel_left same)
    obtain ⟨others, tail⟩ := items_cancel a b (.inr rfl) rest
    exact ⟨by rw [first, others], tail⟩

theorem members_cancel : ∀ (a b : List (Text × Floatless)) {separator r s : Text},
    separator = [] ∨ separator = [','] →
    dumpsMembers separator a ++ r = dumpsMembers separator b ++ s → a = b ∧ r = s
  | [], [], _, _, _, _, same => ⟨rfl, (List.cons.inj same).2⟩
  | [], (_, _) :: _, _, _, _, few, same => by
    rcases few with rfl | rfl
    · cases same
    · cases same
  | (_, _) :: _, [], _, _, _, few, same => by
    rcases few with rfl | rfl
    · cases same
    · cases same
  | (name, value) :: a, (name', value') :: b, separator, r, s, few, same => by
    simp only [dumpsMembers, List.append_assoc, List.cons_append] at same
    obtain ⟨names, values⟩ := quoted_cancel (List.append_cancel_left same)
    obtain ⟨first, rest⟩ := dumps_cancel value value' (members_ends a r) (members_ends b s)
      (List.cons.inj values).2
    obtain ⟨others, tail⟩ := members_cancel a b (.inr rfl) rest
    exact ⟨by rw [names, first, others], tail⟩

end

theorem dumps_injective : Function.Injective dumps := by
  intro v w same
  have nothing : Ends [] := nofun
  exact (dumps_cancel v w nothing nothing (congrArg (· ++ []) same)).1

theorem canonical_iff {v w : Floatless} : canonical v = canonical w ↔ sortKeys v = sortKeys w :=
  dumps_injective.eq_iff

instance : IsTrans (Text × Floatless) ByName := ⟨fun _ _ _ => le_trans⟩

instance : Std.Total ByName := ⟨fun a b => le_total a.1 b.1⟩

theorem insertionSort_byName {a b : List (Text × Floatless)} (keyed : Keyed a) :
    a.insertionSort ByName = b.insertionSort ByName ↔ a.Perm b := by
  have left := List.perm_insertionSort ByName a
  have right := List.perm_insertionSort ByName b
  constructor
  · intro same
    rw [← same] at right
    exact left.symm.trans right
  · intro perm
    refine List.Perm.eq_of_pairwise ?_ (List.pairwise_insertionSort ByName a)
      (List.pairwise_insertionSort ByName b) (left.trans (perm.trans right.symm))
    intro x y inA inB le ge
    exact List.inj_on_of_nodup_map keyed (left.subset inA)
      (perm.symm.subset (right.subset inB)) (le_antisymm le ge)

theorem sortValues_eq_map (members : List (Text × Floatless)) :
    sortValues members = members.map fun m => (m.1, sortKeys m.2) := by
  induction members with
  | nil => rfl
  | cons member rest ih =>
    obtain ⟨name, value⟩ := member
    rw [sortValues, ih]
    rfl

theorem sortKeys_dict_iff {a b : List (Text × Floatless)} (keyed : Keyed a)
    (keyed' : Keyed b) :
    sortKeys (.dict a) = sortKeys (.dict b) ↔
      ∀ name, (a.lookup name).map sortKeys = (b.lookup name).map sortKeys := by
  have names (c : List (Text × Floatless)) :
      (c.map fun m => (m.1, sortKeys m.2)).map Prod.fst = c.map Prod.fst := by
    rw [List.map_map]
    rfl
  rw [sortKeys, sortKeys, Value.dict.injEq, sortValues_eq_map, sortValues_eq_map]
  rw [Keyed, ← names a] at keyed
  rw [Keyed, ← names b] at keyed'
  rw [insertionSort_byName keyed, perm_iff_lookup keyed keyed']
  simp only [lookup_map]

def named (fields : List (String × Floatless)) : List (Text × Floatless) :=
  fields.map fun f => (f.1.toList, f.2)

theorem named_keyed {fields : List (String × Floatless)} (keyed : Keyed fields) :
    Keyed (named fields) := by
  have names : (named fields).map Prod.fst = (fields.map Prod.fst).map String.toList := by
    rw [named, List.map_map, List.map_map]
    rfl
  rw [Keyed, names]
  exact keyed.map fun _ _ same => String.toList_inj.mp same

theorem lookup_named (fields : List (String × Floatless)) (name : String) :
    (named fields).lookup name.toList = fields.lookup name := by
  induction fields with
  | nil => rfl
  | cons field rest ih =>
    rw [named, List.map_cons, List.lookup_cons, List.lookup_cons, ← named, ih]
    by_cases here : name = field.1
    · rw [here, beq_self_eq_true, beq_self_eq_true]
    · have apart : name.toList ≠ field.1.toList := fun same => here (String.toList_inj.mp same)
      rw [beq_false_of_ne here, beq_false_of_ne apart]

theorem sortKeys_named_iff {a b : List (String × Floatless)} (keyed : Keyed a)
    (keyed' : Keyed b) :
    sortKeys (.dict (named a)) = sortKeys (.dict (named b)) ↔
      ∀ name, (a.lookup name).map sortKeys = (b.lookup name).map sortKeys := by
  rw [sortKeys_dict_iff (named_keyed keyed) (named_keyed keyed')]
  constructor
  · intro same name
    rw [← lookup_named, same, lookup_named]
  · intro same text
    have spelt : (String.ofList text).toList = text := String.toList_ofList
    rw [← spelt, lookup_named, lookup_named, same]

theorem sortKeys_cons_iff {name : String} {v w : Floatless} {a b : List (String × Floatless)}
    (keyed : Keyed ((name, v) :: a)) (keyed' : Keyed ((name, w) :: b)) :
    sortKeys (.dict (named ((name, v) :: a))) = sortKeys (.dict (named ((name, w) :: b))) ↔
      sortKeys v = sortKeys w ∧ sortKeys (.dict (named a)) = sortKeys (.dict (named b)) := by
  have rest := keyed.sublist (List.sublist_cons_self ..)
  have rest' := keyed'.sublist (List.sublist_cons_self ..)
  rw [sortKeys_named_iff keyed keyed', sortKeys_named_iff rest rest']
  constructor
  · intro same
    constructor
    · have first := same name
      rw [List.lookup_cons_self, List.lookup_cons_self] at first
      exact Option.some.inj first
    · intro other
      by_cases here : other = name
      · rw [here, lookup_eq_none_iff.mpr (List.nodup_cons.mp keyed).1,
          lookup_eq_none_iff.mpr (List.nodup_cons.mp keyed').1]
      · have later := same other
        rwa [List.lookup_cons, List.lookup_cons, beq_false_of_ne here] at later
  · rintro ⟨first, rest⟩ other
    rw [List.lookup_cons, List.lookup_cons]
    split
    · exact congrArg some first
    · exact rest other

example : canonical (.dict [(['r'], .str ['o', '\n']), (['i', 'd'], .int (-12))]) =
    ['{', '"', 'i', 'd', '"', ':', '-', '1', '2', ',', '"', 'r', '"', ':', '"', 'o', '\\', 'n', '"',
      '}'] := by decide +kernel

end CaseSorter.Json
