import Mathlib.Algebra.GroupWithZero.Nat
import CaseSorter.Firmware.Requests
import CaseSorter.Link.RequestEncoding

/-! The v2 lines of the sketch as text, and what the host's parser makes of them. A line
that `Fits` is read back with its number, its kind and its fields. -/

namespace CaseSorter.Link

open Firmware (Field V2ResponseKind V2Response V2EventKind V2Event Emission)
open Host (Text Fields Parsed)

def token (f : Field) : Text := f.1.toList ++ '=' :: f.2.toList

/-- The fields in the order in which they are printed, the first after `lead`. -/
def fieldsText (lead : Char) : List Field → Text
  | [] => []
  | f :: fields => lead :: token f ++ fieldsText ' ' fields

def codedText (form : String) (code : Nat) (name : String) (fields : List Field) : Text :=
  form.toList ++ ':' :: (toString code).toList ++ ':' :: name.toList ++ fieldsText ' ' fields

def responseText (kind : V2ResponseKind) (fields : List Field) : Text :=
  match kind with
  | .accepted => "accepted".toList ++ fieldsText ':' fields
  | .progress => "progress".toList ++ fieldsText ':' fields
  | .data => "data".toList ++ fieldsText ':' fields
  | .done => "done".toList ++ fieldsText ':' fields
  | .error code name => codedText "error" code name fields

def eventText (kind : V2EventKind) (fields : List Field) : Text :=
  match kind with
  | .state => "state".toList ++ fieldsText ':' fields
  | .fault code name => codedText "fault" code name fields
  | .reject code name => codedText "reject" code name fields

def numberedText (mark : Char) (number : Nat) (rest : Text) : Text :=
  mark :: (toString number).toList ++ ' ' :: rest

def v2Text : Emission → Option Text
  | .response r => some (numberedText '@' r.requestId (responseText r.kind r.fields))
  | .event e => some (numberedText '!' e.sequence (eventText e.kind e.fields))
  | .v1 .stopped => some "stopped".toList
  | _ => none

def hostFields (fields : List Field) : Fields := fields.map fun f => (f.1.toList, f.2.toList)

def hostResponse (r : V2Response) : Host.Response :=
  match r.kind with
  | .accepted => { requestId := r.requestId, kind := .accepted, fields := hostFields r.fields }
  | .progress => { requestId := r.requestId, kind := .progress, fields := hostFields r.fields }
  | .data => { requestId := r.requestId, kind := .data, fields := hostFields r.fields }
  | .done => { requestId := r.requestId, kind := .done, fields := hostFields r.fields }
  | .error code name =>
    { requestId := r.requestId, kind := .error, fields := hostFields r.fields
      code := some code, name := some name.toList }

def hostEvent (e : V2Event) : Host.Event :=
  match e.kind with
  | .state => { sequence := e.sequence, kind := .state, fields := hostFields e.fields }
  | .fault code name =>
    { sequence := e.sequence, kind := .fault, fields := hostFields e.fields
      code := some code, name := some name.toList }
  | .reject code name =>
    { sequence := e.sequence, kind := .reject, fields := hostFields e.fields
      code := some code, name := some name.toList }

def heard : Emission → Option Parsed
  | .response r => some (.response (hostResponse r))
  | .event e => some (.event (hostEvent e))
  | .v1 .stopped => some .stopped
  | _ => none

/-- A v2 line of at most 64 printable bytes that the host reads as what it is. -/
def Accepted (line : Emission) : Prop :=
  ∃ text parsed, v2Text line = some text ∧ heard line = some parsed ∧ text.length ≤ 64 ∧
    text.all Host.isPrintable = true ∧ Host.parseV2Line text false = .ok parsed

def isPlain (c : Char) : Bool :=
  Host.isLetter c || Host.isDigit c || c = '_' || c = '.' || c = '-'

structure Wire (f : Field) : Prop where
  name : Host.isName f.1.toList = true
  given : f.2.toList ≠ []
  plain : f.2.toList.all isPlain = true

def width (fields : List Field) : Nat := (fields.map fun f => f.1.length + f.2.length + 2).sum

structure Fits (head : Nat) (fields : List Field) : Prop where
  wire : ∀ f ∈ fields, Wire f
  keys : (fields.map Prod.fst).Nodup
  short : head + width fields ≤ 57

def Coded (code : Nat) (name : String) : Prop :=
  1 ≤ code ∧ code ≤ 65535 ∧ Host.isName name.toList = true

def codedLength (form : String) (code : Nat) (name : String) : Nat :=
  form.length + 1 + (toString code).length + 1 + name.length

def FitsResponse (kind : V2ResponseKind) (fields : List Field) : Prop :=
  match kind with
  | .accepted | .progress => fields ≠ [] ∧ Fits 8 fields
  | .data => fields ≠ [] ∧ Fits 4 fields
  | .done => Fits 4 fields
  | .error code name => Coded code name ∧ Fits (codedLength "error" code name) fields

def FitsEvent (kind : V2EventKind) (fields : List Field) : Prop :=
  match kind with
  | .state => fields ≠ [] ∧ Fits 5 fields
  | .fault code name => Coded code name ∧ Fits (codedLength "fault" code name) fields
  | .reject code name => Coded code name ∧ Fits (codedLength "reject" code name) fields

theorem isPlain_iff {c : Char} : isPlain c = true ↔
    (65 ≤ c.toNat ∧ c.toNat ≤ 90) ∨ (97 ≤ c.toNat ∧ c.toNat ≤ 122) ∨
      (48 ≤ c.toNat ∧ c.toNat ≤ 57) ∨ c = '_' ∨ c = '.' ∨ c = '-' := by
  simp only [isPlain, Host.isLetter, Host.isDigit, Char.reduceToNat, Bool.or_eq_true,
    Bool.and_eq_true, decide_eq_true_eq]
  tauto

theorem plain_printable {c : Char} (h : isPlain c = true) : Host.isPrintable c = true := by
  simp only [Host.isPrintable, Bool.and_eq_true, decide_eq_true_eq]
  rcases isPlain_iff.mp h with h | h | h | rfl | rfl | rfl
  · omega
  · omega
  · omega
  · decide
  · decide
  · decide

theorem plain_space {c : Char} (h : isPlain c = true) : Host.isSpace c = false := by
  rcases isPlain_iff.mp h with h | h | h | rfl | rfl | rfl
  · simp [Host.isSpace]
    omega
  · simp [Host.isSpace]
    omega
  · simp [Host.isSpace]
    omega
  · decide
  · decide
  · decide

theorem plain_name {t : Text} (h : Host.isName t = true) : t.all isPlain = true := by
  rw [Host.isName, Bool.and_eq_true, List.all_eq_true] at h
  refine List.all_eq_true.mpr fun c member => ?_
  have allowed := h.2 c member
  rw [isPlain, Bool.or_assoc (_ || _ || decide (c = '_')), allowed, Bool.true_or]

theorem plain_digits (n : Nat) : (toString n).toList.all isPlain = true := by
  refine List.all_eq_true.mpr fun c member => ?_
  rw [digits_toString] at member
  have digit := Nat.isDigit_of_mem_toDigits (by decide) (by decide) member
  simp only [Char.isDigit, Bool.and_eq_true, decide_eq_true_eq, ge_iff_le] at digit
  exact isPlain_iff.mpr (.inr (.inr (.inl digit)))

theorem absent {t : Text} (h : t.all isPlain = true) {c : Char} (other : isPlain c = false) :
    c ∉ t := by
  intro member
  rw [List.all_eq_true.mp h c member] at other
  cases other

theorem Wire.marks {f : Field} (h : Wire f) : '=' ∉ f.1.toList ∧ '=' ∉ f.2.toList :=
  ⟨absent (plain_name h.name) (by decide), absent h.plain (by decide)⟩

theorem Wire.token_absent {f : Field} (h : Wire f) {c : Char} (other : isPlain c = false)
    (mark : c ≠ '=') : c ∉ token f := by
  rw [token, List.mem_append, List.mem_cons]
  rintro (key | is | value)
  · exact absent (plain_name h.name) other key
  · exact mark is
  · exact absent h.plain other value

theorem split_before {t rest : Text} {c : Char} (h : c ∉ t) :
    (t ++ c :: rest).takeWhile (· ≠ c) = t ∧
      ((t ++ c :: rest).dropWhile (· ≠ c)).tail = rest := by
  have other : ∀ a ∈ t, (decide (a ≠ c)) = true := by
    intro a member
    rw [decide_eq_true_eq]
    rintro rfl
    exact h member
  rw [List.takeWhile_append_of_pos other, List.dropWhile_append_of_pos other]
  simp

theorem parseField_token {fields : Fields} {f : Field} (h : Wire f)
    (fresh : f.1.toList ∉ fields.map Prod.fst) :
    Host.parseField fields (token f) = .ok (fields ++ [(f.1.toList, f.2.toList)]) := by
  obtain ⟨key, value⟩ := h.marks
  have once : (token f).count '=' = 1 := by
    rw [token, List.count_append, List.count_cons_self, List.count_eq_zero.mpr key,
      List.count_eq_zero.mpr value]
  have parts : Host.splitField (token f) = (f.1.toList, f.2.toList) := by
    obtain ⟨before, after⟩ := @split_before f.1.toList f.2.toList '=' key
    exact Prod.ext before after
  have solid : f.2.toList.any Host.isSpace = false := by
    refine List.any_eq_false.mpr fun c member => ?_
    rw [plain_space (List.all_eq_true.mp h.plain c member)]
    decide
  have unknown : (fields.any fun g => decide (g.1 = f.1.toList)) = false := by
    refine List.any_eq_false.mpr fun g member => ?_
    rw [decide_eq_true_eq]
    exact fun same => fresh (same ▸ List.mem_map_of_mem member)
  unfold Host.parseField
  rw [if_neg (not_not.mpr once), parts]
  dsimp only
  simp [h.name, h.given, solid, unknown]

theorem parse_tokens {fields : List Field} (wire : ∀ f ∈ fields, Wire f)
    (keys : (fields.map Prod.fst).Nodup) {parsed : Fields}
    (fresh : ∀ f ∈ fields, f.1.toList ∉ parsed.map Prod.fst) :
    (fields.map token).foldlM Host.parseField parsed = .ok (parsed ++ hostFields fields) := by
  induction fields generalizing parsed with
  | nil => simp [hostFields]; rfl
  | cons f fields ih =>
    rw [List.map_cons, List.nodup_cons] at keys
    rw [List.map_cons, List.foldlM_cons,
      parseField_token (wire f List.mem_cons_self) (fresh f List.mem_cons_self)]
    have later : ∀ g ∈ fields, g.1.toList ∉
        (parsed ++ [(f.1.toList, f.2.toList)]).map Prod.fst := by
      intro g member
      rw [List.map_append, List.mem_append, List.map_cons, List.map_nil, List.mem_singleton]
      rintro (old | same)
      · exact fresh g (List.mem_cons_of_mem f member) old
      · exact keys.1 (String.toList_inj.mp same ▸ List.mem_map_of_mem member)
    have rest := ih (fun g member => wire g (List.mem_cons_of_mem f member)) keys.2 later
    rw [List.append_assoc] at rest
    exact rest

theorem fieldsText_cons (lead : Char) (f : Field) (fields : List Field) :
    fieldsText lead (f :: fields) = lead :: [' '].intercalate ((f :: fields).map token) := by
  induction fields generalizing lead f with
  | nil => simp [fieldsText]
  | cons g fields ih =>
    rw [fieldsText, ih ' ' g, List.map_cons, List.map_cons, List.map_cons,
      List.intercalate_cons_cons]
    simp

theorem parseFields_fieldsText {lead : Char} {head : Nat} {fields : List Field}
    (h : Fits head fields) :
    Host.parseFields (fieldsText lead fields).tail = .ok (hostFields fields) := by
  cases fields with
  | nil => rfl
  | cons f fields =>
    rw [fieldsText_cons, List.tail_cons, Host.parseFields, if_neg ?given,
      List.splitOn_intercalate ' ' ?spaces (by simp), parse_tokens h.wire h.keys (by simp)]
    · rfl
    case given =>
      intro empty
      have printed := fieldsText_cons lead f fields
      rw [empty, fieldsText, token] at printed
      simp at printed
    case spaces =>
      intro t member
      obtain ⟨g, of, rfl⟩ := List.mem_map.mp member
      exact (h.wire g of).token_absent (by decide) (by decide)

theorem leading_digit {n : Nat} (positive : 0 < n) :
    ∃ c rest, Nat.toDigits 10 n = c :: rest ∧ c ≠ '0' := by
  induction n using Nat.strongRecOn with
  | ind n ih =>
    by_cases small : n < 10
    · rw [Nat.toDigits_of_lt_base small]
      have digits : ∀ k < 10, 0 < k → Nat.digitChar k ≠ '0' := by decide
      exact ⟨_, [], rfl, digits n small positive⟩
    · obtain ⟨c, rest, digits, other⟩ := ih (n / 10) (by omega) (by omega)
      rw [Nat.toDigits_of_base_le (by decide) (by omega), digits]
      exact ⟨c, _, rfl, other⟩

theorem digits_all (n : Nat) : (toString n).toList.all Host.isDigit = true := by
  refine List.all_eq_true.mpr fun c member => ?_
  rw [digits_toString] at member
  have digit := Nat.isDigit_of_mem_toDigits (by decide) (by decide) member
  simp only [Char.isDigit, Bool.and_eq_true, decide_eq_true_eq, ge_iff_le] at digit
  simp only [Host.isDigit, Char.reduceToNat, Bool.and_eq_true, decide_eq_true_eq]
  exact digit

theorem digits_given (n : Nat) : (toString n).toList ≠ [] := by
  rw [digits_toString]
  exact Nat.toDigits_ne_nil

theorem isUint_toString (n : Nat) : Host.isUint (toString n).toList = true := by
  rcases Nat.eq_zero_or_pos n with rfl | positive
  · decide
  · obtain ⟨c, rest, digits, other⟩ := leading_digit positive
    have all := digits_all n
    rw [digits_toString, digits] at all ⊢
    rw [List.all_cons, Bool.and_eq_true] at all
    simp [Host.isUint, all, other]

theorem uint_toString {n minimum : Nat} {maximum : Option Nat} (name : String)
    (low : minimum ≤ n) (high : ∀ m ∈ maximum, n ≤ m) :
    Host.uint (toString n).toList name minimum maximum = .ok n := by
  have value : Host.int (toString n).toList = n := by
    rw [Host.int, digits_toString]
    exact Nat.ofDigitChars_ten_toDigits
  have within : (maximum.any fun m => decide (m < n)) = false := by
    cases maximum with
    | none => rfl
    | some m => simpa using high m rfl
  rw [Host.uint, isUint_toString, value, within]
  simp [low]

theorem numbered_text (mark : Char) (n : Nat) {rest : Text} (given : rest ≠ []) :
    Host.numbered (numberedText mark n rest) = some ((toString n).toList, rest) := by
  have digits : ∀ c ∈ (toString n).toList, Host.isDigit c = true :=
    List.all_eq_true.mp (digits_all n)
  rw [Host.numbered, numberedText, List.cons_append, List.tail_cons,
    List.takeWhile_append_of_pos digits, List.dropWhile_append_of_pos digits]
  simp [Host.isDigit, given]

theorem errorForm_text {form : String}
    (known : form = "error" ∨ form = "fault" ∨ form = "reject") {code : Nat} {name : String}
    (coded : Coded code name) {head : Nat} {fields : List Field} (h : Fits head fields) :
    Host.errorForm (codedText form code name fields) =
      .ok (code, name.toList, hostFields fields) := by
  have plain : form.toList.all isPlain = true := by
    rcases known with rfl | rfl | rfl <;> decide
  obtain ⟨low, high, named⟩ := coded
  have head_eq : form.toList ++ ':' :: (toString code).toList ++ ':' :: name.toList =
      [':'].intercalate [form.toList, (toString code).toList, name.toList] := by
    simp [List.intercalate_cons_cons]
  have solid : ' ' ∉ form.toList ++ ':' :: (toString code).toList ++ ':' :: name.toList := by
    simp only [List.mem_append, List.mem_cons, not_or]
    exact ⟨⟨absent plain (by decide), by decide, absent (plain_digits code) (by decide)⟩,
      by decide, absent (plain_name named) (by decide)⟩
  have split : Host.splitHead (codedText form code name fields) =
      ([':'].intercalate [form.toList, (toString code).toList, name.toList],
        (fieldsText ' ' fields).tail) := by
    rw [← head_eq, codedText]
    cases fields with
    | nil =>
      have all : ∀ c ∈ form.toList ++ ':' :: (toString code).toList ++ ':' :: name.toList,
          (decide (c ≠ ' ')) = true := by
        intro c member
        rw [decide_eq_true_eq]
        rintro rfl
        exact solid member
      rw [fieldsText, List.append_nil, Host.splitHead, List.takeWhile_eq_self_iff.mpr all,
        List.dropWhile_eq_nil_iff.mpr all]
    | cons f fields =>
      obtain ⟨before, after⟩ := @split_before _ (token f ++ fieldsText ' ' fields) ' ' solid
      rw [fieldsText, List.cons_append]
      exact Prod.ext before after
  have colons : ([':'].intercalate
      [form.toList, (toString code).toList, name.toList]).splitOn ':' =
        [form.toList, (toString code).toList, name.toList] := by
    refine List.splitOn_intercalate ':' ?_ (by simp)
    intro t member
    simp only [List.mem_cons, List.not_mem_nil, or_false] at member
    rcases member with rfl | rfl | rfl
    · exact absent plain (by decide)
    · exact absent (plain_digits code) (by decide)
    · exact absent (plain_name named) (by decide)
  have formed :
      (decide (form.toList ≠ "error".toList) && decide (form.toList ≠ "fault".toList) &&
        decide (form.toList ≠ "reject".toList)) = false := by
    rcases known with rfl | rfl | rfl <;> decide
  rw [Host.errorForm, split]
  dsimp only
  rw [colons]
  dsimp only
  rw [formed, named, uint_toString "error code" low (fun m is => by cases is; exact high),
    parseFields_fieldsText h]
  rfl

theorem nonemptyFields_text {lead : Char} {head : Nat} {fields : List Field}
    (h : Fits head fields) (given : fields ≠ []) :
    Host.nonemptyFields (fieldsText lead fields).tail = .ok (hostFields fields) := by
  rw [Host.nonemptyFields, if_neg, parseFields_fieldsText h]
  cases fields with
  | nil => exact absurd rfl given
  | cons f fields =>
    rw [fieldsText, List.cons_append, List.tail_cons, token]
    simp

theorem responseBody_accepted (requestId : Nat) (rest : Text) :
    Host.responseBody requestId ("accepted".toList ++ ':' :: rest) =
      (Host.nonemptyFields rest).map fun fields => { requestId, kind := .accepted, fields } := by
  have longer : "accepted".toList ++ ':' :: rest ≠ "accepted".toList := fun same => by
    have lengths := congrArg List.length same
    simp at lengths
  unfold Host.responseBody
  rw [if_neg longer, if_pos (show "accepted:".toList.isPrefixOf
    ("accepted".toList ++ ':' :: rest) = true from rfl)]
  rfl

theorem responseBody_progress (requestId : Nat) (rest : Text) :
    Host.responseBody requestId ("progress".toList ++ ':' :: rest) =
      (Host.nonemptyFields rest).map fun fields => { requestId, kind := .progress, fields } := by
  have other : "progress".toList ++ ':' :: rest ≠ "accepted".toList := fun same =>
    absurd (congrArg List.head? same) (show some 'p' ≠ some 'a' by decide)
  unfold Host.responseBody
  rw [if_neg other,
    if_neg (show ¬ "accepted:".toList.isPrefixOf ("progress".toList ++ ':' :: rest) = true from
      Bool.false_ne_true),
    if_pos (show "progress:".toList.isPrefixOf ("progress".toList ++ ':' :: rest) = true from rfl)]
  rfl

theorem responseBody_data (requestId : Nat) (rest : Text) :
    Host.responseBody requestId ("data".toList ++ ':' :: rest) =
      (Host.nonemptyFields rest).map fun fields => { requestId, kind := .data, fields } := by
  have other : "data".toList ++ ':' :: rest ≠ "accepted".toList := fun same =>
    absurd (congrArg List.head? same) (show some 'd' ≠ some 'a' by decide)
  unfold Host.responseBody
  rw [if_neg other,
    if_neg (show ¬ "accepted:".toList.isPrefixOf ("data".toList ++ ':' :: rest) = true from
      Bool.false_ne_true),
    if_neg (show ¬ "progress:".toList.isPrefixOf ("data".toList ++ ':' :: rest) = true from
      Bool.false_ne_true),
    if_pos (show "data:".toList.isPrefixOf ("data".toList ++ ':' :: rest) = true from rfl)]
  rfl

theorem responseBody_done (requestId : Nat) (rest : Text) :
    Host.responseBody requestId ("done".toList ++ ':' :: rest) =
      (Host.nonemptyFields rest).map fun fields => { requestId, kind := .done, fields } := by
  have other : "done".toList ++ ':' :: rest ≠ "accepted".toList := fun same =>
    absurd (congrArg List.head? same) (show some 'd' ≠ some 'a' by decide)
  unfold Host.responseBody
  rw [if_neg other,
    if_neg (show ¬ "accepted:".toList.isPrefixOf ("done".toList ++ ':' :: rest) = true from
      Bool.false_ne_true),
    if_neg (show ¬ "progress:".toList.isPrefixOf ("done".toList ++ ':' :: rest) = true from
      Bool.false_ne_true),
    if_neg (show ¬ "data:".toList.isPrefixOf ("done".toList ++ ':' :: rest) = true from
      Bool.false_ne_true),
    if_pos (show "done:".toList.isPrefixOf ("done".toList ++ ':' :: rest) = true from rfl)]
  rfl

theorem responseBody_error (requestId : Nat) (rest : Text) :
    Host.responseBody requestId ("error".toList ++ ':' :: rest) =
      (Host.errorForm ("error".toList ++ ':' :: rest)).map fun (code, name, fields) =>
        { requestId, kind := .error, fields, code := some code, name := some name } := by
  have other : ∀ t, t.head? = some 'a' ∨ t.head? = some 'd' →
      "error".toList ++ ':' :: rest ≠ t := by
    rintro t initial same
    rw [← same] at initial
    exact absurd initial (show ¬ (some 'e' = some 'a' ∨ some 'e' = some 'd') by decide)
  unfold Host.responseBody
  rw [if_neg (other _ (.inl rfl)),
    if_neg (show ¬ "accepted:".toList.isPrefixOf ("error".toList ++ ':' :: rest) = true from
      Bool.false_ne_true),
    if_neg (show ¬ "progress:".toList.isPrefixOf ("error".toList ++ ':' :: rest) = true from
      Bool.false_ne_true),
    if_neg (show ¬ "data:".toList.isPrefixOf ("error".toList ++ ':' :: rest) = true from
      Bool.false_ne_true),
    if_neg (show ¬ "done:".toList.isPrefixOf ("error".toList ++ ':' :: rest) = true from
      Bool.false_ne_true), if_neg (other _ (.inr rfl)),
    if_pos (show "error:".toList.isPrefixOf ("error".toList ++ ':' :: rest) = true from rfl)]

theorem fieldsText_lead {lead : Char} {fields : List Field} (given : fields ≠ []) :
    fieldsText lead fields = lead :: (fieldsText lead fields).tail := by
  cases fields with
  | nil => exact absurd rfl given
  | cons f fields => rfl

theorem codedText_lead (form : String) (code : Nat) (name : String) (fields : List Field) :
    ∃ rest, codedText form code name fields = form.toList ++ ':' :: rest :=
  ⟨(toString code).toList ++ ':' :: name.toList ++ fieldsText ' ' fields, by simp [codedText]⟩

theorem responseBody_text {r : V2Response} (h : FitsResponse r.kind r.fields) :
    Host.responseBody r.requestId (responseText r.kind r.fields) = .ok (hostResponse r) := by
  obtain ⟨requestId, kind, fields⟩ := r
  unfold responseText
  cases kind with
  | accepted =>
    rw [fieldsText_lead h.1, responseBody_accepted, nonemptyFields_text h.2 h.1]
    rfl
  | progress =>
    rw [fieldsText_lead h.1, responseBody_progress, nonemptyFields_text h.2 h.1]
    rfl
  | data =>
    rw [fieldsText_lead h.1, responseBody_data, nonemptyFields_text h.2 h.1]
    rfl
  | done =>
    by_cases given : fields = []
    · rw [given]
      rfl
    · rw [fieldsText_lead given, responseBody_done, nonemptyFields_text h given]
      rfl
  | error code name =>
    have parsed := errorForm_text (.inl rfl) h.1 h.2
    obtain ⟨rest, text⟩ := codedText_lead "error" code name fields
    dsimp only
    rw [text] at parsed ⊢
    rw [responseBody_error, parsed]
    rfl

theorem eventBody_state (sequence : Nat) (body rest : Text) :
    Host.eventBody sequence body ("state".toList ++ ':' :: rest) =
      (Host.nonemptyFields rest).map fun fields => { sequence, kind := .state, fields } := by
  unfold Host.eventBody
  rw [if_pos (show "state:".toList.isPrefixOf ("state".toList ++ ':' :: rest) = true from rfl)]
  rfl

theorem eventBody_fault (sequence : Nat) (body rest : Text) :
    Host.eventBody sequence body ("fault".toList ++ ':' :: rest) =
      (Host.errorForm ("fault".toList ++ ':' :: rest)).map fun (code, name, fields) =>
        { sequence, kind := .fault, fields, code := some code, name := some name } := by
  unfold Host.eventBody
  rw [if_neg (show ¬ "state:".toList.isPrefixOf ("fault".toList ++ ':' :: rest) = true from
      Bool.false_ne_true),
    if_pos (show ("fault:".toList.isPrefixOf ("fault".toList ++ ':' :: rest) ||
      "reject:".toList.isPrefixOf ("fault".toList ++ ':' :: rest)) = true from rfl)]
  rfl

theorem eventBody_reject (sequence : Nat) (body rest : Text) :
    Host.eventBody sequence body ("reject".toList ++ ':' :: rest) =
      (Host.errorForm ("reject".toList ++ ':' :: rest)).map fun (code, name, fields) =>
        { sequence, kind := .reject, fields, code := some code, name := some name } := by
  unfold Host.eventBody
  rw [if_neg (show ¬ "state:".toList.isPrefixOf ("reject".toList ++ ':' :: rest) = true from
      Bool.false_ne_true),
    if_pos (show ("fault:".toList.isPrefixOf ("reject".toList ++ ':' :: rest) ||
      "reject:".toList.isPrefixOf ("reject".toList ++ ':' :: rest)) = true from rfl)]
  rfl

theorem eventBody_text {e : V2Event} (h : FitsEvent e.kind e.fields) (body : Text) :
    Host.eventBody e.sequence body (eventText e.kind e.fields) = .ok (hostEvent e) := by
  obtain ⟨sequence, kind, fields⟩ := e
  unfold eventText
  cases kind with
  | state =>
    rw [fieldsText_lead h.1, eventBody_state, nonemptyFields_text h.2 h.1]
    rfl
  | fault code name =>
    have parsed := errorForm_text (.inr (.inl rfl)) h.1 h.2
    obtain ⟨rest, text⟩ := codedText_lead "fault" code name fields
    dsimp only
    rw [text] at parsed ⊢
    rw [eventBody_fault, parsed]
    rfl
  | reject code name =>
    have parsed := errorForm_text (.inr (.inr rfl)) h.1 h.2
    obtain ⟨rest, text⟩ := codedText_lead "reject" code name fields
    dsimp only
    rw [text] at parsed ⊢
    rw [eventBody_reject, parsed]
    rfl

def isVisible (c : Char) : Bool :=
  isPlain c || c = '@' || c = '!' || c = ' ' || c = ':' || c = '='

theorem visible_printable {c : Char} (h : isVisible c = true) :
    Host.isPrintable c = true ∧ c ≠ '*' ∧ c.toNat < 128 := by
  simp only [isVisible, Bool.or_eq_true, decide_eq_true_eq, or_assoc] at h
  rcases h with plain | rfl | rfl | rfl | rfl | rfl
  · have printable := plain_printable plain
    refine ⟨printable, ?_, ?_⟩
    · rintro rfl
      cases plain
    · simp only [Host.isPrintable, Bool.and_eq_true, decide_eq_true_eq] at printable
      omega
  all_goals decide

theorem visible_plain {t : Text} (h : t.all isPlain = true) : t.all isVisible = true := by
  refine List.all_eq_true.mpr fun c member => ?_
  rw [isVisible, List.all_eq_true.mp h c member]
  rfl

theorem visible_fields {lead : Char} (mark : isVisible lead = true) {fields : List Field}
    (wire : ∀ f ∈ fields, Wire f) : (fieldsText lead fields).all isVisible = true := by
  induction fields generalizing lead with
  | nil => rfl
  | cons f fields ih =>
    have key := visible_plain (plain_name (wire f List.mem_cons_self).name)
    have value := visible_plain (wire f List.mem_cons_self).plain
    have rest := @ih ' ' rfl fun g member => wire g (List.mem_cons_of_mem f member)
    rw [fieldsText, List.cons_append, List.all_cons, List.all_append, token, List.all_append,
      List.all_cons, mark, key, value, rest]
    rfl

theorem length_fields (lead : Char) (fields : List Field) :
    (fieldsText lead fields).length = width fields := by
  induction fields generalizing lead with
  | nil => rfl
  | cons f fields ih =>
    have rest := ih ' '
    simp only [fieldsText, token, width, List.length_append, List.length_cons, List.map_cons,
      List.sum_cons, String.length_toList] at rest ⊢
    omega

/-- What stands after the number: how long it is, and that it is there. -/
structure Body (rest : Text) : Prop where
  given : rest ≠ []
  visible : rest.all isVisible = true
  short : rest.length ≤ 57

theorem body_fields {form : String} (plain : form.toList.all isPlain = true)
    (given : form.toList ≠ []) {fields : List Field} (h : Fits form.length fields) :
    Body (form.toList ++ fieldsText ':' fields) where
  given := by simp [given]
  visible := by
    rw [List.all_append, visible_plain plain, visible_fields rfl h.wire]
    rfl
  short := by
    rw [List.length_append, length_fields, String.length_toList]
    exact h.short

theorem body_coded {form : String} (plain : form.toList.all isPlain = true) {code : Nat}
    {name : String} (coded : Coded code name) {fields : List Field}
    (h : Fits (codedLength form code name) fields) : Body (codedText form code name fields) where
  given := by simp [codedText]
  visible := by
    have digits := visible_plain (plain_digits code)
    have named := visible_plain (plain_name coded.2.2)
    simp only [codedText, List.all_append, List.all_cons, visible_plain plain, digits, named,
      @visible_fields ' ' rfl _ h.wire]
    rfl
  short := by
    have short := h.short
    simp only [codedText, List.length_append, List.length_cons, length_fields,
      String.length_toList] at short ⊢
    unfold codedLength at short
    omega

theorem parse_numbered {mark : Char} {number : Nat} {rest : Text}
    (marked : mark = '@' ∨ mark = '!')
    (small : number ≤ 65535) (h : Body rest) :
    (numberedText mark number rest).length ≤ 64 ∧
      (numberedText mark number rest).all Host.isPrintable = true ∧
      Host.parseV2Line (numberedText mark number rest) false =
        Host.parseBody (numberedText mark number rest) := by
  have digits : (toString number).toList.length ≤ 5 := by
    rw [digits_toString, Nat.length_toDigits_le_iff (by decide) (by decide)]
    omega
  have short : (numberedText mark number rest).length ≤ 64 := by
    have := h.short
    simp only [numberedText, List.length_cons, List.length_append]
    omega
  have visible : (numberedText mark number rest).all isVisible = true := by
    have first : isVisible mark = true := by rcases marked with rfl | rfl <;> decide
    simp only [numberedText, List.all_cons, List.all_append, first,
      visible_plain (plain_digits number), h.visible]
    rfl
  have bytes := fun c member => visible_printable (List.all_eq_true.mp visible c member)
  have printable : (numberedText mark number rest).all Host.isPrintable = true :=
    List.all_eq_true.mpr fun c member => (bytes c member).1
  have ascii : Host.isAscii (numberedText mark number rest) = true :=
    List.all_eq_true.mpr fun c member => decide_eq_true (bytes c member).2.2
  have starless : (numberedText mark number rest).contains '*' = false := by
    rw [List.contains_eq_mem, decide_eq_false_iff_not]
    exact fun member => (bytes '*' member).2.1 rfl
  have other : numberedText mark number rest ≠ "stopped".toList := by
    intro same
    have first : some mark = some 's' := congrArg List.head? same
    rcases marked with rfl | rfl <;> exact absurd first (by decide)
  refine ⟨short, printable, ?_⟩
  have allowed : ¬ ((decide (numberedText mark number rest = []) ||
      decide (64 < (numberedText mark number rest).length) ||
      !(numberedText mark number rest).all Host.isPrintable) = true) := by
    rw [printable]
    simp [numberedText]
    simpa [numberedText] using short
  unfold Host.parseV2Line Host.removeAndVerifyCrc
  rw [ascii, if_neg (by decide), if_neg allowed, if_neg other, starless, if_pos (by decide)]
  rfl

theorem accepted_response {r : V2Response} (small : r.requestId ≤ 65535)
    (h : FitsResponse r.kind r.fields) : Accepted (.response r) := by
  have body : Body (responseText r.kind r.fields) := by
    obtain ⟨requestId, kind, fields⟩ := r
    unfold responseText
    cases kind with
    | accepted => exact body_fields (by decide) (by decide) h.2
    | progress => exact body_fields (by decide) (by decide) h.2
    | data => exact body_fields (by decide) (by decide) h.2
    | done => exact body_fields (by decide) (by decide) h
    | error code name => exact body_coded (by decide) h.1 h.2
  obtain ⟨short, printable, line⟩ := parse_numbered (.inl rfl) small body
  refine ⟨_, _, rfl, rfl, short, printable, ?_⟩
  have first : (numberedText '@' r.requestId (responseText r.kind r.fields)).head? = some '@' := rfl
  rw [line, Host.parseBody, if_pos first, numbered_text '@' r.requestId body.given]
  dsimp only
  rw [uint_toString "response id" (Nat.zero_le _) (fun m is => by cases is; exact small)]
  change (Host.responseBody r.requestId _ >>= _) = _
  rw [responseBody_text h]
  rfl

theorem accepted_event {e : V2Event} (positive : 1 ≤ e.sequence) (small : e.sequence ≤ 65535)
    (h : FitsEvent e.kind e.fields) : Accepted (.event e) := by
  have body : Body (eventText e.kind e.fields) := by
    obtain ⟨sequence, kind, fields⟩ := e
    unfold eventText
    cases kind with
    | state => exact body_fields (by decide) (by decide) h.2
    | fault code name => exact body_coded (by decide) h.1 h.2
    | reject code name => exact body_coded (by decide) h.1 h.2
  obtain ⟨short, printable, line⟩ := parse_numbered (.inr rfl) small body
  refine ⟨_, _, rfl, rfl, short, printable, ?_⟩
  have other : ¬ (numberedText '!' e.sequence (eventText e.kind e.fields)).head? = some '@' := by
    change ¬ some '!' = some '@'
    decide
  have first : (numberedText '!' e.sequence (eventText e.kind e.fields)).head? = some '!' := rfl
  rw [line, Host.parseBody, if_neg other, if_pos first, numbered_text '!' e.sequence body.given]
  dsimp only
  rw [uint_toString "event sequence" positive (fun m is => by cases is; exact small)]
  change (Host.eventBody e.sequence _ _ >>= _) = _
  rw [eventBody_text h]
  rfl

theorem accepted_stopped : Accepted (.v1 .stopped) :=
  ⟨_, _, rfl, rfl, by decide, by decide, by decide⟩

end CaseSorter.Link
