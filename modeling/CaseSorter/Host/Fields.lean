import Mathlib.Algebra.GroupWithZero.Nat
import CaseSorter.Host.Parsing
import CaseSorter.Lib.Actions

/-! What the host's parsers accept is bounded: a line of sixty-four bytes has room for at
most sixteen fields, under the names of the grammar, with values no longer than itself. -/

namespace CaseSorter.Host

open CaseSorter.Actions

attribute [local grind =] splitField isName splitHead parseField parseFields errorForm
  nonemptyFields responseBody numbered removeAndVerifyCrc parseV2Line parseBody beforeStar

/-- The fields are bounded by a text of `n` bytes: each takes at least four, its space
included. -/
structure Bounded (n : Nat) (fields : Fields) : Prop where
  count : 4 * fields.length ≤ n + 1
  names : ∀ f ∈ fields, isName f.1 = true
  values : ∀ f ∈ fields, f.2.length ≤ n

theorem Bounded.imp {m n : Nat} {fields : Fields} (h : Bounded m fields) (le : m ≤ n) :
    Bounded n fields :=
  ⟨by have := h.count; omega, h.names, fun f member => Nat.le_trans (h.values f member) le⟩

theorem bounded_nil (n : Nat) : Bounded n [] :=
  ⟨Nat.zero_le _, fun _ member => absurd member List.not_mem_nil,
    fun _ member => absurd member List.not_mem_nil⟩

theorem splitField_length {token : Text} (mark : token.count '=' = 1) :
    (splitField token).1.length + 1 + (splitField token).2.length = token.length := by
  have found : token.dropWhile (· ≠ '=') ≠ [] := by
    intro none
    rw [List.dropWhile_eq_nil_iff] at none
    have absent : '=' ∉ token := fun member => by simpa using none _ member
    rw [List.count_eq_zero.mpr absent] at mark
    cases mark
  have parts :=
    congrArg List.length (List.takeWhile_append_dropWhile (p := (· ≠ '=')) (l := token))
  rw [List.length_append] at parts
  have positive := List.length_pos_of_ne_nil found
  simp only [splitField, List.length_tail]
  omega

theorem parseField_eq_ok {fields fields' : Fields} {token : Text}
    (h : parseField fields token = .ok fields') :
    token.count '=' = 1 ∧ isName (splitField token).1 = true ∧ (splitField token).2 ≠ [] ∧
      fields' = fields ++ [splitField token] := by
  unfold parseField at h
  dsimp only at h
  split_ifs at h with marks invalid duplicate
  · simp only [Bool.or_eq_true, Bool.not_eq_true', decide_eq_true_eq, not_or,
      Bool.not_eq_false] at invalid
    cases h
    exact ⟨not_not.mp marks, invalid.1.1, invalid.1.2, rfl⟩

theorem tokens_length (tokens : List Text) :
    (tokens.map List.length).sum + tokens.length ≤ ([' '].intercalate tokens).length + 1 := by
  induction tokens with
  | nil => simp
  | cons t ts ih =>
    cases ts with
    | nil => simp [List.intercalate_singleton]
    | cons t' ts =>
      rw [List.intercalate_cons_cons]
      simp only [List.map_cons, List.sum_cons, List.length_cons, List.length_append,
        List.length_nil] at ih ⊢
      omega

theorem foldlM_parseField {tokens : List Text} {fields fields' : Fields}
    (h : tokens.foldlM parseField fields = .ok fields') :
    ∃ added, fields' = fields ++ added ∧
      4 * added.length ≤ (tokens.map List.length).sum + tokens.length ∧
      (∀ f ∈ added, isName f.1 = true) ∧
      ∀ f ∈ added, f.2.length ≤ (tokens.map List.length).sum := by
  induction tokens generalizing fields with
  | nil =>
    cases h
    exact ⟨[], (List.append_nil _).symm, by simp, by simp, by simp⟩
  | cons token tokens ih =>
    rw [List.foldlM_cons] at h
    cases first : parseField fields token with
    | error e =>
      rw [first] at h
      cases h
    | ok between =>
      rw [first] at h
      obtain ⟨mark, name, value, rfl⟩ := parseField_eq_ok first
      obtain ⟨added, rfl, count, names, values⟩ := ih h
      have length := splitField_length mark
      have named : 0 < (splitField token).1.length := by
        cases at_name : (splitField token).1 with
        | nil => simp [isName, at_name] at name
        | cons c cs => simp
      have valued := List.length_pos_of_ne_nil value
      refine ⟨splitField token :: added, by rw [List.append_assoc]; rfl, ?_, ?_, ?_⟩
      · simp only [List.length_cons, List.map_cons, List.sum_cons]
        omega
      · exact List.forall_mem_cons.mpr ⟨name, names⟩
      · simp only [List.map_cons, List.sum_cons]
        refine List.forall_mem_cons.mpr ⟨by omega, fun f member => ?_⟩
        exact Nat.le_trans (values f member) (Nat.le_add_left _ _)

theorem parseFields_bounded {text : Text} {fields : Fields} (h : parseFields text = .ok fields) :
    Bounded text.length fields := by
  unfold parseFields at h
  split_ifs at h with empty
  · cases h
    exact bounded_nil _
  · obtain ⟨added, rfl, count, names, values⟩ := foldlM_parseField h
    have whole := tokens_length (text.splitOn ' ')
    rw [List.intercalate_splitOn] at whole
    have tokens : 1 ≤ (text.splitOn ' ').length :=
      List.length_pos_of_ne_nil (List.splitOn_ne_nil ' ' text)
    exact ⟨by omega, names, fun f member => by have := values f member; omega⟩

theorem splitHead_length (text : Text) : (splitHead text).2.length ≤ text.length := by
  rw [splitHead, List.length_tail]
  exact Nat.le_trans (Nat.sub_le _ _) (List.length_dropWhile_le _ _)

theorem errorForm_bounded {text name : Text} {code : Nat} {fields : Fields}
    (h : errorForm text = .ok (code, name, fields)) : Bounded text.length fields := by
  unfold errorForm at h
  dsimp only at h
  split at h
  · rename_i form digits name' parts
    split_ifs at h
    cases number : uint digits "error code" 1 (some 65535) with
    | error e =>
      rw [number] at h
      cases h
    | ok value =>
      rw [number] at h
      cases parsed : parseFields (splitHead text).2 with
      | error e =>
        simp only [parsed, bind, Except.bind] at h
        cases h
      | ok fields' =>
        simp only [parsed, bind, Except.bind, pure, Except.pure, Except.ok.injEq,
          Prod.mk.injEq] at h
        obtain ⟨-, -, rfl⟩ := h
        exact (parseFields_bounded parsed).imp (splitHead_length text)
  · cases h

theorem nonemptyFields_bounded {text : Text} {fields : Fields}
    (h : nonemptyFields text = .ok fields) : Bounded text.length fields := by
  unfold nonemptyFields at h
  split_ifs at h
  exact parseFields_bounded h

theorem responseBody_bounded {requestId : Nat} {body : Text} {r : Response}
    (h : responseBody requestId body = .ok r) :
    Bounded body.length r.fields ∧ (r.kind = .error ↔ r.name.isSome = true) ∧
      r.requestId = requestId := by
  unfold responseBody at h
  split_ifs at h
  · cases h
    exact ⟨bounded_nil _, by simp, rfl⟩
  · obtain ⟨fields, parsed, rfl⟩ := map_eq_ok h
    exact ⟨(nonemptyFields_bounded parsed).imp (by simp), by simp, rfl⟩
  · obtain ⟨fields, parsed, rfl⟩ := map_eq_ok h
    exact ⟨(nonemptyFields_bounded parsed).imp (by simp), by simp, rfl⟩
  · obtain ⟨fields, parsed, rfl⟩ := map_eq_ok h
    exact ⟨(nonemptyFields_bounded parsed).imp (by simp), by simp, rfl⟩
  · obtain ⟨fields, parsed, rfl⟩ := map_eq_ok h
    exact ⟨(nonemptyFields_bounded parsed).imp (by simp), by simp, rfl⟩
  · cases h
    exact ⟨bounded_nil _, by simp, rfl⟩
  · obtain ⟨⟨code, name, fields⟩, parsed, rfl⟩ := map_eq_ok h
    exact ⟨errorForm_bounded parsed, by simp, rfl⟩

theorem numbered_length {body digits rest : Text} (h : numbered body = some (digits, rest)) :
    rest.length ≤ body.length := by
  unfold numbered at h
  split at h
  · rename_i after is
    dsimp only at h
    split_ifs at h
    obtain ⟨-, rfl⟩ := Prod.mk.inj (Option.some.inj h)
    have shorter := List.length_dropWhile_le isDigit body.tail
    rw [is, List.length_cons, List.length_tail] at shorter
    omega
  · cases h

theorem beforeStar_length (frame : Text) : (beforeStar frame).length ≤ frame.length := by
  have shorter := List.length_dropWhile_le (fun c => c ≠ '*') frame.reverse
  rw [List.length_reverse] at shorter
  rw [beforeStar, List.length_reverse, List.length_tail]
  omega

theorem removeAndVerifyCrc_length {frame body : Text} {required : Bool}
    (h : removeAndVerifyCrc frame required = .ok body) : body.length ≤ frame.length := by
  unfold removeAndVerifyCrc at h
  dsimp only at h
  split_ifs at h
  · cases h
    exact Nat.le_refl _
  · cases h
    exact beforeStar_length frame

theorem parseV2Line_bounded {line : Text} {crcRequired : Bool} {r : Response}
    (h : parseV2Line line crcRequired = .ok (.response r)) :
    Bounded 64 r.fields ∧ (r.kind = .error ↔ r.name.isSome = true) := by
  unfold parseV2Line at h
  split_ifs at h with ascii shape stopped
  · cases h
  simp only [Bool.or_eq_true, decide_eq_true_eq, not_or, Nat.not_lt] at shape
  cases stripped : removeAndVerifyCrc line crcRequired with
  | error e =>
    rw [stripped] at h
    cases h
  | ok body =>
    rw [stripped] at h
    change parseBody body = _ at h
    have short := removeAndVerifyCrc_length stripped
    unfold parseBody at h
    split_ifs at h
    · split at h
      · cases h
      · rename_i digits rest found
        cases number : uint digits "response id" 0 (some 65535) with
        | error e =>
          rw [number] at h
          cases h
        | ok requestId =>
          cases parsed : responseBody requestId rest with
          | error e =>
            simp only [number, parsed, bind, Except.bind] at h
            cases h
          | ok r' =>
            simp only [number, parsed, bind, Except.bind, pure, Except.pure, Except.ok.injEq,
              Parsed.response.injEq] at h
            subst h
            obtain ⟨bounded, named, -⟩ := responseBody_bounded parsed
            exact ⟨bounded.imp (by have := numbered_length found; omega), named⟩
    · split at h
      · cases h
      · rename_i digits rest found
        cases number : uint digits "event sequence" 1 (some 65535) with
        | error e =>
          rw [number] at h
          cases h
        | ok sequence =>
          cases parsed : eventBody sequence body rest with
          | error e =>
            simp only [number, parsed, bind, Except.bind] at h
            cases h
          | ok e =>
            simp only [number, parsed, bind, Except.bind, pure, Except.pure] at h
            cases h

end CaseSorter.Host
