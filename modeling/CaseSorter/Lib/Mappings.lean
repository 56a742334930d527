import Mathlib.Data.List.Nodup

/-! Mappings kept as lists of entries, each key at most once: what a lookup finds, and what
setting and deleting a key do to it. A key that is set again keeps its place, as in a `dict` and
in a `Map`. -/

namespace CaseSorter.Mappings

variable {κ α β : Type*} {a b : List (κ × α)}

def Keyed (a : List (κ × α)) : Prop := (a.map Prod.fst).Nodup

instance [DecidableEq κ] : Decidable (Keyed a) :=
  inferInstanceAs (Decidable (a.map Prod.fst).Nodup)

theorem Keyed.sublist (keyed : Keyed a) (sub : b.Sublist a) : Keyed b :=
  (sub.map Prod.fst).nodup keyed

theorem Keyed.filter (keyed : Keyed a) (p : κ × α → Bool) : Keyed (a.filter p) :=
  keyed.sublist List.filter_sublist

section

variable [BEq κ]

theorem lookup_map (f : α → β) (key : κ) :
    (a.map fun e => (e.1, f e.2)).lookup key = (a.lookup key).map f := by
  induction a with
  | nil => rfl
  | cons entry rest ih =>
    rw [List.map_cons, List.lookup_cons, List.lookup_cons, ih]
    split <;> rfl

variable [LawfulBEq κ]

theorem lookup_iff_mem (keyed : Keyed a) {key : κ} {value : α} :
    a.lookup key = some value ↔ (key, value) ∈ a := by
  induction a with
  | nil => exact ⟨nofun, nofun⟩
  | cons entry rest ih =>
    obtain ⟨other, held⟩ := entry
    obtain ⟨fresh, later⟩ := List.nodup_cons.mp keyed
    have ih := ih later
    rw [List.lookup_cons, List.mem_cons, Prod.mk.injEq, ← ih]
    by_cases here : key = other
    · subst here
      rw [beq_self_eq_true, Option.some.injEq]
      refine ⟨fun eq => .inl ⟨rfl, eq.symm⟩, ?_⟩
      rintro (⟨-, eq⟩ | found)
      · exact eq.symm
      · exact absurd (List.mem_map_of_mem (f := Prod.fst) (ih.mp found)) fresh
    · rw [beq_false_of_ne here]
      exact ⟨.inr, fun either => either.resolve_left fun eq => here eq.1⟩

theorem lookup_eq_none_iff {key : κ} : a.lookup key = none ↔ key ∉ a.map Prod.fst := by
  rw [List.lookup_eq_none_iff]
  constructor
  · rintro fresh member
    obtain ⟨entry, among, rfl⟩ := List.mem_map.mp member
    exact bne_iff_ne.mp (fresh entry among) rfl
  · rintro fresh entry member
    rw [bne_iff_ne]
    rintro rfl
    exact fresh (List.mem_map_of_mem member)

theorem perm_iff_lookup (keyed : Keyed a) (keyed' : Keyed b) :
    a.Perm b ↔ ∀ key, a.lookup key = b.lookup key := by
  rw [List.perm_ext_iff_of_nodup (List.Nodup.of_map _ keyed) (List.Nodup.of_map _ keyed')]
  constructor
  · intro entries key
    ext value
    rw [lookup_iff_mem keyed, lookup_iff_mem keyed', entries]
  · rintro lookups ⟨key, value⟩
    rw [← lookup_iff_mem keyed, lookups, lookup_iff_mem keyed']

theorem lookup_filter (keyed : Keyed a) (p : κ × α → Bool) (key : κ) :
    (a.filter p).lookup key = (a.lookup key).filter fun value => p (key, value) := by
  ext value
  rw [lookup_iff_mem (keyed.filter p), List.mem_filter, Option.filter_eq_some_iff,
    lookup_iff_mem keyed]

end

section

variable [DecidableEq κ]

def put (a : List (κ × α)) (key : κ) (value : α) : List (κ × α) :=
  if key ∈ a.map Prod.fst then a.map fun e => if e.1 = key then (key, value) else e
  else a ++ [(key, value)]

def delete (a : List (κ × α)) (key : κ) : List (κ × α) := a.filter fun e => e.1 ≠ key

theorem keys_put (key : κ) (value : α) :
    (put a key value).map Prod.fst =
      if key ∈ a.map Prod.fst then a.map Prod.fst else a.map Prod.fst ++ [key] := by
  unfold put
  split_ifs with known
  · rw [List.map_map]
    refine List.map_congr_left fun entry _ => ?_
    rw [Function.comp_apply]
    split_ifs with here
    · exact here.symm
    · rfl
  · rw [List.map_append, List.map_singleton]

theorem Keyed.put (keyed : Keyed a) (key : κ) (value : α) : Keyed (put a key value) := by
  rw [Keyed, keys_put]
  split_ifs with known
  · exact keyed
  · exact List.nodup_append.mpr ⟨keyed, List.nodup_singleton _, fun other member last own => by
      rw [List.mem_singleton.mp own]
      rintro rfl
      exact known member⟩

theorem lookup_overwrite (key : κ) (value : α) (other : κ) :
    (a.map fun e => if e.1 = key then (key, value) else e).lookup other =
      if other = key then (a.lookup key).map fun _ => value else a.lookup other := by
  induction a with
  | nil =>
    split_ifs <;> rfl
  | cons entry rest ih =>
    obtain ⟨first, held⟩ := entry
    rw [List.map_cons, List.lookup_cons, List.lookup_cons, List.lookup_cons, ih]
    by_cases here : first = key
    · subst here
      rw [if_pos rfl, beq_self_eq_true]
      by_cases own : other = first
      · rw [if_pos own, if_pos own, own, beq_self_eq_true, Option.map_some]
      · rw [if_neg own, if_neg own, beq_false_of_ne own]
    · rw [if_neg here, beq_false_of_ne (Ne.symm here)]
      by_cases own : other = key
      · rw [if_pos own, if_pos own, own, beq_false_of_ne (Ne.symm here)]
      · rw [if_neg own, if_neg own]

theorem lookup_put (key : κ) (value : α) (other : κ) :
    (put a key value).lookup other = if other = key then some value else a.lookup other := by
  unfold put
  split_ifs with known own own
  · rw [lookup_overwrite, if_pos own]
    cases held : a.lookup key with
    | none => exact absurd known (lookup_eq_none_iff.mp held)
    | some before => rfl
  · rw [lookup_overwrite, if_neg own]
  · rw [List.lookup_append, own, lookup_eq_none_iff.mpr known, Option.none_or,
      List.lookup_cons_self]
  · rw [List.lookup_append, List.lookup_cons, beq_false_of_ne own]
    exact Option.or_none

theorem length_put_le (key : κ) (value : α) : (put a key value).length ≤ a.length + 1 := by
  unfold put
  split_ifs
  · rw [List.length_map]
    exact Nat.le_succ _
  · exact Nat.le_of_eq (List.length_append ..)

theorem Keyed.delete (keyed : Keyed a) (key : κ) : Keyed (delete a key) := keyed.filter _

theorem lookup_delete (keyed : Keyed a) (key other : κ) :
    (delete a key).lookup other = if other = key then none else a.lookup other := by
  rw [Mappings.delete, lookup_filter keyed]
  split_ifs with own
  · simp [own]
  · cases held : a.lookup other <;> simp [own]

end

end CaseSorter.Mappings
