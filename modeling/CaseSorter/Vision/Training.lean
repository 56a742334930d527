import CaseSorter.Lib.Mappings
import CaseSorter.Vision.Labels

/-! `train_candidate` with the split it is given: a fraction of every class that clears the
floor is held out, at least one example and never all of them. -/

namespace CaseSorter.Vision
open Mappings

/-- Python's `round`, which takes a half to the even neighbour. -/
def roundHalfEven (q : ℚ) : Int :=
  let below := ⌊q⌋
  if q - below < 1 / 2 then below
  else if 1 / 2 < q - below then below + 1
  else if below % 2 = 0 then below
  else below + 1

example : [1 / 2, 3 / 2, 5 / 2, 8 / 3].map roundHalfEven = [0, 2, 2, 3] := by decide +kernel

/-- `round(len(items) * holdout_fraction)`. -/
def roundedShare (fraction : ℚ) (length : Nat) : Nat := (roundHalfEven (length * fraction)).toNat

/-- What `train_candidate` raises. -/
inductive CandidateError where
  | value (message : String)
  | training (e : TrainingError)
  deriving Repr, DecidableEq

section

variable {F M : Type} (features : List UInt8 → F) (fit : List (F × Int) → M)
  (predict : M → F → Int)

def totalLearner (fraction : ℚ) : Learner F M :=
  ⟨fun png => some (features png), fit, predict, roundedShare fraction⟩

/-- `train_candidate` over a feature extraction and a classifier that always answer. A floor
below zero excludes as little as a floor of zero. -/
def trainCandidateWith (generator : Generator) (examples : List DatasetExample) (minimum : Int)
    (fraction : ℚ) : Except CandidateError (TrainedCandidate M) :=
  if ¬(0 < fraction ∧ fraction < 1) then
    .error (.value "holdout_fraction must be between 0 and 1")
  else
    (trainCandidate (totalLearner features fit predict fraction) generator examples
      minimum.toNat).mapError .training

end

def ofClass (examples : List DatasetExample) (slot : Int) : List DatasetExample :=
  examples.filter (·.slot = slot)

def Split.trainingOf (split : Split) (slot : Int) : List DatasetExample :=
  (split.training.filter (·.2 = slot)).map Prod.fst

def Split.holdoutOf (split : Split) (slot : Int) : List DatasetExample :=
  ((split.holdout.lookup slot).getD []).map Prod.fst

/-- What the split and the counts of a candidate are, for the examples and the floor. -/
structure TrainedOn {M : Type} (examples : List DatasetExample) (minimum : Int) (split : Split)
    (candidate : TrainedCandidate M) : Prop where
  included (slot : Int) : slot ∈ candidate.includedClasses ↔
    ofClass examples slot ≠ [] ∧ minimum ≤ (ofClass examples slot).length
  excluded (slot : Int) : slot ∈ candidate.excludedClasses ↔
    ofClass examples slot ≠ [] ∧ (ofClass examples slot).length < minimum
  parted (slot : Int) (member : slot ∈ candidate.includedClasses) :
    (split.trainingOf slot ++ split.holdoutOf slot).Perm (ofClass examples slot)
  several (slot : Int) (member : slot ∈ candidate.includedClasses)
    (two : 2 ≤ (ofClass examples slot).length) :
    1 ≤ (split.holdoutOf slot).length ∧
      (split.holdoutOf slot).length ≤ (ofClass examples slot).length - 1
  single (slot : Int) (member : slot ∈ candidate.includedClasses)
    (one : (ofClass examples slot).length = 1) :
    split.holdoutOf slot = [] ∧ split.trainingOf slot = ofClass examples slot
  labels (row : DatasetExample × Int) (used : row ∈ split.labels) :
    row.2 = row.1.slot ∧ row.1.slot ∈ candidate.includedClasses
  counted : candidate.trainingExampleCount = split.training.length ∧
    candidate.holdoutExampleCount = (split.holdout.map fun held => held.2.length).sum
  total : candidate.trainingExampleCount + candidate.holdoutExampleCount =
    (examples.filter (·.slot ∈ candidate.includedClasses)).length
  measured (slot : Int) : slot ∈ candidate.accuracyByClass.map Prod.fst ↔
    slot ∈ candidate.includedClasses ∧ 2 ≤ (ofClass examples slot).length
  keyed : Keyed candidate.accuracyByClass
  accuracy (entry : Int × ℚ) (member : entry ∈ candidate.accuracyByClass) :
    0 ≤ entry.2 ∧ entry.2 ≤ 1

theorem append_eq_put {groups : BySlot} (keyed : Keyed groups) (item : DatasetExample) :
    groups.append item =
      put groups item.slot ((groups.lookup item.slot).getD [] ++ [item]) := by
  have present : groups.any (·.1 == item.slot) = true ↔ item.slot ∈ groups.map Prod.fst := by
    rw [List.any_eq_true, List.mem_map]
    simp only [beq_iff_eq]
  unfold BySlot.append put
  by_cases known : item.slot ∈ groups.map Prod.fst
  · rw [if_pos (present.mpr known), if_pos known]
    refine List.map_congr_left fun group member => ?_
    by_cases own : group.1 = item.slot
    · have held : groups.lookup item.slot = some group.2 := by
        rw [lookup_iff_mem keyed, ← own]
        exact member
      rw [if_pos (beq_iff_eq.mpr own), if_pos own, held, own, Option.getD_some]
    · rw [if_neg (mt beq_iff_eq.mp own), if_neg own]
  · rw [if_neg (mt present.mp known), if_neg known, lookup_eq_none_iff.mpr known]
    rfl

theorem bySlot_append (examples : List DatasetExample) (item : DatasetExample) :
    bySlot (examples ++ [item]) = (bySlot examples).append item := by
  rw [bySlot, List.foldl_append]
  rfl

theorem bySlot_keyed (examples : List DatasetExample) : Keyed (bySlot examples) := by
  induction examples using List.reverseRecOn with
  | nil => exact List.nodup_nil
  | append_singleton examples item ih =>
    rw [bySlot_append, append_eq_put ih]
    exact ih.put _ _

theorem ofClass_append (examples : List DatasetExample) (item : DatasetExample) (slot : Int) :
    ofClass (examples ++ [item]) slot =
      if item.slot = slot then ofClass examples slot ++ [item] else ofClass examples slot := by
  rw [ofClass, List.filter_append, List.filter_cons, List.filter_nil]
  by_cases own : item.slot = slot
  · rw [if_pos (decide_eq_true own), if_pos own]
    rfl
  · rw [if_neg (mt of_decide_eq_true own), if_neg own, List.append_nil]
    rfl

theorem lookup_bySlot (examples : List DatasetExample) (slot : Int) :
    (bySlot examples).lookup slot =
      if ofClass examples slot = [] then none else some (ofClass examples slot) := by
  induction examples using List.reverseRecOn with
  | nil => rfl
  | append_singleton examples item ih =>
    rw [bySlot_append, append_eq_put (bySlot_keyed examples), lookup_put, ofClass_append]
    by_cases own : slot = item.slot
    · subst own
      rw [if_pos rfl, if_pos rfl, if_neg (List.concat_ne_nil _ _), ih]
      split_ifs with empty
      · rw [empty]
        rfl
      · rfl
    · rw [if_neg own, if_neg (Ne.symm own), ih]

theorem getD_bySlot (examples : List DatasetExample) (slot : Int) :
    ((bySlot examples).lookup slot).getD [] = ofClass examples slot := by
  rw [lookup_bySlot]
  split_ifs with empty
  · exact empty.symm
  · rfl

theorem mem_bySlot {examples : List DatasetExample} {group : Int × List DatasetExample} :
    group ∈ bySlot examples ↔
      ofClass examples group.1 ≠ [] ∧ group.2 = ofClass examples group.1 := by
  rw [← lookup_iff_mem (bySlot_keyed examples), lookup_bySlot]
  split_ifs with empty
  · exact ⟨nofun, fun own => absurd empty own.1⟩
  · rw [Option.some.injEq, eq_comm]
    exact ⟨fun same => ⟨empty, same⟩, And.right⟩

theorem mem_includedSlots {examples : List DatasetExample} {minimum : Nat} {slot : Int} :
    slot ∈ includedSlots (bySlot examples) minimum ↔
      ofClass examples slot ≠ [] ∧ minimum ≤ (ofClass examples slot).length := by
  rw [includedSlots, List.mem_insertionSort, List.mem_map]
  constructor
  · rintro ⟨group, member, rfl⟩
    rw [List.mem_filter, mem_bySlot, decide_eq_true_iff] at member
    obtain ⟨⟨some', own⟩, enough⟩ := member
    rw [own] at enough
    exact ⟨some', enough⟩
  · rintro ⟨some', enough⟩
    refine ⟨(slot, ofClass examples slot), ?_, rfl⟩
    rw [List.mem_filter, mem_bySlot, decide_eq_true_iff]
    exact ⟨⟨some', rfl⟩, enough⟩

theorem includedSlots_nodup (examples : List DatasetExample) (minimum : Nat) :
    (includedSlots (bySlot examples) minimum).Nodup := by
  rw [includedSlots, (List.perm_insertionSort _ _).nodup_iff]
  exact (List.filter_sublist.map Prod.fst).nodup (bySlot_keyed examples)

theorem mem_excludedSlots {examples : List DatasetExample} {minimum : Nat} {slot : Int} :
    slot ∈ excludedSlots (bySlot examples) minimum ↔
      ofClass examples slot ≠ [] ∧ (ofClass examples slot).length < minimum := by
  rw [excludedSlots, List.mem_insertionSort, List.mem_filter, decide_eq_true_iff,
    mem_includedSlots]
  constructor
  · rintro ⟨member, left⟩
    obtain ⟨group, among, rfl⟩ := List.mem_map.mp member
    have some' := (mem_bySlot.mp among).1
    exact ⟨some', Nat.lt_of_not_le fun enough => left ⟨some', enough⟩⟩
  · rintro ⟨some', short⟩
    refine ⟨List.mem_map.mpr ⟨(slot, ofClass examples slot),
      mem_bySlot.mpr ⟨some', rfl⟩, rfl⟩, ?_⟩
    rintro ⟨-, enough⟩
    omega

theorem sum_ofClass (examples : List DatasetExample) {slots : List Int} (distinct : slots.Nodup) :
    (slots.map fun slot => (ofClass examples slot).length).sum =
      (examples.filter (·.slot ∈ slots)).length := by
  induction slots with
  | nil =>
    rw [List.map_nil, List.sum_nil, eq_comm, List.length_eq_zero_iff, List.filter_eq_nil_iff]
    intro item _
    simp
  | cons slot slots ih =>
    obtain ⟨fresh, later⟩ := List.nodup_cons.mp distinct
    rw [List.map_cons, List.sum_cons, ih later,
      List.length_eq_length_filter_add (l := examples.filter (·.slot ∈ slot :: slots))
        (fun item => decide (item.slot = slot)), List.filter_filter, List.filter_filter]
    congr 2
    · refine List.filter_congr fun item _ => ?_
      simp only [List.mem_cons]
      grind
    · refine List.filter_congr fun item _ => ?_
      simp only [List.mem_cons]
      grind

theorem holdoutCount_le (rounded : Nat → Nat) (length : Nat) :
    holdoutCount rounded length ≤ length - 1 := min_le_right _ _

theorem one_le_holdoutCount (rounded : Nat → Nat) {length : Nat} (two : 2 ≤ length) :
    1 ≤ holdoutCount rounded length := by
  rw [holdoutCount, if_pos (by omega)]
  omega

def Split.cons (slot : Int) (train held : List DatasetExample) (rest : Split) : Split :=
  ⟨train.map (·, slot) ++ rest.training,
    if (held.map fun item => (item, slot)).isEmpty then rest.holdout
    else (slot, held.map (·, slot)) :: rest.holdout⟩

namespace Split

theorem cons_trainingOf (first slot : Int) (train held : List DatasetExample) (rest : Split) :
    (rest.cons first train held).trainingOf slot =
      (if slot = first then train else []) ++ rest.trainingOf slot := by
  rw [trainingOf, Split.cons, List.filter_append, List.map_append]
  congr 1
  split_ifs with own
  · rw [List.filter_eq_self.mpr, List.map_map]
    · exact List.map_id _
    · intro row member
      obtain ⟨item, -, rfl⟩ := List.mem_map.mp member
      exact decide_eq_true own.symm
  · rw [List.map_eq_nil_iff, List.filter_eq_nil_iff]
    intro row member
    obtain ⟨item, -, rfl⟩ := List.mem_map.mp member
    exact fun same => own (of_decide_eq_true same).symm

theorem cons_holdout (first : Int) (train held : List DatasetExample) (rest : Split) :
    (rest.cons first train held).holdout =
      if held = [] then rest.holdout else (first, held.map (·, first)) :: rest.holdout := by
  rw [Split.cons]
  cases held <;> rfl

theorem cons_holdoutOf (first slot : Int) (train held : List DatasetExample) (rest : Split) :
    (rest.cons first train held).holdoutOf slot =
      if slot = first ∧ held ≠ [] then held else rest.holdoutOf slot := by
  rw [holdoutOf, cons_holdout]
  by_cases empty : held = []
  · rw [if_pos empty, if_neg fun both => both.2 empty]
    rfl
  · rw [if_neg empty, List.lookup_cons]
    by_cases own : slot = first
    · rw [if_pos ⟨own, empty⟩, own, beq_self_eq_true, Option.getD_some, List.map_map]
      exact List.map_id _
    · rw [if_neg fun both => own both.1, beq_false_of_ne own]
      rfl

end Split

section

variable {generator : Generator} (rounded : Nat → Nat) (groups : BySlot)

theorem splitClasses_cons (state : generator.State) (slot : Int) (slots : List Int) :
    ∃ (items : List DatasetExample) (next : generator.State),
      items.Perm ((groups.lookup slot).getD []) ∧
      splitClasses generator rounded groups state (slot :: slots) =
        (splitClasses generator rounded groups next slots).cons slot
          (items.drop (holdoutCount rounded items.length))
          (items.take (holdoutCount rounded items.length)) :=
  ⟨(generator.shuffle state ((groups.lookup slot).getD [])).1,
    (generator.shuffle state ((groups.lookup slot).getD [])).2, generator.perm _ _, rfl⟩

theorem splitClasses_slots (state : generator.State) (slots : List Int) :
    ∀ row ∈ (splitClasses generator rounded groups state slots).labels, row.2 ∈ slots := by
  induction slots generalizing state with
  | nil => exact nofun
  | cons slot slots ih =>
    obtain ⟨items, next, -, parts⟩ :=
      splitClasses_cons rounded groups state slot slots
    intro row member
    rw [parts, Split.labels, List.mem_append, Split.cons_holdout, Split.cons,
      List.mem_append, List.mem_flatMap] at member
    have later (inside : row ∈ (splitClasses generator rounded groups next slots).labels) :
        row.2 ∈ slot :: slots := List.mem_cons_of_mem _ (ih next row inside)
    rw [Split.labels, List.mem_append, List.mem_flatMap] at later
    rcases member with (own | trained) | ⟨held, among, inside⟩
    · obtain ⟨item, -, rfl⟩ := List.mem_map.mp own
      exact List.mem_cons_self
    · exact later (.inl trained)
    · split_ifs at among with whole
      · exact later (.inr ⟨held, among, inside⟩)
      · rcases List.mem_cons.mp among with first | after
        · rw [first] at inside
          obtain ⟨item, -, rfl⟩ := List.mem_map.mp inside
          exact List.mem_cons_self
        · exact later (.inr ⟨held, after, inside⟩)

theorem splitClasses_holdout_keys (state : generator.State) (slots : List Int) :
    (splitClasses generator rounded groups state slots).holdout.map Prod.fst =
      slots.filter fun slot => 2 ≤ ((groups.lookup slot).getD []).length := by
  induction slots generalizing state with
  | nil => rfl
  | cons slot slots ih =>
    obtain ⟨items, next, perm, parts⟩ :=
      splitClasses_cons rounded groups state slot slots
    have length := perm.length_eq
    have most := holdoutCount_le rounded items.length
    rw [parts, Split.cons_holdout, List.filter_cons, ← length]
    by_cases two : 2 ≤ items.length
    · have least := one_le_holdoutCount rounded two
      have cut : items.take (holdoutCount rounded items.length) ≠ [] := by
        rw [ne_eq, ← List.length_eq_zero_iff, List.length_take]
        omega
      rw [if_neg cut, if_pos (decide_eq_true two), List.map_cons, ih]
    · have whole : items.take (holdoutCount rounded items.length) = [] := by
        rw [← List.length_eq_zero_iff, List.length_take]
        omega
      rw [if_pos whole, if_neg (mt of_decide_eq_true two), ih]

theorem splitClasses_parts (state : generator.State) {slots : List Int} (distinct : slots.Nodup)
    {slot : Int} (member : slot ∈ slots) :
    ∃ items : List DatasetExample, items.Perm ((groups.lookup slot).getD []) ∧
      (splitClasses generator rounded groups state slots).trainingOf slot =
        items.drop (holdoutCount rounded items.length) ∧
      (splitClasses generator rounded groups state slots).holdoutOf slot =
        items.take (holdoutCount rounded items.length) := by
  induction slots generalizing state with
  | nil => cases member
  | cons first slots ih =>
    obtain ⟨fresh, later⟩ := List.nodup_cons.mp distinct
    obtain ⟨items, next, perm, parts⟩ :=
      splitClasses_cons rounded groups state first slots
    rw [parts, Split.cons_trainingOf, Split.cons_holdoutOf]
    by_cases own : slot = first
    · subst own
      have untrained : (splitClasses generator rounded groups next slots).trainingOf slot = [] := by
        rw [Split.trainingOf, List.map_eq_nil_iff, List.filter_eq_nil_iff]
        intro row member same
        have label :=
          splitClasses_slots rounded groups next slots row (List.mem_append_left _ member)
        rw [of_decide_eq_true same] at label
        exact fresh label
      have unheld : (splitClasses generator rounded groups next slots).holdoutOf slot = [] := by
        have absent : slot ∉
            (splitClasses generator rounded groups next slots).holdout.map Prod.fst := by
          rw [splitClasses_holdout_keys]
          exact fun member => fresh (List.mem_of_mem_filter member)
        rw [Split.holdoutOf, lookup_eq_none_iff.mpr absent]
        rfl
      refine ⟨items, perm, ?_, ?_⟩
      · rw [if_pos rfl, untrained, List.append_nil]
      · rw [unheld]
        split_ifs with cut
        · rfl
        · by_contra more
          exact cut ⟨rfl, Ne.symm more⟩
    · obtain ⟨others, same, trained, kept⟩ := ih next later (List.mem_of_ne_of_mem own member)
      refine ⟨others, same, ?_, ?_⟩
      · rw [if_neg own, List.nil_append, trained]
      · rw [if_neg fun both => own both.1, kept]

theorem splitClasses_counts (state : generator.State) (slots : List Int) :
    (splitClasses generator rounded groups state slots).training.length +
        ((splitClasses generator rounded groups state slots).holdout.map
          fun held => held.2.length).sum =
      (slots.map fun slot => ((groups.lookup slot).getD []).length).sum := by
  induction slots generalizing state with
  | nil => rfl
  | cons slot slots ih =>
    obtain ⟨items, next, perm, parts⟩ :=
      splitClasses_cons rounded groups state slot slots
    have length := perm.length_eq
    have rest := ih next
    have most := holdoutCount_le rounded items.length
    rw [parts, Split.cons_holdout, Split.cons, List.length_append, List.length_map,
      List.length_drop, List.map_cons, List.sum_cons, ← rest, ← length]
    split_ifs with whole
    · rw [← List.length_eq_zero_iff, List.length_take] at whole
      omega
    · rw [List.map_cons, List.sum_cons, List.length_map, List.length_take]
      omega

end

theorem mapM_ok {α β ε : Type} (f : α → β) (rows : List α) :
    rows.mapM (fun row => (.ok (f row) : Except ε β)) = .ok (rows.map f) := by
  induction rows with
  | nil => rfl
  | cons row rows ih =>
    rw [List.mapM_cons, ih]
    rfl

theorem accuracy_bounds {F M : Type} (learner : Learner F M) (model : M) (rows : List (F × Int)) :
    0 ≤ learner.accuracy model rows ∧ learner.accuracy model rows ≤ 1 := by
  rw [Learner.accuracy]
  refine ⟨by positivity, div_le_one_of_le₀ ?_ (by positivity)⟩
  exact_mod_cast List.length_filter_le _ _

section

variable {F M : Type} (features : List UInt8 → F) (fit : List (F × Int) → M)
  (predict : M → F → Int)

/-- The rows of a part of the split, as the classifier reads them. -/
def featureRows (rows : List (DatasetExample × Int)) : List (F × Int) :=
  rows.map fun row => (features row.1.framePng, row.2)

theorem trainCandidateWith_eq (generator : Generator) (examples : List DatasetExample)
    (minimum : Int) {fraction : ℚ} (proper : 0 < fraction ∧ fraction < 1) :
    trainCandidateWith features fit predict generator examples minimum fraction =
      match trainingSplit generator (roundedShare fraction) examples minimum.toNat with
      | .error e => .error (.training e)
      | .ok split =>
        let model := fit (featureRows features split.training)
        .ok {
          model := model
          includedClasses := includedSlots (bySlot examples) minimum.toNat
          excludedClasses := excludedSlots (bySlot examples) minimum.toNat
          accuracyByClass := split.holdout.map fun held => (held.1,
            (totalLearner features fit predict fraction).accuracy model
              (featureRows features held.2))
          minimumExamplesPerClass := minimum.toNat
          trainingExampleCount := split.training.length
          holdoutExampleCount := (split.holdout.map fun held => held.2.length).sum } := by
  have read (rows : List (DatasetExample × Int)) :
      (totalLearner features fit predict fraction).features rows =
        .ok (featureRows features rows) := mapM_ok _ rows
  rw [trainCandidateWith, if_neg (not_not_intro proper), trainCandidate]
  cases cut : trainingSplit generator (roundedShare fraction) examples minimum.toNat with
  | error e =>
    rw [show (totalLearner features fit predict fraction).rounded = roundedShare fraction from rfl,
      cut]
    rfl
  | ok split =>
    have held : split.holdout.mapM (fun held => (pure (held.1, featureRows features held.2) :
        Except TrainingError _)) = .ok (split.holdout.map fun held =>
          (held.1, featureRows features held.2)) := mapM_ok _ _
    rw [show (totalLearner features fit predict fraction).rounded = roundedShare fraction from rfl,
      cut]
    simp only [bind, Except.bind, read]
    rw [held]
    simp only [featureRows, List.length_map, List.map_map, Function.comp_def]
    rfl

/-- Whatever the examples and the floor are, a candidate is trained when two classes clear the
floor, on a split that leaves every class of them something to learn from. -/
theorem candidate_trainedOn (generator : Generator) (examples : List DatasetExample)
    (minimum : Int) {fraction : ℚ} (proper : 0 < fraction ∧ fraction < 1) :
    let included := includedSlots (bySlot examples) minimum.toNat
    let trained := trainCandidateWith features fit predict generator examples minimum fraction
    (included.length < 2 → trained = .error (.training (.tooFewClasses included.length))) ∧
      (2 ≤ included.length → ∃ candidate split, trained = .ok candidate ∧
        trainingSplit generator (roundedShare fraction) examples minimum.toNat = .ok split ∧
        candidate.model = fit (featureRows features split.training) ∧
        TrainedOn examples minimum split candidate) := by
  intro included trained
  have shape : trained = _ :=
    trainCandidateWith_eq features fit predict generator examples minimum proper
  have cut : trainingSplit generator (roundedShare fraction) examples minimum.toNat =
      if included.length < 2 then .error (.tooFewClasses included.length)
      else .ok (splitClasses generator (roundedShare fraction) (bySlot examples) generator.seeded
        included) := rfl
  have distinct : included.Nodup := includedSlots_nodup examples minimum.toNat
  rw [shape, cut]
  refine ⟨fun few => by rw [if_pos few], fun two => ?_⟩
  rw [if_neg (Nat.not_lt.mpr two)]
  refine ⟨_, _, rfl, rfl, rfl, ?_⟩
  have part (slot : Int) (member : slot ∈ included) := splitClasses_parts
    (roundedShare fraction) (bySlot examples) generator.seeded distinct member
  have keys := splitClasses_holdout_keys (roundedShare fraction) (bySlot examples)
    generator.seeded included
  have counts := splitClasses_counts (roundedShare fraction) (bySlot examples) generator.seeded
    included
  have slots := splitClasses_slots (roundedShare fraction) (bySlot examples) generator.seeded
    included
  have own := splitClasses_labels generator (roundedShare fraction) (grouped_bySlot examples)
    generator.seeded included
  generalize splitClasses generator (roundedShare fraction) (bySlot examples) generator.seeded
    included = split at part keys counts slots own ⊢
  simp only [getD_bySlot] at part keys counts
  have clears (slot : Int) : slot ∈ included ↔
      ofClass examples slot ≠ [] ∧ minimum ≤ (ofClass examples slot).length := by
    rw [mem_includedSlots, Int.toNat_le]
  have measured : (split.holdout.map fun held => (held.1,
      (totalLearner features fit predict fraction).accuracy
        (fit (featureRows features split.training)) (featureRows features held.2))).map Prod.fst =
      included.filter fun slot => 2 ≤ (ofClass examples slot).length := by
    rw [List.map_map, ← keys]
    rfl
  refine ⟨clears, fun slot => ?_, fun slot member => ?_, fun slot member several => ?_,
    fun slot member one => ?_, fun row used => ⟨own row used, ?_⟩, ⟨rfl, rfl⟩, ?_,
    fun slot => ?_, ?_, ?_⟩
  · rw [mem_excludedSlots]
    exact and_congr_right fun _ => Int.lt_toNat
  · obtain ⟨items, perm, trained, held⟩ := part slot member
    rw [trained, held]
    exact (List.perm_append_comm.trans (List.take_append_drop _ _ ▸ .refl _)).trans perm
  · obtain ⟨items, perm, -, held⟩ := part slot member
    rw [← perm.length_eq] at several ⊢
    have least := one_le_holdoutCount (roundedShare fraction) several
    have most := holdoutCount_le (roundedShare fraction) items.length
    rw [held, List.length_take]
    omega
  · obtain ⟨items, perm, trained, held⟩ := part slot member
    rw [← perm.length_eq] at one
    have none' : holdoutCount (roundedShare fraction) items.length = 0 := by
      have most := holdoutCount_le (roundedShare fraction) items.length
      omega
    rw [none'] at trained held
    refine ⟨held, ?_⟩
    obtain ⟨item, single⟩ := List.length_eq_one_iff.mp one
    rw [trained, List.drop_zero, single]
    rw [single] at perm
    exact (List.perm_singleton.mp perm.symm).symm
  · rw [← own row used]
    exact slots row used
  · exact counts.trans (sum_ofClass examples distinct)
  · rw [measured, List.mem_filter, decide_eq_true_iff]
  · rw [Keyed, measured]
    exact distinct.filter _
  · intro entry member
    obtain ⟨held, -, rfl⟩ := List.mem_map.mp member
    exact accuracy_bounds _ _ _

end

/-- Two examples of class 1 and one of class 2, with a floor of one and half of a class held
out. -/
theorem candidate_trainedOn_three :
    let examples : List DatasetExample := [⟨1, [5]⟩, ⟨1, [6]⟩, ⟨2, [7]⟩]
    let trained := trainCandidateWith id id (fun _ _ => 1) unshuffled examples 1 (1 / 2)
    2 ≤ (includedSlots (bySlot examples) 1).length ∧
      ∃ candidate split, trained = .ok candidate ∧
      trainingSplit unshuffled (roundedShare (1 / 2)) examples 1 = .ok split ∧
      candidate.model = featureRows id split.training ∧ TrainedOn examples 1 split candidate := by
  have two :
      2 ≤ (includedSlots (bySlot [⟨1, [5]⟩, ⟨1, [6]⟩, ⟨2, [7]⟩]) 1).length := by
    decide +kernel
  have proper : (0 : ℚ) < 1 / 2 ∧ (1 / 2 : ℚ) < 1 := by norm_num
  exact ⟨two, (candidate_trainedOn id id (fun _ _ => 1) unshuffled
    [⟨1, [5]⟩, ⟨1, [6]⟩, ⟨2, [7]⟩] 1 proper).2 two⟩

end CaseSorter.Vision
