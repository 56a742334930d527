import CaseSorter.Vision.FrameSorts

/-! The labels a model is trained on. A prediction is routed to a chute and stored as a
suggestion; the sort of that chute comes back from the daemon as a success, the correlator
files the chute with a frame as an example, and the training takes it for the class. -/

namespace CaseSorter.Vision

structure Frame where
  png : List UInt8
  capturedAt : Nat
  deriving Repr, DecidableEq

/-- A succeeded sort of the daemon; an unparseable `created_at` is `none`. -/
structure SortSuccess where
  operationId : String
  slot : Int
  createdAt : Option Nat
  deriving Repr, DecidableEq

structure ExampleRow where
  operationId : String
  slot : Int
  frame : Frame
  operationCreatedAt : Nat
  deriving Repr, DecidableEq

/-- A row of `suggestion_outcomes`. -/
structure SuggestionOutcome where
  suggestionId : Nat
  operationId : String
  actualSlot : Int
  correct : Bool
  deriving Repr, DecidableEq

structure DatasetExample where
  slot : Int
  framePng : List UInt8
  deriving Repr, DecidableEq

def ExampleRow.datasetExample (row : ExampleRow) : DatasetExample := ⟨row.slot, row.frame.png⟩

/-- The newest of the frames captured at or before `moment`. -/
def closestAtOrBefore (frames : List Frame) (moment : Nat) : Option Frame :=
  let closer (candidate : Option Frame) (frame : Frame) : Option Frame :=
    if frame.capturedAt ≤ moment ∧ candidate.all
      (·.capturedAt < frame.capturedAt) then some frame
    else candidate
  frames.foldl closer none

/-- What the suggestion loop and the correlator share. `captured` has every frame by the
number of its capture, and `suggestedAt` the instant of each stored suggestion. -/
structure Feedback (C : Type) where
  service : Service C
  buffer : FrameBuffer
  captured : List Frame
  suggestedAt : List (Nat × Nat)
  examples : List ExampleRow
  outcomes : List SuggestionOutcome

/-- One step of the camera, of the operator's routing or of a loop; a poll carries the page
of the daemon, or none when it cannot be reached. -/
inductive FeedbackEvent (C : Type) where
  | startRouting (profile : RoutingProfile)
  | stopRouting
  | capture (frame : Frame)
  | suggest (classified : Option (Suggestion C)) (now : Nat)
  | poll (successes : Option (List SortSuccess))

namespace Feedback

variable {C : Type}

def new (capacity : Nat) (positive : 0 < capacity) : Feedback C :=
  ⟨Service.new, .new capacity positive, [], [], [], []⟩

def frames (feedback : Feedback C) : List Frame :=
  feedback.buffer.frames.filterMap fun number => feedback.captured[number]?

def hasExample (feedback : Feedback C) (operationId : String) : Bool :=
  feedback.examples.any (·.operationId == operationId)

/-- The newest suggestion at or before `moment` that has no outcome yet. -/
def unmatchedSuggestion (feedback : Feedback C) (moment : Nat) : Option (SuggestionRecord C) :=
  let open' := feedback.suggestedAt.filter fun row =>
    row.2 ≤ moment && !feedback.outcomes.any (·.suggestionId == row.1)
  (open'.argmax Prod.snd).bind fun row =>
    feedback.service.suggestions.find? (·.suggestionId == row.1)

def matchSuggestion (feedback : Feedback C) (operationId : String) (actualSlot : Int)
    (createdAt : Nat) : Feedback C :=
  match feedback.unmatchedSuggestion createdAt with
  | none => feedback
  | some record =>
    { feedback with outcomes := feedback.outcomes ++
        [⟨record.suggestionId, operationId, actualSlot, record.suggestedSlot == actualSlot⟩] }

def recordExample (feedback : Feedback C) (row : ExampleRow) : Feedback C :=
  { feedback with examples := feedback.examples ++ [row] }

/-- One turn of the loop of `poll_once`. -/
def recordSuccess (feedback : Feedback C) (success : SortSuccess) : Feedback C :=
  if feedback.hasExample success.operationId then feedback
  else
    match success.createdAt with
    | none => feedback
    | some createdAt =>
      match closestAtOrBefore feedback.frames createdAt with
      | none => feedback
      | some frame =>
        (feedback.recordExample ⟨success.operationId, success.slot, frame,
          createdAt⟩).matchSuggestion
          success.operationId success.slot createdAt

def pollOnce (feedback : Feedback C) (successes : Option (List SortSuccess)) : Feedback C :=
  (successes.getD []).foldl recordSuccess feedback

def suggestOnce (feedback : Feedback C) (classified : Option (Suggestion C)) (now : Nat) :
    Feedback C :=
  match feedback.buffer.latest with
  | none => feedback
  | some _ =>
    let service := feedback.service.suggestOnce classified
    { feedback with
      service := service
      suggestedAt :=
        if service.suggestions.length = feedback.service.suggestions.length then
          feedback.suggestedAt
        else feedback.suggestedAt ++ [(feedback.service.nextSuggestionId, now)] }

def step (feedback : Feedback C) : FeedbackEvent C → Feedback C
  | .startRouting profile =>
    { feedback with service.routing := (feedback.service.routing.start profile).2 }
  | .stopRouting => { feedback with service.routing := feedback.service.routing.stop }
  | .capture frame => { feedback with
      buffer := feedback.buffer.add feedback.captured.length
      captured := feedback.captured ++ [frame] }
  | .suggest classified now => feedback.suggestOnce classified now
  | .poll successes => feedback.pollOnce successes

def run (feedback : Feedback C) (events : List (FeedbackEvent C)) : Feedback C :=
  events.foldl step feedback

/-- What training reads, in the order of the recording. -/
def datasetExamples (feedback : Feedback C) : List DatasetExample :=
  feedback.examples.map ExampleRow.datasetExample

end Feedback

inductive TrainingError where
  | tooFewClasses (included : Nat)
  | feature
  deriving Repr, DecidableEq

/-- A seeded generator of the standard library: its state, and a shuffle that only permutes. -/
structure Generator where
  State : Type
  seeded : State
  shuffle : State → List DatasetExample → List DatasetExample × State
  perm : ∀ state items, (shuffle state items).1.Perm items

/-- Feature extraction, the classifier, and what `round(len * holdout_fraction)` comes to. -/
structure Learner (F M : Type) where
  extractFeatures : List UInt8 → Option F
  fit : List (F × Int) → M
  predict : M → F → Int
  rounded : Nat → Nat

abbrev BySlot := List (Int × List DatasetExample)

/-- `by_slot.setdefault(example.slot, []).append(example)` -/
def BySlot.append (groups : BySlot) (item : DatasetExample) : BySlot :=
  if groups.any (·.1 == item.slot) then
    groups.map fun group => if group.1 == item.slot then (group.1, group.2 ++ [item]) else group
  else groups ++ [(item.slot, [item])]

def bySlot (examples : List DatasetExample) : BySlot := examples.foldl BySlot.append []

/-- The examples of the training set and of the held-out sets, each with its label. -/
structure Split where
  training : List (DatasetExample × Int)
  holdout : List (Int × List (DatasetExample × Int))
  deriving Repr

def Split.labels (split : Split) : List (DatasetExample × Int) :=
  split.training ++ split.holdout.flatMap Prod.snd

def holdoutCount (rounded : Nat → Nat) (length : Nat) : Nat :=
  min (if 1 < length then max 1 (rounded length) else 0) (length - 1)

def splitClasses (generator : Generator) (rounded : Nat → Nat) (groups : BySlot) :
    generator.State → List Int → Split
  | _, [] => ⟨[], []⟩
  | state, slot :: slots =>
    let (items, next) := generator.shuffle state ((groups.lookup slot).getD [])
    let count := holdoutCount rounded items.length
    let held := (items.take count).map (·, slot)
    let rest := splitClasses generator rounded groups next slots
    ⟨(items.drop count).map (·, slot) ++ rest.training,
      if held.isEmpty then rest.holdout else (slot, held) :: rest.holdout⟩

def includedSlots (groups : BySlot) (minimum : Nat) : List Int :=
  ((groups.filter (minimum ≤ ·.2.length)).map Prod.fst).insertionSort (· ≤ ·)

def excludedSlots (groups : BySlot) (minimum : Nat) : List Int :=
  ((groups.map Prod.fst).filter (· ∉ includedSlots groups minimum)).insertionSort (· ≤ ·)

def trainingSplit (generator : Generator) (rounded : Nat → Nat) (examples : List DatasetExample)
    (minimum : Nat) : Except TrainingError Split :=
  let groups := bySlot examples
  let included := includedSlots groups minimum
  if included.length < 2 then .error (.tooFewClasses included.length)
  else .ok (splitClasses generator rounded groups generator.seeded included)

structure TrainedCandidate (M : Type) where
  model : M
  includedClasses : List Int
  excludedClasses : List Int
  accuracyByClass : List (Int × ℚ)
  minimumExamplesPerClass : Nat
  trainingExampleCount : Nat
  holdoutExampleCount : Nat

section

variable {F M : Type}

def Learner.features (learner : Learner F M) (rows : List (DatasetExample × Int)) :
    Except TrainingError (List (F × Int)) :=
  rows.mapM fun row =>
    match learner.extractFeatures row.1.framePng with
    | none => .error .feature
    | some features => .ok (features, row.2)

def Learner.accuracy (learner : Learner F M) (model : M) (rows : List (F × Int)) : ℚ :=
  (rows.filter fun row => learner.predict model row.1 == row.2).length / rows.length

def trainCandidate (learner : Learner F M) (generator : Generator)
    (examples : List DatasetExample) (minimum : Nat) :
    Except TrainingError (TrainedCandidate M) := do
  let split ← trainingSplit generator learner.rounded examples minimum
  let training ← learner.features split.training
  let holdout ← split.holdout.mapM fun held => do return (held.1, ← learner.features held.2)
  let model := learner.fit training
  let groups := bySlot examples
  return {
    model := model
    includedClasses := includedSlots groups minimum
    excludedClasses := excludedSlots groups minimum
    accuracyByClass := holdout.map fun held => (held.1, learner.accuracy model held.2)
    minimumExamplesPerClass := minimum
    trainingExampleCount := training.length
    holdoutExampleCount := (holdout.map (·.2.length)).sum }

end

namespace Feedback

variable {C : Type}

def Filed (feedback : Feedback C) : Prop :=
  (feedback.examples.map ExampleRow.operationId).Nodup

/-- Examples are only ever added, each for an operation of its own. -/
structure Extends (before after : Feedback C) : Prop where
  kept : before.examples <+: after.examples
  filed : Filed before → Filed after

theorem Extends.refl (feedback : Feedback C) : Extends feedback feedback :=
  ⟨List.prefix_refl _, id⟩

theorem Extends.trans {f g h : Feedback C} (first : Extends f g) (second : Extends g h) :
    Extends f h :=
  ⟨first.kept.trans second.kept, second.filed ∘ first.filed⟩

theorem Extends.of_examples {f g : Feedback C} (same : g.examples = f.examples) : Extends f g := by
  refine ⟨same ▸ List.prefix_refl _, fun filed => ?_⟩
  rw [Filed, same]
  exact filed

theorem matchSuggestion_examples (feedback : Feedback C) (operationId : String) (slot : Int)
    (createdAt : Nat) :
    (feedback.matchSuggestion operationId slot createdAt).examples = feedback.examples := by
  unfold matchSuggestion
  split <;> rfl

theorem recordSuccess_examples (feedback : Feedback C) (success : SortSuccess) :
    (feedback.recordSuccess success).examples = feedback.examples ∨
      feedback.hasExample success.operationId = false ∧ ∃ frame createdAt,
        (feedback.recordSuccess success).examples = feedback.examples ++
          [⟨success.operationId, success.slot, frame, createdAt⟩] := by
  unfold recordSuccess
  split_ifs with known
  · exact .inl rfl
  · split
    · exact .inl rfl
    · split
      · exact .inl rfl
      · rename_i createdAt _ _ frame _
        refine .inr ⟨by simpa using known, frame, createdAt, ?_⟩
        rw [matchSuggestion_examples]
        rfl

theorem recordSuccess_extends (feedback : Feedback C) (success : SortSuccess) :
    Extends feedback (feedback.recordSuccess success) := by
  rcases recordSuccess_examples feedback success with same | ⟨unknown, frame, createdAt, more⟩
  · exact .of_examples same
  · refine ⟨more ▸ List.prefix_append _ _, fun filed => ?_⟩
    rw [Filed, more, List.map_append, List.map_singleton, List.nodup_append]
    refine ⟨filed, List.nodup_singleton _, fun id old other new => ?_⟩
    rw [List.mem_singleton] at new
    rintro rfl
    obtain ⟨row, member, rfl⟩ := List.mem_map.mp old
    rw [hasExample, List.any_eq_false] at unknown
    exact unknown row member (by simpa using new)

theorem foldl_recordSuccess_extends (feedback : Feedback C) (successes : List SortSuccess) :
    Extends feedback (successes.foldl recordSuccess feedback) := by
  induction successes generalizing feedback with
  | nil => exact .refl feedback
  | cons success successes ih => exact (recordSuccess_extends feedback success).trans (ih _)

theorem step_extends (feedback : Feedback C) (event : FeedbackEvent C) :
    Extends feedback (feedback.step event) := by
  cases event with
  | startRouting profile => exact .of_examples rfl
  | stopRouting => exact .of_examples rfl
  | capture frame => exact .of_examples rfl
  | suggest classified now =>
    refine .of_examples ?_
    rw [step, suggestOnce]
    split <;> rfl
  | poll successes => exact foldl_recordSuccess_extends feedback _

theorem run_extends (feedback : Feedback C) (events : List (FeedbackEvent C)) :
    Extends feedback (feedback.run events) := by
  induction events generalizing feedback with
  | nil => exact .refl feedback
  | cons event events ih => exact (step_extends feedback event).trans (ih _)

theorem suggestOnce_stored {feedback : Feedback C} {suggestion : Suggestion C} {now : Nat}
    {record : SuggestionRecord C}
    (stored : (feedback.suggestOnce (some suggestion) now).service.suggestions =
      feedback.service.suggestions ++ [record]) :
    (feedback.service.routing.route suggestion.slot).1 = .ok record.suggestedSlot := by
  unfold suggestOnce at stored
  split at stored
  · simp at stored
  · unfold Service.suggestOnce at stored
    dsimp only at stored
    generalize feedback.service.routing.route suggestion.slot = routed at stored ⊢
    obtain ⟨answer, routing⟩ := routed
    cases answer with
    | error error => simp at stored
    | ok slot =>
      have last := List.append_cancel_left stored
      cases last
      rfl

end Feedback

def Grouped (groups : BySlot) : Prop :=
  ∀ group ∈ groups, ∀ item ∈ group.2, item.slot = group.1

theorem Grouped.append {groups : BySlot} (h : Grouped groups) (item : DatasetExample) :
    Grouped (groups.append item) := by
  unfold BySlot.append
  split_ifs with present
  · intro group member other inside
    obtain ⟨old, among, rfl⟩ := List.mem_map.mp member
    split_ifs at inside ⊢ with own
    · rcases List.mem_append.mp inside with before | new
      · exact h old among other before
      · rw [List.mem_singleton.mp new]
        exact (beq_iff_eq.mp own).symm
    · exact h old among other inside
  · intro group member other inside
    rcases List.mem_append.mp member with old | new
    · exact h group old other inside
    · cases List.mem_singleton.mp new
      rw [List.mem_singleton.mp inside]

theorem grouped_bySlot (examples : List DatasetExample) : Grouped (bySlot examples) := by
  have folded (groups : BySlot) (h : Grouped groups) :
      Grouped (examples.foldl BySlot.append groups) := by
    induction examples generalizing groups with
    | nil => exact h
    | cons item examples ih => exact ih _ (h.append item)
  exact folded [] nofun

theorem splitClasses_labels (generator : Generator) (rounded : Nat → Nat) {groups : BySlot}
    (grouped : Grouped groups) (state : generator.State) (slots : List Int) :
    ∀ row ∈ (splitClasses generator rounded groups state slots).labels, row.2 = row.1.slot := by
  induction slots generalizing state with
  | nil => exact nofun
  | cons slot slots ih =>
    have own (item : DatasetExample)
        (member : item ∈ (generator.shuffle state ((groups.lookup slot).getD [])).1) :
        slot = item.slot := by
      rw [(generator.perm state _).mem_iff] at member
      cases found : groups.lookup slot with
      | none => simp [found] at member
      | some items =>
        obtain ⟨before, after, split, -⟩ := List.lookup_eq_some_iff.mp found
        rw [found] at member
        exact (grouped (slot, items) (by simp [split]) item member).symm
    have rest := ih (generator.shuffle state ((groups.lookup slot).getD [])).2
    intro row member
    simp only [Split.labels, splitClasses, List.mem_append, List.mem_flatMap] at member rest
    rcases member with (trained | later) | ⟨held, among, inside⟩
    · obtain ⟨item, part, rfl⟩ := List.mem_map.mp trained
      exact own item (List.mem_of_mem_drop part)
    · exact rest row (.inl later)
    · split_ifs at among with empty
      · exact rest row (.inr ⟨held, among, inside⟩)
      · rcases List.mem_cons.mp among with first | after
        · rw [first] at inside
          obtain ⟨item, part, rfl⟩ := List.mem_map.mp inside
          exact own item (List.mem_of_mem_take part)
        · exact rest row (.inr ⟨held, after, inside⟩)

theorem trainingSplit_labels {generator : Generator} {rounded : Nat → Nat}
    {examples : List DatasetExample} {minimum : Nat} {split : Split}
    (trained : trainingSplit generator rounded examples minimum = .ok split) :
    ∀ row ∈ split.labels, row.2 = row.1.slot := by
  unfold trainingSplit at trained
  dsimp only at trained
  split_ifs at trained
  cases trained
  exact splitClasses_labels generator rounded (grouped_bySlot examples) _ _

/-- Whether the example of a confirmed sort is trained with the class that was predicted for
its frame: exactly when the routing in force sent that class to the chute of its own number. -/
theorem trainingLabel_iff {C : Type} (capacity : Nat) (positive : 0 < capacity)
    (before middle later : List (FeedbackEvent C)) (suggestion : Suggestion C) (now : Nat)
    (record : SuggestionRecord C) (earlier rest : List SortSuccess) (success : SortSuccess)
    (generator : Generator) (rounded : Nat → Nat) (minimum : Nat) (split : Split) :
    let predicted := (Feedback.new capacity positive).run before
    let suggested := predicted.suggestOnce (some suggestion) now
    let polled := fun turns => (suggested.run middle).pollOnce (some turns)
    let trainedOn := (polled (earlier ++ success :: rest)).run later
    suggested.service.suggestions = predicted.service.suggestions ++ [record] →
    success.slot = record.suggestedSlot →
    (polled earlier).hasExample success.operationId = false →
    (polled (earlier ++ [success])).hasExample success.operationId →
    trainingSplit generator rounded trainedOn.datasetExamples minimum = .ok split →
    ∀ row ∈ trainedOn.examples, row.operationId = success.operationId →
      ∀ label, (row.datasetExample, label) ∈ split.labels →
        (label = suggestion.slot ↔
          (predicted.service.routing.route suggestion.slot).1 = .ok suggestion.slot) := by
  intro predicted suggested polled trainedOn stored sorted unrecorded recorded trained row member
    own label labelled
  have routed := Feedback.suggestOnce_stored stored
  have turn : polled (earlier ++ [success]) = (polled earlier).recordSuccess success := by
    simp only [polled, Feedback.pollOnce, Option.getD_some, List.foldl_append, List.foldl_cons,
      List.foldl_nil]
  have ends : Feedback.Extends (polled (earlier ++ [success])) trainedOn := by
    have turns : polled (earlier ++ success :: rest) =
        rest.foldl Feedback.recordSuccess (polled (earlier ++ [success])) := by
      simp only [polled, Feedback.pollOnce, Option.getD_some, List.foldl_append, List.foldl_cons,
        List.foldl_nil]
    have folded := Feedback.foldl_recordSuccess_extends (polled (earlier ++ [success])) rest
    rw [← turns] at folded
    exact folded.trans (Feedback.run_extends _ later)
  -- the row of the operation is the one that its success has filed
  obtain ⟨frame, createdAt, filed⟩ :
    ∃ frame createdAt, (polled (earlier ++ [success])).examples =
      (polled earlier).examples ++ [⟨success.operationId, success.slot, frame, createdAt⟩] := by
    rcases Feedback.recordSuccess_examples (polled earlier) success with same | ⟨-, filed⟩
    · have still : (polled (earlier ++ [success])).hasExample success.operationId =
          (polled earlier).hasExample success.operationId := by
        rw [Feedback.hasExample, turn, same, ← Feedback.hasExample]
      rw [still, unrecorded] at recorded
      cases recorded
    · rw [turn]
      exact filed
  have nodup : trainedOn.Filed := by
    have start : Feedback.Filed (Feedback.new (C := C) capacity positive) := List.nodup_nil
    have first := (Feedback.run_extends _ before).filed start
    have second : suggested.Filed :=
      (Feedback.step_extends predicted (.suggest (some suggestion) now)).filed first
    have third := (Feedback.run_extends suggested middle).filed second
    exact ends.filed ((Feedback.foldl_recordSuccess_extends _ (earlier ++ [success])).filed third)
  have same : row = ⟨success.operationId, success.slot, frame, createdAt⟩ := by
    refine List.inj_on_of_nodup_map nodup member (ends.kept.subset ?_) own
    rw [filed]
    exact List.mem_append_right _ (List.mem_singleton_self _)
  have filedAs : label = record.suggestedSlot := by
    have slot : label = row.datasetExample.slot := trainingSplit_labels trained _ labelled
    rw [slot, same]
    exact sorted
  rw [filedAs, routed, Except.ok.injEq]

def unshuffled : Generator := ⟨Unit, (), fun state items => (items, state), fun _ _ => .refl _⟩

def twoFrames : List (FeedbackEvent ℚ) := [.capture ⟨[5], 10⟩, .capture ⟨[7], 20⟩]

def twoSorts : List SortSuccess := [⟨"first", 1, some 15⟩, ⟨"second", 2, some 25⟩]

def twoSplit : Split :=
  splitClasses unshuffled id (bySlot [⟨1, [5]⟩, ⟨2, [7]⟩]) unshuffled.seeded [1, 2]

/-- With no routing, the chute that is predicted is the one that is suggested. -/
theorem trainingLabel_iff_unrouted :
    (⟨1, [5]⟩, 1) ∈ twoSplit.labels ∧
      ((1 : Int) = 1 ↔ (((Feedback.new (C := ℚ) 4 (by decide)).run
        [.capture ⟨[5], 10⟩]).service.routing.route 1).1 = .ok 1) := by
  have labelled : (⟨1, [5]⟩, 1) ∈ twoSplit.labels := by decide +kernel
  have included : includedSlots (bySlot [⟨1, [5]⟩, ⟨2, [7]⟩]) 1 = [1, 2] :=
    by decide +kernel
  have trained : trainingSplit unshuffled id [⟨1, [5]⟩, ⟨2, [7]⟩] 1 = .ok twoSplit := by
    simp only [trainingSplit, included]
    rfl
  have filed : Feedback.datasetExamples
      ((((((Feedback.new (C := ℚ) 4 (by decide)).run [.capture ⟨[5], 10⟩]).suggestOnce
        (some ⟨1, 3/4, none⟩) 12).run [.capture ⟨[7], 20⟩]).pollOnce
        (some ([] ++ ⟨"first", 1, some 15⟩ :: [⟨"second", 2, some 25⟩]))).run []) =
      [⟨1, [5]⟩, ⟨2, [7]⟩] := by
    decide +kernel
  refine ⟨labelled, ?_⟩
  exact trainingLabel_iff (C := ℚ) 4 (by decide) [.capture ⟨[5], 10⟩]
    [.capture ⟨[7], 20⟩] []
    ⟨1, 3/4, none⟩ 12 ⟨1, 1, 3/4, none⟩ [] [⟨"second", 2, some 25⟩]
      ⟨"first", 1, some 15⟩
    unshuffled id 1 twoSplit (by decide +kernel) rfl (by decide +kernel) (by decide +kernel)
    (by rw [filed]; exact trained) ⟨"first", 1, ⟨[5], 10⟩, 15⟩ (by decide +kernel) rfl 1
    labelled

/-- With the fixed map 5 ↦ 1, a frame predicted as class 5 is trained as class 1. -/
theorem trainingLabel_drifts :
    let predicted := (Feedback.new 4 (by decide)).run (.startRouting fifthToFirst :: twoFrames)
    let suggested := predicted.suggestOnce (some ⟨5, 3/4, none⟩) 12
    let trainedOn := suggested.pollOnce (some twoSorts)
    (predicted.service.routing.route 5).1 = .ok 1 ∧
      suggested.service.suggestions = [⟨1, 1, 3/4, none⟩] ∧
      trainedOn.examples.map (fun row => (row.operationId, row.slot, row.frame.png)) =
        [("first", 1, [5]), ("second", 2, [7])] ∧
      (trainingSplit unshuffled id trainedOn.datasetExamples 1).toOption.map Split.labels =
        some [(⟨1, [5]⟩, 1), (⟨2, [7]⟩, 2)] := by
  decide +kernel

end CaseSorter.Vision
