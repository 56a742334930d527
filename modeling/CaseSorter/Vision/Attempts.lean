import CaseSorter.Vision.FrameSorts

/-! The attempts of the autonomist, in its own steps. A tick reads the newest suggestion, asks
the daemon for its generation, submits the sort and records the attempt; the daemon admits in
between, a reply or the row may be lost, and the service may be restarted with another table
of thresholds. A submission that is still on its way may be admitted after its caller has
given it up. -/

namespace CaseSorter.Vision

open CaseSorter.Runs

/-- Where the thread of the autonomist stands in `attempt_once`: it has chosen a suggestion to
sort, waits for the answer to a submission, or has got the operation to record. -/
inductive Autonomist (C : Type) where
  | idle
  | chosen (record : SuggestionRecord C)
  | waiting (number : Nat) (record : SuggestionRecord C)
  | answered (record : SuggestionRecord C) (operationId : Nat)

/-- A `submit_sort` call, with the suggestion and the thresholds it was made for. -/
structure Submission (C : Type) where
  call : SortCall
  record : SuggestionRecord C
  thresholds : Thresholds C

/-- The service and the daemon. A submission is known by its place in `submissions`; `onWay`
has those the daemon has not seen, `answers` what it made of the others. -/
structure Attempts (C : Type) where
  service : Service C
  thresholds : Thresholds C
  autonomist : Autonomist C
  submissions : List (Submission C)
  onWay : List Nat
  answers : List (Nat × Option Nat)
  ledger : Ledger

inductive AttemptEvent (C : Type) where
  | store (slot : Int) (suggestion : Suggestion C)
  | tick
  | generation (answer : Option Int)
  | enter (number : Nat) (now : Nat) (verdict : Verdict)
  | lose (number : Nat)
  | receive
  | giveUp
  | record (stored : Bool)
  | restart (thresholds : Thresholds C)

/-- The operation carries the key and the slot of a suggestion. -/
def SortOperation.Carries (operation : SortOperation) (suggestionId : Nat) (slot : Int) : Prop :=
  operation.call.idempotencyKey = idempotencyKey suggestionId ∧ operation.call.slot = slot

/-- The gate lets the suggestion through under this table. -/
def Cleared {C : Type} [LinearOrder C] (thresholds : Thresholds C) (record : SuggestionRecord C) :
    Prop :=
  record.primerPresent = some false ∧
    ClassMaySort thresholds record.suggestedSlot record.confidence

theorem cleared_of_may {C : Type} [LinearOrder C] {thresholds : Thresholds C}
    {record : SuggestionRecord C}
    (may : mayAutonomouslySort ⟨record.suggestedSlot, record.confidence, record.primerPresent⟩
      thresholds = true) : Cleared thresholds record := by
  have clear : record.primerPresent = some false := by
    by_contra unclear
    simp [mayAutonomouslySort, requiresOperatorConfirmation, unclear] at may
  rw [clear] at may
  exact ⟨clear, mayAutonomouslySort_clear.mp may⟩

namespace Attempts

variable {C : Type} [LinearOrder C]

omit [LinearOrder C] in
def new (thresholds : Thresholds C) (timeToLive : Nat) : Attempts C :=
  ⟨Service.new, thresholds, .idle, [], [], [], ⟨timeToLive, []⟩⟩

def chooses (attempts : Attempts C) : Option (SuggestionRecord C) :=
  attempts.service.latestSuggestion.filter fun record =>
    !attempts.service.autonomousAttemptExists record.suggestionId &&
      mayAutonomouslySort ⟨record.suggestedSlot, record.confidence, record.primerPresent⟩
        attempts.thresholds

omit [LinearOrder C] in
def submit (attempts : Attempts C) (record : SuggestionRecord C) (generation : Int) : Attempts C :=
  let call : SortCall := ⟨record.suggestedSlot, generation, idempotencyKey record.suggestionId⟩
  let number := attempts.submissions.length
  { attempts with
    service := attempts.service.submitSort call
    autonomist := .waiting number record
    submissions := attempts.submissions ++ [⟨call, record, attempts.thresholds⟩]
    onWay := number :: attempts.onWay }

omit [LinearOrder C] in
def enter (attempts : Attempts C) (number : Nat) (submission : Submission C) (now : Nat)
    (verdict : Verdict) : Attempts C :=
  let answer := attempts.ledger.submit submission.call now verdict
  { attempts with
    onWay := attempts.onWay.filter (· ≠ number)
    answers := (number, answer.1) :: attempts.answers
    ledger := answer.2 }

def step (attempts : Attempts C) : AttemptEvent C → Option (Attempts C)
  | .store slot suggestion =>
    some { attempts with service := attempts.service.recordSuggestion slot suggestion }
  | .tick =>
    match attempts.autonomist with
    | .idle =>
      match attempts.chooses with
      | none => some attempts
      | some record => some { attempts with autonomist := .chosen record }
    | _ => none
  | .generation answer =>
    match attempts.autonomist, answer with
    | .chosen _, none => some { attempts with autonomist := .idle }
    | .chosen record, some generation => some (attempts.submit record generation)
    | _, _ => none
  | .enter number now verdict =>
    if number ∈ attempts.onWay then
      attempts.submissions[number]?.map fun submission =>
        attempts.enter number submission now verdict
    else none
  | .lose number => some { attempts with onWay := attempts.onWay.filter (· ≠ number) }
  | .receive =>
    match attempts.autonomist with
    | .waiting number record =>
      (attempts.answers.lookup number).map fun answer =>
        match answer with
        | none => { attempts with autonomist := .idle }
        | some operationId => { attempts with autonomist := .answered record operationId }
    | _ => none
  | .giveUp =>
    match attempts.autonomist with
    | .waiting _ _ => some { attempts with autonomist := .idle }
    | _ => none
  | .record stored =>
    match attempts.autonomist with
    | .answered record operationId => some { attempts with
        autonomist := .idle
        service := if stored then
            attempts.service.recordAutonomousAttempt
              ⟨record.suggestionId, toString operationId, record.suggestedSlot⟩
          else attempts.service }
    | _ => none
  | .restart thresholds => some { attempts with autonomist := .idle, thresholds }

theorem run_tick {attempts : Attempts C} (idle : attempts.autonomist = .idle)
    {record : SuggestionRecord C} (chosen : attempts.chooses = some record) (generation : Int)
    (now : Nat) (verdict : Verdict) (stored : Bool) {operationId : Nat}
    (admitted : (attempts.ledger.submit ⟨record.suggestedSlot, generation,
      idempotencyKey record.suggestionId⟩ now verdict).1 = some operationId) :
    (run step attempts [.tick, .generation (some generation),
        .enter attempts.submissions.length now verdict, .receive, .record stored]).map service =
      some (attempts.service.attemptOnce attempts.thresholds
        ⟨some generation, some (toString operationId), stored⟩) := by
  obtain ⟨latest, may⟩ := Option.filter_eq_some_iff.mp chosen
  simp only [Bool.and_eq_true, Bool.not_eq_true'] at may
  have once : attempts.service.attemptOnce attempts.thresholds
      ⟨some generation, some (toString operationId), stored⟩ =
      let called := attempts.service.submitSort
        ⟨record.suggestedSlot, generation, idempotencyKey record.suggestionId⟩
      if stored then called.recordAutonomousAttempt
          ⟨record.suggestionId, toString operationId, record.suggestedSlot⟩
      else called := by
    simp only [Service.attemptOnce, latest, may.1, may.2, Bool.false_eq_true, if_false, if_true]
  rw [once]
  simp [run, step, idle, chosen, submit, enter, admitted]

/-- What the submission says is true of its suggestion. -/
structure Proper (attempts : Attempts C) (submission : Submission C) : Prop where
  stored : submission.record ∈ attempts.service.suggestions
  cleared : Cleared submission.thresholds submission.record
  key : submission.call.idempotencyKey = idempotencyKey submission.record.suggestionId
  slot : submission.call.slot = submission.record.suggestedSlot

def Place (attempts : Attempts C) : Autonomist C → Prop
  | .idle => True
  | .chosen record =>
    record ∈ attempts.service.suggestions ∧ Cleared attempts.thresholds record
  | .waiting number record =>
    ∃ submission, attempts.submissions[number]? = some submission ∧ submission.record = record
  | .answered record operationId => ∃ operation ∈ attempts.ledger.operations,
      operation.operationId = operationId ∧
        operation.Carries record.suggestionId record.suggestedSlot

/-- Suggestions, submissions and operations are only ever added. -/
structure Grows (before after : Attempts C) : Prop where
  suggestions : before.service.suggestions ⊆ after.service.suggestions
  submissions : before.submissions <+: after.submissions
  operations : before.ledger.operations ⊆ after.ledger.operations

structure Faithful (attempts : Attempts C) : Prop where
  given : ∀ record ∈ attempts.service.suggestions,
    record.suggestionId < attempts.service.nextSuggestionId
  place : Place attempts attempts.autonomist
  submitted : ∀ submission ∈ attempts.submissions, Proper attempts submission
  admitted : ∀ operation ∈ attempts.ledger.operations,
    ∃ submission ∈ attempts.submissions, operation.call = submission.call
  numbered : attempts.ledger.operations.map (·.operationId) =
    List.range attempts.ledger.operations.length
  apart : attempts.ledger.operations.Pairwise
    fun operation other => operation.call.idempotencyKey ≠ other.call.idempotencyKey
  answered : ∀ number operationId, (number, some operationId) ∈ attempts.answers →
    ∃ submission, attempts.submissions[number]? = some submission ∧
      ∃ operation ∈ attempts.ledger.operations, operation.operationId = operationId ∧
        operation.Carries submission.record.suggestionId submission.record.suggestedSlot
  recorded : ∀ attempt ∈ attempts.service.attempts,
    ∃ operation ∈ attempts.ledger.operations,
    toString operation.operationId = attempt.operationId ∧
      operation.Carries attempt.suggestionId attempt.slot

omit [LinearOrder C] in
theorem Grows.getElem? {before after : Attempts C} (grows : Grows before after) {number : Nat}
    {submission : Submission C} (there : before.submissions[number]? = some submission) :
    after.submissions[number]? = some submission := by
  obtain ⟨more, eq⟩ := grows.submissions
  rw [← eq, List.getElem?_append_left (List.getElem?_eq_some_iff.mp there).1]
  exact there

theorem Place.grows {before after : Attempts C} (grows : Grows before after)
    (same : after.thresholds = before.thresholds) {place : Autonomist C}
    (h : Place before place) : Place after place := by
  cases place with
  | idle => trivial
  | chosen record => exact ⟨grows.suggestions h.1, same ▸ h.2⟩
  | waiting number record =>
    obtain ⟨submission, there, about⟩ := h
    exact ⟨submission, grows.getElem? there, about⟩
  | answered record operationId =>
    obtain ⟨operation, member, carries⟩ := h
    exact ⟨operation, grows.operations member, carries⟩

theorem Proper.grows {before after : Attempts C} (grows : Grows before after)
    {submission : Submission C} (h : Proper before submission) : Proper after submission :=
  ⟨grows.suggestions h.stored, h.cleared, h.key, h.slot⟩

theorem Faithful.moved {attempts after : Attempts C} (h : Faithful attempts)
    (service : after.service = attempts.service)
    (submissions : after.submissions = attempts.submissions)
    (answers : ∀ answer ∈ after.answers, answer ∈ attempts.answers)
    (ledger : after.ledger = attempts.ledger) (place : Place after after.autonomist) :
    Faithful after := by
  have grows : Grows attempts after := by
    refine ⟨?_, ?_, ?_⟩
    · rw [service]
      exact List.Subset.refl _
    · rw [submissions]
    · rw [ledger]
      exact List.Subset.refl _
  refine ⟨service ▸ h.given, place, ?_, ?_, ledger ▸ h.numbered, ledger ▸ h.apart, ?_, ?_⟩
  · rw [submissions]
    exact fun submission member => (h.submitted submission member).grows grows
  · rw [ledger, submissions]
    exact h.admitted
  · rw [ledger, submissions]
    exact fun number operationId member => h.answered number operationId (answers _ member)
  · rw [ledger, service]
    exact h.recorded

theorem Faithful.new (thresholds : Thresholds C) (timeToLive : Nat) :
    Faithful (new thresholds timeToLive) where
  given := nofun
  place := trivial
  submitted := nofun
  admitted := nofun
  numbered := rfl
  apart := List.Pairwise.nil
  answered := nofun
  recorded := nofun

theorem Faithful.store {attempts : Attempts C} (h : Faithful attempts) (slot : Int)
    (suggestion : Suggestion C) :
    Faithful { attempts with service := attempts.service.recordSuggestion slot suggestion } := by
  have grows : Grows attempts
      { attempts with service := attempts.service.recordSuggestion slot suggestion } :=
    ⟨List.subset_append_left _ _, List.prefix_refl _, List.Subset.refl _⟩
  refine ⟨?_, h.place.grows grows rfl, fun submission member =>
    (h.submitted submission member).grows
    grows, h.admitted, h.numbered, h.apart, h.answered, h.recorded⟩
  intro record member
  rcases List.mem_append.mp member with old | new
  · exact Nat.lt_succ_of_lt (h.given record old)
  · rw [List.mem_singleton.mp new]
    exact Nat.lt_succ_self _

theorem Faithful.submit {attempts : Attempts C} (h : Faithful attempts)
    {record : SuggestionRecord C} (chosen : Place attempts (.chosen record)) (generation : Int) :
    Faithful (attempts.submit record generation) := by
  have grows : Grows attempts (attempts.submit record generation) :=
    ⟨List.Subset.refl _, List.prefix_append _ _, List.Subset.refl _⟩
  refine ⟨h.given, ?_, ?_, ?_, h.numbered, h.apart, ?_, h.recorded⟩
  · exact ⟨_, List.getElem?_concat_length, rfl⟩
  · intro submission member
    rcases List.mem_append.mp member with old | new
    · exact (h.submitted submission old).grows grows
    · rw [List.mem_singleton.mp new]
      exact ⟨chosen.1, chosen.2, rfl, rfl⟩
  · intro operation member
    obtain ⟨submission, old, same⟩ := h.admitted operation member
    exact ⟨submission, List.mem_append_left _ old, same⟩
  · intro number operationId member
    obtain ⟨submission, there, named⟩ := h.answered number operationId member
    exact ⟨submission, grows.getElem? there, named⟩

inductive Submitted (ledger : Ledger) (call : SortCall) (now : Nat) : Option Nat × Ledger → Prop
  | refused : Submitted ledger call now (none, ledger)
  | replayed (operation : SortOperation) (member : operation ∈ ledger.operations)
      (key : operation.call.idempotencyKey = call.idempotencyKey)
      (slot : operation.call.slot = call.slot) :
      Submitted ledger call now (some operation.operationId, ledger)
  | admitted (free : ledger.stored call.idempotencyKey = false) :
      Submitted ledger call now (some ledger.operations.length,
        { ledger with operations := ledger.operations ++
          [⟨ledger.operations.length, call, now + ledger.timeToLive⟩] })

theorem submitted_submit (ledger : Ledger) (call : SortCall) (now : Nat) (verdict : Verdict) :
    Submitted ledger call now (ledger.submit call now verdict) := by
  unfold Ledger.submit
  by_cases unavailable : verdict = .unavailable
  · rw [if_pos unavailable]
    exact .refused
  · rw [if_neg unavailable]
    cases bound : ledger.bound call.idempotencyKey now with
    | some operation =>
      have found := List.find?_some bound
      rw [decide_eq_true_eq] at found
      dsimp only
      split_ifs with slot
      · exact .replayed operation (List.mem_of_find?_eq_some bound) found.1 slot
      · exact .refused
    | none =>
      dsimp only
      split_ifs with closed
      · exact .refused
      · exact .admitted (by simp_all)

theorem Faithful.enter {attempts : Attempts C} (h : Faithful attempts) {number : Nat}
    {submission : Submission C} (there : attempts.submissions[number]? = some submission)
    (now : Nat) (verdict : Verdict) :
    Faithful (attempts.enter number submission now verdict) := by
  have among : submission ∈ attempts.submissions := List.mem_of_getElem? there
  have proper := h.submitted submission among
  have answers {operations : List SortOperation} {answer : Option Nat}
      (kept : attempts.ledger.operations ⊆ operations)
      (own : ∀ id, answer = some id → ∃ operation ∈ operations,
        operation.operationId = id ∧
        operation.Carries submission.record.suggestionId submission.record.suggestedSlot) :
      ∀ n id, (n, some id) ∈ (number, answer) :: attempts.answers →
        ∃ s, attempts.submissions[n]? = some s ∧ ∃ operation ∈ operations,
          operation.operationId = id ∧
            operation.Carries s.record.suggestionId s.record.suggestedSlot := by
    intro n id member
    rcases List.mem_cons.mp member with first | later
    · cases first
      exact ⟨submission, there, own id rfl⟩
    · obtain ⟨s, at', operation, inside, named⟩ := h.answered n id later
      exact ⟨s, at', operation, kept inside, named⟩
  unfold Attempts.enter
  generalize result : attempts.ledger.submit submission.call now verdict = outcome
  have spec := submitted_submit attempts.ledger submission.call now verdict
  rw [result] at spec
  dsimp only
  have unchanged {onWay : List Nat} {answers : List (Nat × Option Nat)} :
      Grows attempts { attempts with onWay, answers } :=
    ⟨List.Subset.refl _, List.prefix_refl _, List.Subset.refl _⟩
  cases spec with
  | refused =>
    exact ⟨h.given, h.place.grows unchanged rfl, fun s member => (h.submitted s member).grows
      unchanged, h.admitted, h.numbered, h.apart, answers (List.Subset.refl _) nofun, h.recorded⟩
  | replayed operation member key slot =>
    refine ⟨h.given, h.place.grows unchanged rfl, fun s member => (h.submitted s member).grows
      unchanged, h.admitted, h.numbered, h.apart, answers (List.Subset.refl _) ?_, h.recorded⟩
    rintro _ ⟨⟩
    exact ⟨operation, member, rfl, key.trans proper.key, slot.trans proper.slot⟩
  | admitted free =>
    have subset : attempts.ledger.operations ⊆ attempts.ledger.operations ++
        [⟨attempts.ledger.operations.length, submission.call,
          now + attempts.ledger.timeToLive⟩] :=
      List.subset_append_left _ _
    have grows : Grows attempts (attempts.enter number submission now verdict) := by
      refine ⟨List.Subset.refl _, List.prefix_refl _, ?_⟩
      rw [Attempts.enter, result]
      exact subset
    rw [Attempts.enter, result] at grows
    refine ⟨h.given, h.place.grows grows rfl,
      fun s member => (h.submitted s member).grows grows, ?_,
      ?_, ?_, answers subset ?_, ?_⟩
    · intro operation member
      rcases List.mem_append.mp member with old | new
      · exact h.admitted operation old
      · rw [List.mem_singleton.mp new]
        exact ⟨submission, among, rfl⟩
    · rw [List.map_append, h.numbered, List.length_append, List.length_singleton, List.range_succ]
      rfl
    · rw [List.pairwise_append]
      refine ⟨h.apart, List.pairwise_singleton _ _, fun operation old other new same => ?_⟩
      rw [List.mem_singleton.mp new] at same
      exact List.any_eq_false.mp free operation old (by simp [same])
    · rintro _ ⟨⟩
      exact ⟨_, List.mem_append_right _ (List.mem_singleton_self _), rfl,
        proper.key, proper.slot⟩
    · intro attempt member
      obtain ⟨operation, old, named⟩ := h.recorded attempt member
      exact ⟨operation, subset old, named⟩

omit [LinearOrder C] in
theorem chooses_eq_some [LinearOrder C] {attempts : Attempts C} {record : SuggestionRecord C}
    (chosen : attempts.chooses = some record) :
    record ∈ attempts.service.suggestions ∧ Cleared attempts.thresholds record := by
  obtain ⟨latest, may⟩ := Option.filter_eq_some_iff.mp chosen
  rw [Bool.and_eq_true] at may
  exact ⟨List.mem_of_getLast? latest, cleared_of_may may.2⟩

theorem Faithful.recordAttempt {attempts : Attempts C} (h : Faithful attempts)
    {record : SuggestionRecord C} {operationId : Nat}
    (answered : Place attempts (.answered record operationId)) :
    Faithful { attempts with
      autonomist := .idle
      service := attempts.service.recordAutonomousAttempt
        ⟨record.suggestionId, toString operationId, record.suggestedSlot⟩ } := by
  have grows : Grows attempts { attempts with
      autonomist := .idle
      service := attempts.service.recordAutonomousAttempt
        ⟨record.suggestionId, toString operationId, record.suggestedSlot⟩ } :=
    ⟨List.Subset.refl _, List.prefix_refl _, List.Subset.refl _⟩
  refine ⟨h.given, trivial, fun s member => (h.submitted s member).grows grows, h.admitted,
    h.numbered, h.apart, h.answered, ?_⟩
  intro attempt member
  rcases List.mem_append.mp member with old | new
  · exact h.recorded attempt old
  · obtain ⟨operation, inside, rfl, carries⟩ := answered
    rw [List.mem_singleton.mp new]
    exact ⟨operation, inside, rfl, carries⟩

theorem Faithful.step {attempts after : Attempts C} {event : AttemptEvent C}
    (h : Faithful attempts) (stepped : attempts.step event = some after) : Faithful after := by
  have place := h.place
  cases event with
  | store slot suggestion =>
    cases stepped
    exact h.store slot suggestion
  | tick =>
    simp only [Attempts.step] at stepped
    split at stepped
    · split at stepped
      · cases stepped
        exact h
      · rename_i record chosen
        cases stepped
        exact h.moved rfl rfl (fun _ => id) rfl (chooses_eq_some chosen)
    · cases stepped
  | generation answer =>
    simp only [Attempts.step] at stepped
    split at stepped
    · cases stepped
      exact h.moved rfl rfl (fun _ => id) rfl trivial
    · rename_i record generation at'
      cases stepped
      rw [at'] at place
      exact h.submit place generation
    · cases stepped
  | enter number now verdict =>
    simp only [Attempts.step] at stepped
    split_ifs at stepped
    obtain ⟨submission, there, rfl⟩ := Option.map_eq_some_iff.mp stepped
    exact h.enter there now verdict
  | lose number =>
    cases stepped
    exact h.moved rfl rfl (fun _ => id) rfl place
  | receive =>
    simp only [Attempts.step] at stepped
    split at stepped
    · rename_i number record at'
      rw [at'] at place
      obtain ⟨answer, found, rfl⟩ := Option.map_eq_some_iff.mp stepped
      obtain ⟨submission, there, rfl⟩ := place
      cases answer with
      | none => exact h.moved rfl rfl (fun _ => id) rfl trivial
      | some operationId =>
        refine h.moved rfl rfl (fun _ => id) rfl ?_
        obtain ⟨earlier, later, split, -⟩ := List.lookup_eq_some_iff.mp found
        have member : (number, some operationId) ∈ attempts.answers := by simp [split]
        obtain ⟨own, same, named⟩ := h.answered number operationId member
        rw [there, Option.some.injEq] at same
        subst same
        exact named
    · cases stepped
  | giveUp =>
    simp only [Attempts.step] at stepped
    split at stepped
    · cases stepped
      exact h.moved rfl rfl (fun _ => id) rfl trivial
    · cases stepped
  | record stored =>
    simp only [Attempts.step] at stepped
    split at stepped
    · rename_i record operationId at'
      rw [at'] at place
      cases stepped
      cases stored with
      | false => exact h.moved rfl rfl (fun _ => id) rfl trivial
      | true => exact h.recordAttempt place
    · cases stepped
  | restart thresholds =>
    cases stepped
    exact h.moved rfl rfl (fun _ => id) rfl trivial

/-- The operations of the autonomist are gated and recorded faithfully: each was submitted for
a suggestion that passed the gate under the thresholds of its time and carries its slot, no
two are for one suggestion, and every recorded attempt names the one for its suggestion. -/
theorem attempts_faithful (thresholds : Thresholds C) (timeToLive : Nat)
    (events : List (AttemptEvent C)) (attempts : Attempts C)
    (ran : run step (new thresholds timeToLive) events = some attempts) :
    (∀ operation ∈ attempts.ledger.operations, ∃ submission ∈ attempts.submissions,
      operation.call = submission.call ∧ submission.record ∈ attempts.service.suggestions ∧
        Cleared submission.thresholds submission.record ∧
        operation.Carries submission.record.suggestionId submission.record.suggestedSlot) ∧
    (attempts.ledger.operations.Pairwise fun operation other => ∀ suggestionId,
      ¬ (operation.call.idempotencyKey = idempotencyKey suggestionId ∧
        other.call.idempotencyKey = idempotencyKey suggestionId)) ∧
    ∀ attempt ∈ attempts.service.attempts, ∃ operation ∈ attempts.ledger.operations,
      toString operation.operationId = attempt.operationId ∧
        operation.Carries attempt.suggestionId attempt.slot ∧
        ∀ other ∈ attempts.ledger.operations,
          other.call.idempotencyKey = idempotencyKey attempt.suggestionId →
          other = operation := by
  have h : Faithful attempts := run_invariant (motive := Faithful)
    (fun _ _ _ faithful _ stepped => faithful.step stepped) (.new thresholds timeToLive)
    (meets_of_forall (fun _ _ _ => trivial) _) ran
  refine ⟨fun operation member => ?_, ?_, fun attempt member => ?_⟩
  · obtain ⟨submission, among, same⟩ := h.admitted operation member
    have proper := h.submitted submission among
    refine ⟨submission, among, same, proper.stored, proper.cleared, ?_, ?_⟩
    · rw [same, proper.key]
    · rw [same, proper.slot]
  · exact h.apart.imp fun distinct suggestionId both => distinct (both.1.trans both.2.symm)
  · obtain ⟨operation, inside, named, carries⟩ := h.recorded attempt member
    refine ⟨operation, inside, named, carries, fun other among same => ?_⟩
    by_contra different
    have symm : Std.Symm fun operation other : SortOperation =>
        operation.call.idempotencyKey ≠ other.call.idempotencyKey := ⟨fun _ _ => Ne.symm⟩
    exact h.apart.forall among inside different (same.trans carries.1.symm)

def threeTries : List (AttemptEvent Nat) :=
  [.store 1 ⟨5, 7, some false⟩,
   .tick, .generation (some 3), .enter 0 10 .admits, .giveUp,
   .tick, .generation (some 4), .enter 1 20 .admits, .receive, .record false,
   .restart [(1, 6)],
   .tick, .generation (some 4), .enter 2 30 .refuses, .receive, .record true]

theorem attempts_faithful_threeTries :
    let attempts := runD step (new [(1, 5)] 60) threeTries
    attempts.submissions.length = 3 ∧
      attempts.ledger.operations.map (·.operationId) = [0] ∧
      attempts.service.attempts = [⟨1, "0", 1⟩] ∧
      ∀ attempt ∈ attempts.service.attempts, ∃ operation ∈ attempts.ledger.operations,
        toString operation.operationId = attempt.operationId := by
  intro attempts
  have faithful := attempts_faithful [(1, 5)] 60 threeTries attempts
    (run_eq_runD (by decide +kernel))
  refine ⟨by decide +kernel, by decide +kernel, by decide +kernel, fun attempt member => ?_⟩
  obtain ⟨operation, inside, named, -⟩ := faithful.2.2 attempt member
  exact ⟨operation, inside, named⟩

end Attempts

end CaseSorter.Vision
