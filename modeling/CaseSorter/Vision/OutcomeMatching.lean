import CaseSorter.Daemon.Pages
import CaseSorter.Vision.Labels

/-! Which suggestion a confirmed sort is compared with. The correlator reads the newest page of
succeeded sorts from the daemon and gives each sort that is new to it the newest suggestion of
before its creation that no sort has taken yet. Where two sorts have the same newest suggestion,
the first to be read takes it, and the page is newest first. -/

namespace CaseSorter.Vision

open CaseSorter.Runs CaseSorter.Transactions
open CaseSorter.Daemon (Db OperationRecord JournalWrite Commits)

/-- `_sort_success_from`, of an operation the daemon has encoded. -/
def sortSuccessFrom (operation : OperationRecord) : Option SortSuccess :=
  if operation.action = .sort ∧ operation.state = .succeeded then
    (operation.terminalFields.bind (·.lookup "slot")).bind fun text =>
      (Daemon.Api.intOf text).map fun slot =>
        ⟨toString operation.operationId, slot, some operation.createdAt⟩
  else none

/-- All the sorts that have succeeded with a slot, oldest first. -/
def succeededSorts (db : Db) : List SortSuccess := db.operations.filterMap sortSuccessFrom

def recentSortSuccesses (limit : Nat) (db : Db) : List SortSuccess :=
  (db.recentOperations limit none (some .succeeded) (some .sort)).filterMap fun row =>
    sortSuccessFrom row.2

/-- What the vision service holds and what the daemon has journalled. -/
structure Matching (C : Type) where
  feedback : Feedback C
  db : Db

/-- A poll is answered, or the daemon cannot be reached. -/
inductive MatchingEvent (C : Type) where
  | startRouting (profile : RoutingProfile)
  | stopRouting
  | capture (frame : Frame)
  | suggest (classified : Option (Suggestion C)) (now : Nat)
  | daemon (db : Db)
  | poll (reached : Bool)

def Retains (db db' : Db) : Prop :=
  ∀ operation ∈ db.operations, operation.state = .succeeded → operation ∈ db'.operations

instance (db db' : Db) : Decidable (Retains db db') :=
  inferInstanceAs (Decidable (∀ operation ∈ db.operations,
    operation.state = .succeeded → operation ∈ db'.operations))

theorem retains_commits {P : Db → JournalWrite → Prop} {db db' : Db} (h : Commits P db db') :
    Retains db db' := by
  intro operation member done
  have read : db.readOperation operation.operationId = some operation := by
    have found : (db.readOperation operation.operationId).isSome := by
      rw [Db.readOperation, List.find?_isSome]
      exact ⟨operation, member, by simp⟩
    obtain ⟨row, found⟩ := Option.isSome_iff_exists.mp found
    rw [found, List.inj_on_of_nodup_map db.operation_ids (List.mem_of_find?_eq_some found) member
      (Db.readOperation_operationId found)]
  obtain ⟨row, read', later⟩ := h.later read
  rw [later.of_terminal (by rw [done]; rfl)] at read'
  exact List.mem_of_find?_eq_some read'

namespace Matching

variable {C : Type}

def new (capacity : Nat) (positive : 0 < capacity) : Matching C :=
  ⟨.new capacity positive, .empty⟩

def step (s : Matching C) : MatchingEvent C → Option (Matching C)
  | .startRouting profile => some { s with feedback := s.feedback.step (.startRouting profile) }
  | .stopRouting => some { s with feedback := s.feedback.step .stopRouting }
  | .capture frame => some { s with feedback := s.feedback.step (.capture frame) }
  | .suggest classified now =>
    some { s with feedback := s.feedback.step (.suggest classified now) }
  | .daemon db => if Retains s.db db then some { s with db := db } else none
  | .poll reached =>
    some { s with
      feedback :=
        s.feedback.pollOnce (if reached then some (recentSortSuccesses 25 s.db) else none) }

/-- The pairs recorded so far. -/
def pairs (s : Matching C) : List (String × Nat) :=
  s.feedback.outcomes.map fun outcome => (outcome.operationId, outcome.suggestionId)

end Matching

def newestSuggestion (suggestedAt : List (Nat × Nat)) (moment : Nat) : Option Nat :=
  ((suggestedAt.filter (·.2 ≤ moment)).argmax Prod.snd).map Prod.fst

theorem argmax_filter {rows : List (Nat × Nat)} {kept : Nat × Nat → Bool} {best : Nat × Nat}
    (h : rows.argmax Prod.snd = some best) (stays : kept best = true) :
    (rows.filter kept).argmax Prod.snd = some best := by
  induction rows generalizing best with
  | nil => cases h
  | cons row rows ih =>
    rw [List.argmax_cons] at h
    cases later : rows.argmax Prod.snd with
    | none =>
      rw [later] at h
      cases h
      rw [List.argmax_eq_none.mp later, List.filter_cons_of_pos stays]
      rfl
    | some other =>
      rw [later] at h
      dsimp only at h
      split_ifs at h with higher
      · cases h
        have found := ih later stays
        rw [List.filter_cons]
        split_ifs
        · rw [List.argmax_cons, found]
          exact if_pos higher
        · exact found
      · cases h
        rw [List.filter_cons_of_pos stays, List.argmax_cons]
        cases found : (rows.filter kept).argmax Prod.snd with
        | none => rfl
        | some third =>
          have inside : third ∈ rows := List.mem_of_mem_filter (List.argmax_mem found)
          have bound := List.le_of_mem_argmax inside later
          exact if_neg (by omega)

namespace Feedback

variable {C : Type}

theorem unmatchedSuggestion_eq (f : Feedback C) (moment : Nat) :
    f.unmatchedSuggestion moment =
      (((f.suggestedAt.filter (·.2 ≤ moment)).filter
        (fun row => !f.outcomes.any (·.suggestionId == row.1))).argmax Prod.snd).bind fun row =>
          f.service.suggestions.find? (·.suggestionId == row.1) := by
  unfold unmatchedSuggestion
  rw [List.filter_filter]
  simp only [Bool.and_comm]

theorem unmatched_none {f : Feedback C} {moment : Nat}
    (h : newestSuggestion f.suggestedAt moment = none) : f.unmatchedSuggestion moment = none := by
  have empty : f.suggestedAt.filter (·.2 ≤ moment) = [] := by
    rwa [newestSuggestion, Option.map_eq_none_iff, List.argmax_eq_none] at h
  rw [unmatchedSuggestion_eq, empty]
  rfl

theorem unmatched_newest {f : Feedback C} {moment id : Nat}
    (ids : f.suggestedAt.map Prod.fst = f.service.suggestions.map (·.suggestionId))
    (h : newestSuggestion f.suggestedAt moment = some id)
    (free : ∀ outcome ∈ f.outcomes, outcome.suggestionId ≠ id) :
    ∃ record, f.unmatchedSuggestion moment = some record ∧ record.suggestionId = id := by
  obtain ⟨row, newest, rfl⟩ := Option.map_eq_some_iff.mp h
  have untaken : (!f.outcomes.any (·.suggestionId == row.1)) = true := by
    rw [Bool.not_eq_true', List.any_eq_false]
    exact fun outcome member same => free outcome member (beq_iff_eq.mp same)
  have found : ((f.suggestedAt.filter (·.2 ≤ moment)).filter
      fun row => !f.outcomes.any (·.suggestionId == row.1)).argmax Prod.snd = some row :=
    argmax_filter newest untaken
  have stored : row.1 ∈ f.service.suggestions.map (·.suggestionId) := by
    rw [← ids]
    exact List.mem_map.mpr ⟨row, List.mem_of_mem_filter (List.argmax_mem newest), rfl⟩
  have present : (f.service.suggestions.find? (·.suggestionId == row.1)).isSome := by
    obtain ⟨record, member, same⟩ := List.mem_map.mp stored
    exact List.find?_isSome.mpr ⟨record, member, beq_iff_eq.mpr same⟩
  obtain ⟨record, read⟩ := Option.isSome_iff_exists.mp present
  refine ⟨record, ?_, by simpa using List.find?_some read⟩
  rw [unmatchedSuggestion_eq, found]
  exact read

/-- What a poll leaves alone. -/
structure Alike (f g : Feedback C) : Prop where
  service : g.service = f.service
  buffer : g.buffer = f.buffer
  captured : g.captured = f.captured
  suggestedAt : g.suggestedAt = f.suggestedAt

theorem Alike.frames {f g : Feedback C} (h : Alike f g) : g.frames = f.frames := by
  unfold Feedback.frames
  rw [h.buffer, h.captured]

theorem alike_recordSuccess (f : Feedback C) (success : SortSuccess) :
    Alike f (f.recordSuccess success) := by
  unfold recordSuccess matchSuggestion
  split_ifs
  · exact ⟨rfl, rfl, rfl, rfl⟩
  · split
    · exact ⟨rfl, rfl, rfl, rfl⟩
    · split
      · exact ⟨rfl, rfl, rfl, rfl⟩
      · split <;> exact ⟨rfl, rfl, rfl, rfl⟩

/-- What holds of the recorded pairs, for the sorts the polls have seen. -/
structure Matched (sorts : List SortSuccess) (f : Feedback C) : Prop where
  ids : f.suggestedAt.map Prod.fst = f.service.suggestions.map (·.suggestionId)
  filed : f.Filed
  known : ∀ row ∈ f.examples, ∃ success ∈ sorts, success.operationId = row.operationId ∧
    success.createdAt = some row.operationCreatedAt
  right : ∀ outcome ∈ f.outcomes,
    ∃ row ∈ f.examples, row.operationId = outcome.operationId ∧
      newestSuggestion f.suggestedAt row.operationCreatedAt = some outcome.suggestionId
  full : ∀ row ∈ f.examples, ∀ id,
    newestSuggestion f.suggestedAt row.operationCreatedAt = some id →
      ∃ outcome ∈ f.outcomes, outcome.operationId = row.operationId ∧
        outcome.suggestionId = id
  once : (f.outcomes.map (·.operationId)).Nodup

/-- The newest suggestion of before a sort. -/
def newestFor (suggestedAt : List (Nat × Nat)) (success : SortSuccess) : Option Nat :=
  success.createdAt.bind (newestSuggestion suggestedAt)

def Apart (suggestedAt : List (Nat × Nat)) (sorts : List SortSuccess) : Prop :=
  ∀ a ∈ sorts, ∀ b ∈ sorts, newestFor suggestedAt a ≠ none →
    newestFor suggestedAt a = newestFor suggestedAt b → a.operationId = b.operationId

instance (suggestedAt : List (Nat × Nat)) (sorts : List SortSuccess) :
    Decidable (Apart suggestedAt sorts) :=
  inferInstanceAs (Decidable (∀ a ∈ sorts, ∀ b ∈ sorts, _ → _ → _))

section

variable {sorts : List SortSuccess} {f : Feedback C} {success : SortSuccess}

theorem hasExample_iff {operationId : String} :
    f.hasExample operationId = true ↔ ∃ row ∈ f.examples, row.operationId = operationId := by
  simp [hasExample]

theorem Matched.free (h : Matched sorts f) (apart : Apart f.suggestedAt sorts)
    (member : success ∈ sorts) (new : f.hasExample success.operationId = false) {t id : Nat}
    (created : success.createdAt = some t)
    (newest : newestSuggestion f.suggestedAt t = some id) :
    ∀ outcome ∈ f.outcomes, outcome.suggestionId ≠ id := by
  rintro outcome taken rfl
  obtain ⟨row, filed, named, theirs⟩ := h.right outcome taken
  obtain ⟨other, among, own, their_time⟩ := h.known row filed
  have first : newestFor f.suggestedAt other = some outcome.suggestionId := by
    rw [newestFor, their_time]
    exact theirs
  have second : newestFor f.suggestedAt success = some outcome.suggestionId := by
    rw [newestFor, created]
    exact newest
  have same := apart other among success member (by rw [first]; nofun) (first.trans second.symm)
  have old := hasExample_iff.mpr ⟨row, filed, own.symm.trans same⟩
  rw [new] at old
  cases old

theorem Matched.add (h : Matched sorts f) {g : Feedback C} (alike : Alike f g) {row : ExampleRow}
    (more : Option SuggestionOutcome) (examples : g.examples = f.examples ++ [row])
    (outcomes : g.outcomes = f.outcomes ++ more.toList)
    (new : f.hasExample row.operationId = false)
    (seen : ∃ success ∈ sorts, success.operationId = row.operationId ∧
      success.createdAt = some row.operationCreatedAt)
    (own : ∀ outcome, more = some outcome → outcome.operationId = row.operationId)
    (paired : newestSuggestion f.suggestedAt row.operationCreatedAt = more.map (·.suggestionId)) :
    Matched sorts g := by
  have unfiled : ∀ old ∈ f.examples, old.operationId ≠ row.operationId := by
    intro old member same
    have filed := hasExample_iff.mpr ⟨old, member, same⟩
    rw [new] at filed
    cases filed
  refine ⟨?_, ?_, fun any member => ?_, fun outcome member => ?_,
    fun any member id newest => ?_, ?_⟩
  · rw [alike.suggestedAt, alike.service]
    exact h.ids
  · rw [Filed, examples, List.map_append, List.nodup_append]
    refine ⟨h.filed, List.nodup_singleton _, fun id old other last same => ?_⟩
    obtain ⟨first, member, rfl⟩ := List.mem_map.mp old
    exact unfiled first member (same.trans (List.mem_singleton.mp last))
  · rw [examples] at member
    rcases List.mem_append.mp member with old | last
    · exact h.known any old
    · rw [List.mem_singleton.mp last]
      exact seen
  · rw [outcomes] at member
    rw [examples, alike.suggestedAt]
    rcases List.mem_append.mp member with old | last
    · obtain ⟨filed, there, named, newest⟩ := h.right outcome old
      exact ⟨filed, List.mem_append_left _ there, named, newest⟩
    · have taken := Option.mem_toList.mp last
      refine ⟨row, by simp, (own outcome taken).symm, ?_⟩
      rw [paired, taken]
      rfl
  · rw [examples] at member
    rw [alike.suggestedAt] at newest
    rw [outcomes]
    rcases List.mem_append.mp member with old | last
    · obtain ⟨outcome, there, named, same⟩ := h.full any old id newest
      exact ⟨outcome, List.mem_append_left _ there, named, same⟩
    · rw [List.mem_singleton.mp last] at newest ⊢
      rw [paired] at newest
      obtain ⟨outcome, taken, rfl⟩ := Option.map_eq_some_iff.mp newest
      exact ⟨outcome, List.mem_append_right _ (Option.mem_toList.mpr taken),
        own outcome taken, rfl⟩
  · rw [outcomes, List.map_append, List.nodup_append]
    refine ⟨h.once, ?_, fun id old other last same => ?_⟩
    · cases more <;> simp
    · obtain ⟨first, member, rfl⟩ := List.mem_map.mp old
      obtain ⟨second, taken, rfl⟩ := List.mem_map.mp last
      obtain ⟨filed, there, named, -⟩ := h.right first member
      exact unfiled filed there (named.trans (same.trans (own second (Option.mem_toList.mp taken))))

theorem recordSuccess_new {t : Nat} {frame : Frame}
    (new : f.hasExample success.operationId = false) (created : success.createdAt = some t)
    (framed : closestAtOrBefore f.frames t = some frame) :
    f.recordSuccess success =
      (f.recordExample ⟨success.operationId, success.slot, frame, t⟩).matchSuggestion
        success.operationId success.slot t := by
  simp only [recordSuccess, new, created, framed, Bool.false_eq_true, if_false]

def Framed (f : Feedback C) (success : SortSuccess) : Prop :=
  ∃ t frame, success.createdAt = some t ∧ closestAtOrBefore f.frames t = some frame

theorem framed_iff :
    Framed f success ↔ (success.createdAt.bind (closestAtOrBefore f.frames)).isSome = true := by
  simp only [Framed, Option.isSome_iff_exists, Option.bind_eq_some_iff]
  exact exists_comm

theorem recordSuccess_cases (f : Feedback C) (success : SortSuccess) :
    f.recordSuccess success = f ∨
      f.hasExample success.operationId = false ∧ Framed f success := by
  cases old : f.hasExample success.operationId with
  | true => exact .inl (if_pos old)
  | false =>
    cases created : success.createdAt with
    | none => exact .inl (by simp [recordSuccess, created])
    | some t =>
      cases framed : closestAtOrBefore f.frames t with
      | none => exact .inl (by simp [recordSuccess, created, framed])
      | some frame => exact .inr ⟨rfl, t, frame, created, framed⟩

theorem Matched.turn (h : Matched sorts f) (apart : Apart f.suggestedAt sorts)
    (member : Framed f success → success ∈ sorts) :
      Matched sorts (f.recordSuccess success) := by
  rcases recordSuccess_cases f success with same | ⟨new, t, frame, created, framed⟩
  · rw [same]
    exact h
  · replace member := member ⟨t, frame, created, framed⟩
    have alike := alike_recordSuccess f success
    have seen : ∃ other ∈ sorts, other.operationId = success.operationId ∧
        other.createdAt = some t := ⟨success, member, rfl, created⟩
    rw [recordSuccess_new new created framed, matchSuggestion] at alike ⊢
    cases newest : newestSuggestion f.suggestedAt t with
    | none =>
      have unmatched := unmatched_none (f := f.recordExample
        ⟨success.operationId, success.slot, frame, t⟩) newest
      rw [unmatched] at alike ⊢
      exact h.add alike none rfl (List.append_nil _).symm new seen nofun newest
    | some id =>
      obtain ⟨record, matched, rfl⟩ := unmatched_newest (f := f.recordExample
        ⟨success.operationId, success.slot, frame, t⟩) h.ids newest
        (h.free apart member new created newest)
      rw [matched] at alike ⊢
      exact h.add alike (some _) rfl rfl new seen
        (fun outcome same => by cases same; rfl) newest

theorem Matched.page (h : Matched sorts f) (apart : Apart f.suggestedAt sorts)
    {page : List SortSuccess}
    (shown : ∀ success ∈ page, Framed f success → success ∈ sorts) :
    Matched sorts (page.foldl recordSuccess f) ∧ Alike f (page.foldl recordSuccess f) ∧
      ∀ success ∈ page, Framed f success →
        (page.foldl recordSuccess f).hasExample success.operationId = true := by
  induction page generalizing f with
  | nil => exact ⟨h, ⟨rfl, rfl, rfl, rfl⟩, fun _ member => (by cases member)⟩
  | cons first page ih =>
    have alike := alike_recordSuccess f first
    have frames (success : SortSuccess) : Framed (f.recordSuccess first) success ↔
        Framed f success := by
      rw [Framed, Framed, alike.frames]
    obtain ⟨matched, rest, filed⟩ := ih (h.turn apart (shown first List.mem_cons_self))
      (alike.suggestedAt ▸ apart) fun success member framed =>
        shown success (List.mem_cons_of_mem _ member) ((frames success).mp framed)
    refine ⟨matched, ⟨rest.service.trans alike.service, rest.buffer.trans alike.buffer,
      rest.captured.trans alike.captured, rest.suggestedAt.trans alike.suggestedAt⟩, ?_⟩
    intro success member framed
    rcases List.mem_cons.mp member with rfl | later
    · obtain ⟨t, frame, created, closest⟩ := framed
      have kept := (foldl_recordSuccess_extends (f.recordSuccess success) page).kept
      have there : (f.recordSuccess success).hasExample success.operationId = true := by
        cases old : f.hasExample success.operationId with
        | true => rwa [recordSuccess, if_pos old]
        | false =>
          rw [recordSuccess_new old created closest, hasExample_iff, matchSuggestion_examples]
          exact ⟨_, List.mem_append_right _ (List.mem_singleton_self _), rfl⟩
      obtain ⟨row, present, named⟩ := hasExample_iff.mp there
      exact hasExample_iff.mpr ⟨row, kept.subset present, named⟩
    · exact filed success later ((frames success).mpr framed)

theorem taken_once {id : Nat} {taken : SuggestionOutcome} (member : taken ∈ f.outcomes)
    (same : taken.suggestionId = id) :
    ∀ outcome ∈ (f.recordSuccess success).outcomes, outcome.suggestionId = id →
      outcome ∈ f.outcomes := by
  intro outcome added theirs
  rcases recordSuccess_cases f success with kept | ⟨new, t, frame, created, framed⟩
  · rwa [kept] at added
  · rw [recordSuccess_new new created framed, matchSuggestion] at added
    split at added
    · exact added
    · rename_i record matched
      rcases List.mem_append.mp added with old | last
      · exact old
      · rw [unmatchedSuggestion_eq] at matched
        obtain ⟨row, newest, read⟩ := Option.bind_eq_some_iff.mp matched
        have untaken := List.of_mem_filter (List.argmax_mem newest)
        rw [Bool.not_eq_true', List.any_eq_false] at untaken
        have named : record.suggestionId = row.1 := by simpa using List.find?_some read
        rw [List.mem_singleton.mp last] at theirs
        exact absurd (beq_iff_eq.mpr (same.trans (theirs.symm.trans named)))
          (untaken taken member)

theorem first_takes {other : SortSuccess} {t id : Nat} {frame : Frame}
    (ids : f.suggestedAt.map Prod.fst = f.service.suggestions.map (·.suggestionId))
    (new : f.hasExample success.operationId = false) (created : success.createdAt = some t)
    (framed : closestAtOrBefore f.frames t = some frame)
    (newest : newestSuggestion f.suggestedAt t = some id)
    (free : ∀ outcome ∈ f.outcomes, outcome.suggestionId ≠ id) :
    (∃ outcome ∈ (f.recordSuccess success).outcomes, outcome.suggestionId = id) ∧
      ∀ outcome ∈ ((f.recordSuccess success).recordSuccess other).outcomes,
        outcome.suggestionId = id → outcome.operationId = success.operationId := by
  obtain ⟨record, matched, rfl⟩ := unmatched_newest (f := f.recordExample
    ⟨success.operationId, success.slot, frame, t⟩) ids newest free
  have taken : (f.recordSuccess success).outcomes = f.outcomes ++ [⟨record.suggestionId,
      success.operationId, success.slot, record.suggestedSlot == success.slot⟩] := by
    rw [recordSuccess_new new created framed, matchSuggestion, matched]
    rfl
  have last : ⟨record.suggestionId, success.operationId, success.slot,
      record.suggestedSlot == success.slot⟩ ∈ (f.recordSuccess success).outcomes := by
    rw [taken]
    exact List.mem_append_right _ (List.mem_singleton_self _)
  refine ⟨⟨_, last, rfl⟩, fun outcome member same => ?_⟩
  have early := taken_once last rfl outcome member same
  rw [taken] at early
  rcases List.mem_append.mp early with old | own
  · exact absurd same (free outcome old)
  · rw [List.mem_singleton.mp own]

end

theorem newestSuggestion_append {suggestedAt : List (Nat × Nat)} {moment now id : Nat}
    (h : moment < now) :
    newestSuggestion (suggestedAt ++ [(id, now)]) moment = newestSuggestion suggestedAt moment := by
  have later : [(id, now)].filter (·.2 ≤ moment) = [] := by
    simp only [List.filter_cons, List.filter_nil, decide_eq_true_eq]
    exact if_neg (by omega)
  rw [newestSuggestion, List.filter_append, later, List.append_nil, newestSuggestion]

theorem suggestOnce_cases (f : Feedback C) (classified : Option (Suggestion C)) (now : Nat) :
    (f.suggestOnce classified now).examples = f.examples ∧
      (f.suggestOnce classified now).outcomes = f.outcomes ∧
      ((f.suggestOnce classified now).suggestedAt = f.suggestedAt ∧
          (f.suggestOnce classified now).service.suggestions = f.service.suggestions ∨
        ∃ record : SuggestionRecord C,
          (f.suggestOnce classified now).suggestedAt =
            f.suggestedAt ++ [(record.suggestionId, now)] ∧
          (f.suggestOnce classified now).service.suggestions =
            f.service.suggestions ++ [record]) := by
  unfold suggestOnce
  split
  · exact ⟨rfl, rfl, .inl ⟨rfl, rfl⟩⟩
  · refine ⟨rfl, rfl, ?_⟩
    cases classified with
    | none => exact .inl ⟨if_pos rfl, rfl⟩
    | some suggestion =>
      unfold Service.suggestOnce
      dsimp only
      cases f.service.routing.route suggestion.slot with
      | mk answer routing =>
        cases answer with
        | error e => exact .inl ⟨if_pos rfl, rfl⟩
        | ok slot =>
          refine .inr ⟨_, if_neg ?_, rfl⟩
          simp [Service.recordSuggestion]

theorem Matched.suggest {sorts : List SortSuccess} {f : Feedback C} (h : Matched sorts f)
    (classified : Option (Suggestion C)) {now : Nat}
    (later : ∀ row ∈ f.examples, row.operationCreatedAt < now) :
    Matched sorts (f.suggestOnce classified now) := by
  obtain ⟨examples, outcomes, stored⟩ := suggestOnce_cases f classified now
  have newest : ∀ row ∈ f.examples,
      newestSuggestion (f.suggestOnce classified now).suggestedAt row.operationCreatedAt =
        newestSuggestion f.suggestedAt row.operationCreatedAt := by
    intro row member
    rcases stored with ⟨same, -⟩ | ⟨record, more, -⟩
    · rw [same]
    · rw [more, newestSuggestion_append (later row member)]
  refine ⟨?_, ?_, ?_, ?_, ?_, ?_⟩
  · rcases stored with ⟨same, kept⟩ | ⟨record, more, added⟩
    · rw [same, kept, h.ids]
    · rw [more, added, List.map_append, List.map_append, h.ids]
      rfl
  · rw [Filed, examples]
    exact h.filed
  · rw [examples]
    exact h.known
  · rw [examples, outcomes]
    intro outcome member
    obtain ⟨row, filed, named, theirs⟩ := h.right outcome member
    exact ⟨row, filed, named, (newest row filed).trans theirs⟩
  · rw [examples, outcomes]
    intro row member id theirs
    exact h.full row member id ((newest row member).symm.trans theirs)
  · rw [outcomes]
    exact h.once

theorem Matched.mono {sorts sorts' : List SortSuccess} {f : Feedback C} (h : Matched sorts f)
    (more : ∀ success ∈ sorts, success ∈ sorts') : Matched sorts' f := by
  refine ⟨h.ids, h.filed, fun row member => ?_, h.right, h.full, h.once⟩
  obtain ⟨success, among, rest⟩ := h.known row member
  exact ⟨success, more success among, rest⟩

end Feedback

theorem mem_recentSortSuccesses {limit : Nat} {db : Db} {success : SortSuccess}
    (h : success ∈ recentSortSuccesses limit db) : success ∈ succeededSorts db := by
  obtain ⟨⟨rowid, operation⟩, member, read⟩ := List.mem_filterMap.mp h
  rw [Db.recentOperations_page] at member
  have row := List.mem_of_mem_filter (Paging.mem_below.mp (List.mem_of_mem_take member)).1
  have stored := List.mem_of_getElem? (Db.mem_newestFirst.mp row).2
  exact List.mem_filterMap.mpr ⟨operation, stored, read⟩

theorem sortSuccessFrom_eq_some {operation : OperationRecord} {success : SortSuccess}
    (h : sortSuccessFrom operation = some success) :
    operation.state = .succeeded ∧ success.operationId = toString operation.operationId ∧
      success.createdAt = some operation.createdAt := by
  unfold sortSuccessFrom at h
  split_ifs at h with sorted
  obtain ⟨text, -, h⟩ := Option.bind_eq_some_iff.mp h
  obtain ⟨slot, -, rfl⟩ := Option.map_eq_some_iff.mp h
  exact ⟨sorted.2, rfl, rfl⟩

theorem succeededSorts_retained {db db' : Db} (h : Retains db db') {success : SortSuccess}
    (member : success ∈ succeededSorts db) : success ∈ succeededSorts db' := by
  obtain ⟨operation, stored, read⟩ := List.mem_filterMap.mp member
  have done := (sortSuccessFrom_eq_some read).1
  exact List.mem_filterMap.mpr ⟨operation, h operation stored done, read⟩

theorem succeededSorts_inj {db : Db} {a b : SortSuccess} (hA : a ∈ succeededSorts db)
    (hB : b ∈ succeededSorts db) (same : a.operationId = b.operationId) : a = b := by
  obtain ⟨opA, storedA, readA⟩ := List.mem_filterMap.mp hA
  obtain ⟨opB, storedB, readB⟩ := List.mem_filterMap.mp hB
  rw [(sortSuccessFrom_eq_some readA).2.1, (sortSuccessFrom_eq_some readB).2.1] at same
  have ids : opA.operationId = opB.operationId := Nat.repr_inj.mp same
  rw [List.inj_on_of_nodup_map db.operation_ids storedA storedB ids, readB] at readA
  exact (Option.some.inj readA).symm

namespace Matching

variable {C : Type}

def recordable (s : Matching C) : List SortSuccess :=
  (recentSortSuccesses 25 s.db).filter fun success =>
    (success.createdAt.bind (closestAtOrBefore s.feedback.frames)).isSome

def recorded (s : Matching C) : List SortSuccess :=
  (succeededSorts s.db).filter fun success => s.feedback.hasExample success.operationId

def PollFit (s : Matching C) : Prop :=
  Feedback.Apart s.feedback.suggestedAt (s.recorded ++ s.recordable)

instance (s : Matching C) : Decidable s.PollFit := inferInstanceAs (Decidable (Feedback.Apart _ _))

/-- A suggestion is made after the sorts that are recorded; a poll that is answered is fit. -/
def Fit (s : Matching C) : MatchingEvent C → Prop
  | .suggest _ now => ∀ row ∈ s.feedback.examples, row.operationCreatedAt < now
  | .poll true => s.PollFit
  | .poll false | .startRouting _ | .stopRouting | .capture _ | .daemon _ => True

instance (s : Matching C) (event : MatchingEvent C) : Decidable (s.Fit event) :=
  match event with
  | .suggest _ now =>
    inferInstanceAs (Decidable (∀ row ∈ s.feedback.examples, row.operationCreatedAt < now))
  | .poll true => inferInstanceAs (Decidable s.PollFit)
  | .poll false | .startRouting _ | .stopRouting | .capture _ | .daemon _ =>
    inferInstanceAs (Decidable True)

def offers (s : Matching C) : MatchingEvent C → List SortSuccess
  | .poll true => s.recordable
  | .poll false | .startRouting _ | .stopRouting | .capture _ | .suggest _ _ | .daemon _ => []

/-- The sorts that the polls of a run can record. -/
def offered : Matching C → List (MatchingEvent C) → List SortSuccess
  | _, [] => []
  | s, event :: events => s.offers event ++ (s.step event).elim [] fun t => offered t events

/-- The sorts that could be recorded are recorded, and nothing else is. -/
structure Sound (sorts : List SortSuccess) (s : Matching C) : Prop where
  matched : s.feedback.Matched sorts
  succeeded : ∀ success ∈ sorts, success ∈ succeededSorts s.db
  filed : ∀ success ∈ sorts, s.feedback.hasExample success.operationId = true

theorem sound_new (capacity : Nat) (positive : 0 < capacity) :
    Sound [] (new (C := C) capacity positive) where
  matched :=
    ⟨rfl, List.nodup_nil, fun _ member => (by cases member), fun _ member => (by cases member),
    fun _ member => (by cases member), List.nodup_nil⟩
  succeeded := fun _ member => (by cases member)
  filed := fun _ member => (by cases member)

theorem sound_poll {s : Matching C} {sorts : List SortSuccess} (h : s.Sound sorts)
    (fit : s.PollFit) :
    Sound (sorts ++ s.recordable)
      { s with
        feedback :=
          (recentSortSuccesses 25 s.db).foldl Feedback.recordSuccess s.feedback } := by
  have listed : ∀ success ∈ sorts ++ s.recordable, success ∈ s.recorded ++ s.recordable := by
    intro success member
    rcases List.mem_append.mp member with old | new
    · refine List.mem_append_left _ (List.mem_filter.mpr ⟨h.succeeded success old, ?_⟩)
      exact h.filed success old
    · exact List.mem_append_right _ new
  have apart : Feedback.Apart s.feedback.suggestedAt (sorts ++ s.recordable) :=
    fun a first b second => fit a (listed a first) b (listed b second)
  obtain ⟨matched, -, filed⟩ := (h.matched.mono fun success member =>
    List.mem_append_left s.recordable member).page apart fun success member framed =>
      List.mem_append_right sorts (List.mem_filter.mpr ⟨member, Feedback.framed_iff.mp framed⟩)
  refine ⟨matched, fun success member => ?_, fun success member => ?_⟩
  · rcases List.mem_append.mp member with old | new
    · exact h.succeeded success old
    · exact mem_recentSortSuccesses (List.mem_of_mem_filter new)
  · rcases List.mem_append.mp member with old | new
    · obtain ⟨row, present, named⟩ := Feedback.hasExample_iff.mp (h.filed success old)
      have kept :=
        (Feedback.foldl_recordSuccess_extends s.feedback (recentSortSuccesses 25 s.db)).kept
      exact Feedback.hasExample_iff.mpr ⟨row, kept.subset present, named⟩
    · obtain ⟨shown, framed⟩ := List.mem_filter.mp new
      exact filed success shown (Feedback.framed_iff.mpr framed)

theorem sound_step {s t : Matching C} {event : MatchingEvent C} {sorts : List SortSuccess}
    (h : s.Sound sorts) (fit : s.Fit event) (next : s.step event = some t) :
    t.Sound (sorts ++ s.offers event) := by
  obtain ⟨matched, succeeded, filed⟩ := h
  cases event with
  | poll reached =>
    cases next
    cases reached with
    | false =>
      rw [offers, List.append_nil]
      exact ⟨matched, succeeded, filed⟩
    | true => exact sound_poll ⟨matched, succeeded, filed⟩ fit
  | suggest classified now =>
    cases next
    rw [offers, List.append_nil]
    refine ⟨matched.suggest classified fit, succeeded, fun success member => ?_⟩
    have kept := (Feedback.suggestOnce_cases s.feedback classified now).1
    obtain ⟨row, present, named⟩ := Feedback.hasExample_iff.mp (filed success member)
    exact Feedback.hasExample_iff.mpr ⟨row, kept.symm ▸ present, named⟩
  | daemon db =>
    simp only [step] at next
    split_ifs at next with retains
    cases next
    rw [offers, List.append_nil]
    exact ⟨matched,
      fun success member => succeededSorts_retained retains (succeeded success member), filed⟩
  | startRouting profile =>
    cases next
    rw [offers, List.append_nil]
    exact ⟨⟨matched.ids, matched.filed, matched.known, matched.right, matched.full,
      matched.once⟩, succeeded, filed⟩
  | stopRouting =>
    cases next
    rw [offers, List.append_nil]
    exact ⟨⟨matched.ids, matched.filed, matched.known, matched.right, matched.full,
      matched.once⟩, succeeded, filed⟩
  | capture frame =>
    cases next
    rw [offers, List.append_nil]
    exact ⟨⟨matched.ids, matched.filed, matched.known, matched.right, matched.full,
      matched.once⟩, succeeded, filed⟩

theorem sound_run {s t : Matching C} {events : List (MatchingEvent C)} {sorts : List SortSuccess}
    (h : s.Sound sorts) (fit : Meets step Fit s events) (ran : run step s events = some t) :
    t.Sound (sorts ++ s.offered events) := by
  induction events generalizing s sorts with
  | nil =>
    cases ran
    rw [offered, List.append_nil]
    exact h
  | cons event events ih =>
    obtain ⟨u, next, rest⟩ := run_cons_eq_some.mp ran
    have sound := ih (sound_step h fit.1 next) (fit.2 u next) rest
    rw [List.append_assoc] at sound
    rw [offered, next]
    exact sound

section

variable {s t : Matching C} {sorts : List SortSuccess}

theorem Sound.pair (h : s.Sound sorts) {pair : String × Nat} (member : pair ∈ s.pairs) :
    ∃ success ∈ sorts, success.operationId = pair.1 ∧
      Feedback.newestFor s.feedback.suggestedAt success = some pair.2 := by
  obtain ⟨outcome, taken, rfl⟩ := List.mem_map.mp member
  obtain ⟨row, filed, named, newest⟩ := h.matched.right outcome taken
  obtain ⟨success, among, own, created⟩ := h.matched.known row filed
  refine ⟨success, among, own.trans named, ?_⟩
  rw [Feedback.newestFor, created]
  exact newest

theorem Sound.paired (h : s.Sound sorts) {success : SortSuccess} {id : Nat}
    (among : success ∈ sorts)
    (newest : Feedback.newestFor s.feedback.suggestedAt success = some id) :
    (success.operationId, id) ∈ s.pairs := by
  obtain ⟨row, filed, named⟩ := Feedback.hasExample_iff.mp (h.filed success among)
  obtain ⟨other, too, own, created⟩ := h.matched.known row filed
  have same := succeededSorts_inj (h.succeeded other too) (h.succeeded success among)
    (own.trans named)
  rw [Feedback.newestFor, ← same, created] at newest
  obtain ⟨outcome, taken, theirs, rfl⟩ := h.matched.full row filed id newest
  exact List.mem_map.mpr ⟨outcome, taken, by rw [theirs, named]⟩

theorem Sound.pairs_nodup (h : s.Sound sorts) : s.pairs.Nodup := by
  refine List.Nodup.of_map Prod.fst ?_
  rw [pairs, List.map_map]
  exact h.matched.once

theorem Sound.pairs_subset {others : List SortSuccess} (hs : s.Sound sorts) (ht : t.Sound others)
    (suggestions : s.feedback.suggestedAt = t.feedback.suggestedAt)
    (same : ∀ success ∈ sorts, success ∈ others) {pair : String × Nat}
    (member : pair ∈ s.pairs) :
    pair ∈ t.pairs := by
  obtain ⟨success, among, named, newest⟩ := hs.pair member
  have taken := ht.paired (same success among) (suggestions ▸ newest)
  rwa [named] at taken

end

end Matching

open Matching Feedback

/-- The recorded pairs of a run whose polls are fit: each sort has the newest suggestion of before
its creation, and the pairs do not tell how the polls divided the sorts they could record. -/
theorem outcome_matching {C : Type} (capacity : Nat) (positive : 0 < capacity)
    (events others : List (MatchingEvent C)) (s t : Matching C)
    (fitS : Meets step Fit (new capacity positive) events)
    (fitT : Meets step Fit (new capacity positive) others)
    (ranS : run step (new capacity positive) events = some s)
    (ranT : run step (new capacity positive) others = some t) :
    (∀ pair ∈ s.pairs, ∃ success ∈ succeededSorts s.db, success.operationId = pair.1 ∧
      newestFor s.feedback.suggestedAt success = some pair.2) ∧
    (s.feedback.suggestedAt = t.feedback.suggestedAt →
      (∀ success, success ∈ offered (new capacity positive) events ↔
        success ∈ offered (new capacity positive) others) → s.pairs.Perm t.pairs) := by
  have soundS := sound_run (sound_new capacity positive) fitS ranS
  have soundT := sound_run (sound_new capacity positive) fitT ranT
  refine ⟨fun pair member => ?_, fun suggestions same => ?_⟩
  · obtain ⟨success, among, named, newest⟩ := soundS.pair member
    exact ⟨success, soundS.succeeded success among, named, newest⟩
  · refine (List.perm_ext_iff_of_nodup soundS.pairs_nodup soundT.pairs_nodup).mpr fun pair => ?_
    constructor
    · exact soundS.pairs_subset soundT suggestions fun success => (same success).mp
    · exact soundT.pairs_subset soundS suggestions.symm fun success => (same success).mpr

def sorted (operationId createdAt : Nat) : OperationRecord :=
  ⟨operationId, .sort, "", .succeeded, 1, createdAt, createdAt + 1, ⟨"", ""⟩, true,
    none, none, none, some [("slot", "3")], Nat.one_pos, Nat.lt_succ_self _, by decide⟩

def sortedAt (first : Nat) : Db :=
  ⟨[sorted 0 first], [], [], [], by simp, List.nodup_nil, by simp⟩

def sortedBoth (first second : Nat) : Db :=
  ⟨[sorted 0 first, sorted 1 second], [], [], [], by simp [sorted], List.nodup_nil, by simp⟩

def suggestAt (now : Nat) : MatchingEvent Unit := .suggest (some ⟨3, (), none⟩) now

/-- A suggestion before each of two sorts, polled one by one or together. -/
theorem outcome_matching_alternating :
    let apart :=
      [.capture ⟨[], 5⟩, suggestAt 10, .daemon (sortedAt 15), .poll true, suggestAt 20,
      .daemon (sortedBoth 15 40), .poll true]
    let together := [.capture ⟨[], 5⟩, suggestAt 10, suggestAt 20, .daemon (sortedBoth 15 40),
      .poll true]
    ∃ s t, run step (new 4 (by decide)) apart = some s ∧
      run step (new 4 (by decide)) together = some t ∧ s.pairs.Perm t.pairs := by
  intro apart together
  have fitS : Meets step Fit (new 4 (by decide)) apart := by decide +kernel
  have fitT : Meets step Fit (new 4 (by decide)) together := by decide +kernel
  have enabledS : (run step (new 4 (by decide)) apart).isSome = true := by decide +kernel
  have enabledT : (run step (new 4 (by decide)) together).isSome = true := by decide +kernel
  have among : ∀ success ∈ offered (new 4 (by decide)) apart,
      success ∈ offered (new 4 (by decide)) together := by decide +kernel
  have back : ∀ success ∈ offered (new 4 (by decide)) together,
      success ∈ offered (new 4 (by decide)) apart := by decide +kernel
  refine ⟨_, _, run_eq_runD enabledS, run_eq_runD enabledT, ?_⟩
  exact (outcome_matching 4 (by decide) apart together _ _ fitS fitT (run_eq_runD enabledS)
    (run_eq_runD enabledT)).2 (by decide +kernel) fun success =>
      ⟨among success, back success⟩

/-- Two sorts after two suggestions: polled one by one the first takes the newest, polled together
the second does, and the other is given one that was no longer live. -/
theorem outcome_matching_batched :
    let history := [.capture ⟨[], 5⟩, suggestAt 10, suggestAt 20]
    let apart := history ++
      [.daemon (sortedAt 30), .poll true, .daemon (sortedBoth 30 40), .poll true]
    let together := history ++ [.daemon (sortedBoth 30 40), .poll true]
    let record := fun s : Matching Unit =>
      (s.feedback.suggestedAt, succeededSorts s.db, s.pairs)
    (run step (new 4 (by decide)) apart).map record =
        some ([(1, 10), (2, 20)], [⟨"0", 3, some 30⟩, ⟨"1", 3, some 40⟩],
          [("0", 2), ("1", 1)]) ∧
      (run step (new 4 (by decide)) together).map record =
        some ([(1, 10), (2, 20)], [⟨"0", 3, some 30⟩, ⟨"1", 3, some 40⟩],
          [("1", 2), ("0", 1)]) ∧
      newestSuggestion [(1, 10), (2, 20)] 30 = some 2 ∧
      newestSuggestion [(1, 10), (2, 20)] 40 = some 2 := by
  refine ⟨?_, ?_, ?_, ?_⟩
  all_goals decide +kernel

end CaseSorter.Vision
