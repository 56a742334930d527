import CaseSorter.Lib.Actions
import CaseSorter.Lib.Mappings
import CaseSorter.Lib.Runs
import CaseSorter.Vision.Routing
import Mathlib.Data.List.Induction
import Mathlib.Data.List.Nodup

/-! What the routing session answers over a run. A dynamic profile gives its chutes to the
distinct classes in the order they are first seen; the claims kept by the session are those
chutes beside those classes, as far as both go. -/

namespace CaseSorter.Vision

open CaseSorter.Actions (bind_eq_ok)
open CaseSorter.Runs

def RoutingProfile.Keyed : RoutingProfile → Prop
  | .fixed profile => (profile.classToSlot.map Prod.fst).Nodup
  | .twoPass profile => (profile.classToSlot.map Prod.fst).Nodup
  | .dynamic _ => True

/-- A profile as a caller can give it. -/
structure GivenProfile where
  profile : RoutingProfile
  keyed : profile.Keyed

theorem require_eq_ok {holds : Bool} {message : String} (h : require holds message = .ok ()) :
    holds = true := by
  unfold require at h
  split_ifs at h with yes
  exact yes

theorem forM_eq_ok {α : Type} {entries : List α} {check : α → Except RoutingError Unit}
    (h : entries.forM check = .ok ()) : ∀ entry ∈ entries, check entry = .ok () := by
  induction entries with
  | nil => exact fun entry member => (by cases member)
  | cons first entries ih =>
    obtain ⟨_, checked, rest⟩ := bind_eq_ok (f := fun _ => entries.forM check) h
    intro entry member
    rcases List.mem_cons.mp member with rfl | member
    · exact checked
    · exact ih rest entry member

/-- A chute the daemon could accept. -/
def Chute (slot : Int) : Prop := 0 ≤ slot ∧ slot ≤ 63

theorem chute_of_inRange {slot : Int} (h : inRange slot = true) : Chute slot := by
  unfold inRange maxSlot at h
  rw [Bool.and_eq_true] at h
  exact ⟨of_decide_eq_true h.1, of_decide_eq_true h.2⟩

/-- What the shared checks say of a map they pass. -/
structure MapSound (classToSlot : ClassToSlot) (overflowSlot : Int) : Prop where
  slots : ∀ entry ∈ classToSlot, Chute entry.2
  overflow : Chute overflowSlot
  apart : ∀ entry ∈ classToSlot, entry.2 ≠ overflowSlot

theorem validateMap_sound {classToSlot : ClassToSlot} {overflowSlot : Int}
    (h : validateMap classToSlot overflowSlot = .ok ()) : MapSound classToSlot overflowSlot := by
  obtain ⟨_, -, h⟩ := bind_eq_ok h
  obtain ⟨_, entries, h⟩ := bind_eq_ok h
  obtain ⟨_, overflow, apart⟩ := bind_eq_ok h
  refine ⟨fun entry member => ?_, chute_of_inRange (require_eq_ok overflow),
    fun entry member => ?_⟩
  · obtain ⟨_, -, inside⟩ := bind_eq_ok (forM_eq_ok entries entry member)
    exact chute_of_inRange (require_eq_ok inside)
  · have none := require_eq_ok apart
    simp only [Bool.not_eq_true', List.any_eq_false, beq_iff_eq] at none
    exact none entry member

theorem validateDynamic_sound {profile : DynamicProfile}
    (h : validateProfile (.dynamic profile) = .ok ()) :
    (∀ slot ∈ profile.availableSlots, Chute slot) ∧ profile.availableSlots.Nodup := by
  obtain ⟨_, -, h⟩ := bind_eq_ok h
  obtain ⟨_, slots, distinct⟩ := bind_eq_ok h
  exact ⟨fun slot member => chute_of_inRange (require_eq_ok (forM_eq_ok slots slot member)),
    of_decide_eq_true (require_eq_ok distinct)⟩

/-- What a run was asked and answered, oldest first. -/
abbrev Routes := List (Int × Except RoutingError Int)

def firstSeen (routes : Routes) : List Int := (routes.map Prod.fst).eraseDups

theorem mem_firstSeen {routes : Routes} {c : Int} :
    c ∈ firstSeen routes ↔ ∃ answer, (c, answer) ∈ routes := by
  simp [firstSeen]

theorem firstSeen_append (routes : Routes) (c : Int) (answer : Except RoutingError Int) :
    firstSeen (routes ++ [(c, answer)]) =
      if c ∈ firstSeen routes then firstSeen routes else firstSeen routes ++ [c] := by
  unfold firstSeen
  rw [List.map_append, List.eraseDups_append]
  split_ifs with seen
  · rw [List.mem_eraseDups] at seen
    simp [List.removeAll, seen]
  · rw [List.mem_eraseDups] at seen
    simp [List.removeAll, seen, List.eraseDups_cons]

theorem firstSeen_nodup (routes : Routes) : (firstSeen routes).Nodup := by
  induction routes using List.reverseRecOn with
  | nil => exact List.nodup_nil
  | append_singleton routes entry ih =>
    rw [firstSeen_append]
    split_ifs with seen
    · exact ih
    · rw [List.nodup_append]
      refine ⟨ih, by simp, fun a old b new same => seen ?_⟩
      rwa [← List.mem_singleton.mp new, ← same]

theorem idxOf_firstSeen {routes : Routes} {c d : Int} {answer : Except RoutingError Int}
    (h : d ∈ firstSeen routes) :
    (firstSeen (routes ++ [(c, answer)])).idxOf d = (firstSeen routes).idxOf d := by
  rw [firstSeen_append]
  split_ifs
  · rfl
  · exact List.idxOf_append_of_mem h

theorem find_zip {slots seen : List Int} {c : Int} (h : c ∈ seen) :
    (slots.zip seen).find? (·.2 == c) = slots[seen.idxOf c]?.map (·, c) := by
  induction slots generalizing seen with
  | nil => rfl
  | cons slot slots ih =>
    cases seen with
    | nil => cases h
    | cons d seen =>
      by_cases same : d = c
      · subst same
        simp
      · have later : c ∈ seen := by simpa [Ne.symm same] using h
        rw [List.zip_cons_cons, List.find?_cons_of_neg (by simpa using same), ih later,
          List.idxOf_cons_ne _ same, List.getElem?_cons_succ]

theorem find_zip_new {slots seen : List Int} {c : Int} (h : c ∉ seen) :
    (slots.zip seen).find? (·.2 == c) = none := by
  rw [List.find?_eq_none]
  intro entry member same
  exact h (beq_iff_eq.mp same ▸ (List.of_mem_zip member).2)

theorem zip_full {slots seen extra : List Int} (h : slots.length ≤ seen.length) :
    slots.zip (seen ++ extra) = slots.zip seen := by
  induction slots generalizing seen with
  | nil => rfl
  | cons slot slots ih =>
    cases seen with
    | nil => simp at h
    | cons d seen =>
      rw [List.cons_append, List.zip_cons_cons, List.zip_cons_cons, ih (by simpa using h)]

theorem zip_next {slots seen : List Int} {slot c : Int} (h : slots[seen.length]? = some slot) :
    slots.zip (seen ++ [c]) = slots.zip seen ++ [(slot, c)] := by
  induction seen generalizing slots with
  | nil =>
    cases slots with
    | nil => cases h
    | cons first slots =>
      cases h
      simp
  | cons d seen ih =>
    cases slots with
    | nil => cases h
    | cons first slots =>
      rw [List.cons_append, List.zip_cons_cons, List.zip_cons_cons, List.cons_append,
        ih (by simpa using h)]

theorem assign_next {slots seen : List Int} {slot c : Int} (distinct : slots.Nodup)
    (h : slots[seen.length]? = some slot) :
    RoutingSession.assign (slots.zip seen) slot c = slots.zip seen ++ [(slot, c)] := by
  unfold RoutingSession.assign
  rw [if_neg]
  intro taken
  obtain ⟨entry, member, same⟩ := List.any_eq_true.mp taken
  obtain ⟨i, at_i, here⟩ := List.mem_iff_getElem.mp member
  rw [List.length_zip] at at_i
  have bound : i < slots.length := by omega
  have first : slots[i]? = some slot := by
    rw [List.getElem?_eq_getElem bound, ← beq_iff_eq.mp same, ← here, List.getElem_zip]
  have := (List.getElem?_inj bound distinct).mp (first.trans h.symm)
  omega

/-- The session, when its run was started, and what the run was asked and answered. -/
structure Routing where
  session : RoutingSession
  startedAt : Option Nat
  routes : Routes

inductive RoutingCall where
  | start (given : GivenProfile) (now : Nat)
  | stop
  | route (classId : Int)
  | snapshot

namespace Routing

def new : Routing := ⟨.new, none, []⟩

def step (s : Routing) : RoutingCall → Routing
  | .start given now =>
    match s.session.start given.profile with
    | (.error _, session) => { s with session := session }
    | (.ok (), session) => ⟨session, some now, []⟩
  | .stop => ⟨s.session.stop, none, []⟩
  | .route classId =>
    { s with
      session := (s.session.route classId).2
      routes := s.routes ++ [(classId, (s.session.route classId).1)] }
  | .snapshot => s

theorem start_rejected {s : Routing} {given : GivenProfile} {now : Nat} {e : RoutingError}
    (h : validateProfile given.profile = .error e) : s.step (.start given now) = s := by
  simp only [step, RoutingSession.start, h]

theorem start_accepted {s : Routing} {given : GivenProfile} {now : Nat}
    (h : validateProfile given.profile = .ok ()) :
    s.step (.start given now) = ⟨⟨some given.profile, []⟩, some now, []⟩ := by
  simp only [step, RoutingSession.start, h]

/-- The session after a sequence of calls. -/
def after (calls : List RoutingCall) : Routing := calls.foldl step new

end Routing

/-- The map of a fixed or a two-pass profile, and its overflow chute. -/
def RoutingProfile.map : RoutingProfile → Option (ClassToSlot × Int)
  | .fixed profile => some (profile.classToSlot, profile.overflowSlot)
  | .twoPass profile => some (profile.classToSlot, profile.overflowSlot)
  | .dynamic _ => none

def chutesClaimed : RoutingError :=
  ⟨"every chute in this run has already been claimed by another class"⟩

def answer (slots seen : List Int) (c : Int) : Except RoutingError Int :=
  match slots[seen.idxOf c]? with
  | some slot => .ok slot
  | none => .error chutesClaimed

theorem answer_eq_ok {slots seen : List Int} {c slot : Int} :
    answer slots seen c = .ok slot ↔ slots[seen.idxOf c]? = some slot := by
  unfold answer
  cases slots[seen.idxOf c]? with
  | none => simp
  | some first => simp

theorem routeDynamic_zip {session : RoutingSession} {p : DynamicProfile} {seen : List Int}
    (distinct : p.availableSlots.Nodup) (claimed : session.claimed = p.availableSlots.zip seen)
    (c : Int) :
    session.routeDynamic p c =
      (answer p.availableSlots (if c ∈ seen then seen else seen ++ [c]) c,
        { session with
          claimed := p.availableSlots.zip (if c ∈ seen then seen else seen ++ [c]) }) := by
  unfold RoutingSession.routeDynamic
  rw [claimed]
  have count : (p.availableSlots.zip seen).length = min p.availableSlots.length seen.length :=
    List.length_zip
  by_cases known : c ∈ seen
  · rw [if_pos known, find_zip known, ← claimed]
    cases place : p.availableSlots[seen.idxOf c]? with
    | some slot => simp [answer, place]
    | none =>
      have beyond := List.getElem?_eq_none_iff.mp place
      have inside := List.idxOf_lt_length_of_mem known
      have full : session.claimed.length = p.availableSlots.length := by
        rw [claimed, count]
        omega
      simp [answer, place, full, chutesClaimed]
  · rw [if_neg known, find_zip_new known]
    have place : (seen ++ [c]).idxOf c = seen.length := by
      rw [List.idxOf_append_of_notMem known]
      simp
    by_cases room : seen.length < p.availableSlots.length
    · have next := List.getElem?_eq_getElem room
      have length : (p.availableSlots.zip seen).length = seen.length := by
        rw [count]
        omega
      simp only [length, next, answer, place, zip_next next, assign_next distinct next]
    · have past : p.availableSlots[p.availableSlots.length]? = none :=
        List.getElem?_eq_none_iff.mpr (by omega)
      have none_left : p.availableSlots[seen.length]? = none :=
        List.getElem?_eq_none_iff.mpr (by omega)
      have full : session.claimed.length = p.availableSlots.length := by
        rw [claimed, count]
        omega
      rw [zip_full (Nat.le_of_not_lt room), ← claimed]
      simp only [full, past, answer, place, none_left, chutesClaimed]

structure Routed (s : Routing) : Prop where
  given : ∀ profile, s.session.profile = some profile →
    validateProfile profile = .ok () ∧ profile.Keyed
  dynamic : ∀ p, s.session.profile = some (.dynamic p) →
    s.session.claimed = p.availableSlots.zip (firstSeen s.routes) ∧
      ∀ entry ∈ s.routes, entry.2 = answer p.availableSlots (firstSeen s.routes) entry.1
  mapped : ∀ profile map, s.session.profile = some profile → profile.map = some map →
    ∀ entry ∈ s.routes, entry.2 = .ok (RoutingSession.routeMap map.1 map.2 entry.1)

namespace Routed

theorem new : Routed .new :=
  ⟨fun _ run => (by cases run), fun _ run => (by cases run), fun _ _ run => (by cases run)⟩

theorem start {s : Routing} (h : Routed s) (given : GivenProfile) (now : Nat) :
    Routed (s.step (.start given now)) := by
  cases checked : validateProfile given.profile with
  | error e =>
    rw [Routing.start_rejected checked]
    exact h
  | ok u =>
    rw [Routing.start_accepted checked]
    refine ⟨fun profile run => ?_, fun p run => ?_,
      fun _ _ _ _ entry member => (by cases member)⟩
    · cases run
      exact ⟨checked, given.keyed⟩
    · exact ⟨by simp [firstSeen], fun entry member => (by cases member)⟩

theorem route_map {s : Routing} {profile : RoutingProfile} {map : ClassToSlot × Int} (c : Int)
    (run : s.session.profile = some profile) (mapped : profile.map = some map) :
    s.session.route c = (.ok (RoutingSession.routeMap map.1 map.2 c), s.session) := by
  unfold RoutingSession.route
  rw [run]
  cases profile with
  | fixed profile =>
    cases mapped
    rfl
  | twoPass profile =>
    cases mapped
    rfl
  | dynamic profile => cases mapped

theorem route_profile (s : Routing) (c : Int) :
    (s.session.route c).2.profile = s.session.profile := by
  unfold RoutingSession.route
  split
  · rfl
  · unfold RoutingSession.routeDynamic
    split
    · rfl
    · split <;> rfl
  · rfl
  · rfl

theorem distinct {s : Routing} {p : DynamicProfile} (h : Routed s)
    (run : s.session.profile = some (.dynamic p)) :
    (∀ slot ∈ p.availableSlots, Chute slot) ∧ p.availableSlots.Nodup :=
  validateDynamic_sound (h.given _ run).1

theorem route_dynamic {s : Routing} {p : DynamicProfile} (h : Routed s)
    (run : s.session.profile = some (.dynamic p)) (c : Int) :
    s.session.route c =
      (answer p.availableSlots
          (if c ∈ firstSeen s.routes then firstSeen s.routes else firstSeen s.routes ++ [c]) c,
        { s.session with
          claimed :=
            p.availableSlots.zip
              (if c ∈ firstSeen s.routes then firstSeen s.routes
                else firstSeen s.routes ++ [c]) }) := by
  rw [← routeDynamic_zip (h.distinct run).2 (h.dynamic p run).1 c]
  unfold RoutingSession.route
  rw [run]

theorem route {s : Routing} (h : Routed s) (c : Int) : Routed (s.step (.route c)) := by
  refine ⟨fun profile run => ?_, fun p run => ?_, fun profile map run mapped entry member => ?_⟩
  · exact h.given profile (by rwa [← route_profile])
  · have before : s.session.profile = some (.dynamic p) := by rwa [← route_profile]
    have step := h.route_dynamic before c
    simp only [Routing.step, step]
    rw [firstSeen_append]
    refine ⟨rfl, fun entry member => ?_⟩
    rcases List.mem_append.mp member with old | new
    · rw [(h.dynamic p before).2 entry old]
      have known : entry.1 ∈ firstSeen s.routes := mem_firstSeen.mpr ⟨_, old⟩
      unfold answer
      rw [← firstSeen_append s.routes c (.ok 0), idxOf_firstSeen known]
    · cases List.mem_singleton.mp new
      rfl
  · have before : s.session.profile = some profile := by rwa [← route_profile]
    have step := route_map c before mapped
    rcases List.mem_append.mp member with old | new
    · exact h.mapped profile map before mapped entry old
    · cases List.mem_singleton.mp new
      rw [step]

theorem step {s : Routing} (h : Routed s) (call : RoutingCall) : Routed (s.step call) := by
  cases call with
  | start given now => exact h.start given now
  | stop => exact ⟨fun _ run => (by cases run), fun _ run => (by cases run),
      fun _ _ run => (by cases run)⟩
  | route classId => exact h.route classId
  | snapshot => exact h

theorem after (calls : List RoutingCall) : Routed (.after calls) := by
  unfold Routing.after
  induction calls using List.reverseRecOn with
  | nil => exact new
  | append_singleton calls call ih =>
    rw [List.foldl_append]
    exact ih.step call

theorem claimed_iff {s : Routing} {p : DynamicProfile} (h : Routed s)
    (run : s.session.profile = some (.dynamic p)) {slot c : Int} :
    (slot, c) ∈ s.session.claimed ↔ (c, .ok slot) ∈ s.routes := by
  obtain ⟨claimed, answers⟩ := h.dynamic p run
  rw [claimed]
  constructor
  · intro member
    obtain ⟨i, inside, here⟩ := List.mem_iff_getElem.mp member
    rw [List.length_zip] at inside
    have bound : i < (firstSeen s.routes).length := by omega
    obtain ⟨slot_i, class_i⟩ := Prod.mk.inj (List.getElem_zip.symm.trans here)
    have place : (firstSeen s.routes).idxOf c = i := by
      rw [← class_i]
      exact (firstSeen_nodup s.routes).idxOf_getElem i bound
    have known : c ∈ firstSeen s.routes := class_i ▸ List.getElem_mem bound
    obtain ⟨result, asked⟩ := mem_firstSeen.mp known
    have this : answer p.availableSlots (firstSeen s.routes) c = .ok slot := by
      rw [answer_eq_ok, place, List.getElem?_eq_getElem (by omega), slot_i]
    rwa [← this, ← answers _ asked]
  · intro asked
    have place := answer_eq_ok.mp (answers _ asked).symm
    have seen : c ∈ firstSeen s.routes := mem_firstSeen.mpr ⟨_, asked⟩
    have found : (p.availableSlots.zip (firstSeen s.routes)).find? (·.2 == c) =
      some (slot, c) := by
      rw [find_zip seen, place]
      rfl
    exact List.mem_of_find?_eq_some found

end Routed

theorem map_fst_zip_take (slots seen : List Int) :
    (slots.zip seen).map Prod.fst = slots.take seen.length := by
  induction slots generalizing seen with
  | nil => simp
  | cons slot slots ih =>
    cases seen with
    | nil => rfl
    | cons c seen => simp [ih]

theorem mem_mapLegend {classToSlot : ClassToSlot} {overflowSlot : Int} {entry : LegendEntry} :
    entry ∈ mapLegend classToSlot overflowSlot ↔
      entry = ⟨overflowSlot, none, true⟩ ∨
        ∃ c, (c, entry.slot) ∈ classToSlot ∧ entry = ⟨entry.slot, some c, false⟩ := by
  unfold mapLegend
  rw [List.mem_mergeSort, List.mem_append, List.mem_singleton, or_comm, List.mem_map]
  refine or_congr Iff.rfl ⟨fun ⟨pair, member, same⟩ => ?_, fun ⟨c, member, same⟩ => ?_⟩
  · subst same
    exact ⟨pair.1, member, rfl⟩
  · exact ⟨(c, entry.slot), member, same.symm⟩

theorem mapLegend_nodup {classToSlot : ClassToSlot} {overflowSlot : Int}
    (keyed : (classToSlot.map Prod.fst).Nodup) : (mapLegend classToSlot overflowSlot).Nodup := by
  unfold mapLegend
  rw [(List.mergeSort_perm _ _).nodup_iff]
  refine List.Nodup.of_map LegendEntry.classId ?_
  rw [List.map_append, List.map_map, List.nodup_append]
  refine ⟨?_, by simp, fun a named b last same => ?_⟩
  · have := keyed.map (f := some) fun _ _ => Option.some.inj
    rwa [List.map_map] at this
  · obtain ⟨pair, -, rfl⟩ := List.mem_map.mp named
    subst same
    simp at last

def Routing.InForce (s : Routing) (entry : LegendEntry) : Prop :=
  match s.session.profile with
  | none => False
  | some profile =>
    match profile.map with
    | none => ∃ c, (c, .ok entry.slot) ∈ s.routes ∧ entry = ⟨entry.slot, some c, false⟩
    | some map => entry = ⟨map.2, none, true⟩ ∨
        ∃ c, map.1.lookup c = some entry.slot ∧ entry = ⟨entry.slot, some c, false⟩

/-- A run of a dynamic profile: a stable injective assignment, onto the first chutes in the order
the classes are first seen; a class that comes after the last chute is refused. -/
structure DynamicRun (p : DynamicProfile) (s : Routing) : Prop where
  stable : ∀ entry ∈ s.routes, ∀ again ∈ s.routes, entry.1 = again.1 → entry.2 = again.2
  injective : ∀ c d slot, (c, .ok slot) ∈ s.routes → (d, .ok slot) ∈ s.routes → c = d
  assigned : ∀ slot c, (slot, c) ∈ s.session.claimed ↔ (c, .ok slot) ∈ s.routes
  inOrder : s.session.claimed = p.availableSlots.zip (firstSeen s.routes)
  onPrefix : s.session.claimed.map Prod.fst = p.availableSlots.take (firstSeen s.routes).length
  refused : s.session.claimed.length = p.availableSlots.length →
    ∀ c, c ∉ s.session.claimed.map Prod.snd →
      s.session.route c = (.error chutesClaimed, s.session)

/-- A run of a fixed or a two-pass profile. -/
structure MapRun (map : ClassToSlot × Int) (s : Routing) : Prop where
  answers : ∀ entry ∈ s.routes, entry.2 = .ok ((map.1.lookup entry.1).getD map.2)
  apart : ∀ c slot, map.1.lookup c = some slot → slot ≠ map.2

/-- The legend of a snapshot: exactly the assignments in force, each on a row of its own. -/
structure LegendTrue (s : Routing) (legend : List LegendEntry) : Prop where
  rows : ∀ entry, entry ∈ legend ↔ s.InForce entry
  distinct : legend.Nodup
  chutes : ∀ entry ∈ legend, Chute entry.slot

namespace Routed

theorem dynamicRun {s : Routing} {p : DynamicProfile} (h : Routed s)
    (run : s.session.profile = some (.dynamic p)) : DynamicRun p s := by
  obtain ⟨claimed, answers⟩ := h.dynamic p run
  refine ⟨fun entry asked again repeated same => ?_, fun c d slot first second => ?_,
    fun slot c => h.claimed_iff run, claimed, ?_, fun full c unclaimed => ?_⟩
  · rw [answers entry asked, answers again repeated, same]
  · obtain ⟨atC, hereC⟩ :=
      List.getElem?_eq_some_iff.mp (answer_eq_ok.mp (answers _ first).symm)
    obtain ⟨atD, hereD⟩ :=
      List.getElem?_eq_some_iff.mp (answer_eq_ok.mp (answers _ second).symm)
    have place := (List.getElem_inj (h.distinct run).2).mp (hereC.trans hereD.symm)
    exact (List.idxOf_inj (mem_firstSeen.mpr ⟨_, first⟩)).mp place
  · rw [claimed, map_fst_zip_take]
  · have unfound : s.session.claimed.find? (·.2 == c) = none := by
      rw [List.find?_eq_none]
      intro entry member same
      exact unclaimed (List.mem_map.mpr ⟨entry, member, beq_iff_eq.mp same⟩)
    have past : p.availableSlots[s.session.claimed.length]? = none :=
      List.getElem?_eq_none_iff.mpr (by omega)
    simp only [RoutingSession.route, run, RoutingSession.routeDynamic, unfound, past,
      chutesClaimed]

theorem soundMap {s : Routing} {profile : RoutingProfile} {map : ClassToSlot × Int}
    (h : Routed s) (run : s.session.profile = some profile) (mapped : profile.map = some map) :
    MapSound map.1 map.2 ∧ (map.1.map Prod.fst).Nodup := by
  obtain ⟨checked, keyed⟩ := h.given profile run
  cases profile with
  | dynamic p => cases mapped
  | fixed p =>
    cases mapped
    exact ⟨validateMap_sound checked, keyed⟩
  | twoPass p =>
    cases mapped
    obtain ⟨_, shared, -⟩ := bind_eq_ok checked
    exact ⟨validateMap_sound shared, keyed⟩

theorem mapRun {s : Routing} {profile : RoutingProfile} {map : ClassToSlot × Int} (h : Routed s)
    (run : s.session.profile = some profile) (mapped : profile.map = some map) :
    MapRun map s := by
  obtain ⟨sound, keyed⟩ := h.soundMap run mapped
  exact ⟨h.mapped profile map run mapped,
    fun c slot named => sound.apart _ ((Mappings.lookup_iff_mem keyed).mp named)⟩

theorem legend_dynamic {s : Routing} {p : DynamicProfile} (h : Routed s)
    (run : s.session.profile = some (.dynamic p)) :
    LegendTrue s (s.session.snapshot s.startedAt).legend := by
  simp only [RoutingSession.snapshot, run, legendFor]
  have claimed := (h.dynamic p run).1
  refine ⟨fun entry => ?_, ?_, fun entry member => ?_⟩
  · simp only [Routing.InForce, run, RoutingProfile.map, List.mem_map]
    constructor
    · rintro ⟨pair, member, rfl⟩
      exact ⟨pair.2, (h.claimed_iff run).mp member, rfl⟩
    · rintro ⟨c, asked, same⟩
      exact ⟨(entry.slot, c), (h.claimed_iff run).mpr asked, same.symm⟩
  · refine List.Nodup.of_map LegendEntry.slot ?_
    rw [List.map_map]
    change (s.session.claimed.map Prod.fst).Nodup
    rw [claimed, map_fst_zip_take]
    exact (h.distinct run).2.sublist (List.take_sublist _ _)
  · obtain ⟨pair, paired, rfl⟩ := List.mem_map.mp member
    rw [claimed] at paired
    exact (h.distinct run).1 _ (List.of_mem_zip paired).1

theorem legend_map {s : Routing} {profile : RoutingProfile} {map : ClassToSlot × Int}
    (h : Routed s) (run : s.session.profile = some profile) (mapped : profile.map = some map) :
    LegendTrue s (s.session.snapshot s.startedAt).legend := by
  obtain ⟨sound, keyed⟩ := h.soundMap run mapped
  have shown : (s.session.snapshot s.startedAt).legend = mapLegend map.1 map.2 := by
    simp only [RoutingSession.snapshot, run]
    cases profile with
    | dynamic p => cases mapped
    | fixed p =>
      cases mapped
      rfl
    | twoPass p =>
      cases mapped
      rfl
  rw [shown]
  refine ⟨fun entry => ?_, mapLegend_nodup keyed, fun entry member => ?_⟩
  · simp only [Routing.InForce, run, mapped, mem_mapLegend, Mappings.lookup_iff_mem keyed]
  · rcases mem_mapLegend.mp member with last | ⟨c, named, -⟩
    · rw [last]
      exact sound.overflow
    · exact sound.slots _ named

theorem legend {s : Routing} (h : Routed s) :
    LegendTrue s (s.session.snapshot s.startedAt).legend := by
  cases run : s.session.profile with
  | none =>
    simp only [RoutingSession.snapshot, run]
    exact ⟨fun entry => by simp [Routing.InForce, run], List.nodup_nil,
      fun entry member => (by cases member)⟩
  | some profile =>
    cases mapped : profile.map with
    | some map => exact h.legend_map run mapped
    | none =>
      cases profile with
      | dynamic p => exact h.legend_dynamic run
      | fixed p => cases mapped
      | twoPass p => cases mapped

theorem answered {s : Routing} {profile : RoutingProfile} (h : Routed s)
    (run : s.session.profile = some profile) {c slot : Int} (asked : (c, .ok slot) ∈ s.routes) :
    Chute slot := by
  cases mapped : profile.map with
  | some map =>
    obtain ⟨sound, keyed⟩ := h.soundMap run mapped
    have result := Except.ok.inj (h.mapped profile map run mapped _ asked)
    unfold RoutingSession.routeMap at result
    cases named : map.1.lookup c with
    | none => exact (by simpa [named] using result : slot = map.2) ▸ sound.overflow
    | some chute =>
      have same : slot = chute := by simpa [named] using result
      exact same ▸ sound.slots _ ((Mappings.lookup_iff_mem keyed).mp named)
  | none =>
    cases profile with
    | fixed p => cases mapped
    | twoPass p => cases mapped
    | dynamic p =>
      have place := answer_eq_ok.mp ((h.dynamic p run).2 _ asked).symm
      exact (h.distinct run).1 slot (List.mem_of_getElem? place)

end Routed

/-- The routing session after any calls: the run of its profile, a start that is refused, and its
snapshot. -/
theorem routing_runs (calls : List RoutingCall) :
    (∀ p, (Routing.after calls).session.profile = some (.dynamic p) →
      DynamicRun p (.after calls)) ∧
    (∀ profile map, (Routing.after calls).session.profile = some profile →
      profile.map = some map → MapRun map (.after calls)) ∧
    (∀ given now, ((Routing.after calls).session.start given.profile).1 ≠ .ok () →
      (Routing.after calls).step (.start given now) = .after calls) ∧
    LegendTrue (.after calls)
      ((Routing.after calls).session.snapshot (Routing.after calls).startedAt).legend ∧
    (∀ c slot, (Routing.after calls).session.profile ≠ none →
      (c, .ok slot) ∈ (Routing.after calls).routes → Chute slot) := by
  have h := Routed.after calls
  refine ⟨fun p run => h.dynamicRun run, fun profile map run mapped => h.mapRun run mapped,
    fun given now refused => ?_, h.legend, fun c slot run asked => ?_⟩
  · cases checked : validateProfile given.profile with
    | error e => exact Routing.start_rejected checked
    | ok u => exact absurd (by simp only [RoutingSession.start, checked]) refused
  · obtain ⟨profile, run⟩ := Option.ne_none_iff_exists'.mp run
    exact h.answered run asked

/-- Two chutes: the third class is refused, and the first keeps its chute. -/
theorem routing_runs_full :
    DynamicRun ⟨[3, 1]⟩
      (.after [.start ⟨.dynamic ⟨[3, 1]⟩, trivial⟩ 0, .route 7, .route 9,
        .route 5, .route 7]) :=
  (routing_runs _).1 ⟨[3, 1]⟩ (by decide)

end CaseSorter.Vision
