import Mathlib.Data.List.Basic

/-! Routing of the vision service: the three routing profiles an operator can start
a run with, their validation, and the session that sends a manufacturer class to
a chute. A dictionary is the list of its entries in insertion order. -/

namespace CaseSorter.Vision

structure RoutingError where
  message : String
  deriving Repr, DecidableEq

def maxSlot : Int := 63

abbrev ClassToSlot := List (Int × Int)

structure FixedMapProfile where
  classToSlot : ClassToSlot
  overflowSlot : Int
  deriving Repr, DecidableEq

structure DynamicProfile where
  availableSlots : List Int
  deriving Repr, DecidableEq

structure TwoPassProfile where
  classToSlot : ClassToSlot
  overflowSlot : Int
  sourceGroup : Option Int
  deriving Repr, DecidableEq

inductive RoutingProfile where
  | fixed (profile : FixedMapProfile)
  | dynamic (profile : DynamicProfile)
  | twoPass (profile : TwoPassProfile)
  deriving Repr, DecidableEq

def inRange (value : Int) : Bool := 0 ≤ value && value ≤ maxSlot

def require (holds : Bool) (message : String) : Except RoutingError Unit :=
  if holds then .ok () else .error ⟨message⟩

def validateMap (classToSlot : ClassToSlot) (overflowSlot : Int) : Except RoutingError Unit := do
  require (!classToSlot.isEmpty) "a fixed or two-pass profile needs at least one mapped class"
  classToSlot.forM fun entry => do
    require (inRange entry.1) s!"class {entry.1} is out of range"
    require (inRange entry.2) s!"slot {entry.2} is out of range"
  require (inRange overflowSlot) s!"overflow_slot {overflowSlot} is out of range"
  require (!classToSlot.any (·.2 == overflowSlot))
    "overflow_slot must not also be an explicitly mapped chute"

def validateProfile : RoutingProfile → Except RoutingError Unit
  | .fixed profile => validateMap profile.classToSlot profile.overflowSlot
  | .twoPass profile => do
    validateMap profile.classToSlot profile.overflowSlot
    match profile.sourceGroup with
    | none => .ok ()
    | some group => require (inRange group) s!"source_group {group} is out of range"
  | .dynamic profile => do
    require (!profile.availableSlots.isEmpty) "a dynamic profile needs at least one available chute"
    profile.availableSlots.forM fun slot => require (inRange slot) s!"slot {slot} is out of range"
    require (decide profile.availableSlots.Nodup) "available_slots must not repeat a chute"

/-- One row of the legend; only the overflow entry names no class. -/
structure LegendEntry where
  slot : Int
  classId : Option Int
  overflow : Bool
  deriving Repr, DecidableEq

def mapLegend (classToSlot : ClassToSlot) (overflowSlot : Int) : List LegendEntry :=
  let entries : List LegendEntry :=
    classToSlot.map (fun entry => ⟨entry.2, some entry.1, false⟩) ++
      [⟨overflowSlot, none, true⟩]
  entries.mergeSort fun a b => a.slot ≤ b.slot

/-- `claimed` is chute ↦ class, the chutes already assigned only. -/
def legendFor (profile : RoutingProfile) (claimed : List (Int × Int)) : List LegendEntry :=
  match profile with
  | .dynamic _ => claimed.map fun entry => ⟨entry.1, some entry.2, false⟩
  | .fixed profile => mapLegend profile.classToSlot profile.overflowSlot
  | .twoPass profile => mapLegend profile.classToSlot profile.overflowSlot

structure RoutingSnapshot where
  active : Bool
  profile : Option RoutingProfile
  startedAt : Option Nat
  legend : List LegendEntry
  deriving Repr, DecidableEq

/-- The one active run, or none; `claimed` is chute ↦ class. -/
structure RoutingSession where
  profile : Option RoutingProfile
  claimed : List (Int × Int)
  deriving Repr, DecidableEq

namespace RoutingSession

def new : RoutingSession := ⟨none, []⟩

def start (session : RoutingSession) (profile : RoutingProfile) :
    Except RoutingError Unit × RoutingSession :=
  match validateProfile profile with
  | .error error => (.error error, session)
  | .ok () => (.ok (), ⟨some profile, []⟩)

def stop (_ : RoutingSession) : RoutingSession := new

def assign (claimed : List (Int × Int)) (slot classId : Int) : List (Int × Int) :=
  if claimed.any (·.1 == slot) then
    claimed.map fun entry => if entry.1 == slot then (slot, classId) else entry
  else claimed ++ [(slot, classId)]

def routeDynamic (session : RoutingSession) (profile : DynamicProfile) (classId : Int) :
    Except RoutingError Int × RoutingSession :=
  match session.claimed.find? (·.2 == classId) with
  | some entry => (.ok entry.1, session)
  | none =>
    match profile.availableSlots[session.claimed.length]? with
    | none =>
      (.error ⟨"every chute in this run has already been claimed by another class"⟩, session)
    | some slot => (.ok slot, { session with claimed := assign session.claimed slot classId })

def routeMap (classToSlot : ClassToSlot) (overflowSlot classId : Int) : Int :=
  (classToSlot.lookup classId).getD overflowSlot

/-- The chute a class belongs to right now; without a run, the class itself. -/
def route (session : RoutingSession) (classId : Int) :
    Except RoutingError Int × RoutingSession :=
  match session.profile with
  | none => (.ok classId, session)
  | some (.dynamic profile) => session.routeDynamic profile classId
  | some (.fixed profile) =>
    (.ok (routeMap profile.classToSlot profile.overflowSlot classId), session)
  | some (.twoPass profile) =>
    (.ok (routeMap profile.classToSlot profile.overflowSlot classId), session)

/-- `startedAt` is when the run of the session was started. -/
def snapshot (session : RoutingSession) (startedAt : Option Nat) : RoutingSnapshot :=
  match session.profile with
  | none => ⟨false, none, none, []⟩
  | some profile => ⟨true, some profile, startedAt, legendFor profile session.claimed⟩

end RoutingSession

end CaseSorter.Vision
