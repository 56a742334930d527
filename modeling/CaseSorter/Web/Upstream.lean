import CaseSorter.Daemon.Events

/-! The daemon's event endpoint (events.py, api.py) and the web service's one reader of it
(events.ts): what a frame
carries, and which cursor the reader asks to continue from when it connects again. -/

namespace CaseSorter.Web

open CaseSorter.Daemon CaseSorter.Runs

def snapshotRequiredType : String := "snapshot.required"
def heartbeatType : String := "heartbeat"

def ringTypes : List String :=
  ["journal.fault", "operation.progress", "snapshot.changed", "operation.terminal",
    "operation.accepted"]

/-- An event of the ring: it has an id, and the type of what is published. -/
structure RingEvent where
  event : DaemonEvent
  assigned : 0 < event.eventId
  typed : event.type ∈ ringTypes

inductive Emitted
  | ring (e : RingEvent)
  | heartbeat (generation now : Nat)
  | snapshotRequired (generation now : Nat)

def Emitted.event : Emitted → DaemonEvent
  | .ring e => e.event
  | .heartbeat generation now => ⟨0, heartbeatType, now, generation, none, []⟩
  | .snapshotRequired generation now => ⟨0, snapshotRequiredType, now, generation, none, []⟩

/-- One turn of the loop of `_stream` on a subscriber, which may be lost between its drain
and the second look at it; and whether the stream ends. -/
def streamTurn (generation now : Nat) (s : Subscriber) (lostSince : Bool) :
    List DaemonEvent × Bool :=
  if s.overflowed || lostSince then ([(Emitted.snapshotRequired generation now).event], true)
  else if s.drain.1 = [] then ([(Emitted.heartbeat generation now).event], false)
  else (s.drain.1, false)

theorem streamTurn_emits {generation now : Nat} {s : Subscriber} {lostSince : Bool}
    (ring : ∀ e ∈ s.pending, 0 < e.eventId ∧ e.type ∈ ringTypes) {e : DaemonEvent}
    (written : e ∈ (streamTurn generation now s lostSince).1) : ∃ x : Emitted, x.event = e := by
  unfold streamTurn at written
  split_ifs at written
  · exact ⟨.snapshotRequired generation now, (List.mem_singleton.mp written).symm⟩
  · exact ⟨.heartbeat generation now, (List.mem_singleton.mp written).symm⟩
  · have waiting : e ∈ s.pending := by
      unfold Subscriber.drain at written
      split_ifs at written
      · cases written
      · exact written
    exact ⟨.ring ⟨e, (ring e waiting).1, (ring e waiting).2⟩, rfl⟩

structure EventBody where
  eventId : Nat
  occurredAt : Nat
  generation : Nat
  type : String
  data : List (String × String)
  operationId : Option Nat
  deriving DecidableEq, Repr

/-- `_event_body`: no id below one is written. -/
def eventBody (e : DaemonEvent) : EventBody :=
  ⟨max e.eventId 1, e.occurredAt, e.generation, e.type, e.data, e.operationId⟩

def resyncEvent : String := "snapshot.required"

inductive UpstreamResync
  | cursorTooOld
  | reconnected
  deriving DecidableEq, Repr

inductive StreamMessage
  | event (event : EventBody)
  | resync (reason : UpstreamResync)
  | disconnected
  deriving DecidableEq, Repr

/-- `subscribeToDaemonEvents` between two of its yields. -/
structure Upstream where
  cursor : Option Nat
  firstConnection : Bool
  deriving DecidableEq, Repr

namespace Upstream

def start (cursor : Option Nat) : Upstream := ⟨cursor, true⟩

def announced (u : Upstream) : List StreamMessage :=
  if u.firstConnection then [] else [.resync .reconnected]

def received (_ : Upstream) (event : EventBody) : Upstream × StreamMessage :=
  if event.type = resyncEvent then (⟨none, false⟩, .resync .cursorTooOld)
  else (⟨some event.eventId, false⟩, .event event)

def ended (u : Upstream) : Upstream := { u with firstConnection := false }

end Upstream

/-- The reader, whether it is connected, and the cursors it has presented, newest first. -/
structure Reader where
  upstream : Upstream
  connected : Bool
  presented : List (Option Nat)
  deriving DecidableEq, Repr

inductive ReaderEvent
  | connect
  | frame (x : Emitted)
  | ended
  | failed

namespace Reader

def start (cursor : Option Nat) : Reader := ⟨.start cursor, false, []⟩

def step (r : Reader) : ReaderEvent → Option Reader
  | .connect =>
    if r.connected then none
    else some { r with connected := true, presented := r.upstream.cursor :: r.presented }
  | .frame x =>
    if r.connected then some { r with upstream := (r.upstream.received (eventBody x.event)).1 }
    else none
  | .ended | .failed => some { r with upstream := r.upstream.ended, connected := false }

end Reader

/-- The id of the last ring event delivered since the cursor was last given up, from the
cursor the reader was given at its start. -/
def lastDelivered (cursor : Option Nat) : List ReaderEvent → Option Nat
  | [] => cursor
  | .frame (.ring e) :: es => lastDelivered (some e.event.eventId) es
  | .frame (.snapshotRequired _ _) :: es => lastDelivered none es
  | _ :: es => lastDelivered cursor es

/-- A heartbeat has come since the last ring event, or since the cursor was given up. -/
def beaten (beat : Bool) : List ReaderEvent → Bool
  | [] => beat
  | .frame (.heartbeat _ _) :: es => beaten true es
  | .frame _ :: es => beaten false es
  | _ :: es => beaten beat es

theorem RingEvent.body_eventId (e : RingEvent) : (eventBody e.event).eventId = e.event.eventId :=
  Nat.max_eq_left e.assigned

theorem RingEvent.body_type (e : RingEvent) : (eventBody e.event).type ≠ resyncEvent := by
  intro is
  have typed := e.typed
  rw [show e.event.type = resyncEvent from is] at typed
  revert typed
  decide

theorem Reader.cursor_run {r t : Reader} {es : List ReaderEvent} (delivered : Option Nat)
    (beat : Bool) (now : r.upstream.cursor = if beat then some 1 else delivered)
    (ran : run Reader.step r es = some t) :
    t.upstream.cursor = if beaten beat es then some 1 else lastDelivered delivered es := by
  induction es generalizing r delivered beat with
  | nil =>
    cases ran
    exact now
  | cons e es ih =>
    obtain ⟨u, stepped, rest⟩ := run_cons_eq_some.mp ran
    cases e with
    | connect =>
      simp only [Reader.step] at stepped
      split_ifs at stepped
      cases stepped
      refine ih delivered beat ?_ rest
      exact now
    | frame x =>
      simp only [Reader.step] at stepped
      split_ifs at stepped
      cases stepped
      cases x with
      | ring e =>
        refine ih (some e.event.eventId) false ?_ rest
        simp only [Emitted.event, Upstream.received, if_neg e.body_type, e.body_eventId]
        rfl
      | heartbeat generation now =>
        refine ih delivered true ?_ rest
        rfl
      | snapshotRequired generation now =>
        refine ih none false ?_ rest
        rfl
    | ended =>
      cases stepped
      refine ih delivered beat ?_ rest
      exact now
    | failed =>
      cases stepped
      refine ih delivered beat ?_ rest
      exact now

/-- At every connection the cursor presented is the id of the last ring event delivered,
or absent, exactly when no heartbeat has come since, or that event is the first of all. -/
theorem lastEventId_iff (cursor : Option Nat) (es : List ReaderEvent) (r t : Reader)
    (reached : run Reader.step (.start cursor) es = some r)
    (connects : r.step .connect = some t) :
    t.presented = lastDelivered cursor es :: r.presented ↔
      beaten false es = false ∨ lastDelivered cursor es = some 1 := by
  have now := Reader.cursor_run cursor false rfl reached
  simp only [Reader.step] at connects
  split_ifs at connects
  cases connects
  simp only [List.cons.injEq, and_true, now]
  cases beaten false es with
  | false => simp
  | true =>
    simp only [if_true, Bool.true_eq_false, false_or]
    exact eq_comm

def fifth : RingEvent := ⟨⟨5, "snapshot.changed", 0, 7, none, []⟩, by decide, by decide⟩

def idleThenEnded : List ReaderEvent :=
  [.connect, .frame (.ring fifth), .frame (.heartbeat 7 15000), .ended]

theorem lastEventId_afterEvent :
    run Reader.step (.start none) [.connect, .frame (.ring fifth), .ended] =
        some ⟨⟨some 5, false⟩, false, [none]⟩ ∧
      (Reader.step ⟨⟨some 5, false⟩, false, [none]⟩ .connect).map Reader.presented =
        some [some 5, none] := by
  have ran : run Reader.step (.start none) [.connect, .frame (.ring fifth), .ended] =
      some ⟨⟨some 5, false⟩, false, [none]⟩ := rfl
  refine ⟨ran, ?_⟩
  have presented := (lastEventId_iff none [.connect, .frame (.ring fifth), .ended] _ _ ran rfl).mpr
    (.inl rfl)
  exact congrArg some presented

/-- The next connection continues after event 1, and events 2 to 5 are delivered again. -/
theorem lastEventId_afterHeartbeat :
    run Reader.step (.start none) idleThenEnded = some ⟨⟨some 1, false⟩, false, [none]⟩ ∧
      (Reader.step ⟨⟨some 1, false⟩, false, [none]⟩ .connect).map Reader.presented =
        some [some 1, none] ∧
      lastDelivered none idleThenEnded = some 5 := ⟨rfl, rfl, rfl⟩

end CaseSorter.Web
