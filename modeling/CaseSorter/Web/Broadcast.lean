import CaseSorter.Web.Upstream

/-! `EventBroadcast` of broadcast.ts with the daemon it reads and the browsers that read it.
The daemon is the event ring of its present life and the endpoint that serves one stream;
the frames it has written wait to be read. Entries carry the life of the daemon they are of,
which no function of the source reads. -/

namespace CaseSorter.Web

open CaseSorter.Daemon CaseSorter.Runs

/-- An event as the broadcast retains it. -/
structure Entry where
  source : DaemonEvent
  life : Nat
  deriving DecidableEq, Repr

def Entry.eventId (e : Entry) : Nat := (eventBody e.source).eventId

def Entry.ring (e : Entry) : Bool := e.source.eventId ≠ 0

inductive ResyncReason
  | streamOpened
  | cursorTooOld
  | reconnected
  | overflow
  deriving DecidableEq, Repr

inductive BrowserMessage
  | event (e : Entry)
  | resync (reason : ResyncReason)
  | unavailable
  deriving DecidableEq, Repr

def BrowserMessage.isResync : BrowserMessage → Bool
  | .resync _ => true
  | _ => false

/-- `Subscriber`: one browser's backlog. -/
structure Backlog where
  limit : Nat
  queue : List BrowserMessage
  closed : Bool
  deriving DecidableEq, Repr

namespace Backlog

def offer (b : Backlog) (message : BrowserMessage) : Backlog :=
  if b.closed then b
  else if b.limit ≤ b.queue.length then { b with queue := [.resync .overflow] }
  else { b with queue := b.queue ++ [message] }

def close (b : Backlog) : Backlog := { b with closed := true }

end Backlog

/-- One stream of a browser: its backlog, whether it is among the subscribers, the event it
resumed from, what it has been given, and the last event its browser has received. -/
structure Browser where
  backlog : Backlog
  attached : Bool
  resumed : Option Entry
  given : List BrowserMessage
  last : Option Entry
  deriving DecidableEq, Repr

namespace Browser

def offer (b : Browser) (message : BrowserMessage) : Browser :=
  if b.attached then { b with backlog := b.backlog.offer message } else b

def close (b : Browser) : Browser :=
  if b.attached then { b with backlog := b.backlog.close } else b

def leave (b : Browser) : Browser := { b with backlog := b.backlog.close, attached := false }

def take (b : Browser) : Option Browser :=
  match b.backlog.queue with
  | [] => none
  | message :: rest => some
    { b with
      backlog := { b.backlog with queue := rest }
      given := b.given ++ [message]
      last := match message with
        | .event e => some e
        | _ => b.last }

end Browser

/-- The connection the pump reads: its subscriber at the daemon, the frames that are written
and not yet read, the life it is of, and whether the endpoint still serves it. -/
structure Link where
  subscriber : Nat
  frames : List DaemonEvent
  life : Nat
  served : Bool
  deriving DecidableEq, Repr

structure Pump where
  upstream : Upstream
  announced : Bool
  link : Option Link
  deriving DecidableEq, Repr

/-- `tip` is the life and the id of the ring event that follows those accepted since the
window was last cleared; no function of the source reads it. -/
structure Site where
  life : Nat
  bus : EventBus
  pump : Option Pump
  replay : List Entry
  browsers : List Browser
  replayCapacity : Nat
  backlogLimit : Nat
  tip : Option (Nat × Nat)

namespace Site

def new (retention capacity : Nat) (retention_pos : 0 < retention) (capacity_pos : 0 < capacity)
    (replayCapacity backlogLimit : Nat) : Site where
  life := 0
  bus := .new retention capacity retention_pos capacity_pos
  pump := none
  replay := []
  browsers := []
  replayCapacity := replayCapacity
  backlogLimit := backlogLimit
  tip := none

def fanOut (s : Site) (message : BrowserMessage) : Site :=
  { s with browsers := s.browsers.map fun b => b.offer message }

def retain (s : Site) (e : Entry) : Site :=
  { s with
    replay := (s.replay ++ [e]).drop (s.replay.length + 1 - s.replayCapacity)
    tip := if e.ring then some (e.life, e.source.eventId + 1) else s.tip }

/-- `#accept` of an event. -/
def acceptEvent (s : Site) (e : Entry) : Site := (s.retain e).fanOut (.event e)

/-- `#accept` of a resync: what is retained is no complete run any more. -/
def acceptResync (s : Site) (reason : UpstreamResync) : Site :=
  { s with replay := [], tip := none }.fanOut
    (.resync (match reason with
      | .cursorTooOld => .cursorTooOld
      | .reconnected => .reconnected))

def acceptDisconnected (s : Site) : Site := s.fanOut .unavailable

def after (replay : List Entry) (id : Nat) : Option (List Entry) :=
  match replay.dropWhile fun e => e.eventId ≠ id with
  | [] => none
  | _ :: missed => some missed

/-- `#opening`. -/
def opening (s : Site) : Option Nat → List BrowserMessage
  | none => [.resync .streamOpened]
  | some id =>
    match after s.replay id with
    | none => [.resync .cursorTooOld]
    | some missed =>
      if s.backlogLimit < missed.length then [.resync .cursorTooOld] else missed.map .event

def opened (s : Site) (last : Option Entry) : Browser where
  backlog := (s.opening (last.map Entry.eventId)).foldl Backlog.offer
    ⟨s.backlogLimit, [], false⟩
  attached := true
  resumed := last
  given := []
  last := last

/-- `#attach`: a new pump continues after the last event of the window. -/
def attach (s : Site) : Site :=
  match s.pump with
  | some _ => s
  | none =>
    { s with
      pump := some ⟨.start (s.replay.getLast?.map Entry.eventId), false, none⟩
      tip := if s.replay = [] then none else s.tip }

def detachIfIdle (s : Site) : Site :=
  if s.browsers.any Browser.attached then s else { s with pump := none }

def subscribe (s : Site) (last : Option Entry) : Site :=
  attach { s with browsers := s.browsers ++ [s.opened last] }

end Site

/-- `bus` is the daemon's own activity; `turn` one turn of the endpoint that serves the
pump; `read` the pump's reading of a frame. -/
inductive SiteEvent
  | bus (e : BusEvent)
  | restart
  | announce
  | connect
  | connectFails
  | turn (generation now : Nat) (lostSince : Bool)
  | read
  | hangUp (failed : Bool)
  | sourceFails
  | subscribe
  | resume (k : Nat)
  | take (k : Nat)
  | leave (k : Nat)
  | shutdown

namespace Site

def foreign (s : Site) : BusEvent → Bool
  | .drain i | .close i | .unsubscribe i =>
    (s.pump.bind Pump.link).all fun link => !link.served || link.subscriber ≠ i
  | _ => true

def setPump (s : Site) (p : Pump) : Site := { s with pump := some p }

def served (s : Site) (p : Pump) (link : Link) (a : Attached) (generation now : Nat)
    (lostSince : Bool) : Site :=
  let (events, ends) := streamTurn generation now a.subscriber lostSince
  { s with
    bus := { s.bus with attached := s.bus.attached.set link.subscriber a.drain }
    pump := some { p with
      link := some { link with frames := link.frames ++ events, served := !ends } } }

def heard (s : Site) (p : Pump) (link : Link) (event : DaemonEvent) (rest : List DaemonEvent) :
    Site :=
  let (upstream, message) := p.upstream.received (eventBody event)
  let s := s.setPump { p with upstream := upstream, link := some { link with frames := rest } }
  match message with
  | .event _ => s.acceptEvent ⟨event, link.life⟩
  | .resync reason => s.acceptResync reason
  | .disconnected => s.acceptDisconnected

def step (s : Site) : SiteEvent → Option Site
  | .bus e => if s.foreign e then (s.bus.step e).map fun bus => { s with bus := bus } else none
  | .restart => some { s with
      life := s.life + 1
      bus := .new s.bus.ring.retention s.bus.ring.subscriberCapacity s.bus.ring.retention_pos
        s.bus.ring.capacity_pos
      pump := s.pump.map fun p => { p with
        link := p.link.map fun link => { link with served := false } } }
  | .announce =>
    s.pump.bind fun p =>
      if p.link.isNone && !p.upstream.firstConnection && !p.announced then
        some ((s.setPump { p with announced := true }).acceptResync .reconnected)
      else none
  | .connect =>
    s.pump.bind fun p =>
      if p.link.isNone && (p.upstream.firstConnection || p.announced) then
        (s.bus.step (.subscribe p.upstream.cursor)).map fun bus =>
          { s with
            bus := bus
            pump := some { p with link := some ⟨s.bus.attached.length, [], s.life, true⟩ } }
      else none
  | .connectFails =>
    s.pump.bind fun p =>
      if p.link.isNone && (p.upstream.firstConnection || p.announced) then
        some (s.setPump ⟨p.upstream.ended, false, none⟩).acceptDisconnected
      else none
  | .turn generation now lostSince =>
    s.pump.bind fun p => p.link.bind fun link =>
      if link.served then
        (s.bus.attached[link.subscriber]?).map fun a => s.served p link a generation now lostSince
      else none
  | .read =>
    s.pump.bind fun p => p.link.bind fun link =>
      match link.frames with
      | [] => none
      | event :: rest => some (s.heard p link event rest)
  | .hangUp failed =>
    s.pump.bind fun p => p.link.map fun _ =>
      let s := s.setPump ⟨p.upstream.ended, false, none⟩
      if failed then s.acceptDisconnected else s
  | .sourceFails =>
    s.pump.map fun _ =>
      let s := s.fanOut .unavailable
      { s with pump := none, browsers := s.browsers.map Browser.close }
  | .subscribe => some (s.subscribe none)
  | .resume k => (s.browsers[k]?).map fun b => s.subscribe b.last
  | .take k => (s.browsers[k]?).bind fun b => b.take.map fun b => { s with
      browsers := s.browsers.set k b }
  | .leave k => (s.browsers[k]?).map fun b =>
      detachIfIdle { s with browsers := s.browsers.set k b.leave }
  | .shutdown => some { s with
      pump := none
      replay := []
      tip := none
      browsers := s.browsers.map fun b => b.leave }

/-- What a browser has been given before it was told to read a snapshot. -/
def beforeResync (messages : List BrowserMessage) : List BrowserMessage :=
  messages.takeWhile fun m => !m.isResync

/-- The lives and the ids of the ring events among the messages. -/
def ringEvents (messages : List BrowserMessage) : List (Nat × Nat) :=
  messages.filterMap fun m =>
    match m with
    | .event e => if e.ring then some (e.life, e.source.eventId) else none
    | _ => none

/-- The events of one life that follow the event of that id. -/
def following (life id count : Nat) : List (Nat × Nat) :=
  (List.range' (id + 1) count).map fun i => (life, i)

def connectFits (s : Site) : Bool :=
  s.pump.all fun p => !p.upstream.firstConnection || p.upstream.cursor.all fun cursor =>
    (s.bus.ring.subscriberFor (some cursor)).overflowed ||
      s.replay.getLast?.any fun e => e.ring && e.life = s.life

def resumeFits (s : Site) (k : Nat) : Bool :=
  (s.browsers[k]?).all fun b => b.last.all fun e =>
    (s.replay.find? fun x => x.eventId = e.eventId).all fun found => found = e && e.ring

def Fit (s : Site) : SiteEvent → Prop
  | .bus e => s.bus.Ordered e
  | .connect => s.connectFits = true
  | .resume k => s.resumeFits k = true
  | _ => True

instance (s : Site) : (e : SiteEvent) → Decidable (s.Fit e)
  | .bus e => inferInstanceAs (Decidable (s.bus.Ordered e))
  | .connect => inferInstanceAs (Decidable (s.connectFits = true))
  | .resume k => inferInstanceAs (Decidable (s.resumeFits k = true))
  | .restart | .announce | .connectFails | .turn _ _ _ | .read | .hangUp _ | .sourceFails
  | .subscribe | .take _ | .leave _ | .shutdown => .isTrue trivial

end Site

end CaseSorter.Web
