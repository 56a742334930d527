import CaseSorter.Host.Client

/-! The client fails closed. Whatever its transport does, a call that raises leaves a session
that was verified after a reset, or one that refuses every request, or the mode it found; and
none leaves a request behind. -/

namespace CaseSorter.Host.Client

open CaseSorter.Actions

variable {τ : Type} {env : Environment τ}

attribute [local grind =] writeV1 resetHook verifyV1 RequestTracker.observe complete track
  RequestTracker.allocate RequestTracker.reserve request confirms classifyDiscovery Client.new

/-- What the transport cannot touch: only the client's own code moves it. -/
structure Steady (before after : Client τ) : Prop where
  timeout : after.timeout = before.timeout
  mode : after.mode = before.mode
  crcEnabled : after.crcEnabled = before.crcEnabled
  requests : after.requests = before.requests

instance : Std.Refl (Steady (τ := τ)) := ⟨fun _ => ⟨rfl, rfl, rfl, rfl⟩⟩

instance : IsTrans (Client τ) Steady :=
  ⟨fun _ _ _ h k => ⟨k.timeout.trans h.timeout, k.mode.trans h.mode,
    k.crcEnabled.trans h.crcEnabled, k.requests.trans h.requests⟩⟩

theorem steady_onWorld {α : Type} (f : τ → α × τ) : Keeps Steady (onWorld f) :=
  fun _ => ⟨rfl, rfl, rfl, rfl⟩

theorem steady_note (contact : Contact) : Keeps (Steady (τ := τ)) (note contact) :=
  fun _ => ⟨rfl, rfl, rfl, rfl⟩

theorem steady_received {α : Type} (answer : Except TransportError α) :
    Keeps (Steady (τ := τ)) (received answer) := by
  cases answer with
  | ok a => exact keeps_pure a
  | error e => exact keeps_throw e.raised

theorem steady_writeBytes (data : List UInt8) : Keeps Steady (writeBytes env data) := by
  refine keeps_bind (steady_note _) fun _ => keeps_bind (steady_onWorld _) fun answer => ?_
  refine keeps_bind (steady_received answer) fun written => ?_
  cases written with
  | none => exact keeps_pure _
  | some written =>
    dsimp only
    split
    · exact keeps_throw _
    · exact keeps_pure _

theorem steady_writeV1 (command : Text) : Keeps Steady (writeV1 env command) := by
  unfold writeV1
  split_ifs
  · exact keeps_throw _
  · exact keeps_throw _
  · exact steady_writeBytes _

theorem steady_feed (chunk : List UInt8) (v2 : Bool) : Keeps (Steady (τ := τ)) (feed chunk v2) :=
  fun _ => ⟨rfl, rfl, rfl, rfl⟩

theorem steady_readLine (v2 : Bool) (turns : Nat) : Keeps Steady (readLine env v2 turns) := by
  induction turns with
  | zero => exact keeps_throw _
  | succ turns ih =>
    refine keeps_bind (steady_onWorld _) fun late => ?_
    split
    · exact keeps_throw _
    · refine keeps_bind (steady_onWorld _) fun answer => ?_
      refine keeps_bind (steady_received answer) fun chunk => ?_
      refine keeps_bind (steady_feed chunk v2) fun result => ?_
      match result with
      | none => exact ih
      | some (.error e) => exact keeps_throw _
      | some (.ok line) => exact keeps_bind (steady_note _) fun _ => keeps_pure _

theorem steady_expectLine (expected : Text) (message : String) (turns : Nat) :
    Keeps Steady (expectLine env expected message turns) := by
  refine keeps_bind (steady_readLine _ _) fun line => ?_
  split
  · exact keeps_throw _
  · exact keeps_pure _

theorem steady_awaitStopped (turns : Nat) : Keeps Steady (awaitStopped env turns) := by
  induction turns with
  | zero => exact keeps_throw _
  | succ turns ih =>
    refine keeps_bind (steady_onWorld _) fun late => ?_
    split
    · exact keeps_throw _
    · refine keeps_bind (steady_readLine _ _) fun line => ?_
      split
      · exact keeps_pure _
      · exact ih

theorem steady_onTime (message : String) : Keeps Steady (onTime env message) := by
  refine keeps_bind (steady_onWorld _) fun late => ?_
  split
  · exact keeps_throw _
  · exact keeps_pure _

theorem steady_verifyV1 (timeout : Nat) : Keeps Steady (verifyV1 env timeout) :=
  keeps_bind (steady_onTime _) fun _ => keeps_bind (steady_expectLine _ _ _) fun _ =>
    keeps_bind (steady_writeV1 _) fun _ => keeps_bind (steady_onTime _) fun _ =>
      steady_expectLine _ _ _

variable {contacts : List Contact}

theorem contacts_onWorld {α : Type} (f : τ → α × τ) :
    Ensures (fun c => c.contacts = contacts) (onWorld f) (fun _ c => c.contacts = contacts)
      (fun _ _ => True) := fun _ h => h

theorem contacts_received {α : Type} (answer : Except TransportError α) :
    Ensures (fun c : Client τ => c.contacts = contacts) (received answer)
      (fun _ c => c.contacts = contacts) (fun _ _ => True) := by
  cases answer with
  | ok a => exact ensures_pure fun _ h => h
  | error e => exact ensures_throw fun _ _ => trivial

theorem contacts_writeBytes (data : List UInt8) :
    Ensures (fun c => c.contacts = contacts) (writeBytes env data)
      (fun _ c => c.contacts = contacts ++ [.wrote data]) (fun _ _ => True) := by
  have noted : Ensures (fun c : Client τ => c.contacts = contacts) (note (.wrote data))
      (fun _ c => c.contacts = contacts ++ [.wrote data]) (fun _ _ => True) :=
    ensures_modify fun c h => by rw [h]
  refine ensures_bind noted fun _ => ensures_bind (contacts_onWorld _) fun answer => ?_
  refine ensures_bind (contacts_received answer) fun written => ?_
  cases written with
  | none => exact ensures_pure fun _ h => h
  | some written =>
    dsimp only
    split
    · exact ensures_throw fun _ _ => trivial
    · exact ensures_pure fun _ h => h

theorem contacts_readLine (v2 : Bool) (turns : Nat) :
    Ensures (fun c => c.contacts = contacts) (readLine env v2 turns)
      (fun line c => c.contacts = contacts ++ [.heard line]) (fun _ _ => True) := by
  induction turns with
  | zero => exact ensures_throw fun _ _ => trivial
  | succ turns ih =>
    refine ensures_bind (contacts_onWorld _) fun late => ?_
    split
    · exact ensures_throw fun _ _ => trivial
    · refine ensures_bind (contacts_onWorld _) fun answer => ?_
      refine ensures_bind (contacts_received answer) fun chunk => ?_
      refine ensures_bind (R := fun _ (c : Client τ) => c.contacts = contacts) (fun _ h => h)
        fun result => ?_
      match result with
      | none => exact ih
      | some (.error e) => exact ensures_throw fun _ _ => trivial
      | some (.ok line) =>
        refine ensures_bind (R := fun _ (c : Client τ) => c.contacts = contacts ++ [.heard line])
          (ensures_modify fun c h => by rw [h]) fun _ => ?_
        exact ensures_pure fun _ h => h

theorem contacts_expectLine (expected : Text) (message : String) (turns : Nat) :
    Ensures (fun c => c.contacts = contacts) (expectLine env expected message turns)
      (fun _ c => c.contacts = contacts ++ [.heard expected]) (fun _ _ => True) := by
  refine ensures_bind (contacts_readLine _ _) fun line => ?_
  split
  · exact ensures_throw fun _ _ => trivial
  · rename_i exact'
    rw [not_not.mp exact']
    exact ensures_pure fun _ h => h

theorem contacts_onTime (message : String) :
    Ensures (fun c => c.contacts = contacts) (onTime env message)
      (fun _ c => c.contacts = contacts) (fun _ _ => True) := by
  refine ensures_bind (contacts_onWorld _) fun late => ?_
  split
  · exact ensures_throw fun _ _ => trivial
  · exact ensures_pure fun _ h => h

def pingLine : List UInt8 := encodeAscii "ping".toList ++ [10]

theorem writeV1_ping : writeV1 env "ping".toList = writeBytes env pingLine := by
  unfold writeV1
  rw [if_neg (by decide), if_neg (by decide)]
  rfl

theorem contacts_verifyV1 (timeout : Nat) :
    Ensures (fun c => c.contacts = contacts) (verifyV1 env timeout)
      (fun _ c => c.contacts = contacts ++
        [.heard "Ready".toList, .wrote pingLine, .heard " ok".toList]) (fun _ _ => True) := by
  unfold verifyV1
  rw [writeV1_ping]
  refine ensures_bind (contacts_onTime _) fun _ =>
    ensures_bind (contacts_expectLine _ _ _) fun _ => ?_
  refine ensures_bind (contacts_writeBytes _) fun _ => ensures_bind (contacts_onTime _) fun _ => ?_
  refine (contacts_expectLine _ _ _).weaken (fun _ h => h) (fun _ c h => ?_) fun _ _ h => h
  rw [h, List.append_assoc, List.append_assoc]
  rfl

def Verified (client : Client τ) : Prop :=
  client.mode = .v1 ∧ client.crcEnabled = false ∧ client.requests.active = ∅ ∧
    ∃ before, client.contacts =
      before ++ [.reset, .heard "Ready".toList, .wrote pingLine, .heard " ok".toList]

def Uncertain (client : Client τ) : Prop :=
  client.mode = .uncertain ∧ client.requests.active = ∅

theorem Uncertain.steady {before after : Client τ} (moved : Steady before after)
    (h : Uncertain before) : Uncertain after :=
  ⟨moved.mode.trans h.1, by rw [moved.requests]; exact h.2⟩

def JustReset (client : Client τ) : Prop :=
  Uncertain client ∧ ∃ before, client.contacts = before ++ [.reset]

theorem resetHook_ensures :
    Ensures Uncertain (resetHook env)
      (fun _ => JustReset)
      (fun e c => (∃ message, e = .recovery message false) ∧ Uncertain c) := by
  unfold resetHook
  cases env.reset with
  | none => exact ensures_throw fun c h => ⟨⟨_, rfl⟩, h⟩
  | some reset =>
    refine ensures_tryCatch (F := fun _ => Uncertain) ?_ fun e => ensures_throw fun c h =>
      ⟨⟨_, rfl⟩, h⟩
    refine ensures_bind (R := fun _ => JustReset)
      (ensures_modify fun c h => ⟨h, c.contacts, rfl⟩) fun _ => ?_
    refine ensures_bind (R := fun _ => JustReset) (fun _ h => h) fun answer => ?_
    cases answer with
    | ok _ => exact ensures_pure fun _ h => h
    | error e => exact ensures_throw fun _ h => h.1

theorem recoverToV1_ensures (env : Environment τ) :
    Ensures (fun _ => True) (recoverToV1 env) (fun _ c => Verified c)
      (fun e c => (∃ message, e = .recovery message false) ∧ Uncertain c) := by
  refine ensures_bind (R := fun _ => Uncertain)
    (ensures_modify fun c _ => ⟨rfl, rfl⟩) fun _ => ?_
  refine ensures_bind (R := fun _ => Uncertain) (fun _ h => h) fun client => ?_
  refine ensures_bind (R := fun _ => Uncertain) ?_ fun _ => ?_
  · refine ensures_tryCatch ?_ fun _ => ensures_pure fun _ h => h
    exact (keeps_bind (steady_writeV1 _) fun _ => steady_awaitStopped _).ensures
      fun _ _ moved h => h.steady moved
  refine ensures_bind resetHook_ensures fun _ => ?_
  refine ensures_bind (R := fun _ => JustReset) (ensures_modify fun c h => h) fun _ => ?_
  refine ensures_bind
    (R := fun _ (c : Client τ) => ∃ before, c.contacts =
      before ++ [.reset, .heard "Ready".toList, .wrote pingLine, .heard " ok".toList]) ?_
        fun _ => ?_
  · refine ensures_tryCatch (F := fun _ => Uncertain) ?_ fun e => ensures_throw fun c h =>
      ⟨⟨_, rfl⟩, h⟩
    rintro c ⟨uncertain, before, reset⟩
    have standing := uncertain.steady (@steady_verifyV1 _ env client.timeout c)
    have spoken := @contacts_verifyV1 _ env _ client.timeout c reset
    rcases h : exec (verifyV1 env client.timeout) c with ⟨e | a, d⟩
    · rwa [h] at standing
    · rw [h] at spoken
      exact ⟨before, by rw [spoken, List.append_assoc]; rfl⟩
  refine ensures_bind (R := fun _ => Verified) (ensures_modify fun c h => ⟨rfl, rfl, rfl, h⟩)
    fun _ => ?_
  exact ensures_modify fun c h => h

/-- What an exception leaves of a client that was in this mode. -/
def FailsClosed (mode : SessionMode) : Raised → Client τ → Prop
  | .recovery _ true, client => Verified client
  | .recovery _ false, client => Uncertain client
  | _, client => client.mode = mode ∧ client.requests.active = ∅

def Settled (mode : SessionMode) (client : Client τ) : Prop :=
  client.mode = mode ∧ client.requests.active = ∅

def Awaiting (mode : SessionMode) (id : Nat) (client : Client τ) : Prop :=
  client.mode = mode ∧ client.requests.active ⊆ {id}

theorem Awaiting.steady {mode : SessionMode} {id : Nat} {before after : Client τ}
    (moved : Steady before after) (h : Awaiting mode id before) : Awaiting mode id after :=
  ⟨moved.mode.trans h.1, by rw [moved.requests]; exact h.2⟩

theorem Settled.steady {mode : SessionMode} {before after : Client τ}
    (moved : Steady before after) (h : Settled mode before) : Settled mode after :=
  ⟨moved.mode.trans h.1, by rw [moved.requests]; exact h.2⟩

theorem Settled.awaiting {mode : SessionMode} {client : Client τ} (h : Settled mode client)
    (id : Nat) : Awaiting mode id client :=
  ⟨h.1, by rw [h.2]; exact Finset.empty_subset _⟩

theorem recoverFrom_ensures {α : Type} {P : Client τ → Prop} {Q : α → Client τ → Prop}
    {mode : SessionMode} (message : String) :
    Ensures P (recoverFrom env message) Q (FailsClosed mode) := by
  refine ensures_bind (R := fun _ => Verified) ?_ fun _ => ensures_throw fun c h => h
  refine ensures_tryCatch ((recoverToV1_ensures env).weaken (fun _ _ => trivial) (fun _ _ h => h)
    fun _ _ h => h) fun e => ?_
  rintro c ⟨⟨text, rfl⟩, uncertain⟩
  exact uncertain

theorem failRequest_ensures {α : Type} {P : Client τ → Prop} {Q : α → Client τ → Prop}
    {mode : SessionMode} (message : String) :
    Ensures P (failRequest env message) Q (FailsClosed mode) :=
  ensures_bind (R := fun _ _ => True) (ensures_modify fun _ _ => trivial) fun _ =>
    recoverFrom_ensures message

theorem outOfBandStop_ensures (mode : SessionMode) :
    Ensures (fun c => c.mode = mode) (outOfBandStop env) (fun _ => Settled mode)
      (FailsClosed mode) := by
  refine ensures_tryCatch (F := fun _ _ => True) ?_ fun _ => failRequest_ensures _
  refine ensures_bind (R := fun _ (c : Client τ) => c.mode = mode) ?_ fun _ => ?_
  · exact ((steady_writeV1 _).ensures fun _ _ moved h => moved.mode.trans h).weaken
      (fun _ h => h) (fun _ _ h => h) fun _ _ _ => trivial
  refine ensures_bind (R := fun _ (c : Client τ) => c.mode = mode) (fun _ h => h) fun client => ?_
  refine ensures_bind (R := fun _ (c : Client τ) => c.mode = mode) ?_ fun _ => ?_
  · exact ((steady_awaitStopped _).ensures fun _ _ moved h => moved.mode.trans h).weaken
      (fun _ h => h) (fun _ _ h => h) fun _ _ _ => trivial
  · exact ensures_modify fun c h => ⟨h, rfl⟩

theorem checkInterrupt_ensures (mode : SessionMode) (interruptible : Bool) (id : Nat) :
    Ensures (Awaiting mode id) (checkInterrupt env interruptible id) (fun _ => Awaiting mode id)
      (FailsClosed mode) := by
  cases interruptible with
  | false => exact ensures_pure fun _ h => h
  | true =>
    refine ensures_bind (R := fun _ => Awaiting mode id) ?_ fun interrupt => ?_
    · refine ensures_tryCatch (F := fun _ => Awaiting mode id) ?_ fun _ => failRequest_ensures _
      exact (keeps_bind (steady_onWorld _) fun _ => steady_received _).ensures
        fun _ _ moved h => h.steady moved
    refine ensures_bind (R := fun _ => Awaiting mode id) (fun _ h => h) fun late => ?_
    split_ifs
    · exact failRequest_ensures _
    · refine ensures_bind (R := fun _ => Settled mode) ?_ fun _ => ensures_throw fun _ h => h
      exact (outOfBandStop_ensures mode).weaken (fun _ h => h.1) (fun _ _ h => h) fun _ _ h => h
    · exact ensures_pure fun _ h => h

theorem steady_readV2 (crcRequired : Option Bool) (turns : Nat) :
    Keeps Steady (readV2 env crcRequired turns) := by
  refine keeps_bind (steady_readLine _ _) fun line => keeps_bind keeps_get fun client => ?_
  cases parseV2Line line (crcRequired.getD client.crcEnabled) with
  | ok item => exact keeps_pure item
  | error e => exact keeps_throw _

theorem readItem_ensures (mode : SessionMode) (id : Nat) (interruptible : Bool)
    (responseCrc : Option Bool) (turns : Nat) :
    Ensures (Awaiting mode id) (readItem env interruptible responseCrc turns)
      (fun _ => Awaiting mode id) (FailsClosed mode) := by
  refine ensures_tryCatch (F := fun _ => Awaiting mode id) ?_ fun e => ?_
  · exact (keeps_bind (steady_readV2 _ _) fun _ => keeps_pure _).ensures
      fun _ _ moved h => h.steady moved
  cases e with
  | timeout message =>
    dsimp only
    split_ifs
    · refine ensures_bind (R := fun _ => Awaiting mode id) (fun _ h => h) fun late => ?_
      split_ifs
      · exact failRequest_ensures _
      · exact ensures_pure fun _ h => h
    · exact failRequest_ensures _
  | _ => exact failRequest_ensures _

theorem correlate_ensures (mode : SessionMode) (id : Nat) (response : Response) :
    Ensures (Awaiting mode id) (correlate env id response)
      (fun _ c => Awaiting mode id c ∧ (response.terminal = true → c.requests.active = ∅))
      (FailsClosed mode) := by
  refine ensures_tryCatch (F := fun _ _ => True) ?_ fun _ => failRequest_ensures _
  rintro c ⟨standing, only⟩
  rw [exec_bind]
  simp only [track, exec_ofEffect]
  unfold RequestTracker.observe
  by_cases known : response.requestId ∈ c.requests.active
  · rw [if_neg (not_not.mpr known)]
    have own : response.requestId = id := Finset.mem_singleton.mp (only known)
    by_cases terminal : response.terminal = true
    · rw [if_pos terminal]
      simp only [Except.map, own, ne_eq, not_true_eq_false, if_false, exec_pure]
      have emptied : c.requests.active.erase id = ∅ := by
        refine Finset.eq_empty_of_forall_notMem fun n member => ?_
        obtain ⟨other, active⟩ := Finset.mem_erase.mp member
        exact other (Finset.mem_singleton.mp (only active))
      exact ⟨⟨standing, by rw [emptied]; exact Finset.empty_subset _⟩, fun _ => emptied⟩
    · rw [if_neg terminal]
      simp only [Except.map, own, ne_eq, not_true_eq_false, if_false, exec_pure]
      exact ⟨⟨standing, only⟩, fun ended => absurd ended terminal⟩
  · rw [if_pos known]
    split_ifs <;> exact trivial

theorem complete_ensures (mode : SessionMode) (id : Nat) (earlier : List Response)
    (terminal : Response) :
    Ensures (Settled mode) (complete id earlier terminal) (fun _ => Settled (τ := τ) mode)
      (FailsClosed mode) := by
  unfold complete
  dsimp only
  split_ifs
  · exact ensures_pure fun _ h => h
  · refine ensures_bind (R := fun _ => Settled mode) ?_ fun fault => ensures_pure fun _ h => h
    cases Fault.fromResponse terminal with
    | ok fault => exact ensures_pure fun _ h => h
    | error e => exact ensures_throw fun _ h => h

theorem awaitTerminal_ensures (mode : SessionMode) (id : Nat) (poll : Option Nat)
    (responseCrc : Option Bool) (turns : Nat) (responses : List Response) :
    Ensures (Awaiting mode id) (awaitTerminal env id poll responseCrc turns responses)
      (fun _ => Settled mode) (FailsClosed mode) := by
  induction turns generalizing responses with
  | zero => exact failRequest_ensures _
  | succ turns ih =>
    refine ensures_bind (R := fun _ => Awaiting mode id) (fun _ h => h) fun late => ?_
    split_ifs
    · exact failRequest_ensures _
    · refine ensures_bind (checkInterrupt_ensures mode _ id) fun _ => ?_
      refine ensures_bind (readItem_ensures mode id _ _ _) fun item => ?_
      match item with
      | none => exact ih responses
      | some (.event event) =>
        exact ensures_bind (R := fun _ => Awaiting mode id) (ensures_modify fun _ h => h)
          fun _ => ih responses
      | some .stopped => exact failRequest_ensures _
      | some (.response response) =>
        refine ensures_bind (correlate_ensures mode id response) fun _ => ?_
        split_ifs with terminal
        · exact (complete_ensures mode id responses response).weaken
            (fun _ h => ⟨h.1.1, h.2 terminal⟩) (fun _ _ h => h) fun _ _ h => h
        · exact (ih _).weaken (fun _ h => h.1) (fun _ _ h => h) fun _ _ h => h

theorem allocateWithin_active {attempts : Nat} {tracker after : RequestTracker} {id : Nat}
    (allocated : tracker.allocateWithin attempts = some (id, after)) :
    after.active = insert id tracker.active := by
  induction attempts generalizing tracker with
  | zero => cases allocated
  | succ attempts ih =>
    simp only [RequestTracker.allocateWithin] at allocated
    by_cases busy : tracker.next ∈ tracker.active
    · rw [if_pos busy] at allocated
      have active := ih allocated
      exact active
    · rw [if_neg busy] at allocated
      cases allocated
      rfl

theorem track_ensures (mode : SessionMode)
    {f : RequestTracker → Except String (Nat × RequestTracker)}
    (own : ∀ tracker id after, f tracker = .ok (id, after) →
      after.active = insert id tracker.active) :
    Ensures (Settled mode) (track f) (fun id => Awaiting (τ := τ) mode id)
      (FailsClosed mode) := by
  rintro c ⟨standing, empty⟩
  simp only [track, exec_ofEffect]
  rcases h : f c.requests with message | ⟨id, after⟩
  · exact ⟨standing, empty⟩
  · have active := own c.requests id after h
    rw [empty, insert_empty_eq] at active
    exact ⟨standing, active.subset⟩

theorem takeId_ensures (mode : SessionMode) (requestId : Option Int) :
    Ensures (Settled mode) (takeId requestId) (fun id => Awaiting (τ := τ) mode id)
      (FailsClosed mode) := by
  cases requestId with
  | none =>
    refine track_ensures mode fun tracker id after allocated => ?_
    unfold RequestTracker.allocate at allocated
    split at allocated
    · rename_i found
      cases allocated
      exact allocateWithin_active found
    · cases allocated
  | some requestId =>
    refine track_ensures (f := fun tracker => tracker.reserve requestId) mode
      fun tracker id after reserved => ?_
    unfold RequestTracker.reserve at reserved
    split_ifs at reserved
    cases reserved
    rfl

theorem start_ensures (mode : SessionMode) (command : Text) (requestId : Option Int) :
    Ensures (Settled mode) (start env command requestId) (fun id => Awaiting mode id)
      (FailsClosed mode) := by
  refine ensures_bind (R := fun _ => Settled mode) (fun _ h => h) fun client => ?_
  split_ifs
  · exact ensures_throw fun _ h => h
  · refine ensures_bind (takeId_ensures mode requestId) fun id => ?_
    refine ensures_bind (R := fun _ => Awaiting mode id) ?_ fun frame => ?_
    · refine ensures_tryCatch (F := fun e c =>
        Awaiting mode id c ∧ ∃ error, e = .parse error) ?_
        fun e => ?_
      · cases formatRequest id command client.crcEnabled with
        | ok frame => exact ensures_pure fun _ h => h
        | error e => exact ensures_throw fun _ h => ⟨h, e, rfl⟩
      · refine ensures_bind (R := fun _ c => Settled mode c ∧ ∃ error, e = .parse error) ?_
          fun _ => ?_
        · refine ensures_modify fun c h => ⟨⟨h.1.1, ?_⟩, h.2⟩
          refine Finset.eq_empty_of_forall_notMem fun n member => ?_
          obtain ⟨other, active⟩ := Finset.mem_erase.mp member
          exact other (Finset.mem_singleton.mp (h.1.2 active))
        · refine ensures_throw ?_
          rintro c ⟨h, error, rfl⟩
          exact h
    refine ensures_bind (R := fun _ => Awaiting mode id) ?_ fun _ => ensures_pure fun _ h => h
    refine ensures_tryCatch (F := fun _ => Awaiting mode id) ?_ fun _ => failRequest_ensures _
    exact (steady_writeBytes _).ensures fun _ _ moved h => h.steady moved

theorem request_ensures (mode : SessionMode) (arguments : RequestArguments) :
    Ensures (Settled mode) (request env arguments) (fun _ => Settled mode) (FailsClosed mode) := by
  unfold request
  split
  · exact ensures_throw fun _ h => h
  · refine ensures_bind (R := fun _ => Settled mode) (fun _ h => h) fun client => ?_
    split
    · exact ensures_throw fun _ h => h
    · exact ensures_bind (start_ensures mode _ _) fun id => awaitTerminal_ensures mode id _ _ _ _

theorem lift_ensures {α : Type} (mode : SessionMode) (result : Except ProtocolError α) :
    Ensures (Settled mode) (lift result) (fun _ => Settled (τ := τ) mode) (FailsClosed mode) := by
  cases result with
  | ok a => exact ensures_pure fun _ h => h
  | error e => exact ensures_throw fun _ h => h

theorem confirms_ensures (mode : SessionMode) (completion : Completion) (name value : String) :
    Ensures (Settled mode) (confirms completion name value) (fun _ => Settled (τ := τ) mode)
      (FailsClosed mode) := by
  unfold confirms
  split_ifs
  · exact ensures_bind (lift_ensures mode _) fun fields => ensures_pure fun _ h => h
  · exact ensures_pure fun _ h => h

theorem enableCrc_ensures (mode : SessionMode) (requestId : Option Int) :
    Ensures (Settled mode) (enableCrc env requestId) (fun _ => Settled mode)
      (FailsClosed mode) := by
  refine ensures_bind (R := fun _ => Settled mode) (fun _ h => h) fun client => ?_
  split_ifs
  · exact ensures_throw fun _ h => h
  · refine ensures_bind (request_ensures mode _) fun completion => ?_
    refine ensures_bind (confirms_ensures mode _ _ _) fun confirmed => ?_
    split_ifs
    · exact ensures_bind (R := fun _ => Settled mode) (ensures_modify fun _ h => h)
        fun _ => ensures_pure fun _ h => h
    · exact failRequest_ensures _

theorem disableCrc_ensures (mode : SessionMode) (requestId : Option Int) :
    Ensures (Settled mode) (disableCrc env requestId) (fun _ => Settled mode)
      (FailsClosed mode) := by
  refine ensures_bind (R := fun _ => Settled mode) (fun _ h => h) fun client => ?_
  split_ifs
  · exact ensures_throw fun _ h => h
  · refine ensures_bind (request_ensures mode _) fun completion => ?_
    refine ensures_bind (confirms_ensures mode _ _ _) fun confirmed => ?_
    split_ifs
    · exact ensures_bind (R := fun _ => Settled mode) (ensures_modify fun _ h => h)
        fun _ => ensures_pure fun _ h => h
    · exact failRequest_ensures _

theorem rethrow_ensures {α : Type} {P : Client τ → Prop} {Q : α → Client τ → Prop}
    {F : Raised → Client τ → Prop} {mode : SessionMode} {x : ClientM τ α}
    {handler : Raised → ClientM τ α} (body : Ensures P x Q F)
    (through : ∀ message recovered,
      handler (.recovery message recovered) = throw (.recovery message recovered))
    (closed : ∀ message recovered c, F (.recovery message recovered) c →
      FailsClosed mode (.recovery message recovered) c)
    (otherwise : ∀ e, (∀ message recovered, e ≠ .recovery message recovered) →
      Ensures (F e) (handler e) Q (FailsClosed mode)) :
    Ensures P (tryCatch x handler) Q (FailsClosed mode) := by
  refine ensures_tryCatch body fun e => ?_
  by_cases recovery : ∃ message recovered, e = .recovery message recovered
  · obtain ⟨message, recovered, rfl⟩ := recovery
    rw [through]
    exact ensures_throw fun c h => closed message recovered c h
  · exact otherwise e fun message recovered same => recovery ⟨message, recovered, same⟩

theorem leaveV2_ensures (mode : SessionMode) (requestId : Option Int) :
    Ensures (Settled mode) (leaveV2 env requestId) (fun _ => Settled .v1) (FailsClosed mode) := by
  refine ensures_bind (R := fun _ => Settled mode) ?_ fun completion => ?_
  · refine rethrow_ensures ?_ (fun _ _ => rfl) (fun _ _ _ h => h) fun e other => ?_
    · refine ensures_bind (request_ensures mode _) fun completion => ?_
      refine ensures_bind (confirms_ensures mode _ _ _) fun confirmed => ?_
      split_ifs
      · exact ensures_pure fun _ h => h
      · exact ensures_throw fun _ h => h
    · cases e with
      | recovery message recovered => exact absurd rfl (other message recovered)
      | value message => exact ensures_throw fun _ h => h
      | other message => exact ensures_throw fun _ h => h
      | _ => exact recoverFrom_ensures _
  · exact ensures_bind (R := fun _ => Settled .v1) (ensures_modify fun _ _ => ⟨rfl, rfl⟩)
      fun _ => ensures_pure fun _ h => h

def FailsClosedSomewhere (e : Raised) (client : Client τ) : Prop :=
  ∃ mode, FailsClosed mode e client

theorem closed_somewhere (mode : SessionMode) (message : String) (recovered : Bool)
    (client : Client τ) (h : FailsClosedSomewhere (.recovery message recovered) client) :
    FailsClosed mode (.recovery message recovered) client := by
  obtain ⟨other, closed⟩ := h
  cases recovered
  · exact closed
  · exact closed

def isRecovery : Raised → Bool
  | .recovery _ _ => true
  | _ => false

def Plain {α : Type} (x : ClientM τ α) : Prop :=
  Ensures (fun _ => True) x (fun _ _ => True) (fun e _ => isRecovery e = false)

theorem plain_pure {α : Type} (a : α) : Plain (pure a : ClientM τ α) :=
  ensures_pure fun _ _ => trivial

theorem plain_throw {α : Type} {e : Raised} (h : isRecovery e = false) :
    Plain (throw e : ClientM τ α) := ensures_throw fun _ _ => h

theorem plain_bind {α β : Type} {x : ClientM τ β} {f : β → ClientM τ α} (hx : Plain x)
    (hf : ∀ b, Plain (f b)) : Plain (x >>= f) := ensures_bind hx hf

theorem plain_onWorld {α : Type} (f : τ → α × τ) : Plain (onWorld f) := fun _ _ => trivial

theorem plain_received {α : Type} (answer : Except TransportError α) :
    Plain (τ := τ) (received answer) := by
  cases answer with
  | ok a => exact plain_pure a
  | error e => cases e <;> exact plain_throw rfl

theorem plain_writeV1 (command : Text) : Plain (writeV1 env command) := by
  unfold writeV1
  split_ifs
  · exact plain_throw rfl
  · exact plain_throw rfl
  · refine plain_bind (fun _ _ => trivial) fun _ => plain_bind (plain_onWorld _) fun answer => ?_
    refine plain_bind (plain_received answer) fun written => ?_
    cases written with
    | none => exact plain_pure _
    | some written =>
      dsimp only
      split
      · exact plain_throw rfl
      · exact plain_pure _

theorem plain_readLine (v2 : Bool) (turns : Nat) : Plain (readLine env v2 turns) := by
  induction turns with
  | zero => exact plain_throw rfl
  | succ turns ih =>
    refine plain_bind (plain_onWorld _) fun late => ?_
    split
    · exact plain_throw rfl
    · refine plain_bind (plain_onWorld _) fun answer => plain_bind (plain_received answer) ?_
      refine fun chunk => plain_bind (fun _ _ => trivial) fun result => ?_
      match result with
      | none => exact ih
      | some (.error e) => exact plain_throw rfl
      | some (.ok line) => exact plain_bind (fun _ _ => trivial) fun _ => plain_pure _

theorem plain_expectLine (expected : Text) (message : String) (turns : Nat) :
    Plain (expectLine env expected message turns) := by
  refine plain_bind (plain_readLine _ _) fun line => ?_
  split
  · exact plain_throw rfl
  · exact plain_pure _

theorem Plain.settled {α : Type} {x : ClientM τ α} (plain : Plain x) (steady : Keeps Steady x)
    (mode : SessionMode) :
    Ensures (Settled mode) x (fun _ => Settled mode) (FailsClosed mode) := by
  intro c settled
  have moved := settled.steady (steady c)
  have raised := plain c trivial
  rcases h : exec x c with ⟨e | a, d⟩
  · rw [h] at moved raised
    cases e with
    | recovery message recovered => cases raised
    | _ => exact moved
  · rw [h] at moved
    exact moved

theorem v1PingBarrier_ensures (mode : SessionMode) :
    Ensures (Settled mode) (v1PingBarrier env) (fun _ => Settled mode) (FailsClosed mode) := by
  refine ensures_tryCatch (F := fun _ => Settled mode) ?_ fun _ => failRequest_ensures _
  exact (keeps_bind (steady_writeV1 _) fun _ => keeps_bind keeps_get fun client =>
    steady_expectLine _ _ _).ensures fun _ _ moved h => h.steady moved

theorem discoverWithin_ensures (mode : SessionMode) (attempts : Nat) :
    Ensures (Settled mode) (discoverWithin env attempts) (fun _ => Settled mode)
      (FailsClosed mode) := by
  induction attempts with
  | zero => exact ensures_throw fun _ h => h
  | succ attempts ih =>
    refine ensures_bind ((plain_writeV1 _).settled (steady_writeV1 _) mode) fun _ => ?_
    refine ensures_bind (R := fun _ => Settled mode) (fun _ h => h) fun client => ?_
    refine ensures_bind ((plain_readLine _ _).settled (steady_readLine _ _) mode) fun line => ?_
    split_ifs
    · exact ensures_bind (v1PingBarrier_ensures mode) fun _ => ih
    · unfold classifyDiscovery
      split_ifs
      · exact ensures_pure fun _ h => h
      · exact ensures_pure fun _ h => h
      · exact ensures_throw fun _ h => h

theorem discover_ensures (mode : SessionMode) :
    Ensures (Settled mode) (discover env) (fun _ => Settled mode) (FailsClosed mode) := by
  refine rethrow_ensures (discoverWithin_ensures mode 2) (fun _ _ => rfl) (fun _ _ _ h => h) ?_
  intro e other
  cases e with
  | recovery message recovered => exact absurd rfl (other message recovered)
  | _ => exact failRequest_ensures _

theorem somewhere {α : Type} {P : Client τ → Prop} {Q : α → Client τ → Prop}
    {mode : SessionMode}
    {x : ClientM τ α} (h : Ensures P x Q (FailsClosed mode)) :
    Ensures P x Q FailsClosedSomewhere :=
  h.weaken (fun _ h => h) (fun _ _ h => h) fun _ _ h => ⟨mode, h⟩

theorem getProtocolVersion_ensures (mode : SessionMode) :
    Ensures (Settled mode) (getProtocolVersion env) (fun _ => Settled mode)
      (FailsClosed mode) := by
  refine ensures_bind (request_ensures mode _) fun completion => ?_
  split_ifs
  · exact ensures_throw fun _ h => h
  · exact ensures_throw fun _ h => h
  · refine ensures_bind (lift_ensures mode _) fun version => ?_
    split_ifs
    · exact ensures_throw fun _ h => h
    · exact ensures_pure fun _ h => h

theorem getCapabilities_ensures (mode : SessionMode) :
    Ensures (Settled mode) (getCapabilities env) (fun _ => Settled mode) (FailsClosed mode) := by
  refine ensures_bind (request_ensures mode _) fun completion => ?_
  split_ifs
  · exact ensures_throw fun _ h => h
  · exact lift_ensures mode _

theorem getStatus_ensures (mode : SessionMode) :
    Ensures (Settled mode) (getStatus env) (fun _ => Settled mode) (FailsClosed mode) := by
  refine ensures_bind (request_ensures mode _) fun completion => ?_
  split_ifs
  · exact ensures_throw fun _ h => h
  · refine ensures_bind (lift_ensures mode _) fun status => ?_
    exact ensures_bind (R := fun _ => Settled mode) (ensures_modify fun _ h => h)
      fun _ => ensures_pure fun _ h => h

theorem activateKnownAvailable_ensures (mode : SessionMode) :
    Ensures (Settled mode) (activateKnownAvailable env) (fun _ => Settled .v2)
      (FailsClosed mode) := by
  refine rethrow_ensures (F := FailsClosedSomewhere) ?_ (fun _ _ => rfl) (closed_somewhere mode) ?_
  · refine ensures_bind (somewhere ((plain_writeV1 _).settled (steady_writeV1 _) mode)) fun _ => ?_
    refine ensures_bind (R := fun _ => Settled mode) (fun _ h => h) fun client => ?_
    refine ensures_bind
      (somewhere ((plain_expectLine _ _ _).settled (steady_expectLine _ _ _) mode))
      fun _ => ?_
    refine ensures_bind (R := fun _ => Settled .v2) (ensures_modify fun _ _ => ⟨rfl, rfl⟩)
      fun _ => ?_
    refine ensures_bind (somewhere (getProtocolVersion_ensures .v2)) fun _ => ?_
    refine ensures_bind (somewhere (getCapabilities_ensures .v2)) fun _ => ?_
    exact ensures_bind (somewhere (getStatus_ensures .v2)) fun _ => ensures_pure fun _ h => h
  · intro e other
    cases e with
    | recovery message recovered => exact absurd rfl (other message recovered)
    | _ => exact recoverFrom_ensures _

theorem activate_ensures (mode : SessionMode) :
    Ensures (Settled mode) (activate env) (fun _ c => c.requests.active = ∅)
      (FailsClosed mode) := by
  refine ensures_bind (discover_ensures mode) fun available => ?_
  split_ifs
  · exact (activateKnownAvailable_ensures mode).weaken (fun _ h => h) (fun _ _ h => h.2)
      fun _ _ h => h
  · exact ensures_pure fun _ h => h.2

theorem exec_self (client : Client τ) : exec self client = (.ok client, client) := rfl

theorem start_refused {client : Client τ} (inactive : client.mode ≠ .v2) (command : Text)
    (requestId : Option Int) :
    exec (start env command requestId) client =
      (.error (.protocol "v2 request attempted outside an active v2 session"), client) := by
  rw [start, exec_bind, exec_self]
  dsimp only
  rw [if_pos inactive]
  rfl

theorem request_refused {client : Client τ} (inactive : client.mode ≠ .v2)
    (arguments : RequestArguments) :
    ∃ e, exec (request env arguments) client = (.error e, client) := by
  unfold request
  split
  · exact ⟨_, rfl⟩
  · rw [exec_bind, exec_self]
    dsimp only
    split
    · exact ⟨_, rfl⟩
    · rw [exec_bind, start_refused inactive]
      exact ⟨_, rfl⟩

/-- The calls of the client's own interface. -/
inductive Call
  | activate
  | request (arguments : RequestArguments)
  | enableCrc (requestId : Option Int)
  | disableCrc (requestId : Option Int)
  | leaveV2 (requestId : Option Int)
  | outOfBandStop
  deriving DecidableEq

def perform (env : Environment τ) : Call → ClientM τ Unit
  | .activate => do
    let _ ← activate env
  | .request arguments => do
    let _ ← request env arguments
  | .enableCrc requestId => do
    let _ ← enableCrc env requestId
  | .disableCrc requestId => do
    let _ ← disableCrc env requestId
  | .leaveV2 requestId => do
    let _ ← leaveV2 env requestId
  | .outOfBandStop => outOfBandStop env

/-- The client after these calls; one that raises leaves the client as it is then. -/
def afterCalls (env : Environment τ) (client : Client τ) (calls : List Call) : Client τ :=
  calls.foldl (fun client call => (exec (perform env call) client).2) client

theorem perform_ensures (mode : SessionMode) (call : Call) :
    Ensures (Settled mode) (perform env call) (fun _ c => c.requests.active = ∅)
      (FailsClosed mode) := by
  cases call with
  | activate => exact ensures_bind (activate_ensures mode) fun _ => ensures_pure fun _ h => h
  | request arguments =>
    exact ensures_bind (request_ensures mode _) fun _ => ensures_pure fun _ h => h.2
  | enableCrc requestId =>
    exact ensures_bind (enableCrc_ensures mode _) fun _ => ensures_pure fun _ h => h.2
  | disableCrc requestId =>
    exact ensures_bind (disableCrc_ensures mode _) fun _ => ensures_pure fun _ h => h.2
  | leaveV2 requestId =>
    exact ensures_bind (leaveV2_ensures mode _) fun _ => ensures_pure fun _ h => h.2
  | outOfBandStop =>
    exact (outOfBandStop_ensures mode).weaken (fun _ h => h.1) (fun _ _ h => h.2) fun _ _ h => h

theorem FailsClosed.active {mode : SessionMode} {e : Raised} {client : Client τ}
    (h : FailsClosed mode e client) : client.requests.active = ∅ := by
  cases e with
  | recovery message recovered =>
    cases recovered
    · exact h.2
    · exact h.2.2.1
  | _ => exact h.2

theorem perform_active {client : Client τ} (idle : client.requests.active = ∅) (call : Call) :
    (exec (perform env call) client).2.requests.active = ∅ := by
  have ensured := @perform_ensures _ env client.mode call client ⟨rfl, idle⟩
  rcases h : exec (perform env call) client with ⟨e | a, after⟩
  · rw [h] at ensured
    exact ensured.active
  · rw [h] at ensured
    exact ensured

theorem afterCalls_active {client : Client τ} (idle : client.requests.active = ∅)
    (calls : List Call) : (afterCalls env client calls).requests.active = ∅ := by
  induction calls generalizing client with
  | nil => exact idle
  | cons call calls ih => exact ih (perform_active idle call)

/-- Whatever the transport does, after any calls: a call that raises a recovery leaves a
verified v1 session or one that refuses every request unwritten, and a call that raises
anything else leaves the mode; none leaves a request active. -/
theorem calls_failClosed (env : Environment τ) (timeout : Duration) (world : τ)
    (client : Client τ) (created : Client.new timeout world = .ok client) (calls : List Call)
    (call : Call) (e : Raised) (after : Client τ)
    (raised : exec (perform env call) (afterCalls env client calls) = (.error e, after)) :
    FailsClosed (afterCalls env client calls).mode e after ∧
      (∀ message, e = .recovery message false →
        ∀ arguments, ∃ refusal, exec (request env arguments) after =
          (.error refusal, after)) := by
  have fresh : client.requests.active = ∅ := by
    unfold Client.new at created
    split at created
    · cases created
    · cases created
      rfl
  have ensured := @perform_ensures _ env (afterCalls env client calls).mode call _
    ⟨rfl, afterCalls_active fresh calls⟩
  rw [raised] at ensured
  refine ⟨ensured, ?_⟩
  rintro message rfl arguments
  have uncertain : after.mode = .uncertain := ensured.1
  exact request_refused (by rw [uncertain]; decide) arguments

def closedPort : Environment Unit where
  write _ _ := (.error (.other "port is closed"), ())
  read _ := (.error (.other "port is closed"), ())
  reset := none
  late _ := (false, ())
  interruptRequested _ := (.ok false, ())
  onEvent _ _ _ := ()
  onRecovery _ := ()

def unconnected : Client Unit := ⟨20, .initial, .v1, false, .new, .new, none, (), []⟩

def brokenStop : Except Raised Unit × Client Unit :=
  exec (perform closedPort .outOfBandStop) (afterCalls closedPort unconnected [.activate])

theorem brokenStop_raised : brokenStop =
    (.error (.recovery "out-of-band stop was unsafe; v1 recovery failed" false), brokenStop.2) := by
  refine Prod.ext ?_ rfl
  decide +kernel

theorem calls_failClosed_brokenStop :
    Uncertain brokenStop.2 ∧ ∀ arguments, ∃ refusal,
      exec (request closedPort arguments) brokenStop.2 = (.error refusal, brokenStop.2) :=
  have ⟨closed, refuses⟩ :=
    calls_failClosed closedPort (.units 20) () unconnected rfl [.activate]
    .outOfBandStop _ _ brokenStop_raised
  ⟨closed, refuses _ rfl⟩

end CaseSorter.Host.Client
