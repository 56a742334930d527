import CaseSorter.Daemon.Api
import CaseSorter.Daemon.Settlements

/-! The confinement of the machine role. A call of the domain carries the role its request
claims, which agrees with the credential the request presents; and every row of the journal
keeps the actor and the action of the call it was made for. -/

namespace CaseSorter.Daemon

open CaseSorter.Actions CaseSorter.Runs

def Request.action : Request → OperationAction
  | .submit action _ _ => action
  | .stop _ => .stop
  | .connect _ => .connect
  | .recover _ => .recover
  | .configure _ _ => .configure

namespace Api

theorem requireToken_eq_ok {value name token : String} (h : requireToken value name = .ok token) :
    token = value := by
  unfold requireToken at h
  split_ifs at h
  cases h
  rfl

theorem actor_role {userId role : String} {actor : Actor}
    (h : Actor.new userId role = .ok actor) : actor.role = role := by
  obtain ⟨_, _, h⟩ := bind_eq_ok h
  obtain ⟨_, named, h⟩ := bind_eq_ok h
  cases h
  exact requireToken_eq_ok named

/-- What is known of the actor of a command. -/
structure Commands (payload : Fields) (identity : ServiceIdentity) (command : String)
    (actor : Actor) : Prop where
  claimed : ∃ supplied, get payload "actor" = some (.dict supplied) ∧
    field supplied "role" = .str actor.role
  commanding : actor.role ∈ commandingRoles
  agrees : actor.role = machineRole ↔ identity = .machine
  sorts : actor.role = machineRole → command = OperationAction.sort.value

theorem commandingActor_commands {lib : Library} {payload : Fields} {identity : ServiceIdentity}
    {command : String} {actor : Actor}
    (h : commandingActor lib payload identity command = .ok actor) :
    Commands payload identity command actor := by
  unfold commandingActor at h
  split at h
  · rename_i supplied given
    split_ifs at h
    · cases h
    · split at h
      · rename_i role claimed
        split_ifs at h with unknown disagrees other passive
        all_goals try cases h
        split at h
        · rename_i made
          cases h
          have same := actor_role made
          simp only [ne_eq, not_not, decide_eq_decide] at disagrees
          simp only [not_and, not_not] at other passive
          rw [← same] at claimed disagrees other passive
          exact ⟨⟨supplied, given, claimed⟩, passive, disagrees, other⟩
        · cases h
      · cases h
      · cases h
      · cases h
  · cases h

/-- The role that the body of a request claims for its actor. -/
def claimedRole (lib : Library) (http : HttpRequest) : Option Json :=
  match readBody http with
  | .error _ => none
  | .ok body =>
    match lib.loads body with
    | .ok (.dict payload) =>
      match get payload "actor" with
      | some (.dict supplied) => get supplied "role"
      | _ => none
    | _ => none

theorem jsonObject_loads {lib : Library} {body : List UInt8} {payload : Fields}
    (h : jsonObject lib body = .ok payload) : lib.loads body = .ok (.dict payload) := by
  unfold jsonObject at h
  split_ifs at h
  · cases h
  · split at h
    · cases h
    · cases h
    · split at h
      · split_ifs at h
        · cases h
          assumption
        · cases h
      · cases h
    · cases h

def Reads (lib : Library) (body : List UInt8) (identity : ServiceIdentity) (c : DomainCall) :
    Prop :=
  ∃ payload, lib.loads body = .ok (.dict payload) ∧
    Commands payload identity c.request.action.value c.actor

theorem sessionCommand_name {path : String} {payload : Fields} {generation : Nat}
    {request : Request} (session : path ∈ sessionPaths)
    (h : sessionCommand path payload generation = .ok request) :
    commandAction path = none ∧ commandName path none = request.action.value := by
  simp only [sessionPaths, List.mem_cons, List.not_mem_nil, or_false] at session
  rcases session with rfl | rfl
  · obtain ⟨_, _, h⟩ := bind_eq_ok h
    cases h
    exact ⟨by decide, rfl⟩
  · unfold sessionCommand at h
    rw [if_neg (by decide)] at h
    obtain ⟨_, _, h⟩ := bind_eq_ok h
    split_ifs at h
    · cases h
    · cases h
      exact ⟨by decide, rfl⟩

theorem command_reads {lib : Library} {path : String} {headers : Headers} {body : List UInt8}
    {identity : ServiceIdentity} {c : DomainCall}
    (h : command lib path headers body identity = .ok c) : Reads lib body identity c := by
  unfold command at h
  dsimp only at h
  by_cases absent : commandAction path = none ∧ path ∉ sessionPaths ∧
    path ≠ "/v1/machine/stop"
  · rw [if_pos absent] at h
    cases h
  · rw [if_neg absent] at h
    obtain ⟨payload, loaded, h⟩ := bind_eq_ok h
    obtain ⟨actor, named, h⟩ := bind_eq_ok h
    obtain ⟨key, _, h⟩ := bind_eq_ok h
    obtain ⟨deadline, _, h⟩ := bind_eq_ok h
    have commands := commandingActor_commands named
    refine ⟨payload, jsonObject_loads loaded, ?_⟩
    split_ifs at h with session
    · obtain ⟨generation, _, h⟩ := bind_eq_ok h
      obtain ⟨request, made, h⟩ := bind_eq_ok h
      cases h
      obtain ⟨unlisted, name⟩ := sessionCommand_name session made
      rw [unlisted, name] at commands
      exact commands
    · split at h
      · rename_i unlisted
        obtain ⟨_, _, h⟩ := bind_eq_ok h
        obtain ⟨generation, _, h⟩ := bind_eq_ok h
        cases h
        simp only [sessionPaths, List.mem_cons, List.not_mem_nil, or_false, not_or] at session
        rw [unlisted, commandName, if_neg session.1, if_neg session.2] at commands
        exact commands
      · rename_i action listed
        obtain ⟨values, _, h⟩ := bind_eq_ok h
        obtain ⟨generation, _, h⟩ := bind_eq_ok h
        cases h
        rw [listed] at commands
        exact commands

theorem configure_reads {lib : Library} {headers : Headers} {body : List UInt8}
    {identity : ServiceIdentity} {c : DomainCall}
    (h : configure lib headers body identity = .ok c) : Reads lib body identity c := by
  obtain ⟨payload, loaded, h⟩ := bind_eq_ok h
  obtain ⟨actor, named, h⟩ := bind_eq_ok h
  obtain ⟨_, _, h⟩ := bind_eq_ok h
  have commands := commandingActor_commands named
  split at h
  · obtain ⟨changes, _, h⟩ := bind_eq_ok h
    obtain ⟨key, _, h⟩ := bind_eq_ok h
    obtain ⟨generation, _, h⟩ := bind_eq_ok h
    obtain ⟨deadline, _, h⟩ := bind_eq_ok h
    cases h
    exact ⟨payload, jsonObject_loads loaded, commands⟩
  · cases h

/-- What a request that becomes a call has shown: the credential, and the role it claims. -/
structure Confined (api : ApiServer) (lib : Library) (http : HttpRequest) (c : DomainCall) :
    Prop where
  machine : c.actor.role = machineRole ↔
    api.authenticate (messageGet http.headers "authorization") = .ok .machine
  sorts : c.actor.role = machineRole → c.request.action = .sort
  commanding : c.actor.role ∈ commandingRoles
  claimed : claimedRole lib http = some (.str c.actor.role)

theorem value_sort {action : OperationAction} (h : action.value = OperationAction.sort.value) :
    action = .sort := by
  cases action <;> first | rfl | exact absurd h (by decide)

theorem dispatch_confined {api : ApiServer} {lib : Library} {http : HttpRequest} {c : DomainCall}
    (h : api.dispatch lib http = .ok (.call c)) : Confined api lib http c := by
  obtain ⟨identity, presented, h⟩ := bind_eq_ok h
  obtain ⟨body, read, h⟩ := bind_eq_ok h
  split at h
  · cases h
  · have reads : Reads lib body identity c := by
      unfold route at h
      split_ifs at h
      · obtain ⟨c', made, same⟩ := map_eq_ok h
        cases same
        exact command_reads made
      · obtain ⟨c', made, same⟩ := map_eq_ok h
        cases same
        exact configure_reads made
      · obtain ⟨c', made, same⟩ := map_eq_ok h
        cases same
    obtain ⟨payload, loaded, commands⟩ := reads
    obtain ⟨supplied, given, role⟩ := commands.claimed
    refine ⟨?_, fun machine => value_sort (commands.sorts machine), commands.commanding, ?_⟩
    · rw [presented, commands.agrees, Except.ok.injEq]
    · simp only [claimedRole, read, loaded, given]
      unfold field at role
      cases found : get supplied "role" with
      | none =>
        rw [found] at role
        cases role
      | some value =>
        rw [found] at role
        exact congrArg some role

end Api

theorem Commits.attributed {P : Db → JournalWrite → Prop} {db db' : Db} (h : Commits P db db')
    {row : OperationRecord} (member : row ∈ db'.operations) :
    (∃ old ∈ db.operations, old.operationId = row.operationId ∧ old.actor = row.actor ∧
        old.action = row.action) ∨
      ∃ mid operation reason key, P mid (.admission operation reason key) ∧
        operation.actor = row.actor ∧ operation.action = row.action := by
  induction h generalizing row with
  | refl => exact .inl ⟨row, member, rfl, rfl, rfl⟩
  | tail _ last ih =>
    obtain ⟨w, allowed, changed⟩ := last
    cases w with
    | admission operation reason key =>
      rw [(changes_admission changed).2.1] at member
      rcases List.mem_append.mp member with old | new
      · exact ih old
      · cases List.mem_singleton.mp new
        exact .inr ⟨_, _, _, _, allowed, rfl, rfl⟩
    | transition t =>
      obtain ⟨current, forward, trusted, read, -, replaced, -⟩ := changes_transition changed
      rw [replaced, Db.replaceOperation, List.mem_map] at member
      obtain ⟨old, among, moved⟩ := member
      split_ifs at moved with own
      · subst moved
        have old := @ih current (List.mem_of_find?_eq_some read)
        exact old
      · subst moved
        exact ih among
    | configuration snapshot =>
      rw [(changes_configuration changed).1] at member
      exact ih member
    | prune moment =>
      rw [(changes_prune changed).1] at member
      exact ih member

namespace System

/-- Every row that is not old, and every call on its way to the journal, has an actor and
an action that `Q` allows. -/
structure Attributed (Q : Actor → OperationAction → Prop) (old : Db) (s : System) : Prop where
  threads : ∀ caller p, .admitting caller p ∈ s.api → Q caller.actor p.action
  rows : ∀ row ∈ s.domain.db.operations,
    row.operationId ∈ old.operationIds ∨ Q row.actor row.action

theorem prepare_action {request : Request} {caller : Caller} {p : Prepared} {d d' : Domain}
    (h : exec (request.prepare caller) d = (.ok p, d')) : p.action = request.action := by
  cases request with
  | submit action body expected =>
    obtain ⟨intent, _, -, h⟩ := exec_bind_eq_ok.mp h
    obtain ⟨window, _, -, h⟩ := exec_bind_eq_ok.mp h
    cases h
    rfl
  | stop expected | connect expected | recover expected =>
    obtain ⟨window, _, -, h⟩ := exec_bind_eq_ok.mp h
    cases h
    rfl
  | configure changes expected =>
    obtain ⟨window, _, -, h⟩ := exec_bind_eq_ok.mp h
    obtain ⟨⟨current, _, _⟩, _, -, h⟩ := exec_bind_eq_ok.mp h
    obtain ⟨candidate, _, -, h⟩ := exec_bind_eq_ok.mp h
    cases h
    rfl

theorem grants_admission {s : System} {e : SystemEvent} {db : Db} {operation : OperationRecord}
    {reason : String} {key : Option IdempotencyRecord}
    (h : s.grants e db (.admission operation reason key)) :
    ∃ caller p, .admitting caller p ∈ s.api ∧ operation.actor = caller.actor ∧
      operation.action = p.action := by
  cases e with
  | api k now =>
    cases at_k : s.api[k]? with
    | none =>
      simp only [grants, at_k] at h
      exact h.elim
    | some a =>
      simp only [grants, at_k] at h
      cases a with
      | admitting caller p =>
        cases h with
        | admission new action own key fingerprint actor =>
          exact ⟨caller, p, List.mem_of_getElem? at_k, actor, action⟩
      | _ => exact h.elim
  | task now =>
    rcases owed : s.tasks with _ | ⟨task, rest⟩
    · simp only [grants, owed] at h
      exact h.elim
    · simp only [grants, owed] at h
      cases task <;> exact h.elim
  | dispatch now =>
    cases gate : gated s.worker with
    | none =>
      simp only [grants, gate] at h
      exact h.elim
    | some operation =>
      simp only [grants, gate] at h
      exact h.elim
  | prune now => cases h
  | _ => exact h.elim

theorem Attributed.step {Q : Actor → OperationAction → Prop} {old : Db} {s t : System}
    {e : SystemEvent} (h : Attributed Q old s)
    (asked : ∀ request caller, e = .call request caller → Q caller.actor request.action)
    (step : s.step e = some t) : Attributed Q old t where
  threads caller p member := by
    have steps := step_steps step
    rcases steps.thread_new member with before | ⟨request, _, _, d, call, same, made⟩ | past
    · exact h.threads caller p before
    · cases same
      rw [prepare_action made]
      exact asked _ _ call
    · exact absurd rfl (past caller p)
  rows row member := by
    have commits := (step_steps step).advances.commits
    have before : (served s.domain e).db = s.domain.db := by cases e <;> rfl
    rw [before] at commits
    rcases commits.attributed member with ⟨r, among, same, actor, action⟩ |
        ⟨mid, operation, reason, key, granted, actor, action⟩
    · rw [← same, ← actor, ← action]
      exact h.rows r among
    · obtain ⟨caller, p, running, own, done⟩ := grants_admission granted
      rw [← actor, ← action, own, done]
      exact .inr (h.threads caller p running)

end System

namespace Api

theorem Confined.notViewer {api : ApiServer} {lib : Library} {http : HttpRequest}
    {c : DomainCall} (h : Confined api lib http c) :
    claimedRole lib http ≠ some (.str "viewer") := by
  intro viewer
  have role : c.actor.role = "viewer" :=
    Json.Value.str.inj (Option.some.inj (h.claimed.symm.trans viewer))
  have commanding := h.commanding
  rw [role] at commanding
  exact absurd commanding (by decide)

/-- A call of the daemon is the one call that a request over HTTP becomes. -/
def Serves (api : ApiServer) (lib : Library) (http : HttpRequest) (request : Request)
    (caller : Caller) : Prop :=
  api.dispatch lib http = .ok (.call ⟨request, caller.actor, caller.idempotencyKey,
    caller.deadlineMs⟩)

theorem machineRole_confined (api : ApiServer) (lib : Library) (policy : Policy) (db : Db)
    (nextId now : Nat) (appliedHistory : List ConfigurationValues) (capacity attempts : Nat)
    (pos : 0 < capacity) {events : List SystemEvent} {t : System}
    (served : ∀ request caller, .call request caller ∈ events →
      ∃ http, Serves api lib http request caller)
    (ran : run System.step
      (System.new policy db nextId now appliedHistory capacity attempts pos) events = some t) :
    (∀ http c, api.dispatch lib http = .ok (.call c) →
      Confined api lib http c ∧ claimedRole lib http ≠ some (.str "viewer")) ∧
    ∀ row ∈ t.domain.db.operations, row.operationId ∉ db.operationIds →
      ∃ request caller http, .call request caller ∈ events ∧
        Serves api lib http request caller ∧
        row.actor = caller.actor ∧ row.action = request.action := by
  refine ⟨fun http c called =>
    ⟨dispatch_confined called, (dispatch_confined called).notViewer⟩,
    fun row member new => ?_⟩
  let allowed (actor : Actor) (action : OperationAction) : Prop :=
    ∃ request caller, .call request caller ∈ events ∧ actor = caller.actor ∧
      action = request.action
  have start : System.Attributed allowed db
      (System.new policy db nextId now appliedHistory capacity attempts pos) :=
    ⟨fun caller p member => absurd member List.not_mem_nil, fun row member =>
      .inl (List.mem_map_of_mem member)⟩
  have attributed := @run_invariant _ _ _ (fun _ e => e ∈ events) (System.Attributed allowed db)
    (fun s e t h called step => System.Attributed.step h
      (fun request caller is => ⟨request, caller, is ▸ called, rfl, rfl⟩) step)
    _ _ _ start (meets_of_forall (fun _ e among => among) _) ran
  rcases attributed.rows row member with before | ⟨request, caller, called, actor, action⟩
  · exact absurd before new
  · obtain ⟨http, serves⟩ := served request caller called
    exact ⟨request, caller, http, called, serves, actor, action⟩

def installed : ApiServer := ⟨"service", some "vision", by decide, by decide⟩

def machineBody : List UInt8 :=
  ("\x7b\"api_version\":\"v1\",\"actor\":\x7b\"user_id\":\"vision\",\"role\":\"machine\"\x7d," ++
    "\"slot\":3\x7d").toList.map fun c => UInt8.ofNat c.toNat

/-- The library on the one body of `machineSort`. -/
def library : Library where
  loads body :=
    if body = machineBody then
      .ok (.dict [("api_version", .str "v1"),
        ("actor", .dict [("user_id", .str "vision"), ("role", .str "machine")]), ("slot", .int 3)])
    else .error .valueError
  str
    | .str value => value
    | _ => ""
  urlsplit target := some (target, [])

def machineSort : HttpRequest where
  method := "POST"
  target := "/v1/operations/sort"
  headers := [("Authorization", "Bearer vision"), ("Content-Length", "1000"),
    ("Idempotency-Key", "autonomous-sort-3"), ("If-Match-Generation", "6"),
    ("X-Deadline-Ms", "1000")]
  stream := machineBody

def machineCaller : Caller :=
  ⟨⟨"vision", "machine"⟩, "autonomous-sort-3", "sort", 1000, 0, none⟩

theorem machineSort_served : Serves installed library machineSort
    (.submit .sort [("slot", .int 3)] 6) machineCaller := by
  unfold Serves
  with_unfolding_all rfl

def machineSorted : List SystemEvent :=
  [.start, .thread .go, .task 0, .thread .opened, .thread .go, .task 0, .thread .verified,
    .thread .go, .task 0,
    .thread
    (.profile ⟨⟨2, 7, 8, 2, true, true, true⟩, ⟨false, true, 0, "recovering", "idle"⟩⟩),
    .task 0, .thread .go, .task 0, .thread .go,
    .call (.submit .sort [("slot", .int 3)] 6) machineCaller, .api 0 1]

theorem machineRole_confined_sort :
    ∃ row ∈ (runD System.step System.emptyDaemon machineSorted).domain.db.operations,
      row.actor.role = machineRole ∧
      ∃ request caller http, .call request caller ∈ machineSorted ∧
        Serves installed library http request caller ∧
        row.actor = caller.actor ∧ row.action = request.action := by
  have ran : run System.step (System.new {} .empty 0 0 [] 16 1 (by decide)) machineSorted =
      some (runD System.step System.emptyDaemon machineSorted) := run_eq_runD (by decide +kernel)
  have served : ∀ request caller, .call request caller ∈ machineSorted →
      ∃ http, Serves installed library http request caller := by
    intro request caller called
    simp only [machineSorted, List.mem_cons, reduceCtorEq, SystemEvent.call.injEq, false_or,
      or_false, List.not_mem_nil] at called
    rw [called.1, called.2]
    exact ⟨machineSort, machineSort_served⟩
  have confined := (machineRole_confined installed library {} .empty 0 0 [] 16 1 (by decide) served
    ran).2
  obtain ⟨row, only, role⟩ : ∃ row,
      (runD System.step System.emptyDaemon machineSorted).domain.db.operations = [row] ∧
        row.actor.role = machineRole :=
    ⟨(runD System.step System.emptyDaemon machineSorted).domain.db.operations.get
      ⟨0, by decide +kernel⟩, by decide +kernel, by decide +kernel⟩
  have member := only ▸ List.mem_singleton_self row
  exact ⟨row, member, role, confined row member List.not_mem_nil⟩

end Api

end CaseSorter.Daemon
