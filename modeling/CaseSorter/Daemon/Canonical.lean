import Mathlib.Algebra.Group.Int.Defs
import CaseSorter.Lib.Json
import CaseSorter.Daemon.Machine

/-! The canonical text of a request, which its fingerprint is taken of: two accepted requests
share it exactly when they are the same request. -/

namespace CaseSorter.Daemon

open CaseSorter.Json CaseSorter.Mappings

def maxBodyFields : Nat := 16

def maxBodyStringLength : Nat := 128

/-- `[a-z][a-z0-9_]*`. -/
def isBodyField (name : String) : Bool :=
  match name.toList with
  | [] => false
  | c :: cs => c.isLower && cs.all fun d => d.isLower || d.isDigit || d == '_'

def requireBodyValue (name : String) : BodyValue → Except Raised BodyValue
  | .null => .ok .null
  | .bool b => .ok (.bool b)
  | .int i =>
    if -2 ^ 31 ≤ i ∧ i < 2 ^ 31 then .ok (.int i)
    else .error (.validation s!"request body field '{name}' is out of range")
  | .text s =>
    if s.toList.length > maxBodyStringLength then
      .error (.validation s!"request body field '{name}' is too long")
    else .ok (.text s)

/-- A request body as a mapping: no name has two values. -/
structure BodyMapping where
  items : RequestBody
  keyed : Keyed items

def BodyMapping.get (body : BodyMapping) (name : String) : Option BodyValue :=
  body.items.lookup name

def BodyValue.json : BodyValue → Floatless
  | .null => .null
  | .bool b => .bool b
  | .int i => .int i
  | .text s => .str s.toList

def encodeField (field : String × BodyValue) : Except Raised (String × Floatless) :=
  if !isBodyField field.1 then
    .error (.validation s!"request body field '{field.1}' is not lower_snake_case")
  else (requireBodyValue field.1 field.2).map fun value => (field.1, value.json)

def actorJson (actor : Actor) : Floatless :=
  .dict (named [("user_id", .str actor.userId.toList), ("role", .str actor.role.toList)])

def requestJson (action : OperationAction) (encoded : List (String × Floatless)) (actor : Actor) :
    Floatless :=
  .dict (named [("action", .str action.value.toList),
    ("actor", actorJson actor), ("body", .dict (named encoded))])

/-- The canonical encoding two requests must share to be equivalent. -/
def canonicalRequest (action : OperationAction) (body : BodyMapping) (actor : Actor) :
    Except Raised Text :=
  if body.items.length > maxBodyFields then
    .error (.validation s!"request body must have at most {maxBodyFields} fields")
  else (body.items.mapM encodeField).map fun encoded => canonical (requestJson action encoded actor)

def requestFingerprint (sha256 : Text → String) (action : OperationAction) (body : BodyMapping)
    (actor : Actor) : Except Raised String :=
  (canonicalRequest action body actor).map sha256

def encoded (body : BodyMapping) : List (String × Floatless) :=
  body.items.map fun f => (f.1, f.2.json)

theorem requireBodyValue_ok {name : String} {value kept : BodyValue}
    (h : requireBodyValue name value = .ok kept) : kept = value := by
  cases value with
  | null => cases h; rfl
  | bool b => cases h; rfl
  | int i =>
    rw [requireBodyValue] at h
    split_ifs at h
    cases h
    rfl
  | text s =>
    rw [requireBodyValue] at h
    split_ifs at h
    cases h
    rfl

theorem encodeField_ok {field : String × BodyValue} {member : String × Floatless}
    (h : encodeField field = .ok member) : member = (field.1, field.2.json) := by
  unfold encodeField at h
  split_ifs at h
  cases kept : requireBodyValue field.1 field.2 with
  | error e =>
    rw [kept] at h
    cases h
  | ok value =>
    rw [kept] at h
    cases h
    rw [requireBodyValue_ok kept]

theorem mapM_encodeField {items : RequestBody} {members : List (String × Floatless)}
    (h : items.mapM encodeField = .ok members) : members = items.map fun f => (f.1, f.2.json) := by
  induction items generalizing members with
  | nil =>
    cases h
    rfl
  | cons field rest ih =>
    rw [List.mapM_cons] at h
    cases first : encodeField field with
    | error e =>
      rw [first] at h
      cases h
    | ok member =>
      cases others : rest.mapM encodeField with
      | error e =>
        rw [first, others] at h
        cases h
      | ok tail =>
        rw [first, others] at h
        cases h
        rw [encodeField_ok first, ih others, List.map_cons]

theorem canonicalRequest_ok {action : OperationAction} {body : BodyMapping} {actor : Actor}
    {text : Text} (h : canonicalRequest action body actor = .ok text) :
    text = canonical (requestJson action (encoded body) actor) := by
  unfold canonicalRequest at h
  split_ifs at h
  cases members : body.items.mapM encodeField with
  | error e =>
    rw [members] at h
    cases h
  | ok kept =>
    rw [members] at h
    cases h
    rw [mapM_encodeField members, encoded]

theorem encoded_keyed (body : BodyMapping) : Keyed (encoded body) := by
  have names : (encoded body).map Prod.fst = body.items.map Prod.fst := by
    rw [encoded, List.map_map]
    rfl
  rw [Keyed, names]
  exact body.keyed

theorem lookup_encoded (body : BodyMapping) (name : String) :
    (encoded body).lookup name = (body.get name).map BodyValue.json :=
  lookup_map _ _

theorem json_injective : Function.Injective fun value : BodyValue => sortKeys value.json := by
  intro a b same
  cases a <;> cases b <;> simp_all [BodyValue.json, sortKeys, String.toList_inj]

theorem body_iff {body body' : BodyMapping} :
    sortKeys (.dict (named (encoded body))) = sortKeys (.dict (named (encoded body'))) ↔
      ∀ name, body.get name = body'.get name := by
  rw [sortKeys_named_iff (encoded_keyed body) (encoded_keyed body')]
  refine forall_congr' fun name => ?_
  rw [lookup_encoded, lookup_encoded, Option.map_map, Option.map_map]
  exact (Option.map_injective json_injective).eq_iff

theorem value_injective : Function.Injective OperationAction.value := by
  intro a b
  cases a <;> cases b <;> decide

theorem text_iff {s t : String} :
    sortKeys (.str s.toList) = sortKeys (.str t.toList) ↔ s = t := by
  rw [sortKeys, sortKeys, Value.str.injEq, String.toList_inj]

theorem actor_iff {actor actor' : Actor} :
    sortKeys (actorJson actor) = sortKeys (actorJson actor') ↔ actor = actor' := by
  rw [actorJson, actorJson, sortKeys_cons_iff (by simp [Keyed]) (by simp [Keyed]),
    sortKeys_cons_iff (by simp [Keyed]) (by simp [Keyed]), text_iff,
    text_iff]
  constructor
  · rintro ⟨user, role, -⟩
    cases actor
    cases actor'
    rw [Actor.mk.injEq]
    exact ⟨user, role⟩
  · rintro rfl
    exact ⟨rfl, rfl, rfl⟩

theorem request_iff {action action' : OperationAction}
    {members members' : List (String × Floatless)}
    {actor actor' : Actor} :
    canonical (requestJson action members actor) =
        canonical (requestJson action' members' actor') ↔
      action = action' ∧ actor = actor' ∧
        sortKeys (.dict (named members)) = sortKeys (.dict (named members')) := by
  rw [canonical_iff, requestJson, requestJson,
    sortKeys_cons_iff (by simp [Keyed]) (by simp [Keyed]),
    sortKeys_cons_iff (by simp [Keyed]) (by simp [Keyed]),
    sortKeys_cons_iff (by simp [Keyed]) (by simp [Keyed]), text_iff,
    value_injective.eq_iff, actor_iff]
  exact and_congr_right fun _ => and_congr_right fun _ => and_iff_left rfl

/-- Two accepted requests have one canonical text exactly when their actions are equal, their
actors are equal and their bodies are equal as mappings. -/
theorem canonicalRequest_same {action action' : OperationAction} {body body' : BodyMapping}
    {actor actor' : Actor} {text text' : Text}
    (accepted : canonicalRequest action body actor = .ok text)
    (accepted' : canonicalRequest action' body' actor' = .ok text') :
    text = text' ↔
      action = action' ∧ actor = actor' ∧ ∀ name, body.get name = body'.get name := by
  rw [canonicalRequest_ok accepted, canonicalRequest_ok accepted', request_iff, body_iff]

theorem canonicalRequest_same_either_order :
    canonicalRequest .sort ⟨[("slot", .int 3), ("lot", .text "a\"b")], by decide⟩
        ⟨"amy", "operator"⟩ =
      canonicalRequest .sort ⟨[("lot", .text "a\"b"), ("slot", .int 3)], by decide⟩
        ⟨"amy", "operator"⟩ := by
  have accepted (body : BodyMapping) (members : List (String × Floatless))
      (h : body.items.mapM encodeField = .ok members) (few : ¬body.items.length > maxBodyFields) :
      ∃ text, canonicalRequest .sort body ⟨"amy", "operator"⟩ = .ok text := by
    rw [canonicalRequest, if_neg few, h]
    exact ⟨_, rfl⟩
  obtain ⟨text, first⟩ :=
    accepted ⟨[("slot", .int 3), ("lot", .text "a\"b")], by decide⟩ _ rfl
    (by decide)
  obtain ⟨text', second⟩ :=
    accepted ⟨[("lot", .text "a\"b"), ("slot", .int 3)], by decide⟩ _ rfl
    (by decide)
  rw [first, second]
  refine congrArg Except.ok ((canonicalRequest_same first second).mpr ⟨rfl, rfl, ?_⟩)
  exact (perm_iff_lookup (by decide) (by decide)).mp (.swap ..)

end CaseSorter.Daemon
