/-
  What the interceptor records of a request (backend/src/audit-log/interceptors/
  audit-log.interceptor.ts).

  Fields of the names in a deny-list are redacted wherever they are in the body: the record does not
  depend on their values, and other values are recorded as they are, at the same path.
-/
import NovaLabs.Audit.CreateAuditLog

namespace Audit

open Lib JsString JsData

/-! ## The body -/

def sensitiveKeys : List JsString :=
  [of "password", of "passwordResetToken", of "verificationToken", of "verificationCode",
    of "passwordResetCode", of "totpSecret", of "accessToken", of "refreshToken", of "secret",
    of "token", of "rawBody"]

def redacted : JsData := .string (of "[REDACTED]")

/-- The key by which an object's prototype is set. -/
def protoKey : JsString := of "__proto__"

/-- `sanitized[key] = value`, for a key that is not there yet; the key of the prototype adds no
    field. -/
def addField (key : JsString) (value : JsData) (fields : List (JsString × JsData)) :
    List (JsString × JsData) :=
  if key = protoKey then fields else (key, value) :: fields

mutual

/-- What a field is recorded as, unless it is redacted. -/
def sanitizeValue : JsData → JsData
  | .array items => .object (sanitizeItems 0 items)
  | .object fields => .object (sanitizeFields fields)
  | .null => .null
  | .bool b => .bool b
  | .number n => .number n
  | .string s => .string s
  | .buffer bytes => .buffer bytes

/-- The loop over the items of an array, from an index on. -/
def sanitizeItems : ℕ → List JsData → List (JsString × JsData)
  | _, [] => []
  | i, item :: items =>
    addField (indexKey i) (if indexKey i ∈ sensitiveKeys then redacted else sanitizeValue item)
      (sanitizeItems (i + 1) items)

/-- The loop over the fields of an object. -/
def sanitizeFields : List (JsString × JsData) → List (JsString × JsData)
  | [] => []
  | (key, value) :: fields =>
    addField key (if key ∈ sensitiveKeys then redacted else sanitizeValue value)
      (sanitizeFields fields)

end

/-- `sanitizeBody`. -/
def sanitizeBody (body : JsData) : List (JsString × JsData) := sanitizeFields body.entries

theorem sanitizeItems_eq (i : ℕ) (items : List JsData) : sanitizeItems i items =
    sanitizeFields ((items.zipIdx i).map fun (item, i) => (indexKey i, item)) := by
  induction items generalizing i with
  | nil => simp [sanitizeItems, sanitizeFields]
  | cons item items ih => simp [sanitizeItems, sanitizeFields, ih]

/-- Arrays and objects are recorded by the same function as the body. -/
theorem sanitizeValue_array (items : List JsData) :
    sanitizeValue (.array items) = .object (sanitizeBody (.array items)) := by
  rw [sanitizeValue, sanitizeItems_eq]
  rfl

theorem sanitizeValue_object (fields : List (JsString × JsData)) :
    sanitizeValue (.object fields) = .object (sanitizeBody (.object fields)) := by
  rw [sanitizeValue]
  rfl

/-! ## The record -/

structure RequestUser where
  id : JsString
  email : JsString
  role : JsString

structure Request where
  method : JsString
  originalUrl : JsString
  user : Option RequestUser
  /-- The route parameter `id`. -/
  id : Option JsString
  body : JsData
  ip : Option JsString
  userAgent : Option JsString

/-- How the handler ends. -/
inductive Outcome
  | next (statusCode : ℕ)
  | error (message : JsString)

def mutatingMethods : List JsString := [of "POST", of "PUT", of "PATCH", of "DELETE"]

def extractIdFromParams (id : Option JsString) : Option JsString := id.filter (· ≠ [])

/-- The first part after a part `api`, without an `s` at its end. -/
def afterApi : List JsString → Option JsString
  | part :: next :: parts =>
    if part = of "api" then
      some (if next.getLast? = some (codeUnit 's') then next.dropLast else next)
    else afterApi (next :: parts)
  | _ => none

def inferTargetType (url : JsString) : Option JsString :=
  afterApi ((url.splitOn (codeUnit '/')).filter (· ≠ []))

/-- `toLowerCase`, of ASCII text. -/
def toLowerCase (s : JsString) : JsString :=
  s.map fun c => if codeUnit 'A' ≤ c ∧ c ≤ codeUnit 'Z' then c + 32 else c

def inferAction (method : JsString) : JsString :=
  if method = of "POST" then of "create"
  else if method = of "PUT" ∨ method = of "PATCH" then of "update"
  else if method = of "DELETE" then of "delete"
  else toLowerCase method

/-- Remove the first occurrence of a word (`replace(word, '')`). -/
def removeFirst (word : JsString) : JsString → JsString
  | [] => []
  | c :: s =>
    if word.isPrefixOf (c :: s) then (c :: s).drop word.length else c :: removeFirst word s

/-- Set a field: in its place where it is there, otherwise at the end. -/
def setField (key : JsString) (value : JsData) :
    List (JsString × JsData) → List (JsString × JsData)
  | [] => [(key, value)]
  | (k, v) :: fields => if k = key then (key, value) :: fields else (k, v) :: setField key value fields

/-- `{ ...metadata, handler, statusCode }`, or `{ ...metadata, handler, error }`. -/
def recordMetadata (body : JsData) (handlerName : JsString) (outcome : Outcome) :
    List (JsString × JsData) :=
  let metadata := setField (of "handler") (.string handlerName) (sanitizeBody body)
  match outcome with
  | .next statusCode => setField (of "statusCode") (.number statusCode) metadata
  | .error message => setField (of "error") (.string message) metadata

/-- `AuditLogInterceptor.intercept`: what it passes to the audit log, of a request that mutates. -/
def intercept (request : Request) (handlerName controllerName : JsString) (outcome : Outcome) :
    Option CreateAuditLogInput :=
  if request.method ∈ mutatingMethods then
    some
      { actorId := request.user.map RequestUser.id
        actorEmail := request.user.map RequestUser.email
        actorRole := request.user.map RequestUser.role
        action := toLowerCase (removeFirst (of "Controller") controllerName) ++
          codeUnit '.' :: inferAction request.method
        targetType := inferTargetType request.originalUrl
        targetId := extractIdFromParams request.id
        ipAddress := request.ip
        userAgent := request.userAgent.filter (· ≠ [])
        metadata := some (.object (recordMetadata request.body handlerName outcome)) }
  else none

/-! ## Hidden values -/

mutual

/-- The data differ in the values of fields of the given names only. -/
inductive DifferIn (hidden : List JsString) : JsData → JsData → Prop
  | same (v : JsData) : DifferIn hidden v v
  | array {items items' : List JsData} :
      DifferInItems hidden items items' → DifferIn hidden (.array items) (.array items')
  | object {fields fields' : List (JsString × JsData)} :
      DifferInFields hidden fields fields' → DifferIn hidden (.object fields) (.object fields')

inductive DifferInItems (hidden : List JsString) : List JsData → List JsData → Prop
  | nil : DifferInItems hidden [] []
  | cons {v v' : JsData} {items items' : List JsData} : DifferIn hidden v v' →
      DifferInItems hidden items items' → DifferInItems hidden (v :: items) (v' :: items')

inductive DifferInFields (hidden : List JsString) :
    List (JsString × JsData) → List (JsString × JsData) → Prop
  | nil : DifferInFields hidden [] []
  | hide {key : JsString} {v v' : JsData} {fields fields' : List (JsString × JsData)} :
      key ∈ hidden → DifferInFields hidden fields fields' →
      DifferInFields hidden ((key, v) :: fields) ((key, v') :: fields')
  | keep {key : JsString} {v v' : JsData} {fields fields' : List (JsString × JsData)} :
      DifferIn hidden v v' → DifferInFields hidden fields fields' →
      DifferInFields hidden ((key, v) :: fields) ((key, v') :: fields')

end

mutual

theorem DifferIn.sanitizeValue {v v' : JsData} :
    DifferIn sensitiveKeys v v' → sanitizeValue v = sanitizeValue v'
  | .same _ => rfl
  | .array h => by rw [Audit.sanitizeValue, Audit.sanitizeValue, h.sanitizeItems]
  | .object h => by rw [Audit.sanitizeValue, Audit.sanitizeValue, h.sanitizeFields]

theorem DifferInItems.sanitizeItems {items items' : List JsData} {i : ℕ} :
    DifferInItems sensitiveKeys items items' → sanitizeItems i items = sanitizeItems i items'
  | .nil => rfl
  | .cons hv h => by
    rw [Audit.sanitizeItems, Audit.sanitizeItems, hv.sanitizeValue, h.sanitizeItems]

theorem DifferInFields.sanitizeFields {fields fields' : List (JsString × JsData)} :
    DifferInFields sensitiveKeys fields fields' → sanitizeFields fields = sanitizeFields fields'
  | .nil => rfl
  | .hide hkey h => by
    rw [Audit.sanitizeFields, Audit.sanitizeFields, if_pos hkey, if_pos hkey, h.sanitizeFields]
  | .keep hv h => by
    rw [Audit.sanitizeFields, Audit.sanitizeFields, hv.sanitizeValue, h.sanitizeFields]

end

/-- What is recorded of a body does not depend on the values of the fields in the deny-list. -/
theorem DifferIn.sanitizeBody {body body' : JsData} (h : DifferIn sensitiveKeys body body') :
    sanitizeBody body = sanitizeBody body' := by
  cases h with
  | same => rfl
  | @array items items' h =>
    exact ((sanitizeItems_eq 0 items).symm.trans h.sanitizeItems).trans (sanitizeItems_eq 0 items')
  | object h => exact h.sanitizeFields

/-! ## Recorded values -/

/-- The value at a path; items of arrays are found by their indices. -/
def lookup : List JsString → JsData → Option JsData
  | [], v => some v
  | key :: path, v => (v.entries.lookup key).bind (lookup path)

/-- Neither an array nor an object. -/
def IsScalar : JsData → Prop
  | .array _ | .object _ => False
  | _ => True

section
variable {key : JsString} {path : List JsString} {v : JsData}

theorem lookup_cons (key' : JsString) (v : JsData) (fields : List (JsString × JsData)) :
    ((key', v) :: fields).lookup key = if key' = key then some v else fields.lookup key := by
  split_ifs with hk
  · rw [hk, List.lookup_cons_self]
  · rw [List.lookup_cons, beq_false_of_ne (Ne.symm hk)]

theorem lookup_addField (key' : JsString) (v : JsData) (fields : List (JsString × JsData))
    (hkey : key ≠ protoKey) : (addField key' v fields).lookup key =
      if key' = key then some v else fields.lookup key := by
  rw [addField]
  split_ifs with hproto hk hk
  · exact absurd (hk.symm.trans hproto) hkey
  · rfl
  · rw [lookup_cons, if_pos hk]
  · rw [lookup_cons, if_neg hk]

/-- A field is redacted, or recorded by its sanitized value. -/
theorem lookup_sanitizeFields (hkey : key ≠ protoKey) (fields : List (JsString × JsData)) :
    (sanitizeFields fields).lookup key = (fields.lookup key).map fun v =>
      if key ∈ sensitiveKeys then redacted else sanitizeValue v := by
  induction fields with
  | nil => simp [sanitizeFields]
  | cons field fields ih =>
    obtain ⟨key', v⟩ := field
    rw [sanitizeFields, lookup_addField _ _ _ hkey, ih, lookup_cons]
    split_ifs with hk <;> simp_all

theorem sanitizeValue_scalar (h : IsScalar v) : sanitizeValue v = v := by
  cases v with
  | array | object => cases h
  | _ => rw [sanitizeValue]

theorem isDigit_codeUnit {d : Char} (hd : d.isDigit) : isDigit (codeUnit d) := by
  obtain ⟨hlow, hhigh⟩ := (Bool.and_eq_true _ _).mp hd
  have hlow : 48 ≤ d.toNat := of_decide_eq_true hlow
  have hhigh : d.toNat ≤ 57 := of_decide_eq_true hhigh
  refine isDigit_iff.2 ⟨d.toNat - 48, by omega, ?_⟩
  rw [digit, Nat.add_sub_cancel' hlow]
  rfl

theorem indexKey_not_sensitive (i : ℕ) : indexKey i ∉ sensitiveKeys := by
  intro hmem
  have hother : ∀ key ∈ sensitiveKeys, ∃ c ∈ key, isDigit c = false := by decide
  obtain ⟨c, hc, hfalse⟩ := hother _ hmem
  obtain ⟨d, hd, rfl⟩ := List.mem_map.1 hc
  have hdigit := isDigit_codeUnit (Nat.isDigit_of_mem_toDigits (by decide) (by decide) hd)
  exact Bool.false_ne_true (hfalse.symm.trans hdigit)

/-- What is found in a buffer is scalar, and is not sensitive. -/
theorem lookup_buffer {bytes : List UInt8} {w : JsData}
    (hw : (JsData.buffer bytes).entries.lookup key = some w) :
    key ∉ sensitiveKeys ∧ IsScalar w := by
  obtain ⟨l, l', heq, -⟩ := List.lookup_eq_some_iff.1 hw
  have hmem : (key, w) ∈ (JsData.buffer bytes).entries := heq ▸ by simp
  obtain ⟨⟨item, i⟩, hitem, hpair⟩ := List.mem_map.1 hmem
  cases hpair
  obtain ⟨b, -, hb⟩ := List.mem_map.1 (List.fst_mem_of_mem_zipIdx hitem)
  refine ⟨indexKey_not_sensitive i, ?_⟩
  rw [← show JsData.number b.toNat = w from hb]
  trivial

/-- A field of a value is redacted, or recorded by its sanitized value. -/
theorem lookup_entries (hkey : key ≠ protoKey) (v : JsData) :
    (sanitizeValue v).entries.lookup key = (v.entries.lookup key).map fun v =>
      if key ∈ sensitiveKeys then redacted else sanitizeValue v := by
  have hbody := lookup_sanitizeFields hkey v.entries
  cases v with
  | array items => rwa [sanitizeValue_array]
  | object fields => rwa [sanitizeValue_object]
  | buffer bytes =>
    rw [sanitizeValue]
    cases hw : (JsData.buffer bytes).entries.lookup key with
    | none => rfl
    | some w =>
      obtain ⟨hclean, hscalar⟩ := lookup_buffer hw
      rw [Option.map_some, if_neg hclean, sanitizeValue_scalar hscalar]
  | _ => rw [sanitizeValue]; rfl

/-- The names on the path are neither sensitive nor that of the prototype. -/
def Plain (path : List JsString) : Prop := ∀ key ∈ path, key ∉ sensitiveKeys ∧ key ≠ protoKey

/-- What a path leads to in a sanitized value. -/
theorem lookup_sanitizeValue (hpath : Plain path) (hkey : key ≠ protoKey) (v : JsData) :
    lookup (path ++ [key]) (sanitizeValue v) = (lookup (path ++ [key]) v).map fun v =>
      if key ∈ sensitiveKeys then redacted else sanitizeValue v := by
  induction path generalizing v with
  | nil =>
    rw [List.nil_append, lookup, lookup, lookup_entries hkey]
    cases v.entries.lookup key <;> rfl
  | cons key' path ih =>
    obtain ⟨⟨hclean, hproto⟩, hpath⟩ := List.forall_mem_cons.1 hpath
    rw [List.cons_append, lookup, lookup, lookup_entries hproto]
    cases v.entries.lookup key' with
    | none => rfl
    | some w =>
      rw [Option.map_some, if_neg hclean]
      exact ih hpath w

/-- The body is sanitized like the values in it. -/
theorem lookup_sanitizeBody (hkey : key ≠ protoKey) (body : JsData) :
    (sanitizeBody body).lookup key = (sanitizeValue body).entries.lookup key := by
  rw [sanitizeBody, lookup_sanitizeFields hkey, lookup_entries hkey]

theorem lookup_setField_of_ne {key' : JsString} (hne : key ≠ key') (v : JsData)
    (fields : List (JsString × JsData)) :
    (setField key' v fields).lookup key = fields.lookup key := by
  induction fields with
  | nil =>
    rw [setField, lookup_cons, if_neg hne.symm]
  | cons field fields ih =>
    obtain ⟨k, w⟩ := field
    rw [setField]
    split_ifs with hk
    · rw [lookup_cons, lookup_cons, if_neg hne.symm, if_neg (hk ▸ hne.symm)]
    · rw [lookup_cons, lookup_cons, ih]

/-- The fields that the interceptor sets itself. -/
def ownKeys : Outcome → List JsString
  | .next _ => [of "handler", of "statusCode"]
  | .error _ => [of "handler", of "error"]

theorem sensitive_apart (outcome : Outcome) :
    ∀ key ∈ sensitiveKeys, key ≠ protoKey ∧ key ∉ ownKeys outcome := by
  cases outcome with
  | next =>
    simp only [ownKeys]
    decide
  | error =>
    simp only [ownKeys]
    decide

theorem lookup_recordMetadata {outcome : Outcome} (hkey : key ∉ ownKeys outcome) (body : JsData)
    (handlerName : JsString) :
    (recordMetadata body handlerName outcome).lookup key = (sanitizeBody body).lookup key := by
  cases outcome with
  | next | error =>
    simp only [ownKeys, List.mem_cons, List.not_mem_nil, or_false, not_or] at hkey
    exact (lookup_setField_of_ne hkey.2 _ _).trans (lookup_setField_of_ne hkey.1 _ _)

/-- What a path leads to in the record. -/
theorem lookup_metadata {outcome : Outcome} (hpath : Plain path) (hkey : key ≠ protoKey)
    (hown : ∀ k ∈ (path ++ [key]).head?, k ∉ ownKeys outcome) (body : JsData)
    (handlerName : JsString) :
    lookup (path ++ [key]) (.object (recordMetadata body handlerName outcome)) =
      (lookup (path ++ [key]) body).map fun v =>
        if key ∈ sensitiveKeys then redacted else sanitizeValue v := by
  rw [← lookup_sanitizeValue hpath hkey]
  cases path with
  | nil =>
    rw [List.nil_append, lookup, lookup, ← lookup_sanitizeBody hkey,
      ← lookup_recordMetadata (hown key rfl) body handlerName]
    rfl
  | cons key' path =>
    rw [List.cons_append, lookup, lookup, ← lookup_sanitizeBody (hpath key' (.head _)).2,
      ← lookup_recordMetadata (hown key' rfl) body handlerName]
    rfl

theorem sanitizeValue_eq_iff (h : IsScalar v) {w : JsData} : sanitizeValue w = v ↔ w = v := by
  constructor
  · rintro rfl
    cases w with
    | array | object =>
      rw [sanitizeValue] at h
      cases h
    | _ => rw [sanitizeValue]
  · rintro rfl
    exact sanitizeValue_scalar h

end

/-- The fields that carry credentials in the requests of the authentication endpoints. -/
def credentialKeys : List JsString :=
  [of "password", of "newPassword", of "confirmNewPassword", of "otp", of "token", of "backupCode",
    of "tempToken", of "refreshToken"]

/-- A path of fields that are neither hidden nor set by the interceptor. -/
structure Recorded (outcome : Outcome) (path : List JsString) : Prop where
  nonempty : path ≠ []
  plain : Plain path
  noCredential : ∀ key ∈ path, key ∉ credentialKeys
  notOwn : ∀ key ∈ path.head?, key ∉ ownKeys outcome

/-- **What is passed to the audit log does not depend on the values of the fields in the deny-list,
    which are recorded as redacted; and values at the other paths are recorded as they are.** -/
theorem redaction {request : Request} (handlerName controllerName : JsString) (outcome : Outcome)
    (hmutating : request.method ∈ mutatingMethods) :
    (∀ body, DifferIn sensitiveKeys request.body body →
      intercept { request with body } handlerName controllerName outcome =
        intercept request handlerName controllerName outcome) ∧
    ∃ input metadata, intercept request handlerName controllerName outcome = some input ∧
      input.metadata = some metadata ∧
      (∀ path v, Recorded outcome path → IsScalar v →
        (lookup path metadata = some v ↔ lookup path request.body = some v)) ∧
      ∀ path key, Plain path → (∀ k ∈ path.head?, k ∉ ownKeys outcome) → key ∈ sensitiveKeys →
        (lookup (path ++ [key]) request.body).isSome →
          lookup (path ++ [key]) metadata = some redacted := by
  constructor
  · intro body hdiffer
    simp only [intercept, recordMetadata, hdiffer.sanitizeBody]
  · refine ⟨_, _, if_pos hmutating, rfl, fun path v hpath hv => ?_, ?_⟩
    · obtain ⟨init, key, rfl⟩ := (List.eq_nil_or_concat path).resolve_left hpath.nonempty
      obtain ⟨hclean, hproto⟩ := hpath.plain key (by simp)
      rw [List.concat_eq_append] at hpath ⊢
      have hinit : Plain init := fun k hk => hpath.plain k (List.mem_append_left _ hk)
      rw [lookup_metadata hinit hproto hpath.notOwn, Option.map_eq_some_iff]
      simp only [if_neg hclean, sanitizeValue_eq_iff hv, exists_eq_right]
    · intro path key hpath hown hkey hsome
      obtain ⟨hne, hfree⟩ := sensitive_apart outcome key hkey
      have hown' : ∀ k ∈ (path ++ [key]).head?, k ∉ ownKeys outcome := by
        cases path with
        | nil =>
          rintro _ ⟨⟩
          exact hfree
        | cons => exact hown
      rw [lookup_metadata hpath hne hown', Option.map_eq_some_iff]
      obtain ⟨v, hv⟩ := Option.isSome_iff_exists.1 hsome
      exact ⟨v, hv, if_pos hkey⟩

/-- A request to set a password, by a client that is not signed in. -/
def passwordRequest : Request :=
  { method := of "POST"
    originalUrl := of "/api/users"
    user := none
    id := none
    body := .object [(of "name", .string (of "n")), (of "password", .string (of "p"))]
    ip := none
    userAgent := none }

theorem redaction_password :
    intercept { passwordRequest with body := .object [(of "name", .string (of "n")),
      (of "password", .string (of "q"))] } (of "create") (of "UsersController") (.next 201) =
        intercept passwordRequest (of "create") (of "UsersController") (.next 201) :=
  (redaction (of "create") (of "UsersController") (.next 201)
    (show passwordRequest.method ∈ mutatingMethods by decide)).1 _
      (.object (.keep (.same _) (.hide (by decide) .nil)))

/-- A field `accessToken` is not among the credentials that endpoints take, and is redacted. -/
theorem redaction_accessToken : ¬ ∀ (request : Request) (handlerName controllerName : JsString)
    (outcome : Outcome) (input : CreateAuditLogInput) (metadata : JsData) (key : JsString)
    (v : JsData), intercept request handlerName controllerName outcome = some input →
      input.metadata = some metadata → key ∉ credentialKeys →
      lookup [key] request.body = some v → lookup [key] metadata = some v := by
  intro hclaim
  have hlookup := hclaim
    { passwordRequest with body := .object [(of "accessToken", .null)] } (of "create")
    (of "UsersController") (.next 201) _ _ (of "accessToken") .null rfl rfl (by decide) rfl
  cases hlookup

end Audit
