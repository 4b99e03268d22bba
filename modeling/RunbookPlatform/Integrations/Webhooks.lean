import RunbookPlatform.Audit.Scrub
import RunbookPlatform.Auditor.Snapshots

/-!
# Webhook payloads

A notification posts its context to the webhooks of an organization and stores a preview of it
with the attempt. Both pass `_scrub_value`, which descends into dicts and lists; the encoder
writes tuples too, and what they hold passes unread.

## Main definitions

- `scrubValue` — `_scrub_value`
- `notifyConnection` — `_notify_connection`
- `Scrubbed` — what is written has no secret and no URL
- `PyValue.tuplesClean` — the tuples that the scrubber meets have none either

## Main results

- `scrubValue_again` — scrubbing twice is scrubbing once
- `scrubbed_scrubValue_iff` — when a scrubbed value is clean
- `webhooks_scrubbed_iff` — when all payloads and previews are
-/

namespace RunbookPlatform.IntegrationService

-- ════════════════════════════════════════════════════════════════════════
-- The scrubber
-- ════════════════════════════════════════════════════════════════════════

/-- `REDACTED`. -/
def redacted : String := "[redacted]"

/-- `SECRET_KEY_FRAGMENTS`. -/
def secretKeyFragments : List String :=
  ["authorization", "claim_token", "cookie", "encrypted_credentials", "password", "private_key",
    "raw_error", "raw_output", "secret", "storage_key", "token", "url", "webhook"]

section

variable (env : Env)

/-- `_is_secret_key`. -/
@[irreducible]
def isSecretKey (key : String) : Bool :=
  secretKeyFragments.any (containsText (env.lower key))

/-- `value.lower().startswith(("http://", "https://"))`. -/
@[irreducible]
def isUrl (value : String) : Bool :=
  "http://".toList.isPrefixOf (env.lower value).toList ||
    "https://".toList.isPrefixOf (env.lower value).toList

mutual

/-- `_scrub_value`. -/
def scrubValue : PyValue → PyValue
  | .dict entries => .dict (scrubEntries entries [])
  | .list items => .list (scrubItems items)
  | .str value => .str (if isUrl env value then redacted else value)
  | value => value

def scrubItems : List PyValue → List PyValue
  | [] => []
  | item :: items => scrubValue item :: scrubItems items

/-- The loop over `value.items()`. -/
def scrubEntries :
    List (PyKey × PyValue) → List (PyKey × PyValue) → List (PyKey × PyValue)
  | [], safe => safe
  | (key, item) :: entries, safe =>
    let item := if isSecretKey env key.text then .str redacted else scrubValue item
    scrubEntries entries (setItem (.str key.text) item safe)

end

/-- `_payload_preview_from_payload`. -/
def payloadPreviewFromPayload (payload : List (PyKey × PyValue)) : List (PyKey × PyValue) :=
  match scrubValue env (.dict payload) with
  | .dict scrubbed => scrubbed
  | scrubbed => [(.str "payload", scrubbed)]

/-- `{"event_type": event_type, **context}`. -/
def previewed (eventType : String) (context : List (PyKey × PyValue)) : List (PyKey × PyValue) :=
  ofPairs [(.str "event_type", .str eventType)] context

/-- `_payload_preview`. -/
def payloadPreview (eventType : String) (context : List (PyKey × PyValue)) :
    List (PyKey × PyValue) :=
  payloadPreviewFromPayload env (previewed eventType context)

end

-- ════════════════════════════════════════════════════════════════════════
-- Deliveries
-- ════════════════════════════════════════════════════════════════════════

inductive ConnectionType where
  | slackWebhook | genericWebhook | pagerduty
  deriving DecidableEq

/-- What `_notify_connection` reads of an `IntegrationConnection`. -/
structure IntegrationConnection where
  type : ConnectionType
  /-- What `get_credentials` decrypts, or the error it raises. -/
  credentials : Except Err (List (PyKey × PyValue))

/-- How `client.post` fails. -/
inductive PostError where
  | timeout
  | http
  | other (exc : Err)

/-- What a delivery meets outside: the destination check, the network, the clock, and `str`. -/
structure Outside where
  validateOutboundUrl : String → Except Err Unit
  /-- The status that the client receives for a URL and a payload. -/
  post : String → List (PyKey × PyValue) → Except PostError ℕ
  now : Time
  elapsedMs : ℕ
  str : PyValue → String

/-- An `IntegrationDeliveryAttempt`. -/
structure DeliveryAttempt where
  eventType : String
  payloadPreview : List (PyKey × PyValue)
  httpStatus : Option ℕ
  success : Bool
  errorDetail : String
  latencyMs : Option ℕ
  attemptedAt : Time

/-- `bool(value)`. -/
def truthy : PyValue → Bool
  | .none => false
  | .bool b => b
  | .int n => n != 0
  | .float (.finite repr) => repr != "0.0" && repr != "-0.0"
  | .str s => s != ""
  | .list items => !items.isEmpty
  | .tuple items => !items.isEmpty
  | .dict entries => !entries.isEmpty
  | _ => true

/-- `context.get(key)`. -/
def get (key : String) (context : List (PyKey × PyValue)) : PyValue :=
  ((context.find? (·.1 == .str key)).map (·.2)).getD .none

/-- `a or b`. -/
def orElse (a b : PyValue) : PyValue := if truthy a then a else b

section

variable (env : Env) (outside : Outside)

/-- The lines of `_build_slack_payload`. -/
def slackLines (eventType : String) (context : List (PyKey × PyValue)) : List String :=
  let str := outside.str
  let workflowName := orElse (get "workflow_name" context) (.str "Unknown workflow")
  let organizationName :=
    orElse (get "organization_name" context) (orElse (get "org_name" context) (.str ""))
  let position := get "failed_step_position" context
  let suffix := if position matches .none then "" else s!" ({str position})"
  let failedStepName := str (get "failed_step_name" context)
  let artifacts := if truthy (get "has_artifacts" context) then "available" else "none"
  let decision := str (get "decision" context)
  [s!"*Event:* `{eventType}`", s!"*Workflow:* {str workflowName}"] ++
    (if truthy organizationName then [s!"*Organization:* {str organizationName}"] else []) ++
    (if truthy (get "failed_step_name" context) then [s!"*Failed step:* {failedStepName}{suffix}"]
      else []) ++
    (if context.any (·.1 == .str "has_artifacts") then [s!"*Artifacts:* {artifacts}"] else []) ++
    (if truthy (get "decision" context) then [s!"*Decision:* {decision}"] else [])

/-- `_build_slack_payload`. -/
def buildSlackPayload (eventType : String) (context : List (PyKey × PyValue)) :
    List (PyKey × PyValue) :=
  let executionId := orElse (get "execution_id" context)
    (orElse (get "approval_request_id" context) (.str "unknown"))
  let status := orElse (get "execution_status" context)
    (orElse (get "decision" context) (.str eventType))
  let text :=
    s!"Runbook event {eventType}: {outside.str executionId} {outside.str status}"
  [(.str "text", .str text),
    (.str "blocks", .list [.dict [
      (.str "type", .str "section"),
      (.str "text", .dict [
        (.str "type", .str "mrkdwn"),
        (.str "text", .str ("\n".intercalate (slackLines outside eventType context)))])]])]

/-- `_build_payload`. -/
def buildPayload (connection : IntegrationConnection) (eventType : String)
    (context : List (PyKey × PyValue)) : List (PyKey × PyValue) :=
  let safeContext := scrubEntries env context []
  match connection.type with
  | .slackWebhook => buildSlackPayload outside eventType safeContext
  | _ =>
    setItem (.str "event_type") (.str eventType)
      (ofPairs [(.str "occurred_at", .str (env.isoformat outside.now))] safeContext)

/-- `_safe_error_detail`. -/
def safeErrorDetail (exc : Err) : String :=
  if exc.kind = .validation then "validation_error" else "dispatch_error"

/-- `_dispatch_webhook`: the status, the latency and the error detail. -/
def dispatchWebhook (url : String) (payload : List (PyKey × PyValue)) :
    Except Err (Option ℕ × Option ℕ × String) :=
  match outside.post url payload with
  | .error .timeout => .ok (none, some outside.elapsedMs, "timeout")
  | .error .http => .ok (none, some outside.elapsedMs, "http_error")
  | .error (.other exc) => .error exc
  | .ok status =>
    .ok (some status, some outside.elapsedMs,
      if 200 ≤ status ∧ status < 300 then "" else "non_2xx_response")

/-- The URL of a connection, as `_notify_connection` checks it. -/
def webhookUrl (connection : IntegrationConnection) : Except Err String := do
  let credentials ← connection.credentials
  match get "url" credentials with
  | .str url => do
    check (strip url ≠ "") (.validation "" "Integration webhook URL is required.")
    outside.validateOutboundUrl url
    pure url
  | _ => .error (.validation "" "Integration webhook URL is required.")

/-- `_notify_connection`: what it posts, if anything, and the attempt it records. -/
def notifyConnection (connection : IntegrationConnection) (eventType : String)
    (context : List (PyKey × PyValue)) : Option (List (PyKey × PyValue)) × DeliveryAttempt :=
  let failed (payloadPreview : List (PyKey × PyValue)) (exc : Err) : DeliveryAttempt :=
    { eventType, payloadPreview, httpStatus := none, success := false
      errorDetail := safeErrorDetail exc, latencyMs := none, attemptedAt := outside.now }
  match webhookUrl outside connection with
  | .error exc => (none, failed (payloadPreview env eventType context) exc)
  | .ok url =>
    let payload := buildPayload env outside connection eventType context
    let payloadPreview := payloadPreviewFromPayload env payload
    match dispatchWebhook outside url payload with
    | .error exc => (some payload, failed payloadPreview exc)
    | .ok (httpStatus, latencyMs, errorDetail) =>
      (some payload,
        { eventType, payloadPreview, httpStatus
          success := httpStatus.any fun status => 200 ≤ status && status < 300
          errorDetail, latencyMs, attemptedAt := outside.now })

end

-- ════════════════════════════════════════════════════════════════════════
-- Clean documents
-- ════════════════════════════════════════════════════════════════════════

section

variable (env : Env)

mutual

/-- No member with a secret name has a value, and no text is a URL, at any depth. -/
def isClean : Doc → Bool
  | .arr items => areClean items
  | .obj members => membersClean members
  | .str value => !isUrl env value
  | _ => true

def areClean : List Doc → Bool
  | [] => true
  | d :: ds => isClean d && areClean ds

def membersClean : List (String × Doc) → Bool
  | [] => true
  | (name, d) :: ds =>
    (!isSecretKey env name || d matches .str "[redacted]") && isClean d && membersClean ds

end

/-- What the encoder writes for the value is clean. -/
def Scrubbed (v : PyValue) : Prop := ∃ d, v.encode = some d ∧ isClean env d = true

mutual

/-- The tuples that the scrubber meets are written clean. It meets no value under a secret key,
and of the keys with the same text it keeps the last. -/
def tuplesClean : PyValue → Bool
  | .list items => itemsTuplesClean items
  | .tuple items => (PyValue.tuple items).encode.all (isClean env)
  | .dict entries => entriesTuplesClean entries
  | _ => true

def itemsTuplesClean : List PyValue → Bool
  | [] => true
  | item :: items => tuplesClean item && itemsTuplesClean items

def entriesTuplesClean : List (PyKey × PyValue) → Bool
  | [] => true
  | (key, item) :: entries =>
    (isSecretKey env key.text || entries.any (·.1.text == key.text) || tuplesClean item) &&
      entriesTuplesClean entries

end

/-- Payloads and previews are clean, for every connection and every outcome of the delivery, and
scrubbing again changes nothing. -/
structure WebhooksScrubbed (eventType : String) (context : List (PyKey × PyValue)) : Prop where
  posted : ∀ outside connection payload,
    (notifyConnection env outside connection eventType context).1 = some payload →
      Scrubbed env (.dict payload)
  stored : ∀ outside connection, Scrubbed env
    (.dict (notifyConnection env outside connection eventType context).2.payloadPreview)
  again : scrubValue env (scrubValue env (.dict context)) = scrubValue env (.dict context)

/-- What is known of the texts from outside. -/
structure TextsKnown : Prop where
  lowersAscii : LowersAscii env.lower
  lowersChars : LowersChars env.lower
  /-- A date begins with its year. -/
  isoformat : ∀ t, ∃ c ∈ (env.isoformat t).toList.head?, c.isDigit = true

end


-- ════════════════════════════════════════════════════════════════════════
-- Texts
-- ════════════════════════════════════════════════════════════════════════

section

variable {env : Env} (htexts : TextsKnown env)

include htexts

/-- A text that begins with an ASCII character other than `h` is no URL. -/
theorem not_isUrl_of_head {text : String} {c : Char} {cs : List Char} (htext : text.toList = c :: cs)
    (hascii : c.toNat < 128) (hc : unifySigma c.toLower ≠ 'h') : isUrl env text = false := by
  obtain ⟨f, -, hf⟩ := htexts.lowersChars
  have hsingle : f c = [unifySigma c.toLower] := by
    have h := hf (String.ofList [c])
    rw [htexts.lowersAscii _ (by simpa using hascii)] at h
    simpa [asciiLower] using h.symm
  have hlower := hf text
  rw [htext, List.flatMap_cons, hsingle] at hlower
  have hnone {part : List Char} : ('h' :: part).isPrefixOf (env.lower text).toList = false := by
    cases hchars : (env.lower text).toList with
    | nil => rfl
    | cons x xs =>
      rw [hchars] at hlower
      have hx : unifySigma x = unifySigma c.toLower := by simpa using (List.cons.inj hlower).1
      have hne : 'h' ≠ x := by
        rintro rfl
        exact hc (hx.symm.trans (by decide))
      simp [List.isPrefixOf, hne]
  rw [isUrl, show "http://".toList = 'h' :: "ttp://".toList from rfl,
    show "https://".toList = 'h' :: "ttps://".toList from rfl, hnone, hnone]
  rfl

theorem not_isUrl_redacted : isUrl env redacted = false :=
  not_isUrl_of_head htexts (c := '[') rfl (by decide) (by decide)

/-- A date is no URL. -/
theorem not_isUrl_isoformat (t : Time) : isUrl env (env.isoformat t) = false := by
  obtain ⟨c, hc, hdigit⟩ := htexts.isoformat t
  have hrange : 48 ≤ c.toNat ∧ c.toNat ≤ 57 := by
    simpa [Char.isDigit, UInt32.le_iff_toNat_le] using hdigit
  cases hchars : (env.isoformat t).toList with
  | nil => simp [hchars] at hc
  | cons x xs =>
    obtain rfl : x = c := by simpa [hchars] using hc
    refine not_isUrl_of_head htexts hchars (by omega) fun hh => ?_
    have hlower : x.toLower = x := by
      refine dif_neg fun h => ?_
      have h' : 65 ≤ x.toNat := UInt32.le_iff_toNat_le.1 h.1
      omega
    rw [hlower, unifySigma] at hh
    split_ifs at hh with hsigma
    · exact absurd hh (by decide)
    · rw [hh] at hrange
      exact absurd hrange.2 (by decide)

/-- The service's own keys are not secret. -/
theorem not_isSecretKey {key : String} (hascii : key.toList.all (·.toNat < 128) = true)
    (hplain : secretKeyFragments.any (containsText (asciiLower key)) = false) :
    isSecretKey env key = false := by
  rw [isSecretKey, htexts.lowersAscii key hascii, hplain]

end

-- ════════════════════════════════════════════════════════════════════════
-- What is written clean
-- ════════════════════════════════════════════════════════════════════════

section

variable {env : Env} {v : PyValue} {vs : List PyValue} {entries : List (PyKey × PyValue)}

theorem encode_eq_str {s : String} (h : v.encode = some (.str s)) : v = .str s := by
  cases v with
  | str s' =>
    cases h
    rfl
  | list items => simp [PyValue.encode] at h
  | tuple items => simp [PyValue.encode] at h
  | dict entries => simp [PyValue.encode] at h
  | _ => cases h

theorem scrubbed_str {s : String} : Scrubbed env (.str s) ↔ isUrl env s = false := by
  constructor
  · rintro ⟨d, hd, hclean⟩
    obtain rfl : Doc.str s = d := Option.some.inj hd
    simpa [isClean] using hclean
  · intro h
    exact ⟨.str s, rfl, by simp [isClean, h]⟩

theorem areClean_of_encode : ∀ {vs : List PyValue},
    (∃ ds, encodeItems vs = some ds ∧ areClean env ds = true) ↔ ∀ v ∈ vs, Scrubbed env v
  | [] => ⟨fun _ _ hv => absurd hv List.not_mem_nil, fun _ => ⟨[], rfl, rfl⟩⟩
  | v :: vs => by
    rw [List.forall_mem_cons, ← areClean_of_encode]
    constructor
    · rintro ⟨all, hall, hclean⟩
      obtain ⟨d, hd, ds, hds, rfl⟩ := encodeItems_cons.1 hall
      obtain ⟨hd', hds'⟩ := Bool.and_eq_true_iff.1 hclean
      exact ⟨⟨d, hd, hd'⟩, ds, hds, hds'⟩
    · rintro ⟨⟨d, hd, hd'⟩, ds, hds, hds'⟩
      exact ⟨d :: ds, encodeItems_cons.2 ⟨d, hd, ds, hds, rfl⟩, Bool.and_eq_true_iff.2 ⟨hd', hds'⟩⟩

theorem scrubbed_list : Scrubbed env (.list vs) ↔ ∀ v ∈ vs, Scrubbed env v := by
  rw [← areClean_of_encode]
  constructor
  · rintro ⟨d, hd, hclean⟩
    obtain ⟨ds, hds, rfl⟩ := encode_list.1 hd
    exact ⟨ds, hds, hclean⟩
  · rintro ⟨ds, hds, hclean⟩
    exact ⟨.arr ds, encode_list.2 ⟨ds, hds, rfl⟩, hclean⟩

/-- An entry that is written clean: under a secret key stands the mark alone. -/
def EntryScrubbed (env : Env) (entry : PyKey × PyValue) : Prop :=
  ∃ name, entry.1.name? = some name ∧
    (isSecretKey env name = true → entry.2 = .str redacted) ∧ Scrubbed env entry.2

theorem membersClean_of_encode : ∀ {entries : List (PyKey × PyValue)},
    (∃ ds, encodeEntries entries = some ds ∧ membersClean env ds = true) ↔
      ∀ entry ∈ entries, EntryScrubbed env entry
  | [] => ⟨fun _ _ hentry => absurd hentry List.not_mem_nil, fun _ => ⟨[], rfl, rfl⟩⟩
  | (key, value) :: entries => by
    rw [List.forall_mem_cons, ← membersClean_of_encode]
    constructor
    · rintro ⟨all, hall, hclean⟩
      obtain ⟨name, hname, d, hd, ds, hds, rfl⟩ := encodeEntries_cons.1 hall
      simp only [membersClean, Bool.and_eq_true, Bool.or_eq_true, Bool.not_eq_true'] at hclean
      obtain ⟨⟨hsecret, hd'⟩, hds'⟩ := hclean
      refine ⟨⟨name, hname, fun hkey => ?_, d, hd, hd'⟩, ds, hds, hds'⟩
      rw [hkey] at hsecret
      rcases hsecret with hsecret | hsecret
      · cases hsecret
      · split at hsecret
        · exact encode_eq_str hd
        · cases hsecret
    · rintro ⟨⟨name, hname, hsecret, d, hd, hd'⟩, ds, hds, hds'⟩
      refine ⟨(name, d) :: ds, encodeEntries_cons.2 ⟨name, hname, d, hd, ds, hds, rfl⟩, ?_⟩
      simp only [membersClean, Bool.and_eq_true, Bool.or_eq_true, Bool.not_eq_true']
      refine ⟨⟨?_, hd'⟩, hds'⟩
      cases hkey : isSecretKey env name with
      | false => exact .inl rfl
      | true =>
        obtain rfl : value = .str redacted := hsecret hkey
        cases hd
        exact .inr rfl

theorem scrubbed_dict :
    Scrubbed env (.dict entries) ↔ ∀ entry ∈ entries, EntryScrubbed env entry := by
  rw [← membersClean_of_encode]
  constructor
  · rintro ⟨d, hd, hclean⟩
    obtain ⟨ds, hds, rfl⟩ := encode_dict.1 hd
    exact ⟨ds, hds, hclean⟩
  · rintro ⟨ds, hds, hclean⟩
    exact ⟨.obj ds, encode_dict.2 ⟨ds, hds, rfl⟩, hclean⟩

theorem entryScrubbed_text {key : String} (hkey : isSecretKey env key = false) :
    EntryScrubbed env (.str key, v) ↔ Scrubbed env v := by
  constructor
  · rintro ⟨-, -, -, hv⟩
    exact hv
  · intro hv
    refine ⟨key, rfl, fun hsecret => ?_, hv⟩
    rw [hkey] at hsecret
    cases hsecret

mutual

/-- **Clean values** have clean tuples. -/
theorem tuplesClean_of_scrubbed : ∀ (v : PyValue), Scrubbed env v → tuplesClean env v = true
  | .list vs, h => itemsTuplesClean_of_scrubbed vs (scrubbed_list.1 h)
  | .dict entries, h => entriesTuplesClean_of_scrubbed entries (scrubbed_dict.1 h)
  | .tuple vs, h => by
    obtain ⟨d, hd, hclean⟩ := h
    show (PyValue.tuple vs).encode.all (isClean env) = true
    rw [hd]
    exact hclean
  | .none, _ => rfl
  | .bool _, _ => rfl
  | .int _, _ => rfl
  | .float _, _ => rfl
  | .str _, _ => rfl
  | .uuid _, _ => rfl
  | .datetime _ _, _ => rfl
  | .object _, _ => rfl

theorem itemsTuplesClean_of_scrubbed :
    ∀ (vs : List PyValue), (∀ v ∈ vs, Scrubbed env v) → itemsTuplesClean env vs = true
  | [], _ => rfl
  | v :: vs, h => by
    obtain ⟨hv, hvs⟩ := List.forall_mem_cons.1 h
    exact Bool.and_eq_true_iff.2 ⟨tuplesClean_of_scrubbed v hv, itemsTuplesClean_of_scrubbed vs hvs⟩

theorem entriesTuplesClean_of_scrubbed : ∀ (entries : List (PyKey × PyValue)),
    (∀ entry ∈ entries, EntryScrubbed env entry) → entriesTuplesClean env entries = true
  | [], _ => rfl
  | (key, value) :: entries, h => by
    obtain ⟨⟨-, -, -, hvalue⟩, hentries⟩ := List.forall_mem_cons.1 h
    simp only [entriesTuplesClean, Bool.and_eq_true, Bool.or_eq_true]
    exact ⟨.inr (tuplesClean_of_scrubbed value hvalue),
      entriesTuplesClean_of_scrubbed entries hentries⟩

end

-- ════════════════════════════════════════════════════════════════════════
-- What the scrubber makes
-- ════════════════════════════════════════════════════════════════════════

/-- The value that the loop assigns to the key of an entry. -/
def scrubEntry (env : Env) (entry : PyKey × PyValue) : PyKey × PyValue :=
  (.str entry.1.text,
    if isSecretKey env entry.1.text then .str redacted else scrubValue env entry.2)

/-- The loop assigns its pairs one after another. -/
theorem scrubEntries_eq {safe : List (PyKey × PyValue)} :
    scrubEntries env entries safe = ofPairs safe (entries.map (scrubEntry env)) := by
  induction entries generalizing safe with
  | nil => rfl
  | cons entry entries ih => exact ih

theorem scrubItems_eq : scrubItems env vs = vs.map (scrubValue env) := by
  induction vs with
  | nil => rfl
  | cons v vs ih => exact congrArg (scrubValue env v :: ·) ih

theorem scrubValue_dict :
    scrubValue env (.dict entries) = .dict (ofPairs [] (entries.map (scrubEntry env))) :=
  congrArg PyValue.dict scrubEntries_eq

theorem payloadPreviewFromPayload_eq :
    payloadPreviewFromPayload env entries = ofPairs [] (entries.map (scrubEntry env)) := by
  rw [payloadPreviewFromPayload, scrubValue_dict]

/-- A scrubbed entry is written clean when its value is, or when its key is secret. -/
theorem entryScrubbed_scrubEntry (htexts : TextsKnown env) {entry : PyKey × PyValue} :
    EntryScrubbed env (scrubEntry env entry) ↔
      isSecretKey env entry.1.text = true ∨ Scrubbed env (scrubValue env entry.2) := by
  cases hkey : isSecretKey env entry.1.text with
  | true =>
    refine iff_of_true ?_ (.inl rfl)
    rw [scrubEntry, if_pos hkey]
    exact ⟨entry.1.text, rfl, fun _ => rfl, scrubbed_str.2 (not_isUrl_redacted htexts)⟩
  | false =>
    rw [scrubEntry, if_neg (by simp [hkey]), entryScrubbed_text hkey]
    simp

mutual

/-- **What the scrubber makes** of a value is written clean exactly when the tuples it meets
are. -/
theorem scrubbed_scrubValue_iff (htexts : TextsKnown env) : ∀ (v : PyValue),
    v.encode.isSome = true → (Scrubbed env (scrubValue env v) ↔ tuplesClean env v = true)
  | .none, _ => iff_of_true ⟨.null, rfl, rfl⟩ rfl
  | .bool b, _ => iff_of_true ⟨.bool b, rfl, rfl⟩ rfl
  | .int n, _ => iff_of_true ⟨.int n, rfl, rfl⟩ rfl
  | .float x, _ => iff_of_true ⟨.float x, rfl, rfl⟩ rfl
  | .str s, _ => by
    refine iff_of_true (scrubbed_str.2 ?_) rfl
    split_ifs with hurl
    · exact not_isUrl_redacted htexts
    · simpa using hurl
  | .tuple vs, h => by
    obtain ⟨d, hd⟩ := Option.isSome_iff_exists.1 h
    show (∃ d, (PyValue.tuple vs).encode = some d ∧ isClean env d = true) ↔
      (PyValue.tuple vs).encode.all (isClean env) = true
    rw [hd]
    simp
  | .list vs, h => by
    obtain ⟨d, hd⟩ := Option.isSome_iff_exists.1 h
    obtain ⟨ds, hds, -⟩ := encode_list.1 hd
    show Scrubbed env (.list (scrubItems env vs)) ↔ itemsTuplesClean env vs = true
    rw [scrubItems_eq, scrubbed_list, List.forall_mem_map,
      scrubbed_scrubItems_iff htexts vs (Option.isSome_iff_exists.2 ⟨ds, hds⟩)]
  | .dict entries, h => by
    obtain ⟨d, hd⟩ := Option.isSome_iff_exists.1 h
    obtain ⟨ds, hds, -⟩ := encode_dict.1 hd
    rw [scrubValue_dict, scrubbed_dict]
    exact scrubbed_scrubEntries_iff htexts entries (Option.isSome_iff_exists.2 ⟨ds, hds⟩)

theorem scrubbed_scrubItems_iff (htexts : TextsKnown env) : ∀ (vs : List PyValue),
    (encodeItems vs).isSome = true →
      ((∀ v ∈ vs, Scrubbed env (scrubValue env v)) ↔ itemsTuplesClean env vs = true)
  | [], _ => iff_of_true (fun _ hv => absurd hv List.not_mem_nil) rfl
  | v :: vs, h => by
    obtain ⟨all, hall⟩ := Option.isSome_iff_exists.1 h
    obtain ⟨d, hd, ds, hds, -⟩ := encodeItems_cons.1 hall
    show _ ↔ (tuplesClean env v && itemsTuplesClean env vs) = true
    rw [List.forall_mem_cons, Bool.and_eq_true,
      scrubbed_scrubValue_iff htexts v (Option.isSome_iff_exists.2 ⟨d, hd⟩),
      scrubbed_scrubItems_iff htexts vs (Option.isSome_iff_exists.2 ⟨ds, hds⟩)]

theorem scrubbed_scrubEntries_iff (htexts : TextsKnown env) : ∀ (entries : List (PyKey × PyValue)),
    (encodeEntries entries).isSome = true →
      ((∀ entry ∈ ofPairs [] (entries.map (scrubEntry env)), EntryScrubbed env entry) ↔
        entriesTuplesClean env entries = true)
  | [], _ => iff_of_true (fun _ hentry => absurd hentry List.not_mem_nil) rfl
  | (key, value) :: entries, h => by
    obtain ⟨all, hall⟩ := Option.isSome_iff_exists.1 h
    obtain ⟨name, -, d, hd, ds, hds, -⟩ := encodeEntries_cons.1 hall
    have hlater : (scrubEntry env (key, value)).1 ∉ (entries.map (scrubEntry env)).map (·.1) ↔
        (entries.any (·.1.text == key.text)) = false := by
      rw [List.any_eq_false]
      simp [scrubEntry]
    have hvalue := scrubbed_scrubValue_iff htexts value (Option.isSome_iff_exists.2 ⟨d, hd⟩)
    have hrest := scrubbed_scrubEntries_iff htexts entries (Option.isSome_iff_exists.2 ⟨ds, hds⟩)
    rw [List.map_cons]
    simp only [mem_ofPairs_cons, hlater, or_imp, forall_and, hrest, entriesTuplesClean,
      Bool.and_eq_true, Bool.or_eq_true]
    refine and_congr_left fun _ => ?_
    rw [← hvalue]
    constructor
    · intro hentry
      cases hany : entries.any (·.1.text == key.text) with
      | true => exact .inl (.inr rfl)
      | false =>
        rcases (entryScrubbed_scrubEntry htexts).1 (hentry _ ⟨rfl, hany⟩) with hkey | hv
        · exact .inl (.inl hkey)
        · exact .inr hv
    · rintro hv _ ⟨rfl, hany⟩
      refine (entryScrubbed_scrubEntry htexts).2 ?_
      rcases hv with (hkey | hany') | hv
      · exact .inl hkey
      · rw [hany] at hany'
        cases hany'
      · exact .inr hv

end

end

-- ════════════════════════════════════════════════════════════════════════
-- Scrubbing again
-- ════════════════════════════════════════════════════════════════════════

section

variable {env : Env}

theorem scrubEntry_again {key : PyKey} {v : PyValue}
    (hv : scrubValue env (scrubValue env v) = scrubValue env v) :
    scrubEntry env (scrubEntry env (key, v)) = scrubEntry env (key, v) := by
  refine Prod.ext rfl ?_
  show (if isSecretKey env key.text then _ else scrubValue env (scrubEntry env (key, v)).2) =
    (scrubEntry env (key, v)).2
  rw [scrubEntry]
  split_ifs with hkey
  · rfl
  · exact hv

mutual

/-- **Scrubbing twice** is scrubbing once. -/
theorem scrubValue_again :
    ∀ v : PyValue, scrubValue env (scrubValue env v) = scrubValue env v
  | .none => rfl
  | .bool _ => rfl
  | .int _ => rfl
  | .float _ => rfl
  | .uuid _ => rfl
  | .datetime _ _ => rfl
  | .object _ => rfl
  | .tuple _ => rfl
  | .str s => by
    show PyValue.str (if isUrl env (if isUrl env s then redacted else s) then redacted
      else if isUrl env s then redacted else s) = .str (if isUrl env s then redacted else s)
    split_ifs <;> rfl
  | .list vs => by
    show PyValue.list (scrubItems env (scrubItems env vs)) = .list (scrubItems env vs)
    rw [scrubItems_again vs]
  | .dict entries => by
    have hkeys : ((ofPairs [] (entries.map (scrubEntry env))).map (·.1)).Nodup :=
      nodup_ofPairs List.nodup_nil
    have hfixed : (ofPairs [] (entries.map (scrubEntry env))).map (scrubEntry env) =
        ofPairs [] (entries.map (scrubEntry env)) := by
      refine (List.map_congr_left (g := id) fun entry hentry => ?_).trans (List.map_id _)
      rcases mem_ofPairs hentry with hnone | hentry
      · cases hnone
      · obtain ⟨given, hgiven, rfl⟩ := List.mem_map.1 hentry
        exact scrubEntries_again entries given hgiven
    rw [scrubValue_dict, scrubValue_dict, hfixed, ofPairs_of_nodup hkeys, List.nil_append]

theorem scrubItems_again :
    ∀ vs : List PyValue, scrubItems env (scrubItems env vs) = scrubItems env vs
  | [] => rfl
  | v :: vs => by
    show scrubValue env (scrubValue env v) :: scrubItems env (scrubItems env vs) =
      scrubValue env v :: scrubItems env vs
    rw [scrubValue_again v, scrubItems_again vs]

theorem scrubEntries_again : ∀ entries : List (PyKey × PyValue),
    ∀ entry ∈ entries, scrubEntry env (scrubEntry env entry) = scrubEntry env entry
  | [], _, h => absurd h List.not_mem_nil
  | (key, v) :: entries, entry, h => by
    rcases List.mem_cons.1 h with rfl | h
    · exact scrubEntry_again (scrubValue_again v)
    · exact scrubEntries_again entries entry h

end

-- ════════════════════════════════════════════════════════════════════════
-- What is posted and stored
-- ════════════════════════════════════════════════════════════════════════

variable {eventType : String} {context payload : List (PyKey × PyValue)}

theorem encodeEntries_isSome_iff {entries : List (PyKey × PyValue)} :
    (encodeEntries entries).isSome = true ↔
      ∀ entry ∈ entries, entry.1.name?.isSome = true ∧ entry.2.encode.isSome = true := by
  induction entries with
  | nil => exact iff_of_true rfl fun _ h => absurd h List.not_mem_nil
  | cons entry entries ih =>
    obtain ⟨key, value⟩ := entry
    rw [List.forall_mem_cons, ← ih]
    simp only [Option.isSome_iff_exists, encodeEntries_cons]
    constructor
    · rintro ⟨_, name, hname, d, hd, ds, hds, -⟩
      exact ⟨⟨⟨name, hname⟩, d, hd⟩, ds, hds⟩
    · rintro ⟨⟨⟨name, hname⟩, d, hd⟩, ds, hds⟩
      exact ⟨_, name, hname, d, hd, ds, hds, rfl⟩

theorem previewed_isSome (h : (encodeEntries context).isSome = true) :
    (encodeEntries (previewed eventType context)).isSome = true := by
  rw [encodeEntries_isSome_iff] at h ⊢
  intro entry hentry
  rcases mem_ofPairs hentry with hentry | hentry
  · rw [List.mem_singleton.1 hentry]
    exact ⟨rfl, rfl⟩
  · exact h entry hentry

/-- The safe context and the preview before building differ in the event type alone. -/
theorem mem_preview_of_mem_safe (hdict : (context.map (·.1)).Nodup) {entry : PyKey × PyValue}
    (hentry : entry ∈ ofPairs [] (context.map (scrubEntry env)))
    (hkey : entry.1 ≠ .str "event_type") :
    entry ∈ ofPairs [] ((previewed eventType context).map (scrubEntry env)) := by
  let isOther (key : PyKey) : Bool := decide (key ≠ .str "event_type")
  have hscrub (entries : List (PyKey × PyValue)) :
      (ofPairs [] (entries.map (scrubEntry env))).filter (fun kv => isOther kv.1) =
        ofPairs [] ((entries.filter fun kv => isOther (.str kv.1.text)).map (scrubEntry env)) := by
    rw [filter_ofPairs, List.filter_map]
    rfl
  have hcontext : (previewed eventType context).filter (fun kv => isOther (.str kv.1.text)) =
      context.filter fun kv => isOther (.str kv.1.text) := by
    have hkeys : ((([] : List (PyKey × PyValue)) ++
        context.filter fun kv => isOther (.str kv.1.text)).map (·.1)).Nodup :=
      hdict.sublist (List.filter_sublist.map _)
    rw [previewed, filter_ofPairs fun key : PyKey => isOther (.str key.text)]
    exact ofPairs_of_nodup hkeys
  have hmem : entry ∈ (ofPairs [] (context.map (scrubEntry env))).filter fun kv => isOther kv.1 :=
    List.mem_filter.2 ⟨hentry, decide_eq_true hkey⟩
  rw [hscrub, ← hcontext, ← hscrub] at hmem
  exact (List.mem_filter.1 hmem).1

/-- What is posted to a webhook that is not Slack's holds the event type, the date and the safe
context. -/
theorem scrubbed_generic (htexts : TextsKnown env) (hdict : (context.map (·.1)).Nodup)
    (hurl : isUrl env eventType = false)
    (hpreview : ∀ entry ∈ ofPairs [] ((previewed eventType context).map (scrubEntry env)),
      EntryScrubbed env entry) (t : Time) :
    Scrubbed env (.dict (setItem (.str "event_type") (.str eventType)
      (ofPairs [(.str "occurred_at", .str (env.isoformat t))] (scrubEntries env context [])))) := by
  have hkeys : ((ofPairs [(PyKey.str "occurred_at", PyValue.str (env.isoformat t))]
      (scrubEntries env context [])).map (·.1)).Nodup := nodup_ofPairs (List.nodup_singleton _)
  refine scrubbed_dict.2 fun entry hentry => ?_
  rcases (mem_setItem_iff hkeys).1 hentry with rfl | ⟨hentry, hkey⟩
  · exact (entryScrubbed_text (not_isSecretKey htexts (by decide) (by decide))).2
      (scrubbed_str.2 hurl)
  · rcases mem_ofPairs hentry with hentry | hentry
    · rw [List.mem_singleton.1 hentry]
      exact (entryScrubbed_text (not_isSecretKey htexts (by decide) (by decide))).2
        (scrubbed_str.2 (not_isUrl_isoformat htexts t))
    · rw [scrubEntries_eq] at hentry
      exact hpreview entry (mem_preview_of_mem_safe hdict hentry hkey)

/-- What is posted to Slack has its own keys, and texts that begin with its own words. -/
theorem scrubbed_slack (htexts : TextsKnown env) (outside : Outside) :
    Scrubbed env (.dict (buildSlackPayload outside eventType context)) := by
  have htext : isSecretKey env "text" = false := not_isSecretKey htexts (by decide) (by decide)
  have htype : isSecretKey env "type" = false := not_isSecretKey htexts (by decide) (by decide)
  have hblocks : isSecretKey env "blocks" = false :=
    not_isSecretKey htexts (by decide) (by decide)
  have hwords {text : String} {c : Char} (h : ∃ cs, text.toList = c :: cs)
      (hascii : c.toNat < 128) (hc : unifySigma c.toLower ≠ 'h') : Scrubbed env (.str text) := by
    obtain ⟨cs, hcs⟩ := h
    exact scrubbed_str.2 (not_isUrl_of_head htexts hcs hascii hc)
  have hsection : Scrubbed env (.str "section") := hwords (c := 's') ⟨_, rfl⟩ (by decide) (by decide)
  have hmrkdwn : Scrubbed env (.str "mrkdwn") := hwords (c := 'm') ⟨_, rfl⟩ (by decide) (by decide)
  simp only [buildSlackPayload, scrubbed_dict, scrubbed_list, List.forall_mem_cons,
    List.not_mem_nil, false_imp_iff, implies_true, and_true, entryScrubbed_text htext,
    entryScrubbed_text htype, entryScrubbed_text hblocks]
  have htitle (text : String) : ∃ cs, (("Runbook event " ++ text).toList) = 'R' :: cs := by
    rw [String.toList_append]
    exact ⟨_, rfl⟩
  have hlines (text : String) (lines : List String) :
      ∃ cs, ("\n".intercalate (("*Event:* `" ++ text) :: lines)).toList = '*' :: cs := by
    rw [String.toList_intercalate, List.map_cons, String.toList_append]
    cases lines with
    | nil => exact ⟨_, rfl⟩
    | cons line lines => exact ⟨_, rfl⟩
  refine ⟨hwords (c := 'R') ?_ (by decide) (by decide), hsection, hmrkdwn,
    hwords (c := '*') ?_ (by decide) (by decide)⟩
  · simp only [String.append_assoc]
    exact htitle _
  · simp only [slackLines, List.cons_append, List.append_assoc, String.append_assoc]
    exact hlines _ _

variable (env eventType context) in
/-- A delivery posts nothing and stores the preview before building, or posts the payload and
stores its preview. -/
theorem notifyConnection_cases (outside : Outside) (connection : IntegrationConnection) :
    (notifyConnection env outside connection eventType context).1 = none ∧
        (notifyConnection env outside connection eventType context).2.payloadPreview =
          payloadPreview env eventType context ∨
      (notifyConnection env outside connection eventType context).1 =
          some (buildPayload env outside connection eventType context) ∧
        (notifyConnection env outside connection eventType context).2.payloadPreview =
          payloadPreviewFromPayload env (buildPayload env outside connection eventType context) := by
  unfold notifyConnection
  cases webhookUrl outside connection with
  | error exc => exact .inl ⟨rfl, rfl⟩
  | ok url =>
    dsimp only
    cases dispatchWebhook outside url (buildPayload env outside connection eventType context) with
    | error exc => exact .inr ⟨rfl, rfl⟩
    | ok outcome => exact .inr ⟨rfl, rfl⟩

/-- The preview before building is clean when the tuples of what it shows are. -/
theorem preview_scrubbed_iff (htexts : TextsKnown env)
    (hjson : (PyValue.dict context).encode.isSome = true) :
    Scrubbed env (.dict (payloadPreview env eventType context)) ↔
      entriesTuplesClean env (previewed eventType context) = true := by
  have hentries : (encodeEntries context).isSome = true := by
    simpa [PyValue.encode] using hjson
  rw [payloadPreview, payloadPreviewFromPayload_eq, scrubbed_dict]
  exact scrubbed_scrubEntries_iff htexts _ (previewed_isSome hentries)

/-- A clean payload has a clean preview. -/
theorem preview_of_payload (htexts : TextsKnown env) (h : Scrubbed env (.dict payload)) :
    Scrubbed env (.dict (payloadPreviewFromPayload env payload)) := by
  have hclean := (scrubbed_scrubValue_iff htexts (.dict payload)
    (Option.isSome_iff_exists.2 (h.imp fun _ hd => hd.1))).2 (tuplesClean_of_scrubbed _ h)
  rwa [scrubValue_dict, ← payloadPreviewFromPayload_eq] at hclean

/-- `SUPPORTED_EVENT_TYPES`. -/
def supportedEventTypes : List String :=
  ["execution.created", "execution.started", "execution.completed", "execution.failed",
    "execution.approval_timeout", "execution.cancelled", "execution_step.failed",
    "execution_step.started", "execution_step.waiting_for_approval", "approval.requested",
    "approval.timeout", "approval.decided", "approval.approved", "approval.rejected",
    "artifact.uploaded"]

/-- No event type of the service is a URL. -/
theorem not_isUrl_supported (htexts : TextsKnown env) {event : String}
    (h : event ∈ supportedEventTypes) : isUrl env event = false := by
  have hheads : (supportedEventTypes.all fun event => event.toList.head?.any fun c =>
      decide (c.toNat < 128) && decide (unifySigma c.toLower ≠ 'h')) = true := by decide
  obtain ⟨c, hc, hhead⟩ := (Option.any_eq_true _ _).1 (List.all_eq_true.1 hheads event h)
  rw [Bool.and_eq_true, decide_eq_true_eq, decide_eq_true_eq] at hhead
  obtain ⟨hascii, hne⟩ := hhead
  cases hchars : event.toList with
  | nil => simp [hchars] at hc
  | cons x xs =>
    obtain rfl : x = c := by simpa [hchars] using hc
    exact not_isUrl_of_head htexts hchars hascii hne

/-- A destination that is allowed and answers. -/
def answering : Outside where
  validateOutboundUrl _ := .ok ()
  post _ _ := .ok 200
  now := 0
  elapsedMs := 0
  str _ := ""

def genericWebhook : IntegrationConnection where
  type := .genericWebhook
  credentials := .ok [(.str "url", .str "https://hooks.example")]

/-- A connection without credentials. -/
def unconfigured : IntegrationConnection where
  type := .genericWebhook
  credentials := .error (.validation "" "")

theorem posted_answering :
    (notifyConnection env answering genericWebhook eventType context).1 =
      some (buildPayload env answering genericWebhook eventType context) := rfl

theorem stored_unconfigured :
    (notifyConnection env answering unconfigured eventType context).2.payloadPreview =
      payloadPreview env eventType context := rfl

/-- **Webhook payloads**: whatever is posted or stored for a serializable context is clean,
exactly when the event type is no URL and the tuples that the scrubber meets in the preview
before building are clean. -/
theorem webhooks_scrubbed_iff (htexts : TextsKnown env) (hdict : (context.map (·.1)).Nodup)
    (hjson : (PyValue.dict context).encode.isSome = true) :
    WebhooksScrubbed env eventType context ↔
      isUrl env eventType = false ∧
        entriesTuplesClean env (previewed eventType context) = true := by
  constructor
  · intro h
    have hposted := scrubbed_dict.1 (h.posted answering genericWebhook _ posted_answering)
    have hone : (([(.str "occurred_at", .str (env.isoformat answering.now))] :
        List (PyKey × PyValue)).map (·.1)).Nodup := List.nodup_singleton _
    have hmem : (PyKey.str "event_type", PyValue.str eventType) ∈
        buildPayload env answering genericWebhook eventType context :=
      (mem_setItem_iff (nodup_ofPairs hone)).2 (.inl rfl)
    obtain ⟨-, -, -, hevent⟩ := hposted _ hmem
    have hstored := h.stored answering unconfigured
    rw [stored_unconfigured] at hstored
    exact ⟨scrubbed_str.1 hevent, (preview_scrubbed_iff htexts hjson).1 hstored⟩
  · rintro ⟨hurl, htuples⟩
    have hpreview := (preview_scrubbed_iff htexts hjson).2 htuples
    have hentries : ∀ entry ∈ ofPairs [] ((previewed eventType context).map (scrubEntry env)),
        EntryScrubbed env entry := by
      rw [payloadPreview, payloadPreviewFromPayload_eq] at hpreview
      exact scrubbed_dict.1 hpreview
    have hpayload (outside : Outside) (connection : IntegrationConnection) :
        Scrubbed env (.dict (buildPayload env outside connection eventType context)) := by
      unfold buildPayload
      cases connection.type with
      | slackWebhook => exact scrubbed_slack htexts outside
      | genericWebhook => exact scrubbed_generic htexts hdict hurl hentries outside.now
      | pagerduty => exact scrubbed_generic htexts hdict hurl hentries outside.now
    refine ⟨fun outside connection payload hposted => ?_, fun outside connection => ?_,
      scrubValue_again _⟩
    · rcases notifyConnection_cases env eventType context
        outside connection with ⟨hnone, -⟩ | ⟨hsome, -⟩
      · rw [hnone] at hposted
        cases hposted
      · rw [hsome] at hposted
        obtain rfl := Option.some.inj hposted
        exact hpayload outside connection
    · rcases notifyConnection_cases env eventType context
        outside connection with ⟨-, hstored⟩ | ⟨-, hstored⟩
      · rw [hstored]
        exact hpreview
      · rw [hstored]
        exact preview_of_payload htexts (hpayload outside connection)

/-- An environment that lowers ASCII texts and writes dates by their seconds. -/
def dated : Env :=
  { Env.ascii with isoformat := fun t => "1970-01-01T00:00:" ++ toString t }

theorem textsKnown_dated : TextsKnown dated where
  lowersAscii _ _ := rfl
  lowersChars := by
    refine ⟨fun c => [unifySigma c.toLower], fun _ => List.cons_ne_nil _ _, fun text => ?_⟩
    show (String.ofList (text.toList.map Char.toLower)).toList.map unifySigma = _
    rw [String.toList_ofList, List.map_map]
    exact List.map_eq_flatMap
  isoformat t := by
    refine ⟨'1', ?_, by decide⟩
    show '1' ∈ ("1970-01-01T00:00:" ++ toString t).toList.head?
    rw [String.toList_append]
    rfl

/-- A context with a URL and a nested token, and a tuple of names. -/
theorem webhooks_scrubbed_nested :
    WebhooksScrubbed dated "execution.failed"
        [(.str "runbook_link", .str "HTTPS://internal"), (.int 1, .list [
          .dict [(.str "Token", .str "x")]]), (.str "names", .tuple [.str "build"])] ↔
      isUrl dated "execution.failed" = false ∧
        entriesTuplesClean dated (previewed "execution.failed"
          [(.str "runbook_link", .str "HTTPS://internal"), (.int 1, .list [
            .dict [(.str "Token", .str "x")]]), (.str "names", .tuple [.str "build"])]) = true :=
  webhooks_scrubbed_iff textsKnown_dated (by decide) (by decide)

/-- A tuple carries a token into the preview. -/
theorem tuple_keeps_token :
    ¬∀ (eventType : String) (context : List (PyKey × PyValue)),
      (context.map (·.1)).Nodup → (PyValue.dict context).encode.isSome = true →
        WebhooksScrubbed dated eventType context := by
  intro h
  have hstored := (h "execution.failed" [(.str "steps", .tuple [.dict [(.str "token", .str "x")]])]
    (by decide) (by decide)).stored answering unconfigured
  obtain ⟨d, hd, hclean⟩ := hstored
  have hdirty : (PyValue.dict (payloadPreview dated "execution.failed"
      [(.str "steps", .tuple [.dict [(.str "token", .str "x")]])])).encode.all (isClean dated) =
        false := by decide +kernel
  rw [stored_unconfigured] at hd
  rw [hd, Option.all_some, hclean] at hdirty
  cases hdirty

end

end RunbookPlatform.IntegrationService
