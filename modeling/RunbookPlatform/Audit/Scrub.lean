import RunbookPlatform.Core.Python
import RunbookPlatform.System

/-!
# Scrubbing of audit metadata

`AuditService.emit` removes the members of the metadata whose keys are sensitive. The scrubber
descends into dicts and lists; `json.dumps` writes tuples too, and their members pass unread.

## Main definitions

- `scrubMetadata` — `_scrub_metadata`
- `emitMetadata` — what `emit` does with its metadata
- `Doc.strip`, `Doc.Clean` — a document without the sensitive members
- `PyValue.Covered` — the scrubber reads what the encoder writes

## Main results

- `audit_metadata_scrubbed_iff` — when the stored document is the given one, stripped
-/

namespace RunbookPlatform

/-- `FORBIDDEN_METADATA_KEYS`. -/
def forbiddenMetadataKeys : List String :=
  ["api_key", "api_token", "apikey", "apitoken", "auth", "auth_header", "authorization",
    "authorization_header", "bearer", "bearer_token", "change_dispatch_token", "claim_token",
    "command", "command_output", "cookie", "dispatch_token", "dispatch_token_hash",
    "dispatch_token_nonce", "headers", "http_headers", "iam_policy_document", "kube_config",
    "password", "private_key", "raw_command", "raw_command_output", "raw_output", "raw_manifest",
    "raw_response", "raw_response_body", "raw_external_payload", "raw_external_response",
    "raw_external_snapshot", "external_snapshot", "external_snapshots", "request_body",
    "request_snapshot", "requested_inputs", "secret", "session", "session_token", "token",
    "token_hash", "registration_token", "registration_token_hash", "runner_token",
    "runner_token_hash", "runner_bearer_token", "runner_registration_token",
    "runner_registration_token_hash", "access_token", "refresh_token", "id_token",
    "client_secret", "credentials", "credential", "target_credential", "target_credentials",
    "target_secret", "target_secrets", "secrets", "auth_material", "authentication",
    "auth_headers", "proxy_authorization", "bundle_bytes", "download_url", "ticket_url",
    "ticket_urls", "external_ticket_url", "external_ticket_urls", "manifest", "manifest_json",
    "private_url", "private_urls", "presigned_url", "presigned_urls", "storage_key",
    "activation_ip", "api_assertion_response", "attestation_note", "attestation_notes",
    "attestation_text", "external_access_token", "manual_attestation_text", "override_payload",
    "privilege", "raw_scope", "grant_scope_raw", "raw_grant_scope", "scope_raw", "scope_payload",
    "grant_scope_payload", "request_payload", "response_body", "scope_json",
    "verification_secret", "webhook_url", "workflow_snapshot", "x_api_key", "cloud_account",
    "kubeconfig", "kube_config_file", "checksums", "zip_bytes", "export_bytes", "redacted_value",
    "original_value", "redaction_payload", "receipt_payload", "legal_hold_reason_raw",
    "external_reference_raw", "external_url", "external_urls", "artifact_bytes",
    "auditor_grant_scope", "auditor_scope", "grant_scope", "reference_url", "reference_urls",
    "scope", "source_url", "source_urls", "url", "urls"]

/-- `REJECTED_METADATA_KEYS`. -/
def rejectedMetadataKeys : List String :=
  ["breakglass_token", "change_dispatch_token", "dispatch_token", "dispatch_token_hash",
    "registration_token", "runner_bearer_token", "runner_registration_token", "token_hash",
    "requested_inputs", "request_snapshot"]

/-- `MAX_METADATA_BYTES`. -/
def maxMetadataBytes : ℕ := 16 * 1024

section

variable (env : Env)

-- ════════════════════════════════════════════════════════════════════════
-- The scrubber
-- ════════════════════════════════════════════════════════════════════════

mutual

/-- `_scrub_value`. -/
def scrubValue : PyValue → Except Err PyValue
  | .dict entries => do
    let safe ← scrubEntries entries []
    pure (.dict safe)
  | .list items => do
    let items ← scrubItems items
    pure (.list items)
  | value => pure value

def scrubItems : List PyValue → Except Err (List PyValue)
  | [] => pure []
  | item :: items => do
    let item ← scrubValue item
    let items ← scrubItems items
    pure (item :: items)

/-- The loop of `_scrub_metadata`. -/
def scrubEntries :
    List (PyKey × PyValue) → List (PyKey × PyValue) → Except Err (List (PyKey × PyValue))
  | [], safe => pure safe
  | (key, value) :: entries, safe =>
    if env.lower key.text ∈ rejectedMetadataKeys then
      .error (.validation "" s!"Audit metadata contains forbidden key '{key.text}'.")
    else if env.lower key.text ∈ forbiddenMetadataKeys then scrubEntries entries safe
    else do
      let value ← scrubValue value
      scrubEntries entries (setItem (.str key.text) value safe)

end

/-- `_scrub_metadata`. -/
def scrubMetadata (metadata : List (PyKey × PyValue)) : Except Err (List (PyKey × PyValue)) :=
  scrubEntries env metadata []

/-- `_validate_metadata_size`. -/
def validateMetadataSize (metadata : List (PyKey × PyValue)) : Except Err Unit :=
  match (PyValue.dict metadata).encode with
  | none => .error (.validation "" "Audit metadata must be JSON serializable.")
  | some doc =>
    check ((doc.dumps (Json.quote Json.escapeAscii)).utf8ByteSize ≤ maxMetadataBytes)
      (.validation "" "Audit metadata must be smaller than 16 KB.")

/-- The metadata that `AuditService.emit` stores. -/
def emitMetadata (metadata : PyValue) : Except Err (List (PyKey × PyValue)) := do
  let metadata ← match metadata with
    | .none => pure []
    | .dict metadata => pure metadata
    | _ => .error (.validation "" "Audit metadata must be a JSON object.")
  let scrubbed ← scrubMetadata env metadata
  validateMetadataSize scrubbed
  pure scrubbed

-- ════════════════════════════════════════════════════════════════════════
-- Sensitive members
-- ════════════════════════════════════════════════════════════════════════

/-- The name equals a rejected or a forbidden key, whatever its case. -/
def isSensitive (name : String) : Bool :=
  env.lower name ∈ rejectedMetadataKeys || env.lower name ∈ forbiddenMetadataKeys

mutual

/-- The document without the members whose names are sensitive, at any depth. -/
def Doc.strip : Doc → Doc
  | .arr items => .arr (stripDocs items)
  | .obj members => .obj (stripMembers members)
  | d => d

def stripDocs : List Doc → List Doc
  | [] => []
  | d :: ds => d.strip :: stripDocs ds

def stripMembers : List (String × Doc) → List (String × Doc)
  | [] => []
  | (name, d) :: ds =>
    if isSensitive env name then stripMembers ds else (name, d.strip) :: stripMembers ds

end

mutual

/-- No member has a sensitive name, at any depth. -/
def Doc.isClean : Doc → Bool
  | .arr items => areClean items
  | .obj members => membersClean members
  | _ => true

def areClean : List Doc → Bool
  | [] => true
  | d :: ds => d.isClean && areClean ds

def membersClean : List (String × Doc) → Bool
  | [] => true
  | (name, d) :: ds => !isSensitive env name && d.isClean && membersClean ds

end

/-- The entries that the scrubber keeps. -/
def keptEntries (entries : List (PyKey × PyValue)) : List (PyKey × PyValue) :=
  entries.filter fun entry => !isSensitive env entry.1.text

mutual

/-- The scrubber reads what the encoder writes: a tuple has no sensitive member at any depth,
and a kept key is written as its `str`, which no other kept key shares. -/
def PyValue.Covered : PyValue → Prop
  | .list items => CoveredItems items
  | .tuple items => ((PyValue.tuple items).encode.all (Doc.isClean env)) = true
  | .dict entries =>
    CoveredEntries entries ∧ ((keptEntries env entries).map (·.1.text)).Nodup
  | _ => True

def CoveredItems : List PyValue → Prop
  | [] => True
  | item :: items => item.Covered ∧ CoveredItems items

def CoveredEntries : List (PyKey × PyValue) → Prop
  | [] => True
  | (key, value) :: entries =>
    (isSensitive env key.text = false → key.name? = some key.text ∧ value.Covered) ∧
      CoveredEntries entries

end

/-- The stored document is the given one without its sensitive members, and scrubbing it again
changes nothing. -/
structure ScrubbedTo (doc stored : Doc) (metadata : List (PyKey × PyValue)) : Prop where
  encoded : (PyValue.dict metadata).encode = some stored
  clean : stored.isClean env = true
  preserved : stored = doc.strip env
  again : scrubMetadata env metadata = .ok metadata

/-- An ASCII text in lower case. -/
def asciiLower (text : String) : String := String.ofList (text.toList.map Char.toLower)

/-- `str.lower()` on ASCII texts. -/
def LowersAscii (lower : String → String) : Prop :=
  ∀ text : String, text.toList.all (·.toNat < 128) = true → lower text = asciiLower text

-- ════════════════════════════════════════════════════════════════════════
-- Clean documents
-- ════════════════════════════════════════════════════════════════════════

variable {env} {v : PyValue} {vs : List PyValue} {k : PyKey} {entries : List (PyKey × PyValue)}

theorem stripMembers_of_sensitive {name : String} {d : Doc} {ds : List (String × Doc)}
    (h : isSensitive env name = true) : stripMembers env ((name, d) :: ds) = stripMembers env ds :=
  if_pos h

theorem stripMembers_of_kept {name : String} {d : Doc} {ds : List (String × Doc)}
    (h : isSensitive env name = false) :
    stripMembers env ((name, d) :: ds) = (name, d.strip env) :: stripMembers env ds :=
  if_neg (Bool.eq_false_iff.1 h)

mutual

/-- **Stripped documents** are clean. -/
theorem isClean_strip : ∀ d : Doc, (d.strip env).isClean env = true
  | .null => rfl
  | .bool _ => rfl
  | .int _ => rfl
  | .float _ => rfl
  | .str _ => rfl
  | .arr items => areClean_strip items
  | .obj members => membersClean_strip members

theorem areClean_strip : ∀ ds : List Doc, areClean env (stripDocs env ds) = true
  | [] => rfl
  | d :: ds => by
    show ((d.strip env).isClean env && areClean env (stripDocs env ds)) = true
    rw [isClean_strip d, areClean_strip ds]
    rfl

theorem membersClean_strip :
    ∀ ds : List (String × Doc), membersClean env (stripMembers env ds) = true
  | [] => rfl
  | (name, d) :: ds => by
    cases hname : isSensitive env name with
    | true =>
      rw [stripMembers_of_sensitive hname]
      exact membersClean_strip ds
    | false =>
      rw [stripMembers_of_kept hname]
      show (!isSensitive env name && (d.strip env).isClean env &&
        membersClean env (stripMembers env ds)) = true
      rw [hname, isClean_strip d, membersClean_strip ds]
      rfl

end

mutual

/-- Stripping leaves a clean document alone. -/
theorem strip_of_isClean : ∀ d : Doc, d.isClean env = true → d.strip env = d
  | .null, _ => rfl
  | .bool _, _ => rfl
  | .int _, _ => rfl
  | .float _, _ => rfl
  | .str _, _ => rfl
  | .arr items, h => congrArg Doc.arr (strip_of_areClean items h)
  | .obj members, h => congrArg Doc.obj (strip_of_membersClean members h)

theorem strip_of_areClean : ∀ ds : List Doc, areClean env ds = true → stripDocs env ds = ds
  | [], _ => rfl
  | d :: ds, h => by
    obtain ⟨hd, hds⟩ := Bool.and_eq_true_iff.1 (show (d.isClean env && areClean env ds) = true from h)
    show d.strip env :: stripDocs env ds = d :: ds
    rw [strip_of_isClean d hd, strip_of_areClean ds hds]

theorem strip_of_membersClean :
    ∀ ds : List (String × Doc), membersClean env ds = true → stripMembers env ds = ds
  | [], _ => rfl
  | (name, d) :: ds, h => by
    obtain ⟨hhead, hds⟩ := Bool.and_eq_true_iff.1
      (show (!isSensitive env name && d.isClean env && membersClean env ds) = true from h)
    obtain ⟨hname, hd⟩ := Bool.and_eq_true_iff.1 hhead
    rw [stripMembers_of_kept (by simpa using hname), strip_of_isClean d hd,
      strip_of_membersClean ds hds]

end

/-- A document is clean when stripping leaves it alone. -/
theorem strip_eq_self_iff {d : Doc} : d.strip env = d ↔ d.isClean env = true :=
  ⟨fun h => h ▸ isClean_strip d, strip_of_isClean d⟩

-- ════════════════════════════════════════════════════════════════════════
-- What the scrubber keeps
-- ════════════════════════════════════════════════════════════════════════

/-- The pairs that the loop of `_scrub_metadata` assigns. -/
def scrubPairs (env : Env) : List (PyKey × PyValue) → Except Err (List (PyKey × PyValue))
  | [] => pure []
  | (key, value) :: entries =>
    if env.lower key.text ∈ rejectedMetadataKeys then
      .error (.validation "" s!"Audit metadata contains forbidden key '{key.text}'.")
    else if env.lower key.text ∈ forbiddenMetadataKeys then scrubPairs env entries
    else do
      let value ← scrubValue env value
      let pairs ← scrubPairs env entries
      pure ((.str key.text, value) :: pairs)

/-- A sensitive entry is left out, if the scrubber goes on after it. -/
theorem scrubPairs_of_sensitive {pairs : List (PyKey × PyValue)}
    (hkey : isSensitive env k.text = true)
    (h : scrubPairs env ((k, v) :: entries) = .ok pairs) : scrubPairs env entries = .ok pairs := by
  rw [scrubPairs] at h
  split_ifs at h with hrejected hforbidden
  · exact h
  · simp [isSensitive, hrejected, hforbidden] at hkey

theorem scrubPairs_of_kept {pairs : List (PyKey × PyValue)}
    (hkey : isSensitive env k.text = false) :
    scrubPairs env ((k, v) :: entries) = .ok pairs ↔
      ∃ value, scrubValue env v = .ok value ∧ ∃ rest, scrubPairs env entries = .ok rest ∧
        (.str k.text, value) :: rest = pairs := by
  simp only [isSensitive, Bool.or_eq_false_iff, decide_eq_false_iff_not] at hkey
  rw [scrubPairs, if_neg hkey.1, if_neg hkey.2]
  simp only [except_bind_ok, pure, Except.pure, Except.ok.injEq]

/-- The loop assigns its pairs one after another. -/
theorem scrubEntries_ok {safe scrubbed : List (PyKey × PyValue)} :
    scrubEntries env entries safe = .ok scrubbed ↔
      ∃ pairs, scrubPairs env entries = .ok pairs ∧ ofPairs safe pairs = scrubbed := by
  induction entries generalizing safe with
  | nil =>
    show Except.ok safe = .ok scrubbed ↔ ∃ pairs, Except.ok [] = .ok pairs ∧ _
    simp [ofPairs]
  | cons entry entries ih =>
    obtain ⟨key, value⟩ := entry
    show (if env.lower key.text ∈ rejectedMetadataKeys then _
      else if env.lower key.text ∈ forbiddenMetadataKeys then _ else _) = _ ↔ _
    rw [scrubPairs]
    split_ifs with hrejected hforbidden
    · simp
    · exact ih
    · simp only [except_bind_ok, ih, pure, Except.pure, Except.ok.injEq]
      constructor
      · rintro ⟨a, ha, pairs, hpairs, rfl⟩
        exact ⟨_, ⟨a, ha, pairs, hpairs, rfl⟩, rfl⟩
      · rintro ⟨_, ⟨a, ha, pairs, hpairs, rfl⟩, rfl⟩
        exact ⟨a, ha, pairs, hpairs, rfl⟩

theorem scrubValue_dict {s : PyValue} :
    scrubValue env (.dict entries) = .ok s ↔
      ∃ pairs, scrubPairs env entries = .ok pairs ∧ .dict (ofPairs [] pairs) = s := by
  show (scrubEntries env entries [] >>= fun safe => pure (PyValue.dict safe)) = .ok s ↔ _
  simp only [except_bind_ok, scrubEntries_ok, pure, Except.pure, Except.ok.injEq]
  constructor
  · rintro ⟨_, ⟨pairs, hpairs, rfl⟩, rfl⟩
    exact ⟨pairs, hpairs, rfl⟩
  · rintro ⟨pairs, hpairs, rfl⟩
    exact ⟨_, ⟨pairs, hpairs, rfl⟩, rfl⟩

theorem scrubValue_list {s : PyValue} :
    scrubValue env (.list vs) = .ok s ↔ ∃ items, scrubItems env vs = .ok items ∧ .list items = s := by
  show (scrubItems env vs >>= fun items => pure (PyValue.list items)) = .ok s ↔ _
  simp only [except_bind_ok, pure, Except.pure, Except.ok.injEq]

theorem scrubItems_cons {items : List PyValue} :
    scrubItems env (v :: vs) = .ok items ↔
      ∃ item, scrubValue env v = .ok item ∧ ∃ rest, scrubItems env vs = .ok rest ∧
        item :: rest = items := by
  show (scrubValue env v >>= fun item => scrubItems env vs >>= fun rest =>
    pure (item :: rest)) = .ok items ↔ _
  simp only [except_bind_ok, pure, Except.pure, Except.ok.injEq]

/-- The keys of the pairs are those of the kept entries, as texts. -/
theorem scrubPairs_keys {pairs : List (PyKey × PyValue)} (h : scrubPairs env entries = .ok pairs) :
    pairs.map (·.1) = (keptEntries env entries).map fun entry => .str entry.1.text := by
  induction entries generalizing pairs with
  | nil =>
    cases h
    rfl
  | cons entry entries ih =>
    obtain ⟨key, value⟩ := entry
    cases hkey : isSensitive env key.text with
    | true =>
      rw [keptEntries, List.filter_cons_of_neg (by simp [hkey])]
      exact ih (scrubPairs_of_sensitive hkey h)
    | false =>
      obtain ⟨value', -, rest, hrest, rfl⟩ := (scrubPairs_of_kept hkey).1 h
      rw [keptEntries, List.filter_cons_of_pos (by simp [hkey]), List.map_cons, List.map_cons,
        ih hrest]
      rfl

-- ════════════════════════════════════════════════════════════════════════
-- Scrubbing again
-- ════════════════════════════════════════════════════════════════════════

/-- Scrubbed pairs with distinct keys are scrubbed to themselves. -/
theorem scrubPairs_of_scrubbed {pairs : List (PyKey × PyValue)}
    (h : ∀ pair ∈ pairs, ∃ text value, (.str text, value) = pair ∧
      isSensitive env text = false ∧ scrubValue env value = .ok value) :
    scrubPairs env pairs = .ok pairs := by
  induction pairs with
  | nil => rfl
  | cons pair pairs ih =>
    obtain ⟨text, value, rfl, htext, hvalue⟩ := h pair List.mem_cons_self
    exact (scrubPairs_of_kept (k := .str text) htext).2
      ⟨value, hvalue, pairs, ih fun other hother => h other (List.mem_cons_of_mem _ hother), rfl⟩

theorem scrubEntries_of_scrubbed {pairs : List (PyKey × PyValue)}
    (h : ∀ pair ∈ pairs, ∃ text value, (.str text, value) = pair ∧
      isSensitive env text = false ∧ scrubValue env value = .ok value) :
    scrubEntries env (ofPairs [] pairs) [] = .ok (ofPairs [] pairs) := by
  have hdict : ((ofPairs [] pairs).map (·.1)).Nodup := nodup_ofPairs List.nodup_nil
  refine scrubEntries_ok.2 ⟨ofPairs [] pairs, scrubPairs_of_scrubbed fun pair hpair => ?_,
    ofPairs_of_nodup hdict⟩
  rcases mem_ofPairs hpair with hnone | hpair
  · cases hnone
  · exact h pair hpair

mutual

/-- **Scrubbing twice** is scrubbing once. -/
theorem scrubValue_again : ∀ (v : PyValue) {s : PyValue}, scrubValue env v = .ok s →
    scrubValue env s = .ok s
  | .none, _, rfl => rfl
  | .bool _, _, rfl => rfl
  | .int _, _, rfl => rfl
  | .float _, _, rfl => rfl
  | .str _, _, rfl => rfl
  | .uuid _, _, rfl => rfl
  | .datetime _ _, _, rfl => rfl
  | .object _, _, rfl => rfl
  | .tuple _, _, rfl => rfl
  | .list vs, s, h => by
    obtain ⟨items, hitems, rfl⟩ := scrubValue_list.1 h
    exact scrubValue_list.2 ⟨items, scrubItems_again vs hitems, rfl⟩
  | .dict entries, s, h => by
    obtain ⟨pairs, hpairs, rfl⟩ := scrubValue_dict.1 h
    show (scrubEntries env (ofPairs [] pairs) [] >>= fun safe => pure (PyValue.dict safe)) = _
    rw [scrubEntries_of_scrubbed (scrubPairs_again entries hpairs)]
    rfl

theorem scrubItems_again : ∀ (vs : List PyValue) {items : List PyValue},
    scrubItems env vs = .ok items → scrubItems env items = .ok items
  | [], _, rfl => rfl
  | v :: vs, items, h => by
    obtain ⟨item, hitem, rest, hrest, rfl⟩ := scrubItems_cons.1 h
    exact scrubItems_cons.2
      ⟨item, scrubValue_again v hitem, rest, scrubItems_again vs hrest, rfl⟩

theorem scrubPairs_again : ∀ (entries : List (PyKey × PyValue)) {pairs : List (PyKey × PyValue)},
    scrubPairs env entries = .ok pairs →
      ∀ pair ∈ pairs, ∃ text value, (.str text, value) = pair ∧
        isSensitive env text = false ∧ scrubValue env value = .ok value
  | [], _, rfl => fun _ hpair => absurd hpair List.not_mem_nil
  | (key, value) :: entries, pairs, h => by
    cases hkey : isSensitive env key.text with
    | true => exact scrubPairs_again entries (scrubPairs_of_sensitive hkey h)
    | false =>
      obtain ⟨value', hvalue, rest, hrest, rfl⟩ := (scrubPairs_of_kept hkey).1 h
      intro pair hpair
      rcases List.mem_cons.1 hpair with rfl | hpair
      · exact ⟨key.text, value', rfl, hkey, scrubValue_again value hvalue⟩
      · exact scrubPairs_again entries hrest pair hpair

end

-- ════════════════════════════════════════════════════════════════════════
-- What is stored
-- ════════════════════════════════════════════════════════════════════════

/-- A key is sensitive by its `str` when it is by the name it is written with. -/
theorem isSensitive_name (hlower : LowersAscii env.lower) {name : String}
    (h : k.name? = some name) : isSensitive env name = isSensitive env k.text := by
  have hsame {a b : String} (ha : a.toList.all (·.toNat < 128) = true)
      (hb : b.toList.all (·.toNat < 128) = true) (hab : asciiLower a = asciiLower b) :
      isSensitive env a = isSensitive env b := by
    rw [isSensitive, isSensitive, hlower a ha, hlower b hb, hab]
  have hplain {a b : String} (ha : a.toList.all (·.toNat < 128) = true)
      (hb : b.toList.all (·.toNat < 128) = true)
      (hna : asciiLower a ∉ rejectedMetadataKeys ++ forbiddenMetadataKeys)
      (hnb : asciiLower b ∉ rejectedMetadataKeys ++ forbiddenMetadataKeys) :
      isSensitive env a = isSensitive env b := by
    rw [List.mem_append, not_or] at hna hnb
    simp [isSensitive, hlower a ha, hlower b hb, hna, hnb]
  cases k with
  | str s => cases h; rfl
  | int n => cases h; rfl
  | bool b =>
    cases h
    cases b <;> exact hsame (by decide) (by decide) (by decide)
  | none =>
    cases h
    exact hplain (by decide) (by decide) (by decide) (by decide)
  | object text => cases h
  | float x =>
    cases h
    cases x with
    | finite repr => rfl
    | nan => exact hsame (by decide) (by decide) (by decide)
    | inf => exact hplain (by decide) (by decide) (by decide) (by decide)
    | negInf => exact hplain (by decide) (by decide) (by decide) (by decide)

/-- As many members are left as entries are kept. -/
theorem length_stripMembers (hlower : LowersAscii env.lower) {ds : List (String × Doc)}
    (h : encodeEntries entries = some ds) :
    (stripMembers env ds).length = (keptEntries env entries).length := by
  induction entries generalizing ds with
  | nil =>
    cases h
    rfl
  | cons entry entries ih =>
    obtain ⟨key, value⟩ := entry
    obtain ⟨name, hname, d, -, ds', hds, rfl⟩ := encodeEntries_cons.1 h
    cases hkey : isSensitive env key.text with
    | true =>
      rw [stripMembers_of_sensitive ((isSensitive_name hlower hname).trans hkey), keptEntries,
        List.filter_cons_of_neg (by simp [hkey])]
      exact ih hds
    | false =>
      rw [stripMembers_of_kept ((isSensitive_name hlower hname).trans hkey), keptEntries,
        List.filter_cons_of_pos (by simp [hkey]), List.length_cons, List.length_cons, ih hds]
      rfl

/-- The pairs make a `dict` of the same length when the kept keys have distinct texts. -/
theorem length_ofPairs_iff {pairs : List (PyKey × PyValue)}
    (h : scrubPairs env entries = .ok pairs) :
    (ofPairs [] pairs).length = (keptEntries env entries).length ↔
      ((keptEntries env entries).map (·.1.text)).Nodup := by
  have hkeys := scrubPairs_keys h
  have hlength : pairs.length = (keptEntries env entries).length := by
    simpa using congrArg List.length hkeys
  have hnodup : (pairs.map (·.1)).Nodup ↔ ((keptEntries env entries).map (·.1.text)).Nodup := by
    have hmap : (keptEntries env entries).map (fun entry => PyKey.str entry.1.text) =
        ((keptEntries env entries).map (·.1.text)).map PyKey.str := by
      rw [List.map_map]
      rfl
    rw [hkeys, hmap]
    exact List.nodup_map_iff fun a b hab => PyKey.str.inj hab
  rw [← hnodup]
  constructor
  · intro hdict
    have hnil : (([] : List (PyKey × PyValue)).map (·.1)).Nodup := List.nodup_nil
    exact nodup_of_length_ofPairs hnil (by simpa [hlength] using hdict)
  · intro hdistinct
    rw [ofPairs_of_nodup (d := []) hdistinct, List.nil_append, hlength]

mutual

/-- **What is stored** for a value is its document, stripped, when the scrubber reads what the
encoder writes. -/
theorem encode_scrubValue_iff (hlower : LowersAscii env.lower) :
    ∀ (v : PyValue) {d : Doc} {s : PyValue}, v.encode = some d → scrubValue env v = .ok s →
      (s.encode = some (d.strip env) ↔ v.Covered env)
  | .none, _, _, rfl, rfl => iff_of_true rfl trivial
  | .bool _, _, _, rfl, rfl => iff_of_true rfl trivial
  | .int _, _, _, rfl, rfl => iff_of_true rfl trivial
  | .float _, _, _, rfl, rfl => iff_of_true rfl trivial
  | .str _, _, _, rfl, rfl => iff_of_true rfl trivial
  | .tuple vs, d, _, hd, rfl => by
    show (PyValue.tuple vs).encode = some (d.strip env) ↔
      ((PyValue.tuple vs).encode.all (Doc.isClean env)) = true
    rw [hd, Option.all_some, ← strip_eq_self_iff, Option.some.injEq, eq_comm]
  | .list vs, d, s, hd, hs => by
    obtain ⟨ds, hds, rfl⟩ := encode_list.1 hd
    obtain ⟨items, hitems, rfl⟩ := scrubValue_list.1 hs
    rw [encode_list]
    refine Iff.trans ?_ (encode_scrubItems_iff hlower vs hds hitems)
    constructor
    · rintro ⟨ds', hds', heq⟩
      rw [hds', show ds' = stripDocs env ds from Doc.arr.inj heq]
    · exact fun h => ⟨_, h, rfl⟩
  | .dict entries, d, s, hd, hs => by
    obtain ⟨ds, hds, rfl⟩ := encode_dict.1 hd
    obtain ⟨pairs, hpairs, rfl⟩ := scrubValue_dict.1 hs
    have hrows := encode_scrubPairs_iff hlower entries hds hpairs
    rw [encode_dict]
    constructor
    · rintro ⟨ds', hds', heq⟩
      obtain rfl : ds' = stripMembers env ds := Doc.obj.inj heq
      have hlength := length_encodeEntries hds'
      rw [length_stripMembers hlower hds] at hlength
      have hnodup := (length_ofPairs_iff hpairs).1 hlength.symm
      have hkeys : ((([] : List (PyKey × PyValue)) ++ pairs).map (·.1)).Nodup := by
        refine nodup_of_length_ofPairs List.nodup_nil ?_
        have hpairsLength := congrArg List.length (scrubPairs_keys hpairs)
        simp only [List.length_map] at hpairsLength
        simp [← hlength, hpairsLength]
      rw [ofPairs_of_nodup hkeys] at hds'
      exact ⟨hrows.1 hds', hnodup⟩
    · rintro ⟨hcovered, hnodup⟩
      have hkeys : ((([] : List (PyKey × PyValue)) ++ pairs).map (·.1)).Nodup := by
        refine nodup_of_length_ofPairs List.nodup_nil ?_
        have hpairsLength := congrArg List.length (scrubPairs_keys hpairs)
        simp only [List.length_map] at hpairsLength
        simp [(length_ofPairs_iff hpairs).2 hnodup, hpairsLength]
      rw [ofPairs_of_nodup hkeys]
      exact ⟨_, hrows.2 hcovered, rfl⟩

theorem encode_scrubItems_iff (hlower : LowersAscii env.lower) :
    ∀ (vs : List PyValue) {ds : List Doc} {items : List PyValue}, encodeItems vs = some ds →
      scrubItems env vs = .ok items →
        (encodeItems items = some (stripDocs env ds) ↔ CoveredItems env vs)
  | [], _, _, rfl, rfl => iff_of_true rfl trivial
  | v :: vs, ds, items, hds, hitems => by
    obtain ⟨d, hd, ds', hds', rfl⟩ := encodeItems_cons.1 hds
    obtain ⟨item, hitem, rest, hrest, rfl⟩ := scrubItems_cons.1 hitems
    show _ ↔ v.Covered env ∧ CoveredItems env vs
    rw [← encode_scrubValue_iff hlower v hd hitem, ← encode_scrubItems_iff hlower vs hds' hrest,
      encodeItems_cons]
    constructor
    · rintro ⟨a, ha, as, has, heq⟩
      obtain ⟨rfl, rfl⟩ := List.cons.inj heq
      exact ⟨ha, has⟩
    · rintro ⟨ha, has⟩
      exact ⟨_, ha, _, has, rfl⟩

theorem encode_scrubPairs_iff (hlower : LowersAscii env.lower) :
    ∀ (entries : List (PyKey × PyValue)) {ds : List (String × Doc)}
      {pairs : List (PyKey × PyValue)}, encodeEntries entries = some ds →
        scrubPairs env entries = .ok pairs →
          (encodeEntries pairs = some (stripMembers env ds) ↔ CoveredEntries env entries)
  | [], _, _, rfl, rfl => iff_of_true rfl trivial
  | (key, value) :: entries, ds, pairs, hds, hpairs => by
    obtain ⟨name, hname, d, hd, ds', hds', rfl⟩ := encodeEntries_cons.1 hds
    have hsame := isSensitive_name hlower hname
    show _ ↔ (isSensitive env key.text = false → key.name? = some key.text ∧ value.Covered env) ∧
      CoveredEntries env entries
    cases hkey : isSensitive env key.text with
    | true =>
      rw [stripMembers_of_sensitive (hsame.trans hkey),
        encode_scrubPairs_iff hlower entries hds' (scrubPairs_of_sensitive hkey hpairs)]
      exact (and_iff_right fun h => by cases h).symm
    | false =>
      obtain ⟨value', hvalue, rest, hrest, rfl⟩ := (scrubPairs_of_kept hkey).1 hpairs
      have hopen : (false = false → key.name? = some key.text ∧ value.Covered env) ↔
          key.name? = some key.text ∧ value.Covered env := ⟨fun h => h rfl, fun h _ => h⟩
      rw [stripMembers_of_kept (hsame.trans hkey), hopen,
        ← encode_scrubValue_iff hlower value hd hvalue,
        ← encode_scrubPairs_iff hlower entries hds' hrest, encodeEntries_cons, hname]
      constructor
      · rintro ⟨a, ha, b, hb, bs, hbs, heq⟩
        obtain ⟨hpair, rfl⟩ := List.cons.inj heq
        obtain ⟨rfl, rfl⟩ := Prod.mk.inj hpair
        exact ⟨⟨ha.symm, hb⟩, hbs⟩
      · rintro ⟨⟨ha, hb⟩, hbs⟩
        exact ⟨key.text, rfl, _, hb, _, hbs, by rw [Option.some.inj ha]⟩

end

/-- What `emit` accepts it has scrubbed. -/
theorem scrubMetadata_of_emit {metadata : List (PyKey × PyValue)}
    (h : emitMetadata env (.dict entries) = .ok metadata) :
    scrubMetadata env entries = .ok metadata := by
  simp only [emitMetadata, except_bind_ok, pure, Except.pure, Except.ok.injEq] at h
  obtain ⟨_, rfl, _, hscrub, -, -, rfl⟩ := h
  exact hscrub

/-- **Audit metadata**: what is stored for accepted metadata is its document without the
sensitive members, and is scrubbed to itself, exactly when the scrubber reads what the encoder
writes. -/
theorem audit_metadata_scrubbed_iff (hlower : LowersAscii env.lower) {doc : Doc}
    (hdoc : (PyValue.dict entries).encode = some doc) {metadata : List (PyKey × PyValue)}
    (haccepted : emitMetadata env (.dict entries) = .ok metadata) :
    (∃ stored, ScrubbedTo env doc stored metadata) ↔ (PyValue.dict entries).Covered env := by
  have hscrub := scrubMetadata_of_emit haccepted
  have hvalue : scrubValue env (.dict entries) = .ok (.dict metadata) := by
    show (scrubEntries env entries [] >>= fun safe => pure (PyValue.dict safe)) = _
    rw [show scrubEntries env entries [] = .ok metadata from hscrub]
    rfl
  have hagain : scrubMetadata env metadata = .ok metadata := by
    obtain ⟨pairs, hpairs, rfl⟩ := scrubEntries_ok.1 hscrub
    exact scrubEntries_of_scrubbed (scrubPairs_again entries hpairs)
  rw [← encode_scrubValue_iff hlower _ hdoc hvalue]
  constructor
  · rintro ⟨stored, hstored⟩
    exact hstored.encoded.trans (congrArg some hstored.preserved)
  · intro h
    exact ⟨_, h, isClean_strip doc, rfl, hagain⟩

/-- An environment that lowers ASCII texts. -/
def Env.ascii : Env := { Env.sample with lower := asciiLower }

/-- Metadata with a sensitive member in a dict, and a list. -/
theorem audit_metadata_scrubbed_listed :
    (∃ stored, ScrubbedTo .ascii
      (.obj [("status", .str "queued"), ("steps", .arr [.obj [("Token", .str "x")]])]) stored
      [(.str "status", .str "queued"), (.str "steps", .list [.dict []])]) ↔
    (PyValue.dict [(.str "status", .str "queued"),
      (.str "steps", .list [.dict [(.str "Token", .str "x")]])]).Covered .ascii :=
  audit_metadata_scrubbed_iff (fun _ _ => rfl) rfl rfl

/-- A tuple carries a password into the stored document. -/
theorem tuple_passes_unread :
    ¬∀ (entries : List (PyKey × PyValue)) (doc : Doc) (metadata : List (PyKey × PyValue)),
      (PyValue.dict entries).encode = some doc →
        emitMetadata .ascii (.dict entries) = .ok metadata →
          ∃ stored, ScrubbedTo .ascii doc stored metadata := by
  intro h
  obtain ⟨stored, hstored⟩ := h [(.str "items", .tuple [.dict [(.str "password", .str "x")]])]
    (.obj [("items", .arr [.obj [("password", .str "x")]])])
    [(.str "items", .tuple [.dict [(.str "password", .str "x")]])] rfl rfl
  have hencoded : some (Doc.obj [("items", .arr [.obj [("password", .str "x")]])]) = some stored :=
    hstored.encoded
  have hclean := hstored.clean
  cases hencoded
  revert hclean
  decide

end

end RunbookPlatform
