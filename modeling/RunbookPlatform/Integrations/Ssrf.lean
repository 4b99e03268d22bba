import RunbookPlatform.Integrations.Webhooks
import RunbookPlatform.Net.Url

/-!
# Where webhooks go

`validate_outbound_url` resolves the host of a webhook and refuses internal addresses. The client
that posts the webhook resolves the host again when it connects, so the address that was checked
need not be the one that the request goes to.

## Main definitions

- `validateOutboundUrl` — `validate_outbound_url`
- `HttpClient`, `Internet` — what the client takes from a URL; lookups and servers
- `sentRequest` — the request that `_notify_connection` sends
- `ConnectsPublic` — the client's own lookup leads to a public address

## Main results

- `webhook_public_iff` — every request is as it should be, exactly when `ConnectsPublic`
- `connectsPublic_of_stable` — two lookups with one answer suffice
-/

namespace RunbookPlatform.IntegrationService

open Net

-- ════════════════════════════════════════════════════════════════════════
-- The check
-- ════════════════════════════════════════════════════════════════════════

/-- `UNSAFE_HOSTNAMES`. -/
def unsafeHostnames : List String := ["localhost", "localhost.localdomain", "metadata.google.internal"]

/-- `METADATA_IPS`: `169.254.169.254` and `100.100.100.200`. -/
def metadataIps : List Address := [.v4 0xa9fea9fe, .v4 0x646464c8]

/-- `UNSAFE_PORTS`. -/
def unsafePorts : List ℕ := [22, 2375, 2376, 3306, 5432, 6379, 9200, 9300, 11211, 27017]

/-- A `django.core.exceptions.ValidationError`. -/
def invalidUrl (detail : String) : Err := .validation "" detail

/-- A `ValueError`. -/
def valueError : Err := { kind := .uncaught, code := "" }

/-- `_validate_public_address`. -/
def validatePublicAddress (address : Address) : Except Err Unit := do
  check (address ∉ metadataIps) (invalidUrl "Integration URL must not target metadata services.")
  check ((address.isPrivate || address.isLoopback || address.isLinkLocal || address.isReserved ||
      address.isMulticast || address.isUnspecified) = false)
    (invalidUrl "Integration URL must resolve to a public address.")

/-- The lookups of one delivery: of the check, and of the client that connects. -/
inductive Lookup where
  | check
  | connect

/-- How `socket.getaddrinfo` fails. -/
inductive LookupError where
  | gaierror
  | other (exc : Err)

/-- What name servers and servers answer. -/
structure Internet where
  /-- `socket.getaddrinfo`: the `sockaddr[0]` of each result. -/
  getaddrinfo : Lookup → String → Except LookupError (List String)
  /-- A server for the host takes the connection at the address and the port. -/
  accepts : String → ℕ → Address → Bool

/-- `ipaddress.ip_address(sockaddr[0])` of each result. -/
def parseAddresses : List String → Except Err (List Address)
  | [] => .ok []
  | text :: texts =>
    match Address.parse text with
    | none => .error valueError
    | some address => (parseAddresses texts).map (address :: ·)

/-- `_resolve_host_addresses`. -/
def resolveHostAddresses (internet : Internet) (hostname : String) : Except Err (List Address) :=
  match Address.parse hostname with
  | some literal => .ok [literal]
  | none =>
    match internet.getaddrinfo .check hostname with
    | .error .gaierror => .error (invalidUrl "Integration URL hostname could not be resolved.")
    | .error (.other exc) => .error exc
    | .ok results => parseAddresses results

section

variable (env : Env) (nfkc : String → String)

/-- `parsed.hostname.rstrip(".").lower()`. -/
def checkedHostname (hostname : String) : String :=
  env.lower (String.ofList (hostname.toList.reverse.dropWhile (· = '.')).reverse)

/-- `text.endswith(suffix)`. -/
def endsWith (text suffix : String) : Bool := suffix.toList.isSuffixOf text.toList

/-- `validate_outbound_url`. -/
def validateOutboundUrl (internet : Internet) (url : String) : Except Err Unit :=
  match Url.split nfkc url with
  | none => .error valueError
  | some parsed => do
    check (parsed.scheme = "https") (invalidUrl "Integration URL must use HTTPS.")
    match parsed.hostname? env.lower with
    | none => .error (invalidUrl "Integration URL must include a hostname.")
    | some hostname => do
      check (parsed.username?.getD [] = [] ∧ parsed.password?.getD [] = [])
        (invalidUrl "Integration URL must not include user info.")
      match parsed.port? with
      | none => .error (invalidUrl "Integration URL includes an invalid port.")
      | some port => do
        check (∀ p ∈ port, p ∉ unsafePorts)
          (invalidUrl "Integration URL must not target internal service ports.")
        let hostname := checkedHostname env hostname
        check (hostname ∉ unsafeHostnames ∧ endsWith hostname ".localhost" = false ∧
            endsWith hostname ".local" = false)
          (invalidUrl "Integration URL must not target localhost.")
        let addresses ← resolveHostAddresses internet hostname
        addresses.forM validatePublicAddress

end

-- ════════════════════════════════════════════════════════════════════════
-- The client
-- ════════════════════════════════════════════════════════════════════════

/-- Where the client connects to for a URL. -/
structure Target where
  scheme : String
  host : String
  port : ℕ

/-- The HTTP client. It resolves the host when it connects, and follows no redirect. -/
structure HttpClient where
  /-- How it reads a URL, or the exception. -/
  target : String → Except PostError Target
  /-- What the server at the address answers to the payload: a status, or the exception. -/
  respond : Target → Address → List (PyKey × PyValue) → Except PostError ℕ

/-- The client reads the scheme and the port of a URL as `urlparse` does. Without a port, `https`
goes to 443. -/
structure HttpClient.ReadsUrls (env : Env) (nfkc : String → String) (client : HttpClient) :
    Prop where
  scheme : ∀ url parsed target, Url.split nfkc url = some parsed → client.target url = .ok target →
    target.scheme = parsed.scheme
  port : ∀ url parsed target port, Url.split nfkc url = some parsed →
    client.target url = .ok target → parsed.scheme = "https" → parsed.port? = some port →
      target.port = port.getD 443

/-- `socket.create_connection`: the first address of the client's own lookup at which a server
takes the connection. -/
def Internet.connect (internet : Internet) (target : Target) : Option Address :=
  match internet.getaddrinfo .connect target.host with
  | .error _ => none
  | .ok results => (results.filterMap Address.parse).find? (internet.accepts target.host target.port)

/-- A request on its way. -/
structure SentRequest where
  scheme : String
  port : ℕ
  address : Address
  payload : List (PyKey × PyValue)

section

variable (env : Env) (nfkc : String → String) (client : HttpClient) (internet : Internet)
  (outside : Outside)

/-- The request that `client.post(url, json=payload)` sends, if it comes to that. -/
def HttpClient.send? (url : String) (payload : List (PyKey × PyValue)) : Option SentRequest :=
  match client.target url with
  | .error _ => none
  | .ok target => (internet.connect target).map fun address =>
    { scheme := target.scheme, port := target.port, address, payload }

/-- `client.post(url, json=payload)`. -/
def HttpClient.post (url : String) (payload : List (PyKey × PyValue)) : Except PostError ℕ :=
  match client.target url with
  | .error exc => .error exc
  | .ok target =>
    match internet.connect target with
    | none => .error .http
    | some address => client.respond target address payload

/-- The delivery meets the check above, and this client. -/
def delivering : Outside :=
  { outside with
    validateOutboundUrl := validateOutboundUrl env nfkc internet
    post := client.post internet }

/-- The request that `_notify_connection` sends. It posts what it posts to the URL that passed the
check. -/
def sentRequest? (connection : IntegrationConnection) (eventType : String)
    (context : List (PyKey × PyValue)) : Option SentRequest :=
  match webhookUrl (delivering env nfkc client internet outside) connection with
  | .error _ => none
  | .ok url =>
    (notifyConnection env (delivering env nfkc client internet outside) connection eventType
      context).1.bind (client.send? internet url)

/-- The request goes over `https`, to a safe port of a public address. -/
structure SentRequest.IsSafe (request : SentRequest) : Prop where
  scheme : request.scheme = "https"
  port : request.port ∉ unsafePorts
  address : validatePublicAddress request.address = .ok ()

/-- Either the check refuses the URL, or the address at which the client's own lookup connects it
is public. -/
def ConnectsPublic (connection : IntegrationConnection) : Prop :=
  ∀ url target address,
    webhookUrl (delivering env nfkc client internet outside) connection = .ok url →
    client.target url = .ok target → internet.connect target = some address →
      validatePublicAddress address = .ok ()

end

-- ════════════════════════════════════════════════════════════════════════
-- What passes the check
-- ════════════════════════════════════════════════════════════════════════

section

variable {env : Env} {nfkc : String → String} {client : HttpClient} {internet : Internet}
  {outside : Outside} {connection : IntegrationConnection}

/-- What is known of a URL that passes the check. -/
theorem validateOutboundUrl_ok {url : String} (h : validateOutboundUrl env nfkc internet url = .ok ()) :
    ∃ parsed hostname port addresses, Url.split nfkc url = some parsed ∧ parsed.scheme = "https" ∧
      parsed.hostname? env.lower = some hostname ∧ parsed.port? = some port ∧
      (∀ p ∈ port, p ∉ unsafePorts) ∧
      resolveHostAddresses internet (checkedHostname env hostname) = .ok addresses ∧
      addresses.forM validatePublicAddress = .ok () := by
  unfold validateOutboundUrl at h
  cases hsplit : Url.split nfkc url with
  | none => simp [hsplit] at h
  | some parsed =>
    simp only [hsplit, except_bind_ok, check_ok, exists_const] at h
    obtain ⟨hscheme, h⟩ := h
    cases hhostname : parsed.hostname? env.lower with
    | none => simp [hhostname] at h
    | some hostname =>
      simp only [hhostname, except_bind_ok, check_ok, exists_const] at h
      obtain ⟨-, h⟩ := h
      cases hport : parsed.port? with
      | none => simp [hport] at h
      | some port =>
        simp only [hport, except_bind_ok, check_ok, exists_const] at h
        obtain ⟨hsafe, -, addresses, hresolve, hpublic⟩ := h
        exact ⟨parsed, hostname, port, addresses, rfl, hscheme, hhostname, hport, hsafe, hresolve,
          hpublic⟩

/-- The URL of a connection has passed the check. -/
theorem validate_of_webhookUrl {url : String}
    (h : webhookUrl (delivering env nfkc client internet outside) connection = .ok url) :
    validateOutboundUrl env nfkc internet url = .ok () := by
  simp only [webhookUrl, except_bind_ok] at h
  obtain ⟨credentials, -, h⟩ := h
  split at h
  · simp only [except_bind_ok, check_ok] at h
    obtain ⟨_, -, ⟨⟩, hvalidate, hurl⟩ := h
    cases hurl
    exact hvalidate
  · cases h

/-- A URL that passes the check goes over `https` to a safe port. -/
theorem target_of_validated (hclient : client.ReadsUrls env nfkc) {url : String}
    (h : validateOutboundUrl env nfkc internet url = .ok ()) {target : Target}
    (htarget : client.target url = .ok target) :
    target.scheme = "https" ∧ target.port ∉ unsafePorts := by
  obtain ⟨parsed, -, port, -, hsplit, hscheme, -, hport, hsafe, -, -⟩ := validateOutboundUrl_ok h
  refine ⟨(hclient.scheme url parsed target hsplit htarget).trans hscheme, ?_⟩
  rw [hclient.port url parsed target port hsplit htarget hscheme hport]
  cases port with
  | none => decide
  | some p => exact hsafe p rfl

/-- The request is sent to the URL that passed the check, where the client connects. -/
theorem sentRequest?_eq_some {eventType : String} {context : List (PyKey × PyValue)}
    {request : SentRequest} :
    sentRequest? env nfkc client internet outside connection eventType context = some request ↔
      ∃ url target address,
        webhookUrl (delivering env nfkc client internet outside) connection = .ok url ∧
        client.target url = .ok target ∧ internet.connect target = some address ∧
        request = {
          scheme := target.scheme
          port := target.port
          address
          payload := buildPayload env (delivering env nfkc client internet outside) connection
            eventType context } := by
  rw [sentRequest?]
  cases hurl : webhookUrl (delivering env nfkc client internet outside) connection with
  | error exc => simp
  | ok url =>
    have hposted : (notifyConnection env (delivering env nfkc client internet outside) connection
        eventType context).1 = some (buildPayload env (delivering env nfkc client internet outside)
          connection eventType context) := by
      rcases notifyConnection_cases env eventType context
        (delivering env nfkc client internet outside) connection with ⟨hnone, -⟩ | ⟨hsome, -⟩
      · simp only [notifyConnection, hurl] at hnone
        split at hnone <;> cases hnone
      · exact hsome
    simp only [hposted, Option.bind_some, HttpClient.send?]
    cases htarget : client.target url with
    | error exc => simp [htarget]
    | ok target =>
      constructor
      · intro h
        obtain ⟨address, haddress, rfl⟩ := Option.map_eq_some_iff.1 h
        exact ⟨url, target, address, rfl, htarget, haddress, rfl⟩
      · rintro ⟨_, target', address, ⟨⟩, htarget', haddress, rfl⟩
        rw [htarget] at htarget'
        cases htarget'
        simp only [haddress, Option.map_some]

/-- **Where webhooks go.** Whatever a connection's URL and the answers of the lookups are, every
request goes over `https` to a safe port of a public address, exactly when the check refuses the
URL or the client's own lookup connects it to a public address. -/
theorem webhook_public_iff (hclient : client.ReadsUrls env nfkc) (eventType : String)
    (context : List (PyKey × PyValue)) :
    (∀ request ∈ sentRequest? env nfkc client internet outside connection eventType context,
      request.IsSafe) ↔ ConnectsPublic env nfkc client internet outside connection := by
  constructor
  · intro h url target address hurl htarget haddress
    exact (h _ (sentRequest?_eq_some.2 ⟨url, target, address, hurl, htarget, haddress, rfl⟩)).address
  · intro h request hrequest
    obtain ⟨url, target, address, hurl, htarget, haddress, rfl⟩ := sentRequest?_eq_some.1 hrequest
    obtain ⟨hscheme, hport⟩ := target_of_validated hclient (validate_of_webhookUrl hurl) htarget
    exact ⟨hscheme, hport, h url target address hurl htarget haddress⟩

/-- Every parsed answer is an address of the lookup. -/
theorem parseAddresses_ok {results : List String} {addresses : List Address}
    (h : parseAddresses results = .ok addresses) : results.filterMap Address.parse = addresses := by
  induction results generalizing addresses with
  | nil =>
    cases h
    rfl
  | cons text texts ih =>
    rw [parseAddresses] at h
    cases hparse : Address.parse text with
    | none => simp [hparse] at h
    | some address =>
      simp only [hparse] at h
      cases hrest : parseAddresses texts with
      | error exc => simp [hrest, Except.map] at h
      | ok rest =>
        rw [hrest] at h
        cases h
        rw [List.filterMap_cons, hparse, ih hrest]

theorem forM_validatePublicAddress {addresses : List Address}
    (h : addresses.forM validatePublicAddress = .ok ()) {address : Address}
    (haddress : address ∈ addresses) : validatePublicAddress address = .ok () := by
  induction addresses with
  | nil => cases haddress
  | cons first rest ih =>
    rw [List.forM_eq_forM, List.forM_cons, except_bind_ok] at h
    obtain ⟨⟨⟩, hfirst, hrest⟩ := h
    rcases List.mem_cons.1 haddress with rfl | hmem
    · exact hfirst
    · exact ih hrest hmem

/-- **Two lookups with one answer suffice**, where the client asks for the name that was checked
and a lookup of a literal answers the literal. -/
theorem connectsPublic_of_stable
    (hhost : ∀ url parsed hostname target, Url.split nfkc url = some parsed →
      parsed.hostname? env.lower = some hostname → client.target url = .ok target →
        target.host = checkedHostname env hostname)
    (hnumeric : ∀ host address, Address.parse host = some address →
      internet.getaddrinfo .connect host = .ok [host])
    (hstable : ∀ host, internet.getaddrinfo .connect host = internet.getaddrinfo .check host) :
    ConnectsPublic env nfkc client internet outside connection := by
  intro url target address hurl htarget haddress
  obtain ⟨parsed, hostname, -, addresses, hsplit, -, hhostname, -, -, hresolve, hpublic⟩ :=
    validateOutboundUrl_ok (validate_of_webhookUrl hurl)
  rw [Internet.connect, hhost url parsed hostname target hsplit hhostname htarget] at haddress
  refine forM_validatePublicAddress hpublic ?_
  rw [resolveHostAddresses] at hresolve
  cases hliteral : Address.parse (checkedHostname env hostname) with
  | some literal =>
    simp only [hliteral] at hresolve
    cases hresolve
    simp only [hnumeric _ literal hliteral] at haddress
    have hmem := List.mem_of_find?_eq_some haddress
    simpa [hliteral] using hmem
  | none =>
    simp only [hliteral, ← hstable] at hresolve
    cases hlookup : internet.getaddrinfo .connect (checkedHostname env hostname) with
    | error exc => simp [hlookup] at haddress
    | ok results =>
      simp only [hlookup] at hresolve haddress
      rw [parseAddresses_ok hresolve] at haddress
      exact List.mem_of_find?_eq_some haddress

end

-- ════════════════════════════════════════════════════════════════════════
-- A client
-- ════════════════════════════════════════════════════════════════════════

/-- A client that reads URLs with `urlparse`. -/
def urlparseClient (env : Env) (nfkc : String → String) : HttpClient where
  target url :=
    match Url.split nfkc url with
    | none => .error .http
    | some parsed =>
      match parsed.hostname? env.lower, parsed.port? with
      | some host, some port =>
        .ok { scheme := parsed.scheme, host
              port := port.getD (if parsed.scheme = "https" then 443 else 80) }
      | _, _ => .error .http
  respond _ _ _ := .ok 200

theorem readsUrls_urlparseClient (env : Env) (nfkc : String → String) :
    (urlparseClient env nfkc).ReadsUrls env nfkc := by
  have htarget : ∀ url parsed target, Url.split nfkc url = some parsed →
      (urlparseClient env nfkc).target url = .ok target →
        target.scheme = parsed.scheme ∧ ∃ port, parsed.port? = some port ∧
          target.port = port.getD (if parsed.scheme = "https" then 443 else 80) := by
    intro url parsed target hsplit h
    simp only [urlparseClient, hsplit] at h
    split at h
    · rename_i host port _ hport
      cases h
      exact ⟨rfl, port, hport, rfl⟩
    · cases h
  refine ⟨fun url parsed target hsplit h => (htarget url parsed target hsplit h).1,
    fun url parsed target port hsplit h hscheme hport => ?_⟩
  obtain ⟨-, port', hport', heq⟩ := htarget url parsed target hsplit h
  rw [hport] at hport'
  cases hport'
  rw [heq, if_pos hscheme]

/-- A name server that answers the check and the client apart, and a server everywhere. -/
def answers (checked connected : String) : Internet where
  getaddrinfo
    | .check, _ => .ok [checked]
    | .connect, _ => .ok [connected]
  accepts _ _ _ := true

/-- A webhook goes to the public address that the client's lookup answers. -/
theorem hooks_example_public :
    ∃ request ∈ sentRequest? Env.ascii id (urlparseClient Env.ascii id)
      (answers "93.184.216.34" "93.184.216.34") answering genericWebhook "execution.failed" [],
      request.IsSafe := by
  have hsent : (sentRequest? Env.ascii id (urlparseClient Env.ascii id)
      (answers "93.184.216.34" "93.184.216.34") answering genericWebhook "execution.failed"
        []).isSome = true := by
    decide +kernel
  obtain ⟨request, hrequest⟩ := Option.isSome_iff_exists.1 hsent
  refine ⟨request, hrequest,
    (webhook_public_iff (readsUrls_urlparseClient Env.ascii id) "execution.failed" []).2 ?_ request
      hrequest⟩
  intro url target address _ _ haddress
  have hparse : Address.parse "93.184.216.34" = some (.v4 0x5db8d822) := by decide +kernel
  simp only [Internet.connect, answers, List.filterMap_cons, hparse, List.filterMap_nil,
    List.find?_cons, Option.some.injEq] at haddress
  subst haddress
  rfl

/-- The name is rebound to a metadata service between the two lookups. -/
theorem rebound_hook_reaches_metadata :
    ¬∀ request ∈ sentRequest? Env.ascii id (urlparseClient Env.ascii id)
      (answers "93.184.216.34" "169.254.169.254") answering genericWebhook "execution.failed" [],
      request.IsSafe := by
  have hsent : (sentRequest? Env.ascii id (urlparseClient Env.ascii id)
      (answers "93.184.216.34" "169.254.169.254") answering genericWebhook "execution.failed"
        []).any (·.address = .v4 0xa9fea9fe) = true := by
    decide +kernel
  intro h
  obtain ⟨request, hrequest, haddress⟩ := (Option.any_eq_true _ _).1 hsent
  have hpublic := (h request hrequest).address
  rw [decide_eq_true_eq] at haddress
  rw [haddress] at hpublic
  cases hpublic

end RunbookPlatform.IntegrationService
