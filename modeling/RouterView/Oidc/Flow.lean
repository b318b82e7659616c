/-
  Oidc/Flow.lean --- the login flows of the identity provider.

  A start of a login stores a flow under a random state, which comes back in the
  query and in a cookie of the callback; the callback takes the flow out of the
  store before it looks at anything else the provider sent.  What the provider
  answers to the code, and whether the session is persisted, is open.

  Left out: the text of the authorization URL, the checks of the identity token, which the
  client library makes, and the headers of the responses.  The clock is monotonic.
-/
import RouterView.Foundation.Dict
import RouterView.Foundation.Text

set_option autoImplicit false

namespace RouterView.Oidc

open RouterView.Foundation

/-! ## Constants -/

/-- `FLOW_TTL`, in nanoseconds. -/
def flowTtl : Nat := 5 * 60 * 1000000000

/-- `FLOW_CAPACITY`. -/
def flowCapacity : Nat := 1024

/-- `FLOW_PER_SOURCE`. -/
def flowPerSource : Nat := 8

/-- `MAX_QUERY_BYTES`. -/
def maxQueryBytes : Nat := 8 * 1024

/-- `MAX_REDIRECT_BYTES`. -/
def maxRedirectBytes : Nat := 2048

/-- `FLOW_COOKIE`. -/
def flowCookie : String := "__Host-routerview_oidc_flow"

/-! ## The store -/

/-- `LoginFlow`; the instant is in nanoseconds. -/
structure LoginFlow (Addr : Type) where
  nonce : String
  pkceVerifier : String
  source : Addr
  redirect : String
  expiresAt : Nat
  deriving DecidableEq, Repr

/-- `ConsumedFlow`. -/
structure ConsumedFlow where
  nonce : String
  pkceVerifier : String
  redirect : String
  deriving DecidableEq, Repr

/-- What is left of a flow that is consumed. -/
def LoginFlow.consumed {Addr : Type} (flow : LoginFlow Addr) : ConsumedFlow :=
  ⟨flow.nonce, flow.pkceVerifier, flow.redirect⟩

/-- `FlowStore`: the flows by their states. -/
abbrev FlowStore (Addr : Type) : Type := Dict String (LoginFlow Addr)

section Store

variable {Addr : Type} [DecidableEq Addr]

/-- The flows that did not expire. -/
def FlowStore.purge (store : FlowStore Addr) (now : Nat) : FlowStore Addr :=
  store.retain (fun _ entry => decide (entry.expiresAt > now))

/-- The number of flows of a source. -/
def FlowStore.ofSource (store : FlowStore Addr) (source : Addr) : Nat :=
  store.count (fun _ entry => decide (entry.source = source))

/-- `FlowStore::insert`: whether the flow was stored. -/
def FlowStore.insert (store : FlowStore Addr) (state : String) (flow : LoginFlow Addr)
    (now : Nat) : Bool × FlowStore Addr :=
  let kept := store.purge now
  if kept.size ≥ flowCapacity ∨ kept.ofSource flow.source ≥ flowPerSource then (false, kept)
  else (true, kept.put state flow)

/-- `FlowStore::consume`. -/
def FlowStore.consume (store : FlowStore Addr) (state : String) (source : Addr) (now : Nat) :
    Option (LoginFlow Addr) × FlowStore Addr :=
  let kept := store.purge now
  match kept.find? state with
  | none => (none, kept)
  | some flow =>
      (if flow.source = source ∧ flow.expiresAt > now then some flow else none, kept.remove state)

end Store

/-! ## Queries and cookies -/

/-- The loop of `parse_query`: an unknown or repeated field is an error. -/
def parsePairs (allowed : List String) :
    List (String × String) → Dict String String → Option (Dict String String)
  | [], values => some values
  | (key, value) :: rest, values =>
      if key ∉ allowed ∨ (values.find? key).isSome then none
      else parsePairs allowed rest (values.put key value)

/-- A raw query: its length in bytes, and the decoded pairs. -/
structure RawQuery where
  length : Nat
  pairs : List (String × String)
  deriving DecidableEq, Repr

/-- `parse_query`. -/
def parseQuery (raw : RawQuery) (allowed : List String) : Option (Dict String String) :=
  if raw.length > maxQueryBytes then none else parsePairs allowed raw.pairs Dict.empty

/-- `str::split_once`. -/
def splitOnce (separator : Char) (text : List Char) : Option (List Char × List Char) :=
  match text.span (fun c => c ≠ separator) with
  | (_, []) => none
  | (before, _ :: after) => some (before, after)

/-- The values of a cookie; a header value that is not text has none. -/
def cookieMatches (cookies : List (Option String)) (name : String) : List String :=
  (((cookies.filterMap id).flatMap (fun value => value.toList.splitOn ';')).filterMap
    (fun cookie => splitOnce '=' (trimChars cookie))).filterMap
      (fun pair => if String.ofList pair.1 = name then some (String.ofList pair.2) else none)

/-- `single_cookie`: the value, when the cookie comes exactly once. -/
def singleCookie (cookies : List (Option String)) (name : String) : Option String :=
  match cookieMatches cookies name with
  | [value] => some value
  | _ => none

/-- `constant_time_eq`. -/
def constantTimeEq (left right : List UInt8) : Bool :=
  (List.range (max left.length right.length)).foldl
    (fun difference index =>
      difference ||| ((left[index]?.getD 0) ^^^ (right[index]?.getD 0)).toNat)
    (left.length ^^^ right.length) == 0

/-- `validate_internal_redirect`. -/
def validateInternalRedirect (value : String) : Option String :=
  if value.toList = [] then some "/"
  else if value.utf8ByteSize > maxRedirectBytes ∨ value.toList.head? ≠ some '/' ∨
      value.toList.take 2 = ['/', '/'] ∨ '\\' ∈ value.toList ∨
      value.toList.any (fun c => c.toNat < 32 ∨ (127 ≤ c.toNat ∧ c.toNat < 160)) then none
  else some value

/-! ## Requests -/

/-- `LoginError`. -/
inductive LoginError where
  | providerUnavailable
  | notAuthorized
  | authenticationFailed
  deriving DecidableEq, Repr

/-- The code of an error in a response. -/
def LoginError.code : LoginError → String
  | .providerUnavailable => "provider_unavailable"
  | .notAuthorized => "not_authorized"
  | .authenticationFailed => "authentication_failed"

/-- Whether there is an administrator. -/
inductive AdminLookup where
  | present
  | absent
  | failed
  deriving DecidableEq, Repr

/-- The random tokens of a start. -/
structure FlowTokens where
  state : String
  nonce : String
  pkceVerifier : String
  deriving DecidableEq, Repr

/-- What a start of a login finds; `client_ip` may fail to resolve the source. -/
structure StartRequest (Addr : Type) where
  query : RawQuery
  admin : AdminLookup
  source : Option Addr
  available : Bool
  tokens : FlowTokens
  madeAt : Nat
  deriving DecidableEq, Repr

/-- What a callback brings and finds. -/
structure CallbackRequest (Addr : Type) where
  query : RawQuery
  cookies : List (Option String)
  admin : AdminLookup
  source : Option Addr
  deriving DecidableEq, Repr

/-- The configured issuer, what the provider makes of a code, and whether a session is persisted. -/
structure Provider (Identity : Type) where
  issuerUrl : Option String
  authenticate : String → ConsumedFlow → Except LoginError Identity
  establish : Identity → String → Bool

/-- A response: to the provider with a state, to the completion page with an error, or to it with
a session. -/
inductive Response (Identity : Type) where
  | authorize (state : String)
  | error (code : String) (redirect : String)
  | session (identity : Identity) (redirect : String)
  deriving DecidableEq, Repr

section Handlers

variable {Addr Identity : Type} [DecidableEq Addr]

/-- `begin`. -/
def beginFlow (store : FlowStore Addr) (request : StartRequest Addr) (source : Addr)
    (redirect : String) (now : Nat) : Except LoginError String × FlowStore Addr :=
  if request.available then
    let flow : LoginFlow Addr :=
      ⟨request.tokens.nonce, request.tokens.pkceVerifier, source, redirect,
        request.madeAt + flowTtl⟩
    let (stored, store') := store.insert request.tokens.state flow now
    (if stored then .ok request.tokens.state else .error .authenticationFailed, store')
  else (.error .providerUnavailable, store)

/-- The response of a start to what `begin` returns. -/
def startResponse (redirect : String) : Except LoginError String → Response Identity
  | .ok state => .authorize state
  | .error .providerUnavailable => .error "provider_unavailable" redirect
  | .error _ => .error "authentication_failed" redirect

/-- `start`. -/
def start (store : FlowStore Addr) (request : StartRequest Addr) (now : Nat) :
    Response Identity × FlowStore Addr :=
  match parseQuery request.query ["redirect"] with
  | none => (.error "authentication_failed" "/", store)
  | some values =>
      match validateInternalRedirect ((values.find? "redirect").getD "/") with
      | none => (.error "authentication_failed" "/", store)
      | some redirect =>
          match request.admin, request.source with
          | .present, some source =>
              let (begun, store') := beginFlow store request source redirect now
              (startResponse redirect begun, store')
          | _, _ => (.error "authentication_failed" redirect, store)

/-- The fields that a callback may have. -/
def callbackFields : List String :=
  ["code", "state", "error", "error_description", "error_uri", "iss", "session_state", "scope",
    "authuser", "prompt", "hd"]

/-- The details of an error come without the error. -/
def strayErrorDetails (values : Dict String String) : Bool :=
  (values.find? "error").isNone &&
    ((values.find? "error_description").isSome || (values.find? "error_uri").isSome)

/-- The callback up to the consumption of its flow: an error, or the fields and the flow. -/
def admitCallback (store : FlowStore Addr) (request : CallbackRequest Addr) (now : Nat) :
    Except (String × String) (Dict String String × ConsumedFlow) × FlowStore Addr :=
  match parseQuery request.query callbackFields with
  | none => (.error ("authentication_failed", "/"), store)
  | some values =>
      if strayErrorDetails values then (.error ("authentication_failed", "/"), store)
      else
        match values.find? "state", singleCookie request.cookies flowCookie with
        | some queryState, some cookieState =>
            if constantTimeEq (asBytes queryState) (asBytes cookieState) then
              match request.source with
              | none => (.error ("authentication_failed", "/"), store.remove queryState)
              | some source =>
                  match store.consume queryState source now with
                  | (none, store') => (.error ("invalid_state", "/"), store')
                  | (some flow, store') => (.ok (values, flow.consumed), store')
            else (.error ("invalid_state", "/"), store)
        | _, _ => (.error ("invalid_state", "/"), store)

/-- `issuer_matches`. -/
def Provider.issuerMatches (provider : Provider Identity) (issuer : String) : Bool :=
  provider.issuerUrl.any (fun url => constantTimeEq (asBytes url) (asBytes issuer))

/-- The response to what the provider makes of the code. -/
def codeResponse (provider : Provider Identity) (code : String) (flow : ConsumedFlow) :
    Response Identity :=
  match provider.authenticate code flow with
  | .ok identity =>
      if provider.establish identity flow.redirect then .session identity flow.redirect
      else .error "authentication_failed" flow.redirect
  | .error error => .error error.code flow.redirect

/-- The code of a callback, when it has a usable one. -/
def usableCode (values : Dict String String) : Option String :=
  (values.find? "code").filter (fun code => !code.isEmpty && decide (code.utf8ByteSize ≤ 4096))

/-- The callback after the consumption of its flow. -/
def finishCallback (provider : Provider Identity) (admin : AdminLookup)
    (values : Dict String String) (flow : ConsumedFlow) : Response Identity :=
  if admin ≠ .present then .error "authentication_failed" flow.redirect
  else if (values.find? "iss").any (fun issuer => !provider.issuerMatches issuer) then
    .error "authentication_failed" flow.redirect
  else if (values.find? "error").isSome then
    if (values.find? "code").isSome then .error "authentication_failed" flow.redirect
    else if values.find? "error" = some "access_denied" then .error "access_denied" flow.redirect
    else .error "authentication_failed" flow.redirect
  else
    match usableCode values with
    | none => .error "authentication_failed" flow.redirect
    | some code => codeResponse provider code flow

/-- `callback`. -/
def callback (provider : Provider Identity) (store : FlowStore Addr)
    (request : CallbackRequest Addr) (now : Nat) : Response Identity × FlowStore Addr :=
  match admitCallback store request now with
  | (.error (code, redirect), store') => (.error code redirect, store')
  | (.ok (values, flow), store') => (finishCallback provider request.admin values flow, store')

end Handlers

end RouterView.Oidc
