/-
  Auth/Gate.lean --- the gate of the protected routes.

  `require_auth` of `auth.rs`, which every protected route of `router.rs` is behind: the
  session of the cookie, the origin and the CSRF token of a request that may change
  something, and the session once more before the handler runs.  The two looks at the
  session store are apart, and any operation on the store may run between them.

  Left out: the routes behind the gate and what their handlers do, the headers of a response,
  and the middleware in front of the gate.  The instant of each look comes with its event.
-/
import RouterView.Auth.Requests
import RouterView.Oidc.Flow

set_option autoImplicit false

namespace RouterView.Auth

open RouterView.Foundation

/-! ## Headers -/

/-- The values of the headers that the gate reads; one that is not visible ASCII is
`none`. -/
structure GateHeaders where
  origin : List (Option String)
  csrfToken : List (Option String)
  cookie : List (Option String)
  deriving DecidableEq, Repr

/-- `SESSION_COOKIE`. -/
def sessionCookie : String := "__Host-routerview_session"

/-- `CSRF_COOKIE`. -/
def csrfCookie : String := "__Host-routerview_csrf"

/-- `cookie_values`. -/
def cookieValues (headers : GateHeaders) (name : String) : List String :=
  Oidc.cookieMatches headers.cookie name

/-- `cookie_value`. -/
def cookieValue (headers : GateHeaders) (name : String) : Option String :=
  (cookieValues headers name).head?

/-- `Method`. -/
inductive Method where
  | get
  | head
  | options
  | other (name : String)
  deriving DecidableEq, Repr

/-- The parts of a request that the gate reads. -/
structure Request where
  method : Method
  path : String
  headers : GateHeaders
  deriving DecidableEq, Repr

/-- `is_websocket`. -/
def Request.isWebsocket (request : Request) : Bool := decide (request.path = "/ws")

/-- `is_mutation`. -/
def Request.isMutation (request : Request) : Bool :=
  match request.method with
  | .other _ => true
  | _ => false

/-! ## Checks -/

/-- The errors of the gate. -/
inductive GateError where
  | unauthorized
  | forbidden (message : String)
  deriving DecidableEq, Repr

/-- `validate_origin`. -/
def validateOrigin (headers : GateHeaders) (publicOrigin : String) : Except GateError Unit := do
  let origin ← okOr (headers.origin.head?.join) (.forbidden "missing Origin header")
  ensure (origin = publicOrigin) (.forbidden "request origin is not allowed")

/-- A text, unless it is empty. -/
def nonEmpty (text : String) : Option String := if text.isEmpty then none else some text

/-- `validate_csrf`, with the digest of a token as a parameter. -/
def validateCsrf (sha256 : String → Hash) (headers : GateHeaders) (expectedHash : Hash) :
    Except GateError Unit := do
  let headerToken ← okOr (headers.csrfToken.head?.join.bind nonEmpty)
    (.forbidden "missing CSRF token")
  ensure (headers.csrfToken.tail.isEmpty = true) (.forbidden "invalid CSRF token")
  let cookieTokens := cookieValues headers csrfCookie
  let cookieToken ← okOr (cookieTokens.head?.bind nonEmpty) (.forbidden "missing CSRF cookie")
  ensure (cookieTokens.tail.isEmpty = true) (.forbidden "invalid CSRF token")
  ensure (Oidc.constantTimeEq (sha256 headerToken) (sha256 cookieToken) = true ∧
      Oidc.constantTimeEq (sha256 headerToken) expectedHash = true)
    (.forbidden "invalid CSRF token")

/-- `is_admin`. -/
def SessionContext.isAdmin (session : SessionContext) : Bool := decide (session.role = .admin)

section

variable (sha256 : String → Hash) (publicOrigin : String)

/-- What `require_auth` checks between its two looks at the store. -/
def permit (request : Request) (session : SessionContext) : Except GateError Unit := do
  if request.isWebsocket ∨ request.isMutation then
    validateOrigin request.headers publicOrigin
  if request.isMutation then
    validateCsrf sha256 request.headers session.csrfHash
    ensure (session.isAdmin ∨ request.path = "/api/auth/logout")
      (.forbidden "viewer sessions cannot modify application state")

/-- `authenticate_headers`: the session of the first session cookie. -/
def authenticateRequest (policyFingerprint : Option Hash) (request : Request) (now : Int)
    (db : AuthDb) : Option SessionContext × AuthDb :=
  match cookieValue request.headers sessionCookie with
  | none => (none, db)
  | some token => authenticateHeaders policyFingerprint (sha256 token) now db

/-- The second look of `require_auth`: whether the session is still active. -/
def stillActive (request : Request) (session : SessionContext) (now : Int) (db : AuthDb) :
    Bool × AuthDb :=
  if request.isWebsocket then
    (sessionIsActive session.id session.username session.role session.kind now db, db)
  else
    touchSessionIfActiveThrottled session.id session.username session.role session.kind now
      httpSessionTouchSecs db

/-! ## Requests in flight -/

/-- A request that passed the checks. -/
structure Passed where
  request : Request
  session : SessionContext
  deriving DecidableEq, Repr

/-- The session store, and the requests between the two looks at it. -/
structure Gate where
  db : AuthDb
  inFlight : Nat → Option Passed

/-- What happens: an operation on the store, a request that arrives, and one that is
looked at again. -/
inductive GateEvent where
  | store (event : SessionEvent)
  | arrive (id : Nat) (request : Request) (now : Int)
  | proceed (id : Nat) (now : Int)

/-- The clock of an event. -/
def GateEvent.now : GateEvent → Int
  | .store event => event.now
  | .arrive _ _ now => now
  | .proceed _ now => now

/-- A request whose handler runs, with the session that the handler is given. -/
structure Handled where
  passed : Passed
  now : Int
  deriving DecidableEq, Repr

namespace Gate

/-- A gate with nothing in flight. -/
def idle (db : AuthDb) : Gate := ⟨db, fun _ => none⟩

variable (policyFingerprint : Option Hash)

/-- A request that arrives: what passes the checks, and the store. -/
def arrived (request : Request) (now : Int) (s : Gate) : Option Passed × AuthDb :=
  match authenticateRequest sha256 policyFingerprint request now s.db with
  | (none, db) => (none, db)
  | (some session, db) =>
      match permit sha256 publicOrigin request session with
      | .error _ => (none, db)
      | .ok () => (some ⟨request, session⟩, db)

/-- One step. -/
def step (s : Gate) : GateEvent → Gate
  | .store event => { s with db := sessionStep s.db event }
  | .arrive id request now =>
      let passed := arrived sha256 publicOrigin policyFingerprint request now s
      ⟨passed.2, fun other => if other = id then passed.1 else s.inFlight other⟩
  | .proceed id now =>
      match s.inFlight id with
      | none => s
      | some passed =>
          ⟨(stillActive passed.request passed.session now s.db).2,
            fun other => if other = id then none else s.inFlight other⟩

/-- The handler that a step runs. -/
def handled (s : Gate) : GateEvent → Option Handled
  | .proceed id now =>
      (s.inFlight id).bind (fun passed =>
        if (stillActive passed.request passed.session now s.db).1 then some ⟨passed, now⟩
        else none)
  | _ => none

/-- The handlers that run, in order. -/
def handledBy (s : Gate) (events : List GateEvent) : List Handled :=
  emitted (step sha256 publicOrigin policyFingerprint) handled s events

end Gate

end

end RouterView.Auth
