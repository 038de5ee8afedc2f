import Mathlib.Data.List.Sort
import Xyena.Contracts.Values
import Xyena.Foundation.OwnedRows
import Xyena.Foundation.Runs
import Xyena.Foundation.Session

/-!
# Browser sessions of the GST portal

`auth.py` of the GST portal with the routes of `main.py` that use it. A request
bears the token of its cookie, and a request that changes something bears the form
token of its header as well. Both tokens are stored as digests. The users, the
enterprises and the memberships may be changed by anybody else between two requests.
The password check and the digest are parameters.
-/

namespace Xyena.Gst.Sessions

open Xyena.Foundation Xyena.Foundation.Session Xyena.Contracts

/-! ## Rows -/

structure User where
  id : String
  email : String
  passwordHash : String
  status : String := "ACTIVE"
deriving DecidableEq, Repr

structure Enterprise where
  id : String
  tenantId : String
  status : String := "ACTIVE"
deriving DecidableEq, Repr

structure EnterpriseMembership where
  userId : String
  enterpriseId : String
  roles : List String
  status : String := "ACTIVE"
deriving DecidableEq, Repr

structure BrowserSession where
  id : String
  tokenHash : String
  csrfHash : String
  userId : String
  enterpriseId : String
  expiresAt : Time
deriving DecidableEq, Repr

structure BrowserScope where
  session : BrowserSession
  user : User
  enterprise : Enterprise
  membership : EnterpriseMembership
deriving DecidableEq, Repr

/-- The tables that the portal only reads. -/
structure Directory where
  users : List User := []
  enterprises : List Enterprise := []
  memberships : List EnterpriseMembership := []

structure State where
  directory : Directory
  sessions : List BrowserSession := []

/-! ## Requests -/

/-- The password and token hashes, and `str.lower`. -/
structure AuthPlatform where
  lower : String → String
  verifyPassword : String → String → Bool
  hashToken : String → String

inductive AuthFailure where
  | unauthenticated (detail : String)
  | forbidden (detail : String)
  | integrity
deriving DecidableEq, Repr

/-- A request, with the tokens that it bears, its clock, and what it draws. -/
structure Call where
  cookie : Option String := none
  csrfToken : Option String := none
  now : Time
  id : String := ""
  token : String := ""
  csrf : String := ""

/-- The routes for a browser that is signed in. -/
inductive Action where
  | session
  | logout
  | switchEnterprise (enterpriseId : String)
  /-- Any other route that only reads. -/
  | read
  /-- Any other route that verifies the form token. -/
  | change

/-- The routes that verify the form token. -/
def Action.protected : Action → Bool
  | .logout => true
  | .switchEnterprise _ => true
  | .change => true
  | _ => false

inductive Step where
  | login (call : Call) (email password : String)
  | request (call : Call) (action : Action)
  | administer (directory : Directory)

inductive Notice where
  | administered
  | failed (failure : AuthFailure)
  | signedIn (sessionId userId enterpriseId token csrf : String)
  | viewed (scope : BrowserScope) (csrf : String)
  | signedOut (scope : BrowserScope)
  | switched (scope : BrowserScope) (enterpriseId : String)
  | served (scope : BrowserScope)

/-! ## Authentication -/

section Routes

variable (platform : AuthPlatform) (state : State) (call : Call)

def authenticate (email password : String) : Except AuthFailure User :=
  match state.directory.users.find? fun user ↦
      user.email == platform.lower email && user.status == "ACTIVE" with
  | none => .error (.unauthenticated "The email or password was not accepted.")
  | some user =>
    if platform.verifyPassword password user.passwordHash then .ok user
    else .error (.unauthenticated "The email or password was not accepted.")

/-- The active memberships of a user in the order of their enterprises. -/
def activeMemberships (userId : String) : List EnterpriseMembership :=
  (state.directory.memberships.filter fun row ↦ row.userId == userId && row.status == "ACTIVE").insertionSort
    fun first second ↦ first.enterpriseId ≤ second.enterpriseId

/-- `create_browser_session`, for the first membership. -/
def createBrowserSession (user : User) : Except AuthFailure BrowserSession :=
  match activeMemberships state user.id with
  | [] => .error (.forbidden "The test user has no active enterprise membership.")
  | membership :: _ =>
    .ok
      { id := call.id, tokenHash := platform.hashToken call.token, csrfHash := platform.hashToken call.csrf
        userId := user.id, enterpriseId := membership.enterpriseId,
          expiresAt := call.now + seconds (8 * 60 * 60) }

/-- The joined row of a token. -/
def joined (token : String) : Option BrowserScope := do
  let session ← Table.lookup BrowserSession.tokenHash (platform.hashToken token) state.sessions
  let user ← Table.lookup User.id session.userId state.directory.users
  let enterprise ← Table.lookup Enterprise.id session.enterpriseId state.directory.enterprises
  let membership ← state.directory.memberships.find? fun row ↦
    row.userId == session.userId && row.enterpriseId == session.enterpriseId
  return ⟨session, user, enterprise, membership⟩

def resolveBrowserScope : Except AuthFailure BrowserScope :=
  match call.cookie with
  | none => .error (.unauthenticated "Sign in to continue.")
  | some token =>
    if token = "" then .error (.unauthenticated "Sign in to continue.")
    else
      match joined platform state token with
      | none => .error (.unauthenticated "The session is invalid.")
      | some scope =>
        if scope.session.expiresAt ≤ call.now then .error (.unauthenticated "The session has expired.")
        else if scope.user.status ≠ "ACTIVE" ∨ scope.enterprise.status ≠ "ACTIVE" ∨
          scope.membership.status ≠ "ACTIVE" then
          .error (.forbidden "The user or enterprise membership is inactive.")
        else .ok scope

def verifyCsrf (scope : BrowserScope) : Except AuthFailure Unit :=
  ensure (call.csrfToken.any fun supplied ↦ platform.hashToken supplied == scope.session.csrfHash)
    (.forbidden "The form security token is missing or invalid.")

/-- The scope of a request, with the form token verified where the route does so. -/
def admitted (action : Action) : Except AuthFailure BrowserScope := do
  let scope ← resolveBrowserScope platform state call
  if action.protected then verifyCsrf platform call scope
  return scope

/-- The sessions with a changed row. -/
def stored (row : BrowserSession) : State :=
  { state with sessions := Table.replace BrowserSession.id row state.sessions }

/-- `login`. -/
def signIn (email password : String) : Except AuthFailure (Notice × State) := do
  let user ← authenticate platform state email password
  let row ← createBrowserSession platform state call user
  ensure (state.sessions.all fun old ↦ old.id != row.id && old.tokenHash != row.tokenHash) .integrity
  return (.signedIn row.id user.id row.enterpriseId call.token call.csrf,
    { state with sessions := state.sessions ++ [row] })

/-- What a route does in its scope. -/
def perform (scope : BrowserScope) : Action → Except AuthFailure (Notice × State)
  | .session =>
    .ok (.viewed scope call.csrf,
      stored state { scope.session with csrfHash := platform.hashToken call.csrf })
  | .logout =>
    .ok (.signedOut scope,
      { state with sessions := state.sessions.filter fun row ↦ row.id != scope.session.id })
  | .switchEnterprise enterpriseId =>
    if state.directory.memberships.any fun row ↦
        row.userId == scope.user.id && row.enterpriseId == enterpriseId && row.status == "ACTIVE" then
      .ok (.switched scope enterpriseId, stored state { scope.session with enterpriseId := enterpriseId })
    else .error (.forbidden "The requested enterprise is not assigned to this user.")
  | .read => .ok (.served scope, state)
  | .change => .ok (.served scope, state)

def respond (action : Action) : Except AuthFailure (Notice × State) := do
  let scope ← admitted platform state call action
  perform platform state call scope action

end Routes

/-- A request that fails changes nothing. -/
def settle (state : State) : Except AuthFailure (Notice × State) → Notice × State
  | .ok result => result
  | .error failure => (.failed failure, state)

def step (platform : AuthPlatform) (state : State) : Step → Notice × State
  | .administer directory => (.administered, { state with directory := directory })
  | .login call email password => settle state (signIn platform state call email password)
  | .request call action => settle state (respond platform state call action)

def portal (platform : AuthPlatform) : Machine State Step Notice where
  step := step platform

abbrev Record := Entry State Step Notice

end Xyena.Gst.Sessions
