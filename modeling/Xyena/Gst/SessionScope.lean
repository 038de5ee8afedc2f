import Xyena.Gst.Sessions

/-!
# What a browser session stands for

A request that is served in a scope bears the token of a login, made with the
password of the user less than eight hours before, and the session was not signed out
since. The enterprise is the one of the login or of the last switch. A request that
changes something also bears the form token that the session was given last.
-/

namespace Xyena.Gst.Sessions

open Xyena.Foundation Xyena.Foundation.Session Xyena.Contracts

/-! ## What the source promises -/

/-- The form token after an entry. -/
def csrfAfter (id csrf : String) (e : Record) : String :=
  match e.output with
  | .viewed scope token => if scope.session.id = id then token else csrf
  | _ => csrf

/-- The enterprise after an entry. -/
def enterpriseAfter (id enterpriseId : String) (e : Record) : String :=
  match e.output with
  | .switched scope next => if scope.session.id = id then next else enterpriseId
  | _ => enterpriseId

def SignsOut (id : String) (e : Record) : Prop :=
  ∃ scope, e.output = .signedOut scope ∧ scope.session.id = id

/-- The login of a session: the user was active and has given the password, and the tokens are those that the
login has drawn. -/
structure SignsIn (platform : AuthPlatform) (e : Record) (row : BrowserSession)
    (enterpriseId csrf : String) : Prop where
  request : ∃ call email password, e.input = .login call email password ∧
    row.tokenHash = platform.hashToken call.token ∧ row.expiresAt = call.now + seconds (8 * 60 * 60) ∧
    e.output = .signedIn row.id row.userId enterpriseId call.token csrf ∧
    ∃ user ∈ e.before.directory.users, user.id = row.userId ∧ user.email = platform.lower email ∧
      user.status = "ACTIVE" ∧
      platform.verifyPassword password user.passwordHash = true

/-- What a run tells of a session. -/
def Issued (platform : AuthPlatform) (history : List Record) (row : BrowserSession) : Prop :=
  ∃ before e after enterpriseId csrf, history = before ++ e :: after ∧
    SignsIn platform e row enterpriseId csrf ∧
    row.csrfHash = platform.hashToken (after.foldl (csrfAfter row.id) csrf) ∧
    row.enterpriseId = after.foldl (enterpriseAfter row.id) enterpriseId ∧ ∀ other ∈ after,
      ¬SignsOut row.id other

/-- The scope that a route was served in. -/
def Notice.scope : Notice → Option BrowserScope
  | .viewed scope _ => some scope
  | .signedOut scope => some scope
  | .switched scope _ => some scope
  | .served scope => some scope
  | _ => none

/-- What is granted to a request is what its tokens stand for. -/
structure Granted (platform : AuthPlatform) (history : List Record) (state : State) (call : Call)
    (action : Action)
    (scope : BrowserScope) : Prop where
  issued : Issued platform history scope.session
  cookie : ∃ token, call.cookie = some token ∧ platform.hashToken token = scope.session.tokenHash
  fresh : call.now < scope.session.expiresAt
  csrf : action.protected = true →
    ∃ supplied, call.csrfToken = some supplied ∧ platform.hashToken supplied = scope.session.csrfHash
  user : scope.user ∈ state.directory.users ∧ scope.user.id = scope.session.userId ∧
    scope.user.status = "ACTIVE"
  enterprise : scope.enterprise ∈ state.directory.enterprises ∧
    scope.enterprise.id = scope.session.enterpriseId ∧
    scope.enterprise.status = "ACTIVE"
  membership : scope.membership ∈ state.directory.memberships ∧ scope.membership.userId = scope.user.id ∧
    scope.membership.enterpriseId = scope.enterprise.id ∧ scope.membership.status = "ACTIVE"

/-! ## Routes -/

section Routes

variable {platform : AuthPlatform} {state : State} {call : Call}

theorem joined_spec {token : String} {scope : BrowserScope} (h : joined platform state token = some scope) :
    (scope.session ∈ state.sessions ∧ scope.session.tokenHash = platform.hashToken token) ∧
      (scope.user ∈ state.directory.users ∧ scope.user.id = scope.session.userId) ∧
      (scope.enterprise ∈ state.directory.enterprises ∧ scope.enterprise.id = scope.session.enterpriseId) ∧
      scope.membership ∈ state.directory.memberships ∧ scope.membership.userId = scope.session.userId ∧
        scope.membership.enterpriseId = scope.session.enterpriseId := by
  simp only [joined, Option.bind_eq_bind, Option.bind_eq_some_iff] at h
  obtain ⟨session, hsession, user, huser, enterprise, henterprise, membership, hmembership, hscope⟩ := h
  obtain rfl := Option.some.inj hscope
  have hmember := List.find?_some hmembership
  simp only [Bool.and_eq_true, beq_iff_eq] at hmember
  exact ⟨Table.lookup_spec hsession, Table.lookup_spec huser, Table.lookup_spec henterprise,
    List.mem_of_find?_eq_some hmembership, hmember⟩

theorem resolve_spec {scope : BrowserScope} (h : resolveBrowserScope platform state call = .ok scope) :
    ∃ token, call.cookie = some token ∧ joined platform state token = some scope ∧
      call.now < scope.session.expiresAt ∧ scope.user.status = "ACTIVE" ∧ scope.enterprise.status = "ACTIVE" ∧
        scope.membership.status = "ACTIVE" := by
  simp only [resolveBrowserScope] at h
  split at h
  · cases h
  next token hcookie =>
    split at h
    · cases h
    · split at h
      · cases h
      next found hjoined =>
        split at h
        · cases h
        next hfresh =>
          split at h
          · cases h
          next hactive =>
            obtain rfl := Except.ok.inj h
            simp only [not_or, not_not] at hactive
            exact ⟨token, hcookie, hjoined, not_le.mp hfresh, hactive⟩

theorem admitted_spec {action : Action} {scope : BrowserScope}
    (h : admitted platform state call action = .ok scope) :
    resolveBrowserScope platform state call = .ok scope ∧ (action.protected = true →
      ∃ supplied, call.csrfToken = some supplied ∧ platform.hashToken supplied = scope.session.csrfHash) := by
  obtain ⟨resolved, hresolved, h⟩ := bind_ok.mp h
  cases hprotected : action.protected with
  | false =>
    rw [hprotected] at h
    obtain rfl := Except.ok.inj h
    exact ⟨hresolved, by simp⟩
  | true =>
    rw [hprotected, if_pos rfl, verifyCsrf, ensure_bind_ok] at h
    obtain ⟨hcsrf, hscope⟩ := h
    obtain rfl := Except.ok.inj hscope
    refine ⟨hresolved, fun _ ↦ ?_⟩
    cases hsupplied : call.csrfToken with
    | none => simp [hsupplied] at hcsrf
    | some supplied => exact ⟨supplied, rfl, by simpa [hsupplied] using hcsrf⟩

theorem authenticate_spec {email password : String} {user : User}
    (h : authenticate platform state email password = .ok user) :
    user ∈ state.directory.users ∧ user.email = platform.lower email ∧ user.status = "ACTIVE" ∧
      platform.verifyPassword password user.passwordHash = true := by
  simp only [authenticate] at h
  split at h
  · cases h
  next found hfound =>
    split at h
    next hpassword =>
      obtain rfl := Except.ok.inj h
      have hmatch := List.find?_some hfound
      simp only [Bool.and_eq_true, beq_iff_eq] at hmatch
      exact ⟨List.mem_of_find?_eq_some hfound, hmatch.1, hmatch.2, hpassword⟩
    · cases h

theorem signIn_spec {email password : String} {notice : Notice} {after : State}
    (h : signIn platform state call email password = .ok (notice, after)) : ∃ row user,
    after = { state with sessions := state.sessions ++ [row] } ∧
      notice = .signedIn row.id row.userId row.enterpriseId call.token call.csrf ∧
      row.id = call.id ∧ row.tokenHash = platform.hashToken call.token ∧
        row.csrfHash = platform.hashToken call.csrf ∧
      row.expiresAt = call.now + seconds (8 * 60 * 60) ∧
        (user ∈ state.directory.users ∧ user.id = row.userId ∧
        user.email = platform.lower email ∧ user.status = "ACTIVE" ∧
          platform.verifyPassword password user.passwordHash = true) ∧
      ∀ old ∈ state.sessions, old.id ≠ row.id ∧ old.tokenHash ≠ row.tokenHash := by
  obtain ⟨user, huser, h⟩ := bind_ok.mp h
  obtain ⟨row, hrow, h⟩ := bind_ok.mp h
  obtain ⟨hfresh, h⟩ := ensure_bind_ok.mp h
  obtain ⟨rfl, rfl⟩ := Prod.mk.inj (Except.ok.inj h)
  obtain ⟨hmem, hemail, hactive, hpassword⟩ := authenticate_spec huser
  simp only [createBrowserSession] at hrow
  split at hrow
  · cases hrow
  next membership others hmemberships =>
    obtain rfl := Except.ok.inj hrow
    refine ⟨_, user, rfl, rfl, rfl, rfl, rfl, rfl, ⟨hmem, rfl, hemail, hactive, hpassword⟩, ?_⟩
    simpa using hfresh

end Routes

/-! ## One step -/

/-- What is kept of the sessions in every run. -/
structure Sound (platform : AuthPlatform) (history : List Record) (state : State) : Prop where
  ids : (state.sessions.map BrowserSession.id).Nodup
  issued : ∀ row ∈ state.sessions, Issued platform history row

section Steps

variable {platform : AuthPlatform} {history : List Record} {state : State} {row changed : BrowserSession}
    {e : Record}

/-- One more entry of a session, which may have changed its form token and its enterprise. -/
theorem Issued.snoc (h : Issued platform history row) (hid : changed.id = row.id)
    (htoken : changed.tokenHash = row.tokenHash) (huser : changed.userId = row.userId)
    (hexpires : changed.expiresAt = row.expiresAt)
    (hcsrf : ∀ csrf, row.csrfHash = platform.hashToken csrf →
      changed.csrfHash = platform.hashToken (csrfAfter row.id csrf e))
    (henterprise : changed.enterpriseId = enterpriseAfter row.id row.enterpriseId e)
    (hout : ¬SignsOut row.id e) : Issued platform (history ++ [e]) changed := by
  obtain ⟨before, login, after, enterpriseId, csrf, rfl, hlogin, hlastCsrf, hlastEnterprise, hkept⟩ := h
  obtain ⟨call, email, password, hinput, hhash, hexpiry, houtput, hchecked⟩ := hlogin.request
  refine ⟨before, login, after ++ [e], enterpriseId, csrf, by simp, ?_, ?_, ?_, ?_⟩
  · refine ⟨call, email, password, hinput, htoken.trans hhash, hexpires.trans hexpiry, ?_, ?_⟩
    · rw [hid, huser]
      exact houtput
    · rw [huser]
      exact hchecked
  · rw [List.foldl_append, hid]
    exact hcsrf _ hlastCsrf
  · rw [List.foldl_append, hid, henterprise, hlastEnterprise]
    rfl
  · rw [hid]
    exact List.forall_mem_append.mpr ⟨hkept, List.forall_mem_singleton.mpr hout⟩

/-- An entry that is about another session, or about none. -/
theorem Issued.other (h : Issued platform history row)
    (hcsrf : ∀ scope token, e.output = .viewed scope token → scope.session.id ≠ row.id)
    (henterprise : ∀ scope next, e.output = .switched scope next → scope.session.id ≠ row.id)
    (hout : ∀ scope, e.output = .signedOut scope → scope.session.id ≠ row.id) :
    Issued platform (history ++ [e]) row := by
  refine h.snoc rfl rfl rfl rfl (fun csrf hlast ↦ ?_) ?_ ?_
  · rw [csrfAfter]
    split
    next scope token houtput => rw [if_neg (hcsrf scope token houtput), hlast]
    · exact hlast
  · rw [enterpriseAfter]
    split
    next scope next houtput => rw [if_neg (henterprise scope next houtput)]
    · rfl
  · rintro ⟨scope, houtput, hid⟩
    exact hout scope houtput hid

/-- Sessions that an entry leaves as they are. -/
theorem Sound.quiet (h : Sound platform history state)
    (hquiet : ∀ scope, e.output.scope = some scope → e.output = .served scope) (directory : Directory) :
    Sound platform (history ++ [e]) { state with directory := directory } where
  ids := h.ids
  issued row hrow := by
    refine (h.issued row hrow).other (fun scope token houtput ↦ ?_) (fun scope next houtput ↦ ?_)
      (fun scope houtput ↦ ?_)
    all_goals
      have hserved := hquiet scope (by rw [houtput]; rfl)
      rw [houtput] at hserved
      cases hserved

/-- A changed session, with an entry that tells of the change. -/
theorem Sound.stored (h : Sound platform history state) (row : BrowserSession) (hid : changed.id = row.id)
    (hchanged : Issued platform (history ++ [e]) changed)
    (hother : ∀ scope, e.output.scope = some scope → scope.session = row) :
    Sound platform (history ++ [e]) (stored state changed) where
  ids := by
    rw [Sessions.stored, Table.map_key_replace]
    exact h.ids
  issued other hmem := by
    rcases Table.mem_replace hmem with rfl | ⟨hold, hne⟩
    · exact hchanged
    · rw [hid] at hne
      refine (h.issued other hold).other (fun scope token houtput ↦ ?_) (fun scope next houtput ↦ ?_)
        (fun scope houtput ↦ ?_)
      all_goals
        rw [hother scope (by rw [houtput]; rfl)]
        exact hne.symm

theorem Sound.signedIn (h : Sound platform history state) {call : Call} {email password : String}
    {user : User}
    (hinput : e.input = .login call email password) (hbefore : e.before = state)
    (houtput : e.output = .signedIn row.id row.userId row.enterpriseId call.token call.csrf)
    (htoken : row.tokenHash = platform.hashToken call.token)
    (hcsrf : row.csrfHash = platform.hashToken call.csrf)
    (hexpires : row.expiresAt = call.now + seconds (8 * 60 * 60))
    (huser : user ∈ state.directory.users ∧ user.id = row.userId ∧ user.email = platform.lower email ∧
      user.status = "ACTIVE" ∧ platform.verifyPassword password user.passwordHash = true)
    (hfresh : ∀ old ∈ state.sessions, old.id ≠ row.id) :
    Sound platform (history ++ [e]) { state with sessions := state.sessions ++ [row] } where
  ids := by
    rw [List.map_append, List.map_singleton, List.nodup_append']
    refine ⟨h.ids, List.nodup_singleton _, List.disjoint_singleton.mpr fun hmem ↦ ?_⟩
    obtain ⟨old, hold, hsame⟩ := List.mem_map.mp hmem
    exact hfresh old hold hsame
  issued := by
    refine List.forall_mem_append.mpr ⟨?_, List.forall_mem_singleton.mpr ?_⟩
    · refine (h.quiet (fun scope hscope ↦ ?_) state.directory).issued
      rw [houtput] at hscope
      cases hscope
    · refine ⟨history, e, [], row.enterpriseId, call.csrf, rfl,
        ⟨call, email, password, hinput, htoken, hexpires, houtput, user, ?_⟩, hcsrf, rfl, by simp⟩
      rw [hbefore]
      exact huser

theorem Sound.signedOut (h : Sound platform history state) {scope : BrowserScope}
    (houtput : e.output = .signedOut scope) :
    Sound platform (history ++ [e])
      { state with sessions := state.sessions.filter fun row ↦ row.id != scope.session.id } where
  ids := h.ids.sublist (List.filter_sublist.map _)
  issued row hrow := by
    obtain ⟨hmem, hne⟩ := List.mem_filter.mp hrow
    have hne : row.id ≠ scope.session.id := by simpa using hne
    refine (h.issued row hmem).other (by simp [houtput]) (by simp [houtput]) fun other hother ↦ ?_
    rw [houtput] at hother
    obtain rfl := Notice.signedOut.inj hother
    exact hne.symm

theorem Sound.performed (h : Sound platform history state) (call : Call) (action : Action)
    {scope : BrowserScope}
    {after : State} (hscope : scope.session ∈ state.sessions)
    (hperform : perform platform state call scope action = .ok (e.output, after)) :
    Sound platform (history ++ [e]) after := by
  have hissued := h.issued scope.session hscope
  cases action with
  | session =>
    obtain ⟨houtput, rfl⟩ := Prod.mk.inj (Except.ok.inj hperform)
    refine h.stored scope.session rfl ?_ fun other hother ↦ ?_
    · refine hissued.snoc rfl rfl rfl rfl (fun csrf _ ↦ ?_) ?_ ?_
      · rw [csrfAfter, ← houtput]
        simp
      · rw [enterpriseAfter, ← houtput]
      · rintro ⟨other, hother, -⟩
        rw [← houtput] at hother
        cases hother
    · rw [← houtput] at hother
      rw [← Option.some.inj hother]
  | logout =>
    obtain ⟨houtput, rfl⟩ := Prod.mk.inj (Except.ok.inj hperform)
    exact h.signedOut houtput.symm
  | switchEnterprise enterpriseId =>
    simp only [perform] at hperform
    split at hperform
    · obtain ⟨houtput, rfl⟩ := Prod.mk.inj (Except.ok.inj hperform)
      refine h.stored scope.session rfl ?_ fun other hother ↦ ?_
      · refine hissued.snoc rfl rfl rfl rfl (fun csrf hlast ↦ ?_) ?_ ?_
        · rw [csrfAfter, ← houtput]
          exact hlast
        · rw [enterpriseAfter, ← houtput]
          simp
        · rintro ⟨other, hother, -⟩
          rw [← houtput] at hother
          cases hother
      · rw [← houtput] at hother
        rw [← Option.some.inj hother]
    · cases hperform
  | read =>
    obtain ⟨houtput, rfl⟩ := Prod.mk.inj (Except.ok.inj hperform)
    refine h.quiet (fun other hother ↦ ?_) state.directory
    rw [← houtput] at hother ⊢
    exact congrArg Notice.served (Option.some.inj hother)
  | change =>
    obtain ⟨houtput, rfl⟩ := Prod.mk.inj (Except.ok.inj hperform)
    refine h.quiet (fun other hother ↦ ?_) state.directory
    rw [← houtput] at hother ⊢
    exact congrArg Notice.served (Option.some.inj hother)

theorem Sound.step (h : Sound platform history state) (input : Step) :
    Sound platform (history ++ [(portal platform).entry state input])
      ((portal platform).step state input).2 := by
  have hinput : ((portal platform).entry state input).input = input := rfl
  have hbefore : ((portal platform).entry state input).before = state := rfl
  have houtput : ((portal platform).entry state input).output = (Sessions.step platform state input).1 := rfl
  change Sound platform _ (Sessions.step platform state input).2
  generalize (portal platform).entry state input = e at hinput hbefore houtput ⊢
  have hfailed (failure : AuthFailure) (he : e.output = .failed failure) :
      Sound platform (history ++ [e]) state := by
    refine h.quiet (fun scope hscope ↦ ?_) state.directory
    rw [he] at hscope
    cases hscope
  cases input with
  | administer directory =>
    refine h.quiet (fun scope hscope ↦ ?_) directory
    rw [houtput] at hscope
    cases hscope
  | login call email password =>
    simp only [Sessions.step] at houtput ⊢
    cases hresult : signIn platform state call email password with
    | error failure =>
      rw [hresult] at houtput
      exact hfailed failure houtput
    | ok result =>
      obtain ⟨row, user, hafter, hnotice, -, htoken, hcsrf, hexpires, huser, hfresh⟩ := signIn_spec hresult
      rw [hresult] at houtput
      simp only [settle] at houtput ⊢
      rw [hafter]
      exact h.signedIn hinput hbefore (houtput.trans hnotice) htoken hcsrf hexpires huser
        fun old hold ↦ (hfresh old hold).1
  | request call action =>
    simp only [Sessions.step] at houtput ⊢
    cases hresult : respond platform state call action with
    | error failure =>
      rw [hresult] at houtput
      exact hfailed failure houtput
    | ok result =>
      rw [hresult] at houtput
      obtain ⟨scope, hscope, hperform⟩ := bind_ok.mp hresult
      obtain ⟨token, -, hjoined, -⟩ := resolve_spec (admitted_spec hscope).1
      simp only [settle] at houtput ⊢
      refine h.performed call action (joined_spec hjoined).1.1 ?_
      rw [houtput]
      exact hperform

end Steps

/-! ## Runs of the portal -/

section Runs

variable (platform : AuthPlatform) (directory : Directory) (steps : List Step)

theorem sound_run :
    Sound platform ((portal platform).log ⟨directory, []⟩ steps)
      ((portal platform).run ⟨directory, []⟩ steps) :=
  (portal platform).history_invariant_all (Sound platform) ⟨by simp, by simp⟩
    (fun _ _ input h ↦ h.step input) steps

/-- In every run, a request is served in a scope only when its tokens stand for that scope. -/
theorem session_scope (call : Call) (action : Action) (scope : BrowserScope)
    (h : (step platform ((portal platform).run ⟨directory, []⟩ steps)
      (.request call action)).1.scope = some scope) :
    Granted platform ((portal platform).log ⟨directory, []⟩ steps)
      ((portal platform).run ⟨directory, []⟩ steps) call
      action scope := by
  have hsound := sound_run platform directory steps
  generalize (portal platform).run ⟨directory, []⟩ steps = state at h hsound ⊢
  simp only [step] at h
  cases hresult : respond platform state call action with
  | error failure =>
    rw [hresult] at h
    cases h
  | ok result =>
    rw [hresult] at h
    obtain ⟨resolved, hadmitted, hperform⟩ := bind_ok.mp hresult
    have hsame : resolved = scope := by
      cases action with
      | switchEnterprise enterpriseId =>
        simp only [perform] at hperform
        split at hperform
        · obtain rfl := Except.ok.inj hperform
          exact Option.some.inj h
        · cases hperform
      | _ =>
        obtain rfl := Except.ok.inj hperform
        exact Option.some.inj h
    subst hsame
    obtain ⟨hresolved, hcsrf⟩ := admitted_spec hadmitted
    obtain ⟨token, hcookie, hjoined, hfresh, huser, henterprise, hmembership⟩ := resolve_spec hresolved
    obtain ⟨⟨hsession, htoken⟩, ⟨huserMem, huserId⟩, ⟨henterpriseMem, henterpriseId⟩, hmember, hmemberUser,
      hmemberEnterprise⟩ := joined_spec hjoined
    exact
      { issued := hsound.issued _ hsession
        cookie := ⟨token, hcookie, htoken.symm⟩
        fresh := hfresh
        csrf := hcsrf
        user := ⟨huserMem, huserId, huser⟩
        enterprise := ⟨henterpriseMem, henterpriseId, henterprise⟩
        membership := ⟨hmember, hmemberUser.trans huserId.symm,
          hmemberEnterprise.trans henterpriseId.symm, hmembership⟩ }

end Runs

section Example

def sessionDigests : List (String × String) :=
  [("login-token", "936cef147c65abc808defb3598daa752851176e3505b5879620b4d4200f00462"),
    ("csrf-1", "3f6f36ef4d060436a9ebe8029c2ae4566c983c31afadb2ca5f6a25d0b56d43a1"),
    ("csrf-2", "677c8e9c78d800b49c65f355300cdb087555c05bf8392e114fa973f767823ce8")]

def operatorHash : String :=
  "scrypt$00000000000000000000000000000000$021f9713ceadce04face6bed761f42545011759d1865798d7adf62793f02c783"

def sampleAuth : AuthPlatform where
  lower := String.toLower
  verifyPassword password encoded := password == "Password!1" && encoded == operatorHash
  hashToken token := (sessionDigests.lookup token).getD token

/-- An operator with two enterprises. -/
def sampleDirectory : Directory where
  users := [{ id := "user-1", email := "valve.operator@gst.demo.xyena.test", passwordHash := operatorHash }]
  enterprises := [{ id := "ent-1", tenantId := "tenant-1" }, { id := "ent-2", tenantId := "tenant-1" }]
  memberships :=
    [{ userId := "user-1", enterpriseId := "ent-2", roles := ["GST_REVIEWER"] },
      { userId := "user-1", enterpriseId := "ent-1", roles := ["GST_OPERATOR"] }]

/-- A login, a look at the session, which has a new form token, and a switch to the other enterprise. -/
def visit : List Step :=
  [.login { now := 0, id := "session-1", token := "login-token", csrf := "csrf-1" }
      "Valve.Operator@gst.demo.xyena.test" "Password!1",
    .request { cookie := some "login-token", now := 10, csrf := "csrf-2" } .session,
    .request { cookie := some "login-token", csrfToken := some "csrf-2", now := 20 }
      (.switchEnterprise "ent-2")]

/-- The scope after the switch. -/
def switchedScope : BrowserScope where
  session :=
    { id := "session-1", tokenHash := "936cef147c65abc808defb3598daa752851176e3505b5879620b4d4200f00462"
      csrfHash := "677c8e9c78d800b49c65f355300cdb087555c05bf8392e114fa973f767823ce8", userId := "user-1"
      enterpriseId := "ent-2", expiresAt := seconds (8 * 60 * 60) }
  user := { id := "user-1", email := "valve.operator@gst.demo.xyena.test", passwordHash := operatorHash }
  enterprise := { id := "ent-2", tenantId := "tenant-1" }
  membership := { userId := "user-1", enterpriseId := "ent-2", roles := ["GST_REVIEWER"] }

theorem visit_scope :
    Granted sampleAuth ((portal sampleAuth).log ⟨sampleDirectory, []⟩ visit)
      ((portal sampleAuth).run ⟨sampleDirectory, []⟩ visit)
      { cookie := some "login-token", csrfToken := some "csrf-2", now := 30 } .change switchedScope :=
  session_scope sampleAuth sampleDirectory visit _ .change switchedScope (by decide +kernel)

end Example

end Xyena.Gst.Sessions
