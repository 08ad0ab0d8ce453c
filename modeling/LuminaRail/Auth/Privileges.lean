import LuminaRail.Database.Store
import LuminaRail.Services.Auth

/-! Who gets past the gates for administrators. A token says of its user what the database says, and
the database says of a new user what the request for its registration has asked for.
-/

namespace LuminaRail

open Database

-----------------------------------------------------------------------------------------
-- Administrators
-----------------------------------------------------------------------------------------

def administrators : List Role := [.ADMIN, .SUPER_ADMIN]

theorem GatedRoute.allowedRoles_eq (route : GatedRoute) : route.allowedRoles = administrators := by
  cases route <;> rfl

def NoAdministrators (users : Users) : Prop :=
  ∀ id user, users.lookup id = some user → user.role ∉ administrators

/-- What the package for tokens is documented to do: a token vouches for the payload that it was
signed for and for no other, at least while it is new.
-/
structure AuthLibraries.Vouches (lib : AuthLibraries) : Prop where
  payload : ∀ {secret payload issued time other},
    lib.verify secret (lib.sign secret payload issued) time = .ok other → other = payload
  fresh : ∀ secret payload time,
    lib.verify secret (lib.sign secret payload time) time = .ok payload

/-- Nothing keeps the user from being created. -/
structure Registrable (lib : AuthLibraries) (input : AuthInput) (dto : RegisterDTO) (users : Users)
    : Prop where
  searches : input.searchThrows = false
  unknown : AuthService.taken dto users = false
  creates : input.createThrows = false
  free : AuthService.conflicts input.id (AuthService.newUser lib input dto) users = false

/-- The body is accepted, asks for the role of an administrator and gets it. -/
def AppointsItself (lib : AuthLibraries) (input : AuthInput) (body : AuthBody) (users : Users)
    : Prop :=
  ∃ dto, registerSchema lib body = some dto ∧ dto.role ∈ administrators
    ∧ Registrable lib input dto users

/-- The token gets its bearer past a gate at some time. -/
def OpensGate (lib : AuthLibraries) (secret : String) (token : lib.Token) : Prop :=
  ∃ (route : GatedRoute) (time : Nat) (payload : AuthUserPayload),
    route.enter lib secret time (some token) = .ok payload

section

variable {lib : AuthLibraries} {secret : String} {payload : AuthUserPayload}

/-- Whoever gets past a gate has the token of an administrator. -/
theorem role_of_opensGate (vouches : lib.Vouches) {issued : Nat}
    (opens : OpensGate lib secret (lib.sign secret payload issued))
    : payload.role ∈ administrators := by
  obtain ⟨route, time, user, entered⟩ := opens
  unfold GatedRoute.enter authenticateToken at entered
  dsimp only at entered
  cases checked : lib.verify secret (lib.sign secret payload issued) time with
  | error error => cases error <;> simp [checked, Bind.bind, Except.bind] at entered
  | ok other =>
      obtain rfl := vouches.payload checked
      by_contra unprivileged
      rw [checked] at entered
      dsimp only at entered
      split_ifs at entered
      · simp [Bind.bind, Except.bind] at entered
      · simp [Bind.bind, Except.bind] at entered
      · simp [Bind.bind, Except.bind, requireRole, route.allowedRoles_eq, unprivileged] at entered

/-- The token of an administrator who is not suspended opens every gate while it is new. -/
theorem opensGate_of_role (vouches : lib.Vouches) (named : payload.id ≠ "")
    (active : payload.status ≠ .SUSPENDED) (privileged : payload.role ∈ administrators) (time : Nat)
    : OpensGate lib secret (lib.sign secret payload time) := by
  refine ⟨.liquidity, time, payload, ?_⟩
  simp [GatedRoute.enter, authenticateToken, vouches.fresh, named, active, requireRole,
    GatedRoute.allowedRoles_eq, privileged, Bind.bind, Except.bind]

end

-----------------------------------------------------------------------------------------
-- One request
-----------------------------------------------------------------------------------------

/-- Nobody is an administrator, neither in the database nor by a token. -/
structure Unprivileged (lib : AuthLibraries) (secret : String) (state : AuthState lib) : Prop where
  users : NoAdministrators state.users
  tokens : ∀ token ∈ state.tokens, ∃ payload time, token = lib.sign secret payload time
    ∧ payload.role ∉ administrators

section

variable {lib : AuthLibraries} {secret : String} {input : AuthInput} {state : AuthState lib}

theorem register_of_registrable {dto : RegisterDTO} {users : Users}
    (registrable : Registrable lib input dto users)
    : AuthService.register lib secret input dto users
      = (.ok (tokenOf lib secret input.time input.id (AuthService.newUser lib input dto)),
        users.insert input.id (AuthService.newUser lib input dto)) := by
  obtain ⟨searches, unknown, creates, free⟩ := registrable
  simp [AuthService.register, searches, unknown, creates, free]

theorem register_refused {dto : RegisterDTO} {users : Users}
    (refused : ¬Registrable lib input dto users)
    : ∃ error, AuthService.register lib secret input dto users = (.error error, users) := by
  unfold AuthService.register
  by_cases searching : input.searchThrows
  · exact ⟨_, if_pos searching⟩
  rw [if_neg searching]
  by_cases known : AuthService.taken dto users
  · exact ⟨_, if_pos known⟩
  rw [if_neg known]
  by_cases creating : input.createThrows
  · exact ⟨_, if_pos creating⟩
  rw [if_neg creating]
  by_cases conflict : AuthService.conflicts input.id (AuthService.newUser lib input dto) users
  · exact ⟨_, if_pos conflict⟩
  · exact absurd ⟨by simpa using searching, by simpa using known, by simpa using creating,
      by simpa using conflict⟩ refused

/-- A login answers with a token of a registered user, if with any. -/
theorem login_token {dto : LoginDTO} {users : Users} {token : lib.Token}
    (answered : AuthService.login lib secret input dto users = .ok token)
    : ∃ id user, users.lookup id = some user
      ∧ token = lib.sign secret ⟨id, user.email, user.role, user.status⟩ input.time := by
  unfold AuthService.login at answered
  split at answered
  · cases answered
  split at answered
  · cases answered
  rename_i id user found
  have stored : users.lookup id = some user :=
    AList.mem_lookup_iff.mpr (List.mem_of_find?_eq_some found)
  split_ifs at answered
  exact ⟨id, user, stored, (Except.ok.inj answered).symm⟩

/-- Tokens that have been handed out stay valid. -/
theorem serve_tokens (request : AuthRequest) {token : lib.Token} (member : token ∈ state.tokens)
    : token ∈ (request.serve lib secret input state).2.tokens := by
  cases request with
  | register body =>
      simp only [AuthRequest.serve]
      split
      · exact member
      · exact List.mem_append_right _ member
  | login body =>
      simp only [AuthRequest.serve]
      split
      · exact member
      · exact List.mem_append_right _ member

/-- A user who registers without appointing itself has no privileges. -/
theorem Unprivileged.register (unprivileged : Unprivileged lib secret state) {body : AuthBody}
    (modest : ¬AppointsItself lib input body state.users)
    : Unprivileged lib secret ((AuthRequest.register body).serve lib secret input state).2 := by
  simp only [AuthRequest.serve]
  cases parsed : registerSchema lib body with
  | none => exact unprivileged
  | some dto =>
      dsimp only
      by_cases registrable : Registrable lib input dto state.users
      · have user_role : (AuthService.newUser lib input dto).role ∉ administrators :=
          fun privileged => modest ⟨dto, parsed, privileged, registrable⟩
        rw [register_of_registrable registrable]
        refine ⟨fun id user found => ?_, fun token member => ?_⟩
        · rcases lookup_insert_cases found with new | old
          · obtain ⟨rfl, same⟩ := Sigma.mk.inj new
            exact eq_of_heq same ▸ user_role
          · exact unprivileged.users id user old
        · rcases List.mem_cons.mp member with rfl | old
          · exact ⟨_, _, rfl, user_role⟩
          · exact unprivileged.tokens token old
      · obtain ⟨error, refused⟩ : ∃ error,
            AuthService.register lib secret input dto state.users = (.error error, state.users) :=
          register_refused registrable
        rw [refused]
        exact unprivileged

theorem Unprivileged.login (unprivileged : Unprivileged lib secret state) (body : AuthBody)
    : Unprivileged lib secret ((AuthRequest.login body).serve lib secret input state).2 := by
  simp only [AuthRequest.serve]
  cases loginSchema lib body with
  | none => exact unprivileged
  | some dto =>
      dsimp only
      cases answered : AuthService.login lib secret input dto state.users with
      | error error => exact unprivileged
      | ok token =>
          obtain ⟨id, user, stored, rfl⟩ := login_token answered
          refine ⟨unprivileged.users, fun token member => ?_⟩
          rcases List.mem_cons.mp member with rfl | old
          · exact ⟨_, _, rfl, unprivileged.users id user stored⟩
          · exact unprivileged.tokens token old

/-- Whoever appoints itself is handed a token that opens the gates. -/
theorem opensGate_of_appointsItself (vouches : lib.Vouches) {body : AuthBody}
    (appoints : AppointsItself lib input body state.users)
    : ∃ token ∈ ((AuthRequest.register body).serve lib secret input state).2.tokens,
        OpensGate lib secret token := by
  obtain ⟨dto, parsed, privileged, registrable⟩ := appoints
  refine ⟨tokenOf lib secret input.time input.id (AuthService.newUser lib input dto), ?_,
    opensGate_of_role vouches input.named (by simp [AuthService.newUser]) privileged input.time⟩
  simp [AuthRequest.serve, parsed, register_of_registrable registrable, Except.toOption]

end

-----------------------------------------------------------------------------------------
-- Any number of requests
-----------------------------------------------------------------------------------------

/-- None of the requests, the newest of which comes first, appoints its user an administrator. -/
def Modest (lib : AuthLibraries) (secret : String) (start : AuthState lib)
    : List (AuthInput × AuthRequest) → Prop
  | [] => True
  | (input, .register body) :: earlier =>
      ¬AppointsItself lib input body (serveAll lib secret start earlier).users
        ∧ Modest lib secret start earlier
  | (_, .login _) :: earlier => Modest lib secret start earlier

/-- Without users who appoint themselves nobody becomes an administrator, by induction on the
requests.
-/
theorem Unprivileged.serveAll {lib : AuthLibraries} {secret : String} {start : AuthState lib}
    (unprivileged : Unprivileged lib secret start) {requests : List (AuthInput × AuthRequest)}
    (modest : Modest lib secret start requests)
    : Unprivileged lib secret (serveAll lib secret start requests) := by
  induction requests with
  | nil => exact unprivileged
  | cons entry earlier ih =>
      obtain ⟨input, request⟩ := entry
      cases request with
      | register body => exact (ih modest.2).register modest.1
      | login body => exact (ih modest).login body

/-- Starting without administrators, no token that users are handed ever opens a gate for
administrators exactly if no request registers its user as one. By induction over the requests,
in both directions.
-/
theorem no_privilege_escalation_iff {lib : AuthLibraries} (vouches : lib.Vouches) (secret : String)
    {users : Users} (none_yet : NoAdministrators users) (requests : List (AuthInput × AuthRequest))
    : (∀ token ∈ (serveAll lib secret ⟨users, []⟩ requests).tokens, ¬OpensGate lib secret token)
      ↔ Modest lib secret ⟨users, []⟩ requests := by
  constructor
  · intro closed
    induction requests with
    | nil => trivial
    | cons entry earlier ih =>
        obtain ⟨input, request⟩ := entry
        have before := ih fun token member => closed token (serve_tokens request member)
        cases request with
        | register body =>
            refine ⟨fun appoints => ?_, before⟩
            obtain ⟨token, member, opens⟩ : ∃ token ∈ ((AuthRequest.register body).serve lib secret
                input (LuminaRail.serveAll lib secret ⟨users, []⟩ earlier)).2.tokens,
                OpensGate lib secret token :=
              opensGate_of_appointsItself vouches appoints
            exact closed token member opens
        | login body => exact before
  · intro modest token member opens
    have start : Unprivileged lib secret ⟨users, []⟩ :=
      ⟨none_yet, fun token member => absurd member List.not_mem_nil⟩
    obtain ⟨payload, time, rfl, unprivileged⟩ := (start.serveAll modest).tokens token member
    exact unprivileged (role_of_opensGate vouches opens)

/-- Libraries that keep everything in plain sight, with tokens that last a day. -/
def plainLibraries : AuthLibraries where
  isEmail text := includes text "@"
  hash password salt := salt ++ password
  compare password hashed := includes hashed password
  Token := String × AuthUserPayload × Nat
  sign secret payload time := (secret, payload, time)
  verify secret token time :=
    if token.1 ≠ secret then .error .malformed
    else if token.2.2 + 86400 ≤ time then .error .expired
    else .ok token.2.1

theorem plainLibraries_vouches : plainLibraries.Vouches where
  payload {secret payload issued time other} checked := by
    simp only [plainLibraries, ne_eq, not_true_eq_false, if_false] at checked
    split at checked
    · cases checked
    · exact (Except.ok.inj checked).symm
  fresh secret payload time := by simp [plainLibraries]

/-- Somebody registers and asks for no role. -/
def plainRegistration : AuthInput × AuthRequest :=
  (⟨0, "user", by decide, "", false, false⟩,
    .register { email := some "user@mail", password := some "password" })

theorem no_privilege_escalation_iff_plain
    : Modest plainLibraries "secret" ⟨∅, []⟩ [plainRegistration]
      ∧ ∀ token ∈ (serveAll plainLibraries "secret" ⟨∅, []⟩ [plainRegistration]).tokens,
        ¬OpensGate plainLibraries "secret" token := by
  have empty : NoAdministrators ∅ := fun id user found => by simp at found
  have modest : Modest plainLibraries "secret" ⟨∅, []⟩ [plainRegistration] := by
    refine ⟨fun appoints => ?_, trivial⟩
    obtain ⟨dto, parsed, privileged, _⟩ := appoints
    have accepted : registerSchema plainLibraries
        { email := some "user@mail", password := some "password" }
        = some ⟨"user@mail", "password", none, .USER⟩ := by
      decide +kernel
    obtain rfl := Option.some.inj (accepted.symm.trans parsed)
    simp [administrators] at privileged
  exact ⟨modest, (no_privilege_escalation_iff plainLibraries_vouches "secret" empty _).mpr modest⟩

/-- Somebody registers as an administrator. -/
def adminRegistration : AuthInput × AuthRequest :=
  (⟨0, "user", by decide, "", false, false⟩,
    .register { email := some "user@mail", password := some "password", role := some "ADMIN" })

/-- The first user of an empty database becomes its administrator. -/
theorem registers_as_administrator
    : NoAdministrators ∅
      ∧ ∃ token ∈ (serveAll plainLibraries "secret" ⟨∅, []⟩ [adminRegistration]).tokens,
          ∀ route : GatedRoute, route.enter plainLibraries "secret" 1 (some token)
            = .ok ⟨"user", "user@mail", .ADMIN, .ACTIVE⟩ := by
  refine ⟨fun id user found => by simp at found,
    ("secret", ⟨"user", "user@mail", .ADMIN, .ACTIVE⟩, 0), ?_, fun route => ?_⟩
  · have parsed : registerSchema plainLibraries
        { email := some "user@mail", password := some "password", role := some "ADMIN" }
        = some ⟨"user@mail", "password", none, .ADMIN⟩ := by
      decide +kernel
    have registrable : Registrable plainLibraries ⟨0, "user", by decide, "", false, false⟩
        ⟨"user@mail", "password", none, .ADMIN⟩ ∅ :=
      ⟨rfl, by decide +kernel, rfl, by decide +kernel⟩
    have email : toLowerCase "user@mail" = "user@mail" := by decide +kernel
    simp only [serveAll, adminRegistration, AuthRequest.serve, parsed,
      register_of_registrable registrable, Except.toOption, Option.toList_some, List.append_nil,
      tokenOf, AuthService.newUser, email]
    exact List.mem_cons_self
  · cases route <;> rfl

end LuminaRail
