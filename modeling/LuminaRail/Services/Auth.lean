import LuminaRail.Model.Errors
import LuminaRail.Model.Schema
import LuminaRail.Model.Text

/-! `AuthService`: registering and logging in, and the middleware that every request with a token
has to pass.
-/

namespace LuminaRail

inductive Role
  | USER
  | MERCHANT
  | ADMIN
  | SUPER_ADMIN
deriving DecidableEq

def Role.name : Role → String
  | .USER => "USER"
  | .MERCHANT => "MERCHANT"
  | .ADMIN => "ADMIN"
  | .SUPER_ADMIN => "SUPER_ADMIN"

inductive UserStatus
  | ACTIVE
  | SUSPENDED
  | PENDING
deriving DecidableEq

structure User where
  email : String
  phone : Option String := none
  passwordHash : String
  role : Role := .USER
  status : UserStatus := .ACTIVE

/-- The users by their identifiers. -/
abbrev Users := AList fun _ : Id => User

/-- What a token says of its user. -/
structure AuthUserPayload where
  id : Id
  email : String
  role : Role
  status : UserStatus
deriving DecidableEq

inductive JwtError
  | expired
  | malformed

/-- What the services use of the packages for mail addresses, password hashes and tokens. A token is
signed and checked with a secret, at a time.
-/
structure AuthLibraries where
  isEmail : String → Bool
  hash : String → String → String
  compare : String → String → Bool
  Token : Type
  sign : String → AuthUserPayload → Nat → Token
  verify : String → Token → Nat → Except JwtError AuthUserPayload

/-- The texts in the body of a request, which may lack any of them. -/
structure AuthBody where
  email : Option String := none
  password : Option String := none
  phone : Option String := none
  role : Option String := none

structure RegisterDTO where
  email : String
  password : String
  phone : Option String
  role : Role
deriving DecidableEq

structure LoginDTO where
  email : String
  password : String

/-- `z.nativeEnum(Role).optional().default(Role.USER)`; `none` where the text is no role. -/
def parseRole : Option String → Option Role
  | none => some .USER
  | some text => [.USER, .MERCHANT, .ADMIN, .SUPER_ADMIN].find? fun role => role.name = text

def registerSchema (lib : AuthLibraries) (body : AuthBody) : Option RegisterDTO := do
  let email ← body.email.filter lib.isEmail
  let password ← body.password.filter fun password => 8 ≤ utf16Length password
  let role ← parseRole body.role
  pure ⟨email, password, body.phone, role⟩

def loginSchema (lib : AuthLibraries) (body : AuthBody) : Option LoginDTO := do
  let email ← body.email.filter lib.isEmail
  let password ← body.password.filter fun password => 1 ≤ utf16Length password
  pure ⟨email, password⟩

namespace AppError

def validation (message : String) : AppError := ⟨message, 400, "VALIDATION_ERROR"⟩

def unauthorized (message : String) : AppError := ⟨message, 401, "UNAUTHORIZED"⟩

end AppError

/-- What the environment adds to a request: the time, the identifier of a new user, the salt of its
password, and whether the database fails on the search for a user or on its creation.
-/
structure AuthInput where
  time : Nat
  id : Id
  named : id ≠ ""
  salt : String := ""
  searchThrows : Bool := false
  createThrows : Bool := false

def tokenOf (lib : AuthLibraries) (secret : String) (time : Nat) (id : Id) (user : User)
    : lib.Token :=
  lib.sign secret ⟨id, user.email, user.role, user.status⟩ time

namespace AuthService

/-- A user with the mail address or the telephone number. -/
def taken (dto : RegisterDTO) (users : Users) : Bool :=
  users.entries.any fun entry => entry.2.email = toLowerCase dto.email
    || (truthy dto.phone).any fun phone => entry.2.phone = some phone

/-- The unique columns of a new user are taken. -/
def conflicts (id : Id) (user : User) (users : Users) : Bool :=
  users.entries.any fun entry => entry.1 = id || entry.2.email = user.email
    || user.phone.any fun phone => entry.2.phone = some phone

/-- The user that a registration creates. -/
def newUser (lib : AuthLibraries) (input : AuthInput) (dto : RegisterDTO) : User where
  email := toLowerCase dto.email
  passwordHash := lib.hash dto.password input.salt
  phone := dto.phone
  role := dto.role
  status := .ACTIVE

def register (lib : AuthLibraries) (secret : String) (input : AuthInput) (dto : RegisterDTO)
    (users : Users) : Except AppError lib.Token × Users :=
  if input.searchThrows then
    (.error ⟨"", 500, "P1001"⟩, users)
  else if taken dto users then
    (.error (.conflict "User with this email or phone already exists."), users)
  else if input.createThrows then
    (.error ⟨"", 500, "P1001"⟩, users)
  else
    let user := newUser lib input dto
    if conflicts input.id user users then
      (.error .uniqueConstraint, users)
    else
      (.ok (tokenOf lib secret input.time input.id user), users.insert input.id user)

def login (lib : AuthLibraries) (secret : String) (input : AuthInput) (dto : LoginDTO)
    (users : Users) : Except AppError lib.Token :=
  if input.searchThrows then
    .error ⟨"", 500, "P1001"⟩
  else
    match users.entries.find? fun entry => entry.2.email = toLowerCase dto.email with
    | none => .error (.unauthorized "Invalid email or password.")
    | some ⟨id, user⟩ =>
        if user.passwordHash = "" then
          .error (.unauthorized "Invalid email or password.")
        else if lib.compare dto.password user.passwordHash = false then
          .error (.unauthorized "Invalid email or password.")
        else if user.status = .SUSPENDED then
          .error (.unauthorized "Account is suspended.")
        else
          .ok (tokenOf lib secret input.time id user)

end AuthService

/-- The header holds a token or none. -/
def authenticateToken (lib : AuthLibraries) (secret : String) (time : Nat)
    (authorization : Option lib.Token) : Except AppError AuthUserPayload :=
  match authorization with
  | none => .error (.unauthorized "Authentication token is required.")
  | some token =>
      match lib.verify secret token time with
      | .error .expired =>
          .error (.unauthorized "Authentication token has expired. Please log in again.")
      | .error .malformed =>
          .error (.unauthorized "Invalid authentication token format or signature.")
      | .ok payload =>
          if payload.id = "" then
            .error (.unauthorized "Invalid authentication token payload.")
          else if payload.status = .SUSPENDED then
            .error (.forbidden "User account is suspended.")
          else
            .ok payload

def requireRole (allowedRoles : List Role) (user : AuthUserPayload)
    : Except AppError AuthUserPayload :=
  if user.role ∈ allowedRoles then
    .ok user
  else
    .error (.forbidden ("Access denied. Requires one of the following roles: "
      ++ String.intercalate ", " (allowedRoles.map Role.name)))

/-- The routes that ask for a role. -/
inductive GatedRoute
  | liquidity
  | audit
  | refundCreation
  | pendingSettlements
deriving DecidableEq

def GatedRoute.allowedRoles : GatedRoute → List Role
  | .liquidity => [.ADMIN, .SUPER_ADMIN]
  | .audit => [.ADMIN, .SUPER_ADMIN]
  | .refundCreation => [.ADMIN, .SUPER_ADMIN]
  | .pendingSettlements => [.ADMIN, .SUPER_ADMIN]

/-- What stands before the handler of a route. -/
def GatedRoute.enter (lib : AuthLibraries) (secret : String) (time : Nat)
    (authorization : Option lib.Token) (route : GatedRoute)
    : Except AppError AuthUserPayload := do
  let user ← authenticateToken lib secret time authorization
  requireRole route.allowedRoles user

inductive AuthRequest
  | register (body : AuthBody)
  | login (body : AuthBody)

/-- The users and the tokens that have been handed out. -/
structure AuthState (lib : AuthLibraries) where
  users : Users
  tokens : List lib.Token

/-- A body that its schema refuses changes nothing. -/
def AuthRequest.serve (lib : AuthLibraries) (secret : String) (input : AuthInput)
    (state : AuthState lib) : AuthRequest → Except AppError lib.Token × AuthState lib
  | .register body =>
      match registerSchema lib body with
      | none => (.error (.validation "Invalid request input data."), state)
      | some dto =>
          let (answer, users) := AuthService.register lib secret input dto state.users
          (answer, ⟨users, answer.toOption.toList ++ state.tokens⟩)
  | .login body =>
      match loginSchema lib body with
      | none => (.error (.validation "Invalid request input data."), state)
      | some dto =>
          let answer := AuthService.login lib secret input dto state.users
          (answer, { state with tokens := answer.toOption.toList ++ state.tokens })

/-- The state after the requests, the newest of which comes first. -/
def serveAll (lib : AuthLibraries) (secret : String) (start : AuthState lib)
    : List (AuthInput × AuthRequest) → AuthState lib
  | [] => start
  | (input, request) :: earlier =>
      (request.serve lib secret input (serveAll lib secret start earlier)).2

end LuminaRail
