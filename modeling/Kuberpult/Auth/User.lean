import Mathlib.Data.List.AList
import Kuberpult.Auth.Base64

/-! Users and the request context (`pkg/auth`). A Go `context.Context` carries, for the
code modelled here, whether it is done, the user `WriteUserToContext` stored, the gRPC
metadata a request sends (outgoing) and received (incoming). Between the services the
user travels base64-encoded, in the headers `author-email`, `author-name` and
`author-role` of an HTTP request or in the gRPC metadata under the same keys. -/
namespace Kuberpult

/-- The RBAC part of a user, `auth.DexAuthContext`. -/
structure DexAuthContext where
  Role : GoString
  deriving DecidableEq, Repr

/-- Go's `auth.User`. -/
structure User where
  Email : GoString
  Name : GoString
  DexAuthContext : Option DexAuthContext
  deriving DecidableEq, Repr

/-- gRPC metadata (`metadata.MD`): its keys, lower-cased, each with its values in order. -/
abbrev MD := List (String × GoString)

/-- A request context. -/
structure Context where
  /-- The context's `Err()`: `none` while it is not done. -/
  Err : Option Error
  /-- The user `WriteUserToContext` stored under the package's key. -/
  user : Option User
  /-- The pairs `metadata.AppendToOutgoingContext` added, in order. -/
  outgoing : MD
  /-- The metadata `metadata.FromIncomingContext` finds, if any. -/
  incoming : Option MD
  deriving DecidableEq, Repr

/-- Go's `auth.ReadUserFromContext(ctx)`. -/
def ReadUserFromContext (ctx : Context) : Except Error User :=
  match ctx.user with
  | some u => .ok u
  | none => .error (.http (.text "could not read user from context"))

/-- Go's `auth.WriteUserToContext(ctx, u)`. -/
def WriteUserToContext (ctx : Context) (u : User) : Context := { ctx with user := some u }

/-- Go's `auth.GetUserOrDefault(u, defaultUser)`: the request's e-mail, and its name or
else its e-mail, when it has an e-mail; the default's otherwise. -/
def GetUserOrDefault (u : Option User) (defaultUser : User) : User :=
  let userAdapted : User := ⟨defaultUser.Email, defaultUser.Name, none⟩
  match u with
  | some u =>
    if u.Email ≠ [] then
      { userAdapted with Email := u.Email, Name := (if u.Name = [] then u.Email else u.Name) }
    else userAdapted
  | none => userAdapted

/-! ## Carrying the user between services -/

/-- The header and metadata key of the user's name, `HeaderUserName`. -/
def HeaderUserName : String := "author-name"

/-- The header and metadata key of the user's e-mail, `HeaderUserEmail`. -/
def HeaderUserEmail : String := "author-email"

/-- The header and metadata key of the user's role, `HeaderUserRole`. -/
def HeaderUserRole : String := "author-role"

/-- How a message prints a Go string with `%s`: each byte as the character of its code. -/
def GoString.text (s : GoString) : String := ⟨s.map fun b => Char.ofNat b.toNat⟩

/-- Whether a character may stand in a header key, textproto's `validHeaderFieldByte`: a
letter, a digit, or one of the other token characters (96 is the backquote). -/
def validHeaderFieldByte (c : Char) : Bool := c.isAlphanum || c ∈ "!#$%&'*+-.^_|~".data || c.toNat = 96

/-- The letters of a header key after textproto's canonicalisation: the first letter and
every letter after a hyphen upper-cased, the others lower-cased. -/
def canonicalCase : Bool → List Char → List Char
  | _, [] => []
  | upper, c :: cs => (if upper then c.toUpper else c.toLower) :: canonicalCase (c = '-') cs

/-- Go's `textproto.CanonicalMIMEHeaderKey(s)`: a key with a character that may not stand
in a header key is kept as it is. -/
def CanonicalMIMEHeaderKey (s : String) : String :=
  if s.data.all validHeaderFieldByte then ⟨canonicalCase true s.data⟩ else s

/-- Go's `http.Header`: the values of each canonical key. -/
abbrev Header := AList fun _ : String => List GoString

/-- Go's `Header.Set(key, value)`: the key's values become the one value. -/
def Header.Set (h : Header) (key : String) (value : GoString) : Header :=
  h.insert (CanonicalMIMEHeaderKey key) [value]

/-- Go's `Header.Get(key)`: the key's first value, the empty string when it has none. -/
def Header.Get (h : Header) (key : String) : GoString :=
  match h.lookup (CanonicalMIMEHeaderKey key) with
  | some (value :: _) => value
  | _ => []

/-- An HTTP request, `http.Request`, with the part the modelled code reads: its headers. -/
structure Request where
  Header : Header

/-- Go's `auth.WriteUserToHttpHeader(r, user)`. -/
def WriteUserToHttpHeader (r : Request) (user : User) : Request :=
  ⟨(r.Header.Set HeaderUserName (Encode64 user.Name)).Set HeaderUserEmail (Encode64 user.Email)⟩

/-- Go's `auth.WriteUserRoleToHttpHeader(r, role)`. -/
def WriteUserRoleToHttpHeader (r : Request) (role : GoString) : Request :=
  ⟨r.Header.Set HeaderUserRole (Encode64 role)⟩

/-- Go's `auth.ReadUserFromHttpHeader(ctx, r)`: the three headers must decode, and the
e-mail and the name must not be empty. -/
def ReadUserFromHttpHeader (r : Request) : Except Error User :=
  match Decode64 (r.Header.Get HeaderUserEmail) with
  | .error _ => .error (.http (.text "ExtractUserHttp: invalid data in email"))
  | .ok headerEmail =>
    match Decode64 (r.Header.Get HeaderUserName) with
    | .error _ => .error (.http (.text "ExtractUserHttp: invalid data in name"))
    | .ok headerName =>
      match Decode64 (r.Header.Get HeaderUserRole) with
      | .error _ => .error (.http (.text "ExtractUserHttp: invalid data in role"))
      | .ok headerRole =>
        if headerName ≠ [] ∧ headerEmail ≠ [] then .ok ⟨headerEmail, headerName, some ⟨headerRole⟩⟩
        else .error (.http (.text "ExtractUserHttp: did not find data in headers"))

/-- A metadata key lower-cased, Go's `strings.ToLower` on the ASCII keys the package uses. -/
def lowerKey (key : String) : String := ⟨key.data.map Char.toLower⟩

/-- Go's `metadata.AppendToOutgoingContext(ctx, kv...)`: the pairs join the outgoing
metadata, keys lower-cased. -/
def AppendToOutgoingContext (ctx : Context) (kv : List (String × GoString)) : Context :=
  { ctx with outgoing := ctx.outgoing ++ kv.map fun pair => (lowerKey pair.1, pair.2) }

/-- Go's `MD.Get(k)`: the values of the lower-cased key, in order. -/
def MD.Get (md : MD) (key : String) : List GoString :=
  (md.filter fun pair => pair.1 = lowerKey key).map Prod.snd

/-- Go's `auth.WriteUserToGrpcContext(ctx, u)`. -/
def WriteUserToGrpcContext (ctx : Context) (u : User) : Context :=
  AppendToOutgoingContext ctx [(HeaderUserEmail, Encode64 u.Email), (HeaderUserName, Encode64 u.Name)]

/-- Go's `auth.WriteUserRoleToGrpcContext(ctx, userRole)`. -/
def WriteUserRoleToGrpcContext (ctx : Context) (userRole : GoString) : Context :=
  AppendToOutgoingContext ctx [(HeaderUserRole, Encode64 userRole)]

/-- The role part of `ReadUserFromGrpcContext`, read only when Dex is enabled. -/
def readRoleFromMetadata (md : MD) (u : User) : Except Error User :=
  match md.Get HeaderUserRole with
  | [] => .error (.http (.text "extract: role undefined but dex is enabled"))
  | role :: _ =>
    match Decode64 role with
    | .error _ => .error (.http (.text "extract: non-base64 in author-role in grpc context"))
    | .ok userRole => .ok { u with DexAuthContext := some ⟨userRole⟩ }

/-- Go's `auth.ReadUserFromGrpcContext(ctx, dexEnabled)`: the first e-mail and the first
name of the incoming metadata must decode and neither may be empty; with Dex enabled the
first role must decode as well. The two messages that print what a failed decoding left
are modelled without it. -/
def ReadUserFromGrpcContext (ctx : Context) (dexEnabled : Bool) : Except Error User :=
  match ctx.incoming with
  | none => .error (.http (.text "could not retrieve metadata context with git author in grpc context"))
  | some md =>
    match md.Get HeaderUserEmail with
    | [] => .error (.http (.text "did not find author-email in grpc context"))
    | originalEmail :: _ =>
      match Decode64 originalEmail with
      | .error _ => .error (.http (.text ("extract: non-base64 in author-email in grpc context " ++
          originalEmail.text)))
      | .ok userMail =>
        match md.Get HeaderUserName with
        | [] => .error (.http (.text ("extract: username undefined but mail defined in grpc context " ++
            userMail.text)))
        | originalName :: _ =>
          match Decode64 originalName with
          | .error _ => .error (.http (.text "extract: non-base64 in author-username in grpc context"))
          | .ok userName =>
            let u : User := ⟨userMail, userName, none⟩
            if u.Email = [] ∨ u.Name = [] then
              .error (.http (.text "email and name in grpc context cannot both be empty"))
            else if dexEnabled then readRoleFromMetadata md u
            else .ok u

end Kuberpult
