import Kuberpult.Auth.User

/-! The user a request carries from the frontend to the cd-service. The frontend's
`Auth.ServeHTTP` combines the request's user with the default user
(`GetUserOrDefault`, never empty when the default is not: `GetUserOrDefault_nonempty`)
and writes the result into the request's headers, the context and the outgoing gRPC
metadata. The cd-service reads it back from either transport with the same e-mail and
name (`user_transport_round_trip`), by the base64 round trip of
`Auth/Base64.lean` and the laws of the header map and the metadata list below. -/
namespace Kuberpult

/-! ## Headers and metadata -/

@[simp] theorem Header.Get_Set_self (h : Header) (key : String) (value : GoString) :
    (h.Set key value).Get key = value := by
  simp [Header.Get, Header.Set]

theorem Header.Get_Set_of_ne (h : Header) {key other : String} (value : GoString)
    (distinct : CanonicalMIMEHeaderKey key ≠ CanonicalMIMEHeaderKey other) :
    (h.Set other value).Get key = h.Get key := by
  simp [Header.Get, Header.Set, AList.lookup_insert_ne distinct]

/-- The three keys of the user are distinct headers. -/
theorem user_header_keys_distinct :
    CanonicalMIMEHeaderKey HeaderUserEmail ≠ CanonicalMIMEHeaderKey HeaderUserName ∧
      CanonicalMIMEHeaderKey HeaderUserRole ≠ CanonicalMIMEHeaderKey HeaderUserName ∧
      CanonicalMIMEHeaderKey HeaderUserRole ≠ CanonicalMIMEHeaderKey HeaderUserEmail ∧
      CanonicalMIMEHeaderKey HeaderUserName ≠ CanonicalMIMEHeaderKey HeaderUserRole ∧
      CanonicalMIMEHeaderKey HeaderUserEmail ≠ CanonicalMIMEHeaderKey HeaderUserRole := by
  decide

/-- The three keys of the user are lower-case metadata keys, and distinct. -/
theorem user_metadata_keys :
    lowerKey HeaderUserEmail = HeaderUserEmail ∧ lowerKey HeaderUserName = HeaderUserName ∧
      lowerKey HeaderUserRole = HeaderUserRole ∧ HeaderUserName ≠ HeaderUserEmail ∧ HeaderUserEmail ≠ HeaderUserName := by
  decide

@[simp] theorem MD.Get_append (md more : MD) (key : String) : MD.Get (md ++ more) key = md.Get key ++ more.Get key := by
  simp [MD.Get]

/-! ## The default user -/

/-- The combined user has an e-mail and a name whenever the default user has both, which
`runServer` checks before it serves. -/
theorem GetUserOrDefault_nonempty (u : Option User) {defaultUser : User} (hasEmail : defaultUser.Email ≠ [])
    (hasName : defaultUser.Name ≠ []) :
    (GetUserOrDefault u defaultUser).Email ≠ [] ∧ (GetUserOrDefault u defaultUser).Name ≠ [] := by
  rcases u with _ | u
  · exact ⟨hasEmail, hasName⟩
  · by_cases noEmail : u.Email = [] <;> by_cases noName : u.Name = [] <;>
      simp [GetUserOrDefault, noEmail, noName, hasEmail, hasName]

/-! ## Reading the user back -/

/-- A request whose e-mail and name headers hold the base64 of a user's non-empty e-mail
and name, and whose role header decodes, is read as that user with that role. -/
theorem ReadUserFromHttpHeader_of_headers {r : Request} {user : User} {role : GoString}
    (email : r.Header.Get HeaderUserEmail = Encode64 user.Email)
    (name : r.Header.Get HeaderUserName = Encode64 user.Name)
    (roleHeader : Decode64 (r.Header.Get HeaderUserRole) = .ok role)
    (hasEmail : user.Email ≠ []) (hasName : user.Name ≠ []) :
    ReadUserFromHttpHeader r = .ok ⟨user.Email, user.Name, some ⟨role⟩⟩ := by
  simp [ReadUserFromHttpHeader, email, name, roleHeader, Decode64_Encode64, hasEmail, hasName]

/-- Writing a user into a request's headers leaves its role header as it was. -/
theorem WriteUserToHttpHeader_role (r : Request) (user : User) :
    (WriteUserToHttpHeader r user).Header.Get HeaderUserRole = r.Header.Get HeaderUserRole := by
  rw [WriteUserToHttpHeader, Header.Get_Set_of_ne _ _ user_header_keys_distinct.2.2.2.2.symm,
    Header.Get_Set_of_ne _ _ user_header_keys_distinct.2.2.2.1.symm]

/-- The cd-service reads from the headers the user the frontend wrote there, with the role
the request's role header decodes to. -/
theorem ReadUserFromHttpHeader_WriteUserToHttpHeader (r : Request) {user : User} {role : GoString}
    (roleHeader : Decode64 (r.Header.Get HeaderUserRole) = .ok role)
    (hasEmail : user.Email ≠ []) (hasName : user.Name ≠ []) :
    ReadUserFromHttpHeader (WriteUserToHttpHeader r user) = .ok ⟨user.Email, user.Name, some ⟨role⟩⟩ := by
  refine ReadUserFromHttpHeader_of_headers ?_ ?_ (by rwa [WriteUserToHttpHeader_role]) hasEmail hasName
  · simp only [WriteUserToHttpHeader, Header.Get_Set_self]
  · rw [WriteUserToHttpHeader, Header.Get_Set_of_ne _ _ user_header_keys_distinct.1.symm, Header.Get_Set_self]

/-- The cd-service reads from the incoming metadata the user the frontend appended to a
context without earlier author metadata. -/
theorem ReadUserFromGrpcContext_WriteUserToGrpcContext {ctx ctx' : Context} {user : User}
    (noEmail : MD.Get ctx.outgoing HeaderUserEmail = []) (noName : MD.Get ctx.outgoing HeaderUserName = [])
    (received : ctx'.incoming = some (WriteUserToGrpcContext ctx user).outgoing)
    (hasEmail : user.Email ≠ []) (hasName : user.Name ≠ []) :
    ReadUserFromGrpcContext ctx' false = .ok ⟨user.Email, user.Name, none⟩ := by
  obtain ⟨lowEmail, lowName, -, nameEmail, emailName⟩ := user_metadata_keys
  have email : MD.Get (WriteUserToGrpcContext ctx user).outgoing HeaderUserEmail = [Encode64 user.Email] := by
    simp only [WriteUserToGrpcContext, AppendToOutgoingContext, MD.Get_append, noEmail, List.nil_append]
    simp [MD.Get, lowEmail, lowName, nameEmail]
  have name : MD.Get (WriteUserToGrpcContext ctx user).outgoing HeaderUserName = [Encode64 user.Name] := by
    simp only [WriteUserToGrpcContext, AppendToOutgoingContext, MD.Get_append, noName, List.nil_append]
    simp [MD.Get, lowEmail, lowName, emailName]
  simp [ReadUserFromGrpcContext, received, email, name, Decode64_Encode64, hasEmail, hasName]

/-- The frontend's user reaches the cd-service unchanged. With a default user that has an
e-mail and a name, the combined user has both; the cd-service reads it back from the HTTP
headers the frontend wrote, with the role header absent or written by
`WriteUserRoleToHttpHeader` before or after, and from the gRPC metadata the frontend appended to a context
without earlier author metadata. -/
theorem user_transport_round_trip (u : Option User) (defaultUser : User) (hasEmail : defaultUser.Email ≠ [])
    (hasName : defaultUser.Name ≠ []) :
    (GetUserOrDefault u defaultUser).Email ≠ [] ∧ (GetUserOrDefault u defaultUser).Name ≠ [] ∧
    (∀ r : Request, r.Header.Get HeaderUserRole = [] →
      ReadUserFromHttpHeader (WriteUserToHttpHeader r (GetUserOrDefault u defaultUser)) =
        .ok ⟨(GetUserOrDefault u defaultUser).Email, (GetUserOrDefault u defaultUser).Name, some ⟨[]⟩⟩) ∧
    (∀ (r : Request) (role : GoString),
      ReadUserFromHttpHeader (WriteUserToHttpHeader (WriteUserRoleToHttpHeader r role) (GetUserOrDefault u defaultUser)) =
        .ok ⟨(GetUserOrDefault u defaultUser).Email, (GetUserOrDefault u defaultUser).Name, some ⟨role⟩⟩) ∧
    (∀ (r : Request) (role : GoString),
      ReadUserFromHttpHeader (WriteUserRoleToHttpHeader (WriteUserToHttpHeader r (GetUserOrDefault u defaultUser)) role) =
        .ok ⟨(GetUserOrDefault u defaultUser).Email, (GetUserOrDefault u defaultUser).Name, some ⟨role⟩⟩) ∧
    (∀ ctx ctx' : Context, MD.Get ctx.outgoing HeaderUserEmail = [] → MD.Get ctx.outgoing HeaderUserName = [] →
      ctx'.incoming = some (WriteUserToGrpcContext ctx (GetUserOrDefault u defaultUser)).outgoing →
      ReadUserFromGrpcContext ctx' false =
        .ok ⟨(GetUserOrDefault u defaultUser).Email, (GetUserOrDefault u defaultUser).Name, none⟩) := by
  obtain ⟨email, name⟩ := GetUserOrDefault_nonempty u hasEmail hasName
  refine ⟨email, name, fun r absent => ?_, fun r role => ?_, fun r role => ?_, fun ctx ctx' noEmail noName received =>
    ReadUserFromGrpcContext_WriteUserToGrpcContext noEmail noName received email name⟩
  · exact ReadUserFromHttpHeader_WriteUserToHttpHeader r (by rw [absent]; exact Decode64_Encode64 []) email name
  · exact ReadUserFromHttpHeader_WriteUserToHttpHeader _
      (by simp only [WriteUserRoleToHttpHeader, Header.Get_Set_self, Decode64_Encode64]) email name
  · refine ReadUserFromHttpHeader_of_headers ?_ ?_ (by simp only [WriteUserRoleToHttpHeader, Header.Get_Set_self,
      Decode64_Encode64]) email name
    · rw [WriteUserRoleToHttpHeader, Header.Get_Set_of_ne _ _ user_header_keys_distinct.2.2.2.2, WriteUserToHttpHeader,
        Header.Get_Set_self]
    · rw [WriteUserRoleToHttpHeader, Header.Get_Set_of_ne _ _ user_header_keys_distinct.2.2.2.1, WriteUserToHttpHeader,
        Header.Get_Set_of_ne _ _ user_header_keys_distinct.1.symm, Header.Get_Set_self]

/-- A request user with an e-mail and no name, and the default user of a frontend: the
combined user has the request's e-mail, as its name too. -/
theorem request_user_round_trip :
    let requestUser : User := ⟨goString "dev@example.com", [], none⟩
    let defaultUser : User := ⟨goString "kuberpult@example.com", goString "kuberpult", none⟩
    GetUserOrDefault (some requestUser) defaultUser = ⟨goString "dev@example.com", goString "dev@example.com", none⟩ ∧
    defaultUser.Email ≠ [] ∧ defaultUser.Name ≠ [] ∧
    (GetUserOrDefault (some requestUser) defaultUser).Email ≠ [] ∧
    (GetUserOrDefault (some requestUser) defaultUser).Name ≠ [] ∧
    (∀ r : Request, r.Header.Get HeaderUserRole = [] →
      ReadUserFromHttpHeader (WriteUserToHttpHeader r (GetUserOrDefault (some requestUser) defaultUser)) =
        .ok ⟨(GetUserOrDefault (some requestUser) defaultUser).Email,
          (GetUserOrDefault (some requestUser) defaultUser).Name, some ⟨[]⟩⟩) ∧
    (∀ (r : Request) (role : GoString),
      ReadUserFromHttpHeader (WriteUserToHttpHeader (WriteUserRoleToHttpHeader r role)
          (GetUserOrDefault (some requestUser) defaultUser)) =
        .ok ⟨(GetUserOrDefault (some requestUser) defaultUser).Email,
          (GetUserOrDefault (some requestUser) defaultUser).Name, some ⟨role⟩⟩) ∧
    (∀ (r : Request) (role : GoString),
      ReadUserFromHttpHeader (WriteUserRoleToHttpHeader (WriteUserToHttpHeader r
          (GetUserOrDefault (some requestUser) defaultUser)) role) =
        .ok ⟨(GetUserOrDefault (some requestUser) defaultUser).Email,
          (GetUserOrDefault (some requestUser) defaultUser).Name, some ⟨role⟩⟩) ∧
    (∀ ctx ctx' : Context, MD.Get ctx.outgoing HeaderUserEmail = [] → MD.Get ctx.outgoing HeaderUserName = [] →
      ctx'.incoming = some (WriteUserToGrpcContext ctx (GetUserOrDefault (some requestUser) defaultUser)).outgoing →
      ReadUserFromGrpcContext ctx' false = .ok ⟨(GetUserOrDefault (some requestUser) defaultUser).Email,
        (GetUserOrDefault (some requestUser) defaultUser).Name, none⟩) :=
  ⟨by decide, by decide, by decide, user_transport_round_trip _ _ (by decide) (by decide)⟩

/-! ## The frontend's handler -/

/-- What the frontend's `Auth.ServeHTTP` hands to the server it wraps. With Azure
authentication the request's user is read from its headers, and a request whose headers do
not read is refused; otherwise it is the user Google IAP's token names
(`getRequestAuthorFromGoogleIAP`; the token's check is outside this model, so that user is
given). The user combined with the default one is written into the request's headers, the
context and the outgoing gRPC metadata. -/
def ServeHTTP (azureEnableAuth : Bool) (iapUser : Option User) (defaultUser : User) (r : Request)
    (ctx : Context) : Except Error (Request × Context) :=
  match (if azureEnableAuth then (ReadUserFromHttpHeader r).map some else .ok iapUser) with
  | .error err => .error err
  | .ok user =>
    let combinedUser := GetUserOrDefault user defaultUser
    .ok (WriteUserToHttpHeader r combinedUser,
      WriteUserToGrpcContext (WriteUserToContext ctx combinedUser) combinedUser)

end Kuberpult
