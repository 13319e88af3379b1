import OmsWmsTms.Core.Clock

/-!
# Signed tokens

`src/core/security.py`, and `get_current_user` of `src/core/dependencies.py`.  An access token and a
refresh token are the same kind of string: claims with an expiry in whole seconds, signed with one
key.

* `Claims`, `Jwt` : what is signed, and `jwt.encode` and `jwt.decode` under the secret key.
* `createAccessToken`, `createRefreshToken`, `decodeToken`.
* `getCurrentUser` : the check of a bearer token.
* `Bearer` : the strings of a signature scheme that nobody else can sign for.
-/

namespace OmsWmsTms

namespace Auth

/-- The payload of a token. -/
structure Claims where
  sub : String
  uid : Option String
  /-- The last second at which the token is valid. -/
  exp : ℤ
deriving DecidableEq

/-- `jwt.encode` and `jwt.decode` under `settings.secret_key`. -/
structure Jwt (Token : Type*) where
  /-- The string that signs a payload; it is a function of the payload. -/
  encode : Claims → Token
  /-- The payload of a string whose signature is right. -/
  payload? : Token → Option Claims
  /-- A signed payload is read back. -/
  payload?_encode : ∀ claims, payload? (encode claims) = some claims

/-- `timedelta(minutes=1)`. -/
def minute : ℤ := 60 * second

/-- `ACCESS_TOKEN_EXPIRE_MINUTES`. -/
def accessTokenExpireMinutes : ℤ := 60

/-- `REFRESH_TOKEN_EXPIRE_DAYS`. -/
def refreshTokenExpireDays : ℤ := 7

/-- The data that is encoded, before its expiry is set. -/
structure TokenData where
  sub : String
  uid : Option String
  /-- No account has an empty username, and `refresh_tokens` takes an empty one for none. -/
  sub_ne : sub ≠ ""
deriving DecidableEq

/-- The claims of a token made from `data` that expires at a time. -/
def TokenData.claims (data : TokenData) (expire : ℤ) : Claims :=
  ⟨data.sub, data.uid, expire / second⟩

/-- The claims of an access token. -/
def accessClaims (data : TokenData) (now : ℤ) : Claims :=
  data.claims (now + accessTokenExpireMinutes * minute)

/-- The claims of a refresh token. -/
def refreshClaims (data : TokenData) (now : ℤ) : Claims :=
  data.claims (now + refreshTokenExpireDays * day)

/-- The exceptions of `decode_token`. -/
inductive TokenError
  | tokenExpired | tokenInvalid
deriving DecidableEq

variable {Token : Type*} (jwt : Jwt Token)

/-- `create_access_token`. -/
def createAccessToken (data : TokenData) (now : ℤ) : Token := jwt.encode (accessClaims data now)

/-- `create_refresh_token`. -/
def createRefreshToken (data : TokenData) (now : ℤ) : Token := jwt.encode (refreshClaims data now)

/-- `decode_token`. -/
def decodeToken (now : ℤ) (token : Token) : Except TokenError Claims :=
  match jwt.payload? token with
  | none => .error .tokenInvalid
  | some claims => if claims.exp < now / second then .error .tokenExpired else .ok claims

/-- `get_current_user`: the payload of the bearer token, or the detail of a 401.  An empty token
counts as none, and every payload that has been signed has a `sub`. -/
def getCurrentUser (now : ℤ) (credentials : Option Token) : Except String Claims :=
  match credentials with
  | none => .error "Invalid authentication credentials"
  | some token =>
    match decodeToken jwt now token with
    | .error _ => .error "Invalid or expired token"
    | .ok payload => .ok payload

variable {jwt}

theorem decodeToken_eq_ok {now : ℤ} {token : Token} {claims : Claims} :
    decodeToken jwt now token = .ok claims ↔
      jwt.payload? token = some claims ∧ now / second ≤ claims.exp := by
  unfold decodeToken
  cases h : jwt.payload? token with
  | none => simp
  | some c =>
    by_cases hexp : c.exp < now / second
    · simp only [hexp, if_true, reduceCtorEq, Option.some.injEq, false_iff, not_and, not_le]
      rintro rfl
      exact hexp
    · simp only [hexp, if_false, Except.ok.injEq, Option.some.injEq, iff_self_and]
      rintro rfl
      exact not_lt.1 hexp

theorem getCurrentUser_eq_ok {now : ℤ} {token : Token} {payload : Claims} :
    getCurrentUser jwt now (some token) = .ok payload ↔
      jwt.payload? token = some payload ∧ now / second ≤ payload.exp := by
  rw [← decodeToken_eq_ok]
  cases h : decodeToken jwt now token with
  | error => simp [getCurrentUser, h]
  | ok => simp [getCurrentUser, h]

theorem Jwt.encode_inj {claims claims' : Claims} (h : jwt.encode claims = jwt.encode claims') :
    claims = claims' := by
  have hpayload := congrArg jwt.payload? h
  rw [jwt.payload?_encode, jwt.payload?_encode] at hpayload
  exact Option.some.inj hpayload

/-- A refresh token names its user. -/
theorem sub_eq_of_createRefreshToken_eq {data data' : TokenData} {now now' : ℤ}
    (h : createRefreshToken jwt data now = createRefreshToken jwt data' now') :
    data.sub = data'.sub := congrArg Claims.sub (Jwt.encode_inj h)

/-! ### A signature scheme that nobody else can sign for -/

/-- A string, as the holder of the key sees it. -/
inductive Bearer
  /-- The encoding of some claims under the key. -/
  | signed (claims : Claims)
  /-- Any other string. -/
  | other (text : String)
deriving DecidableEq

/-- Signing and verifying such strings. -/
def Bearer.scheme : Jwt Bearer where
  encode := .signed
  payload?
    | .signed claims => some claims
    | .other _ => none
  payload?_encode _ := rfl

end Auth

end OmsWmsTms
