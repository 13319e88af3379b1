import OmsWmsTms.Auth.Security
import OmsWmsTms.Auth.TokenStore
import OmsWmsTms.Lts.Basic

/-!
# Issuing and rotating tokens

`create_tokens`, `refresh_tokens` and `revoke_refresh_token` of `src/auth/service.py`.  Calls
overlap: other calls take their steps between the pop and the rest of a refresh.

* `createTokens`, `popUsername`, `revokeRefreshToken` : the calls; `popUsername` is `refresh_tokens`
  up to its pop.
* `State.next`, `tokenSystem` : runs of any number of calls.
* `init` : a process that has just started.
-/

namespace OmsWmsTms

namespace Auth

/-- What `create_tokens` reads of a user. -/
structure UserDict where
  username : String
  id : String
  /-- Registration refuses an empty username. -/
  username_ne : username ≠ ""

/-- The data of the tokens of a user. -/
def UserDict.tokenData (user : UserDict) : TokenData :=
  ⟨user.username, some user.id, user.username_ne⟩

section

variable {Token Key : Type*} [DecidableEq Token] [DecidableEq Key] (jwt : Jwt Token)
  (key : Token → Key)

/-- The tokens that a call has handed out. -/
structure TokenPair (Token : Type*) where
  accessToken : Token
  refreshToken : Token
deriving DecidableEq

/-- The end of `create_tokens` and of `refresh_tokens`: sign two tokens, one after the other, and
store the second. -/
def createTokens (data : TokenData) (now now' : ℤ) (reply : Reply) (store : TokenStore Token Key) :
    TokenPair Token × TokenStore Token Key :=
  let refreshToken := createRefreshToken jwt data now'
  (⟨createAccessToken jwt data now, refreshToken⟩,
    store.store key reply now' refreshToken data.sub)

/-- `refresh_tokens` up to the data of its new tokens; `none` when it returns `None`. -/
def popUsername (reply : Reply) (now : ℤ) (token : Token) (store : TokenStore Token Key) :
    Option TokenData × TokenStore Token Key :=
  match decodeToken jwt now token with
  | .error _ => (none, store)
  | .ok payload =>
    let (username, store) := store.pop key reply now token
    match username with
    | none => (none, store)
    -- an empty username counts as none
    | some username => (if h : username = "" then none else some ⟨username, payload.uid, h⟩, store)

/-- `revoke_refresh_token`. -/
def revokeRefreshToken (reply : Reply) (token : Token) (store : TokenStore Token Key) :
    TokenStore Token Key := store.revoke key reply token

/-! ### Runs -/

/-- A pair of tokens that has been handed out. -/
structure Issue (Token : Type*) where
  tokens : TokenPair Token
  /-- The data that they sign. -/
  data : TokenData
  /-- The username of the login that their chain starts with. -/
  origin : Option String
  /-- When the access token was signed. -/
  accessAt : ℤ
  /-- When the refresh token was signed. -/
  refreshAt : ℤ
deriving DecidableEq

/-- A call of `refresh_tokens` that has popped its token. -/
structure Refresh where
  data : TokenData
  /-- The username of the login that the chain of the token starts with. -/
  origin : Option String

/-- A process. -/
structure State (Token Key : Type*) where
  store : TokenStore Token Key
  /-- The refreshes under way. -/
  refreshing : List Refresh := []
  /-- What has been handed out so far. -/
  issued : List (Issue Token) := []
  /-- The tokens with which a refresh has succeeded so far. -/
  spent : List Token := []

/-- A step of a call. -/
inductive Label (Token : Type*)
  /-- `create_tokens`. -/
  | create (user : UserDict) (now now' : ℤ) (reply : Reply)
  /-- `refresh_tokens`, up to its pop. -/
  | present (reply : Reply) (now : ℤ) (token : Token)
  /-- The rest of a refresh. -/
  | rotate (i : ℕ) (now now' : ℤ) (reply : Reply)
  /-- `revoke_refresh_token`. -/
  | revoke (reply : Reply) (token : Token)
  /-- `lookup`. -/
  | lookup (reply : Reply) (now : ℤ) (token : Token)
  /-- `cleanup_expired_tokens`. -/
  | cleanup

variable {jwt key}

/-- The login that the chain of a token starts with. -/
def State.origin (s : State Token Key) (token : Token) : Option String :=
  (s.issued.find? fun issue => issue.tokens.refreshToken = token).bind Issue.origin

variable (jwt key)

/-- Tokens are handed out. -/
def State.issue (s : State Token Key) (data : TokenData) (origin : Option String) (now now' : ℤ)
    (reply : Reply) : State Token Key :=
  let (tokens, store) := createTokens jwt key data now now' reply s.store
  { s with store := store, issued := s.issued ++ [⟨tokens, data, origin, now, now'⟩] }

/-- A step. -/
def State.next (s : State Token Key) : Label Token → Option (State Token Key)
  | .create user now now' reply =>
    some (s.issue jwt key user.tokenData (some user.username) now now' reply)
  | .present reply now token =>
    let (data?, store) := popUsername jwt key reply now token s.store
    match data? with
    | none => some { s with store := store }
    | some data => some { s with
        store := store
        refreshing := s.refreshing ++ [⟨data, s.origin token⟩]
        spent := s.spent ++ [token] }
  | .rotate i now now' reply =>
    match s.refreshing[i]? with
    | none => none
    | some call => some
        (State.issue jwt key { s with refreshing := s.refreshing.eraseIdx i } call.data call.origin
          now now' reply)
  | .revoke reply token =>
    some { s with store := revokeRefreshToken key reply token s.store }
  | .lookup reply now token => some { s with store := (s.store.lookup key reply now token).2 }
  | .cleanup => some { s with store := s.store.cleanupExpiredTokens }

/-- The runs of a process. -/
def tokenSystem : Lts (State Token Key) (Label Token) := Lts.ofNext (State.next jwt key)

/-! ### What a step does -/

variable {jwt key} {reply : Reply} {now : ℤ} {token : Token} {store : TokenStore Token Key}

/-- A refresh goes on when its token is valid, and `pop` finds a username. -/
theorem popUsername_eq_some {data : TokenData}
    (h : (popUsername jwt key reply now token store).1 = some data) :
    ∃ payload, decodeToken jwt now token = .ok payload ∧
      (store.pop key reply now token).1 = some data.sub ∧ data.uid = payload.uid := by
  unfold popUsername at h
  cases hdecode : decodeToken jwt now token with
  | error => simp [hdecode] at h
  | ok payload =>
    cases hpop : (store.pop key reply now token).1 with
    | none => simp [hdecode, hpop] at h
    | some username =>
      by_cases hnil : username = ""
      · simp [hdecode, hpop, hnil] at h
      · simp only [hdecode, hpop, hnil, dif_neg, not_false_eq_true, Option.some.injEq] at h
        subst h
        exact ⟨payload, rfl, rfl, rfl⟩

theorem popUsername_eq_none (h : (store.pop key reply now token).1 = none) :
    (popUsername jwt key reply now token store).1 = none := by
  refine Option.eq_none_iff_forall_ne_some.2 fun data hdata => ?_
  obtain ⟨payload, -, hpop, -⟩ := popUsername_eq_some hdata
  rw [h] at hpop
  cases hpop

theorem popUsername_ne_none {payload : Claims} {username : String}
    (hdecode : decodeToken jwt now token = .ok payload)
    (hpop : (store.pop key reply now token).1 = some username) (hne : username ≠ "") :
    (popUsername jwt key reply now token store).1 ≠ none := by
  simp [popUsername, hdecode, hpop, hne]

/-- The store after a refresh has popped its token, if it has come to that. -/
theorem popUsername_snd : (popUsername jwt key reply now token store).2 =
    if (decodeToken jwt now token).isOk then store.after key (.pop reply now token) else store := by
  unfold popUsername
  cases decodeToken jwt now token with
  | error => rfl
  | ok payload =>
    simp only [Except.isOk, Except.toBool, if_true]
    cases (store.pop key reply now token).1 <;> rfl

/-- A refresh token that is signed and stored. -/
structure Signing where
  data : TokenData
  now : ℤ
  reply : Reply

@[simp] theorem State.issue_store (s : State Token Key) (data : TokenData) (origin : Option String)
    (now now' : ℤ) (reply : Reply) : (s.issue jwt key data origin now now' reply).store =
      s.store.after key (.store reply now' (createRefreshToken jwt data now') data.sub) := rfl

@[simp] theorem State.issue_issued (s : State Token Key) (data : TokenData)
    (origin : Option String) (now now' : ℤ) (reply : Reply) :
    (s.issue jwt key data origin now now' reply).issued = s.issued ++
      [⟨⟨createAccessToken jwt data now, createRefreshToken jwt data now'⟩, data, origin, now,
        now'⟩] := rfl

@[simp] theorem State.issue_refreshing (s : State Token Key) (data : TokenData)
    (origin : Option String) (now now' : ℤ) (reply : Reply) :
    (s.issue jwt key data origin now now' reply).refreshing = s.refreshing := rfl

/-- What a step signs and stores. -/
def State.signing? (s : State Token Key) : Label Token → Option Signing
  | .create user _ now' reply => some ⟨user.tokenData, now', reply⟩
  | .rotate i _ now' reply => s.refreshing[i]?.map fun call => ⟨call.data, now', reply⟩
  | _ => none

/-- **The steps**: tokens are handed out, a refresh has popped its token, or only the store changes,
and nothing is stored there. -/
theorem State.next_cases {s s' : State Token Key} {l : Label Token}
    (h : s.next jwt key l = some s') :
    (∃ (signing : Signing) (origin : Option String) (t : ℤ) (rest : List Refresh),
      s.signing? l = some signing ∧
      (origin = some signing.data.sub ∨ ⟨signing.data, origin⟩ ∈ s.refreshing) ∧
      rest ⊆ s.refreshing ∧
      s' = State.issue jwt key { s with refreshing := rest } signing.data origin t signing.now
        signing.reply) ∨
    (∃ reply now token data, l = .present reply now token ∧
      (popUsername jwt key reply now token s.store).1 = some data ∧
      s' = { s with
        store := s.store.after key (.pop reply now token)
        refreshing := s.refreshing ++ [⟨data, s.origin token⟩]
        spent := s.spent ++ [token] }) ∨
    (s.signing? l = none ∧ (∃ store, s' = { s with store := store } ∧
      (store = s.store ∨ ∃ call, store = s.store.after key call ∧
        ∀ reply now t u, call ≠ .store reply now t u))) := by
  cases l with
  | create user now now' reply =>
    left
    refine ⟨_, some user.username, now, s.refreshing, rfl, .inl rfl, fun _ h => h, ?_⟩
    exact (Option.some.inj h).symm
  | present reply now token =>
    right
    simp only [State.next, popUsername_snd] at h
    cases hdata : (popUsername jwt key reply now token s.store).1 with
    | some data =>
      left
      obtain ⟨payload, hdecode, -⟩ := popUsername_eq_some hdata
      refine ⟨reply, now, token, data, rfl, hdata, ?_⟩
      simp only [hdata, hdecode, Except.isOk, Except.toBool, if_true] at h
      exact (Option.some.inj h).symm
    | none =>
      right
      simp only [hdata] at h
      refine ⟨rfl, _, (Option.some.inj h).symm, ?_⟩
      split_ifs
      · exact .inr ⟨_, rfl, by simp⟩
      · exact .inl rfl
  | rotate i now now' reply =>
    left
    simp only [State.next] at h
    cases hi : s.refreshing[i]? with
    | none => simp [hi] at h
    | some call =>
      simp only [hi] at h
      refine ⟨_, call.origin, now, s.refreshing.eraseIdx i, by rw [State.signing?, hi]; rfl,
        .inr (List.mem_of_getElem? hi), List.eraseIdx_subset, (Option.some.inj h).symm⟩
  | revoke reply token =>
    refine .inr (.inr ⟨rfl, _, (Option.some.inj h).symm, .inr ⟨.revoke reply token, rfl, by simp⟩⟩)
  | lookup reply now token =>
    refine .inr (.inr ⟨rfl, _, (Option.some.inj h).symm,
      .inr ⟨.lookup reply now token, rfl, by simp⟩⟩)
  | cleanup =>
    refine .inr (.inr ⟨rfl, _, (Option.some.inj h).symm,
      .inr ⟨.cleanupExpiredTokens, rfl, by simp⟩⟩)

end

/-- A process that has just started. -/
def init {Token Key : Type*} (redis : Keyspace Key String) : State Token Key where
  store := { redis := redis }

/-- An account. -/
def alice : UserDict := ⟨"alice", "1", by decide⟩

/-- Its refresh token of the first second. -/
def aliceToken : Bearer := createRefreshToken Bearer.scheme alice.tokenData 0

end Auth

end OmsWmsTms
