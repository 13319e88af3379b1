import OmsWmsTms.Auth.Service

/-!
# What opens the API

`get_current_user` checks the signature and the expiry of a bearer token.  Nothing in a token says
whether it was made as an access token or as a refresh token, and the store is not asked.

* `Obtainable` : a string that a client can present, signatures being unforgeable.
* `IssuedAndValid` : a string was handed out, as a token of either kind, and has not expired.
* `getCurrentUser_accepts_iff` : these are the strings that are accepted.
-/

namespace OmsWmsTms

namespace Auth

variable {Token Key : Type*} [DecidableEq Token] [DecidableEq Key] (jwt : Jwt Token)
  (key : Token → Key)

/-- A client has been handed a string, or has made it up without the secret key. -/
def Obtainable (s : State Token Key) (token : Token) : Prop :=
  jwt.payload? token = none ∨
    ∃ issue ∈ s.issued, token = issue.tokens.accessToken ∨ token = issue.tokens.refreshToken

/-- A string was handed out as an access token or as a refresh token, and has not expired. -/
def IssuedAndValid (s : State Token Key) (now : ℤ) (token : Token) : Prop :=
  ∃ issue ∈ s.issued,
    token = issue.tokens.accessToken ∧
      now / second ≤ (issue.accessAt + accessTokenExpireMinutes * minute) / second ∨
    token = issue.tokens.refreshToken ∧
      now / second ≤ (issue.refreshAt + refreshTokenExpireDays * day) / second

/-- The tokens that have been handed out are signed. -/
def Signed (s : State Token Key) : Prop :=
  ∀ issue ∈ s.issued,
    issue.tokens.accessToken = createAccessToken jwt issue.data issue.accessAt ∧
      issue.tokens.refreshToken = createRefreshToken jwt issue.data issue.refreshAt

variable {jwt key} {s s' : State Token Key} {l : Label Token} {now : ℤ} {token : Token}

theorem Signed.next (h : Signed jwt s) (hnext : s.next jwt key l = some s') : Signed jwt s' := by
  rcases State.next_cases hnext with
    ⟨signing, origin, t, rest, -, -, -, rfl⟩ | ⟨reply, now, token, data, -, -, rfl⟩ |
    ⟨-, store, rfl, -⟩
  · intro issue hissue
    rw [State.issue_issued, List.mem_append, List.mem_singleton] at hissue
    rcases hissue with hold | rfl
    · exact h issue hold
    · exact ⟨rfl, rfl⟩
  · exact h
  · exact h

omit [DecidableEq Token] [DecidableEq Key] in
theorem Signed.payload?_accessToken (h : Signed jwt s) {issue : Issue Token}
    (hissue : issue ∈ s.issued) :
    jwt.payload? issue.tokens.accessToken = some (accessClaims issue.data issue.accessAt) := by
  rw [(h issue hissue).1, createAccessToken, jwt.payload?_encode]

omit [DecidableEq Token] [DecidableEq Key] in
theorem Signed.payload?_refreshToken (h : Signed jwt s) {issue : Issue Token}
    (hissue : issue ∈ s.issued) :
    jwt.payload? issue.tokens.refreshToken = some (refreshClaims issue.data issue.refreshAt) := by
  rw [(h issue hissue).2, createRefreshToken, jwt.payload?_encode]

omit [DecidableEq Token] [DecidableEq Key] in
theorem Signed.accepts_iff (h : Signed jwt s) (htoken : Obtainable jwt s token) :
    (∃ payload, getCurrentUser jwt now (some token) = .ok payload) ↔
      IssuedAndValid s now token := by
  simp only [getCurrentUser_eq_ok]
  constructor
  · rintro ⟨payload, hpayload, hexp⟩
    rcases htoken with hnone | ⟨issue, hissue, rfl | rfl⟩
    · rw [hpayload] at hnone
      cases hnone
    · rw [h.payload?_accessToken hissue, Option.some.injEq] at hpayload
      subst hpayload
      exact ⟨issue, hissue, .inl ⟨rfl, hexp⟩⟩
    · rw [h.payload?_refreshToken hissue, Option.some.injEq] at hpayload
      subst hpayload
      exact ⟨issue, hissue, .inr ⟨rfl, hexp⟩⟩
  · rintro ⟨issue, hissue, ⟨rfl, hexp⟩ | ⟨rfl, hexp⟩⟩
    · exact ⟨_, h.payload?_accessToken hissue, hexp⟩
    · exact ⟨_, h.payload?_refreshToken hissue, hexp⟩

/-- **A bearer token is accepted** exactly when the system has handed it out, as an access token or
as a refresh token, and it has not expired; whether a refresh token has been used or revoked makes
no difference. -/
theorem getCurrentUser_accepts_iff {redis : Keyspace Key String} {ls : List (Label Token)}
    (hrun : (tokenSystem jwt key).Run (init redis) ls s) (htoken : Obtainable jwt s token) :
    (∃ payload, getCurrentUser jwt now (some token) = .ok payload) ↔
      IssuedAndValid s now token := by
  have hsigned : Signed jwt s :=
    hrun.invariant (I := Signed jwt) (fun issue hissue => by cases hissue)
      fun _ _ _ h hstep => h.next hstep
  exact hsigned.accepts_iff htoken

/-- `alice` logs in, and her refresh token is revoked. -/
def loginAndLogout : List (Label Bearer) := [.create alice 0 0 .ok, .revoke .ok aliceToken]

/-- What she was handed. -/
def aliceIssue : Issue Bearer :=
  ⟨⟨createAccessToken Bearer.scheme alice.tokenData 0, aliceToken⟩, alice.tokenData,
    some "alice", 0, 0⟩

theorem loginAndLogout_run :
    ∃ s, (tokenSystem Bearer.scheme id).Run (init (.empty : Keyspace Bearer String)) loginAndLogout
      s ∧ s.issued = [aliceIssue] :=
  Lts.exists_run_of_map (by decide)

/-- The revoked token still opens the API. -/
theorem loginAndLogout_accepted :
    ∃ payload, getCurrentUser Bearer.scheme second (some aliceToken) = .ok payload := by
  obtain ⟨s, hs, hissued⟩ := loginAndLogout_run
  have hmem : aliceIssue ∈ s.issued := by
    rw [hissued]
    exact List.mem_singleton_self _
  exact (getCurrentUser_accepts_iff hs (.inr ⟨aliceIssue, hmem, .inr rfl⟩)).2
    ⟨aliceIssue, hmem, .inr ⟨rfl, by decide⟩⟩

/-- So not only access tokens do. -/
theorem not_only_accessTokens :
    ¬ ∀ ls s, (tokenSystem Bearer.scheme id).Run (init (.empty : Keyspace Bearer String)) ls s →
      ∀ token now payload, getCurrentUser Bearer.scheme now (some token) = .ok payload →
        Obtainable Bearer.scheme s token →
          ∃ issue ∈ s.issued, token = issue.tokens.accessToken := by
  intro h
  obtain ⟨s, hs, hissued⟩ := loginAndLogout_run
  have hmem : aliceIssue ∈ s.issued := by
    rw [hissued]
    exact List.mem_singleton_self _
  obtain ⟨issue, hissue, heq⟩ :=
    h _ s hs aliceToken second _ rfl (.inr ⟨aliceIssue, hmem, .inr rfl⟩)
  rw [hissued, List.mem_singleton] at hissue
  subst hissue
  exact absurd heq (by decide)

end Auth

end OmsWmsTms
