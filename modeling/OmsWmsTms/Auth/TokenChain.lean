import OmsWmsTms.Auth.Service

/-!
# The identity of a chain of tokens

A refresh signs its tokens for the username that `pop` returns.  Redis returns bytes, which `lookup`
decodes and `pop` does not: it returns their representation, which is longer than the username, and
is what the next refresh token is stored with.

* `ViaRedis` : Redis answers the pop of a refresh with a username.
* `KeepsIdentity` : a step signs for the user who logged in, and `pop` agrees with what was stored
  and with `lookup`.
* `keepsIdentity_iff` : the runs of such steps are those in which every refresh is served by memory.
-/

namespace OmsWmsTms

namespace Auth

variable {Token Key : Type*} [DecidableEq Token] [DecidableEq Key] (jwt : Jwt Token)
  (key : Token → Key)

/-- Redis has a username for the valid token of a refresh, and answers its pop. -/
def ViaRedis (s : State Token Key) (reply : Reply) (now : ℤ) (token : Token) : Prop :=
  (decodeToken jwt now token).isOk = true ∧ s.store.redisOk = true ∧ reply = .ok ∧
    s.store.redis.get now (key token) ≠ none

/-- A refresh is not answered by Redis. -/
def ServedByMemory (s : State Token Key) : Label Token → Prop
  | .present reply now token => ¬ ViaRedis jwt key s reply now token
  | _ => True

/-- The access tokens of every chain are signed for the user who logged in at its start. -/
def SignedForLogin (s : State Token Key) : Prop :=
  ∀ issue ∈ s.issued, ∀ username, issue.origin = some username →
    (jwt.payload? issue.tokens.accessToken).map Claims.sub = some username

/-- What `pop` returns for a token is what was stored with it, and what `lookup` returns. -/
def PopAgrees (s : State Token Key) (reply : Reply) (now : ℤ) (token : Token) : Prop :=
  (decodeToken jwt now token).isOk = true → ∀ value,
    (s.store.pop key reply now token).1 = some value →
      (∀ issue ∈ s.issued, issue.tokens.refreshToken = token → value = issue.data.sub) ∧
        (s.store.lookup key reply now token).1 = some value

/-- A step keeps the identity of the chains. -/
def KeepsIdentity (s : State Token Key) (l : Label Token) (s' : State Token Key) : Prop :=
  SignedForLogin jwt s' ∧
    ∀ reply now token, l = .present reply now token → PopAgrees jwt key s reply now token

/-- Memory holds a token with the username that it is signed for, and the chains have kept their
identity so far. -/
structure Identified (s : State Token Key) : Prop where
  optimistic : s.store.Optimistic
  memory : ∀ token username, s.store.memory.get? token = some username →
    ∃ data now, token = createRefreshToken jwt data now ∧ data.sub = username
  refreshToken : ∀ issue ∈ s.issued, ∃ now,
    issue.tokens.refreshToken = createRefreshToken jwt issue.data now
  accessToken : ∀ issue ∈ s.issued, ∃ now,
    issue.tokens.accessToken = createAccessToken jwt issue.data now
  issued : ∀ issue ∈ s.issued, ∀ username, issue.origin = some username →
    issue.data.sub = username
  refreshing : ∀ call ∈ s.refreshing, ∀ username, call.origin = some username →
    call.data.sub = username

variable {jwt key} {s s' : State Token Key} {l : Label Token} {reply : Reply} {now : ℤ}
  {token : Token}

omit [DecidableEq Key] in
theorem identified_init (redis : Keyspace Key String) :
    Identified jwt (init redis : State Token Key) where
  optimistic _ _ := rfl
  memory _ _ h := by cases h
  refreshToken _ h := by cases h
  accessToken _ h := by cases h
  issued _ h := by cases h
  refreshing _ h := by cases h

omit [DecidableEq Key] in
theorem Identified.signedForLogin (h : Identified jwt s) : SignedForLogin jwt s := by
  intro issue hissue username horigin
  obtain ⟨now, hnow⟩ := h.accessToken issue hissue
  rw [hnow, createAccessToken, jwt.payload?_encode]
  exact congrArg some (h.issued issue hissue username horigin)

/-- What is popped for a valid token without Redis comes from memory, with Redis given up. -/
theorem Identified.of_pop (h : Identified jwt s) (hserved : ¬ ViaRedis jwt key s reply now token)
    (hdecode : (decodeToken jwt now token).isOk = true) {value : String}
    (hpop : (s.store.pop key reply now token).1 = some value) :
    s.store.redisOk = false ∧ s.store.memory.get? token = some value := by
  by_cases hanswer : s.store.redisOk = true → reply ≠ .ok
  · rw [(TokenStore.pop_of_memory hanswer).1] at hpop
    refine ⟨Bool.eq_false_iff.2 fun htrust => ?_, hpop⟩
    rw [h.optimistic htrust token] at hpop
    cases hpop
  · obtain ⟨htrust, hreply⟩ := Classical.not_imp.1 hanswer
    rw [not_not.1 hreply, TokenStore.pop_of_redis htrust] at hpop
    refine absurd ⟨hdecode, htrust, not_not.1 hreply, fun hnone => ?_⟩ hserved
    simp [hnone] at hpop

omit [DecidableEq Key] in
/-- What memory holds for a token that has been handed out is the username it was stored with. -/
theorem Identified.memory_of_issued (h : Identified jwt s) {issue : Issue Token}
    (hissue : issue ∈ s.issued) {username : String}
    (hmemory : s.store.memory.get? issue.tokens.refreshToken = some username) :
    username = issue.data.sub := by
  obtain ⟨data, now, hdata, rfl⟩ := h.memory _ _ hmemory
  obtain ⟨now', hnow'⟩ := h.refreshToken issue hissue
  exact sub_eq_of_createRefreshToken_eq (hdata.symm.trans hnow')

/-- Without Redis, `pop` agrees with what was stored and with `lookup`. -/
theorem Identified.popAgrees (h : Identified jwt s)
    (hserved : ¬ ViaRedis jwt key s reply now token) : PopAgrees jwt key s reply now token := by
  intro hdecode value hpop
  obtain ⟨hok, hmemory⟩ := h.of_pop hserved hdecode hpop
  refine ⟨?_, ?_⟩
  · rintro issue hissue rfl
    exact h.memory_of_issued hissue hmemory
  · simp [TokenStore.lookup, hok, hmemory]

/-- A step keeps the chains identified, unless Redis answers a refresh. -/
theorem Identified.next (h : Identified jwt s) (hnext : s.next jwt key l = some s')
    (hserved : ServedByMemory jwt key s l) : Identified jwt s' := by
  have hmemory : ∀ {call : TokenStore.Method Token},
    (∀ reply now t u, call ≠ .store reply now t u) →
      ∀ token username, (s.store.after key call).memory.get? token = some username →
        ∃ data now, token = createRefreshToken jwt data now ∧ data.sub = username := by
    intro call hcall token username hget
    rcases TokenStore.memory_after hget with hold | ⟨reply, now, hstore, -⟩
    · exact h.memory _ _ hold
    · exact absurd hstore (hcall _ _ _ _)
  rcases State.next_cases hnext with
    ⟨signing, origin, t, rest, -, horigin, hrest, rfl⟩ |
    ⟨reply, now, token, data, rfl, hdata, rfl⟩ |
    ⟨-, store, rfl, rfl | ⟨call, rfl, hcall⟩⟩
  · have hmem : ∀ {P : Issue Token → Prop}, (∀ issue ∈ s.issued, P issue) →
        P ⟨⟨createAccessToken jwt signing.data t, createRefreshToken jwt signing.data signing.now⟩,
          signing.data, origin, t, signing.now⟩ →
        ∀ issue ∈ (State.issue jwt key { s with refreshing := rest } signing.data origin t
          signing.now signing.reply).issued, P issue := by
      intro P hold hnew issue hissue
      rw [State.issue_issued, List.mem_append, List.mem_singleton] at hissue
      rcases hissue with hissue | rfl
      · exact hold issue hissue
      · exact hnew
    refine ⟨?_, ?_, hmem h.refreshToken ⟨_, rfl⟩, hmem h.accessToken ⟨_, rfl⟩,
      hmem h.issued ?_, fun call hcall => h.refreshing call (hrest hcall)⟩
    · rw [State.issue_store]
      exact h.optimistic.after _
    · intro token username hget
      rw [State.issue_store] at hget
      rcases TokenStore.memory_after hget with hold | ⟨reply, now, hstore, -⟩
      · exact h.memory _ _ hold
      · cases hstore
        exact ⟨signing.data, signing.now, rfl, rfl⟩
    · intro username horig
      rcases horigin with hlogin | hcall
      · exact Option.some.inj (hlogin.symm.trans horig)
      · exact h.refreshing _ hcall username horig
  · refine ⟨h.optimistic.after _, hmemory (by simp), h.refreshToken, h.accessToken, h.issued, ?_⟩
    intro call hcall username horig
    rcases List.mem_append.1 hcall with hold | hself
    · exact h.refreshing call hold username horig
    · rw [List.mem_singleton.1 hself] at horig ⊢
      obtain ⟨payload, hdecode, hpop, -⟩ := popUsername_eq_some hdata
      obtain ⟨issue, hissue, hissue_origin⟩ := Option.bind_eq_some_iff.1 horig
      have hrefresh : issue.tokens.refreshToken = token := by
        simpa using List.find?_some hissue
      have hmem := List.mem_of_find?_eq_some hissue
      obtain ⟨-, hget⟩ := h.of_pop hserved (by rw [hdecode]; rfl) hpop
      rw [← hrefresh] at hget
      exact (h.memory_of_issued hmem hget).trans (h.issued issue hmem username hissue_origin)
  · exact h
  · exact ⟨h.optimistic.after _, hmemory hcall, h.refreshToken, h.accessToken, h.issued,
      h.refreshing⟩

/-- When Redis answers, `pop` does not agree with `lookup`. -/
theorem ViaRedis.not_popAgrees (h : ViaRedis jwt key s reply now token) :
    ¬ PopAgrees jwt key s reply now token := by
  obtain ⟨hdecode, htrust, rfl, hget⟩ := h
  intro hagrees
  obtain ⟨username, husername⟩ := Option.ne_none_iff_exists'.1 hget
  have hpop : (s.store.pop key .ok now token).1 = some (strBytes username) := by
    rw [TokenStore.pop_of_redis htrust, husername]
    rfl
  have hlookup : (s.store.lookup key .ok now token).1 = some username := by
    simp [TokenStore.lookup, htrust, husername]
  have heq := (hagrees hdecode _ hpop).2
  rw [hlookup] at heq
  exact strBytes_ne username (Option.some.inj heq).symm

/-- **A chain keeps its identity** exactly in the runs in which Redis answers no refresh. -/
theorem keepsIdentity_iff {redis : Keyspace Key String} {ls : List (Label Token)} :
    ((tokenSystem jwt key).restrict (KeepsIdentity jwt key)).Run (init redis) ls s ↔
      ((tokenSystem jwt key).guard (ServedByMemory jwt key)).Run (init redis) ls s := by
  refine Lts.Run.restrict_iff_guard (I := Identified jwt)
    (fun s l s' h hstep hserved => h.next hstep hserved) (fun s l s' h hstep => ⟨?_, ?_⟩)
    (identified_init redis)
  · rintro ⟨-, hagrees⟩
    cases l with
    | present reply now token => exact fun hvia => hvia.not_popAgrees (hagrees _ _ _ rfl)
    | create | rotate | revoke | lookup | cleanup => trivial
  · intro hserved
    refine ⟨(h.next hstep hserved).signedForLogin, ?_⟩
    rintro reply now token rfl
    exact h.popAgrees hserved

/-- `alice` logs in and refreshes once, with Redis. -/
def refreshOnce : List (Label Bearer) :=
  [.create alice 0 0 .ok, .present .ok second aliceToken, .rotate 0 second second .ok]

/-- Her second access token is signed for somebody else. -/
theorem refreshOnce_not_keepsIdentity :
    ¬ ∀ ls s, (tokenSystem Bearer.scheme id).Run (init (.empty : Keyspace Bearer String)) ls s →
      SignedForLogin Bearer.scheme s := by
  intro h
  have hrun : (Lts.runNext (State.next Bearer.scheme id) (init .empty) refreshOnce).map
      (fun s => s.issued.map fun issue => (issue.origin,
        (Bearer.scheme.payload? issue.tokens.accessToken).map Claims.sub)) =
      some [(some "alice", some "alice"), (some "alice", some "b'alice'")] := by decide
  obtain ⟨s, hs, hread⟩ := Lts.exists_run_of_map hrun
  have hmem : (some "alice", some "b'alice'") ∈ s.issued.map fun issue => (issue.origin,
      (Bearer.scheme.payload? issue.tokens.accessToken).map Claims.sub) := by
    rw [hread]
    decide
  obtain ⟨issue, hissue, heq⟩ := List.mem_map.1 hmem
  obtain ⟨horigin, hsub⟩ := Prod.mk.inj heq
  have halice := h _ s hs issue hissue "alice" horigin
  rw [hsub] at halice
  exact absurd halice (by decide)

end Auth

end OmsWmsTms
