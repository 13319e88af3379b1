import OmsWmsTms.Auth.Service
import OmsWmsTms.Auth.TokenLive

/-!
# The session of the web client

`useAuthStore` of `stores/auth.ts` and the interceptor of `api/index.ts` on the client, the auth
endpoints of `src/auth/router.py` on the server.  The client keeps its tokens twice, in the refs of
the store and in `localStorage`; the interceptor renews the second only.  `logout` posts no body,
and the server revokes only the token that a body names.

* `Session.next`, `sessionSystem` : logins, refreshes at any stage, page loads and logouts, among
  the calls of other clients.
* `logoutEndpoint` : `/auth/logout`.
* `Over` : the tokens of ended sessions are refused from now on.
* `EndsDead` : a logout finds no token of its session usable, and none of an ended session is signed
  again.
* `over_iff` : the runs through such states are those of such steps.
-/

namespace OmsWmsTms

namespace Web

open Auth

/-- Who waits for the answer of a refresh. -/
inductive Caller
  /-- `refreshAccessToken` of the store. -/
  | authStore
  /-- The response interceptor. -/
  | interceptor
  /-- Nobody any more: the page has been left, or the request has failed for the client. -/
  | gone
deriving DecidableEq

/-- A refresh, from the request to the response. -/
inductive Flight (Token : Type*)
  | sent (caller : Caller) (token : Token)
  /-- The server has popped the token. -/
  | popped (caller : Caller) (data : TokenData)
  /-- The answer: tokens, or a 401. -/
  | answered (caller : Caller) (tokens : Option (TokenPair Token))

/-- The server's store, the client, and what is under way between them. -/
structure Session (Token Key : Type*) where
  store : TokenStore Token Key
  /-- The time of the last step. -/
  clock : ℤ
  /-- `token.value`. -/
  token : Option Token := none
  /-- `refreshToken.value`. -/
  refreshToken : Option Token := none
  /-- `localStorage`, `access_token`. -/
  accessItem : Option Token := none
  /-- `localStorage`, `refresh_token`. -/
  refreshItem : Option Token := none
  flights : List (Flight Token) := []
  /-- The refresh tokens that the client has held in this session. -/
  held : List Token := []
  /-- Those of the sessions that have ended. -/
  ended : List Token := []

/-- A step of the client, of the server, or of somebody else. -/
inductive Step (Token : Type*)
  /-- `login` succeeds. -/
  | login (user : UserDict) (now now' : ℤ) (reply : Reply)
  /-- A refresh is sent. -/
  | send (caller : Caller)
  /-- The server decodes and pops its token. -/
  | pop (i : ℕ) (reply : Reply) (now : ℤ)
  /-- The server signs and stores new ones. -/
  | rotate (i : ℕ) (now now' : ℤ) (reply : Reply)
  /-- The answer arrives. -/
  | receive (i : ℕ)
  /-- The request fails for the client; the server may know nothing of it. -/
  | fail (i : ℕ)
  /-- `logout` completes, and the server was reachable. -/
  | logout (reply : Reply) (now : ℤ)
  /-- The page is loaded. -/
  | load
  /-- A call on the store for another client. -/
  | other (now : ℤ) (op : Op Token)

section

variable {Token Key : Type*}

/-- The flight with its page left. -/
def Flight.leave : Flight Token → Flight Token
  | .sent _ token => .sent .gone token
  | .popped _ data => .popped .gone data
  | .answered _ tokens => .answered .gone tokens

/-- Who waits for it. -/
def Flight.caller : Flight Token → Caller
  | .sent caller _ | .popped caller _ | .answered caller _ => caller

/-- The page is loaded: the refs are set from `localStorage`, and nobody waits any more. -/
def Session.load (s : Session Token Key) : Session Token Key :=
  { s with
    token := s.accessItem
    refreshToken := s.refreshItem
    flights := s.flights.map Flight.leave }

/-- The interceptor gives up: the items are removed, and the login page is loaded. -/
def Session.giveUp (s : Session Token Key) : Session Token Key :=
  Session.load { s with accessItem := none, refreshItem := none }

/-- A refresh has failed for its caller.  The store starts a logout. -/
def Session.failed (s : Session Token Key) : Caller → Session Token Key
  | .interceptor => s.giveUp
  | .authStore | .gone => s

/-- New tokens have arrived for their caller. -/
def Session.renewed (s : Session Token Key) (tokens : TokenPair Token) :
    Caller → Session Token Key
  | .authStore => { s with
      token := some tokens.accessToken
      refreshToken := some tokens.refreshToken
      accessItem := some tokens.accessToken
      refreshItem := some tokens.refreshToken
      held := s.held ++ [tokens.refreshToken] }
  | .interceptor => { s with
      accessItem := some tokens.accessToken
      refreshItem := some tokens.refreshToken
      held := s.held ++ [tokens.refreshToken] }
  | .gone => s

/-- The body that `logout` posts. -/
def logoutBody : Option Token := none

variable [DecidableEq Token] [DecidableEq Key] (jwt : Jwt Token) (key : Token → Key)

/-- `/auth/logout`: the status, and the store.  A request without a `RefreshRequest` does not get
as far as the endpoint. -/
def logoutEndpoint (reply : Reply) (body : Option Token) (store : TokenStore Token Key) :
    ℕ × TokenStore Token Key :=
  match body with
  | none => (422, store)
  | some token => (200, revokeRefreshToken key reply token store)

/-- The client has logged out, whatever the answer was. -/
def Session.clear (s : Session Token Key) : Session Token Key :=
  { s with
    token := none
    refreshToken := none
    accessItem := none
    refreshItem := none
    held := []
    ended := s.ended ++ s.held }

/-- A step that happens, at a time that does not go back. -/
def Session.next (s : Session Token Key) : Step Token → Option (Session Token Key)
  | .login user now now' reply =>
    if s.clock ≤ now ∧ now ≤ now' then
      let (tokens, store) := createTokens jwt key user.tokenData now now' reply s.store
      some { s with
        store := store
        clock := now'
        token := some tokens.accessToken
        refreshToken := some tokens.refreshToken
        accessItem := some tokens.accessToken
        refreshItem := some tokens.refreshToken
        held := [tokens.refreshToken] }
    else none
  | .send .authStore => s.refreshToken.map fun token =>
      { s with flights := s.flights ++ [.sent .authStore token] }
  | .send .interceptor =>
    match s.refreshItem with
    | none => some s.giveUp
    | some token => some { s with flights := s.flights ++ [.sent .interceptor token] }
  | .send .gone => none
  | .pop i reply now =>
    match s.flights[i]? with
    | some (.sent caller token) =>
      if s.clock ≤ now then
        let (data?, store) := popUsername jwt key reply now token s.store
        some { s with
          store := store
          clock := now
          flights := s.flights.set i (match data? with
            | none => .answered caller none
            | some data => .popped caller data) }
      else none
    | _ => none
  | .rotate i now now' reply =>
    match s.flights[i]? with
    | some (.popped caller data) =>
      if s.clock ≤ now ∧ now ≤ now' then
        let (tokens, store) := createTokens jwt key data now now' reply s.store
        some { s with
          store := store
          clock := now'
          flights := s.flights.set i (.answered caller (some tokens)) }
      else none
    | _ => none
  | .receive i =>
    match s.flights[i]? with
    | some (.answered caller tokens?) =>
      let s := { s with flights := s.flights.eraseIdx i }
      match tokens? with
      | none => some (s.failed caller)
      | some tokens => some (s.renewed tokens caller)
    | _ => none
  | .fail i =>
    match s.flights[i]? with
    | none => none
    | some flight =>
      some (Session.failed { s with flights := s.flights.set i flight.leave } flight.caller)
  | .logout reply now =>
    if s.clock ≤ now then
      some (Session.clear { s with
        store := (logoutEndpoint key reply logoutBody s.store).2
        clock := now })
    else none
  | .load => some s.load
  | .other now op =>
    if s.clock ≤ now ∧ op.username? ≠ some "" then
      some { s with store := s.store.after key (op.method now), clock := now }
    else none

/-- The runs of a client and the server. -/
def sessionSystem : Lts (Session Token Key) (Step Token) := Lts.ofNext (Session.next jwt key)

/-! ### Tokens that can be used -/

/-- A token is valid, and the store finds it. -/
def Usable (store : TokenStore Token Key) (now : ℤ) (token : Token) : Prop :=
  (∃ payload, decodeToken jwt now token = .ok payload) ∧ found key store now token ≠ none

/-- No username in memory is empty. -/
def Named (store : TokenStore Token Key) : Prop :=
  ∀ token username, store.memory.get? token = some username → username ≠ ""

variable {jwt key} {store : TokenStore Token Key} {now now' : ℤ} {token : Token} {op : Op Token}

theorem Named.after (h : Named store) (hop : op.username? ≠ some "") :
    Named (store.after key (op.method now)) := by
  intro token username hget
  rcases TokenStore.memory_after hget with hold | ⟨reply, now', hstore, -⟩
  · exact h token username hold
  · rintro rfl
    cases op with
    | store => cases hstore; exact hop rfl
    | lookup | pop | revoke | cleanup => cases hstore

/-- The tokens that can be used are those that the refresh endpoint accepts. -/
theorem usable_iff (hopt : store.Optimistic) (hnamed : Named store) :
    Usable jwt key store now token ↔
      ∃ reply, (popUsername jwt key reply now token store).1 ≠ none := by
  constructor
  · rintro ⟨⟨payload, hdecode⟩, hfound⟩
    obtain ⟨username, husername⟩ := Option.ne_none_iff_exists'.1 hfound
    rw [found_eq hopt] at husername
    refine ⟨.ok, ?_⟩
    cases hok : store.redisOk with
    | true =>
      simp only [hok, if_true] at husername
      have hpop : (store.pop key .ok now token).1 = some (strBytes username) := by
        rw [TokenStore.pop_of_redis hok, husername]
        rfl
      refine popUsername_ne_none hdecode hpop fun hnil => ?_
      have hlong := length_lt_length_strBytes username
      rw [hnil] at hlong
      exact absurd hlong (Nat.not_lt_zero _)
    | false =>
      simp only [hok, Bool.false_eq_true, if_false] at husername
      have hpop : (store.pop key .ok now token).1 = some username :=
        (TokenStore.pop_of_memory (by simp [hok])).1.trans husername
      exact popUsername_ne_none hdecode hpop (hnamed _ _ husername)
  · rintro ⟨reply, hne⟩
    obtain ⟨data, hdata⟩ := Option.ne_none_iff_exists'.1 hne
    obtain ⟨payload, hdecode, hpop, -⟩ := popUsername_eq_some hdata
    refine ⟨⟨payload, hdecode⟩, fun hnone => ?_⟩
    rw [found_eq hopt] at hnone
    by_cases hanswer : store.redisOk = true → reply ≠ .ok
    · rw [(TokenStore.pop_of_memory hanswer).1] at hpop
      split_ifs at hnone with hok
      · rw [hopt hok token] at hpop
        cases hpop
      · rw [hnone] at hpop
        cases hpop
    · obtain ⟨hok, hreply⟩ := Classical.not_imp.1 hanswer
      rw [if_pos hok] at hnone
      rw [not_not.1 hreply, TokenStore.pop_of_redis hok, hnone] at hpop
      cases hpop

omit [DecidableEq Token] in
theorem decodeToken_of_le (hnow : now ≤ now')
    (h : ∃ payload, decodeToken jwt now' token = .ok payload) :
    ∃ payload, decodeToken jwt now token = .ok payload := by
  obtain ⟨payload, hpayload⟩ := h
  obtain ⟨hsigned, hexp⟩ := decodeToken_eq_ok.1 hpayload
  exact ⟨payload, decodeToken_eq_ok.2
    ⟨hsigned, (Int.ediv_le_ediv (by decide) hnow).trans hexp⟩⟩

/-- What can be used later can be used now. -/
theorem Usable.of_le (hopt : store.Optimistic) (hnow : now ≤ now')
    (h : Usable jwt key store now' token) : Usable jwt key store now token := by
  refine ⟨decodeToken_of_le hnow h.1, fun hnone => h.2 ?_⟩
  rw [found_eq hopt] at hnone ⊢
  split_ifs at hnone ⊢
  · exact Keyspace.get_eq_none_of_le hnow hnone
  · exact hnone

/-! ### Ended sessions -/

variable (jwt key)

/-- No token of an ended session is accepted by the refresh endpoint any more. -/
def Over (s : Session Token Key) : Prop :=
  ∀ token ∈ s.ended, ∀ reply now, s.clock ≤ now →
    (popUsername jwt key reply now token s.store).1 = none

/-- The call that a step makes on the store, with its time. -/
def Session.op? (s : Session Token Key) : Step Token → Option (ℤ × Op Token)
  | .login user _ now' reply =>
    some (now', .store reply (createRefreshToken jwt user.tokenData now') user.username)
  | .rotate i _ now' reply =>
    match s.flights[i]? with
    | some (.popped _ data) =>
      some (now', .store reply (createRefreshToken jwt data now') data.sub)
    | _ => none
  | .pop i reply now =>
    match s.flights[i]? with
    | some (.sent _ token) =>
      if (decodeToken jwt now token).isOk then some (now, .pop reply token) else none
    | _ => none
  | .other now op => some (now, op)
  | .send _ | .receive _ | .fail _ | .logout _ _ | .load => none

/-- A logout finds no refresh token of its session usable, and no valid token of an ended session is
stored again. -/
structure EndsDead (s : Session Token Key) (step : Step Token) : Prop where
  logout : ∀ reply now, step = .logout reply now → ∀ token ∈ s.held,
    ¬ Usable jwt key s.store now token
  stored : ∀ now op stored, s.op? jwt step = some (now, op) → op.username? ≠ none →
    op.token? = some stored → ∀ token ∈ s.ended, Alike key s.store op stored token →
    ¬ ∃ payload, decodeToken jwt now token = .ok payload

/-- The tokens of ended sessions are of no use. -/
structure Session.Good (s : Session Token Key) : Prop where
  optimistic : s.store.Optimistic
  named : Named s.store
  dead : ∀ token ∈ s.ended, ¬ Usable jwt key s.store s.clock token

variable {jwt key} {s s' : Session Token Key} {step : Step Token}

theorem Session.Good.over (h : s.Good jwt key) : Over jwt key s := by
  intro token ht reply now hnow
  by_contra hne
  exact h.dead token ht
    (((usable_iff h.optimistic h.named).2 ⟨reply, hne⟩).of_le h.optimistic hnow)

omit [DecidableEq Token] [DecidableEq Key] in
theorem Session.failed_frame (caller : Caller) : (s.failed caller).store = s.store ∧
    (s.failed caller).clock = s.clock ∧ (s.failed caller).ended = s.ended := by
  cases caller <;> exact ⟨rfl, rfl, rfl⟩

omit [DecidableEq Token] [DecidableEq Key] in
theorem Session.renewed_frame (tokens : TokenPair Token) (caller : Caller) :
    (s.renewed tokens caller).store = s.store ∧ (s.renewed tokens caller).clock = s.clock ∧
      (s.renewed tokens caller).ended = s.ended := by
  cases caller <;> exact ⟨rfl, rfl, rfl⟩

/-- **The steps**: a call on the store, or none and perhaps a logout. -/
theorem Session.next_cases (h : s.next jwt key step = some s') :
    (∃ now op, s.op? jwt step = some (now, op) ∧ op.username? ≠ some "" ∧ s.clock ≤ now ∧
      s'.store = s.store.after key (op.method now) ∧ s'.clock = now ∧ s'.ended = s.ended) ∨
    (s.op? jwt step = none ∧ s'.store = s.store ∧ s.clock ≤ s'.clock ∧
      (s'.ended = s.ended ∧ (∀ reply now, step ≠ .logout reply now) ∨
        ∃ reply, step = .logout reply s'.clock ∧ s'.ended = s.ended ++ s.held)) := by
  cases step with
  | login user now now' reply =>
    left
    simp only [Session.next] at h
    split_ifs at h with htime
    cases h
    exact ⟨_, _, rfl, fun heq => user.username_ne (Option.some.inj heq), htime.1.trans htime.2,
      rfl, rfl, rfl⟩
  | send caller =>
    right
    cases caller with
    | authStore =>
      obtain ⟨token, -, rfl⟩ := Option.map_eq_some_iff.1 h
      exact ⟨rfl, rfl, le_rfl, .inl ⟨rfl, by simp⟩⟩
    | interceptor =>
      simp only [Session.next] at h
      cases hitem : s.refreshItem with
      | none =>
        simp only [hitem, Option.some.injEq] at h
        exact h ▸ ⟨rfl, rfl, le_rfl, .inl ⟨rfl, by simp⟩⟩
      | some token =>
        simp only [hitem, Option.some.injEq] at h
        exact h ▸ ⟨rfl, rfl, le_rfl, .inl ⟨rfl, by simp⟩⟩
    | gone => cases h
  | pop i reply now =>
    simp only [Session.next] at h
    cases hi : s.flights[i]? with
    | none => simp [hi] at h
    | some flight =>
      cases flight with
      | popped | answered => simp [hi] at h
      | sent caller token =>
        simp only [hi] at h
        split_ifs at h with htime
        cases h
        cases hdecode : (decodeToken jwt now token).isOk with
        | true =>
          refine .inl ⟨now, .pop reply token, ?_, by simp [Op.username?], htime, ?_, rfl, rfl⟩
          · simp [Session.op?, hi, hdecode]
          · simp [popUsername_snd, hdecode, Op.method]
        | false =>
          refine .inr ⟨?_, ?_, htime, .inl ⟨rfl, by simp⟩⟩
          · simp [Session.op?, hi, hdecode]
          · simp [popUsername_snd, hdecode]
  | rotate i now now' reply =>
    simp only [Session.next] at h
    cases hi : s.flights[i]? with
    | none => simp [hi] at h
    | some flight =>
      cases flight with
      | sent | answered => simp [hi] at h
      | popped caller data =>
        simp only [hi] at h
        split_ifs at h with htime
        cases h
        refine .inl ⟨now', .store reply (createRefreshToken jwt data now') data.sub, ?_,
          fun heq => data.sub_ne (Option.some.inj heq), htime.1.trans htime.2, rfl, rfl, rfl⟩
        simp only [Session.op?, hi]
  | receive i =>
    right
    simp only [Session.next] at h
    cases hi : s.flights[i]? with
    | none => simp [hi] at h
    | some flight =>
      cases flight with
      | sent | popped => simp [hi] at h
      | answered caller tokens? =>
        cases tokens? with
        | none =>
          simp only [hi, Option.some.injEq] at h
          subst h
          obtain ⟨hstore, hclock, hended⟩ := Session.failed_frame caller
          exact ⟨rfl, hstore, hclock.ge, .inl ⟨hended, by simp⟩⟩
        | some tokens =>
          simp only [hi, Option.some.injEq] at h
          subst h
          obtain ⟨hstore, hclock, hended⟩ := Session.renewed_frame tokens caller
          exact ⟨rfl, hstore, hclock.ge, .inl ⟨hended, by simp⟩⟩
  | fail i =>
    right
    simp only [Session.next] at h
    cases hi : s.flights[i]? with
    | none => simp [hi] at h
    | some flight =>
      simp only [hi, Option.some.injEq] at h
      subst h
      obtain ⟨hstore, hclock, hended⟩ := Session.failed_frame flight.caller
      exact ⟨rfl, hstore, hclock.ge, .inl ⟨hended, by simp⟩⟩
  | logout reply now =>
    right
    simp only [Session.next] at h
    split_ifs at h with htime
    cases h
    exact ⟨rfl, rfl, htime, .inr ⟨reply, rfl, rfl⟩⟩
  | load =>
    cases h
    exact .inr ⟨rfl, rfl, le_rfl, .inl ⟨rfl, by simp⟩⟩
  | other now op =>
    left
    simp only [Session.next] at h
    split_ifs at h with htime
    cases h
    exact ⟨now, op, rfl, htime.2, htime.1, rfl, rfl, rfl⟩

/-- A token that is of no use stays so over a call that does not store it. -/
theorem not_usable_after (hopt : store.Optimistic) (hnow : now ≤ now')
    (hdead : ¬ Usable jwt key store now token)
    (hstored : ∀ stored, op.token? = some stored → op.username? ≠ none →
      Alike key store op stored token → ¬ ∃ payload, decodeToken jwt now' token = .ok payload) :
    ¬ Usable jwt key (store.after key (op.method now')) now' token := by
  rintro ⟨hdecode, hfound⟩
  by_cases halike : ∃ stored, op.token? = some stored ∧ Alike key store op stored token
  · obtain ⟨stored, hop, halike⟩ := halike
    by_cases hname : op.username? = none
    · rw [found_after_of_alike hopt le_rfl hop halike fun hsome => absurd hname hsome] at hfound
      exact hfound hname
    · exact hstored stored hop hname halike hdecode
  · have hother : ∀ stored, op.token? = some stored → ¬ Alike key store op stored token :=
      fun stored hop hal => halike ⟨stored, hop, hal⟩
    by_cases hloses : Loses store op
    · refine hfound (found_after_of_loses hopt hloses fun hop => ?_)
      exact hother token hop (alike_refl store op token)
    · rw [found_after_of_not_alike hopt le_rfl hloses hother] at hfound
      exact hdead (Usable.of_le hopt hnow ⟨hdecode, hfound⟩)

theorem Session.Good.next (h : s.Good jwt key) (hnext : s.next jwt key step = some s')
    (hdead : EndsDead jwt key s step) : s'.Good jwt key := by
  rcases Session.next_cases hnext with
    ⟨now, op, hop, hname, hclock, hstore, hclock', hended⟩ | ⟨-, hstore, hclock, hended⟩
  · refine ⟨?_, ?_, fun token ht => ?_⟩
    · rw [hstore]
      exact h.optimistic.after _
    · rw [hstore]
      exact h.named.after hname
    · rw [hended] at ht
      rw [hstore, hclock']
      exact not_usable_after h.optimistic hclock (h.dead token ht) fun stored hstored hname =>
        hdead.stored now op stored hop hname hstored token ht
  · refine ⟨by rw [hstore]; exact h.optimistic, by rw [hstore]; exact h.named, fun token ht => ?_⟩
    rw [hstore]
    rcases hended with ⟨hended, -⟩ | ⟨reply, rfl, hended⟩
    · rw [hended] at ht
      exact fun husable => h.dead token ht (husable.of_le h.optimistic hclock)
    · rw [hended] at ht
      rcases List.mem_append.1 ht with hold | hheld
      · exact fun husable => h.dead token hold (husable.of_le h.optimistic hclock)
      · exact hdead.logout reply _ rfl token hheld

/-- After a step that is not so, a token of an ended session is accepted. -/
theorem Session.Good.endsDead (h : s.Good jwt key) (hnext : s.next jwt key step = some s')
    (hover : Over jwt key s') : EndsDead jwt key s step := by
  have hrefused : s'.store.Optimistic → Named s'.store → ∀ token ∈ s'.ended,
      ¬ Usable jwt key s'.store s'.clock token := by
    intro hopt hnamed token ht husable
    obtain ⟨reply, hne⟩ := (usable_iff hopt hnamed).1 husable
    exact hne (hover token ht reply _ le_rfl)
  rcases Session.next_cases hnext with
    ⟨now, op, hop, hname, hclock, hstore, hclock', hended⟩ | ⟨hop, hstore, -, hended⟩
  · refine ⟨?_, fun now₀ op₀ stored hop₀ hsome hstored token ht halike hdecode => ?_⟩
    · rintro reply now₀ rfl
      cases hop
    · rw [hop, Option.some.injEq] at hop₀
      cases hop₀
      have hdead := hrefused (by rw [hstore]; exact h.optimistic.after _)
        (by rw [hstore]; exact h.named.after hname) token (by rw [hended]; exact ht)
      refine hdead ⟨by rw [hclock']; exact hdecode, ?_⟩
      rw [hstore, hclock', found_after_of_alike h.optimistic le_rfl hstored halike
        fun _ => lt_add_of_pos_right _ (by decide)]
      exact hsome
  · refine ⟨?_, fun now₀ op₀ stored hop₀ => ?_⟩
    · rintro reply now rfl token ht husable
      rcases hended with ⟨-, hnot⟩ | ⟨reply', heq, hended⟩
      · exact hnot reply now rfl
      · cases heq
        have hdead := hrefused (by rw [hstore]; exact h.optimistic)
          (by rw [hstore]; exact h.named) token
          (by rw [hended]; exact List.mem_append_right _ ht)
        rw [hstore] at hdead
        exact hdead husable
    · rw [hop] at hop₀
      cases hop₀

/-- A process that has just started, and a page that has never been logged in. -/
def Session.init (redis : Keyspace Key String) (clock : ℤ) : Session Token Key where
  store := { redis := redis }
  clock := clock

theorem Session.good_init (redis : Keyspace Key String) (clock : ℤ) :
    (Session.init redis clock : Session Token Key).Good jwt key where
  optimistic _ _ := rfl
  named _ _ h := by cases h
  dead _ h := by cases h

/-- **Logout ends the session** exactly in the runs in which every refresh token that the client
has held is of no use before the logout, and none of them is stored again later. -/
theorem over_iff {redis : Keyspace Key String} {clock : ℤ} {steps : List (Step Token)} :
    ((sessionSystem jwt key).restrict fun _ _ s' => Over jwt key s').Run
        (Session.init redis clock) steps s ↔
      ((sessionSystem jwt key).guard (EndsDead jwt key)).Run (Session.init redis clock) steps s :=
  Lts.Run.restrict_iff_guard (I := Session.Good jwt key)
    (fun _ _ _ h hstep hdead => h.next hstep hdead)
    (fun _ _ _ h hstep => ⟨h.endsDead hstep, fun hdead => (h.next hstep hdead).over⟩)
    (Session.good_init redis clock)

/-- `alice` logs in and out. -/
def loginLogout : List (Step Bearer) := [.login alice 0 0 .ok, .logout .ok second]

/-- Her refresh token still works. -/
theorem loginLogout_not_over :
    ¬ ∀ steps s, (sessionSystem Bearer.scheme id).Run
      (Session.init (.empty : Keyspace Bearer String) 0) steps s → Over Bearer.scheme id s := by
  intro h
  have hrun : (Lts.runNext (Session.next Bearer.scheme id) (Session.init .empty 0)
      loginLogout).map (fun s => (s.clock, s.ended, s.refreshToken,
        (popUsername Bearer.scheme id .ok (2 * second) aliceToken s.store).1.isSome)) =
      some (second, [aliceToken], none, true) := by decide
  obtain ⟨s, hs, hread⟩ := Lts.exists_run_of_map hrun
  obtain ⟨hclock, hread⟩ := Prod.mk.inj hread
  obtain ⟨hended, hread⟩ := Prod.mk.inj hread
  have hnone := h _ s hs aliceToken (by rw [hended]; exact List.mem_singleton_self _) .ok
    (2 * second) (by rw [hclock]; decide)
  have haccepted := (Prod.mk.inj hread).2
  simp [hnone] at haccepted

end

end Web

end OmsWmsTms
