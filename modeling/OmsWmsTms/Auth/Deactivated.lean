import OmsWmsTms.Auth.Service

/-!
# Tokens for a deactivated user

`login`, `refresh` and `toggle_user_active_state` of `src/auth/router.py`.  `authenticate_user`
checks `is_active` on the row that it read before the password check; `refresh_tokens` never reads
the row.  Statements of other requests come between the statements of a request.

* `User`, `Accounts.next`, `accountSystem` : runs of logins, refreshes and toggles.
* `deactivated` : the user with an id is not active.
* `Honours` : a step presents no stored token of such a user, and deactivates nobody whose login or
  refresh is under way.
* `issued_active` : in runs of such steps, nobody is handed tokens while deactivated.
-/

namespace OmsWmsTms

namespace Auth

/-- A row of `users`; the key is its `id`. -/
structure User where
  username : String
  hashedPassword : String
  isActive : Bool
  /-- Registration refuses an empty username. -/
  username_ne : username ≠ ""

/-- A login that has read its row. -/
structure Login where
  id : String
  user : User
  password : String

/-- A pair of tokens that has been handed out. -/
structure Handed where
  data : TokenData
  /-- Its user was deactivated at that moment. -/
  deactivated : Bool
deriving DecidableEq

/-- The accounts, the tokens, and the requests under way. -/
structure Accounts (Token Key : Type*) where
  users : Dict String User
  store : TokenStore Token Key
  /-- The logins whose password is being checked. -/
  logins : List Login := []
  /-- The refreshes that have popped their token. -/
  refreshing : List TokenData := []
  /-- The toggles that have read their row, with what they are to write. -/
  toggles : List (String × Bool) := []
  /-- What has been handed out. -/
  handed : List Handed := []

/-- A statement of a request. -/
inductive Request (Token : Type*)
  /-- A login reads the row of a username. -/
  | authenticate (username password : String)
  /-- The rest of a login. -/
  | login (i : ℕ) (now now' : ℤ) (reply : Reply)
  /-- A refresh, up to its pop. -/
  | present (reply : Reply) (now : ℤ) (token : Token)
  /-- The rest of a refresh. -/
  | rotate (i : ℕ) (now now' : ℤ) (reply : Reply)
  /-- A toggle reads the row of a user. -/
  | toggle (id : String)
  /-- The rest of a toggle. -/
  | commit (i : ℕ)

section

variable {Token Key : Type*}

/-- The user with an id is not active. -/
def deactivated (users : Dict String User) (uid : Option String) : Bool :=
  (uid.bind users.get?).map User.isActive = some false

/-- The row of a username; it is unique. -/
def userNamed (users : Dict String User) (username : String) : Option (String × User) :=
  users.items.find? fun row => row.2.username = username

/-- The data of the tokens of a login. -/
def Login.tokenData (login : Login) : TokenData :=
  ⟨login.user.username, some login.id, login.user.username_ne⟩

variable [DecidableEq Token] [DecidableEq Key] (jwt : Jwt Token) (key : Token → Key)
  (checkpw : String → String → Bool)

/-- `authenticate_user` returns the user: the password is right, and the row was read active. -/
def Login.passes (login : Login) : Bool :=
  checkpw login.password login.user.hashedPassword && login.user.isActive

/-- Tokens are handed out. -/
def Accounts.hand (s : Accounts Token Key) (data : TokenData) (now now' : ℤ) (reply : Reply) :
    Accounts Token Key :=
  { s with
    store := (createTokens jwt key data now now' reply s.store).2
    handed := s.handed ++ [⟨data, deactivated s.users data.uid⟩] }

/-- A statement. -/
def Accounts.next (s : Accounts Token Key) : Request Token → Option (Accounts Token Key)
  | .authenticate username password =>
    match userNamed s.users username with
    | none => some s
    | some (id, user) => some { s with logins := s.logins ++ [⟨id, user, password⟩] }
  | .login i now now' reply =>
    match s.logins[i]? with
    | none => none
    | some login =>
      let s := { s with logins := s.logins.eraseIdx i }
      if login.passes checkpw then some (s.hand jwt key login.tokenData now now' reply) else some s
  | .present reply now token =>
    let (data?, store) := popUsername jwt key reply now token s.store
    some { s with store := store, refreshing := s.refreshing ++ data?.toList }
  | .rotate i now now' reply =>
    match s.refreshing[i]? with
    | none => none
    | some data =>
      some (Accounts.hand jwt key { s with refreshing := s.refreshing.eraseIdx i } data now now'
        reply)
  | .toggle id =>
    match s.users.get? id with
    | none => some s
    | some user => some { s with toggles := s.toggles ++ [(id, !user.isActive)] }
  | .commit i =>
    match s.toggles[i]? with
    | none => none
    | some (id, isActive) => some { s with
        toggles := s.toggles.eraseIdx i
        users := s.users.modify id fun user => { user with isActive := isActive } }

/-- The runs of requests. -/
def accountSystem : Lts (Accounts Token Key) (Request Token) :=
  Lts.ofNext (Accounts.next jwt key checkpw)

/-! ### Tokens of active users only -/

/-- `pop` finds a token in the part of the store that it reads. -/
def Holds (s : TokenStore Token Key) (reply : Reply) (now : ℤ) (token : Token) : Prop :=
  if s.redisOk = true ∧ reply = .ok then s.redis.get now (key token) ≠ none
  else s.memory.get? token ≠ none

/-- No stored refresh token of a deactivated user is presented while it is valid, and nobody is
deactivated while a login or a refresh of his is under way. -/
def Honours (s : Accounts Token Key) : Request Token → Prop
  | .present reply now token => ∀ payload, decodeToken jwt now token = .ok payload →
      Holds key s.store reply now token → deactivated s.users payload.uid = false
  | .commit i => ∀ id, s.toggles[i]? = some (id, false) →
      (∀ login ∈ s.logins, login.passes checkpw = true → login.id ≠ id) ∧
        ∀ data ∈ s.refreshing, data.uid ≠ some id
  | _ => True

/-- Nothing has been handed out to a deactivated user, and nothing is about to be. -/
structure Honoured (s : Accounts Token Key) : Prop where
  logins : ∀ login ∈ s.logins, login.passes checkpw = true →
    deactivated s.users (some login.id) = false
  refreshing : ∀ data ∈ s.refreshing, deactivated s.users data.uid = false
  handed : ∀ tokens ∈ s.handed, tokens.deactivated = false

/-- A process with no request under way. -/
def Accounts.start (users : Dict String User) (store : TokenStore Token Key) :
    Accounts Token Key where
  users := users
  store := store

variable {jwt key checkpw} {s s' : Accounts Token Key} {request : Request Token}

omit [DecidableEq Token] [DecidableEq Key] in
theorem honoured_start (users : Dict String User) (store : TokenStore Token Key) :
    Honoured checkpw (Accounts.start users store) where
  logins _ h := by cases h
  refreshing _ h := by cases h
  handed _ h := by cases h

theorem holds_of_pop {store : TokenStore Token Key} {reply : Reply} {now : ℤ} {token : Token}
    {username : String} (h : (store.pop key reply now token).1 = some username) :
    Holds key store reply now token := by
  unfold Holds
  split_ifs with hok
  · obtain ⟨htrust, rfl⟩ := hok
    rw [TokenStore.pop_of_redis htrust] at h
    intro hnone
    simp [hnone] at h
  · rw [(TokenStore.pop_of_memory fun htrust hreply => hok ⟨htrust, hreply⟩).1] at h
    simp [h]

/-- A user whose row says so is active. -/
theorem deactivated_eq_false {users : Dict String User} {id : String} {user : User}
    (h : users.get? id = some user) (hactive : user.isActive = true) :
    deactivated users (some id) = false := by
  simp [deactivated, h, hactive]

/-- Writing the flag of one user changes nothing for the others, and activates him at most. -/
theorem deactivated_modify {users : Dict String User} {id : String} {isActive : Bool}
    {uid : Option String} (h : deactivated users uid = false)
    (hother : isActive = false → uid ≠ some id) :
    deactivated (users.modify id fun user => { user with isActive := isActive }) uid = false := by
  cases uid with
  | none => exact h
  | some id' =>
    simp only [deactivated, Option.bind_some, Dict.get?_modify, decide_eq_false_iff_not] at h ⊢
    split_ifs with hid
    · subst hid
      cases isActive with
      | true => cases users.get? id <;> simp
      | false => exact absurd rfl (hother rfl)
    · exact h

theorem Honoured.hand (h : Honoured checkpw s) {data : TokenData}
    (hdata : deactivated s.users data.uid = false) (now now' : ℤ) (reply : Reply) :
    Honoured checkpw (s.hand jwt key data now now' reply) where
  logins := h.logins
  refreshing := h.refreshing
  handed tokens ht := by
    rcases List.mem_append.1 ht with hold | hnew
    · exact h.handed tokens hold
    · rw [List.mem_singleton.1 hnew]
      exact hdata

theorem Honoured.next (h : Honoured checkpw s) (hnext : s.next jwt key checkpw request = some s')
    (hhonours : Honours jwt key checkpw s request) : Honoured checkpw s' := by
  cases request with
  | authenticate username password =>
    simp only [Accounts.next] at hnext
    cases hrow : userNamed s.users username with
    | none =>
      simp only [hrow, Option.some.injEq] at hnext
      exact hnext ▸ h
    | some row =>
      obtain ⟨id, user⟩ := row
      simp only [hrow, Option.some.injEq] at hnext
      subst hnext
      refine ⟨fun login hlogin hpasses => ?_, h.refreshing, h.handed⟩
      rcases List.mem_append.1 hlogin with hold | hnew
      · exact h.logins login hold hpasses
      · rw [List.mem_singleton.1 hnew] at hpasses ⊢
        -- the row is read as it is now
        have hget := Dict.get?_of_mem_items (List.mem_of_find?_eq_some hrow)
        exact deactivated_eq_false hget (Bool.and_eq_true_iff.1 hpasses).2
  | login i now now' reply =>
    simp only [Accounts.next] at hnext
    cases hi : s.logins[i]? with
    | none => simp [hi] at hnext
    | some login =>
      have hrest : Honoured checkpw { s with logins := s.logins.eraseIdx i } :=
        ⟨fun login' hl => h.logins login' (List.mem_of_mem_eraseIdx hl), h.refreshing, h.handed⟩
      simp only [hi] at hnext
      split_ifs at hnext with hpasses
      · cases hnext
        exact hrest.hand (h.logins login (List.mem_of_getElem? hi) hpasses) _ _ _
      · cases hnext
        exact hrest
  | present reply now token =>
    simp only [Accounts.next, Option.some.injEq] at hnext
    subst hnext
    refine ⟨h.logins, fun data hdata => ?_, h.handed⟩
    rcases List.mem_append.1 hdata with hold | hnew
    · exact h.refreshing data hold
    · obtain ⟨payload, hdecode, hpop, huid⟩ := popUsername_eq_some (Option.mem_toList.1 hnew)
      show deactivated s.users data.uid = false
      rw [huid]
      exact hhonours payload hdecode (holds_of_pop hpop)
  | rotate i now now' reply =>
    simp only [Accounts.next] at hnext
    cases hi : s.refreshing[i]? with
    | none => simp [hi] at hnext
    | some data =>
      have hrest : Honoured checkpw { s with refreshing := s.refreshing.eraseIdx i } :=
        ⟨h.logins, fun data' hd => h.refreshing data' (List.mem_of_mem_eraseIdx hd), h.handed⟩
      simp only [hi, Option.some.injEq] at hnext
      subst hnext
      exact hrest.hand (h.refreshing data (List.mem_of_getElem? hi)) _ _ _
  | toggle id =>
    simp only [Accounts.next] at hnext
    cases hrow : s.users.get? id with
    | none =>
      simp only [hrow, Option.some.injEq] at hnext
      exact hnext ▸ h
    | some user =>
      simp only [hrow, Option.some.injEq] at hnext
      subst hnext
      exact ⟨h.logins, h.refreshing, h.handed⟩
  | commit i =>
    simp only [Accounts.next] at hnext
    cases hi : s.toggles[i]? with
    | none => simp [hi] at hnext
    | some toggle =>
      obtain ⟨id, isActive⟩ := toggle
      simp only [hi, Option.some.injEq] at hnext
      subst hnext
      refine ⟨fun login hlogin hpasses => ?_, fun data hdata => ?_, h.handed⟩
      · refine deactivated_modify (h.logins login hlogin hpasses) ?_
        rintro rfl heq
        exact (hhonours id hi).1 login hlogin hpasses (Option.some.inj heq)
      · refine deactivated_modify (h.refreshing data hdata) ?_
        rintro rfl
        exact (hhonours id hi).2 data hdata

/-- **A deactivated user gets no new tokens** in a run in which no valid refresh token of his is
presented while it is stored, and nobody is deactivated in the middle of his login or refresh. -/
theorem issued_active {users : Dict String User} {store : TokenStore Token Key}
    {requests : List (Request Token)}
    (h : ((accountSystem jwt key checkpw).guard (Honours jwt key checkpw)).Run
      (Accounts.start users store) requests s) :
    ∀ tokens ∈ s.handed, tokens.deactivated = false :=
  (h.invariant (I := Honoured checkpw) (honoured_start users store)
    fun _ _ _ hI hstep => hI.next hstep.1 hstep.2).handed

/-! ### Two accounts -/

/-- `alice` and `bob`. -/
def staff : Dict String User :=
  (Dict.empty.set "1" ⟨"alice", "hash of a", true, alice.username_ne⟩).set "2"
    ⟨"bob", "hash of b", true, by decide⟩

/-- A password check. -/
def checkHash (password hashedPassword : String) : Bool := hashedPassword = "hash of " ++ password

/-- A process with these accounts. -/
def staffStart : Accounts Bearer Bearer := .start staff { redis := .empty }

/-- `bob` is deactivated, then `alice` logs in. -/
theorem staff_issued_active : ∃ requests s,
    ((accountSystem Bearer.scheme id checkHash).guard (Honours Bearer.scheme id checkHash)).Run
      staffStart requests s ∧ s.handed.length = 1 ∧ s.users.get? "2" =
        some ⟨"bob", "hash of b", false, by decide⟩ ∧
      ∀ tokens ∈ s.handed, tokens.deactivated = false := by
  have hrun : ((accountSystem Bearer.scheme id checkHash).guard
      (Honours Bearer.scheme id checkHash)).Run staffStart
      [.toggle "2", .commit 0, .authenticate "alice" "a", .login 0 0 0 .ok] _ :=
    .cons ⟨rfl, trivial⟩ (.cons ⟨rfl, fun _ _ => ⟨by simp [staffStart, Accounts.start],
      by simp [staffStart, Accounts.start]⟩⟩
      (.cons ⟨rfl, trivial⟩ (.cons ⟨rfl, trivial⟩ (.nil _))))
  exact ⟨_, _, hrun, by decide, rfl, issued_active hrun⟩

/-- `alice` logs in, is deactivated, and refreshes. -/
def refreshDeactivated : List (Request Bearer) :=
  [.authenticate "alice" "a", .login 0 0 0 .ok, .toggle "1", .commit 0,
    .present .ok second aliceToken, .rotate 0 second second .ok]

/-- She is handed new tokens. -/
theorem refreshDeactivated_issued :
    ¬ ∀ requests s, (accountSystem Bearer.scheme id checkHash).Run staffStart requests s →
      ∀ tokens ∈ s.handed, tokens.deactivated = false := by
  intro h
  have hrun : (Lts.runNext (Accounts.next Bearer.scheme id checkHash) staffStart
      refreshDeactivated).map (fun s => s.handed.map Handed.deactivated) =
      some [false, true] := by decide
  obtain ⟨s, hs, hread⟩ := Lts.exists_run_of_map hrun
  have hmem : true ∈ s.handed.map Handed.deactivated := by
    rw [hread]
    decide
  obtain ⟨tokens, ht, heq⟩ := List.mem_map.1 hmem
  rw [h _ s hs tokens ht] at heq
  cases heq

end

end Auth

end OmsWmsTms
