import OmsWmsTms.Core.Clock
import OmsWmsTms.Data.Keyspace

/-!
# The store of refresh tokens

`TokenStore` of `src/auth/token_store.py`, and the task `cleanup_expired_tokens` of
`src/tasks/maintenance.py`.  Redis holds the UTF-8 encoding of a username, and the model the
username.

* `strBytes` : `str` of the bytes that Redis returns.
* `TokenStore`, `pop`, `revoke`, `lookup`, `store`, `cleanupExpiredTokens`.
* `Optimistic` : the memory is empty while Redis is trusted.
* `Gone` : neither part that `pop` can read has the token.
-/

namespace OmsWmsTms

namespace Auth

/-! ### `str` of bytes -/

/-- `s.encode()`. -/
def encodeUtf8 (s : String) : List UInt8 := s.toList.flatMap String.utf8EncodeChar

/-- A byte in the representation of bytes within `quote`. -/
def reprByte (quote : Char) (b : UInt8) : List Char :=
  let c := Char.ofNat b.toNat
  if c = quote ∨ c = '\\' then ['\\', c]
  else if c = '\t' then ['\\', 't']
  else if c = '\n' then ['\\', 'n']
  else if c = '\r' then ['\\', 'r']
  else if b.toNat < 32 ∨ 127 ≤ b.toNat then
    ['\\', 'x', Nat.digitChar (b.toNat / 16), Nat.digitChar (b.toNat % 16)]
  else [c]

/-- The quote of the representation of bytes: a double one only where it saves an escape. -/
def reprQuote (bytes : List UInt8) : Char :=
  if (39 : UInt8) ∈ bytes ∧ (34 : UInt8) ∉ bytes then '\x22' else '\''

/-- `str(raw)`, where `raw` is the encoding of `s`. -/
def strBytes (s : String) : String :=
  let bytes := encodeUtf8 s
  let quote := reprQuote bytes
  String.ofList ('b' :: quote :: bytes.flatMap (reprByte quote) ++ [quote])

theorem one_le_length_reprByte (quote : Char) (b : UInt8) : 1 ≤ (reprByte quote b).length := by
  simp only [reprByte]
  split_ifs <;> simp

theorem length_le_length_flatMap {α β : Type*} {f : α → List β} (hf : ∀ a, 1 ≤ (f a).length)
    (l : List α) : l.length ≤ (l.flatMap f).length := by
  induction l with
  | nil => exact Nat.zero_le _
  | cons a l ih =>
    rw [List.flatMap_cons, List.length_append, List.length_cons]
    have := hf a
    omega

/-- The representation of bytes is longer than the text that they encode. -/
theorem length_lt_length_strBytes (s : String) : s.length < (strBytes s).length := by
  have hbytes : s.toList.length ≤ (encodeUtf8 s).length :=
    length_le_length_flatMap (fun c => by
      rw [String.length_utf8EncodeChar]
      exact Char.utf8Size_pos c) _
  have hrepr := length_le_length_flatMap (one_le_length_reprByte (reprQuote (encodeUtf8 s)))
    (encodeUtf8 s)
  simp only [strBytes, String.length_ofList, List.length_cons, List.length_append,
    List.length_nil]
  rw [String.length_toList] at hbytes
  omega

theorem strBytes_ne (s : String) : strBytes s ≠ s := by
  intro h
  exact absurd (congrArg String.length h) (Nat.ne_of_gt (length_lt_length_strBytes s))

example : strBytes "alice" = "b'alice'" ∧ strBytes "b'alice'" = "b\"b'alice'\"" := by decide

/-! ### The store -/

/-- `REFRESH_TOKEN_TTL`. -/
def refreshTokenTtl : ℤ := 7 * 24 * 3600 * second

/-- The two parts of the store, and the flag that chooses between them. -/
structure TokenStore (Token Key : Type*) where
  /-- The keys on the Redis server. -/
  redis : Keyspace Key String
  /-- `_memory`. -/
  memory : Dict Token String := .empty
  /-- `_redis_ok`. -/
  redisOk : Bool := true

namespace TokenStore

variable {Token Key : Type*} [DecidableEq Token] [DecidableEq Key] (key : Token → Key)

/-- `self._memory.pop(refresh_token, None)`. -/
def popMemory (token : Token) (s : TokenStore Token Key) : Option String × TokenStore Token Key :=
  (s.memory.get? token, { s with memory := s.memory.erase token })

/-- `pop`. -/
def pop (reply : Reply) (now : ℤ) (token : Token) (s : TokenStore Token Key) :
    Option String × TokenStore Token Key :=
  if s.redisOk then
    let (raw, redis) := s.redis.getDel now (key token)
    match reply with
    | .ok => (raw.map strBytes, { s with redis := redis })
    | .unsent => popMemory token { s with redisOk := false }
    | .unanswered => popMemory token { s with redis := redis, redisOk := false }
  else popMemory token s

/-- `revoke`. -/
def revoke (reply : Reply) (token : Token) (s : TokenStore Token Key) : TokenStore Token Key :=
  let s := if s.redisOk then
      match reply with
      | .ok => { s with redis := s.redis.del (key token) }
      | .unsent => { s with redisOk := false }
      | .unanswered => { s with redis := s.redis.del (key token), redisOk := false }
    else s
  { s with memory := s.memory.erase token }

/-- `lookup`. -/
def lookup (reply : Reply) (now : ℤ) (token : Token) (s : TokenStore Token Key) :
    Option String × TokenStore Token Key :=
  if s.redisOk then
    match reply with
    | .ok => ((s.redis.get now (key token)).or (s.memory.get? token), s)
    | .unsent | .unanswered => (s.memory.get? token, { s with redisOk := false })
  else (s.memory.get? token, s)

/-- `store`. -/
def store (reply : Reply) (now : ℤ) (token : Token) (username : String) (s : TokenStore Token Key) :
    TokenStore Token Key :=
  if s.redisOk then
    let redis := s.redis.setEx now (key token) username refreshTokenTtl
    match reply with
    | .ok => { s with redis := redis }
    | .unsent => { s with memory := s.memory.set token username, redisOk := false }
    | .unanswered =>
      { s with redis := redis, memory := s.memory.set token username, redisOk := false }
  else { s with memory := s.memory.set token username }

/-- `cleanup_expired_tokens`. -/
def cleanupExpiredTokens (s : TokenStore Token Key) : TokenStore Token Key :=
  { s with memory := .empty }

/-- A call of a method, or the task. -/
inductive Method (Token : Type*)
  | pop (reply : Reply) (now : ℤ) (token : Token)
  | revoke (reply : Reply) (token : Token)
  | lookup (reply : Reply) (now : ℤ) (token : Token)
  | store (reply : Reply) (now : ℤ) (token : Token) (username : String)
  | cleanupExpiredTokens

/-- The store after a call. -/
def after (s : TokenStore Token Key) : Method Token → TokenStore Token Key
  | .pop reply now token => (s.pop key reply now token).2
  | .revoke reply token => s.revoke key reply token
  | .lookup reply now token => (s.lookup key reply now token).2
  | .store reply now token username => s.store key reply now token username
  | .cleanupExpiredTokens => s.cleanupExpiredTokens

/-- No exception reaches a call from Redis. -/
def Method.Answered : Method Token → Prop
  | .pop reply _ _ | .revoke reply _ | .lookup reply _ _ | .store reply _ _ _ => reply = .ok
  | .cleanupExpiredTokens => True

variable {key} {s : TokenStore Token Key} {reply : Reply} {now : ℤ} {token : Token}

/-! ### What `pop` reads -/

theorem pop_of_redis (h : s.redisOk = true) : s.pop key .ok now token =
    ((s.redis.get now (key token)).map strBytes,
      { s with redis := (s.redis.getDel now (key token)).2 }) := by
  simp only [pop, h, if_true, Keyspace.getDel_fst]

/-- A pop that Redis does not answer. -/
theorem pop_of_memory (h : s.redisOk = true → reply ≠ .ok) :
    (s.pop key reply now token).1 = s.memory.get? token ∧
      (s.pop key reply now token).2.memory = s.memory.erase token ∧
      (s.pop key reply now token).2.redisOk = false := by
  unfold pop
  split_ifs with hok
  · cases reply with
    | ok => exact absurd rfl (h hok)
    | unsent => exact ⟨rfl, rfl, rfl⟩
    | unanswered => exact ⟨rfl, rfl, rfl⟩
  · exact ⟨rfl, rfl, Bool.eq_false_iff.2 hok⟩

/-! ### What a call does to the flag and to the two parts -/

/-- Redis stays trusted as long as it answers. -/
theorem redisOk_after (call : Method Token) :
    (s.after key call).redisOk = true ↔ s.redisOk = true ∧ call.Answered := by
  cases call with
  | pop reply now token =>
    simp only [after, pop, Method.Answered]
    split_ifs with h
    · cases reply <;> simp [h, popMemory]
    · simp [h, popMemory]
  | revoke reply token =>
    simp only [after, revoke, Method.Answered]
    split_ifs with h
    · cases reply <;> simp [h]
    · simp [h]
  | lookup reply now token =>
    simp only [after, lookup, Method.Answered]
    split_ifs with h
    · cases reply <;> simp [h]
    · simp [h]
  | store reply now token username =>
    simp only [after, store, Method.Answered]
    split_ifs with h
    · cases reply <;> simp [h]
    · simp [h]
  | cleanupExpiredTokens => simp [after, cleanupExpiredTokens, Method.Answered]

/-- What is in memory after a call was there before, or has just been stored without Redis. -/
theorem memory_after {call : Method Token} {t : Token} {u : String}
    (h : (s.after key call).memory.get? t = some u) :
    s.memory.get? t = some u ∨
      ∃ reply now, call = .store reply now t u ∧ (s.redisOk = true → reply ≠ .ok) := by
  cases call with
  | pop reply now token =>
    left
    simp only [after, pop] at h
    split_ifs at h
    · cases reply <;> simp_all [popMemory]
    · simp_all [popMemory]
  | revoke reply token =>
    left
    simp only [after, revoke] at h
    split_ifs at h
    · cases reply <;> simp_all
    · simp_all
  | lookup reply now token =>
    left
    simp only [after, lookup] at h
    split_ifs at h
    · cases reply <;> simp_all
    · exact h
  | store reply now token username =>
    simp only [after, store] at h
    have hset : ∀ d : Dict Token String, d = s.memory.set token username → d.get? t = some u →
        s.memory.get? t = some u ∨ token = t ∧ username = u := by
      rintro _ rfl hd
      rw [Dict.get?_set] at hd
      split_ifs at hd with ht
      · exact .inr ⟨ht, Option.some.inj hd⟩
      · exact .inl hd
    split_ifs at h with htrust
    · cases reply with
      | ok => exact .inl h
      | unsent | unanswered =>
        rcases hset _ rfl h with hold | ⟨rfl, rfl⟩
        · exact .inl hold
        · exact .inr ⟨_, now, rfl, fun _ => by simp⟩
    · rcases hset _ rfl h with hold | ⟨rfl, rfl⟩
      · exact .inl hold
      · exact .inr ⟨reply, now, rfl, fun h => absurd h htrust⟩
  | cleanupExpiredTokens => simp [after, cleanupExpiredTokens] at h

/-- What Redis holds after a call it held before, or has just been stored. -/
theorem redis_after {call : Method Token} {k : Key} {u : String} {expires : ℤ}
    (h : (s.after key call).redis.get? k = some (u, expires)) :
    s.redis.get? k = some (u, expires) ∨
      ∃ reply now t, call = .store reply now t u ∧ key t = k ∧ expires = now + refreshTokenTtl ∧
        s.redisOk = true := by
  cases call with
  | pop reply now token =>
    left
    have hdel : (s.redis.getDel now (key token)).2.get? k = some (u, expires) →
        s.redis.get? k = some (u, expires) := by
      rw [Keyspace.get?_getDel]
      split_ifs <;> simp
    simp only [after, pop] at h
    split_ifs at h
    · cases reply with
      | ok => exact hdel h
      | unsent => exact h
      | unanswered => exact hdel h
    · exact h
  | revoke reply token =>
    left
    simp only [after, revoke] at h
    split_ifs at h
    · cases reply <;> simp_all
    · simp_all
  | lookup reply now token =>
    left
    simp only [after, lookup] at h
    split_ifs at h
    · cases reply <;> exact h
    · exact h
  | store reply now token username =>
    simp only [after, store] at h
    have hset : (s.redis.setEx now (key token) username refreshTokenTtl).get? k =
        some (u, expires) → s.redis.get? k = some (u, expires) ∨
          key token = k ∧ username = u ∧ expires = now + refreshTokenTtl := by
      rw [Keyspace.get?_setEx]
      split_ifs with hk
      · rintro ⟨⟩
        exact .inr ⟨hk, rfl, rfl⟩
      · exact .inl
    split_ifs at h with htrust
    · cases reply with
      | unsent => exact .inl h
      | ok | unanswered =>
        rcases hset h with hold | ⟨hk, rfl, hexp⟩
        · exact .inl hold
        · exact .inr ⟨_, now, token, rfl, hk, hexp, htrust⟩
    · exact .inl h
  | cleanupExpiredTokens => exact .inl h

/-! ### While Redis is trusted -/

/-- While Redis is trusted, nothing is in memory. -/
def Optimistic (s : TokenStore Token Key) : Prop :=
  s.redisOk = true → ∀ token, s.memory.get? token = none

theorem Optimistic.after (h : s.Optimistic) (call : Method Token) :
    (s.after key call).Optimistic := by
  intro hok t
  obtain ⟨htrust, hanswered⟩ := (redisOk_after call).1 hok
  refine Option.eq_none_iff_forall_ne_some.2 fun u hu => ?_
  rcases memory_after hu with hold | ⟨reply, now, rfl, hreply⟩
  · rw [h htrust t] at hold
    cases hold
  · exact hreply htrust hanswered

/-! ### Tokens that are gone -/

variable (key) in
/-- Neither part that `pop` can still read has the token. -/
structure Gone (s : TokenStore Token Key) (token : Token) : Prop where
  memory : s.memory.get? token = none
  redis : s.redisOk = true → s.redis.get? (key token) = none

variable (key) in
/-- After `t` is stored, `pop` of `token` finds it: Redis knows a token by its key. -/
def Revives (s : TokenStore Token Key) (reply : Reply) (t token : Token) : Prop :=
  if s.redisOk = true ∧ reply = .ok then key t = key token else t = token

/-- A token that is gone stays gone until it is stored again. -/
theorem Gone.after (h : s.Gone key token) {call : Method Token}
    (hcall : ∀ reply now t u, call = .store reply now t u → ¬ s.Revives key reply t token) :
    (s.after key call).Gone key token where
  memory := by
    refine Option.eq_none_iff_forall_ne_some.2 fun u hu => ?_
    rcases memory_after hu with hold | ⟨reply, now, hstore, hreply⟩
    · rw [h.memory] at hold
      cases hold
    · refine hcall reply now token u hstore ?_
      rw [Revives, if_neg (fun hok => hreply hok.1 hok.2)]
  redis := by
    intro hok
    obtain ⟨htrust, hanswered⟩ := (redisOk_after call).1 hok
    refine Option.eq_none_iff_forall_ne_some.2 fun ⟨u, expires⟩ hu => ?_
    rcases redis_after hu with hold | ⟨reply, now, t, rfl, hk, -⟩
    · rw [h.redis htrust] at hold
      cases hold
    · refine hcall reply now t u rfl ?_
      rwa [Revives, if_pos ⟨htrust, hanswered⟩]

/-- A token whose key is stored is popped. -/
theorem exists_pop_of_revives {t : Token} {u : String} (h : s.Revives key reply t token) :
    ∃ reply', ∀ now', now' < now + refreshTokenTtl →
      ∃ u', ((s.store key reply now t u).pop key reply' now' token).1 = some u' ∧
        (u ≠ "" → u' ≠ "") := by
  unfold Revives at h
  split_ifs at h with hok
  · obtain ⟨htrust, rfl⟩ := hok
    have hflag : (s.store key .ok now t u).redisOk = true :=
      (redisOk_after (.store .ok now t u)).2 ⟨htrust, rfl⟩
    refine ⟨.ok, fun now' hnow => ⟨strBytes u, ?_, fun _ hnil => ?_⟩⟩
    · have hget : (s.store key .ok now t u).redis.get now' (key token) = some u :=
        Keyspace.get_eq_some.2 ⟨now + refreshTokenTtl, by simp [store, htrust, h], hnow⟩
      rw [pop_of_redis hflag, hget]
      rfl
    · have hlong := length_lt_length_strBytes u
      rw [hnil] at hlong
      exact absurd hlong (Nat.not_lt_zero _)
  · subst h
    have hflag : (s.store key reply now t u).redisOk = false := by
      refine Bool.eq_false_iff.2 fun hflag => hok ?_
      exact (redisOk_after (.store reply now t u)).1 hflag
    have hmemory : (s.store key reply now t u).memory.get? t = some u := by
      unfold store
      split_ifs with htrust
      · cases reply with
        | ok => exact absurd ⟨htrust, rfl⟩ hok
        | unsent | unanswered => simp
      · simp
    refine ⟨.ok, fun now' _ => ⟨u, ?_, id⟩⟩
    rw [(pop_of_memory (by simp [hflag])).1, hmemory]

/-- A token that is gone is not popped. -/
theorem Gone.pop_eq_none (h : s.Gone key token) : (s.pop key reply now token).1 = none := by
  by_cases hanswer : s.redisOk = true → reply ≠ .ok
  · rw [(pop_of_memory hanswer).1, h.memory]
  · obtain ⟨htrust, hreply⟩ := Classical.not_imp.1 hanswer
    rw [not_not.1 hreply, pop_of_redis htrust,
      Keyspace.get_eq_none_of_get? (h.redis htrust)]
    rfl

/-- What `pop` has returned is gone. -/
theorem Optimistic.gone_of_pop (h : s.Optimistic) {u : String}
    (hpop : (s.pop key reply now token).1 = some u) :
    (s.pop key reply now token).2.Gone key token := by
  by_cases hanswer : s.redisOk = true → reply ≠ .ok
  · obtain ⟨-, hmemory, hok⟩ : (s.pop key reply now token).1 = _ ∧ _ := pop_of_memory hanswer
    exact ⟨by rw [hmemory]; simp, fun htrust => by simp [hok] at htrust⟩
  · obtain ⟨htrust, hreply⟩ := Classical.not_imp.1 hanswer
    rw [not_not.1 hreply, pop_of_redis htrust] at hpop ⊢
    refine ⟨h htrust token, fun _ => ?_⟩
    obtain ⟨v, hv, -⟩ := Option.map_eq_some_iff.1 hpop
    exact Keyspace.get?_getDel_self (Keyspace.getDel_fst.trans hv)

end TokenStore

end Auth

end OmsWmsTms
