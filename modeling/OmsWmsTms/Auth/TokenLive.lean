import OmsWmsTms.Auth.TokenStore
import OmsWmsTms.Lts.Basic

/-!
# What `lookup` finds

A token is stored in Redis while Redis is trusted, and in memory after its first failure; `lookup`
then reads memory only, so that the tokens in Redis are lost to it for good, whether Redis recovers
or not.  `cleanup_expired_tokens` empties the memory, whatever the age of the tokens in it.

* `Op`, `Live.next`, `liveSystem` : runs of calls on one store, with a clock that does not go back.
* `Mark` : what the calls so far say about a token.
* `found`, `found_after` : what `lookup` finds when Redis answers, and what a call does to it.
* `AllFound`, `Finds` : the marks are what `lookup` finds.
* `Harmless` : no live token is lost with Redis, with the memory, or to a token with its key.
* `finds_iff` : the runs of right lookups are those of harmless calls.
-/

namespace OmsWmsTms

namespace Auth

open TokenStore

/-! ### Runs -/

/-- A call on the store. -/
inductive Op (Token : Type*)
  | store (reply : Reply) (token : Token) (username : String)
  | lookup (reply : Reply) (token : Token)
  | pop (reply : Reply) (token : Token)
  | revoke (reply : Reply) (token : Token)
  | cleanup

/-- What the calls so far say about a token. -/
inductive Mark
  /-- It was stored with a username, and not removed since; it is young until a time. -/
  | live (username : String) (expires : ℤ)
  /-- It was popped or revoked, and not stored since. -/
  | removed
deriving DecidableEq

/-- A store, with what has been done to it. -/
structure Live (Token Key : Type*) where
  store : TokenStore Token Key
  /-- The time of the last call. -/
  clock : ℤ
  marks : Dict Token Mark := .empty

section

variable {Token Key : Type*}

/-- The method that is called. -/
def Op.method (now : ℤ) : Op Token → Method Token
  | .store reply token username => .store reply now token username
  | .lookup reply token => .lookup reply now token
  | .pop reply token => .pop reply now token
  | .revoke reply token => .revoke reply token
  | .cleanup => .cleanupExpiredTokens

/-- The token that a call stores or removes. -/
def Op.token? : Op Token → Option Token
  | .store _ token _ | .pop _ token | .revoke _ token => some token
  | .lookup _ _ | .cleanup => none

/-- What the store has for that token from then on. -/
def Op.username? : Op Token → Option String
  | .store _ _ username => some username
  | _ => none

/-- What a call says about that token. -/
def Op.mark (now : ℤ) : Op Token → Mark
  | .store _ _ username => .live username (now + refreshTokenTtl)
  | _ => .removed

/-- Redis answers a call, if it is asked. -/
def Op.answered : Op Token → Bool
  | .store reply _ _ | .lookup reply _ | .pop reply _ | .revoke reply _ => reply = .ok
  | .cleanup => true

variable [DecidableEq Token] [DecidableEq Key] (key : Token → Key)

/-- A call at a time. -/
def Live.next (s : Live Token Key) (call : ℤ × Op Token) : Option (Live Token Key) :=
  let (now, op) := call
  if s.clock ≤ now then some {
    store := s.store.after key (op.method now)
    clock := now
    marks := match op.token? with
      | some token => s.marks.set token (op.mark now)
      | none => s.marks }
  else none

/-- The runs of calls. -/
def liveSystem : Lts (Live Token Key) (ℤ × Op Token) := Lts.ofNext (Live.next key)

/-- A process that has just started. -/
def Live.init (redis : Keyspace Key String) (clock : ℤ) : Live Token Key where
  store := { redis := redis }
  clock := clock

/-! ### What is found -/

/-- What `lookup` finds when Redis answers. -/
def found (s : TokenStore Token Key) (now : ℤ) (token : Token) : Option String :=
  (s.lookup key .ok now token).1

/-- `lookup` returns what the calls so far say about a token. -/
def Agrees (mark : Mark) (now : ℤ) (answer : Option String) : Prop :=
  match mark with
  | .live username expires => now < expires → answer = some username
  | .removed => answer = none

/-- From now on, a live token is found as long as it is young, and a removed one is not found. -/
def AllFound (s : Live Token Key) : Prop :=
  ∀ token mark, s.marks.get? token = some mark → ∀ now, s.clock ≤ now →
    Agrees mark now (found key s.store now token)

/-- The lookups are right: the one that a step performs, if any, and those that follow it. -/
def Finds (s : Live Token Key) (call : ℤ × Op Token) (s' : Live Token Key) : Prop :=
  AllFound key s' ∧ ∀ reply token mark, call.2 = .lookup reply token →
    s.marks.get? token = some mark → Agrees mark call.1 (s.store.lookup key reply call.1 token).1

/-- The part of the store in which a call looks does not tell two tokens apart. -/
def Alike (s : TokenStore Token Key) (op : Op Token) (token token' : Token) : Prop :=
  if s.redisOk && op.answered then key token = key token' else token = token'

/-- A call after which the part in use is a new one, or empty. -/
def Loses (s : TokenStore Token Key) (op : Op Token) : Prop :=
  (s.redisOk = true ∧ op.answered = false) ∨ (s.redisOk = false ∧ op = .cleanup)

variable {key} {s : TokenStore Token Key} {op : Op Token} {token token' : Token} {now now' : ℤ}

omit [DecidableEq Token] [DecidableEq Key] in
theorem alike_refl (s : TokenStore Token Key) (op : Op Token) (token : Token) :
    Alike key s op token token := by
  unfold Alike
  split_ifs <;> rfl

theorem found_eq (h : s.Optimistic) : found key s now token =
    if s.redisOk then s.redis.get now (key token) else s.memory.get? token := by
  unfold found lookup
  split_ifs with hok
  · simp [h hok token]
  · rfl

/-- What is found of the token that a call stores or removes. -/
theorem found_after_of_alike (h : s.Optimistic) (hnow : now ≤ now')
    (htoken : op.token? = some token)
    (halike : Alike key s op token token')
    (hyoung : op.username? ≠ none → now' < now + refreshTokenTtl) :
    found key (s.after key (op.method now)) now' token' = op.username? := by
  rw [found_eq (h.after _)]
  unfold Alike at halike
  cases hok : s.redisOk with
  | true =>
    have hmemory := h hok
    simp only [hok, Bool.true_and] at halike
    cases op with
    | store reply t username =>
      cases htoken
      have hlt := hyoung (by simp [Op.username?])
      cases reply <;> simp_all [Op.method, after, store, Op.username?, Op.answered]
    | pop reply t =>
      cases htoken
      cases reply <;> simp_all [Op.method, after, pop, popMemory, Op.username?, Op.answered,
        Keyspace.get_getDel]
    | revoke reply t =>
      cases htoken
      cases reply <;> simp_all [Op.method, after, revoke, Op.username?, Op.answered]
    | lookup | cleanup => cases htoken
  | false =>
    simp only [hok, Bool.false_and, Bool.false_eq_true, if_false] at halike
    subst halike
    cases op with
    | store reply t username => cases htoken; simp [Op.method, after, store, Op.username?, hok]
    | pop reply t => cases htoken; simp [Op.method, after, pop, popMemory, Op.username?, hok]
    | revoke reply t => cases htoken; simp [Op.method, after, revoke, Op.username?, hok]
    | lookup | cleanup => cases htoken

/-- The other tokens are found as before, as long as the part in use stays. -/
theorem found_after_of_not_alike (h : s.Optimistic) (hnow : now ≤ now') (hloses : ¬ Loses s op)
    (hother : ∀ token, op.token? = some token → ¬ Alike key s op token token') :
    found key (s.after key (op.method now)) now' token' = found key s now' token' := by
  rw [found_eq (h.after _), found_eq h]
  unfold Alike at hother
  unfold Loses at hloses
  cases hok : s.redisOk with
  | true =>
    have hanswered : op.answered = true := by
      by_contra hnot
      exact hloses (.inl ⟨hok, Bool.eq_false_iff.2 hnot⟩)
    simp only [hok, hanswered, Bool.true_and, if_true] at hother
    cases op with
    | store reply t username =>
      have hkey := hother t rfl
      simp_all [Op.method, after, store, Op.answered]
    | pop reply t =>
      have hkey := hother t rfl
      simp_all [Op.method, after, pop, Op.answered, Keyspace.get_getDel]
    | revoke reply t =>
      have hkey := hother t rfl
      simp_all [Op.method, after, revoke, Op.answered]
    | lookup reply t => simp_all [Op.method, after, lookup, Op.answered]
    | cleanup => simp [Op.method, after, cleanupExpiredTokens, hok]
  | false =>
    simp only [hok, Bool.false_and, Bool.false_eq_true, if_false] at hother
    cases op with
    | store reply t username =>
      have ht := hother t rfl
      simp [Op.method, after, store, hok, ht]
    | pop reply t =>
      have ht := hother t rfl
      simp [Op.method, after, pop, popMemory, hok, ht]
    | revoke reply t =>
      have ht := hother t rfl
      simp [Op.method, after, revoke, hok, ht]
    | lookup reply t => simp [Op.method, after, lookup, hok]
    | cleanup => exact absurd (.inr ⟨hok, rfl⟩) hloses

/-- None of them is found when it does not. -/
theorem found_after_of_loses (h : s.Optimistic) (hloses : Loses s op)
    (hother : op.token? ≠ some token') :
    found key (s.after key (op.method now)) now' token' = none := by
  rw [found_eq (h.after _)]
  rcases hloses with ⟨hok, hanswered⟩ | ⟨hok, rfl⟩
  · have hmemory := h hok
    cases op with
    | store reply t username =>
      have ht : t ≠ token' := fun heq => hother (congrArg some heq)
      cases reply <;> simp_all [Op.method, after, store, Op.answered]
    | pop reply t => cases reply <;> simp_all [Op.method, after, pop, popMemory, Op.answered]
    | revoke reply t => cases reply <;> simp_all [Op.method, after, revoke, Op.answered]
    | lookup reply t => cases reply <;> simp_all [Op.method, after, lookup, Op.answered]
    | cleanup => cases hanswered
  · simp [Op.method, after, cleanupExpiredTokens, hok]

/-! ### Harmless calls -/

variable (key) in
/-- No token that is still to be found is lost with a call, and its own token is not taken for
another one. -/
structure Harmless (s : Live Token Key) (call : ℤ × Op Token) : Prop where
  /-- When Redis fails, or the memory is cleared, no other token is young and live. -/
  kept : Loses s.store call.2 → ∀ token username expires, call.2.token? ≠ some token →
    s.marks.get? token = some (.live username expires) → expires ≤ call.1
  /-- Another token with the key of the token of the call has nothing to lose. -/
  apart : ∀ token token' mark, call.2.token? = some token → token ≠ token' →
    Alike key s.store call.2 token token' → s.marks.get? token' = some mark →
    Agrees mark call.1 call.2.username?

variable (key) in
/-- The store, its clock and its marks agree. -/
structure Live.Good (s : Live Token Key) : Prop where
  optimistic : s.store.Optimistic
  allFound : AllFound key s
  /-- No token was stored in the future. -/
  expires : ∀ token username expires, s.marks.get? token = some (.live username expires) →
    expires ≤ s.clock + refreshTokenTtl

theorem Live.good_init (redis : Keyspace Key String) (clock : ℤ) :
    (Live.init redis clock : Live Token Key).Good key where
  optimistic _ _ := rfl
  allFound _ _ h := by cases h
  expires _ _ _ h := by cases h

theorem Agrees.mono {mark : Mark} {answer : Option String} (h : Agrees mark now answer)
    (hnow : now ≤ now') : Agrees mark now' answer := by
  cases mark with
  | live username expires => exact fun hlt => h (hnow.trans_lt hlt)
  | removed => exact h

variable {st st' : Live Token Key}

theorem Live.next_eq_some (h : st.next key (now, op) = some st') :
    st.clock ≤ now ∧ st'.clock = now ∧ st'.store = st.store.after key (op.method now) ∧
      ∀ token, st'.marks.get? token =
        if op.token? = some token then some (op.mark now) else st.marks.get? token := by
  simp only [Live.next] at h
  split_ifs at h with hclock
  cases h
  refine ⟨hclock, rfl, rfl, fun token => ?_⟩
  cases op.token? with
  | none => simp
  | some t => simp

/-- A harmless call keeps the marks right. -/
theorem Live.Good.allFound_next (h : st.Good key) (hnext : st.next key (now, op) = some st')
    (hharmless : Harmless key st (now, op)) : AllFound key st' := by
  obtain ⟨hclock, hclock', hstore, hmarks⟩ := Live.next_eq_some hnext
  intro token mark hmark now' hnow'
  rw [hclock'] at hnow'
  rw [hmarks] at hmark
  rw [hstore]
  split_ifs at hmark with htoken
  · -- the token of the call
    cases hmark
    cases op with
    | store reply t username =>
      exact fun hyoung => found_after_of_alike h.optimistic hnow' htoken
        (alike_refl _ _ _) fun _ => hyoung
    | pop reply t =>
      exact found_after_of_alike h.optimistic hnow' htoken
        (alike_refl _ _ _) (by simp [Op.username?])
    | revoke reply t =>
      exact found_after_of_alike h.optimistic hnow' htoken
        (alike_refl _ _ _) (by simp [Op.username?])
    | lookup | cleanup => cases htoken
  · by_cases halike : ∃ t, op.token? = some t ∧ Alike key st.store op t token
    · -- a token that shares its key
      obtain ⟨t, ht, halike⟩ := halike
      have hne : t ≠ token := fun heq => htoken (heq ▸ ht)
      have hagrees := (hharmless.apart t token mark ht hne halike hmark).mono hnow'
      cases mark with
      | live username expires =>
        intro hlt
        have hbound := h.expires token username expires hmark
        rw [found_after_of_alike h.optimistic hnow' ht halike fun _ => by omega]
        exact hagrees hlt
      | removed =>
        have hnone : op.username? = none := hagrees
        rw [found_after_of_alike h.optimistic hnow' ht halike fun hsome => absurd hnone hsome]
        exact hnone
    · have hother : ∀ t, op.token? = some t → ¬ Alike key st.store op t token :=
        fun t ht hal => halike ⟨t, ht, hal⟩
      by_cases hloses : Loses st.store op
      · rw [found_after_of_loses h.optimistic hloses htoken]
        cases mark with
        | live username expires =>
          have hold := hharmless.kept hloses token username expires htoken hmark
          exact fun hlt => absurd (hold.trans hnow') (not_le.2 hlt)
        | removed => rfl
      · rw [found_after_of_not_alike h.optimistic hnow' hloses hother]
        exact h.allFound token mark hmark now' (hclock.trans hnow')

theorem Live.Good.next (h : st.Good key) (hnext : st.next key (now, op) = some st')
    (hharmless : Harmless key st (now, op)) : st'.Good key where
  optimistic := by
    rw [(Live.next_eq_some hnext).2.2.1]
    exact h.optimistic.after _
  allFound := h.allFound_next hnext hharmless
  expires token username expires hmark := by
    obtain ⟨hclock, hclock', -, hmarks⟩ := Live.next_eq_some hnext
    rw [hmarks] at hmark
    rw [hclock']
    split_ifs at hmark with htoken
    · cases op with
      | store reply t u =>
        cases hmark
        exact le_rfl
      | pop | revoke => cases hmark
      | lookup | cleanup => cases htoken
    · have hold := h.expires token username expires hmark
      omega

/-- The lookup of a step is right when the step is harmless. -/
theorem Live.Good.lookup (h : st.Good key) {reply : Reply} {mark : Mark}
    (hclock : st.clock ≤ now) (hharmless : Harmless key st (now, .lookup reply token))
    (hmark : st.marks.get? token = some mark) :
    Agrees mark now (st.store.lookup key reply now token).1 := by
  by_cases hloses : Loses st.store (.lookup reply token)
  · rcases id hloses with ⟨hok, hanswered⟩ | ⟨-, heq⟩
    · have hnone : (st.store.lookup key reply now token).1 = none := by
        cases reply <;> simp_all [TokenStore.lookup, Op.answered, h.optimistic hok token]
      rw [hnone]
      cases mark with
      | live username expires =>
        have hold := hharmless.kept hloses token username expires (by simp [Op.token?]) hmark
        exact fun hlt => absurd hold (not_le.2 hlt)
      | removed => rfl
    · cases heq
  · have hsame : (st.store.lookup key reply now token).1 = found key st.store now token := by
      unfold found
      cases hok : st.store.redisOk with
      | true =>
        cases reply with
        | ok => rfl
        | unsent | unanswered => exact absurd (.inl ⟨hok, rfl⟩) hloses
      | false => simp [TokenStore.lookup, hok]
    rw [hsame]
    exact h.allFound token mark hmark now hclock

/-- A step whose lookups are right is harmless. -/
theorem Live.Good.harmless (h : st.Good key) (hnext : st.next key (now, op) = some st')
    (hfound : AllFound key st') : Harmless key st (now, op) := by
  obtain ⟨hclock, hclock', hstore, hmarks⟩ := Live.next_eq_some hnext
  refine ⟨fun hloses token username expires htoken hmark => ?_,
    fun t token mark ht hne halike hmark => ?_⟩
  · by_contra hlt
    have hagrees := hfound token (.live username expires)
      (by rw [hmarks, if_neg htoken, hmark]) now hclock'.le (not_le.1 hlt)
    rw [hstore, found_after_of_loses h.optimistic hloses htoken] at hagrees
    cases hagrees
  · have htoken : op.token? ≠ some token := fun heq => hne (Option.some.inj (ht.symm.trans heq))
    have hagrees := hfound token mark (by rw [hmarks, if_neg htoken, hmark]) now hclock'.le
    rwa [hstore, found_after_of_alike h.optimistic le_rfl ht halike
      fun _ => lt_add_of_pos_right _ (by decide)] at hagrees

/-- **A live token is always found, and a removed one never**, exactly in the runs of harmless
calls: no live token is lost when Redis fails or the memory is cleared, and none is taken for
another. -/
theorem finds_iff {redis : Keyspace Key String} {clock : ℤ} {calls : List (ℤ × Op Token)} :
    ((liveSystem key).restrict (Finds key)).Run (Live.init redis clock) calls st ↔
      ((liveSystem key).guard (Harmless key)).Run (Live.init redis clock) calls st := by
  refine Lts.Run.restrict_iff_guard (I := Live.Good key)
    (fun s call s' h hstep hharmless => h.next hstep hharmless)
    (fun s call s' h hstep => ⟨fun hfinds => h.harmless hstep hfinds.1, fun hharmless => ?_⟩)
    (Live.good_init redis clock)
  obtain ⟨now, op⟩ := call
  refine ⟨h.allFound_next hstep hharmless, ?_⟩
  rintro reply token mark rfl hmark
  exact h.lookup (Live.next_eq_some hstep).1 hharmless hmark

/-- Two tokens are stored; Redis fails once, in between. -/
def redisBlip : List (ℤ × Op String) :=
  [(0, .store .ok "token of alice" "alice"), (second, .store .unsent "token of bob" "bob")]

/-- The first token is not found any more, although Redis has it, and answers again. -/
theorem redisBlip_not_allFound :
    ¬ ∀ calls s, (liveSystem id).Run (Live.init (.empty : Keyspace String String) 0) calls s →
      AllFound id s := by
  intro h
  have hrun : (Lts.runNext (Live.next id) (Live.init .empty 0) redisBlip).map
      (fun s => (s.clock, s.marks.get? "token of alice",
        found id s.store (2 * second) "token of alice",
        s.store.redis.get (2 * second) "token of alice")) =
      some (second, some (.live "alice" refreshTokenTtl), none, some "alice") := by decide
  obtain ⟨s, hs, hread⟩ := Lts.exists_run_of_map hrun
  obtain ⟨hclock, hread⟩ := Prod.mk.inj hread
  obtain ⟨hmark, hread⟩ := Prod.mk.inj hread
  have hfound := h _ s hs _ _ hmark (2 * second) (by rw [hclock]; decide) (by decide)
  rw [(Prod.mk.inj hread).1] at hfound
  cases hfound

end

end Auth

end OmsWmsTms
