import OmsWmsTms.Auth.Service

/-!
# Refresh tokens are used once

A token is a function of its claims, and its expiry is in whole seconds: a user who logs in, or
refreshes without Redis, twice in a second is handed the same string twice.  If that string has been
used in between, it is stored again.

* `SingleUse` : the tokens with which a refresh has succeeded are refused.
* `Reissues`, `NeverReissued` : what a step signs is a token that has been used.
* `singleUse_iff` : the runs through such states are those that never reissue a used token.
-/

namespace OmsWmsTms

namespace Auth

variable {Token Key : Type*} [DecidableEq Token] [DecidableEq Key] (jwt : Jwt Token)
  (key : Token → Key)

/-- No call of `refresh_tokens` succeeds with a token with which one has succeeded before. -/
def SingleUse (s : State Token Key) : Prop :=
  ∀ token ∈ s.spent, ∀ reply now, (popUsername jwt key reply now token s.store).1 = none

/-- A token that is signed is one that has been used, as far as the store can tell. -/
def Reissues (s : State Token Key) (signing : Signing) : Prop :=
  ∃ token ∈ s.spent, s.store.Revives key signing.reply
    (createRefreshToken jwt signing.data signing.now) token

/-- A step does not hand out a refresh token that has been used. -/
def NeverReissued (s : State Token Key) (l : Label Token) : Prop :=
  ∀ signing, s.signing? l = some signing → ¬ Reissues jwt key s signing

/-- The used tokens are in neither part of the store. -/
structure Refused (s : State Token Key) : Prop where
  optimistic : s.store.Optimistic
  gone : ∀ token ∈ s.spent, s.store.Gone key token
  signed : ∀ token ∈ s.spent, ∃ claims, jwt.payload? token = some claims

variable {jwt key} {s s' : State Token Key} {l : Label Token}

theorem refused_init (redis : Keyspace Key String) :
    Refused jwt key (init redis : State Token Key) where
  optimistic _ _ := rfl
  gone _ h := by cases h
  signed _ h := by cases h

theorem Refused.singleUse (h : Refused jwt key s) : SingleUse jwt key s :=
  fun token ht _ _ => popUsername_eq_none (h.gone token ht).pop_eq_none

/-- A step keeps the used tokens out of the store, unless it hands one out again. -/
theorem Refused.next (h : Refused jwt key s) (hnext : s.next jwt key l = some s')
    (hnew : NeverReissued jwt key s l) : Refused jwt key s' := by
  rcases State.next_cases hnext with
    ⟨signing, origin, t, rest, hsigning, -, -, rfl⟩ |
    ⟨reply, now, token, data, rfl, hdata, rfl⟩ |
    ⟨-, store, rfl, rfl | ⟨call, rfl, hcall⟩⟩
  · refine ⟨?_, fun token ht => ?_, h.signed⟩
    · rw [State.issue_store]
      exact h.optimistic.after _
    · rw [State.issue_store]
      refine (h.gone token ht).after ?_
      rintro reply now t u ⟨⟩ hrevives
      exact hnew signing hsigning ⟨token, ht, hrevives⟩
  · obtain ⟨payload, hdecode, hpop, -⟩ := popUsername_eq_some hdata
    refine ⟨h.optimistic.after _, fun t ht => ?_, fun t ht => ?_⟩
    · rcases List.mem_append.1 ht with hold | hself
      · show (s.store.after key (.pop reply now token)).Gone key t
        refine (h.gone t hold).after ?_
        rintro reply' now' t' u ⟨⟩
      · rw [List.mem_singleton.1 hself]
        exact h.optimistic.gone_of_pop hpop
    · rcases List.mem_append.1 ht with hold | hself
      · exact h.signed t hold
      · rw [List.mem_singleton.1 hself]
        exact ⟨payload, (decodeToken_eq_ok.1 hdecode).1⟩
  · exact h
  · exact ⟨h.optimistic.after _,
      fun token ht => (h.gone token ht).after fun reply now t u heq => absurd heq (hcall _ _ _ _),
      h.signed⟩

/-- A used token that is handed out again can be used again. -/
theorem Refused.not_singleUse (h : Refused jwt key s) (hnext : s.next jwt key l = some s')
    {signing : Signing} (hsigning : s.signing? l = some signing)
    (hre : Reissues jwt key s signing) : ¬ SingleUse jwt key s' := by
  intro hsingle
  obtain ⟨token, ht, hrevives⟩ := hre
  rcases State.next_cases hnext with
    ⟨signing', origin, t, rest, hsigning', -, -, rfl⟩ |
    ⟨reply, now, token, data, rfl, -, -⟩ | ⟨hnone, -⟩
  · rw [hsigning] at hsigning'
    cases hsigning'
    obtain ⟨claims, hclaims⟩ := h.signed token ht
    obtain ⟨reply, hpop⟩ := TokenStore.exists_pop_of_revives hrevives
    -- a moment at which neither the token nor its entry in Redis has expired
    have hlive : min (claims.exp * second) signing.now < signing.now + refreshTokenTtl :=
      lt_of_le_of_lt (min_le_right _ _) (lt_add_of_pos_right _ (by decide))
    obtain ⟨u, hu, hne⟩ := hpop _ hlive
    have hdecode : decodeToken jwt (min (claims.exp * second) signing.now) token = .ok claims := by
      refine decodeToken_eq_ok.2 ⟨hclaims, ?_⟩
      calc min (claims.exp * second) signing.now / second
          ≤ claims.exp * second / second := Int.ediv_le_ediv (by decide) (min_le_left _ _)
        _ = claims.exp := Int.mul_ediv_cancel _ (by decide)
    exact popUsername_ne_none hdecode hu (hne signing.data.sub_ne) (hsingle token ht reply _)
  · cases hsigning
  · rw [hsigning] at hnone
    cases hnone

/-- **Refresh tokens are used once** exactly in the runs in which no step hands out a refresh token
with which a refresh has already succeeded. -/
theorem singleUse_iff {redis : Keyspace Key String} {ls : List (Label Token)} :
    ((tokenSystem jwt key).restrict fun _ _ s' => SingleUse jwt key s').Run (init redis) ls s ↔
      ((tokenSystem jwt key).guard (NeverReissued jwt key)).Run (init redis) ls s := by
  refine Lts.Run.restrict_iff_guard (I := Refused jwt key)
    (fun s l s' h hstep hnew => h.next hstep hnew) (fun s l s' h hstep => ⟨?_, ?_⟩)
    (refused_init redis)
  · exact fun hsingle signing hsigning hre => h.not_singleUse hstep hsigning hre hsingle
  · exact fun hnew => (h.next hstep hnew).singleUse

/-- `alice` logs in, refreshes, and logs in again in the same second. -/
def loginTwice : List (Label Bearer) :=
  [.create alice 0 0 .ok, .present .ok 200000 aliceToken, .create alice 400000 400000 .ok]

/-- Her token has been used, and is accepted again. -/
theorem loginTwice_not_singleUse :
    ¬ ∀ ls s, (tokenSystem Bearer.scheme id).Run (init (.empty : Keyspace Bearer String)) ls s →
      SingleUse Bearer.scheme id s := by
  intro h
  have hrun : (Lts.runNext (State.next Bearer.scheme id) (init .empty) loginTwice).map
      (fun s => (s.spent,
        (popUsername Bearer.scheme id .ok 600000 aliceToken s.store).1.isSome)) =
      some ([aliceToken], true) := by decide
  obtain ⟨s, hs, hread⟩ := Lts.exists_run_of_map hrun
  obtain ⟨hspent, hagain⟩ := Prod.mk.inj hread
  have hnone := h _ s hs aliceToken (by rw [hspent]; exact List.mem_singleton_self _) .ok 600000
  simp [hnone] at hagain

end Auth

end OmsWmsTms
