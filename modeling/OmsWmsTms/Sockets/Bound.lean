import OmsWmsTms.Sockets.Coroutines

/-!
# At most three sockets of a user

`ConnectionManager.connect` closes the oldest sockets of a user and awaits each `close` with the
list in its hands.  When the others empty that list meanwhile, it is dropped, and the sockets that
come in are registered in a new one, which `connect` does not look at.

* `State.Registered` : what is to hold at every time.
* `Roomy` : when a `connect` finds its list short, that of its user is.
* `State.Known` : the live sockets are registered, whatever happens.
* `socketSystem_registered_iff` : the runs in which the sockets are registered as they should be.
* `fourSockets_not_registered` : a user with four sockets.
-/

namespace OmsWmsTms

namespace Sockets

/-- A user has at most three sockets, no socket is registered twice, and every socket whose
`connect` has returned and that was neither disconnected nor evicted nor found dead is
registered. -/
structure State.Registered (s : State) : Prop where
  bounded : ∀ key, (s.registry.conns key).length ≤ 3
  nodup : ∀ key, (s.registry.conns key).Nodup
  once : ∀ key key' ws, ws ∈ s.registry.conns key → ws ∈ s.registry.conns key' → key = key'
  live : ∀ key ws, (key, ws) ∈ s.live → ws ∈ s.registry.conns key

/-- A `connect` that goes on after a `close` and finds room in the list it holds has room in the
list that is registered for its user by then. -/
def Roomy (s : State) (action : Action) : Prop :=
  ∀ i key ws a, action = .closed i → s.calls[i]? = some (.connect key ws (.closing a)) →
    (s.registry.heap a).length < 3 → (s.registry.conns key).length < 3

/-- A socket that no `connect` is going to register. -/
def State.Settled (s : State) (ws : Socket) : Prop :=
  ws ∈ s.accepted ∧ ∀ call ∈ s.calls, call.waiting ≠ some ws

/-- The sockets that a call has found dead are not live, and they and the one that it sends to are
not going to be registered. -/
structure SendCall.Known (s : State) (call : SendCall) : Prop where
  stale : ∀ ws ∈ call.stale, s.Settled ws ∧ (call.key, ws) ∉ s.live
  sending : ∀ a ws, call.phase = .sending a ws → s.Settled ws

/-- The live sockets are registered. -/
structure State.Known (s : State) : Prop where
  live : ∀ key ws, (key, ws) ∈ s.live → ws ∈ s.registry.conns key
  calls : ∀ call, .send call ∈ s.calls → call.Known s

section Lists

variable {m : Manager} {r r' : Registry} {key key' : String} {ws : Socket}

theorem Registry.Sound.nodup_conns (hr : r.Sound) (key : String) : (r.conns key).Nodup := by
  unfold Registry.conns
  cases r.active key with
  | none => exact List.nodup_nil
  | some a => exact hr.nodup a

/-- The lists of two keys have no socket in common. -/
theorem Registry.Sound.conns_inj (hr : r.Sound) (hws : ws ∈ r.conns key)
    (hws' : ws ∈ r.conns key') : key = key' := by
  unfold Registry.conns at hws hws'
  cases hkey : r.active key with
  | none => simp [hkey] at hws
  | some a =>
    cases hkey' : r.active key' with
    | none => simp [hkey'] at hws'
    | some b =>
      simp only [hkey, hkey', Option.elim_some] at hws hws'
      obtain rfl := hr.disjoint a b ws hws hws'
      exact hr.inj key key' a hkey hkey'

theorem Registry.Shrinks.conns_length (h : r.Shrinks r') (key : String) :
    (r'.conns key).length ≤ (r.conns key).length := by
  unfold Registry.conns
  cases hkey : r'.active key with
  | none => simp
  | some a =>
    rw [h.active key a hkey]
    exact (h.heap a).length_le

/-- The sockets of a key after the stale ones of a call were disconnected. -/
theorem mem_conns_disconnects (hr : r.Sound) (stale : List Socket) :
    ws ∈ (stale.foldl (fun r ws => r.disconnect m key ws) r).conns key' ↔
      ws ∈ r.conns key' ∧ (key' = key → ws ∉ stale) := by
  induction stale generalizing r with
  | nil => simp
  | cons x stale ih =>
    rw [List.foldl_cons, ih ((Registry.shrinks_disconnect hr).turns hr).sound,
      Registry.conns_disconnect hr]
    by_cases hkey : key' = key
    · simp [hkey, and_assoc]
    · simp [hkey]

end Lists

section Moves

variable {m : Manager} {s s' : State} {action : Action} {i : ℕ} {key : String} {ws : Socket}
  {a : Option ℕ} {accepted : List Socket}

theorem Resumes.not_settled (h : Resumes s action i key ws a accepted) : ¬ s.Settled ws := by
  rintro ⟨hacc, hwaiting⟩
  cases h with
  | accepted _ hnew => exact hnew hacc
  | closed hcall => exact hwaiting _ (List.mem_of_getElem? hcall) rfl

theorem State.Good.settled (h : s.Good) {b : ℕ} (hws : ws ∈ s.registry.heap b) : s.Settled ws := by
  refine ⟨h.accepted b ws hws, fun call hcall hwaiting => ?_⟩
  rcases call with ⟨key, ws', phase⟩ | call
  · cases phase with
    | closing a =>
      obtain rfl := Option.some.inj hwaiting
      exact (h.fine _ hcall a rfl).2.2 b hws
    | accepting => cases hwaiting
    | returned => cases hwaiting
    | aborted => cases hwaiting
  · cases hwaiting

theorem State.Settled.set {call : Call} (h : s.Settled ws) (hcall : call.waiting ≠ some ws) :
    ∀ c ∈ s.calls.set i call, c.waiting ≠ some ws := by
  intro c hc
  rcases List.mem_or_eq_of_mem_set hc with hc | rfl
  · exact h.2 c hc
  · exact hcall

theorem State.Settled.append {call : Call} (h : s.Settled ws) (hcall : call.waiting ≠ some ws) :
    ∀ c ∈ s.calls ++ [call], c.waiting ≠ some ws := by
  intro c hc
  rcases List.mem_append.1 hc with hc | hc
  · exact h.2 c hc
  · rwa [List.mem_singleton.1 hc]

/-- No move brings back a socket that is settled. -/
theorem Move.settled (h : s.Good) (hmove : Move m s action s') (hws : s.Settled ws) :
    s'.Settled ws ∧ ∀ key, (key, ws) ∈ s'.live → (key, ws) ∈ s.live := by
  have hfilter : ∀ (p : String × Socket) (key : String),
      (key, ws) ∈ s.live.filter (· ≠ p) → (key, ws) ∈ s.live :=
    fun p key hlive => (List.mem_filter.1 hlive).1
  have hheard : ∀ {call : SendCall} {w : Socket} {stale : List Socket}
      {live : List (String × Socket)} (key : String), Heard s call w stale live →
      (key, ws) ∈ live → (key, ws) ∈ s.live := by
    rintro call w stale live key (⟨-, rfl⟩ | ⟨-, rfl⟩) hlive
    · exact hlive
    · exact hfilter _ key hlive
  cases hmove with
  | connect => exact ⟨⟨hws.1, hws.append (fun hc => by cases hc)⟩, fun _ hlive => hlive⟩
  | disconnect => exact ⟨hws, hfilter _⟩
  | sendNone => exact ⟨⟨hws.1, hws.append (fun hc => by cases hc)⟩, fun _ hlive => hlive⟩
  | send hkey hvisit => exact ⟨⟨hws.1, hws.append (fun hc => by cases hc)⟩, fun _ hlive => hlive⟩
  | @evict action i a key ws' oldWs accepted rest hresumes hheap hfull =>
    -- the socket of the call that goes on is not settled, so it is another one
    obtain ⟨hsub, -⟩ := h.resumes hresumes
    refine ⟨⟨hsub hws.1, hws.set fun hwaiting => hresumes.not_settled ?_⟩, hfilter _⟩
    obtain rfl := Option.some.inj hwaiting
    exact hws
  | @register action i key ws' a accepted hresumes hroom =>
    obtain ⟨hsub, -⟩ := h.resumes hresumes
    refine ⟨⟨hsub hws.1, hws.set fun hwaiting => by cases hwaiting⟩, fun key' hlive => ?_⟩
    rcases List.mem_append.1 hlive with hlive | hlive
    · exact hlive
    · -- only the socket of the call is new
      obtain ⟨rfl, rfl⟩ := Prod.mk.inj (List.mem_singleton.1 hlive)
      exact absurd hws hresumes.not_settled
  | visit hcall hphase hvisit hheard' =>
    exact ⟨⟨hws.1, hws.set fun hwaiting => by cases hwaiting⟩, fun key => hheard key hheard'⟩
  | returns hcall hphase hvisit hheard' =>
    exact ⟨⟨hws.1, hws.set fun hwaiting => by cases hwaiting⟩, fun key => hheard key hheard'⟩
  | @abort i call hcall =>
    refine ⟨⟨hws.1, hws.set fun hwaiting => ?_⟩, fun _ hlive => hlive⟩
    rw [call.waiting_abort] at hwaiting
    cases hwaiting

/-- What is known of a call stays so. -/
theorem SendCall.Known.move {call : SendCall} (hcall : call.Known s) (h : s.Good)
    (hmove : Move m s action s') : call.Known s' where
  stale ws hws := by
    obtain ⟨hsettled, hlive⟩ := hcall.stale ws hws
    obtain ⟨hsettled', hlive'⟩ := hmove.settled h hsettled
    exact ⟨hsettled', fun hin => hlive (hlive' _ hin)⟩
  sending a ws hphase := (hmove.settled h (hcall.sending a ws hphase)).1

/-- The stale sockets after a `send_text`. -/
theorem SendCall.Known.heard {call : SendCall} {b : ℕ} {stale : List Socket}
    {live : List (String × Socket)} (hcall : call.Known s) (hphase : call.phase = .sending b ws)
    (hheard : Heard s call ws stale live) :
    ∀ w ∈ stale, s.Settled w ∧ (call.key, w) ∉ live := by
  rcases hheard with ⟨rfl, rfl⟩ | ⟨rfl, rfl⟩
  · exact hcall.stale
  · intro w hw
    rcases List.mem_append.1 hw with hw | hw
    · obtain ⟨hsettled, hlive⟩ := hcall.stale w hw
      exact ⟨hsettled, fun hin => hlive (List.mem_filter.1 hin).1⟩
    · obtain rfl := List.mem_singleton.1 hw
      exact ⟨hcall.sending b w hphase, by simp⟩

/-- Every call is known after a move: the new ones, and the one that went on. -/
theorem Move.known_calls (h : s.Good) (hknown : s.Known) (hmove : Move m s action s') :
    ∀ call, .send call ∈ s'.calls → call.Known s' := by
  have hold : ∀ call, .send call ∈ s.calls → call.Known s' :=
    fun call hcall => (hknown.calls call hcall).move h hmove
  -- a socket of a list that a call comes to is settled
  have hvisited : ∀ {b : ℕ} {c c' : Cursor Socket} {w : Socket},
      c.visit (s.registry.heap b) = some (w, c') → s'.Settled w := by
    intro b c c' w hvisit
    obtain ⟨x, hx, heq⟩ := Option.map_eq_some_iff.1 hvisit
    obtain ⟨rfl, -⟩ := Prod.mk.inj heq
    exact (hmove.settled h (h.settled (List.mem_of_getElem? hx))).1
  intro call hcall
  cases hmove with
  | connect =>
    rcases List.mem_append.1 hcall with hcall | hcall
    · exact hold call hcall
    · cases List.mem_singleton.1 hcall
  | disconnect => exact hold call hcall
  | sendNone =>
    rcases List.mem_append.1 hcall with hcall | hcall
    · exact hold call hcall
    · obtain rfl := Call.send.inj (List.mem_singleton.1 hcall)
      exact ⟨fun _ hw => (nomatch hw), fun _ _ hphase => (nomatch hphase)⟩
  | send hkey hvisit =>
    rcases List.mem_append.1 hcall with hcall | hcall
    · exact hold call hcall
    · obtain rfl := Call.send.inj (List.mem_singleton.1 hcall)
      refine ⟨fun _ hw => (nomatch hw), fun b w hphase => ?_⟩
      obtain ⟨rfl, rfl⟩ := SendPhase.sending.inj hphase
      exact hvisited hvisit
  | evict hresumes hheap hfull =>
    rcases List.mem_or_eq_of_mem_set hcall with hcall | hcall
    · exact hold call hcall
    · cases hcall
  | register hresumes hroom =>
    rcases List.mem_or_eq_of_mem_set hcall with hcall | hcall
    · exact hold call hcall
    · cases hcall
  | visit hcall' hphase hvisit hheard =>
    rcases List.mem_or_eq_of_mem_set hcall with hcall | hcall
    · exact hold call hcall
    · obtain rfl := Call.send.inj hcall
      have hknown' := hknown.calls _ (List.mem_of_getElem? hcall')
      refine ⟨fun w hw => ?_, fun b w hphase' => ?_⟩
      · obtain ⟨hsettled, hlive⟩ := hknown'.heard hphase hheard w hw
        exact ⟨⟨hsettled.1, hsettled.set fun hwaiting => by cases hwaiting⟩, hlive⟩
      · obtain ⟨rfl, rfl⟩ := SendPhase.sending.inj hphase'
        exact hvisited hvisit
  | returns hcall' hphase hvisit hheard =>
    rcases List.mem_or_eq_of_mem_set hcall with hcall | hcall
    · exact hold call hcall
    · obtain rfl := Call.send.inj hcall
      have hknown' := hknown.calls _ (List.mem_of_getElem? hcall')
      refine ⟨fun w hw => ?_, fun b w hphase' => (nomatch hphase')⟩
      obtain ⟨hsettled, hlive⟩ := hknown'.heard hphase hheard w hw
      exact ⟨⟨hsettled.1, hsettled.set fun hwaiting => by cases hwaiting⟩, hlive⟩
  | @abort i call' hcall' =>
    rcases List.mem_or_eq_of_mem_set hcall with hcall | hcall
    · exact hold call hcall
    · -- what was known of the call is known of its end
      rcases call' with ⟨key, ws, phase⟩ | call'
      · cases hcall
      · obtain rfl := Call.send.inj hcall
        exact ⟨(hold call' (List.mem_of_getElem? hcall')).stale,
          fun b w hphase => (nomatch hphase)⟩

/-- The live sockets are registered after a move. -/
theorem Move.known_live (h : s.Good) (hknown : s.Known) (hmove : Move m s action s') :
    ∀ key ws, (key, ws) ∈ s'.live → ws ∈ s'.registry.conns key := by
  have hheard : ∀ {call : SendCall} {w : Socket} {stale : List Socket}
      {live : List (String × Socket)} {key : String} {ws : Socket}, Heard s call w stale live →
      (key, ws) ∈ live → ws ∈ s.registry.conns key := by
    rintro call w stale live key ws (⟨-, rfl⟩ | ⟨-, rfl⟩) hlive
    · exact hknown.live key ws hlive
    · exact hknown.live key ws (List.mem_filter.1 hlive).1
  intro key ws hlive
  cases hmove with
  | connect => exact hknown.live key ws hlive
  | @disconnect key' ws' =>
    obtain ⟨hlive, hne⟩ := List.mem_filter.1 hlive
    have hmem := hknown.live key ws hlive
    rw [Registry.conns_disconnect h.sound]
    by_cases hkey : key = key'
    · subst hkey
      rw [if_pos rfl]
      exact List.mem_filter.2 ⟨hmem, by simpa using hne⟩
    · rwa [if_neg hkey]
  | sendNone => exact hknown.live key ws hlive
  | send hkey hvisit => exact hknown.live key ws hlive
  | @evict action i a key' ws' oldWs accepted rest hresumes hheap hfull =>
    obtain ⟨hlive, hne⟩ := List.mem_filter.1 hlive
    have hmem := hknown.live key ws hlive
    rw [Registry.conns_popFirst]
    by_cases hkey : s.registry.active key = some a
    · -- only the list of the user is one that its call can hold
      obtain ⟨-, -, -, hold, -⟩ := h.resumes hresumes
      obtain rfl := (hold a rfl).2 key hkey
      rw [Registry.conns_of_active hkey, hheap] at hmem
      rw [if_pos hkey, Registry.conns_of_active hkey, hheap, List.tail_cons]
      exact (List.mem_cons.1 hmem).resolve_left fun heq => by simp [heq] at hne
    · rwa [if_neg hkey]
  | @register action i key' ws' a accepted hresumes hroom =>
    rw [Registry.conns_register h.sound]
    rcases List.mem_append.1 hlive with hlive | hlive
    · have hmem := hknown.live key ws hlive
      by_cases hkey : key = key'
      · subst hkey
        rw [if_pos rfl]
        exact List.mem_append_left _ hmem
      · rwa [if_neg hkey]
    · obtain ⟨rfl, rfl⟩ := Prod.mk.inj (List.mem_singleton.1 hlive)
      rw [if_pos rfl]
      exact List.mem_append_right _ (List.mem_singleton_self _)
  | visit hcall hphase hvisit hheard' => exact hheard hheard' hlive
  | returns hcall hphase hvisit hheard' =>
    refine (mem_conns_disconnects h.sound _).2 ⟨hheard hheard' hlive, ?_⟩
    -- a stale socket has failed, and is live no more
    rintro rfl hstale
    have hknown' := hknown.calls _ (List.mem_of_getElem? hcall)
    exact (hknown'.heard hphase hheard' ws hstale).2 hlive
  | abort hcall => exact hknown.live key ws hlive

/-- The calls are told of a move. -/
theorem known_next (h : s.Good) (hknown : s.Known) (hnext : s.next m action = some s') :
    s'.Known := by
  obtain ⟨s₁, hmove, rfl⟩ := next_cases h hnext
  have hsettled : ∀ ws, s₁.Settled ws → State.Settled
      { s₁ with calls := s₁.calls.map (Call.observe s.registry s₁.registry) } ws := by
    rintro ws ⟨hacc, hwaiting⟩
    refine ⟨hacc, fun call hcall => ?_⟩
    obtain ⟨c, hc, rfl⟩ := List.mem_map.1 hcall
    simpa using hwaiting c hc
  have hlive := hmove.known_live h hknown
  refine ⟨hlive, fun call hcall => ?_⟩
  obtain ⟨c, hc, hobserve⟩ := List.mem_map.1 hcall
  rcases c with ⟨key, ws, phase⟩ | c
  · cases hobserve
  · obtain ⟨hstale, hsending⟩ := hmove.known_calls h hknown c hc
    -- only its loop is told
    have hsame : call.key = c.key ∧ call.stale = c.stale ∧ call.phase = c.phase := by
      simp only [Call.observe] at hobserve
      split at hobserve <;> obtain rfl := Call.send.inj hobserve <;> exact ⟨rfl, rfl, rfl⟩
    obtain ⟨hkey, hstale', hphase'⟩ := hsame
    refine ⟨fun ws hws => ?_, fun b ws hphase => ?_⟩
    · obtain ⟨hset, hdead⟩ := hstale ws (hstale' ▸ hws)
      exact ⟨hsettled ws hset, hkey ▸ hdead⟩
    · exact hsettled ws (hsending b ws (hphase'.symm.trans hphase))

end Moves

/-! ### The bound -/

section Bounded

variable {s s' : State} {action : Action}

@[simp] theorem connectionManager_full (conns : List Socket) :
    connectionManager.full conns = decide (3 ≤ conns.length) := rfl

theorem roomy_of_ne (h : ∀ i, action ≠ .closed i) : Roomy s action :=
  fun i _ _ _ haction => absurd haction (h i)

/-- A `connect` that registers its socket keeps the bound if there is room for one more. -/
theorem bounded_register {r : Registry} {key : String} {ws : Socket} (hr : r.Sound)
    (hbounded : ∀ key, (r.conns key).length ≤ 3) :
    (∀ key', ((r.register key ws).conns key').length ≤ 3) ↔ (r.conns key).length < 3 := by
  constructor
  · intro h
    have hkey := h key
    rw [Registry.conns_register hr, if_pos rfl, List.length_append, List.length_singleton] at hkey
    omega
  · intro h key'
    rw [Registry.conns_register hr]
    split_ifs
    · rw [List.length_append, List.length_singleton]
      omega
    · exact hbounded key'

/-- **A move keeps the bound** if and only if it is roomy. -/
theorem Move.bounded_iff (h : s.Good) (hbounded : ∀ key, (s.registry.conns key).length ≤ 3)
    (hmove : Move connectionManager s action s') :
    (∀ key, (s'.registry.conns key).length ≤ 3) ↔ Roomy s action := by
  have hshrinks : s.registry.Shrinks s'.registry →
      ∀ key, (s'.registry.conns key).length ≤ 3 :=
    fun hshrinks key => (hshrinks.conns_length key).trans (hbounded key)
  have hrefl := Registry.Shrinks.refl s.registry
  cases hmove with
  | connect => exact iff_of_true hbounded (roomy_of_ne fun _ => Action.noConfusion)
  | disconnect =>
    exact iff_of_true (hshrinks (Registry.shrinks_disconnect h.sound))
      (roomy_of_ne fun _ => Action.noConfusion)
  | sendNone => exact iff_of_true hbounded (roomy_of_ne fun _ => Action.noConfusion)
  | send hkey hvisit => exact iff_of_true hbounded (roomy_of_ne fun _ => Action.noConfusion)
  | @evict action i a key ws oldWs accepted rest hresumes hheap hfull =>
    refine iff_of_true (hshrinks (Registry.shrinks_popFirst _ a)) ?_
    -- the list is not short
    rintro j key' ws' b rfl hcall' hshort
    cases hresumes with
    | closed hcall =>
      cases Option.some.inj (hcall.symm.trans hcall')
      rw [hheap] at hshort
      rw [connectionManager_full, decide_eq_true_iff] at hfull
      omega
  | @register action i key ws a accepted hresumes hroom =>
    refine (bounded_register h.sound hbounded).trans ?_
    have hshort : (a.elim [] s.registry.heap).length < 3 := by
      by_cases hempty : a.elim [] s.registry.heap = []
      · simp [hempty]
      · simpa using hroom hempty
    cases hresumes with
    | accepted hcall hnew => exact iff_of_true hshort (roomy_of_ne fun _ => Action.noConfusion)
    | @closed i key ws a hcall =>
      constructor
      · rintro hlen j key' ws' b haction hcall' -
        obtain rfl := Action.closed.inj haction
        cases Option.some.inj (hcall.symm.trans hcall')
        exact hlen
      · intro hroomy
        exact hroomy i key ws a rfl hcall hshort
  | visit hcall hphase hvisit hheard =>
    exact iff_of_true hbounded (roomy_of_ne fun _ => Action.noConfusion)
  | returns hcall hphase hvisit hheard =>
    exact iff_of_true (hshrinks (disconnects_shrink h.sound _ _))
      (roomy_of_ne fun _ => Action.noConfusion)
  | abort hcall => exact iff_of_true hbounded (roomy_of_ne fun _ => Action.noConfusion)

end Bounded

/-- **The sockets are registered as they should be** in exactly the runs in which every `connect`
that finds room in the list it holds has room in the list of its user. -/
theorem socketSystem_registered_iff {actions : List Action} {s : State} :
    ((socketSystem connectionManager).restrict fun _ _ s' => s'.Registered).Run {} actions s ↔
      ((socketSystem connectionManager).guard Roomy).Run {} actions s := by
  have hiff : ∀ (s : State) (action : Action) (s' : State), s.Good →
      (∀ key, (s.registry.conns key).length ≤ 3) →
      (socketSystem connectionManager).step s action s' →
      ((∀ key, (s'.registry.conns key).length ≤ 3) ↔ Roomy s action) := by
    intro s action s' hgood hbounded hnext
    obtain ⟨s₁, hmove, rfl⟩ := next_cases hgood hnext
    have hmoved := hmove.bounded_iff hgood hbounded
    exact hmoved
  refine Lts.Run.restrict_iff_guard
    (I := fun s => s.Good ∧ s.Known ∧ ∀ key, (s.registry.conns key).length ≤ 3)
    (fun s action s' h hnext hroomy => ?_) (fun s action s' h hnext => ?_)
    ⟨good_empty, ⟨fun _ _ h => (nomatch h), fun _ h => (nomatch h)⟩, fun _ => Nat.zero_le 3⟩
  · obtain ⟨hgood, hknown, hbounded⟩ := h
    exact ⟨good_next hgood hnext, known_next hgood hknown hnext,
      (hiff s action s' hgood hbounded hnext).2 hroomy⟩
  · obtain ⟨hgood, hknown, hbounded⟩ := h
    have hgood' := good_next hgood hnext
    rw [← hiff s action s' hgood hbounded hnext]
    exact ⟨fun hreg => hreg.bounded, fun hbounded' => ⟨hbounded', hgood'.sound.nodup_conns,
      fun _ _ _ => hgood'.sound.conns_inj, (known_next hgood hknown hnext).live⟩⟩

/-- Three sockets of a user are registered, and a fourth closes the first.  During this the other
two leave and three come in, before the fourth is registered. -/
def fourSockets : List Action :=
  [.connect "u" 1, .accepted 0, .connect "u" 2, .accepted 1, .connect "u" 3, .accepted 2,
    .connect "u" 4, .accepted 3, .disconnect "u" 2, .disconnect "u" 3, .connect "u" 5, .accepted 4,
    .connect "u" 6, .accepted 5, .connect "u" 7, .accepted 6, .closed 3]

/-- **A user has four sockets.** -/
theorem fourSockets_not_registered : ¬ ∀ actions s,
    (socketSystem connectionManager).Run {} actions s → s.Registered := by
  intro h
  have hread : (Lts.runNext (State.next connectionManager) {} fourSockets).map
      (fun s => s.registry.conns "u") = some [5, 6, 7, 4] := by decide +kernel
  obtain ⟨s, hs, hread⟩ := Lts.exists_run_of_map hread
  have hbounded := (h _ s hs).bounded "u"
  rw [hread] at hbounded
  exact absurd hbounded (by decide)

end Sockets

end OmsWmsTms
