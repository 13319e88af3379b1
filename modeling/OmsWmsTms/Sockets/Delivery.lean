import OmsWmsTms.Sockets.Coroutines

/-!
# Sending to the sockets that stay

`send_to_user` and `send_to_device` await a `send_text` in each step of a loop over the list of
sockets itself.  A socket that is taken out of the list before the loop's position moves those
after it one place down, and the next one is not sent to.

* `State.Served` : what is to hold at every time.
* `Unovertaken` : a loop that ends was overtaken by none that stayed.
* `socketSystem_served_iff` : the runs in which everyone is served.
* `skipped_not_served` : a socket that stays and is not sent the message.
-/

namespace OmsWmsTms

namespace Sockets

/-- Every call that has returned has sent its message once to each socket that was registered from
before it until its end. -/
def State.Served (s : State) : Prop :=
  ∀ call, .send call ∈ s.calls → call.phase = .returned →
    ∀ ws ∈ call.cursor.stayed, call.cursor.visited.count ws = 1

/-- When a loop ends, no socket that has stayed has moved from its position or after it to a place
before it. -/
def Unovertaken (s : State) (action : Action) : Prop :=
  ∀ i ok call a ws, action = .sentText i ok → s.calls[i]? = some (.send call) →
    call.phase = .sending a ws → call.cursor.visit (s.registry.heap a) = none →
    ∀ w ∈ call.cursor.stayed, w ∉ call.cursor.overtaken

variable {m : Manager} {s s' : State} {action : Action}

theorem unovertaken_of_ne (h : ∀ i ok, action ≠ .sentText i ok) : Unovertaken s action :=
  fun i ok _ _ _ haction => absurd haction (h i ok)

theorem Resumes.unovertaken {i : ℕ} {key : String} {ws : Socket} {a : Option ℕ}
    {accepted : List Socket} (h : Resumes s action i key ws a accepted) :
    Unovertaken s action := by
  cases h <;> exact unovertaken_of_ne fun _ _ => Action.noConfusion

theorem State.Served.set {i : ℕ} {call : Call} (h : s.Served)
    (hcall : ∀ c, call = .send c → c.phase ≠ .returned) :
    ∀ c, .send c ∈ s.calls.set i call → c.phase = .returned →
      ∀ ws ∈ c.cursor.stayed, c.cursor.visited.count ws = 1 := by
  intro c hc hphase
  rcases List.mem_or_eq_of_mem_set hc with hc | hc
  · exact h c hc hphase
  · exact absurd hphase (hcall c hc.symm)

theorem State.Served.append {call : Call} (h : s.Served)
    (hcall : ∀ c, call = .send c → c.phase = .returned → c.cursor.stayed = []) :
    ∀ c, .send c ∈ s.calls ++ [call] → c.phase = .returned →
      ∀ ws ∈ c.cursor.stayed, c.cursor.visited.count ws = 1 := by
  intro c hc hphase ws hws
  rcases List.mem_append.1 hc with hc | hc
  · exact h c hc hphase ws hws
  · rw [hcall c (List.mem_singleton.1 hc).symm hphase] at hws
    cases hws

/-- **A move serves everyone** if and only if it ends no loop that was overtaken. -/
theorem Move.served_iff (h : s.Good) (hserved : s.Served) (hmove : Move m s action s') :
    s'.Served ↔ Unovertaken s action := by
  cases hmove with
  | connect =>
    exact iff_of_true (hserved.append fun c hc => by cases hc)
      (unovertaken_of_ne fun _ _ => Action.noConfusion)
  | disconnect => exact iff_of_true hserved (unovertaken_of_ne fun _ _ => Action.noConfusion)
  | sendNone =>
    refine iff_of_true (hserved.append fun c hc _ => ?_)
      (unovertaken_of_ne fun _ _ => Action.noConfusion)
    obtain rfl := Call.send.inj hc
    rfl
  | send hkey hvisit =>
    refine iff_of_true (hserved.append fun c hc hphase => ?_)
      (unovertaken_of_ne fun _ _ => Action.noConfusion)
    obtain rfl := Call.send.inj hc
    cases hphase
  | evict hresumes hheap hfull =>
    exact iff_of_true (hserved.set fun c hc => by cases hc) hresumes.unovertaken
  | register hresumes hroom =>
    exact iff_of_true (hserved.set fun c hc => by cases hc) hresumes.unovertaken
  | @visit i a ok call ws ws' cursor stale live hcall hphase hvisit hheard =>
    refine iff_of_true (hserved.set fun c hc hphase' => ?_) ?_
    · obtain rfl := Call.send.inj hc
      cases hphase'
    · -- the loop has not ended
      rintro j ok' call' b w haction hcall' hphase' hend
      obtain ⟨rfl, -⟩ := Action.sentText.inj haction
      obtain rfl := Call.send.inj (Option.some.inj (hcall.symm.trans hcall'))
      obtain ⟨rfl, -⟩ := SendPhase.sending.inj (hphase.symm.trans hphase')
      rw [hvisit] at hend
      cases hend
  | @returns i a ok call ws stale live hcall hphase hvisit hheard =>
    have hcursor := (h.fine _ (List.mem_of_getElem? hcall) a ws hphase).2
    -- the loop that ends has visited everyone once if and only if it was not overtaken
    have honce := hcursor.visited_once_iff hvisit
    constructor
    · rintro hserved' j ok' call' b w haction hcall' hphase' hend
      obtain ⟨rfl, -⟩ := Action.sentText.inj haction
      obtain rfl := Call.send.inj (Option.some.inj (hcall.symm.trans hcall'))
      have hmem := List.mem_set (List.getElem?_eq_some_iff.1 hcall).1
        (Call.send { call with phase := .returned, stale := stale })
      have hcounts := hserved' _ hmem rfl
      exact honce.1 hcounts
    · intro hover c hc hreturned
      rcases List.mem_or_eq_of_mem_set hc with hc | hc
      · exact hserved c hc hreturned
      · obtain rfl := Call.send.inj hc
        exact honce.2 (hover i ok call a ws rfl hcall hphase hvisit)
  | @abort i call hcall =>
    refine iff_of_true (hserved.set fun c hc hphase => ?_)
      (unovertaken_of_ne fun _ _ => Action.noConfusion)
    rcases call with ⟨key, ws, phase⟩ | call
    · cases hc
    · obtain rfl := Call.send.inj hc
      cases hphase

/-- A call that has returned is told nothing. -/
theorem served_observe {r r' : Registry} :
    State.Served { s with calls := s.calls.map (Call.observe r r') } ↔ s.Served := by
  constructor
  · intro h call hcall hphase
    refine h call (List.mem_map.2 ⟨_, hcall, ?_⟩) hphase
    simp [Call.observe, hphase]
  · intro h call hcall hphase
    obtain ⟨c, hc, hobserve⟩ := List.mem_map.1 hcall
    rcases c with ⟨key, ws, phase⟩ | c
    · cases hobserve
    · simp only [Call.observe] at hobserve
      split at hobserve
      next a ws hsending =>
        -- it would not have returned
        obtain rfl := Call.send.inj hobserve
        rw [hsending] at hphase
        cases hphase
      next =>
        obtain rfl := Call.send.inj hobserve
        exact h c hc hphase

/-- **Every socket that stays is sent each message once** in exactly the runs in which no loop ends
that one of them has overtaken. -/
theorem socketSystem_served_iff (m : Manager) {actions : List Action} {s : State} :
    ((socketSystem m).restrict fun _ _ s' => s'.Served).Run {} actions s ↔
      ((socketSystem m).guard Unovertaken).Run {} actions s := by
  have hiff : ∀ (s : State) (action : Action) (s' : State), s.Good → s.Served →
      (socketSystem m).step s action s' → (s'.Served ↔ Unovertaken s action) := by
    intro s action s' hgood hserved hnext
    obtain ⟨s₁, hmove, rfl⟩ := next_cases hgood hnext
    exact served_observe.trans (hmove.served_iff hgood hserved)
  exact Lts.Run.restrict_iff_guard (I := fun s => s.Good ∧ s.Served)
    (fun s action s' h hnext hover =>
      ⟨good_next h.1 hnext, (hiff s action s' h.1 h.2 hnext).2 hover⟩)
    (fun s action s' h hnext => hiff s action s' h.1 h.2 hnext)
    ⟨good_empty, fun _ hcall => (nomatch hcall)⟩

/-- Two sockets are sent a message, and the first leaves during its `send_text`. -/
def skipped : List Action :=
  [.connect "u" 1, .accepted 0, .connect "u" 2, .accepted 1, .send "u", .disconnect "u" 1,
    .sentText 2 true]

/-- The sockets that have stayed during a call, and those that it was sent to, when it has
returned. -/
def Call.sent : Call → Option (List Socket × List Socket)
  | .connect _ _ _ => none
  | .send call => if call.phase = .returned then some (call.cursor.stayed, call.cursor.visited)
    else none

theorem not_served_of_sent (h : s.calls.filterMap Call.sent = [([2], [1])]) : ¬ s.Served := by
  intro hserved
  have hmem : ([2], [1]) ∈ s.calls.filterMap Call.sent := h ▸ List.mem_singleton_self _
  obtain ⟨call, hcall, hsent⟩ := List.mem_filterMap.1 hmem
  rcases call with ⟨key, ws, phase⟩ | call
  · cases hsent
  · simp only [Call.sent] at hsent
    split_ifs at hsent with hphase
    obtain ⟨hstayed, hvisited⟩ := Prod.mk.inj (Option.some.inj hsent)
    have hcount := hserved call hcall hphase 2 (hstayed ▸ List.mem_singleton_self 2)
    rw [hvisited] at hcount
    exact absurd hcount (by decide)

/-- **The second socket stays and is not sent the message**, with either manager. -/
theorem skipped_not_served :
    (¬ ∀ actions s, (socketSystem connectionManager).Run {} actions s → s.Served) ∧
      ¬ ∀ actions s, (socketSystem pdaConnectionManager).Run {} actions s → s.Served := by
  constructor
  · intro h
    have hread : (Lts.runNext (State.next connectionManager) {} skipped).map
        (fun s => s.calls.filterMap Call.sent) = some [([2], [1])] := by decide +kernel
    obtain ⟨s, hs, hread⟩ := Lts.exists_run_of_map hread
    exact not_served_of_sent hread (h _ s hs)
  · intro h
    have hread : (Lts.runNext (State.next pdaConnectionManager) {} skipped).map
        (fun s => s.calls.filterMap Call.sent) = some [([2], [1])] := by decide +kernel
    obtain ⟨s, hs, hread⟩ := Lts.exists_run_of_map hread
    exact not_served_of_sent hread (h _ s hs)

end Sockets

end OmsWmsTms
