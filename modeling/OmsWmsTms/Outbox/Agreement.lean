import OmsWmsTms.Outbox.Delivery

/-!
# Status and delivery

No session of the outbox opens: `_get_session` returns a function where `async with` needs a context
manager.  So nothing is fetched, and every event stays as it was appended.

With a factory that opens sessions, `mark_failed` is written for an event that is dispatched.  The
event of its caller is not, unless another worker has posted it with success and recorded that.

* `Agrees` : the status of an event agrees with its posts.
* `start_run`, `agrees_run` : the runs of the workers keep every event as it was appended, so that
  its status agrees.
* `FailsUnrecorded` : `mark_failed` does not find its event dispatched.
* `agrees_iff` : with sessions that open, the runs in which every state agrees are those in which
  `mark_failed` never does.
-/

namespace OmsWmsTms

namespace Outbox

variable {W : Type} {s s' : State W}

/-- No worker is between a post of the event and the record of its outcome. -/
def Quiet (s : State W) (id : Uuid) : Prop :=
  ∀ w, id ∉ (s.workers w).done ∧ (s.workers w).failed? ≠ some id

/-- A quiet event is dispatched exactly when a post of it has succeeded, and an event of which a
post has succeeded is never failed. -/
def Agrees (s : State W) : Prop :=
  ∀ id event, s.events.get? id = some event →
    (Quiet s id → (event.status = .dispatched ↔ (id, true) ∈ s.posts)) ∧
      ((id, true) ∈ s.posts → event.status ≠ .failed)

/-- When `mark_failed` runs, its event has not been recorded as dispatched by another worker. -/
def FailsUnrecorded (s : State W) : Label W → Prop
  | .fail w _ => ∀ id, (s.workers w).failed? = some id →
    ∀ event, s.events.get? id = some event → event.status ≠ .dispatched
  | _ => True

/-- Nothing has failed. -/
structure Unfailed (s : State W) : Prop where
  /-- What is known about the posts. -/
  recorded : Recorded s
  /-- No event is failed, and none has been retried. -/
  events : ∀ id event, s.events.get? id = some event →
    event.status ≠ .failed ∧ event.retryCount = 0
  /-- No event is about to be buried. -/
  buries : ∀ w id error retries todo done, s.workers w ≠ .burying id error retries todo done

theorem unfailed_start (h : Start s) : Unfailed s where
  recorded := recorded_start h
  events id event hevent := by
    obtain ⟨hpending, hretries⟩ := h.events id event hevent
    exact ⟨by simp [hpending], hretries⟩
  buries w id error retries todo done hw := by
    rw [h.idle w] at hw
    cases hw

/-- As long as nothing has failed, the status agrees with the posts. -/
theorem Unfailed.agrees (h : Unfailed s) : Agrees s := by
  intro id event hevent
  have hfailed := (h.events id event hevent).1
  refine ⟨fun hquiet => ⟨fun hdispatched => ?_, fun hsent => ?_⟩, fun _ => hfailed⟩
  · exact h.recorded.sent id event hevent (by simp [hdispatched])
  · rcases h.recorded.recorded id hsent with ⟨event', hevent', hne⟩ | ⟨w, hw⟩
    · cases hevent.symm.trans hevent'
      cases hstatus : event.status with
      | pending => exact absurd hstatus hne
      | dispatched => rfl
      | failed => exact absurd hstatus hfailed
    · exact absurd hw (hquiet w).1

variable [DecidableEq W] {w : W} {phase : Phase}

theorem Unfailed.buries_goto (h : Unfailed s)
    (hphase : ∀ id error retries todo done, phase ≠ .burying id error retries todo done) :
    ∀ v id error retries todo done,
      (s.goto w phase).workers v ≠ .burying id error retries todo done := by
  intro v id error retries todo done
  rw [goto_workers]
  split_ifs
  · exact hphase id error retries todo done
  · exact h.buries v id error retries todo done

variable [Fintype W] {label : Label W}

/-- A worker whose sessions do not open fetches nothing. -/
theorem Start.step (h : Start s) (hstep : (dispatchSystem getSession).step s label s') :
    Start s' := by
  replace hstep : s.nextWith getSession label = some s' := hstep
  have hidle (w : W) : Start (s.goto w .idle) := by
    refine ⟨fun v => ?_, h.posts, h.events⟩
    rw [goto_workers]
    split_ifs
    · rfl
    · exact h.idle v
  cases label with
  | append id createdAt =>
    simp only [State.nextWith, Label.opens?, State.next] at hstep
    split_ifs at hstep
    cases hstep
    refine ⟨h.idle, h.posts, fun key event hevent => ?_⟩
    rw [Dict.get?_set] at hevent
    split_ifs at hevent
    · cases hevent
      exact ⟨rfl, rfl⟩
    · exact h.events key event hevent
  | fetch w now =>
    -- `async with` raises
    obtain ⟨s'', -, rfl⟩ := Option.map_eq_some_iff.1 hstep
    exact hidle w
  | close w => simp [State.nextWith, Label.opens?, State.next, h.idle w] at hstep
  | post w error => simp [State.nextWith, Label.opens?, State.next, h.idle w] at hstep
  | fail w now =>
    obtain ⟨s'', -, rfl⟩ := Option.map_eq_some_iff.1 hstep
    exact hidle w
  | check w => simp [State.nextWith, Label.opens?, State.next, h.idle w] at hstep
  | bury w => simp [State.nextWith, Label.opens?, State.next, h.idle w] at hstep
  | finish w now =>
    obtain ⟨s'', -, rfl⟩ := Option.map_eq_some_iff.1 hstep
    exact hidle w

/-- **The runs of the workers**: every event is as it was appended, and nothing has been posted. -/
theorem start_run {s₀ s : State W} {labels : List (Label W)} (h₀ : Start s₀)
    (hrun : (dispatchSystem getSession).Run s₀ labels s) : Start s :=
  hrun.invariant (I := Start) h₀ fun _ _ _ hs hstep => hs.step hstep

/-- **When `mark_failed` does not find its event dispatched, nothing fails.** -/
theorem Unfailed.step (h : Unfailed s) (hstep : Step s label s') (hfail : FailsUnrecorded s label) :
    Unfailed s' := by
  refine ⟨h.recorded.step hstep, ?_, ?_⟩
  · cases hstep with
    | append id createdAt hfree =>
      intro key event hevent
      rw [Dict.get?_set] at hevent
      split_ifs at hevent
      · cases hevent
        exact ⟨fun hne => (by cases hne), rfl⟩
      · exact h.events key event hevent
    | fail w now id error todo done event events hw hevent hmay hevents =>
      exact absurd hmay.1 (hfail id (by rw [hw]; rfl) event hevent)
    | bury w id error retries todo done hw =>
      exact absurd hw (h.buries w id error retries todo done)
    | finish w now done hw =>
      intro key event hevent
      rw [get?_markDispatched] at hevent
      split_ifs at hevent
      · obtain ⟨event', hevent', rfl⟩ := Option.map_eq_some_iff.1 hevent
        exact ⟨fun hne => (by cases hne), (h.events key event' hevent').2⟩
      · exact h.events key event hevent
    | _ => exact h.events
  · cases hstep with
    | append id createdAt hfree => exact h.buries
    | close w todo hw =>
      split_ifs
      · exact h.buries_goto fun _ _ _ _ _ hphase => by cases hphase
      · exact h.buries_goto fun _ _ _ _ _ hphase => by cases hphase
    | tooOften w id error todo done event hw hevent hdispatched hretries =>
      rw [(h.events id event hevent).2] at hretries
      exact absurd hretries (by decide)
    | _ => exact h.buries_goto fun _ _ _ _ _ hphase => by cases hphase

/-- With sessions that open, **the status agrees with the posts** in every state of a run exactly
when `mark_failed` never finds its event dispatched. -/
theorem agrees_iff {s₀ s : State W} {labels : List (Label W)} (h₀ : Start s₀) :
    (outboxSystem.restrict fun _ _ s' => Agrees s').Run s₀ labels s ↔
      (outboxSystem.guard FailsUnrecorded).Run s₀ labels s := by
  refine Lts.Run.restrict_iff_guard (I := Unfailed)
    (fun s l s' hs hstep hfail => hs.step (step_of_next hstep) hfail)
    (fun s l s' hs hstep => ⟨fun hagrees => ?_, fun hfail =>
      (hs.step (step_of_next hstep) hfail).agrees⟩) (unfailed_start h₀)
  cases step_of_next hstep with
  | fail w now id error todo done event events hw hevent hmay hevents =>
    -- the event has been posted with success, and is failed now
    have hsent := hs.recorded.sent id event hevent (by simp [hmay.1])
    obtain ⟨event', hevent', hfailed⟩ := failed_of_failUpdate hevents
    exact absurd hfailed ((hagrees id event' hevent').2 hsent)
  | notFailed w now id error todo done hw hnot =>
    intro key hkey event hevent hdispatched
    rw [hw] at hkey
    cases hkey
    refine hnot event hevent ⟨hdispatched, ?_⟩
    rw [(hs.events _ event hevent).2]
    decide
  | _ => trivial

/-- One worker posts the event and records it; then the post of the other fails. -/
theorem sent_and_failed : ∃ (s₀ s : State Bool) (labels : List (Label Bool)), Start s₀ ∧
    outboxSystem.Run s₀ labels s ∧ ¬ Agrees s := by
  have hfinal : (Lts.runNext State.next (noEvents Bool)
    [.append 7 0, .fetch false 1, .close false, .fetch true 1,
      .close true, .post false none, .finish false 2, .post true (some "timeout"),
        .fail true 3]).map
        (fun s => ((s.events.get? 7).map OutboxEvent.status, s.posts)) =
          some (some .failed, [(7, true), (7, false)]) := by decide
  obtain ⟨s, hrun, hs⟩ := Lts.exists_run_of_map hfinal
  obtain ⟨hstatus, hposts⟩ := Prod.mk.inj hs
  obtain ⟨event, hevent, hfailed⟩ := Option.map_eq_some_iff.1 hstatus
  refine ⟨noEvents Bool, s, _, start_noEvents Bool, hrun, fun h => ?_⟩
  exact (h 7 event hevent).2 (by rw [hposts]; exact List.mem_cons_self) hfailed

end Outbox

end OmsWmsTms
