import OmsWmsTms.Outbox.Delivery
import Mathlib.Data.List.Count

/-!
# Retries

A fetch leaves its events pending, and `mark_failed` counts a failure only of an event that is
dispatched: with one worker it never counts one.

* `failures` : the failed posts of an event.
* `Accounted` : the retries of every event are its failed posts up to five, what is due is fetched,
  and nothing is posted after five failures.
* `accounted_iff` : after any runs of one worker that holds exactly when no post has failed.
-/

namespace OmsWmsTms

namespace Outbox

/-- The failed posts of an event. -/
def failures (posts : List (Uuid × Bool)) (id : Uuid) : ℕ := posts.count (id, false)

/-- The accounting of the retries of one worker. -/
structure Accounted (s : State Unit) : Prop where
  /-- The retries of an event are its failed posts, up to five. -/
  retries : ∀ id event, s.events.get? id = some event →
    event.retryCount = min 5 (failures s.posts id : ℤ)
  /-- What is not delivered, has failed fewer than five times and is not scheduled for later is
  fetched, unless older events fill the batch. -/
  fetched : ∀ now id event, s.events.get? id = some event → (id, true) ∉ s.posts →
    failures s.posts id < 5 → (∀ t ∈ event.scheduledAt, t ≤ now) →
      id ∈ s.fetched () now ∨ (s.fetched () now).length = batchSize
  /-- Nothing is posted after its fifth failure. -/
  stopped : ∀ before post after, s.posts = before ++ post :: after → failures before post.1 < 5

/-- Every post has succeeded. -/
def AllSent (labels : List (Label Unit)) : Prop := ∀ w error, .post w (some error) ∉ labels

/-! ### One worker -/

/-- The events that the worker has fetched and not posted with success. -/
def Phase.unsent (phase : Phase) : List Uuid := phase.todo ++ phase.failed?.toList

/-- What one worker keeps. -/
structure Alone (s : State Unit) : Prop where
  /-- What is known about the posts. -/
  recorded : Recorded s
  /-- No event is failed, and none is retried. -/
  events : ∀ id event, s.events.get? id = some event →
    event.status ≠ .failed ∧ event.retryCount = 0
  /-- What the worker has not posted with success is pending. -/
  pending : ∀ id ∈ (s.workers ()).unsent, ∀ event,
    s.events.get? id = some event → event.status = .pending
  /-- No event is about to be buried. -/
  buries : ∀ id error retries todo done, s.workers () ≠ .burying id error retries todo done
  /-- The posts are of events in the table. -/
  known : ∀ post ∈ s.posts, s.events.get? post.1 ≠ none

variable {s s' : State Unit} {label : Label Unit}

theorem alone_start (h : Start s) : Alone s where
  recorded := recorded_start h
  events id event hevent := by
    obtain ⟨hpending, hretries⟩ := h.events id event hevent
    exact ⟨by simp [hpending], hretries⟩
  pending id hid := by
    rw [h.idle] at hid
    cases hid
  buries id error retries todo done hw := by
    rw [h.idle] at hw
    cases hw
  known post hpost := by
    rw [h.posts] at hpost
    cases hpost

/-- The worker comes to another phase with events that are pending, after posts of known events. -/
theorem Alone.goto (h : Alone s) {phase : Phase} {posts : List (Uuid × Bool)}
    (hrecorded : Recorded { s.goto () phase with posts })
    (hpending : ∀ id ∈ phase.unsent, ∀ event,
      s.events.get? id = some event → event.status = .pending)
    (hburies : ∀ id error retries todo done, phase ≠ .burying id error retries todo done)
    (hknown : ∀ post ∈ posts, s.events.get? post.1 ≠ none) :
    Alone { s.goto () phase with posts } :=
  ⟨hrecorded, h.events, hpending, hburies, hknown⟩

/-- **What one worker keeps**, whatever the outcomes of its posts. -/
theorem Alone.step (h : Alone s) (hstep : Step s label s') : Alone s' := by
  have hrecorded : Recorded s' := h.recorded.step hstep
  have hpending := h.pending
  cases hstep with
  | append id createdAt hfree =>
    refine ⟨hrecorded, fun key event hevent => ?_, fun key hkey event hevent => ?_, h.buries,
      fun post hpost => ?_⟩
    · rw [Dict.get?_set] at hevent
      split_ifs at hevent
      · cases hevent
        exact ⟨fun hne => (by cases hne), rfl⟩
      · exact h.events key event hevent
    · rw [Dict.get?_set] at hevent
      split_ifs at hevent
      · cases hevent
        rfl
      · exact hpending key hkey event hevent
    · rw [Dict.get?_set]
      split_ifs
      · exact Option.some_ne_none _
      · exact h.known post hpost
  | fetch w now hw =>
    refine h.goto hrecorded (fun id hid event hevent => ?_)
      (fun _ _ _ _ _ hphase => by cases hphase) h.known
    have hid : id ∈ s.fetched () now := by simpa [Phase.unsent, Phase.todo, Phase.failed?] using hid
    obtain ⟨event', hevent', hdue, -⟩ := mem_dispatchPendingEvents hid
    cases hevent.symm.trans hevent'
    exact hdue.1
  | close w todo hw =>
    rw [hw] at hpending
    by_cases hnil : todo = []
    · rw [if_pos hnil] at hrecorded ⊢
      exact h.goto hrecorded (fun _ hid => by cases hid) (fun _ _ _ _ _ hphase => by cases hphase)
        h.known
    · rw [if_neg hnil] at hrecorded ⊢
      exact h.goto hrecorded hpending (fun _ _ _ _ _ hphase => by cases hphase) h.known
  | sent w id todo done hw =>
    rw [hw] at hpending
    refine h.goto hrecorded (fun key hkey => hpending key (List.mem_cons_of_mem id hkey))
      (fun _ _ _ _ _ hphase => by cases hphase) fun post hpost => ?_
    rcases List.mem_append.1 hpost with hpost | hpost
    · exact h.known post hpost
    · cases List.mem_singleton.1 hpost
      exact h.recorded.known () id (by rw [hw]; exact mem_held_posting.2 (.inl List.mem_cons_self))
  | refused w id error todo done hw =>
    rw [hw] at hpending
    refine h.goto hrecorded (fun key hkey => hpending key ?_)
      (fun _ _ _ _ _ hphase => by cases hphase) fun post hpost => ?_
    · simp only [Phase.unsent, Phase.todo, Phase.failed?, Option.toList_some, Option.toList_none,
        List.mem_append, List.mem_cons] at hkey ⊢
      tauto
    · rcases List.mem_append.1 hpost with hpost | hpost
      · exact h.known post hpost
      · cases List.mem_singleton.1 hpost
        exact h.recorded.known () id
          (by rw [hw]; exact mem_held_posting.2 (.inl List.mem_cons_self))
  | fail w now id error todo done event events hw hevent hmay hevents =>
    rw [hw] at hpending
    have hid : id ∈ (Phase.failing id error todo done).unsent := by
      simp [Phase.unsent, Phase.failed?]
    cases (hpending id hid event hevent).symm.trans hmay.1
  | notFailed w now id error todo done hw hnot =>
    rw [hw] at hpending
    exact h.goto hrecorded hpending (fun _ _ _ _ _ hphase => by cases hphase) h.known
  | tooOften w id error todo done event hw hevent hdispatched hretries =>
    rw [(h.events id event hevent).2] at hretries
    exact absurd hretries (by decide)
  | checked w id error todo done hw =>
    rw [hw] at hpending
    refine h.goto hrecorded (fun key hkey => hpending key ?_)
      (fun _ _ _ _ _ hphase => by cases hphase) h.known
    simp only [Phase.unsent, Phase.todo, Phase.failed?, Option.toList_none, List.append_nil] at hkey
    exact List.mem_append_left _ hkey
  | bury w id error retries todo done hw => exact absurd hw (h.buries id error retries todo done)
  | finish w now done hw =>
    refine ⟨hrecorded, fun key event hevent => ?_, fun _ hid => (by cases hid),
      fun _ _ _ _ _ hphase => (by cases hphase), fun post hpost => ?_⟩
    · rw [get?_markDispatched] at hevent
      split_ifs at hevent
      · obtain ⟨event', hevent', rfl⟩ := Option.map_eq_some_iff.1 hevent
        exact ⟨fun hne => (by cases hne), (h.events key event' hevent').2⟩
      · exact h.events key event hevent
    · rw [get?_markDispatched]
      split_ifs
      · simpa using h.known post hpost
      · exact h.known post hpost

/-! ### Failed posts -/

/-- A step posts with failure exactly when its label says so. -/
theorem step_sent_iff (hstep : Step s label s') : (∀ id, (id, false) ∉ s'.posts) ↔
    (∀ id, (id, false) ∉ s.posts) ∧ ∀ w error, label ≠ .post w (some error) := by
  cases hstep with
  | sent w id todo done hw => simp
  | refused w id error todo done hw =>
    refine ⟨fun h => absurd ?_ (h id), fun h => absurd rfl (h.2 w error)⟩
    exact List.mem_append_right _ (List.mem_singleton.2 rfl)
  | _ => exact ⟨fun h => ⟨h, fun _ _ hlabel => nomatch hlabel⟩, fun h => h.1⟩

/-- A run has no failed post exactly when its labels say so. -/
theorem run_sent_iff {labels : List (Label Unit)} (hrun : outboxSystem.Run s labels s') :
    (∀ id, (id, false) ∉ s'.posts) ↔ (∀ id, (id, false) ∉ s.posts) ∧ AllSent labels := by
  induction hrun with
  | nil s => simp [AllSent]
  | @cons s t u label labels hst _ ih =>
    rw [ih, step_sent_iff (step_of_next hst), and_assoc]
    refine and_congr_right fun _ => ⟨fun h w error hmem => ?_, fun h => ⟨fun w error hlabel => ?_,
      fun w error hmem => h w error (List.mem_cons_of_mem label hmem)⟩⟩
    · rcases List.mem_cons.1 hmem with hlabel | hmem
      · exact h.1 w error hlabel.symm
      · exact h.2 w error hmem
    · exact h w error (hlabel ▸ List.mem_cons_self)

/-- Without a failed post, the accounting is right. -/
theorem Alone.accounted (h : Alone s) (hsent : ∀ id, (id, false) ∉ s.posts) : Accounted s where
  retries id event hevent := by
    rw [(h.events id event hevent).2, failures, List.count_eq_zero_of_not_mem (hsent id)]
    rfl
  fetched now id event hevent hnot _ hdue := by
    have hpending : event.status = .pending := by
      by_contra hne
      exact hnot (h.recorded.sent id event hevent hne)
    refine mem_dispatchPendingEvents_or_full hevent ⟨hpending, hdue⟩ ?_
    simp [State.lockedByOthers]
  stopped before post after hposts := by
    have hbefore : (post.1, false) ∉ before := fun hmem =>
      hsent post.1 (hposts ▸ List.mem_append_left _ hmem)
    rw [failures, List.count_eq_zero_of_not_mem hbefore]
    decide

/-- After a failed post, it is not: the failure has not been counted. -/
theorem Alone.not_accounted (h : Alone s) {id : Uuid} (hfailed : (id, false) ∈ s.posts) :
    ¬ Accounted s := by
  intro hacc
  obtain ⟨event, hevent⟩ := Option.ne_none_iff_exists'.1 (h.known _ hfailed)
  have hretries := hacc.retries id event hevent
  have hpos : 0 < failures s.posts id := List.count_pos_iff.2 hfailed
  rw [(h.events id event hevent).2] at hretries
  omega

/-- **The accounting is right after any runs of one worker** exactly when no post has failed. -/
theorem accounted_iff {s₀ s : State Unit} {labels : List (Label Unit)} (h₀ : Start s₀)
    (hrun : outboxSystem.Run s₀ labels s) : Accounted s ↔ AllSent labels := by
  have hinv : Alone s := hrun.invariant (I := Alone) (alone_start h₀) fun _ _ _ hs hstep =>
    hs.step (step_of_next hstep)
  have hposts : (∀ id, (id, false) ∉ s.posts) ↔ AllSent labels := by
    rw [run_sent_iff hrun, h₀.posts]
    simp
  rw [← hposts]
  exact ⟨fun hacc id hfailed => hinv.not_accounted hfailed hacc, hinv.accounted⟩

/-- The worker runs once, and the post of the event fails. -/
theorem failure_not_counted : ∃ (s₀ s : State Unit) (labels : List (Label Unit)), Start s₀ ∧
    outboxSystem.Run s₀ labels s ∧ s.workers () = .idle ∧ ¬ Accounted s := by
  have hfinal : (Lts.runNext State.next (noEvents Unit)
    [.append 7 0, .fetch () 1, .close (), .post () (some "timeout"),
      .fail () 2, .check (), .finish () 3]).map
        (fun s => ((s.events.get? 7).map OutboxEvent.retryCount, s.posts, s.workers ())) =
          some (some 0, [(7, false)], .idle) := by decide
  obtain ⟨s, hrun, hs⟩ := Lts.exists_run_of_map hfinal
  obtain ⟨hevent, hs⟩ := Prod.mk.inj hs
  obtain ⟨hposts, hidle⟩ := Prod.mk.inj hs
  obtain ⟨event, hevent, hretries⟩ := Option.map_eq_some_iff.1 hevent
  refine ⟨noEvents Unit, s, _, start_noEvents Unit, hrun, hidle, fun hacc => ?_⟩
  have hcount := hacc.retries 7 event hevent
  rw [hretries, hposts] at hcount
  exact absurd hcount (by decide)

/-- The post succeeds. -/
theorem accounted_noEvents : ∃ s, outboxSystem.Run (noEvents Unit)
    [.append 7 0, .fetch () 1, .close (), .post () none, .finish () 2] s ∧ Accounted s := by
  have hrun : outboxSystem.Run (noEvents Unit)
      [.append 7 0, .fetch () 1, .close (), .post () none, .finish () 2] _ :=
    .cons rfl (.cons rfl (.cons rfl (.cons rfl (.cons rfl (.nil _)))))
  exact ⟨_, hrun, (accounted_iff (start_noEvents Unit) hrun).2 (by simp [AllSent])⟩

end Outbox

end OmsWmsTms
