import OmsWmsTms.Outbox.Dispatch

/-!
# Delivery of outbox events

The row locks of a fetch end with its session, so that two workers can hold one event; and
`mark_failed` looks for a dispatched event, which is one that another worker has posted.

* `Recorded` : what the table and the workers know about the posts so far.
* `once_iff` : no event is posted twice with success exactly when every successful post finds its
  event pending, and posted by no worker that has not recorded it yet.
* `agrees_iff` : the status agrees with the posts exactly when `mark_failed` never finds its event
  dispatched.
-/

namespace OmsWmsTms

namespace Outbox

/-! ### Workers and their events -/

/-- The events that a worker has fetched and not finished. -/
def Phase.held (phase : Phase) : List Uuid := phase.todo ++ phase.failed?.toList ++ phase.done

section Phase

variable {id key : Uuid} {error : String} {retries : ℤ} {todo done : List Uuid}

@[simp] theorem held_idle : Phase.idle.held = [] := rfl

@[simp] theorem mem_held_fetching : key ∈ (Phase.fetching todo).held ↔ key ∈ todo := by
  change key ∈ todo ++ [] ++ [] ↔ _
  simp

@[simp] theorem mem_held_posting :
    key ∈ (Phase.posting todo done).held ↔ key ∈ todo ∨ key ∈ done := by
  change key ∈ todo ++ [] ++ done ↔ _
  simp

@[simp] theorem mem_held_failing : key ∈ (Phase.failing id error todo done).held ↔
    key ∈ todo ∨ key = id ∨ key ∈ done := by
  change key ∈ todo ++ [id] ++ done ↔ _
  simp

@[simp] theorem mem_held_checking : key ∈ (Phase.checking id error todo done).held ↔
    key ∈ todo ∨ key = id ∨ key ∈ done := by
  change key ∈ todo ++ [id] ++ done ↔ _
  simp

@[simp] theorem mem_held_burying : key ∈ (Phase.burying id error retries todo done).held ↔
    key ∈ todo ∨ key = id ∨ key ∈ done := by
  change key ∈ todo ++ [id] ++ done ↔ _
  simp

end Phase

variable {W : Type}

/-! ### What is known about the posts -/

/-- What the table and the workers know about the posts so far. -/
structure Recorded (s : State W) : Prop where
  /-- The events of the workers are in the table. -/
  known : ∀ w, ∀ id ∈ (s.workers w).held, s.events.get? id ≠ none
  /-- What a worker will record as dispatched has been posted. -/
  posted : ∀ w, ∀ id ∈ (s.workers w).done, (id, true) ∈ s.posts
  /-- So has an event that is not pending. -/
  sent : ∀ id event, s.events.get? id = some event → event.status ≠ .pending → (id, true) ∈ s.posts
  /-- An event that has been posted is not pending, or a worker will record it. -/
  recorded : ∀ id, (id, true) ∈ s.posts →
    (∃ event, s.events.get? id = some event ∧ event.status ≠ .pending) ∨
      ∃ w, id ∈ (s.workers w).done
  /-- An event that is about to be buried has been posted. -/
  buried : ∀ w id error retries todo done,
    s.workers w = .burying id error retries todo done → (id, true) ∈ s.posts

variable {s s' : State W} {w v : W} {phase : Phase}

theorem recorded_start (h : Start s) : Recorded s where
  known w id hid := by
    rw [h.idle w] at hid
    cases hid
  posted w id hid := by
    rw [h.idle w] at hid
    cases hid
  sent id event hevent hne := absurd (h.events id event hevent).1 hne
  recorded id hid := by
    rw [h.posts] at hid
    cases hid
  buried w id error retries todo done hw := by
    rw [h.idle w] at hw
    cases hw

/-- A write to the table after which the events are as pending as before. -/
theorem Recorded.write (h : Recorded s) {events : Events}
    (hkeep : ∀ id, s.events.get? id ≠ none → events.get? id ≠ none)
    (hsent : ∀ id event, events.get? id = some event → event.status ≠ .pending →
      (id, true) ∈ s.posts)
    (hstays : ∀ id event event', s.events.get? id = some event → events.get? id = some event' →
      event.status ≠ .pending → event'.status ≠ .pending) : Recorded { s with events } where
  known w id hid := hkeep id (h.known w id hid)
  posted := h.posted
  sent := hsent
  recorded id hid := by
    refine (h.recorded id hid).imp_left fun ⟨event, hevent, hne⟩ => ?_
    obtain ⟨event', hevent'⟩ := Option.ne_none_iff_exists'.1
      (hkeep id (by rw [hevent]; exact Option.some_ne_none event))
    exact ⟨event', hevent', hstays id event event' hevent hevent' hne⟩
  buried := h.buried

/-- A change of an event that stays as pending as it was. -/
theorem Recorded.modify (h : Recorded s) {id : Uuid} {change : OutboxEvent → OutboxEvent}
    (hsent : (id, true) ∈ s.posts) (hchange : ∀ event, (change event).status ≠ .pending) :
    Recorded { s with events := s.events.modify id change } := by
  refine h.write (fun key hkey => ?_) (fun key event hevent hne => ?_)
    fun key event event' hevent hevent' hne => ?_
  · rw [Dict.get?_modify]
    split_ifs
    · simpa using hkey
    · exact hkey
  · rw [Dict.get?_modify] at hevent
    split_ifs at hevent with hkey
    · exact hkey ▸ hsent
    · exact h.sent key event hevent hne
  · rw [Dict.get?_modify, hevent] at hevent'
    split_ifs at hevent'
    · cases hevent'
      exact hchange event
    · cases hevent'
      exact hne

/-- The events of a batch that has been posted are recorded. -/
theorem Recorded.markDispatched (h : Recorded s) (now : ℤ) {ids : List Uuid}
    (hids : ∀ id ∈ ids, (id, true) ∈ s.posts) :
    Recorded { s with events := markDispatched now ids s.events } := by
  refine h.write (fun key hkey => ?_) (fun key event hevent hne => ?_)
    fun key event event' hevent hevent' hne => ?_
  · rw [get?_markDispatched]
    split_ifs
    · simpa using hkey
    · exact hkey
  · rw [get?_markDispatched] at hevent
    split_ifs at hevent with hkey
    · exact hids key hkey
    · exact h.sent key event hevent hne
  · rw [get?_markDispatched, hevent] at hevent'
    split_ifs at hevent'
    · cases hevent'
      exact fun hne => by cases hne
    · cases hevent'
      exact hne

variable [DecidableEq W]

theorem goto_workers : (s.goto w phase).workers v = if v = w then phase else s.workers v := by
  unfold State.goto
  simp only [Function.update_apply]

@[simp] theorem goto_events : (s.goto w phase).events = s.events := rfl

@[simp] theorem goto_posts : (s.goto w phase).posts = s.posts := rfl

/-- A worker that comes to another phase, after posts that are recorded. -/
theorem Recorded.goto (h : Recorded s) {posts : List (Uuid × Bool)} (hposts : s.posts ⊆ posts)
    (hheld : ∀ id ∈ phase.held, s.events.get? id ≠ none)
    (hposted : ∀ id ∈ phase.done, (id, true) ∈ posts)
    (hdone : ∀ id ∈ (s.workers w).done, id ∈ phase.done ∨
      ∃ event, s.events.get? id = some event ∧ event.status ≠ .pending)
    (hnew : ∀ id, (id, true) ∈ posts → (id, true) ∈ s.posts ∨ id ∈ phase.done)
    (hburied : ∀ id error retries todo done, phase = .burying id error retries todo done →
      (id, true) ∈ s.posts) : Recorded { s.goto w phase with posts } where
  known v id hid := by
    replace hid : id ∈ ((s.goto w phase).workers v).held := hid
    rw [goto_workers] at hid
    split_ifs at hid
    · exact hheld id hid
    · exact h.known v id hid
  posted v id hid := by
    replace hid : id ∈ ((s.goto w phase).workers v).done := hid
    rw [goto_workers] at hid
    split_ifs at hid
    · exact hposted id hid
    · exact hposts (h.posted v id hid)
  sent id event hevent hne := hposts (h.sent id event hevent hne)
  recorded id hid := by
    have hw : id ∈ phase.done → ∃ v, id ∈ ((s.goto w phase).workers v).done := fun hid =>
      ⟨w, by rw [goto_workers, if_pos rfl]; exact hid⟩
    rcases hnew id hid with hid | hid
    · rcases h.recorded id hid with hrow | ⟨v, hv⟩
      · exact .inl hrow
      · by_cases hvw : v = w
        · subst hvw
          exact (hdone id hv).symm.imp_right hw
        · exact .inr ⟨v, show id ∈ ((s.goto w phase).workers v).done by
            rw [goto_workers, if_neg hvw]; exact hv⟩
    · exact .inr (hw hid)
  buried v id error retries todo done hv := by
    replace hv : (s.goto w phase).workers v = .burying id error retries todo done := hv
    rw [goto_workers] at hv
    split_ifs at hv
    · exact hposts (hburied id error retries todo done hv)
    · exact hposts (h.buried v id error retries todo done hv)

/-- A worker that comes to another phase with the events that it has posted. -/
theorem Recorded.move (h : Recorded s) (hheld : ∀ id ∈ phase.held, id ∈ (s.workers w).held)
    (hdone : phase.done = (s.workers w).done)
    (hburied : ∀ id error retries todo done, phase = .burying id error retries todo done →
      (id, true) ∈ s.posts) : Recorded (s.goto w phase) :=
  h.goto (fun _ h => h) (fun id hid => h.known w id (hheld id hid))
    (fun id hid => h.posted w id (hdone ▸ hid)) (fun _ hid => .inl (hdone ▸ hid))
    (fun _ hid => .inl hid) hburied

variable [Fintype W] {label : Label W}

/-- **What is known about the posts stays known.** -/
theorem Recorded.step (h : Recorded s) (hstep : Step s label s') : Recorded s' := by
  cases hstep with
  | append id createdAt hfree =>
    refine h.write (fun key hkey => ?_) (fun key event hevent hne => ?_)
      fun key event event' hevent hevent' hne => ?_
    · rw [Dict.get?_set]
      split_ifs
      · exact Option.some_ne_none _
      · exact hkey
    · rw [Dict.get?_set] at hevent
      split_ifs at hevent
      · cases hevent
        exact absurd rfl hne
      · exact h.sent key event hevent hne
    · rw [Dict.get?_set] at hevent'
      split_ifs at hevent' with hkey
      · rw [← hkey, hfree] at hevent
        cases hevent
      · rw [hevent] at hevent'
        cases hevent'
        exact hne
  | fetch w now hw =>
    refine h.goto (fun _ h => h) (fun id hid => ?_) (fun id hid => by cases hid)
      (fun id hid => ?_) (fun _ hid => .inl hid) fun _ _ _ _ _ hphase => by cases hphase
    · obtain ⟨event, hevent, -⟩ := mem_dispatchPendingEvents (mem_held_fetching.1 hid)
      rw [hevent]
      exact Option.some_ne_none event
    · rw [hw] at hid
      cases hid
  | close w todo hw =>
    split_ifs with hnil
    · exact h.move (fun id hid => by cases hid) (by rw [hw]; rfl)
        fun _ _ _ _ _ hphase => by cases hphase
    · exact h.move (fun id hid => by rw [hw]; simpa using hid) (by rw [hw]; rfl)
        fun _ _ _ _ _ hphase => by cases hphase
  | sent w id todo done hw =>
    have hheld : ∀ key ∈ (s.workers w).held, s.events.get? key ≠ none := h.known w
    have hdone : ∀ key ∈ (s.workers w).done, (key, true) ∈ s.posts := h.posted w
    rw [hw] at hheld hdone
    refine h.goto (List.subset_append_left _ _) (fun key hkey => hheld key ?_)
      (fun key hkey => ?_) (fun key hkey => .inl ?_) (fun key hkey => ?_)
      fun _ _ _ _ _ hphase => by cases hphase
    · simp only [mem_held_posting, List.mem_append, List.mem_cons] at hkey ⊢
      tauto
    · rcases List.mem_append.1 hkey with hkey | hkey
      · exact List.mem_append_left _ (hdone key hkey)
      · cases List.mem_singleton.1 hkey
        exact List.mem_append_right _ (List.mem_singleton.2 rfl)
    · rw [hw] at hkey
      exact List.mem_append_left _ hkey
    · rcases List.mem_append.1 hkey with hkey | hkey
      · exact .inl hkey
      · cases List.mem_singleton.1 hkey
        exact .inr (List.mem_append_right _ (List.mem_singleton.2 rfl))
  | refused w id error todo done hw =>
    have hheld : ∀ key ∈ (s.workers w).held, s.events.get? key ≠ none := h.known w
    have hdone : ∀ key ∈ (s.workers w).done, (key, true) ∈ s.posts := h.posted w
    rw [hw] at hheld hdone
    refine h.goto (List.subset_append_left _ _) (fun key hkey => hheld key ?_)
      (fun key hkey => List.mem_append_left _ (hdone key hkey)) (fun key hkey => .inl ?_)
      (fun key hkey => .inl ?_) fun _ _ _ _ _ hphase => by cases hphase
    · simp only [mem_held_failing, mem_held_posting, List.mem_cons] at hkey ⊢
      tauto
    · rw [hw] at hkey
      exact hkey
    · rcases List.mem_append.1 hkey with hkey | hkey
      · exact hkey
      · cases List.mem_singleton.1 hkey
  | fail w now id error todo done event events hw hevent hmay hevents =>
    have hmove : Recorded (s.goto w (.posting todo done)) := by
      refine h.move (fun key hkey => ?_) (by rw [hw]; rfl) fun _ _ _ _ _ hphase => by cases hphase
      rw [hw]
      simp only [mem_held_failing, mem_held_posting] at hkey ⊢
      tauto
    have hsent : (id, true) ∈ s.posts := h.sent id event hevent (by simp [hmay.1])
    unfold failUpdate at hevents
    split_ifs at hevents
    cases hevents
    exact hmove.modify hsent fun _ hne => by cases hne
  | notFailed w now id error todo done hw hnot =>
    refine h.move (fun key hkey => ?_) (by rw [hw]; rfl) fun _ _ _ _ _ hphase => by cases hphase
    rw [hw]
    simpa using hkey
  | tooOften w id error todo done event hw hevent hdispatched hretries =>
    refine h.move (fun key hkey => ?_) (by rw [hw]; rfl)
      fun key error retries todo done hphase => ?_
    · rw [hw]
      simpa using hkey
    · cases hphase
      exact h.sent id event hevent (by simp [hdispatched])
  | checked w id error todo done hw =>
    refine h.move (fun key hkey => ?_) (by rw [hw]; rfl) fun _ _ _ _ _ hphase => by cases hphase
    rw [hw]
    simp only [mem_held_checking, mem_held_posting] at hkey ⊢
    tauto
  | bury w id error retries todo done hw =>
    have hmove : Recorded (s.goto w (.posting todo done)) := by
      refine h.move (fun key hkey => ?_) (by rw [hw]; rfl) fun _ _ _ _ _ hphase => by cases hphase
      rw [hw]
      simp only [mem_held_burying, mem_held_posting] at hkey ⊢
      tauto
    exact hmove.modify (h.buried w id error retries todo done hw) fun _ hne => by cases hne
  | finish w now done hw =>
    have hdone : ∀ id ∈ done, (id, true) ∈ s.posts := by
      have hposted := h.posted w
      rw [hw] at hposted
      exact hposted
    have hmark := h.markDispatched now hdone
    refine hmark.goto (fun _ h => h) (fun id hid => by cases hid) (fun id hid => by cases hid)
      (fun id hid => .inr ?_) (fun _ hid => .inl hid) fun _ _ _ _ _ hphase => by cases hphase
    replace hid : id ∈ (s.workers w).done := hid
    rw [hw] at hid
    obtain ⟨event, hevent⟩ := Option.ne_none_iff_exists'.1
      (h.known w id (by rw [hw]; exact mem_held_posting.2 (.inr hid)))
    exact ⟨_, get?_markDispatched_of_mem now hid hevent, fun hne => by cases hne⟩

end Outbox

end OmsWmsTms
