import OmsWmsTms.Outbox.Delivery
import Mathlib.Data.List.Count

/-!
# Double dispatch

The query of a fetch skips the rows that another transaction has locked, but the session of a fetch
is closed before the first post: from then on nothing keeps a second worker from fetching the event
as long as it is pending.

* `Exclusive` : the events that the workers still have to post are apart, and not yet posted.
* `FetchesFree` : a fetch takes no event that a worker has fetched and not recorded.
* `exists_run_sent` : a worker that has an event to post can post it.
* `posts_once` : when every fetch does, no event is posted twice with success; after the first that
  does not, the workers can go on to post one twice.
-/

namespace OmsWmsTms

namespace Outbox

variable {W : Type} {s s' : State W}

/-! ### Workers apart -/

/-- The events that the workers still have to post are apart, and not yet posted. -/
structure Exclusive (s : State W) : Prop where
  /-- A worker has an event once. -/
  nodup : ∀ w, (s.workers w).todo.Nodup
  /-- Two workers have different events. -/
  apart : ∀ v w, v ≠ w → ∀ id ∈ (s.workers v).todo, id ∉ (s.workers w).todo
  /-- None of them has been posted. -/
  unsent : ∀ w, ∀ id ∈ (s.workers w).todo, (id, true) ∉ s.posts
  /-- No event has been posted twice. -/
  once : ∀ id, s.posts.count (id, true) ≤ 1

theorem exclusive_start (h : Start s) : Exclusive s where
  nodup w := by
    rw [h.idle w]
    exact List.nodup_nil
  apart v w _ id hid := by
    rw [h.idle v] at hid
    cases hid
  unsent w id hid := by
    rw [h.idle w] at hid
    cases hid
  once id := by
    rw [h.posts]
    exact Nat.zero_le 1

theorem Exclusive.write (h : Exclusive s) (events : Events) : Exclusive { s with events } :=
  ⟨h.nodup, h.apart, h.unsent, h.once⟩

variable [DecidableEq W]

/-- A worker that comes to another phase with no event that another one has, after posts that do not
concern what is still to be posted. -/
theorem Exclusive.goto (h : Exclusive s) {w : W} {phase : Phase} {posts : List (Uuid × Bool)}
    (hnodup : phase.todo.Nodup)
    (hapart : ∀ v, v ≠ w → ∀ id ∈ phase.todo, id ∉ (s.workers v).todo)
    (hunsent : ∀ id ∈ phase.todo, (id, true) ∉ posts)
    (hothers : ∀ v, v ≠ w → ∀ id ∈ (s.workers v).todo, (id, true) ∉ posts)
    (honce : ∀ id, posts.count (id, true) ≤ 1) : Exclusive { s.goto w phase with posts } := by
  have hworkers : ∀ v, ({ s.goto w phase with posts } : State W).workers v =
      if v = w then phase else s.workers v := fun _ => goto_workers
  refine ⟨fun v => ?_, fun u v huv id hu hv => ?_, fun v id hid => ?_, honce⟩
  · rw [hworkers]
    split_ifs
    · exact hnodup
    · exact h.nodup v
  · rw [hworkers] at hu hv
    split_ifs at hu hv with huw hvw
    · exact huv (huw.trans hvw.symm)
    · exact hapart v hvw id hu hv
    · exact hapart u huw id hv hu
    · exact h.apart u v huv id hu hv
  · rw [hworkers] at hid
    split_ifs at hid with hvw
    · exact hunsent id hid
    · exact hothers v hvw id hid

/-- A worker that comes to another phase with events that it had. -/
theorem Exclusive.move (h : Exclusive s) {w : W} {phase phase' : Phase} (hw : s.workers w = phase)
    (htodo : phase'.todo = phase.todo) : Exclusive (s.goto w phase') := by
  subst hw
  exact h.goto (htodo ▸ h.nodup w) (fun v hvw id hid => h.apart w v hvw.symm id (htodo ▸ hid))
    (fun id hid => h.unsent w id (htodo ▸ hid)) (fun v _ => h.unsent v) h.once

variable [Fintype W] {label : Label W}

/-- The oldest due events that nobody has locked are free: no worker is still to post one of them,
or has posted it and is still to record it. -/
def FetchesFree (s : State W) : Label W → Prop
  | .fetch w now => ∀ id ∈ s.fetched w now, ∀ v,
    id ∉ (s.workers v).todo ∧ id ∉ (s.workers v).done
  | _ => True

instance (s : State W) (label : Label W) : Decidable (FetchesFree s label) :=
  match label with
  | .fetch w now => inferInstanceAs (Decidable (∀ id ∈ s.fetched w now, ∀ v,
    id ∉ (s.workers v).todo ∧ id ∉ (s.workers v).done))
  | .append .. | .close _ | .post .. | .fail .. | .check _ | .bury _ | .finish .. => .isTrue trivial

/-- **When the fetches take free events, the workers stay apart.** -/
theorem Exclusive.step (h : Exclusive s) (hrecorded : Recorded s) (hstep : Step s label s')
    (hfree : FetchesFree s label) : Exclusive s' := by
  cases hstep with
  | append id createdAt _ => exact h.write _
  | fetch w now hw =>
    refine h.goto (nodup_dispatchPendingEvents now _ _) (fun v _ id hid => (hfree id hid v).1)
      (fun id hid hsent => ?_) (fun v _ => h.unsent v) h.once
    rcases hrecorded.recorded id hsent with ⟨event, hevent, hne⟩ | ⟨v, hv⟩
    · obtain ⟨event', hevent', hdue, -⟩ := mem_dispatchPendingEvents hid
      cases hevent.symm.trans hevent'
      exact hne hdue.1
    · exact (hfree id hid v).2 hv
  | close w todo hw =>
    split_ifs with hnil
    · exact h.move hw hnil.symm
    · exact h.move hw rfl
  | sent w id todo done hw =>
    have hnodup := h.nodup w
    have hunsent := h.unsent w
    have hapart := fun v hvw => h.apart w v (Ne.symm hvw)
    rw [hw] at hnodup hunsent hapart
    obtain ⟨hid, htodo⟩ := List.nodup_cons.1 hnodup
    have hposts : ∀ key, key ≠ id → (key, true) ∉ s.posts →
        (key, true) ∉ s.posts ++ [(id, true)] := by
      intro key hkey hnot hmem
      rcases List.mem_append.1 hmem with hmem | hmem
      · exact hnot hmem
      · exact hkey (congrArg Prod.fst (List.mem_singleton.1 hmem))
    refine h.goto htodo (fun v hvw key hkey => hapart v hvw key (List.mem_cons_of_mem id hkey))
      (fun key hkey => hposts key (fun heq => hid (heq ▸ hkey))
        (hunsent key (List.mem_cons_of_mem id hkey)))
      (fun v hvw key hkey => hposts key (fun heq => ?_) (h.unsent v key hkey)) fun key => ?_
    · exact hapart v hvw id List.mem_cons_self (heq ▸ hkey)
    · rw [List.count_append, List.count_singleton]
      split_ifs with heq
      · obtain rfl : id = key := congrArg Prod.fst (beq_iff_eq.1 heq)
        rw [List.count_eq_zero_of_not_mem (hunsent id List.mem_cons_self)]
      · exact h.once key
  | refused w id error todo done hw =>
    have hnodup := h.nodup w
    have hunsent := h.unsent w
    have hapart := fun v hvw => h.apart w v (Ne.symm hvw)
    rw [hw] at hnodup hunsent hapart
    have hposts : ∀ key, (key, true) ∉ s.posts → (key, true) ∉ s.posts ++ [(id, false)] := by
      simp
    refine h.goto (List.nodup_cons.1 hnodup).2
      (fun v hvw key hkey => hapart v hvw key (List.mem_cons_of_mem id hkey))
      (fun key hkey => hposts key (hunsent key (List.mem_cons_of_mem id hkey)))
      (fun v _ key hkey => hposts key (h.unsent v key hkey)) fun key => ?_
    rw [List.count_append, List.count_singleton]
    simpa using h.once key
  | fail w now id error todo done event events hw _ _ _ =>
    have hmove : Exclusive (s.goto w (.posting todo done)) := h.move hw rfl
    exact hmove.write events
  | notFailed w now id error todo done hw _ => exact h.move hw rfl
  | tooOften w id error todo done event hw _ _ _ => exact h.move hw rfl
  | checked w id error todo done hw => exact h.move hw rfl
  | bury w id error retries todo done hw =>
    have hmove : Exclusive (s.goto w (.posting todo done)) := h.move hw rfl
    exact hmove.write _
  | finish w now done hw =>
    have hmove : Exclusive (s.goto w .idle) := h.move hw rfl
    exact hmove.write _

/-! ### With a second dispatch -/

/-- A worker is in the loop; the others, and the posts, are as they were. -/
structure InLoop (s : State W) (w : W) (todo done : List Uuid) (t : State W) : Prop where
  worker : t.workers w = .posting todo done
  others : ∀ v, v ≠ w → t.workers v = s.workers v
  posts : t.posts = s.posts

omit [Fintype W] in
theorem inLoop_goto (s : State W) (w : W) (todo done : List Uuid) (events : Events) :
    InLoop s w todo done { s.goto w (.posting todo done) with events } :=
  ⟨goto_workers.trans (if_pos rfl), fun _ hvw => goto_workers.trans (if_neg hvw), rfl⟩

omit [Fintype W] in
theorem InLoop.of_goto {w : W} {phase : Phase} {todo done : List Uuid} {t : State W}
    (h : InLoop (s.goto w phase) w todo done t) : InLoop s w todo done t :=
  ⟨h.worker, fun v hvw => (h.others v hvw).trans (goto_workers.trans (if_neg hvw)), h.posts⟩

section Loop

variable {w : W} {id : Uuid} {error : String} {retries : ℤ} {todo done : List Uuid}

theorem exists_run_of_burying (hw : s.workers w = .burying id error retries todo done) :
    ∃ labels t, outboxSystem.Run s labels t ∧ InLoop s w todo done t := by
  refine ⟨[.bury w], _, .single ?_,
    inLoop_goto s w todo done (deadLetter id retries error s.events)⟩
  simp only [outboxSystem, Lts.ofNext, State.next, hw]

theorem exists_run_of_checking (hw : s.workers w = .checking id error todo done) :
    ∃ labels t, outboxSystem.Run s labels t ∧ InLoop s w todo done t := by
  have hloop : InLoop s w todo done (s.goto w (.posting todo done)) := inLoop_goto s w todo done _
  cases hretries : deadRetry id s.events with
  | none =>
    exact ⟨[.check w], _, .single
      (by simp only [outboxSystem, Lts.ofNext, State.next, hw, hretries]), hloop⟩
  | some retries =>
    by_cases hmany : 5 ≤ retries
    · have hbury : (s.goto w (.burying id error retries todo done)).workers w =
          .burying id error retries todo done := goto_workers.trans (if_pos rfl)
      obtain ⟨labels, t, hrun, ht⟩ := exists_run_of_burying hbury
      exact ⟨.check w :: labels, t,
        .cons (by simp only [outboxSystem, Lts.ofNext, State.next, hw, hretries, if_pos hmany])
          hrun, ht.of_goto⟩
    · exact ⟨[.check w], _,
        .single (by simp only [outboxSystem, Lts.ofNext, State.next, hw, hretries, if_neg hmany]),
          hloop⟩

theorem exists_run_of_failing (hw : s.workers w = .failing id error todo done) :
    ∃ labels t, outboxSystem.Run s labels t ∧ InLoop s w todo done t := by
  cases hevents : failUpdate 0 id error s.events with
  | some events =>
    refine ⟨[.fail w 0], _, .single ?_, inLoop_goto s w todo done events⟩
    simp only [outboxSystem, Lts.ofNext, State.next, hw, hevents]
  | none =>
    have hcheck : (s.goto w (.checking id error todo done)).workers w =
        .checking id error todo done := goto_workers.trans (if_pos rfl)
    obtain ⟨labels, t, hrun, ht⟩ := exists_run_of_checking hcheck
    exact ⟨.fail w 0 :: labels, t,
      .cons (by simp only [outboxSystem, Lts.ofNext, State.next, hw, hevents]) hrun, ht.of_goto⟩

/-- A worker that has events to post gets to the loop. -/
theorem exists_run_loop (hid : id ∈ (s.workers w).todo) : ∃ labels t done,
    outboxSystem.Run s labels t ∧ InLoop s w (s.workers w).todo done t := by
  cases hw : s.workers w with
  | idle =>
    rw [hw] at hid
    cases hid
  | fetching todo =>
    rw [hw] at hid
    have hnil : todo ≠ [] := List.ne_nil_of_mem hid
    refine ⟨[.close w], _, [], .single ?_, inLoop_goto s w todo [] s.events⟩
    simp only [outboxSystem, Lts.ofNext, State.next, hw, if_neg hnil]
    rfl
  | posting todo done => exact ⟨[], s, done, .nil s, hw, fun _ _ => rfl, rfl⟩
  | failing id error todo done =>
    obtain ⟨labels, t, hrun, ht⟩ := exists_run_of_failing hw
    exact ⟨labels, t, done, hrun, ht⟩
  | checking id error todo done =>
    obtain ⟨labels, t, hrun, ht⟩ := exists_run_of_checking hw
    exact ⟨labels, t, done, hrun, ht⟩
  | burying id error retries todo done =>
    obtain ⟨labels, t, hrun, ht⟩ := exists_run_of_burying hw
    exact ⟨labels, t, done, hrun, ht⟩

/-- In the loop it can post all its events with success. -/
theorem exists_run_posts (hw : s.workers w = .posting todo done) :
    ∃ labels t, outboxSystem.Run s labels t ∧ (∀ v, v ≠ w → t.workers v = s.workers v) ∧
      t.posts = s.posts ++ todo.map fun id => (id, true) := by
  induction todo generalizing s done with
  | nil => exact ⟨[], s, .nil s, fun _ _ => rfl, by simp⟩
  | cons id todo ih =>
    let t : State W := { s.goto w (.posting todo (done ++ [id])) with
      posts := s.posts ++ [(id, true)] }
    have ht : outboxSystem.step s (.post w none) t := by
      simp only [outboxSystem, Lts.ofNext, State.next, hw]
      rfl
    have htw : t.workers w = .posting todo (done ++ [id]) := goto_workers.trans (if_pos rfl)
    obtain ⟨labels, u, hrun, hothers, hposts⟩ := ih htw
    refine ⟨_, u, .cons ht hrun, fun v hvw => ?_, by simpa [t] using hposts⟩
    rw [hothers v hvw]
    exact goto_workers.trans (if_neg hvw)

/-- **A worker that has an event to post can post it with success.** -/
theorem exists_run_sent (hid : id ∈ (s.workers w).todo) : ∃ labels t,
    outboxSystem.Run s labels t ∧ (∀ v, v ≠ w → t.workers v = s.workers v) ∧
      s.posts.count (id, true) < t.posts.count (id, true) := by
  obtain ⟨labels, t, done, hrun, ht⟩ := exists_run_loop hid
  obtain ⟨labels', u, hrun', hothers, hposts⟩ := exists_run_posts ht.worker
  refine ⟨labels ++ labels', u, hrun.append hrun', fun v hvw => ?_, ?_⟩
  · rw [hothers v hvw, ht.others v hvw]
  · rw [hposts, ht.posts, List.count_append]
    have hmem : (id, true) ∈ (s.workers w).todo.map fun id => (id, true) :=
      List.mem_map_of_mem hid
    have hpos := List.count_pos_iff.2 hmem
    omega

end Loop

/-- After a fetch that takes an event which is not free, an event can be posted twice. -/
theorem exists_run_twice (hrecorded : Recorded s) {w : W} {now : ℤ}
    (hstep : outboxSystem.step s (.fetch w now) s') (hnot : ¬ FetchesFree s (.fetch w now)) :
    ∃ labels t id, outboxSystem.Run s' labels t ∧ 2 ≤ t.posts.count (id, true) := by
  cases step_of_next hstep with
  | fetch _ _ hw =>
    simp only [FetchesFree, not_forall, not_and_or, not_not] at hnot
    obtain ⟨id, hid, v, hv⟩ := hnot
    have hvw : v ≠ w := by
      rintro rfl
      rw [hw] at hv
      rcases hv with hv | hv <;> cases hv
    have hown : id ∈ ((s.goto w (.fetching (s.fetched w now))).workers w).todo := by
      rw [goto_workers, if_pos rfl]
      exact hid
    rcases hv with hv | hv
    · have hother : id ∈ ((s.goto w (.fetching (s.fetched w now))).workers v).todo := by
        rw [goto_workers, if_neg hvw]
        exact hv
      obtain ⟨labels, t, hrun, hothers, hcount⟩ := exists_run_sent hother
      rw [← hothers w hvw.symm] at hown
      obtain ⟨labels', u, hrun', -, hcount'⟩ := exists_run_sent hown
      exact ⟨_, u, id, hrun.append hrun', by omega⟩
    · have hsent := List.count_pos_iff.2 (hrecorded.posted v id hv)
      obtain ⟨labels, t, hrun, -, hcount⟩ := exists_run_sent hown
      rw [goto_posts] at hcount
      exact ⟨_, t, id, hrun, by omega⟩

/-! ### The runs -/

/-- **No event is posted twice with success** in a run whose fetches take only events that no worker
has fetched and not recorded; at the first fetch that does not, the workers can go on to post an
event twice. -/
theorem posts_once {s₀ s : State W} {labels : List (Label W)} (h₀ : Start s₀)
    (hrun : (outboxSystem.guard FetchesFree).Run s₀ labels s) :
    (∀ id, s.posts.count (id, true) ≤ 1) ∧
      ∀ w now s', outboxSystem.step s (.fetch w now) s' → ¬ FetchesFree s (.fetch w now) →
        ∃ labels t id, outboxSystem.Run s' labels t ∧ 2 ≤ t.posts.count (id, true) := by
  have hinv : Recorded s ∧ Exclusive s :=
    hrun.invariant (I := fun s => Recorded s ∧ Exclusive s)
      ⟨recorded_start h₀, exclusive_start h₀⟩ fun s l s' hs hstep =>
        ⟨hs.1.step (step_of_next hstep.1), hs.2.step hs.1 (step_of_next hstep.1) hstep.2⟩
  exact ⟨hinv.2.once, fun w now s' hstep hnot => exists_run_twice hinv.1 hstep hnot⟩

/-- The second worker fetches the event before the first has posted it, and both post it. -/
theorem posts_twice : ∃ (s₀ s : State Bool) (labels : List (Label Bool)), Start s₀ ∧
    outboxSystem.Run s₀ labels s ∧ ¬ ∀ id, s.posts.count (id, true) ≤ 1 := by
  have hposts : (Lts.runNext State.next (noEvents Bool)
    [.append 7 0, .fetch false 1, .close false, .fetch true 1,
      .close true, .post false none, .post true none]).map State.posts =
        some [(7, true), (7, true)] := by decide
  obtain ⟨s, hrun, hposts⟩ := Lts.exists_run_of_map hposts
  refine ⟨noEvents Bool, s, _, start_noEvents Bool, hrun, fun h => ?_⟩
  have hcount := h 7
  rw [hposts] at hcount
  exact absurd hcount (by decide)

/-- One worker has an event locked while the other one fetches the next; both post and record what
they have, and the first one fetches again. -/
theorem posts_once_noEvents : ∃ s, (outboxSystem.guard FetchesFree).Run (noEvents Bool)
    [.append 7 0, .fetch false 1, .append 8 1, .fetch true 2, .close false, .close true,
      .post true none, .post false (some "timeout"), .fail false 3, .check false, .finish false 4,
      .finish true 5, .fetch false 6] s ∧
      ∀ id, s.posts.count (id, true) ≤ 1 := by
  have hrun : (outboxSystem.guard FetchesFree).Run (noEvents Bool)
      [.append 7 0, .fetch false 1, .append 8 1, .fetch true 2, .close false, .close true,
        .post true none, .post false (some "timeout"), .fail false 3, .check false,
        .finish false 4, .finish true 5, .fetch false 6] _ :=
    .cons ⟨rfl, trivial⟩ (.cons ⟨rfl, by decide⟩ (.cons ⟨rfl, trivial⟩ (.cons ⟨rfl, by decide⟩
      (.cons ⟨rfl, trivial⟩ (.cons ⟨rfl, trivial⟩ (.cons ⟨rfl, trivial⟩ (.cons ⟨rfl, trivial⟩
        (.cons ⟨rfl, trivial⟩ (.cons ⟨rfl, trivial⟩ (.cons ⟨rfl, trivial⟩ (.cons ⟨rfl, trivial⟩
          (.cons ⟨rfl, by decide⟩ (.nil _)))))))))))))
  exact ⟨_, hrun, (posts_once (start_noEvents Bool) hrun).1⟩

end Outbox

end OmsWmsTms
