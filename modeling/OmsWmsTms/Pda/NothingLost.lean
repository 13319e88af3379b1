import OmsWmsTms.Pda.SyncQueue

/-!
# What the sync of a device loses

The device marks a record as failed on any exception, and never returns it again; it takes a
response of 200 for an accepted record, also when the server lists the record as failed in its body.

* `Kept` : what is synced has been committed, and what has not been committed is still returned.
* `Accepted` : the server commits the event of the record that is pushed.
* `kept_iff` : between two runs nothing is lost exactly when the server has committed every record
  that has been pushed.
-/

namespace OmsWmsTms

namespace Pda

/-! ### The queue -/

section Queue

variable {queue : SyncQueue} {id key : ℕ} {record : SyncRecord}

theorem le_foldl_max {l : List ℕ} {n : ℕ} : n ≤ l.foldl max n := by
  induction l generalizing n with
  | nil => exact le_rfl
  | cons a l ih => exact (le_max_left n a).trans ih

theorem le_foldl_max_of_mem {l : List ℕ} {n a : ℕ} (h : a ∈ l) : a ≤ l.foldl max n := by
  induction l generalizing n with
  | nil => cases h
  | cons b l ih =>
    rcases List.mem_cons.1 h with rfl | h
    · exact (le_max_right n a).trans le_foldl_max
    · exact ih h

/-- The next key is a new one. -/
theorem get?_nextId (queue : SyncQueue) : queue.get? (nextId queue) = none := by
  refine Dict.get?_eq_none_iff.2 fun hmem => ?_
  have hle : nextId queue ≤ queue.keys.foldl max 0 := le_foldl_max_of_mem hmem
  unfold nextId at hle
  omega

/-- Opening the queue keeps its rows. -/
theorem get?_openQueue_of_some (h : queue.get? id = some record) :
    (openQueue queue).get? id = some record := by
  unfold openQueue
  rw [Dict.get?_set]
  split_ifs with hkey
  · rw [← hkey, get?_nextId] at h
    cases h
  · exact h

/-- The row that it adds is pending. -/
theorem eq_of_get?_openQueue (h : (openQueue queue).get? id = some record) :
    record = initRecord ∨ queue.get? id = some record := by
  unfold openQueue at h
  rw [Dict.get?_set] at h
  split_ifs at h
  · cases h
    exact .inl rfl
  · exact .inr h

theorem mem_getPending {limit : ℕ} (h : (id, record) ∈ getPending limit queue) :
    queue.get? id = some record ∧ record.status = .pending := by
  obtain ⟨hmem, hstatus⟩ := List.mem_filter.1 (mem_orderBy.1 (List.mem_of_mem_take h))
  exact ⟨Dict.get?_of_mem_items hmem, of_decide_eq_true hstatus⟩

theorem mem_getPending_or_full (limit : ℕ) (h : queue.get? id = some record)
    (hstatus : record.status = .pending) :
    (id, record) ∈ getPending limit queue ∨ (getPending limit queue).length = limit :=
  mem_take_or_full limit
    (mem_orderBy.2 (List.mem_filter.2 ⟨Dict.mem_items_of_get? h, decide_eq_true hstatus⟩))

theorem nodup_getPending (limit : ℕ) (queue : SyncQueue) :
    ((getPending limit queue).map Prod.fst).Nodup := by
  unfold getPending
  have hperm := orderBy_perm (fun a b : ℕ × SyncRecord => a.1 ≤ b.1)
    (queue.items.filter fun item => item.2.status = .pending)
  have hnodup := queue.nodup.sublist (List.Sublist.map Prod.fst (List.filter_sublist
    (p := fun item => decide (item.2.status = .pending))))
  exact ((hperm.map Prod.fst).nodup_iff.2 hnodup).sublist ((List.take_sublist _ _).map Prod.fst)

theorem get?_markSynced (ids : List ℕ) (queue : SyncQueue) (key : ℕ) :
    (markSynced ids queue).get? key = if key ∈ ids then (queue.get? key).map fun record =>
      { record with status := .synced } else queue.get? key := by
  unfold markSynced
  exact Dict.get?_foldl_modify (by exact fun _ => rfl) ids queue key

end Queue

/-! ### The server -/

section Server

variable {timing : Timing} {link : Link} {insert : SyncEvent → Insert} {refused : Bool}
  {record : SyncRecord} {event : SyncEvent}

/-- A batch of one that is stored and committed. -/
theorem handle_of_stored {item : PushedItem} (hitem : item.event? = some event)
    (hinsert : insert event = .stored) : (handle timing insert false [item]).2 = [event] := by
  have hbatch : [item].mapM PushedItem.event? = some [event] := by simp [hitem]
  simp [handle, hbatch, syncPush, appendEvent, hinsert, commit]

/-- An event that is not stored is not committed: a failed flush makes the commit raise. -/
theorem handle_of_not_stored {item : PushedItem} (hitem : item.event? = some event)
    (hnot : ¬ (insert event = .stored ∧ refused = false)) :
    (handle timing insert refused [item]).2 = [] := by
  have hbatch : [item].mapM PushedItem.event? = some [event] := by simp [hitem]
  cases hinsert : insert event with
  | stored =>
    have hrefused : refused = true := Bool.not_eq_false _ ▸ fun h => hnot ⟨hinsert, h⟩
    cases timing <;> simp [handle, hbatch, syncPush, appendEvent, hinsert, commit, hrefused]
  | refused error =>
    cases refused <;> cases timing <;>
      simp [handle, hbatch, syncPush, appendEvent, hinsert, commit]
  | failed error =>
    cases timing <;> simp [handle, hbatch, syncPush, appendEvent, hinsert, commit]

/-- **A batch of one commits its event** exactly when it is stored and the commit succeeds. -/
theorem mem_handle_iff {item : PushedItem} : event ∈ (handle timing insert refused [item]).2 ↔
    item.event? = some event ∧ insert event = .stored ∧ refused = false := by
  cases hitem : item.event? with
  | none => simp [handle, hitem]
  | some stored =>
    by_cases hstored : insert stored = .stored ∧ refused = false
    · obtain ⟨hinsert, rfl⟩ := hstored
      rw [handle_of_stored hitem hinsert, List.mem_singleton]
      refine ⟨?_, fun h => (Option.some.inj h.1).symm⟩
      rintro rfl
      exact ⟨rfl, hinsert, rfl⟩
    · rw [handle_of_not_stored hitem hstored]
      refine ⟨fun h => (nomatch h), fun ⟨heq, h⟩ => ?_⟩
      cases Option.some.inj heq
      exact absurd h hstored

/-- **A push commits the event of its record** exactly when it reaches the server, the event is
stored and the commit succeeds. -/
theorem mem_post_iff : event ∈ (post timing link insert refused record).2 ↔
    record.event? = some event ∧ link ≠ .unreached ∧ insert event = .stored ∧ refused = false := by
  unfold post SyncRecord.event?
  cases record.item? with
  | none => simp
  | some item =>
    cases link with
    | unreached => simp
    | unanswered => simp [mem_handle_iff]
    | answered => simp [mem_handle_iff]

end Server

/-! ### Records and their events -/

/-- The event of a record has been committed by one of its pushes. -/
def Committed (committed : List (ℕ × SyncEvent)) (id : ℕ) (record : SyncRecord) : Prop :=
  ∃ event, record.event? = some event ∧ (id, event) ∈ committed

/-- **Nothing is lost.** -/
structure Kept (s : State) : Prop where
  /-- What is marked as synced has been committed. -/
  synced : ∀ id record, s.queue.get? id = some record → record.status = .synced →
    Committed s.committed id record
  /-- What has not been committed is still returned by `get_pending`, unless older records use up
  its limit. -/
  returned : ∀ id record, s.queue.get? id = some record → ¬ Committed s.committed id record →
    ∀ limit, id ∈ (getPending limit s.queue).map Prod.fst ∨
      (getPending limit s.queue).length = limit

/-- What is pushed has been committed before, or is committed now: its payload is an object, the
request reaches the server, and neither the insert nor the commit fails there. -/
def Accepted (s : State) : Label → Prop
  | .push link insert refused _ _ => ∀ id record todo pushed,
    s.run? = some ⟨(id, record) :: todo, pushed⟩ → Committed s.committed id record ∨
      ∃ event, record.event? = some event ∧ link ≠ .unreached ∧ insert event = .stored ∧
        refused = false
  | _ => True

theorem kept_iff_pending {s : State} : Kept s ↔ ∀ id record, s.queue.get? id = some record →
    ¬ Committed s.committed id record → record.status = .pending := by
  constructor
  · intro h id record hrecord hnot
    -- for a limit above the number of rows the query is never used up
    rcases h.returned id record hrecord hnot (s.queue.items.length + 1) with hmem | hfull
    · obtain ⟨⟨key, row⟩, hrow, rfl⟩ := List.mem_map.1 hmem
      obtain ⟨hget, hstatus⟩ := mem_getPending hrow
      cases hrecord.symm.trans hget
      exact hstatus
    · have hlength : (getPending (s.queue.items.length + 1) s.queue).length ≤
          s.queue.items.length := by
        unfold getPending
        rw [List.length_take, (orderBy_perm _ _).length_eq]
        exact (min_le_right _ _).trans (List.length_filter_le _ _)
      omega
  · refine fun h => ⟨fun id record hrecord hsynced => ?_, fun id record hrecord hnot limit => ?_⟩
    · by_contra hnot
      rw [h id record hrecord hnot] at hsynced
      cases hsynced
    · exact (mem_getPending_or_full limit hrecord (h id record hrecord hnot)).imp_left
        fun hmem => List.mem_map_of_mem hmem

/-! ### Runs -/

/-- What the task has read is in the queue. -/
def Loaded (s : State) : Prop := ∀ run, s.run? = some run →
  (run.todo.map Prod.fst).Nodup ∧ (∀ id record, (id, record) ∈ run.todo →
    s.queue.get? id = some record) ∧ ∀ id ∈ run.pushed, id ∉ run.todo.map Prod.fst

/-- Every record is committed, or is pending and not yet pushed by the task. -/
def Good (s : State) : Prop := ∀ id record, s.queue.get? id = some record →
  Committed s.committed id record ∨ record.status = .pending ∧ ∀ run, s.run? = some run →
    id ∉ run.pushed

/-- Some record is not committed, and will not be pushed again. -/
def Lost (s : State) : Prop := ∃ id record, s.queue.get? id = some record ∧
  ¬ Committed s.committed id record ∧ (∀ run, s.run? = some run → id ∉ run.todo.map Prod.fst) ∧
    (record.status = .pending → ∃ run, s.run? = some run ∧ id ∈ run.pushed)

variable {timing : Timing} {s s' : State} {label : Label}

section Committed

variable {committed committed' : List (ℕ × SyncEvent)} {id key : ℕ} {record : SyncRecord}

theorem Committed.mono (h : Committed committed id record) (hsubset : committed ⊆ committed') :
    Committed committed' id record := by
  obtain ⟨event, hrecord, hmem⟩ := h
  exact ⟨event, hrecord, hsubset hmem⟩

/-- The commits of a push are those of its record. -/
theorem committed_append {events : List SyncEvent}
    (h : Committed (committed ++ events.map fun event => (id, event)) key record) :
    Committed committed key record ∨
      key = id ∧ ∃ event, record.event? = some event ∧ event ∈ events := by
  obtain ⟨event, hevent, hmem⟩ := h
  rcases List.mem_append.1 hmem with hmem | hmem
  · exact .inl ⟨event, hevent, hmem⟩
  · obtain ⟨event', hevent', heq⟩ := List.mem_map.1 hmem
    cases heq
    exact .inr ⟨rfl, event, hevent, hevent'⟩

end Committed

theorem get?_markFailed_of_ne {now : ℤ} {id key : ℕ} {error : String} {queue : SyncQueue}
    (hne : id ≠ key) : (markFailed now id error queue).get? key = queue.get? key := by
  unfold markFailed
  rw [Dict.get?_modify, if_neg hne]

theorem get?_markFailed_self (now : ℤ) (id : ℕ) (error : String) {queue : SyncQueue}
    {record : SyncRecord} (h : queue.get? id = some record) :
    (markFailed now id error queue).get? id = some
      { record with status := .failed, errorMessage := some error, failedAt := some now } := by
  unfold markFailed
  rw [Dict.get?_modify, if_pos rfl, h]
  rfl

/-- What is still to be pushed stays in the queue as it has been read. -/
theorem Loaded.step (h : Loaded s) (hstep : Step timing s label s') : Loaded s' := by
  intro run hrun'
  cases hstep with
  | start hrun =>
    replace hrun' : (if getPending 50 (openQueue s.queue) = [] then none
      else some ({ todo := getPending 50 (openQueue s.queue) } : Run)) = some run := hrun'
    split_ifs at hrun'
    cases hrun'
    exact ⟨nodup_getPending 50 _, fun id record hmem => (mem_getPending hmem).1,
      fun id hid => nomatch hid⟩
  | pushed link insert refused error now id record todo pushed hrun hdone =>
    cases hrun'
    obtain ⟨hnodup, hrows, hpushed⟩ := h _ hrun
    obtain ⟨hid, htodo⟩ := List.nodup_cons.1 hnodup
    refine ⟨htodo, fun key row hmem => hrows key row (List.mem_cons_of_mem _ hmem),
      fun key hkey hmem => ?_⟩
    rcases List.mem_append.1 hkey with hkey | hkey
    · exact hpushed key hkey (List.mem_cons_of_mem _ hmem)
    · cases List.mem_singleton.1 hkey
      exact hid hmem
  | failed link insert refused error now id record todo pushed hrun hfailed =>
    cases hrun'
    obtain ⟨hnodup, hrows, hpushed⟩ := h _ hrun
    obtain ⟨hid, htodo⟩ := List.nodup_cons.1 hnodup
    refine ⟨htodo, fun key row hmem => ?_, fun key hkey hmem =>
      hpushed key hkey (List.mem_cons_of_mem _ hmem)⟩
    have hne : id ≠ key := fun heq => hid (List.mem_map.2 ⟨_, hmem, heq.symm⟩)
    exact (get?_markFailed_of_ne hne).trans (hrows key row (List.mem_cons_of_mem _ hmem))
  | finish pushed hrun => cases hrun'

/-- **While the server commits what is pushed, nothing is lost.** -/
theorem Good.step (h : Good s) (hloaded : Loaded s) (hstep : Step timing s label s')
    (haccepted : Accepted s label) : Good s' := by
  intro key row hrow
  cases hstep with
  | start hrun =>
    have hpushed : ∀ run, (if getPending 50 (openQueue s.queue) = [] then none
        else some ({ todo := getPending 50 (openQueue s.queue) } : Run)) = some run →
        key ∉ run.pushed := by
      intro run hrun' hmem
      split_ifs at hrun'
      cases hrun'
      cases hmem
    rcases eq_of_get?_openQueue hrow with rfl | hold
    · exact .inr ⟨rfl, hpushed⟩
    · exact (h key row hold).imp (fun hcommitted => hcommitted) fun hpending =>
        ⟨hpending.1, hpushed⟩
  | pushed link insert refused error now id record todo pushed hrun hdone =>
    have hsubset := List.subset_append_left s.committed
      ((post timing link insert refused record).2.map fun event => (id, event))
    by_cases hkey : key = id
    · subst hkey
      cases hrow.symm.trans ((hloaded _ hrun).2.1 key record List.mem_cons_self)
      refine .inl ?_
      rcases haccepted key row todo pushed hrun with hcommitted | ⟨event, hevent, hcommit⟩
      · exact hcommitted.mono hsubset
      · exact ⟨event, hevent, List.mem_append_right _
          (List.mem_map_of_mem (mem_post_iff.2 ⟨hevent, hcommit⟩))⟩
    · refine (h key row hrow).imp (fun hcommitted => hcommitted.mono hsubset) fun hpending =>
        ⟨hpending.1, fun run hrun' hmem => ?_⟩
      cases hrun'
      rcases List.mem_append.1 hmem with hmem | hmem
      · exact hpending.2 _ hrun hmem
      · exact hkey (List.mem_singleton.1 hmem)
  | failed link insert refused error now id record todo pushed hrun hfailed =>
    have hsubset := List.subset_append_left s.committed
      ((post timing link insert refused record).2.map fun event => (id, event))
    by_cases hkey : key = id
    · subst hkey
      cases hrow.symm.trans (get?_markFailed_self now key error
        ((hloaded _ hrun).2.1 key record List.mem_cons_self))
      refine .inl ?_
      rcases haccepted key record todo pushed hrun with hcommitted | ⟨event, hevent, hcommit⟩
      · exact hcommitted.mono hsubset
      · exact ⟨event, hevent, List.mem_append_right _
          (List.mem_map_of_mem (mem_post_iff.2 ⟨hevent, hcommit⟩))⟩
    · replace hrow := (get?_markFailed_of_ne (Ne.symm hkey)).symm.trans hrow
      refine (h key row hrow).imp (fun hcommitted => hcommitted.mono hsubset) fun hpending =>
        ⟨hpending.1, fun run hrun' hmem => ?_⟩
      cases hrun'
      exact hpending.2 _ hrun hmem
  | finish pushed hrun =>
    replace hrow := (get?_markSynced pushed s.queue key).symm.trans hrow
    split_ifs at hrow with hmem
    · obtain ⟨record, hrecord, rfl⟩ := Option.map_eq_some_iff.1 hrow
      rcases h key record hrecord with hcommitted | hpending
      · exact .inl (hcommitted)
      · exact absurd hmem (hpending.2 _ hrun)
    · exact (h key row hrow).imp (fun hcommitted => hcommitted) fun hpending =>
        ⟨hpending.1, fun run hrun' => by cases hrun'⟩

/-- **A record that the server does not commit is lost.** -/
theorem lost_of_not_accepted (hloaded : Loaded s) (hstep : Step timing s label s')
    (hnot : ¬ Accepted s label) : Lost s' := by
  cases hstep with
  | start hrun => exact absurd trivial hnot
  | pushed link insert refused error now id record todo pushed hrun hdone =>
    obtain ⟨hnodup, hrows, -⟩ := hloaded _ hrun
    simp only [Accepted, not_forall, not_or] at hnot
    obtain ⟨id', record', todo', pushed', hrun', hcommitted, hevent⟩ := hnot
    cases hrun.symm.trans hrun'
    refine ⟨id, record, hrows id record List.mem_cons_self, fun hnow => ?_, fun run hrun'' => ?_,
      fun _ => ⟨_, rfl, List.mem_append_right _ (List.mem_singleton.2 rfl)⟩⟩
    · rcases committed_append hnow with hbefore | ⟨-, event, hrecord, hmem⟩
      · exact hcommitted hbefore
      · exact hevent ⟨event, mem_post_iff.1 hmem⟩
    · cases hrun''
      exact (List.nodup_cons.1 hnodup).1
  | failed link insert refused error now id record todo pushed hrun hfailed =>
    obtain ⟨hnodup, hrows, -⟩ := hloaded _ hrun
    simp only [Accepted, not_forall, not_or] at hnot
    obtain ⟨id', record', todo', pushed', hrun', hcommitted, hevent⟩ := hnot
    cases hrun.symm.trans hrun'
    refine ⟨id, _, get?_markFailed_self now id error (hrows id record List.mem_cons_self),
      fun hnow => ?_, fun run hrun'' => ?_, fun hpending => nomatch hpending⟩
    · have hrecord : Committed _ id record := hnow
      rcases committed_append hrecord with hbefore | ⟨-, event, hrecord, hmem⟩
      · exact hcommitted hbefore
      · exact hevent ⟨event, mem_post_iff.1 hmem⟩
    · cases hrun''
      exact (List.nodup_cons.1 hnodup).1
  | finish pushed hrun => exact absurd trivial hnot

/-- **What is lost stays lost.** -/
theorem Lost.step (h : Lost s) (hstep : Step timing s label s') : Lost s' := by
  obtain ⟨key, row, hrow, hnot, htodo, hpushed⟩ := h
  cases hstep with
  | start hrun =>
    have hstatus : row.status ≠ .pending := fun hpending => by
      obtain ⟨run, hrun', -⟩ := hpushed hpending
      rw [hrun] at hrun'
      cases hrun'
    refine ⟨key, row, get?_openQueue_of_some hrow, hnot, fun run hrun' hmem => ?_,
      fun hpending => absurd hpending hstatus⟩
    replace hrun' : (if getPending 50 (openQueue s.queue) = [] then none
      else some ({ todo := getPending 50 (openQueue s.queue) } : Run)) = some run := hrun'
    split_ifs at hrun'
    cases hrun'
    obtain ⟨⟨key, row'⟩, hread, rfl⟩ := List.mem_map.1 hmem
    obtain ⟨hrow', hpending⟩ := mem_getPending hread
    cases (get?_openQueue_of_some hrow).symm.trans hrow'
    exact hstatus hpending
  | pushed link insert refused error now id record todo pushed hrun hdone =>
    have hne : key ≠ id := fun heq => htodo _ hrun (heq ▸ List.mem_cons_self)
    refine ⟨key, row, hrow, fun hnow => ?_, fun run hrun' => ?_, fun hpending => ?_⟩
    · rcases committed_append hnow with hbefore | ⟨heq, -⟩
      · exact hnot hbefore
      · exact hne heq
    · cases hrun'
      exact fun hmem => htodo _ hrun (List.mem_cons_of_mem _ hmem)
    · obtain ⟨run, hrun', hmem⟩ := hpushed hpending
      cases hrun.symm.trans hrun'
      exact ⟨_, rfl, List.mem_append_left _ hmem⟩
  | failed link insert refused error now id record todo pushed hrun hfailed =>
    have hne : key ≠ id := fun heq => htodo _ hrun (heq ▸ List.mem_cons_self)
    refine ⟨key, row, (get?_markFailed_of_ne hne.symm).trans hrow, fun hnow => ?_,
      fun run hrun' => ?_,
      fun hpending => ?_⟩
    · have hrecord : Committed _ key row := hnow
      rcases committed_append hrecord with hbefore | ⟨heq, -⟩
      · exact hnot hbefore
      · exact hne heq
    · cases hrun'
      exact fun hmem => htodo _ hrun (List.mem_cons_of_mem _ hmem)
    · obtain ⟨run, hrun', hmem⟩ := hpushed hpending
      cases hrun.symm.trans hrun'
      exact ⟨_, rfl, hmem⟩
  | finish pushed hrun =>
    by_cases hmem : key ∈ pushed
    · refine ⟨key, { row with status := .synced }, ?_, fun hnow => hnot hnow,
        fun run hrun' => (nomatch hrun'), fun hpending => (nomatch hpending)⟩
      exact (get?_markSynced pushed s.queue key).trans ((if_pos hmem).trans (congrArg _ hrow))
    · refine ⟨key, row, (get?_markSynced pushed s.queue key).trans ((if_neg hmem).trans hrow), hnot,
        fun run hrun' => (nomatch hrun'), fun hpending => ?_⟩
      obtain ⟨run, hrun', hmem'⟩ := hpushed hpending
      cases hrun.symm.trans hrun'
      exact absurd hmem' hmem

theorem Lost.run {labels : List Label} (h : Lost s) (hrun : (syncSystem timing).Run s labels s') :
    Lost s' :=
  hrun.invariant h fun _ _ _ hs hstep => hs.step (step_of_next hstep)

/-- A run whose pushes are committed keeps everything; any other run loses a record. -/
theorem good_or_lost {labels : List Label} (hrun : (syncSystem timing).Run s labels s')
    (hloaded : Loaded s) (hgood : Good s) :
    ((syncSystem timing).guard Accepted).Run s labels s' ∧ Good s' ∨
      ¬ ((syncSystem timing).guard Accepted).Run s labels s' ∧ Lost s' := by
  induction hrun with
  | nil s => exact .inl ⟨.nil s, hgood⟩
  | @cons s t u label labels hst hrun ih =>
    by_cases haccepted : Accepted s label
    · have hstep := step_of_next hst
      refine (ih (hloaded.step hstep) (hgood.step hloaded hstep haccepted)).imp
        (fun h => ⟨.cons ⟨hst, haccepted⟩ h.1, h.2⟩) fun h => ⟨fun hguard => h.1 ?_, h.2⟩
      cases hguard with
      | cons hst' hguard =>
        have heq : some t = some _ := hst.symm.trans hst'.1
        cases heq
        exact hguard
    · refine .inr ⟨fun hguard => ?_,
        (lost_of_not_accepted hloaded (step_of_next hst) haccepted).run hrun⟩
      cases hguard with
      | cons hst' _ => exact haccepted hst'.2

theorem kept_of_good (h : Good s) : Kept s :=
  kept_iff_pending.2 fun id record hrecord hnot => ((h id record hrecord).resolve_left hnot).1

theorem good_of_kept (h : Kept s) (hidle : s.run? = none) : Good s := by
  intro id record hrecord
  by_cases hcommitted : Committed s.committed id record
  · exact .inl hcommitted
  · refine .inr ⟨kept_iff_pending.1 h id record hrecord hcommitted, fun run hrun => ?_⟩
    rw [hidle] at hrun
    cases hrun

theorem lost_iff_not_kept (hidle : s.run? = none) : Lost s ↔ ¬ Kept s := by
  rw [kept_iff_pending]
  push Not
  refine exists_congr fun id => exists_congr fun record => and_congr_right fun _ =>
    and_congr_right fun _ => ?_
  simp [hidle]

/-- **Nothing is lost between two runs of the task** exactly when nothing was lost before, and the
server has committed every record that has been pushed. -/
theorem kept_iff {s₀ s : State} {labels : List Label} (h₀ : s₀.run? = none)
    (hrun : (syncSystem timing).Run s₀ labels s) (hidle : s.run? = none) :
    Kept s ↔ Kept s₀ ∧ ((syncSystem timing).guard Accepted).Run s₀ labels s := by
  by_cases hkept : Kept s₀
  · have hloaded : Loaded s₀ := fun run hrun => by
      rw [h₀] at hrun
      cases hrun
    rcases good_or_lost hrun hloaded (good_of_kept hkept h₀) with ⟨hguard, hgood⟩ | ⟨hguard, hlost⟩
    · exact iff_of_true (kept_of_good hgood) ⟨hkept, hguard⟩
    · exact iff_of_false ((lost_iff_not_kept hidle).1 hlost) fun h => hguard h.2
  · exact iff_of_false ((lost_iff_not_kept hidle).1 (((lost_iff_not_kept h₀).2 hkept).run hrun))
      fun h => hkept h.1

/-- A queue with one record. -/
def oneRecord : State where
  queue := Dict.empty.set 1 {
    entityType := "Order"
    entityId := "ORD-7"
    operation := "update"
    payload := some ⟨"\x7b\x7d", some (.object "")⟩ }
  committed := []
  run? := none

/-- The server commits both records of the queue. -/
theorem kept_oneRecord : ∃ s, (syncSystem .beforeResponse).Run oneRecord [.start,
    .push .answered (fun _ => .stored) false "" 0, .push .answered (fun _ => .stored) false "" 0,
    .finish] s ∧ Kept s := by
  have hkept : Kept oneRecord := by
    refine kept_iff_pending.2 fun id record hrecord _ => ?_
    unfold oneRecord at hrecord
    rw [Dict.get?_set] at hrecord
    split_ifs at hrecord
    · cases hrecord
      rfl
    · cases hrecord
  obtain ⟨s, hguard, hidle⟩ : ∃ s, ((syncSystem .beforeResponse).guard Accepted).Run oneRecord
      [.start, .push .answered (fun _ => .stored) false "" 0,
        .push .answered (fun _ => .stored) false "" 0, .finish] s ∧ s.run? = none := by
    refine ⟨_, .cons ⟨rfl, trivial⟩ (.cons ⟨rfl, ?_⟩ (.cons ⟨rfl, ?_⟩
      (.cons ⟨rfl, trivial⟩ (.nil _)))), rfl⟩
    · intro id record todo pushed hrun
      cases hrun
      exact .inr ⟨_, rfl, fun h => (by cases h), rfl, rfl⟩
    · intro id record todo pushed hrun
      cases hrun
      exact .inr ⟨_, rfl, fun h => (by cases h), rfl, rfl⟩
  exact ⟨s, hguard.of_guard, (kept_iff rfl hguard.of_guard hidle).2 ⟨hkept, hguard⟩⟩

theorem not_kept_of_status {id : ℕ} {status : SyncStatus}
    (hstatus : (s.queue.get? id).map SyncRecord.status = some status) (hne : status ≠ .pending)
    (hid : id ∉ s.committed.map Prod.fst) : ¬ Kept s := by
  intro h
  obtain ⟨record, hrecord, rfl⟩ := Option.map_eq_some_iff.1 hstatus
  refine hne (kept_iff_pending.1 h id record hrecord ?_)
  rintro ⟨event, -, hmem⟩
  exact hid (List.mem_map.2 ⟨_, hmem, rfl⟩)

/-- The request of the first record does not reach the server, and the record is never returned
again.  Where the commit comes after the response, a record that the server has not stored is
synced. -/
theorem lost_oneRecord :
    (∃ s labels, (syncSystem .beforeResponse).Run oneRecord labels s ∧ s.run? = none ∧ ¬ Kept s) ∧
      ∃ s labels, (syncSystem .afterResponse).Run oneRecord labels s ∧ s.run? = none ∧
        ¬ Kept s := by
  have hfailed : (Lts.runNext (State.next .beforeResponse) oneRecord [.start,
      .push .unreached (fun _ => .stored) false "timeout" 0,
      .push .answered (fun _ => .stored) false "" 0, .finish]).map (fun s =>
        ((s.queue.get? 1).map SyncRecord.status, s.committed.map Prod.fst, s.run?.isNone)) =
          some (some .failed, [2], true) := by decide
  have hsynced : (Lts.runNext (State.next .afterResponse) oneRecord [.start,
      .push .answered (fun _ => .failed "too long") false "" 0,
      .push .answered (fun _ => .stored) false "" 0, .finish]).map (fun s =>
        ((s.queue.get? 1).map SyncRecord.status, s.committed.map Prod.fst, s.run?.isNone)) =
          some (some .synced, [2], true) := by decide
  obtain ⟨s, hrun, hs⟩ := Lts.exists_run_of_map hfailed
  obtain ⟨t, hrun', ht⟩ := Lts.exists_run_of_map hsynced
  simp only [Prod.mk.injEq] at hs ht
  refine ⟨⟨s, _, hrun, Option.isNone_iff_eq_none.1 hs.2.2, ?_⟩,
    t, _, hrun', Option.isNone_iff_eq_none.1 ht.2.2, ?_⟩
  · exact not_kept_of_status hs.1 (by decide) (by rw [hs.2.1]; decide)
  · exact not_kept_of_status ht.1 (by decide) (by rw [ht.2.1]; decide)

end Pda

end OmsWmsTms
