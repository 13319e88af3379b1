import OmsWmsTms.Pda.NothingLost
import Mathlib.Logic.Function.Basic

/-!
# Whose mutations a device pushes

The constructor of `SyncQueueService` inserts a row, with `INSERT OR IGNORE` into a table where
there is nothing to conflict with, and `process_pda_sync_queue` constructs the service on each of
its runs.

* `File`, `Device` : the database file, and the processes that run the task on it.
* `Device.next`, `deviceSystem` : constructions, the calls of the service, and the steps of the
  task.
* `Real` : a construction keeps the queue, and what the server has been sent was inserted.
* `restrict_real_iff` : a run is such exactly when nothing opens the queue twice, and no request of
  the task comes through.
-/

namespace OmsWmsTms

namespace Pda

/-! ### The device -/

/-- The database file: its table, and which of the rows callers have inserted. -/
structure File where
  queue : SyncQueue := .empty
  inserted : List ℕ := []

/-- A device: its file, if it has the table, and each process with its run of the task. -/
structure Device where
  file? : Option File
  tasks : ℕ → Option Run
  committed : List (ℕ × SyncEvent)
  /-- The records whose request has reached the server. -/
  pushed : List ℕ

/-- The file after `CREATE TABLE IF NOT EXISTS`. -/
def Device.file (d : Device) : File := d.file?.getD {}

/-- A device on which no task runs. -/
def Device.idle (file? : Option File) : Device where
  file?
  tasks _ := none
  committed := []
  pushed := []

/-- What a process works on. -/
def Device.view (d : Device) (i : ℕ) : State where
  queue := d.file.queue
  committed := d.committed
  run? := d.tasks i

/-- What the server is sent in a step of the task. -/
def State.sent (s : State) : Label → List ℕ
  | .push link _ _ _ _ =>
    match s.run? with
    | some ⟨(id, record) :: _, _⟩ =>
      if record.item?.isSome ∧ link ≠ .unreached then [id] else []
    | _ => []
  | _ => []

/-- What happens next. -/
inductive DeviceLabel
  /-- `SyncQueueService(db_path)`. -/
  | construct
  /-- A caller inserts a record. -/
  | insert (record : SyncRecord)
  | getPending (limit : ℕ)
  | markSynced (ids : List ℕ)
  | markFailed (id : ℕ) (error : String) (now : ℤ)
  /-- A step of `process_pda_sync_queue` in a process. -/
  | task (i : ℕ) (label : Label)
  /-- A process ends, wherever it is. -/
  | crash (i : ℕ)

/-- **One step.** -/
def Device.next (timing : Timing) (d : Device) : DeviceLabel → Option Device
  | .construct => some { d with file? := some { d.file with queue := openQueue d.file.queue } }
  | .insert record => d.file?.map fun file => { d with
      file? := some {
        queue := file.queue.set (nextId file.queue) record
        inserted := nextId file.queue :: file.inserted } }
  | .getPending _ => d.file?.map fun _ => d
  | .markSynced ids => d.file?.map fun file =>
      { d with file? := some { file with queue := markSynced ids file.queue } }
  | .markFailed id error now => d.file?.map fun file =>
      { d with file? := some { file with queue := markFailed now id error file.queue } }
  | .task i label => (State.next timing (d.view i) label).map fun s => {
      file? := some { d.file with queue := s.queue }
      tasks := Function.update d.tasks i s.run?
      committed := s.committed
      pushed := d.pushed ++ (d.view i).sent label }
  | .crash i => some { d with tasks := Function.update d.tasks i none }

/-- **The runs of a device.** -/
def deviceSystem (timing : Timing) : Lts Device DeviceLabel := .ofNext (Device.next timing)

/-! ### What is promised -/

/-- The steps that construct the service. -/
def DeviceLabel.Opens : DeviceLabel → Prop
  | .construct | .task _ .start => True
  | _ => False

/-- Every record that the server has been sent was inserted by a caller. -/
def OnlyInserted (d : Device) : Prop := ∀ id ∈ d.pushed, id ∈ d.file.inserted

/-- **A construction leaves an existing queue unchanged, and only what callers have inserted is
pushed.** -/
def Real (d : Device) (label : DeviceLabel) (d' : Device) : Prop :=
  (label.Opens → ∀ file, d.file? = some file → d'.file? = some file) ∧ OnlyInserted d'

/-- The service is constructed where there is no queue yet, and no request of the task reaches the
server. -/
def OpenedOnce (d : Device) : DeviceLabel → Prop
  | .construct | .task _ .start => d.file? = none
  | .task _ (.push link _ _ _ _) => link = .unreached
  | _ => True

/-! ### The steps -/

/-- Opening a queue adds a row to it. -/
theorem openQueue_ne (queue : SyncQueue) : openQueue queue ≠ queue := by
  intro h
  have hnew : (openQueue queue).get? (nextId queue) = some initRecord := by
    unfold openQueue
    rw [Dict.get?_set, if_pos rfl]
  rw [h, get?_nextId] at hnew
  cases hnew

/-- A task has nothing to push but rows of the queue that no caller has inserted, and that can be
sent. -/
structure Unreal (d : Device) : Prop where
  pushed : OnlyInserted d
  todo : ∀ i run, d.tasks i = some run → ∀ id record, (id, record) ∈ run.todo →
    (d.file.queue.get? id).isSome ∧ id ∉ d.file.inserted ∧ record.item?.isSome

variable {timing : Timing} {d d' : Device} {label : DeviceLabel}

/-- A row that a task may push. -/
def Device.Sends (d : Device) (i : ℕ) (id : ℕ) (record : SyncRecord) : Prop :=
  ∃ run, d.tasks i = some run ∧ (id, record) ∈ run.todo

/-- What has to be kept: the rows, and which of them callers have inserted. -/
theorem Unreal.mono (h : Unreal d) (hpushed : d'.pushed = d.pushed)
    (hinserted : d.file.inserted ⊆ d'.file.inserted)
    (hrows : ∀ id, (d.file.queue.get? id).isSome → id ∉ d.file.inserted →
      (d'.file.queue.get? id).isSome ∧ id ∉ d'.file.inserted)
    (htodo : ∀ i id record, d'.Sends i id record → d.Sends i id record ∨
      (d'.file.queue.get? id).isSome ∧ id ∉ d'.file.inserted ∧ record.item?.isSome) :
    Unreal d' := by
  refine ⟨fun id hid => hinserted (h.pushed id (hpushed ▸ hid)),
    fun i run hrun id record hmem => ?_⟩
  rcases htodo i id record ⟨run, hrun, hmem⟩ with ⟨run₀, hrun₀, hmem₀⟩ | hnew
  · obtain ⟨hrow, hnot, hitem⟩ := h.todo i run₀ hrun₀ id record hmem₀
    exact ⟨(hrows id hrow hnot).1, (hrows id hrow hnot).2, hitem⟩
  · exact hnew

theorem isSome_get?_openQueue {queue : SyncQueue} {id : ℕ} (h : (queue.get? id).isSome) :
    ((openQueue queue).get? id).isSome := by
  obtain ⟨record, hrecord⟩ := Option.isSome_iff_exists.1 h
  rw [get?_openQueue_of_some hrecord]
  rfl

theorem isSome_get?_markSynced (ids : List ℕ) (queue : SyncQueue) (id : ℕ) :
    ((markSynced ids queue).get? id).isSome = (queue.get? id).isSome := by
  rw [get?_markSynced]
  split_ifs
  · exact Option.isSome_map
  · rfl

theorem isSome_get?_markFailed (now : ℤ) (id key : ℕ) (error : String) (queue : SyncQueue) :
    ((markFailed now id error queue).get? key).isSome = (queue.get? key).isSome := by
  unfold markFailed
  rw [Dict.get?_modify]
  split_ifs
  · exact Option.isSome_map
  · rfl

/-- The key of an inserted row is a new one. -/
theorem ne_nextId {queue : SyncQueue} {id : ℕ} (h : (queue.get? id).isSome) :
    id ≠ nextId queue := by
  rintro rfl
  rw [get?_nextId] at h
  cases h

/-- A step of the task, seen in the device. -/
theorem sends_task {i j id : ℕ} {record : SyncRecord} {s : State} {pushed : List ℕ}
    (h : Device.Sends {
      file? := some { d.file with queue := s.queue }
      tasks := Function.update d.tasks i s.run?
      committed := s.committed
      pushed } j id record) :
    d.Sends j id record ∨ ∃ run, s.run? = some run ∧ (id, record) ∈ run.todo := by
  obtain ⟨run, hrun, hmem⟩ := h
  change Function.update d.tasks i s.run? j = some run at hrun
  rw [Function.update_apply] at hrun
  split_ifs at hrun
  · exact .inr ⟨run, hrun, hmem⟩
  · exact .inl ⟨run, hrun, hmem⟩

theorem Unreal.task {i : ℕ} {s : State} {label : Label} (h : Unreal d)
    (hstep : Step timing (d.view i) label s) (hopened : OpenedOnce d (.task i label)) :
    Unreal {
      file? := some { d.file with queue := s.queue }
      tasks := Function.update d.tasks i s.run?
      committed := s.committed
      pushed := d.pushed ++ (d.view i).sent label } := by
  cases hstep with
  | start hrun =>
    have hnone : d.file? = none := hopened
    have hfile : d.file = {} := by rw [Device.file, hnone]; rfl
    refine h.mono (List.append_nil _) (List.Subset.refl _)
      (fun id hrow hnot => ⟨isSome_get?_openQueue hrow, hnot⟩) fun j id record hsends => ?_
    refine (sends_task hsends).imp_right ?_
    -- the only row of a new queue is the one of the constructor
    rintro ⟨run, hrun', hmem⟩
    change (if getPending 50 (openQueue d.file.queue) = [] then none
      else some ({ todo := getPending 50 (openQueue d.file.queue) } : Run)) = some run at hrun'
    split_ifs at hrun'
    cases hrun'
    obtain ⟨hrow, -⟩ := mem_getPending hmem
    rcases eq_of_get?_openQueue hrow with rfl | hold
    · refine ⟨Option.isSome_iff_exists.2 ⟨_, hrow⟩, ?_, rfl⟩
      change id ∉ d.file.inserted
      rw [hfile]
      exact List.not_mem_nil
    · rw [hfile] at hold
      cases hold
  | pushed link insert refused error now id record todo pushed hrun hdone =>
    have hlink : link = .unreached := hopened
    subst hlink
    -- a push whose request does not reach the server ends with an exception
    unfold post at hdone
    split at hdone <;> cases hdone
  | failed link insert refused error now id record todo pushed hrun hfailed =>
    have hlink : link = .unreached := hopened
    have hsent : (d.view i).sent (.push link insert refused error now) = [] := by
      simp [State.sent, hrun, hlink]
    refine h.mono (by rw [hsent]; exact List.append_nil _) (List.Subset.refl _)
      (fun key hrow hnot => ⟨?_, hnot⟩) fun j key row hsends => ?_
    · exact (isSome_get?_markFailed now id key error d.file.queue).trans hrow
    · rcases sends_task hsends with hsends | ⟨run, hrun', hmem⟩
      · exact .inl hsends
      · cases hrun'
        obtain ⟨hrow, hnot, hitem⟩ := h.todo i _ hrun key row (List.mem_cons_of_mem _ hmem)
        exact .inr ⟨(isSome_get?_markFailed now id key error d.file.queue).trans hrow, hnot, hitem⟩
  | finish pushed hrun =>
    refine h.mono (List.append_nil _) (List.Subset.refl _)
      (fun key hrow hnot => ⟨?_, hnot⟩) fun j key row hsends => ?_
    · exact (isSome_get?_markSynced pushed d.file.queue key).trans hrow
    · rcases sends_task hsends with hsends | ⟨run, hrun', -⟩
      · exact .inl hsends
      · cases hrun'

/-- A step that meets the condition gives the task nothing new to push. -/
theorem Unreal.step (h : Unreal d) (hstep : (deviceSystem timing).step d label d')
    (hopened : OpenedOnce d label) : Unreal d' := by
  replace hstep : d.next timing label = some d' := hstep
  cases label with
  | construct =>
    cases hstep
    exact h.mono rfl (List.Subset.refl _)
      (fun id hrow hnot => ⟨isSome_get?_openQueue hrow, hnot⟩) fun _ _ _ => .inl
  | insert record =>
    obtain ⟨file, hfile, rfl⟩ := Option.map_eq_some_iff.1 hstep
    have hd : d.file = file := by rw [Device.file, hfile]; rfl
    refine h.mono rfl ?_ (fun id hrow hnot => ⟨?_, ?_⟩) fun _ _ _ => .inl
    · rw [hd]
      exact List.subset_cons_self _ _
    · rw [hd] at hrow
      change ((file.queue.set (nextId file.queue) record).get? id).isSome
      rw [Dict.get?_set, if_neg (ne_nextId hrow).symm]
      exact hrow
    · rw [hd] at hrow hnot
      exact List.not_mem_cons_of_ne_of_not_mem (ne_nextId hrow) hnot
  | getPending limit =>
    obtain ⟨file, -, rfl⟩ := Option.map_eq_some_iff.1 hstep
    exact h
  | markSynced ids =>
    obtain ⟨file, hfile, rfl⟩ := Option.map_eq_some_iff.1 hstep
    have hd : d.file = file := by rw [Device.file, hfile]; rfl
    subst hd
    exact h.mono rfl (List.Subset.refl _)
      (fun id hrow hnot => ⟨(isSome_get?_markSynced ids _ id).trans hrow, hnot⟩) fun _ _ _ => .inl
  | markFailed id error now =>
    obtain ⟨file, hfile, rfl⟩ := Option.map_eq_some_iff.1 hstep
    have hd : d.file = file := by rw [Device.file, hfile]; rfl
    subst hd
    exact h.mono rfl (List.Subset.refl _)
      (fun key hrow hnot => ⟨(isSome_get?_markFailed now id key error _).trans hrow, hnot⟩)
      fun _ _ _ => .inl
  | task i label =>
    obtain ⟨s, hs, rfl⟩ := Option.map_eq_some_iff.1 hstep
    exact h.task (step_of_next hs) hopened
  | crash i =>
    cases hstep
    refine h.mono rfl (List.Subset.refl _) (fun id hrow hnot => ⟨hrow, hnot⟩) ?_
    rintro j id record ⟨run, hrun, hmem⟩
    change Function.update d.tasks i none j = some run at hrun
    rw [Function.update_apply] at hrun
    split_ifs at hrun
    exact .inl ⟨run, hrun, hmem⟩

/-- Opening an existing queue changes it. -/
theorem opens_iff {file' : File} (hqueue : file'.queue = openQueue d.file.queue) :
    (∀ file, d.file? = some file → some file' = some file) ↔ d.file? = none := by
  refine ⟨fun h => ?_, fun hnone file hfile => ?_⟩
  · by_contra hsome
    obtain ⟨file, hfile⟩ := Option.ne_none_iff_exists'.1 hsome
    have hd : d.file = file := by rw [Device.file, hfile]; rfl
    cases h file hfile
    rw [hd] at hqueue
    exact openQueue_ne _ hqueue.symm
  · rw [hnone] at hfile
    cases hfile

/-- A request of the task is for a record that no caller has inserted. -/
theorem sent_iff (h : Unreal d) {i : ℕ} {s : State} {label : Label}
    (hstep : Step timing (d.view i) label s) (hstart : label ≠ .start) :
    (∀ id ∈ (d.view i).sent label, id ∈ d.file.inserted) ↔ OpenedOnce d (.task i label) := by
  have hpush : ∀ link insert refused error now id record todo pushed,
      d.tasks i = some ⟨(id, record) :: todo, pushed⟩ →
      ((∀ id ∈ (d.view i).sent (.push link insert refused error now), id ∈ d.file.inserted) ↔
        link = .unreached) := by
    intro link insert refused error now id record todo pushed hrun
    obtain ⟨-, hnot, hitem⟩ := h.todo i _ hrun id record List.mem_cons_self
    have hsent : (d.view i).sent (.push link insert refused error now) =
        if link ≠ .unreached then [id] else [] := by
      simp [State.sent, Device.view, hrun, hitem]
    rw [hsent]
    by_cases hlink : link = .unreached
    · simp [hlink]
    · simp [hlink, hnot]
  cases hstep with
  | start hrun => exact absurd rfl hstart
  | pushed link insert refused error now id record todo pushed hrun hdone =>
    exact hpush link insert refused error now id record todo pushed hrun
  | failed link insert refused error now id record todo pushed hrun hfailed =>
    exact hpush link insert refused error now id record todo pushed hrun
  | finish pushed hrun => exact iff_of_true (fun id hid => by cases hid) trivial

/-- **One step does what is promised exactly when it meets the condition.** -/
theorem real_iff (h : Unreal d) (hstep : (deviceSystem timing).step d label d') :
    Real d label d' ↔ OpenedOnce d label := by
  replace hstep : d.next timing label = some d' := hstep
  cases label with
  | construct =>
    cases hstep
    exact (and_iff_left h.pushed).trans ⟨fun hkeeps => (opens_iff rfl).1 (hkeeps trivial),
      fun hnone _ => (opens_iff rfl).2 hnone⟩
  | insert record =>
    have hkept := h.step hstep trivial
    exact iff_of_true ⟨fun hopens => hopens.elim, hkept.pushed⟩ trivial
  | getPending limit =>
    have hkept := h.step hstep trivial
    exact iff_of_true ⟨fun hopens => hopens.elim, hkept.pushed⟩ trivial
  | markSynced ids =>
    have hkept := h.step hstep trivial
    exact iff_of_true ⟨fun hopens => hopens.elim, hkept.pushed⟩ trivial
  | markFailed id error now =>
    have hkept := h.step hstep trivial
    exact iff_of_true ⟨fun hopens => hopens.elim, hkept.pushed⟩ trivial
  | crash i =>
    have hkept := h.step hstep trivial
    exact iff_of_true ⟨fun hopens => hopens.elim, hkept.pushed⟩ trivial
  | task i label =>
    obtain ⟨s, hs, rfl⟩ := Option.map_eq_some_iff.1 hstep
    replace hs := step_of_next hs
    have hpushed : (∀ id ∈ d.pushed ++ (d.view i).sent label, id ∈ d.file.inserted) ↔
        ∀ id ∈ (d.view i).sent label, id ∈ d.file.inserted := by
      simp only [List.forall_mem_append]
      exact and_iff_right h.pushed
    by_cases hstart : label = .start
    · subst hstart
      refine (and_iff_left (hpushed.2 fun id hid => by cases hid)).trans ?_
      cases hs with
      | start hrun => exact ⟨fun hkeeps => (opens_iff rfl).1 (hkeeps trivial),
          fun hnone _ => (opens_iff rfl).2 hnone⟩
    · refine Iff.trans (and_iff_right fun hopens => ?_) (hpushed.trans (sent_iff h hs hstart))
      cases label with
      | start => exact absurd rfl hstart
      | push => exact hopens.elim
      | finish => exact hopens.elim

theorem unreal_idle (file? : Option File) : Unreal (.idle file?) :=
  ⟨fun _ hid => (by cases hid), fun _ _ hrun => (by cases hrun)⟩

/-- **The queue holds only what callers have inserted**, in the runs in which it is opened once and
the task never reaches the server, and in no others. -/
theorem restrict_real_iff (file? : Option File) (labels : List DeviceLabel) (d : Device) :
    ((deviceSystem timing).restrict Real).Run (.idle file?) labels d ↔
      ((deviceSystem timing).guard OpenedOnce).Run (.idle file?) labels d :=
  Lts.Run.restrict_iff_guard (fun _ _ _ h hstep => h.step hstep) (fun _ _ _ h => real_iff h)
    (unreal_idle file?)

/-- The second construction adds a row to the queue of the first one; and the server accepts an
order that nobody has made. -/
theorem pushes_initRecord :
    (∃ d, (deviceSystem .beforeResponse).Run (.idle none) [.construct] d ∧
      ∃ d', (deviceSystem .beforeResponse).step d .construct d' ∧
        d.file.queue.items = [(1, initRecord)] ∧
        d'.file.queue.items = [(1, initRecord), (2, initRecord)]) ∧
    ∃ d, (deviceSystem .beforeResponse).Run (.idle none) [.task 0 .start,
        .task 0 (.push .answered (fun _ => .stored) false "" 0)] d ∧
      d.committed.map Prod.fst = [1] ∧ ¬ OnlyInserted d := by
  refine ⟨⟨_, .single rfl, _, rfl, by decide, by decide⟩,
    _, .cons rfl (.single rfl), by decide, fun h => ?_⟩
  exact absurd (h 1 (by decide)) (by decide)

end Pda

end OmsWmsTms
