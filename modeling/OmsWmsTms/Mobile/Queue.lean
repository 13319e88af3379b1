import OmsWmsTms.Mobile.Client
import Mathlib.Data.List.Count
import Mathlib.Data.List.Nodup

/-!
# What the offline queue loses

A call that writes the stored queue writes what it has read, changed: what another call has added in
the meantime is overwritten.  A replay goes through `request`, which queues it once more when the
network is gone; and an answer of any status but 0 takes the mutation out of the queue.

* `QueueKept` : what has been queued is in the queue once, or has been answered for good.
* `Undisturbed` : nothing is added between a read and a write of the queue, and a replay is answered
  for good.
* `queue_kept` : the runs whose steps are undisturbed keep the queue.
-/

namespace OmsWmsTms

namespace Mobile

variable {T : Type} {s s' : State T}

/-- The mutations of some entries. -/
def ids (entries : List Entry) : List ℕ := entries.map fun entry => entry.mutation.id

/-- The mutations in the stored queue. -/
def State.ids (s : State T) : List ℕ := Mobile.ids (s.stored.getD [])

/-- The server has answered a mutation with a success or a 4xx status. -/
def Answered (answers : List (ℕ × ℕ)) (id : ℕ) : Prop :=
  ∃ status, (id, status) ∈ answers ∧ IsFinal status

/-- **The queue loses nothing, and has no mutation twice.** -/
structure QueueKept (s : State T) : Prop where
  kept : ∀ id ∈ s.queued, s.ids.count id = 1 ∨ Answered s.answers id
  once : ∀ id, s.ids.count id ≤ 1

/-- What a call is about to write, as far as it has read it. -/
def Phase.read? : Phase → Option (List Entry)
  | writing _ entries => some entries
  | saving entries => some entries
  | _ => none

/-- A replay that comes to a good end: the request is no mutation and its loss leaves it in the
queue, or the server answers with a success or a 4xx status (or with status 0, which leaves it
there, too). -/
def Replayed (mutation : Mutation) : Outcome → Prop
  | .networkError => mutation.method = "GET"
  | .response status => status = 0 ∨ IsFinal status

/-- Every replay comes to a good end, and a call that writes the queue finds no entry there that was
not there when it read it. -/
def Undisturbed (s : State T) : Label T → Prop
  | .fetch t outcome _ => ∀ before entry after, s.calls t = .fetching (.replay before entry after) →
    Replayed entry.mutation outcome
  | .setItem t => ∀ entries, (s.calls t).read? = some entries → s.ids ⊆ ids entries
  | _ => True

/-- The start of the app: no call runs, and the stored queue has the queued mutations, each once and
unsynced. -/
structure AppStart (s : State T) : Prop where
  idle : ∀ t, s.calls t = .idle
  queued : s.ids = s.queued
  nodup : s.queued.Nodup
  requested : s.queued ⊆ s.requested
  unsynced : ∀ entry ∈ s.stored.getD [], entry.syncedAt = none

/-! ### What the calls know -/

/-- Entries that have been read of the queue, of which the marked ones have been answered for
good. -/
structure Looped (queued : List ℕ) (answers : List (ℕ × ℕ)) (entries : List Entry) : Prop where
  nodup : (ids entries).Nodup
  queued : ids entries ⊆ queued
  marked : ∀ entry ∈ entries, entry.syncedAt = none ∨ Answered answers entry.mutation.id

/-- What a call knows of its mutation, or of the entries that it has read. -/
def CallOk (queued requested : List ℕ) (answers : List (ℕ × ℕ)) : Phase → Prop
  | .fetching (.app mutation) => mutation.id ∈ requested ∧ mutation.id ∉ queued
  | .fetching (.replay before entry after) => Looped queued answers (before ++ entry :: after)
  | .reading (.app mutation) => mutation.id ∈ requested ∧ mutation.id ∉ queued
  | .writing (.app mutation) entries => (mutation.id ∈ requested ∧ mutation.id ∉ queued) ∧
    Looped queued answers entries ∧ ∀ entry ∈ entries, entry.syncedAt = none
  | .reading (.replay _ _ _) => False
  | .writing (.replay _ _ _) _ => False
  | .saving entries => Looped queued answers entries
  | .idle => True
  | .syncing => True

/-- The mutation that an app call of `request` may still queue. -/
def Phase.owned : Phase → Option ℕ
  | fetching (.app mutation) => some mutation.id
  | reading (.app mutation) => some mutation.id
  | writing (.app mutation) _ => some mutation.id
  | _ => none

/-- Two calls own different mutations. -/
def Apart (calls : T → Phase) : Prop :=
  ∀ t u, t ≠ u → ∀ id, (calls t).owned = some id → (calls u).owned ≠ some id

section CallOk

variable {queued queued' requested requested' : List ℕ} {answers answers' : List (ℕ × ℕ)}
  {entries before after : List Entry} {phase : Phase}

theorem Answered.mono {id : ℕ} (h : Answered answers id) (ha : answers ⊆ answers') :
    Answered answers' id := by
  obtain ⟨status, hmem, hfinal⟩ := h
  exact ⟨status, ha hmem, hfinal⟩

theorem Looped.mono (h : Looped queued answers entries) (hq : queued ⊆ queued')
    (ha : answers ⊆ answers') : Looped queued' answers' entries :=
  ⟨h.nodup, fun _ hid => hq (h.queued hid),
    fun entry hentry => (h.marked entry hentry).imp_right fun hanswered => hanswered.mono ha⟩

theorem owned_loop : (loop before after).owned = none := by
  cases after <;> rfl

theorem owned_resume (call : Call) (mark : Entry → Entry) : (call.resume mark).owned = none := by
  cases call with
  | app mutation => rfl
  | replay before entry after => exact owned_loop

theorem callOk_loop (h : Looped queued answers (before ++ after)) :
    CallOk queued requested answers (loop before after) := by
  cases after with
  | nil => simpa [loop, CallOk] using h
  | cons entry after => exact h

/-- What a call knows stays true, as long as nobody else queues its mutation. -/
theorem CallOk.mono (h : CallOk queued requested answers phase) (hq : queued ⊆ queued')
    (hr : requested ⊆ requested') (ha : answers ⊆ answers')
    (howned : ∀ id, phase.owned = some id → id ∈ queued' → id ∈ queued) :
    CallOk queued' requested' answers' phase := by
  match phase, h with
  | .fetching (.app mutation), h => exact ⟨hr h.1, fun hid => h.2 (howned _ rfl hid)⟩
  | .fetching (.replay before entry after), h => exact Looped.mono h hq ha
  | .reading (.app mutation), h => exact ⟨hr h.1, fun hid => h.2 (howned _ rfl hid)⟩
  | .writing (.app mutation) entries, h =>
    exact ⟨⟨hr h.1.1, fun hid => h.1.2 (howned _ rfl hid)⟩, h.2.1.mono hq ha, h.2.2⟩
  | .saving entries, h => exact Looped.mono h hq ha
  | .idle, _ => trivial
  | .syncing, _ => trivial

theorem mem_requested_of_owned {id : ℕ} (h : CallOk queued requested answers phase)
    (howned : phase.owned = some id) : id ∈ requested := by
  match phase, h with
  | .fetching (.app mutation), h => cases howned; exact h.1
  | .reading (.app mutation), h => cases howned; exact h.1
  | .writing (.app mutation) entries, h => cases howned; exact h.1.1
  | .fetching (.replay _ _ _), _ => cases howned
  | .saving _, _ => cases howned
  | .idle, _ => cases howned
  | .syncing, _ => cases howned

end CallOk

/-! ### The queue -/

/-- **What the queue and the calls keep.** -/
structure QueueInv (s : State T) : Prop where
  subset : s.ids ⊆ s.queued
  nodup : s.ids.Nodup
  unsynced : ∀ entry ∈ s.stored.getD [], entry.syncedAt = none
  kept : ∀ id ∈ s.queued, id ∈ s.ids ∨ Answered s.answers id
  requested : s.queued ⊆ s.requested
  calls : ∀ t, CallOk s.queued s.requested s.answers (s.calls t)
  apart : Apart s.calls

theorem queueInv_start (h : AppStart s) : QueueInv s where
  subset := h.queued ▸ fun _ hid => hid
  nodup := h.queued ▸ h.nodup
  unsynced := h.unsynced
  kept id hid := .inl (h.queued ▸ hid)
  requested := h.requested
  calls t := by
    rw [h.idle t]
    trivial
  apart t u _ id ht := by
    rw [h.idle t] at ht
    cases ht

theorem QueueInv.queueKept (h : QueueInv s) : QueueKept s where
  kept id hid := (h.kept id hid).imp_left fun hmem => List.count_eq_one_of_mem h.nodup hmem
  once id := List.nodup_iff_count_le_one.1 h.nodup id

/-- What is stored has been read. -/
theorem QueueInv.looped (h : QueueInv s) : Looped s.queued s.answers (s.stored.getD []) :=
  ⟨h.nodup, h.subset, fun entry hentry => .inl (h.unsynced entry hentry)⟩

variable [DecidableEq T]

theorem goto_calls {t u : T} {phase : Phase} :
    (s.goto t phase).calls u = if u = t then phase else s.calls u := by
  unfold State.goto
  simp only [Function.update_apply]

theorem Apart.goto (h : Apart s.calls) {t : T} {phase : Phase} (howned : ∀ id,
    phase.owned = some id → ∀ u, u ≠ t → (s.calls u).owned ≠ some id) :
    Apart (s.goto t phase).calls := by
  intro u v huv id hu hv
  rw [goto_calls] at hu hv
  split_ifs at hu hv with hut hvt
  · exact huv (hut.trans hvt.symm)
  · exact howned id hu v hvt hv
  · exact howned id hv u hut hu
  · exact h u v huv id hu hv

/-- A call that comes to another phase, and owns no other mutation than before. -/
theorem Apart.move (h : Apart s.calls) {t : T} {phase : Phase}
    (howned : ∀ id, phase.owned = some id → (s.calls t).owned = some id) :
    Apart (s.goto t phase).calls :=
  h.goto fun id hid u hut hu => h u t hut id hu (howned id hid)

/-- The calls, when one comes to another phase, and more has been queued, requested or answered. -/
theorem QueueInv.calls_goto (h : QueueInv s) {t : T} {phase : Phase} {queued requested : List ℕ}
    {answers : List (ℕ × ℕ)} (hphase : CallOk queued requested answers phase)
    (hq : s.queued ⊆ queued) (hr : s.requested ⊆ requested) (ha : s.answers ⊆ answers)
    (howned : ∀ u, u ≠ t → ∀ id, (s.calls u).owned = some id → id ∈ queued → id ∈ s.queued) :
    ∀ u, CallOk queued requested answers ((s.goto t phase).calls u) := by
  intro u
  rw [goto_calls]
  split_ifs with hut
  · exact hphase
  · exact (h.calls u).mono hq hr ha (howned u hut)

/-- A call that comes to another phase. -/
theorem QueueInv.goto (h : QueueInv s) {t : T} {phase : Phase}
    (hphase : CallOk s.queued s.requested s.answers phase)
    (howned : ∀ id, phase.owned = some id → (s.calls t).owned = some id) :
    QueueInv (s.goto t phase) :=
  ⟨h.subset, h.nodup, h.unsynced, h.kept, h.requested,
    h.calls_goto hphase (fun _ h => h) (fun _ h => h) (fun _ h => h) fun _ _ _ _ hid => hid,
    h.apart.move howned⟩

/-- Marking an entry that a replay has answered. -/
theorem looped_answered {queued : List ℕ} {answers : List (ℕ × ℕ)} {before after : List Entry}
    {entry : Entry} {status : ℕ} (now : ℤ)
    (h : Looped queued answers (before ++ entry :: after)) (hstatus : status = 0 ∨ IsFinal status) :
    Looped queued (answers ++ [(entry.mutation.id, status)])
      ((before ++ [entry.answered status now]) ++ after) := by
  have hmutation : (entry.answered status now).mutation = entry.mutation := by
    unfold Entry.answered
    split_ifs <;> rfl
  have hids : ids ((before ++ [entry.answered status now]) ++ after) =
      ids (before ++ entry :: after) := by
    simp [ids, hmutation]
  refine ⟨hids ▸ h.nodup, hids ▸ h.queued, fun key hkey => ?_⟩
  have hold : ∀ key ∈ before ++ entry :: after,
      key.syncedAt = none ∨ Answered (answers ++ [(entry.mutation.id, status)]) key.mutation.id :=
    fun key hkey => (h.marked key hkey).imp_right fun hanswered =>
      hanswered.mono (List.subset_append_left _ _)
  simp only [List.append_assoc, List.mem_append, List.mem_cons, List.not_mem_nil, or_false] at hkey
  rcases hkey with hkey | rfl | hkey
  · exact hold key (by simp [hkey])
  · by_cases hmarked : IsOk status ∨ status ≠ 0
    · -- an answer that marks the entry is a success, or has a status that is final
      have hfinal : IsFinal status := by
        rcases hstatus with rfl | hfinal
        · exact .inl (hmarked.resolve_right fun hne => hne rfl)
        · exact hfinal
      rw [hmutation]
      exact .inr ⟨status, List.mem_append_right _ (List.mem_singleton.2 rfl), hfinal⟩
    · have hsame : entry.answered status now = entry := if_neg hmarked
      rw [hsame]
      exact hold entry (by simp)
  · exact hold key (by simp [hkey])

theorem ids_append (entries : List Entry) (mutation : Mutation) :
    ids (entries ++ [{ mutation := mutation }]) = ids entries ++ [mutation.id] := by
  simp [ids]

/-- **An undisturbed step keeps the queue.** -/
theorem QueueInv.step {label : Label T} (h : QueueInv s) (hstep : Step s label s')
    (hcalm : Undisturbed s label) : QueueInv s' := by
  cases hstep with
  | request t mutation ht hnew =>
    have hr := List.subset_append_left s.requested [mutation.id]
    have hmem : mutation.id ∈ s.requested ++ [mutation.id] :=
      List.mem_append_right _ (List.mem_singleton.2 rfl)
    refine ⟨h.subset, h.nodup, h.unsynced, h.kept, fun id hid => hr (h.requested hid),
      h.calls_goto ⟨hmem, fun hid => hnew (h.requested hid)⟩ (fun _ h => h) hr (fun _ h => h)
        fun _ _ _ _ hid => hid, h.apart.goto fun id hid u _ hu => ?_⟩
    cases hid
    exact hnew (mem_requested_of_owned (h.calls u) hu)
  | syncMutations t ht => exact h.goto trivial fun id hid => nomatch hid
  | lost t now call ht hmutation =>
    have hcall := h.calls t
    rw [ht] at hcall
    cases call with
    | app mutation => exact h.goto hcall fun id hid => by rw [ht]; exact hid
    | replay before entry after => exact absurd (hcalm before entry after ht) hmutation
  | dropped t now call ht hget =>
    have hcall := h.calls t
    rw [ht] at hcall
    cases call with
    | app mutation => exact h.goto trivial fun id hid => nomatch hid
    | replay before entry after =>
      have hlooped : Looped s.queued s.answers (before ++ entry :: after) := hcall
      refine h.goto (callOk_loop ?_) fun key hkey => ?_
      · simpa using hlooped
      · rw [owned_resume] at hkey
        cases hkey
  | answered t status now call ht =>
    have hcall := h.calls t
    rw [ht] at hcall
    have ha := List.subset_append_left s.answers [(call.mutation.id, status)]
    have hphase : CallOk s.queued s.requested (s.answers ++ [(call.mutation.id, status)])
        (call.resume (Entry.answered status now)) := by
      cases call with
      | app mutation => trivial
      | replay before entry after =>
        exact callOk_loop (looped_answered now hcall (hcalm before entry after ht))
    refine ⟨h.subset, h.nodup, h.unsynced, fun id hid => (h.kept id hid).imp_right fun hanswered =>
      hanswered.mono ha, h.requested, h.calls_goto hphase (fun _ h => h) (fun _ h => h) ha
        fun _ _ _ _ hid => hid, h.apart.move fun id hid => ?_⟩
    rw [owned_resume] at hid
    cases hid
  | read t call ht =>
    have hcall := h.calls t
    rw [ht] at hcall
    cases call with
    | app mutation =>
      exact h.goto ⟨hcall, h.looped, h.unsynced⟩ fun id hid => by rw [ht]; exact hid
    | replay before entry after => exact hcall.elim
  | none t ht hstored => exact h.goto trivial fun id hid => nomatch hid
  | load t entries ht hstored =>
    have hlooped := h.looped
    rw [hstored] at hlooped
    refine h.goto (callOk_loop hlooped) fun id hid => ?_
    rw [owned_loop] at hid
    cases hid
  | write t call entries ht =>
    have hcall := h.calls t
    rw [ht] at hcall
    cases call with
    | replay before entry after => exact hcall.elim
    | app mutation =>
      obtain ⟨⟨hrequested, hnew⟩, hlooped, hunsynced⟩ := hcall
      have hcover : s.ids ⊆ ids entries := hcalm entries (by rw [ht]; rfl)
      have hq := List.subset_append_left s.queued [mutation.id]
      have hids : ids (entries ++ [{ mutation := mutation }]) = ids entries ++ [mutation.id] :=
        ids_append entries mutation
      refine ⟨?_, ?_, fun entry hentry => ?_, fun id hid => ?_, fun id hid => ?_,
        h.calls_goto trivial hq (fun _ h => h) (fun _ h => h) fun u hut id hu hid => ?_,
        h.apart.move fun id hid => nomatch hid⟩
      · change ids (entries ++ [{ mutation := mutation }]) ⊆ s.queued ++ [mutation.id]
        rw [hids]
        exact List.append_subset.2 ⟨fun id hid => hq (hlooped.queued hid),
          List.subset_append_right _ _⟩
      · change (ids (entries ++ [{ mutation := mutation }])).Nodup
        rw [hids, List.nodup_append_comm]
        exact List.nodup_cons.2 ⟨fun hid => hnew (hlooped.queued hid), hlooped.nodup⟩
      · rcases List.mem_append.1 hentry with hentry | hentry
        · exact hunsynced entry hentry
        · cases List.mem_singleton.1 hentry
          rfl
      · change id ∈ ids (entries ++ [{ mutation := mutation }]) ∨ Answered s.answers id
        rw [hids]
        rcases List.mem_append.1 hid with hid | hid
        · exact (h.kept id hid).imp_left fun hmem => List.mem_append_left _ (hcover hmem)
        · exact .inl (List.mem_append_right _ hid)
      · rcases List.mem_append.1 hid with hid | hid
        · exact h.requested hid
        · cases List.mem_singleton.1 hid
          exact hrequested
      · rcases List.mem_append.1 hid with hid | hid
        · exact hid
        · cases List.mem_singleton.1 hid
          exact absurd hu (h.apart t u hut.symm _ (by rw [ht]; rfl))
  | save t entries ht =>
    have hlooped : Looped s.queued s.answers entries := by
      have hcall := h.calls t
      rw [ht] at hcall
      exact hcall
    have hcover : s.ids ⊆ ids entries := hcalm entries (by rw [ht]; rfl)
    have hsublist : (ids (entries.filter fun entry => entry.syncedAt = none)).Sublist
      (ids entries) :=
      List.Sublist.map _ List.filter_sublist
    refine ⟨fun id hid => hlooped.queued (hsublist.subset hid), hlooped.nodup.sublist hsublist,
      fun entry hentry => of_decide_eq_true (List.mem_filter.1 hentry).2, fun id hid => ?_,
      h.requested, h.calls_goto trivial (fun _ h => h) (fun _ h => h) (fun _ h => h)
        fun _ _ _ _ hid => hid, h.apart.move fun id hid => nomatch hid⟩
    rcases h.kept id hid with hmem | hanswered
    · obtain ⟨entry, hentry, rfl⟩ := List.mem_map.1 (hcover hmem)
      rcases hlooped.marked entry hentry with hunsynced | hanswered
      · exact .inl (List.mem_map.2
          ⟨entry, List.mem_filter.2 ⟨hentry, decide_eq_true hunsynced⟩, rfl⟩)
      · exact .inr hanswered
    · exact .inr hanswered

/-- **What the app has queued is in the queue once, or has been answered for good**, in every state
of an undisturbed run. -/
theorem queue_kept {s₀ s : State T} {labels : List (Label T)} (h₀ : AppStart s₀)
    (hrun : (clientSystem.guard Undisturbed).Run s₀ labels s) : QueueKept s :=
  (hrun.invariant (queueInv_start h₀) fun _ _ _ hs hstep =>
    hs.step (step_of_next hstep.1) hstep.2).queueKept

/-- The app after it has queued a mutation. -/
def oneQueued : State Bool where
  stored := some [{ mutation := ⟨1, "POST", "/orders", none⟩ }]
  calls := fun _ => .idle
  requested := [1]
  queued := [1]
  answers := []

theorem appStart_oneQueued : AppStart oneQueued := by
  refine ⟨fun _ => rfl, rfl, List.nodup_singleton 1, fun _ h => h, fun entry hentry => ?_⟩
  cases List.mem_singleton.1 hentry
  rfl

/-- The queued mutation is replayed with success, while another one is requested with success. -/
theorem queue_kept_oneQueued : ∃ s, (clientSystem.guard Undisturbed).Run oneQueued
    [.syncMutations true, .getItem true, .request false ⟨2, "POST", "/orders", none⟩,
      .fetch false (.response 201) 0, .fetch true (.response 200) 0, .setItem true] s ∧
        QueueKept s := by
  obtain ⟨s, hrun⟩ : ∃ s, (clientSystem.guard Undisturbed).Run oneQueued
      [.syncMutations true, .getItem true, .request false ⟨2, "POST", "/orders", none⟩,
        .fetch false (.response 201) 0, .fetch true (.response 200) 0, .setItem true] s := by
    refine ⟨_, .cons ⟨rfl, trivial⟩ (.cons ⟨rfl, trivial⟩ (.cons ⟨rfl, trivial⟩
      (.cons ⟨rfl, ?_⟩ (.cons ⟨rfl, ?_⟩ (.cons ⟨rfl, ?_⟩ (.nil _))))))⟩
    · intro before entry after ht
      cases ht
    · exact fun _ _ _ _ => .inr (.inl (by decide))
    · intro entries ht
      cases ht
      exact fun _ h => h
  exact ⟨s, hrun, queue_kept appStart_oneQueued hrun⟩

/-- A mutation that is queued during a replay is lost; a replay that the network loses is queued a
second time; and a mutation that the server answers with 500 is dropped. -/
theorem queue_lost :
    (∃ (s₀ s : State Bool) (labels : List (Label Bool)), AppStart s₀ ∧
      clientSystem.Run s₀ labels s ∧ ¬ QueueKept s) ∧
    (∃ (s₀ s : State Bool) (labels : List (Label Bool)), AppStart s₀ ∧
      clientSystem.Run s₀ labels s ∧ ¬ ∀ id, s.ids.count id ≤ 1) ∧
    ∃ (s₀ s : State Bool) (labels : List (Label Bool)), AppStart s₀ ∧
      clientSystem.Run s₀ labels s ∧ ¬ QueueKept s := by
  have hadded : (Lts.runNext State.next oneQueued [.syncMutations true, .getItem true,
      .request false ⟨2, "POST", "/orders", none⟩, .fetch false .networkError 0, .getItem false,
      .setItem false, .fetch true (.response 200) 0, .setItem true]).map
        (fun s => (s.ids, s.queued, s.answers)) = some ([], [1, 2], [(1, 200)]) := by decide
  have htwice : (Lts.runNext State.next oneQueued [.syncMutations true, .getItem true,
      .fetch true .networkError 0, .getItem true, .setItem true]).map State.ids =
        some [1, 1] := by decide
  have hdropped : (Lts.runNext State.next oneQueued [.syncMutations true, .getItem true,
      .fetch true (.response 500) 0, .setItem true]).map
        (fun s => (s.ids, s.queued, s.answers)) = some ([], [1], [(1, 500)]) := by decide
  have hkept : ∀ {s : State Bool} {id : ℕ}, QueueKept s → s.ids = [] → id ∈ s.queued →
      Answered s.answers id := by
    intro s id h hids hid
    refine (h.kept id hid).resolve_left fun hcount => ?_
    rw [hids] at hcount
    cases hcount
  refine ⟨?_, ?_, ?_⟩
  · obtain ⟨s, hrun, hs⟩ := Lts.exists_run_of_map hadded
    simp only [Prod.mk.injEq] at hs
    refine ⟨oneQueued, s, _, appStart_oneQueued, hrun, fun h => ?_⟩
    obtain ⟨status, hmem, -⟩ := hkept h hs.1 (by rw [hs.2.1]; decide : 2 ∈ s.queued)
    rw [hs.2.2] at hmem
    cases List.mem_singleton.1 hmem
  · obtain ⟨s, hrun, hs⟩ := Lts.exists_run_of_map htwice
    refine ⟨oneQueued, s, _, appStart_oneQueued, hrun, fun h => ?_⟩
    have hcount := h 1
    rw [hs] at hcount
    exact absurd hcount (by decide)
  · obtain ⟨s, hrun, hs⟩ := Lts.exists_run_of_map hdropped
    simp only [Prod.mk.injEq] at hs
    refine ⟨oneQueued, s, _, appStart_oneQueued, hrun, fun h => ?_⟩
    obtain ⟨status, hmem, hfinal⟩ := hkept h hs.1 (by rw [hs.2.1]; decide : 1 ∈ s.queued)
    rw [hs.2.2] at hmem
    cases List.mem_singleton.1 hmem
    exact absurd hfinal (by decide)

end Mobile

end OmsWmsTms
