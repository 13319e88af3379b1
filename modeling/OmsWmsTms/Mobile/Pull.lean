import OmsWmsTms.Outbox.Dispatch

/-!
# Pulling the changes of the server

`sync_pull` of `src/api/v1/mobile.py` returns the newest dispatched events first, up to a limit, and
a client asks for what is not older than the newest event that it has.

* `IsPage` : what the query of `sync_pull` can return.
* `PullState`, `pullSystem` : the table and a client, while events are appended and dispatched.
* `Lost` : a dispatched event that no later pull can return.
* `complete_iff` : the client has everything exactly when no event has been lost on the way, and the
  last page leaves out nothing new.
-/

namespace OmsWmsTms

namespace Mobile

open Outbox (Events OutboxEvent OutboxEventStatus markDispatched)

/-! ### The query -/

/-- The rows of `sync_pull`: the dispatched events from a time on. -/
def matching (since : Option ℤ) (events : Events) : List (Uuid × OutboxEvent) :=
  events.items.filter fun item =>
    item.2.status = .dispatched ∧ ∀ t ∈ since, t ≤ item.2.createdAt

/-- **A page**: the newest rows; those of the same time are in any order. -/
def IsPage (since : Option ℤ) (limit : ℕ) (events : Events) (page : List (Uuid × OutboxEvent)) :
    Prop :=
  ∃ rows : List (Uuid × OutboxEvent), rows.Perm (matching since events) ∧
    rows.Pairwise (fun a b => b.2.createdAt ≤ a.2.createdAt) ∧ page = rows.take limit

/-- `SyncPullResponse`, of which the client reads the identifiers and the times. -/
structure SyncPullResponse where
  changes : List (Uuid × ℤ)
  hasMore : Bool

/-- The response with a page. -/
def syncPull (limit : ℕ) (page : List (Uuid × OutboxEvent)) : SyncPullResponse where
  changes := page.map fun item => (item.1, item.2.createdAt)
  hasMore := limit ≤ page.length

/-! ### The client -/

/-- The newest time of what a client has received. -/
def newest : List (Uuid × ℤ) → Option ℤ
  | [] => none
  | change :: received =>
    match newest received with
    | none => some change.2
    | some t => some (if change.2 ≤ t then t else change.2)

/-- The table, and what the client has received. -/
structure PullState where
  events : Events
  received : List (Uuid × ℤ)

/-- What happens next. -/
inductive PullLabel
  /-- A service commits a new event. -/
  | append (id : Uuid) (createdAt : ℤ)
  /-- `mark_dispatched`. -/
  | dispatch (ids : List Uuid) (now : ℤ)
  /-- The client pulls, and gets a page. -/
  | pull (limit : ℕ) (page : List (Uuid × OutboxEvent))

/-- **One step.** -/
inductive PullStep (s : PullState) : PullLabel → PullState → Prop
  | append (id : Uuid) (createdAt : ℤ) (hfree : s.events.get? id = none) :
    PullStep s (.append id createdAt) { s with events := s.events.set id { createdAt } }
  | dispatch (ids : List Uuid) (now : ℤ) :
    PullStep s (.dispatch ids now) { s with events := markDispatched now ids s.events }
  | pull (limit : ℕ) (page : List (Uuid × OutboxEvent))
    (hpage : IsPage (newest s.received) limit s.events page) :
    PullStep s (.pull limit page)
      { s with received := s.received ++ (syncPull limit page).changes }

/-- **The runs of a client.** -/
def pullSystem : Lts PullState PullLabel := ⟨PullStep⟩

/-- The client has received an event. -/
def PullState.Has (s : PullState) (id : Uuid) : Prop := id ∈ s.received.map Prod.fst

/-- The client has received every dispatched event. -/
def Complete (s : PullState) : Prop :=
  ∀ id event, s.events.get? id = some event → event.status = .dispatched → s.Has id

/-! ### What is lost -/

/-- The client has received something newer. -/
def PullState.Newer (s : PullState) (createdAt : ℤ) : Prop :=
  ∃ change ∈ s.received, createdAt < change.2

/-- A dispatched event that the client has not received, and for which it does not ask any more. -/
def Lost (s : PullState) : Prop :=
  ∃ id event, s.events.get? id = some event ∧ event.status = .dispatched ∧ ¬ s.Has id ∧
    s.Newer event.createdAt

/-- A page leaves out an event that the client has not received. -/
def LeavesOut (s : PullState) (page : List (Uuid × OutboxEvent)) (id : Uuid)
    (event : OutboxEvent) : Prop :=
  (id, event) ∈ matching (newest s.received) s.events ∧ (id, event) ∉ page ∧ ¬ s.Has id

/-- What is dispatched is not older than what the client has; and a page that leaves out an event
has none that is newer. -/
def KeepsUp (s : PullState) : PullLabel → Prop
  | .append _ _ => True
  | .dispatch ids _ => ∀ id ∈ ids, ∀ event, s.events.get? id = some event →
      s.Has id ∨ ¬ s.Newer event.createdAt
  | .pull _ page => ∀ id event, LeavesOut s page id event →
      ∀ item ∈ page, item.2.createdAt ≤ event.createdAt

theorem newest_le_iff {received : List (Uuid × ℤ)} {x : ℤ} :
    (∀ t ∈ newest received, t ≤ x) ↔ ∀ change ∈ received, change.2 ≤ x := by
  induction received with
  | nil => simp [newest]
  | cons change received ih =>
    rw [List.forall_mem_cons, ← ih, newest]
    cases newest received with
    | none => simp
    | some t =>
      simp only [Option.mem_some_iff, forall_eq']
      split_ifs with hle <;> omega

/-- The client asks for what it has received nothing newer than. -/
theorem mem_matching_iff {s : PullState} {id : Uuid} {event : OutboxEvent} :
    (id, event) ∈ matching (newest s.received) s.events ↔
      s.events.get? id = some event ∧ event.status = .dispatched ∧ ¬ s.Newer event.createdAt := by
  have hmem : (id, event) ∈ s.events.items ↔ s.events.get? id = some event :=
    ⟨Dict.get?_of_mem_items, Dict.mem_items_of_get?⟩
  unfold matching PullState.Newer
  rw [List.mem_filter, hmem, decide_eq_true_eq, newest_le_iff]
  push Not
  rfl

theorem mem_matching_of_mem_page {s : PullState} {limit : ℕ} {page : List (Uuid × OutboxEvent)}
    {item : Uuid × OutboxEvent} (hpage : IsPage (newest s.received) limit s.events page)
    (hmem : item ∈ page) : item ∈ matching (newest s.received) s.events := by
  obtain ⟨rows, hperm, -, rfl⟩ := hpage
  exact hperm.mem_iff.1 (List.mem_of_mem_take hmem)

variable {s s' : PullState} {label : PullLabel}

theorem has_append {received : List (Uuid × ℤ)} {limit : ℕ} {page : List (Uuid × OutboxEvent)}
    {events : Events} {id : Uuid} :
    PullState.Has ⟨events, received ++ (syncPull limit page).changes⟩ id ↔
      id ∈ received.map Prod.fst ∨ ∃ event, (id, event) ∈ page := by
  simp [PullState.Has, syncPull]

theorem newer_append {received : List (Uuid × ℤ)} {limit : ℕ} {page : List (Uuid × OutboxEvent)}
    {events : Events} {createdAt : ℤ} :
    PullState.Newer ⟨events, received ++ (syncPull limit page).changes⟩ createdAt ↔
      (∃ change ∈ received, createdAt < change.2) ∨
        ∃ item ∈ page, createdAt < item.2.createdAt := by
  simp [PullState.Newer, syncPull, or_and_right, exists_or]

/-- **What is lost stays lost.** -/
theorem Lost.step (h : Lost s) (hstep : pullSystem.step s label s') : Lost s' := by
  -- no step takes back what the client has, and a page holds nothing older than it
  obtain ⟨id, event, hevent, hdispatched, hhas, hnewer⟩ := h
  replace hstep : PullStep s label s' := hstep
  cases hstep with
  | append key createdAt hfree =>
    refine ⟨id, event, ?_, hdispatched, hhas, hnewer⟩
    change (s.events.set key { createdAt }).get? id = some event
    rw [Dict.get?_set]
    split_ifs with hkey
    · rw [← hkey, hfree] at hevent
      cases hevent
    · exact hevent
  | dispatch ids now =>
    by_cases hid : id ∈ ids
    · exact ⟨id, _, Outbox.get?_markDispatched_of_mem now hid hevent, rfl, hhas, hnewer⟩
    · refine ⟨id, event, ?_, hdispatched, hhas, hnewer⟩
      change (markDispatched now ids s.events).get? id = some event
      rw [Outbox.get?_markDispatched, if_neg hid]
      exact hevent
  | pull limit page hpage =>
    refine ⟨id, event, hevent, hdispatched, fun hnow => ?_, newer_append.2 (.inl hnewer)⟩
    rcases has_append.1 hnow with hbefore | ⟨event', hmem⟩
    · exact hhas hbefore
    · obtain ⟨hevent', -, hnot⟩ := mem_matching_iff.1 (mem_matching_of_mem_page hpage hmem)
      cases hevent.symm.trans hevent'
      exact hnot hnewer

/-- **A step loses an event exactly when** it dispatches one too late, or leaves one out behind a
newer one. -/
theorem lost_step_iff (h : ¬ Lost s) (hstep : pullSystem.step s label s') :
    ¬ Lost s' ↔ KeepsUp s label := by
  replace hstep : PullStep s label s' := hstep
  cases hstep with
  | append key createdAt hfree =>
    refine iff_of_true (fun hlost => ?_) trivial
    obtain ⟨id, event, hevent, hdispatched, hhas, hnewer⟩ := hlost
    change (s.events.set key { createdAt }).get? id = some event at hevent
    rw [Dict.get?_set] at hevent
    split_ifs at hevent
    · cases hevent
      cases hdispatched
    · exact h ⟨id, event, hevent, hdispatched, hhas, hnewer⟩
  | dispatch ids now =>
    -- what is dispatched late becomes visible behind the time that the client asks from
    constructor
    · intro hkept id hid event hevent
      by_contra hnot
      rw [not_or, not_not] at hnot
      exact hkept ⟨id, _, Outbox.get?_markDispatched_of_mem now hid hevent, rfl, hnot.1, hnot.2⟩
    · rintro hkeeps ⟨id, event, hevent, hdispatched, hhas, hnewer⟩
      change (markDispatched now ids s.events).get? id = some event at hevent
      rw [Outbox.get?_markDispatched] at hevent
      split_ifs at hevent with hid
      · obtain ⟨before, hbefore, rfl⟩ := Option.map_eq_some_iff.1 hevent
        exact (hkeeps id hid before hbefore).elim hhas fun hnot => hnot hnewer
      · exact h ⟨id, event, hevent, hdispatched, hhas, hnewer⟩
  | pull limit page hpage =>
    constructor
    -- an item of the page that is newer than what the page leaves out would lose it
    · rintro hkept id event ⟨hmatching, hpage', hhas⟩ item hitem
      obtain ⟨hevent, hdispatched, -⟩ := mem_matching_iff.1 hmatching
      by_contra hlt
      refine hkept ⟨id, event, hevent, hdispatched, fun hnow => ?_,
        newer_append.2 (.inr ⟨item, hitem, not_le.1 hlt⟩)⟩
      rcases has_append.1 hnow with hbefore | ⟨event', hmem⟩
      · exact hhas hbefore
      · obtain ⟨hevent', -, -⟩ := mem_matching_iff.1 (mem_matching_of_mem_page hpage hmem)
        cases hevent.symm.trans hevent'
        exact hpage' hmem
    · rintro hkeeps ⟨id, event, hevent, hdispatched, hhas, hnewer⟩
      rw [has_append, not_or] at hhas
      obtain ⟨hbefore, hpage'⟩ := hhas
      rcases newer_append.1 hnewer with hnewer | ⟨item, hitem, hlt⟩
      · exact h ⟨id, event, hevent, hdispatched, hbefore, hnewer⟩
      · have hmatching : (id, event) ∈ matching (newest s.received) s.events :=
          mem_matching_iff.2 ⟨hevent, hdispatched, fun hnewer =>
            h ⟨id, event, hevent, hdispatched, hbefore, hnewer⟩⟩
        have hle :=
          hkeeps id event ⟨hmatching, fun hmem => hpage' ⟨event, hmem⟩, hbefore⟩ item hitem
        exact absurd hlt (not_lt.2 hle)

/-! ### The runs -/

/-- The start: the client has received nothing. -/
def PullState.start (events : Events) : PullState := { events, received := [] }

theorem not_lost_start (events : Events) : ¬ Lost (.start events) := by
  rintro ⟨-, -, -, -, -, change, hmem, -⟩
  cases hmem

/-- A run loses an event, unless all of its steps keep up. -/
theorem not_lost_iff {labels : List PullLabel} (hrun : pullSystem.Run s labels s')
    (h : ¬ Lost s) : ¬ Lost s' ↔ (pullSystem.guard KeepsUp).Run s labels s' :=
  hrun.end_iff_guard (I := fun _ => True) (fun _ _ _ _ _ => trivial)
    (fun _ _ _ _ hlost hstep => not_not_intro ((not_not.1 hlost).step hstep))
    (fun _ _ _ _ => lost_step_iff) trivial h

/-- **After a pull that brings nothing new the client has everything exactly when** no event has
been lost on the way, and the page leaves out nothing that it does not have. -/
theorem complete_iff {events : Events} {labels : List PullLabel} {limit : ℕ}
    {page : List (Uuid × OutboxEvent)} (hrun : pullSystem.Run (.start events) labels s)
    (hlast : pullSystem.step s (.pull limit page) s') (hnothing : ∀ item ∈ page, s.Has item.1) :
    Complete s' ↔ (pullSystem.guard KeepsUp).Run (.start events) labels s ∧
      ∀ id event, ¬ LeavesOut s page id event := by
  -- that nothing is lost and that the page leaves nothing out are together completeness
  rw [← not_lost_iff hrun (not_lost_start events)]
  replace hlast : PullStep s (.pull limit page) s' := hlast
  cases hlast with
  | pull _ _ hpage =>
    have hhas : ∀ id, PullState.Has ⟨s.events, s.received ++ (syncPull limit page).changes⟩ id →
        s.Has id := by
      intro id hnow
      rcases has_append.1 hnow with hbefore | ⟨event, hmem⟩
      · exact hbefore
      · exact hnothing _ hmem
    constructor
    · intro hcomplete
      constructor
      · rintro ⟨id, event, hevent, hdispatched, hnot, -⟩
        exact hnot (hhas id (hcomplete id event hevent hdispatched))
      · rintro id event ⟨hmatching, -, hnot⟩
        obtain ⟨hevent, hdispatched, -⟩ := mem_matching_iff.1 hmatching
        exact hnot (hhas id (hcomplete id event hevent hdispatched))
    · rintro ⟨hkept, hnone⟩ id event hevent hdispatched
      by_contra hnot
      have hbefore : ¬ s.Has id := fun h => hnot (has_append.2 (.inl h))
      have hmatching : (id, event) ∈ matching (newest s.received) s.events :=
        mem_matching_iff.2 ⟨hevent, hdispatched, fun hnewer =>
          hkept ⟨id, event, hevent, hdispatched, hbefore, hnewer⟩⟩
      have hpage' : (id, event) ∉ page := fun hmem => hnot (has_append.2 (.inr ⟨event, hmem⟩))
      exact hnone id event ⟨hmatching, hpage', hbefore⟩

/-- A page with all rows leaves nothing out. -/
theorem not_leavesOut_of_forall {page : List (Uuid × OutboxEvent)}
    (h : ∀ item ∈ matching (newest s.received) s.events, item ∈ page) (id : Uuid)
    (event : OutboxEvent) : ¬ LeavesOut s page id event :=
  fun hleft => hleft.2.1 (h _ hleft.1)

/-! ### Two clients -/

/-- An event that was dispatched at 9. -/
def dispatched (createdAt : ℤ) : OutboxEvent where
  status := .dispatched
  dispatchedAt := some 9
  createdAt

/-- Two events, dispatched at 9. -/
def twoEvents : Events :=
  markDispatched 9 [1, 2] ((Dict.empty.set 1 { createdAt := 0 }).set 2 { createdAt := 1 })

/-- Two more, one of them of the time of the second. -/
def fourEvents : Events :=
  markDispatched 9 [3, 4] ((twoEvents.set 3 { createdAt := 1 }).set 4 { createdAt := 5 })

/-- The second page: it is full, and has the second event again. -/
def secondPage : List (Uuid × OutboxEvent) :=
  [(4, dispatched 5), (3, dispatched 1), (2, dispatched 1)]

/-- **The client pulls three pages**, the second of which is full, while events are dispatched, and
has them all. -/
theorem complete_fourEvents : ∃ s s', pullSystem.Run (.start .empty)
      [.append 1 0, .append 2 1, .dispatch [1, 2] 9,
        .pull 3 [(2, dispatched 1), (1, dispatched 0)], .append 3 1, .append 4 5,
        .dispatch [3, 4] 9, .pull 3 secondPage] s ∧
    pullSystem.step s (.pull 3 [(4, dispatched 5)]) s' ∧
    (syncPull 3 secondPage).hasMore = true ∧ Complete s' := by
  have hfirst : IsPage none 3 twoEvents [(2, dispatched 1), (1, dispatched 0)] :=
    ⟨[(2, dispatched 1), (1, dispatched 0)], by decide, by decide, rfl⟩
  have hsecond : IsPage (some 1) 3 fourEvents secondPage :=
    ⟨secondPage, by decide, by decide, rfl⟩
  have hthird : IsPage (some 5) 3 fourEvents [(4, dispatched 5)] :=
    ⟨[(4, dispatched 5)], by decide, by decide, rfl⟩
  have hguard : (pullSystem.guard KeepsUp).Run (.start .empty)
      [.append 1 0, .append 2 1, .dispatch [1, 2] 9,
        .pull 3 [(2, dispatched 1), (1, dispatched 0)], .append 3 1, .append 4 5,
        .dispatch [3, 4] 9, .pull 3 secondPage]
      ⟨fourEvents, [(2, 1), (1, 0), (4, 5), (3, 1), (2, 1)]⟩ := by
    refine .cons ⟨.append 1 0 rfl, trivial⟩ (.cons ⟨.append 2 1 rfl, trivial⟩
      (.cons ⟨.dispatch [1, 2] 9, ?_⟩ (.cons ⟨.pull 3 _ hfirst, ?_⟩
      (.cons ⟨.append 3 1 rfl, trivial⟩ (.cons ⟨.append 4 5 rfl, trivial⟩
      (.cons ⟨.dispatch [3, 4] 9, ?_⟩ (.single ⟨.pull 3 _ hsecond, ?_⟩)))))))
    · rintro id - event -
      refine .inr ?_
      rintro ⟨change, hmem, -⟩
      cases hmem
    · exact fun id event hleft => absurd hleft
        (not_leavesOut_of_forall (s := ⟨twoEvents, []⟩) (by decide) id event)
    · -- neither of the two is older than what the client has
      intro id hid event hevent
      have hcreated : 1 ≤ event.createdAt := by
        rcases List.mem_cons.1 hid with rfl | hid
        · obtain rfl := Option.some.inj hevent
          decide
        · obtain rfl := List.mem_singleton.1 hid
          obtain rfl := Option.some.inj hevent
          decide
      refine .inr ?_
      rintro ⟨change, hmem, hlt⟩
      have hle : ∀ change ∈ [((2 : Uuid), (1 : ℤ)), (1, 0)], change.2 ≤ 1 := by decide
      exact absurd (hcreated.trans_lt hlt) (not_lt.2 (hle change hmem))
    · exact fun id event hleft => absurd hleft (not_leavesOut_of_forall
        (s := ⟨fourEvents, [(2, 1), (1, 0)]⟩) (by decide) id event)
  have hlast := PullStep.pull (s := ⟨fourEvents, [(2, 1), (1, 0), (4, 5), (3, 1), (2, 1)]⟩) 3
    [(4, dispatched 5)] hthird
  refine ⟨_, _, hguard.of_guard, hlast, rfl, (complete_iff hguard.of_guard hlast ?_).2
    ⟨hguard, not_leavesOut_of_forall (by decide)⟩⟩
  intro item hitem
  cases List.mem_singleton.1 hitem
  unfold PullState.Has
  decide

/-- Three events, dispatched at 9. -/
def threeEvents : Events := markDispatched 9 [1, 2, 3] (((Dict.empty.set 1 { createdAt := 0 }).set 2
  { createdAt := 1 }).set 3 { createdAt := 2 })

/-- With pages of two the client gets the second and the third event, and then asks for nothing that
is older than the third: its next page has room, and brings nothing new. -/
theorem threeEvents_not_complete : ∃ s s', pullSystem.Run (.start .empty)
      [.append 1 0, .append 2 1, .append 3 2, .dispatch [1, 2, 3] 9,
        .pull 2 [(3, dispatched 2), (2, dispatched 1)]] s ∧
    pullSystem.step s (.pull 2 [(3, dispatched 2)]) s' ∧
    (syncPull 2 [(3, dispatched 2)]).hasMore = false ∧
    (∀ item ∈ [(3, dispatched 2)], s.Has item.1) ∧ ¬ Complete s' := by
  have hfirst : IsPage none 2 threeEvents [(3, dispatched 2), (2, dispatched 1)] :=
    ⟨[(3, dispatched 2), (2, dispatched 1), (1, dispatched 0)], by decide, by decide, rfl⟩
  have hsecond : IsPage (some 2) 2 threeEvents [(3, dispatched 2)] :=
    ⟨[(3, dispatched 2)], by decide, by decide, rfl⟩
  refine ⟨⟨threeEvents, [(3, 2), (2, 1)]⟩, _, ?_, .pull 2 _ hsecond, rfl, ?_, fun hcomplete => ?_⟩
  · exact .cons (.append 1 0 rfl) (.cons (.append 2 1 rfl) (.cons (.append 3 2 rfl)
      (.cons (.dispatch [1, 2, 3] 9) (.single (.pull 2 _ hfirst)))))
  · intro item hitem
    cases List.mem_singleton.1 hitem
    exact List.mem_cons_self
  · have hfirst' := hcomplete 1 (dispatched 0) (by decide) rfl
    revert hfirst'
    unfold PullState.Has
    decide

end Mobile

end OmsWmsTms
