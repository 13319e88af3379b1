import OmsWmsTms.Data.Keyspace
import OmsWmsTms.Uow.Program

/-!
# Reading beside a store whose entries expire

Functions that only read the tables, in some statements one after another, on a server that also
keeps values under keys for some time.

* `Query T A`, `Query.call` : the functions, and a call, which may raise at one of its statements.
* `Shared T K V`, `SharedWrite` : the tables, the time and the store, and what happens to them.
* `after` : what a journal leads to.
* `Query.Reads` : what a function may return whose statements are made in a part of a journal.
* `justified_call` : a request knows that the function it has called may return what it did.
* `exists_setEx_of_get` : what is found in the store was put there, no longer ago than it is kept.
-/

namespace OmsWmsTms

namespace Uow

/-- A function that only reads: its statements see the tables, and the time. -/
inductive Query (T A : Type)
  /-- Return a value. -/
  | ret (a : A)
  | read (next : T → ℤ → Query T A)

/-- The tables, the time, and a store of values that expire. -/
structure Shared (T K V : Type) where
  tables : T
  clock : ℤ
  store : Keyspace K V := .empty

/-- What happens to them. -/
inductive SharedWrite (T K V : Type)
  /-- Something else is committed. -/
  | commit (tables : T)
  /-- Time passes. -/
  | tick (elapsed : ℕ)
  /-- `SET … EX`. -/
  | setEx (key : K) (value : V) (ttl : ℤ)
  /-- The store drops a key. -/
  | evict (key : K)

section

variable {T K V A B E : Type} [DecidableEq K]

/-- What becomes of them. -/
def SharedWrite.on (d : Shared T K V) : SharedWrite T K V → Shared T K V
  | .commit tables => { d with tables }
  | .tick elapsed => { d with clock := d.clock + elapsed }
  | .setEx key value ttl => { d with store := Keyspace.setEx d.clock key value ttl d.store }
  | .evict key => { d with store := Keyspace.del key d.store }

/-- Nothing is refused. -/
def SharedWrite.apply (w : SharedWrite T K V) (d : Shared T K V) : Except E (Shared T K V) :=
  .ok (w.on d)

/-- A call of a function: its statements, of which one may raise, the rest with the value, and the
handler of what is raised. -/
def Query.call (query : Query T A) (raisesAt : Option ℕ)
    (next : A → Prog (Shared T K V) (SharedWrite T K V) E B)
    (handler : Prog (Shared T K V) (SharedWrite T K V) E B) :
    Prog (Shared T K V) (SharedWrite T K V) E B :=
  match query, raisesAt with
  | .ret a, _ => next a
  | .read _, some 0 => handler
  | .read rest, some (n + 1) =>
    .read fun d => (rest d.tables d.clock).call (some n) next handler
  | .read rest, none => .read fun d => (rest d.tables d.clock).call none next handler

variable {d₀ d : Shared T K V} {J : List (SharedWrite T K V) → SharedWrite T K V → Prop}
  {ws ws' since since' past : List (SharedWrite T K V)} {w : SharedWrite T K V}

/-! ### Journals -/

/-- What a journal leads to. -/
def after (d₀ : Shared T K V) (ws : List (SharedWrite T K V)) : Shared T K V :=
  ws.foldl SharedWrite.on d₀

@[simp] theorem after_nil : after d₀ [] = d₀ := rfl

@[simp] theorem after_concat : after d₀ (ws ++ [w]) = w.on (after d₀ ws) := by
  simp [after]

theorem eq_after (h : Committed (SharedWrite.apply (E := E)) d₀ ws d) : d = after d₀ ws := by
  induction h with
  | start => rfl
  | commit _ _ happly ih =>
    cases happly
    rw [after_concat, ih]

/-- **What is found in the store** was put there, and not longer ago than it is kept. -/
theorem exists_setEx_of_get {key : K} {value : V} (h₀ : d₀.store = .empty)
    (h : Keyspace.get (after d₀ ws).clock key (after d₀ ws).store = some value) :
    ∃ before ttl later, ws = before ++ .setEx key value ttl :: later ∧
      (after d₀ ws).clock < (after d₀ before).clock + ttl := by
  suffices hall : ∀ expires, (after d₀ ws).store.get? key = some (value, expires) →
      ∃ before ttl later, ws = before ++ .setEx key value ttl :: later ∧
        expires = (after d₀ before).clock + ttl by
    obtain ⟨expires, hget, hlt⟩ := Keyspace.get_eq_some.1 h
    obtain ⟨before, ttl, later, hws, rfl⟩ := hall expires hget
    exact ⟨before, ttl, later, hws, hlt⟩
  clear h
  induction ws using List.reverseRecOn with
  | nil =>
    intro expires hget
    rw [after_nil, h₀] at hget
    simp at hget
  | append_singleton ws w ih =>
    intro expires hget
    have hold : (after d₀ ws).store.get? key = some (value, expires) →
        ∃ before ttl later, ws ++ [w] = before ++ .setEx key value ttl :: later ∧
          expires = (after d₀ before).clock + ttl := by
      intro hget
      obtain ⟨before, ttl, later, rfl, hexpires⟩ := ih expires hget
      exact ⟨before, ttl, later ++ [w], by simp, hexpires⟩
    rw [after_concat] at hget
    cases w with
    | commit tables => exact hold hget
    | tick elapsed => exact hold hget
    | setEx key' value' ttl =>
      simp only [SharedWrite.on, Keyspace.get?_setEx] at hget
      split_ifs at hget with hkey
      · cases hget
        exact ⟨ws, ttl, [], by rw [hkey], rfl⟩
      · exact hold hget
    | evict key' =>
      simp only [SharedWrite.on, Keyspace.get?_del] at hget
      split_ifs at hget with hkey
      exact hold hget

/-! ### What a function may return -/

/-- The function may return the value when its statements are made between two moments. -/
def Query.Reads (d₀ : Shared T K V) :
    Query T A → List (SharedWrite T K V) → List (SharedWrite T K V) → A → Prop
  | .ret a, since, ws, a' => a' = a ∧ since <+: ws
  | .read rest, since, ws, a => ∃ past, since <+: past ∧ past <+: ws ∧
      (rest (after d₀ past).tables (after d₀ past).clock).Reads d₀ past ws a

variable {query : Query T A} {a : A}

theorem Query.Reads.prefix (h : query.Reads d₀ since ws a) : since <+: ws := by
  cases query with
  | ret b => exact h.2
  | read rest =>
    obtain ⟨past, hsince, hpast, -⟩ := h
    exact hsince.trans hpast

/-- The part of the journal may be longer. -/
theorem Query.Reads.mono (h : query.Reads d₀ since ws a) (hsince : since' <+: since)
    (hws : ws <+: ws') : query.Reads d₀ since' ws' a := by
  induction query generalizing since since' with
  | ret b => exact ⟨h.1, hsince.trans (h.2.trans hws)⟩
  | read rest ih =>
    obtain ⟨past, hpast, hprefix, hrest⟩ := h
    exact ⟨past, hsince.trans hpast, hprefix.trans hws, ih _ _ hrest List.prefix_rfl⟩

/-- **A call**: the rest knows that the function may return its value since some moment at which
what the request knew held, and the handler knows as much as before. -/
theorem justified_call {Post : B → List (SharedWrite T K V) → Prop}
    {K₀ : List (SharedWrite T K V) → Prop} {raisesAt : Option ℕ}
    {next : A → Prog (Shared T K V) (SharedWrite T K V) E B}
    {handler : Prog (Shared T K V) (SharedWrite T K V) E B}
    (hnext : ∀ a, (next a).Justified SharedWrite.apply J d₀ Post fun ws =>
      ∃ since, K₀ since ∧ query.Reads d₀ since ws a)
    (hhandler : handler.Justified SharedWrite.apply J d₀ Post fun ws =>
      ∃ past, past <+: ws ∧ K₀ past) :
    (query.call raisesAt next handler).Justified SharedWrite.apply J d₀ Post K₀ := by
  induction query generalizing raisesAt K₀ with
  | ret a => exact (hnext a).mono fun ws hws => ⟨ws, hws, rfl, List.prefix_rfl⟩
  | read rest ih =>
    have hread (raisesAt : Option ℕ) : (Prog.read fun d => (rest d.tables d.clock).call raisesAt
        next handler).Justified SharedWrite.apply J d₀ Post K₀ := by
      refine Prog.justified_read fun d => ih _ _ (fun a => (hnext a).mono ?_) (hhandler.mono ?_)
      · rintro ws ⟨since, ⟨past, hpast, hknown, hd⟩, hreads⟩
        rw [eq_after hd] at hreads
        have hprefix := hpast.trans hreads.prefix
        exact ⟨past, hknown, past, List.prefix_rfl, hprefix, hreads.mono hpast List.prefix_rfl⟩
      · rintro ws ⟨since, hsince, past, hpast, hknown, -⟩
        exact ⟨past, hpast.trans hsince, hknown⟩
    match raisesAt with
    | some 0 => exact hhandler.mono fun ws hws => ⟨ws, List.prefix_rfl, hws⟩
    | some (n + 1) => exact hread (some n)
    | none => exact hread none

end

end Uow

end OmsWmsTms
