import Mathlib.Data.List.Pairwise
import Mathlib.Order.Lattice

namespace SlidingWindow

/-- Where every stale element precedes every fresh one, popping the stale front is filtering. -/
theorem dropWhile_eq_filter {α : Type*} (stale : α → Bool) (queue : List α)
    (front : queue.Pairwise fun a b => stale b → stale a) :
    queue.dropWhile stale = queue.filter fun a => !stale a := by
  induction queue with
  | nil => rfl
  | cons head tail ih =>
    obtain ⟨before, tailFront⟩ := List.pairwise_cons.mp front
    cases old : stale head with
    | true => simp [old, ih tailFront]
    | false =>
      have fresh : ∀ b ∈ tail, stale b = false := by
        intro b member
        by_contra staleB
        have := before b member (by simpa using staleB)
        simp [old] at this
      simp only [List.dropWhile_cons, old, Bool.false_eq_true, ↓reduceIte, List.filter_cons,
        Bool.not_false]
      congr 1
      exact (List.filter_eq_self.mpr (fun b member => by simp [fresh b member])).symm

variable {τ κ σ : Type*} [LinearOrder τ]

/-- Pop the front of a queue of stamped entries while it is older than `cutoff`, and let `drop`
    account for each entry that leaves. -/
def popExpired (cutoff : τ) (drop : σ → τ × κ → σ) : List (τ × κ) → σ → List (τ × κ) × σ
  | [], state => ([], state)
  | entry :: rest, state =>
    if entry.1 < cutoff then popExpired cutoff drop rest (drop state entry)
    else (entry :: rest, state)

/-- The loop rule: what the pop of one expired entry preserves holds when the loop ends. -/
theorem popExpired_invariant {cutoff : τ} {drop : σ → τ × κ → σ}
    (motive : List (τ × κ) → σ → Prop)
    (step : ∀ entry rest state, entry.1 < cutoff → motive (entry :: rest) state →
      motive rest (drop state entry))
    (queue : List (τ × κ)) (state : σ) (start : motive queue state) :
    motive (popExpired cutoff drop queue state).1 (popExpired cutoff drop queue state).2 := by
  induction queue generalizing state with
  | nil => exact start
  | cons entry rest ih =>
    unfold popExpired
    split
    · rename_i expired
      exact ih _ (step entry rest state expired start)
    · exact start

theorem popExpired_queue (cutoff : τ) (drop : σ → τ × κ → σ) (queue : List (τ × κ)) (state : σ) :
    (popExpired cutoff drop queue state).1 =
      queue.dropWhile fun entry => decide (entry.1 < cutoff) := by
  induction queue generalizing state with
  | nil => rfl
  | cons entry rest ih =>
    unfold popExpired
    by_cases expired : entry.1 < cutoff
    · simp [expired, ih]
    · simp [expired]

/-- No old entry sits behind a young one, so that expiry from the front is complete. -/
def StaleFirst (cutoff : τ) (queue : List (τ × κ)) : Prop :=
  queue.Pairwise fun a b => b.1 < cutoff → a.1 < cutoff

theorem StaleFirst.of_sorted {queue : List (τ × κ)} (cutoff : τ)
    (sorted : queue.Pairwise fun a b => a.1 ≤ b.1) : StaleFirst cutoff queue :=
  sorted.imp fun ordered => lt_of_le_of_lt ordered

theorem StaleFirst.popExpired_queue {cutoff : τ} {queue : List (τ × κ)}
    (front : StaleFirst cutoff queue) (drop : σ → τ × κ → σ) (state : σ) :
    (popExpired cutoff drop queue state).1 =
      queue.filter fun entry => decide (cutoff ≤ entry.1) := by
  rw [SlidingWindow.popExpired_queue, dropWhile_eq_filter]
  · congr 1
    funext entry
    simp [← not_lt]
  · simpa [StaleFirst] using front

theorem popExpired_filter {cutoff later : τ} (ordered : cutoff ≤ later) (drop : σ → τ × κ → σ)
    (queue : List (τ × κ)) (state : σ) :
    (popExpired cutoff drop queue state).1.filter (fun entry => decide (later ≤ entry.1)) =
      queue.filter fun entry => decide (later ≤ entry.1) := by
  induction queue generalizing state with
  | nil => rfl
  | cons entry rest ih =>
    unfold popExpired
    split
    · rename_i expired
      have old : ¬ later ≤ entry.1 := not_le.mpr (lt_of_lt_of_le expired ordered)
      simp [ih, old]
    · rfl

theorem popExpired_sublist (cutoff : τ) (drop : σ → τ × κ → σ) (queue : List (τ × κ)) (state : σ) :
    (popExpired cutoff drop queue state).1.Sublist queue := by
  rw [popExpired_queue]
  exact List.dropWhile_sublist _

theorem popExpired_mem {cutoff : τ} {drop : σ → τ × κ → σ} {queue : List (τ × κ)} {state : σ}
    {entry : τ × κ} (member : entry ∈ (popExpired cutoff drop queue state).1) : entry ∈ queue := by
  exact (popExpired_sublist cutoff drop queue state).subset member

theorem mem_popExpired_of_fresh {cutoff : τ} {queue : List (τ × κ)} {entry : τ × κ}
    (member : entry ∈ queue) (fresh : cutoff ≤ entry.1) (drop : σ → τ × κ → σ) (state : σ) :
    entry ∈ (popExpired cutoff drop queue state).1 := by
  have seen : entry ∈ queue.filter fun entry => decide (cutoff ≤ entry.1) :=
    List.mem_filter.mpr ⟨member, decide_eq_true fresh⟩
  rw [← popExpired_filter le_rfl drop queue state] at seen
  exact (List.mem_filter.mp seen).1

end SlidingWindow
