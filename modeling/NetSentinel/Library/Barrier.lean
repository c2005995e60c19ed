import Mathlib.Algebra.Order.BigOperators.Group.List
import Mathlib.Algebra.Order.Ring.Nat
import Mathlib.Data.List.Nodup
import Mathlib.Logic.Function.Basic
import Mathlib.Logic.Relation

namespace Barrier

abbrev Phase (ω α : Type*) := ω → List α

/-- Threads over one memory. Between two barriers each of them runs a list of atomic actions, in any
    interleaving with the others. -/
structure Group (ω α σ : Type*) where
  phases : List (Phase ω α)
  memory : σ

variable {ω α σ : Type*} (perform : ω → α → σ → σ)

/-- Actions of different threads do not see each other's order. -/
def Independent (phase : Phase ω α) : Prop :=
  ∀ thread other, thread ≠ other → ∀ action ∈ phase thread, ∀ step ∈ phase other, ∀ memory,
    perform thread action (perform other step memory) =
      perform other step (perform thread action memory)

def runThread (thread : ω) (actions : List α) (memory : σ) : σ :=
  actions.foldl (fun memory action => perform thread action memory) memory

def runPhase (threads : List ω) (phase : Phase ω α) (memory : σ) : σ :=
  threads.foldl (fun memory thread => runThread perform thread (phase thread) memory) memory

def runPhases (threads : List ω) (phases : List (Phase ω α)) (memory : σ) : σ :=
  phases.foldl (fun memory phase => runPhase perform threads phase memory) memory

section Sequential

variable {perform}

theorem runThread_commutes {actions : List α} {thread other : ω} {action : α}
    (commutes : ∀ step ∈ actions, ∀ memory, perform thread action (perform other step memory) =
      perform other step (perform thread action memory)) (memory : σ) :
    runThread perform other actions (perform thread action memory) =
      perform thread action (runThread perform other actions memory) := by
  induction actions generalizing memory with
  | nil => rfl
  | cons step actions ih =>
    have first := commutes step List.mem_cons_self memory
    change runThread perform other actions (perform other step (perform thread action memory)) = _
    rw [← first, ih fun step member => commutes step (List.mem_cons_of_mem _ member)]
    rfl

theorem runPhase_idle {threads : List ω} {phase : Phase ω α}
    (idle : ∀ thread ∈ threads, phase thread = []) (memory : σ) :
    runPhase perform threads phase memory = memory := by
  induction threads generalizing memory with
  | nil => rfl
  | cons head threads ih =>
    obtain ⟨here, later⟩ := List.forall_mem_cons.mp idle
    change runPhase perform threads phase (runThread perform head (phase head) memory) = _
    rw [here]
    exact ih later memory

theorem runPhases_append (threads : List ω) (first second : List (Phase ω α)) (memory : σ) :
    runPhases perform threads (first ++ second) memory =
      runPhases perform threads second (runPhases perform threads first memory) :=
  List.foldl_append

end Sequential

variable [DecidableEq ω]

inductive Step : Group ω α σ → Group ω α σ → Prop
  | act {current : Phase ω α} {later : List (Phase ω α)} {memory : σ} (thread : ω) (action : α)
      (rest : List α) (next : current thread = action :: rest) :
      Step ⟨current :: later, memory⟩
        ⟨Function.update current thread rest :: later, perform thread action memory⟩
  | barrier {current : Phase ω α} {later : List (Phase ω α)} {memory : σ}
      (arrived : ∀ thread, current thread = []) :
      Step ⟨current :: later, memory⟩ ⟨later, memory⟩

variable {perform}

theorem Independent.shorter {phase : Phase ω α} (independent : Independent perform phase)
    {thread : ω} {action : α} {rest : List α} (next : phase thread = action :: rest) :
    Independent perform (Function.update phase thread rest) := by
  have subset (other : ω) : Function.update phase thread rest other ⊆ phase other := by
    by_cases same : other = thread
    · subst same
      rw [Function.update_self, next]
      exact List.subset_cons_self action rest
    · rw [Function.update_of_ne same]
      exact List.Subset.refl _
  intro one other apart first here second there memory
  exact independent one other apart first (subset one here) second (subset other there) memory

theorem runPhase_update_of_notMem {threads : List ω} {thread : ω} (absent : thread ∉ threads)
    (phase : Phase ω α) (rest : List α) (memory : σ) :
    runPhase perform threads (Function.update phase thread rest) memory =
      runPhase perform threads phase memory := by
  induction threads generalizing memory with
  | nil => rfl
  | cons head threads ih =>
    obtain ⟨apart, absent⟩ := not_or.mp (List.mem_cons.not.mp absent)
    change runPhase perform threads _ (runThread perform head _ memory) = _
    rw [Function.update_of_ne (Ne.symm apart), ih absent]
    rfl

theorem runPhase_act {threads : List ω} (distinct : threads.Nodup) {phase : Phase ω α}
    (independent : Independent perform phase) {thread : ω} {action : α} {rest : List α}
    (next : phase thread = action :: rest) (present : thread ∈ threads) (memory : σ) :
    runPhase perform threads (Function.update phase thread rest) (perform thread action memory) =
      runPhase perform threads phase memory := by
  induction threads generalizing memory with
  | nil => cases present
  | cons head threads ih =>
    obtain ⟨fresh, distinct⟩ := List.nodup_cons.mp distinct
    change runPhase perform threads _ (runThread perform head _ (perform thread action memory)) =
      runPhase perform threads phase (runThread perform head (phase head) memory)
    by_cases same : head = thread
    · subst same
      rw [Function.update_self, runPhase_update_of_notMem fresh, next]
      rfl
    · have inside := (List.mem_cons.mp present).resolve_left (Ne.symm same)
      have commutes : ∀ step ∈ phase head, ∀ memory,
          perform thread action (perform head step memory) =
            perform head step (perform thread action memory) := by
        intro step member memory
        apply independent thread head (Ne.symm same) action _ step member memory
        rw [next]
        exact List.mem_cons_self
      rw [Function.update_of_ne same, runThread_commutes commutes, ih distinct inside]

variable {threads : List ω}

/-- Whatever the interleaving, the memory in the end is that of the sequential run. -/
theorem result_of_leads (distinct : threads.Nodup) (all : ∀ thread, thread ∈ threads)
    {start finish : Group ω α σ} (independent : ∀ phase ∈ start.phases, Independent perform phase)
    (run : Relation.ReflTransGen (Step perform) start finish) :
    (∀ phase ∈ finish.phases, Independent perform phase) ∧
      runPhases perform threads finish.phases finish.memory =
        runPhases perform threads start.phases start.memory := by
  induction run with
  | refl => exact ⟨independent, rfl⟩
  | tail earlier last ih =>
    obtain ⟨independent, same⟩ := ih
    rw [← same]
    cases last with
    | act thread action rest next =>
      obtain ⟨here, later⟩ := List.forall_mem_cons.mp independent
      refine ⟨List.forall_mem_cons.mpr ⟨here.shorter next, later⟩, ?_⟩
      change runPhases perform threads _ (runPhase perform threads _ _) = _
      rw [runPhase_act distinct here next (all thread)]
      rfl
    | barrier arrived =>
      obtain ⟨-, later⟩ := List.forall_mem_cons.mp independent
      refine ⟨later, ?_⟩
      change _ = runPhases perform threads _ (runPhase perform threads _ _)
      rw [runPhase_idle fun thread _ => arrived thread]

def stepsLeft (threads : List ω) (group : Group ω α σ) : Nat :=
  (group.phases.map fun phase => (threads.map fun thread => (phase thread).length).sum + 1).sum

theorem Step.decreases (distinct : threads.Nodup) (all : ∀ thread, thread ∈ threads)
    {group after : Group ω α σ} (step : Step perform group after) :
    stepsLeft threads after + 1 = stepsLeft threads group := by
  cases step with
  | @act current later memory thread action rest next =>
    have shorter : (threads.map fun other =>
        (Function.update current thread rest other).length).sum + 1 =
          (threads.map fun other => (current other).length).sum := by
      obtain ⟨before, behind, rfl⟩ := List.append_of_mem (all thread)
      obtain ⟨-, distinctRest, apart⟩ := List.nodup_append.mp distinct
      have fresh := (List.nodup_cons.mp distinctRest).1
      have same (others : List ω) (absent : thread ∉ others) :
          (others.map fun other => (Function.update current thread rest other).length) =
            others.map fun other => (current other).length := by
        apply List.map_congr_left
        intro other member
        have other_ne : other ≠ thread := fun equal => absent (equal ▸ member)
        rw [Function.update_of_ne other_ne]
      have absent : thread ∉ before := fun member => apart thread member thread List.mem_cons_self rfl
      simp only [List.map_append, List.map_cons, same before absent, same behind fresh,
        Function.update_self, next, List.length_cons, List.sum_append, List.sum_cons]
      omega
    simp only [stepsLeft, List.map_cons, List.sum_cons]
    omega
  | barrier arrived =>
    simp only [stepsLeft, List.map_cons, arrived, List.length_nil, List.sum_cons]
    simp [Nat.add_comm]

theorem step_of_phases {group : Group ω α σ} (left : group.phases ≠ []) :
    ∃ after, Step perform group after := by
  obtain ⟨phases, memory⟩ := group
  cases phases with
  | nil => exact (left rfl).elim
  | cons current later =>
    by_cases arrived : ∀ thread, current thread = []
    · exact ⟨_, .barrier arrived⟩
    · obtain ⟨thread, busy⟩ := not_forall.mp arrived
      obtain ⟨action, rest, next⟩ := List.exists_cons_of_ne_nil busy
      exact ⟨_, .act thread action rest next⟩

theorem finishes (distinct : threads.Nodup) (all : ∀ thread, thread ∈ threads)
    (group : Group ω α σ) :
    ∃ finish, Relation.ReflTransGen (Step perform) group finish ∧ finish.phases = [] := by
  generalize budget : stepsLeft threads group = n
  induction n generalizing group with
  | zero =>
    by_contra none
    have busy : group.phases ≠ [] := fun done => none ⟨group, .refl, done⟩
    have next : ∃ after, Step perform group after := step_of_phases busy
    obtain ⟨after, step⟩ := next
    have := step.decreases distinct all
    omega
  | succ n ih =>
    by_cases done : group.phases = []
    · exact ⟨group, .refl, done⟩
    · have next : ∃ after, Step perform group after := step_of_phases done
      obtain ⟨after, step⟩ := next
      have shorter := step.decreases distinct all
      obtain ⟨finish, run, finished⟩ := ih after (by omega)
      exact ⟨finish, .head step run, finished⟩

theorem terminates (distinct : threads.Nodup) (all : ∀ thread, thread ∈ threads) :
    WellFounded fun after group : Group ω α σ => Step perform group after := by
  apply Subrelation.wf _ (measure (stepsLeft threads)).wf
  intro after group step
  have := step.decreases distinct all
  change stepsLeft threads after < stepsLeft threads group
  omega

theorem stepsLeft_le_of_leads (distinct : threads.Nodup) (all : ∀ thread, thread ∈ threads)
    {group after : Group ω α σ} (run : Relation.ReflTransGen (Step perform) group after) :
    stepsLeft threads after ≤ stepsLeft threads group := by
  induction run with
  | refl => exact Nat.le_refl _
  | tail earlier last ih =>
    have := last.decreases distinct all
    omega

/-- A run through two lists of phases has come to the end of the first before it starts the
    second. -/
theorem split_of_leads {first second : List (Phase ω α)} {memory : σ} {group : Group ω α σ}
    (run : Relation.ReflTransGen (Step perform) ⟨first ++ second, memory⟩ group) :
    (∃ left, left ≠ [] ∧ group.phases = left ++ second ∧
      Relation.ReflTransGen (Step perform) ⟨first, memory⟩ ⟨left, group.memory⟩) ∨
    ∃ between, Relation.ReflTransGen (Step perform) ⟨first, memory⟩ ⟨[], between⟩ ∧
      Relation.ReflTransGen (Step perform) ⟨second, between⟩ group := by
  induction run with
  | refl =>
    by_cases started : first = []
    · subst started
      exact .inr ⟨memory, .refl, .refl⟩
    · exact .inl ⟨first, started, rfl, .refl⟩
  | tail earlier last ih =>
    obtain ⟨left, busy, phases, run⟩ | ⟨between, run, rest⟩ := ih
    · obtain ⟨current, later, rfl⟩ := List.exists_cons_of_ne_nil busy
      cases last with
      | act thread action rest next =>
        obtain ⟨rfl, rfl⟩ := List.cons.inj phases
        exact .inl ⟨_, List.cons_ne_nil _ _, rfl, run.tail (.act thread action rest next)⟩
      | @barrier _ _ after arrived =>
        obtain ⟨rfl, rfl⟩ := List.cons.inj phases
        have ended := run.tail (.barrier arrived)
        by_cases done : later = []
        · subst done
          exact .inr ⟨after, ended, .refl⟩
        · exact .inl ⟨later, done, rfl, ended⟩
    · exact .inr ⟨between, run, rest.tail last⟩

theorem first_of_leads (distinct : threads.Nodup) (all : ∀ thread, thread ∈ threads)
    {first second : List (Phase ω α)} {memory after : σ}
    (run : Relation.ReflTransGen (Step perform) ⟨first ++ second, memory⟩ ⟨second, after⟩) :
    Relation.ReflTransGen (Step perform) ⟨first, memory⟩ ⟨[], after⟩ := by
  obtain ⟨left, busy, phases, -⟩ | ⟨between, run, rest⟩ := split_of_leads run
  · exact (busy (List.self_eq_append_left.mp phases)).elim
  · obtain same | ⟨next, step, rest⟩ := rest.cases_head
    · cases same
      exact run
    · have shorter := step.decreases distinct all
      have := stepsLeft_le_of_leads distinct all rest
      simp only [stepsLeft] at shorter this
      omega

theorem memory_at (distinct : threads.Nodup) (all : ∀ thread, thread ∈ threads)
    {first second : List (Phase ω α)} {memory after : σ}
    (independent : ∀ phase ∈ first, Independent perform phase)
    (run : Relation.ReflTransGen (Step perform) ⟨first ++ second, memory⟩ ⟨second, after⟩) :
    after = runPhases perform threads first memory :=
  (result_of_leads distinct all independent (first_of_leads distinct all run)).2

end Barrier
