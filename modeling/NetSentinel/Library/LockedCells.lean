import NetSentinel.Library.Family
import NetSentinel.Library.TransitionSystem

/-! An object made of cells, each with its own mutex. An operation works on one cell in several
    phases and holds the mutex of the cell meanwhile, or needs no cell at all. -/

structure CellOperations (κ S Op B : Type*) where
  cell : Op → Option κ
  phases : Op → List (S × B → S × B)
  nothing : B

/-- Where a thread is: outside, competing for the mutex of its cell, in its critical section with
    the phases that are left, or about to return. -/
inductive CellPc (S Op B : Type*) where
  | idle
  | waiting (op : Op)
  | working (op : Op) (result : B) (rest : List (S × B → S × B))
  | returning (op : Op) (result : B)

def CellPc.current {S Op B : Type*} : CellPc S Op B → Option Op
  | .idle => none
  | .waiting op => some op
  | .working op _ _ => some op
  | .returning op _ => some op

def CellPc.result {S Op B : Type*} : CellPc S Op B → Option B
  | .returning _ result => some result
  | _ => none

/-- `done` has the operations in the order in which they gave up their mutex. -/
structure LockedCells (ω κ S Op B : Type*) where
  cells : κ → S
  holder : κ → Option ω := fun _ => none
  pcs : ω → CellPc S Op B := fun _ => .idle
  done : List (Op × B) := []

namespace CellOperations

variable {κ S Op B : Type*} [DecidableEq κ] (ops : CellOperations κ S Op B)

def finish (rest : List (S × B → S × B)) (state : S × B) : S × B :=
  rest.foldl (fun state phase => phase state) state

def apply (cells : κ → S) (op : Op) : (κ → S) × B :=
  match ops.cell op with
  | none => (cells, ops.nothing)
  | some cell =>
    let finished := finish (ops.phases op) (cells cell, ops.nothing)
    (Function.update cells cell finished.1, finished.2)

def replay (cells : κ → S) (calls : List Op) : (κ → S) × List B :=
  calls.foldl (fun run op => ((ops.apply run.1 op).1, run.2 ++ [(ops.apply run.1 op).2])) (cells, [])

theorem replay_snoc (cells : κ → S) (calls : List Op) (op : Op) :
    ops.replay cells (calls ++ [op]) =
      ((ops.apply (ops.replay cells calls).1 op).1,
        (ops.replay cells calls).2 ++ [(ops.apply (ops.replay cells calls).1 op).2]) := by
  rw [replay, List.foldl_append]
  rfl

end CellOperations

namespace LockedCells

open Family CellOperations

variable {ω κ S Op B : Type*} [DecidableEq ω] [DecidableEq κ]

inductive Event (ω Op B : Type*) where
  | inside
  | call (thread : ω) (op : Op)
  | finished (thread : ω) (op : Op) (result : B)
  | returned (thread : ω) (op : Op) (result : B)

inductive Step (ops : CellOperations κ S Op B) :
    Event ω Op B → LockedCells ω κ S Op B → LockedCells ω κ S Op B → Prop
  | call {state : LockedCells ω κ S Op B} (thread : ω) (op : Op)
      (idle : state.pcs thread = .idle) :
      Step ops (.call thread op) state
        { state with pcs := Function.update state.pcs thread (.waiting op) }
  | skip {state : LockedCells ω κ S Op B} (thread : ω) (op : Op)
      (waits : state.pcs thread = .waiting op) (apart : ops.cell op = none) :
      Step ops (.finished thread op ops.nothing) state
        { state with
          pcs := Function.update state.pcs thread (.returning op ops.nothing)
          done := state.done ++ [(op, ops.nothing)] }
  | lock {state : LockedCells ω κ S Op B} (thread : ω) (op : Op) (cell : κ)
      (waits : state.pcs thread = .waiting op) (works : ops.cell op = some cell)
      (free : state.holder cell = none) :
      Step ops .inside state
        { state with
          pcs := Function.update state.pcs thread (.working op ops.nothing (ops.phases op))
          holder := Function.update state.holder cell (some thread) }
  | phase {state : LockedCells ω κ S Op B} (thread : ω) (op : Op) (cell : κ) (result : B)
      (first : S × B → S × B) (rest : List (S × B → S × B))
      (due : state.pcs thread = .working op result (first :: rest))
      (works : ops.cell op = some cell) :
      Step ops .inside state
        { state with
          pcs := Function.update state.pcs thread
            (.working op (first (state.cells cell, result)).2 rest)
          cells := Function.update state.cells cell (first (state.cells cell, result)).1 }
  | unlock {state : LockedCells ω κ S Op B} (thread : ω) (op : Op) (cell : κ) (result : B)
      (through : state.pcs thread = .working op result []) (works : ops.cell op = some cell) :
      Step ops (.finished thread op result) state
        { state with
          pcs := Function.update state.pcs thread (.returning op result)
          holder := Function.update state.holder cell none
          done := state.done ++ [(op, result)] }
  | leave {state : LockedCells ω κ S Op B} (thread : ω) (op : Op) (result : B)
      (returns : state.pcs thread = .returning op result) :
      Step ops (.returned thread op result) state
        { state with pcs := Function.update state.pcs thread .idle }

def system (ω : Type*) [DecidableEq ω] (ops : CellOperations κ S Op B) (first : κ → S) :
    TransitionSystem (LockedCells ω κ S Op B) where
  start state := state = { cells := first }
  step state after := ∃ event, Step ops event state after

variable {ops : CellOperations κ S Op B} {first : κ → S} {state after : LockedCells ω κ S Op B}
  {event : Event ω Op B}

def settled (ops : CellOperations κ S Op B) (first : κ → S) (state : LockedCells ω κ S Op B) :
    κ → S := (ops.replay first (state.done.map Prod.fst)).1

/-- A cell whose mutex is free is as the finished operations leave it, and one that is held will be
    when its holder has done the rest. -/
structure Linear (ops : CellOperations κ S Op B) (first : κ → S)
    (state : LockedCells ω κ S Op B) : Prop where
  free : ∀ cell, state.holder cell = none → state.cells cell = settled ops first state cell
  holds : ∀ thread op result rest, state.pcs thread = .working op result rest →
    ∀ cell, ops.cell op = some cell → state.holder cell = some thread
  occupied : ∀ cell thread, state.holder cell = some thread →
    ∃ op result rest, state.pcs thread = .working op result rest ∧ ops.cell op = some cell
  goesOn : ∀ thread op result rest, state.pcs thread = .working op result rest →
    ∀ cell, ops.cell op = some cell → finish rest (state.cells cell, result) =
      finish (ops.phases op) (settled ops first state cell, ops.nothing)
  results : state.done.map Prod.snd = (ops.replay first (state.done.map Prod.fst)).2

omit [DecidableEq ω] in
theorem settled_snoc (ops : CellOperations κ S Op B) (first : κ → S)
    (state : LockedCells ω κ S Op B) (pcs : ω → CellPc S Op B) (holder : κ → Option ω) (op : Op)
    (result : B) :
    settled ops first { state with pcs, holder, done := state.done ++ [(op, result)] } =
      (ops.apply (settled ops first state) op).1 := by
  unfold settled
  rw [List.map_append, List.map_singleton, replay_snoc]

theorem Linear.moved (linear : Linear ops first state) {thread : ω} {pc : CellPc S Op B}
    (before : ∀ op result rest, state.pcs thread ≠ .working op result rest)
    (outside : ∀ op result rest, pc ≠ .working op result rest) :
    Linear ops first { state with pcs := Function.update state.pcs thread pc } := by
  refine ⟨linear.free, ?_, ?_, ?_, linear.results⟩
  · intro other op result rest found
    rcases update_cases found with ⟨-, new⟩ | ⟨-, old⟩
    · exact absurd new (outside op result rest)
    · exact linear.holds other op result rest old
  · intro cell other held
    obtain ⟨op, result, rest, works, onCell⟩ := linear.occupied cell other held
    exact ⟨op, result, rest, update_stays works (before op result rest), onCell⟩
  · intro other op result rest found
    rcases update_cases found with ⟨-, new⟩ | ⟨-, old⟩
    · exact absurd new (outside op result rest)
    · exact linear.goesOn other op result rest old

omit [DecidableEq ω] in
theorem Linear.apart (linear : Linear ops first state) {thread other : ω} (differ : other ≠ thread)
    {op otherOp : Op} {result otherResult : B} {rest otherRest : List (S × B → S × B)}
    {cell otherCell : κ} (works : state.pcs thread = .working op result rest)
    (onCell : ops.cell op = some cell) (worksToo : state.pcs other = .working otherOp otherResult otherRest)
    (onOther : ops.cell otherOp = some otherCell) : otherCell ≠ cell := by
  rintro rfl
  have mine := linear.holds thread op result rest works otherCell onCell
  have yours := linear.holds other otherOp otherResult otherRest worksToo otherCell onOther
  exact differ (Option.some.inj (yours.symm.trans mine))

theorem Linear.skip (linear : Linear ops first state) {thread : ω} {op : Op}
    (waits : state.pcs thread = .waiting op) (apart : ops.cell op = none) :
    Linear ops first { state with
      pcs := Function.update state.pcs thread (.returning op ops.nothing)
      done := state.done ++ [(op, ops.nothing)] } := by
  have applied : ops.apply (settled ops first state) op = (settled ops first state, ops.nothing) := by
    rw [apply, apart]
  have moved : Linear ops first { state with
      pcs := Function.update state.pcs thread (.returning op ops.nothing) } :=
    linear.moved (by rw [waits]; exact nofun) nofun
  have settles := settled_snoc ops first state
    (Function.update state.pcs thread (.returning op ops.nothing)) state.holder op ops.nothing
  rw [applied] at settles
  refine ⟨?_, moved.holds, moved.occupied, ?_, ?_⟩
  · rw [settles]
    exact moved.free
  · rw [settles]
    exact moved.goesOn
  · dsimp only
    rw [List.map_append, List.map_append, List.map_singleton, List.map_singleton, replay_snoc,
      linear.results]
    exact congrArg (fun applied => _ ++ [applied]) (congrArg Prod.snd applied).symm

theorem Linear.lock (linear : Linear ops first state) {thread : ω} {op : Op} {cell : κ}
    (waits : state.pcs thread = .waiting op) (onCell : ops.cell op = some cell) (unheld : state.holder cell = none) :
    Linear ops first { state with
      pcs := Function.update state.pcs thread (.working op ops.nothing (ops.phases op))
      holder := Function.update state.holder cell (some thread) } := by
  refine ⟨?_, ?_, ?_, ?_, linear.results⟩
  · intro other found
    rcases update_cases found with ⟨-, new⟩ | ⟨-, old⟩
    · cases new
    · exact linear.free other old
  · intro other otherOp result rest found otherCell onOther
    rcases update_cases found with ⟨rfl, new⟩ | ⟨-, old⟩
    · cases new
      obtain rfl := Option.some.inj (onCell.symm.trans onOther)
      exact Function.update_self _ _ _
    · have held := linear.holds other otherOp result rest old otherCell onOther
      exact update_stays held (by rw [unheld]; exact nofun)
  · intro other holder held
    rcases update_cases held with ⟨rfl, new⟩ | ⟨-, old⟩
    · cases new
      exact ⟨op, ops.nothing, ops.phases op, Function.update_self _ _ _, onCell⟩
    · obtain ⟨otherOp, result, rest, works, onOther⟩ := linear.occupied other holder old
      exact ⟨otherOp, result, rest, update_stays works (by rw [waits]; exact nofun), onOther⟩
  · intro other otherOp result rest found otherCell onOther
    rcases update_cases found with ⟨rfl, new⟩ | ⟨-, old⟩
    · cases new
      obtain rfl := Option.some.inj (onCell.symm.trans onOther)
      exact congrArg (fun state => finish (ops.phases op) (state, ops.nothing)) (linear.free cell unheld)
    · exact linear.goesOn other otherOp result rest old otherCell onOther

theorem Linear.phase (linear : Linear ops first state) {thread : ω} {op : Op} {cell : κ}
    {result : B} {now : S × B → S × B} {rest : List (S × B → S × B)}
    (due : state.pcs thread = .working op result (now :: rest)) (onCell : ops.cell op = some cell) :
    Linear ops first { state with
      pcs := Function.update state.pcs thread (.working op (now (state.cells cell, result)).2 rest)
      cells := Function.update state.cells cell (now (state.cells cell, result)).1 } := by
  have held := linear.holds thread op result _ due cell onCell
  refine ⟨?_, ?_, ?_, ?_, linear.results⟩
  · intro other unheld
    have differs : other ≠ cell := by
      rintro rfl
      rw [held] at unheld
      cases unheld
    dsimp only
    rw [Function.update_of_ne differs]
    exact linear.free other unheld
  · intro other otherOp otherResult otherRest found otherCell onOther
    rcases update_cases found with ⟨rfl, new⟩ | ⟨-, old⟩
    · cases new
      obtain rfl := Option.some.inj (onCell.symm.trans onOther)
      exact held
    · exact linear.holds other otherOp otherResult otherRest old otherCell onOther
  · intro other holder heldToo
    obtain ⟨otherOp, otherResult, otherRest, works, onOther⟩ := linear.occupied other holder heldToo
    by_cases same : holder = thread
    · subst same
      cases due.symm.trans works
      exact ⟨op, _, rest, Function.update_self _ _ _, onOther⟩
    · exact ⟨otherOp, otherResult, otherRest, (Function.update_of_ne same _ _).trans works, onOther⟩
  · intro other otherOp otherResult otherRest found otherCell onOther
    rcases update_cases found with ⟨rfl, new⟩ | ⟨differs, old⟩
    · cases new
      obtain rfl := Option.some.inj (onCell.symm.trans onOther)
      dsimp only
      rw [Function.update_self]
      exact linear.goesOn other op result _ due cell onCell
    · have elsewhere := linear.apart differs due onCell old onOther
      dsimp only
      rw [Function.update_of_ne elsewhere]
      exact linear.goesOn other otherOp otherResult otherRest old otherCell onOther

theorem Linear.unlock (linear : Linear ops first state) {thread : ω} {op : Op} {cell : κ}
    {result : B} (through : state.pcs thread = .working op result [])
    (onCell : ops.cell op = some cell) :
    Linear ops first { state with
      pcs := Function.update state.pcs thread (.returning op result)
      holder := Function.update state.holder cell none
      done := state.done ++ [(op, result)] } := by
  have whole : (state.cells cell, result) = _ := linear.goesOn thread op result [] through cell onCell
  have applied : ops.apply (settled ops first state) op =
      (Function.update (settled ops first state) cell (state.cells cell), result) := by
    rw [apply, onCell]
    dsimp only
    rw [← whole]
  have settles := settled_snoc ops first state
    (Function.update state.pcs thread (.returning op result))
    (Function.update state.holder cell none) op result
  rw [applied] at settles
  refine ⟨?_, ?_, ?_, ?_, ?_⟩
  · intro other unheld
    rw [settles]
    dsimp only
    by_cases same : other = cell
    · rw [same, Function.update_self]
    · rw [Function.update_of_ne same]
      exact linear.free other ((Function.update_of_ne same _ _).symm.trans unheld)
  · intro other otherOp otherResult otherRest found otherCell onOther
    rcases update_cases found with ⟨-, new⟩ | ⟨differs, old⟩
    · cases new
    · dsimp only
      rw [Function.update_of_ne (linear.apart differs through onCell old onOther)]
      exact linear.holds other otherOp otherResult otherRest old otherCell onOther
  · intro other holder held
    rcases update_cases held with ⟨-, new⟩ | ⟨differs, old⟩
    · cases new
    · obtain ⟨otherOp, otherResult, otherRest, works, onOther⟩ := linear.occupied other holder old
      refine ⟨otherOp, otherResult, otherRest, update_stays works fun same => ?_, onOther⟩
      cases through.symm.trans same
      exact differs (Option.some.inj (onOther.symm.trans onCell))
  · intro other otherOp otherResult otherRest found otherCell onOther
    rcases update_cases found with ⟨-, new⟩ | ⟨differs, old⟩
    · cases new
    · rw [settles]
      dsimp only
      rw [Function.update_of_ne (linear.apart differs through onCell old onOther)]
      exact linear.goesOn other otherOp otherResult otherRest old otherCell onOther
  · dsimp only
    rw [List.map_append, List.map_append, List.map_singleton, List.map_singleton, replay_snoc,
      linear.results]
    exact congrArg (fun applied => _ ++ [applied]) (congrArg Prod.snd applied).symm

theorem Linear.step (linear : Linear ops first state) (step : Step ops event state after) :
    Linear ops first after := by
  cases step with
  | call thread op idle => exact linear.moved (by rw [idle]; exact nofun) nofun
  | skip thread op waits apart => exact linear.skip waits apart
  | lock thread op cell waits works unheld => exact linear.lock waits works unheld
  | phase thread op cell result now rest due works => exact linear.phase due works
  | unlock thread op cell result through works => exact linear.unlock through works
  | leave thread op result returns => exact linear.moved (by rw [returns]; exact nofun) nofun

theorem Linear.of_reachable (reachable : (system ω ops first).Reachable state) :
    Linear ops first state := by
  refine TransitionSystem.Reachable.invariant ?_ ?_ reachable
  · intro initial start
    rw [show initial = _ from start]
    exact ⟨fun _ _ => rfl, nofun, nofun, nofun, rfl⟩
  · intro before after _ step linear
    obtain ⟨event, step⟩ := step
    exact linear.step step

theorem Step.inside_kept (step : Step ops .inside state after) : after.done = state.done ∧
    ∀ thread, (after.pcs thread).current = (state.pcs thread).current ∧
      (after.pcs thread).result = (state.pcs thread).result := by
  have moved {mover : ω} {pc : CellPc S Op B} (current : pc.current = (state.pcs mover).current)
      (result : pc.result = (state.pcs mover).result) (thread : ω) :
      (Function.update state.pcs mover pc thread).current = (state.pcs thread).current ∧
        (Function.update state.pcs mover pc thread).result = (state.pcs thread).result := by
    by_cases same : thread = mover
    · rw [same, Function.update_self]
      exact ⟨current, result⟩
    · rw [Function.update_of_ne same]
      exact ⟨rfl, rfl⟩
  cases step with
  | lock thread op cell waits works free =>
    exact ⟨rfl, moved (by rw [waits]; rfl) (by rw [waits]; rfl)⟩
  | phase thread op cell result now rest due works =>
    exact ⟨rfl, moved (by rw [due]; rfl) (by rw [due]; rfl)⟩

theorem inside_done (leads : Relation.ReflTransGen (Step ops .inside) state after) :
    after.done = state.done := by
  induction leads with
  | refl => rfl
  | tail _ step ih => exact step.inside_kept.1.trans ih

theorem Step.finished {thread : ω} {op : Op} {result : B}
    (step : Step ops (.finished thread op result) state after) :
    after.pcs = Function.update state.pcs thread (.returning op result) ∧
      after.done = state.done ++ [(op, result)] ∧ (state.pcs thread).current = some op ∧
        (state.pcs thread).result = none := by
  cases step with
  | skip _ _ waits apart =>
    rw [waits]
    exact ⟨rfl, rfl, rfl, rfl⟩
  | unlock _ _ cell _ through works =>
    rw [through]
    exact ⟨rfl, rfl, rfl, rfl⟩

theorem Step.called {thread : ω} {op : Op} (step : Step ops (.call thread op) state after) :
    after.pcs = Function.update state.pcs thread (.waiting op) ∧ after.done = state.done ∧
      state.pcs thread = .idle := by
  cases step with
  | call _ _ idle => exact ⟨rfl, rfl, idle⟩

theorem Step.returned {thread : ω} {op : Op} {result : B}
    (step : Step ops (.returned thread op result) state after) :
    after.pcs = Function.update state.pcs thread .idle ∧ after.done = state.done ∧
      state.pcs thread = .returning op result := by
  cases step with
  | leave _ _ _ returns => exact ⟨rfl, rfl, returns⟩

theorem Step.caller {thread : ω} {op : Op} (step : Step ops event state after)
    (inside : (after.pcs thread).current = some op) (before : (state.pcs thread).current ≠ some op) :
    event = .call thread op := by
  have moved {mover : ω} {pc : CellPc S Op B}
      (same : ∀ op, pc.current = some op → (state.pcs mover).current = some op)
      (now : (Function.update state.pcs mover pc thread).current = some op) : False := by
    rcases Family.update_seen CellPc.current now with ⟨rfl, new⟩ | ⟨-, old⟩
    · exact before (same op new)
    · exact before old
  cases step with
  | call mover called idle =>
    rcases Family.update_seen CellPc.current inside with ⟨rfl, new⟩ | ⟨-, old⟩
    · cases new
      rfl
    · exact absurd old before
  | skip mover called waits apart => exact (moved (by rw [waits]; exact fun _ => id) inside).elim
  | lock mover called cell waits works free =>
    exact (moved (by rw [waits]; exact fun _ => id) inside).elim
  | phase mover called cell result now rest due works =>
    exact (moved (by rw [due]; exact fun _ => id) inside).elim
  | unlock mover called cell result through works =>
    exact (moved (by rw [through]; exact fun _ => id) inside).elim
  | leave mover called result returns =>
    refine (moved (fun op idle => ?_) inside).elim
    cases idle

theorem phases_done {op : Op} {cell : κ} (works : ops.cell op = some cell) {thread : ω}
    {rest : List (S × B → S × B)} {result : B} {state : LockedCells ω κ S Op B}
    (inside : state.pcs thread = .working op result rest) : ∃ later last,
    Relation.ReflTransGen (Step ops .inside) state later ∧ later.pcs thread = .working op last [] ∧
      ∀ other, other ≠ thread → later.pcs other = state.pcs other := by
  induction rest generalizing state result with
  | nil => exact ⟨state, result, .refl, inside, fun _ _ => rfl⟩
  | cons now rest ih =>
    have step : Step ops .inside state _ := .phase thread op cell result now rest inside works
    have next : ({ state with
        pcs := Function.update state.pcs thread (.working op (now (state.cells cell, result)).2 rest)
        cells := Function.update state.cells cell (now (state.cells cell, result)).1 } :
      LockedCells ω κ S Op B).pcs thread = _ := Function.update_self _ _ _
    obtain ⟨later, last, leads, through, others⟩ := ih next
    refine ⟨later, last, .head step leads, through, fun other apart => ?_⟩
    rw [others other apart]
    exact Function.update_of_ne apart _ _

theorem operation_done {state : LockedCells ω κ S Op B} {thread : ω} {op : Op}
    (waits : state.pcs thread = .waiting op)
    (free : ∀ cell, ops.cell op = some cell → state.holder cell = none) :
    ∃ later after result, Relation.ReflTransGen (Step ops .inside) state later ∧
      Step ops (.finished thread op result) later after ∧
        ∀ other, other ≠ thread → after.pcs other = state.pcs other := by
  cases works : ops.cell op with
  | none =>
    refine ⟨state, _, _, .refl, .skip thread op waits works, fun other apart => ?_⟩
    exact Function.update_of_ne apart _ _
  | some cell =>
    have lock : Step ops .inside state _ := .lock thread op cell waits works (free cell works)
    have inside : ({ state with
        pcs := Function.update state.pcs thread (.working op ops.nothing (ops.phases op))
        holder := Function.update state.holder cell (some thread) } :
      LockedCells ω κ S Op B).pcs thread = _ := Function.update_self _ _ _
    obtain ⟨later, last, leads, through, others⟩ := phases_done works inside
    refine ⟨later, _, last, .head lock leads, .unlock thread op cell last through works,
      fun other apart => ?_⟩
    dsimp only
    rw [Function.update_of_ne apart, others other apart]
    exact Function.update_of_ne apart _ _

omit [DecidableEq ω] in
theorem Linear.unheld (linear : Linear ops first state) (idle : ∀ thread, state.pcs thread = .idle)
    (cell : κ) : state.holder cell = none := by
  cases held : state.holder cell with
  | none => rfl
  | some thread =>
    obtain ⟨op, result, rest, works, -⟩ := linear.occupied cell thread held
    rw [idle thread] at works
    cases works

omit [DecidableEq ω] in
/-- When no thread is inside, the cells are those of a sequential run of the operations. -/
theorem Linear.quiescent (linear : Linear ops first state)
    (idle : ∀ thread, state.pcs thread = .idle) :
    state.cells = (ops.replay first (state.done.map Prod.fst)).1 := by
  funext cell
  exact linear.free cell (linear.unheld idle cell)

end LockedCells
