import Mathlib.Data.List.Nodup
import Mathlib.Logic.ExistsUnique
import Mathlib.Logic.Function.Basic

namespace Ownership

/-- A holder has at most one item at a time. Every item made so far has exactly one holder, and no
    other item has any. -/
structure Exclusive {κ : Type*} (holds : κ → Option Nat) (made : Nat) : Prop where
  held : ∀ item < made, ∃! holder, holds holder = some item
  made_of_held : ∀ holder item, holds holder = some item → item < made

section Moves

variable {κ : Type*} [DecidableEq κ] {holds : κ → Option Nat} {made : Nat}

def handOver (holds : κ → Option Nat) (giver taker : κ) : κ → Option Nat :=
  Function.update (Function.update holds giver none) taker (holds giver)

omit [DecidableEq κ] in
theorem Exclusive.same_holder (exclusive : Exclusive holds made) {item : Nat} {first second : κ}
    (here : holds first = some item) (there : holds second = some item) : first = second :=
  (exclusive.held item (exclusive.made_of_held first item here)).unique here there

theorem handOver_eq_some {giver taker holder : κ} {item : Nat} :
    handOver holds giver taker holder = some item ↔
      holder = taker ∧ holds giver = some item ∨
        holder ≠ taker ∧ holder ≠ giver ∧ holds holder = some item := by
  by_cases takes : holder = taker
  · simp [handOver, takes]
  · by_cases gives : holder = giver
    · simp [handOver, gives, show giver ≠ taker from gives ▸ takes]
    · simp [handOver, gives, takes]

theorem Exclusive.handOver (exclusive : Exclusive holds made) {giver taker : κ}
    (empty : holds taker = none) : Exclusive (Ownership.handOver holds giver taker) made := by
  constructor
  · intro item below
    obtain ⟨holder, here, only⟩ := exclusive.held item below
    have holder_ne : holder ≠ taker := by
      rintro rfl
      rw [empty] at here
      cases here
    by_cases gives : holder = giver
    · subst gives
      refine ⟨taker, handOver_eq_some.mpr (.inl ⟨rfl, here⟩), ?_⟩
      intro other there
      obtain ⟨same, -⟩ | ⟨-, apart, there⟩ := handOver_eq_some.mp there
      · exact same
      · exact (apart (only other there)).elim
    · refine ⟨holder, handOver_eq_some.mpr (.inr ⟨holder_ne, gives, here⟩), ?_⟩
      intro other there
      obtain ⟨-, given⟩ | ⟨-, -, there⟩ := handOver_eq_some.mp there
      · exact (gives (only giver given).symm).elim
      · exact only other there
  · intro holder item here
    obtain ⟨-, given⟩ | ⟨-, -, here⟩ := handOver_eq_some.mp here
    · exact exclusive.made_of_held giver item given
    · exact exclusive.made_of_held holder item here

theorem Exclusive.make (exclusive : Exclusive holds made) {taker : κ} (empty : holds taker = none) :
    Exclusive (Function.update holds taker (some made)) (made + 1) := by
  have elsewhere {holder : κ} {item : Nat} (here : holds holder = some item) :
      holder ≠ taker ∧ item < made := by
    refine ⟨?_, exclusive.made_of_held holder item here⟩
    rintro rfl
    rw [empty] at here
    cases here
  have cases_on {holder : κ} {item : Nat}
      (here : Function.update holds taker (some made) holder = some item) :
      holder = taker ∧ item = made ∨ holds holder = some item := by
    by_cases takes : holder = taker
    · subst takes
      rw [Function.update_self] at here
      exact .inl ⟨rfl, (Option.some.inj here).symm⟩
    · rw [Function.update_of_ne takes] at here
      exact .inr here
  constructor
  · intro item below
    obtain rfl | older := Nat.eq_or_lt_of_le (Nat.le_of_lt_succ below)
    · refine ⟨taker, Function.update_self _ _ _, ?_⟩
      intro other there
      obtain ⟨same, -⟩ | there := cases_on there
      · exact same
      · exact absurd (elsewhere there).2 (Nat.lt_irrefl _)
    · obtain ⟨holder, here, only⟩ := exclusive.held item older
      refine ⟨holder, (Function.update_of_ne (elsewhere here).1 _ _).trans here, ?_⟩
      intro other there
      obtain ⟨-, new⟩ | there := cases_on there
      · exact absurd (new ▸ older) (Nat.lt_irrefl _)
      · exact only other there
  · intro holder item here
    obtain ⟨-, rfl⟩ | here := cases_on here
    · exact Nat.lt_succ_self item
    · exact Nat.lt_succ_of_lt (elsewhere here).2

end Moves

section Stock

inductive Holder (κ : Type*) where
  | stock (position : Nat)
  | user (owner : κ)
deriving DecidableEq

variable {κ : Type*} {stock : List Nat} {uses : κ → Option Nat} {made : Nat}

def holdings (stock : List Nat) (uses : κ → Option Nat) : Holder κ → Option Nat
  | .stock position => stock[position]?
  | .user owner => uses owner

theorem Exclusive.nothing : Exclusive (holdings [] fun _ : κ => none) 0 := by
  constructor
  · intro item below
    cases below
  · intro holder item here
    cases holder <;> cases here

theorem mem_stock (uses : κ → Option Nat) {item : Nat} :
    item ∈ stock ↔ ∃ position, holdings stock uses (.stock position) = some item :=
  List.mem_iff_getElem?

theorem Exclusive.not_in_stock (exclusive : Exclusive (holdings stock uses) made) {owner : κ}
    {item : Nat} (has : uses owner = some item) : item ∉ stock := by
  intro member
  obtain ⟨position, here⟩ := (mem_stock uses).mp member
  have there : holdings stock uses (.user owner) = some item := has
  cases exclusive.same_holder here there

theorem Exclusive.stock_nodup (exclusive : Exclusive (holdings stock uses) made) :
    stock.Nodup := by
  rw [List.nodup_iff_injective_getElem]
  intro first second same
  have here : holdings stock uses (.stock first.val) = some stock[first.val] :=
    List.getElem?_eq_getElem first.isLt
  have there : holdings stock uses (.stock second.val) = some stock[first.val] :=
    (List.getElem?_eq_getElem second.isLt).trans (congrArg some same.symm)
  exact Fin.ext (Holder.stock.inj (exclusive.same_holder here there))

theorem Exclusive.all_in_stock (exclusive : Exclusive (holdings stock uses) made)
    (idle : ∀ owner, uses owner = none) : stock.Perm (List.range made) := by
  apply (List.perm_ext_iff_of_nodup exclusive.stock_nodup List.nodup_range).mpr
  intro item
  rw [List.mem_range]
  constructor
  · intro member
    obtain ⟨position, here⟩ := (mem_stock uses).mp member
    exact exclusive.made_of_held _ item here
  · intro below
    obtain ⟨holder, here, -⟩ := exclusive.held item below
    cases holder with
    | stock position => exact (mem_stock uses).mpr ⟨position, here⟩
    | user owner =>
      have none := idle owner
      change uses owner = some item at here
      rw [none] at here
      cases here

theorem getElem?_snoc (stock : List Nat) (item position : Nat) :
    (stock ++ [item])[position]? =
      if position = stock.length then some item else stock[position]? := by
  by_cases last : position = stock.length
  · rw [if_pos last, last, List.getElem?_concat_length]
  · rw [if_neg last]
    by_cases inside : position < stock.length
    · exact List.getElem?_append_left inside
    · have beyond : stock.length + 1 ≤ position := by omega
      rw [List.getElem?_eq_none (by simpa using beyond), List.getElem?_eq_none (by omega)]

variable [DecidableEq κ]

theorem holdings_store {owner : κ} {item : Nat} (gives : uses owner = some item) :
    holdings (stock ++ [item]) (Function.update uses owner none) =
      handOver (holdings stock uses) (.user owner) (.stock stock.length) := by
  funext holder
  cases holder with
  | stock position =>
    change (stock ++ [item])[position]? = _
    rw [getElem?_snoc]
    by_cases last : position = stock.length <;>
      simp [handOver, Function.update, holdings, gives, last]
  | user other =>
    by_cases same : other = owner <;> simp [handOver, Function.update, holdings, same]

theorem holdings_fetch {owner : κ} {item : Nat} :
    holdings stock (Function.update uses owner (some item)) =
      handOver (holdings (stock ++ [item]) uses) (.stock stock.length) (.user owner) := by
  funext holder
  cases holder with
  | stock position =>
    by_cases last : position = stock.length <;>
      simp [handOver, Function.update, holdings, getElem?_snoc, last]
  | user other =>
    by_cases same : other = owner <;> simp [handOver, Function.update, holdings, same]

theorem holdings_give {giver taker : κ} :
    holdings stock (handOver uses giver taker) =
      handOver (holdings stock uses) (.user giver) (.user taker) := by
  funext holder
  cases holder with
  | stock position => simp [handOver, Function.update, holdings]
  | user other => simp [handOver, Function.update, holdings]

theorem holdings_make {owner : κ} {item : Nat} :
    holdings stock (Function.update uses owner (some item)) =
      Function.update (holdings stock uses) (.user owner) (some item) := by
  funext holder
  cases holder with
  | stock position => simp [Function.update, holdings]
  | user other => simp [Function.update, holdings]

theorem Exclusive.store (exclusive : Exclusive (holdings stock uses) made) {owner : κ} {item : Nat}
    (gives : uses owner = some item) :
    Exclusive (holdings (stock ++ [item]) (Function.update uses owner none)) made := by
  rw [holdings_store gives]
  apply exclusive.handOver
  exact List.getElem?_eq_none (Nat.le_refl _)

theorem Exclusive.fetch {owner : κ} {item : Nat}
    (exclusive : Exclusive (holdings (stock ++ [item]) uses) made) (empty : uses owner = none) :
    Exclusive (holdings stock (Function.update uses owner (some item))) made := by
  rw [holdings_fetch]
  exact exclusive.handOver empty

theorem Exclusive.give (exclusive : Exclusive (holdings stock uses) made) {giver taker : κ}
    (empty : uses taker = none) :
    Exclusive (holdings stock (Ownership.handOver uses giver taker)) made := by
  rw [holdings_give]
  exact exclusive.handOver empty

theorem Exclusive.makeFor (exclusive : Exclusive (holdings stock uses) made) {owner : κ}
    (empty : uses owner = none) :
    Exclusive (holdings stock (Function.update uses owner (some made))) (made + 1) := by
  rw [holdings_make]
  exact exclusive.make empty

end Stock

end Ownership
