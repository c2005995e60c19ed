import Mathlib.Data.List.Basic

/-- Words of one length that differ at exactly one position. -/
def DiffersOnce {α : Type*} (word other : List α) : Prop :=
  word.length = other.length ∧ ∃! i : Nat, word[i]? ≠ other[i]?

/-- A step that loses nothing: the state before it and the letter can each be told from the state
    after it and the other one. -/
structure Reversible {σ α : Type*} (step : σ → α → σ) : Prop where
  state : ∀ letter, Function.Injective fun state => step state letter
  letter : ∀ state, Function.Injective (step state)

namespace DiffersOnce

variable {α : Type*} {word other : List α}

theorem split (once : DiffersOnce word other) : ∃ front first second rest,
    word = front ++ first :: rest ∧ other = front ++ second :: rest ∧ first ≠ second := by
  obtain ⟨lengths, place, differ, only⟩ := once
  induction word generalizing other place with
  | nil =>
    rw [List.eq_nil_of_length_eq_zero lengths.symm] at differ
    exact absurd rfl differ
  | cons first word ih =>
    cases other with
    | nil => cases lengths
    | cons second other =>
      have lengths : word.length = other.length := Nat.succ.inj lengths
      cases place with
      | zero =>
        have same : word = other := by
          apply List.ext_getElem?
          intro i
          by_contra apart
          exact Nat.succ_ne_zero i (only (i + 1) apart)
        refine ⟨[], first, second, word, rfl, by rw [same]; rfl, ?_⟩
        rintro rfl
        exact differ rfl
      | succ place =>
        have heads : first = second := by
          by_contra apart
          exact Nat.succ_ne_zero place (only 0 fun same => apart (Option.some.inj same)).symm
        have rest : ∀ i, word[i]? ≠ other[i]? → i = place := by
          intro i apart
          exact Nat.succ.inj (only (i + 1) apart)
        obtain ⟨front, left, right, after, rfl, rfl, apart⟩ := ih lengths place differ rest
        exact ⟨first :: front, left, right, after, rfl, by rw [heads]; rfl, apart⟩

end DiffersOnce

namespace Reversible

variable {σ α : Type*} {step : σ → α → σ} (reversible : Reversible step)

include reversible

theorem foldl_inj (word : List α) {state other : σ} :
    word.foldl step state = word.foldl step other ↔ state = other := by
  induction word generalizing state other with
  | nil => rfl
  | cons letter word ih =>
    rw [List.foldl_cons, List.foldl_cons, ih]
    exact (reversible.state letter).eq_iff

theorem foldl_append_inj (word other rest : List α) (state : σ) :
    (word ++ rest).foldl step state = (other ++ rest).foldl step state ↔
      word.foldl step state = other.foldl step state := by
  rw [List.foldl_append, List.foldl_append, reversible.foldl_inj]

theorem foldl_ne {word other : List α} (once : DiffersOnce word other) (state : σ) :
    word.foldl step state ≠ other.foldl step state := by
  obtain ⟨front, first, second, rest, rfl, rfl, apart⟩ := once.split
  rw [List.foldl_append, List.foldl_append, List.foldl_cons, List.foldl_cons, Ne,
    reversible.foldl_inj]
  exact fun same => apart (reversible.letter _ same)

end Reversible
