import Mathlib.Data.List.Basic

/-! Text whose fields end at a character that none of them has. -/

namespace DelimitedText

variable {α : Type*}

theorem append_inj_of_stop {inField : α → Prop} {field other rest more : List α} {stop ending : α}
    (fieldIn : ∀ c ∈ field, inField c) (otherIn : ∀ c ∈ other, inField c) (stops : ¬ inField stop)
    (ends : ¬ inField ending) (same : field ++ stop :: rest = other ++ ending :: more) :
    field = other ∧ stop = ending ∧ rest = more := by
  induction field generalizing other with
  | nil =>
    cases other with
    | nil => exact ⟨rfl, List.cons.inj same⟩
    | cons c other =>
      have here := (List.cons.inj same).1
      exact absurd (here ▸ otherIn c List.mem_cons_self) stops
  | cons c field ih =>
    cases other with
    | nil =>
      have here := (List.cons.inj same).1
      exact absurd (here ▸ fieldIn c List.mem_cons_self) ends
    | cons d other =>
      obtain ⟨rfl, tails⟩ := List.cons.inj same
      obtain ⟨rfl, rest⟩ := ih (fun c member => fieldIn c (List.mem_cons_of_mem _ member))
        (fun c member => otherIn c (List.mem_cons_of_mem _ member)) tails
      exact ⟨rfl, rest⟩

end DelimitedText
