import Mathlib.Data.List.Nodup
import Mathlib.Logic.Function.Iterate

/-!
A list of tasks of which the first few are attempted at a time. What fails stays where it is
and is attempted again, so that each round goes as much further as it has room left besides
what has failed before (`attempted`); what is left after any number of rounds is what has
failed, and what no round has come to (`iterate_attempt`).
-/
namespace Marlinspike.Retrying
variable {α : Type*} (cap : Nat) (fails : α → Bool)

/-- One round over the tasks that are left. -/
def attempt (tasks : List α) : List α := (tasks.take cap).filter fails ++ tasks.drop cap

/-- How many of the tasks have been attempted after some rounds. -/
def attempted (tasks : List α) : Nat → Nat
  | 0 => 0
  | rounds + 1 => attempted tasks rounds + (cap - (tasks.take (attempted tasks rounds)).countP fails)

theorem attempted_one (tasks : List α) : attempted cap fails tasks 1 = cap := by simp [attempted]

/-- A round goes over what has failed, and with the room that is left over new tasks. -/
theorem attempt_append {failed rest : List α} (all : ∀ task ∈ failed, fails task = true) :
    attempt cap fails (failed ++ rest) =
      failed ++ (rest.take (cap - failed.length)).filter fails ++ rest.drop (cap - failed.length) := by
  have again : (failed.take cap).filter fails = failed.take cap :=
    List.filter_eq_self.mpr fun task member => all task (List.mem_of_mem_take member)
  rw [attempt, List.take_append, List.drop_append, List.filter_append, again]
  rcases Nat.le_total failed.length cap with room | full
  · rw [List.take_of_length_le room, List.drop_eq_nil_of_le room, List.nil_append]
  · rw [Nat.sub_eq_zero_of_le full, List.take_zero, List.drop_zero, List.filter_nil, List.append_nil,
      ← List.append_assoc, List.take_append_drop, List.append_nil]

theorem iterate_attempt (tasks : List α) (rounds : Nat) :
    (attempt cap fails)^[rounds] tasks =
      (tasks.take (attempted cap fails tasks rounds)).filter fails ++ tasks.drop (attempted cap fails tasks rounds) := by
  induction rounds with
  | zero => simp [attempted]
  | succ rounds ih =>
    rw [Function.iterate_succ_apply', ih, attempt_append cap fails fun task member => (List.mem_filter.mp member).2,
      attempted, ← List.countP_eq_length_filter, List.take_add, List.filter_append, List.drop_drop]

/-- All tasks that do not fail are done after some rounds exactly if the rounds have come to the last of them. -/
theorem done_iff (tasks : List α) (rounds : Nat) :
    (∀ task ∈ (attempt cap fails)^[rounds] tasks, fails task = true) ↔
      ∀ task ∈ tasks.drop (attempted cap fails tasks rounds), fails task = true := by
  rw [iterate_attempt, List.forall_mem_append]
  exact and_iff_right fun task member => (List.mem_filter.mp member).2

/-- A round over different tasks leaves those that it does not come to, and those that fail. -/
theorem attempt_eq_filter [DecidableEq α] {tasks : List α} (distinct : tasks.Nodup) :
    attempt cap fails tasks = tasks.filter fun task => task ∉ tasks.take cap ∨ fails task = true := by
  have parts := distinct
  rw [← List.take_append_drop cap tasks, List.nodup_append] at parts
  conv_rhs => rw [← List.take_append_drop cap tasks]
  rw [attempt, List.filter_append]
  congr 1
  · refine List.filter_congr fun task member => ?_
    simp [member]
  · refine (List.filter_eq_self.mpr fun task member => ?_).symm
    have other : task ∉ tasks.take cap := fun first => parts.2.2 task first task member rfl
    simp [other]

/-- If the first tasks that fill a round fail, no round comes to another. -/
theorem attempt_eq_self {tasks : List α} (all : ∀ task ∈ tasks.take cap, fails task = true) :
    attempt cap fails tasks = tasks := by
  rw [attempt, List.filter_eq_self.mpr all, List.take_append_drop]

end Marlinspike.Retrying
