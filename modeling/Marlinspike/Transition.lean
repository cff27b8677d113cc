import Mathlib.Data.Option.Basic

/-!
Labelled transition systems given by an executable step: a label names one atomic
step together with everything the environment decides about it, and a step that is
not enabled is `none`. A run is a list of labels. The rules below carry a property
along every run, along the runs whose steps all meet a condition, and bound the
length of runs by a measure.
-/
namespace Marlinspike.Transition
universe u v
variable {State : Type u} {Label : Type v}

/-- The state after the given labels, when every one is enabled in turn. -/
def run (step : State → Label → Option State) : State → List Label → Option State
  | s, [] => some s
  | s, l :: rest => (step s l).bind fun t => run step t rest

/-- Every step of the run is taken in a state that meets the condition for its label. -/
def Meets (step : State → Label → Option State) (condition : State → Label → Prop) : State → List Label → Prop
  | _, [] => True
  | s, l :: rest => ∀ t, step s l = some t → condition s l ∧ Meets step condition t rest

/-- Every state of the run, the first and the last included, has the property. -/
def Always (step : State → Label → Option State) (property : State → Prop) : State → List Label → Prop
  | s, [] => property s
  | s, l :: rest => property s ∧ ∀ t, step s l = some t → Always step property t rest

/-- Some run leads from the first state to the second. -/
def Reaches (step : State → Label → Option State) (s t : State) : Prop :=
  ∃ labels, run step s labels = some t

/-- No step at all is enabled. -/
def Stuck (step : State → Label → Option State) (s : State) : Prop := ∀ l, step s l = none

variable {step : State → Label → Option State}

@[simp] theorem run_nil (s : State) : run step s [] = some s := rfl

theorem run_cons {s u : State} {l : Label} {rest : List Label} :
    run step s (l :: rest) = some u ↔ ∃ t, step s l = some t ∧ run step t rest = some u :=
  Option.bind_eq_some_iff

theorem run_append {s u : State} {first second : List Label} :
    run step s (first ++ second) = some u ↔ ∃ t, run step s first = some t ∧ run step t second = some u := by
  induction first generalizing s with
  | nil => simp
  | cons l rest ih =>
    rw [List.cons_append, run_cons]
    constructor
    · rintro ⟨m, stepped, ran⟩
      obtain ⟨t, before, after⟩ := ih.mp ran
      exact ⟨t, run_cons.mpr ⟨m, stepped, before⟩, after⟩
    · rintro ⟨t, before, after⟩
      obtain ⟨m, stepped, ran⟩ := run_cons.mp before
      exact ⟨m, stepped, ih.mpr ⟨t, ran, after⟩⟩

theorem meets_cons {condition : State → Label → Prop} {s t : State} {l : Label} {rest : List Label}
    (stepped : step s l = some t) (met : condition s l) (later : Meets step condition t rest) :
    Meets step condition s (l :: rest) := by
  intro u other
  obtain rfl := Option.some.inj (stepped.symm.trans other)
  exact ⟨met, later⟩

theorem meets_iff {condition : State → Label → Prop} {s t : State} {l : Label} {rest : List Label}
    (stepped : step s l = some t) :
    Meets step condition s (l :: rest) ↔ condition s l ∧ Meets step condition t rest :=
  ⟨fun meets => meets t stepped, fun ⟨met, later⟩ => meets_cons stepped met later⟩

instance decidableMeets {condition : State → Label → Prop} [∀ s l, Decidable (condition s l)] :
    ∀ (s : State) (labels : List Label), Decidable (Meets step condition s labels)
  | _, [] => isTrue trivial
  | s, l :: rest =>
    match stepped : step s l with
    | none => isTrue fun t other => by rw [stepped] at other; cases other
    | some t =>
      have : Decidable (Meets step condition t rest) := decidableMeets t rest
      decidable_of_iff _ (meets_iff stepped).symm

/-- A run whose labels meet the condition in every state. -/
theorem meets_of_labels {condition : State → Label → Prop} {labels : List Label}
    (met : ∀ l ∈ labels, ∀ s, condition s l) (s : State) : Meets step condition s labels := by
  induction labels generalizing s with
  | nil => trivial
  | cons l rest ih =>
    exact fun t _ => ⟨met l List.mem_cons_self s, ih (fun m member => met m (List.mem_cons_of_mem _ member)) t⟩

theorem meets_and {first second : State → Label → Prop} {s : State} {labels : List Label}
    (one : Meets step first s labels) (other : Meets step second s labels) :
    Meets step (fun s l => first s l ∧ second s l) s labels := by
  induction labels generalizing s with
  | nil => trivial
  | cons l rest ih =>
    intro t stepped
    exact ⟨⟨(one t stepped).1, (other t stepped).1⟩, ih (one t stepped).2 (other t stepped).2⟩

theorem meets_append {condition : State → Label → Prop} {s t : State} {first second : List Label}
    (before : Meets step condition s first) (ran : run step s first = some t) (after : Meets step condition t second) :
    Meets step condition s (first ++ second) := by
  induction first generalizing s with
  | nil =>
    cases ran
    exact after
  | cons l rest ih =>
    obtain ⟨m, stepped, ran⟩ := run_cons.mp ran
    obtain ⟨met, later⟩ := before m stepped
    exact meets_cons stepped met (ih later ran)

theorem meets_of_append {condition : State → Label → Prop} {s : State} {first second : List Label}
    (meets : Meets step condition s (first ++ second)) : Meets step condition s first := by
  induction first generalizing s with
  | nil => trivial
  | cons l rest ih => exact fun t stepped => ⟨(meets t stepped).1, ih (meets t stepped).2⟩

/-- What a step somewhere in the run meets. -/
theorem meets_at {condition : State → Label → Prop} {s t u : State} {before after : List Label} {l : Label}
    (meets : Meets step condition s (before ++ l :: after)) (ran : run step s before = some t)
    (stepped : step t l = some u) : condition t l := by
  induction before generalizing s with
  | nil =>
    cases ran
    exact (meets u stepped).1
  | cons first rest ih =>
    obtain ⟨m, stepped', ran⟩ := run_cons.mp ran
    exact ih (meets m stepped').2 ran


/-- The invariant rule: what every step preserves holds after every run. -/
theorem run_invariant (invariant : State → Prop)
    (preserved : ∀ s l t, invariant s → step s l = some t → invariant t)
    {s t : State} {labels : List Label} (start : invariant s) (ran : run step s labels = some t) : invariant t := by
  induction labels generalizing s with
  | nil => cases ran; exact start
  | cons l rest ih =>
    obtain ⟨m, stepped, ran⟩ := run_cons.mp ran
    exact ih (preserved s l m start stepped) ran

/-- A run meets a condition if a step that does not would leave a mark that no step removes,
    and its last state does not bear the mark. -/
theorem meets_of_unmarked (invariant : State → Prop) {condition : State → Label → Prop} {marked : State → Prop}
    (preserved : ∀ s l t, invariant s → step s l = some t → invariant t)
    (marks : ∀ s l t, invariant s → step s l = some t → ¬condition s l → marked t)
    (stays : ∀ s l t, invariant s → marked s → step s l = some t → marked t) {s u : State} {labels : List Label}
    (start : invariant s) (ran : run step s labels = some u) (clean : ¬marked u) : Meets step condition s labels := by
  induction labels generalizing s with
  | nil => trivial
  | cons l rest ih =>
    obtain ⟨t, stepped, ran⟩ := run_cons.mp ran
    have inv := preserved s l t start stepped
    refine meets_cons stepped ?_ (ih inv ran)
    by_contra broken
    have kept : invariant u ∧ marked u := run_invariant (fun s => invariant s ∧ marked s)
      (fun s l t both stepped => ⟨preserved s l t both.1 stepped, stays s l t both.1 both.2 stepped⟩)
      ⟨inv, marks s l t start stepped broken⟩ ran
    exact clean kept.2

theorem reaches_invariant (invariant : State → Prop)
    (preserved : ∀ s l t, invariant s → step s l = some t → invariant t)
    {s t : State} (start : invariant s) (reached : Reaches step s t) : invariant t := by
  obtain ⟨labels, ran⟩ := reached
  exact run_invariant invariant preserved start ran

/-- The invariant rule for runs whose steps all meet a condition. -/
theorem meeting_invariant (invariant : State → Prop) {condition : State → Label → Prop}
    (preserved : ∀ s l t, invariant s → condition s l → step s l = some t → invariant t)
    {s t : State} {labels : List Label} (start : invariant s) (meets : Meets step condition s labels)
    (ran : run step s labels = some t) : invariant t := by
  induction labels generalizing s with
  | nil => cases ran; exact start
  | cons l rest ih =>
    obtain ⟨m, stepped, ran⟩ := run_cons.mp ran
    obtain ⟨met, later⟩ := meets m stepped
    exact ih (preserved s l m start met stepped) later ran

/-- The same for a property of every state of such a run. -/
theorem always_of_meets (invariant : State → Prop) {property : State → Prop} {condition : State → Label → Prop}
    (preserved : ∀ s l t, invariant s → condition s l → step s l = some t → invariant t)
    (holds : ∀ s, invariant s → property s) {s : State} {labels : List Label} (start : invariant s)
    (meets : Meets step condition s labels) : Always step property s labels := by
  induction labels generalizing s with
  | nil => exact holds s start
  | cons l rest ih =>
    refine ⟨holds s start, fun t stepped => ?_⟩
    obtain ⟨met, later⟩ := meets t stepped
    exact ih (preserved s l t start met stepped) later

theorem always_head {property : State → Prop} {s : State} {labels : List Label}
    (always : Always step property s labels) : property s := by
  cases labels with
  | nil => exact always
  | cons l rest => exact always.1

/-- The last state of a run has what every state of the run has. -/
theorem always_last {property : State → Prop} {s t : State} {labels : List Label}
    (always : Always step property s labels) (ran : run step s labels = some t) : property t := by
  induction labels generalizing s with
  | nil => cases ran; exact always
  | cons l rest ih =>
    obtain ⟨m, stepped, ran⟩ := run_cons.mp ran
    exact ih (always.2 m stepped) ran

/-- A property that no step brings back is that of every state of a run if it is that of the last. -/
theorem always_iff_last {property : State → Prop}
    (lost : ∀ s l t, ¬property s → step s l = some t → ¬property t) {s t : State} {labels : List Label}
    (ran : run step s labels = some t) : Always step property s labels ↔ property t := by
  refine ⟨fun always => always_last always ran, fun last => ?_⟩
  induction labels generalizing s with
  | nil =>
    cases ran
    exact last
  | cons l rest ih =>
    obtain ⟨m, stepped, ran'⟩ := run_cons.mp ran
    refine ⟨?_, fun u other => ?_⟩
    · by_contra gone
      exact run_invariant (fun s => ¬property s) lost gone ran last
    · obtain rfl := Option.some.inj (stepped.symm.trans other)
      exact ih ran'

/-- A property is kept along exactly the runs that meet a condition, when every step
    taken under an invariant keeps the property if and only if it meets the condition. -/
theorem always_iff_meets (invariant : State → Prop) {property : State → Prop} {condition : State → Label → Prop}
    (preserved : ∀ s l t, invariant s → property s → step s l = some t → property t → invariant t)
    (exact_step : ∀ s l t, invariant s → property s → step s l = some t → (property t ↔ condition s l))
    {s : State} {labels : List Label} (inv : invariant s) (start : property s) :
    Always step property s labels ↔ Meets step condition s labels := by
  induction labels generalizing s with
  | nil => exact ⟨fun _ => trivial, fun _ => start⟩
  | cons l rest ih =>
    constructor
    · rintro ⟨_, later⟩ t stepped
      have kept := always_head (later t stepped)
      exact ⟨(exact_step s l t inv start stepped).mp kept,
        (ih (preserved s l t inv start stepped kept) kept).mp (later t stepped)⟩
    · intro meets
      refine ⟨start, fun t stepped => ?_⟩
      obtain ⟨met, later⟩ := meets t stepped
      have kept := (exact_step s l t inv start stepped).mpr met
      exact (ih (preserved s l t inv start stepped kept) kept).mpr later

/-- What holds at the end of a run has held all along, or since a step that brought it about. -/
theorem always_or_since (property : State → Prop) {s t : State} {labels : List Label}
    (ran : run step s labels = some t) (last : property t) :
    Always step property s labels ∨
      ∃ first l second m n, labels = first ++ l :: second ∧ run step s first = some m ∧ step m l = some n ∧
        ¬property m ∧ Always step property n second := by
  induction labels generalizing s with
  | nil =>
    cases ran
    exact Or.inl last
  | cons l rest ih =>
    obtain ⟨n, stepped, ran⟩ := run_cons.mp ran
    obtain always | ⟨first, l', second, m, n', split, before, stepped', absent, since⟩ := ih ran
    · by_cases now : property s
      · refine Or.inl ⟨now, fun u other => ?_⟩
        obtain rfl := Option.some.inj (stepped.symm.trans other)
        exact always
      · exact Or.inr ⟨[], l, rest, s, n, rfl, rfl, stepped, now, always⟩
    · exact Or.inr ⟨l :: first, l', second, m, n', congrArg (l :: ·) split, run_cons.mpr ⟨n, stepped, before⟩, stepped',
        absent, since⟩

end Marlinspike.Transition
