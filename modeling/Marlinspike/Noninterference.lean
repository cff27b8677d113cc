import Mathlib.Data.List.Forall2
import Marlinspike.Transition

/-!
Services that answer requests one at a time, and what is left of a run without some of its
requests. If a secret request leaves everything of interest as it was, and any other request does
the same and is answered the same in states that agree on what is of interest, then the run without
the secret requests ends in a state that agrees with the last one, and gives the same answers. And
two runs whose requests differ only in what does not show give the same answers.
-/
namespace Marlinspike.Noninterference
universe u v w
variable {State : Type u} {Request : Type v} {Response : Type w}

/-- The states of a service. -/
def stepOf (serve : State → Request → Option (State × Response)) (s : State) (r : Request) : Option State :=
  (serve s r).map Prod.fst

/-- The answers to the watched requests of a run. -/
def heard (serve : State → Request → Option (State × Response)) (watched : Request → Bool) :
    State → List Request → List Response
  | _, [] => []
  | s, r :: rest =>
    match serve s r with
    | none => []
    | some (t, response) => if watched r then response :: heard serve watched t rest else heard serve watched t rest

variable {serve : State → Request → Option (State × Response)}

theorem stepOf_eq_some {s t : State} {r : Request} :
    stepOf serve s r = some t ↔ ∃ response, serve s r = some (t, response) := by
  rw [stepOf, Option.map_eq_some_iff]
  constructor
  · rintro ⟨⟨t, response⟩, served, rfl⟩
    exact ⟨response, served⟩
  · rintro ⟨response, served⟩
    exact ⟨(t, response), served, rfl⟩

theorem heard_cons {watched : Request → Bool} {s t : State} {r : Request} {response : Response}
    (served : serve s r = some (t, response)) (rest : List Request) :
    heard serve watched s (r :: rest) =
      if watched r then response :: heard serve watched t rest else heard serve watched t rest := by
  rw [heard, served]

/-- The purging rule, for runs of allowed requests through ready states. -/
theorem purge (agrees : State → State → Prop) (ready : State → Prop) (allowed : Request → Prop)
    (secret watched : Request → Bool)
    (hidden : ∀ s s' r t response, agrees s s' → ready s → allowed r → secret r = true →
      serve s r = some (t, response) → agrees t s')
    (open_ : ∀ s s' r t response, agrees s s' → allowed r → secret r = false → serve s r = some (t, response) →
      ∃ t' response', serve s' r = some (t', response') ∧ agrees t t' ∧ (watched r = true → response = response'))
    (unwatched : ∀ r, secret r = true → watched r = false) {s s' t : State} {requests : List Request}
    (agree : agrees s s') (always : Transition.Always (stepOf serve) ready s requests)
    (all : ∀ r ∈ requests, allowed r) (ran : Transition.run (stepOf serve) s requests = some t) :
    ∃ t', Transition.run (stepOf serve) s' (requests.filter fun r => !secret r) = some t' ∧ agrees t t' ∧
      heard serve watched s requests = heard serve watched s' (requests.filter fun r => !secret r) := by
  induction requests generalizing s s' with
  | nil =>
    cases ran
    exact ⟨s', rfl, agree, rfl⟩
  | cons r rest ih =>
    obtain ⟨m, stepped, ran⟩ := Transition.run_cons.mp ran
    obtain ⟨response, served⟩ := stepOf_eq_some.mp stepped
    have allowed_ := all r List.mem_cons_self
    have rest_ : ∀ r ∈ rest, allowed r := fun r member => all r (List.mem_cons_of_mem _ member)
    have later := always.2 m stepped
    rw [heard_cons served]
    cases kind : secret r with
    | true =>
      have agree_ := hidden s s' r m response agree (Transition.always_head always) allowed_ kind served
      obtain ⟨t', ran', agree', same⟩ := ih agree_ later rest_ ran
      rw [List.filter_cons_of_neg (by simp [kind]), unwatched r kind]
      exact ⟨t', ran', agree', same⟩
    | false =>
      obtain ⟨m', response', served', agree_, answer⟩ := open_ s s' r m response agree allowed_ kind served
      obtain ⟨t', ran', agree', same⟩ := ih agree_ later rest_ ran
      rw [List.filter_cons_of_pos (by simp [kind])]
      refine ⟨t', Transition.run_cons.mpr ⟨m', stepOf_eq_some.mpr ⟨response', served'⟩, ran'⟩, agree', ?_⟩
      rw [heard_cons served', same]
      cases watch : watched r with
      | true => rw [answer watch]
      | false => rfl

/-- The two-run rule, for requests that are alike. -/
theorem lockstep (agrees : State → State → Prop) (alike : Request → Request → Prop)
    (answered : ∀ s s' r r' t response, agrees s s' → alike r r' → serve s r = some (t, response) →
      ∃ t', serve s' r' = some (t', response) ∧ agrees t t')
    {s s' t : State} {requests requests' : List Request} (agree : agrees s s')
    (pairs : List.Forall₂ alike requests requests') (ran : Transition.run (stepOf serve) s requests = some t) :
    ∃ t', Transition.run (stepOf serve) s' requests' = some t' ∧ agrees t t' ∧
      heard serve (fun _ => true) s requests = heard serve (fun _ => true) s' requests' := by
  induction pairs generalizing s s' with
  | nil =>
    cases ran
    exact ⟨s', rfl, agree, rfl⟩
  | cons first rest ih =>
    obtain ⟨m, stepped, ran⟩ := Transition.run_cons.mp ran
    obtain ⟨response, served⟩ := stepOf_eq_some.mp stepped
    obtain ⟨m', served', agree⟩ := answered _ _ _ _ m response agree first served
    obtain ⟨t', ran', agree', same⟩ := ih agree ran
    refine ⟨t', Transition.run_cons.mpr ⟨m', stepOf_eq_some.mpr ⟨response, served'⟩, ran'⟩, agree', ?_⟩
    rw [heard_cons served, heard_cons served', if_pos rfl, if_pos rfl, same]

end Marlinspike.Noninterference
