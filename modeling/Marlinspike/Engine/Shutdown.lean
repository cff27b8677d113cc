import Mathlib.Data.List.Infix
import Mathlib.Tactic.SplitIfs
import Mathlib.Tactic.Tauto
import Marlinspike.Engine.Commands

/-!
What a process has executed, recorded and saved when it exits. A step leaves the process at
its next instruction or takes it past that (`stays_or_passes`); a process that exits with 0
has been through all of its instructions exactly if no signal has reached its handler ahead
of a look at the flag (`finishes_iff`).
-/
namespace Marlinspike.Engine.Shutdown
open Marlinspike.Transition
open Marlinspike.Engine.Commands

def checks : Instruction → Bool
  | .returnsIfShutdown _ => true
  | _ => false

def stages (rest : List Instruction) : List Stage :=
  rest.filterMap fun
    | .executes stage => some stage
    | _ => none

def completions (rest : List Instruction) : List String :=
  rest.filterMap fun
    | .completes stageName => some stageName
    | _ => none

/-- A look at the shutdown flag lies ahead. -/
def CheckAhead (rest : List Instruction) : Prop := ∃ i ∈ rest, checks i = true

instance (rest : List Instruction) : Decidable (CheckAhead rest) :=
  inferInstanceAs (Decidable (∃ i ∈ rest, checks i = true))

def isSignal : Label → Bool
  | .signals _ _ => true
  | _ => false

/-- The process is where it was, and may have exited. -/
structure Stays (p t : Process) (label : Label) : Prop where
  rest : t.rest = p.rest
  executed : t.executed = p.executed
  completedStages : t.completedStages = p.completedStages
  asked : t.shutdownRequested = true ↔
    p.shutdownRequested = true ∨ (isSignal label = true ∧ p.handled = true)
  exits : t.returnCode = some 0 → p.rest = [] ∨ (p.shutdownRequested = true ∧ CheckAhead p.rest)
  saves : t.output = p.output ∨ t.output = .cut ∨ t.output = .saved p.completedStages

/-- The process is past an instruction. -/
structure Passes (p t : Process) (label : Label) (i : Instruction) : Prop where
  plain : isSignal label = false
  rest : p.rest = i :: t.rest
  executed : t.executed = p.executed ++ stages [i]
  completedStages : t.completedStages = p.completedStages ++ completions [i]
  asked : t.shutdownRequested = p.shutdownRequested
  heeds : checks i = true → p.shutdownRequested = false
  running : t.returnCode = none
  saves : t.output = p.output ∨ t.output = .cut ∨ t.output = .saved p.completedStages
  saved : i = .saves false → t.output = .cut ∨ t.output = .saved p.completedStages

theorem write_output (p : Process) (write : Write) :
    (p.save write).output = p.output ∨ (p.save write).output = .cut ∨
      (p.save write).output = .saved p.completedStages := by
  unfold Process.save Write.output
  cases write with
  | written => exact .inr (.inr rfl)
  | garbled => exact .inr (.inl rfl)
  | failed truncated => cases truncated <;> simp

theorem passes_past {p : Process} {i : Instruction} {rest : List Instruction} (next : p.rest = i :: rest)
    (running : p.returnCode = none) (heeds : checks i = true → p.shutdownRequested = false)
    (plain : i ≠ .saves false) : Passes p (p.past rest i) .advances i := by
  cases i <;> constructor <;> simp_all [Process.past, stages, completions, isSignal]

theorem asked_plain {p : Process} {label : Label} (plain : isSignal label = false) :
    p.shutdownRequested = true ↔ p.shutdownRequested = true ∨ (isSignal label = true ∧ p.handled = true) := by
  simp [plain]

theorem stays_exits {p : Process} {label : Label} {returnCode : Int}
    (plain : isSignal label = false ∨ p.handled = false)
    (done : returnCode = 0 → p.rest = [] ∨ (p.shutdownRequested = true ∧ CheckAhead p.rest)) :
    Stays p (p.exits returnCode) label where
  rest := rfl
  executed := rfl
  completedStages := rfl
  asked := by rcases plain with plain | plain <;> simp [Process.exits, plain]
  exits exited := done (Option.some.inj exited)
  saves := .inl rfl

theorem advances_cases {p t : Process} (running : p.returnCode = none) (steps : advances p = some t) :
    Stays p t .advances ∨ ∃ i, Passes p t .advances i := by
  unfold advances at steps
  split at steps
  · rename_i none_
    cases steps
    exact .inl (stays_exits (.inl rfl) fun _ => .inl none_)
  · cases steps
  · rename_i saving rest next
    split_ifs at steps with asked saves
    · cases steps
      exact .inl (stays_exits (.inl rfl) fun _ => .inr ⟨asked, .returnsIfShutdown saving, by simp [next], rfl⟩)
    · cases steps
      exact .inr ⟨_, passes_past next running (fun _ => by simpa using asked) nofun⟩
  · rename_i i rest saves returns next
    cases steps
    refine .inr ⟨i, passes_past next running (fun check => ?_) fun same => ?_⟩
    · cases i with
      | returnsIfShutdown saving => exact (returns saving rfl).elim
      | _ => cases check
    · subst same
      exact (saves false rfl).elim

theorem raises_stays {p t : Process} (steps : raises p = some t) : Stays p t .raises := by
  unfold raises at steps
  split at steps
  · cases steps
    exact stays_exits (.inl rfl) nofun
  · cases steps
    exact stays_exits (.inl rfl) nofun
  · cases steps

theorem writes_cases {p t : Process} {write : Write} (running : p.returnCode = none)
    (steps : writes p write = some t) : Stays p t (.writes write) ∨ ∃ i, Passes p t (.writes write) i := by
  have saves := write_output p write
  unfold writes at steps
  split at steps
  · rename_i guarded rest next
    cases steps
    split_ifs with failed
    · exact .inl ⟨rfl, rfl, rfl, asked_plain rfl, nofun, saves⟩
    · refine .inr ⟨.saves guarded, rfl, next, ?_, ?_, rfl, nofun, running, saves, fun whole => ?_⟩
      · exact (List.append_nil _).symm
      · exact (List.append_nil _).symm
      · cases whole
        cases write with
        | written => exact .inr rfl
        | garbled => exact .inl rfl
        | failed truncated => exact (failed rfl).elim
  · rename_i rest next
    split_ifs at steps with asked
    all_goals
      cases steps
      exact .inl ⟨rfl, rfl, rfl, asked_plain rfl,
        fun _ => .inr ⟨asked, .returnsIfShutdown true, by simp [next], rfl⟩, saves⟩
  · cases steps

theorem signals_stays (p : Process) (signal : Signal) (write : Write) (running : p.returnCode = none) :
    Stays p (signals p signal write) (.signals signal write) := by
  unfold signals
  split_ifs with unhandled asked active
  · refine stays_exits (.inr (by simpa using unhandled)) fun zero => ?_
    cases signal <;> cases zero
  · exact ⟨rfl, rfl, rfl, by simp [asked], fun exited => by simp [running] at exited, .inl rfl⟩
  · have handled : p.handled = true := by simpa using unhandled
    refine ⟨rfl, rfl, rfl, by simp [isSignal, handled], ?_, write_output p write⟩
    intro exited
    simp [Process.save, running] at exited
  · have handled : p.handled = true := by simpa using unhandled
    refine ⟨rfl, rfl, rfl, by simp [isSignal, handled], ?_, .inl rfl⟩
    intro exited
    simp [running] at exited

theorem stays_or_passes {p t : Process} {label : Label} (steps : step p label = some t) :
    p.returnCode = none ∧ (Stays p t label ∨ ∃ i, Passes p t label i) := by
  unfold step at steps
  split_ifs at steps with exited
  have running : p.returnCode = none := by simpa using exited
  refine ⟨running, ?_⟩
  cases label with
  | advances => exact advances_cases running steps
  | raises => exact .inl (raises_stays steps)
  | writes write => exact writes_cases running steps
  | signals signal write =>
    cases steps
    exact .inl (signals_stays p signal write running)

/-! ### The flag -/

/-- No signal is delivered to the handler ahead of a look at the flag. -/
def Unnoticed (p : Process) (label : Label) : Prop :=
  isSignal label = true → p.handled = true → ¬CheckAhead p.rest

instance (p : Process) (label : Label) : Decidable (Unnoticed p label) :=
  inferInstanceAs (Decidable (_ → _ → ¬_))

/-- The flag will be seen. -/
def Stopping (p : Process) : Prop := p.shutdownRequested = true ∧ CheckAhead p.rest

theorem stopping_step {p t : Process} {label : Label} (stopping : Stopping p) (steps : step p label = some t) :
    Stopping t := by
  obtain ⟨asked, i, member, check⟩ := stopping
  obtain ⟨-, stays | ⟨passed, passes⟩⟩ := stays_or_passes steps
  · refine ⟨stays.asked.mpr (.inl asked), i, ?_, check⟩
    rwa [stays.rest]
  · refine ⟨passes.asked.trans asked, i, ?_, check⟩
    rw [passes.rest] at member
    rcases List.mem_cons.mp member with rfl | later
    · rw [passes.heeds check] at asked
      cases asked
    · exact later

theorem unnoticed_step {p t : Process} {label : Label} (before : ¬Stopping p) (steps : step p label = some t) :
    ¬Stopping t ↔ Unnoticed p label := by
  obtain ⟨-, stays | ⟨passed, passes⟩⟩ := stays_or_passes steps
  · unfold Stopping Unnoticed at *
    rw [stays.asked, stays.rest]
    tauto
  · constructor
    · intro _ signal
      rw [passes.plain] at signal
      cases signal
    · rintro - ⟨asked, i, member, check⟩
      refine before ⟨passes.asked ▸ asked, i, ?_, check⟩
      rw [passes.rest]
      exact List.mem_cons_of_mem _ member

/-! ### Whole runs -/

/-- The stages and the report of a run of a command so far. -/
structure Sound (command : Command) (before : Output) (p : Process) : Prop where
  suffix : p.rest <:+ command.program
  executed : p.executed ++ stages p.rest = stages command.program
  completedStages : p.completedStages ++ completions p.rest = completions command.program
  exits : p.returnCode = some 0 → p.rest = [] ∨ Stopping p
  saves : ∀ saved, p.output = .saved saved → saved ⊆ p.completedStages ∨ before = .saved saved
  whole : .saves false ∉ p.rest → p.output = .cut ∨ p.output = .saved p.completedStages

/-- The last save comes after the last stage. -/
theorem completions_saved (command : Command) {rest : List Instruction} (suffix : rest <:+ command.program)
    (saved : .saves false ∉ rest) : completions rest = [] := by
  have all : ∀ tail ∈ command.program.tails, .saves false ∉ tail → completions tail = [] := by
    cases command <;> decide
  exact all rest ((List.mem_tails rest _).mpr suffix) saved

theorem sound_start (command : Command) (before : Output) : Sound command before (start command before) where
  suffix := List.suffix_refl _
  executed := rfl
  completedStages := rfl
  exits := nofun
  saves _ saved := .inr saved
  whole saved := by
    refine absurd (show .saves false ∈ command.program from ?_) saved
    cases command <;> decide

theorem stages_cons (i : Instruction) (rest : List Instruction) : stages (i :: rest) = stages [i] ++ stages rest :=
  List.filterMap_append (l := [i])

theorem completions_cons (i : Instruction) (rest : List Instruction) :
    completions (i :: rest) = completions [i] ++ completions rest :=
  List.filterMap_append (l := [i])

theorem sound_step {command : Command} {before : Output} {p t : Process} {label : Label}
    (sound : Sound command before p) (steps : step p label = some t) : Sound command before t := by
  obtain ⟨suffix, executed, completedStages, -, saves, whole⟩ := sound
  obtain ⟨-, stays | ⟨i, passes⟩⟩ := stays_or_passes steps
  · refine ⟨?_, ?_, ?_, fun exited => ?_, fun saved same => ?_, fun final => ?_⟩
    · rwa [stays.rest]
    · rwa [stays.rest, stays.executed]
    · rwa [stays.rest, stays.completedStages]
    · rcases stays.exits exited with done | ⟨asked, check⟩
      · exact .inl (stays.rest.trans done)
      · exact .inr ⟨stays.asked.mpr (.inl asked), by rwa [stays.rest]⟩
    · rw [stays.completedStages]
      rcases stays.saves with kept | cut | now
      · exact saves saved (kept ▸ same)
      · cases cut.symm.trans same
      · cases now.symm.trans same
        exact .inl (List.Subset.refl _)
    · rw [stays.completedStages]
      rw [stays.rest] at final
      rcases stays.saves with kept | cut | now
      · rw [kept]
        exact whole final
      · exact .inl cut
      · exact .inr now
  · have grows : p.completedStages ⊆ t.completedStages := by
      rw [passes.completedStages]
      exact List.subset_append_left _ _
    refine ⟨?_, ?_, ?_, fun exited => ?_, fun saved same => ?_, fun final => ?_⟩
    · exact (List.suffix_cons i t.rest).trans (passes.rest ▸ suffix)
    · rw [passes.executed, List.append_assoc, ← stages_cons, ← passes.rest, executed]
    · rw [passes.completedStages, List.append_assoc, ← completions_cons, ← passes.rest, completedStages]
    · cases passes.running.symm.trans exited
    · rcases passes.saves with kept | cut | now
      · exact (saves saved (kept ▸ same)).imp_left fun subset => List.Subset.trans subset grows
      · cases cut.symm.trans same
      · cases now.symm.trans same
        exact .inl grows
    · by_cases last : i = .saves false
      · have none_ : completions [i] = [] := by rw [last]; rfl
        rw [passes.completedStages, none_, List.append_nil]
        exact passes.saved last
      · have saved : .saves false ∉ p.rest := by
          rw [passes.rest]
          exact fun member => (List.mem_cons.mp member).elim (fun same => last same.symm) final
        have none_ := completions_saved command suffix saved
        rw [passes.rest, completions_cons] at none_
        rw [passes.completedStages, (List.append_eq_nil_iff.mp none_).1, List.append_nil]
        rcases passes.saves with kept | cut | now
        · rw [kept]
          exact whole saved
        · exact .inl cut
        · exact .inr now

theorem sound_run {command : Command} {before : Output} {labels : List Label} {p : Process}
    (ran : run step (start command before) labels = some p) : Sound command before p :=
  run_invariant (Sound command before) (fun _ _ _ => sound_step) (sound_start command before) ran

/-- A run that exits with 0 has come to its end exactly if no signal has been noticed. -/
theorem finishes_iff {command : Command} {before : Output} {labels : List Label} {p : Process}
    (ran : run step (start command before) labels = some p) (exited : p.returnCode = some 0) :
    p.rest = [] ↔ Meets step Unnoticed (start command before) labels := by
  have fresh : ¬Stopping (start command before) := by
    rintro ⟨asked, -⟩
    cases asked
  have kept : Always step (fun p => ¬Stopping p) (start command before) labels ↔
      Meets step Unnoticed (start command before) labels :=
    always_iff_meets (fun _ => True) (fun _ _ _ _ _ _ _ => trivial)
      (fun _ _ _ _ before steps => unnoticed_step before steps) trivial fresh
  rw [← kept, always_iff_last (fun _ _ _ gone steps => not_not_intro (stopping_step (not_not.mp gone) steps)) ran]
  constructor
  · rintro done ⟨-, i, member, -⟩
    rw [done] at member
    cases member
  · intro unnoticed
    exact ((sound_run ran).exits exited).resolve_right unnoticed

end Marlinspike.Engine.Shutdown
