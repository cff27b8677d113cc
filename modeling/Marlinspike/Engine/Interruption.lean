import Mathlib.Data.List.Infix
import Marlinspike.Engine.Saves
import Marlinspike.JsonText

/-!
What the output file holds when a chain that a signal has stopped exits. Whatever the save
under way still writes lands on the text of the handler, at its old offset: the file holds one
complete document if the signal arrives where the two texts still agree
(`graceful_stop_readable`).
-/
namespace Marlinspike.Engine.Interruption
open Marlinspike.Positional
open Marlinspike.Transition
open Marlinspike.Engine.Saves

/-! ### What lies ahead -/

/-- The report is saved before anything else is done with the file. -/
def savesSoon : List Statement → Bool
  | .saves _ :: _ => true
  | .completes _ :: rest | .stamps :: rest | .clears :: rest => savesSoon rest
  | _ => false

/-- No more stages and saves. -/
def settled (rest : List Statement) : Bool :=
  rest.all fun
    | .executes _ | .saves _ => false
    | _ => true

theorem settled_cons {i : Statement} {rest : List Statement} :
    settled (i :: rest) = true ↔ settled [i] = true ∧ settled rest = true := by
  simp [settled]

theorem settled_tail {i : Statement} {rest : List Statement} (last : settled (i :: rest) = true) :
    settled rest = true :=
  (settled_cons.mp last).2

theorem enriched_last {rest : List Statement} (place : .enriches :: rest <:+ runChain) :
    settled (.enriches :: rest) = true := by
  have all : ∀ tail ∈ runChain.tails, tail.head? = some .enriches → settled tail = true := by decide
  exact all _ ((List.mem_tails _ _).mpr place) rfl

theorem deactivated_last {rest : List Statement} (place : .deactivates :: rest <:+ runChain) :
    settled rest = true := by
  have all : ∀ tail ∈ runChain.tails, tail.head? = some .deactivates → settled tail.tail = true := by decide
  exact all _ ((List.mem_tails _ _).mpr place) rfl

theorem saved_later {stage : Commands.Stage} {rest : List Statement} (place : .executes stage :: rest <:+ runChain) :
    settled rest = false := by
  have all : ∀ tail ∈ runChain.tails, ∀ stage ∈ [Commands.Stage.ingest, .dissect, .topology, .risk],
      tail.head? = some (.executes stage) → settled tail.tail = false := by decide
  exact all _ ((List.mem_tails _ _).mpr place) stage (by cases stage <;> decide) rfl

theorem settled_not_soon {rest : List Statement} (last : settled rest = true) : savesSoon rest = false := by
  induction rest with
  | nil => rfl
  | cons i rest ih =>
    cases i <;> simp_all [settled, savesSoon]

section Chain
variable {Value Ext : Type} (layout : Layout Value Ext)

/-- What the file will hold once the save under way has written the rest. -/
def outcome (s : Process Value Ext) : Option (List Char) :=
  s.file.map fun text =>
    match s.save with
    | none => text
    | some .opened => writeAt gap text 0 (layout.document s.report)
    | some (.copied timestampEnd) => writeAt gap text 0 (layout.document { s.report with timestampEnd })
    | some (.writing offset unwritten) => writeAt gap text offset unwritten

def Ends (s : Process Value Ext) (results : List Value) : Prop :=
  ∃ text, outcome layout s = some text ∧ layout.Holds text results

/-- The old text and that of the handler agree up to the offset, but for the timestamp, and
    the old one is not the shorter. -/
def Agree (r : Report Value Ext) (now : Timestamp) (offset : Nat) : Prop :=
  now.text.length ≤ r.timestampEnd.text.length + 1 ∧
      offset ≤ layout.start.length + min now.text.length r.timestampEnd.text.length ∨
    now.text.length = r.timestampEnd.text.length ∧
      offset ≤ layout.start.length + r.timestampEnd.text.length + (layout.body r.results r.extensions).length

/-- A signal does not arrive in the midst of a save; or that save has taken nothing yet, has
    written all, or is followed by another; or what it still writes fits the new text. -/
def Undisturbed (s : Process Value Ext) : Label Value Ext → Prop
  | .signals now =>
    match s.save with
    | none | some .opened => True
    | some (.copied timestampEnd) =>
      s.shutdownRequested = true ∨ savesSoon s.rest.tail = true ∨ now.text.length ≤ timestampEnd.text.length
    | some (.writing offset unwritten) =>
      s.shutdownRequested = true ∨ savesSoon s.rest.tail = true ∨ unwritten = [] ∨ Agree layout s.report now offset
  | _ => True

/-- The save has the report as it is. -/
def Current (s : Process Value Ext) : Prop :=
  match s.save with
  | none | some .opened => True
  | some (.copied timestampEnd) => timestampEnd = s.report.timestampEnd
  | some (.writing offset unwritten) =>
    offset ≤ (layout.document s.report).length ∧ unwritten = (layout.document s.report).drop offset

structure Sound (s : Process Value Ext) : Prop where
  place : s.rest <:+ runChain
  saving : s.save ≠ none → ∃ guarded rest, s.rest = .saves guarded :: rest
  merges : ∀ text, s.merging = some text → (∃ rest, s.rest = .enriches :: rest) ∧ layout.Holds text s.report.results
  written : s.save ≠ none → Ends layout s s.report.results ∨ s.arrived ≠ none ∧ savesSoon s.rest.tail = true
  kept : s.save = none → ∀ results, s.arrived = some results → Ends layout s results ∨ savesSoon s.rest = true
  last : s.save = none → settled s.rest = true → Ends layout s s.report.results
  later : ∀ results, s.arrived = some results → results <+: s.report.results
  fresh : s.arrived = none → s.report.interrupted = false ∧ Current layout s
  asked : s.shutdownRequested = false → s.arrived = none
  inactive : s.active = false → settled s.rest = true
  stopped : s.exited = true → s.save = none ∧ ∀ results, s.arrived = some results → Ends layout s results

variable {layout} {s : Process Value Ext}

/-! ### Texts -/

theorem holds_fewer {text : List Char} {results more : List Value} (holds : layout.Holds text more)
    (fewer : results <+: more) : layout.Holds text results :=
  holds.imp fun _ ⟨is, all⟩ => ⟨is, fewer.trans all⟩

theorem ends_fewer {results more : List Value} (ends : Ends layout s more) (fewer : results <+: more) :
    Ends layout s results :=
  ends.imp fun _ ⟨is, holds⟩ => ⟨is, holds_fewer holds fewer⟩

theorem holds_document (r : Report Value Ext) : layout.Holds (layout.document r) r.results :=
  ⟨r, rfl, List.prefix_rfl⟩

theorem not_exited (running : s.exited = false) {p : Prop} (exited : s.exited = true) : p := by
  cases running.symm.trans exited

/-! ### Steps of a save -/

theorem sound_saving (sound : Sound layout s) {file : Option (List Char)} {save : Option Save} (was : s.save ≠ none)
    (is : save ≠ none) (same : outcome layout { s with file, save } = outcome layout s)
    (current : Current layout s → Current layout { s with file, save }) (running : s.exited = false) :
    Sound layout { s with file, save } where
  place := sound.place
  saving _ := sound.saving was
  merges := sound.merges
  written _ := by
    have written := sound.written was
    rw [Ends, ← same] at written
    exact written
  kept none_ := absurd none_ is
  last none_ := absurd none_ is
  later := sound.later
  fresh quiet := ⟨(sound.fresh quiet).1, current (sound.fresh quiet).2⟩
  asked := sound.asked
  inactive := sound.inactive
  stopped := not_exited running

theorem sound_copies (sound : Sound layout s) (running : s.exited = false) {t : Process Value Ext}
    (steps : copies s = some t) : Sound layout t := by
  unfold copies at steps
  split at steps
  · rename_i opened
    cases steps
    refine sound_saving sound (by simp [opened]) nofun ?_ (fun _ => rfl) running
    simp only [outcome, opened]
  · cases steps

theorem sound_takes (sound : Sound layout s) (running : s.exited = false) {t : Process Value Ext}
    (steps : takes layout s = some t) : Sound layout t := by
  unfold takes at steps
  split at steps
  · rename_i timestampEnd copied
    cases steps
    refine sound_saving sound (by simp [copied]) nofun ?_ ?_ running
    · simp only [outcome, copied]
    · intro current
      unfold Current at current ⊢
      rw [copied] at current
      obtain rfl : timestampEnd = s.report.timestampEnd := current
      exact ⟨Nat.zero_le _, rfl⟩
  · cases steps

theorem sound_writes (sound : Sound layout s) (running : s.exited = false) {count : Nat} {t : Process Value Ext}
    (steps : writes s count = some t) : Sound layout t := by
  unfold writes at steps
  split at steps
  · rename_i offset unwritten writing
    cases steps
    refine sound_saving sound (by simp [writing]) nofun ?_ ?_ running
    · simp only [outcome, writing, Option.map_map]
      refine congrArg (s.file.map ·) (funext fun text => ?_)
      rw [Function.comp_apply, writeAt_append, List.take_append_drop]
    · intro current
      unfold Current at current ⊢
      rw [writing] at current
      obtain ⟨inside, rfl⟩ := current
      dsimp only
      refine ⟨?_, ?_⟩
      · simp only [List.length_take, List.length_drop]
        omega
      · rw [List.drop_drop]
        rcases Nat.le_total count ((layout.document s.report).drop offset).length with enough | beyond
        · rw [List.length_take_of_le enough]
        · rw [List.take_of_length_le beyond, List.length_drop, List.drop_eq_nil_of_le, List.drop_eq_nil_of_le]
          · omega
          · rw [List.length_drop] at beyond
            omega
  · cases steps

theorem sound_opens (sound : Sound layout s) (running : s.exited = false) {t : Process Value Ext}
    (steps : opens s = some t) : Sound layout t := by
  unfold opens at steps
  split at steps
  · rename_i guarded rest next closed
    cases steps
    have whole : writeAt gap [] 0 (layout.document s.report) = layout.document s.report := by
      rw [writeAt_zero, List.drop_nil, List.append_nil]
    exact {
      place := sound.place
      saving := fun _ => ⟨guarded, rest, next⟩
      merges := sound.merges
      written := fun _ => .inl ⟨layout.document s.report, congrArg some whole, holds_document _⟩
      kept := nofun
      last := nofun
      later := sound.later
      fresh := fun quiet => ⟨(sound.fresh quiet).1, trivial⟩
      asked := sound.asked
      inactive := sound.inactive
      stopped := not_exited running }
  · cases steps

/-- A save that has written everything leaves its text. -/
theorem sound_closes (sound : Sound layout s) (running : s.exited = false) {t : Process Value Ext}
    (steps : closes s = some t) : Sound layout t := by
  unfold closes at steps
  split at steps
  · rename_i guarded rest offset next writing
    cases steps
    have busy : s.save ≠ none := by simp [writing]
    have same : outcome layout { s with rest, save := none } = outcome layout s := by
      simp only [outcome, writing, writeAt, if_true]
    have written : Ends layout { s with rest, save := none } s.report.results ∨
        s.arrived ≠ none ∧ savesSoon rest = true := by
      have written := sound.written busy
      rwa [Ends, ← same, next] at written
    exact {
      place := (List.suffix_cons _ _).trans (next ▸ sound.place)
      saving := fun again => absurd rfl again
      merges := fun text merging => by
        obtain ⟨⟨other, enriches⟩, -⟩ := sound.merges text merging
        cases next.symm.trans enriches
      written := fun again => absurd rfl again
      kept := fun _ results arrived => written.imp (ends_fewer · (sound.later results arrived)) And.right
      last := fun _ settled_ => written.resolve_right fun soon => by
        rw [settled_not_soon settled_] at soon
        cases soon.2
      later := sound.later
      fresh := fun quiet => ⟨(sound.fresh quiet).1, trivial⟩
      asked := sound.asked
      inactive := fun off => by
        have settled_ := sound.inactive off
        rw [next] at settled_
        cases settled_
      stopped := not_exited running }
  · cases steps

/-! ### Other statements -/

theorem save_none (sound : Sound layout s) {i : Statement} {rest : List Statement} (next : s.rest = i :: rest)
    (other : ∀ guarded, i ≠ .saves guarded) : s.save = none := by
  by_contra busy
  obtain ⟨guarded, rest', saves⟩ := sound.saving busy
  exact other guarded (List.cons.inj (next.symm.trans saves)).1

theorem merging_none (sound : Sound layout s) {i : Statement} {rest : List Statement} (next : s.rest = i :: rest)
    (other : i ≠ .enriches) {text : List Char} (merging : s.merging = some text) : False := by
  obtain ⟨⟨rest', enriches⟩, -⟩ := sound.merges text merging
  exact other (List.cons.inj (next.symm.trans enriches)).1

/-- The process is past a statement that leaves the file and the results alone. -/
theorem sound_past (sound : Sound layout s) (running : s.exited = false) {i : Statement} {rest : List Statement}
    (next : s.rest = i :: rest) (other : (∀ guarded, i ≠ .saves guarded) ∧ i ≠ .enriches)
    (soon : savesSoon (i :: rest) = true → savesSoon rest = true)
    (ahead : settled rest = true → settled (i :: rest) = true) {report : Report Value Ext} {active : Bool}
    (inactive : active = false → settled rest = true) (results : report.results = s.report.results)
    (quiet : s.report.interrupted = false → report.interrupted = false) :
    Sound layout { s with rest, report, active } := by
  have idle := save_none sound next other.1
  have same : outcome layout { s with rest, report, active } = outcome layout s := by
    simp only [outcome, idle]
  exact {
    place := (List.suffix_cons _ _).trans (next ▸ sound.place)
    saving := fun busy => absurd idle busy
    merges := fun text merging => (merging_none sound next other.2 merging).elim
    written := fun busy => absurd idle busy
    kept := fun _ values arrived => by
      have kept := sound.kept idle values arrived
      rw [Ends, ← same, next] at kept
      exact kept.imp_right soon
    last := fun _ settled_ => by
      have last := sound.last idle (next ▸ ahead settled_)
      rw [Ends, ← same, ← results] at last
      exact last
    later := fun values arrived => by
      rw [results]
      exact sound.later values arrived
    fresh := fun arrived => ⟨quiet (sound.fresh arrived).1, by rw [Current]; simp only [idle]⟩
    asked := sound.asked
    inactive := inactive
    stopped := not_exited running }

theorem sound_exits (sound : Sound layout s) (idle : s.save = none) (done : savesSoon s.rest = false) :
    Sound layout { s with exited := true } where
  place := sound.place
  saving := sound.saving
  merges := sound.merges
  written := sound.written
  kept := sound.kept
  last := sound.last
  later := sound.later
  fresh := sound.fresh
  asked := sound.asked
  inactive := sound.inactive
  stopped _ := ⟨idle, fun results arrived => (sound.kept idle results arrived).resolve_right (by simp [done])⟩

theorem sound_advances (sound : Sound layout s) (running : s.exited = false) {now : Timestamp} {t : Process Value Ext}
    (steps : advances s now = some t) : Sound layout t := by
  have past {i : Statement} {rest : List Statement} (next : s.rest = i :: rest) (off : s.active = false) :
      settled rest = true := settled_tail (next ▸ sound.inactive off)
  unfold advances at steps
  split at steps
  · rename_i none_
    cases steps
    have idle : s.save = none := by
      by_contra busy
      obtain ⟨guarded, rest, saves⟩ := sound.saving busy
      cases none_.symm.trans saves
    exact sound_exits sound idle (by rw [none_]; rfl)
  · rename_i stage rest next
    cases steps
    have more := saved_later (next ▸ sound.place)
    exact sound_past sound running next ⟨nofun, nofun⟩ nofun
      (fun settled_ => by simp [more] at settled_) (past next) rfl id
  · rename_i rest next
    cases steps
    exact sound_past sound running next ⟨nofun, nofun⟩ nofun (settled_cons.mpr ⟨rfl, ·⟩) (past next) rfl id
  · rename_i stageName rest next
    cases steps
    exact sound_past sound running next ⟨nofun, nofun⟩ id (settled_cons.mpr ⟨rfl, ·⟩) (past next) rfl id
  · rename_i rest next
    cases steps
    exact sound_past sound running next ⟨nofun, nofun⟩ id (settled_cons.mpr ⟨rfl, ·⟩) (past next) rfl id
  · rename_i rest next
    cases steps
    exact sound_past sound running next ⟨nofun, nofun⟩ id (settled_cons.mpr ⟨rfl, ·⟩) (past next) rfl fun _ => rfl
  · rename_i rest next
    split_ifs at steps with asked
    · cases steps
      exact sound_exits sound (save_none sound next nofun) (by rw [next]; rfl)
    · cases steps
      exact sound_past sound running next ⟨nofun, nofun⟩ nofun (settled_cons.mpr ⟨rfl, ·⟩) (past next) rfl id
  · rename_i rest next
    cases steps
    exact sound_past sound running next ⟨nofun, nofun⟩ nofun (settled_cons.mpr ⟨rfl, ·⟩)
      (fun _ => deactivated_last (next ▸ sound.place)) rfl id
  · cases steps
  · cases steps

theorem sound_raises (sound : Sound layout s) {t : Process Value Ext} (steps : raises s = some t) :
    Sound layout t := by
  unfold raises at steps
  split at steps
  · rename_i stage rest next
    cases steps
    exact sound_exits sound (save_none sound next nofun) (by rw [next]; rfl)
  · rename_i rest next
    cases steps
    exact sound_exits sound (save_none sound next nofun) (by rw [next]; rfl)
  · cases steps

theorem sound_assigns (sound : Sound layout s) (running : s.exited = false) {value : Value} {t : Process Value Ext}
    (steps : assigns s value = some t) : Sound layout t := by
  unfold assigns at steps
  split at steps
  · rename_i stage rest next
    cases steps
    have idle := save_none sound next nofun
    have same : outcome layout
        { s with report := { s.report with results := s.report.results ++ [value] } } = outcome layout s := by
      simp only [outcome, idle]
    exact {
      place := sound.place
      saving := fun busy => absurd idle busy
      merges := fun text merging => (merging_none sound next nofun merging).elim
      written := fun busy => absurd idle busy
      kept := fun _ values arrived => by
        have kept := sound.kept idle values arrived
        rw [Ends, ← same] at kept
        exact kept
      last := fun _ settled_ => by
        rw [next] at settled_
        cases settled_
      later := fun values arrived => (sound.later values arrived).trans (List.prefix_append _ _)
      fresh := fun arrived => ⟨(sound.fresh arrived).1, by rw [Current]; simp only [idle]⟩
      asked := sound.asked
      inactive := sound.inactive
      stopped := not_exited running }
  · cases steps

/-! ### Enrichment -/

theorem sound_loads (sound : Sound layout s) (running : s.exited = false) {r : Report Value Ext} {extensions : List Ext}
    {t : Process Value Ext} (steps : loads layout s r extensions = some t) : Sound layout t := by
  unfold loads at steps
  split at steps
  · rename_i rest next
    split_ifs at steps with read
    cases steps
    have idle := save_none sound next nofun
    obtain ⟨text, ends, other, is, all⟩ := sound.last idle (by rw [next]; exact enriched_last (next ▸ sound.place))
    have same : layout.document { r with extensions } = layout.document { other with extensions } := by
      simp only [outcome, idle, read, Option.map_some, Option.some.injEq] at ends
      exact layout.determined r other extensions (ends.trans is)
    exact {
      place := sound.place
      saving := sound.saving
      merges := fun text merging => ⟨⟨rest, next⟩, _, (Option.some.inj merging).symm.trans same, all⟩
      written := sound.written
      kept := sound.kept
      last := sound.last
      later := sound.later
      fresh := sound.fresh
      asked := sound.asked
      inactive := sound.inactive
      stopped := not_exited running }
  · cases steps

/-- The process is past the enrichment, and the file is complete. -/
theorem sound_enriched (sound : Sound layout s) (running : s.exited = false) {rest : List Statement}
    (next : s.rest = .enriches :: rest) {file : Option (List Char)}
    (ends : Ends layout { s with rest, file, merging := none } s.report.results) :
    Sound layout { s with rest, file, merging := none } := by
  have idle := save_none sound next nofun
  exact {
    place := (List.suffix_cons _ _).trans (next ▸ sound.place)
    saving := fun busy => absurd idle busy
    merges := nofun
    written := fun busy => absurd idle busy
    kept := fun _ results arrived => .inl (ends_fewer ends (sound.later results arrived))
    last := fun _ _ => ends
    later := sound.later
    fresh := fun arrived => ⟨(sound.fresh arrived).1, by rw [Current]; simp only [idle]⟩
    asked := sound.asked
    inactive := fun _ => settled_tail (enriched_last (next ▸ sound.place))
    stopped := not_exited running }

theorem sound_replaces (sound : Sound layout s) (running : s.exited = false) {t : Process Value Ext}
    (steps : replaces s = some t) : Sound layout t := by
  unfold replaces at steps
  split at steps
  · rename_i rest text next merging
    cases steps
    refine sound_enriched sound running next ⟨text, ?_, (sound.merges text merging).2⟩
    simp only [outcome, save_none sound next nofun, Option.map_some]
  · cases steps

theorem sound_skips (sound : Sound layout s) (running : s.exited = false) {t : Process Value Ext}
    (steps : skips s = some t) : Sound layout t := by
  unfold skips at steps
  split at steps
  · rename_i rest next
    cases steps
    have idle := save_none sound next nofun
    have same : outcome layout { s with rest, merging := none } = outcome layout s := by
      simp only [outcome, idle]
    have last := sound.last idle (by rw [next]; exact enriched_last (next ▸ sound.place))
    rw [Ends, ← same] at last
    exact sound_enriched sound running next last
  · cases steps

/-! ### Signals -/

/-- The report that is read from the file in which the old text goes on from the offset. -/
def mixed (r : Report Value Ext) (now : Timestamp) (count : Nat) : Report Value Ext :=
  { r with
    timestampEnd :=
      { text := now.text.take count ++ r.timestampEnd.text.drop count
        plain := fun c member => (List.mem_append.mp member).elim
          (fun member => now.plain c (List.mem_of_mem_take member))
          (fun member => r.timestampEnd.plain c (List.mem_of_mem_drop member)) } }

theorem document_eq (r : Report Value Ext) : layout.document r =
    layout.start ++ (r.timestampEnd.text ++ (layout.body r.results r.extensions ++ (boolText r.interrupted ++
      layout.tail r.completedStages r.extensions))) := by
  simp only [Layout.document, dump, List.append_assoc]

/-- The report as the handler saves it. -/
def signalled (r : Report Value Ext) (now : Timestamp) : Report Value Ext :=
  { r with timestampEnd := now, interrupted := true }

theorem length_document (r : Report Value Ext) : (layout.document r).length =
    layout.start.length + r.timestampEnd.text.length + (layout.body r.results r.extensions).length +
      (boolText r.interrupted).length + (layout.tail r.completedStages r.extensions).length := by
  simp only [Layout.document, dump, List.length_append]

theorem length_signalled (layout : Layout Value Ext) {r : Report Value Ext} (quiet : r.interrupted = false)
    (now : Timestamp) :
    (layout.document (signalled r now)).length + r.timestampEnd.text.length + 1 =
      (layout.document r).length + now.text.length := by
  rw [length_document, length_document, quiet]
  simp only [signalled, boolText, if_true, if_false, Bool.false_eq_true, List.length_cons, List.length_nil]
  omega

/-- Nothing is left of a text under a text that is no shorter. -/
theorem writeAt_whole {text other : List Char} (enough : other.length ≤ text.length) :
    writeAt gap other 0 text = text := by
  rw [writeAt_zero, List.drop_eq_nil_of_le enough, List.append_nil]

/-- Two texts that begin with parts of their own, and the rest of the second is no shorter. -/
theorem writeAt_within {new old rest other : List Char} {count : Nat} (inNew : count ≤ new.length)
    (inOld : count ≤ old.length) (enough : (new ++ rest).length ≤ (old ++ other).length) :
    writeAt gap (new ++ rest) count ((old ++ other).drop count) = new.take count ++ old.drop count ++ other := by
  have nothing : (new ++ rest).drop (count + ((old ++ other).drop count).length) = [] := by
    refine List.drop_eq_nil_of_le ?_
    rw [List.length_drop]
    omega
  rw [writeAt_of_le (by rw [List.length_append]; omega), nothing, List.take_append_of_le_length inNew,
    List.drop_append_of_le_length inOld, List.append_nil, List.append_assoc]

/-- Up to the ends of the two timestamps. -/
theorem writeAt_timestamp {r : Report Value Ext} (quiet : r.interrupted = false) {now : Timestamp} {offset : Nat}
    (room : now.text.length ≤ r.timestampEnd.text.length + 1)
    (early : offset ≤ layout.start.length + min now.text.length r.timestampEnd.text.length) :
    writeAt gap (layout.document (signalled r now)) offset ((layout.document r).drop offset) =
      layout.document (mixed r now (offset - layout.start.length)) := by
  have lengths := length_signalled layout quiet now
  have inside : offset ≤ (layout.document (signalled r now)).length := by
    rw [length_document]
    simp only [signalled]
    omega
  have enough : (layout.document (signalled r now)).length ≤ (layout.document r).length := by omega
  rw [document_eq r, document_eq (signalled r now), List.length_append, @List.length_append _ layout.start] at enough
  rw [document_eq (signalled r now)] at inside ⊢
  rw [document_eq r, document_eq (mixed r now _), writeAt_front inside]
  refine congrArg (layout.start ++ ·) ?_
  rw [writeAt_within (by simp only [signalled]; omega) (by omega) (by omega)]
  rfl

/-- Up to `interrupted`, if the timestamps are equally long. -/
theorem writeAt_results {r : Report Value Ext} (quiet : r.interrupted = false) {now : Timestamp} {offset : Nat}
    (same : now.text.length = r.timestampEnd.text.length)
    (late : layout.start.length + r.timestampEnd.text.length ≤ offset)
    (early : offset ≤ layout.start.length + r.timestampEnd.text.length + (layout.body r.results r.extensions).length) :
    writeAt gap (layout.document (signalled r now)) offset ((layout.document r).drop offset) =
      layout.document { r with timestampEnd := now } := by
  -- The old text as if it had the new timestamp.
  have old : (layout.document r).drop offset = (layout.document { r with timestampEnd := now }).drop offset := by
    have past (front rest : List Char) (before : front.length ≤ offset) :
        (front ++ rest).drop offset = rest.drop (offset - front.length) := by
      rw [List.drop_append, List.drop_eq_nil_of_le before, List.nil_append]
    have lengths : (layout.start ++ now.text).length = (layout.start ++ r.timestampEnd.text).length := by
      rw [List.length_append, List.length_append, same]
    rw [document_eq r, document_eq { r with timestampEnd := now }, ← List.append_assoc,
      ← List.append_assoc layout.start now.text, past, past, lengths]
    · rw [lengths, List.length_append]
      exact late
    · rw [List.length_append]
      exact late
  rw [old]
  have front : layout.document { r with timestampEnd := now } =
      layout.start ++ now.text ++ layout.body r.results r.extensions ++
        (boolText false ++ layout.tail r.completedStages r.extensions) := by
    simp only [Layout.document, dump, quiet, List.append_assoc]
  have front' : layout.document (signalled r now) =
      layout.start ++ now.text ++ layout.body r.results r.extensions ++
        (boolText true ++ layout.tail r.completedStages r.extensions) := by
    simp only [Layout.document, dump, signalled, List.append_assoc]
  have before : offset ≤ (layout.start ++ now.text ++ layout.body r.results r.extensions).length := by
    simp only [List.length_append]
    omega
  rw [front, front', writeAt_front (by rw [List.length_append]; omega), Nat.sub_eq_zero_of_le before, List.drop_zero,
    writeAt_whole]
  simp only [List.length_append, boolText]
  simp

/-- The process as the handler leaves it. -/
def handled (layout : Layout Value Ext) (s : Process Value Ext) (now : Timestamp) : Process Value Ext :=
  { s with
    report := signalled s.report now
    file := some (layout.document (signalled s.report now))
    shutdownRequested := true
    arrived := some s.report.results }

theorem signals_active (asked : s.shutdownRequested = false) (active : s.active = true) (now : Timestamp) :
    signals layout s now = handled layout s now := by
  rw [signals, if_neg (by simp [asked]), if_pos active]
  rfl

/-- What the save under way leaves of the text of the handler. -/
theorem ends_handled (quiet : s.report.interrupted = false) (current : Current layout s)
    (asked : s.shutdownRequested = false) {now : Timestamp} (undisturbed : Undisturbed layout s (.signals now)) :
    Ends layout (handled layout s now) s.report.results ∨ s.save ≠ none ∧ savesSoon s.rest.tail = true := by
  unfold Undisturbed at undisturbed
  unfold Current at current
  dsimp only at undisturbed
  split at undisturbed
  · rename_i idle
    refine .inl ⟨_, ?_, holds_document (signalled s.report now)⟩
    simp only [outcome, handled, idle, Option.map_some]
  · rename_i opened
    refine .inl ⟨_, ?_, holds_document (signalled s.report now)⟩
    simp only [outcome, handled, opened, Option.map_some, writeAt_whole (Nat.le_refl _)]
  · rename_i timestampEnd copied
    rw [copied] at current
    obtain rfl : timestampEnd = s.report.timestampEnd := current
    rcases undisturbed with already | soon | shorter
    · cases asked.symm.trans already
    · exact .inr ⟨by simp [copied], soon⟩
    · refine .inl ⟨_, ?_, holds_document { signalled s.report now with timestampEnd := s.report.timestampEnd }⟩
      have enough : (layout.document (signalled s.report now)).length ≤
          (layout.document { signalled s.report now with timestampEnd := s.report.timestampEnd }).length := by
        rw [length_document, length_document]
        simp only [signalled]
        omega
      simp only [outcome, handled, copied, Option.map_some, writeAt_whole enough]
  · rename_i offset unwritten writing
    rw [writing] at current
    obtain ⟨-, rfl⟩ := current
    rcases undisturbed with already | soon | none_ | agree
    · cases asked.symm.trans already
    · exact .inr ⟨by simp [writing], soon⟩
    · refine .inl ⟨_, ?_, holds_document (signalled s.report now)⟩
      simp only [outcome, handled, writing, Option.map_some, none_, writeAt, if_true]
    · have timestamp (room : now.text.length ≤ s.report.timestampEnd.text.length + 1)
          (early : offset ≤ layout.start.length + min now.text.length s.report.timestampEnd.text.length) :
          Ends layout (handled layout s now) s.report.results := by
        refine ⟨_, ?_, holds_document (mixed s.report now (offset - layout.start.length))⟩
        simp only [outcome, handled, writing, Option.map_some, writeAt_timestamp quiet room early]
      rcases agree with ⟨room, early⟩ | ⟨same, early⟩
      · exact .inl (timestamp room early)
      rcases Nat.le_total offset (layout.start.length + s.report.timestampEnd.text.length) with before | late
      · exact .inl (timestamp (by omega) (by omega))
      · refine .inl ⟨_, ?_, holds_document { s.report with timestampEnd := now }⟩
        simp only [outcome, handled, writing, Option.map_some, writeAt_results quiet same late early]

theorem sound_signals (sound : Sound layout s) (running : s.exited = false) {now : Timestamp}
    (undisturbed : Undisturbed layout s (.signals now)) : Sound layout (signals layout s now) := by
  cases asked : s.shutdownRequested with
  | true => rwa [signals, if_pos asked]
  | false =>
    have quiet := sound.asked asked
    cases active : s.active with
    | true =>
      rw [signals_active asked active]
      have ends := ends_handled (sound.fresh quiet).1 (sound.fresh quiet).2 asked undisturbed
      have idles (idle : s.save = none) : Ends layout (handled layout s now) s.report.results :=
        ends.resolve_right (absurd idle ·.1)
      exact {
        place := sound.place
        saving := sound.saving
        merges := sound.merges
        written := fun _ => ends.imp_right fun soon => ⟨nofun, soon.2⟩
        kept := fun idle _ same => .inl (Option.some.inj same ▸ idles idle)
        last := fun idle _ => idles idle
        later := fun _ same => Option.some.inj same ▸ List.prefix_rfl
        fresh := nofun
        asked := nofun
        inactive := sound.inactive
        stopped := not_exited running }
    | false =>
      rw [signals, if_neg (by simp [asked]), if_neg (by simp [active])]
      have settled_ := sound.inactive active
      exact {
        place := sound.place
        saving := sound.saving
        merges := sound.merges
        written := fun busy => .inl ((sound.written busy).resolve_right (absurd quiet ·.1))
        kept := fun idle _ same => .inl (Option.some.inj same ▸ sound.last idle settled_)
        last := sound.last
        later := fun _ same => Option.some.inj same ▸ List.prefix_rfl
        fresh := nofun
        asked := nofun
        inactive := sound.inactive
        stopped := not_exited running }

/-! ### Runs -/

theorem sound_start {report : Report Value Ext} (quiet : report.interrupted = false) (file : Option (List Char)) :
    Sound layout (start report file) where
  place := List.suffix_rfl
  saving busy := absurd rfl busy
  merges := nofun
  written busy := absurd rfl busy
  kept _ := nofun
  last _ settled_ := absurd settled_ (show ¬settled runChain = true by decide)
  later := nofun
  fresh _ := ⟨quiet, trivial⟩
  asked _ := rfl
  inactive := nofun
  stopped := nofun

theorem sound_step {label : Label Value Ext} {t : Process Value Ext} (sound : Sound layout s)
    (undisturbed : Undisturbed layout s label) (stepped : step layout s label = some t) : Sound layout t := by
  unfold step at stepped
  split_ifs at stepped with ended
  have running : s.exited = false := by simpa using ended
  cases label with
  | assigns value => exact sound_assigns sound running stepped
  | advances now => exact sound_advances sound running stepped
  | raises => exact sound_raises sound stepped
  | opens => exact sound_opens sound running stepped
  | copies => exact sound_copies sound running stepped
  | takes => exact sound_takes sound running stepped
  | writes count => exact sound_writes sound running stepped
  | closes => exact sound_closes sound running stepped
  | loads r extensions => exact sound_loads sound running stepped
  | replaces => exact sound_replaces sound running stepped
  | skips => exact sound_skips sound running stepped
  | signals now =>
    cases stepped
    exact sound_signals sound running undisturbed

/-- Once the process has exited, the file holds one complete report with the results that
    there were when the signal arrived. -/
def Graceful (layout : Layout Value Ext) (s : Process Value Ext) : Prop :=
  s.exited = true → ∀ results, s.arrived = some results → ∃ text, s.file = some text ∧ layout.Holds text results

/-- A stop leaves a readable report, unless the signal arrives where the rest of the text
    that is being written does not fit the new one. -/
theorem graceful_stop_readable (layout : Layout Value Ext) {report : Report Value Ext}
    (quiet : report.interrupted = false) (file : Option (List Char)) {labels : List (Label Value Ext)}
    (undisturbed : Meets (step layout) (Undisturbed layout) (start report file) labels) :
    Always (step layout) (Graceful layout) (start report file) labels := by
  refine always_of_meets (Sound layout) (fun _ _ _ sound met stepped => sound_step sound met stepped) ?_
    (sound_start quiet file) undisturbed
  intro s sound exited results arrived
  obtain ⟨idle, all⟩ := sound.stopped exited
  obtain ⟨text, ends, holds⟩ := all results arrived
  refine ⟨text, ?_, holds⟩
  simpa [outcome, idle] using ends

/-- What is left when the signal finds the process writing, and the process stops after the save. -/
theorem run_stopped {guarded : Bool} {rest : List Statement} {offset : Nat} {unwritten : List Char} {now : Timestamp}
    (next : s.rest = .saves guarded :: .returnsIfShutdown :: rest) (writing : s.save = some (.writing offset unwritten))
    (running : s.exited = false) (asked : s.shutdownRequested = false) (active : s.active = true) :
    run (step layout) s [.signals now, .writes unwritten.length, .closes, .advances now] = some
      { handled layout s now with
        rest := .returnsIfShutdown :: rest
        file := some (writeAt gap (layout.document (signalled s.report now)) offset unwritten)
        save := none
        exited := true } := by
  obtain ⟨_, report, file, _, merging, _, _, _, arrived⟩ := s
  cases next
  cases writing
  cases running
  cases asked
  cases active
  simp [run, step, signals, writes, closes, advances, handled, signalled]

end Chain

/-! ### A report -/

open JsonText (quote)

theorem plain_timestamp (now : Timestamp) : quote ∉ now.text := fun member => by
  rcases now.plain quote member with digit | mark
  · exact absurd digit (by decide)
  · exact absurd mark (by decide)

/-- A text up to its closing quote. -/
theorem readable_quote {text other rest rest' : List Char} (plain : quote ∉ text) (plain' : quote ∉ other)
    (same : text ++ quote :: rest = other ++ quote :: rest') : text = other ∧ rest = rest' := by
  induction text generalizing other with
  | nil =>
    cases other with
    | nil => exact ⟨rfl, (List.cons.inj same).2⟩
    | cons c other => exact absurd ((List.cons.inj same).1 ▸ List.mem_cons_self) plain'
  | cons c text ih =>
    cases other with
    | nil => exact absurd ((List.cons.inj same).1 ▸ List.mem_cons_self) plain
    | cons d other =>
      obtain ⟨rfl, tails⟩ := List.cons.inj same
      obtain ⟨rfl, rests⟩ := ih (fun member => plain (List.mem_cons_of_mem _ member))
        (fun member => plain' (List.mem_cons_of_mem _ member)) tails
      exact ⟨rfl, rests⟩

theorem readable_boolText : JsonText.Readable boolText := by
  intro a b rest rest' same
  cases a <;> cases b
  · exact ⟨rfl, List.append_cancel_left same⟩
  · exact absurd (List.cons.inj same).1 (by decide)
  · exact absurd (List.cons.inj same).1 (by decide)
  · exact ⟨rfl, List.append_cancel_left same⟩

def plainStart : List Char := "\x7b\n  \"timestamp_end\": \"".toList

def resultsKey : List Char := ",\n  \"results\": ".toList

def interruptedKey : List Char := ",\n  \"interrupted\": ".toList

def completedKey : List Char := ",\n  \"completed_stages\": ".toList

def extensionsKey : List Char := ",\n  \"extensions\": ".toList

def plainBody (results _ : List String) : List Char :=
  quote :: (resultsKey ++ JsonText.array results ++ interruptedKey)

def plainTail (completedStages extensions : List String) : List Char :=
  completedKey ++ JsonText.array completedStages ++ extensionsKey ++ JsonText.array extensions ++ ['\n'] ++ ['\x7d']

theorem plain_determined {r r' : Report String String}
    (same : dump plainStart plainBody plainTail r = dump plainStart plainBody plainTail r') : r = r' := by
  simp only [dump, plainBody, plainTail, List.append_assoc, List.cons_append] at same
  obtain ⟨timestamps, same⟩ := readable_quote (plain_timestamp _) (plain_timestamp _) (List.append_cancel_left same)
  obtain ⟨results, same⟩ := JsonText.readable_array _ _ _ _ (List.append_cancel_left same)
  obtain ⟨flags, same⟩ := readable_boolText _ _ _ _ (List.append_cancel_left same)
  obtain ⟨stages, same⟩ := JsonText.readable_array _ _ _ _ (List.append_cancel_left same)
  obtain ⟨extensions, -⟩ := JsonText.readable_array _ _ _ _ (List.append_cancel_left same)
  obtain ⟨⟨_, _⟩, _, _, _, _⟩ := r
  obtain ⟨⟨_, _⟩, _, _, _, _⟩ := r'
  cases timestamps
  cases results
  cases flags
  cases stages
  cases extensions
  rfl

/-- Reports whose results are texts, in one list. -/
def plainLayout : Layout String String where
  start := plainStart
  body := plainBody
  tail := plainTail
  determined r r' extensions same := by rw [plain_determined same]

theorem plain_of_all {text : List Char}
    (all : (text.all fun c => c.isDigit || ['-', ':', '.', '+', 'T'].contains c) = true) :
    ∀ c ∈ text, c.isDigit = true ∨ c ∈ ['-', ':', '.', '+', 'T'] := by
  intro c member
  simpa using List.all_eq_true.mp all c member

def before : Timestamp := ⟨"2026-01-05T10:00:00+00:00".toList, plain_of_all (by decide)⟩

def later : Timestamp := ⟨"2026-01-05T10:00:01+00:00".toList, plain_of_all (by decide)⟩

def freshReport : Report String String := ⟨⟨[], nofun⟩, [], false, [], []⟩

/-- The report that is saved after the first stage. -/
def ingested : Report String String := ⟨before, ["capture_info"], false, ["Capture Ingestion"], []⟩

/-- The first stage, and its save up to an offset. -/
def savedUpTo (count : Nat) : List (Label String String) :=
  [.assigns "capture_info", .advances before, .advances before, .advances before,
    .opens, .copies, .takes, .writes count]

/-- The process when the save has come to the offset. -/
def halfway (count : Nat) : Process String String :=
  { start ingested none with
    rest := .saves true :: runChain.drop 4
    file := some (writeAt gap [] 0 ((plainLayout.document ingested).take count))
    save := some (.writing (0 + ((plainLayout.document ingested).take count).length)
      ((plainLayout.document ingested).drop count)) }

theorem run_savedUpTo (count : Nat) :
    run (step plainLayout) (start freshReport none) (savedUpTo count) = some (halfway count) := rfl

theorem plain_end (r : Report String String) : ∃ front, plainLayout.document r = front ++ ['\n'] ++ ['\x7d'] :=
  ⟨plainStart ++ r.timestampEnd.text ++ plainBody r.results r.extensions ++ boolText r.interrupted ++
    (completedKey ++ JsonText.array r.completedStages ++ extensionsKey ++ JsonText.array r.extensions), by
    simp only [Layout.document, dump, plainLayout, plainTail, List.append_assoc]⟩

theorem equally_long : ingested.timestampEnd.text.length = later.text.length := by decide

/-- The signal arrives when the save has come to the offset. -/
def stoppedAt (count : Nat) : Process String String :=
  { handled plainLayout (halfway count) later with
    rest := .returnsIfShutdown :: runChain.drop 5
    file := some (writeAt gap (plainLayout.document (signalled ingested later))
      (0 + ((plainLayout.document ingested).take count).length) ((plainLayout.document ingested).drop count))
    save := none
    exited := true }

theorem run_stoppedAt (count : Nat) :
    run (step plainLayout) (start freshReport none) (savedUpTo count ++ [.signals later,
      .writes ((plainLayout.document ingested).drop count).length, .closes, .advances later]) =
    some (stoppedAt count) :=
  run_append.mpr ⟨halfway count, run_savedUpTo count, run_stopped rfl rfl rfl rfl rfl⟩

/-- The signal arrives when all but the last character is written: the text of the handler is
    one character shorter, and ends up with a second brace. -/
theorem second_brace :
    ∃ final, run (step plainLayout) (start freshReport none)
        (savedUpTo ((plainLayout.document ingested).length - 1) ++
          [.signals later, .writes 1, .closes, .advances later]) = some final ∧
      final.file = some (plainLayout.document (signalled ingested later) ++ ['\x7d']) ∧
      ¬Graceful plainLayout final := by
  obtain ⟨front, whole⟩ := plain_end ingested
  have lengths := length_signalled plainLayout (r := ingested) rfl later
  have same := equally_long
  have written : (plainLayout.document ingested).length = (front ++ ['\n']).length + 1 := by
    rw [whole, @List.length_append _ (front ++ ['\n']), List.length_singleton]
  have count : (plainLayout.document (signalled ingested later)).length = (front ++ ['\n']).length := by
    omega
  have ran := run_stoppedAt (front ++ ['\n']).length
  have file : (stoppedAt (front ++ ['\n']).length).file =
      some (plainLayout.document (signalled ingested later) ++ ['\x7d']) := by
    rw [stoppedAt, whole, List.take_left, List.drop_left, Nat.zero_add, ← count, writeAt_of_le (Nat.le_refl _),
      List.take_length, List.drop_eq_nil_of_le (Nat.le_add_right _ _), List.append_nil]
  rw [whole, List.drop_left] at ran
  rw [written, Nat.add_sub_cancel]
  refine ⟨_, ran, file, fun graceful => ?_⟩
  obtain ⟨text, is, r, document, -⟩ := graceful rfl _ rfl
  obtain ⟨first, ends⟩ := plain_end (signalled ingested later)
  obtain ⟨second, ends'⟩ := plain_end r
  obtain rfl := Option.some.inj (file.symm.trans is)
  rw [ends, ends'] at document
  have again := (List.append_inj' document rfl).1
  exact absurd (List.append_inj' again rfl).2 (by decide)

/-- The signal arrives at the first character of the save, which the two texts share. -/
theorem graceful_stop_readable_early :
    Always (step plainLayout) (Graceful plainLayout) (start freshReport none)
      (savedUpTo 1 ++
        [.signals later, .writes ((plainLayout.document ingested).drop 1).length, .closes, .advances later]) := by
  have quietly : ∀ l ∈ savedUpTo 1, ∀ s, Undisturbed plainLayout s l := by
    simp [savedUpTo, Undisturbed]
  have late : ∀ l ∈ [Label.writes ((plainLayout.document ingested).drop 1).length, .closes, .advances later],
      ∀ s, Undisturbed plainLayout s l := by
    simp [Undisturbed]
  have first : 0 + ((plainLayout.document ingested).take 1).length ≤ plainLayout.start.length := by
    rw [Nat.zero_add, List.length_take]
    exact Nat.le_trans (Nat.min_le_left ..) (by decide)
  have fits : Undisturbed plainLayout (halfway 1) (.signals later) :=
    .inr (.inr (.inr (.inl ⟨by rw [halfway, start, equally_long]; exact Nat.le_succ _, Nat.le_add_right_of_le first⟩)))
  exact graceful_stop_readable plainLayout rfl none
    (meets_append (meets_of_labels quietly _) (run_savedUpTo 1) (meets_cons rfl fits (meets_of_labels late _)))

end Marlinspike.Engine.Interruption
