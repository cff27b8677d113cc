import Marlinspike.Engine.Commands
import Marlinspike.Positional

/-!
`run_chain` from where its report is active, with its saves taken apart: a save truncates the
output file, copies the report, and writes the text in pieces at its own offset. The handler
of a signal runs between any two of these steps, and saves the same file. No write fails.
-/
namespace Marlinspike.Engine.Saves
open Marlinspike.Positional
open Marlinspike.Transition
open Marlinspike.Engine.Commands (Stage Instruction)

/-! ### Reports -/

/-- `isoformat`: nothing in it needs an escape. -/
structure Timestamp where
  text : List Char
  plain : ∀ c ∈ text, c.isDigit = true ∨ c ∈ ['-', ':', '.', '+', 'T']

/-- The results are what the stages have put into the report, in the order of the assignments;
    the extensions are what enrichment adds to a report. -/
structure Report (Value Ext : Type) where
  timestampEnd : Timestamp
  results : List Value
  interrupted : Bool
  completedStages : List String
  extensions : List Ext

def boolText (flag : Bool) : List Char := if flag then ['t', 'r', 'u', 'e'] else ['f', 'a', 'l', 's', 'e']

section Layout
variable {Value Ext : Type}

/-- The text of a report: what is before `timestamp_end`, between it and `interrupted`, and
    after that. -/
def dump (start : List Char) (body : List Value → List Ext → List Char) (tail : List String → List Ext → List Char)
    (r : Report Value Ext) : List Char :=
  start ++ r.timestampEnd.text ++ body r.results r.extensions ++ boolText r.interrupted ++
    tail r.completedStages r.extensions

variable (Value Ext) in
/-- How `json.dump` writes reports. -/
structure Layout where
  start : List Char
  body : List Value → List Ext → List Char
  tail : List String → List Ext → List Char
  /-- What is merged into a report depends on nothing but its text. -/
  determined : ∀ r r' extensions, dump start body tail r = dump start body tail r' →
    dump start body tail { r with extensions } = dump start body tail { r' with extensions }

def Layout.document (layout : Layout Value Ext) (r : Report Value Ext) : List Char :=
  dump layout.start layout.body layout.tail r

/-- One complete document, with these results and perhaps later ones. -/
def Layout.Holds (layout : Layout Value Ext) (text : List Char) (results : List Value) : Prop :=
  ∃ r, text = layout.document r ∧ results <+: r.results

end Layout

/-! ### The program -/

inductive Statement where
  | executes (stage : Stage)
  | completes (stageName : String)
  /-- `report.timestamp_end = datetime.now(timezone.utc).isoformat()`. -/
  | stamps
  /-- `report.interrupted = False`. -/
  | clears
  | saves (guarded : Bool)
  | returnsIfShutdown
  /-- `_maybe_enrich`. -/
  | enriches
  /-- The reports in other formats, in files of their own. -/
  | emits
  | deactivates
deriving DecidableEq, Repr

def saveIntermediate (stageName : String) : List Statement := [.completes stageName, .stamps, .saves true]

def runChain : List Statement :=
  .executes .ingest :: saveIntermediate "Capture Ingestion" ++ .returnsIfShutdown ::
  .executes .dissect :: saveIntermediate "Protocol Dissection" ++ .returnsIfShutdown ::
  .executes .topology :: saveIntermediate "Topology Construction" ++ .returnsIfShutdown ::
  .executes .risk :: saveIntermediate "Risk Surface Report" ++
  [.stamps, .clears, .saves false, .enriches, .emits, .deactivates]

/-- The statement as an instruction, if it is one by itself. -/
def Statement.instruction : Statement → Option Instruction
  | .executes stage => some (.executes stage)
  | .completes stageName => some (.completes stageName)
  | .saves guarded => some (.saves guarded)
  | .returnsIfShutdown => some (.returnsIfShutdown false)
  | .emits => some .computes
  | .deactivates => some .deactivates
  | .stamps | .clears | .enriches => none

/-- The program is the one whose stages and looks at the flag are followed elsewhere. -/
theorem runChain_instructions : Commands.runChain =
    [.registers, .computes, .activates, .computes] ++ runChain.filterMap Statement.instruction := rfl

/-! ### The process -/

/-- A save under way: the file is truncated, the timestamp is copied, or the text is written
    up to an offset. -/
inductive Save where
  | opened
  | copied (timestampEnd : Timestamp)
  | writing (offset : Nat) (unwritten : List Char)

structure Process (Value Ext : Type) where
  rest : List Statement
  report : Report Value Ext
  /-- The file at the output path. -/
  file : Option (List Char)
  save : Option Save
  /-- What `write_enriched` is about to put in place of the file. -/
  merging : Option (List Char)
  active : Bool
  shutdownRequested : Bool
  exited : Bool
  /-- The results that there were when the signal arrived. -/
  arrived : Option (List Value)

inductive Label (Value Ext : Type) where
  /-- The stage sets a field of the report. -/
  | assigns (value : Value)
  /-- The next statement succeeds, or there is none left. -/
  | advances (now : Timestamp)
  /-- The next statement raises. -/
  | raises
  | opens
  | copies
  | takes
  | writes (count : Nat)
  | closes
  /-- `write_enriched` reads the report, and has run its plugins on it. -/
  | loads (r : Report Value Ext) (extensions : List Ext)
  | replaces
  /-- There is no enrichment, or it has failed. -/
  | skips
  | signals (now : Timestamp)

section Steps
variable {Value Ext : Type} (layout : Layout Value Ext)

/-- What a gap in a file is read as. -/
def gap : Char := Char.ofNat 0

def start (report : Report Value Ext) (file : Option (List Char)) : Process Value Ext :=
  ⟨runChain, report, file, none, none, true, false, false, none⟩

def assigns (s : Process Value Ext) (value : Value) : Option (Process Value Ext) :=
  match s.rest with
  | .executes _ :: _ => some { s with report := { s.report with results := s.report.results ++ [value] } }
  | _ => none

def advances (s : Process Value Ext) (now : Timestamp) : Option (Process Value Ext) :=
  match s.rest with
  | [] => some { s with exited := true }
  | .executes _ :: rest | .emits :: rest => some { s with rest }
  | .completes stageName :: rest =>
    some { s with rest, report := { s.report with completedStages := s.report.completedStages ++ [stageName] } }
  | .stamps :: rest => some { s with rest, report := { s.report with timestampEnd := now } }
  | .clears :: rest => some { s with rest, report := { s.report with interrupted := false } }
  | .returnsIfShutdown :: rest => some (if s.shutdownRequested then { s with exited := true } else { s with rest })
  | .deactivates :: rest => some { s with rest, active := false }
  | .saves _ :: _ | .enriches :: _ => none

def raises (s : Process Value Ext) : Option (Process Value Ext) :=
  match s.rest with
  | .executes _ :: _ | .emits :: _ => some { s with exited := true }
  | _ => none

def opens (s : Process Value Ext) : Option (Process Value Ext) :=
  match s.rest, s.save with
  | .saves _ :: _, none => some { s with file := some [], save := some .opened }
  | _, _ => none

/-- The first steps of `to_dict`, up to the timestamp. -/
def copies (s : Process Value Ext) : Option (Process Value Ext) :=
  match s.save with
  | some .opened => some { s with save := some (.copied s.report.timestampEnd) }
  | _ => none

/-- The other steps of `to_dict`. -/
def takes (s : Process Value Ext) : Option (Process Value Ext) :=
  match s.save with
  | some (.copied timestampEnd) =>
    some { s with save := some (.writing 0 (layout.document { s.report with timestampEnd })) }
  | _ => none

/-- Another piece of the text reaches the file. -/
def writes (s : Process Value Ext) (count : Nat) : Option (Process Value Ext) :=
  match s.save with
  | some (.writing offset unwritten) =>
    let piece := unwritten.take count
    some
      { s with
        file := s.file.map fun text => writeAt gap text offset piece
        save := some (.writing (offset + piece.length) (unwritten.drop count)) }
  | _ => none

def closes (s : Process Value Ext) : Option (Process Value Ext) :=
  match s.rest, s.save with
  | .saves _ :: rest, some (.writing _ []) => some { s with rest, save := none }
  | _, _ => none

def loads (s : Process Value Ext) (r : Report Value Ext) (extensions : List Ext) : Option (Process Value Ext) :=
  match s.rest with
  | .enriches :: _ =>
    if s.file = some (layout.document r) then some { s with merging := some (layout.document { r with extensions }) }
    else none
  | _ => none

/-- `os.replace`. -/
def replaces (s : Process Value Ext) : Option (Process Value Ext) :=
  match s.rest, s.merging with
  | .enriches :: rest, some text => some { s with rest, file := some text, merging := none }
  | _, _ => none

def skips (s : Process Value Ext) : Option (Process Value Ext) :=
  match s.rest with
  | .enriches :: rest => some { s with rest, merging := none }
  | _ => none

/-- `_shutdown_handler`, up to its return. -/
def signals (s : Process Value Ext) (now : Timestamp) : Process Value Ext :=
  if s.shutdownRequested then s
  else if s.active then
    let report := { s.report with timestampEnd := now, interrupted := true }
    { s with
      report
      file := some (layout.document report)
      shutdownRequested := true
      arrived := some s.report.results }
  else { s with shutdownRequested := true, arrived := some s.report.results }

def step (s : Process Value Ext) (label : Label Value Ext) : Option (Process Value Ext) :=
  if s.exited then none
  else
    match label with
    | .assigns value => assigns s value
    | .advances now => advances s now
    | .raises => raises s
    | .opens => opens s
    | .copies => copies s
    | .takes => takes layout s
    | .writes count => writes s count
    | .closes => closes s
    | .loads r extensions => loads layout s r extensions
    | .replaces => replaces s
    | .skips => skips s
    | .signals now => some (signals layout s now)

end Steps

end Marlinspike.Engine.Saves
