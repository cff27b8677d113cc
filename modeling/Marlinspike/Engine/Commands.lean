import Marlinspike.Transition

/-!
The engine's entry points as they run in a process of their own: the order in which each
executes its stages, records them, saves its report and looks at the shutdown flag, and
what a signal does at any point of it. What the stages compute is not looked at here.
-/
namespace Marlinspike.Engine.Commands
open Marlinspike.Transition

inductive Stage where
  | ingest
  | dissect
  | topology
  | risk
deriving DecidableEq, Repr

inductive Instruction where
  /-- `signal.signal`, for SIGTERM and SIGINT. -/
  | registers
  /-- `_active_report` and its path are set, or cleared. -/
  | activates
  | deactivates
  /-- A stage, which may raise or exit. -/
  | executes (stage : Stage)
  /-- Any other statements. -/
  | computes
  | completes (stageName : String)
  /-- `report.save`; in `_save_intermediate` its failure is only printed. -/
  | saves (guarded : Bool)
  /-- `if _shutdown_requested: return`, perhaps after another save. -/
  | returnsIfShutdown (saving : Bool)
deriving DecidableEq, Repr

/-- `_save_intermediate`. -/
def saveIntermediate (stageName : String) : List Instruction := [.completes stageName, .saves true]

def runChain : List Instruction :=
  [.registers, .computes, .activates, .computes] ++
  .executes .ingest :: saveIntermediate "Capture Ingestion" ++ .returnsIfShutdown false ::
  .executes .dissect :: saveIntermediate "Protocol Dissection" ++ .returnsIfShutdown false ::
  .executes .topology :: saveIntermediate "Topology Construction" ++ .returnsIfShutdown false ::
  .executes .risk :: saveIntermediate "Risk Surface Report" ++
  [.saves false, .computes, .deactivates]

def runIngest : List Instruction :=
  [.registers, .computes, .activates, .executes .ingest, .completes "Capture Ingestion", .saves false, .deactivates,
    .computes]

def runDissect : List Instruction := [.computes, .executes .dissect, .saves false, .computes]

def runTopology : List Instruction := [.computes, .executes .topology, .saves false, .computes]

def runRisk : List Instruction := [.computes, .executes .risk, .saves false]

def runChainFromConversations : List Instruction :=
  [.registers, .computes, .activates, .computes, .returnsIfShutdown true] ++
  .executes .topology :: saveIntermediate "Topology Construction" ++ .returnsIfShutdown false ::
  .executes .risk :: saveIntermediate "Risk Surface Report" ++
  [.saves false, .computes, .deactivates]

inductive Command where
  | chain
  | ingest
  | dissect
  | topology
  | risk
  | chainFromConversations
deriving DecidableEq, Repr

def Command.program : Command → List Instruction
  | .chain => runChain
  | .ingest => runIngest
  | .dissect => runDissect
  | .topology => runTopology
  | .risk => runRisk
  | .chainFromConversations => runChainFromConversations

/-! ### The process -/

/-- The file at the output path: not there, not readable as a report, or a report with its
    `completed_stages`. -/
inductive Output where
  | missing
  | cut
  | saved (completedStages : List String)
deriving DecidableEq, Repr

/-- What becomes of a save. One that the handler's own save runs into may be garbled; one
    that fails may have truncated the file before. -/
inductive Write where
  | written
  | garbled
  | failed (truncated : Bool)
deriving DecidableEq, Repr

def Write.output (completedStages : List String) (before : Output) : Write → Output
  | .written => .saved completedStages
  | .garbled => .cut
  | .failed truncated => if truncated then .cut else before

def Write.fails : Write → Bool
  | .failed _ => true
  | .written | .garbled => false

inductive Signal where
  | sigterm
  | sigint
deriving DecidableEq, Repr

def Signal.number : Signal → Int
  | .sigterm => 15
  | .sigint => 2

structure Process where
  rest : List Instruction
  /-- `_shutdown_handler` is in place. -/
  handled : Bool
  active : Bool
  shutdownRequested : Bool
  executed : List Stage
  completedStages : List String
  output : Output
  returnCode : Option Int
deriving DecidableEq, Repr

/-- A process that has been started, with what lies at its output path. -/
def start (command : Command) (output : Output) : Process :=
  ⟨command.program, false, false, false, [], [], output, none⟩

inductive Label where
  /-- The next statements succeed, or there are none left. -/
  | advances
  /-- The next statements raise. -/
  | raises
  /-- The next statement is a save. -/
  | writes (write : Write)
  /-- A signal is delivered before the next statement; the handler may save. -/
  | signals (signal : Signal) (write : Write)
deriving DecidableEq, Repr

def Process.exits (p : Process) (returnCode : Int) : Process := { p with returnCode := some returnCode }

/-- The process past its next instruction. -/
def Process.past (p : Process) (rest : List Instruction) : Instruction → Process
  | .registers => { p with rest, handled := true }
  | .activates => { p with rest, active := true }
  | .deactivates => { p with rest, active := false }
  | .executes stage => { p with rest, executed := p.executed ++ [stage] }
  | .completes stageName => { p with rest, completedStages := p.completedStages ++ [stageName] }
  | .computes | .saves _ | .returnsIfShutdown _ => { p with rest }

def Process.save (p : Process) (write : Write) : Process :=
  { p with output := write.output p.completedStages p.output }

def advances (p : Process) : Option Process :=
  match p.rest with
  | [] => some (p.exits 0)
  | .saves _ :: _ => none
  | .returnsIfShutdown saving :: rest =>
    if p.shutdownRequested then if saving then none else some (p.exits 0)
    else some (p.past rest (.returnsIfShutdown saving))
  | i :: rest => some (p.past rest i)

def raises (p : Process) : Option Process :=
  match p.rest with
  | .executes _ :: _ | .computes :: _ => some (p.exits 1)
  | _ => none

def writes (p : Process) (write : Write) : Option Process :=
  match p.rest with
  | .saves guarded :: rest =>
    some (if write.fails && !guarded then (p.save write).exits 1 else (p.save write).past rest (.saves guarded))
  | .returnsIfShutdown true :: _ =>
    if p.shutdownRequested then some ((p.save write).exits (if write.fails then 1 else 0)) else none
  | _ => none

/-- `_shutdown_handler`, or the signal's own action before it is in place. -/
def signals (p : Process) (signal : Signal) (write : Write) : Process :=
  if !p.handled then p.exits (-signal.number)
  else if p.shutdownRequested then p
  else if p.active then { p.save write with shutdownRequested := true }
  else { p with shutdownRequested := true }

def step (p : Process) (label : Label) : Option Process :=
  if p.returnCode.isSome then none
  else
    match label with
    | .advances => advances p
    | .raises => raises p
    | .writes write => writes p write
    | .signals signal write => some (signals p signal write)

end Marlinspike.Engine.Commands
