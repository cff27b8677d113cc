import Mathlib.Data.Finset.Card
import Mathlib.Tactic.SplitIfs
import Marlinspike.Transition
import Marlinspike.PyDict
import Marlinspike.Base64
import Marlinspike.Positional
import Marlinspike.Capd.Supervisor

/-!
Pcap uploads between agents and the gateway. `_ship_pcap` writes a file's chunks and its
`pcap_complete` to the connection and deletes the file; the gateway's read loop makes a
task of every frame, and `_handle_event` suspends at the connection's lock and at its
executor calls. Any connection may drop, any call to the disk or the database may fail,
and rows may be deleted, between any two steps.

An event carries the number of the ship that has sent it, and a transfer that of the
event that has created it; the gateway's code does not look at them.
-/
namespace Marlinspike.Gateway.Server
open Marlinspike.Base64 (Bytes)
open Marlinspike.Positional
open Marlinspike.Capd.Supervisor (Path basename)

/-! ### The database -/

structure CaptureSession where
  projectId : Option Nat
  agentId : Option Nat
deriving DecidableEq, Repr

/-- The rows, before any of them is deleted. -/
structure Tables where
  sessions : String → Option CaptureSession
  /-- The `user_id` of a project. -/
  projects : Nat → Option Nat
  /-- The `id` of an `agent_uuid`. -/
  agents : String → Option Nat

inductive Row where
  | session (sessionUuid : String)
  | project (id : Nat)
  | agent (agentUuid : String)
deriving DecidableEq, Repr

/-- `UPLOADS_DIR/<user_id>/<project_id>/<filename>`. -/
structure UploadPath where
  userId : Nat
  projectId : Nat
  filename : List Char
deriving DecidableEq, Repr

/-- What `finish_pcap_upload` returns. -/
structure Ownership where
  userId : Nat
  projectId : Nat
  agentId : Option Nat
deriving DecidableEq, Repr

/-- A row that has not been deleted. -/
def live {α : Type} (deleted : List Row) (row : Row) (found : Option α) : Option α :=
  if row ∈ deleted then none else found

/-- The checks of a session that `begin_pcap_upload` and `finish_pcap_upload` share. -/
def ownership (tables : Tables) (deleted : List Row) (sessionUuid agentUuid : String) : Option Ownership := do
  let cs ← live deleted (.session sessionUuid) (tables.sessions sessionUuid)
  let projectId ← cs.projectId
  let agentId ← cs.agentId
  let agent ← live deleted (.agent agentUuid) (tables.agents agentUuid)
  guard (agent = agentId)
  let userId ← live deleted (.project projectId) (tables.projects projectId)
  return ⟨userId, projectId, agentId⟩

/-- A bare name with an extension of a capture. -/
def safeFilename (filename : List Char) : Option (List Char) :=
  let name := basename filename
  let lower := name.map Char.toLower
  if name ≠ [] ∧ name ≠ ".".toList ∧ name ≠ "..".toList ∧
      (".pcap".toList <:+ lower ∨ ".pcapng".toList <:+ lower) then some name
  else none

/-- `begin_pcap_upload`: the final path; the partial one is the same with `.partial` after it. -/
def beginPcapUpload (tables : Tables) (deleted : List Row) (sessionUuid : String) (filename : List Char)
    (agentUuid : String) : Option UploadPath := do
  let name ← safeFilename filename
  let owner ← ownership tables deleted sessionUuid agentUuid
  return ⟨owner.userId, owner.projectId, name⟩

/-- Where a session's file of this name goes, if anywhere. -/
def destination (tables : Tables) (sessionUuid : String) (filename : List Char) : Option UploadPath := do
  let name ← safeFilename filename
  let cs ← tables.sessions sessionUuid
  let projectId ← cs.projectId
  let userId ← tables.projects projectId
  return ⟨userId, projectId, name⟩

/-! ### The disk -/

/-- The two files of an upload path, as inodes, and what each inode holds. -/
structure Files where
  partialFile : Option Nat
  final : Option Nat
  data : Nat → Bytes
  next : Nat

def Files.init : Files := ⟨none, none, fun _ => [], 0⟩

/-- `open(partial_path, "r+b" if os.path.exists(partial_path) else "w+b")`. -/
def Files.openPartial (files : Files) : Files × Nat :=
  match files.partialFile with
  | some inode => (files, inode)
  | none =>
    ({ files with
        partialFile := some files.next
        data := fun i => if i = files.next then [] else files.data i
        next := files.next + 1 }, files.next)

def Files.write (files : Files) (inode pos : Nat) (piece : Bytes) : Files :=
  { files with data := fun i => if i = inode then writeAt 0 (files.data i) pos piece else files.data i }

/-- `_discard_partial`. -/
def Files.discardPartial (files : Files) : Files := { files with partialFile := none }

/-- `os.replace(partial_path, final_path)`. -/
def Files.replace (files : Files) : Option Files :=
  files.partialFile.map fun inode => { files with partialFile := none, final := some inode }

/-! ### Frames -/

def pcapChunkRawBytes : Nat := 512 * 1024

/-- `_MAX_PCAP_CHUNKS`, from the configured `PCAP_MAX_SIZE`. -/
def maxPcapChunks (pcapMaxSize : Nat) : Nat := (pcapMaxSize + pcapChunkRawBytes - 1) / pcapChunkRawBytes + 1

structure PcapChunk where
  sessionId : String
  filename : List Char
  chunkIndex : Int
  totalChunks : Int
  data : List Char
deriving DecidableEq, Repr

structure PcapComplete where
  sessionId : String
  filename : List Char
  totalChunks : Int
  totalBytes : Nat
deriving DecidableEq, Repr

inductive Event where
  | pcapChunk (chunk : PcapChunk)
  | pcapComplete (complete : PcapComplete)
deriving DecidableEq, Repr

structure Frame where
  attempt : Nat
  event : Event
deriving DecidableEq, Repr

/-! ### The agent -/

/-- A file that an agent ships, and the connection that it ships it on. -/
structure Source where
  conn : Nat
  sessionId : String
  pcapPath : Path
  bytes : Bytes
deriving DecidableEq, Repr

def Source.filename (source : Source) : List Char := basename source.pcapPath

def Source.totalChunks (source : Source) : Nat := pieces pcapChunkRawBytes source.bytes

def Source.chunk (source : Source) (i : Nat) : PcapChunk :=
  { sessionId := source.sessionId
    filename := source.filename
    chunkIndex := i
    totalChunks := source.totalChunks
    data := Base64.encode (piece pcapChunkRawBytes source.bytes i) }

def Source.complete (source : Source) : PcapComplete :=
  ⟨source.sessionId, source.filename, source.totalChunks, source.bytes.length⟩

/-- The frames that `_send_pcap` writes. -/
def Source.frames (source : Source) (attempt : Nat) : List Frame :=
  (List.range source.totalChunks).map (fun i => ⟨attempt, .pcapChunk (source.chunk i)⟩) ++
    [⟨attempt, .pcapComplete source.complete⟩]

inductive ShipPhase where
  | sending
  /-- Given up: a reference is in the spool. -/
  | spooled
  /-- The local file is deleted. -/
  | removed
deriving DecidableEq, Repr

structure Ship where
  source : Source
  /-- How many of its frames are written. -/
  sent : Nat
  phase : ShipPhase
deriving DecidableEq, Repr

/-! ### The gateway -/

/-- `_PcapTransfer`. -/
structure Transfer where
  path : UploadPath
  fh : Nat
  received : Finset Nat
  sessionId : String
  attempt : Nat
deriving DecidableEq

/-- Where the handler of a `pcap_complete` stands with the transfer that it has closed. -/
inductive FinishPhase where
  /-- `finish_pcap_upload` runs in the executor, before its rename and after it. -/
  | publishing
  | checking
  /-- It has returned. -/
  | resolved (owner : Ownership)
deriving DecidableEq, Repr

structure Finishing where
  transfer : Transfer
  phase : FinishPhase
deriving DecidableEq

/-- `pcap_create_lock`. A lock that is released goes to the task that has waited longest. -/
inductive Lock where
  | free
  | granted (frame : Frame)
  /-- Held by a chunk whose `begin_pcap_upload` runs, and has returned. -/
  | resolving (attempt : Nat) (chunk : PcapChunk)
  | resolved (attempt : Nat) (chunk : PcapChunk) (path : Option UploadPath)
deriving DecidableEq, Repr

/-- `_AgentConnection`. -/
structure Conn where
  agentUuid : String
  isOpen : Bool
  /-- Written by the agent, and not read. -/
  wire : List Frame
  /-- Tasks that have not begun. -/
  spawned : List Frame
  lock : Lock
  waiters : List Frame
  transfers : PyDict (List Char) Transfer
  finishing : List Finishing

def Conn.init (agentUuid : String) : Conn := ⟨agentUuid, true, [], [], .free, [], PyDict.empty, []⟩

structure Publication where
  attempt : Nat
  sessionId : String
  path : UploadPath
  bytes : Bytes
deriving DecidableEq, Repr

/-- A call of `launch_scan`, and what it finds at its `pcap_path`. -/
structure Launch where
  attempt : Nat
  sessionId : String
  path : UploadPath
  bytes : Option Bytes
deriving DecidableEq, Repr

structure State where
  conns : List Conn
  ships : List Ship
  files : UploadPath → Files
  deleted : List Row
  published : List Publication
  launched : List Launch
  /-- The uploads for which `finish_pcap_upload` has been called. -/
  finishCalls : List Nat
  /-- The uploads of which something has been lost, refused or given up. -/
  troubles : List Nat
  /-- The uploads whose session was gone when they had been published. -/
  unscanned : List Nat

def State.init : State := ⟨[], [], fun _ => Files.init, [], [], [], [], [], []⟩

def State.setConn (s : State) (c : Nat) (conn : Conn) : State := { s with conns := s.conns.set c conn }

def State.setFiles (s : State) (path : UploadPath) (files : Files) : State :=
  { s with files := fun other => if other = path then files else s.files other }

def State.trouble (s : State) (attempts : List Nat) : State := { s with troubles := s.troubles ++ attempts }

def Conn.release (conn : Conn) : Conn :=
  match conn.waiters with
  | [] => { conn with lock := .free }
  | frame :: rest => { conn with lock := .granted frame, waiters := rest }

def Conn.wait (conn : Conn) (frame : Frame) : Conn := { conn with waiters := conn.waiters ++ [frame] }

/-! ### `_handle_event` -/

/-- `_abort_pcap_transfer`, for a frame of the given upload. -/
def abortPcapTransfer (s : State) (c : Nat) (conn : Conn) (filename : List Char) (attempt : Nat) : State :=
  match conn.transfers.get filename with
  | none => (s.setConn c conn).trouble [attempt]
  | some xfer =>
    ((s.setConn c { conn with transfers := conn.transfers.pop filename }).setFiles xfer.path
      (s.files xfer.path).discardPartial).trouble [attempt, xfer.attempt]

/-- The end of a `pcap_chunk`, with its transfer at hand. -/
def storeChunk (s : State) (c : Nat) (conn : Conn) (attempt : Nat) (chunk : PcapChunk) (xfer : Transfer)
    (written : Bool) : State :=
  if xfer.sessionId ≠ chunk.sessionId then (s.setConn c conn).trouble [attempt]
  else
    match Base64.decode chunk.data with
    | none => abortPcapTransfer s c conn chunk.filename attempt
    | some bytes =>
      if written then
        let index := chunk.chunkIndex.toNat
        let stored := { xfer with received := insert index xfer.received }
        (s.setConn c { conn with transfers := conn.transfers.set chunk.filename stored }).setFiles xfer.path
          ((s.files xfer.path).write xfer.fh (index * pcapChunkRawBytes) bytes)
      else (s.setConn c conn).trouble [attempt]

/-- The end of a `pcap_complete`, after the lock. -/
def completeUpload (pcapMaxSize : Nat) (s : State) (c : Nat) (conn : Conn) (attempt : Nat) (complete : PcapComplete) :
    State :=
  match conn.transfers.get complete.filename with
  | none => (s.setConn c conn).trouble [attempt]
  | some xfer =>
    let popped := { conn with transfers := conn.transfers.pop complete.filename }
    let total := complete.totalChunks
    if (0 < total ∧ total ≤ maxPcapChunks pcapMaxSize) ∧ xfer.received.card = total ∧
        ∀ i ∈ List.range total.toNat, i ∈ xfer.received then
      { s.setConn c { popped with finishing := popped.finishing ++ [⟨xfer, .publishing⟩] } with
        finishCalls := s.finishCalls ++ [xfer.attempt] }
    else
      ((s.setConn c popped).setFiles xfer.path (s.files xfer.path).discardPartial).trouble [attempt, xfer.attempt]

def inRange (pcapMaxSize : Nat) (chunk : PcapChunk) : Bool :=
  (0 ≤ chunk.chunkIndex && chunk.chunkIndex < maxPcapChunks pcapMaxSize) &&
    (0 < chunk.totalChunks && chunk.totalChunks ≤ maxPcapChunks pcapMaxSize)

/-- A task begins, and runs until it waits for the lock or for the executor. -/
def handleEvent (pcapMaxSize : Nat) (s : State) (c : Nat) (conn : Conn) (frame : Frame) (written : Bool) : State :=
  match frame.event with
  | .pcapChunk chunk =>
    if inRange pcapMaxSize chunk then
      match conn.transfers.get chunk.filename with
      | some xfer => storeChunk s c conn frame.attempt chunk xfer written
      | none =>
        if conn.lock = .free then s.setConn c { conn with lock := .resolving frame.attempt chunk }
        else s.setConn c (conn.wait frame)
    else abortPcapTransfer s c conn chunk.filename frame.attempt
  | .pcapComplete complete =>
    if conn.lock = .free then completeUpload pcapMaxSize s c conn frame.attempt complete
    else s.setConn c (conn.wait frame)

/-- A task resumes with the lock. -/
def acquired (pcapMaxSize : Nat) (s : State) (c : Nat) (conn : Conn) (frame : Frame) (written : Bool) : State :=
  match frame.event with
  | .pcapChunk chunk =>
    match conn.transfers.get chunk.filename with
    | some xfer => storeChunk s c conn.release frame.attempt chunk xfer written
    | none => s.setConn c { conn with lock := .resolving frame.attempt chunk }
  | .pcapComplete complete => completeUpload pcapMaxSize s c conn.release frame.attempt complete

/-- A chunk resumes with the path that `begin_pcap_upload` has returned. -/
def openTransfer (s : State) (c : Nat) (conn : Conn) (attempt : Nat) (chunk : PcapChunk) (path : Option UploadPath)
    (opened written : Bool) : State :=
  match path with
  | none => (s.setConn c conn.release).trouble [attempt]
  | some path =>
    if opened then
      let (files, fh) := (s.files path).openPartial
      let xfer : Transfer := ⟨path, fh, ∅, chunk.sessionId, attempt⟩
      storeChunk (s.setFiles path files) c
        { conn.release with transfers := conn.transfers.set chunk.filename xfer } attempt chunk xfer written
    else (s.setConn c conn.release).trouble [attempt]

/-! ### Steps -/

inductive Label where
  | connects (agentUuid : String)
  /-- An agent begins to ship a file, writes a frame, gives up, and deletes the file. -/
  | ships (source : Source)
  | sends (k : Nat)
  | spools (k : Nat)
  | removes (k : Nat)
  /-- The read loop takes a frame from the connection, and the connection is lost. -/
  | reads (c : Nat)
  | drops (c : Nat)
  | starts (c : Nat) (written : Bool)
  | acquires (c : Nat) (written : Bool)
  | resolves (c : Nat) (answered : Bool)
  | opens (c : Nat) (opened written : Bool)
  | publishes (c i : Nat) (replaced : Bool)
  | checks (c i : Nat) (answered : Bool)
  | launches (c i : Nat)
  | deletes (row : Row)

def sends (s : State) (k : Nat) : Option State := do
  let ship ← s.ships[k]?
  let conn ← s.conns[ship.source.conn]?
  let frame ← (ship.source.frames k)[ship.sent]?
  guard (ship.phase = .sending)
  let after := { s with ships := s.ships.set k { ship with sent := ship.sent + 1 } }
  if conn.isOpen then return after.setConn ship.source.conn { conn with wire := conn.wire ++ [frame] }
  else return after.trouble [k]

def spools (s : State) (k : Nat) : Option State := do
  let ship ← s.ships[k]?
  guard (ship.phase = .sending ∧ ship.sent < (ship.source.frames k).length)
  return { s with ships := s.ships.set k { ship with phase := .spooled } }.trouble [k]

/-- `os.remove(pcap_path)`, once every frame is written. -/
def removes (s : State) (k : Nat) : Option State := do
  let ship ← s.ships[k]?
  guard (ship.phase = .sending ∧ ship.sent = (ship.source.frames k).length)
  return { s with ships := s.ships.set k { ship with phase := .removed } }

def reads (s : State) (c : Nat) : Option State := do
  let conn ← s.conns[c]?
  let frame ← conn.wire.head?
  return s.setConn c { conn with wire := conn.wire.tail, spawned := conn.spawned ++ [frame] }

/-- The end of `_handle_connection`. Tasks that exist go on. -/
def drops (s : State) (c : Nat) : Option State := do
  let conn ← s.conns[c]?
  guard (conn.isOpen = true)
  return (s.setConn c { conn with isOpen := false, wire := [], transfers := PyDict.empty }).trouble
    (conn.wire.map (·.attempt) ++ conn.transfers.items.map (·.2.attempt))

def starts (pcapMaxSize : Nat) (s : State) (c : Nat) (written : Bool) : Option State := do
  let conn ← s.conns[c]?
  let frame ← conn.spawned.head?
  return handleEvent pcapMaxSize s c { conn with spawned := conn.spawned.tail } frame written

def acquires (pcapMaxSize : Nat) (s : State) (c : Nat) (written : Bool) : Option State := do
  let conn ← s.conns[c]?
  match conn.lock with
  | .granted frame => return acquired pcapMaxSize s c conn frame written
  | _ => none

def resolves (tables : Tables) (s : State) (c : Nat) (answered : Bool) : Option State := do
  let conn ← s.conns[c]?
  match conn.lock with
  | .resolving attempt chunk =>
    let path := beginPcapUpload tables s.deleted chunk.sessionId chunk.filename conn.agentUuid
    return s.setConn c { conn with lock := .resolved attempt chunk (if answered then path else none) }
  | _ => none

def opens (s : State) (c : Nat) (opened written : Bool) : Option State := do
  let conn ← s.conns[c]?
  match conn.lock with
  | .resolved attempt chunk path => return openTransfer s c conn attempt chunk path opened written
  | _ => none

/-- The rename of `finish_pcap_upload`. -/
def publishes (s : State) (c i : Nat) (replaced : Bool) : Option State := do
  let conn ← s.conns[c]?
  let finishing ← conn.finishing[i]?
  guard (finishing.phase = .publishing)
  let xfer := finishing.transfer
  let files := s.files xfer.path
  match files.replace, files.partialFile, replaced with
  | some after, some inode, true =>
    some
      { (s.setConn c { conn with finishing := conn.finishing.set i ⟨xfer, .checking⟩ }).setFiles xfer.path after with
        published := s.published ++ [⟨xfer.attempt, xfer.sessionId, xfer.path, files.data inode⟩] }
  | _, _, _ => return (s.setConn c { conn with finishing := conn.finishing.eraseIdx i }).trouble [xfer.attempt]

/-- The checks of `finish_pcap_upload`. -/
def checks (tables : Tables) (s : State) (c i : Nat) (answered : Bool) : Option State := do
  let conn ← s.conns[c]?
  let finishing ← conn.finishing[i]?
  guard (finishing.phase = .checking)
  let xfer := finishing.transfer
  match ownership tables s.deleted xfer.sessionId conn.agentUuid, answered with
  | some owner, true => return s.setConn c { conn with finishing := conn.finishing.set i ⟨xfer, .resolved owner⟩ }
  | _, _ =>
    some
      { s.setConn c { conn with finishing := conn.finishing.eraseIdx i } with
        unscanned := s.unscanned ++ [xfer.attempt] }

def launches (s : State) (c i : Nat) : Option State := do
  let conn ← s.conns[c]?
  let finishing ← conn.finishing[i]?
  let xfer := finishing.transfer
  match finishing.phase with
  | .resolved _ =>
    let files := s.files xfer.path
    some
      { s.setConn c { conn with finishing := conn.finishing.eraseIdx i } with
        launched := s.launched ++ [⟨xfer.attempt, xfer.sessionId, xfer.path, files.final.map files.data⟩] }
  | _ => none

def step (pcapMaxSize : Nat) (tables : Tables) (s : State) : Label → Option State
  | .connects agentUuid => some { s with conns := s.conns ++ [Conn.init agentUuid] }
  | .ships source =>
    if source.conn < s.conns.length then some { s with ships := s.ships ++ [⟨source, 0, .sending⟩] } else none
  | .sends k => sends s k
  | .spools k => spools s k
  | .removes k => removes s k
  | .reads c => reads s c
  | .drops c => drops s c
  | .starts c written => starts pcapMaxSize s c written
  | .acquires c written => acquires pcapMaxSize s c written
  | .resolves c answered => resolves tables s c answered
  | .opens c opened written => opens s c opened written
  | .publishes c i replaced => publishes s c i replaced
  | .checks c i answered => checks tables s c i answered
  | .launches c i => launches s c i
  | .deletes row => some { s with deleted := s.deleted ++ [row] }

theorem live_some {α : Type} {deleted : List Row} {row : Row} {found : Option α} {a : α}
    (present : live deleted row found = some a) : found = some a := by
  unfold live at present
  split_ifs at present
  exact present

theorem destination_of_begin {tables : Tables} {deleted : List Row} {sessionUuid agentUuid : String}
    {filename : List Char} {path : UploadPath}
    (resolved : beginPcapUpload tables deleted sessionUuid filename agentUuid = some path) :
    destination tables sessionUuid filename = some path := by
  simp only [beginPcapUpload, ownership, Option.bind_eq_bind, Option.bind_eq_some_iff, Option.pure_def,
    Option.some.injEq] at resolved
  obtain ⟨name, safe, owner, ⟨cs, session, projectId, project, agentId, -, agent, -, -, -, userId, user, rfl⟩, rfl⟩ :=
    resolved
  simp [destination, safe, live_some session, project, live_some user]

/-! ### What a step does to the ships and to what is published -/

/-- The handlers leave both alone. -/
structure Keeps (s t : State) : Prop where
  ships : t.ships = s.ships
  published : t.published = s.published

theorem keeps_abort (s : State) (c : Nat) (conn : Conn) (filename : List Char) (attempt : Nat) :
    Keeps s (abortPcapTransfer s c conn filename attempt) := by
  unfold abortPcapTransfer
  cases conn.transfers.get filename <;> exact ⟨rfl, rfl⟩

theorem keeps_store (s : State) (c : Nat) (conn : Conn) (attempt : Nat) (chunk : PcapChunk) (xfer : Transfer)
    (written : Bool) : Keeps s (storeChunk s c conn attempt chunk xfer written) := by
  unfold storeChunk
  by_cases mismatched : xfer.sessionId ≠ chunk.sessionId
  · rw [if_pos mismatched]
    exact ⟨rfl, rfl⟩
  · rw [if_neg mismatched]
    cases Base64.decode chunk.data with
    | none => exact keeps_abort s c conn chunk.filename attempt
    | some bytes => cases written <;> exact ⟨rfl, rfl⟩

theorem keeps_complete (pcapMaxSize : Nat) (s : State) (c : Nat) (conn : Conn) (attempt : Nat)
    (complete : PcapComplete) : Keeps s (completeUpload pcapMaxSize s c conn attempt complete) := by
  unfold completeUpload
  cases conn.transfers.get complete.filename with
  | none => exact ⟨rfl, rfl⟩
  | some xfer =>
    simp only
    split_ifs <;> exact ⟨rfl, rfl⟩

theorem keeps_handleEvent (pcapMaxSize : Nat) (s : State) (c : Nat) (conn : Conn) (frame : Frame) (written : Bool) :
    Keeps s (handleEvent pcapMaxSize s c conn frame written) := by
  unfold handleEvent
  cases frame.event with
  | pcapChunk chunk =>
    simp only
    by_cases within : inRange pcapMaxSize chunk
    · rw [if_pos within]
      cases conn.transfers.get chunk.filename with
      | some xfer => exact keeps_store s c conn frame.attempt chunk xfer written
      | none =>
        simp only
        split_ifs <;> exact ⟨rfl, rfl⟩
    · rw [if_neg within]
      exact keeps_abort s c conn chunk.filename frame.attempt
  | pcapComplete complete =>
    simp only
    split_ifs
    · exact keeps_complete pcapMaxSize s c conn frame.attempt complete
    · exact ⟨rfl, rfl⟩

theorem keeps_acquired (pcapMaxSize : Nat) (s : State) (c : Nat) (conn : Conn) (frame : Frame) (written : Bool) :
    Keeps s (acquired pcapMaxSize s c conn frame written) := by
  unfold acquired
  cases frame.event with
  | pcapChunk chunk =>
    simp only
    cases conn.transfers.get chunk.filename with
    | some xfer => exact keeps_store s c conn.release frame.attempt chunk xfer written
    | none => exact ⟨rfl, rfl⟩
  | pcapComplete complete => exact keeps_complete pcapMaxSize s c conn.release frame.attempt complete

theorem keeps_open (s : State) (c : Nat) (conn : Conn) (attempt : Nat) (chunk : PcapChunk) (path : Option UploadPath)
    (opened written : Bool) : Keeps s (openTransfer s c conn attempt chunk path opened written) := by
  unfold openTransfer
  cases path with
  | none => exact ⟨rfl, rfl⟩
  | some path =>
    cases opened with
    | false => exact ⟨rfl, rfl⟩
    | true =>
      let xfer : Transfer := ⟨path, (s.files path).openPartial.2, ∅, chunk.sessionId, attempt⟩
      obtain ⟨ships, published⟩ := keeps_store (s.setFiles path (s.files path).openPartial.1) c
        { conn.release with transfers := conn.transfers.set chunk.filename xfer } attempt chunk xfer written
      exact ⟨ships, published⟩

/-- A ship begins, one ship goes on, a file is published, or none of these. -/
inductive Changes (l : Label) (s t : State) : Prop where
  | keeps (keeps : Keeps s t)
  | begins (source : Source) (label : l = .ships source) (ships : t.ships = s.ships ++ [⟨source, 0, .sending⟩])
    (published : t.published = s.published)
  | goesOn (k : Nat) (ship ship' : Ship) (shipped : s.ships[k]? = some ship) (source : ship'.source = ship.source)
    (phase : ship'.phase = .removed → l = .removes k ∧ ship.phase = .sending ∧
      ship.sent = (ship.source.frames k).length)
    (ships : t.ships = s.ships.set k ship') (published : t.published = s.published)
  | publishes (c i : Nat) (conn : Conn) (xfer : Transfer) (inode : Nat) (present : s.conns[c]? = some conn)
    (at_i : conn.finishing[i]? = some ⟨xfer, .publishing⟩) (there : (s.files xfer.path).partialFile = some inode)
    (ships : t.ships = s.ships) (published : t.published =
      s.published ++ [⟨xfer.attempt, xfer.sessionId, xfer.path, (s.files xfer.path).data inode⟩])

private theorem changes_publishes {s t : State} {c i : Nat} {replaced : Bool} (stepped : publishes s c i replaced = some t) :
    Changes (.publishes c i replaced) s t := by
  simp only [publishes, Option.bind_eq_bind, Option.bind_eq_some_iff, Option.pure_def, Option.guard_eq_some'] at stepped
  obtain ⟨conn, present, ⟨xfer, phase⟩, at_i, -, publishing, stepped⟩ := stepped
  obtain rfl : phase = .publishing := publishing
  cases there : (s.files xfer.path).partialFile with
  | none =>
    simp only [Files.replace, there, Option.map_none, Option.some.injEq] at stepped
    exact .keeps (stepped ▸ ⟨rfl, rfl⟩)
  | some inode =>
    cases replaced with
    | false =>
      simp only [Files.replace, there, Option.map_some, Option.some.injEq] at stepped
      exact .keeps (stepped ▸ ⟨rfl, rfl⟩)
    | true =>
      simp only [Files.replace, there, Option.map_some, Option.some.injEq] at stepped
      subst stepped
      exact .publishes c i conn xfer inode present at_i there rfl rfl

private theorem keeps_checks {tables : Tables} {s t : State} {c i : Nat} {answered : Bool}
    (stepped : checks tables s c i answered = some t) : Keeps s t := by
  simp only [checks, Option.bind_eq_bind, Option.bind_eq_some_iff, Option.pure_def] at stepped
  obtain ⟨conn, -, finishing, -, -, -, stepped⟩ := stepped
  split at stepped <;> exact Option.some.inj stepped ▸ ⟨rfl, rfl⟩

private theorem keeps_launches {s t : State} {c i : Nat} (stepped : launches s c i = some t) : Keeps s t := by
  simp only [launches, Option.bind_eq_bind, Option.bind_eq_some_iff] at stepped
  obtain ⟨conn, -, finishing, -, stepped⟩ := stepped
  split at stepped
  · exact Option.some.inj stepped ▸ ⟨rfl, rfl⟩
  · cases stepped

theorem changes_of_step {pcapMaxSize : Nat} {tables : Tables} {s t : State} {l : Label}
    (stepped : step pcapMaxSize tables s l = some t) : Changes l s t := by
  cases l with
  | connects agentUuid => exact .keeps (Option.some.inj stepped ▸ ⟨rfl, rfl⟩)
  | ships source =>
    simp only [step] at stepped
    split_ifs at stepped
    exact .begins source rfl (Option.some.inj stepped ▸ rfl) (Option.some.inj stepped ▸ rfl)
  | sends k =>
    simp only [step, sends, Option.bind_eq_bind, Option.bind_eq_some_iff, Option.pure_def, Option.guard_eq_some'] at stepped
    obtain ⟨ship, shipped, conn, -, frame, -, -, sending, stepped⟩ := stepped
    split_ifs at stepped <;> obtain rfl := Option.some.inj stepped
    · exact .goesOn k ship { ship with sent := ship.sent + 1 } shipped rfl (by simp [sending]) rfl rfl
    · exact .goesOn k ship { ship with sent := ship.sent + 1 } shipped rfl (by simp [sending]) rfl rfl
  | spools k =>
    simp only [step, spools, Option.bind_eq_bind, Option.bind_eq_some_iff, Option.pure_def, Option.some.injEq] at stepped
    obtain ⟨ship, shipped, -, -, rfl⟩ := stepped
    exact .goesOn k ship { ship with phase := .spooled } shipped rfl (by simp) rfl rfl
  | removes k =>
    simp only [step, removes, Option.bind_eq_bind, Option.bind_eq_some_iff, Option.pure_def, Option.some.injEq,
      Option.guard_eq_some'] at stepped
    obtain ⟨ship, shipped, -, all, rfl⟩ := stepped
    exact .goesOn k ship { ship with phase := .removed } shipped rfl (fun _ => ⟨rfl, all⟩) rfl rfl
  | reads c =>
    simp only [step, reads, Option.bind_eq_bind, Option.bind_eq_some_iff, Option.pure_def, Option.some.injEq] at stepped
    obtain ⟨conn, -, frame, -, rfl⟩ := stepped
    exact .keeps ⟨rfl, rfl⟩
  | drops c =>
    simp only [step, drops, Option.bind_eq_bind, Option.bind_eq_some_iff, Option.pure_def, Option.some.injEq] at stepped
    obtain ⟨conn, -, -, -, rfl⟩ := stepped
    exact .keeps ⟨rfl, rfl⟩
  | starts c written =>
    simp only [step, starts, Option.bind_eq_bind, Option.bind_eq_some_iff, Option.pure_def, Option.some.injEq] at stepped
    obtain ⟨conn, -, frame, -, rfl⟩ := stepped
    exact .keeps (keeps_handleEvent pcapMaxSize s c _ frame written)
  | acquires c written =>
    simp only [step, acquires, Option.bind_eq_bind, Option.bind_eq_some_iff, Option.pure_def] at stepped
    obtain ⟨conn, -, stepped⟩ := stepped
    split at stepped
    · exact .keeps (Option.some.inj stepped ▸ keeps_acquired pcapMaxSize s c conn _ written)
    · cases stepped
  | resolves c answered =>
    simp only [step, resolves, Option.bind_eq_bind, Option.bind_eq_some_iff, Option.pure_def] at stepped
    obtain ⟨conn, -, stepped⟩ := stepped
    split at stepped
    · exact .keeps (Option.some.inj stepped ▸ ⟨rfl, rfl⟩)
    · cases stepped
  | opens c opened written =>
    simp only [step, opens, Option.bind_eq_bind, Option.bind_eq_some_iff, Option.pure_def] at stepped
    obtain ⟨conn, -, stepped⟩ := stepped
    split at stepped
    · exact .keeps (Option.some.inj stepped ▸ keeps_open s c conn _ _ _ opened written)
    · cases stepped
  | publishes c i replaced => exact changes_publishes stepped
  | checks c i answered => exact .keeps (keeps_checks stepped)
  | launches c i => exact .keeps (keeps_launches stepped)
  | deletes row => exact .keeps (Option.some.inj stepped ▸ ⟨rfl, rfl⟩)

end Marlinspike.Gateway.Server
