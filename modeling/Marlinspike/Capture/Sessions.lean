import Mathlib.Data.List.Nodup
import Mathlib.Data.List.Perm.Basic
import Marlinspike.Transition
import Marlinspike.Capd.Supervisor

/-!
One local capture session from end to end: `dumpcap`, the supervisor, capd's stats
stream and stop handler, the socket between them, the `StatsHub` thread that hands the
closed files to the file listener, and the web request that stops the session.

The supervisor names each closed file once, to whoever asks first. The hub hands over
what the stream is told; the web request only counts what its stop is told. A session
is analysed completely exactly as long as the stop learns nothing new and the hub,
once told to shut down, throws no closed file away (`delivery_iff_stream_first`).
-/
namespace Marlinspike.Capture.Sessions
open Marlinspike.Transition Marlinspike.Capd.Supervisor

/-- A stats frame: its `files_closed` and `running`. The frame that refuses an unknown
    session has neither, which the hub reads as no files and still running. -/
structure Frame where
  filesClosed : List Path
  running : Bool
deriving DecidableEq, Repr

/-- Where `_stream_stats` stands. -/
inductive Stream where
  /-- The hub's request has not been looked up yet. -/
  | connecting
  /-- `poll` has been handed to the executor. -/
  | polling
  /-- `is_running()` has been read. -/
  | observed (running : Bool)
  /-- The directory has been listed. -/
  | listed (running : Bool) (files : List Path)
  /-- The locked update is done; the frame has not been sent. -/
  | answered (frame : Frame)
  | sleeping
  | ended
deriving DecidableEq, Repr

/-- Where the stop request stands, in the web app and in `_stop_session`. -/
inductive Stop where
  | none
  /-- The status `stopping` is committed, the RPC is on its way. -/
  | requested
  /-- capd has found the supervisor and waits for `dumpcap` to exit. -/
  | stopping
  | listed (files : List Path)
  | updated (filesClosed : List Path)
  /-- capd has popped the session; the reply is on its way back. -/
  | replied (filesClosed : List Path)
  /-- capd does not know the session any more. -/
  | refused
  | ended
deriving DecidableEq, Repr

/-- `StatsHub`: its thread, its `_stop_event` and what its listener has been called with. -/
structure Hub where
  ended : Bool
  stopEvent : Bool
  delivered : List Path

structure Session where
  /-- `dumpcap` is alive; the files on disk are those from `lo` to `hi`. -/
  running : Bool
  lo : Nat
  hi : Nat
  tracking : Tracking
  /-- capd's `_sessions` has the supervisor. -/
  registered : Bool
  stream : Stream
  /-- The frames on the socket. -/
  frames : List Frame
  hub : Hub
  stop : Stop
  rotationCount : Nat
  /-- Everything that the supervisor has named in a `files_closed`. -/
  reported : List Path

def Session.init : Session :=
  { running := true, lo := 1, hi := 0, tracking := Tracking.init, registered := true, stream := .connecting
    frames := [], hub := ⟨false, false, []⟩, stop := .none, rotationCount := 0, reported := [] }

inductive Label where
  | rotate
  | evict
  /-- `dumpcap` exits: its duration has elapsed, it was told to, or it crashed. -/
  | exits
  | connects
  | observes
  | lists (listing : List Path)
  | updates (host : Host)
  /-- The frame is sent; to a hub that has left, the send fails or is never read. -/
  | sends (broken : Bool)
  | wakes
  | hubReceives
  | stopRequested
  | stopLooksUp
  | stopLists (listing : List Path)
  | stopUpdates (host : Host)
  | stopPops
  | stopReturns

section
variable (naming : Naming)

/-- A locked update by either caller. -/
def tracked (s : Session) (host : Host) (files : List Path) (running finalize : Bool) : List Path × Session :=
  let answer := update s.tracking host files running finalize
  (answer.1.filesClosed, { s with tracking := answer.2, reported := s.reported ++ answer.1.filesClosed })

/-- `self._sessions.get(session_id)` of the stats stream. -/
def connects (s : Session) : Option Session :=
  match s.stream with
  | .connecting =>
    if s.registered then some { s with stream := .polling }
    else some { s with stream := .ended, frames := s.frames ++ [⟨[], true⟩] }
  | _ => none

/-- `poll`, its listing and its locked update. -/
def observes (s : Session) : Option Session :=
  match s.stream with
  | .polling => some { s with stream := .observed s.running }
  | _ => none

def lists (s : Session) (listing : List Path) : Option Session :=
  match s.stream with
  | .observed running =>
    if listing.Perm (window naming s.lo s.hi) then some { s with stream := .listed running (sorted listing) } else none
  | _ => none

def updates (s : Session) (host : Host) : Option Session :=
  match s.stream with
  | .listed running files =>
    let answer := tracked s host files running (!running)
    some { answer.2 with stream := .answered ⟨answer.1, running⟩ }
  | _ => none

/-- `_reap_if_finished`, then the send; a finished or broken stream ends. -/
def sends (s : Session) (broken : Bool) : Option Session :=
  match s.stream with
  | .answered frame =>
    if broken && !s.hub.ended then none
    else some
      { s with
        registered := s.registered && frame.running
        stream := if frame.running && !broken then .sleeping else .ended
        frames := if s.hub.ended then [] else s.frames ++ [frame] }
  | _ => none

/-- The loop of `StatsHub._run`, once. -/
def hubReceives (s : Session) : Option Session :=
  match s.hub.ended, s.frames with
  | false, frame :: rest =>
    if s.hub.stopEvent then some { s with hub := { s.hub with ended := true }, frames := [] }
    else some
      { s with
        hub := { s.hub with delivered := s.hub.delivered ++ frame.filesClosed, ended := !frame.running }
        frames := if frame.running then rest else [] }
  | _, _ => none

/-- `_stop_session`: the lookup. -/
def stopLooksUp (s : Session) : Option Session :=
  match s.stop with
  | .requested => some { s with stop := if s.registered then .stopping else .refused }
  | _ => none

/-- `stop` has waited for `dumpcap`, and lists the directory. -/
def stopLists (s : Session) (listing : List Path) : Option Session :=
  match s.stop with
  | .stopping =>
    if !s.running ∧ listing.Perm (window naming s.lo s.hi) then some { s with stop := .listed (sorted listing) } else none
  | _ => none

def stopUpdates (s : Session) (host : Host) : Option Session :=
  match s.stop with
  | .listed files =>
    let answer := tracked s host files false true
    some { answer.2 with stop := .updated answer.1 }
  | _ => none

def stopPops (s : Session) : Option Session :=
  match s.stop with
  | .updated filesClosed => some { s with registered := false, stop := .replied filesClosed }
  | _ => none

/-- `stop_session` after its RPC: the closed files are counted and the hub is shut down;
    after an error the hub is only dropped. -/
def stopReturns (s : Session) : Option Session :=
  match s.stop with
  | .replied filesClosed =>
    some
      { s with
        stop := .ended
        rotationCount := max s.rotationCount filesClosed.length
        hub := { s.hub with stopEvent := true } }
  | .refused => some { s with stop := .ended }
  | _ => none

def step (s : Session) : Label → Option Session
  | .rotate => if s.running then some { s with hi := s.hi + 1 } else none
  | .evict => if s.lo < s.hi then some { s with lo := s.lo + 1 } else none
  | .exits => if s.running then some { s with running := false } else none
  | .connects => connects s
  | .observes => observes s
  | .lists listing => lists naming s listing
  | .updates host => updates s host
  | .sends broken => sends s broken
  | .wakes => if s.stream = .sleeping then some { s with stream := .polling } else none
  | .hubReceives => hubReceives s
  | .stopRequested => if s.stop = .none then some { s with stop := .requested } else none
  | .stopLooksUp => stopLooksUp s
  | .stopLists listing => stopLists naming s listing
  | .stopUpdates host => stopUpdates s host
  | .stopPops => stopPops s
  | .stopReturns => stopReturns s

/-! ### What has to hold of the hand-over -/

/-- The frame that the stream holds. -/
def Stream.frame : Stream → List Path
  | .answered frame => frame.filesClosed
  | _ => []

/-- The closed files in frames that the hub has still to read. -/
def inFlight (s : Session) : List Path :=
  if s.hub.ended then [] else s.frames.flatMap (·.filesClosed) ++ s.stream.frame

/-- The newest file that was ever on disk. -/
def newest (s : Session) : Option Path := if s.hi = 0 then none else some (naming.path s.hi)

/-- Each reported file is handed to the listener once, or on its way there; once the
    stream is over, so is the file that was being written. -/
structure HandedOver (s : Session) : Prop where
  once : s.hub.delivered.Nodup
  genuine : ∀ f ∈ s.hub.delivered, f ∈ s.reported
  handed : ∀ f ∈ s.reported, f ∈ s.hub.delivered ∨ f ∈ inFlight s
  last : s.stream = .ended → ∀ f, newest naming s = some f → f ∈ s.reported

/-- Everything that an update of this listing could close has been reported before. -/
def NothingNew (s : Session) (files : List Path) (finalize : Bool) : Prop :=
  ∀ f ∈ closable s.tracking.previousActive files.getLast? files finalize, f ∈ s.tracking.closedEmitted

/-- The stop's update and a poll that nobody waits for find nothing new, and a hub that
    was told to shut down leaves no closed file behind. -/
def StreamFirst (s : Session) : Label → Prop
  | .stopUpdates _ => ∀ files, s.stop = .listed files → NothingNew s files true
  | .updates _ => s.hub.ended = true → ∀ running files, s.stream = .listed running files → NothingNew s files (!running)
  | .hubReceives => s.hub.stopEvent = true → inFlight s = []
  | _ => True

/-! ### How a session ends -/

/-- `dumpcap` is gone and its last file is reported. -/
private def Ended (s : Session) : Prop := s.running = false ∧ ∀ f, newest naming s = some f → f ∈ s.reported

/-- `dumpcap` is gone and its last file is in the listing. -/
private def Complete (s : Session) (files : List Path) : Prop :=
  s.running = false ∧ ∀ f, newest naming s = some f → f ∈ files

private def StreamFits (s : Session) : Stream → Prop
  | .observed running => running = false → s.running = false
  | .listed running files => running = false → Complete naming s files
  | .answered frame => frame.running = false → Ended naming s
  | .ended => Ended naming s
  | .connecting | .polling | .sleeping => True

private def StopFits (s : Session) : Stop → Prop
  | .listed files => Complete naming s files
  | .updated _ | .replied _ | .refused | .ended => Ended naming s
  | .none | .requested | .stopping => True

/-- What each party's state says about the capture: a stream or a stop that is through,
    a final frame, a popped session and a hub told to leave all come after the end. -/
private structure Ending (s : Session) : Prop where
  window : s.lo ≤ max 1 s.hi
  stream : StreamFits naming s s.stream
  stop : StopFits naming s s.stop
  registered : s.registered = false → Ended naming s
  stopEvent : s.hub.stopEvent = true → Ended naming s
  hubOver : s.hub.ended = true → Ended naming s
  final : ∀ frame ∈ s.frames, frame.running = false → s.stream = .ended
  ordered : ∀ frame ∈ s.frames.dropLast, frame.running = true

variable {naming}

/-- What every step keeps: a capture that has ended stays as it is, and reports stand. -/
private structure Later (s t : Session) : Prop where
  running : s.running = false → t.running = false
  hi : s.running = false → t.hi = s.hi
  reported : ∀ f ∈ s.reported, f ∈ t.reported

private theorem later_newest {s t : Session} (later : Later s t) (ended : s.running = false) :
    newest naming t = newest naming s := by
  simp [newest, later.hi ended]

private theorem later_ended {s t : Session} (later : Later s t) (ended : Ended naming s) : Ended naming t :=
  ⟨later.running ended.1, fun f last =>
    later.reported f (ended.2 f ((later_newest later ended.1).symm.trans last))⟩

private theorem later_complete {s t : Session} (later : Later s t) {files : List Path}
    (complete : Complete naming s files) : Complete naming t files :=
  ⟨later.running complete.1, fun f last => complete.2 f ((later_newest later complete.1).symm.trans last)⟩

private theorem later_stream {s t : Session} (later : Later s t) {stream : Stream} (fits : StreamFits naming s stream) :
    StreamFits naming t stream := by
  cases stream with
  | observed running => exact fun ended => later.running (fits ended)
  | listed running files => exact fun ended => later_complete later (fits ended)
  | answered frame => exact fun ended => later_ended later (fits ended)
  | ended => exact later_ended later fits
  | connecting => trivial
  | polling => trivial
  | sleeping => trivial

private theorem later_stop {s t : Session} (later : Later s t) {stop : Stop} (fits : StopFits naming s stop) :
    StopFits naming t stop := by
  cases stop with
  | listed files => exact later_complete later fits
  | updated filesClosed => exact later_ended later fits
  | replied filesClosed => exact later_ended later fits
  | refused => exact later_ended later fits
  | ended => exact later_ended later fits
  | none => trivial
  | requested => trivial
  | stopping => trivial

private theorem newest_mem_listing {s : Session} (ending : Ending naming s) {listing : List Path}
    (listed : listing.Perm (window naming s.lo s.hi)) : ∀ f, newest naming s = some f → f ∈ sorted listing := by
  intro f last
  simp only [newest] at last
  split_ifs at last with none
  obtain rfl := Option.some.inj last
  have some := ending.window
  exact (List.mem_insertionSort _).mpr (listed.mem_iff.mpr (mem_window.mpr ⟨s.hi, by omega, Nat.le_refl _, rfl⟩))

/-- After a finalizing update everything in its listing is reported. -/
private theorem mem_reported_of_finalized {s : Session} (emitted : s.reported = s.tracking.closedEmitted) (host : Host)
    {files : List Path} (running : Bool) {f : Path} (member : f ∈ files) :
    f ∈ (tracked s host files running true).2.reported := by
  obtain ⟨fresh, closed, -, mem⟩ := close_spec s.tracking files.getLast? files true
  have answer : (tracked s host files running true).2.reported = s.reported ++ fresh := by
    simp only [tracked, update, closed]
  rw [answer, List.mem_append]
  by_cases old : f ∈ s.reported
  · exact .inl old
  · refine .inr ((mem f).mpr ⟨mem_closable.mpr ?_, emitted ▸ old⟩)
    by_cases last : files.getLast? = some f
    · exact .inr (.inr ⟨rfl, last⟩)
    · exact .inr (.inl ⟨member, last⟩)

private theorem later_tracked (s : Session) (host : Host) (files : List Path) (running finalize : Bool) :
    Later s (tracked s host files running finalize).2 :=
  ⟨fun ended => ended, fun _ => rfl, fun _ member => List.mem_append_left _ member⟩

private theorem ending_dumpcap {s : Session} (ending : Ending naming s) {running : Bool} {lo hi : Nat}
    (window : lo ≤ max 1 hi) (stays : s.running = false → running = false ∧ hi = s.hi) :
    Ending naming { s with running := running, lo := lo, hi := hi } := by
  have later : Later s { s with running := running, lo := lo, hi := hi } :=
    ⟨fun ended => (stays ended).1, fun ended => (stays ended).2, fun _ member => member⟩
  exact ⟨window, later_stream later ending.stream, later_stop later ending.stop,
    fun gone => later_ended later (ending.registered gone), fun told => later_ended later (ending.stopEvent told),
    fun left => later_ended later (ending.hubOver left), ending.final, ending.ordered⟩

private theorem later_refl (s : Session) : Later s s := ⟨id, fun _ => rfl, fun _ member => member⟩

/-- As long as the stream is not over, every frame says that the capture runs. -/
private theorem frames_running {s : Session} (ending : Ending naming s) (notOver : s.stream ≠ .ended) :
    ∀ frame ∈ s.frames, frame.running = true := by
  intro frame member
  by_contra ended
  exact notOver (ending.final frame member (by simpa using ended))

/-- A change of the stream's phase alone. -/
private theorem ending_phase {s : Session} (ending : Ending naming s) (notOver : s.stream ≠ .ended) {stream : Stream}
    (fits : StreamFits naming s stream) : Ending naming { s with stream := stream } := by
  obtain ⟨window, -, stop, registered, stopEvent, hubOver, final, ordered⟩ := ending
  refine ⟨window, later_stream (later_refl s) fits, stop, registered, stopEvent, hubOver, fun frame member ended => ?_,
    ordered⟩
  exact absurd (final frame member ended) notOver

private theorem ending_connects {s t : Session} (ending : Ending naming s) (stepped : connects s = some t) :
    Ending naming t := by
  simp only [connects] at stepped
  cases phase : s.stream <;> simp only [phase, reduceCtorEq] at stepped
  have running := frames_running ending (by simp [phase])
  split_ifs at stepped with known
  · obtain rfl := Option.some.inj stepped
    exact ending_phase ending (by simp [phase]) trivial
  · obtain rfl := Option.some.inj stepped
    have ended := ending.registered (by simpa using known)
    exact ⟨ending.window, ended, ending.stop, ending.registered, ending.stopEvent, ending.hubOver, fun _ _ _ => rfl,
      by simpa using running⟩

private theorem ending_updates {s t : Session} (ending : Ending naming s)
    (emitted : s.reported = s.tracking.closedEmitted) {host : Host} (stepped : updates s host = some t) :
    Ending naming t := by
  simp only [updates] at stepped
  cases phase : s.stream <;> simp only [phase, reduceCtorEq] at stepped
  rename_i running files
  obtain rfl := Option.some.inj stepped
  have frames := frames_running ending (by simp [phase])
  obtain ⟨window, stream, stop, registered, stopEvent, hubOver, -, ordered⟩ := ending
  have before := later_tracked s host files running (!running)
  have later : Later s { (tracked s host files running (!running)).2 with
      stream := .answered ⟨(tracked s host files running (!running)).1, running⟩ } :=
    ⟨before.running, before.hi, before.reported⟩
  rw [phase] at stream
  refine ⟨window, fun ended => ?_, later_stop later stop, fun gone => later_ended later (registered gone),
    fun told => later_ended later (stopEvent told), fun left => later_ended later (hubOver left),
    fun frame member ended => absurd ended (by simp [frames frame member]), ordered⟩
  simp only at ended
  subst ended
  obtain ⟨dead, complete⟩ := stream rfl
  exact ⟨dead, fun f last => mem_reported_of_finalized emitted host false (complete f last)⟩

private theorem ending_sends {s t : Session} (ending : Ending naming s) {broken : Bool}
    (stepped : sends s broken = some t) : Ending naming t := by
  simp only [sends] at stepped
  cases phase : s.stream <;> simp only [phase, reduceCtorEq] at stepped
  rename_i frame
  by_cases lost : (broken && !s.hub.ended) = true
  · simp [lost] at stepped
  simp only [lost, Bool.false_eq_true, if_false, Option.some.injEq] at stepped
  subst stepped
  have running := frames_running ending (by simp [phase])
  obtain ⟨window, stream, stop, registered, stopEvent, hubOver, -, ordered⟩ := ending
  rw [phase] at stream
  -- The stream ends on a final frame, or on a hub that has left.
  have through : (frame.running && !broken) = false → Ended naming s := by
    intro ended
    cases last : frame.running with
    | false => exact stream last
    | true =>
      have gone : broken = true := by simpa [last] using ended
      exact hubOver (by simpa [gone] using lost)
  refine ⟨window, ?_, stop, fun gone => ?_, stopEvent, hubOver, fun other member ended => ?_, fun other member => ?_⟩
  · change StreamFits naming _ (if (frame.running && !broken) = true then .sleeping else .ended)
    by_cases goes : (frame.running && !broken) = true
    · rw [if_pos goes]
      trivial
    · rw [if_neg goes]
      exact through (Bool.eq_false_iff.mpr goes)
  · rcases (Bool.and_eq_false_iff.mp gone) with unregistered | last
    · exact registered unregistered
    · exact stream last
  · simp only at member
    split_ifs at member with left
    · cases member
    · rcases List.mem_append.mp member with old | new
      · exact absurd ended (by simp [running other old])
      · obtain rfl := List.mem_singleton.mp new
        simp [ended]
  · simp only at member
    split_ifs at member with left
    · cases member
    · rw [List.dropLast_concat] at member
      exact running other member

private theorem ending_hub {s t : Session} (ending : Ending naming s) (stepped : hubReceives s = some t) :
    Ending naming t := by
  simp only [hubReceives] at stepped
  cases left : s.hub.ended with
  | true => simp [left] at stepped
  | false =>
    cases queue : s.frames with
    | nil => simp [left, queue] at stepped
    | cons frame rest =>
      simp only [left, queue] at stepped
      obtain ⟨window, stream, stop, registered, stopEvent, hubOver, final, ordered⟩ := ending
      by_cases told : s.hub.stopEvent = true
      · simp only [told, if_true, Option.some.injEq] at stepped
        subst stepped
        exact ⟨window, stream, stop, registered, fun _ => stopEvent told, fun _ => stopEvent told, by simp, by simp⟩
      · simp only [told, Bool.false_eq_true, if_false, Option.some.injEq] at stepped
        subst stepped
        have ended : frame.running = false → Ended naming s := by
          intro last
          have through := final frame (by rw [queue]; exact List.mem_cons_self) last
          rw [through] at stream
          exact stream
        refine ⟨window, stream, stop, registered, fun untold => absurd untold Bool.false_ne_true,
          fun gone => ended (by simpa using gone), ?_, ?_⟩
        · intro other member
          simp only at member
          split_ifs at member
          · exact final other (by rw [queue]; exact List.mem_cons_of_mem _ member)
          · cases member
        · intro other member
          simp only at member
          split_ifs at member
          · refine ordered other ?_
            rw [queue, List.dropLast_cons_of_ne_nil (fun empty => by simp [empty] at member)]
            exact List.mem_cons_of_mem _ member
          · cases member

private theorem ending_stops {s t : Session} (ending : Ending naming s)
    (emitted : s.reported = s.tracking.closedEmitted) {host : Host} (stepped : stopUpdates s host = some t) :
    Ending naming t := by
  simp only [stopUpdates] at stepped
  cases phase : s.stop <;> simp only [phase, reduceCtorEq] at stepped
  rename_i files
  obtain rfl := Option.some.inj stepped
  obtain ⟨window, stream, stop, registered, stopEvent, hubOver, final, ordered⟩ := ending
  have before := later_tracked s host files false true
  have later : Later s { (tracked s host files false true).2 with stop := .updated (tracked s host files false true).1 } :=
    ⟨before.running, before.hi, before.reported⟩
  rw [phase] at stop
  refine ⟨window, later_stream later stream, ⟨stop.1, fun f last => ?_⟩, fun gone => later_ended later (registered gone),
    fun told => later_ended later (stopEvent told), fun left => later_ended later (hubOver left), final, ordered⟩
  exact mem_reported_of_finalized emitted host false (stop.2 f last)

private theorem ending_step {s t : Session} {l : Label} (ending : Ending naming s)
    (emitted : s.reported = s.tracking.closedEmitted) (stepped : step naming s l = some t) : Ending naming t := by
  cases l with
  | rotate =>
    simp only [step] at stepped
    split_ifs at stepped with running
    obtain rfl := Option.some.inj stepped
    have window := ending.window
    exact ending_dumpcap ending (by omega) fun ended => absurd (ended.symm.trans running) (by decide)
  | evict =>
    simp only [step] at stepped
    split_ifs at stepped with more
    obtain rfl := Option.some.inj stepped
    exact ending_dumpcap ending (by omega) fun ended => ⟨ended, rfl⟩
  | exits =>
    simp only [step] at stepped
    split_ifs at stepped with running
    obtain rfl := Option.some.inj stepped
    exact ending_dumpcap ending ending.window fun _ => ⟨rfl, rfl⟩
  | connects => exact ending_connects ending stepped
  | observes =>
    simp only [step, observes] at stepped
    cases phase : s.stream <;> simp only [phase, reduceCtorEq] at stepped
    obtain rfl := Option.some.inj stepped
    exact ending_phase ending (by simp [phase]) id
  | lists listing =>
    simp only [step, lists] at stepped
    cases phase : s.stream <;> simp only [phase, reduceCtorEq] at stepped
    split_ifs at stepped with listed
    obtain rfl := Option.some.inj stepped
    have stream := ending.stream
    rw [phase] at stream
    exact ending_phase ending (by simp [phase]) fun ended => ⟨stream ended, newest_mem_listing ending listed⟩
  | updates host => exact ending_updates ending emitted stepped
  | sends broken => exact ending_sends ending stepped
  | wakes =>
    simp only [step] at stepped
    split_ifs at stepped with phase
    obtain rfl := Option.some.inj stepped
    exact ending_phase ending (by simp [phase]) trivial
  | hubReceives => exact ending_hub ending stepped
  | stopRequested =>
    simp only [step] at stepped
    split_ifs at stepped with phase
    obtain rfl := Option.some.inj stepped
    exact ⟨ending.window, ending.stream, trivial, ending.registered, ending.stopEvent, ending.hubOver, ending.final,
      ending.ordered⟩
  | stopLooksUp =>
    simp only [step, stopLooksUp] at stepped
    cases phase : s.stop <;> simp only [phase, reduceCtorEq] at stepped
    obtain rfl := Option.some.inj stepped
    refine ⟨ending.window, ending.stream, ?_, ending.registered, ending.stopEvent, ending.hubOver, ending.final,
      ending.ordered⟩
    change StopFits naming _ (if s.registered = true then .stopping else .refused)
    by_cases known : s.registered = true
    · rw [if_pos known]
      trivial
    · rw [if_neg known]
      exact ending.registered (Bool.eq_false_iff.mpr known)
  | stopLists listing =>
    simp only [step, stopLists] at stepped
    cases phase : s.stop <;> simp only [phase, reduceCtorEq] at stepped
    split_ifs at stepped with listed
    obtain rfl := Option.some.inj stepped
    exact ⟨ending.window, ending.stream, ⟨by simpa using listed.1, newest_mem_listing ending listed.2⟩,
      ending.registered, ending.stopEvent, ending.hubOver, ending.final, ending.ordered⟩
  | stopUpdates host => exact ending_stops ending emitted stepped
  | stopPops =>
    simp only [step, stopPops] at stepped
    cases phase : s.stop <;> simp only [phase, reduceCtorEq] at stepped
    obtain rfl := Option.some.inj stepped
    have ended := ending.stop
    rw [phase] at ended
    exact ⟨ending.window, ending.stream, ended, fun _ => ended, ending.stopEvent, ending.hubOver, ending.final,
      ending.ordered⟩
  | stopReturns =>
    simp only [step, stopReturns] at stepped
    cases phase : s.stop <;> simp only [phase, reduceCtorEq] at stepped
    · obtain rfl := Option.some.inj stepped
      have ended := ending.stop
      rw [phase] at ended
      exact ⟨ending.window, ending.stream, ended, ending.registered, fun _ => ended, ending.hubOver, ending.final,
        ending.ordered⟩
    · obtain rfl := Option.some.inj stepped
      have ended := ending.stop
      rw [phase] at ended
      exact ⟨ending.window, ending.stream, ended, ending.registered, ending.stopEvent, ending.hubOver, ending.final,
        ending.ordered⟩

/-! ### Where the closed files go -/

/-- Nothing is delivered or on its way twice, nor without having been reported. -/
private structure Ledger (s : Session) : Prop where
  emitted : s.reported = s.tracking.closedEmitted
  distinct : (s.hub.delivered ++ inFlight s).Nodup
  genuine : ∀ f ∈ s.hub.delivered ++ inFlight s, f ∈ s.reported

private def Handed (s : Session) : Prop := ∀ f ∈ s.reported, f ∈ s.hub.delivered ∨ f ∈ inFlight s

/-- What a step does with closed files: nothing; hand some over; report new ones, to
    the hub's frames or to somebody else; or throw away what is on its way. -/
private inductive Change (naming : Naming) (s : Session) (l : Label) (t : Session) : Prop where
  | same (delivered : t.hub.delivered = s.hub.delivered) (flight : inFlight t = inFlight s)
      (reported : t.reported = s.reported) (emitted : t.tracking.closedEmitted = s.tracking.closedEmitted)
      (met : StreamFirst s l)
  | handsOver (files rest : List Path) (before : inFlight s = files ++ rest)
      (delivered : t.hub.delivered = s.hub.delivered ++ files) (flight : inFlight t = rest)
      (reported : t.reported = s.reported) (emitted : t.tracking.closedEmitted = s.tracking.closedEmitted)
      (met : StreamFirst s l)
  | tellsHub (fresh : List Path) (distinct : fresh.Nodup) (new : ∀ f ∈ fresh, f ∉ s.tracking.closedEmitted)
      (delivered : t.hub.delivered = s.hub.delivered) (flight : inFlight t = inFlight s ++ fresh)
      (reported : t.reported = s.reported ++ fresh)
      (emitted : t.tracking.closedEmitted = s.tracking.closedEmitted ++ fresh) (met : StreamFirst s l)
  | tellsOther (fresh : List Path) (new : ∀ f ∈ fresh, f ∉ s.tracking.closedEmitted)
      (delivered : t.hub.delivered = s.hub.delivered) (flight : inFlight t = inFlight s)
      (reported : t.reported = s.reported ++ fresh)
      (emitted : t.tracking.closedEmitted = s.tracking.closedEmitted ++ fresh)
      (met : StreamFirst s l ↔ fresh = [])
  | throwsAway (delivered : t.hub.delivered = s.hub.delivered) (flight : inFlight t = [])
      (reported : t.reported = s.reported) (emitted : t.tracking.closedEmitted = s.tracking.closedEmitted)
      (met : StreamFirst s l ↔ inFlight s = [])

private theorem ledger_change {s t : Session} {l : Label} (ledger : Ledger s) (change : Change naming s l t) :
    Ledger t := by
  obtain ⟨named, distinct, genuine⟩ := ledger
  cases change with
  | same delivered flight reported emitted met =>
    exact ⟨by rw [reported, emitted, named], by rw [delivered, flight]; exact distinct,
      by rw [delivered, flight, reported]; exact genuine⟩
  | handsOver files rest before delivered flight reported emitted met =>
    rw [before, ← List.append_assoc] at distinct genuine
    exact ⟨by rw [reported, emitted, named], by rw [delivered, flight]; exact distinct,
      by rw [delivered, flight, reported]; exact genuine⟩
  | tellsHub fresh once new delivered flight reported emitted met =>
    refine ⟨by rw [reported, emitted, named], ?_, ?_⟩
    · rw [delivered, flight, ← List.append_assoc]
      refine List.nodup_append.mpr ⟨distinct, once, fun f old g here same => ?_⟩
      exact new g here (named ▸ genuine g (same ▸ old))
    · rw [delivered, flight, reported, ← List.append_assoc]
      intro f member
      rcases List.mem_append.mp member with old | here
      · exact List.mem_append_left _ (genuine f old)
      · exact List.mem_append_right _ here
  | tellsOther fresh new delivered flight reported emitted met =>
    exact ⟨by rw [reported, emitted, named], by rw [delivered, flight]; exact distinct,
      by rw [delivered, flight, reported]; exact fun f member => List.mem_append_left _ (genuine f member)⟩
  | throwsAway delivered flight reported emitted met =>
    refine ⟨by rw [reported, emitted, named], ?_, ?_⟩
    · rw [delivered, flight, List.append_nil]
      exact (List.nodup_append.mp distinct).1
    · rw [delivered, flight, reported, List.append_nil]
      exact fun f member => genuine f (List.mem_append_left _ member)

/-- A step keeps every reported file handed over or on its way exactly if it is one
    that the condition allows. -/
private theorem handed_change {s t : Session} {l : Label} (ledger : Ledger s) (handed : Handed s)
    (change : Change naming s l t) : Handed t ↔ StreamFirst s l := by
  obtain ⟨named, distinct, genuine⟩ := ledger
  cases change with
  | same delivered flight reported emitted met =>
    refine ⟨fun _ => met, fun _ f member => ?_⟩
    rw [delivered, flight]
    exact handed f (reported ▸ member)
  | handsOver files rest before delivered flight reported emitted met =>
    refine ⟨fun _ => met, fun _ f member => ?_⟩
    rw [delivered, flight, List.mem_append]
    rcases handed f (reported ▸ member) with done | waiting
    · exact .inl (.inl done)
    · rw [before, List.mem_append] at waiting
      exact waiting.elim (fun here => .inl (.inr here)) .inr
  | tellsHub fresh once new delivered flight reported emitted met =>
    refine ⟨fun _ => met, fun _ f member => ?_⟩
    rw [delivered, flight, List.mem_append]
    rw [reported, List.mem_append] at member
    rcases member with old | here
    · exact (handed f old).imp_right .inl
    · exact .inr (.inr here)
  | tellsOther fresh new delivered flight reported emitted met =>
    rw [met]
    constructor
    · intro kept
      refine List.eq_nil_iff_forall_not_mem.mpr fun f here => new f here ?_
      have somewhere := kept f (by rw [reported]; exact List.mem_append_right _ here)
      rw [delivered, flight, ← List.mem_append] at somewhere
      exact named ▸ genuine f somewhere
    · rintro rfl f member
      rw [delivered, flight]
      exact handed f (by simpa [reported] using member)
  | throwsAway delivered flight reported emitted met =>
    rw [met]
    constructor
    · intro kept
      refine List.eq_nil_iff_forall_not_mem.mpr fun f waiting => ?_
      have somewhere := kept f (by rw [reported]; exact genuine f (List.mem_append_right _ waiting))
      rw [delivered, flight] at somewhere
      have done := somewhere.resolve_right List.not_mem_nil
      exact (List.nodup_append.mp distinct).2.2 f done f waiting rfl
    · intro nothing f member
      rw [delivered, flight]
      exact nothing ▸ handed f (reported ▸ member)

/-- An update reports what its listing closes, which is nothing exactly if nothing is new. -/
private theorem tracked_spec (s : Session) (host : Host) (files : List Path) (running finalize : Bool) :
    ∃ fresh, (tracked s host files running finalize).1 = fresh ∧
      (tracked s host files running finalize).2.reported = s.reported ++ fresh ∧
      (tracked s host files running finalize).2.tracking.closedEmitted = s.tracking.closedEmitted ++ fresh ∧
      fresh.Nodup ∧ (∀ f ∈ fresh, f ∉ s.tracking.closedEmitted) ∧ (NothingNew s files finalize ↔ fresh = []) := by
  obtain ⟨fresh, closed, distinct, mem⟩ := close_spec s.tracking files.getLast? files finalize
  refine ⟨fresh, ?_, ?_, ?_, distinct, fun f member => ((mem f).mp member).2, ?_⟩
  · simp only [tracked, update, closed]
  · simp only [tracked, update, closed]
  · simp only [tracked, update, closed]
  · rw [List.eq_nil_iff_forall_not_mem]
    constructor
    · exact fun nothing f member => ((mem f).mp member).2 (nothing f ((mem f).mp member).1)
    · intro none f closable
      by_contra new
      exact none f ((mem f).mpr ⟨closable, new⟩)

private theorem change_updates {s t : Session} {host : Host} (stepped : updates s host = some t) :
    Change naming s (.updates host) t := by
  simp only [updates] at stepped
  cases phase : s.stream <;> simp only [phase, reduceCtorEq] at stepped
  rename_i running files
  obtain rfl := Option.some.inj stepped
  obtain ⟨fresh, answer, reported, emitted, distinct, new, nothing⟩ := tracked_spec s host files running (!running)
  cases left : s.hub.ended with
  | true =>
    refine .tellsOther fresh new rfl ?_ reported emitted ?_
    · simp [inFlight, left, tracked]
    · simp [StreamFirst, left, phase, ← nothing]
  | false =>
    refine .tellsHub fresh distinct new rfl ?_ reported emitted (fun ended => by simp [left] at ended)
    simp [inFlight, left, phase, Stream.frame, ← answer, tracked]

private theorem change_stops {s t : Session} {host : Host} (stepped : stopUpdates s host = some t) :
    Change naming s (.stopUpdates host) t := by
  simp only [stopUpdates] at stepped
  cases phase : s.stop <;> simp only [phase, reduceCtorEq] at stepped
  rename_i files
  obtain rfl := Option.some.inj stepped
  obtain ⟨fresh, -, reported, emitted, -, new, nothing⟩ := tracked_spec s host files false true
  refine .tellsOther fresh new rfl rfl reported emitted ?_
  simp [StreamFirst, phase, ← nothing]

private theorem change_sends {s t : Session} {broken : Bool} (stepped : sends s broken = some t) :
    Change naming s (.sends broken) t := by
  simp only [sends] at stepped
  cases phase : s.stream <;> simp only [phase, reduceCtorEq] at stepped
  rename_i frame
  by_cases lost : (broken && !s.hub.ended) = true
  · simp [lost] at stepped
  simp only [lost, Bool.false_eq_true, if_false, Option.some.injEq] at stepped
  subst stepped
  refine .same rfl ?_ rfl rfl trivial
  have unheld : (if (frame.running && !broken) = true then Stream.sleeping else .ended).frame = [] := by
    split_ifs <;> rfl
  cases left : s.hub.ended with
  | true => simp [inFlight, left]
  | false =>
    simp only [inFlight, left, unheld, phase, Bool.false_eq_true, if_false]
    simp [Stream.frame]

private theorem change_hub {s t : Session} (ending : Ending naming s) (stepped : hubReceives s = some t) :
    Change naming s .hubReceives t := by
  simp only [hubReceives] at stepped
  cases left : s.hub.ended with
  | true => simp [left] at stepped
  | false =>
    cases queue : s.frames with
    | nil => simp [left, queue] at stepped
    | cons frame rest =>
      simp only [left, queue] at stepped
      by_cases told : s.hub.stopEvent = true
      · simp only [told, if_true, Option.some.injEq] at stepped
        subst stepped
        exact .throwsAway rfl (by simp [inFlight]) rfl rfl (by simp [StreamFirst, told])
      · simp only [told, Bool.false_eq_true, if_false, Option.some.injEq] at stepped
        subst stepped
        have met : StreamFirst s .hubReceives := fun sign => absurd sign told
        cases running : frame.running with
        | true =>
          refine .handsOver frame.filesClosed (rest.flatMap (·.filesClosed) ++ s.stream.frame) ?_ rfl ?_ rfl rfl met
          · simp [inFlight, left, queue]
          · simp [inFlight]
        | false =>
          -- A final frame is the last one, and the stream holds no other.
          have through := ending.final frame (by rw [queue]; exact List.mem_cons_self) running
          have last : rest = [] := by
            by_contra more
            have goes := ending.ordered frame
              (by rw [queue, List.dropLast_cons_of_ne_nil more]; exact List.mem_cons_self)
            simp [running] at goes
          refine .handsOver frame.filesClosed [] ?_ rfl ?_ rfl rfl met
          · simp [inFlight, left, queue, last, through, Stream.frame]
          · simp [inFlight]

/-- A change of the stream's phase between states that hold no frame. -/
private theorem flight_phase {s : Session} {stream : Stream} (before : s.stream.frame = []) (after : stream.frame = []) :
    inFlight { s with stream := stream } = inFlight s := by
  simp [inFlight, before, after]

private theorem step_change {s t : Session} {l : Label} (ending : Ending naming s)
    (stepped : step naming s l = some t) : Change naming s l t := by
  cases l with
  | rotate =>
    simp only [step] at stepped
    split_ifs at stepped
    obtain rfl := Option.some.inj stepped
    exact .same rfl rfl rfl rfl trivial
  | evict =>
    simp only [step] at stepped
    split_ifs at stepped
    obtain rfl := Option.some.inj stepped
    exact .same rfl rfl rfl rfl trivial
  | exits =>
    simp only [step] at stepped
    split_ifs at stepped
    obtain rfl := Option.some.inj stepped
    exact .same rfl rfl rfl rfl trivial
  | connects =>
    simp only [step, connects] at stepped
    cases phase : s.stream <;> simp only [phase, reduceCtorEq] at stepped
    split_ifs at stepped
    · obtain rfl := Option.some.inj stepped
      exact .same rfl (flight_phase (by simp [phase, Stream.frame]) rfl) rfl rfl trivial
    · obtain rfl := Option.some.inj stepped
      exact .same rfl (by simp [inFlight, phase, Stream.frame]) rfl rfl trivial
  | observes =>
    simp only [step, observes] at stepped
    cases phase : s.stream <;> simp only [phase, reduceCtorEq] at stepped
    obtain rfl := Option.some.inj stepped
    exact .same rfl (flight_phase (by simp [phase, Stream.frame]) rfl) rfl rfl trivial
  | lists listing =>
    simp only [step, lists] at stepped
    cases phase : s.stream <;> simp only [phase, reduceCtorEq] at stepped
    split_ifs at stepped
    obtain rfl := Option.some.inj stepped
    exact .same rfl (flight_phase (by simp [phase, Stream.frame]) rfl) rfl rfl trivial
  | updates host => exact change_updates stepped
  | sends broken => exact change_sends stepped
  | wakes =>
    simp only [step] at stepped
    split_ifs at stepped with phase
    obtain rfl := Option.some.inj stepped
    exact .same rfl (flight_phase (by simp [phase, Stream.frame]) rfl) rfl rfl trivial
  | hubReceives => exact change_hub ending stepped
  | stopRequested =>
    simp only [step] at stepped
    split_ifs at stepped
    obtain rfl := Option.some.inj stepped
    exact .same rfl rfl rfl rfl trivial
  | stopLooksUp =>
    simp only [step, stopLooksUp] at stepped
    cases phase : s.stop <;> simp only [phase, reduceCtorEq] at stepped
    obtain rfl := Option.some.inj stepped
    exact .same rfl rfl rfl rfl trivial
  | stopLists listing =>
    simp only [step, stopLists] at stepped
    cases phase : s.stop <;> simp only [phase, reduceCtorEq] at stepped
    split_ifs at stepped
    obtain rfl := Option.some.inj stepped
    exact .same rfl rfl rfl rfl trivial
  | stopUpdates host => exact change_stops stepped
  | stopPops =>
    simp only [step, stopPops] at stepped
    cases phase : s.stop <;> simp only [phase, reduceCtorEq] at stepped
    obtain rfl := Option.some.inj stepped
    exact .same rfl rfl rfl rfl trivial
  | stopReturns =>
    simp only [step, stopReturns] at stepped
    cases phase : s.stop <;> simp only [phase, reduceCtorEq] at stepped
    · obtain rfl := Option.some.inj stepped
      exact .same rfl rfl rfl rfl trivial
    · obtain rfl := Option.some.inj stepped
      exact .same rfl rfl rfl rfl trivial

private structure Invariant (naming : Naming) (s : Session) : Prop where
  ending : Ending naming s
  ledger : Ledger s

private theorem handedOver_iff {s : Session} (inv : Invariant naming s) : HandedOver naming s ↔ Handed s := by
  obtain ⟨ending, ledger⟩ := inv
  constructor
  · exact HandedOver.handed
  · intro handed
    refine ⟨(List.nodup_append.mp ledger.distinct).1,
      fun f member => ledger.genuine f (List.mem_append_left _ member), handed, fun through => ?_⟩
    have stream := ending.stream
    rw [through] at stream
    exact stream.2

private theorem invariant_step {s t : Session} {l : Label} (inv : Invariant naming s)
    (stepped : step naming s l = some t) : Invariant naming t :=
  ⟨ending_step inv.ending inv.ledger.emitted stepped, ledger_change inv.ledger (step_change inv.ending stepped)⟩

private theorem invariant_init : Invariant naming Session.init :=
  ⟨by constructor <;> simp [Session.init, StreamFits, StopFits],
    by constructor <;> simp [Session.init, inFlight, Stream.frame, Tracking.init]⟩

/-- In every run of one capture session, each file that the supervisor reports is handed
    to the listener once (or waits in a frame that the hub will read), and with the end
    of the stream the last file is among them, if and only if a stop's update finds
    nothing new, a poll after the hub has left finds nothing new, and the hub, when it
    obeys a shutdown, leaves no closed file in a frame. -/
theorem delivery_iff_stream_first (naming : Naming) (labels : List Label) :
    Always (step naming) (HandedOver naming) Session.init labels ↔
      Meets (step naming) StreamFirst Session.init labels := by
  refine always_iff_meets (Invariant naming) (fun s l t inv _ stepped _ => invariant_step inv stepped) ?_
    invariant_init ((handedOver_iff invariant_init).mpr (by simp [Handed, Session.init]))
  intro s l t inv handed stepped
  rw [handedOver_iff (invariant_step inv stepped)]
  exact handed_change inv.ledger ((handedOver_iff inv).mp handed) (step_change inv.ending stepped)

/-- When nothing is on its way any more, the listener has been called with exactly the
    reported files, the last one included once the stream is over. -/
theorem delivered_of_settled {s : Session} (handed : HandedOver naming s) (settled : inFlight s = []) :
    (∀ f, f ∈ s.hub.delivered ↔ f ∈ s.reported) ∧
      (s.stream = .ended → ∀ f, newest naming s = some f → f ∈ s.hub.delivered) := by
  have all : ∀ f ∈ s.reported, f ∈ s.hub.delivered := fun f member =>
    (handed.handed f member).resolve_right (by simp [settled])
  exact ⟨fun f => ⟨handed.genuine f, all f⟩, fun through f last => all f (handed.last through f last)⟩

end

def sampleNaming : Naming := ⟨"/captures/s1".toList, fun n => 20250101000000 + n⟩

def sampleHost : Host := ⟨1, fun _ => some 0, fun _ => true⟩

/-- The operator stops a capture between two polls of the stream, after a rotation. -/
def stopBetweenPolls : List Label :=
  [.rotate, .connects, .observes, .lists [sampleNaming.path 1], .updates sampleHost, .sends false, .hubReceives, .rotate,
    .stopRequested, .stopLooksUp, .exits, .stopLists [sampleNaming.path 1, sampleNaming.path 2],
    .stopUpdates sampleHost, .stopPops, .stopReturns, .wakes, .observes,
    .lists [sampleNaming.path 1, sampleNaming.path 2], .updates sampleHost, .sends false, .hubReceives]

theorem stop_reply_never_analysed :
    ∃ s, run (step sampleNaming) Session.init stopBetweenPolls = some s ∧ s.stop = .ended ∧ s.hub.ended = true ∧
      s.reported = [sampleNaming.path 1, sampleNaming.path 2] ∧ s.hub.delivered = [] ∧ ¬ HandedOver sampleNaming s := by
  refine ⟨_, rfl, rfl, rfl, rfl, rfl, fun handed => ?_⟩
  have lost := handed.handed (sampleNaming.path 1) List.mem_cons_self
  exact absurd lost (by decide)

end Marlinspike.Capture.Sessions
