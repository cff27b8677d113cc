import Mathlib.Data.List.Nodup
import Marlinspike.Transition
import Marlinspike.Capd.Supervisor

/-!
Several threads in `_snapshot` at once while `dumpcap` runs: the stats stream, a
`session_status` and a `stop`. Each takes its listing without the lock and updates the
tracking under it, so that a listing may be applied after a newer one.

No file is reported twice (`reports_once`). The live file is reported exactly by an
update whose listing is out of date in one way: the newest file is in it, or was the
active one of an earlier update, but it is not the last in it
(`pollers_iff_current_listing`).
-/
namespace Marlinspike.Capd.Pollers
open Marlinspike.Transition Marlinspike.Capd.Supervisor

/-- One `files_closed` list, and the newest file on disk at its update. -/
structure Report where
  filesClosed : List Path
  newest : Option Path

structure Session where
  /-- The numbers on disk are those from `lo` to `hi`; none as long as `hi` is 0. -/
  lo : Nat
  hi : Nat
  tracking : Tracking
  /-- The sorted listings of the threads between their listing and their update. -/
  held : List (List Path)
  reports : List Report

def Session.init : Session := ⟨1, 0, Tracking.init, [], []⟩

inductive Label where
  | rotate
  | evict
  /-- A thread lists the directory, in some order, and sorts. -/
  | list (listing : List Path)
  /-- The thread that holds a listing runs the locked update on it. -/
  | update (thread : Nat) (host : Host)

section
variable (naming : Naming)

def newest (s : Session) : Option Path := if s.hi = 0 then none else some (naming.path s.hi)

/-- The locked update while `dumpcap` runs. -/
def locked (s : Session) (thread : Nat) (host : Host) (files : List Path) : Session :=
  let answer := update s.tracking host files true false
  { s with
    tracking := answer.2
    held := s.held.eraseIdx thread
    reports := s.reports ++ [⟨answer.1.filesClosed, newest naming s⟩] }

def step (s : Session) : Label → Option Session
  | .rotate => some { s with hi := s.hi + 1 }
  | .evict => if s.lo < s.hi then some { s with lo := s.lo + 1 } else none
  | .list listing =>
    if listing.Perm (window naming s.lo s.hi) then some { s with held := s.held ++ [sorted listing] } else none
  | .update thread host => (s.held[thread]?).map (locked naming s thread host)

/-- No `files_closed` list names the file that is the newest when its update runs. -/
def NeverLive (s : Session) : Prop := ∀ report ∈ s.reports, ∀ f ∈ report.filesClosed, report.newest ≠ some f

/-- No file is named twice, in one list or in two. -/
def ReportedOnce (s : Session) : Prop := (s.reports.flatMap (·.filesClosed)).Nodup

/-- The listing of an update ends in the newest file, or the update has not come across
    that file: it is not listed, nor the active one of the update before. -/
def CurrentListing (s : Session) : Label → Prop
  | .update thread _ => ∀ files, s.held[thread]? = some files → ∀ live, newest naming s = some live →
      files.getLast? = some live ∨ (live ∉ files ∧ s.tracking.previousActive ≠ some live)
  | _ => True

/-- The file was created. -/
private def Created (s : Session) (f : Path) : Prop := ∃ n, n ≤ s.hi ∧ f = naming.path n

private structure Ledger (s : Session) : Prop where
  reported : s.reports.flatMap (·.filesClosed) = s.tracking.closedEmitted
  once : s.tracking.closedEmitted.Nodup
  closed : ∀ f ∈ s.tracking.closedEmitted, Created naming s f
  active : ∀ f, s.tracking.previousActive = some f → Created naming s f
  listed : ∀ files ∈ s.held, ∀ f ∈ files, Created naming s f

private structure Invariant (s : Session) : Prop where
  ledger : Ledger naming s
  live : ∀ f, newest naming s = some f → f ∉ s.tracking.closedEmitted

variable {naming}

private structure Locked (naming : Naming) (s : Session) (thread : Nat) (host : Host) (files fresh : List Path) :
    Prop where
  report : (locked naming s thread host files).reports = s.reports ++ [⟨fresh, newest naming s⟩]
  emitted : (locked naming s thread host files).tracking.closedEmitted = s.tracking.closedEmitted ++ fresh
  active : (locked naming s thread host files).tracking.previousActive = files.getLast?
  distinct : fresh.Nodup
  mem : ∀ f, f ∈ fresh ↔ ((s.tracking.previousActive = some f ∨ f ∈ files) ∧ files.getLast? ≠ some f) ∧
    f ∉ s.tracking.closedEmitted

private theorem locked_spec (naming : Naming) (s : Session) (thread : Nat) (host : Host) (files : List Path) :
    ∃ fresh, Locked naming s thread host files fresh := by
  obtain ⟨fresh, closed, distinct, mem⟩ := close_spec s.tracking files.getLast? files false
  refine ⟨fresh, ?_, ?_, rfl, distinct, fun f => ?_⟩
  · simp only [locked, update, closed]
  · simp only [locked, update, closed]
  · rw [mem f, mem_closable]
    simp only [Bool.false_eq_true, false_and, or_false]
    tauto

private theorem ledger_locked {s : Session} (ledger : Ledger naming s) {thread : Nat} (host : Host)
    {files : List Path} (held : s.held[thread]? = some files) : Ledger naming (locked naming s thread host files) := by
  obtain ⟨fresh, locked⟩ := locked_spec naming s thread host files
  have here := ledger.listed files (List.mem_of_getElem? held)
  refine ⟨?_, ?_, fun f member => ?_, fun f last => ?_, fun other member => ?_⟩
  · rw [locked.report, locked.emitted, ← ledger.reported]
    simp
  · rw [locked.emitted]
    refine List.nodup_append.mpr ⟨ledger.once, locked.distinct, fun f old g new same => ?_⟩
    exact ((locked.mem g).mp new).2 (same ▸ old)
  · rw [locked.emitted, List.mem_append] at member
    rcases member with old | new
    · exact ledger.closed f old
    · exact ((locked.mem f).mp new).1.1.elim (ledger.active f) (here f)
  · rw [locked.active] at last
    exact here f (List.mem_of_getLast? last)
  · exact ledger.listed other (List.mem_of_mem_eraseIdx member)

private theorem ledger_step {s t : Session} {l : Label} (ledger : Ledger naming s)
    (stepped : step naming s l = some t) : Ledger naming t := by
  cases l with
  | rotate =>
    obtain rfl := Option.some.inj stepped
    have later {f : Path} : Created naming s f → Created naming { s with hi := s.hi + 1 } f :=
      fun ⟨n, most, same⟩ => ⟨n, Nat.le_succ_of_le most, same⟩
    exact ⟨ledger.reported, ledger.once, fun f member => later (ledger.closed f member),
      fun f last => later (ledger.active f last), fun files held f member => later (ledger.listed files held f member)⟩
  | evict =>
    simp only [step] at stepped
    split_ifs at stepped
    obtain rfl := Option.some.inj stepped
    exact ⟨ledger.reported, ledger.once, ledger.closed, ledger.active, ledger.listed⟩
  | list listing =>
    simp only [step] at stepped
    split_ifs at stepped with listed
    obtain rfl := Option.some.inj stepped
    refine ⟨ledger.reported, ledger.once, ledger.closed, ledger.active, fun files held f member => ?_⟩
    rcases List.mem_append.mp held with old | new
    · exact ledger.listed files old f member
    · obtain rfl := List.mem_singleton.mp new
      obtain ⟨n, -, most, same⟩ := mem_window.mp (listed.mem_iff.mp ((List.mem_insertionSort _).mp member))
      exact ⟨n, most, same⟩
  | update thread host =>
    obtain ⟨files, held, rfl⟩ := Option.map_eq_some_iff.mp stepped
    exact ledger_locked ledger host held

private theorem ledger_init : Ledger naming Session.init := by
  constructor <;> simp [Session.init, Tracking.init]

private theorem reportedOnce_of_ledger {s : Session} (ledger : Ledger naming s) : ReportedOnce s := by
  rw [ReportedOnce, ledger.reported]
  exact ledger.once

/-- An update reports the live file exactly if its listing is not current. -/
private theorem neverLive_locked {s : Session} (inv : Invariant naming s) (never : NeverLive s) (thread : Nat)
    (host : Host) (files : List Path) :
    NeverLive (locked naming s thread host files) ↔ ∀ live, newest naming s = some live →
      files.getLast? = some live ∨ (live ∉ files ∧ s.tracking.previousActive ≠ some live) := by
  obtain ⟨fresh, locked⟩ := locked_spec naming s thread host files
  have split : NeverLive (Pollers.locked naming s thread host files) ↔ ∀ f ∈ fresh, newest naming s ≠ some f := by
    unfold NeverLive
    rw [locked.report]
    simp only [List.mem_append, List.mem_singleton]
    exact ⟨fun kept => kept _ (.inr rfl), fun kept report member => member.elim (never report) fun same => same ▸ kept⟩
  rw [split]
  constructor
  · intro kept live here
    by_contra outdated
    refine kept live ((locked.mem live).mpr ⟨?_, inv.live live here⟩) here
    tauto
  · intro current f reported here
    have closable := ((locked.mem f).mp reported).1
    have listing := current f here
    tauto

private theorem step_neverLive {s t : Session} {l : Label} (inv : Invariant naming s) (never : NeverLive s)
    (stepped : step naming s l = some t) : NeverLive t ↔ CurrentListing naming s l := by
  cases l with
  | update thread host =>
    obtain ⟨files, held, rfl⟩ := Option.map_eq_some_iff.mp stepped
    rw [neverLive_locked inv never]
    simp [CurrentListing, held]
  | rotate =>
    obtain rfl := Option.some.inj stepped
    exact ⟨fun _ => trivial, fun _ => never⟩
  | evict =>
    simp only [step] at stepped
    split_ifs at stepped
    obtain rfl := Option.some.inj stepped
    exact ⟨fun _ => trivial, fun _ => never⟩
  | list listing =>
    simp only [step] at stepped
    split_ifs at stepped
    obtain rfl := Option.some.inj stepped
    exact ⟨fun _ => trivial, fun _ => never⟩

private theorem step_live {s t : Session} {l : Label} (inv : Invariant naming s)
    (stepped : step naming s l = some t) (never : NeverLive t) :
    ∀ f, newest naming t = some f → f ∉ t.tracking.closedEmitted := by
  cases l with
  | rotate =>
    obtain rfl := Option.some.inj stepped
    intro f here early
    obtain ⟨n, most, rfl⟩ := inv.ledger.closed f early
    have next : s.hi + 1 = n := path_injective naming (Option.some.inj here)
    omega
  | evict =>
    simp only [step] at stepped
    split_ifs at stepped
    obtain rfl := Option.some.inj stepped
    exact inv.live
  | list listing =>
    simp only [step] at stepped
    split_ifs at stepped
    obtain rfl := Option.some.inj stepped
    exact inv.live
  | update thread host =>
    obtain ⟨files, held, rfl⟩ := Option.map_eq_some_iff.mp stepped
    obtain ⟨fresh, locked⟩ := locked_spec naming s thread host files
    intro f here emitted
    rw [locked.emitted, List.mem_append] at emitted
    rcases emitted with old | new
    · exact inv.live f here old
    · exact never ⟨fresh, newest naming s⟩ (by simp [locked.report]) f new here

/-- However threads, rotations and evictions interleave: no list names the file that is
    the newest when its update runs, and no file is named twice, if and only if every
    update finds the newest file last in its listing, or neither listed nor active. -/
theorem pollers_iff_current_listing (naming : Naming) (labels : List Label) :
    Always (step naming) (fun s => NeverLive s ∧ ReportedOnce s) Session.init labels ↔
      Meets (step naming) (CurrentListing naming) Session.init labels := by
  refine always_iff_meets (Invariant naming) ?_ ?_
    ⟨ledger_init, by simp [Session.init, newest]⟩ (by simp [NeverLive, ReportedOnce, Session.init])
  · exact fun s l t inv _ stepped holds => ⟨ledger_step inv.ledger stepped, step_live inv stepped holds.1⟩
  · intro s l t inv holds stepped
    rw [← step_neverLive inv holds.1 stepped]
    exact ⟨And.left, fun never => ⟨never, reportedOnce_of_ledger (ledger_step inv.ledger stepped)⟩⟩

end

def sampleNaming : Naming := ⟨"/captures/s1".toList, fun n => 20250101000000 + n⟩

def sampleHost : Host := ⟨1, fun _ => some 0, fun _ => true⟩

/-- One thread lists two files; after a rotation another lists three and updates first. -/
def staleListing : List Label :=
  [.rotate, .rotate, .list [sampleNaming.path 1, sampleNaming.path 2], .rotate,
    .list [sampleNaming.path 1, sampleNaming.path 2, sampleNaming.path 3], .update 1 sampleHost, .update 0 sampleHost]

theorem stale_listing_closes_live_file :
    ∃ s, run (step sampleNaming) Session.init staleListing = some s ∧ ¬ NeverLive s := by
  refine ⟨_, rfl, fun never => ?_⟩
  refine never ⟨[sampleNaming.path 3], some (sampleNaming.path 3)⟩ ?_ _ List.mem_cons_self rfl
  exact List.mem_cons_of_mem _ List.mem_cons_self

end Marlinspike.Capd.Pollers
