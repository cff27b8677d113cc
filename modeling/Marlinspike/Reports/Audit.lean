import Marlinspike.Sorting
import Marlinspike.Plugins.Enrich

/-!
The audit of a project: which vulnerabilities its reports have shown, one after the other, and
which are gone again. Each vulnerability of an asset is seen as new, then gone and back by turns
(`changes_shape`), and the tracker says so as long as none that was gone comes back in an advisory
alone: an advisory does not reopen (`audit_consistent_iff`).
-/
namespace Marlinspike.Reports.Audit
open Marlinspike.Sorting
open Marlinspike.Plugins (Numbers)
open Marlinspike.Plugins.Enrich (plainNumbers)
open Marlinspike.Reports.Aggregate (truthy orElse)

/-! ### Reports -/

structure CveEntry where
  cve : Option String
  id : Option String := none
  title : Option String
  severity : Option String := none
  cvss : Option Rat := none

structure Node where
  ip : Option String
  address : Option String := none
  vendor : Option String := none
  productLine : Option String := none
  hardwareModel : Option String := none
  cveVulnerabilities : List CveEntry := []

structure RiskFinding where
  category : String
  cveId : Option String := none
  advisoryId : Option String := none
  description : String := ""
  severity : Option String := none
  cvssImpact : Option Rat := none
  affectedNodes : List String := []

structure Report where
  timestampStart : Option String
  timestampEnd : Option String := none
  timestamp : Option String := none
  reportName : Option String := none
  nodes : List Node := []
  riskFindings : List RiskFinding := []

def Report.rawTs (report : Report) : String :=
  orElse report.timestampStart (orElse report.timestampEnd (orElse report.timestamp ""))

/-! ### What a report shows -/

/-- A vulnerability of an asset, as it is recorded. -/
structure Exposure where
  id : Option String
  title : Option String
  severity : String
  cvss : Rat
  ip : String
  vendor : String
  product : String

/-- `f"{v_id}|{ip}"`. -/
def Exposure.key (e : Exposure) : String := e.id.getD "None" ++ "|" ++ e.ip

/-- An exposure that a report shows, on a node or in an advisory. -/
structure Sighting where
  exposure : Exposure
  cve : Option String
  advisory : Bool

def Sighting.key (s : Sighting) : String := s.exposure.key

def CveEntry.vId (v : CveEntry) : Option String := (truthy v.cve).or ((truthy v.id).or v.title)

def sightingOfCve (node : Node) (v : CveEntry) : Sighting where
  exposure :=
    { id := v.vId
      title := v.title.or v.vId
      severity := v.severity.getD "HIGH"
      cvss := v.cvss.getD (15 / 2)
      ip := orElse node.ip (orElse node.address "unknown")
      vendor := node.vendor.getD ""
      product := orElse node.productLine (orElse node.hardwareModel "") }
  cve := v.cve.or v.vId
  advisory := false

def RiskFinding.cveOrAdvisory (rf : RiskFinding) : String := orElse rf.cveId (orElse rf.advisoryId "CISA-ADVISORY")

def sightingOfAdvisory (rf : RiskFinding) (affectedIp : String) : Sighting where
  exposure :=
    { id := some rf.cveOrAdvisory
      title := some (orElse (some (String.ofList (rf.description.toList.takeWhile (· ≠ ':')))) rf.cveOrAdvisory)
      severity := rf.severity.getD "HIGH"
      cvss := rf.cvssImpact.getD (15 / 2)
      ip := affectedIp
      vendor := ""
      product := "" }
  cve := some rf.cveOrAdvisory
  advisory := true

def nodeSightings (report : Report) : List Sighting :=
  report.nodes.flatMap fun node => node.cveVulnerabilities.map (sightingOfCve node)

def advisorySightings (report : Report) : List Sighting :=
  (report.riskFindings.filter (·.category = "CISA_ICS_ADVISORY")).flatMap fun rf =>
    (if rf.affectedNodes = [] then ["unknown"] else rf.affectedNodes).map (sightingOfAdvisory rf)

/-- First those of the nodes, then those of the risk findings. -/
def sightings (report : Report) : List Sighting := nodeSightings report ++ advisorySightings report

/-! ### The tracker -/

inductive Status where
  | active
  | remediated
deriving DecidableEq, Repr

inductive EventType where
  | discovered
  | remediated
  | reopened
deriving DecidableEq, Repr

/-- A value of `vuln_tracker`. -/
structure Tracked where
  exposure : Exposure
  cve : Option String
  discoveredDate : String
  discoveredTs : String
  status : Status := .active
  remediatedDate : Option String := none
  remediatedTs : Option String := none

structure Event where
  date : String
  timestamp : String
  eventType : EventType
  exposure : Exposure
  status : Status
  description : String

structure Snapshot where
  date : String
  reportName : String
  activeVulnerabilities : Nat
  remediatedVulnerabilities : Nat
  totalDiscovered : Nat
  totalNodes : Nat

structure AuditState where
  vulnTracker : PyDict String Tracked
  timelineEvents : List Event
  currentReportVulns : List String
  dailySnapshots : List Snapshot

def AuditState.empty : AuditState := ⟨PyDict.empty, [], [], []⟩

section Tracking
variable (dateStr rawTs : String)

def discoveredEvent (s : Sighting) : Event where
  date := dateStr
  timestamp := rawTs
  eventType := .discovered
  exposure := s.exposure
  status := .active
  description :=
    let e := s.exposure
    let id := e.id.getD "None"
    if s.advisory then s!"CISA Advisory {id} discovered on {e.ip}."
    else s!"Vulnerability {id} first discovered on asset {e.ip} ({e.vendor} {e.product})."

def reopenedEvent (e : Exposure) : Event :=
  let id := e.id.getD "None"
  ⟨dateStr, rawTs, .reopened, e, .active, s!"Vulnerability {id} REOPENED / RE-DETECTED on asset {e.ip}."⟩

def remediatedEvent (e : Exposure) : Event :=
  let id := e.id.getD "None"
  ⟨dateStr, rawTs, .remediated, e, .remediated, s!"Vulnerability {id} REMEDIATED / RESOLVED on asset {e.ip}."⟩

/-- One sighting. Only one of a node reopens what is remediated. -/
def track (st : AuditState) (s : Sighting) : AuditState :=
  let st := { st with currentReportVulns := st.currentReportVulns.insert s.key }
  match st.vulnTracker.get s.key with
  | none =>
    { st with
      vulnTracker := st.vulnTracker.set s.key ⟨s.exposure, s.cve, dateStr, rawTs, .active, none, none⟩
      timelineEvents := st.timelineEvents ++ [discoveredEvent dateStr rawTs s] }
  | some info =>
    if s.advisory = false ∧ info.status = .remediated then
      { st with
        vulnTracker := st.vulnTracker.set s.key { info with status := .active, remediatedDate := none }
        timelineEvents := st.timelineEvents ++ [reopenedEvent dateStr rawTs s.exposure] }
    else st

/-- What was active and is not in the report. -/
def isGone (current : List String) (vKey : String) (info : Tracked) : Bool :=
  info.status = .active && !current.contains vKey

def goneEvent (current : List String) (item : String × Tracked) : Option Event :=
  if isGone current item.1 item.2 then some (remediatedEvent dateStr rawTs item.2.exposure) else none

def closeOut (st : AuditState) : AuditState :=
  { st with
    vulnTracker := st.vulnTracker.mapItems fun vKey info =>
      if isGone st.currentReportVulns vKey info then
        { info with status := .remediated, remediatedDate := some dateStr, remediatedTs := some rawTs }
      else info
    timelineEvents := st.timelineEvents ++
      st.vulnTracker.items.filterMap (goneEvent dateStr rawTs st.currentReportVulns) }

end Tracking

def countStatus (tracker : PyDict String Tracked) (status : Status) : Nat :=
  tracker.items.countP (·.2.status = status)

/-- The day of a report, from its time or else its index. -/
def Report.dateStr (report : Report) (idx : Nat) : String :=
  if 10 ≤ report.rawTs.length then String.ofList (report.rawTs.toList.take 10) else s!"Day {idx + 1}"

/-- One report, under its index. -/
def processReport (st : AuditState) (numbered : Report × Nat) : AuditState :=
  let (report, idx) := numbered
  let st := (sightings report).foldl (track (report.dateStr idx) report.rawTs) { st with currentReportVulns := [] }
  let st := closeOut (report.dateStr idx) report.rawTs st
  { st with
    dailySnapshots := st.dailySnapshots ++
      [{ date := report.dateStr idx
         reportName := orElse report.reportName s!"report_{idx + 1}"
         activeVulnerabilities := st.currentReportVulns.length
         remediatedVulnerabilities := countStatus st.vulnTracker .remediated
         totalDiscovered := st.vulnTracker.items.length
         totalNodes := report.nodes.length }] }

/-! ### `generate_project_audit_report` -/

structure Summary where
  totalDiscovered : Nat
  remediated : Nat
  active : Nat
  remediationRate : Rat
  totalScans : Nat
  conduitViolationsCount : Option Nat
  controlWritesCount : Option Nat
  cisaCpgScore : Option Rat

structure AuditData where
  summary : Summary
  vulnerabilityLifecycle : List Tracked
  timelineEvents : List Event
  dailySnapshots : List Snapshot

def sortedReports (reportsList : List Report) : List Report :=
  reportsList.mergeSort fun a b => decide (a.rawTs ≤ b.rawTs)

/-- All reports, from the earliest to the latest. -/
def runAudit (reportsList : List Report) : AuditState :=
  (sortedReports reportsList).zipIdx.foldl processReport .empty

/-- The latest first. -/
def latestFirst (events : List Event) : List Event := events.mergeSort fun a b => decide (b.timestamp ≤ a.timestamp)

def isConduitViolation (rf : RiskFinding) : Bool :=
  rf.category = "IEC62443_CONDUIT_VIOLATION" || rf.category = "CROSS_PURDUE"

def isControlWrite (rf : RiskFinding) : Bool :=
  !isConduitViolation rf && (decide ("WRITE".toList <:+: rf.category.toList) ||
    ["S7_PROGRAM_ACCESS", "MODBUS_WRITE_COIL"].contains rf.category)

section Summaries
variable (numbers : Numbers)

def summarize (reports : List Report) (tracker : PyDict String Tracked) : Summary :=
  let totalDiscovered := tracker.items.length
  let remediatedCount := countStatus tracker .remediated
  let activeCount := totalDiscovered - remediatedCount
  let conduitViolations := (reports.flatMap (·.riskFindings)).countP isConduitViolation
  let controlWrites := (reports.flatMap (·.riskFindings)).countP isControlWrite
  { totalDiscovered
    remediated := remediatedCount
    active := activeCount
    remediationRate :=
      if 0 < totalDiscovered then numbers.round 1 ((remediatedCount : Rat) / totalDiscovered * 100) else 100
    totalScans := reports.length
    conduitViolationsCount := some conduitViolations
    controlWritesCount := some controlWrites
    cisaCpgScore := some <| max 50 <| min 100 <|
      numbers.round 1 (100 - ((conduitViolations : Rat) * 4 + controlWrites * 5 + activeCount * (3 / 2))) }

def generateProjectAuditReport (reportsList : List Report) : AuditData :=
  if reportsList = [] then ⟨⟨0, 0, 0, 0, 0, none, none, none⟩, [], [], []⟩
  else
    let st := runAudit reportsList
    { summary := summarize numbers (sortedReports reportsList) st.vulnTracker
      vulnerabilityLifecycle := st.vulnTracker.items.map Prod.snd
      timelineEvents := latestFirst st.timelineEvents
      dailySnapshots := st.dailySnapshots }

end Summaries

/-! ### One vulnerability -/

def statusIn (tracker : PyDict String Tracked) (key : String) : Option Status := (tracker.get key).map (·.status)

/-- The events of a vulnerability, each with its time. -/
def keyEvents (events : List Event) (key : String) : List (EventType × String) :=
  (events.filter (·.exposure.key = key)).map fun e => (e.eventType, e.timestamp)

theorem keyEvents_append (events more : List Event) (key : String) :
    keyEvents (events ++ more) key = keyEvents events key ++ keyEvents more key := by
  simp [keyEvents]

/-- Each vulnerability is tracked under its key. -/
def Keyed (tracker : PyDict String Tracked) : Prop :=
  ∀ key info, tracker.get key = some info → info.exposure.key = key

/-- The states of a vulnerability: what a sighting does to it. -/
def sight : Option Status → Bool → Option Status × List EventType
  | none, _ => (some .active, [.discovered])
  | some .active, _ => (some .active, [])
  | some .remediated, advisory => if advisory then (some .remediated, []) else (some .active, [.reopened])

/-- What the sightings of a report do together, if it is among them and among those of the nodes. -/
def sighted : Option Status → Bool → Bool → Option Status × List EventType
  | none, present, _ => if present then (some .active, [.discovered]) else (none, [])
  | some .active, _, _ => (some .active, [])
  | some .remediated, _, noted => if noted then (some .active, [.reopened]) else (some .remediated, [])

/-- What a whole report does: what is active and not in it is gone. -/
def lifeStep (status : Option Status) (present noted : Bool) : Option Status × List EventType :=
  let (status, events) := sighted status present noted
  if status = some .active ∧ present = false then (some .remediated, events ++ [.remediated]) else (status, events)

def present (key : String) (report : Report) : Bool := (sightings report).any (·.key = key)
def noted (key : String) (report : Report) : Bool := (nodeSightings report).any (·.key = key)

theorem present_of_noted {key : String} {report : Report} (found : noted key report = true) :
    present key report = true := by
  rw [present, sightings, List.any_append, show (nodeSightings report).any (·.key = key) = true from found]
  rfl

theorem noted_eq (key : String) (report : Report) :
    noted key report = (sightings report).any fun s => s.key = key ∧ s.advisory = false := by
  have plain : ∀ s ∈ nodeSightings report, s.advisory = false := by
    intro s member
    obtain ⟨node, -, inside⟩ := List.mem_flatMap.mp member
    obtain ⟨v, -, rfl⟩ := List.mem_map.mp inside
    rfl
  have advisories : ∀ s ∈ advisorySightings report, s.advisory = true := by
    intro s member
    obtain ⟨rf, -, inside⟩ := List.mem_flatMap.mp member
    obtain ⟨ip, -, rfl⟩ := List.mem_map.mp inside
    rfl
  rw [Bool.eq_iff_iff]
  simp only [noted, sightings, List.any_eq_true, List.mem_append, decide_eq_true_eq]
  constructor
  · rintro ⟨s, member, same⟩
    exact ⟨s, .inl member, same, plain s member⟩
  · rintro ⟨s, member | member, same, none⟩
    · exact ⟨s, member, same⟩
    · rw [advisories s member] at none
      cases none

section Tracked
variable (dateStr rawTs : String)

theorem track_current (st : AuditState) (s : Sighting) :
    (track dateStr rawTs st s).currentReportVulns = st.currentReportVulns.insert s.key := by
  unfold track
  simp only
  split
  · rfl
  · split_ifs <;> rfl

theorem track_snapshots (st : AuditState) (s : Sighting) :
    (track dateStr rawTs st s).dailySnapshots = st.dailySnapshots := by
  unfold track
  simp only
  split
  · rfl
  · split_ifs <;> rfl

theorem track_keyed {st : AuditState} (s : Sighting) (keyed : Keyed st.vulnTracker) :
    Keyed (track dateStr rawTs st s).vulnTracker := by
  unfold track
  simp only
  split
  · intro key info found
    rw [PyDict.get_set] at found
    split_ifs at found with same
    · obtain rfl := Option.some.inj found
      exact same
    · exact keyed key info found
  · rename_i info tracked
    split_ifs
    · intro key info' found
      rw [PyDict.get_set] at found
      split_ifs at found with same
      · obtain rfl := Option.some.inj found
        exact (keyed _ info tracked).trans same
      · exact keyed key info' found
    · exact keyed

/-- A sighting moves the vulnerability that is seen, and no other. -/
theorem track_spec (st : AuditState) (s : Sighting) (key : String) :
    statusIn (track dateStr rawTs st s).vulnTracker key =
        (if s.key = key then (sight (statusIn st.vulnTracker key) s.advisory).1 else statusIn st.vulnTracker key) ∧
      keyEvents (track dateStr rawTs st s).timelineEvents key = keyEvents st.timelineEvents key ++
        (if s.key = key then (sight (statusIn st.vulnTracker key) s.advisory).2.map (·, rawTs) else []) := by
  by_cases same : s.key = key
  · subst same
    have own : s.exposure.key = s.key := rfl
    cases found : st.vulnTracker.get s.key with
    | none => simp [track, statusIn, keyEvents, found, sight, discoveredEvent, own]
    | some info =>
      cases h : info.status <;> cases advisory : s.advisory <;>
        simp [track, statusIn, keyEvents, found, sight, reopenedEvent, own, h, advisory]
  · have own : s.exposure.key ≠ key := same
    simp only [if_neg same, List.append_nil]
    unfold track
    simp only
    split
    · simp [statusIn, keyEvents, PyDict.get_set, same, discoveredEvent, own]
    · split_ifs
      · simp [statusIn, keyEvents, PyDict.get_set, same, reopenedEvent, own]
      · exact ⟨rfl, rfl⟩

/-- The sightings of a vulnerability together: the first one tracks it, one of a node reopens it. -/
theorem foldl_track (seen : List Sighting) (st : AuditState) (key : String) :
    let here := seen.any (·.key = key)
    let reopened := seen.any fun s => s.key = key ∧ s.advisory = false
    let result := seen.foldl (track dateStr rawTs) st
    statusIn result.vulnTracker key = (sighted (statusIn st.vulnTracker key) here reopened).1 ∧
      keyEvents result.timelineEvents key = keyEvents st.timelineEvents key ++
        (sighted (statusIn st.vulnTracker key) here reopened).2.map (·, rawTs) := by
  induction seen generalizing st with
  | nil => rcases unseen : statusIn st.vulnTracker key with _ | (_ | _) <;> simp [sighted, unseen]
  | cons s rest ih =>
    obtain ⟨status, events⟩ := track_spec dateStr rawTs st s key
    obtain ⟨laterStatus, laterEvents⟩ := ih (track dateStr rawTs st s)
    simp only [List.foldl_cons, List.any_cons]
    rw [laterStatus, laterEvents, status, events]
    by_cases same : s.key = key
    · rcases statusIn st.vulnTracker key with _ | (_ | _) <;> cases advisory : s.advisory <;>
        simp [same, sight, sighted]
    · simp [same]

theorem foldl_track_current (seen : List Sighting) (st : AuditState) (key : String) :
    key ∈ (seen.foldl (track dateStr rawTs) st).currentReportVulns ↔
      key ∈ st.currentReportVulns ∨ seen.any (·.key = key) = true := by
  induction seen generalizing st with
  | nil => simp
  | cons s rest ih =>
    rw [List.foldl_cons, ih, track_current, List.mem_insert_iff, List.any_cons]
    simp only [Bool.or_eq_true, decide_eq_true_eq, eq_comm (a := key)]
    rw [or_comm (a := s.key = key), or_assoc]

theorem foldl_track_frame (seen : List Sighting) (st : AuditState) (keyed : Keyed st.vulnTracker)
    (distinct : st.currentReportVulns.Nodup) :
    let result := seen.foldl (track dateStr rawTs) st
    Keyed result.vulnTracker ∧ result.currentReportVulns.Nodup ∧ result.dailySnapshots = st.dailySnapshots := by
  induction seen generalizing st with
  | nil => exact ⟨keyed, distinct, rfl⟩
  | cons s rest ih =>
    have next : (track dateStr rawTs st s).currentReportVulns.Nodup := by
      rw [track_current]
      exact distinct.insert
    obtain ⟨kept, apart, same⟩ := ih _ (track_keyed dateStr rawTs s keyed) next
    exact ⟨kept, apart, same.trans (track_snapshots dateStr rawTs st s)⟩

/-- The events at the end of a report: one for each vulnerability that is gone. -/
theorem keyEvents_gone {tracker : PyDict String Tracked} (keyed : Keyed tracker) (current : List String)
    (key : String) :
    keyEvents (tracker.items.filterMap (goneEvent dateStr rawTs current)) key =
      if statusIn tracker key = some .active ∧ key ∉ current then [(.remediated, rawTs)] else [] := by
  have own : ∀ item ∈ tracker.items, ∀ event, goneEvent dateStr rawTs current item = some event →
      event.exposure.key = item.1 := by
    intro item member event raised
    simp only [goneEvent, Option.ite_none_right_eq_some] at raised
    obtain ⟨-, raised⟩ := raised
    rw [← Option.some.inj raised]
    exact keyed item.1 item.2 (PyDict.get_of_mem_items member)
  have split : (tracker.items.filterMap (goneEvent dateStr rawTs current)).filter (·.exposure.key = key) =
      (tracker.items.filter fun item => item.1 = key).filterMap (goneEvent dateStr rawTs current) := by
    generalize tracker.items = items at own
    induction items with
    | nil => rfl
    | cons item rest ih =>
      have ih := ih fun other member => own other (List.mem_cons_of_mem _ member)
      have first := own item List.mem_cons_self
      by_cases same : item.1 = key
      · cases raised : goneEvent dateStr rawTs current item with
        | none => simp [raised, same, ih]
        | some event => simp [raised, same, ih, first event raised]
      · cases raised : goneEvent dateStr rawTs current item with
        | none => simp [raised, same, ih]
        | some event => simp [raised, same, ih, first event raised]
  rw [keyEvents, split, PyDict.filter_key]
  cases found : tracker.get key with
  | none => simp [statusIn, found]
  | some info =>
    by_cases gone : info.status = .active ∧ key ∉ current
    · simp [statusIn, found, goneEvent, isGone, gone, remediatedEvent]
    · have kept : isGone current key info = false := by
        simpa [isGone] using fun active => not_and.mp gone active
      simp [statusIn, found, goneEvent, kept, gone]

theorem statusIn_closeOut (st : AuditState) (key : String) :
    statusIn (closeOut dateStr rawTs st).vulnTracker key =
      if statusIn st.vulnTracker key = some .active ∧ key ∉ st.currentReportVulns then some .remediated
      else statusIn st.vulnTracker key := by
  simp only [closeOut, statusIn, PyDict.get_mapItems]
  obtain found | ⟨info, found⟩ := Option.eq_none_or_eq_some (st.vulnTracker.get key)
  · simp [found]
  · by_cases gone : info.status = .active ∧ key ∉ st.currentReportVulns
    · simp [found, isGone, gone]
    · have kept : isGone st.currentReportVulns key info = false := by
        simpa [isGone] using fun active => not_and.mp gone active
      simp [found, kept, gone]

theorem closeOut_keyed {st : AuditState} (keyed : Keyed st.vulnTracker) :
    Keyed (closeOut dateStr rawTs st).vulnTracker := by
  intro key info found
  simp only [closeOut, PyDict.get_mapItems, Option.map_eq_some_iff] at found
  obtain ⟨before, tracked, rfl⟩ := found
  have same := keyed key before tracked
  split_ifs <;> exact same

end Tracked

/-- What a report does to a vulnerability. -/
theorem processReport_spec (st : AuditState) (keyed : Keyed st.vulnTracker) (numbered : Report × Nat) (key : String) :
    let step := lifeStep (statusIn st.vulnTracker key) (present key numbered.1) (noted key numbered.1)
    statusIn (processReport st numbered).vulnTracker key = step.1 ∧
      keyEvents (processReport st numbered).timelineEvents key =
        keyEvents st.timelineEvents key ++ step.2.map (·, numbered.1.rawTs) := by
  obtain ⟨report, idx⟩ := numbered
  simp only [processReport]
  generalize report.dateStr idx = dateStr
  set start : AuditState := { st with currentReportVulns := [] }
  obtain ⟨status, events⟩ := foldl_track dateStr report.rawTs (sightings report) start key
  obtain ⟨kept, -, -⟩ := foldl_track_frame dateStr report.rawTs (sightings report) start keyed List.nodup_nil
  have current := foldl_track_current dateStr report.rawTs (sightings report) start key
  set seen := (sightings report).foldl (track dateStr report.rawTs) start
  rw [← noted_eq] at status events
  have here : key ∈ seen.currentReportVulns ↔ present key report = true := by simpa [start, present] using current
  have gone := keyEvents_gone dateStr report.rawTs kept seen.currentReportVulns key
  rw [statusIn_closeOut, closeOut, keyEvents_append, gone, events, status]
  rw [show (sightings report).any (·.key = key) = present key report from rfl]
  simp only [start, lifeStep, here, Bool.not_eq_true, List.append_assoc]
  rcases statusIn st.vulnTracker key with _ | (_ | _) <;> cases present key report <;> cases noted key report <;>
    simp [sighted]

theorem processReport_frame (st : AuditState) (keyed : Keyed st.vulnTracker) (numbered : Report × Nat) :
    let after := processReport st numbered
    Keyed after.vulnTracker ∧ ∃ snapshot : Snapshot, after.dailySnapshots = st.dailySnapshots ++ [snapshot] ∧
      snapshot.activeVulnerabilities = after.currentReportVulns.length ∧
      snapshot.remediatedVulnerabilities = countStatus after.vulnTracker .remediated ∧
      snapshot.totalDiscovered = after.vulnTracker.items.length := by
  obtain ⟨report, idx⟩ := numbered
  simp only [processReport]
  generalize report.dateStr idx = dateStr
  obtain ⟨kept, -, same⟩ := foldl_track_frame dateStr report.rawTs (sightings report)
    { st with currentReportVulns := [] } keyed List.nodup_nil
  refine ⟨closeOut_keyed dateStr report.rawTs kept, _, congrArg (· ++ _) same, rfl, rfl, rfl⟩

theorem processReport_current (st : AuditState) (keyed : Keyed st.vulnTracker) (numbered : Report × Nat) :
    let current := (processReport st numbered).currentReportVulns
    current.Nodup ∧ ∀ key, key ∈ current ↔ present key numbered.1 = true := by
  obtain ⟨report, idx⟩ := numbered
  simp only [processReport]
  generalize report.dateStr idx = dateStr
  obtain ⟨-, apart, -⟩ := foldl_track_frame dateStr report.rawTs (sightings report)
    { st with currentReportVulns := [] } keyed List.nodup_nil
  refine ⟨apart, fun key => ?_⟩
  have current := foldl_track_current dateStr report.rawTs (sightings report) { st with currentReportVulns := [] } key
  simpa [closeOut, present] using current

/-! ### Runs -/

def lifeStatus (key : String) (status : Option Status) (reports : List Report) : Option Status :=
  reports.foldl (fun status r => (lifeStep status (present key r) (noted key r)).1) status

def lifeEvents (key : String) : Option Status → List Report → List (EventType × String)
  | _, [] => []
  | status, r :: rest =>
    let step := lifeStep status (present key r) (noted key r)
    step.2.map (·, r.rawTs) ++ lifeEvents key step.1 rest

theorem run_spec (numbered : List (Report × Nat)) (st : AuditState) (keyed : Keyed st.vulnTracker) (key : String) :
    let after := numbered.foldl processReport st
    Keyed after.vulnTracker ∧
      statusIn after.vulnTracker key = lifeStatus key (statusIn st.vulnTracker key) (numbered.map Prod.fst) ∧
      keyEvents after.timelineEvents key =
        keyEvents st.timelineEvents key ++ lifeEvents key (statusIn st.vulnTracker key) (numbered.map Prod.fst) := by
  induction numbered generalizing st with
  | nil => exact ⟨keyed, rfl, (List.append_nil _).symm⟩
  | cons first rest ih =>
    obtain ⟨status, events⟩ := processReport_spec st keyed first key
    obtain ⟨kept, laterStatus, laterEvents⟩ := ih _ (processReport_frame st keyed first).1
    refine ⟨kept, ?_, ?_⟩
    · rw [List.foldl_cons, laterStatus, status]
      rfl
    · rw [List.foldl_cons, laterEvents, events, status, List.append_assoc]
      rfl

/-- A report brings at most one event of a vulnerability. -/
theorem lifeStep_events (status : Option Status) {present noted : Bool} (inside : noted = true → present = true) :
    (lifeStep status present noted).2 = [] ∨ ∃ e, (lifeStep status present noted).2 = [e] := by
  rcases status with _ | (_ | _) <;> cases present <;> cases noted <;> simp_all [lifeStep, sighted]

theorem lifeEvents_times (key : String) (status : Option Status) (reports : List Report) :
    ((lifeEvents key status reports).map Prod.snd).Sublist (reports.map Report.rawTs) := by
  induction reports generalizing status with
  | nil => exact List.Sublist.refl _
  | cons r rest ih =>
    simp only [lifeEvents, List.map_append, List.map_map, List.map_cons]
    have inside : noted key r = true → present key r = true := present_of_noted
    obtain none | ⟨e, one⟩ := lifeStep_events status inside
    · rw [none]
      exact (ih _).cons _
    · rw [one]
      exact (ih _).cons_cons _

/-! ### What should be seen -/

/-- Whether a vulnerability has been in some report so far, and whether it was in the last one. -/
def seenIn (key : String) (reports : List Report) : Bool := reports.any (present key)
def wasIn (key : String) (reports : List Report) : Bool := reports.getLast?.any (present key)

def changesFrom (key : String) : Bool → Bool → List Report → List (EventType × String)
  | _, _, [] => []
  | seen, was, r :: rest =>
    let change :=
      if present key r = was then []
      else [(if present key r then if seen then EventType.reopened else .discovered else .remediated, r.rawTs)]
    change ++ changesFrom key (seen || present key r) (present key r) rest

/-- The reports at which the presence of a vulnerability changes, and how. -/
def changes (key : String) (reports : List Report) : List (EventType × String) := changesFrom key false false reports

/-- After a first event, it is remediated and reopened by turns. -/
def Turns (expected : EventType) : List EventType → Prop
  | [] => True
  | e :: rest => e = expected ∧ Turns (if expected = .remediated then .reopened else .remediated) rest

/-- The next change of a vulnerability. -/
def awaited (seen was : Bool) : EventType := if was then .remediated else if seen then .reopened else .discovered

theorem changesFrom_turns (key : String) (seen was : Bool) (known : was = true → seen = true) (reports : List Report) :
    Turns (awaited seen was) ((changesFrom key seen was reports).map Prod.fst) := by
  induction reports generalizing seen was with
  | nil => trivial
  | cons r rest ih =>
    have later := ih (seen || present key r) (present key r) (by simp +contextual)
    unfold changesFrom
    cases here : present key r <;> cases was <;> cases seen <;> simp_all [awaited, Turns]

/-- A vulnerability is discovered, and then remediated and reopened by turns. -/
theorem changes_shape (key : String) (reports : List Report) :
    Turns .discovered ((changes key reports).map Prod.fst) :=
  changesFrom_turns key false false (by simp) reports

/-- What is tracked of a vulnerability, if nothing is missed. -/
def encode (seen was : Bool) : Option Status :=
  if was then some .active else if seen then some .remediated else none

theorem active_iff_of_encode {seen was : Bool} {status : Status} (tracked : encode seen was = some status) :
    status = .active ↔ was = true := by
  cases was <;> cases seen <;> cases status <;> simp_all [encode]

/-- Whatever was gone and is back, is on a node. -/
def NoticedFrom (key : String) : Bool → Bool → List Report → Prop
  | _, _, [] => True
  | seen, was, r :: rest =>
    (seen = true → was = false → present key r = true → noted key r = true) ∧
      NoticedFrom key (seen || present key r) (present key r) rest

theorem lifeStep_encode (key : String) {seen was : Bool} (known : was = true → seen = true) (r : Report)
    (notice : seen = true → was = false → present key r = true → noted key r = true) :
    (lifeStep (encode seen was) (present key r) (noted key r)).1 = encode (seen || present key r) (present key r) ∧
      (lifeStep (encode seen was) (present key r) (noted key r)).2.map (·, r.rawTs) =
        if present key r = was then []
        else [(if present key r then if seen then EventType.reopened else .discovered else .remediated, r.rawTs)] := by
  have inside : noted key r = true → present key r = true := present_of_noted
  cases here : present key r <;> cases spotted : noted key r <;> cases was <;> cases seen <;>
    simp_all [encode, lifeStep, sighted]

/-- The events are the changes exactly if nothing is missed. -/
theorem lifeEvents_eq_iff (key : String) {seen was : Bool} (known : was = true → seen = true) {reports : List Report}
    (distinct : (reports.map Report.rawTs).Nodup) :
    lifeEvents key (encode seen was) reports = changesFrom key seen was reports ↔ NoticedFrom key seen was reports := by
  induction reports generalizing seen was with
  | nil => simp [lifeEvents, changesFrom, NoticedFrom]
  | cons r rest ih =>
    obtain ⟨fresh, distinct⟩ := List.nodup_cons.mp distinct
    simp only [lifeEvents, changesFrom, NoticedFrom]
    by_cases notice : seen = true → was = false → present key r = true → noted key r = true
    · obtain ⟨status, events⟩ := lifeStep_encode key known r notice
      have later : lifeEvents key (encode (seen || present key r) (present key r)) rest =
          changesFrom key (seen || present key r) (present key r) rest ↔
            NoticedFrom key (seen || present key r) (present key r) rest := ih (by simp +contextual) distinct
      rw [status, events, List.append_cancel_left_eq, later]
      exact ⟨fun rest => ⟨notice, rest⟩, And.right⟩
    · push Not at notice
      obtain ⟨rfl, rfl, here, unnoted⟩ := notice
      have missed : lifeStep (encode true false) true false = (some .remediated, []) := rfl
      simp only [here, Bool.not_eq_true] at unnoted ⊢
      rw [unnoted, missed]
      refine iff_of_false (fun same => fresh ?_) (by simp)
      have inside : (EventType.reopened, r.rawTs) ∈ lifeEvents key (some .remediated) rest := by
        simp only [List.map_nil, List.nil_append] at same
        rw [same]
        simp
      exact (lifeEvents_times key _ rest).subset (List.mem_map_of_mem inside)

/-! ### The answer -/

section Answer
variable (numbers : Numbers) (reportsList : List Report)

/-- The events of a vulnerability in the answer, the earliest first. -/
def eventsOf (audit : AuditData) (key : String) : List (EventType × String) :=
  (keyEvents audit.timelineEvents key).reverse

/-- What the answer should say of the reports. -/
structure Consistent (audit : AuditData) : Prop where
  shape : ∀ info ∈ audit.vulnerabilityLifecycle,
    eventsOf audit info.exposure.key ≠ [] ∧
      Turns .discovered ((eventsOf audit info.exposure.key).map Prod.fst)
  times : ∀ info ∈ audit.vulnerabilityLifecycle,
    eventsOf audit info.exposure.key = changes info.exposure.key (sortedReports reportsList)
  status : ∀ info ∈ audit.vulnerabilityLifecycle,
    info.status = .active ↔ wasIn info.exposure.key (sortedReports reportsList) = true
  balance : ∀ snapshot ∈ audit.dailySnapshots,
    snapshot.activeVulnerabilities + snapshot.remediatedVulnerabilities = snapshot.totalDiscovered
  summary : ∀ last, audit.dailySnapshots.getLast? = some last → audit.summary.active = last.activeVulnerabilities

/-- Whatever is back in a report after it was gone, is on a node of that report. -/
def Noticed (reports : List Report) : Prop :=
  ∀ key before r after, reports = before ++ r :: after →
    seenIn key before = true → wasIn key before = false → present key r = true → noted key r = true

theorem seenIn_append (key : String) (done : List Report) (r : Report) :
    seenIn key (done ++ [r]) = (seenIn key done || present key r) := by simp [seenIn]

theorem wasIn_append (key : String) (done : List Report) (r : Report) : wasIn key (done ++ [r]) = present key r := by
  simp [wasIn]

theorem seenIn_of_wasIn {key : String} {done : List Report} (was : wasIn key done = true) : seenIn key done = true := by
  unfold wasIn at was
  cases found : done.getLast? with
  | none => simp [found] at was
  | some last => exact List.any_eq_true.mpr ⟨last, List.mem_of_getLast? found, by simpa [found] using was⟩

theorem noticedFrom_iff (key : String) (done rest : List Report) :
    NoticedFrom key (seenIn key done) (wasIn key done) rest ↔
      ∀ before r after, rest = before ++ r :: after → seenIn key (done ++ before) = true →
        wasIn key (done ++ before) = false → present key r = true → noted key r = true := by
  induction rest generalizing done with
  | nil => simp [NoticedFrom]
  | cons first rest ih =>
    have later := ih (done ++ [first])
    rw [seenIn_append, wasIn_append] at later
    rw [NoticedFrom, later]
    constructor
    · rintro ⟨now, others⟩ before r after split
      cases before with
      | nil =>
        obtain ⟨rfl, rfl⟩ := List.cons.inj split
        simpa using now
      | cons head before =>
        obtain ⟨rfl, rfl⟩ := List.cons.inj split
        simpa using others before r after rfl
    · intro each
      refine ⟨by simpa using each [] first rest rfl, fun before r after split => ?_⟩
      simpa using each (first :: before) r after (by rw [split]; rfl)

theorem noticed_iff (reports : List Report) : Noticed reports ↔ ∀ key, NoticedFrom key false false reports := by
  refine forall_congr' fun key => ?_
  rw [show NoticedFrom key false false reports ↔ NoticedFrom key (seenIn key []) (wasIn key []) reports from Iff.rfl,
    noticedFrom_iff]
  rfl

theorem sortedReports_rawTs (distinct : (reportsList.map Report.rawTs).Nodup) :
    ((sortedReports reportsList).map Report.rawTs).Pairwise (· < ·) := by
  have ordered : (sortedReports reportsList).Pairwise fun a b => a.rawTs ≤ b.rawTs :=
    pairwise_mergeSort_rank (fun _ _ => decide_eq_true_iff) reportsList
  have apart : ((sortedReports reportsList).map Report.rawTs).Nodup :=
    ((List.mergeSort_perm reportsList _).map Report.rawTs).nodup_iff.mpr distinct
  refine List.Pairwise.imp₂ (fun a b le ne => lt_of_le_of_ne le ne) ?_ apart
  exact List.pairwise_map.mpr ordered

theorem runAudit_spec (key : String) :
    Keyed (runAudit reportsList).vulnTracker ∧
      statusIn (runAudit reportsList).vulnTracker key = lifeStatus key none (sortedReports reportsList) ∧
      keyEvents (runAudit reportsList).timelineEvents key = lifeEvents key none (sortedReports reportsList) := by
  have nothing : Keyed AuditState.empty.vulnTracker := fun key info found => by simp [AuditState.empty] at found
  have run := run_spec (sortedReports reportsList).zipIdx .empty nothing key
  rw [List.zipIdx_map_fst] at run
  exact run

/-- Events of different times, put in order. -/
theorem filter_latestFirst (events : List Event) (p : Event → Bool)
    (ordered : ((events.filter p).map Event.timestamp).Pairwise (· < ·)) :
    ((latestFirst events).filter p).reverse = events.filter p := by
  have perm : ((latestFirst events).filter p).Perm (events.filter p) := (List.mergeSort_perm events _).filter p
  have ranked (a b : Event) : decide (b.timestamp ≤ a.timestamp) = true ↔
      OrderDual.toDual a.timestamp ≤ OrderDual.toDual b.timestamp := decide_eq_true_iff
  have descending : (latestFirst events).Pairwise fun a b => b.timestamp ≤ a.timestamp :=
    pairwise_mergeSort_rank ranked events
  have ascending : (events.filter p).Pairwise fun a b => a.timestamp < b.timestamp := List.pairwise_map.mp ordered
  have distinct : ((events.filter p).map Event.timestamp).Nodup := ordered.imp ne_of_lt
  have sorted : (((latestFirst events).filter p).reverse).Pairwise fun a b => a.timestamp ≤ b.timestamp :=
    List.pairwise_reverse.mpr (descending.filter p)
  refine List.Perm.eq_of_pairwise ?_ sorted (ascending.imp le_of_lt) ((List.reverse_perm _).trans perm)
  intro a b first second ab ba
  exact List.inj_on_of_nodup_map distinct (perm.mem_iff.mp (List.mem_reverse.mp first)) second (le_antisymm ab ba)

theorem eventsOf_answer (distinct : (reportsList.map Report.rawTs).Nodup) (some_ : reportsList ≠ []) (key : String) :
    eventsOf (generateProjectAuditReport numbers reportsList) key =
      lifeEvents key none (sortedReports reportsList) := by
  obtain ⟨-, -, events⟩ := runAudit_spec reportsList key
  have times : ((runAudit reportsList).timelineEvents.filter (·.exposure.key = key)).map Event.timestamp =
      (lifeEvents key none (sortedReports reportsList)).map Prod.snd := by
    rw [← events, keyEvents, List.map_map]
    rfl
  have ordered := (sortedReports_rawTs reportsList distinct).sublist (lifeEvents_times key none _)
  rw [eventsOf, generateProjectAuditReport, if_neg some_]
  simp only [keyEvents]
  rw [← List.map_reverse, filter_latestFirst _ _ (times ▸ ordered), ← events, keyEvents]

theorem countStatus_add (tracker : PyDict String Tracked) :
    countStatus tracker .active + countStatus tracker .remediated = tracker.items.length := by
  unfold countStatus
  induction tracker.items with
  | nil => rfl
  | cons item rest ih =>
    rw [List.countP_cons, List.countP_cons, List.length_cons]
    cases h : item.2.status <;> simp <;> omega

/-- The active ones are those of the report that was last. -/
theorem countStatus_active {tracker : PyDict String Tracked} {current : List String} (distinct : current.Nodup)
    (same : ∀ key, key ∈ current ↔ statusIn tracker key = some .active) :
    countStatus tracker .active = current.length := by
  have perm : ((tracker.items.filter fun item => item.2.status = .active).map Prod.fst).Perm current := by
    refine (List.perm_ext_iff_of_nodup ?_ distinct).mpr fun key => ?_
    · exact (tracker.distinct).sublist (List.filter_sublist.map _)
    · rw [same, statusIn, Option.map_eq_some_iff]
      simp only [List.mem_map, List.mem_filter, decide_eq_true_eq, Prod.exists]
      constructor
      · rintro ⟨_, info, ⟨member, active⟩, rfl⟩
        exact ⟨info, PyDict.get_of_mem_items member, active⟩
      · rintro ⟨info, found, active⟩
        exact ⟨key, info, ⟨PyDict.mem_items_of_get found, active⟩, rfl⟩
  rw [countStatus, List.countP_eq_length_filter, ← perm.length_eq, List.length_map]

/-- The tracker after some reports, if nothing was missed in them. -/
structure Synced (done : List Report) (st : AuditState) : Prop where
  keyed : Keyed st.vulnTracker
  status : ∀ key, statusIn st.vulnTracker key = encode (seenIn key done) (wasIn key done)
  balance : ∀ snapshot ∈ st.dailySnapshots,
    snapshot.activeVulnerabilities + snapshot.remediatedVulnerabilities = snapshot.totalDiscovered
  latest : ∀ last, st.dailySnapshots.getLast? = some last →
    last.remediatedVulnerabilities = countStatus st.vulnTracker .remediated ∧
      last.totalDiscovered = st.vulnTracker.items.length

theorem synced_step {done : List Report} {st : AuditState} (synced : Synced done st) (numbered : Report × Nat)
    (notice : ∀ key, seenIn key done = true → wasIn key done = false → present key numbered.1 = true →
      noted key numbered.1 = true) :
    Synced (done ++ [numbered.1]) (processReport st numbered) := by
  obtain ⟨keyed, snapshot, listed, active, remediated, total⟩ := processReport_frame st synced.keyed numbered
  obtain ⟨distinct, current⟩ := processReport_current st synced.keyed numbered
  have status : ∀ key, statusIn (processReport st numbered).vulnTracker key =
      encode (seenIn key (done ++ [numbered.1])) (wasIn key (done ++ [numbered.1])) := by
    intro key
    have moved := (processReport_spec st synced.keyed numbered key).1
    rw [moved, synced.status key, seenIn_append, wasIn_append]
    exact (lifeStep_encode key seenIn_of_wasIn numbered.1 (notice key)).1
  have counted : countStatus (processReport st numbered).vulnTracker .active =
      (processReport st numbered).currentReportVulns.length := by
    refine countStatus_active distinct fun key => ?_
    rw [current, status, seenIn_append, wasIn_append]
    cases seenIn key done <;> cases present key numbered.1 <;> simp [encode]
  refine ⟨keyed, status, fun other member => ?_, fun last found => ?_⟩
  · rw [listed, List.mem_append, List.mem_singleton] at member
    obtain member | rfl := member
    · exact synced.balance other member
    · rw [active, remediated, total, ← counted]
      exact countStatus_add _
  · rw [listed, List.getLast?_concat] at found
    obtain rfl := Option.some.inj found
    exact ⟨remediated, total⟩

theorem synced_run {done : List Report} {st : AuditState} (synced : Synced done st) (numbered : List (Report × Nat))
    (notice : ∀ key, NoticedFrom key (seenIn key done) (wasIn key done) (numbered.map Prod.fst)) :
    Synced (done ++ numbered.map Prod.fst) (numbered.foldl processReport st) := by
  induction numbered generalizing done st with
  | nil => simpa using synced
  | cons first rest ih =>
    have next := synced_step synced first fun key => (notice key).1
    have later := ih next fun key => by
      rw [seenIn_append, wasIn_append]
      exact (notice key).2
    simpa using later

theorem synced_audit (notice : ∀ key, NoticedFrom key false false (sortedReports reportsList)) :
    Synced (sortedReports reportsList) (runAudit reportsList) := by
  have start : Synced [] .empty := by
    refine ⟨fun key info found => ?_, fun key => rfl, fun _ member => ?_, fun _ found => ?_⟩
    · simp [AuditState.empty] at found
    · simp [AuditState.empty] at member
    · simp [AuditState.empty] at found
  have run := synced_run start (sortedReports reportsList).zipIdx (by rw [List.zipIdx_map_fst]; exact notice)
  rw [List.zipIdx_map_fst] at run
  exact run

theorem lifeStatus_tracked (key : String) (status : Status) (reports : List Report) :
    lifeStatus key (some status) reports ≠ none := by
  induction reports generalizing status with
  | nil => exact Option.some_ne_none status
  | cons r rest ih =>
    have kept : ∃ next, (lifeStep (some status) (present key r) (noted key r)).1 = some next := by
      cases status <;> cases present key r <;> cases noted key r <;> simp [lifeStep, sighted]
    obtain ⟨next, stays⟩ := kept
    rw [lifeStatus, List.foldl_cons, stays]
    exact ih next

/-- What is not tracked has been in no report, and what is tracked has an event. -/
theorem lifeStatus_untracked {key : String} {reports : List Report} :
    lifeStatus key none reports = none ↔ lifeEvents key none reports = [] := by
  induction reports with
  | nil => exact iff_of_true rfl rfl
  | cons r rest ih =>
    cases here : present key r with
    | false => simpa [lifeStatus, lifeEvents, lifeStep, sighted, here] using ih
    | true =>
      refine iff_of_false ?_ (by simp [lifeEvents, lifeStep, sighted, here])
      simpa [lifeStatus, lifeStep, sighted, here] using lifeStatus_tracked key .active rest

theorem noticedFrom_untracked {key : String} {reports : List Report} (untracked : lifeStatus key none reports = none) :
    NoticedFrom key false false reports := by
  induction reports with
  | nil => trivial
  | cons r rest ih =>
    cases here : present key r with
    | false =>
      refine ⟨by simp, ?_⟩
      rw [here]
      exact ih (by simpa [lifeStatus, lifeStep, sighted, here] using untracked)
    | true =>
      have tracked := lifeStatus_tracked key .active rest
      simp [lifeStatus, lifeStep, sighted, here] at untracked tracked
      exact absurd untracked tracked

theorem consistent_nil : Consistent [] (generateProjectAuditReport numbers []) := by
  constructor <;> simp [generateProjectAuditReport]

/-- What is in the lifecycle is tracked under its key. -/
theorem mem_lifecycle {info : Tracked}
    (member : info ∈ (generateProjectAuditReport numbers reportsList).vulnerabilityLifecycle) :
    statusIn (runAudit reportsList).vulnTracker info.exposure.key = some info.status := by
  unfold generateProjectAuditReport at member
  split_ifs at member
  · cases member
  · obtain ⟨⟨key, _⟩, inside, rfl⟩ := List.mem_map.mp member
    have found := PyDict.get_of_mem_items inside
    have own := (runAudit_spec reportsList key).1 key _ found
    rw [own, statusIn, found]
    rfl

theorem lifecycle_of_tracked {key : String} {info : Tracked} (some_ : reportsList ≠ [])
    (found : (runAudit reportsList).vulnTracker.get key = some info) :
    info ∈ (generateProjectAuditReport numbers reportsList).vulnerabilityLifecycle ∧ info.exposure.key = key := by
  rw [generateProjectAuditReport, if_neg some_]
  exact ⟨List.mem_map_of_mem (PyDict.mem_items_of_get found), (runAudit_spec reportsList key).1 key info found⟩

theorem consistent_of_noticed (distinct : (reportsList.map Report.rawTs).Nodup)
    (notice : Noticed (sortedReports reportsList)) :
    Consistent reportsList (generateProjectAuditReport numbers reportsList) := by
  by_cases none_ : reportsList = []
  · subst none_
    exact consistent_nil numbers
  have each := (noticed_iff _).mp notice
  have apart : ((sortedReports reportsList).map Report.rawTs).Nodup :=
    (sortedReports_rawTs reportsList distinct).imp ne_of_lt
  have times : ∀ key, eventsOf (generateProjectAuditReport numbers reportsList) key =
      changes key (sortedReports reportsList) := by
    intro key
    rw [eventsOf_answer numbers reportsList distinct none_]
    exact (lifeEvents_eq_iff key (by simp) apart).mpr (each key)
  have synced := synced_audit reportsList each
  have listed : (generateProjectAuditReport numbers reportsList).dailySnapshots =
      (runAudit reportsList).dailySnapshots := by rw [generateProjectAuditReport, if_neg none_]
  refine ⟨fun info member => ⟨?_, ?_⟩, fun info _ => times _, fun info member => ?_, ?_, fun last found => ?_⟩
  · have tracked := mem_lifecycle numbers reportsList member
    rw [(runAudit_spec reportsList _).2.1] at tracked
    rw [eventsOf_answer numbers reportsList distinct none_]
    intro silent
    rw [lifeStatus_untracked.mpr silent] at tracked
    cases tracked
  · rw [times]
    exact changes_shape _ _
  · have tracked := mem_lifecycle numbers reportsList member
    rw [synced.status] at tracked
    exact active_iff_of_encode tracked
  · rw [listed]
    exact synced.balance
  · rw [listed] at found
    obtain ⟨remediated, total⟩ := synced.latest last found
    have balance := synced.balance last (List.mem_of_getLast? found)
    simp only [generateProjectAuditReport, if_neg none_, summarize]
    omega

theorem noticed_of_consistent (distinct : (reportsList.map Report.rawTs).Nodup)
    (consistent : Consistent reportsList (generateProjectAuditReport numbers reportsList)) :
    Noticed (sortedReports reportsList) := by
  by_cases none_ : reportsList = []
  · subst none_
    intro key before r after split
    simp [sortedReports] at split
  refine (noticed_iff _).mpr fun key => ?_
  obtain ⟨-, status, -⟩ := runAudit_spec reportsList key
  cases found : (runAudit reportsList).vulnTracker.get key with
  | none =>
    rw [statusIn, found] at status
    exact noticedFrom_untracked status.symm
  | some info =>
    obtain ⟨member, own⟩ := lifecycle_of_tracked numbers reportsList none_ found
    have times := consistent.times info member
    rw [own, eventsOf_answer numbers reportsList distinct none_] at times
    have apart : ((sortedReports reportsList).map Report.rawTs).Nodup :=
      (sortedReports_rawTs reportsList distinct).imp ne_of_lt
    exact (lifeEvents_eq_iff key (by simp) apart).mp times

/-- The answer is consistent exactly if nothing that was gone comes back in an advisory alone. -/
theorem audit_consistent_iff (distinct : (reportsList.map Report.rawTs).Nodup) :
    Consistent reportsList (generateProjectAuditReport numbers reportsList) ↔ Noticed (sortedReports reportsList) :=
  ⟨noticed_of_consistent numbers reportsList distinct, consistent_of_noticed numbers reportsList distinct⟩

end Answer

/-! ### An advisory that comes back -/

def advisory : RiskFinding where
  category := "CISA_ICS_ADVISORY"
  advisoryId := some "ICSA-22-104-13"
  description := "ICSA-22-104-13: Red Lion DA50N"
  severity := some "HIGH"
  cvssImpact := some (77 / 10)
  affectedNodes := ["10.0.0.5"]

/-- A report of a day in August. -/
def reportOf (day : String) (riskFindings : List RiskFinding) : Report where
  timestampStart := some s!"2026-08-{day}T10:00:00Z"
  riskFindings

/-- There on the first day, not on the second, and there again on the third. -/
def returning : List Report := [reportOf "01" [advisory], reportOf "02" [], reportOf "03" [advisory]]

theorem sorted_returning : sortedReports returning = returning :=
  List.mergeSort_of_pairwise (by decide)

theorem returning_audit :
    (returning.map Report.rawTs).Nodup ∧
      (Consistent returning (generateProjectAuditReport plainNumbers returning) ↔ Noticed (sortedReports returning)) :=
  ⟨by decide, audit_consistent_iff plainNumbers returning (by decide)⟩

/-- It is not reopened, neither as an event nor in the tracker. -/
theorem returning_not_reopened : ¬ Consistent returning (generateProjectAuditReport plainNumbers returning) := by
  intro consistent
  have notice := noticed_of_consistent plainNumbers returning (by decide) consistent
  rw [sorted_returning] at notice
  have spotted := notice "ICSA-22-104-13|10.0.0.5" [reportOf "01" [advisory], reportOf "02" []]
    (reportOf "03" [advisory]) [] rfl (by decide) (by decide) (by decide)
  exact absurd spotted (by decide)

end Marlinspike.Reports.Audit
