import Mathlib.Data.Finset.Sort
import Mathlib.Data.Rat.Defs
import Mathlib.Algebra.Order.Ring.Unbundled.Rat
import Mathlib.Data.String.Basic
import Marlinspike.Grouping
import Marlinspike.Reports.Library
import Marlinspike.Capd.Supervisor

/-!
The roll-up of a project: one pass pairs IPs with MACs, a second merges the assets and
findings of all reports, each under its key, into entries that count the reports they are
in and remember the first and the last of them.
-/
namespace Marlinspike.Reports.Aggregate
open Marlinspike.Grouping
open Marlinspike.Capd.Supervisor (Path basename)

/-! ### Reports -/

structure Node where
  mac : Option String
  ip : Option String
  role : Option String
  vendor : Option String
  deviceType : Option String
  purdueLevel : Option Int
  protocols : List String
deriving DecidableEq

structure RiskFinding where
  category : Option String
  severity : Option String
  description : Option String
  remediation : Option String
  source : Option String
  affectedNodes : List String
  affectedEdges : List String
  attackIds : List String
  attackTechniques : List String
  cvssImpact : Option Rat
deriving DecidableEq

structure CaptureInfo where
  startTs : Option String
  endTs : Option String
  protocolsSeen : PyDict String Int

structure Report where
  timestampStart : Option String
  timestampEnd : Option String
  captureInfo : CaptureInfo
  nodes : List Node
  riskFindings : List RiskFinding

/-- `report_meta[path]`. -/
structure Meta where
  filename : Option String
  modified : Option String
  scanProfile : Option String

def truthy (s : Option String) : Option String := s.filter (· ≠ "")

/-- `s or t`. -/
def orElse (s : Option String) (t : String) : String := (truthy s).getD t

/-- A report that has been loaded, with what its first and last sighting is attributed to. -/
structure Loaded where
  filename : String
  modified : String
  scanProfile : String
  report : Report

/-- The loop's `loader(path)`, which gives nothing where it raises or returns no dict. -/
def loadReports (library : Library) (reportPaths : List Path) (loader : Path → Option Report)
    (reportMeta : Path → Meta) : List Loaded :=
  reportPaths.filterMap fun path => (loader path).map fun report =>
    { filename := orElse (reportMeta path).filename (String.ofList (basename path))
      modified := orElse (reportMeta path).modified (orElse report.timestampEnd "")
      scanProfile := library.lower (library.strip (orElse (reportMeta path).scanProfile ""))
      report := report }

inductive Severity where
  | critical
  | high
  | medium
  | low
  | info
deriving DecidableEq, Repr

def severities : List Severity := [.critical, .high, .medium, .low, .info]

/-- `_sev_rank`. -/
def Severity.rank : Severity → Nat
  | .critical => 0
  | .high => 1
  | .medium => 2
  | .low => 3
  | .info => 4

inductive KeyType where
  | mac
  | ip
deriving DecidableEq, Repr

section Keys
variable (library : Library)

def normSeverity (value : Option String) : Severity :=
  match library.strip (library.upper (orElse value "")) with
  | "CRITICAL" => .critical
  | "HIGH" => .high
  | "LOW" => .low
  | "INFO" => .info
  | _ => .medium

/-- A node's normalised MAC and IP, empty where it has none. -/
def Node.macKey (node : Node) : String := library.lower (library.strip (orElse node.mac ""))
def Node.ipKey (node : Node) : String := library.strip (orElse node.ip "")

/-- The first pass, at one node: the first MAC seen for an IP wins. -/
def pairMac (ipToMac : PyDict String String) (node : Node) : PyDict String String :=
  if node.macKey library ≠ "" ∧ node.ipKey library ≠ "" ∧ ipToMac.get (node.ipKey library) = none then
    ipToMac.set (node.ipKey library) (node.macKey library)
  else ipToMac

def ipToMacOf (reports : List Loaded) : PyDict String String :=
  (reports.flatMap (·.report.nodes)).foldl (pairMac library) PyDict.empty

def resolveAssetKey (ipToMac : PyDict String String) (node : Node) : Option (String × KeyType) :=
  if node.macKey library ≠ "" then some (node.macKey library, .mac)
  else if node.ipKey library ≠ "" then
    match ipToMac.get (node.ipKey library) with
    | some mapped => some (mapped, .mac)
    | none => some (node.ipKey library, .ip)
  else none

abbrev FindingKey := String × List String × List String

def findingKey (finding : RiskFinding) : FindingKey :=
  (library.upper (library.strip (orElse finding.category "")),
    finding.affectedNodes.mergeSort (fun a b => decide (a ≤ b)),
    finding.affectedEdges.mergeSort (fun a b => decide (a ≤ b)))

end Keys

/-! ### First and last seen -/

structure Attribution where
  firstSeenReport : String
  firstSeenModified : String
  lastSeenReport : String
  lastSeenModified : String
deriving DecidableEq, Repr

def Attribution.new (report : Loaded) : Attribution :=
  ⟨report.filename, report.modified, report.filename, report.modified⟩

def Attribution.extend (seen : Attribution) (report : Loaded) : Attribution :=
  let last := if report.modified > seen.lastSeenModified then
      { seen with lastSeenModified := report.modified, lastSeenReport := report.filename }
    else seen
  if report.modified ≠ "" ∧ (seen.firstSeenModified = "" ∨ report.modified < seen.firstSeenModified) then
    { last with firstSeenModified := report.modified, firstSeenReport := report.filename }
  else last

/-! ### Assets -/

structure Asset where
  key : String
  keyType : KeyType
  macs : Finset String
  ips : Finset String
  roles : Finset String
  vendors : Finset String
  deviceTypes : Finset String
  purdueLevels : Finset Int
  protocols : Finset String
  reportCount : Nat
  seen : Attribution
deriving DecidableEq

/-- A node with its key, in its report. -/
structure Sighting where
  report : Loaded
  node : Node
  key : String
  keyType : KeyType

/-- `set.add`, where there is a value. -/
def insertSome {α : Type} [DecidableEq α] (value : Option α) (values : Finset α) : Finset α :=
  value.elim values (insert · values)

section Assets
variable (library : Library)

def Asset.new (sighting : Sighting) : Asset where
  key := sighting.key
  keyType := sighting.keyType
  macs := ∅
  ips := ∅
  roles := ∅
  vendors := ∅
  deviceTypes := ∅
  purdueLevels := ∅
  protocols := ∅
  reportCount := 0
  seen := Attribution.new sighting.report

/-- What a node adds to its asset. -/
def Asset.addNode (asset : Asset) (node : Node) : Asset :=
  { asset with
    macs := insertSome ((truthy node.mac).map library.lower) asset.macs
    ips := insertSome (truthy node.ip) asset.ips
    roles := insertSome (truthy node.role) asset.roles
    vendors := insertSome (truthy node.vendor) asset.vendors
    deviceTypes := insertSome (truthy node.deviceType) asset.deviceTypes
    purdueLevels := insertSome node.purdueLevel asset.purdueLevels
    protocols := asset.protocols ∪ node.protocols.toFinset }

def assetRules : Rules String Asset Sighting where
  key := Sighting.key
  update before seenInReport sighting :=
    let asset := match before with
      | none => Asset.new sighting
      | some asset => { asset with seen := asset.seen.extend sighting.report }
    ({ asset with reportCount := asset.reportCount + if seenInReport then 0 else 1 }).addNode library sighting.node

def sightings (ipToMac : PyDict String String) (report : Loaded) : List Sighting :=
  report.report.nodes.filterMap fun node =>
    (resolveAssetKey library ipToMac node).map fun keyed => ⟨report, node, keyed.1, keyed.2⟩

/-! ### Findings -/

structure FindingEntry where
  category : String
  severity : Severity
  description : String
  remediation : String
  affectedNodes : List String
  affectedEdges : List String
  attackIds : List String
  source : String
  occurrences : Nat
  seen : Attribution
  maxCvssImpact : Rat
deriving DecidableEq

def FindingEntry.key (entry : FindingEntry) : FindingKey := (entry.category, entry.affectedNodes, entry.affectedEdges)

/-- A finding with its key and severity, in its report. -/
structure Occurrence where
  report : Loaded
  finding : RiskFinding
  key : FindingKey
  severity : Severity

def FindingEntry.new (occurrence : Occurrence) : FindingEntry where
  category := occurrence.key.1
  severity := occurrence.severity
  description := orElse occurrence.finding.description ""
  remediation := orElse occurrence.finding.remediation ""
  affectedNodes := occurrence.key.2.1
  affectedEdges := occurrence.key.2.2
  attackIds := []
  source := orElse occurrence.finding.source "engine"
  occurrences := 0
  seen := Attribution.new occurrence.report
  maxCvssImpact := occurrence.finding.cvssImpact.getD 0

def FindingEntry.merge (entry : FindingEntry) (occurrence : Occurrence) : FindingEntry :=
  let newer : Bool := occurrence.report.modified > entry.seen.lastSeenModified
  { entry with
    description := if newer then orElse occurrence.finding.description entry.description else entry.description
    remediation := if newer then orElse occurrence.finding.remediation entry.remediation else entry.remediation
    seen := entry.seen.extend occurrence.report
    severity := if occurrence.severity.rank < entry.severity.rank then occurrence.severity else entry.severity
    maxCvssImpact :=
      if occurrence.finding.cvssImpact.getD 0 > entry.maxCvssImpact then occurrence.finding.cvssImpact.getD 0
      else entry.maxCvssImpact }

/-- `attack_ids`, or else `attack_techniques`. -/
def RiskFinding.techniques (finding : RiskFinding) : List String :=
  if finding.attackIds ≠ [] then finding.attackIds else finding.attackTechniques

def addTechnique (attackIds : List String) (tid : String) : List String :=
  let tidNorm := library.upper (library.strip tid)
  if tidNorm ≠ "" ∧ tidNorm ∉ attackIds then attackIds ++ [tidNorm] else attackIds

def findingRules : Rules FindingKey FindingEntry Occurrence where
  key := Occurrence.key
  update before seenInReport occurrence :=
    let entry := match before with
      | none => FindingEntry.new occurrence
      | some entry => entry.merge occurrence
    { entry with
      occurrences := entry.occurrences + if seenInReport then 0 else 1
      attackIds := occurrence.finding.techniques.foldl (addTechnique library) entry.attackIds }

def occurrences (report : Loaded) : List Occurrence :=
  report.report.riskFindings.map fun finding =>
    ⟨report, finding, findingKey library finding, normSeverity library finding.severity⟩

/-- A finding counts under its severity the first time that its report has the key. -/
def addOccurrence (state : Groups FindingKey FindingEntry × (Severity → Nat)) (occurrence : Occurrence) :
    Groups FindingKey FindingEntry × (Severity → Nat) :=
  (add (findingRules library) state.1 occurrence,
    if occurrence.key ∈ state.1.seen then state.2
    else fun severity => state.2 severity + if severity = occurrence.severity then 1 else 0)

/-! ### Protocols -/

structure ProtocolEntry where
  reportCount : Nat
  packetCount : Int
deriving DecidableEq, Repr

def protocolRules : Rules String ProtocolEntry (String × Int) where
  key := Prod.fst
  update before seenInReport proto :=
    let entry := before.getD ⟨0, 0⟩
    ⟨entry.reportCount + if seenInReport then 0 else 1, entry.packetCount + proto.2⟩

def protocolsOf (report : Loaded) : List (String × Int) :=
  (report.report.captureInfo.protocolsSeen.items.map fun proto => (library.strip proto.1, proto.2)).filter (·.1 ≠ "")

/-! ### `aggregate_reports` -/

structure RollUp where
  assets : PyDict String Asset
  findings : PyDict FindingKey FindingEntry
  protocols : PyDict String ProtocolEntry
  severityCounts : Severity → Nat
  scanProfiles : PyDict String Nat
  captureStarts : List String
  captureEnds : List String
  reportTimestamps : List String
  reportCount : Nat

def RollUp.empty : RollUp :=
  ⟨PyDict.empty, PyDict.empty, PyDict.empty, fun _ => 0, PyDict.empty, [], [], [], 0⟩

/-- A list with a timestamp more, if there is one. -/
def appendSome (timestamps : List String) (timestamp : Option String) : List String :=
  timestamps ++ (truthy timestamp).toList

def addReport (ipToMac : PyDict String String) (r : RollUp) (report : Loaded) : RollUp :=
  let found := (occurrences library report).foldl (addOccurrence library) (⟨r.findings, []⟩, r.severityCounts)
  { assets := addBatch (assetRules library) r.assets (sightings library ipToMac report)
    findings := found.1.dict
    protocols := addBatch protocolRules r.protocols (protocolsOf library report)
    severityCounts := found.2
    scanProfiles :=
      if report.scanProfile ≠ "" then
        r.scanProfiles.set report.scanProfile ((r.scanProfiles.get report.scanProfile).getD 0 + 1)
      else r.scanProfiles
    captureStarts := appendSome r.captureStarts report.report.captureInfo.startTs
    captureEnds := appendSome r.captureEnds report.report.captureInfo.endTs
    reportTimestamps := appendSome r.reportTimestamps report.report.timestampStart
    reportCount := r.reportCount + 1 }

def rollUp (reports : List Loaded) : RollUp :=
  reports.foldl (addReport library (ipToMacOf library reports)) RollUp.empty

end Assets

structure AssetDict where
  key : String
  keyType : KeyType
  macs : List String
  ips : List String
  roles : List String
  vendors : List String
  deviceTypes : List String
  purdueLevel : Option Int
  purdueLevels : List Int
  protocols : List String
  reportCount : Nat
  seen : Attribution
deriving DecidableEq

/-- `_asset_to_dict`. -/
def Asset.toDict (asset : Asset) : AssetDict where
  key := asset.key
  keyType := asset.keyType
  macs := asset.macs.sort
  ips := asset.ips.sort
  roles := asset.roles.sort
  vendors := asset.vendors.sort
  deviceTypes := asset.deviceTypes.sort
  purdueLevel := asset.purdueLevels.sort.head?
  purdueLevels := asset.purdueLevels.sort
  protocols := asset.protocols.sort
  reportCount := asset.reportCount
  seen := asset.seen

/-- The assets' order: Purdue level, then most reports, then key. -/
def AssetDict.le (a b : AssetDict) : Bool :=
  let level (asset : AssetDict) : Int := asset.purdueLevel.getD 99
  level a < level b ∨ level a = level b ∧
    (a.reportCount > b.reportCount ∨ a.reportCount = b.reportCount ∧ a.key ≤ b.key)

/-- The findings' order: severity, then most occurrences, then category. -/
def FindingEntry.le (a b : FindingEntry) : Bool :=
  a.severity.rank < b.severity.rank ∨ a.severity.rank = b.severity.rank ∧
    (a.occurrences > b.occurrences ∨ a.occurrences = b.occurrences ∧ a.category ≤ b.category)

structure Protocol where
  name : String
  reportCount : Nat
  packetCount : Int
deriving DecidableEq, Repr

def Protocol.le (a b : Protocol) : Bool :=
  a.reportCount > b.reportCount ∨ a.reportCount = b.reportCount ∧
    (a.packetCount > b.packetCount ∨ a.packetCount = b.packetCount ∧ a.name ≤ b.name)

structure Technique where
  id : String
  reportCount : Nat
  categories : List String
deriving DecidableEq, Repr

def Technique.le (a b : Technique) : Bool :=
  a.reportCount > b.reportCount ∨ a.reportCount = b.reportCount ∧ a.id ≤ b.id

/-- One technique of one finding, in `attack_index`. -/
def indexTechnique (entry : FindingEntry) (index : PyDict String Technique) (tid : String) : PyDict String Technique :=
  let technique := (index.get tid).getD ⟨tid, 0, []⟩
  index.set tid
    { technique with
      reportCount := technique.reportCount + entry.occurrences
      categories :=
        if entry.category ∈ technique.categories then technique.categories else technique.categories ++ [entry.category] }

def attackIndex (findings : List FindingEntry) : PyDict String Technique :=
  findings.foldl (fun index entry => entry.attackIds.foldl (indexTechnique entry) index) PyDict.empty

structure Window where
  earliestReport : Option String
  latestReport : Option String
  earliestCapture : Option String
  latestCapture : Option String
deriving DecidableEq, Repr

structure Totals where
  assets : Nat
  findings : Nat
  findingOccurrences : Nat
  protocols : Nat
  attackTechniques : Nat
deriving DecidableEq, Repr

structure Document where
  reportCount : Nat
  totals : Totals
  severityCounts : Severity → Nat
  window : Window
  scanProfiles : PyDict String Nat
  assets : List AssetDict
  findings : List FindingEntry
  protocols : List Protocol
  attackCoverage : List Technique

/-- The document made of a roll-up. -/
def RollUp.toDocument (r : RollUp) : Document :=
  let assets := (r.assets.items.map fun item => item.2.toDict).mergeSort AssetDict.le
  let findings := (r.findings.items.map Prod.snd).mergeSort FindingEntry.le
  let protocols := (r.protocols.items.map fun item => ⟨item.1, item.2.reportCount, item.2.packetCount⟩).mergeSort Protocol.le
  let index := attackIndex findings
  { reportCount := r.reportCount
    totals := ⟨assets.length, findings.length, (findings.map (·.occurrences)).sum, protocols.length, index.items.length⟩
    severityCounts := r.severityCounts
    window := ⟨r.reportTimestamps.min?, r.reportTimestamps.max?, r.captureStarts.min?, r.captureEnds.max?⟩
    scanProfiles := r.scanProfiles
    assets := assets
    findings := findings
    protocols := protocols
    attackCoverage := (index.items.map Prod.snd).mergeSort Technique.le }

def aggregateReports (library : Library) (reportPaths : List Path) (loader : Path → Option Report)
    (reportMeta : Path → Meta) : Document :=
  (rollUp library (loadReports library reportPaths loader reportMeta)).toDocument

end Marlinspike.Reports.Aggregate
