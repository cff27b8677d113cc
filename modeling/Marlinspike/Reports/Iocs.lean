import Mathlib.Algebra.Order.BigOperators.Group.List
import Mathlib.Data.List.DropRight
import Mathlib.Data.List.Infix
import Mathlib.Tactic.SplitIfs
import Marlinspike.Reports.Library
import Marlinspike.Capd.Supervisor

/-!
The IOC scan of a project's reports. Two caps cut it short, and only the one on the
whole scan sets `truncated`: what an unflagged scan returns is complete exactly when no
report has more matches than the cap on one report (`scan_complete_iff`).
-/
namespace Marlinspike.Reports.Iocs
open Marlinspike.Capd.Supervisor (Path basename)

def maxHitsTotal : Nat := 1000
def maxHitsPerReport : Nat := 50

abbrev Object := PyDict String Json

structure Report where
  nodes : List Object
  conversations : List Object
  c2Indicators : List Object
  riskFindings : List Object
  malwareFindings : List Object

structure IocEntry where
  id : Option Nat
  iocType : String
  value : String
  label : Option String
  severity : Option String
deriving DecidableEq, Repr

structure Match where
  location : String
  context : String
deriving DecidableEq, Repr

/-- `{"ioc": …, "matches": …}`. -/
structure EntryHit where
  ioc : IocEntry
  found : List Match
deriving DecidableEq, Repr

structure Hit where
  report : Path
  ioc : IocEntry
  found : List Match
deriving DecidableEq, Repr

/-! ### What matches an entry -/

section Locations
variable (library : Library)

def normMac (v : String) : String := library.lower (v.map fun c => if c = '-' then ':' else c)

def normIp (v : String) : String := (library.ipAddress v).getD (library.lower v)

def normValue (iocType value : String) : String :=
  if iocType = "ip" then normIp library value
  else if iocType = "mac" ∨ iocType = "oui" then normMac library value
  else library.lower value

/-- `str(obj.get(field) or "")`. -/
def text (object : Object) (field : String) : String :=
  match (object.get field).filter Json.truthy with
  | none => ""
  | some (.str s) => s
  | some v => library.str v

mutual
/-- `_iter_strings`. -/
def iterStrings : Json → List String
  | .str s => [s]
  | .arr items => iterItems items
  | .obj items => iterFields items
  | _ => []
def iterItems : List Json → List String
  | [] => []
  | item :: rest => iterStrings item ++ iterItems rest
def iterFields : List (String × Json) → List String
  | [] => []
  | (_, v) :: rest => iterStrings v ++ iterFields rest
end

/-- The fields of the objects whose normalised text passes the test. -/
def fieldMatches (prefix_ suffix_ : String) (fields : List String) (norm : String → String) (test : String → Bool)
    (objects : List Object) : List Match :=
  objects.flatMap fun object => fields.filterMap fun field =>
    let v := norm (text library object field)
    if test v then some ⟨prefix_ ++ field ++ suffix_, v⟩ else none

def ipMatches (report : Report) (norm : String) : List Match :=
  fieldMatches library "node." "" ["ip"] (normIp library) (· = norm) report.nodes ++
    fieldMatches library "conversation." "" ["src_ip", "dst_ip"] (normIp library) (· = norm) report.conversations ++
    fieldMatches library "c2_indicator." "" ["dst", "src"] (normIp library) (· = norm) report.c2Indicators ++
    report.riskFindings.flatMap fun rf =>
      (((rf.get "affected_nodes").filter Json.truthy).elim [] iterStrings).filterMap fun val =>
        if normIp library val = norm then some ⟨"risk_finding.affected_nodes", val⟩ else none

def macMatches (report : Report) (norm : String) : List Match :=
  fieldMatches library "node." "" ["mac"] (normMac library) (· = norm) report.nodes ++
    fieldMatches library "conversation." "" ["src_mac", "dst_mac"] (normMac library) (· = norm) report.conversations ++
    fieldMatches library "c2_indicator." "" ["dst_mac", "src_mac"] (normMac library) (· = norm) report.c2Indicators

/-- The first three octets of a MAC. -/
def ouiMatches (report : Report) (norm : String) : List Match :=
  let test (mac : String) : Bool := mac.toList.take 8 = norm.toList
  fieldMatches library "node." " (oui)" ["mac"] (normMac library) test report.nodes ++
    fieldMatches library "conversation." " (oui)" ["src_mac", "dst_mac"] (normMac library) test report.conversations

/-- The base domain itself, or a name under it. -/
def domainMatches (norm candidate : String) : Bool :=
  let base := match norm.toList with
    | '*' :: '.' :: base => base
    | base => base
  let c := (library.strip (library.lower candidate)).toList.rdropWhile (· = '.')
  base ≠ [] ∧ (c = base ∨ ('.' :: base) <:+ c)

/-- The matches of one DNS query: of an object, its first string that matches. -/
def queryMatches (norm : String) : Json → List Match
  | .str q => if domainMatches library norm q then [⟨"conversation.dns_queries", q⟩] else []
  | .obj items =>
    (((iterFields items).find? (domainMatches library norm)).map (Match.mk "conversation.dns_queries")).toList
  | _ => []

def dnsQueries (conv : Object) : List Json :=
  match conv.get "dns_queries" with
  | some (.arr queries) => queries
  | _ => []

/-- Every call of `_record` for an entry, in order. -/
def locations (report : Report) (entry : IocEntry) : List Match :=
  let norm := normValue library entry.iocType entry.value
  if entry.iocType = "ip" then ipMatches library report norm
  else if entry.iocType = "mac" then macMatches library report norm
  else if entry.iocType = "oui" then ouiMatches library report norm
  else if entry.iocType = "domain" then
    report.conversations.flatMap fun conv => (dnsQueries conv).flatMap (queryMatches library norm)
  else if entry.iocType = "sha256" then
    fieldMatches library "malware_finding." "" ["sha256"] library.lower (· = norm) report.malwareFindings
  else if entry.iocType = "md5" then
    fieldMatches library "malware_finding." "" ["md5"] library.lower (· = norm) report.malwareFindings
  else []

/-! ### `_scan_report` -/

/-- `_record`: the matches of the entry, and the hits of the report. -/
def record (state : List Match × Nat) (found : Match) : List Match × Nat :=
  if state.2 < maxHitsPerReport then (state.1 ++ [found], state.2 + 1) else state

/-- The loop over the entries, from a hit count on. -/
def scanEntries (report : Report) : Nat → List IocEntry → List EntryHit
  | _, [] => []
  | hitCount, entry :: rest =>
    if hitCount ≥ maxHitsPerReport then []
    else
      let recorded := (locations library report entry).foldl record ([], hitCount)
      if recorded.1 = [] then scanEntries report recorded.2 rest
      else ⟨entry, recorded.1⟩ :: scanEntries report recorded.2 rest

def scanReport (report : Report) (entries : List IocEntry) : List EntryHit := scanEntries library report 0 entries

/-! ### `scan_ioc_list_against_reports` -/

structure Scan where
  hits : List Hit
  truncated : Bool
  scanned : Nat
deriving DecidableEq, Repr

/-- The loop over a report's hits. -/
def takeHits (filename : Path) : List EntryHit → Scan → Scan
  | [], scan => scan
  | entryHit :: rest, scan =>
    if scan.hits.length ≥ maxHitsTotal then { scan with truncated := true }
    else takeHits filename rest { scan with hits := scan.hits ++ [⟨filename, entryHit.ioc, entryHit.found⟩] }

/-- The loop over the paths. The loader gives nothing where it raises, or returns no dict. -/
def scanPaths (loader : Path → Option Report) (entries : List IocEntry) : List Path → Scan → Scan
  | [], scan => scan
  | path :: rest, scan =>
    if scan.hits.length ≥ maxHitsTotal then { scan with truncated := true }
    else
      match loader path with
      | none => scanPaths loader entries rest scan
      | some report =>
        scanPaths loader entries rest
          (takeHits (basename path) (scanReport library report entries) { scan with scanned := scan.scanned + 1 })

structure Result where
  scannedReports : Nat
  hits : List Hit
  totalHits : Nat
  bySeverity : PyDict String Nat
  byIocType : PyDict String Nat
  truncated : Bool

/-- A sum of matches under each hit's key. -/
def tally (key : Hit → String) (hits : List Hit) : PyDict String Nat :=
  hits.foldl (fun sums hit => sums.set (key hit) ((sums.get (key hit)).getD 0 + hit.found.length)) PyDict.empty

def scanIocListAgainstReports (entries : List IocEntry) (reportPaths : List Path) (loader : Path → Option Report) :
    Result :=
  let scan := scanPaths library loader entries reportPaths ⟨[], false, 0⟩
  { scannedReports := scan.scanned
    hits := scan.hits
    totalHits := (scan.hits.map (·.found.length)).sum
    bySeverity := tally (fun hit => library.lower ((hit.ioc.severity.filter (· ≠ "")).getD "unknown")) scan.hits
    byIocType := tally (·.ioc.iocType) scan.hits
    truncated := scan.truncated }

end Locations

/-! ### One report -/

section Report
variable {library : Library} {report : Report}

/-- Every match of an entry, uncapped, as its hit. -/
def fullHit (library : Library) (report : Report) (entry : IocEntry) : Option EntryHit :=
  if locations library report entry = [] then none else some ⟨entry, locations library report entry⟩

/-- What `_scan_report` would return without its caps. -/
def fullHits (library : Library) (report : Report) (entries : List IocEntry) : List EntryHit :=
  entries.filterMap (fullHit library report)

/-- The matches of all entries in a report. -/
def matchCount (library : Library) (report : Report) (entries : List IocEntry) : Nat :=
  (entries.map fun entry => (locations library report entry).length).sum

/-- The entries with a match among a report's first matches, when some have been counted before. -/
def shown (library : Library) (report : Report) : Nat → List IocEntry → Nat
  | _, [] => 0
  | before, entry :: rest =>
    let count := (locations library report entry).length
    (if before < maxHitsPerReport ∧ 0 < count then 1 else 0) + shown library report (before + count) rest

def foundCount (hits : List EntryHit) : Nat := (hits.map (·.found.length)).sum

theorem foldl_record (found : List Match) (n : Nat) (calls : List Match) (within : n ≤ maxHitsPerReport) :
    calls.foldl record (found, n) =
      (found ++ calls.take (maxHitsPerReport - n), min (n + calls.length) maxHitsPerReport) := by
  induction calls generalizing found n with
  | nil => simp [within]
  | cons call rest ih =>
    rw [List.foldl_cons]
    by_cases room : n < maxHitsPerReport
    · have step : record (found, n) call = (found ++ [call], n + 1) := if_pos room
      have left : maxHitsPerReport - n = (maxHitsPerReport - (n + 1)) + 1 := by omega
      rw [step, ih _ _ room, left, List.take_succ_cons]
      simp [Nat.add_assoc, Nat.add_comm 1]
    · have step : record (found, n) call = (found, n) := if_neg room
      have full : n = maxHitsPerReport := by omega
      rw [step, ih _ _ within]
      simp [full]

theorem scanEntries_full (entries : List IocEntry) : scanEntries library report maxHitsPerReport entries = [] := by
  cases entries with
  | nil => rfl
  | cons entry rest => exact if_pos le_rfl

/-- One round of the loop, below the cap. -/
theorem scanEntries_cons {n : Nat} (entry : IocEntry) (rest : List IocEntry) (room : n < maxHitsPerReport) :
    scanEntries library report n (entry :: rest) =
      (if locations library report entry = [] then []
        else [⟨entry, (locations library report entry).take (maxHitsPerReport - n)⟩]) ++
      scanEntries library report (min (n + (locations library report entry).length) maxHitsPerReport) rest := by
  rw [scanEntries, if_neg (not_le.mpr room)]
  simp only [foldl_record [] n _ room.le, List.nil_append]
  by_cases none_ : locations library report entry = []
  · simp [none_]
  · have some_ : (locations library report entry).take (maxHitsPerReport - n) ≠ [] := by
      simp [List.take_eq_nil_iff, none_]
      omega
    rw [if_neg some_, if_neg none_]
    rfl

theorem foundCount_append (first second : List EntryHit) :
    foundCount (first ++ second) = foundCount first + foundCount second := by
  simp [foundCount]

variable (library report) in
/-- The matches that the loop returns. -/
theorem foundCount_scanEntries (n : Nat) (entries : List IocEntry) (within : n ≤ maxHitsPerReport) :
    foundCount (scanEntries library report n entries) =
      min (matchCount library report entries) (maxHitsPerReport - n) := by
  induction entries generalizing n with
  | nil => simp [scanEntries, foundCount, matchCount]
  | cons entry rest ih =>
    by_cases room : n < maxHitsPerReport
    · have own : foundCount (if locations library report entry = [] then []
          else [⟨entry, (locations library report entry).take (maxHitsPerReport - n)⟩]) =
          min (locations library report entry).length (maxHitsPerReport - n) := by
        split_ifs with none_
        · simp [foundCount, none_]
        · simp [foundCount, Nat.min_comm]
      rw [scanEntries_cons entry rest room, foundCount_append, own, ih _ (Nat.min_le_right _ _)]
      simp only [matchCount, List.map_cons, List.sum_cons]
      omega
    · have full : n = maxHitsPerReport := by omega
      subst full
      rw [scanEntries_full]
      simp [foundCount]

/-- As many entries as are shown. -/
theorem length_scanEntries (before : Nat) (entries : List IocEntry) :
    (scanEntries library report (min before maxHitsPerReport) entries).length = shown library report before entries := by
  induction entries generalizing before with
  | nil => rfl
  | cons entry rest ih =>
    by_cases room : before < maxHitsPerReport
    · have same : min before maxHitsPerReport = before := by omega
      rw [same, scanEntries_cons entry rest room, List.length_append, ih, shown]
      congr 1
      by_cases none_ : locations library report entry = []
      · simp [none_]
      · simp [none_, room, List.length_pos_iff]
    · have full : min before maxHitsPerReport = maxHitsPerReport := by omega
      have later : min (before + (locations library report entry).length) maxHitsPerReport = maxHitsPerReport := by omega
      have tail := ih (before + (locations library report entry).length)
      rw [later, scanEntries_full] at tail
      rw [full, scanEntries_full, shown, ← tail]
      simp [room]

theorem fullHits_of_none {entries : List IocEntry} (none_ : matchCount library report entries = 0) :
    fullHits library report entries = [] := by
  rw [fullHits, List.filterMap_eq_nil_iff]
  intro entry member
  have empty : (locations library report entry).length = 0 :=
    List.sum_eq_zero_iff_forall_eq_nat.mp none_ _ (List.mem_map_of_mem member)
  simp [fullHit, List.length_eq_zero_iff.mp empty]

/-- Within the cap nothing is cut. -/
theorem scanEntries_within (n : Nat) (entries : List IocEntry)
    (within : n + matchCount library report entries ≤ maxHitsPerReport) :
    scanEntries library report n entries = fullHits library report entries := by
  induction entries generalizing n with
  | nil => rfl
  | cons entry rest ih =>
    have count : matchCount library report (entry :: rest) =
        (locations library report entry).length + matchCount library report rest := by
      simp [matchCount]
    by_cases room : n < maxHitsPerReport
    · have next : min (n + (locations library report entry).length) maxHitsPerReport =
          n + (locations library report entry).length := by omega
      rw [scanEntries_cons entry rest room, next, ih _ (by omega)]
      by_cases none_ : locations library report entry = []
      · simp [fullHits, fullHit, none_]
      · have all : (locations library report entry).take (maxHitsPerReport - n) = locations library report entry :=
          List.take_of_length_le (by omega)
        simp [fullHits, fullHit, none_, all]
    · have full : n = maxHitsPerReport := by omega
      rw [full, scanEntries_full, fullHits_of_none (by omega)]

/-- Every hit of a report has matches of its entry, from the first on. -/
theorem mem_scanEntries {n : Nat} {entries : List IocEntry} {hit : EntryHit}
    (member : hit ∈ scanEntries library report n entries) :
    hit.ioc ∈ entries ∧ hit.found ≠ [] ∧ hit.found <+: locations library report hit.ioc := by
  induction entries generalizing n with
  | nil => simp [scanEntries] at member
  | cons entry rest ih =>
    by_cases room : n < maxHitsPerReport
    · rw [scanEntries_cons entry rest room, List.mem_append] at member
      rcases member with own | later
      · split_ifs at own with none_
        · simp at own
        · obtain rfl := List.mem_singleton.mp own
          refine ⟨List.mem_cons_self, ?_, List.take_prefix _ _⟩
          simp [List.take_eq_nil_iff, none_]
          omega
      · obtain ⟨present, some_, genuine⟩ := ih later
        exact ⟨List.mem_cons_of_mem _ present, some_, genuine⟩
    · rw [scanEntries, if_pos (not_lt.mp room)] at member
      simp at member

end Report

/-! ### The whole scan -/

section Scan
variable {library : Library} {loader : Path → Option Report} {entries : List IocEntry}

def hitsOf (filename : Path) (hits : List EntryHit) : List Hit := hits.map fun hit => ⟨filename, hit.ioc, hit.found⟩

/-- The hits of a path's report, as the loop over the entries returns them, and uncapped. -/
def pathHits (library : Library) (loader : Path → Option Report) (entries : List IocEntry) (path : Path) : List Hit :=
  (loader path).elim [] fun report => hitsOf (basename path) (scanReport library report entries)

def fullPathHits (library : Library) (loader : Path → Option Report) (entries : List IocEntry) (path : Path) : List Hit :=
  (loader path).elim [] fun report => hitsOf (basename path) (fullHits library report entries)

/-- The entries shown of a path's report. -/
def pathShown (library : Library) (loader : Path → Option Report) (entries : List IocEntry) (path : Path) : Nat :=
  (loader path).elim 0 fun report => shown library report 0 entries

theorem length_pathHits (path : Path) :
    (pathHits library loader entries path).length = pathShown library loader entries path := by
  unfold pathHits pathShown
  cases loader path with
  | none => rfl
  | some report =>
    simp only [Option.elim_some, hitsOf, List.length_map]
    exact length_scanEntries 0 entries

/-- The loop over a report's hits takes them all, or fills up and sets the flag. -/
theorem takeHits_spec (filename : Path) (hits : List EntryHit) (scan : Scan) (within : scan.hits.length ≤ maxHitsTotal) :
    takeHits filename hits scan =
      { hits := (scan.hits ++ hitsOf filename hits).take maxHitsTotal
        truncated := scan.truncated || decide (maxHitsTotal < scan.hits.length + hits.length)
        scanned := scan.scanned } := by
  induction hits generalizing scan with
  | nil => simp [takeHits, hitsOf, List.take_of_length_le within, not_lt.mpr within]
  | cons hit rest ih =>
    rw [takeHits]
    by_cases full : scan.hits.length ≥ maxHitsTotal
    · have exact_ : scan.hits.length = maxHitsTotal := by omega
      rw [if_pos full, List.take_append, List.take_of_length_le within, exact_]
      simp
    · rw [if_neg full, ih _ (by simp; omega)]
      simp [hitsOf, Nat.add_comm, Nat.add_left_comm]

/-- The scan stops with its flag set. -/
def Overflows : Nat → List Nat → Prop
  | _, [] => False
  | n, count :: rest => maxHitsTotal ≤ n ∨ maxHitsTotal < n + count ∨ Overflows (n + count) rest

theorem overflows_iff (n : Nat) (counts : List Nat) : Overflows n counts ↔
    counts ≠ [] ∧ (maxHitsTotal < n + counts.sum ∨ maxHitsTotal ≤ n + counts.dropLast.sum) := by
  induction counts generalizing n with
  | nil => simp [Overflows]
  | cons count rest ih =>
    rw [Overflows, ih]
    cases rest with
    | nil => simp; omega
    | cons next rest =>
      simp only [List.sum_cons, List.dropLast_cons_cons, ne_eq, reduceCtorEq, not_false_eq_true, true_and]
      omega

variable (library loader entries) in
theorem truncated_scanPaths_of (paths : List Path) (scan : Scan) (truncated : scan.truncated = true)
    (full : scan.hits.length = maxHitsTotal) : (scanPaths library loader entries paths scan).truncated = true := by
  cases paths with
  | nil => exact truncated
  | cons path rest =>
    rw [scanPaths, if_pos full.ge]

variable (library loader entries) in
/-- The loop over the paths sets the flag exactly when the hits do not fit, and otherwise
    has taken them all. -/
theorem scanPaths_spec (paths : List Path) (scan : Scan) (within : scan.hits.length ≤ maxHitsTotal)
    (clear : scan.truncated = false) :
    ((scanPaths library loader entries paths scan).truncated = true ↔
      Overflows scan.hits.length (paths.map (pathShown library loader entries))) ∧
    ((scanPaths library loader entries paths scan).truncated = false →
      (scanPaths library loader entries paths scan).hits =
        scan.hits ++ paths.flatMap (pathHits library loader entries)) := by
  induction paths generalizing scan with
  | nil => simp [scanPaths, clear, Overflows]
  | cons path rest ih =>
    rw [scanPaths, List.map_cons, Overflows]
    by_cases full : scan.hits.length ≥ maxHitsTotal
    · rw [if_pos full]
      exact ⟨iff_of_true rfl (.inl full), nofun⟩
    · rw [if_neg full]
      cases loaded : loader path with
      | none =>
        have none_ : pathShown library loader entries path = 0 := by simp [pathShown, loaded]
        have noHits : pathHits library loader entries path = [] := by simp [pathHits, loaded]
        obtain ⟨flag, taken⟩ := ih scan within clear
        simp only [none_, Nat.add_zero, full, not_lt.mpr within, false_or, List.flatMap_cons, noHits, List.nil_append]
        exact ⟨flag, taken⟩
      | some report =>
        have count : (scanReport library report entries).length = pathShown library loader entries path := by
          simp [pathShown, loaded, scanReport, ← length_scanEntries]
        have hits : hitsOf (basename path) (scanReport library report entries) =
            pathHits library loader entries path := by simp [pathHits, loaded]
        simp only
        have taken := takeHits_spec (basename path) (scanReport library report entries)
          { scan with scanned := scan.scanned + 1 } within
        simp only [taken, hits, count]
        by_cases fits : scan.hits.length + pathShown library loader entries path ≤ maxHitsTotal
        · have all : (scan.hits ++ pathHits library loader entries path).take maxHitsTotal =
              scan.hits ++ pathHits library loader entries path :=
            List.take_of_length_le (by rw [List.length_append, length_pathHits]; exact fits)
          rw [all]
          have next := ih ⟨scan.hits ++ pathHits library loader entries path, false, scan.scanned + 1⟩
            (by simpa [length_pathHits] using fits) rfl
          simp only [List.length_append, length_pathHits] at next
          simp only [clear, not_lt.mpr fits, full, decide_false, Bool.or_self, false_or, List.flatMap_cons,
            ← List.append_assoc]
          exact next
        · have more : maxHitsTotal < scan.hits.length + pathShown library loader entries path := not_le.mp fits
          have stopped := truncated_scanPaths_of library loader entries rest
            ⟨(scan.hits ++ pathHits library loader entries path).take maxHitsTotal,
              scan.truncated || decide (maxHitsTotal < scan.hits.length + pathShown library loader entries path),
              scan.scanned + 1⟩ (by simp [more]) (by simp [length_pathHits]; omega)
          rw [stopped]
          exact ⟨iff_of_true rfl (.inr (.inl more)), nofun⟩

/-- A hit of the scan is a hit of one of its reports. -/
theorem mem_hits_scanPaths {paths : List Path} {scan : Scan} (within : scan.hits.length ≤ maxHitsTotal) {hit : Hit}
    (member : hit ∈ (scanPaths library loader entries paths scan).hits) :
    hit ∈ scan.hits ∨ ∃ path ∈ paths, hit ∈ pathHits library loader entries path := by
  induction paths generalizing scan with
  | nil => exact .inl member
  | cons path rest ih =>
    rw [scanPaths] at member
    split_ifs at member with full
    · exact .inl member
    · cases loaded : loader path with
      | none =>
        rw [loaded] at member
        exact (ih within member).imp_right fun ⟨other, present, found⟩ => ⟨other, List.mem_cons_of_mem _ present, found⟩
      | some report =>
        have hits : hitsOf (basename path) (scanReport library report entries) =
            pathHits library loader entries path := by simp [pathHits, loaded]
        have taken := takeHits_spec (basename path) (scanReport library report entries)
          { scan with scanned := scan.scanned + 1 } within
        rw [loaded] at member
        simp only [taken, hits] at member
        rcases ih (by simp) member with before | ⟨other, present, found⟩
        · rcases List.mem_append.mp (List.mem_of_mem_take before) with before | own
          · exact .inl before
          · exact .inr ⟨path, List.mem_cons_self, own⟩
        · exact .inr ⟨other, List.mem_cons_of_mem _ present, found⟩

end Scan

/-! ### What an unflagged scan has left out -/

/-- A hit of a loadable report, with matches of one of the entries there. -/
def Genuine (library : Library) (entries : List IocEntry) (reportPaths : List Path) (loader : Path → Option Report)
    (hit : Hit) : Prop :=
  ∃ path ∈ reportPaths, ∃ report, loader path = some report ∧ hit.report = basename path ∧ hit.ioc ∈ entries ∧
    hit.found ≠ [] ∧ hit.found <+: locations library report hit.ioc

/-- An unflagged result has every match of every entry in every loadable report, and every
    hit is genuine. -/
def Trustworthy (library : Library) (entries : List IocEntry) (reportPaths : List Path)
    (loader : Path → Option Report) : Prop :=
  let result := scanIocListAgainstReports library entries reportPaths loader
  (result.truncated = false → result.hits = reportPaths.flatMap (fullPathHits library loader entries)) ∧
    ∀ hit ∈ result.hits, Genuine library entries reportPaths loader hit

/-- No loadable report has more matches than the cap on one report, or the entries shown of
    all reports do not fit the cap on the scan. -/
def WithinCaps (library : Library) (entries : List IocEntry) (reportPaths : List Path)
    (loader : Path → Option Report) : Prop :=
  (∀ path ∈ reportPaths, ∀ report, loader path = some report →
    matchCount library report entries ≤ maxHitsPerReport) ∨
  maxHitsTotal < (reportPaths.map (pathShown library loader entries)).sum ∨
  maxHitsTotal ≤ (reportPaths.dropLast.map (pathShown library loader entries)).sum

section Complete
variable (library : Library) (entries : List IocEntry) (reportPaths : List Path) (loader : Path → Option Report)

def pathMatches (path : Path) : Nat := (loader path).elim 0 fun report => matchCount library report entries

theorem genuine_of_mem {hit : Hit} (member : hit ∈ (scanIocListAgainstReports library entries reportPaths loader).hits) :
    Genuine library entries reportPaths loader hit := by
  rcases mem_hits_scanPaths (Nat.zero_le _) member with none_ | ⟨path, present, found⟩
  · simp at none_
  · cases loaded : loader path with
    | none => simp [pathHits, loaded] at found
    | some report =>
      simp only [pathHits, loaded, Option.elim_some, hitsOf, List.mem_map] at found
      obtain ⟨entryHit, own, rfl⟩ := found
      obtain ⟨entry, some_, genuine⟩ := mem_scanEntries own
      exact ⟨path, present, report, loaded, rfl, entry, some_, genuine⟩

theorem truncated_iff : (scanIocListAgainstReports library entries reportPaths loader).truncated = true ↔
    maxHitsTotal < (reportPaths.map (pathShown library loader entries)).sum ∨
      maxHitsTotal ≤ (reportPaths.dropLast.map (pathShown library loader entries)).sum := by
  have flag := (scanPaths_spec library loader entries reportPaths ⟨[], false, 0⟩
    (Nat.zero_le _) rfl).1
  refine flag.trans ((overflows_iff _ _).trans ?_)
  rw [List.map_dropLast]
  cases reportPaths with
  | nil => simp [maxHitsTotal]
  | cons path rest => simp

theorem found_flatMap (hits : Path → List Hit) (paths : List Path) :
    ((paths.flatMap hits).map (·.found.length)).sum =
      (paths.map fun path => ((hits path).map (·.found.length)).sum).sum := by
  induction paths with
  | nil => rfl
  | cons path rest ih => simp [ih]

/-- The matches of a path's hits, capped and uncapped. -/
theorem found_pathHits (path : Path) : ((pathHits library loader entries path).map (·.found.length)).sum =
    min (pathMatches library entries loader path) maxHitsPerReport := by
  unfold pathHits pathMatches
  cases loader path with
  | none => rfl
  | some report =>
    simpa [hitsOf, foundCount, scanReport, Function.comp_def] using
      foundCount_scanEntries library report 0 entries (Nat.zero_le _)

theorem found_fullPathHits (path : Path) : ((fullPathHits library loader entries path).map (·.found.length)).sum =
    pathMatches library entries loader path := by
  unfold fullPathHits pathMatches
  cases loader path with
  | none => rfl
  | some report =>
    simp only [Option.elim_some, hitsOf, List.map_map, Function.comp_def]
    induction entries with
    | nil => rfl
    | cons entry rest ih =>
      rw [fullHits] at ih ⊢
      simp only [matchCount, List.map_cons, List.sum_cons] at ih ⊢
      by_cases none_ : locations library report entry = []
      · simp [fullHit, none_, ih]
      · simp [fullHit, none_, ih]

theorem pathHits_full {path : Path} (within : pathMatches library entries loader path ≤ maxHitsPerReport) :
    pathHits library loader entries path = fullPathHits library loader entries path := by
  unfold pathHits fullPathHits
  unfold pathMatches at within
  cases loaded : loader path with
  | none => rfl
  | some report =>
    rw [loaded] at within
    simp only [Option.elim_some, scanReport]
    rw [scanEntries_within 0 entries (by simpa using within)]

/-- Where the hits of all paths are complete, no path has been cut. -/
theorem within_of_complete {paths : List Path}
    (complete : paths.flatMap (pathHits library loader entries) = paths.flatMap (fullPathHits library loader entries)) :
    ∀ path ∈ paths, pathMatches library entries loader path ≤ maxHitsPerReport := by
  have capped : (paths.map fun path => min (pathMatches library entries loader path) maxHitsPerReport).sum =
      (paths.map (pathMatches library entries loader)).sum := by
    have counted := congrArg (fun hits : List Hit => (hits.map (·.found.length)).sum) complete
    simpa only [found_flatMap, found_pathHits, found_fullPathHits] using counted
  clear complete
  induction paths with
  | nil => simp
  | cons path rest ih =>
    have less : (rest.map fun path => min (pathMatches library entries loader path) maxHitsPerReport).sum ≤
        (rest.map (pathMatches library entries loader)).sum :=
      List.sum_le_sum fun path _ => Nat.min_le_left _ _
    simp only [List.map_cons, List.sum_cons] at capped
    intro other member
    rcases List.mem_cons.mp member with rfl | later
    · omega
    · exact ih (by omega) other later

/-- A scan is to be trusted exactly within its caps. -/
theorem scan_complete_iff : Trustworthy library entries reportPaths loader ↔
    WithinCaps library entries reportPaths loader := by
  have counts (path : Path) : (∀ report, loader path = some report →
      matchCount library report entries ≤ maxHitsPerReport) ↔ pathMatches library entries loader path ≤ maxHitsPerReport := by
    unfold pathMatches
    cases loader path with
    | none => simp
    | some report => simp
  have taken := (scanPaths_spec library loader entries reportPaths ⟨[], false, 0⟩
    (Nat.zero_le _) rfl).2
  rw [WithinCaps, ← truncated_iff]
  simp only [counts]
  constructor
  · rintro ⟨complete, -⟩
    cases flag : (scanIocListAgainstReports library entries reportPaths loader).truncated with
    | true => exact .inr rfl
    | false =>
      have all := (taken flag).symm.trans (complete flag)
      exact .inl (within_of_complete library entries loader all)
  · intro within
    refine ⟨?_, fun hit member => genuine_of_mem library entries reportPaths loader member⟩
    intro flag
    refine (taken flag).trans ?_
    have small := within.resolve_right (by simp [flag])
    exact List.flatMap_congr fun path member => pathHits_full library entries loader (small path member)

end Complete

/-- Two addresses, as they are. -/
def exampleLibrary : Library where
  lower := id
  upper := id
  strip := id
  ipAddress := fun v => if v = "10.0.0.1" ∨ v = "10.0.0.2" then some v else none
  str := fun _ => ""

def exampleNode (ip : String) : Object := PyDict.empty.set "ip" (.str ip)

/-- Fifty sightings of one address use up the report, and the scan never looks for the other. -/
def crowdedReport : Report := ⟨List.replicate 50 (exampleNode "10.0.0.1") ++ [exampleNode "10.0.0.2"], [], [], [], []⟩

def exampleEntries : List IocEntry := [⟨some 1, "ip", "10.0.0.1", none, none⟩, ⟨some 2, "ip", "10.0.0.2", none, none⟩]

theorem crowded_scan_not_trustworthy :
    (scanIocListAgainstReports exampleLibrary exampleEntries ["r.json".toList] fun _ => some crowdedReport).truncated
      = false ∧
    ¬Trustworthy exampleLibrary exampleEntries ["r.json".toList] fun _ => some crowdedReport := by
  have unflagged : (scanIocListAgainstReports exampleLibrary exampleEntries ["r.json".toList]
      fun _ => some crowdedReport).truncated = false := by decide +kernel
  have shown : (scanIocListAgainstReports exampleLibrary exampleEntries ["r.json".toList]
      fun _ => some crowdedReport).hits.length = 1 := by decide +kernel
  have all : (["r.json".toList].flatMap (fullPathHits exampleLibrary (fun _ => some crowdedReport)
      exampleEntries)).length = 2 := by decide +kernel
  refine ⟨unflagged, fun trustworthy => ?_⟩
  rw [← trustworthy.1 unflagged, shown] at all
  omega

end Marlinspike.Reports.Iocs
