import Mathlib.Data.Prod.Lex
import Marlinspike.Sorting
import Marlinspike.Reports.Counts

/-!
A roll-up and the order of its reports. All that is counted, united or compared by its
stamp is the same in any order; a description or remediation is that of the newest report
in every order exactly when the newest report of the finding gives one, unless none does
(`order_independent_iff`).
-/
namespace Marlinspike.Reports.Order
open Marlinspike.Sorting
open Marlinspike.Grouping
open Marlinspike.Reports.Aggregate
open Marlinspike.Reports.Counts
open Marlinspike.Capd.Supervisor (Path)

variable {library : Library}

/-! ### The newest text -/

/-- A stamp and a text, after another pair has been offered. -/
def keepText (state : Option (String × String)) (offer : String × String) : Option (String × String) :=
  match state with
  | none => some offer
  | some (stamp, text) =>
    if offer.1 > stamp then some (offer.1, if offer.2 ≠ "" then offer.2 else text) else some (stamp, text)

/-- The stamp that is kept is the newest, and the text its own where it has one. -/
theorem foldl_keepText_spec (offers : List (String × String)) (some_ : offers ≠ []) :
    ∃ stamp text, offers.foldl keepText none = some (stamp, text) ∧ (∀ offer ∈ offers, offer.1 ≤ stamp) ∧
      (∃ offer ∈ offers, offer.1 = stamp ∧ (offer.2 ≠ "" → offer.2 = text)) ∧
      (text = "" ∨ ∃ offer ∈ offers, offer.2 = text) := by
  induction offers using List.reverseRecOn with
  | nil => exact absurd rfl some_
  | append_singleton offers offer ih =>
    rw [List.foldl_append, List.foldl_cons, List.foldl_nil]
    by_cases first : offers = []
    · subst first
      exact ⟨offer.1, offer.2, rfl, by simp, ⟨offer, by simp, rfl, fun _ => rfl⟩, .inr ⟨offer, by simp, rfl⟩⟩
    · obtain ⟨stamp, text, is, bound, ⟨newest, member, same, own⟩, origin⟩ := ih first
      rw [is, keepText]
      have origin' : text = "" ∨ ∃ other ∈ offers ++ [offer], other.2 = text :=
        origin.imp_right fun ⟨other, present, given⟩ => ⟨other, List.mem_append_left _ present, given⟩
      by_cases newer : offer.1 > stamp
      · rw [if_pos newer]
        refine ⟨offer.1, _, rfl, ?_, ⟨offer, by simp, rfl, fun given => by rw [if_pos given]⟩, ?_⟩
        · intro other present
          rcases List.mem_append.mp present with before | last
          · exact (bound other before).trans newer.le
          · rw [List.mem_singleton.mp last]
        · split_ifs with given
          · exact .inr ⟨offer, by simp, rfl⟩
          · exact origin'
      · rw [if_neg newer]
        refine ⟨stamp, text, rfl, ?_, ⟨newest, List.mem_append_left _ member, same, own⟩, origin'⟩
        intro other present
        rcases List.mem_append.mp present with before | last
        · exact bound other before
        · rw [List.mem_singleton.mp last]
          exact not_lt.mp newer

/-- Nothing older changes what is kept. -/
theorem foldl_keepText_of_newest {stamp text : String} {offers : List (String × String)}
    (older : ∀ offer ∈ offers, offer.1 ≤ stamp) :
    offers.foldl keepText (some (stamp, text)) = some (stamp, text) := by
  induction offers with
  | nil => rfl
  | cons offer rest ih =>
    have kept : keepText (some (stamp, text)) offer = some (stamp, text) :=
      if_neg (not_lt.mpr (older offer List.mem_cons_self))
    rw [List.foldl_cons, kept]
    exact ih fun other member => older other (List.mem_cons_of_mem _ member)

/-! ### Description and remediation, report by report -/

/-- A text of the entry that is replaced by that of a newer report. -/
structure IsText (part : FindingEntry → String) (text : RiskFinding → Option String) : Prop where
  created : ∀ occurrence, part (FindingEntry.new occurrence) = orElse (text occurrence.finding) ""
  merged : ∀ entry occurrence, part (entry.merge occurrence) =
    if occurrence.report.modified > entry.seen.lastSeenModified then orElse (text occurrence.finding) (part entry)
    else part entry
  unchanged : ∀ entry n attackIds, part { entry with occurrences := n, attackIds := attackIds } = part entry

theorem isText_description : IsText FindingEntry.description RiskFinding.description := by
  refine ⟨fun _ => rfl, ?_, fun _ _ _ => rfl⟩
  intro entry occurrence
  simp [FindingEntry.merge]

theorem isText_remediation : IsText FindingEntry.remediation RiskFinding.remediation := by
  refine ⟨fun _ => rfl, ?_, fun _ _ _ => rfl⟩
  intro entry occurrence
  simp [FindingEntry.merge]

theorem lastSeenModified_extend (seen : Attribution) (report : Loaded) :
    (seen.extend report).lastSeenModified = max seen.lastSeenModified report.modified := by
  unfold Attribution.extend
  simp only
  by_cases newer : report.modified > seen.lastSeenModified
  · rw [max_eq_right newer.le]
    split_ifs <;> rfl
  · rw [max_eq_left (not_lt.mp newer)]
    split_ifs <;> rfl

/-- A report's first finding of the key. -/
def firstFinding (library : Library) (key : FindingKey) (report : Loaded) : Option RiskFinding :=
  report.report.riskFindings.find? (findingKey library · = key)

theorem itemsOf_occurrences (key : FindingKey) (report : Loaded) :
    itemsOf (findingRules library) key (occurrences library report) =
      (report.report.riskFindings.filter (findingKey library · = key)).map fun finding =>
        ⟨report, finding, findingKey library finding, normSeverity library finding.severity⟩ := by
  rw [itemsOf, occurrences, List.filter_map]
  rfl

/-- What the first finding of each report offers, for the reports that have one. -/
def offers (library : Library) (text : RiskFinding → Option String) (key : FindingKey) (reports : List Loaded) :
    List (String × String) :=
  reports.filterMap fun report =>
    (firstFinding library key report).map fun finding => (report.modified, orElse (text finding) "")

section Text
variable {part : FindingEntry → String} {text : RiskFinding → Option String} (isText : IsText part text)

def textState (part : FindingEntry → String) (entry : FindingEntry) : String × String :=
  (entry.seen.lastSeenModified, part entry)

variable (library)
include isText

theorem textState_created (seen : Bool) (occurrence : Occurrence) :
    textState part ((findingRules library).update none seen occurrence) =
      (occurrence.report.modified, orElse (text occurrence.finding) "") := by
  have own : part ((findingRules library).update none seen occurrence) = orElse (text occurrence.finding) "" :=
    (isText.unchanged (FindingEntry.new occurrence) _ _).trans (isText.created occurrence)
  rw [textState, own]
  rfl

theorem textState_merged (entry : FindingEntry) (seen : Bool) (occurrence : Occurrence) :
    some (textState part ((findingRules library).update (some entry) seen occurrence)) =
      keepText (some (textState part entry)) (occurrence.report.modified, orElse (text occurrence.finding) "") := by
  have stamp : ((findingRules library).update (some entry) seen occurrence).seen.lastSeenModified =
      max entry.seen.lastSeenModified occurrence.report.modified := lastSeenModified_extend ..
  have own : part ((findingRules library).update (some entry) seen occurrence) = _ :=
    (isText.unchanged (entry.merge occurrence) _ _).trans (isText.merged entry occurrence)
  rw [textState, stamp, own, textState, keepText]
  by_cases newer : occurrence.report.modified > entry.seen.lastSeenModified
  · rw [if_pos newer, if_pos (show (_, _).1 > _ from newer), max_eq_right newer.le]
    unfold orElse
    cases given : truthy (text occurrence.finding) with
    | none => simp
    | some t =>
      have nonempty : t ≠ "" := by
        have filtered := (Option.filter_eq_some_iff.mp given).2
        simpa using filtered
      simp [nonempty]
  · rw [if_neg newer, if_neg (show ¬(_, _).1 > _ from newer), max_eq_left (not_lt.mp newer)]

/-- The further findings of a report do not change the text. -/
theorem textState_rest (report : Loaded) (items : List Occurrence) (same : ∀ item ∈ items, item.report = report)
    (entry : FindingEntry) (newest : report.modified ≤ entry.seen.lastSeenModified) :
    ((items.foldl (visit (findingRules library)) (some entry, true)).1).map (textState part) =
      some (textState part entry) := by
  induction items generalizing entry with
  | nil => rfl
  | cons item rest ih =>
    have old : item.report.modified ≤ (textState part entry).1 := by
      rw [same item List.mem_cons_self]
      exact newest
    have merged := textState_merged library isText entry true item
    have kept : keepText (some (textState part entry)) (item.report.modified, orElse (text item.finding) "") =
        some (textState part entry) := if_neg (not_lt.mpr old)
    rw [kept] at merged
    have unchanged := Option.some.inj merged
    rw [List.foldl_cons, visit, ← unchanged]
    refine ih (fun other member => same other (List.mem_cons_of_mem _ member)) _ ?_
    have stamp := congrArg Prod.fst unchanged
    simp only [textState] at stamp
    rw [stamp]
    exact newest

/-- A report offers the text of its first finding. -/
theorem textState_batch (key : FindingKey) (dict : PyDict FindingKey FindingEntry) (report : Loaded) :
    ((addBatch (findingRules library) dict (occurrences library report)).get key).map (textState part) =
      (offers library text key [report]).foldl keepText ((dict.get key).map (textState part)) := by
  have first : firstFinding library key report =
      (report.report.riskFindings.filter (findingKey library · = key)).head? := by
    rw [firstFinding, List.head?_filter]
  rw [get_addBatch, itemsOf_occurrences, offers, List.filterMap_cons, List.filterMap_nil, first]
  cases found : report.report.riskFindings.filter (findingKey library · = key) with
  | nil => rfl
  | cons finding rest =>
    simp only [List.map_cons, List.foldl_cons, List.head?_cons, Option.map_some, List.foldl_nil]
    cases before : dict.get key with
    | none =>
      rw [visit, textState_rest library isText report _ (by simp)]
      · exact congrArg some (textState_created library isText _ _)
      · exact (congrArg Prod.fst (textState_created library isText false _)).ge
    | some entry =>
      rw [visit, textState_rest library isText report _ (by simp)]
      · exact textState_merged library isText _ _ _
      · exact (le_max_right _ _).trans (lastSeenModified_extend entry.seen report).ge

theorem textState_findings (key : FindingKey) (reports : List Loaded) :
    ((findingDict library reports).get key).map (textState part) =
      (offers library text key reports).foldl keepText none := by
  unfold findingDict
  induction reports using List.reverseRecOn with
  | nil => rfl
  | append_singleton reports report ih =>
    have split : offers library text key (reports ++ [report]) =
        offers library text key reports ++ offers library text key [report] := List.filterMap_append
    rw [List.map_append, List.map_singleton, addBatches_append, textState_batch library isText, ih, split, List.foldl_append]

end Text

/-! ### The newest text, read off the reports -/

/-- The text that a report provides for the key: the first that is not empty. -/
def provided (library : Library) (text : RiskFinding → Option String) (key : FindingKey) (report : Loaded) :
    Option String :=
  report.report.riskFindings.findSome? fun finding =>
    if findingKey library finding = key then truthy (text finding) else none

/-- The text of the most recently modified report that provides one. -/
def IsLatest (library : Library) (text : RiskFinding → Option String) (key : FindingKey) (reports : List Loaded)
    (latest : String) : Prop :=
  (∀ report ∈ reports, provided library text key report = none) ∧ latest = "" ∨
    ∃ report ∈ reports, provided library text key report = some latest ∧
      ∀ other ∈ reports, provided library text key other ≠ none → other.modified ≤ report.modified

/-- The newest report that has the finding starts it with a text, unless no report has one. -/
def TextSettled (library : Library) (text : RiskFinding → Option String) (key : FindingKey) (reports : List Loaded) :
    Prop :=
  (∀ report ∈ reports, provided library text key report = none) ∨
    ∀ newest ∈ reports, ∀ finding ∈ firstFinding library key newest,
      (∀ other ∈ reports, FindingIn library key other → other.modified ≤ newest.modified) →
      truthy (text finding) ≠ none

section Provided
variable {text : RiskFinding → Option String} {key : FindingKey}

theorem mem_offers {reports : List Loaded} {offer : String × String} : offer ∈ offers library text key reports ↔
    ∃ report ∈ reports, ∃ finding ∈ firstFinding library key report,
      (report.modified, orElse (text finding) "") = offer := by
  simp only [offers, List.mem_filterMap, Option.map_eq_some_iff, Option.mem_def]

theorem findingIn_iff {report : Loaded} : FindingIn library key report ↔ ∃ finding, finding ∈ firstFinding library key report := by
  simp only [Option.mem_def, ← Option.isSome_iff_exists, firstFinding, List.find?_isSome, FindingIn, List.any_eq_true]

theorem provided_of_first {report : Loaded} {finding : RiskFinding} {t : String}
    (first : finding ∈ firstFinding library key report) (given : truthy (text finding) = some t) :
    provided library text key report = some t := by
  obtain ⟨keyed, before, after, split, none_⟩ := List.find?_eq_some_iff_append.mp first
  rw [provided, split, List.findSome?_append]
  have skipped : before.findSome? (fun finding =>
      if findingKey library finding = key then truthy (text finding) else none) = none := by
    refine List.findSome?_eq_none_iff.mpr fun other member => if_neg ?_
    simpa using none_ other member
  rw [skipped, Option.none_or, List.findSome?_cons, if_pos (by simpa using keyed), given]

theorem findingIn_of_provided {report : Loaded} (given : provided library text key report ≠ none) :
    FindingIn library key report := by
  obtain ⟨t, given⟩ := Option.ne_none_iff_exists'.mp given
  obtain ⟨finding, member, is⟩ := List.exists_of_findSome?_eq_some given
  refine List.any_eq_true.mpr ⟨finding, member, ?_⟩
  by_contra apart
  rw [if_neg (by simpa using apart)] at is
  cases is

theorem provided_ne_empty {report : Loaded} : provided library text key report ≠ some "" := by
  intro given
  obtain ⟨finding, -, is⟩ := List.exists_of_findSome?_eq_some given
  split_ifs at is
  simpa using (Option.filter_eq_some_iff.mp is).2

theorem truthy_of_not_provided {report : Loaded} {finding : RiskFinding}
    (first : finding ∈ firstFinding library key report) (none_ : provided library text key report = none) :
    truthy (text finding) = none := by
  by_contra some_
  obtain ⟨t, given⟩ := Option.ne_none_iff_exists'.mp some_
  rw [provided_of_first first given] at none_
  cases none_

end Provided

section Latest
variable {part : FindingEntry → String} {text : RiskFinding → Option String} {key : FindingKey}
  {reports : List Loaded} {entry : FindingEntry}

theorem eq_of_modified (distinct : (reports.map (·.modified)).Nodup) {a b : Loaded} (first : a ∈ reports)
    (second : b ∈ reports) (same : a.modified = b.modified) : a = b :=
  List.inj_on_of_nodup_map distinct first second same

theorem isLatest_of_settled (isText : IsText part text)
    (found : (findingDict library reports).get key = some entry) (settled : TextSettled library text key reports) :
    IsLatest library text key reports (part entry) := by
  have state := textState_findings library isText key reports
  rw [found] at state
  have some_ : offers library text key reports ≠ [] := by
    intro none_
    rw [none_] at state
    cases state
  obtain ⟨stamp, latest, is, bound, ⟨offer, member, own, kept⟩, origin⟩ := foldl_keepText_spec _ some_
  rw [is] at state
  obtain ⟨rfl, rfl⟩ := Prod.mk.inj (Option.some.inj state)
  rcases settled with none_ | settled
  · refine .inl ⟨none_, ?_⟩
    rcases origin with empty | ⟨other, present, given⟩
    · exact empty
    · obtain ⟨report, reported, finding, first, rfl⟩ := mem_offers.mp present
      rw [← given]
      simp only [orElse, truthy_of_not_provided first (none_ report reported), Option.getD_none]
  · obtain ⟨newest, reported, finding, first, rfl⟩ := mem_offers.mp member
    have above : ∀ other ∈ reports, FindingIn library key other → other.modified ≤ newest.modified := by
      intro other present having
      obtain ⟨finding, first⟩ := findingIn_iff.mp having
      exact (bound _ (mem_offers.mpr ⟨other, present, finding, first, rfl⟩)).trans own.ge
    obtain ⟨t, given⟩ := Option.ne_none_iff_exists'.mp (settled newest reported finding first above)
    have nonempty : t ≠ "" := by simpa using (Option.filter_eq_some_iff.mp given).2
    have kept_ : t = part entry := by simpa [orElse, given, nonempty] using kept
    refine .inr ⟨newest, reported, kept_ ▸ provided_of_first first given, ?_⟩
    exact fun other present gives => above other present (findingIn_of_provided gives)

theorem isLatest_unique (distinct : (reports.map (·.modified)).Nodup) {reports' : List Loaded}
    (same : ∀ report, report ∈ reports ↔ report ∈ reports') {t t' : String}
    (here : IsLatest library text key reports t) (there : IsLatest library text key reports' t') : t = t' := by
  rcases here with ⟨none_, rfl⟩ | ⟨report, member, given, above⟩
  · rcases there with ⟨-, rfl⟩ | ⟨report, member, given, -⟩
    · rfl
    · rw [none_ report ((same report).mpr member)] at given
      cases given
  · rcases there with ⟨none_, -⟩ | ⟨report', member', given', above'⟩
    · rw [none_ report ((same report).mp member)] at given
      cases given
    · have le := above report' ((same report').mpr member') (by simp [given'])
      have ge := above' report ((same report).mp member) (by simp [given])
      obtain rfl := eq_of_modified distinct member ((same report').mpr member') (ge.antisymm le)
      exact Option.some.inj (given.symm.trans given')

/-- Where the newest report comes first, the text stays as it starts it. -/
theorem text_of_newest_first (isText : IsText part text) {newest : Loaded} {finding : RiskFinding}
    (found : (findingDict library (newest :: reports)).get key = some entry)
    (first : finding ∈ firstFinding library key newest)
    (above : ∀ other ∈ reports, FindingIn library key other → other.modified ≤ newest.modified) :
    part entry = orElse (text finding) "" := by
  have state := textState_findings library isText key (newest :: reports)
  have split : offers library text key (newest :: reports) =
      (newest.modified, orElse (text finding) "") :: offers library text key reports := by
    simp only [offers, List.filterMap_cons, Option.mem_def.mp first, Option.map_some]
  rw [found, split, List.foldl_cons, keepText, foldl_keepText_of_newest] at state
  · exact (Prod.mk.inj (Option.some.inj state)).2
  · intro offer member
    obtain ⟨other, present, finding, first, rfl⟩ := mem_offers.mp member
    exact above other present (findingIn_iff.mpr ⟨finding, first⟩)

end Latest

/-! ### First and last seen -/

theorem lastSeen_extend (seen : Attribution) (report : Loaded) :
    ((seen.extend report).lastSeenModified, (seen.extend report).lastSeenReport) =
      if report.modified > seen.lastSeenModified then (report.modified, report.filename)
      else (seen.lastSeenModified, seen.lastSeenReport) := by
  unfold Attribution.extend
  simp only
  by_cases newer : report.modified > seen.lastSeenModified
  · simp only [if_pos newer]
    split_ifs <;> rfl
  · simp only [if_neg newer]
    split_ifs <;> rfl

theorem firstSeen_extend (seen : Attribution) (report : Loaded) :
    ((seen.extend report).firstSeenModified, (seen.extend report).firstSeenReport) =
      if report.modified ≠ "" ∧ (seen.firstSeenModified = "" ∨ report.modified < seen.firstSeenModified) then
        (report.modified, report.filename)
      else (seen.firstSeenModified, seen.firstSeenReport) := by
  unfold Attribution.extend
  simp only
  by_cases older : report.modified ≠ "" ∧ (seen.firstSeenModified = "" ∨ report.modified < seen.firstSeenModified)
  · rw [if_pos older, if_pos older]
  · rw [if_neg older, if_neg older]
    split_ifs <;> rfl

/-- What is seen first and last is the same for two fillings with the same items, whose
    reports bear different stamps. -/
theorem seen_same {Key Value Item : Type} [DecidableEq Key] {rules : Rules Key Value Item} {k : Key}
    {batches batches' : List (List Item)} {value value' : Value}
    (found : (addBatches rules PyDict.empty batches).get k = some value)
    (found' : (addBatches rules PyDict.empty batches').get k = some value')
    (same : ∀ item, item ∈ batches.flatten ↔ item ∈ batches'.flatten) (report : Item → Loaded)
    (seen : Value → Attribution)
    (created : ∀ b item, seen (rules.update none b item) = Attribution.new (report item))
    (extended : ∀ value b item, seen (rules.update (some value) b item) = (seen value).extend (report item))
    (stamped : ∀ item ∈ batches.flatten, (report item).modified ≠ "")
    (distinct : ∀ item ∈ batches.flatten, ∀ other ∈ batches.flatten,
      (report item).modified = (report other).modified → report item = report other) : seen value = seen value' := by
  have last := best_same found found' same (fun _ => True) (fun _ _ => trivial)
    (fun value => ((seen value).lastSeenModified, (seen value).lastSeenReport))
    (fun item => ((report item).modified, (report item).filename)) (fun a b => b.1 ≤ a.1) (fun _ => le_rfl)
    (fun _ _ _ first second => le_trans second first) ?_ ?_ ?_
  · have first := best_same found found' same (fun item => (report item).modified ≠ "") stamped
      (fun value => ((seen value).firstSeenModified, (seen value).firstSeenReport))
      (fun item => ((report item).modified, (report item).filename)) (fun a b => a.1 ≤ b.1) (fun _ => le_rfl)
      (fun _ _ _ => le_trans) ?_ ?_ ?_
    · obtain ⟨lastModified, lastReport⟩ := Prod.mk.inj last
      obtain ⟨firstModified, firstReport⟩ := Prod.mk.inj first
      calc seen value = ⟨_, _, _, _⟩ := rfl
        _ = seen value' := by rw [lastModified, lastReport, firstModified, firstReport]
    · intro item member other present le ge
      rw [distinct item member other present (le_antisymm le ge)]
    · intro b item
      rw [created]
      rfl
    · intro value b item prior valid validPrior is
      obtain ⟨modified, -⟩ := Prod.mk.inj is
      simp only [extended, firstSeen_extend]
      by_cases older : (report item).modified < (seen value).firstSeenModified
      · exact .inr ⟨if_pos ⟨valid, .inr older⟩, older.le⟩
      · refine .inl ⟨if_neg ?_, not_lt.mp older⟩
        rintro ⟨-, empty | less⟩
        · exact validPrior (modified.symm.trans empty)
        · exact older less
  · intro item member other present le ge
    rw [distinct item member other present (le_antisymm ge le)]
  · intro b item
    rw [created]
    rfl
  · intro value b item prior _ _ _
    simp only [extended, lastSeen_extend]
    by_cases newer : (report item).modified > (seen value).lastSeenModified
    · exact .inr ⟨if_pos newer, newer.le⟩
    · exact .inl ⟨if_neg newer, not_lt.mp newer⟩

/-! ### The roll-up of the reports in another order -/

/-- Distinct stamps, none empty, and no IP with two MACs. -/
structure Consistent (library : Library) (reports : List Loaded) : Prop where
  distinct : (reports.map (·.modified)).Nodup
  stamped : ∀ report ∈ reports, report.modified ≠ ""
  paired : ∀ a ∈ reports.flatMap (·.report.nodes), ∀ b ∈ reports.flatMap (·.report.nodes),
    a.ipKey library ≠ "" → a.ipKey library = b.ipKey library → a.macKey library ≠ "" → b.macKey library ≠ "" →
    a.macKey library = b.macKey library

/-- A report's first node of the asset. -/
def firstSighting (library : Library) (ipToMac : PyDict String String) (key : String) (report : Loaded) :
    Option Sighting :=
  (sightings library ipToMac report).find? (·.key = key)

/-- The reports agree on what only the first of them decides, and the newest gives the texts. -/
structure Settled (library : Library) (reports : List Loaded) : Prop where
  keyTypes : ∀ key, ∀ a ∈ reports, ∀ b ∈ reports, ∀ first ∈ firstSighting library (ipToMacOf library reports) key a,
    ∀ other ∈ firstSighting library (ipToMacOf library reports) key b, first.keyType = other.keyType
  sources : ∀ key, ∀ a ∈ reports, ∀ b ∈ reports, ∀ first ∈ firstFinding library key a,
    ∀ other ∈ firstFinding library key b, orElse first.source "engine" = orElse other.source "engine"
  descriptions : ∀ key, TextSettled library RiskFinding.description key reports
  remediations : ∀ key, TextSettled library RiskFinding.remediation key reports

/-- A finding of the roll-up, its ATT&CK ids in no order. -/
def unordered (entry : FindingEntry) : FindingEntry × Multiset String :=
  ({ entry with attackIds := [] }, entry.attackIds)

theorem report_of_sighting {ipToMac : PyDict String String} {reports : List Loaded} {sighting : Sighting}
    (member : sighting ∈ (reports.map (sightings library ipToMac)).flatten) : sighting.report ∈ reports := by
  obtain ⟨_, listed, present⟩ := List.mem_flatten.mp member
  obtain ⟨report, reported, rfl⟩ := List.mem_map.mp listed
  rwa [(mem_sightings.mp present).1]

theorem mem_insertSome {α : Type} [DecidableEq α] {value : Option α} {values : Finset α} {a : α} :
    a ∈ insertSome value values ↔ a ∈ values ∨ a ∈ value := by
  cases value with
  | none => simp [insertSome]
  | some b => simp [insertSome, or_comm, eq_comm]

theorem report_of_occurrence {reports : List Loaded} {occurrence : Occurrence}
    (member : occurrence ∈ (reports.map (occurrences library)).flatten) : occurrence.report ∈ reports := by
  obtain ⟨_, listed, present⟩ := List.mem_flatten.mp member
  obtain ⟨report, reported, rfl⟩ := List.mem_map.mp listed
  rwa [(mem_occurrences.mp present).1]

theorem rank_injective : Function.Injective Severity.rank := by
  intro a b same
  cases a <;> cases b <;> first | rfl | cases same

theorem mem_addTechnique {attackIds : List String} {tid other : String} :
    other ∈ addTechnique library attackIds tid ↔
      other ∈ attackIds ∨ library.upper (library.strip tid) = other ∧ other ≠ "" := by
  unfold addTechnique
  simp only
  by_cases new : library.upper (library.strip tid) ≠ "" ∧ library.upper (library.strip tid) ∉ attackIds
  · rw [if_pos new, List.mem_append, List.mem_singleton]
    constructor
    · rintro (before | rfl)
      · exact .inl before
      · exact .inr ⟨rfl, new.1⟩
    · rintro (before | ⟨rfl, -⟩)
      · exact .inl before
      · exact .inr rfl
  · rw [if_neg new]
    refine ⟨.inl, ?_⟩
    rintro (before | ⟨rfl, some_⟩)
    · exact before
    · by_contra absent
      exact new ⟨some_, absent⟩

variable (library) in
theorem mem_foldl_addTechnique (attackIds techniques : List String) (tid : String) :
    tid ∈ techniques.foldl (addTechnique library) attackIds ↔
      tid ∈ attackIds ∨ ∃ t ∈ techniques, library.upper (library.strip t) = tid ∧ tid ≠ "" := by
  induction techniques generalizing attackIds with
  | nil => simp
  | cons t rest ih => simp [ih, mem_addTechnique, or_assoc]

theorem nodup_addTechnique {attackIds : List String} (techniques : List String) (nodup : attackIds.Nodup) :
    (techniques.foldl (addTechnique library) attackIds).Nodup := by
  induction techniques generalizing attackIds with
  | nil => exact nodup
  | cons t rest ih =>
    refine ih ?_
    unfold addTechnique
    simp only
    split_ifs with new
    · exact List.concat_eq_append ▸ nodup.concat new.2
    · exact nodup

theorem map_eq_of_some_of_some {α β : Type} {f : α → β} {a b : Option α} (some_ : a ≠ none ↔ b ≠ none)
    (same : ∀ x y, a = some x → b = some y → f x = f y) : a.map f = b.map f := by
  cases a with
  | none => cases b with
    | none => rfl
    | some y => exact absurd rfl (some_.mpr (by simp))
  | some x => cases b with
    | none => exact absurd rfl (some_.mp (by simp))
    | some y => exact congrArg some (same x y rfl rfl)

section Reordered
variable {reports reports' : List Loaded} (perm : reports'.Perm reports)

include perm

theorem mem_flatten_perm {Item : Type} (batch : Loaded → List Item) (item : Item) :
    item ∈ (reports.map batch).flatten ↔ item ∈ (reports'.map batch).flatten := by
  simp [perm.mem_iff]

theorem get_ipToMac_perm (consistent : Consistent library reports) (ip : String) :
    (ipToMacOf library reports').get ip = (ipToMacOf library reports).get ip := by
  have members : (reports'.flatMap (·.report.nodes)).Perm (reports.flatMap (·.report.nodes)) := perm.flatMap_right _
  rw [get_ipToMacOf, get_ipToMacOf]
  cases found : (reports.flatMap (·.report.nodes)).find? (Pairs library ip) with
  | none =>
    have none_ : (reports'.flatMap (·.report.nodes)).find? (Pairs library ip) = none := by
      rw [List.find?_eq_none] at found ⊢
      exact fun node member => found node (members.mem_iff.mp member)
    rw [none_]
  | some node =>
    obtain ⟨other, found'⟩ : ∃ other, (reports'.flatMap (·.report.nodes)).find? (Pairs library ip) = some other := by
      rw [← Option.isSome_iff_exists, List.find?_isSome]
      exact ⟨node, members.mem_iff.mpr (List.mem_of_find?_eq_some found), List.find?_some found⟩
    obtain ⟨some_, rfl, mac⟩ := by simpa [Pairs] using List.find?_some found
    obtain ⟨-, same, mac'⟩ := by simpa [Pairs] using List.find?_some found'
    have agree := consistent.paired other (members.mem_iff.mp (List.mem_of_find?_eq_some found')) node
      (List.mem_of_find?_eq_some found) (same ▸ some_) same mac' mac
    rw [found', Option.map_some, Option.map_some, agree]

theorem resolveAssetKey_perm (consistent : Consistent library reports) :
    resolveAssetKey library (ipToMacOf library reports') = resolveAssetKey library (ipToMacOf library reports) := by
  funext node
  unfold resolveAssetKey
  rw [get_ipToMac_perm perm consistent]

theorem sightings_perm (consistent : Consistent library reports) :
    sightings library (ipToMacOf library reports') = sightings library (ipToMacOf library reports) := by
  unfold sightings
  rw [resolveAssetKey_perm perm consistent]

theorem assetDict_perm (consistent : Consistent library reports) : assetDict library reports' =
    addBatches (assetRules library) PyDict.empty (reports'.map (sightings library (ipToMacOf library reports))) := by
  rw [assetDict, sightings_perm perm consistent]

omit perm in
theorem eq_of_stamp_sightings (consistent : Consistent library reports) (ipToMac : PyDict String String) :
    ∀ item ∈ (reports.map (sightings library ipToMac)).flatten, ∀ other ∈ (reports.map (sightings library ipToMac)).flatten,
      item.report.modified = other.report.modified → item.report = other.report := by
  intro item member other present same
  exact eq_of_modified consistent.distinct (report_of_sighting member) (report_of_sighting present) same

theorem asset_same (consistent : Consistent library reports) (settled : Settled library reports) {key : String}
    {asset asset' : Asset} (found : (assetDict library reports).get key = some asset)
    (found' : (assetDict library reports').get key = some asset') : asset = asset' := by
  have keys : asset.key = asset'.key := (key_of_asset found).trans (key_of_asset found').symm
  have counts : asset.reportCount = asset'.reportCount := by
    rw [reportCount_of_asset found, reportCount_of_asset found', perm.countP_eq]
    unfold NodeIn assetKey
    rw [resolveAssetKey_perm perm consistent]
  rw [assetDict_perm perm consistent] at found'
  unfold assetDict at found
  have same := mem_flatten_perm perm (sightings library (ipToMacOf library reports))
  have types : asset.keyType = asset'.keyType := by
    refine created_same found found' ?_ Asset.keyType Sighting.keyType (fun _ _ => rfl) (fun _ _ _ => rfl) ?_
    · intro batch member
      obtain ⟨report, present, rfl⟩ := List.mem_map.mp member
      exact List.mem_map_of_mem (perm.mem_iff.mp present)
    · simp only [List.forall_mem_map, itemsOf, List.head?_filter]
      exact settled.keyTypes key
  have seen : asset.seen = asset'.seen :=
    seen_same found found' same Sighting.report Asset.seen (fun _ _ => rfl) (fun _ _ _ => rfl)
      (fun item member => consistent.stamped _ (report_of_sighting member))
      (eq_of_stamp_sightings consistent _)
  have sets {Element : Type} [DecidableEq Element] (part : Asset → Finset Element) (own : Node → Option Element)
      (added : ∀ before seen sighting, part ((assetRules library).update before seen sighting) =
        insertSome (own sighting.node) (before.elim ∅ part)) : part asset = part asset' := by
    ext element
    refine mem_union_same found found' same (fun element a => element ∈ part a)
      (fun element sighting => element ∈ own sighting.node) ?_ element
    intro element before seen sighting
    rw [added, mem_insertSome]
    cases before <;> simp
  have protocols : asset.protocols = asset'.protocols := by
    ext element
    refine mem_union_same found found' same (fun element a => element ∈ a.protocols)
      (fun element sighting => element ∈ sighting.node.protocols) ?_ element
    intro element before seen sighting
    cases before <;> simp [assetRules, Asset.addNode, Asset.new]
  have macs := sets Asset.macs (fun node => (truthy node.mac).map library.lower) (by rintro (_ | _) _ _ <;> rfl)
  have ips := sets Asset.ips (fun node => truthy node.ip) (by rintro (_ | _) _ _ <;> rfl)
  have roles := sets Asset.roles (fun node => truthy node.role) (by rintro (_ | _) _ _ <;> rfl)
  have vendors := sets Asset.vendors (fun node => truthy node.vendor) (by rintro (_ | _) _ _ <;> rfl)
  have deviceTypes := sets Asset.deviceTypes (fun node => truthy node.deviceType) (by rintro (_ | _) _ _ <;> rfl)
  have purdueLevels := sets Asset.purdueLevels (fun node => node.purdueLevel) (by rintro (_ | _) _ _ <;> rfl)
  calc asset = ⟨_, _, _, _, _, _, _, _, _, _, _⟩ := rfl
    _ = asset' := by
      rw [keys, types, macs, ips, roles, vendors, deviceTypes, purdueLevels, protocols, counts, seen]

theorem textSettled_perm {text : RiskFinding → Option String} {key : FindingKey} :
    TextSettled library text key reports' ↔ TextSettled library text key reports := by
  simp only [TextSettled, perm.mem_iff]

omit perm in
theorem nodup_attackIds {key : FindingKey} {entry : FindingEntry}
    (found : (findingDict library reports).get key = some entry) : entry.attackIds.Nodup := by
  refine holds_of_get found (fun _ => True) (fun _ _ => trivial) (fun _ entry => entry.attackIds.Nodup) ?_ ?_
  · exact fun _ _ => nodup_addTechnique _ List.nodup_nil
  · exact fun _ _ _ _ _ held => nodup_addTechnique _ held

theorem finding_same (consistent : Consistent library reports) (settled : Settled library reports) {key : FindingKey}
    {entry entry' : FindingEntry} (found : (findingDict library reports).get key = some entry)
    (found' : (findingDict library reports').get key = some entry') : unordered entry = unordered entry' := by
  have keys : entry.key = entry'.key := (key_of_finding found).trans (key_of_finding found').symm
  obtain ⟨categories, nodes, edges⟩ : entry.category = entry'.category ∧
      entry.affectedNodes = entry'.affectedNodes ∧ entry.affectedEdges = entry'.affectedEdges := by
    simpa [FindingEntry.key] using keys
  have counts : entry.occurrences = entry'.occurrences := by
    rw [occurrences_of_finding found, occurrences_of_finding found', perm.countP_eq]
  have latest {part : FindingEntry → String} {text : RiskFinding → Option String} (isText : IsText part text)
      (settled : TextSettled library text key reports) : part entry = part entry' :=
    isLatest_unique consistent.distinct (fun _ => perm.mem_iff.symm) (isLatest_of_settled isText found settled)
      (isLatest_of_settled isText found' ((textSettled_perm perm).mpr settled))
  have descriptions := latest isText_description (settled.descriptions key)
  have remediations := latest isText_remediation (settled.remediations key)
  have techniques : entry.attackIds.Perm entry'.attackIds := by
    refine (List.perm_ext_iff_of_nodup (nodup_attackIds found) (nodup_attackIds found')).mpr fun tid => ?_
    unfold findingDict at found found'
    refine mem_union_same found found' (mem_flatten_perm perm (occurrences library))
      (fun tid entry => tid ∈ entry.attackIds)
      (fun tid occurrence => ∃ t ∈ occurrence.finding.techniques, library.upper (library.strip t) = tid ∧ tid ≠ "")
      ?_ tid
    intro tid before seen occurrence
    have techniques := mem_foldl_addTechnique library (before.elim [] FindingEntry.attackIds)
      occurrence.finding.techniques tid
    cases before with
    | none => exact techniques.trans (by simp)
    | some entry => exact techniques
  unfold findingDict at found found'
  have same := mem_flatten_perm perm (occurrences library)
  have sources : entry.source = entry'.source := by
    refine created_same found found' ?_ FindingEntry.source (fun occurrence => orElse occurrence.finding.source "engine")
      (fun _ _ => rfl) (fun _ _ _ => rfl) ?_
    · intro batch member
      obtain ⟨report, present, rfl⟩ := List.mem_map.mp member
      exact List.mem_map_of_mem (perm.mem_iff.mp present)
    · simp only [List.forall_mem_map, itemsOf_occurrences, List.head?_map, List.head?_filter, Option.mem_map]
      rintro a first b second _ ⟨finding, here, rfl⟩ _ ⟨other, there, rfl⟩
      exact settled.sources key a first b second finding here other there
  have seen : entry.seen = entry'.seen :=
    seen_same found found' same Occurrence.report FindingEntry.seen (fun _ _ => rfl) (fun _ _ _ => rfl)
      (fun item member => consistent.stamped _ (report_of_occurrence member))
      (fun item member other present => eq_of_modified consistent.distinct (report_of_occurrence member)
        (report_of_occurrence present))
  have severities : entry.severity = entry'.severity := by
    refine best_same found found' same (fun _ => True) (fun _ _ => trivial) FindingEntry.severity
      Occurrence.severity (fun a b => a.rank ≤ b.rank) (fun _ => le_rfl) (fun _ _ _ => le_trans) ?_ (fun _ _ => rfl) ?_
    · exact fun _ _ _ _ le ge => rank_injective (le_antisymm le ge)
    · intro entry seen occurrence _ _ _ _
      exact severity_better entry seen occurrence
  have impacts : entry.maxCvssImpact = entry'.maxCvssImpact := by
    refine best_same found found' same (fun _ => True) (fun _ _ => trivial) FindingEntry.maxCvssImpact
      (fun occurrence => occurrence.finding.cvssImpact.getD 0) (fun a b => b ≤ a) (fun _ => le_rfl)
      (fun _ _ _ first second => le_trans second first) ?_ (fun _ _ => rfl) ?_
    · exact fun _ _ _ _ le ge => le_antisymm ge le
    · intro entry seen occurrence _ _ _ _
      exact impact_better entry seen occurrence
  refine Prod.ext ?_ (Multiset.coe_eq_coe.mpr techniques)
  calc (unordered entry).1 = ⟨_, _, _, _, _, _, [], _, _, _, _⟩ := rfl
    _ = (unordered entry').1 := by
      rw [categories, severities, descriptions, remediations, nodes, edges, sources, counts, seen, impacts]
      rfl

theorem nodeIn_perm (consistent : Consistent library reports) (key : String) :
    NodeIn library (ipToMacOf library reports') key = NodeIn library (ipToMacOf library reports) key := by
  unfold NodeIn assetKey
  rw [resolveAssetKey_perm perm consistent]

theorem get_asset_perm (consistent : Consistent library reports) (settled : Settled library reports) (key : String) :
    (assetDict library reports').get key = (assetDict library reports).get key := by
  have some_ : (assetDict library reports').get key ≠ none ↔ (assetDict library reports).get key ≠ none := by
    rw [assetDict_get_ne_none, assetDict_get_ne_none, nodeIn_perm perm consistent]
    simp only [perm.mem_iff]
  have mapped := map_eq_of_some_of_some (f := id) some_ fun asset' asset found' found =>
    (asset_same perm consistent settled found found').symm
  simpa using mapped

theorem get_finding_perm (consistent : Consistent library reports) (settled : Settled library reports)
    (key : FindingKey) : ((findingDict library reports').get key).map unordered =
      ((findingDict library reports).get key).map unordered := by
  refine map_eq_of_some_of_some ?_ fun entry' entry found' found => (finding_same perm consistent settled found found').symm
  rw [findingDict_get_ne_none, findingDict_get_ne_none]
  simp only [perm.mem_iff]

end Reordered

/-! ### The document -/

/-- The same assets, the same findings and the same totals. -/
structure SameRollUp (a b : Document) : Prop where
  assets : a.assets = b.assets
  findings : (a.findings.map unordered).Perm (b.findings.map unordered)
  totals : a.totals = b.totals

/-- What the assets are sorted by. -/
def AssetDict.rank (asset : AssetDict) : Int ×ₗ Int ×ₗ String :=
  toLex (asset.purdueLevel.getD 99, toLex (-(asset.reportCount : Int), asset.key))

theorem le_iff_rank {a b : AssetDict} : a.le b = true ↔ AssetDict.rank a ≤ AssetDict.rank b := by
  simp [AssetDict.le, AssetDict.rank, Prod.Lex.toLex_le_toLex]

/-- Assets with different keys have one order. -/
theorem mergeSort_assets {assets assets' : List AssetDict} (perm : assets'.Perm assets)
    (distinct : ∀ a ∈ assets, ∀ b ∈ assets, a.key = b.key → a = b) :
    assets'.mergeSort AssetDict.le = assets.mergeSort AssetDict.le := by
  have ranked (a b : AssetDict) : a.le b = true ↔ AssetDict.rank a ≤ AssetDict.rank b := le_iff_rank
  symm
  apply mergeSort_eq_of_perm ranked perm.symm
  intro a first b second same
  have key : a.key = b.key := congrArg (fun rank => (ofLex (ofLex rank).2).2) same
  exact distinct a first b second key

theorem get_attackIndex_ne_none (findings : List FindingEntry) (tid : String) :
    (attackIndex findings).get tid ≠ none ↔ ∃ entry ∈ findings, tid ∈ entry.attackIds := by
  have inner (entry : FindingEntry) (tids : List String) (index : PyDict String Technique) :
      (tids.foldl (indexTechnique entry) index).get tid ≠ none ↔ index.get tid ≠ none ∨ tid ∈ tids := by
    induction tids generalizing index with
    | nil => simp
    | cons other rest ih =>
      rw [List.foldl_cons, ih, indexTechnique, PyDict.get_set, List.mem_cons]
      by_cases same : other = tid
      · simp [same]
      · simp [same, Ne.symm same]
  have outer (index : PyDict String Technique) :
      (findings.foldl (fun index entry => entry.attackIds.foldl (indexTechnique entry) index) index).get tid ≠ none ↔
        index.get tid ≠ none ∨ ∃ entry ∈ findings, tid ∈ entry.attackIds := by
    induction findings generalizing index with
    | nil => simp
    | cons entry rest ih => rw [List.foldl_cons, ih, inner]; simp [or_assoc]
  rw [attackIndex, outer]
  simp

theorem get_protocols_ne_none (reports : List Loaded) (name : String) :
    (rollUp library reports).protocols.get name ≠ none ↔
      ∃ report ∈ reports, ∃ proto ∈ protocolsOf library report, proto.1 = name := by
  rw [rollUp, protocols_foldl, RollUp.empty, ne_eq, get_eq_none_iff]
  simp only [List.mem_flatten, List.mem_map, protocolRules, not_forall, not_not]
  constructor
  · rintro ⟨proto, ⟨_, ⟨report, member, rfl⟩, present⟩, own⟩
    exact ⟨report, member, proto, present, own⟩
  · rintro ⟨report, member, proto, present, own⟩
    exact ⟨proto, ⟨_, ⟨report, member, rfl⟩, present⟩, own⟩

section Settled
variable {reports reports' : List Loaded} (perm : reports'.Perm reports) (consistent : Consistent library reports)
  (settled : Settled library reports)
include perm consistent settled

theorem sameRollUp_of_settled :
    SameRollUp (rollUp library reports').toDocument (rollUp library reports).toDocument := by
  have assets : (rollUp library reports').toDocument.assets = (rollUp library reports).toDocument.assets := by
    refine mergeSort_assets ?_ ?_
    · rw [rollUp_assets, rollUp_assets]
      exact PyDict.values_perm fun key => by rw [get_asset_perm perm consistent settled]
    · rw [rollUp_assets]
      intro a first b second same
      obtain ⟨⟨key, asset⟩, member, rfl⟩ := List.mem_map.mp first
      obtain ⟨⟨key', asset'⟩, member', rfl⟩ := List.mem_map.mp second
      have found := PyDict.mem_items_iff.mp member
      have found' := PyDict.mem_items_iff.mp member'
      obtain rfl : key = key' := (key_of_asset found).symm.trans (same.trans (key_of_asset found'))
      rw [Option.some.inj (found.symm.trans found')]
  have findings : ((rollUp library reports').toDocument.findings.map unordered).Perm
      ((rollUp library reports).toDocument.findings.map unordered) := by
    refine ((findings_perm library reports').map unordered).trans
      (.trans ?_ ((findings_perm library reports).map unordered).symm)
    rw [List.map_map, List.map_map]
    exact PyDict.values_perm fun key => get_finding_perm perm consistent settled key
  refine ⟨assets, findings, ?_⟩
  have count : (rollUp library reports').toDocument.findings.length = (rollUp library reports).toDocument.findings.length := by
    simpa using findings.length_eq
  have sum : ((rollUp library reports').toDocument.findings.map (·.occurrences)).sum =
      ((rollUp library reports).toDocument.findings.map (·.occurrences)).sum := by
    have occurrences := (findings.map fun entry => entry.1.occurrences).sum_nat
    rwa [List.map_map, List.map_map] at occurrences
  have protocols : (rollUp library reports').protocols.items.length = (rollUp library reports).protocols.items.length := by
    refine PyDict.length_eq fun name => ?_
    rw [get_protocols_ne_none, get_protocols_ne_none]
    simp only [perm.mem_iff]
  have techniques : (attackIndex (rollUp library reports').toDocument.findings).items.length =
      (attackIndex (rollUp library reports).toDocument.findings).items.length := by
    refine PyDict.length_eq fun tid => ?_
    have through (entries : List FindingEntry) : (∃ entry ∈ entries, tid ∈ entry.attackIds) ↔
        ∃ entry ∈ entries.map unordered, tid ∈ entry.2 := by
      simp [unordered]
    rw [get_attackIndex_ne_none, get_attackIndex_ne_none, through, through]
    simp only [findings.mem_iff]
  have protocolCount : (rollUp library reports').toDocument.protocols.length =
      (rollUp library reports).toDocument.protocols.length := by
    simpa [RollUp.toDocument] using protocols
  calc (rollUp library reports').toDocument.totals = ⟨_, _, _, _, _⟩ := rfl
    _ = ⟨_, _, _, _, _⟩ := Totals.mk.injEq .. ▸ ⟨congrArg List.length assets, count, sum, protocolCount, techniques⟩

omit consistent in
theorem latest_of_settled {entry : FindingEntry} (member : entry ∈ (rollUp library reports').toDocument.findings) :
    IsLatest library RiskFinding.description entry.key reports entry.description ∧
      IsLatest library RiskFinding.remediation entry.key reports entry.remediation := by
  have found := mem_findings.mp member
  have latest {part : FindingEntry → String} {text : RiskFinding → Option String} (isText : IsText part text)
      (settled : TextSettled library text entry.key reports) : IsLatest library text entry.key reports (part entry) := by
    have there := isLatest_of_settled isText found ((textSettled_perm perm).mpr settled)
    simpa only [IsLatest, perm.mem_iff] using there
  exact ⟨latest isText_description (settled.descriptions _), latest isText_remediation (settled.remediations _)⟩

end Settled

section Paths
variable {library : Library} {reportPaths : List Path} {loader : Path → Option Report} {reportMeta : Path → Meta}

variable (library loader reportMeta) in
theorem loadReports_perm {reportPaths' : List Path} (perm : reportPaths'.Perm reportPaths) :
    (loadReports library reportPaths' loader reportMeta).Perm (loadReports library reportPaths loader reportMeta) :=
  perm.filterMap _

/-- Any report can be made the first. -/
theorem exists_first {report : Loaded} (member : report ∈ loadReports library reportPaths loader reportMeta) :
    ∃ reportPaths' rest, reportPaths'.Perm reportPaths ∧
      loadReports library reportPaths' loader reportMeta = report :: rest := by
  obtain ⟨path, present, loads⟩ := List.mem_filterMap.mp member
  refine ⟨path :: reportPaths.erase path, loadReports library (reportPaths.erase path) loader reportMeta,
    (List.perm_cons_erase present).symm, ?_⟩
  unfold loadReports
  rw [List.filterMap_cons, loads]

end Paths

/-- The same roll-up in every order of the reports, with the newest texts. -/
def OrderIndependent (library : Library) (reportPaths : List Path) (loader : Path → Option Report)
    (reportMeta : Path → Meta) : Prop :=
  ∀ reportPaths', reportPaths'.Perm reportPaths →
    SameRollUp (aggregateReports library reportPaths' loader reportMeta)
      (aggregateReports library reportPaths loader reportMeta) ∧
    ∀ entry ∈ (aggregateReports library reportPaths' loader reportMeta).findings,
      IsLatest library RiskFinding.description entry.key (loadReports library reportPaths loader reportMeta)
        entry.description ∧
      IsLatest library RiskFinding.remediation entry.key (loadReports library reportPaths loader reportMeta)
        entry.remediation

section Necessary
variable {library : Library} {reports : List Loaded}

theorem source_of_first {report : Loaded} {finding : RiskFinding} {key : FindingKey} {entry : FindingEntry}
    (found : (findingDict library (report :: reports)).get key = some entry)
    (first : finding ∈ firstFinding library key report) : entry.source = orElse finding.source "engine" := by
  have head : (itemsOf (findingRules library) key (occurrences library report)).head? =
      some ⟨report, finding, findingKey library finding, normSeverity library finding.severity⟩ := by
    rw [itemsOf_occurrences, List.head?_map, List.head?_filter]
    exact congrArg (Option.map _) first
  exact created_of_first_batch found head FindingEntry.source
    (fun occurrence => orElse occurrence.finding.source "engine") (fun _ _ => rfl) fun _ _ _ => rfl

theorem keyType_of_first {report : Loaded} {sighting : Sighting} {key : String} {asset : Asset}
    (found : (assetDict library (report :: reports)).get key = some asset)
    (first : sighting ∈ firstSighting library (ipToMacOf library (report :: reports)) key report) :
    asset.keyType = sighting.keyType := by
  have head : (itemsOf (assetRules library) key
      (sightings library (ipToMacOf library (report :: reports)) report)).head? = some sighting := by
    rw [itemsOf, List.head?_filter]
    exact first
  exact created_of_first_batch found head Asset.keyType Sighting.keyType (fun _ _ => rfl) fun _ _ _ => rfl

theorem exists_entry {report : Loaded} {finding : RiskFinding} {key : FindingKey} (member : report ∈ reports)
    (first : finding ∈ firstFinding library key report) :
    ∃ entry, (findingDict library reports).get key = some entry :=
  Option.ne_none_iff_exists'.mp ((findingDict_get_ne_none key).mpr ⟨report, member, findingIn_iff.mpr ⟨_, first⟩⟩)

theorem exists_asset {report : Loaded} {sighting : Sighting} {key : String} (member : report ∈ reports)
    (first : sighting ∈ firstSighting library (ipToMacOf library reports) key report) :
    ∃ asset, (assetDict library reports).get key = some asset := by
  refine Option.ne_none_iff_exists'.mp ((assetDict_get_ne_none key).mpr ⟨report, member, ?_⟩)
  have keyed : sighting.key = key := by simpa using List.find?_some first
  rw [← touches_sightings]
  exact List.any_eq_true.mpr ⟨sighting, List.mem_of_find?_eq_some first, decide_eq_true keyed⟩

variable {reportPaths : List Path} {loader : Path → Option Report} {reportMeta : Path → Meta}

theorem textSettled_of_latest {part : FindingEntry → String} {text : RiskFinding → Option String}
    (isText : IsText part text) (key : FindingKey)
    (latest : ∀ reportPaths', reportPaths'.Perm reportPaths →
      ∀ entry ∈ (aggregateReports library reportPaths' loader reportMeta).findings,
        IsLatest library text entry.key (loadReports library reportPaths loader reportMeta) (part entry)) :
    TextSettled library text key (loadReports library reportPaths loader reportMeta) := by
  by_contra unsettled
  obtain ⟨some_, wrong⟩ := not_or.mp unsettled
  push Not at wrong
  obtain ⟨newest, member, finding, first, above, empty⟩ := wrong
  obtain ⟨paths, rest, order, loads⟩ := exists_first member
  have perm : (newest :: rest).Perm (loadReports library reportPaths loader reportMeta) :=
    loads ▸ loadReports_perm library loader reportMeta order
  have holds := latest paths order
  rw [aggregateReports, loads] at holds
  have member : newest ∈ newest :: rest := List.mem_cons_self
  obtain ⟨entry, found⟩ := exists_entry member first
  have own : entry.key = key := key_of_finding found
  have latest := holds entry (mem_findings.mpr (own ▸ found))
  have none_ : part entry = "" := by
    rw [text_of_newest_first isText found first fun other present =>
      above other (perm.mem_iff.mp (List.mem_cons_of_mem _ present))]
    simp [orElse, empty]
  rw [none_, own] at latest
  rcases latest with ⟨all, -⟩ | ⟨report, -, given, -⟩
  · exact some_ all
  · exact provided_ne_empty given

variable (independent : OrderIndependent library reportPaths loader reportMeta)
include independent

/-- The order that puts a report first has the same roll-up. -/
theorem same_first {report : Loaded} (member : report ∈ loadReports library reportPaths loader reportMeta) :
    ∃ rest, (report :: rest).Perm (loadReports library reportPaths loader reportMeta) ∧
      SameRollUp (rollUp library (report :: rest)).toDocument (aggregateReports library reportPaths loader reportMeta) := by
  obtain ⟨paths, rest, order, loads⟩ := exists_first member
  have same := (independent paths order).1
  rw [aggregateReports, loads] at same
  exact ⟨rest, loads ▸ loadReports_perm library loader reportMeta order, same⟩

theorem keyTypes_of_independent (consistent : Consistent library (loadReports library reportPaths loader reportMeta))
    {key : String} {report : Loaded} (member : report ∈ loadReports library reportPaths loader reportMeta)
    {sighting : Sighting} (first : sighting ∈ firstSighting library
      (ipToMacOf library (loadReports library reportPaths loader reportMeta)) key report)
    {asset : Asset} (found : (assetDict library (loadReports library reportPaths loader reportMeta)).get key = some asset) :
    asset.keyType = sighting.keyType := by
  obtain ⟨rest, perm, same⟩ := same_first independent member
  have first' : sighting ∈ firstSighting library (ipToMacOf library (report :: rest)) key report := by
    rw [firstSighting, sightings_perm perm consistent]
    exact first
  obtain ⟨other, found'⟩ := exists_asset List.mem_cons_self first'
  have listed := mem_assets.mpr ⟨key, other, found', rfl⟩
  rw [same.assets] at listed
  obtain ⟨key', asset', there, equal⟩ := mem_assets.mp listed
  obtain rfl : key' = key := by
    rw [← key_of_asset there, ← key_of_asset found']
    exact congrArg AssetDict.key equal
  obtain rfl := Option.some.inj (there.symm.trans found)
  exact (congrArg AssetDict.keyType equal).trans (keyType_of_first found' first')

theorem source_of_independent {key : FindingKey} {report : Loaded}
    (member : report ∈ loadReports library reportPaths loader reportMeta) {finding : RiskFinding}
    (first : finding ∈ firstFinding library key report) {entry : FindingEntry}
    (found : (findingDict library (loadReports library reportPaths loader reportMeta)).get key = some entry) :
    entry.source = orElse finding.source "engine" := by
  obtain ⟨rest, perm, same⟩ := same_first independent member
  obtain ⟨other, found'⟩ := exists_entry List.mem_cons_self first
  have own : other.key = key := key_of_finding found'
  have listed := List.mem_map_of_mem (f := unordered) (mem_findings.mpr (own ▸ found'))
  rw [same.findings.mem_iff] at listed
  obtain ⟨entry', there, equal⟩ := List.mem_map.mp listed
  have agree := congrArg Prod.fst equal
  have there := mem_findings.mp there
  have keys : entry'.key = key := (congrArg FindingEntry.key agree).trans own
  rw [keys] at there
  obtain rfl := Option.some.inj (there.symm.trans found)
  have sources : (unordered entry').1.source = (unordered other).1.source := by rw [agree]
  have started : other.source = _ := source_of_first found' first
  exact sources.trans started

theorem settled_of_independent (consistent : Consistent library (loadReports library reportPaths loader reportMeta)) :
    Settled library (loadReports library reportPaths loader reportMeta) := by
  refine ⟨?_, ?_, ?_, ?_⟩
  · intro key a memberA b memberB first firstA other firstB
    obtain ⟨asset, found⟩ := exists_asset memberA firstA
    rw [← keyTypes_of_independent independent consistent memberA firstA found,
      keyTypes_of_independent independent consistent memberB firstB found]
  · intro key a memberA b memberB first firstA other firstB
    obtain ⟨entry, found⟩ := exists_entry memberA firstA
    rw [← source_of_independent independent memberA firstA found, source_of_independent independent memberB firstB found]
  · exact fun key => textSettled_of_latest isText_description key fun paths perm entry member =>
      ((independent paths perm).2 entry member).1
  · exact fun key => textSettled_of_latest isText_remediation key fun paths perm entry member =>
      ((independent paths perm).2 entry member).2

end Necessary

/-- The order of the reports makes no difference exactly when their findings and nodes agree
    on what only the first report decides, and the newest report gives each text. -/
theorem order_independent_iff (library : Library) (reportPaths : List Path) (loader : Path → Option Report)
    (reportMeta : Path → Meta) (consistent : Consistent library (loadReports library reportPaths loader reportMeta)) :
    OrderIndependent library reportPaths loader reportMeta ↔
      Settled library (loadReports library reportPaths loader reportMeta) := by
  constructor
  · intro independent
    exact settled_of_independent independent consistent
  · intro settled reportPaths' perm
    have loaded := loadReports_perm library loader reportMeta perm
    refine ⟨sameRollUp_of_settled loaded consistent settled, ?_⟩
    exact fun entry member => latest_of_settled loaded settled member

/-! A finding of two reports, of which the newer says nothing or something new. -/

def exampleFinding (description : Option String) : RiskFinding where
  category := some "CLEARTEXT"
  severity := some "HIGH"
  description := description
  remediation := none
  source := none
  affectedNodes := []
  affectedEdges := []
  attackIds := []
  attackTechniques := []
  cvssImpact := none

def exampleReport (description : Option String) : Report where
  timestampStart := none
  timestampEnd := none
  captureInfo := ⟨none, none, PyDict.empty⟩
  nodes := []
  riskFindings := [exampleFinding description]

def exampleLibrary : Library where
  lower := id
  upper := id
  strip := id
  ipAddress := some
  str _ := ""

def olderPath : Path := "old.json".toList
def newerPath : Path := "new.json".toList

def exampleLoader (newer : Option String) (path : Path) : Option Report :=
  some (exampleReport (if path = olderPath then some "Telnet in use" else newer))

def exampleMeta (path : Path) : Meta :=
  ⟨none, some (if path = olderPath then "2026-01-01" else "2026-02-01"), none⟩

theorem exampleReports (newer : Option String) :
    loadReports exampleLibrary [olderPath, newerPath] (exampleLoader newer) exampleMeta =
      [⟨"old.json", "2026-01-01", "", exampleReport (some "Telnet in use")⟩,
        ⟨"new.json", "2026-02-01", "", exampleReport newer⟩] := rfl

theorem exampleReports_consistent (newer : Option String) :
    Consistent exampleLibrary (loadReports exampleLibrary [olderPath, newerPath] (exampleLoader newer) exampleMeta) := by
  rw [exampleReports]
  refine ⟨?_, ?_, ?_⟩
  · simp
  · simp
  · simp [exampleReport]

/-- With the newer report first, the finding is left without its description. -/
theorem newest_silent_order_matters :
    Consistent exampleLibrary (loadReports exampleLibrary [olderPath, newerPath] (exampleLoader none) exampleMeta) ∧
    ¬OrderIndependent exampleLibrary [olderPath, newerPath] (exampleLoader none) exampleMeta := by
  refine ⟨exampleReports_consistent none, fun independent => ?_⟩
  have inOrder : (aggregateReports exampleLibrary [olderPath, newerPath] (exampleLoader none) exampleMeta).findings.map
      (·.description) = ["Telnet in use"] := by decide +kernel
  have reversed : (aggregateReports exampleLibrary [newerPath, olderPath] (exampleLoader none) exampleMeta).findings.map
      (·.description) = [""] := by decide +kernel
  have same := (independent [newerPath, olderPath] (List.Perm.swap _ _ _)).1.findings.map fun entry => entry.1.description
  rw [List.map_map, List.map_map] at same
  change (List.map FindingEntry.description _).Perm (List.map FindingEntry.description _) at same
  rw [inOrder, reversed] at same
  exact absurd same (by decide)

theorem order_independent_with_news :
    OrderIndependent exampleLibrary [olderPath, newerPath] (exampleLoader (some "Telnet and FTP in use")) exampleMeta := by
  refine (order_independent_iff exampleLibrary _ _ _ (exampleReports_consistent _)).mpr ?_
  rw [exampleReports]
  refine ⟨?_, ?_, ?_, ?_⟩
  · simp [firstSighting, sightings, exampleReport]
  · simp [firstFinding, exampleReport, exampleFinding]
  · intro key
    right
    simp [firstFinding, exampleReport, exampleFinding, truthy]
  · intro key
    left
    simp [provided, exampleReport, exampleFinding, truthy]

end Marlinspike.Reports.Order
