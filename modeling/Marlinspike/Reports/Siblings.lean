import Mathlib.Data.List.TakeWhile
import Marlinspike.Replacing
import Marlinspike.Gateway.Rotations
import Marlinspike.Plugins.Enrich

/-!
The files of a report: what the chain writes beside it, and what is removed with it. The names
of the files are made of the report's path twice, by the one that writes and by the one that
deletes; when the two agree, and on no file of another report, is `removesExactly_iff`.
-/
namespace Marlinspike.Reports.Siblings
open Marlinspike.Replacing
open Marlinspike.Capd.Supervisor (Path basename basename_append)
open Marlinspike.Gateway.Rotations (stem)
open Marlinspike.Plugins.Enrich (Plugin specs)

/-! ### Names -/

def lower (text : List Char) : List Char := text.map Char.toLower

def nonPrimarySuffixes : List (List Char) :=
  ["-mitre.json", "-arp.json", "-apt.json", "-cisa.json", ".stix.json", ".navigator.ics.json",
    ".navigator.enterprise.json", ".ocsf.json", ".ocsf.ndjson"].map String.toList

/-- `_is_primary_report_filename`. -/
def isPrimaryReportFilename (filename : List Char) : Bool :=
  let safeName := lower (basename filename)
  ".json".toList.isSuffixOf safeName && nonPrimarySuffixes.all fun suffix => !suffix.isSuffixOf safeName

/-- The name of a primary report in its directory. -/
structure ReportName where
  text : List Char
  plain : '/' ∉ text
  primary : isPrimaryReportFilename text = true
deriving DecidableEq

/-- `os.path.splitext(path)[0]`. -/
def root (path : Path) : Path := path.take (path.length - (basename path).length) ++ stem (basename path)

def sidecarPath (reportPath suffix : Path) : Path := root reportPath ++ suffix

/-- `suffix` of the plugin's `_Spec`. -/
def Plugin.suffix : Plugin → List Char
  | .mitre => "-mitre.json".toList
  | .arp => "-arp.json".toList
  | .apt => "-apt.json".toList
  | .cisa => "-cisa.json".toList

/-- `path.replace(".json", ending)`. -/
def renamed (path ending : Path) : Path := replaceAll ".json".toList ending path

def mapEnding : Path := "-map.yaml".toList
def ocsfEnding : Path := ".ocsf.ndjson".toList
def icsEnding : Path := ".navigator.ics.json".toList
def enterpriseEnding : Path := ".navigator.enterprise.json".toList
def stixEnding : Path := ".stix.json".toList
def sigmaEnding : Path := ".sigma.yml".toList

/-! ### Writing -/

inductive Domain where
  | ics
  | enterprise
deriving DecidableEq, Repr

def Domain.ending : Domain → Path
  | .ics => icsEnding
  | .enterprise => enterpriseEnding

/-- A run of the chain, with what it has come to write: which plugins have left a sidecar, whether
    it has got as far as the map, and which emits are on and have something to say. -/
structure Run where
  name : ReportName
  sidecars : List Plugin
  yamlMap : Bool
  ocsf : Bool
  layers : List Domain
  stix : Bool
  sigma : Bool
deriving DecidableEq

section Written
variable (reportsDir : Path)

def pathOf (name : ReportName) : Path := reportsDir ++ '/' :: name.text

/-- What `run_chain` writes, as the application calls it: without `--yaml-map`. -/
def Run.written (run : Run) : List Path :=
  let output := pathOf reportsDir run.name
  output :: (run.sidecars.map fun plugin => sidecarPath output (Plugin.suffix plugin)) ++
    (if run.yamlMap then [renamed output mapEnding] else []) ++
    (if run.ocsf then [renamed output ocsfEnding] else []) ++
    (run.layers.map fun domain => renamed output domain.ending) ++
    (if run.stix then [renamed output stixEnding] else []) ++
    if run.sigma then [renamed output sigmaEnding] else []

/-- The file is there, whether it was there before or not. -/
def writeFile (files : List Path) (path : Path) : List Path := if path ∈ files then files else files ++ [path]

def runChain (files : List Path) (run : Run) : List Path := (run.written reportsDir).foldl writeFile files

/-- The files of a project's reports. -/
def projectFiles (runs : List Run) : List Path := runs.foldl (runChain reportsDir) []

/-! ### Deleting -/

/-- The file is removed, if there is one. -/
def unlink (files : List Path) (path : Path) : List Path := if path ∈ files then files.filter (· ≠ path) else files

def siblingPaths (path : Path) : List Path :=
  (specs.map fun plugin => sidecarPath path (Plugin.suffix plugin)) ++
    [ocsfEnding, icsEnding, enterpriseEnding, stixEnding, sigmaEnding].map (renamed path)

/-- `api_report_delete`, for one who is an editor of the project or is not. -/
def apiReportDelete (editor : Bool) (filename : List Char) (files : List Path) :
    Except (Nat × String) Unit × List Path :=
  if editor then
    let path := reportsDir ++ '/' :: basename filename
    (.ok (), (path :: siblingPaths path).foldl unlink files)
  else (.error (404, "Project not found"), files)

end Written

/-! ### Which files there are -/

section Files
variable {reportsDir : Path} {files : List Path}

theorem mem_writeFile {f path : Path} : f ∈ writeFile files path ↔ f ∈ files ∨ f = path := by
  unfold writeFile
  split_ifs with there
  · exact ⟨Or.inl, fun h => h.elim id fun same => same ▸ there⟩
  · rw [List.mem_append, List.mem_singleton]

theorem mem_runChain {f : Path} {run : Run} :
    f ∈ runChain reportsDir files run ↔ f ∈ files ∨ f ∈ run.written reportsDir := by
  unfold runChain
  induction run.written reportsDir generalizing files with
  | nil => simp
  | cons path rest ih => rw [List.foldl_cons, ih, mem_writeFile, List.mem_cons, or_assoc]

theorem mem_projectFiles {f : Path} {runs : List Run} :
    f ∈ projectFiles reportsDir runs ↔ ∃ run ∈ runs, f ∈ run.written reportsDir := by
  have general : ∀ files, f ∈ runs.foldl (runChain reportsDir) files ↔
      f ∈ files ∨ ∃ run ∈ runs, f ∈ run.written reportsDir := by
    induction runs with
    | nil => simp
    | cons run rest ih =>
      intro files
      rw [List.foldl_cons, ih, mem_runChain, List.exists_mem_cons_iff, or_assoc]
  simp [projectFiles, general]

theorem mem_unlink {f path : Path} : f ∈ unlink files path ↔ f ∈ files ∧ f ≠ path := by
  unfold unlink
  split_ifs with there
  · rw [List.mem_filter, decide_eq_true_eq]
  · exact ⟨fun found => ⟨found, fun same => there (same ▸ found)⟩, And.left⟩

theorem mem_foldl_unlink {f : Path} (paths : List Path) :
    f ∈ paths.foldl unlink files ↔ f ∈ files ∧ f ∉ paths := by
  induction paths generalizing files with
  | nil => simp
  | cons path rest ih => rw [List.foldl_cons, ih, mem_unlink, List.mem_cons, not_or, and_assoc]

theorem basename_plain (name : ReportName) : basename name.text = name.text := by
  have all : ∀ c ∈ name.text.reverse, decide (c ≠ '/') = true := by
    intro c member
    simp only [ne_eq, decide_eq_true_eq]
    rintro rfl
    exact name.plain (List.mem_reverse.mp member)
  rw [basename, List.takeWhile_eq_self_iff.mpr all, List.reverse_reverse]

/-- What a deletion leaves. -/
theorem mem_apiReportDelete {f : Path} {name : ReportName} :
    f ∈ (apiReportDelete reportsDir true name.text files).2 ↔
      f ∈ files ∧ f ≠ pathOf reportsDir name ∧ f ∉ siblingPaths (pathOf reportsDir name) := by
  rw [apiReportDelete, if_pos rfl, basename_plain name]
  simp only [mem_foldl_unlink, List.mem_cons, not_or]
  rfl

/-- One who may not delete changes nothing. -/
theorem apiReportDelete_refused (filename : List Char) :
    (apiReportDelete reportsDir false filename files).2 = files := rfl

end Files

/-! ### Parts of names -/

section Names
variable {reportsDir : Path} {name : ReportName}

/-- An extension has one dot, in front. -/
theorem stem_split (text : List Char) :
    ∃ ext, text = stem text ++ ext ∧ (ext = [] ∨ ∃ letters, ext = '.' :: letters ∧ '.' ∉ letters) := by
  unfold stem
  dsimp only
  split_ifs with dotted
  · set rest := text.dropWhile (· = '.') with rest_eq
    have noDot : '.' ∉ (rest.reverse.takeWhile (· ≠ '.')).reverse := fun member => by
      simpa using List.mem_takeWhile_imp (List.mem_reverse.mp member)
    have back : rest.reverse.takeWhile (· ≠ '.') ++ rest.reverse.dropWhile (· ≠ '.') = rest.reverse :=
      List.takeWhile_append_dropWhile
    have head := List.head?_dropWhile_not (· ≠ '.') rest.reverse
    cases split : rest.reverse.dropWhile (· ≠ '.') with
    | nil =>
      have without := List.dropWhile_eq_nil_iff.mp split '.' (List.mem_reverse.mpr (List.contains_iff_mem.mp dotted))
      exact absurd rfl (of_decide_eq_true without)
    | cons c before =>
      rw [split] at back head
      have dot : c = '.' := by simpa using head
      have forth := congrArg List.reverse back
      rw [dot, List.reverse_append, List.reverse_cons, List.reverse_reverse, List.append_assoc] at forth
      refine ⟨'.' :: (rest.reverse.takeWhile (· ≠ '.')).reverse, ?_, Or.inr ⟨_, rfl, noDot⟩⟩
      rw [List.tail_cons, List.append_assoc]
      exact (List.takeWhile_append_dropWhile (p := (· = '.')) (l := text)).symm.trans (congrArg _ forth.symm)
  · exact ⟨[], (List.append_nil text).symm, Or.inl rfl⟩

theorem root_pathOf : root (pathOf reportsDir name) = reportsDir ++ '/' :: stem name.text := by
  rw [root, pathOf, basename_append _ name.plain]
  have before : (reportsDir ++ '/' :: name.text).take ((reportsDir ++ '/' :: name.text).length - name.text.length) =
      reportsDir ++ ['/'] := by
    rw [← List.singleton_append, ← List.append_assoc, List.length_append, Nat.add_sub_cancel, List.take_left]
  rw [before, List.append_assoc, List.singleton_append]

theorem pathOf_split : ∃ ext, pathOf reportsDir name = root (pathOf reportsDir name) ++ ext ∧
    (ext = [] ∨ ∃ letters, ext = '.' :: letters ∧ '.' ∉ letters) := by
  obtain ⟨ext, split, kind⟩ := stem_split name.text
  refine ⟨ext, ?_, kind⟩
  rw [root_pathOf, List.append_assoc, List.cons_append, ← split]
  rfl

/-- The root goes as far as any dot. -/
theorem root_split {before rest : Path} (path : pathOf reportsDir name = before ++ '.' :: rest) :
    ∃ more, root (pathOf reportsDir name) = before ++ more ∧ (more = [] ∨ ∃ tail, more = '.' :: tail) := by
  obtain ⟨ext, split, kind⟩ := pathOf_split
  rcases kind with rfl | ⟨letters, rfl, noDot⟩
  · exact ⟨'.' :: rest, by rw [← path, ← List.append_nil (root _), ← split], Or.inr ⟨rest, rfl⟩⟩
  · rcases List.append_eq_append_iff.mp (split.symm.trans path) with ⟨more, further, same⟩ | ⟨more, short, same⟩
    · cases more with
      | nil => exact ⟨[], by rw [further, List.append_nil, List.append_nil], Or.inl rfl⟩
      | cons c more =>
        have later : letters = more ++ '.' :: rest := (List.cons.inj same).2
        exact absurd (later ▸ List.mem_append_right more List.mem_cons_self) noDot
    · cases more with
      | nil => exact ⟨[], short, Or.inl rfl⟩
      | cons c more => exact ⟨c :: more, short, Or.inr ⟨more, by rw [← (List.cons.inj same).1]⟩⟩

/-- Only the dot becomes a dot. -/
theorem dot_of_lower {c : Char} (dot : c.toLower = '.') : c = '.' := by
  unfold Char.toLower at dot
  split at dot
  case isTrue upper =>
    have high : 65 ≤ c.val.toNat := UInt32.le_iff_toNat_le.mp upper.1
    have low : c.val.toNat ≤ 90 := UInt32.le_iff_toNat_le.mp upper.2
    have same := congrArg (fun d : Char => d.val.toNat) dot
    have shift : ('a'.val - 'A'.val).toNat = 32 := rfl
    have value : '.'.val.toNat = 46 := rfl
    simp only [UInt32.toNat_add] at same
    omega
  case isFalse => exact dot

/-- The last five letters of a primary name. -/
theorem ending_of_primary : ∃ before letters, name.text = before ++ '.' :: letters ∧ lower letters = "json".toList := by
  have primary := name.primary
  rw [isPrimaryReportFilename, basename_plain name, Bool.and_eq_true] at primary
  obtain ⟨before, whole⟩ := List.isSuffixOf_iff_suffix.mp primary.1
  obtain ⟨first, last, split, -, ends⟩ := List.map_eq_append_iff.mp whole.symm
  obtain ⟨c, letters, rfl, dot, rest⟩ := List.map_eq_cons_iff.mp ends
  exact ⟨first, letters, by rw [split, dot_of_lower dot], rest⟩

/-- No primary name is the name of a sidecar. -/
theorem not_sidecar (plugin : Plugin) (before : Path) : name.text ≠ before ++ Plugin.suffix plugin := by
  intro same
  have primary := name.primary
  rw [isPrimaryReportFilename, basename_plain name, Bool.and_eq_true, List.all_eq_true] at primary
  have listed : lower (Plugin.suffix plugin) ∈ nonPrimarySuffixes := by cases plugin <;> decide
  have other := primary.2 _ listed
  rw [same, lower, lower, List.map_append, Bool.not_eq_true', ← Bool.not_eq_true, List.isSuffixOf_iff_suffix] at other
  exact other (List.suffix_append _ _)

end Names

/-! ### Where names meet -/

section Meeting
variable {reportsDir : Path} {name other : ReportName}

/-- Two texts with one end are ends of one another. -/
theorem ends_meet {before after left right : Path} (same : before ++ left = after ++ right) :
    left <:+ right ∨ right <:+ left :=
  List.suffix_or_suffix_of_suffix (List.suffix_append before left) (same ▸ List.suffix_append after right)

theorem suffix_apart {before after : Path} {plugin sibling : Plugin}
    (same : before ++ Plugin.suffix plugin = after ++ Plugin.suffix sibling) : plugin = sibling := by
  have meet := ends_meet same
  revert meet
  cases plugin <;> cases sibling <;> decide

theorem path_ne_sidecar (plugin : Plugin) :
    pathOf reportsDir other ≠ sidecarPath (pathOf reportsDir name) (Plugin.suffix plugin) := by
  intro same
  rw [sidecarPath, root_pathOf, List.append_assoc, pathOf, List.append_cancel_left_eq, List.cons_append,
    List.cons_eq_cons] at same
  exact not_sidecar plugin _ same.2

theorem pathOf_injective (same : pathOf reportsDir other = pathOf reportsDir name) : other = name := by
  rw [pathOf, pathOf, List.append_cancel_left_eq, List.cons_eq_cons] at same
  cases other
  cases name
  simpa using same.2

theorem sidecar_meets {plugin sibling : Plugin}
    (same : sidecarPath (pathOf reportsDir other) (Plugin.suffix plugin) =
      sidecarPath (pathOf reportsDir name) (Plugin.suffix sibling)) : stem other.text = stem name.text := by
  have alike := suffix_apart same
  subst alike
  rw [sidecarPath, sidecarPath, List.append_cancel_right_eq, root_pathOf, root_pathOf,
    List.append_cancel_left_eq, List.cons_eq_cons] at same
  exact same.2

def emitEndings : List Path := [mapEnding, ocsfEnding, icsEnding, enterpriseEnding, stixEnding, sigmaEnding]

/-- What the chain derives by `replace` has another end than a sidecar. -/
theorem renamed_ne_sidecar {ending : Path} (listed : ending ∈ emitEndings) (plugin : Plugin) :
    renamed (pathOf reportsDir other) ending ≠ sidecarPath (pathOf reportsDir name) (Plugin.suffix plugin) := by
  obtain ⟨before, letters, text, json⟩ := @ending_of_primary other
  have cut : renamed (pathOf reportsDir other) ending =
      renamed (reportsDir ++ '/' :: before) ending ++ renamed ('.' :: letters) ending := by
    rw [pathOf, text, ← List.cons_append, ← List.append_assoc]
    exact replaceAll_append (by decide) _ _
  intro same
  rw [cut] at same
  by_cases small : letters = "json".toList
  · have last : renamed ('.' :: letters) ending = ending := by
      rw [small]
      exact (replaceAll_occurrence (by decide) []).trans (List.append_nil ending)
    have meet := ends_meet (last ▸ same)
    have apart : ∀ ending ∈ emitEndings, ∀ plugin ∈ specs,
      ¬ (ending <:+ Plugin.suffix plugin ∨ Plugin.suffix plugin <:+ ending) := by decide
    exact apart ending listed plugin (by cases plugin <;> decide) meet
  · have length : letters.length = 4 := by simpa [lower] using congrArg List.length json
    have free : ¬ ".json".toList <:+: '.' :: letters := fun occurs =>
      small (List.cons.inj (occurs.eq_of_length (by simp [length]))).2.symm
    have last : renamed ('.' :: letters) ending = '.' :: letters := replaceAll_of_not_infix free
    obtain ⟨front, ends⟩ : ∃ front, Plugin.suffix plugin = front ++ ".json".toList := by
      cases plugin
      · exact ⟨"-mitre".toList, rfl⟩
      · exact ⟨"-arp".toList, rfl⟩
      · exact ⟨"-apt".toList, rfl⟩
      · exact ⟨"-cisa".toList, rfl⟩
    rw [last, sidecarPath, ends, ← List.append_assoc] at same
    exact small (List.cons.inj (List.append_inj_right' same (by simp [length]))).2

end Meeting

/-! ### The deletion -/

section Deletion
variable (reportsDir : Path) (runs : List Run) (name : ReportName)

/-- After the deletion no file that was written for the report is there, and every other one is. -/
def RemovesExactly : Prop :=
  let left := (apiReportDelete reportsDir true name.text (projectFiles reportsDir runs)).2
  (∀ run ∈ runs, run.name = name → ∀ f ∈ run.written reportsDir, f ∉ left) ∧
    ∀ run ∈ runs, run.name ≠ name → ∀ f ∈ run.written reportsDir, f ∈ left

/-- No sidecar of the run is one of the report, and no other file of the run is the report. -/
structure Apart (run : Run) : Prop where
  stems : run.sidecars ≠ [] → stem run.name.text ≠ stem name.text
  map : run.yamlMap → renamed (pathOf reportsDir run.name) mapEnding ≠ pathOf reportsDir name
  ocsf : run.ocsf → renamed (pathOf reportsDir run.name) ocsfEnding ≠ pathOf reportsDir name
  sigma : run.sigma → renamed (pathOf reportsDir run.name) sigmaEnding ≠ pathOf reportsDir name

/-- `.json` is nowhere in the path, and the other reports' files are apart from the report's. -/
structure Deletable : Prop where
  free : ¬ ".json".toList <:+: pathOf reportsDir name
  apart : ∀ run ∈ runs, run.name ≠ name → Apart reportsDir name run

variable {reportsDir runs name}

theorem mem_written {run : Run} {f : Path} : f ∈ run.written reportsDir ↔
    f = pathOf reportsDir run.name ∨
    (∃ plugin ∈ run.sidecars, f = sidecarPath (pathOf reportsDir run.name) (Plugin.suffix plugin)) ∨
    (run.yamlMap ∧ f = renamed (pathOf reportsDir run.name) mapEnding) ∨
    (run.ocsf ∧ f = renamed (pathOf reportsDir run.name) ocsfEnding) ∨
    (∃ domain ∈ run.layers, f = renamed (pathOf reportsDir run.name) domain.ending) ∨
    (run.stix ∧ f = renamed (pathOf reportsDir run.name) stixEnding) ∨
    (run.sigma ∧ f = renamed (pathOf reportsDir run.name) sigmaEnding) := by
  have single : ∀ (flag : Bool) (path : Path), f ∈ (if flag then [path] else []) ↔ flag ∧ f = path := by
    intro flag path
    cases flag <;> simp
  simp only [Run.written, List.mem_append, List.mem_cons, List.mem_map, single, or_assoc, @eq_comm _ f]

theorem mem_siblingPaths {path f : Path} : f ∈ siblingPaths path ↔
    (∃ plugin, f = sidecarPath path (Plugin.suffix plugin)) ∨
      ∃ ending ∈ [ocsfEnding, icsEnding, enterpriseEnding, stixEnding, sigmaEnding], f = renamed path ending := by
  have every : ∀ plugin, plugin ∈ specs := by
    intro plugin
    cases plugin <;> decide
  simp only [siblingPaths, List.mem_append, List.mem_map, every, true_and, @eq_comm _ f]

/-- A path without `.json` is its own derivative. -/
theorem renamed_of_free {path : Path} (free : ¬ ".json".toList <:+: path) (ending : Path) : renamed path ending = path :=
  replaceAll_of_not_infix free

/-- The map of a path with `.json` is neither the path nor one of the siblings that are deleted. -/
theorem map_left (occurs : ".json".toList <:+: pathOf reportsDir name) :
    renamed (pathOf reportsDir name) mapEnding ≠ pathOf reportsDir name ∧
      renamed (pathOf reportsDir name) mapEnding ∉ siblingPaths (pathOf reportsDir name) := by
  obtain ⟨before, after, path, first⟩ := replaceAll_first (by decide) occurs
  have map : renamed (pathOf reportsDir name) mapEnding =
    before ++ ("-map.yaml".toList ++ replaceAll ".json".toList mapEnding after) := first mapEnding
  constructor
  · intro same
    rw [map, path, List.append_cancel_left_eq] at same
    exact absurd (List.cons.inj same).1 (by decide)
  · intro sibling
    rcases mem_siblingPaths.mp sibling with ⟨plugin, same⟩ | ⟨ending, listed, same⟩
    · obtain ⟨more, root_eq, kind⟩ := root_split path
      rw [map, sidecarPath, root_eq, List.append_assoc, List.append_cancel_left_eq] at same
      rcases kind with rfl | ⟨tail, rfl⟩
      · have starts : "-ma".toList <+: Plugin.suffix plugin := ⟨"p.yaml".toList ++ _, same⟩
        exact absurd starts (by cases plugin <;> decide)
      · exact absurd (List.cons.inj same).1 (by decide)
    · have dotted : ∀ ending ∈ [ocsfEnding, icsEnding, enterpriseEnding, stixEnding, sigmaEnding],
        ending.head? = some '.' := by decide
      have renamed_eq : renamed (pathOf reportsDir name) ending =
        before ++ (ending ++ replaceAll ".json".toList ending after) := first ending
      rw [map, renamed_eq, List.append_cancel_left_eq] at same
      have heads := congrArg List.head? same
      rw [List.head?_append, List.head?_append, dotted ending listed, Option.some_or] at heads
      exact absurd (Option.some.inj heads) (by decide)

/-- What is derived with an ending that has `.json` in it is not a path without. -/
theorem renamed_ne_path {other : ReportName} {ending : Path} (json : ".json".toList <:+: ending) (different : other ≠ name)
    (free : ¬ ".json".toList <:+: pathOf reportsDir name) :
    renamed (pathOf reportsDir other) ending ≠ pathOf reportsDir name := by
  intro same
  by_cases occurs : ".json".toList <:+: pathOf reportsDir other
  · obtain ⟨before, after, -, first⟩ := replaceAll_first (by decide) occurs
    have inside : ending <:+: pathOf reportsDir name := by
      rw [← same, renamed, first ending, ← List.append_assoc]
      exact List.infix_append before ending _
    exact free (json.trans inside)
  · rw [renamed_of_free occurs] at same
    exact different (pathOf_injective same)

/-- A file of another run is removed only if the two are not apart. -/
theorem kept_of_apart (free : ¬ ".json".toList <:+: pathOf reportsDir name) {run : Run} (different : run.name ≠ name)
    (apart : Apart reportsDir name run) {f : Path} (wrote : f ∈ run.written reportsDir) :
    f ≠ pathOf reportsDir name ∧ f ∉ siblingPaths (pathOf reportsDir name) := by
  have alone : f ≠ pathOf reportsDir name →
      (∀ plugin, f ≠ sidecarPath (pathOf reportsDir name) (Plugin.suffix plugin)) →
      f ≠ pathOf reportsDir name ∧ f ∉ siblingPaths (pathOf reportsDir name) := by
    refine fun path sidecars => ⟨path, fun sibling => ?_⟩
    rcases mem_siblingPaths.mp sibling with ⟨plugin, same⟩ | ⟨ending, -, same⟩
    · exact sidecars plugin same
    · exact path (same.trans (renamed_of_free free ending))
  rcases mem_written.mp wrote with rfl | ⟨plugin, listed, rfl⟩ | ⟨on, rfl⟩ | ⟨on, rfl⟩ | ⟨domain, -, rfl⟩ | ⟨-, rfl⟩ | ⟨on, rfl⟩
  · exact alone (fun same => different (pathOf_injective same)) fun plugin => path_ne_sidecar plugin
  · exact alone (fun same => path_ne_sidecar plugin same.symm) fun sibling same =>
      apart.stems (List.ne_nil_of_mem listed) (sidecar_meets same)
  · exact alone (apart.map on) (renamed_ne_sidecar (by decide))
  · exact alone (apart.ocsf on) (renamed_ne_sidecar (by decide))
  · have json : ".json".toList <:+: domain.ending := by cases domain <;> decide
    have listed : domain.ending ∈ emitEndings := by cases domain <;> decide
    exact alone (renamed_ne_path json different free) (renamed_ne_sidecar listed)
  · exact alone (renamed_ne_path (by decide) different free) (renamed_ne_sidecar (by decide))
  · exact alone (apart.sigma on) (renamed_ne_sidecar (by decide))

/-- Without `.json` in its path all that was written for a report is removed. -/
theorem removed_of_free (free : ¬ ".json".toList <:+: pathOf reportsDir name) {run : Run} (same : run.name = name)
    {f : Path} (wrote : f ∈ run.written reportsDir) :
    f = pathOf reportsDir name ∨ f ∈ siblingPaths (pathOf reportsDir name) := by
  have derived : ∀ ending, renamed (pathOf reportsDir run.name) ending = pathOf reportsDir name := fun ending =>
    same ▸ renamed_of_free (same ▸ free) ending
  rcases mem_written.mp wrote with rfl | ⟨plugin, -, rfl⟩ | ⟨-, rfl⟩ | ⟨-, rfl⟩ | ⟨domain, -, rfl⟩ | ⟨-, rfl⟩ | ⟨-, rfl⟩
  · exact Or.inl (by rw [same])
  · exact Or.inr (mem_siblingPaths.mpr (Or.inl ⟨plugin, by rw [same]⟩))
  all_goals exact Or.inl (derived _)

/-- The sidecar of a run is removed with a report of the same stem. -/
theorem sidecar_removed {run : Run} (same : stem run.name.text = stem name.text) (plugin : Plugin) :
    sidecarPath (pathOf reportsDir run.name) (Plugin.suffix plugin) ∈ siblingPaths (pathOf reportsDir name) :=
  mem_siblingPaths.mpr (Or.inl ⟨plugin, by rw [sidecarPath, sidecarPath, root_pathOf, root_pathOf, same]⟩)

theorem apart_of_kept {run : Run}
    (kept : ∀ f ∈ run.written reportsDir, f ≠ pathOf reportsDir name ∧ f ∉ siblingPaths (pathOf reportsDir name)) :
    Apart reportsDir name run where
  stems some_ same := by
    obtain ⟨plugin, listed⟩ := List.exists_mem_of_ne_nil _ some_
    exact (kept _ (mem_written.mpr (Or.inr (Or.inl ⟨plugin, listed, rfl⟩)))).2 (sidecar_removed same plugin)
  map on := (kept _ (mem_written.mpr (Or.inr (Or.inr (Or.inl ⟨on, rfl⟩))))).1
  ocsf on := (kept _ (mem_written.mpr (Or.inr (Or.inr (Or.inr (Or.inl ⟨on, rfl⟩)))))).1
  sigma on := (kept _ (mem_written.mpr (by simp [on]))).1

variable (reportsDir runs name)

end Deletion

/-! #### Two reports -/

def projectDir : Path := "/data/reports/1/7".toList

/-- A run that has written everything. -/
def fullRun (name : ReportName) : Run := ⟨name, specs, true, true, [.ics, .enterprise], true, true⟩

def plant : ReportName := ⟨"plant.json".toList, by decide, by decide⟩
def oldPlant : ReportName := ⟨"plant.JSON".toList, by decide, by decide⟩
def floor : ReportName := ⟨"floor.json".toList, by decide, by decide⟩

end Marlinspike.Reports.Siblings
