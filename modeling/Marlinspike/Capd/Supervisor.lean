import Mathlib.Algebra.Order.Ring.Unbundled.Rat
import Mathlib.Data.List.Sort
import Mathlib.Data.List.Lex
import Mathlib.Data.List.Pairwise
import Marlinspike.Decimal
import Marlinspike.PyDict

/-!
The rotation tracking of `CaptureSupervisor._snapshot`: which ring file is being
written, which files are reported as closed, and how many were evicted unseen.
Paths are lists of characters, whose order is that of Python's `sorted`.
-/
namespace Marlinspike.Capd.Supervisor
open Marlinspike.Decimal

abbrev Path := List Char

/-! ### The names of the ring files -/

/-- Where `dumpcap` writes, and the time stamp that it puts into each file's name. -/
structure Naming where
  outputDir : Path
  stamp : Nat → Nat

/-- The sequence number is padded with zeros to five digits. -/
def places (n : Nat) : Nat := max 5 (width n)

/-- What follows the sequence number in a file's name. -/
def Naming.tail (naming : Naming) (n : Nat) : List Char :=
  decimal (width (naming.stamp n)) (naming.stamp n) ++ ".pcapng".toList

/-- `<output_dir>/cap_<seq>_<timestamp>.pcapng`. -/
def Naming.path (naming : Naming) (n : Nat) : Path :=
  naming.outputDir ++ '/' :: ("cap_".toList ++ (decimal (places n) n ++ '_' :: naming.tail n))

/-- `os.path.basename`. -/
def basename (path : Path) : List Char := (path.reverse.takeWhile (· ≠ '/')).reverse

/-- `cap_(\d+)_` at the beginning of the text. -/
def matchSeq (text : List Char) : Option Nat :=
  if "cap_".toList.isPrefixOf text then
    let digits := (text.drop 4).takeWhile Char.isDigit
    if digits ≠ [] ∧ ((text.drop 4).dropWhile Char.isDigit).head? = some '_' then some (value digits) else none
  else none

/-- `_SEQ_RE.search`: the leftmost match. -/
def searchSeq : List Char → Option Nat
  | [] => none
  | c :: rest => (matchSeq (c :: rest)).or (searchSeq rest)

/-- `_seq_of`. -/
def seqOf (path : Path) : Option Nat := searchSeq (basename path)

/-- `sorted`. -/
def sorted (files : List Path) : List Path := files.insertionSort (· ≤ ·)

/-! ### The tracking state and its update -/

structure CaptureStats where
  ts : Rat
  bytesTotal : Nat
  bytesPerSec : Rat
  currentFile : Option Path
  fileIndex : Nat
  filesClosed : List Path
  running : Bool
  filesLostCount : Nat

/-- The warning about files that were evicted before any poll saw them: the range of
    their sequence numbers. -/
structure GapWarning where
  first : Nat
  last : Nat
deriving DecidableEq, Repr

/-- The fields that `_snapshot` reads and writes under its lock, and its log. -/
structure Tracking where
  previousActive : Option Path
  closedEmitted : List Path
  chmodDone : List Path
  highestSeqAccountedFor : Nat
  filesLostCount : Nat
  lastPollTs : Rat
  lastPollBytes : Nat
  warnings : List GapWarning

def Tracking.init : Tracking := ⟨none, [], [], 0, 0, 0, 0, []⟩

/-- What the host answers during one update. -/
structure Host where
  now : Rat
  getsize : Path → Option Nat
  chmod : Path → Bool

/-- `if f not in self._closed_emitted:` report and remember it. -/
def emit (lists : List Path × List Path) (f : Path) : List Path × List Path :=
  if f ∈ lists.2 then lists else (lists.1 ++ [f], lists.2 ++ [f])

/-- The files that are closed if they have not been reported yet, in the order in which
    they are looked at: the previous active file, all but the active one, and on
    finalize the active one too. -/
def closable (previousActive active : Option Path) (files : List Path) (finalize : Bool) : List Path :=
  (if previousActive ≠ active then previousActive.toList else []) ++
    files.filter (fun f => some f ≠ active) ++ if finalize then active.toList else []

/-- `newly_closed`, and the emitted list after it. -/
def close (t : Tracking) (active : Option Path) (files : List Path) (finalize : Bool) : List Path × List Path :=
  (closable t.previousActive active files finalize).foldl emit ([], t.closedEmitted)

/-- The gap check: files below the lowest on disk that no poll has accounted for. -/
def detectGap (t : Tracking) (files : List Path) : Tracking :=
  let seqs := files.filterMap seqOf
  match seqs.min?, seqs.max? with
  | some lowest, some largest =>
    let highest := max t.highestSeqAccountedFor largest
    if lowest > t.highestSeqAccountedFor + 1 then
      { t with
        filesLostCount := t.filesLostCount + (lowest - t.highestSeqAccountedFor - 1)
        warnings := t.warnings ++ [⟨t.highestSeqAccountedFor + 1, lowest - 1⟩]
        highestSeqAccountedFor := highest }
    else { t with highestSeqAccountedFor := highest }
  | _, _ => t

/-- The locked part of `_snapshot`, on a sorted listing. -/
def update (t : Tracking) (host : Host) (files : List Path) (running finalize : Bool) : CaptureStats × Tracking :=
  let active := files.getLast?
  let gapped := detectGap t files
  let closed := close t active files finalize
  let bytesTotal := (files.filterMap host.getsize).sum
  let bytesPerSec : Rat :=
    if t.lastPollTs ≠ 0 ∧ host.now > t.lastPollTs then
      max 0 (((bytesTotal : Rat) - t.lastPollBytes) / (host.now - t.lastPollTs))
    else 0
  (⟨host.now, bytesTotal, bytesPerSec, active, files.length, closed.1, running, gapped.filesLostCount⟩,
    { gapped with
      previousActive := active
      closedEmitted := closed.2
      chmodDone := t.chmodDone ++ files.filter fun f => f ∉ t.chmodDone && host.chmod f
      lastPollTs := host.now
      lastPollBytes := bytesTotal })

/-- `_snapshot`: the listing in any order, sorted, and the update. -/
def snapshot (t : Tracking) (host : Host) (listing : List Path) (running finalize : Bool) : CaptureStats × Tracking :=
  update t host (sorted listing) running finalize

/-! ### Names and sequence numbers -/

variable {naming : Naming}

theorem tail_no_slash (naming : Naming) (n : Nat) : '/' ∉ naming.tail n := by
  simp only [Naming.tail, List.mem_append, not_or]
  refine ⟨fun member => ?_, by decide⟩
  exact absurd (isDigit_of_mem_decimal member) (by decide)

theorem basename_append (dir : Path) {name : List Char} (plain : '/' ∉ name) :
    basename (dir ++ '/' :: name) = name := by
  have all : ∀ c ∈ name.reverse, decide (c ≠ '/') = true := by
    intro c member
    simp only [ne_eq, decide_eq_true_eq]
    rintro rfl
    exact plain (List.mem_reverse.mp member)
  simp only [basename, List.reverse_append, List.reverse_cons, List.append_assoc]
  rw [List.takeWhile_append_of_pos all]
  simp

private theorem seq_no_slash (naming : Naming) (n : Nat) :
    '/' ∉ "cap_".toList ++ (decimal (places n) n ++ '_' :: naming.tail n) := by
  simp only [List.mem_append, List.mem_cons, not_or]
  refine ⟨by decide, fun member => ?_, by decide, tail_no_slash naming n⟩
  exact absurd (isDigit_of_mem_decimal member) (by decide)

theorem padded (n : Nat) : 5 ≤ places n := Nat.le_max_left 5 _

theorem lt_pow_places (n : Nat) : n < 10 ^ places n :=
  Nat.lt_of_lt_of_le (lt_pow_width n) (Nat.pow_le_pow_right (by decide) (Nat.le_max_right ..))

private theorem matchSeq_name (w n : Nat) (positive : 0 < w) (fits : n < 10 ^ w) (rest : List Char) :
    matchSeq ("cap_".toList ++ (decimal w n ++ '_' :: rest)) = some n := by
  have all : ∀ c ∈ decimal w n, c.isDigit = true := fun c member => isDigit_of_mem_decimal member
  have digits : (decimal w n ++ '_' :: rest).takeWhile Char.isDigit = decimal w n := by
    rw [List.takeWhile_append_of_pos all]
    simp [show ('_').isDigit = false from by decide]
  have close : (decimal w n ++ '_' :: rest).dropWhile Char.isDigit = '_' :: rest := by
    rw [List.dropWhile_append_of_pos all]
    simp [show ('_').isDigit = false from by decide]
  have nonempty : decimal w n ≠ [] := by
    intro empty
    have length := congrArg List.length empty
    rw [length_decimal] at length
    exact Nat.ne_of_gt positive length
  have start : "cap_".toList.isPrefixOf ("cap_".toList ++ (decimal w n ++ '_' :: rest)) = true := by
    simp
  have drop : ("cap_".toList ++ (decimal w n ++ '_' :: rest)).drop 4 = decimal w n ++ '_' :: rest := rfl
  simp only [matchSeq, start, drop, digits, close, if_true]
  rw [if_pos ⟨nonempty, rfl⟩, value_decimal fits]

/-- The sequence number can be read back from the name. -/
@[simp] theorem seqOf_path (naming : Naming) (n : Nat) : seqOf (naming.path n) = some n := by
  rw [seqOf, Naming.path, basename_append _ (seq_no_slash naming n)]
  have found := matchSeq_name (places n) n (Nat.lt_of_lt_of_le (by decide) (padded n)) (lt_pow_places n) (naming.tail n)
  change Option.or (matchSeq ("cap_".toList ++ _)) _ = _
  rw [found, Option.some_or]

theorem path_injective (naming : Naming) : Function.Injective naming.path := by
  intro m n same
  have seqs := congrArg seqOf same
  simpa using seqs

/-! ### Their order -/

private theorem path_lt_iff (naming : Naming) (m n : Nat) :
    naming.path m < naming.path n ↔
      decimal (places m) m ++ '_' :: naming.tail m < decimal (places n) n ++ '_' :: naming.tail n := by
  rw [Naming.path, Naming.path, append_lt_append_left, List.cons_lt_cons_iff]
  simp only [lt_irrefl, true_and, false_or]
  rw [append_lt_append_left]

/-- As long as the numbers print to the same width, later files come later. -/
theorem path_lt_of_places (naming : Naming) {m n : Nat} (less : m < n) (same : places m = places n) :
    naming.path m < naming.path n := by
  rw [path_lt_iff, same]
  exact append_lt_append_of_lt (by simp) (decimal_lt less (lt_pow_places n)) _ _

theorem width_nines {w : Nat} (positive : 0 < w) : width (10 ^ w - 1) = w := by
  have whole : 1 ≤ 10 ^ w := Nat.one_le_pow _ _ (by decide)
  refine Nat.le_antisymm ?_ ?_
  · refine Nat.succ_le_of_lt (Nat.log_lt_of_lt_pow ?_ (by omega))
    have : 10 ^ 1 ≤ 10 ^ w := Nat.pow_le_pow_right (by decide) positive
    omega
  · obtain ⟨v, rfl⟩ := Nat.exists_eq_succ_of_ne_zero (Nat.ne_of_gt positive)
    refine lt_width_of_pow_le ?_
    have : 1 ≤ 10 ^ v := Nat.one_le_pow _ _ (by decide)
    rw [Nat.pow_succ]
    omega

theorem places_nines {w : Nat} (enough : 5 ≤ w) : places (10 ^ w - 1) = w := by
  rw [places, width_nines (by omega), Nat.max_eq_right enough]

/-- A file whose number is all nines comes after every file whose number is wider. -/
theorem path_lt_nines (naming : Naming) {w n : Nat} (enough : 5 ≤ w) (wider : w < places n) :
    naming.path n < naming.path (10 ^ w - 1) := by
  rw [path_lt_iff, places_nines enough, decimal_nines]
  exact longer_lt_nines (fun c member => isDigit_of_mem_decimal member) (by simpa using wider) (by decide) _ _

theorem places_mono {m n : Nat} (le : m ≤ n) : places m ≤ places n := max_le_max_left 5 (width_mono le)

theorem getLast?_sorted {files : List Path} {last : Path} (member : last ∈ files) (greatest : ∀ f ∈ files, f ≤ last) :
    (sorted files).getLast? = some last := by
  have inside : last ∈ sorted files := (List.mem_insertionSort _).mpr member
  obtain ⟨top, found⟩ := Option.ne_none_iff_exists'.mp
    (fun none => List.ne_nil_of_mem inside (List.getLast?_eq_none_iff.mp none))
  have upper : top ≤ last := greatest top ((List.mem_insertionSort _).mp (List.mem_of_getLast? found))
  have lower : last ≤ top := by
    have order : (sorted files).Pairwise (· ≤ ·) := List.pairwise_insertionSort (· ≤ ·) files
    rw [← List.getLast_of_getLast?_eq_some found]
    exact order.rel_getLast inside
  rw [found, le_antisymm upper lower]

/-! ### The window on disk -/

/-- The ring files with the numbers from `lo` to `hi`. -/
def window (naming : Naming) (lo hi : Nat) : List Path := (List.range' lo (hi + 1 - lo)).map naming.path

theorem mem_window {lo hi : Nat} {f : Path} :
    f ∈ window naming lo hi ↔ ∃ n, lo ≤ n ∧ n ≤ hi ∧ f = naming.path n := by
  simp only [window, List.mem_map, List.mem_range'_1]
  constructor
  · rintro ⟨n, ⟨lower, upper⟩, rfl⟩
    exact ⟨n, lower, by omega, rfl⟩
  · rintro ⟨n, lower, upper, rfl⟩
    exact ⟨n, ⟨lower, by omega⟩, rfl⟩

/-- The number of the file that sorts last: the newest one, as long as all numbers in
    the window print to the same width. -/
def lastInOrder (lo hi : Nat) : Nat := if places lo = places hi then hi else 10 ^ places lo - 1

theorem lastInOrder_bounds {lo hi : Nat} (le : lo ≤ hi) : lo ≤ lastInOrder lo hi ∧ lastInOrder lo hi ≤ hi := by
  unfold lastInOrder
  split_ifs with same
  · exact ⟨le, Nat.le_refl hi⟩
  · have fits := lt_pow_places lo
    refine ⟨by omega, ?_⟩
    by_contra large
    have few : width hi ≤ places lo := by
      refine Nat.succ_le_of_lt (Nat.log_lt_of_lt_pow' ?_ (by omega))
      exact Nat.ne_of_gt (Nat.lt_of_lt_of_le (by decide) (padded lo))
    exact same (Nat.le_antisymm (places_mono le) (max_le (padded lo) few))

theorem lastInOrder_lt {lo hi : Nat} (le : lo ≤ hi) (straddles : places lo ≠ places hi) : lastInOrder lo hi < hi := by
  refine Nat.lt_of_le_of_ne (lastInOrder_bounds le).2 fun same => straddles ?_
  rw [lastInOrder, if_neg straddles] at same
  rw [← same, places_nines (padded lo)]

theorem path_le_lastInOrder {lo hi n : Nat} (lower : lo ≤ n) (upper : n ≤ hi) :
    naming.path n ≤ naming.path (lastInOrder lo hi) := by
  have from_lo := places_mono lower
  have to_hi := places_mono upper
  unfold lastInOrder
  split_ifs with same
  · rcases Nat.lt_or_eq_of_le upper with less | rfl
    · exact le_of_lt (path_lt_of_places naming less (by omega))
    · exact le_refl _
  · rcases Nat.lt_or_eq_of_le from_lo with wider | equal
    · exact le_of_lt (path_lt_nines naming (padded lo) wider)
    · have fits := lt_pow_places n
      rcases Nat.lt_or_ge n (10 ^ places lo - 1) with less | top
      · refine le_of_lt (path_lt_of_places naming less ?_)
        rw [places_nines (padded lo), equal]
      · have nines : n = 10 ^ places lo - 1 := by rw [equal] at top ⊢; omega
        rw [nines]

/-- The active file of a listing of the window. -/
theorem getLast?_listing {lo hi : Nat} (le : lo ≤ hi) {listing : List Path}
    (listed : listing.Perm (window naming lo hi)) :
    (sorted listing).getLast? = some (naming.path (lastInOrder lo hi)) := by
  obtain ⟨lower, upper⟩ := lastInOrder_bounds le
  refine getLast?_sorted (listed.mem_iff.mpr (mem_window.mpr ⟨_, lower, upper, rfl⟩)) fun f member => ?_
  obtain ⟨n, lower, upper, rfl⟩ := mem_window.mp (listed.mem_iff.mp member)
  exact path_le_lastInOrder lower upper

/-! ### What an update reports -/

/-- A run of `emit` appends the same new files to both lists: those not reported yet. -/
theorem foldl_emit (candidates report emitted : List Path) :
    ∃ fresh, candidates.foldl emit (report, emitted) = (report ++ fresh, emitted ++ fresh) ∧ fresh.Nodup ∧
      ∀ f, f ∈ fresh ↔ f ∈ candidates ∧ f ∉ emitted := by
  induction candidates generalizing report emitted with
  | nil => exact ⟨[], by simp, List.nodup_nil, by simp⟩
  | cons c rest ih =>
    rw [List.foldl_cons]
    by_cases old : c ∈ emitted
    · obtain ⟨fresh, folded, distinct, mem⟩ := ih report emitted
      refine ⟨fresh, by rw [emit, if_pos old, folded], distinct, fun f => ?_⟩
      rw [mem f, List.mem_cons]
      constructor
      · exact fun ⟨later, new⟩ => ⟨.inr later, new⟩
      · rintro ⟨rfl | later, new⟩
        · exact absurd old new
        · exact ⟨later, new⟩
    · obtain ⟨fresh, folded, distinct, mem⟩ := ih (report ++ [c]) (emitted ++ [c])
      refine ⟨c :: fresh, by rw [emit, if_neg old, folded]; simp, ?_, fun f => ?_⟩
      · exact List.nodup_cons.mpr ⟨fun again => ((mem c).mp again).2 (by simp), distinct⟩
      · rw [List.mem_cons, mem f, List.mem_append, List.mem_singleton, List.mem_cons]
        by_cases same : f = c
        · subst same
          simp [old]
        · simp [same]

theorem close_spec (t : Tracking) (active : Option Path) (files : List Path) (finalize : Bool) :
    ∃ fresh, close t active files finalize = (fresh, t.closedEmitted ++ fresh) ∧ fresh.Nodup ∧
      ∀ f, f ∈ fresh ↔ f ∈ closable t.previousActive active files finalize ∧ f ∉ t.closedEmitted := by
  obtain ⟨fresh, folded, distinct, mem⟩ :=
    foldl_emit (closable t.previousActive active files finalize) [] t.closedEmitted
  exact ⟨fresh, by simpa [close] using folded, distinct, mem⟩

theorem mem_closable {previousActive active : Option Path} {files : List Path} {finalize : Bool} {f : Path} :
    f ∈ closable previousActive active files finalize ↔
      (previousActive = some f ∧ active ≠ some f) ∨ (f ∈ files ∧ active ≠ some f) ∨
        (finalize = true ∧ active = some f) := by
  simp only [closable, List.mem_append, List.mem_filter, ne_eq, decide_not, Bool.not_eq_eq_eq_not, Bool.not_true,
    decide_eq_false_iff_not]
  cases previousActive <;> cases active <;> cases finalize <;> grind

private theorem mem_seqs {lo hi n : Nat} {listing : List Path} (listed : listing.Perm (window naming lo hi)) :
    n ∈ (sorted listing).filterMap seqOf ↔ lo ≤ n ∧ n ≤ hi := by
  simp only [List.mem_filterMap, sorted, List.mem_insertionSort, listed.mem_iff, mem_window]
  constructor
  · rintro ⟨f, ⟨m, lower, upper, rfl⟩, found⟩
    obtain rfl : m = n := by simpa using found
    exact ⟨lower, upper⟩
  · exact fun ⟨lower, upper⟩ => ⟨naming.path n, ⟨n, lower, upper, rfl⟩, by simp⟩

/-- What the gap check sees of a window: its bounds. -/
theorem seqs_bounds {lo hi : Nat} (le : lo ≤ hi) {listing : List Path} (listed : listing.Perm (window naming lo hi)) :
    ((sorted listing).filterMap seqOf).min? = some lo ∧ ((sorted listing).filterMap seqOf).max? = some hi := by
  rw [List.min?_eq_some_iff, List.max?_eq_some_iff]
  refine ⟨⟨(mem_seqs listed).mpr ⟨Nat.le_refl lo, le⟩, fun n member => ((mem_seqs listed).mp member).1⟩,
    (mem_seqs listed).mpr ⟨le, Nat.le_refl hi⟩, fun n member => ((mem_seqs listed).mp member).2⟩

theorem detectGap_window (t : Tracking) {lo hi : Nat} (le : lo ≤ hi) {listing : List Path}
    (listed : listing.Perm (window naming lo hi)) :
    detectGap t (sorted listing) =
      if lo > t.highestSeqAccountedFor + 1 then
        { t with
          filesLostCount := t.filesLostCount + (lo - t.highestSeqAccountedFor - 1)
          warnings := t.warnings ++ [⟨t.highestSeqAccountedFor + 1, lo - 1⟩]
          highestSeqAccountedFor := max t.highestSeqAccountedFor hi }
      else { t with highestSeqAccountedFor := max t.highestSeqAccountedFor hi } := by
  obtain ⟨lowest, largest⟩ := seqs_bounds le listed
  simp only [detectGap, lowest, largest]

end Marlinspike.Capd.Supervisor
