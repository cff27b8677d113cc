import Mathlib.Data.List.Nodup
import Mathlib.Data.List.Perm.Basic
import Marlinspike.Transition
import Marlinspike.Capd.Supervisor

/-!
One capture from its first ring file to a finalizing poll. `dumpcap` adds files at the
upper end of a window of sequence numbers and evicts them at the lower end; polls come
one after another at any time.

Every number ever created ends up in exactly one report or in exactly one counted gap,
whatever the numbers are (`Account`). That no report names the file being written holds
exactly as long as the polls see numbers that print to one width (`rotation_iff_same_width`):
the newest file is found by the order of the names.
-/
namespace Marlinspike.Capd.Rotation
open Marlinspike.Transition Marlinspike.Decimal Marlinspike.Capd.Supervisor

/-- What a poll returned, and the newest file on disk when it did. -/
structure Report where
  filesClosed : List Path
  running : Bool
  newest : Option Path

structure Session where
  running : Bool
  /-- The numbers on disk are those from `lo` to `hi`; none as long as `hi` is 0. -/
  lo : Nat
  hi : Nat
  tracking : Tracking
  reports : List Report

def Session.init : Session := ⟨true, 1, 0, Tracking.init, []⟩

inductive Label where
  | rotate
  | evict
  | exits
  /-- A poll, what the host answers it, and its listing in the order of the directory. -/
  | poll (host : Host) (listing : List Path)

section
variable (naming : Naming)

def newest (s : Session) : Option Path := if s.hi = 0 then none else some (naming.path s.hi)

/-- `poll`: finalizing once `dumpcap` is gone. -/
def poll (s : Session) (host : Host) (listing : List Path) : Session :=
  let answer := snapshot s.tracking host listing s.running (!s.running)
  { s with
    tracking := answer.2
    reports := s.reports ++ [⟨answer.1.filesClosed, answer.1.running, newest naming s⟩] }

def step (s : Session) : Label → Option Session
  | .rotate => if s.running then some { s with hi := s.hi + 1 } else none
  | .evict => if s.lo < s.hi then some { s with lo := s.lo + 1 } else none
  | .exits => if s.running then some { s with running := false } else none
  | .poll host listing => if listing.Perm (window naming s.lo s.hi) then some (poll naming s host listing) else none

/-! ### What has to hold of the reports -/

/-- Everything reported as closed, over all polls. -/
def closedFiles (s : Session) : List Path := s.reports.flatMap (·.filesClosed)

/-- The numbers that the gap warnings name. -/
def lostSeqs (t : Tracking) : List Nat := t.warnings.flatMap fun gap => List.range' gap.first (gap.last + 1 - gap.first)

/-- No poll taken while `dumpcap` runs reports the file that is being written. -/
def NeverLive (s : Session) : Prop :=
  ∀ report ∈ s.reports, report.running = true → ∀ f ∈ report.filesClosed, report.newest ≠ some f

/-- After a finalizing poll the files ever created are the reported ones and the lost
    ones, each once, and the lost ones are counted. -/
def Conserved (s : Session) : Prop :=
  (∃ report ∈ s.reports, report.running = false) →
    (closedFiles s ++ (lostSeqs s.tracking).map naming.path).Perm ((List.range' 1 s.hi).map naming.path) ∧
      s.tracking.filesLostCount = (lostSeqs s.tracking).length

/-- A poll taken while `dumpcap` runs finds numbers that print to the same width. -/
def SameWidth (s : Session) : Label → Prop
  | .poll _ _ => s.running = true → places s.lo = places s.hi
  | _ => True

/-! ### The account -/

/-- The file has a number that was seen and is not lost. -/
private def Seen (t : Tracking) (f : Path) : Prop :=
  ∃ n, f = naming.path n ∧ 1 ≤ n ∧ n ≤ t.highestSeqAccountedFor ∧ n ∉ lostSeqs t

private structure Account (s : Session) : Prop where
  fromOne : 1 ≤ s.lo
  empty : s.hi = 0 → s.lo = 1
  window : 0 < s.hi → s.lo ≤ s.hi
  reported : closedFiles s = s.tracking.closedEmitted
  counted : s.tracking.filesLostCount = (lostSeqs s.tracking).length
  highest : s.tracking.highestSeqAccountedFor ≤ s.hi
  lostOnce : (lostSeqs s.tracking).Nodup
  lostBelow : ∀ n ∈ lostSeqs s.tracking, 1 ≤ n ∧ n ≤ s.tracking.highestSeqAccountedFor ∧ n < s.lo
  closedOnce : s.tracking.closedEmitted.Nodup
  closedSeen : ∀ f ∈ s.tracking.closedEmitted, Seen naming s.tracking f
  activeSeen : ∀ f, s.tracking.previousActive = some f → Seen naming s.tracking f
  covered : ∀ n, 1 ≤ n → n ≤ s.tracking.highestSeqAccountedFor →
    n ∈ lostSeqs s.tracking ∨ naming.path n ∈ s.tracking.closedEmitted ∨
      s.tracking.previousActive = some (naming.path n)
  final : (∃ report ∈ s.reports, report.running = false) → s.running = false ∧
    ∀ n, 1 ≤ n → n ≤ s.hi → n ∈ lostSeqs s.tracking ∨ naming.path n ∈ s.tracking.closedEmitted

variable {naming}

/-- What a poll does to the tracking, in sequence numbers: the numbers between the
    highest seen so far and the window are lost, the window is seen. -/
private structure Polled (naming : Naming) (s : Session) (host : Host) (listing fresh : List Path)
    (last : Option Path) : Prop where
  report : (poll naming s host listing).reports = s.reports ++ [⟨fresh, s.running, newest naming s⟩]
  emitted : (poll naming s host listing).tracking.closedEmitted = s.tracking.closedEmitted ++ fresh
  active : (poll naming s host listing).tracking.previousActive = last
  highest : (poll naming s host listing).tracking.highestSeqAccountedFor =
    max s.tracking.highestSeqAccountedFor s.hi
  lost : lostSeqs (poll naming s host listing).tracking = lostSeqs s.tracking ++
    List.range' (s.tracking.highestSeqAccountedFor + 1) (s.lo - (s.tracking.highestSeqAccountedFor + 1))
  count : (poll naming s host listing).tracking.filesLostCount =
    s.tracking.filesLostCount + (s.lo - (s.tracking.highestSeqAccountedFor + 1))
  distinct : fresh.Nodup
  mem : ∀ f, f ∈ fresh ↔ ((s.tracking.previousActive = some f ∧ last ≠ some f) ∨
    (f ∈ Supervisor.window naming s.lo s.hi ∧ last ≠ some f) ∨ (s.running = false ∧ last = some f)) ∧
      f ∉ s.tracking.closedEmitted

private theorem poll_spec {s : Session} (account : Account naming s) (host : Host) {listing : List Path}
    (listed : listing.Perm (Supervisor.window naming s.lo s.hi)) :
    ∃ fresh, Polled naming s host listing fresh
      (if s.hi = 0 then none else some (naming.path (lastInOrder s.lo s.hi))) := by
  obtain ⟨fresh, closed, distinct, mem⟩ :=
    close_spec s.tracking (sorted listing).getLast? (sorted listing) (!s.running)
  have active : (sorted listing).getLast? =
      if s.hi = 0 then none else some (naming.path (lastInOrder s.lo s.hi)) := by
    split_ifs with none
    · rw [none, account.empty none] at listed
      have nothing : listing = [] := List.Perm.eq_nil listed
      rw [nothing]
      rfl
    · exact getLast?_listing (account.window (Nat.pos_of_ne_zero none)) listed
  have gap : (detectGap s.tracking (sorted listing)).highestSeqAccountedFor =
        max s.tracking.highestSeqAccountedFor s.hi ∧
      lostSeqs (detectGap s.tracking (sorted listing)) = lostSeqs s.tracking ++
        List.range' (s.tracking.highestSeqAccountedFor + 1) (s.lo - (s.tracking.highestSeqAccountedFor + 1)) ∧
      (detectGap s.tracking (sorted listing)).filesLostCount =
        s.tracking.filesLostCount + (s.lo - (s.tracking.highestSeqAccountedFor + 1)) := by
    rcases Nat.eq_zero_or_pos s.hi with none | some
    · rw [none, account.empty none] at listed
      have nothing : listing = [] := List.Perm.eq_nil listed
      have seen := account.highest
      rw [nothing, none, account.empty none]
      simp [sorted, detectGap]
    · rw [detectGap_window s.tracking (account.window some) listed]
      have first := account.fromOne
      split_ifs with outpaced
      · refine ⟨rfl, ?_, by simp only []; omega⟩
        simp only [lostSeqs, List.flatMap_append, List.flatMap_cons, List.flatMap_nil, List.append_nil]
        rw [Nat.sub_add_cancel first]
      · have close : s.lo - (s.tracking.highestSeqAccountedFor + 1) = 0 := by omega
        simp [close, lostSeqs]
  rw [active] at closed mem
  refine ⟨fresh, ?_, ?_, active, gap.1, gap.2.1, gap.2.2, distinct, fun f => ?_⟩
  · simp only [poll, snapshot, update, active, closed]
  · simp only [poll, snapshot, update, active, closed]
  · rw [mem f, mem_closable]
    simp only [sorted, List.mem_insertionSort, listed.mem_iff, Bool.not_eq_true']

private theorem seen_of_window {s : Session} (account : Account naming s) {t : Tracking}
    (highest : t.highestSeqAccountedFor = max s.tracking.highestSeqAccountedFor s.hi)
    (lost : ∀ n ∈ lostSeqs t, n < s.lo) {f : Path} (member : f ∈ Supervisor.window naming s.lo s.hi) :
    Seen naming t f := by
  obtain ⟨n, lower, upper, rfl⟩ := mem_window.mp member
  have first := account.fromOne
  exact ⟨n, rfl, by omega, by omega, fun gone => Nat.not_lt.mpr lower (lost n gone)⟩

private theorem last_mem_window {s : Session} (account : Account naming s) {f : Path}
    (last : (if s.hi = 0 then none else some (naming.path (lastInOrder s.lo s.hi))) = some f) :
    f ∈ Supervisor.window naming s.lo s.hi := by
  split_ifs at last with none
  obtain rfl := Option.some.inj last
  obtain ⟨lower, upper⟩ := lastInOrder_bounds (account.window (Nat.pos_of_ne_zero none))
  exact mem_window.mpr ⟨_, lower, upper, rfl⟩

section Poll
variable {s : Session} {host : Host} {listing fresh : List Path} {last : Option Path} (account : Account naming s)
  (polled : Polled naming s host listing fresh last)
include polled

/-- A closable file is reported now, unless it was before. -/
private theorem reported_polled {f : Path} (closable : (s.tracking.previousActive = some f ∧ last ≠ some f) ∨
    (f ∈ Supervisor.window naming s.lo s.hi ∧ last ≠ some f) ∨ (s.running = false ∧ last = some f)) :
    f ∈ (poll naming s host listing).tracking.closedEmitted := by
  rw [polled.emitted, List.mem_append]
  by_cases old : f ∈ s.tracking.closedEmitted
  · exact .inl old
  · exact .inr ((polled.mem f).mpr ⟨closable, old⟩)

include account

/-- The new losses lie above everything seen before and below the window. -/
private theorem lost_polled : ∀ n ∈ lostSeqs (poll naming s host listing).tracking, n ∈ lostSeqs s.tracking ∨
    (s.tracking.highestSeqAccountedFor + 1 ≤ n ∧ n < s.lo) := by
  intro n member
  have first := account.fromOne
  rw [polled.lost, List.mem_append, List.mem_range'_1] at member
  exact member.imp_right fun inside => by omega

private theorem lostBelow_polled : ∀ n ∈ lostSeqs (poll naming s host listing).tracking, n < s.lo := fun n member =>
  (lost_polled account polled n member).elim (fun old => (account.lostBelow n old).2.2) fun new => new.2

private theorem seen_polled {f : Path} (seen : Seen naming s.tracking f) :
    Seen naming (poll naming s host listing).tracking f := by
  obtain ⟨n, rfl, one, most, kept⟩ := seen
  refine ⟨n, rfl, one, by rw [polled.highest]; omega, fun gone => ?_⟩
  rcases lost_polled account polled n gone with old | new
  · exact kept old
  · omega

private theorem covered_polled (n : Nat) (one : 1 ≤ n)
    (most : n ≤ (poll naming s host listing).tracking.highestSeqAccountedFor) :
    n ∈ lostSeqs (poll naming s host listing).tracking ∨
      naming.path n ∈ (poll naming s host listing).tracking.closedEmitted ∨
      (poll naming s host listing).tracking.previousActive = some (naming.path n) := by
  have first := account.fromOne
  rw [polled.highest] at most
  rw [polled.active]
  by_cases newest : last = some (naming.path n)
  · exact .inr (.inr newest)
  · rcases Nat.lt_or_ge s.tracking.highestSeqAccountedFor n with above | below
    · rcases Nat.lt_or_ge n s.lo with evicted | present
      · rw [polled.lost, List.mem_append, List.mem_range'_1]
        exact .inl (.inr (by omega))
      · have inside : naming.path n ∈ Supervisor.window naming s.lo s.hi :=
          mem_window.mpr ⟨n, present, by omega, rfl⟩
        exact .inr (.inl (reported_polled polled (.inr (.inl ⟨inside, newest⟩))))
    · rcases account.covered n one below with lost | emitted | previous
      · exact .inl (by rw [polled.lost]; exact List.mem_append_left _ lost)
      · exact .inr (.inl (by rw [polled.emitted]; exact List.mem_append_left _ emitted))
      · exact .inr (.inl (reported_polled polled (.inl ⟨previous, newest⟩)))

end Poll

private theorem account_poll {s : Session} (account : Account naming s) (host : Host) {listing : List Path}
    (listed : listing.Perm (Supervisor.window naming s.lo s.hi)) : Account naming (poll naming s host listing) := by
  obtain ⟨fresh, polled⟩ := poll_spec account host listed
  have first := account.fromOne
  have inWindow {f : Path} (member : f ∈ Supervisor.window naming s.lo s.hi) :
      Seen naming (poll naming s host listing).tracking f :=
    seen_of_window account polled.highest (lostBelow_polled account polled) member
  have closed {f : Path} (member : f ∈ fresh) : Seen naming (poll naming s host listing).tracking f := by
    rcases ((polled.mem f).mp member).1 with ⟨previous, -⟩ | ⟨inside, -⟩ | ⟨-, last⟩
    · exact seen_polled account polled (account.activeSeen f previous)
    · exact inWindow inside
    · exact inWindow (last_mem_window account last)
  refine
    { fromOne := first
      empty := account.empty
      window := account.window
      reported := ?_
      counted := ?_
      highest := by rw [polled.highest]; exact max_le account.highest (Nat.le_refl _)
      lostOnce := ?_
      lostBelow := ?_
      closedOnce := ?_
      closedSeen := ?_
      activeSeen := ?_
      covered := covered_polled account polled
      final := ?_ }
  · rw [closedFiles, polled.report, polled.emitted, ← account.reported, closedFiles]
    simp
  · rw [polled.count, polled.lost, account.counted]
    simp
  · rw [polled.lost]
    refine List.nodup_append.mpr ⟨account.lostOnce, List.nodup_range', fun n old m new same => ?_⟩
    have bound := (account.lostBelow n old).2.1
    have lower := (List.mem_range'_1.mp new).1
    omega
  · intro n member
    have below := lostBelow_polled account polled n member
    rcases lost_polled account polled n member with old | new
    · have bounds := account.lostBelow n old
      exact ⟨bounds.1, by rw [polled.highest]; omega, below⟩
    · have window := account.window
      refine ⟨by omega, ?_, below⟩
      rw [polled.highest]
      rcases Nat.eq_zero_or_pos s.hi with none | some
      · have := account.empty none
        omega
      · have := window some
        omega
  · rw [polled.emitted]
    refine List.nodup_append.mpr ⟨account.closedOnce, polled.distinct, fun f old g new same => ?_⟩
    exact ((polled.mem g).mp new).2 (same ▸ old)
  · intro f member
    rw [polled.emitted, List.mem_append] at member
    exact member.elim (fun old => seen_polled account polled (account.closedSeen f old)) closed
  · intro f last
    rw [polled.active] at last
    exact inWindow (last_mem_window account last)
  · rintro ⟨report, member, final⟩
    have ended : s.running = false := by
      rw [polled.report, List.mem_append, List.mem_singleton] at member
      rcases member with old | rfl
      · exact (account.final ⟨report, old, final⟩).1
      · exact final
    refine ⟨ended, fun n one most => ?_⟩
    have known : n ≤ (poll naming s host listing).tracking.highestSeqAccountedFor := by
      rw [polled.highest]
      exact Nat.le_trans most (Nat.le_max_right ..)
    rcases covered_polled account polled n one known with lost | emitted | last
    · exact .inl lost
    · exact .inr emitted
    · rw [polled.active] at last
      exact .inr (reported_polled polled (.inr (.inr ⟨ended, last⟩)))

private theorem account_step {s t : Session} {l : Label} (account : Account naming s)
    (stepped : step naming s l = some t) : Account naming t := by
  cases l with
  | rotate =>
    simp only [step] at stepped
    split_ifs at stepped with running
    obtain rfl := Option.some.inj stepped
    have first := account.fromOne
    have empty := account.empty
    have window := account.window
    exact
      { account with
        empty := fun none => by cases none
        window := fun _ => by simp only []; omega
        highest := Nat.le_succ_of_le account.highest
        final := fun ended => absurd ((account.final ended).1.symm.trans running) (by decide) }
  | evict =>
    simp only [step] at stepped
    split_ifs at stepped with more
    obtain rfl := Option.some.inj stepped
    exact
      { account with
        fromOne := Nat.le_succ_of_le account.fromOne
        empty := fun none => by simp only [] at none; omega
        window := fun _ => more
        lostBelow := fun n lost =>
          let ⟨one, most, below⟩ := account.lostBelow n lost
          ⟨one, most, Nat.lt_succ_of_lt below⟩ }
  | exits =>
    simp only [step] at stepped
    split_ifs at stepped with running
    obtain rfl := Option.some.inj stepped
    exact { account with final := fun ended => ⟨rfl, (account.final ended).2⟩ }
  | poll host listing =>
    simp only [step] at stepped
    split_ifs at stepped with listed
    obtain rfl := Option.some.inj stepped
    exact account_poll account host listed

private theorem account_init : Account naming Session.init := by
  constructor <;> simp [Session.init, Tracking.init, closedFiles, lostSeqs]
  exact fun n one => Nat.ne_of_gt one

private theorem conserved_of_account {s : Session} (account : Account naming s) : Conserved naming s := by
  intro ended
  obtain ⟨-, complete⟩ := account.final ended
  refine ⟨(List.perm_ext_iff_of_nodup ?_ ?_).mpr fun f => ?_, account.counted⟩
  · refine List.nodup_append.mpr ⟨account.reported ▸ account.closedOnce,
      account.lostOnce.map (path_injective naming), fun f closed g lost same => ?_⟩
    obtain ⟨n, rfl, -, -, kept⟩ := account.closedSeen f (account.reported ▸ closed)
    obtain ⟨m, gone, rfl⟩ := List.mem_map.mp lost
    exact kept (path_injective naming same ▸ gone)
  · exact (List.nodup_range').map (path_injective naming)
  · simp only [List.mem_append, List.mem_map, List.mem_range'_1, account.reported]
    constructor
    · rintro (closed | ⟨n, lost, rfl⟩)
      · obtain ⟨n, rfl, one, most, -⟩ := account.closedSeen f closed
        have known := account.highest
        exact ⟨n, by omega, rfl⟩
      · obtain ⟨one, most, -⟩ := account.lostBelow n lost
        have known := account.highest
        exact ⟨n, by omega, rfl⟩
    · rintro ⟨n, inside, rfl⟩
      rcases complete n inside.1 (by omega) with lost | closed
      · exact .inr ⟨n, lost, rfl⟩
      · exact .inl closed

/-- Whatever the numbers: after a finalizing poll every file is accounted for once. -/
theorem always_conserved (naming : Naming) {labels : List Label} {s : Session}
    (ran : run (step naming) Session.init labels = some s) : Conserved naming s :=
  conserved_of_account (run_invariant (Account naming)
    (fun _ _ _ account stepped => account_step account stepped) account_init ran)

/-! ### The live file -/

private structure Invariant (naming : Naming) (s : Session) : Prop where
  account : Account naming s
  live : s.running = true → naming.path s.hi ∉ s.tracking.closedEmitted

/-- The file that is being written is reported exactly if it is not the one that sorts last. -/
private theorem neverLive_poll {s : Session} (inv : Invariant naming s) (never : NeverLive s) (host : Host)
    {listing : List Path} (listed : listing.Perm (Supervisor.window naming s.lo s.hi)) :
    NeverLive (poll naming s host listing) ↔ (s.running = true → places s.lo = places s.hi) := by
  obtain ⟨fresh, polled⟩ := poll_spec inv.account host listed
  constructor
  · intro kept running
    by_contra straddles
    have some : s.hi ≠ 0 := fun none => straddles (by rw [none, inv.account.empty none]; rfl)
    have le := inv.account.window (Nat.pos_of_ne_zero some)
    have other : naming.path (lastInOrder s.lo s.hi) ≠ naming.path s.hi := fun same =>
      Nat.ne_of_lt (lastInOrder_lt le straddles) (path_injective naming same)
    have reported : naming.path s.hi ∈ fresh := by
      refine (polled.mem _).mpr ⟨.inr (.inl ⟨mem_window.mpr ⟨s.hi, le, Nat.le_refl _, rfl⟩, ?_⟩), inv.live running⟩
      simpa [some] using other
    exact kept ⟨fresh, s.running, newest naming s⟩ (by simp [polled.report]) running _ reported (by simp [newest, some])
  · intro same report member running f reported
    rw [polled.report, List.mem_append, List.mem_singleton] at member
    rcases member with old | rfl
    · exact never report old running f reported
    · intro live
      simp only [newest] at live
      split_ifs at live with none
      obtain rfl := Option.some.inj live
      have last : lastInOrder s.lo s.hi = s.hi := if_pos (same running)
      have closable := ((polled.mem _).mp reported).1
      simp only [if_neg none, last, ne_eq, not_true_eq_false, and_false, false_or, and_true] at closable
      simp only at running
      simp [running] at closable

private theorem step_neverLive {s t : Session} {l : Label} (inv : Invariant naming s) (never : NeverLive s)
    (stepped : step naming s l = some t) : NeverLive t ↔ SameWidth s l := by
  cases l with
  | poll host listing =>
    simp only [step] at stepped
    split_ifs at stepped with listed
    obtain rfl := Option.some.inj stepped
    exact neverLive_poll inv never host listed
  | rotate =>
    simp only [step] at stepped
    split_ifs at stepped
    obtain rfl := Option.some.inj stepped
    exact ⟨fun _ => trivial, fun _ => never⟩
  | evict =>
    simp only [step] at stepped
    split_ifs at stepped
    obtain rfl := Option.some.inj stepped
    exact ⟨fun _ => trivial, fun _ => never⟩
  | exits =>
    simp only [step] at stepped
    split_ifs at stepped
    obtain rfl := Option.some.inj stepped
    exact ⟨fun _ => trivial, fun _ => never⟩

private theorem step_live {s t : Session} {l : Label} (inv : Invariant naming s)
    (stepped : step naming s l = some t) (never : NeverLive t) (running : t.running = true) :
    naming.path t.hi ∉ t.tracking.closedEmitted := by
  cases l with
  | rotate =>
    simp only [step] at stepped
    split_ifs at stepped
    obtain rfl := Option.some.inj stepped
    intro early
    obtain ⟨n, same, -, most, -⟩ := inv.account.closedSeen _ early
    have known := inv.account.highest
    have next : s.hi + 1 = n := path_injective naming same
    omega
  | evict =>
    simp only [step] at stepped
    split_ifs at stepped
    obtain rfl := Option.some.inj stepped
    exact inv.live running
  | exits =>
    simp only [step] at stepped
    split_ifs at stepped
    obtain rfl := Option.some.inj stepped
    cases running
  | poll host listing =>
    simp only [step] at stepped
    split_ifs at stepped with listed
    obtain rfl := Option.some.inj stepped
    obtain ⟨fresh, polled⟩ := poll_spec inv.account host listed
    intro emitted
    rw [polled.emitted, List.mem_append] at emitted
    rcases emitted with old | new
    · exact inv.live running old
    · -- A report of the newest file is one that the property excludes.
      obtain ⟨n, same, one, most, -⟩ := (account_poll inv.account host listed).closedSeen _
        (by rw [polled.emitted]; exact List.mem_append_right _ new)
      have some : s.hi ≠ 0 := by
        have number : s.hi = n := path_injective naming same
        omega
      exact never ⟨fresh, s.running, newest naming s⟩ (by simp [polled.report]) running _ new
        (by simp [newest, some, poll])

/-- In every run of one capture the reports and the counted gaps conserve the files and
    no report of a running capture names the file being written, if and only if every
    poll taken while `dumpcap` runs finds a lowest and a highest sequence number that
    print to the same number of digits. -/
theorem rotation_iff_same_width (naming : Naming) (labels : List Label) :
    Always (step naming) (fun s => NeverLive s ∧ Conserved naming s) Session.init labels ↔
      Meets (step naming) SameWidth Session.init labels := by
  refine always_iff_meets (Invariant naming) ?_ ?_
    ⟨account_init, by simp [Session.init, Tracking.init]⟩
    ⟨by simp [NeverLive, Session.init], conserved_of_account account_init⟩
  · exact fun s l t inv _ stepped holds =>
      ⟨account_step inv.account stepped, step_live inv stepped holds.1⟩
  · intro s l t inv holds stepped
    rw [← step_neverLive inv holds.1 stepped]
    exact ⟨And.left, fun never => ⟨never, conserved_of_account (account_step inv.account stepped)⟩⟩

end

/-! ### Past the padding -/

theorem run_rotations (naming : Naming) {s : Session} (running : s.running = true) (n : Nat) :
    run (step naming) s (List.replicate n .rotate) = some { s with hi := s.hi + n } := by
  induction n generalizing s with
  | zero => rfl
  | succ n ih =>
    rw [List.replicate_succ, run_cons]
    refine ⟨{ s with hi := s.hi + 1 }, by simp [step, running], ?_⟩
    refine (ih ?_).trans ?_
    · exact running
    simp only [Option.some.injEq, Session.mk.injEq, true_and, and_true]
    omega

theorem run_evictions (naming : Naming) {s : Session} (n : Nat) (inside : s.lo + n ≤ s.hi) :
    run (step naming) s (List.replicate n .evict) = some { s with lo := s.lo + n } := by
  induction n generalizing s with
  | zero => rfl
  | succ n ih =>
    rw [List.replicate_succ, run_cons]
    refine ⟨{ s with lo := s.lo + 1 }, by simp [step]; omega, ?_⟩
    refine (ih (by simp only []; omega)).trans ?_
    simp only [Option.some.injEq, Session.mk.injEq, true_and, and_true]
    omega

def sampleNaming : Naming := ⟨"/captures/s1".toList, fun n => 20250101000000 + n⟩

def sampleHost : Host := ⟨1, fun _ => some 0, fun _ => true⟩

/-- 100000 rotations, of which the ring keeps the last two files, and a poll. -/
def hundredThousandth : List Label :=
  List.replicate 100000 .rotate ++ (List.replicate 99998 .evict ++
    [.poll sampleHost [sampleNaming.path 99999, sampleNaming.path 100000]])

theorem live_file_closed_past_padding :
    ∃ s, run (step sampleNaming) Session.init hundredThousandth = some s ∧ ¬ NeverLive s := by
  have filled : run (step sampleNaming) Session.init (List.replicate 100000 .rotate) =
      some ⟨true, 1, 100000, Tracking.init, []⟩ := run_rotations sampleNaming rfl 100000
  have evicted : run (step sampleNaming) ⟨true, 1, 100000, Tracking.init, []⟩ (List.replicate 99998 .evict) =
      some ⟨true, 99999, 100000, Tracking.init, []⟩ := run_evictions sampleNaming 99998 (by decide)
  have listed : [sampleNaming.path 99999, sampleNaming.path 100000].Perm (window sampleNaming 99999 100000) :=
    List.Perm.refl _
  have polled : step sampleNaming ⟨true, 99999, 100000, Tracking.init, []⟩
      (.poll sampleHost [sampleNaming.path 99999, sampleNaming.path 100000]) =
      some (poll sampleNaming ⟨true, 99999, 100000, Tracking.init, []⟩ sampleHost
        [sampleNaming.path 99999, sampleNaming.path 100000]) := by
    simp only [step]
    exact if_pos listed
  refine ⟨_, run_append.mpr ⟨_, filled, run_append.mpr ⟨_, evicted, run_cons.mpr ⟨_, polled, rfl⟩⟩⟩, ?_⟩
  intro never
  have closed : (snapshot Tracking.init sampleHost [sampleNaming.path 99999, sampleNaming.path 100000] true
      false).1.filesClosed = [sampleNaming.path 100000] := by decide
  refine never ⟨[sampleNaming.path 100000], true, some (sampleNaming.path 100000)⟩ ?_ rfl _ List.mem_cons_self rfl
  rw [← closed]
  exact List.mem_cons_self

/-- Two files, and a poll when `dumpcap` is gone. -/
def twoFiles : List Label := [.rotate, .rotate, .exits, .poll sampleHost [sampleNaming.path 1, sampleNaming.path 2]]

theorem always_conserved_two :
    ∃ s, run (step sampleNaming) Session.init twoFiles = some s ∧ Conserved sampleNaming s := by
  let s : Session := ⟨false, 1, 2, Tracking.init, []⟩
  have listed : [sampleNaming.path 1, sampleNaming.path 2].Perm (window sampleNaming 1 2) := List.Perm.refl _
  have polled : step sampleNaming s (.poll sampleHost [sampleNaming.path 1, sampleNaming.path 2]) =
      some (poll sampleNaming s sampleHost [sampleNaming.path 1, sampleNaming.path 2]) := by
    simp only [step]
    exact if_pos listed
  have exited : run (step sampleNaming) Session.init [.rotate, .rotate, .exits] = some s := rfl
  have ran : run (step sampleNaming) Session.init twoFiles =
      some (poll sampleNaming s sampleHost [sampleNaming.path 1, sampleNaming.path 2]) :=
    run_append.mpr ⟨s, exited, run_cons.mpr ⟨_, polled, rfl⟩⟩
  exact ⟨_, ran, always_conserved sampleNaming ran⟩

end Marlinspike.Capd.Rotation
