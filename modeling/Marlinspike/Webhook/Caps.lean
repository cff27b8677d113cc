import Mathlib.Algebra.Order.Floor.Div
import Marlinspike.Retrying
import Marlinspike.Webhook.Tickets

/-!
The same findings delivered again after every scan, to a tracker that turns some of them down.
Each delivery takes on the first of the findings that have no ticket, up to a cap, and those
that are turned down are among them the next time: they take up room that the count of
deliveries does not reckon with (`ticketed_iff`).
-/
namespace Marlinspike.Webhook.Caps
open Marlinspike.Retrying
open Marlinspike.Transition
open Marlinspike.Reports
open Marlinspike.Reports.Aggregate (RiskFinding)
open Marlinspike.Findings.Identity (findingDedupKey dedupText_eq_iff plainLibrary reversed reversed_injective)
open Marlinspike.Webhook.Tickets

/-! ### Deliveries one after the other -/

section Deliveries
variable (library : Library) (sha256 : String → String) (fails : RiskFinding → Bool) (projectId : Int) (cfg : Config)

def recordTicket (ledger : List WebhookTicket) (ticket : WebhookTicket) : List WebhookTicket :=
  if ticket ∉ ledger then ledger ++ [ticket] else ledger

/-- The ledger after the loop of a delivery, of which the tracker turns down the findings in `fails`. -/
def createTickets (platform : Platform) (ledger : List WebhookTicket) : List RiskFinding → List WebhookTicket
  | [] => ledger
  | finding :: rest =>
    createTickets platform
      (if fails finding then ledger else recordTicket ledger (ticketOf sha256 projectId platform finding)) rest

/-- `deliver_for_scan` with `deliver_to_zammad` or `deliver_to_jira`. -/
def deliver (findings : List RiskFinding) (ledger : List WebhookTicket) : List WebhookTicket :=
  if cfg.enabled ∧ cfg.isComplete then
    createTickets sha256 fails projectId cfg.platform ledger (workOf library sha256 ledger projectId cfg findings).todo
  else ledger

/-- The answers of the tracker to what a delivery takes on. -/
def answersTo (d : Nat) : List RiskFinding → List Label
  | [] => []
  | finding :: rest =>
    if fails finding then .answers d false :: answersTo d rest
    else .answers d true :: .records d true :: answersTo d rest

variable {sha256 fails}

theorem run_answersTo {d : Nat} {work : Work} {s : Site} (now : s.stages d = work.stage) :
    ∃ t, run (step library sha256) s (answersTo fails d work.todo) = some t ∧
      t.ledger = createTickets sha256 fails work.projectId work.platform s.ledger work.todo := by
  obtain ⟨project, platform, todo, summary⟩ := work
  induction todo generalizing s summary with
  | nil => exact ⟨s, rfl, rfl⟩
  | cons finding rest ih =>
    have creating : s.stages d = .creating ⟨project, platform, finding :: rest, summary⟩ := now
    cases bad : fails finding with
    | true =>
      obtain ⟨t, ran, ledger⟩ := ih _ (stages_self s d _)
      refine ⟨t, ?_, ?_⟩
      · simp only [answersTo, bad, if_true]
        exact run_cons.mpr ⟨_, by simp only [step, answers, creating]; rfl, ran⟩
      · simp only [createTickets, bad, if_true]
        exact ledger
    | false =>
      let ticket := ticketOf sha256 project platform finding
      let made : Site :=
        { s.setStage d (.recording ⟨project, platform, rest, summary⟩ ticket) with tickets := s.tickets ++ [ticket] }
      have recording : made.stages d = .recording ⟨project, platform, rest, summary⟩ ticket := stages_self s d _
      let next : Work := ⟨project, platform, rest, { summary with created := summary.created + 1 }⟩
      let after : Site := { made.setStage d next.stage with ledger := recordTicket s.ledger ticket }
      obtain ⟨t, ran, ledger⟩ := @ih after next.summary (stages_self made d _)
      refine ⟨t, ?_, ?_⟩
      · simp only [answersTo, bad]
        refine run_cons.mpr ⟨made, ?_, run_cons.mpr ⟨after, ?_, ran⟩⟩
        · simp only [step, answers, creating]
          rfl
        · simp only [step, records, recording, true_and]
          rfl
      · simp only [createTickets, bad]
        exact ledger

theorem url_of_isComplete {cfg : Config} (complete : cfg.isComplete = true) : cfg.url ≠ "" := by
  unfold Config.isComplete at complete
  split at complete
  · exact (of_decide_eq_true complete).1
  · exact (of_decide_eq_true complete).1

/-- A delivery by itself is a run of the deliveries of which any number may be under way. -/
theorem run_deliver {d : Nat} {s : Site} (idle : s.stages d = .idle) (findings : List RiskFinding)
    (enabled : cfg.enabled = true) (complete : cfg.isComplete = true) :
    ∃ t, run (step library sha256) s
        (.delivers d projectId cfg findings ::
          answersTo fails d (workOf library sha256 s.ledger projectId cfg findings).todo) = some t ∧
      t.ledger = deliver library sha256 fails projectId cfg findings s.ledger := by
  let work := workOf library sha256 s.ledger projectId cfg findings
  have same : deliver library sha256 fails projectId cfg findings s.ledger =
      createTickets sha256 fails projectId cfg.platform s.ledger work.todo := if_pos ⟨enabled, complete⟩
  by_cases none_ : qualifyingFindings library findings cfg.minSeverity = []
  · have nothing : work.todo = [] := by simp [work, workOf, none_, newFindings]
    refine ⟨s.setStage d (.ended none), ?_, by rw [same, nothing]; rfl⟩
    refine run_cons.mpr ⟨s.setStage d (.ended none), ?_, ?_⟩
    · simp only [step, delivers, idle, none_, or_true, if_true]
    · change run _ _ (answersTo fails d work.todo) = _
      rw [nothing]
      rfl
  · obtain ⟨t, ran, ledger⟩ := @run_answersTo library sha256 fails d work (s.setStage d work.stage) (stages_self s d _)
    refine ⟨t, run_cons.mpr ⟨_, ?_, ran⟩, ledger.trans same.symm⟩
    simp only [step, delivers, idle, enabled, complete, url_of_isComplete complete, none_, if_true, not_true_eq_false,
      false_or, if_false]
    rfl

/-! ### Findings without a ticket -/

theorem mem_recordTicket {ledger : List WebhookTicket} {ticket row : WebhookTicket} :
    row ∈ recordTicket ledger ticket ↔ row ∈ ledger ∨ row = ticket := by
  unfold recordTicket
  split_ifs with listed
  · exact ⟨Or.inl, fun either => either.elim id fun is => is ▸ listed⟩
  · rw [List.mem_append, List.mem_singleton]

theorem mem_createTickets {platform : Platform} {ledger : List WebhookTicket} {todo : List RiskFinding}
    {row : WebhookTicket} :
    row ∈ createTickets sha256 fails projectId platform ledger todo ↔
      row ∈ ledger ∨ ∃ finding ∈ todo, fails finding = false ∧ row = ticketOf sha256 projectId platform finding := by
  induction todo generalizing ledger with
  | nil => simp [createTickets]
  | cons finding rest ih =>
    rw [createTickets, ih, List.exists_mem_cons_iff]
    cases bad : fails finding with
    | true => simp
    | false => simp [mem_recordTicket, or_assoc]

theorem newFindings_eq (ledger : List WebhookTicket) (platform : Platform) (findings : List RiskFinding) :
    newFindings sha256 ledger projectId platform findings =
      findings.filter fun finding => ticketOf sha256 projectId platform finding ∉ ledger := by
  refine List.filter_congr fun finding _ => decide_eq_decide.mpr (not_congr ?_)
  constructor
  · intro listed
    obtain ⟨row, member, key⟩ := List.mem_map.mp listed
    obtain ⟨member, own⟩ := List.mem_filter.mp member
    obtain ⟨project, platform_⟩ := of_decide_eq_true own
    have is : row = ticketOf sha256 projectId platform finding := by
      cases row
      simp_all [ticketOf]
    exact is ▸ member
  · intro member
    exact List.mem_map.mpr ⟨_, List.mem_filter.mpr ⟨member, decide_eq_true ⟨rfl, rfl⟩⟩, rfl⟩

section Again
variable {library projectId cfg} {findings : List RiskFinding}
  (enabled : cfg.enabled = true) (complete : cfg.isComplete = true)
  (qualify : qualifyingFindings library findings cfg.minSeverity = findings)
  (distinct : (findings.map (findingDedupKey sha256 projectId)).Nodup)
include enabled complete qualify distinct

/-- A delivery is one round over the findings that have no ticket. -/
theorem newFindings_deliver (ledger : List WebhookTicket) :
    newFindings sha256 (deliver library sha256 fails projectId cfg findings ledger) projectId cfg.platform findings =
      attempt maxTicketsPerDelivery fails (newFindings sha256 ledger projectId cfg.platform findings) := by
  have apart : (newFindings sha256 ledger projectId cfg.platform findings).Nodup := (List.Nodup.of_map _ distinct).filter _
  have taken : (workOf library sha256 ledger projectId cfg findings).todo =
      (newFindings sha256 ledger projectId cfg.platform findings).take maxTicketsPerDelivery := by
    simp only [workOf, qualify]
  have same : deliver library sha256 fails projectId cfg findings ledger =
      createTickets sha256 fails projectId cfg.platform ledger (workOf library sha256 ledger projectId cfg findings).todo :=
    if_pos ⟨enabled, complete⟩
  classical
  rw [attempt_eq_filter maxTicketsPerDelivery fails apart, same, taken]
  conv_lhs => rw [newFindings_eq]
  generalize chosen : (newFindings sha256 ledger projectId cfg.platform findings).take maxTicketsPerDelivery = todo
  have listed : ∀ finding ∈ todo, finding ∈ findings := fun finding member =>
    (List.mem_filter.mp (List.mem_of_mem_take (chosen ▸ member))).1
  rw [newFindings_eq, List.filter_filter]
  refine List.filter_congr fun finding here => ?_
  rw [← Bool.decide_and, decide_eq_decide, mem_createTickets, not_or, and_comm]
  refine and_congr_left fun _ => ?_
  constructor
  · intro untouched
    by_cases member : finding ∈ todo
    · refine Or.inr (Bool.eq_true_of_not_eq_false fun good => untouched ⟨finding, member, good, rfl⟩)
    · exact Or.inl member
  · rintro left ⟨other, member, good, key⟩
    have is : finding = other := List.inj_on_of_nodup_map distinct here (listed other member) (congrArg (·.dedupKey) key)
    rw [is] at left
    exact left.elim (· member) fun bad => by rw [good] at bad; cases bad

theorem newFindings_iterate (ledger : List WebhookTicket) (deliveries : Nat) :
    newFindings sha256 ((deliver library sha256 fails projectId cfg findings)^[deliveries] ledger) projectId cfg.platform
        findings =
      (attempt maxTicketsPerDelivery fails)^[deliveries]
        (newFindings sha256 ledger projectId cfg.platform findings) := by
  induction deliveries with
  | zero => rfl
  | succ deliveries ih =>
    rw [Function.iterate_succ_apply', Function.iterate_succ_apply',
      newFindings_deliver enabled complete qualify distinct, ih]

end Again

end Deliveries

/-- After as many deliveries as the cap goes into the findings, every finding that the tracker does
    not turn down has a ticket, exactly if the room that is left besides what has been turned
    down before was enough to come to the last of them. -/
theorem ticketed_iff (library : Library) (sha256 : String → String) (fails : RiskFinding → Bool) (projectId : Int)
    (cfg : Config) (ledger : List WebhookTicket) (findings : List RiskFinding)
    (enabled : cfg.enabled = true) (complete : cfg.isComplete = true)
    (qualify : qualifyingFindings library findings cfg.minSeverity = findings)
    (distinct : (findings.map (findingDedupKey sha256 projectId)).Nodup) :
    (∀ finding ∈ findings, fails finding = false → ticketOf sha256 projectId cfg.platform finding ∈
        (deliver library sha256 fails projectId cfg findings)^[findings.length ⌈/⌉ maxTicketsPerDelivery] ledger) ↔
      ∀ finding ∈ (newFindings sha256 ledger projectId cfg.platform findings).drop
          (attempted maxTicketsPerDelivery fails (newFindings sha256 ledger projectId cfg.platform findings)
            (findings.length ⌈/⌉ maxTicketsPerDelivery)),
        fails finding = true := by
  rw [← done_iff, ← newFindings_iterate enabled complete qualify distinct, newFindings_eq]
  constructor
  · intro all finding member
    obtain ⟨member, missing⟩ := List.mem_filter.mp member
    exact Bool.eq_true_of_not_eq_false fun good => of_decide_eq_true missing (all finding member good)
  · intro left finding member good
    by_contra missing
    rw [left finding (List.mem_filter.mpr ⟨member, decide_eq_true missing⟩)] at good
    cases good

/-! ### Findings that are turned down for good -/

/-- A finding on `i` assets. -/
def onAssets (i : Nat) : RiskFinding :=
  ⟨some "CLEARTEXT_REMOTE_ACCESS", some "HIGH", some "Telnet in use", none, none,
    (List.range i).map fun asset => s!"10.0.0.{asset}", [], [], [], none⟩

theorem onAssets_distinct (count : Nat) :
    (((List.range count).map onAssets).map (findingDedupKey reversed 7)).Nodup := by
  rw [List.map_map]
  refine List.nodup_range.map fun i j same => ?_
  obtain ⟨-, -, nodes⟩ := dedupText_eq_iff.mp (reversed_injective same)
  simpa [onAssets] using nodes.length_eq

theorem onAssets_qualify (count : Nat) :
    qualifyingFindings plainLibrary ((List.range count).map onAssets) jira.minSeverity = (List.range count).map onAssets := by
  refine List.filter_eq_self.mpr fun finding member => ?_
  obtain ⟨i, -, rfl⟩ := List.mem_map.mp member
  exact decide_eq_true (Nat.zero_le _)

/-- The tracker takes findings on so many assets and more. -/
def turnsDown (assets : Nat) (finding : RiskFinding) : Bool := finding.affectedNodes.length < assets

/-- The 25 findings in front fill the cap every time, and the one behind them is never taken on. -/
theorem not_forall_ticketed :
    ¬∀ (library : Library) (sha256 : String → String) (fails : RiskFinding → Bool) (projectId : Int) (cfg : Config)
      (ledger : List WebhookTicket) (findings : List RiskFinding),
      cfg.enabled = true → cfg.isComplete = true → qualifyingFindings library findings cfg.minSeverity = findings →
      (findings.map (findingDedupKey sha256 projectId)).Nodup →
      ∀ finding ∈ findings, fails finding = false → ticketOf sha256 projectId cfg.platform finding ∈
        (deliver library sha256 fails projectId cfg findings)^[findings.length ⌈/⌉ maxTicketsPerDelivery] ledger := by
  intro all
  have last : onAssets 25 ∈ (List.range 26).map onAssets := List.mem_map_of_mem (by decide)
  have ticket := all plainLibrary reversed (turnsDown 25) 7 jira [] ((List.range 26).map onAssets) rfl (by decide)
    (onAssets_qualify 26) (onAssets_distinct 26) (onAssets 25) last (by simp [turnsDown, onAssets])
  have everything : newFindings reversed [] 7 jira.platform ((List.range 26).map onAssets) =
      (List.range 26).map onAssets := by
    rw [newFindings_eq]
    exact List.filter_eq_self.mpr fun finding _ => by simp
  have stuck : attempt maxTicketsPerDelivery (turnsDown 25) ((List.range 26).map onAssets) = (List.range 26).map onAssets := by
    refine attempt_eq_self maxTicketsPerDelivery (turnsDown 25) fun finding member => ?_
    rw [← List.map_take, maxTicketsPerDelivery, List.take_range] at member
    obtain ⟨i, below, rfl⟩ := List.mem_map.mp member
    simpa [turnsDown, onAssets] using below
  have missing := @newFindings_iterate plainLibrary reversed (turnsDown 25) 7 jira ((List.range 26).map onAssets) rfl (by decide)
    (onAssets_qualify 26) (onAssets_distinct 26) [] (((List.range 26).map onAssets).length ⌈/⌉ maxTicketsPerDelivery)
  rw [everything, Function.iterate_fixed stuck, newFindings_eq] at missing
  rw [← missing] at last
  exact of_decide_eq_true (List.mem_filter.mp last).2 ticket

theorem ticketed_three : ticketOf reversed 7 jira.platform (onAssets 2) ∈
    (deliver plainLibrary reversed (turnsDown 2) 7 jira ((List.range 3).map onAssets))^[
      ((List.range 3).map onAssets).length ⌈/⌉ maxTicketsPerDelivery] [] := by
  have last : onAssets 2 ∈ (List.range 3).map onAssets := List.mem_map_of_mem (by decide)
  refine (ticketed_iff plainLibrary reversed (turnsDown 2) 7 jira [] ((List.range 3).map onAssets) rfl (by decide)
    (onAssets_qualify 3) (onAssets_distinct 3)).mpr (fun finding member => ?_) (onAssets 2) last
    (by simp [turnsDown, onAssets])
  have once : ((List.range 3).map onAssets).length ⌈/⌉ maxTicketsPerDelivery = 1 := rfl
  have few : (newFindings reversed [] 7 jira.platform ((List.range 3).map onAssets)).length ≤ 25 :=
    (List.length_filter_le _ _).trans (by decide)
  rw [once, attempted_one, maxTicketsPerDelivery, List.drop_eq_nil_of_le few] at member
  cases member

end Marlinspike.Webhook.Caps
