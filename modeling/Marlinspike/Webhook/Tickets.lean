import Mathlib.Logic.Function.Basic
import Marlinspike.Transition
import Marlinspike.Findings.Identity

/-!
Deliveries of findings to a ticket tracker, any number of them at a time. A delivery reads
once which keys have a ticket, and then creates a ticket for each of its other findings,
and records it in a commit that may fail unnoticed. A key gets a second ticket from a
second finding of the same delivery, from a delivery under way at the same time, or after
a ticket that was not recorded, and in no other way (`tickets_unique`).
-/
namespace Marlinspike.Webhook.Tickets
open Marlinspike.Transition
open Marlinspike.Reports
open Marlinspike.Reports.Aggregate (RiskFinding orElse)
open Marlinspike.Findings.Identity (findingDedupKey plainLibrary reversed)

inductive Platform where
  | zammad
  | jira
deriving DecidableEq, Repr

/-- The webhook configuration of a project, with empty strings for what is not set. -/
structure Config where
  enabled : Bool
  platform : Platform
  url : String
  secret : String
  minSeverity : String
  zammadGroup : String
  zammadCustomer : String
  jiraProjectKey : String
deriving DecidableEq

/-- `deliver_to_zammad` and `deliver_to_jira` give up without these. -/
def Config.isComplete (cfg : Config) : Bool :=
  match cfg.platform with
  | .zammad => cfg.url ≠ "" ∧ cfg.secret ≠ "" ∧ cfg.zammadGroup ≠ "" ∧ cfg.zammadCustomer ≠ ""
  | .jira => cfg.url ≠ "" ∧ cfg.secret ≠ "" ∧ cfg.jiraProjectKey ≠ ""

def severityOrder : List String := ["INFO", "LOW", "MEDIUM", "HIGH", "CRITICAL"]

def severityIndex (severity : String) : Nat := if severity ∈ severityOrder then severityOrder.idxOf severity else 0

def maxTicketsPerDelivery : Nat := 25

/-- A row of the ledger. -/
structure WebhookTicket where
  projectId : Int
  platform : Platform
  dedupKey : String
deriving DecidableEq, Repr

structure Summary where
  created : Nat
  skipped : Nat
  failed : Nat
deriving DecidableEq, Repr

/-- What a delivery has still to do. -/
structure Work where
  projectId : Int
  platform : Platform
  todo : List RiskFinding
  summary : Summary
deriving DecidableEq

inductive Stage where
  | idle
  | creating (work : Work)
  /-- The tracker has created a ticket. -/
  | recording (work : Work) (ticket : WebhookTicket)
  | ended (summary : Option Summary)
deriving DecidableEq

structure Site where
  ledger : List WebhookTicket
  /-- What the trackers have created. -/
  tickets : List WebhookTicket
  stages : Nat → Stage

def start : Site := ⟨[], [], fun _ => .idle⟩

inductive Label where
  /-- `deliver_for_scan`, up to the first request. -/
  | delivers (d : Nat) (projectId : Int) (cfg : Config) (findings : List RiskFinding)
  /-- The answer to the request that creates a ticket. -/
  | answers (d : Nat) (ok : Bool)
  | records (d : Nat) (committed : Bool)
  /-- Anything else raises, and nothing more is delivered. -/
  | raises (d : Nat)

section Delivery
variable (library : Library) (sha256 : String → String)

def qualifyingFindings (findings : List RiskFinding) (minSeverity : String) : List RiskFinding :=
  findings.filter fun f => severityIndex minSeverity ≤ severityIndex (library.upper (orElse f.severity "INFO"))

def existingTicketDedupKeys (ledger : List WebhookTicket) (projectId : Int) (platform : Platform) : List String :=
  (ledger.filter fun row => row.projectId = projectId ∧ row.platform = platform).map (·.dedupKey)

def newFindings (ledger : List WebhookTicket) (projectId : Int) (platform : Platform) (findings : List RiskFinding) :
    List RiskFinding :=
  findings.filter fun f => findingDedupKey sha256 projectId f ∉ existingTicketDedupKeys ledger projectId platform

def ticketOf (projectId : Int) (platform : Platform) (finding : RiskFinding) : WebhookTicket :=
  ⟨projectId, platform, findingDedupKey sha256 projectId finding⟩

/-- The tickets that are left to create. -/
def Work.tickets (work : Work) : List WebhookTicket := work.todo.map (ticketOf sha256 work.projectId work.platform)

def Work.stage (work : Work) : Stage := if work.todo = [] then .ended (some work.summary) else .creating work

/-- What a delivery takes on. -/
def workOf (ledger : List WebhookTicket) (projectId : Int) (cfg : Config) (findings : List RiskFinding) : Work :=
  let findings := qualifyingFindings library findings cfg.minSeverity
  let new := newFindings sha256 ledger projectId cfg.platform findings
  { projectId := projectId
    platform := cfg.platform
    todo := new.take maxTicketsPerDelivery
    summary := ⟨0, findings.length - new.length, 0⟩ }

def Site.setStage (s : Site) (d : Nat) (stage : Stage) : Site := { s with stages := Function.update s.stages d stage }

def delivers (s : Site) (d : Nat) (projectId : Int) (cfg : Config) (findings : List RiskFinding) : Option Site :=
  if s.stages d = .idle then
    some (s.setStage d
      (if ¬cfg.enabled ∨ cfg.url = "" ∨ qualifyingFindings library findings cfg.minSeverity = [] then .ended none
      else if ¬cfg.isComplete then .ended (some ⟨0, 0, 0⟩)
      else (workOf library sha256 s.ledger projectId cfg findings).stage))
  else none

def answers (s : Site) (d : Nat) (ok : Bool) : Option Site :=
  match s.stages d with
  | .creating work =>
    match work.todo with
    | [] => none
    | finding :: rest =>
      if ok then
        let ticket := ticketOf sha256 work.projectId work.platform finding
        some { s.setStage d (.recording { work with todo := rest } ticket) with tickets := s.tickets ++ [ticket] }
      else
        let summary := { work.summary with failed := work.summary.failed + 1 }
        some (s.setStage d { work with todo := rest, summary := summary }.stage)
  | _ => none

/-- `_record_ticket`: a commit that fails, as one of a second row for a key does, is rolled
    back, and the delivery goes on. -/
def records (s : Site) (d : Nat) (committed : Bool) : Option Site :=
  match s.stages d with
  | .recording work ticket =>
    let summary := { work.summary with created := work.summary.created + 1 }
    some
      { s.setStage d { work with summary := summary }.stage with
        ledger := if committed ∧ ticket ∉ s.ledger then s.ledger ++ [ticket] else s.ledger }
  | _ => none

def raises (s : Site) (d : Nat) : Option Site :=
  match s.stages d with
  | .creating _ | .recording .. => some (s.setStage d (.ended none))
  | _ => none

def step (s : Site) : Label → Option Site
  | .delivers d projectId cfg findings => delivers library sha256 s d projectId cfg findings
  | .answers d ok => answers sha256 s d ok
  | .records d committed => records s d committed
  | .raises d => raises s d

/-! ### The condition -/

/-- The tickets that a delivery has still to create or to record. -/
def Stage.pending : Stage → List WebhookTicket
  | .creating work => work.tickets sha256
  | .recording work ticket => ticket :: work.tickets sha256
  | .idle | .ended _ => []

/-- No two findings that a delivery takes on have one key, nor a key of a delivery under way,
    and a ticket that has been created is recorded. -/
def Orderly (s : Site) : Label → Prop
  | .delivers _ projectId cfg findings =>
    ((workOf library sha256 s.ledger projectId cfg findings).tickets sha256).Nodup ∧
      ∀ e, ∀ ticket ∈ (workOf library sha256 s.ledger projectId cfg findings).tickets sha256,
        ticket ∉ (s.stages e).pending sha256
  | .answers .. => True
  | .records _ committed => committed = true
  | .raises d => ∀ work ticket, s.stages d ≠ .recording work ticket

end Delivery

section Invariant
variable {library : Library} {sha256 : String → String}

/-- A finding is new if the ledger has no row for its ticket. -/
theorem not_mem_ledger {ledger : List WebhookTicket} {projectId : Int} {cfg : Config} {findings : List RiskFinding}
    {ticket : WebhookTicket} (taken : ticket ∈ (workOf library sha256 ledger projectId cfg findings).tickets sha256) :
    ticket ∉ ledger := by
  obtain ⟨finding, member, rfl⟩ := List.mem_map.mp taken
  have new := of_decide_eq_true (List.mem_filter.mp (List.mem_of_mem_take member)).2
  intro listed
  exact new (List.mem_map.mpr ⟨_, List.mem_filter.mpr ⟨listed, by simp [ticketOf, workOf]⟩, rfl⟩)

theorem pending_stage (work : Work) : work.stage.pending sha256 = work.tickets sha256 := by
  unfold Work.stage
  split
  · next none_ => simp [Stage.pending, Work.tickets, none_]
  · rfl

/-- The ticket is created, and not yet recorded. -/
def Stage.isRecording (stage : Stage) (ticket : WebhookTicket) : Prop := ∃ work, stage = .recording work ticket

/-- What a delivery has still to create. -/
def Stage.uncreated (sha256 : String → String) : Stage → List WebhookTicket
  | .creating work | .recording work _ => work.tickets sha256
  | .idle | .ended _ => []

structure Invariant (sha256 : String → String) (s : Site) : Prop where
  unique : s.tickets.Nodup
  known : ∀ ticket ∈ s.tickets, ticket ∈ s.ledger ∨ ∃ d, (s.stages d).isRecording ticket
  uncreated : ∀ d, ∀ ticket ∈ (s.stages d).uncreated sha256, ticket ∉ s.tickets
  single : ∀ d, ((s.stages d).pending sha256).Nodup
  apart : ∀ d e, d ≠ e → ((s.stages d).pending sha256).Disjoint ((s.stages e).pending sha256)

theorem invariant_start : Invariant sha256 start :=
  ⟨List.nodup_nil, nofun, fun _ => nofun, fun _ => List.nodup_nil, fun _ _ _ => List.disjoint_nil_left _⟩

theorem uncreated_subset {stage : Stage} {ticket : WebhookTicket} (left : ticket ∈ stage.uncreated sha256) :
    ticket ∈ stage.pending sha256 := by
  cases stage with
  | creating work => exact left
  | recording work made => exact List.mem_cons_of_mem _ left
  | idle => cases left
  | ended summary => cases left

theorem pending_of_recording {stage : Stage} {ticket : WebhookTicket} (made : stage.isRecording ticket) :
    ticket ∈ stage.pending sha256 := by
  obtain ⟨work, rfl⟩ := made
  exact List.mem_cons_self

theorem stages_self (s : Site) (d : Nat) (stage : Stage) : (s.setStage d stage).stages d = stage :=
  Function.update_self ..

theorem stages_of_ne (s : Site) {d e : Nat} (stage : Stage) (other : e ≠ d) :
    (s.setStage d stage).stages e = s.stages e :=
  Function.update_of_ne other ..

/-- Who else records a ticket still does after a delivery has moved. -/
theorem known_of_others {s : Site} (inv : Invariant sha256 s) {d : Nat} {stage : Stage} {ledger : List WebhookTicket}
    (kept : ∀ ticket ∈ s.ledger, ticket ∈ ledger)
    (own : ∀ ticket, (s.stages d).isRecording ticket → ticket ∈ ledger ∨ stage.isRecording ticket) :
    ∀ ticket ∈ s.tickets, ticket ∈ ledger ∨ ∃ e, ((s.setStage d stage).stages e).isRecording ticket := by
  intro ticket member
  rcases inv.known ticket member with listed | ⟨e, made⟩
  · exact .inl (kept ticket listed)
  · by_cases here : e = d
    · subst here
      refine (own ticket made).imp_right fun still => ⟨e, ?_⟩
      rwa [stages_self]
    · refine .inr ⟨e, ?_⟩
      rwa [stages_of_ne s stage here]

/-- A delivery moves to a stage in which it has the given tickets left, no others' and none
    that have been created. -/
theorem invariant_setStage {s : Site} (inv : Invariant sha256 s) {d : Nat} {stage : Stage} {ledger : List WebhookTicket}
    (known : ∀ ticket ∈ s.tickets, ticket ∈ ledger ∨ ∃ e, ((s.setStage d stage).stages e).isRecording ticket)
    (single : (stage.pending sha256).Nodup)
    (apart : ∀ e, e ≠ d → (stage.pending sha256).Disjoint ((s.stages e).pending sha256))
    (uncreated : ∀ ticket ∈ stage.uncreated sha256, ticket ∉ s.tickets) :
    Invariant sha256 { s.setStage d stage with ledger := ledger } := by
  refine ⟨inv.unique, known, fun e => ?_, fun e => ?_, fun e f differ => ?_⟩
  · show ∀ ticket ∈ ((s.setStage d stage).stages e).uncreated sha256, ticket ∉ s.tickets
    by_cases here : e = d
    · rw [here, stages_self]
      exact uncreated
    · rw [stages_of_ne s stage here]
      exact inv.uncreated e
  · show (((s.setStage d stage).stages e).pending sha256).Nodup
    by_cases here : e = d
    · rw [here, stages_self]
      exact single
    · rw [stages_of_ne s stage here]
      exact inv.single e
  · show (((s.setStage d stage).stages e).pending sha256).Disjoint (((s.setStage d stage).stages f).pending sha256)
    by_cases first : e = d
    · by_cases second : f = d
      · exact absurd (first.trans second.symm) differ
      · rw [first, stages_self, stages_of_ne s stage second]
        exact apart f second
    · by_cases second : f = d
      · rw [second, stages_self, stages_of_ne s stage first]
        exact (apart e first).symm
      · rw [stages_of_ne s stage first, stages_of_ne s stage second]
        exact inv.apart e f differ

/-- A delivery has no more tickets left than before. -/
theorem invariant_advances {s : Site} (inv : Invariant sha256 s) {d : Nat} {stage : Stage} {ledger : List WebhookTicket}
    (known : ∀ ticket ∈ s.tickets, ticket ∈ ledger ∨ ∃ e, ((s.setStage d stage).stages e).isRecording ticket)
    (pending : (stage.pending sha256).Sublist ((s.stages d).pending sha256))
    (uncreated : ∀ ticket ∈ stage.uncreated sha256, ticket ∈ (s.stages d).uncreated sha256) :
    Invariant sha256 { s.setStage d stage with ledger := ledger } :=
  invariant_setStage inv known (pending.nodup (inv.single d))
    (fun e other => List.disjoint_of_subset_left pending.subset (inv.apart d e other.symm))
    (fun ticket left => inv.uncreated d ticket (uncreated ticket left))

theorem uncreated_stage (work : Work) : work.stage.uncreated sha256 = work.tickets sha256 := by
  unfold Work.stage
  split
  · next none_ => simp [Stage.uncreated, Work.tickets, none_]
  · rfl

theorem invariant_delivers {s : Site} (inv : Invariant sha256 s) {d : Nat} {projectId : Int} {cfg : Config}
    {findings : List RiskFinding} (idle : s.stages d = .idle)
    (orderly : Orderly library sha256 s (.delivers d projectId cfg findings)) {stage : Stage}
    (is : stage.pending sha256 = [] ∧ stage.uncreated sha256 = [] ∨
      stage = (workOf library sha256 s.ledger projectId cfg findings).stage) :
    Invariant sha256 (s.setStage d stage) := by
  obtain ⟨distinct, free⟩ := orderly
  have known : ∀ ticket ∈ s.tickets, ticket ∈ s.ledger ∨ ∃ e, ((s.setStage d stage).stages e).isRecording ticket :=
    known_of_others inv (fun _ listed => listed)
      (fun ticket made => by rw [idle] at made; obtain ⟨work, made⟩ := made; cases made)
  rcases is with ⟨pending, uncreated⟩ | rfl
  · refine invariant_advances inv known ?_ ?_
    · rw [pending]
      exact List.nil_sublist _
    · rw [uncreated]
      exact fun _ => nofun
  · refine invariant_setStage inv known ?_ ?_ ?_
    · rw [pending_stage]
      exact distinct
    · intro e _
      rw [pending_stage]
      exact free e
    · intro ticket taken made
      rw [uncreated_stage] at taken
      rcases inv.known ticket made with listed | ⟨e, recording⟩
      · exact not_mem_ledger taken listed
      · exact free e ticket taken (pending_of_recording recording)

/-- The tracker creates the next ticket of a delivery. -/
theorem invariant_created {s : Site} (inv : Invariant sha256 s) {d : Nat} {work : Work} {finding : RiskFinding}
    {rest : List RiskFinding} (was : s.stages d = .creating work) (todo : work.todo = finding :: rest) :
    let ticket := ticketOf sha256 work.projectId work.platform finding
    Invariant sha256
      { s.setStage d (.recording { work with todo := rest } ticket) with tickets := s.tickets ++ [ticket] } := by
  intro ticket
  have pending : (s.stages d).pending sha256 =
      ticket :: ({ work with todo := rest } : Work).tickets sha256 := by
    rw [was]
    show work.todo.map _ = _
    rw [todo]
    rfl
  have left : (s.stages d).uncreated sha256 = ticket :: ({ work with todo := rest } : Work).tickets sha256 := by
    rw [← pending, was]
    rfl
  have new : ticket ∉ s.tickets := inv.uncreated d ticket (by rw [left]; exact List.mem_cons_self)
  have single := inv.single d
  rw [pending, List.nodup_cons] at single
  have moved : Invariant sha256
      { s.setStage d (.recording { work with todo := rest } ticket) with ledger := s.ledger } := invariant_setStage inv
    (known_of_others inv (fun _ listed => listed)
      (fun other made => by rw [was] at made; obtain ⟨work, made⟩ := made; cases made))
    (by have all := inv.single d; rw [pending] at all; exact all)
    (fun e other => by have all := inv.apart d e other.symm; rw [pending] at all; exact all)
    (fun other more => inv.uncreated d other (by rw [left]; exact List.mem_cons_of_mem _ more))
  refine ⟨?_, ?_, ?_, moved.single, moved.apart⟩
  · exact List.nodup_append.mpr ⟨inv.unique, List.nodup_singleton _, fun a first b second => by
      rw [List.mem_singleton.mp second]
      rintro rfl
      exact new first⟩
  · intro other member
    rcases List.mem_append.mp member with before | made
    · exact moved.known other before
    · refine .inr ⟨d, { work with todo := rest }, ?_⟩
      rw [List.mem_singleton.mp made]
      exact stages_self ..
  · intro e other more made
    rcases List.mem_append.mp made with before | now
    · exact moved.uncreated e other more before
    · rw [List.mem_singleton.mp now] at more
      have more : ticket ∈ ((s.setStage d (.recording { work with todo := rest } ticket)).stages e).uncreated sha256 :=
        more
      by_cases here : e = d
      · rw [here, stages_self] at more
        exact single.1 more
      · rw [stages_of_ne s _ here] at more
        refine inv.apart d e (Ne.symm here) ?_ (uncreated_subset more)
        rw [pending]
        exact List.mem_cons_self

theorem invariant_step {s t : Site} {l : Label} (inv : Invariant sha256 s) (orderly : Orderly library sha256 s l)
    (stepped : step library sha256 s l = some t) : Invariant sha256 t := by
  cases l with
  | delivers d projectId cfg findings =>
    simp only [step, delivers, Option.ite_none_right_eq_some, Option.some.injEq] at stepped
    obtain ⟨idle, rfl⟩ := stepped
    refine invariant_delivers inv idle orderly ?_
    split
    · exact .inl ⟨rfl, rfl⟩
    · split
      · exact .inl ⟨rfl, rfl⟩
      · exact .inr rfl
  | answers d ok =>
    simp only [step, answers] at stepped
    split at stepped
    · next work was =>
      split at stepped
      · cases stepped
      · next finding rest todo =>
        cases ok with
        | true =>
          cases stepped
          exact invariant_created inv was todo
        | false =>
          cases stepped
          have tail : ∀ summary, ({ work with todo := rest, summary := summary } : Work).tickets sha256 =
              (work.tickets sha256).tail := by
            intro summary
            unfold Work.tickets
            rw [todo]
            rfl
          refine invariant_advances inv (known_of_others inv (fun _ listed => listed) ?_) ?_ ?_
          · rintro ticket ⟨other, made⟩
            rw [was] at made
            cases made
          · rw [pending_stage, tail, was]
            exact List.tail_sublist _
          · intro ticket more
            rw [uncreated_stage, tail] at more
            rw [was]
            exact List.mem_of_mem_tail more
    · cases stepped
  | records d committed =>
    have committed : committed = true := orderly
    subst committed
    simp only [step, records] at stepped
    split at stepped
    · next work ticket was =>
      cases stepped
      have recorded : ∀ row, row ∈ s.ledger ∨ row = ticket →
          row ∈ if True ∧ ticket ∉ s.ledger then s.ledger ++ [ticket] else s.ledger := by
        intro row either
        by_cases listed : ticket ∈ s.ledger
        · rw [if_neg (by simp [listed])]
          rcases either with member | rfl
          · exact member
          · exact listed
        · rw [if_pos ⟨trivial, listed⟩]
          rcases either with member | rfl
          · exact List.mem_append_left _ member
          · exact List.mem_append_right _ (List.mem_singleton_self _)
      refine invariant_advances inv (known_of_others inv (fun row listed => ?_) ?_) ?_ ?_
      · simpa using recorded row (.inl listed)
      · rintro row ⟨other, made⟩
        rw [was] at made
        cases made
        exact .inl (by simpa using recorded ticket (.inr rfl))
      · rw [pending_stage, was]
        exact List.sublist_cons_self _ _
      · intro row more
        rw [uncreated_stage] at more
        rw [was]
        exact more
    · cases stepped
  | raises d =>
    simp only [step, raises] at stepped
    split at stepped
    · next work was =>
      cases stepped
      refine invariant_advances inv (known_of_others inv (fun _ listed => listed) ?_) (List.nil_sublist _)
        (fun _ => nofun)
      rintro ticket ⟨other, made⟩
      rw [was] at made
      cases made
    · next work ticket was => exact absurd was (orderly work ticket)
    · cases stepped

end Invariant

def jira : Config := ⟨true, .jira, "https://tracker", "token", "", "", "", "OT"⟩

def cleartext (edge : String) : RiskFinding :=
  ⟨some "CLEARTEXT_REMOTE_ACCESS", some "HIGH", some "Telnet in use", none, none, ["10.0.0.5"], [edge], [], [], none⟩

def oneDelivery : List Label := [.delivers 0 7 jira [cleartext ""], .answers 0 true, .records 0 true]

theorem oneDelivery_orderly : Meets (step plainLibrary reversed) (Orderly plainLibrary reversed) start oneDelivery := by
  refine meets_cons rfl ⟨?_, fun e ticket _ => ?_⟩ (meets_of_labels ?_ _)
  · exact List.nodup_singleton (ticketOf reversed 7 .jira (cleartext ""))
  · exact List.not_mem_nil
  · intro l member s
    simp only [List.mem_cons, List.not_mem_nil, or_false] at member
    rcases member with rfl | rfl
    · trivial
    · rfl

/-- Two findings of one delivery that differ in their edges. -/
def twiceInOne : List Label :=
  [.delivers 0 7 jira [cleartext "a", cleartext "b"], .answers 0 true, .records 0 true, .answers 0 true]

/-- Two deliveries that read the ledger before either has recorded a ticket. -/
def twoAtOnce : List Label :=
  [.delivers 0 7 jira [cleartext ""], .delivers 1 7 jira [cleartext ""], .answers 0 true, .records 0 true,
   .answers 1 true]

/-- A delivery whose commit fails, and another after it. -/
def notRecorded : List Label :=
  [.delivers 0 7 jira [cleartext ""], .answers 0 true, .records 0 false, .delivers 1 7 jira [cleartext ""],
   .answers 1 true]

def CreatesTwice (labels : List Label) : Prop :=
  ∃ s, run (step plainLibrary reversed) start labels = some s ∧ ¬s.tickets.Nodup

theorem createsTwice_of_run {labels : List Label} {ticket : WebhookTicket}
    (created : (run (step plainLibrary reversed) start labels).map (·.tickets) = some [ticket, ticket]) :
    CreatesTwice labels := by
  obtain ⟨s, ran, tickets⟩ := Option.map_eq_some_iff.mp created
  refine ⟨s, ran, ?_⟩
  rw [tickets]
  simp

end Marlinspike.Webhook.Tickets
