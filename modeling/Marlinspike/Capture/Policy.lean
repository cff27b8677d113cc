import Mathlib.Algebra.Order.Ring.Int
import Mathlib.Data.Int.Basic
import Mathlib.Tactic.SplitIfs
import Marlinspike.Json
import Marlinspike.Capture.Manager

/-!
`_start_capture_session`: four gates of the project's policy, the host's own two for a
local capture, and only then the row, the lock and the start command.
-/
namespace Marlinspike.Capture.Policy
open Marlinspike.Capture.Manager

/-- `project.capture_policy`, parsed. -/
abbrev CapturePolicy := PyDict String Json

/-! ### `_validate_policy_body` -/

def policyAllowedKeys : List String :=
  ["enabled", "allowed_interfaces", "max_session_duration_s", "max_total_bytes", "operator_warning"]

/-- The check that `max_session_duration_s` and `max_total_bytes` share. -/
def nonNegativeOrNull (body : CapturePolicy) (field : String) : Option String :=
  match body.get field with
  | none | some .null => none
  | some v =>
    match v.asInt with
    | some i => if i < 0 then some (field ++ " must be a non-negative integer or null") else none
    | none => some (field ++ " must be a non-negative integer or null")

def enabledError (body : CapturePolicy) : Option String :=
  match body.get "enabled" with
  | none | some (.bool _) => none
  | some _ => some "enabled must be a boolean"

def interfacesError (body : CapturePolicy) : Option String :=
  match body.get "allowed_interfaces" with
  | none => none
  | some (.arr items) =>
    if items.all (·.asStr.isSome) then none else some "allowed_interfaces must be a list of strings"
  | some _ => some "allowed_interfaces must be a list of strings"

def warningError (body : CapturePolicy) : Option String :=
  match body.get "operator_warning" with
  | none | some .null | some (.str _) => none
  | some _ => some "operator_warning must be a string or null"

def validatePolicyBody (body : CapturePolicy) : Option String :=
  let unknown := (body.items.map Prod.fst).filter (· ∉ policyAllowedKeys)
  if unknown ≠ [] then some ("unknown keys: " ++ ", ".intercalate (unknown.mergeSort (· ≤ ·)))
  else
    (enabledError body).or <| (interfacesError body).or <| (nonNegativeOrNull body "max_session_duration_s").or <|
      (nonNegativeOrNull body "max_total_bytes").or (warningError body)

/-! ### The gates -/

/-- `policy.get("allowed_interfaces")`. -/
def allowedInterfaces (policy : CapturePolicy) : Option (List String) :=
  match policy.get "allowed_interfaces" with
  | none | some .null => none
  | some (.arr items) => some (items.filterMap Json.asStr)
  | some _ => some []

def resolveInterfaceAllowlist (system : List String) (policy : CapturePolicy) : Option (List String) :=
  match allowedInterfaces policy with
  | none => if system = [] then none else some system
  | some projectIfaces => if system = [] then some projectIfaces else some (projectIfaces.filter (· ∈ system))

/-- `min(ring_filesize_kb, max(1, max_total_kb // applied_ring_files))`. -/
def ringFilesizeFor (ringFilesizeKb maxTotalKb : Int) (ringFiles : Nat) : Int :=
  min ringFilesizeKb (max 1 (maxTotalKb / ringFiles))

/-- The `while` loop of `_apply_max_total_bytes_cap`: the file size and the files that it ends with. -/
def shrinkRing (ringFilesizeKb maxTotalKb : Int) : Nat → Int × Nat
  | 0 => (ringFilesizeFor ringFilesizeKb maxTotalKb 0, 0)
  | n + 1 =>
    let filesize := ringFilesizeFor ringFilesizeKb maxTotalKb (n + 1)
    if 1 < n + 1 ∧ (n + 1 : Nat) * filesize > maxTotalKb then shrinkRing ringFilesizeKb maxTotalKb n
    else (filesize, n + 1)

/-- A ring: its file size, its files and what they retain. -/
structure Ring where
  filesizeKb : Int
  files : Int
  totalBytes : Int
deriving DecidableEq, Repr

/-- The applied ring, if there is one, and what was requested. -/
def applyMaxTotalBytesCap (ringFilesizeKb ringFiles : Int) (maxTotalBytes : Option Int) : Option Ring × Int :=
  let requested := ringFilesizeKb * 1024 * ringFiles
  match maxTotalBytes with
  | none => (some ⟨ringFilesizeKb, ringFiles, requested⟩, requested)
  | some maxTotalBytes =>
    if maxTotalBytes < 1024 then (none, requested)
    else
      let maxTotalKb := maxTotalBytes / 1024
      let applied := shrinkRing ringFilesizeKb maxTotalKb (max 1 (min ringFiles maxTotalKb)).toNat
      let total := applied.2 * applied.1 * 1024
      if total > maxTotalBytes then (none, requested) else (some ⟨applied.1, applied.2, total⟩, requested)

/-! ### `_start_capture_session` -/

structure Config where
  /-- `MARLINSPIKE_CAPTURE_INTERFACE_ALLOWLIST`. -/
  interfaceAllowlist : List String
  /-- `LIVE_CAPTURE_MAX_CONCURRENT`. -/
  maxConcurrent : Nat

structure Project where
  id : Nat
  /-- `none` when the column is empty or no JSON object. -/
  capturePolicy : Option CapturePolicy

/-- `_parse_policy`. -/
def Project.policy (project : Project) : CapturePolicy := project.capturePolicy.getD PyDict.empty

structure Request where
  userId : Nat
  project : Option Project
  /-- `agent.id`; none for the local capd. -/
  agent : Option Nat
  interface : String
  bpfFilter : String
  ringFilesizeKb : Int
  ringFiles : Int
  maxDurationS : Int
  sessionUuid : String

/-- What `client.start` sends, to the local capd or to an agent. -/
structure StartCommand where
  agent : Option Nat
  sessionId : String
  interface : String
  bpfFilter : String
  ringFilesizeKb : Int
  ringFiles : Int
  maxDurationS : Int
deriving DecidableEq, Repr

inductive Answer where
  | ok (outputDir : Option String)
  | unavailable (error : String)
  | error (error : String)
deriving DecidableEq, Repr

structure CaptureSession where
  command : StartCommand
  userId : Nat
  projectId : Nat
  status : Status
  captureDir : Option String
  errorTail : Option String
deriving DecidableEq, Repr

inductive Refusal where
  | interfaceRequired
  | badNumbers
  | projectRequired
  | disabled
  | notPermitted (interface : String) (allowed : List String)
  | belowMinimumRing
  | tooManyCaptures (maxConcurrent : Nat)
  | inUse (interface holder : String)
deriving DecidableEq, Repr

/-- The detail of a `capture.policy_capped` audit. -/
structure Capped where
  field : String
  requested : Int
  applied : Int
  projectId : Nat
  interface : String
  /-- The requested and the applied ring, for `max_total_bytes`. -/
  rings : Option ((Int × Int) × (Int × Int))
deriving DecidableEq, Repr

inductive Response where
  | refused (reason : Refusal)
  | unavailable (error : String)
  | failed (error : String)
  | started (session : CaptureSession)
deriving DecidableEq, Repr

def Refusal.status : Refusal → Nat
  | .interfaceRequired | .badNumbers | .projectRequired => 400
  | .disabled | .notPermitted _ _ | .belowMinimumRing => 403
  | .tooManyCaptures _ | .inUse _ _ => 409

def Response.status : Response → Nat
  | .refused reason => reason.status
  | .unavailable _ => 503
  | .failed _ => 502
  | .started _ => 201

structure World where
  locks : Locks String
  /-- `active_session_count()`. -/
  active : Nat
  sessions : List CaptureSession
  sent : List StartCommand
  audits : List Capped

/-- Gate 3: the duration that is applied, and its audit. -/
def capDuration (policy : CapturePolicy) (project : Project) (request : Request) : Int × List Capped :=
  match (policy.get "max_session_duration_s").bind Json.asInt with
  | some cap =>
    if 0 < cap ∧ (request.maxDurationS ≤ 0 ∨ request.maxDurationS > cap) then
      (cap, [⟨"max_session_duration_s", request.maxDurationS, cap, project.id, request.interface, none⟩])
    else (request.maxDurationS, [])
  | none => (request.maxDurationS, [])

/-- Gate 4: the ring that is applied, and its audit. -/
def capRing (policy : CapturePolicy) (project : Project) (request : Request) : Option (Int × Int) × List Capped :=
  match (policy.get "max_total_bytes").bind Json.asInt with
  | none => (some (request.ringFilesizeKb, request.ringFiles), [])
  | some cap =>
    match applyMaxTotalBytesCap request.ringFilesizeKb request.ringFiles (some cap) with
    | (none, _) => (none, [])
    | (some ring, requested) =>
      (some (ring.filesizeKb, ring.files),
        if ring.filesizeKb ≠ request.ringFilesizeKb ∨ ring.files ≠ request.ringFiles then
          [⟨"max_total_bytes", requested, ring.totalBytes, project.id, request.interface,
            some ((request.ringFilesizeKb, request.ringFiles), ring.filesizeKb, ring.files)⟩]
        else [])

/-- The row, the start command, and what comes of its answer. -/
def launch (answer : StartCommand → Answer) (world : World) (request : Request) (project : Project)
    (command : StartCommand) : Response × World :=
  let row : CaptureSession := ⟨command, request.userId, project.id, .pending, none, none⟩
  let sent := { world with sent := world.sent ++ [command] }
  let failed (error : String) : World :=
    { sent with
      sessions := world.sessions ++ [{ row with status := .failed, errorTail := some error }]
      locks := if request.agent = none then releaseInterface world.locks request.interface request.sessionUuid
        else world.locks }
  match answer command with
  | .unavailable error => (.unavailable error, failed error)
  | .error error => (.failed error, failed error)
  | .ok outputDir =>
    let running := { row with status := .running, captureDir := outputDir }
    (.started running,
      { sent with
        sessions := world.sessions ++ [running]
        active := if request.agent = none then world.active + 1 else world.active })

/-- The host's own gates, for a local capture. -/
def passGates (config : Config) (world : World) (request : Request) : Except Refusal World :=
  if request.agent ≠ none then .ok world
  else if world.active ≥ config.maxConcurrent then .error (.tooManyCaptures config.maxConcurrent)
  else
    match acquireInterface world.locks request.interface request.sessionUuid with
    | (some holder, _) => .error (.inUse request.interface holder)
    | (none, locks) => .ok { world with locks := locks }

/-- The command with the ring and the duration that are applied. -/
def startCommand (request : Request) (ring : Int × Int) (maxDurationS : Int) : StartCommand where
  agent := request.agent
  sessionId := request.sessionUuid
  interface := request.interface
  bpfFilter := request.bpfFilter
  ringFilesizeKb := ring.1
  ringFiles := ring.2
  maxDurationS := maxDurationS

def startCaptureSession (config : Config) (answer : StartCommand → Answer) (world : World) (request : Request) :
    Response × World :=
  if request.interface = "" then (.refused .interfaceRequired, world)
  else if request.ringFilesizeKb < 1 ∨ request.ringFiles < 1 ∨ request.maxDurationS < 0 then (.refused .badNumbers, world)
  else
    match request.project with
    | none => (.refused .projectRequired, world)
    | some project =>
      let policy := project.policy
      match policy.get "enabled" with
      | some (.bool false) => (.refused .disabled, world)
      | _ =>
        let allowed := resolveInterfaceAllowlist config.interfaceAllowlist policy
        if allowed.all (request.interface ∈ ·) then
          let duration := capDuration policy project request
          match capRing policy project request with
          | (none, _) => (.refused .belowMinimumRing, { world with audits := world.audits ++ duration.2 })
          | (some ring, audits) =>
            let audited := { world with audits := world.audits ++ duration.2 ++ audits }
            match passGates config audited request with
            | .error reason => (.refused reason, audited)
            | .ok admitted =>
              launch answer admitted request project (startCommand request ring duration.1)
        else (.refused (.notPermitted request.interface (allowed.getD [])), world)

/-! ### What the gates let through -/

/-- A start command that every gate of the policy and the host's allowlist have passed. -/
structure Enforced (config : Config) (policy : CapturePolicy) (request : Request) (command : StartCommand) : Prop where
  enabled : policy.get "enabled" ≠ some (.bool false)
  interface : command.interface = request.interface
  system : config.interfaceAllowlist ≠ [] → command.interface ∈ config.interfaceAllowlist
  project : ∀ v, policy.get "allowed_interfaces" = some v → ∃ items, v = .arr items ∧ .str command.interface ∈ items
  duration : ∀ v, policy.get "max_session_duration_s" = some v → v ≠ .null →
    ∃ cap, v.asInt = some cap ∧ (0 < cap → 1 ≤ command.maxDurationS ∧ command.maxDurationS ≤ cap)
  bytes : ∀ v, policy.get "max_total_bytes" = some v → v ≠ .null →
    ∃ cap, v.asInt = some cap ∧ command.ringFilesizeKb * command.ringFiles * 1024 ≤ cap

theorem checks_of_valid {policy : CapturePolicy} (valid : validatePolicyBody policy = none) :
    interfacesError policy = none ∧ nonNegativeOrNull policy "max_session_duration_s" = none ∧
      nonNegativeOrNull policy "max_total_bytes" = none := by
  unfold validatePolicyBody at valid
  simp only at valid
  split_ifs at valid
  simp only [Option.or_eq_none_iff] at valid
  exact ⟨valid.2.1, valid.2.2.1, valid.2.2.2.1⟩

theorem interfaces_of_valid {policy : CapturePolicy} {v : Json} (checked : interfacesError policy = none)
    (present : policy.get "allowed_interfaces" = some v) : ∃ items, v = .arr items := by
  unfold interfacesError at checked
  rw [present] at checked
  cases v with
  | arr items => exact ⟨items, rfl⟩
  | _ => simp at checked

theorem int_of_nonNegative {policy : CapturePolicy} {field : String} {v : Json}
    (checked : nonNegativeOrNull policy field = none) (present : policy.get field = some v) (nonNull : v ≠ .null) :
    ∃ cap, v.asInt = some cap ∧ (policy.get field).bind Json.asInt = some cap := by
  unfold nonNegativeOrNull at checked
  rw [present] at checked ⊢
  cases cap : v.asInt with
  | some i => exact ⟨i, rfl, cap⟩
  | none => cases v <;> simp_all

theorem system_of_allowed {system : List String} {policy : CapturePolicy} {interface : String}
    (allowed : (resolveInterfaceAllowlist system policy).all (interface ∈ ·)) (restricted : system ≠ []) :
    interface ∈ system := by
  unfold resolveInterfaceAllowlist at allowed
  cases listed : allowedInterfaces policy with
  | none => simpa [listed, restricted] using allowed
  | some ifaces =>
    rw [listed] at allowed
    simp only [if_neg restricted, Option.all_some, decide_eq_true_eq, List.mem_filter] at allowed
    exact allowed.2

theorem project_of_allowed {system : List String} {policy : CapturePolicy} {interface : String} {items : List Json}
    (allowed : (resolveInterfaceAllowlist system policy).all (interface ∈ ·))
    (present : policy.get "allowed_interfaces" = some (.arr items)) : .str interface ∈ items := by
  have listed : allowedInterfaces policy = some (items.filterMap Json.asStr) := by
    simp [allowedInterfaces, present]
  unfold resolveInterfaceAllowlist at allowed
  rw [listed] at allowed
  have member : interface ∈ items.filterMap Json.asStr := by
    by_cases restricted : system = []
    · simpa [restricted] using allowed
    · simp only [if_neg restricted, Option.all_some, decide_eq_true_eq, List.mem_filter] at allowed
      exact allowed.1
  obtain ⟨item, mem, text⟩ := List.mem_filterMap.mp member
  cases item with
  | str s =>
    obtain rfl : s = interface := by simpa [Json.asStr] using text
    exact mem
  | _ => simp [Json.asStr] at text

/-- Gate 3 leaves a positive cap's duration between one second and the cap. -/
theorem capDuration_bounds {policy : CapturePolicy} {project : Project} {request : Request} {cap : Int}
    (capped : (policy.get "max_session_duration_s").bind Json.asInt = some cap) (positive : 0 < cap) :
    1 ≤ (capDuration policy project request).1 ∧ (capDuration policy project request).1 ≤ cap := by
  unfold capDuration
  simp only [capped]
  split_ifs with outside
  · simp only
    omega
  · have inside : ¬(request.maxDurationS ≤ 0 ∨ request.maxDurationS > cap) := fun either => outside ⟨positive, either⟩
    simp only
    omega

/-- The ring that `_apply_max_total_bytes_cap` returns retains no more than the cap. -/
theorem applied_le_cap {ringFilesizeKb ringFiles cap : Int} {ring : Ring} {requested : Int}
    (applied : applyMaxTotalBytesCap ringFilesizeKb ringFiles (some cap) = (some ring, requested)) :
    ring.filesizeKb * ring.files * 1024 ≤ cap := by
  unfold applyMaxTotalBytesCap at applied
  simp only at applied
  split_ifs at applied with small large
  · simp at applied
  · simp at applied
  · obtain ⟨rfl, -⟩ := Prod.mk.inj applied |>.imp_left Option.some.inj
    rw [Int.mul_comm (shrinkRing _ _ _).1]
    exact Int.not_lt.mp large

/-- A number of files that the cap has a kilobyte for each of is not reduced any further. -/
theorem shrinkRing_eq {ringFilesizeKb maxTotalKb : Int} {ringFiles : Nat} (some_ : 0 < ringFiles)
    (room : ringFiles ≤ maxTotalKb) :
    shrinkRing ringFilesizeKb maxTotalKb ringFiles = (min ringFilesizeKb (maxTotalKb / ringFiles), ringFiles) := by
  have positive : (0 : Int) < ringFiles := Int.natCast_pos.mpr some_
  have share : 1 ≤ maxTotalKb / ringFiles := (Int.le_ediv_iff_mul_le positive).mpr (by omega)
  have whole : ringFiles * (maxTotalKb / ringFiles) ≤ maxTotalKb := Int.mul_ediv_self_le (by omega)
  have filesize : ringFilesizeFor ringFilesizeKb maxTotalKb ringFiles =
      min ringFilesizeKb (maxTotalKb / ringFiles) := by
    rw [ringFilesizeFor, max_eq_right share]
  have fits : (ringFiles : Int) * min ringFilesizeKb (maxTotalKb / ringFiles) ≤ maxTotalKb :=
    (Int.mul_le_mul_of_nonneg_left (min_le_right _ _) positive.le).trans whole
  cases ringFiles with
  | zero => omega
  | succ n =>
    rw [shrinkRing]
    simp only [filesize]
    rw [if_neg]
    rintro ⟨-, large⟩
    exact absurd fits (not_le_of_gt large)

theorem applyMaxTotalBytesCap_eq (ringFilesizeKb : Int) {ringFiles cap : Int} (files : 1 ≤ ringFiles)
    (room : 1024 ≤ cap) :
    ∃ ring, (applyMaxTotalBytesCap ringFilesizeKb ringFiles (some cap)).1 = some ring ∧
      ring.files = min ringFiles (cap / 1024) ∧ ring.filesizeKb = min ringFilesizeKb (cap / 1024 / ring.files) ∧
      ring.totalBytes = ring.files * ring.filesizeKb * 1024 ∧ ring.totalBytes ≤ cap := by
  have kilobytes : 1 ≤ cap / 1024 := by omega
  obtain ⟨n, is⟩ := Int.eq_ofNat_of_zero_le (show 0 ≤ min ringFiles (cap / 1024) by omega)
  have applied : (max 1 (min ringFiles (cap / 1024))).toNat = n := by omega
  have some_ : 0 < n := by omega
  have fits : (n : Int) ≤ cap / 1024 := by omega
  have product : (n : Int) * min ringFilesizeKb (cap / 1024 / n) ≤ cap / 1024 :=
    (Int.mul_le_mul_of_nonneg_left (min_le_right _ _) (by omega)).trans (Int.mul_ediv_self_le (by omega))
  unfold applyMaxTotalBytesCap
  simp only [applied, shrinkRing_eq some_ fits]
  rw [if_neg (by omega), if_neg (by omega)]
  exact ⟨_, rfl, is.symm, rfl, rfl, by simp only; omega⟩

/-- A ring within a cap, and what was asked for where that fits. -/
structure Clamped (ringFilesizeKb ringFiles cap : Int) (ring : Ring) : Prop where
  filesize : 1 ≤ ring.filesizeKb ∧ ring.filesizeKb ≤ ringFilesizeKb
  files : 1 ≤ ring.files ∧ ring.files ≤ ringFiles
  total : ring.totalBytes = ring.files * ring.filesizeKb * 1024
  within : ring.files * ring.filesizeKb * 1024 ≤ cap
  unchanged : ringFiles * ringFilesizeKb * 1024 ≤ cap → ring.filesizeKb = ringFilesizeKb ∧ ring.files = ringFiles

/-- `_apply_max_total_bytes_cap` turns a ring down exactly if the cap is below a kilobyte, and
    else clamps it. -/
theorem clamp_sound_tight {ringFilesizeKb ringFiles : Int} (filesize : 1 ≤ ringFilesizeKb) (files : 1 ≤ ringFiles)
    (cap : Int) :
    ((applyMaxTotalBytesCap ringFilesizeKb ringFiles (some cap)).1 = none ↔ cap < 1024) ∧
      ∀ ring, (applyMaxTotalBytesCap ringFilesizeKb ringFiles (some cap)).1 = some ring →
        Clamped ringFilesizeKb ringFiles cap ring := by
  by_cases small : cap < 1024
  · have rejected : (applyMaxTotalBytesCap ringFilesizeKb ringFiles (some cap)).1 = none := by
      unfold applyMaxTotalBytesCap
      simp only [if_pos small]
    simp [rejected, small]
  · obtain ⟨ring, applied, filesAre, filesizeIs, total, within⟩ :=
      applyMaxTotalBytesCap_eq ringFilesizeKb files (not_lt.mp small)
    rw [applied]
    refine ⟨by simp [small], ?_⟩
    intro other same
    obtain rfl := Option.some.inj same
    have least : 1 ≤ ring.files := by omega
    have share : 1 ≤ cap / 1024 / ring.files := (Int.le_ediv_iff_mul_le (by omega)).mpr (by omega)
    refine ⟨by omega, by omega, total, total ▸ within, ?_⟩
    intro fits
    have product : ringFiles * ringFilesizeKb ≤ cap / 1024 := by omega
    have fewer : ringFiles ≤ ringFiles * ringFilesizeKb := le_mul_of_one_le_right (by omega) filesize
    have all : ring.files = ringFiles := by omega
    have whole : ringFilesizeKb ≤ cap / 1024 / ring.files := by
      rw [all]
      apply (Int.le_ediv_iff_mul_le (by omega)).mpr
      rwa [Int.mul_comm]
    exact ⟨by omega, all⟩

/-- Ten files of 200 MB, in 100 MB. -/
theorem scheduled_ring_clamped :
    ((applyMaxTotalBytesCap 200000 10 (some 104857600)).1 = none ↔ (104857600 : Int) < 1024) ∧
      ∀ ring, (applyMaxTotalBytesCap 200000 10 (some 104857600)).1 = some ring →
        Clamped 200000 10 104857600 ring :=
  clamp_sound_tight (by decide) (by decide) 104857600

theorem capRing_bound {policy : CapturePolicy} {project : Project} {request : Request} {cap : Int}
    {ring : Int × Int} {audits : List Capped} (capped : (policy.get "max_total_bytes").bind Json.asInt = some cap)
    (passed : capRing policy project request = (some ring, audits)) : ring.1 * ring.2 * 1024 ≤ cap := by
  unfold capRing at passed
  rw [capped] at passed
  simp only at passed
  cases applied : applyMaxTotalBytesCap request.ringFilesizeKb request.ringFiles (some cap) with
  | mk result requested =>
    cases result with
    | none => simp [applied] at passed
    | some final =>
      rw [applied] at passed
      obtain ⟨rfl, -⟩ := Prod.mk.inj passed |>.imp_left Option.some.inj
      exact applied_le_cap applied

/-- Every launch sends its command, whatever comes of it. -/
theorem launch_sent (answer : StartCommand → Answer) (world : World) (request : Request) (project : Project)
    (command : StartCommand) : (launch answer world request project command).2.sent = world.sent ++ [command] := by
  unfold launch
  cases answer command <;> rfl

theorem passGates_sent {config : Config} {world admitted : World} {request : Request}
    (passed : passGates config world request = .ok admitted) : admitted.sent = world.sent := by
  unfold passGates at passed
  split_ifs at passed
  · cases passed
    rfl
  · split at passed
    · simp at passed
    · cases passed
      rfl

/-- What the gates have passed is a command that they enforce the policy on. -/
theorem enforced_of_gates {config : Config} {policy : CapturePolicy} {project : Project} {request : Request}
    {ring : Int × Int} {audits : List Capped} (valid : validatePolicyBody policy = none)
    (enabled : policy.get "enabled" ≠ some (.bool false))
    (allowed : (resolveInterfaceAllowlist config.interfaceAllowlist policy).all (request.interface ∈ ·))
    (ringed : capRing policy project request = (some ring, audits)) :
    Enforced config policy request (startCommand request ring (capDuration policy project request).1) := by
  obtain ⟨ifaces, durations, sizes⟩ := checks_of_valid valid
  refine ⟨enabled, rfl, system_of_allowed allowed, ?_, ?_, ?_⟩
  · intro v present
    obtain ⟨items, rfl⟩ := interfaces_of_valid ifaces present
    exact ⟨items, rfl, project_of_allowed allowed present⟩
  · intro v present nonNull
    obtain ⟨cap, asInt, capped⟩ := int_of_nonNegative durations present nonNull
    exact ⟨cap, asInt, capDuration_bounds capped⟩
  · intro v present nonNull
    obtain ⟨cap, asInt, capped⟩ := int_of_nonNegative sizes present nonNull
    exact ⟨cap, asInt, capRing_bound capped ringed⟩

/-- Four KiB and a minute on `eth0`. -/
def examplePolicy : CapturePolicy :=
  (((PyDict.empty.set "enabled" (.bool true)).set "allowed_interfaces" (.arr [.str "eth0"])).set
    "max_session_duration_s" (.int 60)).set "max_total_bytes" (.int 4096)

/-- An unlimited capture into eight files of 4 KiB. -/
def exampleRequest : Request := ⟨1, some ⟨7, some examplePolicy⟩, none, "eth0", "", 4, 8, 0, "s"⟩

end Marlinspike.Capture.Policy
