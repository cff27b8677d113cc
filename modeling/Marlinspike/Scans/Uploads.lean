import Mathlib.Data.List.Basic
import Mathlib.Logic.Function.Basic
import Mathlib.Tactic.SplitIfs

/-!
An upload: the bytes go to a temporary file in the project's directory, which takes the
uploaded file's name once they are all there. What is raised while they are read is caught, but
neither what the renaming raises nor what the archiving does; so an upload may leave its
temporary file behind, or its file though it has raised (`allOrNothing_iff`).
-/
namespace Marlinspike.Scans.Uploads

abbrev Bytes := List UInt8

/-- `PCAP_MAGIC`. -/
def pcapMagic : List Bytes :=
  [[0xd4, 0xc3, 0xb2, 0xa1], [0xa1, 0xb2, 0xc3, 0xd4], [0xa1, 0xb2, 0x3c, 0x4d], [0x4d, 0x3c, 0xb2, 0xa1],
    [0x0a, 0x0d, 0x0d, 0x0a]]

/-! ### The surroundings -/

inductive Entry where
  | file (bytes : Bytes)
  | directory
  /-- The file of `mkstemp`, with what has been written to it so far. -/
  | temporary
deriving DecidableEq

abbrev Directory := String → Option Entry

/-- An `Exception`, or else what ends the process, such as `SystemExit`. -/
inductive Raised where
  | exception
  | exit
deriving DecidableEq

/-- What a call of `f.read` does until the upload is at its end. -/
inductive Read where
  | chunk (bytes : Bytes) (some_ : bytes ≠ [])
  | raises (raised : Raised)

/-- The project that is asked for, or the user's default project. -/
inductive Project where
  | found
  | notFound
  | raises
deriving DecidableEq

structure Request where
  hasFile : Bool
  filename : String
  /-- `upload_limit_mb`, of a user that there is. -/
  uploadLimitMb : Option Int
  contentLength : Option Nat
  project : Project
  reads : List Read

structure System where
  defaultUploadLimitMb : Int
  mkstemp : Directory → Option String
  fresh : ∀ dir name, mkstemp dir = some name → dir name = none
  /-- `os.fdopen` does not raise. -/
  opens : Bool
  /-- The bytes that can be written before the disk is full. -/
  capacity : Nat
  closes : Bool
  unlinks : Bool
  /-- The file system takes the name. -/
  takes : String → Bool
  startsThread : Bool

inductive Answer where
  | ok (filename : String) (size : Nat)
  | error (text : String) (status : Nat)
  | raised
deriving DecidableEq

/-! ### The handler -/

/-- `os.path.basename`. -/
def basename (name : String) : String := String.ofList (name.toList.reverse.takeWhile (· ≠ '/')).reverse

section Handler
variable (request : Request) (system : System)

def limitMb : Int := (request.uploadLimitMb.filter (· ≠ 0)).getD system.defaultUploadLimitMb

def userMaxSize : Int := limitMb request system * 1024 * 1024

def tooLargeAnswer : Answer := .error ("File too large (max " ++ toString (limitMb request system) ++ " MB)") 413

/-- How the loop over the chunks ends. -/
inductive Streamed where
  | written (bytes : Bytes)
  | badMagic
  | tooLarge
  | raised (raised : Raised)
deriving DecidableEq

/-- The loop once the magic bytes have been checked. -/
def writeAll (maxSize : Int) (capacity : Nat) (out : Bytes) : List Read → Streamed
  | [] => .written out
  | .raises raised :: _ => .raised raised
  | .chunk bytes _ :: rest =>
    if maxSize < out.length + bytes.length then .tooLarge
    else if capacity < out.length + bytes.length then .raised .exception
    else writeAll maxSize capacity (out ++ bytes) rest

/-- The check of the magic bytes, and the loop from this chunk on. -/
def checked (maxSize : Int) (capacity : Nat) (bytes : Bytes) (some_ : bytes ≠ []) (rest : List Read) : Streamed :=
  if bytes.length < 4 ∨ bytes.take 4 ∉ pcapMagic then .badMagic
  else writeAll maxSize capacity [] (.chunk bytes some_ :: rest)

/-- The loop: of a first chunk that is too short, there is one more read. -/
def streamed (maxSize : Int) (capacity : Nat) : List Read → Streamed
  | [] => .written []
  | .raises raised :: _ => .raised raised
  | .chunk bytes some_ :: rest =>
    if 4 ≤ bytes.length then checked maxSize capacity bytes some_ rest
    else match rest with
      | [] => checked maxSize capacity bytes some_ []
      | .raises raised :: _ => .raised raised
      | .chunk more _ :: rest =>
        checked maxSize capacity (bytes ++ more) (List.append_ne_nil_of_left_ne_nil some_ more) rest

/-- A rejection in the loop: the temporary file is removed before the output is closed. -/
def reject (tmp : String) (dir : Directory) (answer : Answer) : Answer × Directory :=
  if system.unlinks then (if system.closes then answer else .raised, Function.update dir tmp none)
  else (.raised, dir)

/-- `except Exception`. -/
def cleanUp (tmp : String) (dir : Directory) (raised : Raised) : Answer × Directory :=
  if raised = .exception ∧ system.unlinks then (.raised, Function.update dir tmp none) else (.raised, dir)

/-- What follows the loop. -/
def publish (tmp name : String) (dir : Directory) (bytes : Bytes) : Answer × Directory :=
  if bytes = [] then
    if system.unlinks then (.error "Empty file" 400, Function.update dir tmp none) else (.raised, dir)
  else if !system.takes name ∨ dir name = some .directory then (.raised, dir)
  else (if system.startsThread then .ok name bytes.length else .raised,
    Function.update (Function.update dir tmp none) name (some (.file bytes)))

/-- From `mkstemp` on. -/
def receive (tmp name : String) (dir : Directory) : Answer × Directory :=
  if !system.opens then cleanUp system tmp dir .exception
  else match streamed (userMaxSize request system) system.capacity request.reads with
    | .badMagic => reject system tmp dir (.error "Not a valid PCAP file" 400)
    | .tooLarge => reject system tmp dir (tooLargeAnswer request system)
    | .raised raised => cleanUp system tmp dir (if system.closes then raised else .exception)
    | .written bytes => if system.closes then publish system tmp name dir bytes else cleanUp system tmp dir .exception

/-- `_handle_upload`. -/
def handleUpload (dir : Directory) : Answer × Directory :=
  if !request.hasFile then (.error "No file part" 400, dir)
  else if request.filename = "" then (.error "No file selected" 400, dir)
  else if userMaxSize request system < (request.contentLength.getD 0 : Nat) then (tooLargeAnswer request system, dir)
  else
    let safeName := basename request.filename
    if safeName = "" ∨ safeName = "." ∨ safeName = ".." then (.error "Invalid filename" 400, dir)
    else match request.project with
      | .notFound => (.error "Project not found" 404, dir)
      | .raises => (.raised, dir)
      | .found =>
        match system.mkstemp dir with
        | none => (.raised, dir)
        | some tmp => receive request system tmp safeName (Function.update dir tmp (some .temporary))

end Handler

/-! ### All or nothing -/

/-- The chunks that are read, and what is raised after them. -/
def split : List Read → List Bytes × Option Raised
  | [] => ([], none)
  | .raises raised :: _ => ([], some raised)
  | .chunk bytes _ :: rest => (bytes :: (split rest).1, (split rest).2)

section Specification
variable (request : Request) (system : System) (dir : Directory)

/-- The uploaded bytes, of an upload that is read to its end. -/
def uploaded : Option Bytes := if (split request.reads).2 = none then some (split request.reads).1.flatten else none

/-- An answer that is ok tells of a file with the uploaded bytes, and any other one of nothing. -/
def Whole : Answer × Directory → Prop
  | (.ok name size, after) => ∃ bytes, uploaded request = some bytes ∧
      after = Function.update dir name (some (.file bytes)) ∧ size = bytes.length ∧
      bytes.take 4 ∈ pcapMagic ∧ bytes ≠ [] ∧ bytes.length ≤ userMaxSize request system
  | (_, after) => after = dir

def AllOrNothing : Prop := Whole request system dir (handleUpload request system dir)

/-- The request passes all that is checked before the upload is read. -/
structure Admitted : Prop where
  hasFile : request.hasFile = true
  named : request.filename ≠ ""
  length : (request.contentLength.getD 0 : Nat) ≤ userMaxSize request system
  safe : ¬(basename request.filename = "" ∨ basename request.filename = "." ∨ basename request.filename = "..")
  project : request.project = .found
  made : system.mkstemp dir ≠ none

/-- The bytes that the magic bytes are looked for in. -/
def head : List Bytes → Bytes
  | [] => []
  | first :: rest => if 4 ≤ first.length then first else first ++ rest.headD []

/-- The chunks begin with magic bytes, and are no more than the user and the disk may have. -/
structure Sound (chunks : List Bytes) : Prop where
  whole : 4 ≤ (head chunks).length
  magic : (head chunks).take 4 ∈ pcapMagic
  allowed : (chunks.flatten.length : Int) ≤ userMaxSize request system
  fits : chunks.flatten.length ≤ system.capacity

/-- The upload is read and written to its end. -/
structure Complete : Prop where
  toEnd : (split request.reads).2 = none
  sound : Sound request system (split request.reads).1
  opens : system.opens = true
  closes : system.closes = true

/-- The process is ended while the upload is read. -/
structure Exits : Prop where
  exit : (split request.reads).2 = some .exit
  going : (split request.reads).1 = [] ∨ (∃ first, (split request.reads).1 = [first] ∧ first.length < 4) ∨
    Sound request system (split request.reads).1
  opens : system.opens = true
  closes : system.closes = true

/-- A complete upload can take its name and be archived, and any other one can be removed. -/
structure Recovers : Prop where
  complete : Complete request system → system.takes (basename request.filename) = true ∧
    dir (basename request.filename) ≠ some .directory ∧
      (system.startsThread = true ∨ dir (basename request.filename) = some (.file (split request.reads).1.flatten))
  incomplete : ¬Complete request system → system.unlinks = true ∧ ¬Exits request system

end Specification

/-! ### The loop -/

/-- The loop's end, where nothing in it stops the upload. -/
def Streamed.ending (bytes : Bytes) (ends : Option Raised) : Streamed := (ends.map .raised).getD (.written bytes)

/-- The loop ends in one of the ways that remove the temporary file. -/
def Streamed.Stopped (streamed : Streamed) : Prop :=
  streamed = .badMagic ∨ streamed = .tooLarge ∨ streamed = .raised .exception

section Loop
variable {maxSize : Int} {capacity : Nat}

theorem writeAll_fits (reads : List Read) : ∀ out : Bytes,
    ((out ++ (split reads).1.flatten).length : Int) ≤ maxSize → (out ++ (split reads).1.flatten).length ≤ capacity →
    writeAll maxSize capacity out reads = .ending (out ++ (split reads).1.flatten) (split reads).2 := by
  induction reads with
  | nil => intro out _ _; simp [writeAll, split, Streamed.ending]
  | cons read rest ih =>
    intro out allowed fits
    cases read with
    | raises raised => simp [writeAll, split, Streamed.ending]
    | chunk bytes some_ =>
      simp only [split, List.flatten_cons, ← List.append_assoc] at allowed fits ⊢
      have long : out.length + bytes.length ≤ (out ++ bytes ++ (split rest).1.flatten).length := by simp
      rw [writeAll, if_neg (by omega), if_neg (by omega)]
      exact ih _ allowed fits

theorem writeAll_stopped (reads : List Read) : ∀ out : Bytes, (out.length : Int) ≤ maxSize → out.length ≤ capacity →
    ¬(((out ++ (split reads).1.flatten).length : Int) ≤ maxSize ∧ (out ++ (split reads).1.flatten).length ≤ capacity) →
    (writeAll maxSize capacity out reads).Stopped := by
  induction reads with
  | nil =>
    intro out allowed fits exceeds
    exact absurd ⟨by simpa [split] using allowed, by simpa [split] using fits⟩ exceeds
  | cons read rest ih =>
    intro out allowed fits exceeds
    cases read with
    | raises raised => exact absurd ⟨by simpa [split] using allowed, by simpa [split] using fits⟩ exceeds
    | chunk bytes some_ =>
      rw [writeAll]
      by_cases large : maxSize < out.length + bytes.length
      · rw [if_pos large]; exact .inr (.inl rfl)
      by_cases full : capacity < out.length + bytes.length
      · rw [if_neg large, if_pos full]; exact .inr (.inr rfl)
      rw [if_neg large, if_neg full]
      refine ih _ (by simp; omega) (by simp; omega) ?_
      simpa only [split, List.flatten_cons, ← List.append_assoc] using exceeds

/-- The first chunk is checked, and then all of the upload is written. -/
theorem checked_fits {bytes : Bytes} {rest : List Read} (some_ : bytes ≠ []) (whole : 4 ≤ bytes.length)
    (magic : bytes.take 4 ∈ pcapMagic) (allowed : ((bytes ++ (split rest).1.flatten).length : Int) ≤ maxSize)
    (fits : (bytes ++ (split rest).1.flatten).length ≤ capacity) :
    checked maxSize capacity bytes some_ rest = .ending (bytes ++ (split rest).1.flatten) (split rest).2 := by
  rw [checked, if_neg (by simpa [whole] using magic)]
  exact writeAll_fits (.chunk bytes some_ :: rest) [] (by simpa [split] using allowed) (by simpa [split] using fits)

theorem checked_stopped {bytes : Bytes} {rest : List Read} (some_ : bytes ≠ [])
    (unsound : ¬(4 ≤ bytes.length ∧ bytes.take 4 ∈ pcapMagic ∧
      ((bytes ++ (split rest).1.flatten).length : Int) ≤ maxSize ∧
      (bytes ++ (split rest).1.flatten).length ≤ capacity)) :
    (checked maxSize capacity bytes some_ rest).Stopped := by
  rw [checked]
  by_cases bad : bytes.length < 4 ∨ bytes.take 4 ∉ pcapMagic
  · rw [if_pos bad]; exact .inl rfl
  rw [if_neg bad]
  rw [not_or, Nat.not_lt, not_not] at bad
  rw [writeAll]
  by_cases large : maxSize < ([] : Bytes).length + bytes.length
  · rw [if_pos large]; exact .inr (.inl rfl)
  by_cases full : capacity < ([] : Bytes).length + bytes.length
  · rw [if_neg large, if_pos full]; exact .inr (.inr rfl)
  rw [if_neg large, if_neg full]
  refine writeAll_stopped rest _ (by simpa using large) (by simpa using full) fun within => unsound ⟨bad.1, bad.2, ?_⟩
  simpa using within

theorem streamed_long {bytes : Bytes} (some_ : bytes ≠ []) (rest : List Read) (long : 4 ≤ bytes.length) :
    streamed maxSize capacity (.chunk bytes some_ :: rest) = checked maxSize capacity bytes some_ rest := if_pos long

theorem streamed_two {bytes more : Bytes} (some_ : bytes ≠ []) (more_ : more ≠ []) (rest : List Read)
    (long : ¬4 ≤ bytes.length) :
    streamed maxSize capacity (.chunk bytes some_ :: .chunk more more_ :: rest) =
      checked maxSize capacity (bytes ++ more) (List.append_ne_nil_of_left_ne_nil some_ more) rest := if_neg long

/-- The loop that nothing stops. -/
theorem streamed_eq (reads : List Read)
    (sound : 4 ≤ (head (split reads).1).length ∧ (head (split reads).1).take 4 ∈ pcapMagic ∧
      ((split reads).1.flatten.length : Int) ≤ maxSize ∧ (split reads).1.flatten.length ≤ capacity) :
    streamed maxSize capacity reads = .ending (split reads).1.flatten (split reads).2 := by
  obtain ⟨whole, magic, allowed, fits⟩ := sound
  match reads with
  | [] => rfl
  | .raises raised :: rest => rfl
  | .chunk bytes some_ :: rest =>
    by_cases long : 4 ≤ bytes.length
    · simp only [split, head, if_pos long, List.flatten_cons] at whole magic allowed fits ⊢
      rw [streamed_long some_ rest long]
      exact checked_fits some_ whole magic allowed fits
    · match rest with
      | [] => simp [split, head, long] at whole
      | .raises raised :: rest => simp [split, head, long] at whole
      | .chunk more more_ :: rest =>
        simp only [split, head, if_neg long, List.flatten_cons, List.headD_cons, ← List.append_assoc]
          at whole magic allowed fits ⊢
        rw [streamed_two some_ more_ rest long]
        exact checked_fits _ whole magic allowed fits

/-- The loop is at its end before the magic bytes are checked. -/
def Short (reads : List Read) : Prop :=
  (split reads).1 = [] ∨ (∃ first, (split reads).1 = [first] ∧ first.length < 4) ∧ (split reads).2 ≠ none

theorem streamed_short {reads : List Read} (short : Short reads) :
    streamed maxSize capacity reads = .ending (split reads).1.flatten (split reads).2 := by
  match reads with
  | [] => rfl
  | .raises raised :: rest => rfl
  | [.chunk bytes some_] => simp [Short, split] at short
  | .chunk bytes some_ :: .raises raised :: rest =>
    simp [Short, split] at short
    rw [streamed, if_neg (by omega)]
    rfl
  | .chunk bytes some_ :: .chunk more more_ :: rest => simp [Short, split] at short

theorem streamed_stopped {reads : List Read} (going : ¬Short reads)
    (unsound : ¬(4 ≤ (head (split reads).1).length ∧ (head (split reads).1).take 4 ∈ pcapMagic ∧
      ((split reads).1.flatten.length : Int) ≤ maxSize ∧ (split reads).1.flatten.length ≤ capacity)) :
    (streamed maxSize capacity reads).Stopped := by
  match reads with
  | [] => exact absurd (.inl rfl) going
  | .raises raised :: rest => exact absurd (.inl rfl) going
  | .chunk bytes some_ :: rest =>
    by_cases long : 4 ≤ bytes.length
    · simp only [split, head, if_pos long, List.flatten_cons] at unsound
      rw [streamed_long some_ rest long]
      exact checked_stopped some_ unsound
    · match rest with
      | [] =>
        rw [streamed, if_neg long]
        exact checked_stopped some_ fun sound => long sound.1
      | .raises raised :: rest => exact absurd (.inr ⟨⟨bytes, rfl, by omega⟩, by simp [split]⟩) going
      | .chunk more more_ :: rest =>
        simp only [split, head, if_neg long, List.flatten_cons, List.headD_cons, ← List.append_assoc] at unsound
        rw [streamed_two some_ more_ rest long]
        exact checked_stopped _ unsound

end Loop

/-! ### What is left of an upload -/

def Answer.Fails : Answer → Prop
  | .ok _ _ => False
  | _ => True

theorem raised_fails : Answer.raised.Fails := trivial

theorem error_fails (text : String) (status : Nat) : (Answer.error text status).Fails := trivial

section Outcomes
variable {request : Request} {system : System} {dir : Directory} {tmp : String}

theorem whole_fails {answer : Answer} (fails : answer.Fails) (after : Directory) :
    Whole request system dir (answer, after) ↔ after = dir := by
  cases answer with
  | ok name size => exact fails.elim
  | error text status => exact Iff.rfl
  | raised => exact Iff.rfl

/-- Removing the file that `mkstemp` has made. -/
theorem update_removed (fresh : dir tmp = none) (entry : Option Entry) :
    Function.update (Function.update dir tmp entry) tmp none = dir := by
  rw [Function.update_idem, ← fresh, Function.update_eq_self]

theorem update_left (fresh : dir tmp = none) : Function.update dir tmp (some .temporary) ≠ dir := by
  intro same
  have at_tmp := congrFun same tmp
  rw [Function.update_self, fresh] at at_tmp
  exact absurd at_tmp (by simp)

theorem whole_reject_iff (fresh : dir tmp = none) {answer : Answer} (fails : answer.Fails) :
    Whole request system dir (reject system tmp (Function.update dir tmp (some .temporary)) answer) ↔
      system.unlinks = true := by
  unfold reject
  by_cases unlinks : system.unlinks = true
  · rw [if_pos unlinks, update_removed fresh]
    by_cases closes : system.closes = true
    · rw [if_pos closes, whole_fails fails]; simp [unlinks]
    · rw [if_neg closes, whole_fails raised_fails]; simp [unlinks]
  · rw [if_neg unlinks, whole_fails raised_fails]
    simp [unlinks, update_left fresh]

theorem whole_cleanUp_iff (fresh : dir tmp = none) (raised : Raised) :
    Whole request system dir (cleanUp system tmp (Function.update dir tmp (some .temporary)) raised) ↔
      raised = .exception ∧ system.unlinks = true := by
  unfold cleanUp
  by_cases caught : raised = .exception ∧ system.unlinks = true
  · rw [if_pos caught, update_removed fresh, whole_fails raised_fails]; simp [caught]
  · rw [if_neg caught, whole_fails raised_fails]
    simp only [update_left fresh, caught]

/-- An upload with no bytes. -/
theorem whole_publish_empty_iff (fresh : dir tmp = none) (name : String) :
    Whole request system dir (publish system tmp name (Function.update dir tmp (some .temporary)) []) ↔
      system.unlinks = true := by
  rw [publish, if_pos rfl]
  by_cases unlinks : system.unlinks = true
  · rw [if_pos unlinks, update_removed fresh, whole_fails (error_fails ..)]; simp [unlinks]
  · rw [if_neg unlinks, whole_fails raised_fails]
    simp [unlinks, update_left fresh]

/-- The directory of an upload that is published. -/
theorem update_published (fresh : dir tmp = none) (name : String) (entry : Option Entry) :
    Function.update (Function.update (Function.update dir tmp (some .temporary)) tmp none) name entry =
      Function.update dir name entry := by
  rw [update_removed fresh]

theorem whole_publish_iff (fresh : dir tmp = none) (name : String) {bytes : Bytes} (nonempty : bytes ≠ [])
    (uploads : uploaded request = some bytes) (magic : bytes.take 4 ∈ pcapMagic)
    (allowed : bytes.length ≤ userMaxSize request system) :
    Whole request system dir (publish system tmp name (Function.update dir tmp (some .temporary)) bytes) ↔
      system.takes name = true ∧ dir name ≠ some .directory ∧
        (system.startsThread = true ∨ dir name = some (.file bytes)) := by
  have directory : Function.update dir tmp (some .temporary) name = some .directory ↔ dir name = some .directory := by
    by_cases same : name = tmp
    · subst same; simp [fresh]
    · rw [Function.update_of_ne same]
  simp only [publish, if_neg nonempty, directory]
  by_cases refused : (!system.takes name) = true ∨ dir name = some .directory
  · rw [if_pos refused, whole_fails raised_fails]
    refine ⟨fun same => (update_left fresh same).elim, fun takes => (refused.elim ?_ takes.2.1).elim⟩
    simp [takes.1]
  rw [if_neg refused, update_published fresh]
  rw [not_or] at refused
  have takes : system.takes name = true := by simpa using refused.1
  by_cases starts : system.startsThread = true
  · rw [if_pos starts]
    exact ⟨fun _ => ⟨takes, refused.2, .inl starts⟩,
      fun _ => ⟨bytes, uploads, rfl, rfl, magic, nonempty, allowed⟩⟩
  · rw [if_neg starts, whole_fails raised_fails, Function.update_eq_self_iff]
    simp [takes, refused.2, starts, eq_comm]

end Outcomes

section Handler
variable {request : Request} {system : System} {dir : Directory}

theorem handleUpload_of_admitted (admitted : Admitted request system dir) : ∃ tmp, dir tmp = none ∧
    handleUpload request system dir =
      receive request system tmp (basename request.filename) (Function.update dir tmp (some .temporary)) := by
  obtain ⟨tmp, made⟩ := Option.ne_none_iff_exists'.1 admitted.made
  refine ⟨tmp, system.fresh dir tmp made, ?_⟩
  unfold handleUpload
  rw [if_neg (by simp [admitted.hasFile]), if_neg admitted.named, if_neg (Int.not_lt.2 admitted.length)]
  simp only [if_neg admitted.safe, admitted.project, made]

/-- A request that is not admitted is answered before there is a temporary file. -/
theorem handleUpload_of_not_admitted (refused : ¬Admitted request system dir) :
    ∃ answer : Answer, answer.Fails ∧ handleUpload request system dir = (answer, dir) := by
  unfold handleUpload
  by_cases hasFile : (!request.hasFile) = true
  · exact ⟨_, error_fails .., if_pos hasFile⟩
  by_cases named : request.filename = ""
  · rw [if_neg hasFile, if_pos named]; exact ⟨_, error_fails .., rfl⟩
  by_cases length : userMaxSize request system < (request.contentLength.getD 0 : Nat)
  · rw [if_neg hasFile, if_neg named, if_pos length]; exact ⟨_, error_fails .., rfl⟩
  rw [if_neg hasFile, if_neg named, if_neg length]
  by_cases safe : basename request.filename = "" ∨ basename request.filename = "." ∨ basename request.filename = ".."
  · exact ⟨_, error_fails .., if_pos safe⟩
  simp only [if_neg safe]
  cases project : request.project with
  | notFound => exact ⟨_, error_fails .., rfl⟩
  | raises => exact ⟨_, raised_fails, rfl⟩
  | found =>
    cases made : system.mkstemp dir with
    | none => exact ⟨_, raised_fails, rfl⟩
    | some tmp =>
      exact (refused ⟨by simpa using hasFile, named, Int.not_lt.1 length, safe, project, by simp [made]⟩).elim

theorem not_complete_of_not_opens (shut : ¬system.opens = true) :
    ¬Complete request system ∧ ¬Exits request system :=
  ⟨fun complete => shut complete.opens, fun exits => shut exits.opens⟩

theorem not_complete_of_not_closes (shut : ¬system.closes = true) :
    ¬Complete request system ∧ ¬Exits request system :=
  ⟨fun complete => shut complete.closes, fun exits => shut exits.closes⟩

theorem recovers_of_incomplete (incomplete : ¬Complete request system) :
    Recovers request system dir ↔ system.unlinks = true ∧ ¬Exits request system :=
  ⟨fun recovers => recovers.incomplete incomplete,
    fun removes => ⟨fun complete => (incomplete complete).elim, fun _ => removes⟩⟩

theorem recovers_of_complete (complete : Complete request system) : Recovers request system dir ↔
    system.takes (basename request.filename) = true ∧ dir (basename request.filename) ≠ some .directory ∧
      (system.startsThread = true ∨ dir (basename request.filename) = some (.file (split request.reads).1.flatten)) :=
  ⟨fun recovers => recovers.complete complete,
    fun takes => ⟨fun _ => takes, fun incomplete => (incomplete complete).elim⟩⟩

/-- The bytes that the magic bytes are looked for in are the first ones. -/
theorem head_prefix (chunks : List Bytes) : head chunks <+: chunks.flatten := by
  match chunks with
  | [] => exact List.prefix_rfl
  | [first] => simp [head]
  | first :: more :: rest =>
    by_cases long : 4 ≤ first.length
    · rw [head, if_pos long]; exact List.prefix_append ..
    · rw [head, if_neg long, List.headD_cons, List.flatten_cons, List.flatten_cons, ← List.append_assoc]
      exact List.prefix_append ..

theorem Sound.take {chunks : List Bytes} (sound : Sound request system chunks) : chunks.flatten.take 4 ∈ pcapMagic := by
  obtain ⟨rest, append⟩ := head_prefix chunks
  rw [← append, List.take_append_of_le_length sound.whole]
  exact sound.magic

theorem Sound.ne_nil {chunks : List Bytes} (sound : Sound request system chunks) : chunks.flatten ≠ [] := by
  intro empty
  have whole := sound.whole
  have none_ : head chunks = [] := List.prefix_nil.1 (empty ▸ head_prefix chunks)
  rw [none_] at whole
  exact absurd whole (by decide)

/-- An upload that is cleaned up after, whatever ends it. -/
theorem whole_cleanUp_iff_recovers {tmp : String} (fresh : dir tmp = none) {raised : Raised}
    (incomplete : ¬Complete request system) (exits : Exits request system ↔ raised = .exit) :
    Whole request system dir (cleanUp system tmp (Function.update dir tmp (some .temporary)) raised) ↔
      Recovers request system dir := by
  rw [whole_cleanUp_iff fresh, recovers_of_incomplete incomplete, exits]
  cases raised with
  | exception => simp
  | exit => simp

/-- An upload that its loop rejects. -/
theorem whole_reject_iff_recovers {tmp : String} (fresh : dir tmp = none) {answer : Answer} (fails : answer.Fails)
    (incomplete : ¬Complete request system) (runs : ¬Exits request system) :
    Whole request system dir (reject system tmp (Function.update dir tmp (some .temporary)) answer) ↔
      Recovers request system dir := by
  rw [whole_reject_iff fresh fails, recovers_of_incomplete incomplete]
  simp [runs]

/-- An upload that nothing stops. -/
theorem whole_written {tmp : String} (fresh : dir tmp = none) (opens : system.opens = true)
    (start : Sound request system (split request.reads).1 ∨ Short request.reads)
    (ends : streamed (userMaxSize request system) system.capacity request.reads =
      .ending (split request.reads).1.flatten (split request.reads).2) :
    Whole request system dir
      (receive request system tmp (basename request.filename) (Function.update dir tmp (some .temporary))) ↔
      Recovers request system dir := by
  have going : (split request.reads).1 = [] ∨ (∃ first, (split request.reads).1 = [first] ∧ first.length < 4) ∨
      Sound request system (split request.reads).1 := by
    obtain sound | empty | short := start
    · exact .inr (.inr sound)
    · exact .inl empty
    · exact .inr (.inl short.1)
  rw [receive, if_neg (by simp [opens]), ends]
  cases last : (split request.reads).2 with
  | some raised =>
    have incomplete : ¬Complete request system := fun complete => absurd complete.toEnd (by simp [last])
    refine whole_cleanUp_iff_recovers fresh incomplete ?_
    by_cases closes : system.closes = true
    · rw [if_pos closes]
      exact ⟨fun exits => by simpa [last] using exits.exit, fun exit => ⟨by rw [last, exit], going, opens, closes⟩⟩
    · rw [if_neg closes]
      exact ⟨fun exits => (closes exits.closes).elim, fun exit => by simp at exit⟩
  | none =>
    simp only [Streamed.ending, Option.map_none, Option.getD_none]
    by_cases closes : system.closes = true
    · rw [if_pos closes]
      by_cases sound : Sound request system (split request.reads).1
      · rw [whole_publish_iff fresh _ sound.ne_nil (if_pos last) sound.take sound.allowed,
          recovers_of_complete ⟨last, sound, opens, closes⟩]
      · have empty : (split request.reads).1 = [] := (start.resolve_left sound).resolve_right fun short => short.2 last
        rw [empty, List.flatten_nil, whole_publish_empty_iff fresh,
          recovers_of_incomplete fun complete => sound complete.sound]
        simp only [iff_self_and]
        intro _ exits
        simpa [last] using exits.exit
    · rw [if_neg closes]
      exact whole_cleanUp_iff_recovers fresh (not_complete_of_not_closes closes).1
        ⟨fun exits => (closes exits.closes).elim, fun exit => by simp at exit⟩

/-- An upload that the loop stops. -/
theorem whole_stopped {tmp : String} (fresh : dir tmp = none) (opens : system.opens = true)
    (unsound : ¬Sound request system (split request.reads).1) (long : ¬Short request.reads)
    (stopped : (streamed (userMaxSize request system) system.capacity request.reads).Stopped) :
    Whole request system dir
      (receive request system tmp (basename request.filename) (Function.update dir tmp (some .temporary))) ↔
      Recovers request system dir := by
  have incomplete : ¬Complete request system := fun complete => unsound complete.sound
  have runs : ¬Exits request system := by
    intro exits
    obtain empty | short | sound := exits.going
    · exact long (.inl empty)
    · exact long (.inr ⟨short, by simp [exits.exit]⟩)
    · exact unsound sound
  rw [receive, if_neg (by simp [opens])]
  obtain bad | large | raised := stopped
  · rw [bad]; exact whole_reject_iff_recovers fresh (error_fails ..) incomplete runs
  · rw [large]; exact whole_reject_iff_recovers fresh (error_fails ..) incomplete runs
  · rw [raised]
    refine whole_cleanUp_iff_recovers fresh incomplete ⟨fun exits => (runs exits).elim, fun exit => ?_⟩
    by_cases closes : system.closes = true
    · simp [closes] at exit
    · simp [closes] at exit

theorem whole_receive_iff {tmp : String} (fresh : dir tmp = none) :
    Whole request system dir
      (receive request system tmp (basename request.filename) (Function.update dir tmp (some .temporary))) ↔
      Recovers request system dir := by
  by_cases opens : system.opens = true
  · by_cases short : Short request.reads
    · exact whole_written fresh opens (.inr short) (streamed_short short)
    by_cases sound : Sound request system (split request.reads).1
    · exact whole_written fresh opens (.inl sound)
        (streamed_eq _ ⟨sound.whole, sound.magic, sound.allowed, sound.fits⟩)
    · exact whole_stopped fresh opens sound short
        (streamed_stopped short fun within => sound ⟨within.1, within.2.1, within.2.2.1, within.2.2.2⟩)
  · rw [receive, if_pos (by simp [opens])]
    exact whole_cleanUp_iff_recovers fresh (not_complete_of_not_opens opens).1
      ⟨fun exits => (opens exits.opens).elim, fun exit => by simp at exit⟩

end Handler

/-- An upload is all or nothing just where a complete one can take its name and be archived, and any
other one can be removed. -/
theorem allOrNothing_iff (request : Request) (system : System) (dir : Directory) :
    AllOrNothing request system dir ↔ (Admitted request system dir → Recovers request system dir) := by
  unfold AllOrNothing
  by_cases admitted : Admitted request system dir
  · obtain ⟨tmp, fresh, handled⟩ := handleUpload_of_admitted admitted
    rw [handled, whole_receive_iff fresh]
    simp [admitted]
  · obtain ⟨answer, fails, handled⟩ := handleUpload_of_not_admitted admitted
    rw [handled, whole_fails fails]
    simp [admitted]

/-- The uploads of a project in which `archive` is a directory. -/
def archived : Directory := fun name => if name = "archive" then some .directory else none

/-- A system on which everything works. -/
def working : System where
  defaultUploadLimitMb := 200
  mkstemp dir := if dir "tmp_upload.pcap" = none then some "tmp_upload.pcap" else none
  fresh dir name made := by
    split_ifs at made with free
    · injection made with same; rw [← same]; exact free
  opens := true
  capacity := 1000000
  closes := true
  unlinks := true
  takes _ := true
  startsThread := true

/-- The upload of a capture file under this name. -/
def upload (filename : String) : Request where
  hasFile := true
  filename := filename
  uploadLimitMb := none
  contentLength := some 200
  project := .found
  reads := [.chunk [0xd4, 0xc3, 0xb2, 0xa1, 0x02, 0x00, 0x04, 0x00] (by decide)]

/-- The name of a directory passes the check, and the temporary file stays. -/
theorem directory_left_behind : ¬AllOrNothing (upload "archive") working archived ∧
    (handleUpload (upload "archive") working archived).1 = .raised ∧
    (handleUpload (upload "archive") working archived).2 "tmp_upload.pcap" = some .temporary ∧
    archived "tmp_upload.pcap" = none := by
  have raised : (handleUpload (upload "archive") working archived).1 = .raised := by decide +kernel
  have left : (handleUpload (upload "archive") working archived).2 "tmp_upload.pcap" = some .temporary := by
    decide +kernel
  refine ⟨fun whole => ?_, raised, left, by decide⟩
  have outcome : handleUpload (upload "archive") working archived =
      (.raised, (handleUpload (upload "archive") working archived).2) := Prod.ext raised rfl
  rw [AllOrNothing, outcome, whole_fails raised_fails] at whole
  rw [whole] at left
  exact absurd left (by decide)

end Marlinspike.Scans.Uploads
