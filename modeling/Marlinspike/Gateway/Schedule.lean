import Mathlib.Data.List.Nodup
import Mathlib.Data.List.TakeWhile
import Marlinspike.Weights
import Marlinspike.Gateway.Uploads

/-!
Uploads on one connection when nothing fails: the tasks of the gateway still run in any
order that the lock and the executor allow. No chunk and no complete is refused, every
schedule ends, and where it ends every file has been published whole and scanned once.
-/
namespace Marlinspike.Gateway.Schedule
open Marlinspike.Transition Marlinspike.Weights
open Marlinspike.Gateway.Server
open Marlinspike.Gateway.Upload
open Marlinspike.Gateway.Uploads
open Marlinspike.Capd.Supervisor (basename)

/-- The steps of an upload, none of which fails. -/
def Calm : Label → Prop
  | .sends _ | .reads _ | .starts _ true | .acquires _ true | .resolves _ true | .opens _ true true |
    .publishes _ _ true | .checks _ _ true | .launches _ _ => True
  | _ => False

/-! ### How much is still to do -/

def lockWeight : Lock → Nat
  | .free => 0
  | .granted _ => 5
  | .resolving _ _ => 4
  | .resolved _ _ _ => 3

def phaseWeight : FinishPhase → Nat
  | .publishing => 3
  | .checking => 2
  | .resolved _ => 1

def finishingWeight (finishing : List Finishing) : Nat := (finishing.map fun e => phaseWeight e.phase).sum

def connWeight (conn : Conn) : Nat :=
  8 * conn.wire.length + 7 * conn.spawned.length + 6 * conn.waiters.length + lockWeight conn.lock +
    finishingWeight conn.finishing

def shipWeight (ship : Ship) : Nat := 9 * (ship.source.totalChunks + 1 - ship.sent)

def weight (s : State) : Nat := (s.ships.map shipWeight).sum + (s.conns.map connWeight).sum

variable {pcapMaxSize : Nat} {tables : Tables} {s t : State} {c k : Nat} {conn conn' : Conn}

theorem length_frames (source : Source) (k : Nat) : (source.frames k).length = source.totalChunks + 1 := by
  simp [Source.frames]

theorem connWeight_release (conn : Conn) : connWeight conn.release + lockWeight conn.lock ≤ connWeight conn := by
  unfold Conn.release
  cases waiting : conn.waiters with
  | nil => simp only [connWeight, lockWeight, waiting]; omega
  | cons frame rest => simp only [connWeight, lockWeight, waiting, List.length_cons]; omega

@[simp] theorem release_agentUuid (conn : Conn) : conn.release.agentUuid = conn.agentUuid := by
  unfold Conn.release; cases conn.waiters <;> rfl

@[simp] theorem release_isOpen (conn : Conn) : conn.release.isOpen = conn.isOpen := by
  unfold Conn.release; cases conn.waiters <;> rfl

theorem release_lock (conn : Conn) (attempt : Nat) (chunk : PcapChunk) :
    conn.release.lock ≠ .resolved attempt chunk none := by
  unfold Conn.release; cases conn.waiters <;> simp

/-! ### What the handlers leave alone -/

/-- Of a connection, a handler changes the transfers and what is being finished. -/
structure Leaves (s t : State) (c : Nat) (conn : Conn) (extra : Nat) : Prop where
  conns : ∃ transfers finished, t.conns = s.conns.set c { conn with transfers := transfers, finishing := finished } ∧
    finishingWeight finished ≤ finishingWeight conn.finishing + extra
  deleted : t.deleted = s.deleted

theorem leaves_abort (s : State) (c : Nat) (conn : Conn) (filename : List Char) (attempt : Nat) :
    Leaves s (abortPcapTransfer s c conn filename attempt) c conn 0 := by
  unfold abortPcapTransfer
  cases conn.transfers.get filename <;> exact ⟨⟨_, _, rfl, Nat.le_refl _⟩, rfl⟩

theorem leaves_store (s : State) (c : Nat) (conn : Conn) (attempt : Nat) (chunk : PcapChunk) (xfer : Transfer)
    (written : Bool) : Leaves s (storeChunk s c conn attempt chunk xfer written) c conn 0 := by
  unfold storeChunk
  by_cases mismatched : xfer.sessionId ≠ chunk.sessionId
  · rw [if_pos mismatched]
    exact ⟨⟨_, _, rfl, Nat.le_refl _⟩, rfl⟩
  · rw [if_neg mismatched]
    cases Base64.decode chunk.data with
    | none => exact leaves_abort s c conn chunk.filename attempt
    | some bytes => cases written <;> exact ⟨⟨_, _, rfl, Nat.le_refl _⟩, rfl⟩

theorem leaves_complete (pcapMaxSize : Nat) (s : State) (c : Nat) (conn : Conn) (attempt : Nat)
    (complete : PcapComplete) : Leaves s (completeUpload pcapMaxSize s c conn attempt complete) c conn 3 := by
  unfold completeUpload
  cases conn.transfers.get complete.filename with
  | none => exact ⟨⟨_, _, rfl, by omega⟩, rfl⟩
  | some xfer =>
    simp only
    split_ifs
    · exact ⟨⟨_, _, rfl, by simp [finishingWeight, phaseWeight]⟩, rfl⟩
    · exact ⟨⟨_, _, rfl, by simp⟩, rfl⟩

/-! ### What a calm step keeps -/

structure Smooth (pcapMaxSize : Nat) (tables : Tables) (s : State) : Prop where
  sound : Invariant tables s
  troubles : s.troubles = []
  unscanned : s.unscanned = []
  deleted : s.deleted = []
  conns : ∀ (c : Nat) (conn : Conn), s.conns[c]? = some conn →
    conn.isOpen = true ∧ ∀ attempt chunk, conn.lock ≠ .resolved attempt chunk none
  ships : ∀ (k : Nat) (ship : Ship) (conn : Conn), s.ships[k]? = some ship → s.conns[ship.source.conn]? = some conn →
    ship.phase = .sending ∧ ship.source.totalChunks ≤ maxPcapChunks pcapMaxSize ∧
      ∃ p, beginPcapUpload tables [] ship.source.sessionId ship.source.filename conn.agentUuid = some p

/-- A calm step of the gateway on one connection. -/
private theorem smooth_conn (smooth : Smooth pcapMaxSize tables s) (present : s.conns[c]? = some conn)
    (sound : Invariant tables t) (conns : t.conns = s.conns.set c conn') (ships : t.ships = s.ships)
    (troubles : t.troubles = s.troubles) (unscanned : t.unscanned = s.unscanned) (deleted : t.deleted = s.deleted)
    (agent : conn'.agentUuid = conn.agentUuid) (isOpen : conn'.isOpen = conn.isOpen)
    (lock : ∀ attempt chunk, conn'.lock ≠ .resolved attempt chunk none) (lighter : connWeight conn' < connWeight conn) :
    Smooth pcapMaxSize tables t ∧ weight t < weight s := by
  obtain ⟨bound, -⟩ := List.getElem?_eq_some_iff.mp present
  have connAt (d) : t.conns[d]? = if c = d then some conn' else s.conns[d]? := by
    rw [conns, List.getElem?_set]
    simp [bound]
  refine ⟨⟨sound, by rw [troubles, smooth.troubles], by rw [unscanned, smooth.unscanned],
    by rw [deleted, smooth.deleted], fun d now there => ?_, fun k ship now shipped there => ?_⟩, ?_⟩
  · rw [connAt] at there
    split_ifs at there
    · obtain rfl := Option.some.inj there
      exact ⟨isOpen.trans (smooth.conns c conn present).1, lock⟩
    · exact smooth.conns d now there
  · rw [ships] at shipped
    rw [connAt] at there
    split_ifs at there with same
    · obtain rfl := Option.some.inj there
      rw [agent]
      exact smooth.ships k ship conn shipped (same ▸ present)
    · exact smooth.ships k ship now shipped there
  · have := sum_set connWeight present conn'
    rw [weight, weight, ships, conns]
    omega

private theorem smooth_leaves (smooth : Smooth pcapMaxSize tables s) (present : s.conns[c]? = some conn)
    (sound : Invariant tables t) {s₁ : State} {extra : Nat} (files_only : s₁ = { s with files := s₁.files })
    (leaves : Leaves s₁ t c conn' extra) (keeps : Keeps s₁ t)
    (quiet : t.troubles = s₁.troubles ∧ t.unscanned = s₁.unscanned) (agent : conn'.agentUuid = conn.agentUuid)
    (isOpen : conn'.isOpen = conn.isOpen) (lock : ∀ attempt chunk, conn'.lock ≠ .resolved attempt chunk none)
    (lighter : connWeight conn' + extra < connWeight conn) : Smooth pcapMaxSize tables t ∧ weight t < weight s := by
  obtain ⟨⟨transfers, finished, conns, less⟩, deleted⟩ := leaves
  rw [files_only] at conns deleted quiet
  have ships := keeps.ships
  rw [files_only] at ships
  refine smooth_conn smooth present sound conns ships quiet.1 quiet.2 deleted agent isOpen lock ?_
  simp only [connWeight] at lighter ⊢
  omega

/-- The chunks of a file that is not too large are in range. -/
private theorem inRange_of_mem {source : Source} {chunk : PcapChunk} (sent : ⟨k, .pcapChunk chunk⟩ ∈ source.frames k)
    (sized : source.totalChunks ≤ maxPcapChunks pcapMaxSize) : inRange pcapMaxSize chunk = true := by
  obtain ⟨i, less, same⟩ := chunk_of_mem sent
  have index : chunk.chunkIndex = i := by rw [same]; rfl
  have total : chunk.totalChunks = source.totalChunks := by rw [same]; rfl
  rw [inRange, index, total]
  generalize source.totalChunks = n at less sized
  generalize maxPcapChunks pcapMaxSize = m at sized
  simp only [Bool.and_eq_true, decide_eq_true_eq]
  omega

section
variable {s₁ : State} {ship : Ship} {conn₁ : Conn} {before after : List Frame}

/-- A chunk is stored. -/
private theorem quiet_store (sound : Invariant tables s) {chunk : PcapChunk}
    (handling : Handling tables s s₁ k c ship conn conn₁ (.pcapChunk chunk) before after)
    (sent : ⟨k, .pcapChunk chunk⟩ ∈ ship.source.frames k) {xfer : Transfer}
    (current : conn₁.transfers.get chunk.filename = some xfer) :
    (storeChunk s₁ c conn₁ k chunk xfer true).troubles = s₁.troubles ∧
      (storeChunk s₁ c conn₁ k chunk xfer true).unscanned = s₁.unscanned := by
  obtain ⟨i, -, same⟩ := chunk_of_mem sent
  have name : chunk.filename = ship.source.filename := by rw [same]; rfl
  have session : chunk.sessionId = ship.source.sessionId := by rw [same]; rfl
  have decoded : Base64.decode chunk.data = some (Positional.piece pcapChunkRawBytes ship.source.bytes i) := by
    rw [same]
    exact Base64.decode_encode _
  obtain ⟨-, there⟩ := handling_own sound handling (name ▸ current)
  obtain ⟨⟨-, own, -⟩, -⟩ := (handling_fits sound handling).transfer xfer there
  unfold storeChunk
  rw [if_neg (by rw [own, session]; exact fun other => other rfl), decoded]
  exact ⟨rfl, rfl⟩

/-- A complete finds all its chunks. -/
private theorem quiet_complete (sound : Invariant tables s) (untroubled : s.troubles = []) {complete : PcapComplete}
    (handling : Handling tables s s₁ k c ship conn conn₁ (.pcapComplete complete) [] after)
    (sent : ⟨k, .pcapComplete complete⟩ ∈ ship.source.frames k)
    (sized : ship.source.totalChunks ≤ maxPcapChunks pcapMaxSize) :
    (completeUpload pcapMaxSize s₁ c conn₁ k complete).troubles = s₁.troubles ∧
      (completeUpload pcapMaxSize s₁ c conn₁ k complete).unscanned = s₁.unscanned := by
  obtain same := complete_of_mem sent
  have name : complete.filename = ship.source.filename := by rw [same]; rfl
  have total : complete.totalChunks = ship.source.totalChunks := by rw [same]; rfl
  have fits := handling_fits sound handling
  have quiet : s₁.troubles = [] := by rw [handling.files_only]; exact untroubled
  obtain ⟨-, chunks, -⟩ := uploading_of_busy fits (.inl (by simp)) (by simp [view, quiet])
  have order := fits.order
  rw [List.nil_append, List.cons_append] at order
  have alone := last_of_sublist order
  -- Nothing is behind the complete, so every chunk has been stored.
  have stored (i) (less : i < ship.source.totalChunks) :
      ∃ xfer, transfer k ship.source.filename conn₁ = some xfer ∧ i ∈ xfer.received := by
    rcases chunks i less with coming | stored
    · rw [List.nil_append, List.cons_append, alone] at coming
      simp at coming
    · exact stored
  have positive : 0 < ship.source.totalChunks := Nat.lt_of_lt_of_le Nat.one_pos (Nat.le_max_left ..)
  obtain ⟨xfer, there, -⟩ := stored 0 positive
  have current : conn₁.transfers.get complete.filename = some xfer := by
    rw [name]
    exact (Option.filter_eq_some_iff.mp there).1
  have all : xfer.received = Finset.range ship.source.totalChunks := by
    ext i
    rw [Finset.mem_range]
    refine ⟨fun received => ((fits.transfer xfer there).2.2 i received).1, fun less => ?_⟩
    obtain ⟨other, same, received⟩ := stored i less
    obtain rfl := Option.some.inj (there.symm.trans same)
    exact received
  have whole : (0 < complete.totalChunks ∧ complete.totalChunks ≤ maxPcapChunks pcapMaxSize) ∧
      xfer.received.card = complete.totalChunks ∧ ∀ i ∈ List.range complete.totalChunks.toNat, i ∈ xfer.received := by
    rw [total, all, Finset.card_range, Int.toNat_natCast]
    exact ⟨⟨Int.natCast_pos.mpr positive, Int.ofNat_le.mpr sized⟩, rfl,
      fun i member => Finset.mem_range.mpr (List.mem_range.mp member)⟩
  unfold completeUpload
  rw [current]
  simp only
  rw [if_pos whole]
  exact ⟨rfl, rfl⟩

end

/-! ### Every calm step -/

private theorem advances {l : Label} (smooth : Smooth pcapMaxSize tables s) (calm : Calm l)
    (stepped : step pcapMaxSize tables s l = some t) : Invariant tables t :=
  (advances_step smooth.sound (fun source same => by subst same; exact calm) stepped).invariant

theorem smooth_sends (smooth : Smooth pcapMaxSize tables s) (stepped : step pcapMaxSize tables s (.sends k) = some t) :
    Smooth pcapMaxSize tables t ∧ weight t < weight s := by
  have sound := advances (l := .sends k) smooth trivial stepped
  simp only [step, sends, Option.bind_eq_bind, Option.bind_eq_some_iff, Option.pure_def] at stepped
  obtain ⟨ship, shipped, conn, present, frame, next, -, -, stepped⟩ := stepped
  rw [if_pos (smooth.conns _ conn present).1, Option.some.injEq] at stepped
  subst stepped
  obtain ⟨bound, -⟩ := List.getElem?_eq_some_iff.mp present
  obtain ⟨inside, -⟩ := List.getElem?_eq_some_iff.mp next
  obtain ⟨bound', -⟩ := List.getElem?_eq_some_iff.mp shipped
  have connAt (d) : (s.conns.set ship.source.conn { conn with wire := conn.wire ++ [frame] })[d]? =
      if ship.source.conn = d then some { conn with wire := conn.wire ++ [frame] } else s.conns[d]? := by
    rw [List.getElem?_set]
    simp [bound]
  have shipAt {j : Nat} {other : Ship} (there : (s.ships.set k { ship with sent := ship.sent + 1 })[j]? = some other) :
      ∃ was : Ship, s.ships[j]? = some was ∧ other.source = was.source ∧ other.phase = was.phase := by
    rw [List.getElem?_set] at there
    split_ifs at there with same
    · obtain rfl := Option.some.inj there
      exact ⟨ship, same ▸ shipped, rfl, rfl⟩
    · exact ⟨other, there, rfl, rfl⟩
  refine ⟨⟨sound, smooth.troubles, smooth.unscanned, smooth.deleted, fun d now there => ?_,
    fun j other now there home => ?_⟩, ?_⟩
  · replace there := (connAt d).symm.trans there
    split_ifs at there
    · obtain rfl := Option.some.inj there
      exact smooth.conns _ conn present
    · exact smooth.conns d now there
  · obtain ⟨was, shipped', source, phase⟩ := shipAt there
    rw [source, phase]
    rw [source] at home
    replace home := (connAt was.source.conn).symm.trans home
    split_ifs at home with same
    · obtain rfl := Option.some.inj home
      exact smooth.ships j was conn shipped' (same ▸ present)
    · exact smooth.ships j was now shipped' home
  · have ships := sum_set shipWeight shipped { ship with sent := ship.sent + 1 }
    have conns := sum_set connWeight present { conn with wire := conn.wire ++ [frame] }
    have lighter : shipWeight { ship with sent := ship.sent + 1 } + 9 ≤ shipWeight ship := by
      rw [length_frames] at inside
      simp only [shipWeight]
      omega
    have heavier : connWeight { conn with wire := conn.wire ++ [frame] } = connWeight conn + 8 := by
      simp only [connWeight, List.length_append, List.length_singleton]
      omega
    simp only [weight, State.setConn]
    omega

theorem smooth_reads (smooth : Smooth pcapMaxSize tables s) (stepped : step pcapMaxSize tables s (.reads c) = some t) :
    Smooth pcapMaxSize tables t ∧ weight t < weight s := by
  have sound := advances (l := .reads c) smooth trivial stepped
  simp only [step, reads, Option.bind_eq_bind, Option.bind_eq_some_iff, Option.pure_def, Option.some.injEq] at stepped
  obtain ⟨conn, present, frame, head, rfl⟩ := stepped
  refine smooth_conn smooth present sound rfl rfl rfl rfl rfl rfl rfl (smooth.conns c conn present).2 ?_
  have wire : conn.wire = frame :: conn.wire.tail := (List.cons_head?_tail head).symm
  have := congrArg List.length wire
  simp only [List.length_cons] at this
  simp only [connWeight, List.length_append, List.length_singleton]
  omega

theorem smooth_starts (smooth : Smooth pcapMaxSize tables s)
    (stepped : step pcapMaxSize tables s (.starts c true) = some t) :
    Smooth pcapMaxSize tables t ∧ weight t < weight s := by
  have advanced := advances (l := .starts c true) smooth trivial stepped
  simp only [step, starts, Option.bind_eq_bind, Option.bind_eq_some_iff, Option.pure_def, Option.some.injEq] at stepped
  obtain ⟨conn, present, ⟨k, event⟩, head, rfl⟩ := stepped
  have sound := smooth.sound.sound c conn present
  have begun : SoundConn tables { conn with spawned := conn.spawned.tail } := ⟨sound.resolved, sound.free, sound.unopened⟩
  obtain ⟨isOpen, lock⟩ := smooth.conns c conn present
  obtain ⟨whole, left⟩ := queue_starts head
  obtain ⟨ship, sent, handling⟩ := handling_taken smooth.sound present whole left rfl rfl begun
  obtain ⟨-, sized, -⟩ := smooth.ships k ship conn handling.shipped (handling.home ▸ present)
  have shorter : conn.spawned.length = conn.spawned.tail.length + 1 := by
    rw [← List.cons_head?_tail head]
    simp
  have lighter : connWeight { conn with spawned := conn.spawned.tail } + 7 ≤ connWeight conn := by
    simp only [connWeight]
    omega
  -- The task waits for the lock.
  have waits (advanced : Invariant tables (s.setConn c (({ conn with spawned := conn.spawned.tail } : Conn).wait ⟨k, event⟩))) :
      Smooth pcapMaxSize tables (s.setConn c (({ conn with spawned := conn.spawned.tail } : Conn).wait ⟨k, event⟩)) ∧
        weight (s.setConn c (({ conn with spawned := conn.spawned.tail } : Conn).wait ⟨k, event⟩)) < weight s := by
    refine smooth_conn smooth present advanced rfl rfl rfl rfl rfl rfl rfl lock ?_
    simp only [connWeight, Conn.wait, List.length_append, List.length_singleton]
    omega
  unfold handleEvent at advanced ⊢
  cases event with
  | pcapChunk chunk =>
    simp only [inRange_of_mem sent sized, if_true] at advanced ⊢
    cases current : conn.transfers.get chunk.filename with
    | some xfer =>
      simp only [current] at advanced ⊢
      exact smooth_leaves smooth present advanced rfl (leaves_store ..) (keeps_store ..)
        (quiet_store smooth.sound handling sent current) rfl rfl lock (by omega)
    | none =>
      simp only [current] at advanced ⊢
      split_ifs at advanced ⊢ with free
      · refine smooth_conn smooth present advanced rfl rfl rfl rfl rfl rfl rfl (by simp) ?_
        simp only [connWeight, lockWeight]
        omega
      · exact waits advanced
  | pcapComplete complete =>
    simp only at advanced ⊢
    split_ifs at advanced ⊢ with free
    · have nothing : lockFrames conn.lock ++ conn.waiters = [] := by simp [free, sound.free free, lockFrames]
      rw [nothing] at handling
      exact smooth_leaves smooth present advanced rfl (leaves_complete ..) (keeps_complete ..)
        (quiet_complete smooth.sound smooth.troubles handling sent sized) rfl rfl lock (by omega)
    · exact waits advanced

theorem smooth_acquires (smooth : Smooth pcapMaxSize tables s)
    (stepped : step pcapMaxSize tables s (.acquires c true) = some t) :
    Smooth pcapMaxSize tables t ∧ weight t < weight s := by
  have advanced := advances (l := .acquires c true) smooth trivial stepped
  simp only [step, acquires, Option.bind_eq_bind, Option.bind_eq_some_iff, Option.pure_def] at stepped
  obtain ⟨conn, present, taken⟩ := stepped
  cases holds : conn.lock with
  | free => simp [holds] at taken
  | resolving => simp [holds] at taken
  | resolved => simp [holds] at taken
  | granted frame =>
    obtain ⟨k, event⟩ := frame
    simp only [holds, Option.some.injEq] at taken
    subst taken
    have isOpen := (smooth.conns c conn present).1
    have whole : queue conn = [] ++ ⟨k, event⟩ :: (conn.waiters ++ conn.spawned ++ conn.wire) := by
      simp [queue, holds, lockFrames]
    obtain ⟨ship, sent, handling⟩ := handling_taken smooth.sound present whole (queue_release conn)
      (release_transfers conn) (release_finishing conn) (sound_release conn)
    obtain ⟨-, sized, -⟩ := smooth.ships k ship conn handling.shipped (handling.home ▸ present)
    have lighter : connWeight conn.release + 5 ≤ connWeight conn := by
      have := connWeight_release conn
      rwa [holds] at this
    unfold acquired at advanced ⊢
    cases event with
    | pcapChunk chunk =>
      simp only at advanced ⊢
      cases current : conn.transfers.get chunk.filename with
      | some xfer =>
        simp only [current] at advanced ⊢
        exact smooth_leaves smooth present advanced rfl (leaves_store ..) (keeps_store ..)
          (quiet_store smooth.sound handling sent (by simpa using current)) (release_agentUuid conn) (release_isOpen conn)
          (release_lock conn) (by omega)
      | none =>
        simp only [current] at advanced ⊢
        refine smooth_conn smooth present advanced rfl rfl rfl rfl rfl rfl rfl (by simp) ?_
        simp only [connWeight, lockWeight, holds]
        omega
    | pcapComplete complete =>
      exact smooth_leaves smooth present advanced rfl (leaves_complete ..) (keeps_complete ..)
        (quiet_complete smooth.sound smooth.troubles handling sent sized) (release_agentUuid conn) (release_isOpen conn)
        (release_lock conn) (by omega)

theorem smooth_resolves (smooth : Smooth pcapMaxSize tables s)
    (stepped : step pcapMaxSize tables s (.resolves c true) = some t) :
    Smooth pcapMaxSize tables t ∧ weight t < weight s := by
  have advanced := advances (l := .resolves c true) smooth trivial stepped
  simp only [step, resolves, Option.bind_eq_bind, Option.bind_eq_some_iff, Option.pure_def] at stepped
  obtain ⟨conn, present, taken⟩ := stepped
  cases holds : conn.lock with
  | free => simp [holds] at taken
  | granted frame => simp [holds] at taken
  | resolved => simp [holds] at taken
  | resolving k chunk =>
    simp only [holds, Option.some.injEq, if_true] at taken
    subst taken
    have queued : ⟨k, .pcapChunk chunk⟩ ∈ queue conn := by simp [queue, holds, lockFrames]
    obtain ⟨ship, shipped, rfl, sent⟩ := owner_of_mem smooth.sound present queued
    obtain ⟨-, -, p, found⟩ := smooth.ships k ship conn shipped present
    obtain ⟨i, -, same⟩ := chunk_of_mem sent
    have name : chunk.filename = ship.source.filename := by rw [same]; rfl
    have session : chunk.sessionId = ship.source.sessionId := by rw [same]; rfl
    refine smooth_conn smooth present advanced rfl rfl rfl rfl rfl rfl rfl (fun attempt other none_ => ?_) ?_
    · rw [Lock.resolved.injEq, smooth.deleted, name, session, found] at none_
      cases none_.2.2
    · simp only [connWeight, lockWeight, holds]
      omega

theorem smooth_opens (smooth : Smooth pcapMaxSize tables s)
    (stepped : step pcapMaxSize tables s (.opens c true true) = some t) :
    Smooth pcapMaxSize tables t ∧ weight t < weight s := by
  have advanced := advances (l := .opens c true true) smooth trivial stepped
  simp only [step, opens, Option.bind_eq_bind, Option.bind_eq_some_iff, Option.pure_def] at stepped
  obtain ⟨conn, present, taken⟩ := stepped
  cases holds : conn.lock with
  | free => simp [holds] at taken
  | granted frame => simp [holds] at taken
  | resolving => simp [holds] at taken
  | resolved k chunk found =>
    simp only [holds, Option.some.injEq] at taken
    subst taken
    cases found with
    | none => exact absurd holds ((smooth.conns c conn present).2 k chunk)
    | some p =>
      obtain ⟨ship, after, sent, handling⟩ := handling_opens smooth.sound present holds
      have lighter : connWeight conn.release + 3 ≤ connWeight conn := by
        have := connWeight_release conn
        rwa [holds] at this
      exact smooth_leaves smooth present advanced handling.files_only (leaves_store ..) (keeps_store ..)
        (quiet_store smooth.sound handling sent (PyDict.get_set_self ..)) (release_agentUuid conn) (release_isOpen conn)
        (release_lock conn) (by simp only [connWeight] at lighter ⊢; omega)

/-- The handler of a complete goes on, or ends. -/
private theorem smooth_finishing (smooth : Smooth pcapMaxSize tables s) (present : s.conns[c]? = some conn)
    (sound : Invariant tables t) {finished : List Finishing}
    (conns : t.conns = s.conns.set c { conn with finishing := finished }) (ships : t.ships = s.ships)
    (troubles : t.troubles = s.troubles) (unscanned : t.unscanned = s.unscanned) (deleted : t.deleted = s.deleted)
    (less : finishingWeight finished < finishingWeight conn.finishing) :
    Smooth pcapMaxSize tables t ∧ weight t < weight s := by
  refine smooth_conn smooth present sound conns ships troubles unscanned deleted rfl rfl (smooth.conns c conn present).2 ?_
  simp only [connWeight]
  omega

theorem smooth_publishes {i : Nat} (smooth : Smooth pcapMaxSize tables s)
    (stepped : step pcapMaxSize tables s (.publishes c i true) = some t) :
    Smooth pcapMaxSize tables t ∧ weight t < weight s := by
  have sound := advances (l := .publishes c i true) smooth trivial stepped
  simp only [step, publishes, Option.bind_eq_bind, Option.bind_eq_some_iff, Option.pure_def, Option.guard_eq_some'] at stepped
  obtain ⟨conn, present, ⟨xfer, phase⟩, at_i, -, publishing, stepped⟩ := stepped
  obtain rfl : phase = .publishing := publishing
  obtain ⟨ship, shipped, rfl, member⟩ := owner_of_finishing smooth.sound present (List.mem_of_getElem? at_i)
  obtain ⟨-, ⟨-, -, goes⟩, there, -⟩ := (smooth.sound.fits _ ship conn shipped present).finishing _ member
  replace there : (s.files xfer.path).partialFile = some xfer.fh := by simpa [view, goes] using there
  simp only [Files.replace, there, Option.map_some, Option.some.injEq] at stepped
  subst stepped
  refine smooth_finishing smooth present sound rfl rfl rfl rfl rfl ?_
  have := sum_set (fun e : Finishing => phaseWeight e.phase) at_i ⟨xfer, .checking⟩
  simp only [finishingWeight, phaseWeight] at this ⊢
  omega

theorem ownership_of_begin {sessionUuid agentUuid : String} {deleted : List Row} {filename : List Char} {p : UploadPath}
    (found : beginPcapUpload tables deleted sessionUuid filename agentUuid = some p) :
    ∃ owner, ownership tables deleted sessionUuid agentUuid = some owner := by
  simp only [beginPcapUpload, Option.bind_eq_bind, Option.bind_eq_some_iff] at found
  obtain ⟨-, -, owner, owned, -⟩ := found
  exact ⟨owner, owned⟩

theorem smooth_checks {i : Nat} (smooth : Smooth pcapMaxSize tables s)
    (stepped : step pcapMaxSize tables s (.checks c i true) = some t) :
    Smooth pcapMaxSize tables t ∧ weight t < weight s := by
  have sound := advances (l := .checks c i true) smooth trivial stepped
  simp only [step, checks, Option.bind_eq_bind, Option.bind_eq_some_iff, Option.pure_def, Option.guard_eq_some'] at stepped
  obtain ⟨conn, present, ⟨xfer, phase⟩, at_i, -, checking, stepped⟩ := stepped
  obtain rfl : phase = .checking := checking
  obtain ⟨ship, shipped, rfl, member⟩ := owner_of_finishing smooth.sound present (List.mem_of_getElem? at_i)
  obtain ⟨-, ⟨-, session, -⟩, -⟩ := (smooth.sound.fits _ ship conn shipped present).finishing _ member
  replace session : xfer.sessionId = ship.source.sessionId := session
  obtain ⟨-, -, p, found⟩ := smooth.ships _ ship conn shipped present
  obtain ⟨owner, owned⟩ := ownership_of_begin found
  simp only [smooth.deleted, session, owned, Option.some.injEq] at stepped
  subst stepped
  refine smooth_finishing smooth present sound rfl rfl rfl rfl rfl ?_
  have := sum_set (fun e : Finishing => phaseWeight e.phase) at_i ⟨xfer, .resolved owner⟩
  simp only [finishingWeight, phaseWeight] at this ⊢
  omega

theorem smooth_launches {i : Nat} (smooth : Smooth pcapMaxSize tables s)
    (stepped : step pcapMaxSize tables s (.launches c i) = some t) :
    Smooth pcapMaxSize tables t ∧ weight t < weight s := by
  have sound := advances (l := .launches c i) smooth trivial stepped
  simp only [step, launches, Option.bind_eq_bind, Option.bind_eq_some_iff] at stepped
  obtain ⟨conn, present, ⟨xfer, phase⟩, at_i, stepped⟩ := stepped
  cases phase with
  | publishing => simp at stepped
  | checking => simp at stepped
  | resolved owner =>
    obtain rfl := Option.some.inj stepped
    refine smooth_finishing smooth present sound rfl rfl rfl rfl rfl ?_
    have := sum_eraseIdx (fun e : Finishing => phaseWeight e.phase) at_i
    simp only [finishingWeight, phaseWeight] at this ⊢
    omega

theorem smooth_step {l : Label} (smooth : Smooth pcapMaxSize tables s) (calm : Calm l)
    (stepped : step pcapMaxSize tables s l = some t) : Smooth pcapMaxSize tables t ∧ weight t < weight s := by
  cases l with
  | sends k => exact smooth_sends smooth stepped
  | reads c => exact smooth_reads smooth stepped
  | starts c written =>
    cases written with
    | false => exact calm.elim
    | true => exact smooth_starts smooth stepped
  | acquires c written =>
    cases written with
    | false => exact calm.elim
    | true => exact smooth_acquires smooth stepped
  | resolves c answered =>
    cases answered with
    | false => exact calm.elim
    | true => exact smooth_resolves smooth stepped
  | opens c opened written =>
    cases opened with
    | false => exact calm.elim
    | true =>
      cases written with
      | false => exact calm.elim
      | true => exact smooth_opens smooth stepped
  | publishes c i replaced =>
    cases replaced with
    | false => exact calm.elim
    | true => exact smooth_publishes smooth stepped
  | checks c i answered =>
    cases answered with
    | false => exact calm.elim
    | true => exact smooth_checks smooth stepped
  | launches c i => exact smooth_launches smooth stepped
  | connects | ships | spools | removes | drops | deletes => exact calm.elim

/-- No calm schedule is longer than what there is to do. -/
theorem smooth_run {labels : List Label} (smooth : Smooth pcapMaxSize tables s) (calm : ∀ l ∈ labels, Calm l)
    (ran : run (step pcapMaxSize tables) s labels = some t) :
    Smooth pcapMaxSize tables t ∧ labels.length + weight t ≤ weight s := by
  induction labels generalizing s with
  | nil =>
    cases ran
    exact ⟨smooth, by simp⟩
  | cons l rest ih =>
    obtain ⟨m, stepped, ran⟩ := run_cons.mp ran
    obtain ⟨kept, less⟩ := smooth_step smooth (calm l List.mem_cons_self) stepped
    obtain ⟨smooth', bound⟩ := ih kept (fun l member => calm l (List.mem_cons_of_mem _ member)) ran
    refine ⟨smooth', ?_⟩
    rw [List.length_cons]
    omega

/-! ### Where a calm schedule ends -/

/-- Nothing that is calm can happen any more. -/
def Done (pcapMaxSize : Nat) (tables : Tables) (s : State) : Prop :=
  ∀ l, Calm l → step pcapMaxSize tables s l = none

theorem queue_of_done (smooth : Smooth pcapMaxSize tables s) (done : Done pcapMaxSize tables s)
    (present : s.conns[c]? = some conn) : queue conn = [] := by
  have wire : conn.wire = [] := by
    by_contra some_
    obtain ⟨frame, rest, split⟩ := List.exists_cons_of_ne_nil some_
    have := done (.reads c) trivial
    simp [step, reads, present, split] at this
  have spawned : conn.spawned = [] := by
    by_contra some_
    obtain ⟨frame, rest, split⟩ := List.exists_cons_of_ne_nil some_
    have := done (.starts c true) trivial
    simp [step, starts, present, split] at this
  cases holds : conn.lock with
  | free => simp [queue, holds, lockFrames, (smooth.sound.sound c conn present).free holds, wire, spawned]
  | granted frame =>
    have := done (.acquires c true) trivial
    simp [step, acquires, present, holds] at this
  | resolving attempt chunk =>
    have := done (.resolves c true) trivial
    simp [step, resolves, present, holds] at this
  | resolved attempt chunk p =>
    have := done (.opens c true true) trivial
    simp [step, opens, present, holds] at this

private theorem publishes_some {i : Nat} (replaced : Bool) {xfer : Transfer} (present : s.conns[c]? = some conn)
    (at_i : conn.finishing[i]? = some ⟨xfer, .publishing⟩) : ∃ t, publishes s c i replaced = some t := by
  simp only [publishes, present, at_i, Option.bind_eq_bind, Option.bind_some, guard, if_true, Option.pure_def]
  split <;> exact ⟨_, rfl⟩

private theorem checks_some {i : Nat} (tables : Tables) (answered : Bool) {xfer : Transfer} (present : s.conns[c]? = some conn)
    (at_i : conn.finishing[i]? = some ⟨xfer, .checking⟩) : ∃ t, checks tables s c i answered = some t := by
  simp only [checks, present, at_i, Option.bind_eq_bind, Option.bind_some, guard, if_true, Option.pure_def]
  split <;> exact ⟨_, rfl⟩

theorem finishing_of_done (done : Done pcapMaxSize tables s) (present : s.conns[c]? = some conn) :
    conn.finishing = [] := by
  by_contra some_
  obtain ⟨⟨xfer, phase⟩, rest, parts⟩ := List.exists_cons_of_ne_nil some_
  have head : conn.finishing[0]? = some ⟨xfer, phase⟩ := by rw [parts, List.getElem?_cons_zero]
  cases phase with
  | publishing =>
    obtain ⟨t, stepped⟩ := publishes_some true present head
    exact Option.some_ne_none t (stepped.symm.trans (done (.publishes c 0 true) trivial))
  | checking =>
    obtain ⟨t, stepped⟩ := checks_some tables true present head
    exact Option.some_ne_none t (stepped.symm.trans (done (.checks c 0 true) trivial))
  | resolved owner =>
    have := done (.launches c 0) trivial
    simp [step, launches, present, head] at this

/-- The file of the upload has been published and scanned, each once. -/
structure Delivered (tables : Tables) (s : State) (k : Nat) (source : Source) : Prop where
  published : ∃ p, destination tables source.sessionId source.filename = some p ∧
    s.published.filter (·.attempt = k) = [⟨k, source.sessionId, p, source.bytes⟩] ∧
    s.launched.filter (·.attempt = k) = [⟨k, source.sessionId, p, some source.bytes⟩]
  calls : s.finishCalls.count k = 1

theorem delivered_of_done (smooth : Smooth pcapMaxSize tables s) (done : Done pcapMaxSize tables s) {ship : Ship}
    (shipped : s.ships[k]? = some ship) : Delivered tables s k ship.source := by
  obtain ⟨conn, present⟩ := connected smooth.sound shipped
  obtain ⟨sending, -, -⟩ := smooth.ships k ship conn shipped present
  have fits := smooth.sound.fits k ship conn shipped present
  have queue_ : (view tables s k ship conn).queue = [] := by
    simp [view, frames, queue_of_done smooth done present]
  have finishing_ : (view tables s k ship conn).finishing = [] := by
    simp [view, finishing, finishing_of_done done present]
  have unsent_ : (view tables s k ship conn).unsent = [] := by
    by_contra some_
    have inside : ship.sent < (ship.source.frames k).length := by
      by_contra beyond
      exact some_ (by simp [view, unsent, sending]; omega)
    have := done (.sends k) trivial
    simp only [step, sends, shipped, present, List.getElem?_eq_getElem inside, Option.bind_eq_bind, Option.bind_some,
      guard, sending, if_true, (smooth.conns _ conn present).1] at this
    cases this
  have untroubled : (view tables s k ship conn).troubled = false := by simp [view, smooth.troubles]
  cases fits.stage untroubled with
  | uploading before => exact absurd before.last (by simp [queue_, unsent_])
  | publishing xfer some_ => simp [finishing_] at some_
  | published e some_ => simp [finishing_] at some_
  | finished idle calls published launched =>
    have launched : (view tables s k ship conn).launched.length = 1 := by
      refine launched.resolve_right fun dismissed => ?_
      simp [view, smooth.unscanned] at dismissed
    obtain ⟨p, only⟩ := List.length_eq_one_iff.mp published
    obtain ⟨l, only'⟩ := List.length_eq_one_iff.mp launched
    obtain ⟨own, session, goes, bytes⟩ := fits.published p (by simp [only])
    obtain ⟨own', session', goes', bytes'⟩ := fits.launched l (by simp [only'])
    obtain ⟨attempt, sessionId, path, content⟩ := p
    obtain ⟨attempt', sessionId', path', content'⟩ := l
    simp only at own session bytes own' session' bytes'
    obtain rfl := Option.some.inj (goes.symm.trans goes')
    subst own session bytes own' session' bytes'
    exact ⟨⟨path, goes, only, only'⟩, calls⟩

/-! ### Uploads that begin on one connection -/

/-- A connection, files that some earlier attempts may have left, and ships of which
    nothing has been written. -/
def begun (agentUuid : String) (files : UploadPath → Files) (sources : List Source) : State :=
  { State.init with conns := [Conn.init agentUuid], ships := sources.map (⟨·, 0, .sending⟩), files := files }

/-- The agent owns the session, the name is one of a capture, the file is not too large, and
    what has been left at its destination is no longer than the file. -/
structure Ready (pcapMaxSize : Nat) (tables : Tables) (agentUuid : String) (files : UploadPath → Files)
    (source : Source) : Prop where
  home : source.conn = 0
  sized : source.totalChunks ≤ maxPcapChunks pcapMaxSize
  owned : ∃ p, beginPcapUpload tables [] source.sessionId source.filename agentUuid = some p
  short : ∀ p inode, destination tables source.sessionId source.filename = some p →
    (files p).partialFile = some inode → ((files p).data inode).length ≤ source.bytes.length

theorem filename_of_destination {source : Source} {p : UploadPath}
    (goes : destination tables source.sessionId source.filename = some p) : p.filename = source.filename := by
  simp only [destination, Option.bind_eq_bind, Option.bind_eq_some_iff, Option.pure_def, Option.some.injEq] at goes
  obtain ⟨name, safe, cs, -, projectId, -, userId, -, rfl⟩ := goes
  have bare : name = basename source.filename := by
    simp only [safeFilename] at safe
    split_ifs at safe
    exact (Option.some.inj safe).symm
  rw [bare, Source.filename, basename, basename, List.reverse_reverse, List.takeWhile_idem]

section
variable {agentUuid : String} {files : UploadPath → Files} {sources : List Source}

private theorem ship_begun {ship : Ship} (shipped : (begun agentUuid files sources).ships[k]? = some ship) :
    ∃ source, sources[k]? = some source ∧ ship = ⟨source, 0, .sending⟩ := by
  rw [begun, List.getElem?_map, Option.map_eq_some_iff] at shipped
  obtain ⟨source, there, rfl⟩ := shipped
  exact ⟨source, there, rfl⟩

private theorem invariant_begun (apart : (sources.map Source.filename).Nodup)
    (ready : ∀ source ∈ sources, Ready pcapMaxSize tables agentUuid files source) :
    Invariant tables (begun agentUuid files sources) := by
  induction sources using List.reverseRecOn with
  | nil => exact (advances_connects (invariant_empty files) agentUuid).invariant
  | append_singleton before source ih =>
    rw [List.map_append, List.nodup_append] at apart
    obtain ⟨apart, -, other⟩ := apart
    have sound := ih apart fun source member => ready source (List.mem_append_left _ member)
    have facts := ready source (List.mem_append_right _ List.mem_cons_self)
    have clear : Clear tables (begun agentUuid files before) source := by
      refine ⟨?_, facts.short⟩
      rintro k earlier ⟨ship, conn, shipped, rfl, -⟩ overlap
      have member : ship.source ∈ before := by
        obtain ⟨source, there, rfl⟩ := ship_begun shipped
        exact List.mem_of_getElem? there
      have names : ship.source.filename ≠ source.filename :=
        other _ (List.mem_map_of_mem member) _ (List.mem_map_of_mem List.mem_cons_self)
      rcases overlap with ⟨-, same⟩ | ⟨p, first, second⟩
      · exact names same
      · exact names ((filename_of_destination first).symm.trans (filename_of_destination second))
    have next : step pcapMaxSize tables (begun agentUuid files before) (.ships source) =
        some (begun agentUuid files (before ++ [source])) := by
      simp [step, begun, facts.home]
    exact invariant_step sound (fun other same => by obtain rfl := Label.ships.inj same; exact clear) next

private theorem smooth_begun (apart : (sources.map Source.filename).Nodup)
    (ready : ∀ source ∈ sources, Ready pcapMaxSize tables agentUuid files source) :
    Smooth pcapMaxSize tables (begun agentUuid files sources) := by
  refine ⟨invariant_begun apart ready, rfl, rfl, rfl, fun c conn there => ?_, fun k ship conn shipped there => ?_⟩
  · obtain rfl := List.mem_singleton.mp (List.mem_of_getElem? there)
    exact ⟨rfl, by simp [Conn.init]⟩
  · obtain rfl := List.mem_singleton.mp (List.mem_of_getElem? there)
    obtain ⟨source, present, rfl⟩ := ship_begun shipped
    obtain ⟨-, sized, owned, -⟩ := ready source (List.mem_of_getElem? present)
    exact ⟨rfl, sized, owned⟩

theorem weight_begun : weight (begun agentUuid files sources) =
    (sources.map fun source => 9 * (source.totalChunks + 1)).sum := by
  simp [weight, begun, shipWeight, connWeight, lockWeight, finishingWeight, Conn.init, Function.comp_def]

/-- The sources of the ships stay. -/
theorem source_run {labels : List Label} {s : State} (calm : ∀ l ∈ labels, Calm l)
    (ran : run (step pcapMaxSize tables) s labels = some t) {ship : Ship} (shipped : s.ships[k]? = some ship) :
    ∃ ship' : Ship, t.ships[k]? = some ship' ∧ ship'.source = ship.source := by
  induction labels generalizing s ship with
  | nil =>
    cases ran
    exact ⟨ship, shipped, rfl⟩
  | cons l rest ih =>
    obtain ⟨m, stepped, ran⟩ := run_cons.mp ran
    have now : ∃ ship' : Ship, m.ships[k]? = some ship' ∧ ship'.source = ship.source := by
      cases changes_of_step stepped with
      | keeps keeps => exact ⟨ship, keeps.ships ▸ shipped, rfl⟩
      | begins source label => exact (label ▸ calm l List.mem_cons_self : Calm (.ships source)).elim
      | goesOn j other ship' there source _ ships =>
        rw [ships, List.getElem?_set]
        split_ifs with same inside
        · subst same
          obtain rfl := Option.some.inj (there.symm.trans shipped)
          exact ⟨ship', rfl, source⟩
        · exact absurd (List.getElem?_eq_some_iff.mp there).1 inside
        · exact ⟨ship, shipped, rfl⟩
      | publishes c i conn xfer inode _ _ _ ships => exact ⟨ship, ships ▸ shipped, rfl⟩
    obtain ⟨ship', there, source⟩ := now
    obtain ⟨last, there', source'⟩ := ih (fun l member => calm l (List.mem_cons_of_mem _ member)) ran there
    exact ⟨last, there', source'.trans source⟩

/-- Under every schedule nothing is refused, and the schedule ends with every file
    published whole and scanned, each once. -/
theorem reassembled {labels : List Label} (apart : (sources.map Source.filename).Nodup)
    (ready : ∀ source ∈ sources, Ready pcapMaxSize tables agentUuid files source) (calm : ∀ l ∈ labels, Calm l)
    (ran : run (step pcapMaxSize tables) (begun agentUuid files sources) labels = some t) :
    (t.troubles = [] ∧ t.unscanned = []) ∧
      labels.length ≤ (sources.map fun source => 9 * (source.totalChunks + 1)).sum ∧
      (Done pcapMaxSize tables t → ∀ (k : Nat) (source : Source), sources[k]? = some source → Delivered tables t k source) := by
  obtain ⟨smooth, bound⟩ := smooth_run (smooth_begun apart ready) calm ran
  rw [weight_begun] at bound
  refine ⟨⟨smooth.troubles, smooth.unscanned⟩, by omega, fun done k source present => ?_⟩
  have shipped : (begun agentUuid files sources).ships[k]? = some ⟨source, 0, .sending⟩ := by
    rw [begun, List.getElem?_map, present, Option.map_some]
  obtain ⟨ship, there, rfl⟩ := source_run calm ran shipped
  exact delivered_of_done smooth done there

/-- A file of more than `_MAX_PCAP_CHUNKS` chunks is refused at its first one. -/
theorem oversize_refused {source : Source} (home : source.conn = 0)
    (large : maxPcapChunks pcapMaxSize < source.totalChunks) :
    ∃ t, run (step pcapMaxSize tables) (begun agentUuid files [source]) [.sends 0, .reads 0, .starts 0 true] = some t ∧
      t.troubles = [0] := by
  have first : (source.frames 0)[0]? = some ⟨0, .pcapChunk (source.chunk 0)⟩ := by
    have positive : 0 < source.totalChunks := Nat.zero_lt_of_lt large
    rw [Source.frames, List.getElem?_append_left (by simpa using positive), List.getElem?_map,
      List.getElem?_range positive, Option.map_some]
  have refused : inRange pcapMaxSize (source.chunk 0) = false := by
    have total : (source.chunk 0).totalChunks = source.totalChunks := rfl
    rw [inRange, total]
    generalize source.totalChunks = n at large
    generalize maxPcapChunks pcapMaxSize = m at large
    have : ¬ (n : Int) ≤ m := by omega
    simp [this]
  generalize source.chunk 0 = chunk at first refused
  simp [run, step, sends, reads, starts, begun, home, first, Conn.init, State.init, State.setConn, handleEvent, refused,
    abortPcapTransfer, State.trouble]

end

/-- One project with one agent, which owns every session. -/
def ownTables : Tables := ⟨fun _ => some ⟨some 1, some 1⟩, fun _ => some 7, fun _ => some 1⟩

def smallCapture : Source := ⟨0, "s1", "/captures/cap_00001_20250101000000.pcapng".toList, [1, 2, 3]⟩

/-- A file of one chunk, whose complete waits for the lock that its chunk holds. -/
theorem reassembled_small : ∃ labels t,
    run (step 1 ownTables) (begun "a1" (fun _ => Files.init) [smallCapture]) labels = some t ∧
      (t.troubles = [] ∧ t.unscanned = []) ∧
        labels.length ≤ ([smallCapture].map fun source => 9 * (source.totalChunks + 1)).sum ∧
          (Done 1 ownTables t → ∀ (k : Nat) (source : Source), [smallCapture][k]? = some source →
            Delivered ownTables t k source) := by
  obtain ⟨t, ran⟩ : ∃ t, run (step 1 ownTables) (begun "a1" (fun _ => Files.init) [smallCapture])
      [.sends 0, .sends 0, .reads 0, .reads 0, .starts 0 true, .starts 0 true, .resolves 0 true, .opens 0 true true,
        .acquires 0 true, .publishes 0 0 true, .checks 0 0 true, .launches 0 0] = some t := ⟨_, rfl⟩
  refine ⟨_, t, ran, reassembled (List.nodup_singleton _) (fun source member => ?_) (by simp [Calm]) ran⟩
  obtain rfl := List.mem_singleton.mp member
  exact ⟨rfl, by decide, ⟨_, rfl⟩, fun _ _ _ there => by cases there⟩

/-- The default `PCAP_MAX_SIZE` is 5 GiB; this file is two chunks larger. -/
def largeCapture : Source :=
  ⟨0, "s1", "/captures/cap_00001_20250101000000.pcapng".toList, List.replicate (5 * 1024 ^ 3 + 2 * 524288) 0⟩

theorem large_capture_refused : ∃ labels t, (∀ l ∈ labels, Calm l) ∧
    (∃ p, beginPcapUpload ownTables [] largeCapture.sessionId largeCapture.filename "a1" = some p) ∧
      run (step (5 * 1024 ^ 3) ownTables) (begun "a1" (fun _ => Files.init) [largeCapture]) labels = some t ∧
        t.troubles ≠ [] := by
  have large : maxPcapChunks (5 * 1024 ^ 3) < largeCapture.totalChunks := by
    have length : largeCapture.bytes.length = 5 * 1024 ^ 3 + 2 * 524288 := List.length_replicate
    rw [Source.totalChunks, Positional.pieces, length]
    simp only [maxPcapChunks, pcapChunkRawBytes]
    omega
  obtain ⟨t, ran, troubles⟩ := oversize_refused rfl large
  exact ⟨_, t, by simp [Calm], ⟨_, rfl⟩, ran, by simp [troubles]⟩

end Marlinspike.Gateway.Schedule
