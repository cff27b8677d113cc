import Mathlib.Data.List.Basic
import Marlinspike.Gateway.Server

/-!
One upload as a machine of its own: the frames that are still to come, the transfer that
they fill, and the file that becomes of it. Each move is something that the gateway or
the agent does to this upload; what other uploads do is not seen here.

`Fits` is what holds as long as nobody else touches the upload's two files. Whatever is
lost or refused on the way, what is published is the whole file (`Fits.published`); and
if nothing is, the upload is somewhere between its first frame and its scan (`Stage`).
-/
namespace Marlinspike.Gateway.Upload
open Marlinspike.Positional
open Marlinspike.Gateway.Server

structure Progress where
  /-- On the connection: held by the lock, waiting for it, not begun, not read. -/
  queue : List Frame
  unsent : List Frame
  transfer : Option Transfer
  files : Files
  finishing : List Finishing
  published : List Publication
  launched : List Launch
  calls : Nat
  troubled : Bool
  unscanned : Bool

/-- Something of the upload is still to come. -/
def Progress.Alive (v : Progress) : Prop :=
  v.queue ≠ [] ∨ v.unsent ≠ [] ∨ v.transfer.isSome = true ∨ v.finishing ≠ []

section
variable (k : Nat) (source : Source) (path : Option UploadPath)

inductive Moves : Progress → Progress → Prop where
  | sends {v} (frame rest) (next : v.unsent = frame :: rest) :
    Moves v { v with queue := v.queue ++ [frame], unsent := rest }
  | losesSent {v} (frame rest) (next : v.unsent = frame :: rest) : Moves v { v with unsent := rest, troubled := true }
  | gives {v} (busy : v.unsent ≠ []) : Moves v { v with unsent := [], troubled := true }
  /-- A frame comes to nothing. -/
  | refuses {v} (before frame after) (here : v.queue = before ++ frame :: after) :
    Moves v { v with queue := before ++ after, troubled := true }
  | aborts {v} (xfer) (current : v.transfer = some xfer) :
    Moves v { v with transfer := none, files := v.files.discardPartial, troubled := true }
  | opens {v} (xfer) (busy : v.queue ≠ []) (none_ : v.transfer = none) (goes : path = some xfer.path)
    (own : xfer.attempt = k) (session : xfer.sessionId = source.sessionId) (fresh : xfer.received = ∅)
    (handle : v.files.openPartial.2 = xfer.fh) :
    Moves v { v with files := v.files.openPartial.1, transfer := some xfer }
  | stores {v} (before chunk after xfer bytes) (here : v.queue = before ++ ⟨k, .pcapChunk chunk⟩ :: after)
    (current : v.transfer = some xfer) (decoded : Base64.decode chunk.data = some bytes) :
    Moves v
      { v with
        queue := before ++ after
        transfer := some { xfer with received := insert chunk.chunkIndex.toNat xfer.received }
        files := v.files.write xfer.fh (chunk.chunkIndex.toNat * pcapChunkRawBytes) bytes }
  /-- The `pcap_complete` finds all the chunks that it counts. -/
  | completes {v} (complete after xfer) (here : v.queue = ⟨k, .pcapComplete complete⟩ :: after)
    (current : v.transfer = some xfer) (all : ∀ i ∈ List.range complete.totalChunks.toNat, i ∈ xfer.received) :
    Moves v
      { v with
        queue := after
        transfer := none
        finishing := v.finishing ++ [⟨xfer, .publishing⟩]
        calls := v.calls + 1 }
  | publishes {v} (before xfer after inode) (here : v.finishing = before ++ ⟨xfer, .publishing⟩ :: after)
    (there : v.files.partialFile = some inode) :
    Moves v
      { v with
        files := { v.files with partialFile := none, final := some inode }
        finishing := before ++ ⟨xfer, .checking⟩ :: after
        published := v.published ++ [⟨xfer.attempt, xfer.sessionId, xfer.path, v.files.data inode⟩] }
  | fails {v} (before xfer after) (here : v.finishing = before ++ ⟨xfer, .publishing⟩ :: after) :
    Moves v { v with finishing := before ++ after, troubled := true }
  | checks {v} (before xfer after owner) (here : v.finishing = before ++ ⟨xfer, .checking⟩ :: after) :
    Moves v { v with finishing := before ++ ⟨xfer, .resolved owner⟩ :: after }
  | dismisses {v} (before xfer after) (here : v.finishing = before ++ ⟨xfer, .checking⟩ :: after) :
    Moves v { v with finishing := before ++ after, unscanned := true }
  | launches {v} (before xfer owner after) (here : v.finishing = before ++ ⟨xfer, .resolved owner⟩ :: after) :
    Moves v
      { v with
        finishing := before ++ after
        launched := v.launched ++ [⟨xfer.attempt, xfer.sessionId, xfer.path, v.files.final.map v.files.data⟩] }
  /-- The connection drops. -/
  | drops {v} (rest) (left : rest.Sublist v.queue) : Moves v { v with queue := rest, transfer := none, troubled := true }

/-- What the file of a closed transfer is. -/
def Closed (files : Files) (e : Finishing) : Prop :=
  match e.phase with
  | .publishing => files.partialFile = some e.transfer.fh ∧ files.data e.transfer.fh = source.bytes
  | .checking | .resolved _ => ∃ inode, files.final = some inode ∧ files.data inode = source.bytes

/-- Before its `pcap_complete`, each chunk is still to come or is stored. -/
structure Uploading (v : Progress) : Prop where
  last : ⟨k, .pcapComplete source.complete⟩ ∈ v.queue ++ v.unsent
  chunks : ∀ i < source.totalChunks, ⟨k, .pcapChunk (source.chunk i)⟩ ∈ v.queue ++ v.unsent ∨
    ∃ xfer, v.transfer = some xfer ∧ i ∈ xfer.received
  calls : v.calls = 0
  published : v.published = []
  launched : v.launched = []

/-- Where an upload is of which nothing has been lost or refused. -/
inductive Stage (v : Progress) : Prop where
  | uploading (before : Uploading k source v)
  | publishing (xfer : Transfer) (finishing : v.finishing = [⟨xfer, .publishing⟩])
    (calls : v.calls = 1) (published : v.published = []) (launched : v.launched = [])
  | published (e : Finishing) (finishing : v.finishing = [e]) (phase : e.phase ≠ .publishing)
    (calls : v.calls = 1) (published : v.published.length = 1) (launched : v.launched = [])
  | finished (idle : ¬ v.Alive) (calls : v.calls = 1) (published : v.published.length = 1)
    (launched : v.launched.length = 1 ∨ v.launched = [] ∧ v.unscanned = true)

structure Fits (v : Progress) : Prop where
  order : (v.queue ++ v.unsent).Sublist (source.frames k)
  transfer : ∀ xfer, v.transfer = some xfer → (xfer.attempt = k ∧ xfer.sessionId = source.sessionId ∧
    path = some xfer.path) ∧ v.files.partialFile = some xfer.fh ∧ ∀ i ∈ xfer.received, i < source.totalChunks ∧
      Agrees pcapChunkRawBytes (v.files.data xfer.fh) source.bytes i
  short : v.Alive → ∀ inode, v.files.partialFile = some inode →
    (v.files.data inode).length ≤ source.bytes.length
  finishing : ∀ e ∈ v.finishing, (v.finishing = [e] ∧ v.queue = [] ∧ v.unsent = [] ∧ v.transfer = none) ∧
    (e.transfer.attempt = k ∧ e.transfer.sessionId = source.sessionId ∧ path = some e.transfer.path) ∧
      Closed source v.files e
  published : ∀ p ∈ v.published, p.attempt = k ∧ p.sessionId = source.sessionId ∧ path = some p.path ∧
    p.bytes = source.bytes
  launched : ∀ l ∈ v.launched, l.attempt = k ∧ l.sessionId = source.sessionId ∧ path = some l.path ∧
    l.bytes = some source.bytes
  stage : v.troubled = false → Stage k source v

end

variable {k : Nat} {source : Source} {path : Option UploadPath} {v : Progress}

theorem pcapChunkRawBytes_pos : 0 < pcapChunkRawBytes := by decide

/-! ### The frames of an upload -/

theorem mem_frames {frame : Frame} : frame ∈ source.frames k ↔
    (∃ i < source.totalChunks, frame = ⟨k, .pcapChunk (source.chunk i)⟩) ∨
      frame = ⟨k, .pcapComplete source.complete⟩ := by
  simp only [Source.frames, List.mem_append, List.mem_map, List.mem_range, List.mem_singleton]
  constructor
  · rintro (⟨i, less, rfl⟩ | rfl)
    · exact .inl ⟨i, less, rfl⟩
    · exact .inr rfl
  · rintro (⟨i, less, rfl⟩ | rfl)
    · exact .inl ⟨i, less, rfl⟩
    · exact .inr rfl

theorem chunk_of_mem {chunk : PcapChunk} (mem : ⟨k, .pcapChunk chunk⟩ ∈ source.frames k) :
    ∃ i < source.totalChunks, chunk = source.chunk i := by
  rcases mem_frames.mp mem with ⟨i, less, same⟩ | same
  · exact ⟨i, less, by simpa using same⟩
  · simp at same

theorem complete_of_mem {complete : PcapComplete} (mem : ⟨k, .pcapComplete complete⟩ ∈ source.frames k) :
    complete = source.complete := by
  rcases mem_frames.mp mem with ⟨i, less, same⟩ | same
  · simp at same
  · simpa using same

theorem complete_totalChunks : source.complete.totalChunks.toNat = source.totalChunks := Int.toNat_natCast _

/-- Nothing comes after the `pcap_complete`. -/
theorem last_of_sublist {complete : PcapComplete} {rest : List Frame}
    (order : (⟨k, .pcapComplete complete⟩ :: rest).Sublist (source.frames k)) : rest = [] := by
  have absent : (⟨k, .pcapComplete complete⟩ : Frame) ∉
      (List.range source.totalChunks).map fun i => ⟨k, .pcapChunk (source.chunk i)⟩ := by
    simp
  rw [Source.frames] at order
  obtain ⟨first, second, split, inside, last⟩ := List.sublist_append_iff.mp order
  cases first with
  | nil =>
    rw [List.nil_append] at split
    have : (⟨k, .pcapComplete complete⟩ :: rest).length ≤ 1 := split ▸ last.length_le
    exact List.length_eq_zero_iff.mp (by simpa using this)
  | cons head tail =>
    rw [List.cons_append] at split
    obtain ⟨rfl, -⟩ := List.cons.inj split
    exact absurd (inside.subset List.mem_cons_self) absent

/-- An upload of which no frame has been written. -/
theorem fits_begun (queue : v.queue = []) (unsent : v.unsent = source.frames k) (transfer : v.transfer = none)
    (finishing : v.finishing = []) (published : v.published = []) (launched : v.launched = []) (calls : v.calls = 0)
    (short : ∀ inode, v.files.partialFile = some inode → (v.files.data inode).length ≤ source.bytes.length) :
    Fits k source path v := by
  have all : v.queue ++ v.unsent = source.frames k := by rw [queue, unsent, List.nil_append]
  refine ⟨by rw [all], by simp [transfer], fun _ => short, by simp [finishing], by simp [published], by simp [launched],
    fun _ => .uploading ⟨?_, fun i less => .inl ?_, calls, published, launched⟩⟩
  · rw [all]
    exact mem_frames.mpr (.inr rfl)
  · rw [all]
    exact mem_frames.mpr (.inl ⟨i, less, rfl⟩)

/-! ### Every move keeps an upload fit -/

/-- A part of the upload is still before its `pcap_complete`. -/
def Progress.Busy (v : Progress) : Prop := v.queue ≠ [] ∨ v.unsent ≠ [] ∨ v.transfer.isSome = true

theorem alive_of_busy (busy : v.Busy) : v.Alive := by
  rcases busy with queue | unsent | transfer
  · exact .inl queue
  · exact .inr (.inl unsent)
  · exact .inr (.inr (.inl transfer))

theorem finishing_of_busy (fits : Fits k source path v) (busy : v.Busy) : v.finishing = [] := by
  by_contra some_
  obtain ⟨e, member⟩ := List.exists_mem_of_ne_nil _ some_
  obtain ⟨⟨-, queue, unsent, transfer⟩, -⟩ := fits.finishing e member
  rcases busy with busy | busy | busy
  · exact busy queue
  · exact busy unsent
  · simp [transfer] at busy

theorem uploading_of_busy (fits : Fits k source path v) (busy : v.Busy) (untroubled : v.troubled = false) :
    Uploading k source v := by
  have none_ := finishing_of_busy fits busy
  cases fits.stage untroubled with
  | uploading before => exact before
  | publishing xfer finishing => simp [none_] at finishing
  | published e finishing => simp [none_] at finishing
  | finished idle => exact absurd (alive_of_busy busy) idle

/-- An upload that loses some of its frames, and maybe its transfer. -/
private theorem fits_troubled {w : Progress} (fits : Fits k source path v) (busy : v.Busy)
    (order : (w.queue ++ w.unsent).Sublist (v.queue ++ v.unsent)) (transfer : w.transfer = v.transfer ∨ w.transfer = none)
    (finishing : w.finishing = v.finishing) (files : w.files = v.files ∨ w.transfer = none ∧ w.files = v.files.discardPartial)
    (published : w.published = v.published) (launched : w.launched = v.launched) (troubled : w.troubled = true) :
    Fits k source path w := by
  have none_ := finishing_of_busy fits busy
  refine ⟨order.trans fits.order, fun xfer current => ?_, fun _ inode there => ?_, fun e member => ?_, ?_, ?_, ?_⟩
  · rcases transfer with same | gone
    · rcases files with kept | ⟨gone, -⟩
      · rw [kept]
        exact fits.transfer xfer (same ▸ current)
      · simp [gone] at current
    · simp [gone] at current
  · rcases files with kept | ⟨-, discarded⟩
    · rw [kept] at there ⊢
      exact fits.short (alive_of_busy busy) inode there
    · simp [discarded, Files.discardPartial] at there
  · simp [finishing, none_] at member
  · rw [published]; exact fits.published
  · rw [launched]; exact fits.launched
  · exact fun untroubled => by simp [troubled] at untroubled

private theorem fits_sends (fits : Fits k source path v) {frame : Frame} {rest : List Frame}
    (next : v.unsent = frame :: rest) :
    Fits k source path { v with queue := v.queue ++ [frame], unsent := rest } := by
  have busy : v.Busy := .inr (.inl (by simp [next]))
  have same : v.queue ++ [frame] ++ rest = v.queue ++ v.unsent := by simp [next]
  refine ⟨same ▸ fits.order, fits.transfer, fun _ => fits.short (alive_of_busy busy), fun e member => ?_,
    fits.published, fits.launched, fun untroubled => ?_⟩
  · simp [finishing_of_busy fits busy] at member
  · obtain ⟨last, chunks, calls, published, launched⟩ := uploading_of_busy fits busy untroubled
    exact .uploading ⟨by rw [same]; exact last, by rw [same]; exact chunks, calls, published, launched⟩

private theorem fits_opens (fits : Fits k source path v) {xfer : Transfer} (busy : v.queue ≠ [])
    (none_ : v.transfer = none) (goes : path = some xfer.path) (own : xfer.attempt = k)
    (session : xfer.sessionId = source.sessionId) (fresh : xfer.received = ∅) (handle : v.files.openPartial.2 = xfer.fh) :
    Fits k source path { v with files := v.files.openPartial.1, transfer := some xfer } := by
  have short := fits.short (.inl busy)
  have opened : v.files.openPartial.1.partialFile = some xfer.fh ∧
      (v.files.openPartial.1.data xfer.fh).length ≤ source.bytes.length := by
    rw [← handle]
    unfold Files.openPartial
    cases there : v.files.partialFile with
    | none => simp
    | some inode => exact ⟨there, short inode there⟩
  refine ⟨fits.order, fun other current => ?_, fun _ inode there => ?_, fun e member => ?_, fits.published,
    fits.launched, fun untroubled => ?_⟩
  · obtain rfl := Option.some.inj current
    exact ⟨⟨own, session, goes⟩, opened.1, by simp [fresh]⟩
  · obtain rfl := Option.some.inj (opened.1.symm.trans there)
    exact opened.2
  · simp [finishing_of_busy fits (.inl busy)] at member
  · obtain ⟨last, chunks, calls, published, launched⟩ := uploading_of_busy fits (.inl busy) untroubled
    refine .uploading ⟨last, fun i less => (chunks i less).imp_right ?_, calls, published, launched⟩
    rintro ⟨before, current, -⟩
    simp [none_] at current

private theorem mem_of_ne {before after unsent : List Frame} {frame other : Frame} (apart : other ≠ frame)
    (member : other ∈ before ++ frame :: after ++ unsent) : other ∈ before ++ after ++ unsent := by
  simp only [List.mem_append, List.mem_cons] at member ⊢
  tauto

private theorem fits_stores (fits : Fits k source path v) {before after : List Frame} {chunk : PcapChunk}
    {xfer : Transfer} {bytes : Base64.Bytes} (here : v.queue = before ++ ⟨k, .pcapChunk chunk⟩ :: after)
    (current : v.transfer = some xfer) (decoded : Base64.decode chunk.data = some bytes) :
    Fits k source path
      { v with
        queue := before ++ after
        transfer := some { xfer with received := insert chunk.chunkIndex.toNat xfer.received }
        files := v.files.write xfer.fh (chunk.chunkIndex.toNat * pcapChunkRawBytes) bytes } := by
  have busy : v.Busy := .inl (by simp [here])
  have order := fits.order
  rw [here] at order
  have sent : (⟨k, .pcapChunk chunk⟩ : Frame) ∈ source.frames k := order.subset (by simp)
  obtain ⟨i, less, rfl⟩ := chunk_of_mem sent
  obtain rfl : piece pcapChunkRawBytes source.bytes i = bytes := by
    simpa [Source.chunk, Base64.decode_encode] using decoded
  have index : (source.chunk i).chunkIndex.toNat = i := rfl
  obtain ⟨own, there, stored⟩ := fits.transfer xfer current
  have short := fits.short (alive_of_busy busy) xfer.fh there
  refine ⟨List.Sublist.trans ?_ order, fun other same => ?_, fun _ inode same => ?_, fun e member => ?_, fits.published,
    fits.launched, fun untroubled => ?_⟩
  · simp
  · obtain rfl := Option.some.inj same
    refine ⟨own, there, fun j received => ?_⟩
    simp only [Files.write, if_true, index]
    by_cases at_i : j = i
    · subst at_i
      exact ⟨less, agrees_write j⟩
    · obtain ⟨less', agrees⟩ := stored j ((Finset.mem_insert.mp received).resolve_left at_i)
      exact ⟨less', agrees_write_other at_i agrees⟩
  · obtain rfl := Option.some.inj (there.symm.trans same)
    simp only [Files.write, if_true, index]
    exact length_write_le short
  · simp [finishing_of_busy fits busy] at member
  · obtain ⟨last, chunks, calls, published, launched⟩ := uploading_of_busy fits busy untroubled
    rw [here] at last chunks
    refine .uploading ⟨mem_of_ne (by simp) last, fun j less' => ?_, calls, published, launched⟩
    by_cases at_i : j = i
    · exact .inr ⟨_, rfl, Finset.mem_insert.mpr (.inl at_i)⟩
    · rcases chunks j less' with member | ⟨before', same, received⟩
      · refine .inl (mem_of_ne (fun same => at_i ?_) member)
        have := congrArg PcapChunk.chunkIndex (Event.pcapChunk.inj (Frame.mk.inj same).2)
        simpa [Source.chunk] using this
      · obtain rfl := Option.some.inj (current.symm.trans same)
        exact .inr ⟨_, rfl, Finset.mem_insert_of_mem received⟩

private theorem fits_completes (fits : Fits k source path v) {complete : PcapComplete} {after : List Frame}
    {xfer : Transfer} (here : v.queue = ⟨k, .pcapComplete complete⟩ :: after) (current : v.transfer = some xfer)
    (all : ∀ i ∈ List.range complete.totalChunks.toNat, i ∈ xfer.received) :
    Fits k source path
      { v with
        queue := after
        transfer := none
        finishing := v.finishing ++ [⟨xfer, .publishing⟩]
        calls := v.calls + 1 } := by
  have busy : v.Busy := .inl (by simp [here])
  have none_ := finishing_of_busy fits busy
  have order := fits.order
  rw [here] at order
  have sent : (⟨k, .pcapComplete complete⟩ : Frame) ∈ source.frames k := order.subset (by simp)
  obtain rfl := complete_of_mem sent
  -- The complete is the last frame, so that nothing of the upload is left behind it.
  obtain ⟨rfl, unsent⟩ := List.append_eq_nil_iff.mp (last_of_sublist order)
  obtain ⟨own, there, stored⟩ := fits.transfer xfer current
  have whole : v.files.data xfer.fh = source.bytes := by
    refine eq_of_agrees pcapChunkRawBytes_pos (fits.short (alive_of_busy busy) _ there) fun i less => ?_
    exact (stored i (all i (List.mem_range.mpr (by rw [complete_totalChunks]; exact less)))).2
  refine ⟨by simp [unsent], by simp, fun _ => fits.short (alive_of_busy busy), fun e member => ?_, fits.published,
    fits.launched, fun untroubled => ?_⟩
  · rw [none_, List.nil_append, List.mem_singleton] at member
    subst member
    exact ⟨⟨by simp [none_], rfl, unsent, rfl⟩, own, there, whole⟩
  · obtain ⟨last, chunks, calls, published, launched⟩ := uploading_of_busy fits busy untroubled
    exact .publishing xfer (by simp [none_]) (by simp [calls]) published launched

/-- The one transfer that is being finished. -/
private theorem finishing_split (fits : Fits k source path v) {before after : List Finishing} {e : Finishing}
    (here : v.finishing = before ++ e :: after) : before = [] ∧ after = [] := by
  have same := (fits.finishing e (by simp [here])).1.1
  rw [here] at same
  have := congrArg List.length same
  simp only [List.length_append, List.length_cons, List.length_nil] at this
  exact ⟨List.length_eq_zero_iff.mp (by omega), List.length_eq_zero_iff.mp (by omega)⟩

/-- An upload that is being finished has no frame before it. -/
private theorem not_uploading (fits : Fits k source path v) {before after : List Finishing} {e : Finishing}
    (here : v.finishing = before ++ e :: after) : ¬ Uploading k source v := by
  obtain ⟨⟨-, queue, unsent, -⟩, -⟩ := fits.finishing e (by simp [here])
  exact fun facts => by simpa [queue, unsent] using facts.last

private theorem fits_publishes (fits : Fits k source path v) {before after : List Finishing} {xfer : Transfer} {inode : Nat}
    (here : v.finishing = before ++ ⟨xfer, .publishing⟩ :: after) (there : v.files.partialFile = some inode) :
    Fits k source path
      { v with
        files := { v.files with partialFile := none, final := some inode }
        finishing := before ++ ⟨xfer, .checking⟩ :: after
        published := v.published ++ [⟨xfer.attempt, xfer.sessionId, xfer.path, v.files.data inode⟩] } := by
  obtain ⟨rfl, rfl⟩ := finishing_split fits here
  obtain ⟨⟨-, queue, unsent, transfer⟩, own, handle, whole⟩ := fits.finishing ⟨xfer, .publishing⟩ (by simp [here])
  obtain rfl := Option.some.inj (handle.symm.trans there)
  refine ⟨fits.order, by simp [transfer], by simp, fun e member => ?_, fun p member => ?_, fits.launched,
    fun untroubled => ?_⟩
  · obtain rfl := List.mem_singleton.mp member
    exact ⟨⟨rfl, queue, unsent, transfer⟩, own, xfer.fh, rfl, whole⟩
  · rcases List.mem_append.mp member with old | new
    · exact fits.published p old
    · obtain rfl := List.mem_singleton.mp new
      exact ⟨own.1, own.2.1, own.2.2, whole⟩
  · cases fits.stage untroubled with
    | uploading facts => exact absurd facts (not_uploading fits here)
    | publishing other finishing calls published launched =>
      exact .published _ rfl (by simp) calls (by simp [published]) launched
    | published e finishing phase =>
      rw [here] at finishing
      obtain rfl : _ = e := (List.cons.inj finishing).1
      exact absurd rfl phase
    | finished idle => exact absurd (.inr (.inr (.inr (by simp [here])))) idle

private theorem fits_checks (fits : Fits k source path v) {before after : List Finishing} {xfer : Transfer}
    {owner : Ownership} (here : v.finishing = before ++ ⟨xfer, .checking⟩ :: after) :
    Fits k source path { v with finishing := before ++ ⟨xfer, .resolved owner⟩ :: after } := by
  obtain ⟨rfl, rfl⟩ := finishing_split fits here
  obtain ⟨⟨-, queue, unsent, transfer⟩, own, closed⟩ := fits.finishing ⟨xfer, .checking⟩ (by simp [here])
  refine ⟨fits.order, fits.transfer, fun _ => fits.short (.inr (.inr (.inr (by simp [here])))), fun e member => ?_,
    fits.published, fits.launched, fun untroubled => ?_⟩
  · obtain rfl := List.mem_singleton.mp member
    exact ⟨⟨rfl, queue, unsent, transfer⟩, own, closed⟩
  · cases fits.stage untroubled with
    | uploading facts => exact absurd facts (not_uploading fits here)
    | publishing other finishing => simp [here] at finishing
    | published e finishing phase calls published launched => exact .published _ rfl (by simp) calls published launched
    | finished idle => exact absurd (.inr (.inr (.inr (by simp [here])))) idle

/-- The handler of the `pcap_complete` ends. -/
private theorem fits_ends (fits : Fits k source path v) {before after : List Finishing} {e : Finishing}
    (here : v.finishing = before ++ e :: after) {w : Progress} (queue : w.queue = v.queue) (unsent : w.unsent = v.unsent)
    (transfer : w.transfer = v.transfer) (finishing : w.finishing = before ++ after) (published : w.published = v.published)
    (launched : ∀ l ∈ w.launched, l ∈ v.launched ∨ l.attempt = k ∧ l.sessionId = source.sessionId ∧
      path = some l.path ∧ l.bytes = some source.bytes)
    (stage : ¬ w.Alive → w.troubled = false → Stage k source w) : Fits k source path w := by
  obtain ⟨rfl, rfl⟩ := finishing_split fits here
  obtain ⟨⟨-, queue', unsent', transfer'⟩, -⟩ := fits.finishing e (by simp [here])
  rw [queue'] at queue
  rw [unsent'] at unsent
  rw [transfer'] at transfer
  have idle : ¬ w.Alive := by simp [Progress.Alive, queue, unsent, transfer, finishing]
  refine ⟨by simp [queue, unsent], by simp [transfer], fun alive => absurd alive idle, by simp [finishing],
    by rw [published]; exact fits.published, fun l member => ?_, stage idle⟩
  rcases launched l member with old | new
  · exact fits.launched l old
  · exact new

private theorem fits_dismisses (fits : Fits k source path v) {before after : List Finishing} {xfer : Transfer}
    (here : v.finishing = before ++ ⟨xfer, .checking⟩ :: after) :
    Fits k source path { v with finishing := before ++ after, unscanned := true } := by
  refine fits_ends fits here rfl rfl rfl rfl rfl (fun l member => .inl member) fun idle untroubled => ?_
  cases fits.stage untroubled with
  | uploading facts => exact absurd facts (not_uploading fits here)
  | publishing other finishing =>
    obtain ⟨rfl, rfl⟩ := finishing_split fits here
    simp [here] at finishing
  | published e finishing phase calls published launched => exact .finished idle calls published (.inr ⟨launched, rfl⟩)
  | finished quiet => exact absurd (.inr (.inr (.inr (by simp [here])))) quiet

private theorem fits_launches (fits : Fits k source path v) {before after : List Finishing} {xfer : Transfer}
    {owner : Ownership} (here : v.finishing = before ++ ⟨xfer, .resolved owner⟩ :: after) :
    Fits k source path
      { v with
        finishing := before ++ after
        launched := v.launched ++ [⟨xfer.attempt, xfer.sessionId, xfer.path, v.files.final.map v.files.data⟩] } := by
  obtain ⟨-, own, inode, final, whole⟩ := fits.finishing ⟨xfer, .resolved owner⟩ (by simp [here])
  refine fits_ends fits here rfl rfl rfl rfl rfl (fun l member => ?_) fun idle untroubled => ?_
  · rcases List.mem_append.mp member with old | new
    · exact .inl old
    · obtain rfl := List.mem_singleton.mp new
      exact .inr ⟨own.1, own.2.1, own.2.2, by simp [final, whole]⟩
  · cases fits.stage untroubled with
    | uploading facts => exact absurd facts (not_uploading fits here)
    | publishing other finishing =>
      obtain ⟨rfl, rfl⟩ := finishing_split fits here
      simp [here] at finishing
    | published e finishing phase calls published launched =>
      exact .finished idle calls published (.inl (by simp [launched]))
    | finished quiet => exact absurd (.inr (.inr (.inr (by simp [here])))) quiet

private theorem fits_drops (fits : Fits k source path v) {rest : List Frame} (left : rest.Sublist v.queue) :
    Fits k source path { v with queue := rest, transfer := none, troubled := true } := by
  refine ⟨(left.append_right v.unsent).trans fits.order, by simp, fun alive inode there => ?_, fun e member => ?_,
    fits.published, fits.launched, by simp⟩
  · refine fits.short ?_ inode there
    rcases alive with queue | unsent | transfer | finishing
    · exact .inl fun none_ => queue (List.sublist_nil.mp (none_ ▸ left))
    · exact .inr (.inl unsent)
    · simp at transfer
    · exact .inr (.inr (.inr finishing))
  · obtain ⟨⟨alone, queue, unsent, -⟩, own, closed⟩ := fits.finishing e member
    exact ⟨⟨alone, List.sublist_nil.mp (queue ▸ left), unsent, rfl⟩, own, closed⟩

theorem fits_moves {w : Progress} (fits : Fits k source path v) (moves : Moves k source path v w) :
    Fits k source path w := by
  cases moves with
  | sends frame rest next => exact fits_sends fits next
  | losesSent frame rest next =>
    exact fits_troubled fits (.inr (.inl (by simp [next]))) (by simp [next]) (.inl rfl) rfl (.inl rfl) rfl rfl rfl
  | gives busy => exact fits_troubled fits (.inr (.inl busy)) (by simp) (.inl rfl) rfl (.inl rfl) rfl rfl rfl
  | refuses before frame after here =>
    exact fits_troubled fits (.inl (by simp [here])) (by simp [here]) (.inl rfl) rfl (.inl rfl) rfl rfl rfl
  | aborts xfer current =>
    exact fits_troubled fits (.inr (.inr (by simp [current]))) (List.Sublist.refl _) (.inr rfl) rfl (.inr ⟨rfl, rfl⟩)
      rfl rfl rfl
  | opens xfer busy none_ goes own session fresh handle => exact fits_opens fits busy none_ goes own session fresh handle
  | stores before chunk after xfer bytes here current decoded => exact fits_stores fits here current decoded
  | completes complete after xfer here current all => exact fits_completes fits here current all
  | publishes before xfer after inode here there => exact fits_publishes fits here there
  | fails before xfer after here =>
    exact fits_ends fits here rfl rfl rfl rfl rfl (fun l member => .inl member) fun _ untroubled => by simp at untroubled
  | checks before xfer after owner here => exact fits_checks fits here
  | dismisses before xfer after here => exact fits_dismisses fits here
  | launches before xfer owner after here => exact fits_launches fits here
  | drops rest left => exact fits_drops fits left

/-- An upload that has ended stays ended. -/
theorem alive_moves {w : Progress} (moves : Moves k source path v w) (alive : w.Alive) : v.Alive := by
  cases moves with
  | sends frame rest next => exact .inr (.inl (by simp [next]))
  | losesSent frame rest next => exact .inr (.inl (by simp [next]))
  | gives busy => exact .inr (.inl busy)
  | refuses before frame after here => exact .inl (by simp [here])
  | aborts xfer current => exact .inr (.inr (.inl (by simp [current])))
  | opens xfer busy => exact .inl busy
  | stores before chunk after xfer bytes here => exact .inl (by simp [here])
  | completes complete after xfer here => exact .inl (by simp [here])
  | publishes before xfer after inode here => exact .inr (.inr (.inr (by simp [here])))
  | fails before xfer after here => exact .inr (.inr (.inr (by simp [here])))
  | checks before xfer after owner here => exact .inr (.inr (.inr (by simp [here])))
  | dismisses before xfer after here => exact .inr (.inr (.inr (by simp [here])))
  | launches before xfer owner after here => exact .inr (.inr (.inr (by simp [here])))
  | drops rest left =>
    rcases alive with queue | unsent | transfer | finishing
    · exact .inl fun none_ => queue (List.sublist_nil.mp (none_ ▸ left))
    · exact .inr (.inl unsent)
    · simp at transfer
    · exact .inr (.inr (.inr finishing))

end Marlinspike.Gateway.Upload
