import Marlinspike.Dissect.Header
import Marlinspike.Dissect.Reader

/-!
Captures as they are written: a classic one is a header and records, a block capture a
section header and blocks. Both readers walk them record by record and block by block.
-/
namespace Marlinspike.Dissect.Files
open Marlinspike.Struct
open Marlinspike.Dissect.Header
open Marlinspike.Dissect.Reader

/-! ### Classic captures -/

/-- A packet record, its data complete. -/
structure Record where
  tsSec : UInt32
  tsSubsec : UInt32
  origLen : UInt32
  data : Bytes
  fits : data.length < 2 ^ 32

structure Pcap where
  endian : Endian
  nanoseconds : Bool
  versionMajor : UInt16
  versionMinor : UInt16
  thiszone : UInt32
  sigfigs : UInt32
  snaplen : UInt32
  network : UInt32
  records : List Record

def Record.encode (endian : Endian) (r : Record) : Bytes :=
  pack endian 4 r.tsSec.toNat ++ (pack endian 4 r.tsSubsec.toNat ++
    (pack endian 4 r.data.length ++ (pack endian 4 r.origLen.toNat ++ r.data)))

def Pcap.magic (file : Pcap) : Nat := if file.nanoseconds then pcapMagicLeNs else pcapMagicLeUs

def Pcap.tsDivisor (file : Pcap) : Nat := if file.nanoseconds then 1000000000 else 1000000

def Pcap.encode (file : Pcap) : Bytes :=
  pack file.endian 4 file.magic ++ (pack file.endian 2 file.versionMajor.toNat ++
    (pack file.endian 2 file.versionMinor.toNat ++ (pack file.endian 4 file.thiszone.toNat ++
    (pack file.endian 4 file.sigfigs.toNat ++ (pack file.endian 4 file.snaplen.toNat ++
    (pack file.endian 4 file.network.toNat ++ file.records.flatMap (Record.encode file.endian)))))))

/-- The time of a record. -/
def Record.ts (divisor : Nat) (r : Record) : Rat := (r.tsSec.toNat : Rat) + r.tsSubsec.toNat / divisor

/-! ### Block captures -/

/-- A block, its body complete and padded, whatever its type makes of it. -/
structure Block where
  blockType : UInt32
  body : Bytes
  aligned : body.length % 4 = 0
  fits : body.length + 12 < 2 ^ 32

/-- A capture of one section; `header` is the body of its header after the byte-order magic. -/
structure Pcapng where
  endian : Endian
  header : Bytes
  versioned : 12 ≤ header.length
  aligned : header.length % 4 = 0
  fits : header.length + 16 < 2 ^ 32
  blocks : List Block

def Block.encode (endian : Endian) (b : Block) : Bytes :=
  pack endian 4 b.blockType.toNat ++ (pack endian 4 (b.body.length + 12) ++
    (b.body ++ pack endian 4 (b.body.length + 12)))

/-- The length of the section header. -/
def Pcapng.sectionLength (file : Pcapng) : Nat := file.header.length + 16

def Pcapng.encode (file : Pcapng) : Bytes :=
  pack file.endian 4 blockShb ++ (pack file.endian 4 file.sectionLength ++ (pack file.endian 4 shbBomLe ++
    (file.header ++ (pack file.endian 4 file.sectionLength ++ file.blocks.flatMap (Block.encode file.endian)))))

/-! ### Records, one by one -/

theorem uint32_fits (n : UInt32) : n.toNat < 256 ^ 4 := n.toNat_lt

section Records
variable {endian : Endian} {rest : Bytes}

variable (endian rest) in
theorem record_fields (r : Record) :
    uintAt endian (r.encode endian ++ rest) 0 4 = r.tsSec.toNat ∧
    uintAt endian (r.encode endian ++ rest) 4 4 = r.tsSubsec.toNat ∧
    uintAt endian (r.encode endian ++ rest) 8 4 = r.data.length ∧
    (r.encode endian ++ rest).drop 16 = r.data ++ rest := by
  have fits : r.data.length < 256 ^ 4 := r.fits
  simp only [Record.encode, List.append_assoc]
  refine ⟨uintAt_pack (uint32_fits _), ?_, ?_, ?_⟩
  · rw [uintAt_after (by omega)]
    exact uintAt_pack (uint32_fits _)
  · rw [uintAt_after (by omega), uintAt_after (by omega)]
    exact uintAt_pack fits
  · rw [drop_after (by omega), drop_after (by omega), drop_after (by omega), drop_after (by omega)]
    rfl

theorem length_record (r : Record) : (r.encode endian).length = 16 + r.data.length := by
  simp [Record.encode]
  omega

/-! The header reader over the records of a file. -/

theorem readRecords_cons {divisor snaplen : Nat} {seen : Seen} (r : Record) :
    readRecords endian divisor snaplen (r.encode endian ++ rest) seen =
      if Absurd snaplen r.data.length then .error (.absurdLength r.data.length)
      else readRecords endian divisor snaplen rest (seen.packet (r.ts divisor)) := by
  obtain ⟨tsSec, tsSubsec, inclLen, after⟩ := record_fields endian rest r
  rw [readRecords, if_neg (by rw [List.length_append, length_record]; omega)]
  simp only [tsSec, tsSubsec, inclLen, ← List.drop_drop, after, List.drop_left, Record.ts]

theorem recordPackets_cons {divisor : Nat} (r : Record) :
    recordPackets endian divisor (r.encode endian ++ rest) =
      if r.data.length = 0 ∨ 65535 < r.data.length then recordPackets endian divisor rest
      else (r.data, r.ts divisor) :: recordPackets endian divisor rest := by
  obtain ⟨tsSec, tsSubsec, inclLen, after⟩ := record_fields endian rest r
  rw [recordPackets, if_neg (by rw [List.length_append, length_record]; omega)]
  simp only [tsSec, tsSubsec, inclLen, ← List.drop_drop, after, List.drop_left, List.take_left, Record.ts,
    Nat.lt_irrefl, if_false]

/-- A record that the packet reader takes. -/
def Record.Taken (r : Record) : Prop := 1 ≤ r.data.length ∧ r.data.length ≤ 65535

instance (r : Record) : Decidable r.Taken := inferInstanceAs (Decidable (_ ∧ _))

theorem recordPackets_records (divisor : Nat) (records : List Record) :
    recordPackets endian divisor (records.flatMap (Record.encode endian)) =
      (records.filter (Record.Taken ·)).map fun r => (r.data, r.ts divisor) := by
  induction records with
  | nil => rw [List.flatMap_nil, recordPackets]; rfl
  | cons r records ih =>
    rw [List.flatMap_cons, recordPackets_cons, ih, List.filter_cons]
    by_cases taken : r.Taken
    · obtain ⟨some_, short⟩ := taken
      rw [if_neg (by omega), if_pos (decide_eq_true (show r.Taken from ⟨some_, short⟩)), List.map_cons]
    · rw [if_pos (by unfold Record.Taken at taken; omega), if_neg (by simpa using taken)]

variable (endian) in
/-- The header reader takes every record, or gives up. -/
theorem readRecords_records (divisor snaplen : Nat) (records : List Record) (seen : Seen) :
    readRecords endian divisor snaplen (records.flatMap (Record.encode endian)) seen =
        .ok ((records.map (Record.ts divisor)).foldl Seen.packet seen) ∨
      ∃ r ∈ records, Absurd snaplen r.data.length ∧
        readRecords endian divisor snaplen (records.flatMap (Record.encode endian)) seen =
          .error (.absurdLength r.data.length) := by
  induction records generalizing seen with
  | nil => rw [List.flatMap_nil, readRecords]; exact .inl rfl
  | cons r records ih =>
    rw [List.flatMap_cons, readRecords_cons]
    by_cases absurd_ : Absurd snaplen r.data.length
    · rw [if_pos absurd_]
      exact .inr ⟨r, List.mem_cons_self, absurd_, rfl⟩
    · rw [if_neg absurd_]
      rcases ih (seen.packet (r.ts divisor)) with read | ⟨other, member, failed⟩
      · exact .inl read
      · exact .inr ⟨other, List.mem_cons_of_mem _ member, failed⟩

end Records

/-! ### Blocks, one by one -/

section Blocks
variable {endian : Endian} {rest : Bytes}

variable (endian rest) in
theorem block_fields (b : Block) :
    uintAt endian (b.encode endian ++ rest) 0 4 = b.blockType.toNat ∧
    uintAt endian (b.encode endian ++ rest) 4 4 = b.body.length + 12 ∧
    (b.encode endian ++ rest).drop 8 = b.body ++ (pack endian 4 (b.body.length + 12) ++ rest) := by
  have fits : b.body.length + 12 < 256 ^ 4 := b.fits
  simp only [Block.encode, List.append_assoc]
  refine ⟨uintAt_pack (uint32_fits _), ?_, ?_⟩
  · rw [uintAt_after (by omega)]
    exact uintAt_pack fits
  · rw [drop_after (by omega), drop_after (by omega)]
    rfl

theorem length_block (b : Block) : (b.encode endian).length = b.body.length + 12 := by
  simp [Block.encode]
  omega

theorem readLength_le (blockType bodyLen : Nat) : readLength blockType bodyLen ≤ bodyLen := by
  unfold readLength
  split_ifs
  · exact min_le_left _ _
  · exact min_le_left _ _
  · exact min_le_left _ _
  · exact Nat.zero_le _

/-- What the header reader makes of a block. -/
def inspectBlock (endian : Endian) (s : Section) (b : Block) : Except SummaryError Section :=
  inspect endian b.blockType.toNat (b.body.take (readLength b.blockType.toNat b.body.length)) s

theorem readBlocks_cons (b : Block) (s : Section) :
    readBlocks endian (b.encode endian ++ rest) s =
      match inspectBlock endian s b with
      | .error error => .error error
      | .ok s => readBlocks endian rest s := by
  obtain ⟨type, length, after⟩ := block_fields endian rest b
  have aligned := b.aligned
  have bounded := readLength_le b.blockType.toNat b.body.length
  have body : ((b.encode endian ++ rest).drop 8).take (readLength b.blockType.toNat b.body.length) =
      b.body.take (readLength b.blockType.toNat b.body.length) := by
    rw [after, List.take_append_of_le_length bounded]
  have trailing : (b.encode endian ++ rest).drop (8 + b.body.length) = pack endian 4 (b.body.length + 12) ++ rest := by
    rw [← List.drop_drop, after, List.drop_left]
  rw [readBlocks, if_neg (by rw [List.length_append, length_block]; omega)]
  simp only [type, length, Nat.add_sub_cancel]
  rw [if_neg (by omega), body, if_neg (by rw [List.length_take]; omega), trailing, if_neg (by simp),
    ← List.drop_drop, trailing, drop_after (le_refl 4)]
  rfl

theorem blocksFrom_cons (b : Block) : blocksFrom endian (b.encode endian ++ rest) =
    (b.blockType.toNat, b.body) :: blocksFrom endian rest := by
  obtain ⟨type, length, after⟩ := block_fields endian rest b
  have aligned := b.aligned
  rw [blocksFrom, if_neg (by rw [List.length_append, length_block]; omega)]
  simp only [type, length, Nat.add_sub_cancel]
  rw [if_neg (by omega), after, List.take_left, if_neg (by omega), Nat.add_assoc, ← List.drop_drop, after,
    ← List.drop_drop, List.drop_left, drop_after (le_refl 4)]
  rfl

theorem blocksFrom_blocks (blocks : List Block) : blocksFrom endian (blocks.flatMap (Block.encode endian)) =
    blocks.map fun b => (b.blockType.toNat, b.body) := by
  induction blocks with
  | nil => rw [List.flatMap_nil, blocksFrom]; rfl
  | cons b blocks ih => rw [List.flatMap_cons, blocksFrom_cons, ih, List.map_cons]

theorem readBlocks_blocks (blocks : List Block) (s : Section) :
    readBlocks endian (blocks.flatMap (Block.encode endian)) s = blocks.foldlM (inspectBlock endian) s := by
  induction blocks generalizing s with
  | nil => rw [List.flatMap_nil, readBlocks]; rfl
  | cons b blocks ih =>
    rw [List.flatMap_cons, readBlocks_cons, List.foldlM_cons]
    cases inspectBlock endian s b with
    | error error => rfl
    | ok s => exact ih s

end Blocks

end Marlinspike.Dissect.Files
