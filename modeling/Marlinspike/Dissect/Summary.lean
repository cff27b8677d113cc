import Marlinspike.Dissect.Agreement

/-!
The summary of a well-formed capture. For a classic one it is right unless a record is so
long that it is taken for a corruption; for one of blocks, unless there are packets in
obsolete blocks or a resolution stands beyond the first 4096 bytes of its interface's block
(`summary_iff`).
-/
namespace Marlinspike.Dissect.Summary
open Marlinspike.Struct
open Marlinspike.Dissect.Header
open Marlinspike.Dissect.Files
open Marlinspike.Dissect.Agreement

/-! ### Well-formed blocks -/

/-- An option other than the end of the options. -/
structure BlockOption where
  code : UInt16
  value : Bytes
  padding : Bytes
  going : code ≠ 0
  fits : value.length < 2 ^ 16
  aligned : (value.length + padding.length) % 4 = 0
  short : padding.length < 4

/-- `if_tsresol`. -/
def BlockOption.IsResolution (o : BlockOption) : Prop := o.code = 9

instance (o : BlockOption) : Decidable o.IsResolution := inferInstanceAs (Decidable (_ = _))

def BlockOption.encode (endian : Endian) (o : BlockOption) : Bytes :=
  pack endian 2 o.code.toNat ++ (pack endian 2 o.value.length ++ (o.value ++ o.padding))

/-- An interface, of which at most one option gives the resolution, in one byte. -/
structure InterfaceDescription where
  linktype : UInt16
  reserved : UInt16
  snaplen : UInt32
  options : List BlockOption
  /-- Whether the end of the options is written. -/
  ended : Bool
  once : (options.filter (·.IsResolution)).length ≤ 1
  single : ∀ o ∈ options, o.IsResolution → o.value.length = 1

def encodeOptions (endian : Endian) (options : List BlockOption) (ended : Bool) : Bytes :=
  options.flatMap (BlockOption.encode endian) ++ if ended then [0, 0, 0, 0] else []

/-- A packet with a time; `rest` is its data, padded, and its options. -/
structure EnhancedPacket where
  interfaceId : UInt32
  tsHigh : UInt32
  tsLow : UInt32
  capturedLen : UInt32
  origLen : UInt32
  rest : Bytes
  holds : capturedLen.toNat ≤ rest.length

structure ObsoletePacket where
  interfaceId : UInt16
  drops : UInt16
  tsHigh : UInt32
  tsLow : UInt32
  capturedLen : UInt32
  packetLen : UInt32
  rest : Bytes
  holds : capturedLen.toNat ≤ rest.length

/-- A packet without a time. -/
structure SimplePacket where
  origLen : UInt32
  rest : Bytes

structure UnknownBlock where
  blockType : UInt32
  body : Bytes
  unknown : blockType.toNat ∉ [blockShb, blockIdb, blockEpb, blockSpb, blockPb]

inductive Content where
  | interface (i : InterfaceDescription)
  | enhanced (p : EnhancedPacket)
  | obsolete (p : ObsoletePacket)
  | simple (p : SimplePacket)
  | unknown (b : UnknownBlock)

def Content.blockType : Content → UInt32
  | .interface _ => 1
  | .enhanced _ => 6
  | .obsolete _ => 2
  | .simple _ => 3
  | .unknown b => b.blockType

def Content.body (endian : Endian) : Content → Bytes
  | .interface i =>
    pack endian 2 i.linktype.toNat ++ (pack endian 2 i.reserved.toNat ++ (pack endian 4 i.snaplen.toNat ++
      encodeOptions endian i.options i.ended))
  | .enhanced p =>
    pack endian 4 p.interfaceId.toNat ++ (pack endian 4 p.tsHigh.toNat ++ (pack endian 4 p.tsLow.toNat ++
      (pack endian 4 p.capturedLen.toNat ++ (pack endian 4 p.origLen.toNat ++ p.rest))))
  | .obsolete p =>
    pack endian 2 p.interfaceId.toNat ++ (pack endian 2 p.drops.toNat ++ (pack endian 4 p.tsHigh.toNat ++
      (pack endian 4 p.tsLow.toNat ++ (pack endian 4 p.capturedLen.toNat ++ (pack endian 4 p.packetLen.toNat ++ p.rest)))))
  | .simple p => pack endian 4 p.origLen.toNat ++ p.rest
  | .unknown b => b.body

/-- A block that can be written: padded, and not too long for its length. -/
structure WrittenBlock (endian : Endian) where
  content : Content
  aligned : (content.body endian).length % 4 = 0
  fits : (content.body endian).length + 12 < 2 ^ 32

def WrittenBlock.toBlock {endian : Endian} (b : WrittenBlock endian) : Block :=
  ⟨b.content.blockType, b.content.body endian, b.aligned, b.fits⟩

/-- Every packet is of an interface that has been described before it. -/
def Described (interfaces : Nat) : List Content → Prop
  | [] => True
  | .interface _ :: rest => Described (interfaces + 1) rest
  | .enhanced p :: rest => p.interfaceId.toNat < interfaces ∧ Described interfaces rest
  | .obsolete p :: rest => p.interfaceId.toNat < interfaces ∧ Described interfaces rest
  | .simple _ :: rest => 0 < interfaces ∧ Described interfaces rest
  | .unknown _ :: rest => Described interfaces rest

/-- A capture of one section, its blocks well formed. -/
structure SectionFile where
  endian : Endian
  header : Bytes
  versioned : 12 ≤ header.length
  aligned : header.length % 4 = 0
  fits : header.length + 16 < 2 ^ 32
  blocks : List (WrittenBlock endian)
  described : Described 0 (blocks.map (·.content))

def SectionFile.contents (file : SectionFile) : List Content := file.blocks.map (·.content)

def SectionFile.toPcapng (file : SectionFile) : Pcapng :=
  ⟨file.endian, file.header, file.versioned, file.aligned, file.fits, file.blocks.map WrittenBlock.toBlock⟩

def SectionFile.encode (file : SectionFile) : Bytes := file.toPcapng.encode

/-! ### What a summary should say -/

/-- The units of a second that `if_tsresol` stands for: a power of ten, or of two from 128 on. -/
def unitsPerSecond (tsresol : UInt8) : Nat :=
  if tsresol.toNat < 128 then 10 ^ tsresol.toNat else 2 ^ (tsresol.toNat - 128)

/-- The resolution of an interface; microseconds if it gives none. -/
def InterfaceDescription.resolution (i : InterfaceDescription) : Nat :=
  match i.options.find? (·.IsResolution) with
  | some o => unitsPerSecond (o.value.headD 6)
  | none => 1000000

def interfaces (contents : List Content) : List InterfaceDescription :=
  contents.filterMap fun
    | .interface i => some i
    | _ => none

/-- A packet record, of whichever kind. -/
def Content.isPacket : Content → Bool
  | .enhanced _ | .obsolete _ | .simple _ => true
  | _ => false

def units (high low : UInt32) : Nat := high.toNat * 2 ^ 32 + low.toNat

/-- The packets with times, in units, each with its interface. -/
def timed (described : List InterfaceDescription) : List Content → List (Nat × InterfaceDescription)
  | [] => []
  | .interface i :: rest => timed (described ++ [i]) rest
  | .enhanced p :: rest =>
    ((described[p.interfaceId.toNat]?).map fun i => (units p.tsHigh p.tsLow, i)).toList ++ timed described rest
  | .obsolete p :: rest =>
    ((described[p.interfaceId.toNat]?).map fun i => (units p.tsHigh p.tsLow, i)).toList ++ timed described rest
  | _ :: rest => timed described rest

/-- A time in seconds. -/
def seconds (item : Nat × InterfaceDescription) : Rat := (item.1 : Rat) / item.2.resolution

/-- A well-formed capture. -/
inductive Capture where
  | pcap (file : Pcap)
  | pcapng (file : SectionFile)

def Capture.encode : Capture → Bytes
  | .pcap file => file.encode
  | .pcapng file => file.encode

/-- The packets, the first and the last time, the link type and the snapshot length. -/
structure Facts where
  packetCount : Nat
  startTs : Option Rat
  endTs : Option Rat
  linkType : String
  snaplen : Nat
deriving DecidableEq

def Capture.facts : Capture → Facts
  | .pcap file =>
    let times := file.records.map (Record.ts file.tsDivisor)
    ⟨file.records.length, times.head?, times.getLast?, linktypeName file.network.toNat, file.snaplen.toNat⟩
  | .pcapng file =>
    let times := (timed [] file.contents).map seconds
    ⟨file.contents.countP Content.isPacket, times.head?, times.getLast?,
      ((interfaces file.contents).head?.map fun i => linktypeName i.linktype.toNat).getD "Unknown",
      ((interfaces file.contents).map fun i => i.snaplen.toNat).foldl max 0⟩

def CaptureSummary.facts (summary : CaptureSummary) : Facts :=
  ⟨summary.packetCount, summary.startTs, summary.endTs, summary.linkType, summary.snaplen⟩

/-- The capture is read, and the summary says what it should. -/
def Summarized (file : Capture) : Prop :=
  ∃ summary, readCaptureSummary file.encode = .ok summary ∧ CaptureSummary.facts summary = file.facts

/-! ### The walk over the options -/

/-- The bytes that an option takes. -/
def BlockOption.size (o : BlockOption) : Nat := 4 + (o.value.length + o.padding.length)

/-- Where the resolution stands, if there is one among the options from a position on. -/
def resolutionPos (pos : Nat) : List BlockOption → Option Nat
  | [] => none
  | o :: rest => if o.IsResolution then some (pos + 4) else resolutionPos (pos + o.size) rest

/-- Where it stands in the body of the block. -/
def InterfaceDescription.resolutionPos (i : InterfaceDescription) : Option Nat := Summary.resolutionPos 8 i.options

/-- The resolution, if there is one, is among the bytes that are inspected. -/
def InterfaceDescription.Within (i : InterfaceDescription) : Prop := ∀ pos ∈ i.resolutionPos, pos < 4096

instance (i : InterfaceDescription) : Decidable i.Within :=
  inferInstanceAs (Decidable (∀ pos ∈ i.resolutionPos, pos < 4096))

/-- The resolution that the reader has for an interface. -/
def InterfaceDescription.readResolution (i : InterfaceDescription) : Nat := if i.Within then i.resolution else 1000000

theorem tsresolDivisor_eq (tsresol : UInt8) : tsresolDivisor tsresol = unitsPerSecond tsresol := by
  have bits : ∀ n : Fin 256, (UInt8.ofNat n &&& 0x80 = 0 ↔ n.val < 128) ∧
      (128 ≤ n.val → (UInt8.ofNat n &&& 0x7F).toNat = n.val - 128) := by decide +kernel
  obtain ⟨high, low⟩ := bits ⟨tsresol.toNat, tsresol.toNat_lt⟩
  rw [UInt8.ofNat_toNat] at high low
  unfold tsresolDivisor unitsPerSecond
  by_cases ten : tsresol.toNat < 128
  · rw [if_neg (not_not.mpr (high.mpr ten)), if_pos ten]
  · rw [if_pos fun none_ => ten (high.mp none_), if_neg ten, low (not_lt.mp ten)]

theorem length_option (endian : Endian) (o : BlockOption) : (o.encode endian).length = o.size := by
  simp [BlockOption.encode, BlockOption.size]
  omega

/-- The walk over written options, of which 4096 bytes of the body are inspected. -/
def scanWritten (pos resolution : Nat) : List BlockOption → Except SummaryError Nat
  | [] => .ok resolution
  | o :: rest =>
    if 4096 < pos + 4 then .ok resolution
    else if o.IsResolution ∧ 1 ≤ o.value.length then
      if pos + 4 = 4096 then .error .optionIndex
      else scanWritten (pos + o.size) (unitsPerSecond (o.value.headD 6)) rest
    else scanWritten (pos + o.size) resolution rest

section Options
variable (endian : Endian)

theorem option_fields (first : Bytes) (o : BlockOption) (rest : Bytes) :
    uintAt endian (first ++ (o.encode endian ++ rest)) first.length 2 = o.code.toNat ∧
    uintAt endian (first ++ (o.encode endian ++ rest)) (first.length + 2) 2 = o.value.length := by
  have fits : o.value.length < 256 ^ 2 := o.fits
  rw [uintAt_append first (le_refl _), uintAt_append first (by omega), Nat.sub_self, Nat.add_sub_cancel_left]
  simp only [BlockOption.encode, List.append_assoc]
  refine ⟨uintAt_pack o.code.toNat_lt, ?_⟩
  rw [uintAt_after (le_refl 2)]
  exact uintAt_pack fits

/-- The byte after an option's header. -/
theorem option_value (first : Bytes) (o : BlockOption) (rest : Bytes) (some_ : 1 ≤ o.value.length) :
    (first ++ (o.encode endian ++ rest))[first.length + 4]? = some (o.value.headD 6) := by
  obtain ⟨b, value, split⟩ := List.exists_cons_of_length_pos some_
  have front : (o.encode endian).drop 4 = o.value ++ o.padding := by
    rw [BlockOption.encode, drop_after (by omega), drop_after (by omega)]
    rfl
  have inside : 4 < (o.encode endian).length := by
    rw [length_option, BlockOption.size]
    omega
  have head := congrArg List.head? front
  rw [List.head?_drop, split] at head
  rw [List.getElem?_append_right (by omega), Nat.add_sub_cancel_left, List.getElem?_append_left inside, head, split]
  rfl

theorem scanOptions_written (first : Bytes) (options : List BlockOption) (ended : Bool) (resolution : Nat) :
    scanOptions endian ((first ++ encodeOptions endian options ended).take 4096) first.length resolution =
      scanWritten first.length resolution options := by
  induction options generalizing first resolution with
  | nil =>
    rw [scanWritten, scanOptions]
    by_cases inside : first.length + 4 ≤ ((first ++ encodeOptions endian [] ended).take 4096).length
    · rw [if_pos inside]
      cases ended with
      | false =>
        simp [encodeOptions] at inside
      | true =>
        have within : first.length + 2 ≤ 4096 := by
          rw [List.length_take] at inside
          omega
        have zero : uintAt endian ((first ++ encodeOptions endian [] true).take 4096) first.length 2 = 0 := by
          rw [uintAt_take within, uintAt_append first (le_refl _), Nat.sub_self]
          cases endian <;> rfl
        simp only [zero, if_true]
    · rw [if_neg inside]
  | cons o rest ih =>
    have split : first ++ encodeOptions endian (o :: rest) ended =
        first ++ (o.encode endian ++ encodeOptions endian rest ended) := by
      simp [encodeOptions]
    have long : first.length + 4 ≤ (first ++ encodeOptions endian (o :: rest) ended).length := by
      rw [split, List.length_append, List.length_append, length_option, BlockOption.size]
      omega
    rw [scanWritten, scanOptions]
    by_cases beyond : 4096 < first.length + 4
    · rw [if_pos beyond, if_neg (by rw [List.length_take]; omega)]
    have after (resolution : Nat) := ih (first ++ o.encode endian) resolution
    rw [List.append_assoc, List.length_append, length_option, ← split] at after
    obtain ⟨code, length⟩ := option_fields endian first o (encodeOptions endian rest ended)
    have next : first.length + 4 + (o.value.length + 3) / 4 * 4 = first.length + o.size := by
      have := o.aligned
      have := o.short
      unfold BlockOption.size
      omega
    have going : o.code.toNat ≠ 0 := fun zero => o.going (UInt16.toNat_inj.mp zero)
    have isResolution : o.code.toNat = 9 ↔ o.IsResolution := UInt16.toNat_inj (b := 9)
    rw [if_neg beyond, if_pos (by rw [List.length_take]; omega)]
    simp only [uintAt_take (show first.length + 2 ≤ 4096 by omega), uintAt_take (show first.length + 2 + 2 ≤ 4096 by omega)]
    rw [split] at after ⊢
    simp only [code, length, going, if_false, next, after, isResolution]
    by_cases resolves : o.IsResolution ∧ 1 ≤ o.value.length
    · rw [if_pos resolves, if_pos resolves]
      by_cases torn : first.length + 4 = 4096
      · rw [if_pos torn, List.getElem?_eq_none (by rw [List.length_take]; omega)]
      · rw [if_neg torn, List.getElem?_take_of_lt (by omega), option_value endian first o _ resolves.2]
        simp only [tsresolDivisor_eq]
    · rw [if_neg resolves, if_neg resolves]

end Options

theorem resolutionPos_ge {options : List BlockOption} {pos found : Nat} (member : found ∈ resolutionPos pos options) :
    pos + 4 ≤ found := by
  induction options generalizing pos with
  | nil => cases member
  | cons o rest ih =>
    unfold resolutionPos at member
    split_ifs at member
    · exact (Option.some.inj member).le
    · have later := ih member
      unfold BlockOption.size at later
      omega

theorem no_resolution {options : List BlockOption} {pos : Nat} (none_ : resolutionPos pos options = none) :
    ∀ o ∈ options, ¬o.IsResolution := by
  induction options generalizing pos with
  | nil => simp
  | cons o rest ih =>
    unfold resolutionPos at none_
    split_ifs at none_ with resolves
    intro other member
    rcases List.mem_cons.mp member with rfl | later
    · exact resolves
    · exact ih none_ other later

theorem scanWritten_of_none {options : List BlockOption} (none_ : ∀ o ∈ options, ¬o.IsResolution) (pos resolution : Nat) :
    scanWritten pos resolution options = .ok resolution := by
  induction options generalizing pos with
  | nil => rfl
  | cons o rest ih =>
    have plain : ¬(o.IsResolution ∧ 1 ≤ o.value.length) := fun resolves => none_ o List.mem_cons_self resolves.1
    rw [scanWritten, if_neg plain, ih fun other member => none_ other (List.mem_cons_of_mem _ member), ite_self]

/-- With one resolution at most, the walk gives it if it is inspected, and fails if it is next to
    what is. -/
theorem scanWritten_eq {options : List BlockOption} (once : (options.filter (·.IsResolution)).length ≤ 1)
    (single : ∀ o ∈ options, o.IsResolution → o.value.length = 1) (pos : Nat) :
    scanWritten pos 1000000 options =
      if resolutionPos pos options = some 4096 then .error .optionIndex
      else .ok (if ∀ found ∈ resolutionPos pos options, found < 4096 then
        match options.find? (·.IsResolution) with
        | some o => unitsPerSecond (o.value.headD 6)
        | none => 1000000
      else 1000000) := by
  induction options generalizing pos with
  | nil => rfl
  | cons o rest ih =>
    by_cases resolves : o.IsResolution
    · have length := single o List.mem_cons_self resolves
      have others : ∀ other ∈ rest, ¬other.IsResolution := by
        rw [List.filter_cons_of_pos (by simpa using resolves), List.length_cons] at once
        have none_ : (rest.filter (·.IsResolution)).length = 0 := by omega
        simpa using List.filter_eq_nil_iff.mp (List.length_eq_zero_iff.mp none_)
      rw [scanWritten, resolutionPos, if_pos resolves, if_pos (show _ ∧ _ from ⟨resolves, by omega⟩),
        List.find?_cons_of_pos (by simpa using resolves), scanWritten_of_none others]
      simp only [Option.mem_def, Option.some.injEq, forall_eq']
      split_ifs <;> first | rfl | omega
    · have later := ih (by rwa [List.filter_cons_of_neg (by simpa using resolves)] at once)
        (fun other member => single other (List.mem_cons_of_mem _ member)) (pos + o.size)
      have plain : ¬(o.IsResolution ∧ 1 ≤ o.value.length) := fun both => resolves both.1
      rw [scanWritten, if_neg plain, resolutionPos, if_neg resolves, List.find?_cons_of_neg (by simpa using resolves), later]
      by_cases beyond : 4096 < pos + 4
      · -- whatever comes later stands beyond as well
        have far : ∀ found ∈ resolutionPos (pos + o.size) rest, 4096 < found := by
          intro found member
          have := resolutionPos_ge member
          unfold BlockOption.size at this
          omega
        have apart : resolutionPos (pos + o.size) rest ≠ some 4096 := fun at_ => lt_irrefl _ (far 4096 at_)
        rw [if_pos beyond, if_neg apart]
        split_ifs with all
        · cases found : resolutionPos (pos + o.size) rest with
          | some later => exact absurd (all later found) (not_lt.mpr (far later found).le)
          | none =>
            rw [List.find?_eq_none.mpr fun other member => by simpa using no_resolution found other member]
        · rfl
      · rw [if_neg beyond]

/-! ### The blocks, one by one -/

/-- What the reader has after a block. -/
def readContent (s : Section) : Content → Except SummaryError Section
  | .interface i =>
    if i.resolutionPos = some 4096 then .error .optionIndex
    else .ok
      { s with
        linktypes := s.linktypes ++ [i.linktype.toNat]
        resolutions := s.resolutions ++ [i.readResolution]
        snaplenMax := max s.snaplenMax i.snaplen.toNat }
  | .enhanced p => .ok
    { s with
      seen := s.seen.packet ((units p.tsHigh p.tsLow : Rat) / s.resolutions.getD p.interfaceId.toNat 1000000) }
  | .simple _ => .ok { s with seen := { s.seen with packetCount := s.seen.packetCount + 1 } }
  -- no more than twelve bytes of an obsolete packet are read, and it is not counted
  | .obsolete _ => .ok s
  | .unknown _ => .ok s

section Content
variable {endian : Endian}

theorem scanned_interface {b : WrittenBlock endian} {i : InterfaceDescription} (is : b.content = .interface i) :
    scanned endian b.toBlock =
      if i.resolutionPos = some 4096 then .error .optionIndex else .ok i.readResolution := by
  have body : b.toBlock.body = (pack endian 2 i.linktype.toNat ++ (pack endian 2 i.reserved.toNat ++
      pack endian 4 i.snaplen.toNat)) ++ encodeOptions endian i.options i.ended := by
    change b.content.body endian = _
    rw [is]
    simp only [Content.body, List.append_assoc]
  have walked := scanOptions_written endian (pack endian 2 i.linktype.toNat ++ (pack endian 2 i.reserved.toNat ++
    pack endian 4 i.snaplen.toNat)) i.options i.ended 1000000
  simp only [List.length_append, length_pack] at walked
  rw [scanned, body]
  exact walked.trans (scanWritten_eq i.once i.single 8)

variable (endian) in
theorem interface_fields (i : InterfaceDescription) :
    8 ≤ ((Content.interface i).body endian).length ∧
    uintAt endian ((Content.interface i).body endian) 0 2 = i.linktype.toNat ∧
    uintAt endian ((Content.interface i).body endian) 4 4 = i.snaplen.toNat := by
  rw [Content.body]
  refine ⟨by simp; omega, uintAt_pack i.linktype.toNat_lt, ?_⟩
  rw [uintAt_after (by omega), uintAt_after (by omega)]
  exact uintAt_pack (uint32_fits _)

variable (endian) in
theorem enhanced_fields (p : EnhancedPacket) :
    20 ≤ ((Content.enhanced p).body endian).length ∧
    uintAt endian ((Content.enhanced p).body endian) 0 4 = p.interfaceId.toNat ∧
    tsRaw endian ((Content.enhanced p).body endian) 4 = units p.tsHigh p.tsLow := by
  rw [Content.body]
  refine ⟨by simp; omega, uintAt_pack (uint32_fits _), ?_⟩
  unfold tsRaw units
  congr 2
  · rw [uintAt_after (le_refl 4)]
    exact uintAt_pack (uint32_fits _)
  · rw [uintAt_after (show 4 ≤ 4 + 4 by decide), uintAt_after (show 4 ≤ 4 + 4 - 4 by decide)]
    exact uintAt_pack (uint32_fits _)

theorem inspect_written (b : WrittenBlock endian) (s : Section) :
    inspectBlock endian s b.toBlock = readContent s b.content := by
  have type : b.toBlock.blockType = b.content.blockType := rfl
  have body : b.toBlock.body = b.content.body endian := rfl
  cases is : b.content with
  | interface i =>
    obtain ⟨long, linktype, snaplen⟩ := interface_fields endian i
    have interface : Interface b.toBlock := ⟨by rw [type, is]; rfl, by rw [body, is]; exact long⟩
    rw [inspected_interface interface, scanned_interface is, body, is, readContent, linktype, snaplen]
    split_ifs <;> rfl
  | enhanced p =>
    obtain ⟨long, interfaceId, stamp⟩ := enhanced_fields endian p
    have enhanced : Enhanced b.toBlock := ⟨by rw [type, is]; rfl, by rw [body, is]; exact long⟩
    rw [inspected_enhanced enhanced, Agreement.units, Agreement.resolution, body, is, interfaceId, stamp, readContent]
  | obsolete p =>
    have other : b.toBlock.blockType.toNat = blockPb := by rw [type, is]; rfl
    rw [inspected_other (fun enhanced => by rw [enhanced.1] at other; cases other)
      (fun interface => by rw [interface.1] at other; cases other), if_neg (by rw [Simple, other]; decide), readContent]
  | simple p =>
    have simple : Simple b.toBlock := by rw [Simple, type, is]; rfl
    rw [inspected_other (fun enhanced => by rw [Simple, enhanced.1] at simple; cases simple)
      (fun interface => by rw [Simple, interface.1] at simple; cases simple), if_pos simple, readContent]
  | unknown u =>
    have other : b.toBlock.blockType.toNat ∉ [blockShb, blockIdb, blockEpb, blockSpb, blockPb] := by
      rw [type, is]
      exact u.unknown
    simp only [List.mem_cons, List.not_mem_nil, or_false, not_or] at other
    obtain ⟨-, idb, epb, spb, -⟩ := other
    rw [inspected_other (fun enhanced => epb enhanced.1) (fun interface => idb interface.1),
      if_neg (show ¬Simple b.toBlock from spb), readContent]

end Content

/-! ### All blocks -/

/-- The times that the reader gives the packets. -/
def readTimes (resolutions : List Nat) : List Content → List Rat
  | [] => []
  | .interface i :: rest => readTimes (resolutions ++ [i.readResolution]) rest
  | .enhanced p :: rest =>
    (units p.tsHigh p.tsLow : Rat) / resolutions.getD p.interfaceId.toNat 1000000 :: readTimes resolutions rest
  | _ :: rest => readTimes resolutions rest

def Content.isSimple : Content → Bool
  | .simple _ => true
  | _ => false

/-- What the reader has after all blocks, if no resolution is next to what is inspected. -/
theorem read_contents {contents : List Content} (whole : ∀ i ∈ interfaces contents, i.resolutionPos ≠ some 4096)
    (s : Section) : ∃ t, contents.foldlM readContent s = .ok t ∧
      t.linktypes = s.linktypes ++ (interfaces contents).map (·.linktype.toNat) ∧
      t.snaplenMax = ((interfaces contents).map (·.snaplen.toNat)).foldl max s.snaplenMax ∧
      t.seen = (readTimes s.resolutions contents).foldl Seen.packet
        { s.seen with packetCount := s.seen.packetCount + contents.countP Content.isSimple } := by
  induction contents generalizing s with
  | nil => exact ⟨s, rfl, by simp [interfaces], rfl, rfl⟩
  | cons c rest ih =>
    have later : ∀ i ∈ interfaces rest, i.resolutionPos ≠ some 4096 := by
      intro i member
      refine whole i ?_
      unfold interfaces at member ⊢
      rw [List.filterMap_cons]
      split
      · exact member
      · exact List.mem_cons_of_mem _ member
    cases c with
    | interface i =>
      have apart : i.resolutionPos ≠ some 4096 := whole i (by simp [interfaces])
      obtain ⟨t, read, linktypes, snaplenMax, seen⟩ := ih later
        { s with
          linktypes := s.linktypes ++ [i.linktype.toNat]
          resolutions := s.resolutions ++ [i.readResolution]
          snaplenMax := max s.snaplenMax i.snaplen.toNat }
      refine ⟨t, ?_, ?_, ?_, ?_⟩
      · rw [List.foldlM_cons, readContent, if_neg apart]
        exact read
      · rw [linktypes]
        simp [interfaces]
      · rw [snaplenMax]
        rfl
      · rw [seen]
        rfl
    | enhanced p =>
      obtain ⟨t, read, linktypes, snaplenMax, seen⟩ := ih later
        { s with
          seen := s.seen.packet ((units p.tsHigh p.tsLow : Rat) / s.resolutions.getD p.interfaceId.toNat 1000000) }
      refine ⟨t, read, linktypes, snaplenMax, ?_⟩
      rw [seen, readTimes, List.foldl_cons, List.countP_cons_of_neg (by simp [Content.isSimple])]
      congr 1
      simp only [Seen.packet, Seen.mk.injEq, and_self, and_true]
      omega
    | simple p =>
      obtain ⟨t, read, linktypes, snaplenMax, seen⟩ := ih later
        { s with seen := { s.seen with packetCount := s.seen.packetCount + 1 } }
      refine ⟨t, read, linktypes, snaplenMax, ?_⟩
      rw [seen, List.countP_cons_of_pos (by simp [Content.isSimple])]
      congr 1
      simp only [Seen.mk.injEq, and_self, and_true]
      omega
    | obsolete p => exact ih later s
    | unknown u => exact ih later s

theorem whole_of_read {contents : List Content} {s t : Section} (read : contents.foldlM readContent s = .ok t) :
    ∀ i ∈ interfaces contents, i.resolutionPos ≠ some 4096 := by
  induction contents generalizing s with
  | nil => simp [interfaces]
  | cons c rest ih =>
    rw [List.foldlM_cons] at read
    cases next : readContent s c with
    | error error =>
      rw [next] at read
      cases read
    | ok u =>
      rw [next] at read
      intro i member
      unfold interfaces at member
      cases c with
      | interface j =>
        rcases List.mem_cons.mp member with rfl | later
        · intro torn
          rw [readContent, if_pos torn] at next
          cases next
        · exact ih read i later
      | enhanced | obsolete | simple | unknown => exact ih read i member

def Content.isObsolete : Content → Bool
  | .obsolete _ => true
  | _ => false

/-- The packets are those with times, those without, and the obsolete ones. -/
theorem countP_isPacket (resolutions : List Nat) (contents : List Content) : contents.countP Content.isPacket =
    contents.countP Content.isSimple + (readTimes resolutions contents).length + contents.countP Content.isObsolete := by
  induction contents generalizing resolutions with
  | nil => rfl
  | cons c rest ih =>
    cases c with
    | interface i => simpa [List.countP_cons, readTimes, Content.isPacket, Content.isSimple, Content.isObsolete] using ih _
    | enhanced | obsolete | simple | unknown =>
      have tail := ih resolutions
      simp [List.countP_cons, readTimes, Content.isPacket, Content.isSimple, Content.isObsolete]
      omega

/-- The time that the reader gives a packet. -/
def readSeconds (item : Nat × InterfaceDescription) : Rat := (item.1 : Rat) / item.2.readResolution

theorem readTimes_eq {contents : List Content} (modern : ∀ c ∈ contents, c.isObsolete = false)
    (described : List InterfaceDescription) (known : Described described.length contents) :
    readTimes (described.map (·.readResolution)) contents = (timed described contents).map readSeconds := by
  induction contents generalizing described with
  | nil => rfl
  | cons c rest ih =>
    have later := ih fun other member => modern other (List.mem_cons_of_mem _ member)
    cases c with
    | interface i =>
      have more := later (described ++ [i]) (by simpa [Described] using known)
      rw [List.map_append] at more
      exact more
    | enhanced p =>
      obtain ⟨inside, known⟩ := known
      have found : described[p.interfaceId.toNat]? = some (described[p.interfaceId.toNat]) :=
        List.getElem?_eq_getElem inside
      rw [readTimes, timed, later described known, List.getD_eq_getElem?_getD, List.getElem?_map, found]
      rfl
    | obsolete p => cases modern (.obsolete p) List.mem_cons_self
    | simple p => exact later described known.2
    | unknown u => exact later described known

theorem resolution_pos (i : InterfaceDescription) : 0 < i.resolution := by
  unfold InterfaceDescription.resolution unitsPerSecond
  split
  · split_ifs <;> positivity
  · decide

theorem readResolution_eq_iff (i : InterfaceDescription) :
    i.readResolution = i.resolution ↔ i.Within ∨ i.resolution = 1000000 := by
  unfold InterfaceDescription.readResolution
  split_ifs with within
  · exact iff_of_true rfl (.inl within)
  · exact ⟨fun same => .inr same.symm, fun either => (either.resolve_left within).symm⟩

theorem readSeconds_eq_iff (item : Nat × InterfaceDescription) :
    readSeconds item = seconds item ↔ item.1 = 0 ∨ item.2.Within ∨ item.2.resolution = 1000000 := by
  have positive : (item.2.resolution : Rat) ≠ 0 := Nat.cast_ne_zero.mpr (resolution_pos item.2).ne'
  have positive' : (item.2.readResolution : Rat) ≠ 0 := by
    unfold InterfaceDescription.readResolution
    split_ifs
    · exact positive
    · norm_num
  rw [← readResolution_eq_iff, readSeconds, seconds, div_eq_div_iff positive' positive, mul_eq_mul_left_iff, Nat.cast_eq_zero,
    Nat.cast_inj, or_comm, eq_comm (a := item.2.resolution)]

/-! ### The summary -/

/-- What the reader makes of a section that is right: no packets in obsolete blocks, no resolution
    next to what is inspected, and none beyond it that the first or the last time depends on. -/
structure Readable (file : SectionFile) : Prop where
  modern : ∀ c ∈ file.contents, c.isObsolete = false
  whole : ∀ i ∈ interfaces file.contents, i.resolutionPos ≠ some 4096
  first : ∀ item ∈ (timed [] file.contents).head?, item.1 = 0 ∨ item.2.Within ∨ item.2.resolution = 1000000
  last : ∀ item ∈ (timed [] file.contents).getLast?, item.1 = 0 ∨ item.2.Within ∨ item.2.resolution = 1000000

def Scannable : Capture → Prop
  | .pcap file => ∀ r ∈ file.records, ¬Absurd file.snaplen.toNat r.data.length
  | .pcapng file => Readable file

theorem map_eq_map_iff {α β : Type} {f g : α → β} (item : Option α) :
    item.map f = item.map g ↔ ∀ x ∈ item, f x = g x := by
  cases item <;> simp

theorem read_section (file : SectionFile) : readCaptureSummary file.encode =
    match file.contents.foldlM readContent .empty with
    | .error error => .error error
    | .ok s => .ok (sectionSummary s) := by
  have walked : ∀ s, (file.blocks.map WrittenBlock.toBlock).foldlM (inspectBlock file.endian) s =
      (file.blocks.map (·.content)).foldlM readContent s := by
    intro s
    rw [List.foldlM_map, List.foldlM_map]
    simp only [inspect_written]
  rw [SectionFile.encode, readCaptureSummary_pcapng, SectionFile.contents, ← walked]
  rfl

theorem facts_of_read {file : SectionFile} {t : Section} (read : file.contents.foldlM readContent .empty = .ok t) :
    CaptureSummary.facts (sectionSummary t) =
      ⟨(readTimes [] file.contents).length + file.contents.countP Content.isSimple, (readTimes [] file.contents).head?,
        (readTimes [] file.contents).getLast?, (Capture.pcapng file).facts.linkType, (Capture.pcapng file).facts.snaplen⟩ := by
  obtain ⟨u, read', linktypes, snaplenMax, seen⟩ := read_contents (whole_of_read read) .empty
  rw [read] at read'
  cases read'
  unfold CaptureSummary.facts sectionSummary
  rw [linktypes, snaplenMax, seen, foldl_packet]
  simp [Section.empty, Seen.none, Capture.facts, List.head?_map, Nat.add_comm, Function.comp_def]

theorem summarized_section (file : SectionFile) : Summarized (.pcapng file) ↔ Readable file := by
  have counted := countP_isPacket [] file.contents
  have times (modern : ∀ c ∈ file.contents, c.isObsolete = false) :
      readTimes [] file.contents = (timed [] file.contents).map readSeconds := readTimes_eq modern [] file.described
  have modern_iff : file.contents.countP Content.isObsolete = 0 ↔ ∀ c ∈ file.contents, c.isObsolete = false := by
    simp [List.countP_eq_zero]
  unfold Summarized
  change (∃ summary, readCaptureSummary file.encode = .ok summary ∧ _) ↔ _
  rw [read_section]
  constructor
  · rintro ⟨summary, ok, right⟩
    cases read : file.contents.foldlM readContent .empty with
    | error error =>
      rw [read] at ok
      cases ok
    | ok t =>
      rw [read] at ok
      cases ok
      rw [facts_of_read read, Capture.facts] at right
      simp only [Facts.mk.injEq, and_true] at right
      obtain ⟨count, first, last⟩ := right
      have modern := modern_iff.mp (by omega)
      rw [times modern, List.head?_map, List.head?_map, map_eq_map_iff] at first
      rw [times modern, List.getLast?_map, List.getLast?_map, map_eq_map_iff] at last
      exact ⟨modern, whole_of_read read, fun item is => (readSeconds_eq_iff item).mp (first item is),
        fun item is => (readSeconds_eq_iff item).mp (last item is)⟩
  · rintro ⟨modern, whole, first, last⟩
    obtain ⟨t, read, -⟩ := read_contents whole .empty
    refine ⟨sectionSummary t, by rw [read], ?_⟩
    have none_ := modern_iff.mpr modern
    rw [facts_of_read read, times modern, Capture.facts, List.head?_map, List.head?_map, List.getLast?_map, List.getLast?_map,
      (map_eq_map_iff _).mpr fun item is => (readSeconds_eq_iff item).mpr (first item is),
      (map_eq_map_iff _).mpr fun item is => (readSeconds_eq_iff item).mpr (last item is)]
    simp only [Facts.mk.injEq, and_self, and_true]
    rw [times modern] at counted
    simp only [List.length_map] at counted ⊢
    omega

theorem absurd_of_read {endian : Endian} {divisor snaplen : Nat} {records : List Record} {seen last : Seen}
    (read : readRecords endian divisor snaplen (records.flatMap (Record.encode endian)) seen = .ok last) :
    ∀ r ∈ records, ¬Absurd snaplen r.data.length := by
  induction records generalizing seen with
  | nil => simp
  | cons r rest ih =>
    rw [List.flatMap_cons, readRecords_cons] at read
    split_ifs at read with absurd_
    intro other member
    rcases List.mem_cons.mp member with rfl | later
    · exact absurd_
    · exact ih read other later

theorem header_fields (file : Pcap) : uintAt file.endian (file.encode.take 24) 16 4 = file.snaplen.toNat ∧
    uintAt file.endian (file.encode.take 24) 20 4 = file.network.toNat := by
  rw [uintAt_take (show 16 + 4 ≤ 24 by decide), uintAt_take (show 20 + 4 ≤ 24 by decide), Pcap.encode]
  constructor
  · iterate 5 rw [uintAt_after (by omega)]
    exact uintAt_pack (uint32_fits _)
  · iterate 6 rw [uintAt_after (by omega)]
    exact uintAt_pack (uint32_fits _)

theorem summarized_classic (file : Pcap) :
    Summarized (.pcap file) ↔ ∀ r ∈ file.records, ¬Absurd file.snaplen.toNat r.data.length := by
  obtain ⟨snaplen, network⟩ := header_fields file
  unfold Summarized
  change (∃ summary, readCaptureSummary file.encode = .ok summary ∧ _) ↔ _
  rw [readCaptureSummary_pcap, snaplen]
  constructor
  · rintro ⟨summary, ok, -⟩
    cases read : readRecords file.endian file.tsDivisor file.snaplen.toNat
        (file.records.flatMap (Record.encode file.endian)) .none with
    | error error =>
      rw [read] at ok
      cases ok
    | ok seen => exact absurd_of_read read
  · intro fine
    rcases readRecords_records file.endian file.tsDivisor file.snaplen.toNat file.records .none with read | ⟨r, member, bad, -⟩
    · rw [read]
      refine ⟨_, rfl, ?_⟩
      unfold CaptureSummary.facts pcapSummary Capture.facts
      rw [snaplen, network, foldl_packet]
      simp [Seen.none]
    · exact absurd bad (fine r member)

/-- The summary of a well-formed capture says what it should exactly if the reader can scan it. -/
theorem summary_iff (file : Capture) : Summarized file ↔ Scannable file := by
  cases file with
  | pcap file => exact summarized_classic file
  | pcapng file => exact summarized_section file

/-- One packet, in an obsolete block. -/
def obsoleteCapture : SectionFile where
  endian := .little
  header := [1, 0, 0, 0] ++ List.replicate 8 255
  versioned := by decide
  aligned := by decide
  fits := by decide
  blocks :=
    [⟨.interface ⟨1, 0, 262144, [], false, by decide, by decide⟩, by decide, by decide⟩,
      ⟨.obsolete ⟨0, 0, 0, 1000000, 4, 4, [1, 2, 3, 4], by decide⟩, by decide, by decide⟩]
  described := by simp [Described]

/-- The packet is not counted, and has no time. -/
theorem obsolete_not_summarized : ¬Summarized (.pcapng obsoleteCapture) := by
  intro summarized
  have modern := ((summarized_section obsoleteCapture).mp summarized).modern
  cases modern _ (List.mem_cons_of_mem _ List.mem_cons_self)

end Marlinspike.Dissect.Summary
