import Mathlib.Data.Rat.Defs
import Marlinspike.Struct

/-!
The header reader: the packets and the times of a capture, from the headers of its records
or blocks alone. A file that ends in the middle of one gives what was read before it.
-/
namespace Marlinspike.Dissect.Header
open Marlinspike.Struct

/-- `CaptureSummary.format`. -/
inductive Format where
  | pcap
  | pcapng
deriving DecidableEq, Repr

structure CaptureSummary where
  packetCount : Nat
  durationSeconds : Rat
  startTs : Option Rat
  endTs : Option Rat
  linkType : String
  snaplen : Nat
  format : Format
deriving DecidableEq

/-- The `ValueError`s, and the `IndexError` of an option that ends where its body does. -/
inductive SummaryError where
  | tooShort
  | pcapTruncated
  | badMagic (magic : Nat)
  | absurdLength (inclLen : Nat)
  | pcapngTruncated
  | noSection
  | badByteOrder (bom : Nat)
  | optionIndex
deriving DecidableEq, Repr

def pcapMagicLeUs : Nat := 0xA1B2C3D4
def pcapMagicBeUs : Nat := 0xD4C3B2A1
def pcapMagicLeNs : Nat := 0xA1B23C4D
def pcapMagicBeNs : Nat := 0x4D3CB2A1

def blockShb : Nat := 0x0A0D0D0A
def blockIdb : Nat := 0x00000001
def blockEpb : Nat := 0x00000006
def blockSpb : Nat := 0x00000003
def blockPb : Nat := 0x00000002

def shbBomLe : Nat := 0x1A2B3C4D
def shbBomBe : Nat := 0x4D3C2B1A

/-- `_LINKTYPE_NAMES`, or else the number. -/
def linktypeName : Nat → String
  | 0 => "BSD loopback"
  | 1 => "Ethernet"
  | 9 => "PPP"
  | 105 => "IEEE 802.11"
  | 113 => "Linux cooked v1"
  | 127 => "IEEE 802.11 radiotap"
  | 143 => "DOCSIS"
  | 147 => "DLT_USER0"
  | 148 => "DLT_USER1"
  | 195 => "IEEE 802.15.4 with FCS"
  | 228 => "IPv4"
  | 229 => "IPv6"
  | 276 => "Linux cooked v2"
  | network => "LINKTYPE_" ++ toString network

/-- The packets that have been counted, and the first and last of their times. -/
structure Seen where
  packetCount : Nat
  firstTs : Option Rat
  lastTs : Option Rat
deriving DecidableEq

def Seen.none : Seen := ⟨0, .none, .none⟩

/-- A packet with a time. -/
def Seen.packet (seen : Seen) (ts : Rat) : Seen :=
  ⟨seen.packetCount + 1, some (seen.firstTs.getD ts), some ts⟩

def Seen.duration (seen : Seen) : Rat :=
  match seen.firstTs, seen.lastTs with
  | some first, some last => last - first
  | _, _ => 0

/-! ### Classic captures -/

/-- The byte order and the units of a second. -/
def pcapFormat (rawMagic : Nat) : Option (Endian × Nat) :=
  if rawMagic = pcapMagicLeUs then some (.little, 1000000)
  else if rawMagic = pcapMagicBeUs then some (.big, 1000000)
  else if rawMagic = pcapMagicLeNs then some (.little, 1000000000)
  else if rawMagic = pcapMagicBeNs then some (.big, 1000000000)
  else none

/-- A payload that no capture has. -/
def Absurd (snaplen inclLen : Nat) : Prop := snaplen * 4 + 2 ^ 20 < inclLen ∧ 2 ^ 24 < inclLen

instance (snaplen inclLen : Nat) : Decidable (Absurd snaplen inclLen) := inferInstanceAs (Decidable (_ ∧ _))

def readRecords (endian : Endian) (tsDivisor snaplen : Nat) (rest : Bytes) (seen : Seen) : Except SummaryError Seen :=
  if rest.length < 16 then .ok seen
  else
    let tsSec := uintAt endian rest 0 4
    let tsSubsec := uintAt endian rest 4 4
    let inclLen := uintAt endian rest 8 4
    if Absurd snaplen inclLen then .error (.absurdLength inclLen)
    else
      readRecords endian tsDivisor snaplen (rest.drop (16 + inclLen)) (seen.packet ((tsSec : Rat) + tsSubsec / tsDivisor))
termination_by rest.length
decreasing_by simp only [List.length_drop]; omega

def readPcap (file : Bytes) : Except SummaryError CaptureSummary :=
  let header := file.take 24
  if header.length < 24 then .error .pcapTruncated
  else
    match pcapFormat (value .little (header.take 4)) with
    | none => .error (.badMagic (value .little (header.take 4)))
    | some (endian, tsDivisor) =>
      let snaplen := uintAt endian header 16 4
      let network := uintAt endian header 20 4
      match readRecords endian tsDivisor snaplen (file.drop 24) .none with
      | .error error => .error error
      | .ok seen => .ok
        { packetCount := seen.packetCount
          durationSeconds := seen.duration
          startTs := seen.firstTs
          endTs := seen.lastTs
          linkType := linktypeName network
          snaplen := snaplen
          format := .pcap }

/-! ### Block captures -/

/-- The units of a second, as `if_tsresol` gives them. -/
def tsresolDivisor (tsresol : UInt8) : Nat :=
  if tsresol &&& 0x80 ≠ 0 then 2 ^ (tsresol &&& 0x7F).toNat else 10 ^ tsresol.toNat

/-- The walk over the options from a position on, with the resolution so far. -/
def scanOptions (endian : Endian) (body : Bytes) (optPos resolution : Nat) : Except SummaryError Nat :=
  if optPos + 4 ≤ body.length then
    let optCode := uintAt endian body optPos 2
    let optLen := uintAt endian body (optPos + 2) 2
    let next := optPos + 4 + (optLen + 3) / 4 * 4
    if optCode = 0 then .ok resolution
    else if optCode = 9 ∧ 1 ≤ optLen then
      match body[optPos + 4]? with
      | none => .error .optionIndex
      | some tsresol => scanOptions endian body next (tsresolDivisor tsresol)
    else scanOptions endian body next resolution
  else .ok resolution
termination_by body.length - optPos

/-- What is known of the section. -/
structure Section where
  resolutions : List Nat
  linktypes : List Nat
  snaplenMax : Nat
  seen : Seen
deriving DecidableEq

def Section.empty : Section := ⟨[], [], 0, .none⟩

/-- As much of a body as is inspected. -/
def readLength (blockType bodyLen : Nat) : Nat :=
  if blockType = blockIdb then min bodyLen 4096
  else if blockType = blockEpb then min bodyLen 20
  else if blockType = blockPb then min bodyLen 12
  else 0

def inspectInterface (endian : Endian) (body : Bytes) (s : Section) : Except SummaryError Section :=
  if 8 ≤ body.length then
    match scanOptions endian body 8 1000000 with
    | .error error => .error error
    | .ok resolution => .ok
      { s with
        linktypes := s.linktypes ++ [uintAt endian body 0 2]
        resolutions := s.resolutions ++ [resolution]
        snaplenMax := max s.snaplenMax (uintAt endian body 4 4) }
  else .ok s

/-- The time of a packet in units, from its high and low word. -/
def tsRaw (endian : Endian) (body : Bytes) (pos : Nat) : Nat :=
  uintAt endian body pos 4 * 2 ^ 32 + uintAt endian body (pos + 4) 4

def inspect (endian : Endian) (blockType : Nat) (body : Bytes) (s : Section) : Except SummaryError Section :=
  if blockType = blockIdb then inspectInterface endian body s
  else if blockType = blockEpb then
    if 20 ≤ body.length then
      let divisor := s.resolutions.getD (uintAt endian body 0 4) 1000000
      .ok { s with seen := s.seen.packet ((tsRaw endian body 4 : Rat) / divisor) }
    else .ok s
  else if blockType = blockPb then
    if 20 ≤ body.length then .ok { s with seen := s.seen.packet ((tsRaw endian body 4 : Rat) / 1000000) }
    else .ok s
  else if blockType = blockSpb then .ok { s with seen := { s.seen with packetCount := s.seen.packetCount + 1 } }
  else .ok s

def readBlocks (endian : Endian) (rest : Bytes) (s : Section) : Except SummaryError Section :=
  if rest.length < 8 then .ok s
  else
    let blockType := uintAt endian rest 0 4
    let blockLen := uintAt endian rest 4 4
    if blockLen < 12 ∨ blockLen % 4 ≠ 0 then .ok s
    else
      let bodyLen := blockLen - 12
      let body := (rest.drop 8).take (readLength blockType bodyLen)
      if body.length < readLength blockType bodyLen then .ok s
      else if ((rest.drop (8 + bodyLen)).take 4).length < 4 then .ok s
      else
        match inspect endian blockType body s with
        | .error error => .error error
        | .ok s => readBlocks endian (rest.drop (8 + bodyLen + 4)) s
termination_by rest.length
decreasing_by simp only [List.length_drop]; omega

def readPcapng (file : Bytes) : Except SummaryError CaptureSummary :=
  let raw := file.take 12
  if raw.length < 12 then .error .pcapngTruncated
  else if uintAt .little raw 0 4 ≠ blockShb then .error .noSection
  else
    let blockLen := uintAt .little raw 4 4
    let bom := uintAt .little raw 8 4
    let read (endian : Endian) (blockLen : Nat) : Except SummaryError CaptureSummary :=
      match readBlocks endian (file.drop blockLen) .empty with
      | .error error => .error error
      | .ok s => .ok
        { packetCount := s.seen.packetCount
          durationSeconds := s.seen.duration
          startTs := s.seen.firstTs
          endTs := s.seen.lastTs
          linkType := (s.linktypes.head?.map linktypeName).getD "Unknown"
          snaplen := s.snaplenMax
          format := .pcapng }
    if bom = shbBomLe then read .little blockLen
    else if bom = shbBomBe then read .big (value .big (pack .little 4 blockLen))
    else .error (.badByteOrder bom)

def readCaptureSummary (file : Bytes) : Except SummaryError CaptureSummary :=
  let head := file.take 4
  if head.length < 4 then .error .tooShort
  else if value .big head = blockShb then readPcapng file
  else readPcap file

end Marlinspike.Dissect.Header
