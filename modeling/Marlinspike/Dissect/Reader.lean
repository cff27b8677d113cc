import Mathlib.Data.Rat.Defs
import Marlinspike.PyDict
import Marlinspike.Struct

/-!
The built-in packet reader, for hosts without tshark: the packets of a capture with the
times that it gives them, and the conversations that they are counted in.
-/
namespace Marlinspike.Dissect.Reader
open Marlinspike.Struct

/-- A packet and its time. -/
abbrev Packet := Bytes × Rat

/-! ### Records and blocks -/

def recordPackets (endian : Endian) (tsDiv : Nat) (rest : Bytes) : List Packet :=
  if rest.length < 16 then []
  else
    let tsSec := uintAt endian rest 0 4
    let tsUsec := uintAt endian rest 4 4
    let inclLen := uintAt endian rest 8 4
    if inclLen = 0 ∨ 65535 < inclLen then recordPackets endian tsDiv (rest.drop (16 + inclLen))
    else
      let pkt := (rest.drop 16).take inclLen
      if pkt.length < inclLen then []
      else (pkt, (tsSec : Rat) + tsUsec / tsDiv) :: recordPackets endian tsDiv (rest.drop (16 + inclLen))
termination_by rest.length
decreasing_by all_goals simp only [List.length_drop]; omega

/-- The packet of an Enhanced Packet Block. -/
def enhancedPacket (endian : Endian) (blockType : Nat) (body : Bytes) : Option Packet :=
  if blockType = 6 ∧ 20 ≤ body.length then
    let tsRaw : Nat := uintAt endian body 4 4 * 2 ^ 32 + uintAt endian body 8 4
    let capLen := uintAt endian body 12 4
    some ((body.drop 20).take capLen, (tsRaw : Rat) / 1000000)
  else none

/-- The blocks that are read from a position on. -/
def blocksFrom (endian : Endian) (rest : Bytes) : List (Nat × Bytes) :=
  if rest.length < 8 then []
  else
    let blockType := uintAt endian rest 0 4
    let blockLen := uintAt endian rest 4 4
    if blockLen < 12 ∨ blockLen % 4 ≠ 0 then []
    else
      let bodyLen := blockLen - 12
      let body := (rest.drop 8).take bodyLen
      if body.length < bodyLen then []
      else (blockType, body) :: blocksFrom endian (rest.drop (8 + bodyLen + 4))
termination_by rest.length
decreasing_by simp only [List.length_drop]; omega

/-- The packets that are processed, in order. -/
def packetsOf (file : Bytes) : List Packet :=
  let head := file.take 4
  if head.length < 4 then []
  else
    let magic := value .big head
    if magic = 0x0A0D0D0A then
      let bomHdr := file.take 12
      if 12 ≤ bomHdr.length then
        -- the length is read little-endian whatever the byte order
        let blockLen := uintAt .little bomHdr 4 4
        let endian := if uintAt .little bomHdr 8 4 = 0x1A2B3C4D then Endian.little else .big
        (blocksFrom endian (file.drop blockLen)).filterMap fun block => enhancedPacket endian block.1 block.2
      else []
    else if magic = 0xA1B2C3D4 ∨ magic = 0xD4C3B2A1 ∨ magic = 0xA1B23C4D ∨ magic = 0x4D3CB2A1 then
      if 24 ≤ (file.take 24).length then
        let rawMagic := value .little (file.take 4)
        let endian := if rawMagic = 0xA1B2C3D4 ∨ rawMagic = 0xA1B23C4D then Endian.little else .big
        let tsDiv := if rawMagic = 0xA1B23C4D ∨ rawMagic = 0x4D3CB2A1 then 1000000000 else 1000000
        recordPackets endian tsDiv (file.drop 24)
      else []
    else []

/-! ### Conversations -/

/-- The services that ports are known for. -/
structure Ports where
  otProtocols : Nat → Option String
  wellKnownPorts : Nat → Option String

/-- `_classify_protocol`, for a packet without a protocol stack. -/
def classifyProtocol (ports : Ports) (port : Nat) (transport : String) : Option String :=
  match ports.otProtocols port with
  | some name => some name
  | none =>
    match ports.wellKnownPorts port with
    | some name => some name
    | none =>
      if 0 < port ∧ transport ≠ "" then some (transport.toUpper ++ "/" ++ toString port)
      else none

def hexDigit (n : Nat) : Char := "0123456789abcdef".toList.getD n '0'

/-- Six bytes as a MAC. -/
def macText (bytes : Bytes) : String :=
  ":".intercalate (bytes.map fun b => String.ofList [hexDigit (b.toNat / 16), hexDigit (b.toNat % 16)])

/-- `inet_ntoa`. -/
def ipText (bytes : Bytes) : String := ".".intercalate (bytes.map fun b => toString b.toNat)

/-- The bytes from one position to another. -/
def slice (pkt : Bytes) (first last : Nat) : Bytes := (pkt.drop first).take (last - first)

structure ConvKey where
  srcMac : String
  dstMac : String
  protocol : String
  port : Nat
deriving DecidableEq

/-- What the pass writes of a conversation. -/
structure Conv where
  packetCount : Nat
  bytes : Nat
  srcIps : List String
  dstIps : List String
  timestamps : List Rat
  srcPorts : List Nat
deriving DecidableEq

def Conv.empty : Conv := ⟨0, 0, [], [], [], []⟩

/-- `set.add`, in the order of the first additions. -/
def addTo {α : Type} [DecidableEq α] (values : List α) (value : α) : List α :=
  if value ∈ values then values else values ++ [value]

/-- A packet of a conversation. -/
def Conv.add (conv : Conv) (pkt : Bytes) (srcIp dstIp : String) (ts : Rat) (sport : Nat) : Conv where
  packetCount := conv.packetCount + 1
  bytes := conv.bytes + pkt.length
  srcIps := addTo conv.srcIps srcIp
  dstIps := addTo conv.dstIps dstIp
  timestamps := conv.timestamps ++ [ts]
  srcPorts := if sport = 0 then conv.srcPorts else addTo conv.srcPorts sport

structure PassState where
  pktCount : Nat
  skipped : Nat
  convMap : PyDict ConvKey Conv

/-- The conversation of a packet, with its addresses and its source port. -/
def converse (ports : Ports) (pkt : Bytes) : Option (ConvKey × String × String × Nat) :=
  let dstMac := macText (slice pkt 0 6)
  let srcMac := macText (slice pkt 6 12)
  let ethertype := uintAt .big pkt 12 2
  if ethertype = 0x0806 ∧ 42 ≤ pkt.length then
    some (⟨srcMac, dstMac, "ARP", 0⟩, ipText (slice pkt 28 32), ipText (slice pkt 38 42), 0)
  else if ethertype = 0x0800 ∧ 34 ≤ pkt.length then
    let ihl := uintAt .big pkt 14 1 % 16 * 4
    let protoNum := uintAt .big pkt 23 1
    let ported := (protoNum = 6 ∨ protoNum = 17) ∧ 14 + ihl + 4 ≤ pkt.length
    let sport := if ported then uintAt .big pkt (14 + ihl) 2 else 0
    let dport := if ported then uintAt .big pkt (16 + ihl) 2 else 0
    let transport := if ported then if protoNum = 6 then "tcp" else "udp" else ""
    let protoName := (classifyProtocol ports dport transport).getD
      (if protoNum = 6 then "TCP" else if protoNum = 17 then "UDP" else "IP")
    some (⟨srcMac, dstMac, protoName, dport⟩, ipText (slice pkt 26 30), ipText (slice pkt 30 34), sport)
  else none

def processPacket (ports : Ports) (s : PassState) (packet : Packet) : PassState :=
  let counted := { s with pktCount := s.pktCount + 1 }
  if packet.1.length < 14 then { counted with skipped := s.skipped + 1 }
  else
    match converse ports packet.1 with
    | none => { counted with skipped := s.skipped + 1 }
    | some (key, srcIp, dstIp, sport) =>
      let conv := (s.convMap.get key).getD .empty
      { counted with convMap := s.convMap.set key (conv.add packet.1 srcIp dstIp packet.2 sport) }

def runPurePythonPass (ports : Ports) (file : Bytes) (s : PassState) : PassState :=
  (packetsOf file).foldl (processPacket ports) s

end Marlinspike.Dissect.Reader
