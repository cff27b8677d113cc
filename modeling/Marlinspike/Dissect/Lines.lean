import Marlinspike.Dissect.Reader

/-!
The packet reader over tshark's output: a line of fields for each packet, and the
conversations that the packets are counted in, with scanned ports collapsed into one and
everything beyond the cap folded into another.
-/
namespace Marlinspike.Dissect.Lines
open Marlinspike.Dissect.Reader

/-- The tables, and what else of the language the pass uses; there is no result where a
    conversion raises a `ValueError`. -/
structure LineTables where
  fields : List String
  ports : Ports
  otTsharkProtocols : String → Option String
  upper : String → String
  capitalize : String → String
  /-- `int(text)`. -/
  int : String → Option Nat
  /-- `float(text)`. -/
  float : String → Option Rat

/-- `text.split(sep)`. -/
def splitText (sep : Char) (text : String) : List String := (text.toList.splitOn sep).map String.ofList

/-- The line of some fields. -/
def tabbed (values : List String) : String := String.ofList (['\t'].intercalate (values.map String.toList))

theorem splitText_tabbed {values : List String} (some_ : values ≠ []) (plain : ∀ value ∈ values, '\t' ∉ value.toList) :
    splitText '\t' (tabbed values) = values := by
  unfold splitText tabbed
  rw [String.toList_ofList, List.splitOn_intercalate _ (by simpa using plain) (by simpa using some_), List.map_map]
  simp

/-- A line of two fields or more is not empty. -/
theorem tabbed_ne_empty (first second : String) (rest : List String) : tabbed (first :: second :: rest) ≠ "" := by
  simp [tabbed, List.intercalate, List.intersperse]

/-! ### The packet of a line -/

abbrev Fields := PyDict String String

def field (pkt : Fields) (name : String) : String := (pkt.get name).getD ""

def orElse (a b : String) : String := if a ≠ "" then a else b

/-- The fields that are not empty. -/
def readFields (names values : List String) : Fields :=
  (names.zip values).foldl (fun pkt item => if item.2 ≠ "" then pkt.set item.1 item.2 else pkt) PyDict.empty

def skipLayers : List String := ["eth", "ethertype", "ip", "ipv6", "tcp", "udp", "frame", "data"]

def encapProtocols : List String :=
  ["icmp", "icmpv6", "igmp", "arp", "lldp", "cdp", "stp", "rstp", "mstp", "lacp", "edp"]

/-- What the pass does not itself account for: the names, queries and identities that it
    reads from the fields of a packet. -/
structure Parsing (Details : Type) where
  start : Details
  parseInline : Fields → String → Details → Option Details

section Line
variable (tables : LineTables)

def layerName (layer : String) : String := if layer.length ≤ 5 then tables.upper layer else tables.capitalize layer

/-- `_classify_protocol`. -/
def classify (protoStack : String) (port : Nat) (transport : String) : Option String :=
  let layers := splitText ':' protoStack
  let named :=
    if protoStack = "" then none
    else
      match layers.find? (encapProtocols.contains ·) with
      | some layer => some (layerName tables layer)
      | none =>
        match layers.reverse.findSome? tables.otTsharkProtocols with
        | some name => some name
        | none => (layers.reverse.find? (!skipLayers.contains ·)).map (layerName tables)
  match named with
  | some name => some name
  | none => classifyProtocol tables.ports port transport

/-- A packet that is counted in a conversation. -/
structure LinePacket where
  fields : Fields
  srcMac : String
  dstMac : String
  protocol : String
  port : Nat
  srcPort : Nat
  transport : String

/-- A packet, if it has MACs and a protocol. The outer result is absent where a conversion
    raises, the inner one where the packet is skipped. -/
def readPacket (line : String) : Option (Option LinePacket) :=
  let pkt := readFields tables.fields (splitText '\t' line)
  let srcMac := field pkt "eth.src"
  let dstMac := field pkt "eth.dst"
  if srcMac = "" ∨ dstMac = "" then some none
  else
    let tcpDport := field pkt "tcp.dstport"
    let udpDport := field pkt "udp.dstport"
    do
      let port ← tables.int (orElse (orElse tcpDport udpDport) "0")
      let srcPort ← tables.int (orElse (orElse (field pkt "tcp.srcport") (field pkt "udp.srcport")) "0")
      let transport := if tcpDport ≠ "" then "tcp" else if udpDport ≠ "" then "udp" else ""
      match classify tables (field pkt "frame.protocols") port transport with
      | none => some none
      | some protocol =>
        if protocol = "" then some none
        else some (some ⟨pkt, srcMac, dstMac, protocol, port, srcPort, transport⟩)

end Line

/-! ### Conversations -/

structure LineConv (Details : Type) where
  packetCount : Nat
  bytes : Nat
  transport : String
  srcPorts : List Nat
  srcIps : List String
  dstIps : List String
  firstSeen : String
  lastSeen : String
  timestamps : List Rat
  details : Details

structure LineState (Details : Type) where
  pktCount : Nat
  skipped : Nat
  collapsedCount : Nat
  convMap : PyDict ConvKey (LineConv Details)
  /-- The destination ports of each pair of MACs and transport. -/
  pairPorts : PyDict (String × String × String) (List Nat)

def convMapCap : Nat := 50000

def overflowKey : ConvKey := ⟨"(overflow)", "(overflow)", "Truncated Conversations", 0⟩

section Pass
variable {Details : Type} (tables : LineTables) (parsing : Parsing Details) (collapseThreshold : Nat)

def LineState.start : LineState Details := ⟨0, 0, 0, PyDict.empty, PyDict.empty⟩

def LineConv.start : LineConv Details := ⟨0, 0, "", [], [], [], "", "", [], parsing.start⟩

/-- Once a pair has sent to many ports, its packets go to one conversation. -/
def collapse (s : LineState Details) (p : LinePacket) : LineState Details × ConvKey :=
  let own : ConvKey := ⟨p.srcMac, p.dstMac, p.protocol, p.port⟩
  if 0 < collapseThreshold ∧ 0 < p.port ∧ p.transport ≠ "" then
    let pair := (p.srcMac, p.dstMac, p.transport)
    let seen := addTo ((s.pairPorts.get pair).getD []) p.port
    let noted := { s with pairPorts := s.pairPorts.set pair seen }
    if collapseThreshold ≤ seen.length then
      ({ noted with collapsedCount := s.collapsedCount + 1 }, ⟨p.srcMac, p.dstMac, "Port Scan", 0⟩)
    else (noted, own)
  else (s, own)

/-- Once the map is full, new conversations go to one entry. -/
def fold (convMap : PyDict ConvKey (LineConv Details)) (key : ConvKey) : ConvKey :=
  if convMap.get key = none ∧ convMapCap ≤ convMap.items.length then overflowKey else key

/-- The packet, counted in its conversation. -/
def LineConv.add (conv : LineConv Details) (p : LinePacket) (frameLen : Nat) (details : Details) : LineConv Details :=
  let srcIp := orElse (field p.fields "ip.src") (field p.fields "arp.src.proto_ipv4")
  let dstIp := orElse (field p.fields "ip.dst") (field p.fields "arp.dst.proto_ipv4")
  let timestamp := field p.fields "frame.time"
  let epoch := field p.fields "frame.time_epoch"
  { packetCount := conv.packetCount + 1
    bytes := conv.bytes + frameLen
    transport := orElse conv.transport p.transport
    srcPorts := if p.srcPort ≠ 0 ∧ conv.srcPorts.length < 100 then addTo conv.srcPorts p.srcPort else conv.srcPorts
    srcIps := if srcIp ≠ "" then addTo conv.srcIps srcIp else conv.srcIps
    dstIps := if dstIp ≠ "" then addTo conv.dstIps dstIp else conv.dstIps
    firstSeen := if conv.firstSeen = "" ∨ timestamp < conv.firstSeen then timestamp else conv.firstSeen
    lastSeen := if conv.lastSeen = "" ∨ conv.lastSeen < timestamp then timestamp else conv.lastSeen
    timestamps :=
      if epoch ≠ "" ∧ conv.timestamps.length < 5000 then conv.timestamps ++ (tables.float epoch).toList
      else conv.timestamps
    details := details }

def frameLen (p : LinePacket) : Option Nat := tables.int (orElse (field p.fields "frame.len") "0")

def countPacket (s : LineState Details) (p : LinePacket) : Option (LineState Details) := do
  let (noted, key) := collapse collapseThreshold s p
  let key := fold noted.convMap key
  let conv := (noted.convMap.get key).getD (LineConv.start parsing)
  let length ← frameLen tables p
  let details ← parsing.parseInline p.fields p.protocol conv.details
  some { noted with convMap := noted.convMap.set key (conv.add tables p length details) }

/-- A line of the output; there is no result where an exception ends the pass. -/
def tsharkLine (s : LineState Details) (line : String) : Option (LineState Details) :=
  if line = "" then some s
  else do
    let counted := { s with pktCount := s.pktCount + 1 }
    match ← readPacket tables line with
    | none => some { counted with skipped := s.skipped + 1 }
    | some p => countPacket tables parsing collapseThreshold counted p

def runTsharkPass (lines : List String) (s : LineState Details) : Option (LineState Details) :=
  lines.foldlM (tsharkLine tables parsing collapseThreshold) s

end Pass

end Marlinspike.Dissect.Lines
