import Mathlib.Algebra.Order.Ring.Unbundled.Rat
import Marlinspike.Plugins.Values

/-!
The detection of lateral movement, OT reconnaissance, protocols that a host's role does not
account for, and beacons. Of a report its conversations and its nodes are looked at, and
nothing else (`detect_congr`).
-/
namespace Marlinspike.Plugins.Apt
open Marlinspike.Reports (Library)
open Marlinspike.Findings.Identity (sorted)

/-! ### Protocols -/

def smbPorts : List Int := [139, 445]
def smbProtocols : List String := ["SMB", "SMB2", "SMB3", "CIFS", "NETBIOS-SSN", "NBSS"]
def rdpPorts : List Int := [3389]
def rdpProtocols : List String := ["RDP", "MS-RDP", "T.125"]
def winrmPorts : List Int := [5985, 5986]
def winrmProtocols : List String := ["WSMAN", "WINRM"]
def otPorts : List Int := [502, 44818, 102, 20000, 4840, 47808, 1089, 1090, 1091, 9600]
def otProtocols : List String :=
  ["MODBUS", "MODBUS/TCP", "ENIP", "CIP", "ETHERNET/IP", "S7COMM", "S7COMM-PLUS", "DNP3", "DNP", "OPCUA", "OPC-UA",
    "OPCUA-BINARY", "BACNET", "BACNET/IP", "IEC-60870-5-104", "IEC60870", "IEC104", "PROFINET", "PN-DCP", "PN-RT"]

/-- `ROLE_PROTOCOL_EXPECTATIONS`. -/
def roleProtocolExpectations : List (String × List String) :=
  [("HMI", otProtocols ++ ["HTTP", "HTTPS", "DNS", "NTP", "ICMP", "ARP"]),
    ("PLC", otProtocols ++ ["DNS", "NTP", "ICMP", "ARP", "LLDP", "STP"]),
    ("RTU", otProtocols ++ ["DNS", "NTP", "ICMP", "ARP"]),
    ("ENGINEERING WORKSTATION", otProtocols ++ ["HTTP", "HTTPS", "DNS", "NTP", "ICMP", "ARP", "SSH", "RDP", "FTP", "SMB",
      "SMB2", "TELNET"]),
    ("HISTORIAN", otProtocols ++ ["HTTP", "HTTPS", "DNS", "NTP", "ICMP", "ARP", "SQL", "MSSQL"]),
    ("DATA SERVER", ["HTTP", "HTTPS", "DNS", "NTP", "ICMP", "ARP", "SQL", "MSSQL", "POSTGRES", "MYSQL", "SMB", "SMB2"]),
    ("INFRASTRUCTURE SERVER", ["HTTP", "HTTPS", "DNS", "NTP", "ICMP", "ARP", "SMTP", "LDAP", "KERBEROS", "SMB", "SMB2"])]

/-! ### Settings -/

/-- A detector of fan-out. -/
structure Fanout where
  enabled : Bool
  threshold : Int
deriving DecidableEq, Repr

structure Beaconing where
  enabled : Bool
  minScore : Rat
  minIntervalS : Rat
  maxIntervalS : Rat
  minPacketCount : Int
  excludedProtocols : List String
  externalDstOnly : Bool
deriving DecidableEq, Repr

structure Settings where
  smb : Fanout
  rdp : Fanout
  winrm : Fanout
  otReconnaissance : Fanout
  newHostProtocol : Bool
  newHostMinPackets : Int
  c2Beaconing : Beaconing
  jumpHosts : List String
  otPollingSourceAllowlist : List String
  pollingSourceRoles : List String
deriving DecidableEq, Repr

structure PackFanout where
  enabled : Option Bool
  threshold : Option Int
deriving DecidableEq, Repr

/-- `settings` of a pack: what it gives. -/
structure PackSettings where
  smb : PackFanout
  rdp : PackFanout
  winrm : PackFanout
  otReconnaissance : PackFanout
  newHostProtocol : Option Bool
  newHostMinPackets : Option Int
  c2Enabled : Option Bool
  c2MinScore : Option Rat
  c2MinIntervalS : Option Rat
  c2MaxIntervalS : Option Rat
  c2MinPacketCount : Option Int
  c2ExternalDstOnly : Option Bool
  c2ExcludedProtocols : Option (List String)
  jumpHosts : List String
  otPollingSourceAllowlist : List String
  pollingSourceRoles : Option (List String)
deriving DecidableEq, Repr

def defaults : Settings :=
  { smb := ⟨true, 5⟩, rdp := ⟨true, 2⟩, winrm := ⟨true, 2⟩, otReconnaissance := ⟨true, 5⟩
    newHostProtocol := true, newHostMinPackets := 3
    c2Beaconing := ⟨true, 7 / 10, 30, 3600, 6,
      ["ARP", "DNS", "MDNS", "LLMNR", "NTP", "ICMP", "ICMPV6", "DHCP", "DHCPV6", "STP", "LLDP", "CDP", "IGMP", "MODBUS",
        "MODBUS TCP", "MODBUS/TCP", "ENIP", "ETHERNET/IP", "CIP", "S7COMM", "S7COMM-PLUS", "DNP3", "DNP", "OPCUA",
        "OPC-UA", "OPCUA-BINARY", "BACNET", "BACNET/IP", "IEC-60870-5-104", "IEC60870", "IEC104", "PROFINET", "PN-DCP",
        "PN-RT", "GOOSE", "MMS"], true⟩
    jumpHosts := [], otPollingSourceAllowlist := []
    pollingSourceRoles := ["HMI", "HISTORIAN", "ENGINEERING WORKSTATION"] }

def mergeFanout (merged : Fanout) (pack : PackFanout) : Fanout :=
  ⟨pack.enabled.getD merged.enabled, pack.threshold.getD merged.threshold⟩

def mergePack (library : Library) (merged : Settings) (pack : PackSettings) : Settings :=
  let normalized (texts : List String) := (texts.filter (· ≠ "")).map fun t => library.upper (library.strip t)
  { smb := mergeFanout merged.smb pack.smb
    rdp := mergeFanout merged.rdp pack.rdp
    winrm := mergeFanout merged.winrm pack.winrm
    otReconnaissance := mergeFanout merged.otReconnaissance pack.otReconnaissance
    newHostProtocol := pack.newHostProtocol.getD merged.newHostProtocol
    newHostMinPackets := pack.newHostMinPackets.getD merged.newHostMinPackets
    c2Beaconing :=
      { enabled := pack.c2Enabled.getD merged.c2Beaconing.enabled
        minScore := pack.c2MinScore.getD merged.c2Beaconing.minScore
        minIntervalS := pack.c2MinIntervalS.getD merged.c2Beaconing.minIntervalS
        maxIntervalS := pack.c2MaxIntervalS.getD merged.c2Beaconing.maxIntervalS
        minPacketCount := pack.c2MinPacketCount.getD merged.c2Beaconing.minPacketCount
        excludedProtocols := (pack.c2ExcludedProtocols.map normalized).getD merged.c2Beaconing.excludedProtocols
        externalDstOnly := pack.c2ExternalDstOnly.getD merged.c2Beaconing.externalDstOnly }
    jumpHosts := appendUnique merged.jumpHosts (pack.jumpHosts.map library.strip)
    otPollingSourceAllowlist :=
      appendUnique merged.otPollingSourceAllowlist (pack.otPollingSourceAllowlist.map library.strip)
    pollingSourceRoles := (pack.pollingSourceRoles.map normalized).getD merged.pollingSourceRoles }

/-- `_merge_packs`: later packs override earlier ones. -/
def mergePacks (library : Library) (packs : List PackSettings) : Settings := packs.foldl (mergePack library) defaults

/-! ### What is read of a report -/

/-- A conversation; a number that cannot be read is none. -/
structure Conv where
  protocol : String
  dstPort : Option Int
  srcIp : String
  dstIp : String
  packetCount : Option Int
  firstSeen : String
  /-- `first_seen`, or else `timestamp`. -/
  seen : String
  beaconScore : Option Rat
  beaconInterval : Option Rat
  beaconJitter : Option Rat
deriving DecidableEq, Repr

/-- `raw in (None, "", 0)`. -/
def isBlankPort : Json → Bool
  | .null => true
  | .bool b => !b
  | .int i => i = 0
  | .float r => r = 0
  | .str s => s = ""
  | _ => false

/-- `_dst_port`. -/
def dstPort (numbers : Numbers) (conv : Json) : Option Int :=
  let raw := if isBlankPort (conv.get "dst_port") then conv.get "port" else conv.get "dst_port"
  if isBlankPort raw then none else raw.toInt numbers

def numberOr (numbers : Numbers) (v : Json) : Option Rat := if v.truthy then v.toRat numbers else some 0

def convOf (library : Library) (numbers : Numbers) (conv : Json) : Conv :=
  { protocol := library.upper ((conv.get "protocol").stripped library)
    dstPort := dstPort numbers conv
    srcIp := (conv.get "src_ip").stripped library
    dstIp := (conv.get "dst_ip").stripped library
    packetCount := if (conv.get "packet_count").truthy then (conv.get "packet_count").toInt numbers else some 0
    firstSeen := (conv.get "first_seen").text library
    seen := if (conv.get "first_seen").truthy then (conv.get "first_seen").text library else (conv.get "timestamp").text library
    beaconScore := numberOr numbers (conv.get "beacon_score")
    beaconInterval := numberOr numbers (conv.get "beacon_interval")
    beaconJitter := numberOr numbers (conv.get "beacon_jitter") }

/-- `_build_node_role_index`: the last node of an IP that has a role. -/
def nodeRoles (library : Library) (nodes : List Json) : PyDict String String :=
  nodes.foldl (fun roles node =>
    let ip := (node.get "ip").stripped library
    let role := library.upper (((if (node.get "role").truthy then node.get "role" else node.get "device_type")).stripped library)
    if ip = "" ∨ role = "" then roles else roles.set ip role) PyDict.empty

/-! ### Findings -/

/-- `CATEGORY_ATTACK`. -/
def categoryAttack : List (String × List String) :=
  [("APT_LATERAL_MOVEMENT_SMB", ["T1021.002", "T1570"]), ("APT_LATERAL_MOVEMENT_RDP", ["T1021.001"]),
    ("APT_LATERAL_MOVEMENT_WINRM", ["T1021.006"]), ("APT_OT_RECONNAISSANCE", ["T0842", "T0840", "T0888"]),
    ("APT_NEW_HOST_PROTOCOL", ["T1018", "T1046"]), ("APT_C2_BEACON", ["T1071", "T1102", "T1573"])]

/-- A finding; `src_ip` and its own fields stand between its category and its techniques. -/
structure Finding where
  category : String
  srcIp : String
  unexpectedProtocol : String
  dstIp : String
  fields : List (String × Json)
  severity : String
  detail : String

def Finding.toJson (finding : Finding) : Json :=
  .obj ([("category", .str finding.category), ("src_ip", .str finding.srcIp)] ++ finding.fields ++
    [("attack_techniques", Json.ofTexts ((categoryAttack.lookup finding.category).getD [])),
      ("severity", .str finding.severity), ("detail", .str finding.detail)])

section Detectors
variable (library : Library) (numbers : Numbers) (settings : Settings) (isExternal : String → Bool)

/-- `_matches_family`. -/
def matchesFamily (ports : List Int) (protocols : List String) (conv : Conv) : Bool :=
  protocols.contains conv.protocol || conv.dstPort.any ports.contains

/-- The conversations of a family between two hosts. -/
def familyConvs (ports : List Int) (protocols : List String) (convs : List Conv) : List Conv :=
  convs.filter fun c => matchesFamily ports protocols c ∧ c.srcIp ≠ "" ∧ c.dstIp ≠ "" ∧ c.srcIp ≠ c.dstIp

def targetsOf (convs : List Conv) (src : String) : List String :=
  sortedSet ((convs.filter (·.srcIp = src)).map (·.dstIp))

def earliest (times : List String) : String := (sorted (times.filter (· ≠ ""))).headD ""

/-- `_detect_lateral_fanout`. -/
def detectLateralFanout (fanout : Fanout) (ports : List Int) (protocols : List String) (category label : String)
    (jumpHostFilter : Bool) (convs : List Conv) : List Finding :=
  if !fanout.enabled then []
  else
    let family := (familyConvs ports protocols convs).filter fun c => ¬(jumpHostFilter ∧ c.srcIp ∈ settings.jumpHosts)
    ((sortedSet (family.map (·.srcIp))).filter fun src => fanout.threshold ≤ (targetsOf family src).length).map fun src =>
      let targets := targetsOf family src
      ⟨category, src, "", "",
        [("distinct_target_ips", Json.ofTexts (targets.take 1000)), ("target_count", .int targets.length),
          ("first_seen", .str (earliest ((family.filter (·.srcIp = src)).map (·.seen))))], "HIGH",
        label ++ " from " ++ src ++ " to " ++ toString targets.length ++ " distinct destination(s) (threshold: " ++
          toString fanout.threshold ++ "). Targets: " ++ commaList (targets.take 8) ++
          (if 8 < targets.length then "..." else "") ++ "."⟩

def detectSmbLateral (convs : List Conv) : List Finding :=
  detectLateralFanout settings settings.smb smbPorts smbProtocols "APT_LATERAL_MOVEMENT_SMB"
    "SMB lateral movement: source" false convs

def detectRdpLateral (convs : List Conv) : List Finding :=
  detectLateralFanout settings settings.rdp rdpPorts rdpProtocols "APT_LATERAL_MOVEMENT_RDP" "RDP fan-out: source" true convs

def detectWinrmLateral (convs : List Conv) : List Finding :=
  detectLateralFanout settings settings.winrm winrmPorts winrmProtocols "APT_LATERAL_MOVEMENT_WINRM"
    "WinRM fan-out: source" true convs

/-- `_detect_ot_recon`: sources that are known to poll are left out. -/
def detectOtRecon (roles : PyDict String String) (convs : List Conv) : List Finding :=
  if !settings.otReconnaissance.enabled then []
  else
    let family := familyConvs otPorts otProtocols convs
    ((sortedSet (family.map (·.srcIp))).filter fun src =>
      settings.otReconnaissance.threshold ≤ (targetsOf family src).length ∧ src ∉ settings.otPollingSourceAllowlist ∧
        (roles.get src).getD "" ∉ settings.pollingSourceRoles).map fun src =>
      let targets := targetsOf family src
      let role := (roles.get src).getD ""
      let protocols := sortedSet ((family.filter (·.srcIp = src)).map fun c =>
        if c.protocol ≠ "" then c.protocol else "port:" ++ ((c.dstPort.map toString).getD "None"))
      ⟨"APT_OT_RECONNAISSANCE", src, "", "",
        [("src_role", .str (if role = "" then "unknown" else role)),
          ("distinct_target_ips", Json.ofTexts (targets.take 1000)), ("target_count", .int targets.length),
          ("ot_protocols", Json.ofTexts protocols)], "HIGH",
        "Source " ++ src ++ " (" ++ (if role = "" then "role unknown" else role) ++ ") initiated OT-protocol traffic to " ++
          toString targets.length ++ " distinct destinations (threshold: " ++
          toString settings.otReconnaissance.threshold ++ ") using " ++ commaList protocols ++
          ". Possible OT asset enumeration or pre-attack reconnaissance."⟩

/-- `_detect_new_host_protocol`; none if it raises, at a packet count that is no number. -/
def detectNewHostProtocol (roles : PyDict String String) (convs : List Conv) : Option (List Finding) :=
  if !settings.newHostProtocol then some []
  else do
    let roleOf := fun src => (roles.get src).getD ""
    let surprising := convs.filter fun c => c.srcIp ≠ "" ∧ c.protocol ≠ "" ∧
      (roleProtocolExpectations.lookup (roleOf c.srcIp)).any fun expected => !expected.contains c.protocol
    let counted ← surprising.mapM fun c => c.packetCount.map fun count => (c, count)
    let kept := counted.filter fun c => settings.newHostMinPackets ≤ c.2
    let keys := ((kept.map fun c => (c.1.srcIp, c.1.protocol)).dedup).mergeSort fun a b => a.1 < b.1 ∨ a.1 = b.1 ∧ a.2 ≤ b.2
    return keys.map fun key =>
      let group := kept.filter fun c => (c.1.srcIp, c.1.protocol) = key
      let dstIps := sortedSet ((group.map (·.1.dstIp)).filter (· ≠ ""))
      let dstPorts := ((group.filterMap (·.1.dstPort)).dedup).mergeSort fun a b => a ≤ b
      let packets := (group.map Prod.snd).sum
      let role := roleOf key.1
      ⟨"APT_NEW_HOST_PROTOCOL", key.1, key.2, "",
        [("src_role", .str role), ("unexpected_protocol", .str key.2), ("dst_ips", Json.ofTexts dstIps),
          ("dst_ports", .arr (dstPorts.map .int)), ("packet_count", .int packets),
          ("first_seen", .str (earliest (group.map (·.1.seen))))], "MEDIUM",
        role ++ " " ++ key.1 ++ " initiated " ++ key.2 ++ " traffic (" ++ toString packets ++ " packets to " ++
          toString dstIps.length ++ " destination(s)). This protocol is not expected from a " ++ role ++
          " role and may indicate compromise, unauthorized tooling, or a misclassified asset."⟩

/-- A conversation whose score and interval are those of a beacon. -/
def isRegular (c : Conv) : Bool :=
  c.beaconScore.any (settings.c2Beaconing.minScore ≤ ·) &&
    c.beaconInterval.any fun s => settings.c2Beaconing.minIntervalS ≤ s ∧ s ≤ settings.c2Beaconing.maxIntervalS

def beaconFinding (c : Conv) (packets : Int) : Rat × Finding :=
  let score := c.beaconScore.getD 0
  let interval := c.beaconInterval.getD 0
  let jitter := c.beaconJitter.getD 0
  let protocol := if c.protocol = "" then "unknown" else c.protocol
  (numbers.round 3 score, ⟨"APT_C2_BEACON", c.srcIp, "", c.dstIp,
    [("dst_ip", .str c.dstIp), ("protocol", .str protocol), ("dst_port", (c.dstPort.map Json.int).getD .null),
      ("beacon_score", .float (numbers.round 3 score)), ("beacon_interval_s", .float (numbers.round 1 interval)),
      ("beacon_jitter_s", .float (numbers.round 3 jitter)), ("packet_count", .int packets),
      ("first_seen", .str c.firstSeen)], "HIGH",
    "Periodic outbound traffic from " ++ c.srcIp ++ " to external " ++ c.dstIp ++ " (" ++ protocol ++ ", interval ~" ++
      numbers.fixed 1 interval ++ "s, jitter ~" ++ numbers.fixed 2 jitter ++ "s, score " ++ numbers.fixed 2 score ++
      "). Consistent with C2 beaconing."⟩)

/-- `_detect_c2_beacons`; none if it raises. -/
def detectC2Beacons (convs : List Conv) : Option (List Finding) :=
  let cfg := settings.c2Beaconing
  if !cfg.enabled then some []
  else do
    let excluded := cfg.excludedProtocols.map fun p => library.upper (library.strip p)
    let counted ← (convs.filter (isRegular settings)).mapM fun c => c.packetCount.map fun count => (c, count)
    let beacons := counted.filter fun c => cfg.minPacketCount ≤ c.2 ∧ c.1.protocol ∉ excluded ∧ c.1.srcIp ≠ "" ∧
      c.1.dstIp ≠ "" ∧ c.1.srcIp ≠ c.1.dstIp ∧ (!cfg.externalDstOnly ∨ isExternal c.1.dstIp)
    return ((beacons.map fun c => beaconFinding numbers c.1 c.2).mergeSort fun a b => b.1 < a.1 ∨
      a.1 = b.1 ∧ (a.2.srcIp < b.2.srcIp ∨ a.2.srcIp = b.2.srcIp ∧ a.2.dstIp ≤ b.2.dstIp)).map Prod.snd

end Detectors

/-! ### The artifact -/

/-- `summary` and `data`. -/
structure Result where
  conversationCount : Nat
  nodeCount : Nat
  findings : List Finding
  settings : Settings

/-- The order of `_detect`: category, source, protocol, destination. -/
def findingKey (f : Finding) : List String := [f.category, f.srcIp, f.unexpectedProtocol, f.dstIp]

/-- `_detect`; none if the plugin raises. -/
def detect (library : Library) (numbers : Numbers) (isExternal : String → Bool) (settings : Settings) (report : Report) :
    Option Result := do
  let convs := ((report.get "conversations").getD .null).objects.map (convOf library numbers)
  let nodes := ((report.get "nodes").getD .null).objects
  if convs.isEmpty then return ⟨0, nodes.length, [], settings⟩
  let roles := nodeRoles library nodes
  let newHosts ← detectNewHostProtocol settings roles convs
  let beacons ← detectC2Beacons library numbers settings isExternal convs
  let findings := detectSmbLateral settings convs ++ detectRdpLateral settings convs ++ detectWinrmLateral settings convs ++
    detectOtRecon settings roles convs ++ newHosts ++ beacons
  return ⟨convs.length, nodes.length, findings.mergeSort fun a b => findingKey a ≤ findingKey b, settings⟩

/-- The fields of a report that count. -/
def fields : List String := ["conversations", "nodes"]

theorem detect_congr {library : Library} {numbers : Numbers} {isExternal : String → Bool} {settings : Settings}
    {report report' : Report} (same : ∀ key ∈ fields, report.get key = report'.get key) :
    detect library numbers isExternal settings report = detect library numbers isExternal settings report' := by
  have conversations := same "conversations" (by decide)
  have nodes := same "nodes" (by decide)
  unfold detect
  rw [conversations, nodes]

end Marlinspike.Plugins.Apt
