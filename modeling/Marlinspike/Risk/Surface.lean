import Marlinspike.Json
import Marlinspike.Topology.Profile

/-!
The risk surface: the findings of every check on a topology and its conversations, the
command-and-control indicators and the ranked targets. Where Python makes a list of a set,
its order is that of the first occurrences here.
-/
namespace Marlinspike.Risk.Surface
open Marlinspike.Cidr
open Marlinspike.Topology.Graph
open Marlinspike.Topology.Profile

structure RiskFinding where
  severity : String
  category : String
  description : String
  affectedNodes : List String
  affectedEdges : List String := []
  cvssImpact : Rat := 0
  remediation : String := ""
deriving DecidableEq

structure PurdueViolation where
  src : String
  dst : String
  srcLevel : Int
  dstLevel : Int
  protocol : String
  bytesTotal : Nat
  description : String
deriving DecidableEq

/-- What all indicators have, and the fields of their own. -/
structure C2Indicator where
  type : String
  severity : String
  src : String
  dst : String
  description : String
  fields : List (String × Json)

structure Target where
  ip : String
  role : String
  vendor : String
  priority : Nat
  recommendedModules : List String
deriving DecidableEq

/-- How floats are rounded and written. -/
structure Formats where
  round : Nat → Rat → Rat
  /-- With so many decimals. -/
  fixed : Nat → Rat → String
  /-- `:.0%`. -/
  percent : Rat → String

/-- `topology`, as the analysis keeps it: the nodes by IP or MAC. -/
structure RiskSurface where
  nodes : ProfiledNodes
  edges : List TopologyEdge
  conversations : List Conversation
  skipC2 : Bool
  captureDuration : Rat

def nodesByKey (nodes : List ProfiledNode) : ProfiledNodes :=
  nodes.foldl (fun byKey node => byKey.set (either node.ip node.mac) node) PyDict.empty

/-- The endpoints of some conversations, the senders first. -/
def endpointsOf (convs : List Conversation) : List String :=
  (convs.map (·.srcKey) ++ convs.map (·.dstKey)).dedup

def link (src dst : String) : String := src ++ " → " ++ dst

section Checks
variable (tables : Tables) (formats : Formats) (surface : RiskSurface)

def levelOf (key : String) : Int :=
  match surface.nodes.get key with
  | some node => node.purdueLevel
  | none => -1

/-! ### External addresses -/

/-- `RiskSurface._is_public_ip`: `is_global`, and nothing else. -/
def isGlobalIp (ip : String) : Bool :=
  match tables.net.address ip with
  | none => false
  | some a => tables.net.isGlobal a

def srcPublic (conv : Conversation) : Bool := conv.srcIp ≠ "" && isGlobalIp tables conv.srcIp
def dstPublic (conv : Conversation) : Bool := conv.dstIp ≠ "" && isGlobalIp tables conv.dstIp

/-- The nodes that speak OT protocols. -/
def otNodes : List String :=
  (surface.nodes.items.filter fun item => item.2.protocols.any (tables.otNames.contains ·)).map Prod.fst

/-- The asset and the public address of a conversation between an OT asset and one. -/
def exposure (conv : Conversation) : Option (String × String) :=
  if (otNodes tables surface).contains conv.srcKey && dstPublic tables conv then some (conv.srcKey, conv.dstIp)
  else if (otNodes tables surface).contains conv.dstKey && srcPublic tables conv then some (conv.dstKey, conv.srcIp)
  else none

def externalIps : List String := ((surface.conversations.filterMap (exposure tables surface)).map Prod.snd).dedup

def checkExternalComms : List RiskFinding :=
  let externalConvs := surface.conversations.filter fun conv => (exposure tables surface conv).isSome
  let exposed := ((surface.conversations.filterMap (exposure tables surface)).map Prod.fst).dedup
  let external := externalIps tables surface
  let critical :=
    if externalConvs = [] then []
    else
      [{ severity := "CRITICAL"
         category := "ICS_EXTERNAL_COMMS"
         description :=
           s!"{exposed.length} OT asset(s) communicating with {external.length} public internet address(es): " ++
             ", ".intercalate (external.mergeSort (· ≤ ·)) ++
             ". ICS assets should not have direct internet connectivity."
         affectedNodes := (exposed ++ external).dedup
         affectedEdges := externalConvs.map fun conv =>
           link conv.srcKey conv.dstKey ++ s!" ({conv.protocol}, {conv.packetCount} pkts)"
         remediation :=
           "Isolate ICS network from internet. Implement DMZ architecture with data diodes or proxies for any required " ++
             "external data flows. Investigate why OT assets are reaching public addresses — potential data exfiltration, " ++
             "misconfigured NAT, or unauthorized connectivity." }]
  let allPublic := (surface.nodes.items.filter fun item => item.2.purdueLevel = 5).map Prod.fst
  let remaining := allPublic.filter fun ip => !external.contains ip
  let info :=
    if remaining = [] then []
    else
      [{ severity := "INFO"
         category := "EXTERNAL_IPS_OBSERVED"
         description :=
           "Public internet addresses observed in capture: " ++ ", ".intercalate (remaining.mergeSort (· ≤ ·))
         affectedNodes := remaining
         remediation := "Verify expected external communications. ICS networks should minimize internet exposure." }]
  critical ++ info

/-! ### Zones -/

/-- The edges whose ends both are nodes, with their levels. -/
def levelledEdges : List (TopologyEdge × Int × Int) :=
  surface.edges.filterMap fun e =>
    match surface.nodes.get e.src, surface.nodes.get e.dst with
    | some src, some dst => some (e, src.purdueLevel, dst.purdueLevel)
    | _, _ => none

def violationOf (describe : Int → Int → String) (edge : TopologyEdge × Int × Int) : PurdueViolation where
  src := edge.1.src
  dst := edge.1.dst
  srcLevel := edge.2.1
  dstLevel := edge.2.2
  protocol := edge.1.protocol
  bytesTotal := edge.1.bytesTotal
  description := describe edge.2.1 edge.2.2

def crossesPurdue (srcLevel dstLevel : Int) : Bool :=
  (srcLevel = 0 ∨ srcLevel = 1) ∧ 3 ≤ dstLevel ∨ 3 ≤ srcLevel ∧ (dstLevel = 0 ∨ dstLevel = 1)

def crossPurdueViolations : List PurdueViolation :=
  ((levelledEdges surface).filter fun edge => crossesPurdue edge.2.1 edge.2.2).map
    (violationOf fun srcLevel dstLevel =>
      s!"Purdue Level {srcLevel} direct communication to Level {dstLevel} (zone bypass)")

def checkCrossPurdue : List RiskFinding :=
  let violations := crossPurdueViolations surface
  if violations = [] then []
  else
    [{ severity := "HIGH"
       category := "CROSS_PURDUE"
       description := s!"Detected {violations.length} cross-Purdue-level communications bypassing supervisory layer"
       affectedNodes := (violations.flatMap fun v => [v.src, v.dst]).dedup
       affectedEdges := violations.map fun v => link v.src v.dst
       remediation := "Implement zone segmentation with firewall rules enforcing Purdue model boundaries" }]

def crossesConduit (srcLevel dstLevel : Int) : Bool :=
  0 ≤ srcLevel ∧ 0 ≤ dstLevel ∧ 1 < (srcLevel - dstLevel).natAbs

def conduitViolations : List PurdueViolation :=
  ((levelledEdges surface).filter fun edge => crossesConduit edge.2.1 edge.2.2).map
    (violationOf fun srcLevel dstLevel =>
      s!"Direct link crossing non-adjacent Purdue levels {srcLevel} -> {dstLevel} (IEC 62443 violation)")

def checkConduits : List RiskFinding :=
  let violations := conduitViolations surface
  if violations = [] then []
  else
    [{ severity := "HIGH"
       category := "IEC62443_CONDUIT_VIOLATION"
       description := s!"Detected {violations.length} un-conduited boundary crossings between non-adjacent Purdue levels " ++
         "(IEC 62443-3-2 violation)"
       affectedNodes := (violations.map (·.src) ++ violations.map (·.dst)).dedup
       affectedEdges := violations.map fun v => s!"{v.src} (Level {v.srcLevel}) → {v.dst} (Level {v.dstLevel})"
       remediation := "Enforce IEC 62443 conduit controls using dedicated Level 3.5 DMZ firewalls or OT proxies." }]

def checkModbusWrites : List RiskFinding :=
  let writes := surface.conversations.filter fun conv => 0 < conv.modbusWrites
  if writes = [] then []
  else
    [{ severity := "HIGH"
       category := "MODBUS_WRITE_COIL"
       description := s!"Observed {writes.length} Modbus TCP control write command flow(s) targeting field PLCs " ++
         "(Function Codes 0x05/0x06/0x10)"
       affectedNodes := endpointsOf writes
       affectedEdges := writes.map fun conv => link conv.srcKey conv.dstKey
       remediation := "Restrict Modbus TCP write permissions using hardware key switches or firewall ACLs." }]

def checkConduitAndCommandAnomalies : List RiskFinding := checkConduits surface ++ checkModbusWrites surface

/-! ### Engineering traffic -/

def checkCleartextEngineering : List RiskFinding :=
  let cleartext := surface.conversations.filter fun conv =>
    (within "S7comm" conv.protocol || within "Modbus" conv.protocol) && (conv.s7ProgramAccess || 0 < conv.modbusWrites)
  if cleartext = [] then []
  else
    [{ severity := "HIGH"
       category := "CLEARTEXT_ENG"
       description := "Engineering operations conducted over cleartext protocols"
       affectedNodes := endpointsOf cleartext
       remediation := "Enable TLS for S7comm, use VPN for engineering access, implement MFA" }]

def checkWriteSources : List RiskFinding :=
  let sources := ((surface.conversations.filter fun conv => 0 < conv.modbusWrites).map (·.srcKey)).dedup
  if 2 < sources.length then
    [{ severity := "MEDIUM"
       category := "MODBUS_WRITE_ANON"
       description := s!"Multiple sources ({sources.length}) performing Modbus write operations"
       affectedNodes := sources
       remediation := "Restrict write access to authorized engineering workstations only" }]
  else []

def checkOpcSecurity : List RiskFinding :=
  let insecure := surface.conversations.filter fun conv => within "OPC-UA" conv.protocol && conv.opcNoSecurity
  if insecure = [] then []
  else
    [{ severity := "HIGH"
       category := "OPC_NO_SECURITY"
       description := "OPC-UA sessions established with SecurityMode=None"
       affectedNodes := endpointsOf insecure
       remediation := "Enable OPC-UA security policies (Basic256Sha256 minimum)" }]

def checkProgramAccess : List RiskFinding :=
  let access := surface.conversations.filter (·.s7ProgramAccess)
  if access = [] then []
  else
    [{ severity := "CRITICAL"
       category := "S7_PROGRAM_ACCESS"
       description := "S7comm program upload/download detected — PLC logic exposed"
       affectedNodes := endpointsOf access
       remediation := "Disable remote program access, require physical key switch for programming mode" }]

/-! ### Nodes -/

def authCapableProtocols : List String :=
  ["ssh", "rdp", "vnc", "telnet", "http", "https", "http-alt", "https-alt", "smb", "ftp", "tftp", "snmp", "snmp trap",
   "ldap", "ldaps", "kerberos", "modbus tcp", "ethernet/ip", "cip", "opc-ua", "s7comm", "dnp3", "iec 60870-5-104",
   "mqtt", "mqtt tls", "amqp", "mssql", "oracle", "mysql", "postgresql", "winrm http", "winrm https", "sip", "sip tls"]

def isInternal (node : ProfiledNode) : Bool :=
  node.assetType ≠ "external" ∧ node.assetType ≠ "network" ∧ node.purdueLevel ≠ -1 ∧ node.purdueLevel ≠ 5

def lacksAuth (node : ProfiledNode) : Bool :=
  !node.authObserved && isInternal node && (nodeServiceNames tables node).any (authCapableProtocols.contains ·)

def checkNoAuth : List RiskFinding :=
  let unauth := (surface.nodes.items.filter fun item => lacksAuth tables item.2).map Prod.fst
  let internalCount := (surface.nodes.items.filter fun item => isInternal item.2).length
  let pct : Rat := if internalCount = 0 then 0 else (unauth.length : Rat) / internalCount * 100
  if unauth = [] then []
  else
    [{ severity := "MEDIUM"
       category := "NO_AUTH_OBSERVED"
       description := s!"{unauth.length} device(s) using auth-capable protocols show " ++
         s!"no authentication exchanges ({formats.fixed 0 pct}% of internal assets)"
       affectedNodes := unauth.take 20
       remediation := "Implement authentication for all OT protocols where supported" }]

def scanThreshold : Nat := 20

/-- More unknown ports than this make one finding for all of them. -/
def scanTarget (key kind : String) (ports : List String) : RiskFinding where
  severity := "HIGH"
  category := "PORT_SCAN_TARGET"
  description := s!"Possible port scan target: {key} has {ports.length} unknown {kind} (sample: " ++
    ", ".intercalate (ports.take 10) ++ ", ...)"
  affectedNodes := [key]
  remediation := "Investigate scanning activity — review firewall logs and IDS alerts for this host"

def portsOf (key : String) (node : ProfiledNode) : List RiskFinding :=
  let cleartext := node.servicePorts.filter fun sp => [23, 21, 5900, 5901].contains sp.port
  let unknown := node.servicePorts.filter fun sp =>
    sp.category = "Unknown" ∧ 0 ≤ node.purdueLevel ∧ node.purdueLevel ≤ 3
  let itOnOt := node.servicePorts.filter fun sp =>
    sp.category = "IT" ∧ (node.purdueLevel = 0 ∨ node.purdueLevel = 1) ∧
      ¬[53, 67, 68, 123, 161, 162, 514, 5353].contains sp.port
  let high := node.servicePorts.filter fun sp =>
    10000 < sp.port ∧ sp.category = "Unknown" ∧ (sp.port < ephemeralPortMin ∨ 3 ≤ sp.connections)
  let cleartextFindings := cleartext.map fun sp : ServicePort =>
    ({ severity := "HIGH"
       category := "CLEARTEXT_REMOTE_ACCESS"
       description := s!"Cleartext remote access service ({sp.protocol}) on {key}:{sp.port}"
       affectedNodes := [key]
       remediation := s!"Replace {sp.protocol} with encrypted alternative (SSH, SFTP, VPN)" } : RiskFinding)
  let unknownFindings :=
    if scanThreshold < unknown.length then
      [scanTarget key "service ports" (unknown.map fun sp => s!"{sp.port}/{sp.transport}")]
    else
      unknown.map fun sp : ServicePort =>
        ({ severity := "MEDIUM"
           category := "UNKNOWN_SERVICE_PORT"
           description := s!"Unknown service on OT device {key}:{sp.port}/{sp.transport}"
           affectedNodes := [key]
           remediation := "Investigate unknown services — may indicate unauthorized software or backdoor" } : RiskFinding)
  let itFindings := itOnOt.map fun sp : ServicePort =>
    ({ severity := "MEDIUM"
       category := "IT_SERVICE_ON_OT_DEVICE"
       description := s!"IT service ({sp.protocol}) on field device {key}:{sp.port}"
       affectedNodes := [key]
       remediation := "Field devices should not run IT services — restrict to OT protocols only" } : RiskFinding)
  let highFindings :=
    if scanThreshold < high.length then
      if unknown.length ≤ scanThreshold then
        [scanTarget key "high-port services" (high.map fun sp => s!"{sp.port}/{sp.transport}")]
      else []
    else
      high.map fun sp : ServicePort =>
        ({ severity := "MEDIUM"
           category := "HIGH_PORT_SERVICE"
           description := s!"Unknown high-port service on {key}:{sp.port}/{sp.transport} ({sp.connections} connections)"
           affectedNodes := [key]
           remediation :=
             "Investigate high-port services — may indicate C2 channel, tunneling, or unauthorized application" } :
          RiskFinding)
  cleartextFindings ++ unknownFindings ++ itFindings ++ highFindings

def checkPortAnalysis : List RiskFinding := surface.nodes.items.flatMap fun item => portsOf item.1 item.2

def eolProductLines : List (String × String) :=
  [("s7-300", "Siemens SIMATIC S7-300 (EOL - limited support)"),
   ("s7-400", "Siemens SIMATIC S7-400 (Legacy - transition phase)"),
   ("slc 500", "Allen-Bradley SLC 500 (EOL - discontinued)"),
   ("microLogix", "Allen-Bradley MicroLogix 1000/1500 (EOL - discontinued)"),
   ("modicon quantum", "Schneider Electric Modicon Quantum (EOL - discontinued)"),
   ("ac800m", "ABB AC 800M (Legacy version - update required)")]

def checkEolStatus : List RiskFinding :=
  surface.nodes.items.flatMap fun item =>
    if item.2.productLine = "" then []
    else
      (eolProductLines.filter fun eol => within (tables.lower eol.1) (tables.lower item.2.productLine)).map fun eol =>
        { severity := "MEDIUM"
          category := "ASSET_EOL"
          description := s!"Asset ({item.1}) fingerprinted as EOL/EOS product line: {eol.2}. Manufacturer: {item.2.vendor}"
          affectedNodes := [item.1]
          remediation := "Migrate legacy PLC infrastructure to active product families (e.g. S7-1500 or ControlLogix " ++
            "5580). Apply strict segmentation." }

/-! ### Roles -/

def roleOf (key : String) : Option String := (surface.nodes.get key).map (·.role)

/-- `_check_baseline_deviations` on one conversation between two nodes. -/
def baselineDeviations (conv : Conversation) : List RiskFinding :=
  match roleOf surface conv.srcKey, roleOf surface conv.dstKey with
  | some srcRole, some dstRole =>
    (if srcRole = "Human-Machine Interface" ∧ (conv.s7ProgramAccess = true ∨ 0 < conv.modbusWrites) then
      [{ severity := "HIGH"
         category := "BASELINE_DEVIATION"
         description := s!"HMI ({conv.srcKey}) observed executing program logic changes on PLC ({conv.dstKey}), " ++
           "violating role baseline"
         affectedNodes := [conv.srcKey, conv.dstKey]
         affectedEdges := [link conv.srcKey conv.dstKey]
         remediation := "Logic modifications must only be initiated by authorized Engineering Workstations. " ++
           "Update HMI authorization profile." }]
    else []) ++
    (if srcRole = "Programmable Logic Controller" ∧ dstRole = "Human-Machine Interface" ∧
        ["Modbus", "S7comm", "CIP"].contains conv.protocol then
      [{ severity := "MEDIUM"
         category := "BASELINE_DEVIATION"
         description := s!"PLC ({conv.srcKey}) initiating connection back to HMI ({conv.dstKey}), " ++
           "violating unidirectional poll baseline"
         affectedNodes := [conv.srcKey, conv.dstKey]
         affectedEdges := [link conv.srcKey conv.dstKey]
         remediation := "Configure PLC firewall settings to drop outbound socket connections to supervisory nodes." }]
    else [])
  | _, _ => []

def checkBaselineDeviations : List RiskFinding := surface.conversations.flatMap (baselineDeviations surface)

/-- A finding for each operation that contains one of some words. -/
def onOperations (conv : Conversation) (words : List String) (finding : String → RiskFinding) : List RiskFinding :=
  (conv.operationsSeen.filter fun op => words.any (within · (tables.lower op))).map finding

def identityFindings (ip : String) (cip : CipIdentity) : List RiskFinding :=
  (if cip.serialNumber = "0" ∨ cip.serialNumber = "00000000" then
    [{ severity := "HIGH"
       category := "PLC_INTEGRITY"
       description := s!"PLC ({ip}) has default or empty serial number ({cip.serialNumber}), indicating unprovisioned or " ++
         "spoofed hardware"
       affectedNodes := [ip]
       remediation := "Provision a unique hardware security identifier and lock the controller configuration chassis." }]
  else []) ++
  (if "1.".toList.isPrefixOf cip.revision.toList ∨ "2.".toList.isPrefixOf cip.revision.toList then
    [{ severity := "HIGH"
       category := "PLC_INTEGRITY"
       description := s!"PLC ({ip}) runs legacy firmware ({cip.revision}) which contains critical unpatched remote code " ++
         "execution vulnerabilities"
       affectedNodes := [ip]
       remediation := "Upgrade the firmware of the controller to the latest vendor-approved LTS version." }]
  else [])

/-- `_check_plc_integrity` on one controller and one of its conversations. -/
def plcFindings (ip : String) (conv : Conversation) : List RiskFinding :=
  let proto := tables.lower conv.protocol
  (match conv.cipIdentity with
    | some cip => identityFindings ip cip
    | none => []) ++
  (if within "cip" proto || within "enip" proto then
    onOperations tables conv ["set_attribute", "restore", "download", "forward_open", "write"] fun op =>
      { severity := "CRITICAL"
        category := "CIP_LADDER_LOGIC_CHANGE"
        description := s!"CIP logic modification / chassis programming command ({op}) observed targeting PLC {ip} from " ++
          conv.srcKey
        affectedNodes := [ip]
        remediation := "Restrict CIP programming paths to designated engineering workstations only, and enable the " ++
          "hardware run/key switch lock." }
  else []) ++
  (if within "modbus" proto && 0 < conv.modbusWrites then
    [{ severity := "HIGH"
       category := "MODBUS_WRITE_PLC"
       description := s!"Modbus TCP write command observed on PLC {ip} from {conv.srcKey}"
       affectedNodes := [ip]
       remediation := "Disable anonymous write registers and segment the Modbus TCP network to authorized hosts only." }]
  else []) ++
  (if within "dnp3" proto then
    onOperations tables conv ["write", "direct_operate", "select", "cold_restart"] fun op =>
      { severity := "HIGH"
        category := "DNP3_CONFIG_CHANGE"
        description := s!"DNP3 direct control or configuration write command ({op}) observed targeting outstation {ip} " ++
          s!"from {conv.srcKey}"
        affectedNodes := [ip]
        remediation := "Enforce DNP3 Secure Authentication (SAv5) or filter control commands using an inline " ++
          "industrial IPS." }
  else []) ++
  (if within "bacnet" proto || within "profinet" proto || within "pn_dcp" proto then
    onOperations tables conv ["write", "reinitialize", "set", "reset"] fun op =>
      { severity := "HIGH"
        category := "OT_CONFIG_WRITE"
        description := s!"{conv.protocol} parameter modification or configuration write command ({op}) observed " ++
          s!"targeting device {ip} from {conv.srcKey}"
        affectedNodes := [ip]
        remediation := "Filter configuration parameters using inline industrial firewalls or enable secure " ++
          "communications mode." }
  else [])

def checkPlcIntegrity : List RiskFinding :=
  (surface.nodes.items.filter fun item =>
    item.2.role = "Programmable Logic Controller" ∧ item.2.ip ≠ "").flatMap fun item =>
      (surface.conversations.filter fun conv => conv.srcIp = item.2.ip ∨ conv.dstIp = item.2.ip).flatMap
        (plcFindings tables item.2.ip)

/-! ### Operations -/

/-- `_check_ot_threat_signatures` on one conversation. -/
def threatSignatures (conv : Conversation) : List RiskFinding :=
  (if conv.protocol = "S7comm" ∧ (conv.s7Functions.contains "STOP" ∨ conv.s7Functions.contains "CPU Control") then
    [{ severity := "CRITICAL"
       category := "OT_THREAT_SIGNATURE"
       description := s!"Detected S7 CPU Control STOP sequence targeting PLC ({conv.dstKey}) resembling Industroyer / " ++
         "CrashOverride behavior"
       affectedNodes := [conv.srcKey, conv.dstKey]
       remediation := "Isolate engineering networks immediately, roll back logic verification, and check physical " ++
         "key switches." }]
  else []) ++
  (if conv.port = 1502 ∨ within "TriStation" conv.protocol then
    [{ severity := "CRITICAL"
       category := "OT_THREAT_SIGNATURE"
       description := s!"Detected TriStation protocol communication on port {conv.port} matching Triton/HatMan malware " ++
         "controller interaction"
       affectedNodes := [conv.srcKey, conv.dstKey]
       remediation := "Perform forensic analysis of TriStation memory key registers and isolate the Safety " ++
         "Instrumented System (SIS)." }]
  else []) ++
  (if within "Modbus" conv.protocol && conv.modbusFunctions.contains 8 then
    [{ severity := "HIGH"
       category := "OT_THREAT_SIGNATURE"
       description := s!"Observed Modbus Diagnostic Command (Function Code 8) query targeting PLC ({conv.dstKey}), often " ++
         "used for reconnaissance/recon scanning"
       affectedNodes := [conv.srcKey, conv.dstKey]
       remediation := "Disable Modbus Diagnostic function support in PLC firmware settings and block port 502 at " ++
         "boundary firewall." }]
  else [])

def checkOtThreatSignatures : List RiskFinding := surface.conversations.flatMap threatSignatures

/-- `_check_advanced_protocols` on one conversation. -/
def advancedProtocols (conv : Conversation) : List RiskFinding :=
  let proto := tables.lower conv.protocol
  (if within "bacnet" proto then
    onOperations tables conv ["write", "reinitialize", "create", "delete"] fun op =>
      { severity := "HIGH"
        category := "BACNET_UNAUTH_WRITE"
        description := s!"BACnet unauthenticated write/control command ({op}) observed targeting device {conv.dstKey}"
        affectedNodes := [conv.srcKey, conv.dstKey]
        remediation := "Implement network layer segmentation or transition to BACnet/SC (Secure Connect) to enforce " ++
          "encryption and signature authentication." }
  else []) ++
  (if within "profinet" proto || within "pn_dcp" proto then
    onOperations tables conv ["set", "reset", "flash"] fun op =>
      { severity := "HIGH"
        category := "PROFINET_DCP_SET"
        description := s!"PROFINET DCP configuration set/reset command ({op}) observed targeting device {conv.dstKey}"
        affectedNodes := [conv.srcKey, conv.dstKey]
        remediation := "Restrict L2 network access to authorized segments and block PROFINET DCP multicast commands " ++
          "via smart switches." }
  else []) ++
  (if within "dnp3" proto then
    onOperations tables conv ["write", "direct_operate", "select", "restart"] fun op =>
      { severity := "HIGH"
        category := "DNP3_UNAUTH_CONTROL"
        description := s!"DNP3 control command ({op}) routed to outstation {conv.dstKey} without secure authentication"
        affectedNodes := [conv.srcKey, conv.dstKey]
        remediation := "Enable DNP3 Secure Authentication (SAv5) or tunnel the DNP3 serial/IP connections over IPsec." }
  else [])

def checkAdvancedProtocols : List RiskFinding := surface.conversations.flatMap (advancedProtocols tables)

def isStop (conv : Conversation) : Bool :=
  let notes := tables.upper conv.notes
  ["STOP", "PROGRAM", "CPU_HALT", "FC8_DIAG", "FORCE_OUTPUTS", "RESET"].any (within · notes) ||
    ["STOP", "PLC_STOP"].any ((conv.s7Functions.map tables.upper).contains ·) ||
    ["STOP", "HALT", "PROGRAM"].any ((conv.operationsSeen.map tables.upper).contains ·) ||
    ["S7COMM", "CIP", "MODBUS", "DNP3"].contains (tables.upper conv.protocol) && within "STOP" notes

def checkPlcStateShifts : List RiskFinding :=
  (surface.conversations.filter (isStop tables)).map fun conv =>
    { severity := "CRITICAL"
      category := "PLC_MODE_SHIFT_DETECTED"
      description := s!"PLC operational mode change (STOP/PROGRAM/HALT) observed on {conv.dstKey} from {conv.srcKey} " ++
        s!"({conv.protocol})"
      affectedNodes := [conv.srcKey, conv.dstKey]
      remediation := "Verify whether PLC mode change was authorized. Inspect for unauthorized logic tampering or " ++
        "malicious CPU halt commands." }

/-- The /24 of a dotted address. -/
def subnet24 (ip : String) : Option String :=
  match split '.' ip with
  | [a, b, c, _] => some (a ++ "." ++ b ++ "." ++ c ++ ".0/24")
  | _ => none

/-- The subnets that each MAC has sent from. -/
def macToSubnets (convs : List Conversation) : PyDict String (List String) :=
  convs.foldl
    (fun seen conv =>
      if conv.srcMac ≠ "" ∧ conv.srcIp ≠ "" then
        match subnet24 conv.srcIp with
        | some subnet => seen.set conv.srcMac (addNew ((seen.get conv.srcMac).getD []) subnet)
        | none => seen
      else seen)
    PyDict.empty

/-- The nodes have none of the marks of a rogue endpoint, so that only bridges are found. -/
def checkRogueAndDualHomed : List RiskFinding :=
  ((macToSubnets surface.conversations).items.filter fun item => 1 < item.2.length).map fun item =>
    let label := either (((surface.nodes.get item.1).map (·.ip)).getD "") item.1
    { severity := "HIGH"
      category := "DUAL_HOMED_ENDPOINT_SUSPECT"
      description := s!"Endpoint {label} (MAC: {item.1}) observed actively communicating across multiple subnets (" ++
        ", ".intercalate (item.2.mergeSort (· ≤ ·)) ++ ")"
      affectedNodes := [label]
      remediation := "Verify multi-homed interfaces. Ensure routing between discrete OT subnets is restricted to " ++
        "authorized firewalls." }

def itMgmtPorts : List (Nat × String) :=
  [(22, "SSH"), (3389, "RDP"), (445, "SMB"), (5985, "WinRM"), (5986, "WinRM-HTTPS"), (23, "Telnet")]

/-- `_check_purdue_leak_and_lateral_movement` on one conversation. -/
def lateralMovement (conv : Conversation) : List RiskFinding :=
  match itMgmtPorts.lookup conv.port with
  | none => []
  | some name =>
    let level := levelOf surface conv.dstKey
    if level = 0 ∨ level = 1 then
      [{ severity := "CRITICAL"
         category := "LATERAL_MOVEMENT_SUSPECT"
         description := s!"IT management protocol {name} ({conv.srcKey} -> {conv.dstKey}:{conv.port}) targeting Level " ++
           s!"{level} PLC controller"
         affectedNodes := [conv.srcKey, conv.dstKey]
         remediation := s!"Block {name} traffic targeting Purdue Level 0/1 PLCs. Isolate management subnet via " ++
           "micro-segmentation." }]
    else []

def checkPurdueLeakAndLateralMovement : List RiskFinding := surface.conversations.flatMap (lateralMovement surface)

def isPollingBurst (conv : Conversation) : Bool :=
  ["MODBUS", "DNP3", "BACNET", "PROFINET", "S7COMM", "CIP", "OPCUA"].contains (tables.upper conv.protocol) ∧
    1000 < conv.packetCount ∧ 500000 < conv.bytesTotal

def checkPollingJitterAndBursts : List RiskFinding :=
  (surface.conversations.filter (isPollingBurst tables)).map fun conv =>
    { severity := "MEDIUM"
      category := "OT_POLLING_BURST_ANOMALY"
      description := s!"High-frequency OT polling burst detected between {conv.srcKey} and {conv.dstKey} " ++
        s!"({conv.packetCount} pkts, {conv.bytesTotal} bytes)"
      affectedNodes := [conv.srcKey, conv.dstKey]
      remediation := "Review HMI/SCADA polling configuration to prevent PLC queue exhaustion or Denial of Service." }

/-- `_check_passive_tls_security` on one conversation. -/
def tlsFindings (conv : Conversation) : List RiskFinding :=
  let notes := tables.upper conv.notes
  if [443, 4840, 8443, 8080].contains conv.port then
    (if ["SSLV3", "TLS1.0", "TLS1.1", "RC4", "3DES"].any (within · notes) then
      [{ severity := "MEDIUM"
         category := "WEAK_TLS_CIPHER_OBSERVED"
         description := s!"Deprecated TLS version or weak cipher suite observed between {conv.srcKey} and " ++
           s!"{conv.dstKey}:{conv.port}"
         affectedNodes := [conv.srcKey, conv.dstKey]
         remediation := "Upgrade industrial gateway to TLS 1.2+ with AES-GCM cipher suites." }]
    else []) ++
    (if within "EXPIRED_CERT" notes || within "CERT_EXPIRED" notes then
      [{ severity := "HIGH"
         category := "EXPIRED_TLS_CERTIFICATE"
         description := s!"Expired TLS certificate detected in passive handshake on {conv.dstKey}:{conv.port}"
         affectedNodes := [conv.dstKey]
         remediation := "Renew TLS certificate on industrial web interface or OPC UA server." }]
    else []) ++
    (if within "SELF_SIGNED" notes then
      [{ severity := "MEDIUM"
         category := "SELF_SIGNED_TLS_CERTIFICATE"
         description := s!"Self-signed TLS certificate observed on {conv.dstKey}:{conv.port}"
         affectedNodes := [conv.dstKey]
         remediation := "Deploy internal CA-signed certificates for OT endpoints." }]
    else [])
  else []

def checkPassiveTlsSecurity : List RiskFinding := surface.conversations.flatMap (tlsFindings tables)

def isMalformed (conv : Conversation) : Bool :=
  ["MALFORMED", "BAD_CRC", "INVALID_LENGTH", "FUZZING"].any (within · (tables.upper conv.notes))

def checkProtocolConformance : List RiskFinding :=
  (surface.conversations.filter (isMalformed tables)).map fun conv =>
    let proto := tables.upper conv.protocol
    { severity := "HIGH"
      category := "MALFORMED_INDUSTRIAL_FRAME"
      description := s!"Malformed {proto} frame or invalid header observed between {conv.srcKey} and " ++
        s!"{conv.dstKey}:{conv.port}"
      affectedNodes := [conv.srcKey, conv.dstKey]
      remediation := "Inspect capture for protocol fuzzing or corrupted network interfaces transmitting malformed " ++
        s!"{proto} packets." }

end Checks

end Marlinspike.Risk.Surface
