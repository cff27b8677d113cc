import Marlinspike.Cidr
import Marlinspike.Topology.Merge

/-!
What the passes after the merge say of each node: its Purdue level, its vendor, its role
and its rank as a target.
-/
namespace Marlinspike.Topology.Profile
open Marlinspike.Cidr
open Marlinspike.Topology.Graph
open Marlinspike.Topology.Merge

/-- `part in text`. -/
def within (part text : String) : Bool := text.toList.tails.any part.toList.isPrefixOf

/-- The module `ipaddress`; there is no result where it raises a `ValueError`. -/
structure Ipaddress where
  address : String → Option Address
  /-- Without `strict`. -/
  network : String → Option Network
  isGlobal : Address → Bool

/-- The tables of signatures, and what else of the language the passes use. -/
structure Tables extends Services where
  net : Ipaddress
  strip : String → String
  /-- `int(text, 0)`. -/
  intAuto : String → Option Int
  /-- `int(text)`. -/
  intDecimal : String → Option Int
  /-- `:04X`. -/
  hex4 : Int → String
  otNames : List String
  externalIpHints : List (String × String × String)
  ouiDb : String → Option (String × List String)
  cipVendorIdMap : Int → Option String
  cipDeviceTypeMap : Int → Option String
  bacnetVendorIdMap : Int → Option String
  profinetVendorIdMap : Int → Option String
  profinetSwitchHints : List String
  iec61850IedHints : List String
  iec61850BayControllerHints : List String
  historianSignatures : List String
  hmiSignatures : List String
  engineeringSignatures : List String
  omronSignatures : List String
  itVendorHostnamePatterns : List (String × String)
  normalizeVendorName : String → String

/-- A node with what the passes say of it. -/
structure ProfiledNode extends TopologyNode where
  vendor : String := "Unknown"
  productLine : String := ""
  deviceType : String := "Unknown"
  purdueLevel : Int := -1
  role : String := "Unknown"
  assetType : String := "local"
  authObserved : Bool := false
  attackPriority : Nat := 0
  recommendedModules : List String := []
deriving DecidableEq

abbrev ProfiledNodes := PyDict String ProfiledNode

def TopologyNode.profiled (node : TopologyNode) : ProfiledNode := { node with }

/-- The conversations of a node as a sender and as a receiver. -/
structure Traffic where
  sent : List Conversation
  received : List Conversation

def trafficOf (b : TopologyBuilder) (ip : String) : Traffic :=
  ⟨(b.convBySrc.get ip).getD [], (b.convByDst.get ip).getD []⟩

section Passes
variable (tables : Tables)

/-! ### Purdue levels -/

def isPublicIp (ip : String) : Bool :=
  match tables.net.address ip with
  | none => false
  | some a => if a.isMulticast then false else tables.net.isGlobal a

def isBroadcastOrMulticast (ip : String) : Bool :=
  match tables.net.address ip with
  | none => false
  | some a => a.isMulticast || a.endsIn255

def identifyExternalService (ip : String) : String :=
  match tables.externalIpHints.find? fun hint => hint.1.toList.isPrefixOf ip.toList with
  | some hint => hint.2.1 ++ " (" ++ hint.2.2 ++ ")"
  | none => "External Endpoint"

def ipInSubnet (ip subnet : String) : Bool :=
  match tables.net.network subnet, tables.net.address ip with
  | some n, some a => n.contains a
  | _, _ => false

abbrev SubnetMap := PyDict String Int

def subnetPrefixlen (subnet : String) : Int :=
  match tables.net.network subnet with
  | some n => n.prefixlen
  | none => -1

/-- The entries of the subnet map, those with the longest networks first. -/
def orderedSubnetMap (subnetMap : SubnetMap) : List (String × Int) :=
  subnetMap.items.mergeSort fun a b => subnetPrefixlen tables b.1 ≤ subnetPrefixlen tables a.1

def mapSubnet (subnetMap : SubnetMap) (ip : String) (node : ProfiledNode) : ProfiledNode :=
  match (orderedSubnetMap tables subnetMap).find? fun entry => ipInSubnet tables ip entry.1 with
  | some (_, level) => { node with purdueLevel := level }
  | none => node

def markNetwork (ip : String) (node : ProfiledNode) : ProfiledNode :=
  if isBroadcastOrMulticast tables ip then
    { node with
      purdueLevel := -1
      role := "Broadcast/Multicast"
      deviceType := "Network Address"
      assetType := "network"
      attackPriority := 0 }
  else node

def markExternal (ip : String) (node : ProfiledNode) : ProfiledNode :=
  if node.purdueLevel ≠ -1 then node
  else if isPublicIp tables ip then
    { node with
      purdueLevel := 5
      role := "External Host"
      assetType := "external"
      deviceType := identifyExternalService tables ip }
  else node

/-- The first pass, over those that speak OT protocols. -/
def inferOt (node : ProfiledNode) : ProfiledNode :=
  if node.purdueLevel ≠ -1 then node
  else if node.protocols.any (tables.otNames.contains ·) then
    if node.responds && !node.initiates then { node with purdueLevel := 1 }
    else if node.initiates then { node with purdueLevel := 2 }
    else { node with purdueLevel := -1 }
  else node

/-- The second pass; `otIps` are the keys of the levels 0 to 2 before it. -/
def inferIt (otIps : List String) (traffic : Traffic) (node : ProfiledNode) : ProfiledNode :=
  if node.purdueLevel ≠ -1 then node
  else
    let talksToOt := traffic.sent.any (otIps.contains ·.dstKey) || traffic.received.any (otIps.contains ·.srcKey)
    if node.responds && !node.initiates then { node with purdueLevel := if talksToOt then 2 else 4 }
    else if node.initiates then { node with purdueLevel := if talksToOt then 3 else 4 }
    else { node with purdueLevel := -1 }

def otIpsOf (nodes : ProfiledNodes) : List String :=
  (nodes.items.filter fun item => [0, 1, 2].contains item.2.purdueLevel).map Prod.fst

def inferPurdueLevels (subnetMap : SubnetMap) (b : TopologyBuilder) (nodes : ProfiledNodes) : ProfiledNodes :=
  let levelled := nodes.mapItems fun ip node =>
    inferOt tables (markExternal tables ip (markNetwork tables ip (mapSubnet tables subnetMap ip node)))
  levelled.mapItems fun ip => inferIt (otIpsOf levelled) (trafficOf b ip)

/-! ### Vendors -/

def byOui (node : ProfiledNode) : ProfiledNode :=
  if node.mac ≠ "" ∧ node.purdueLevel ≠ 5 ∧ node.assetType ≠ "external" then
    let cleanMac := (tables.lower (String.ofList (node.mac.toList.filter fun c => c ∉ [':', '-', '.']))).toList
    if 6 ≤ cleanMac.length then
      let oui := String.ofList (cleanMac.take 2 ++ ':' :: (cleanMac.drop 2).take 2 ++ ':' :: (cleanMac.drop 4).take 2)
      match tables.ouiDb oui with
      | some (vendor, productLines) =>
        { node with
          vendor := vendor
          productLine := ", ".intercalate productLines }
      | none => node
    else node
  else node

/-- A number of a CIP identity. -/
def cipNumber (text : String) : Option Int :=
  if "0x".toList.isPrefixOf text.toList then tables.intAuto text else tables.intDecimal text

def byCip (node : ProfiledNode) (conv : Conversation) : ProfiledNode :=
  match conv.cipIdentity with
  | none => node
  | some cip =>
    { node with
      productLine := either cip.productName node.productLine
      vendor :=
        if cip.vendorId ≠ "" then ((cipNumber tables cip.vendorId).bind tables.cipVendorIdMap).getD node.vendor
        else node.vendor
      deviceType :=
        if cip.deviceType ≠ "" ∧ node.deviceType = "Unknown" then
          ((cipNumber tables cip.deviceType).bind tables.cipDeviceTypeMap).getD node.deviceType
        else node.deviceType }

def byBacnetVendor (node : ProfiledNode) (bacnet : BacnetIdentity) : ProfiledNode :=
  if node.vendor = "Unknown" then
    { node with
      vendor := (bacnet.vendorIds.findSome? fun id => (tables.intAuto id).bind tables.bacnetVendorIdMap).getD "Unknown" }
  else node

/-- The loop ends at the first conversation after which there is a product line. -/
def byBacnet (node : ProfiledNode) : List Conversation → ProfiledNode
  | [] => node
  | conv :: rest =>
    match conv.bacnetIdentity with
    | none => byBacnet node rest
    | some bacnet =>
      let named := byBacnetVendor tables node bacnet
      if named.productLine ≠ "" then named
      else
        match bacnet.objectNames.head? with
        | none => byBacnet named rest
        | some objectName =>
          byBacnet { named with productLine := objectName, systemName := either named.systemName objectName } rest

def isOmronPort (sp : ServicePort) : Bool := sp.port = 9600 || within "omron" (tables.lower sp.protocol)

def byOmron (node : ProfiledNode) (convs : List Conversation) : ProfiledNode :=
  if node.servicePorts.any (isOmronPort tables) then
    match (convs.filterMap (·.omronIdentity)).find? (·.model ≠ "") with
    | none => node
    | some omron =>
      { node with
        vendor := "Omron"
        productLine :=
          if omron.version = "" then omron.model else tables.strip (omron.model ++ " " ++ omron.version)
        deviceType := if node.deviceType = "Unknown" then "Programmable Logic Controller" else node.deviceType }
  else node

def pnVendor (node : ProfiledNode) (pn : PnIdentity) : String :=
  if pn.vendorId = "" then node.vendor
  else
    let vid :=
      (if "0x".toList.isPrefixOf pn.vendorId.toList then tables.intAuto pn.vendorId
        else if tables.isDigit pn.vendorId then tables.intDecimal pn.vendorId else some 0).getD 0
    match tables.profinetVendorIdMap vid with
    | some vendor => vendor
    | none => if vid ≠ 0 ∧ node.vendor = "Unknown" then "PROFINET Vendor 0x" ++ tables.hex4 vid else node.vendor

def pnDeviceType (pn : PnIdentity) : String :=
  let role := tables.lower pn.deviceRole
  let byRole :=
    if pn.deviceRole = "" then "Unknown"
    else if within "controller" role ∨ pn.deviceRole = "2" then "IO Controller"
    else if within "device" role ∨ pn.deviceRole = "1" then "IO Device"
    else if within "supervisor" role ∨ pn.deviceRole = "4" then "IO Supervisor"
    else "Unknown"
  if byRole = "Unknown" ∧ pn.stationName ≠ "" ∧
      tables.profinetSwitchHints.any (within · (tables.lower pn.stationName)) then "Network Switch"
  else byRole

def byPn (node : ProfiledNode) (convs : List Conversation) : ProfiledNode :=
  match convs.findSome? (·.pnIdentity) with
  | none => node
  | some pn =>
    { node with
      systemName := either node.systemName pn.stationName
      vendor := pnVendor tables node pn
      deviceType := if node.deviceType = "Unknown" then pnDeviceType tables pn else node.deviceType }

/-- The shortest name, the first of them in order. -/
def shortestName (names : List String) : String :=
  match names.mergeSort (· ≤ ·) with
  | [] => ""
  | first :: rest => rest.foldl (fun best name => if name.length < best.length then name else best) first

def byIec61850 (node : ProfiledNode) (convs : List Conversation) : ProfiledNode :=
  let gooses := convs.filterMap (·.gooseIdentity)
  let names := convs.flatMap (·.mmsIdentity) ++ gooses.flatMap (·.gocbRefs) ++ gooses.flatMap (·.goIds)
  if names ≠ [] ∧ (node.servicePorts.any (·.port = 102) ∨
      node.protocols.any fun proto => within "goose" (tables.lower proto)) then
    let primary := shortestName names
    let text := tables.lower primary
    { node with
      systemName := either node.systemName primary
      productLine := either node.productLine primary
      deviceType :=
        if node.deviceType = "Unknown" then
          if tables.iec61850BayControllerHints.any (within · text) then "Bay Controller"
          else if tables.iec61850IedHints.any (within · text) then "Protection IED"
          else "Unknown"
        else node.deviceType }
  else node

/-- Platforms by what their descriptions contain. -/
def platforms : List (List String × String) :=
  [(["cisco"], "Cisco"), (["juniper"], "Juniper"), (["arista"], "Arista"), (["hirschmann"], "Hirschmann"),
   (["moxa"], "Moxa"), (["siemens", "scalance"], "Siemens"), (["belden"], "Belden"), (["phoenix"], "Phoenix Contact"),
   (["westermo"], "Westermo"), (["dell", "powerconnect"], "Dell"), (["asus"], "ASUS"), (["lenovo", "thinkpad"], "Lenovo")]

def platformVendor (sysInfo : String) : Option String :=
  if ["hpe", "hewlett packard", "procurve", "aruba"].any (within · sysInfo) ∨ "hp".toList.isPrefixOf sysInfo.toList ∨
      within " hp " sysInfo then some "HP"
  else (platforms.find? fun platform => platform.1.any (within · sysInfo)).map Prod.snd

def bySystemInfo (node : ProfiledNode) : ProfiledNode :=
  let sysInfo := tables.lower (tables.strip (node.systemName ++ " " ++ node.systemDesc))
  if sysInfo ≠ "" ∧ node.vendor = "Unknown" then
    match platformVendor sysInfo with
    | none => node
    | some vendor =>
      { node with
        vendor := vendor
        productLine := either node.productLine (either node.systemDesc node.systemName) }
  else node

def byCapabilities (node : ProfiledNode) : ProfiledNode :=
  if node.deviceType = "Unknown" then
    if node.capabilities.contains "Bridge" then { node with deviceType := "Network Switch" }
    else if node.capabilities.contains "Router" then { node with deviceType := "Router" }
    else node
  else node

def genericChipVendors : List String :=
  ["Intel", "Intel Corporate", "Intel Corporation", "Realtek", "Realtek Semiconductor", "MediaTek", "MediaTek Inc.",
   "Qualcomm", "Broadcom", "Broadcom Limited", "VMware, Inc.", "VMware", "QEMU", "Parallels, Inc.", "Parallels",
   "ASRock Incorporation", "ASRock", "Giga-Byte Technology Co.,Ltd."]

def byHostname (node : ProfiledNode) (convs : List Conversation) : ProfiledNode :=
  let hints := convs.flatMap fun conv => [conv.dhcpHostname, conv.nbnsName, conv.dhcpVendorClass, conv.userAgent]
  let fullText := tables.lower (" ".intercalate (([node.systemName, node.systemDesc] ++ hints).filter (· ≠ "")))
  if fullText ≠ "" ∧ (node.vendor = "Unknown" ∨ genericChipVendors.contains node.vendor) then
    match tables.itVendorHostnamePatterns.find? fun pattern => within pattern.1 fullText with
    | some (_, vendor) => { node with vendor := vendor }
    | none => node
  else node

def normalizeVendor (node : ProfiledNode) : ProfiledNode :=
  if node.vendor ≠ "" ∧ node.vendor ≠ "Unknown" then { node with vendor := tables.normalizeVendorName node.vendor }
  else node

/-- One node of `_fingerprint_vendors`. -/
def fingerprintVendor (traffic : Traffic) (node : ProfiledNode) : ProfiledNode :=
  let cip := traffic.received.foldl (byCip tables) (byOui tables node)
  let bacnet := byBacnet tables cip (traffic.sent ++ traffic.received)
  let omron := byOmron tables bacnet (traffic.received ++ traffic.sent)
  let pn := byPn tables omron (traffic.sent ++ traffic.received)
  let iec := byIec61850 tables pn (traffic.sent ++ traffic.received)
  normalizeVendor tables
    (byHostname tables (byCapabilities (bySystemInfo tables iec)) (traffic.sent ++ traffic.received))

/-! ### Roles -/

def nodeServiceNames (node : ProfiledNode) : List String :=
  ((node.protocols.filter (· ≠ "")).map fun proto => tables.lower (tables.strip proto)) ++
    (node.servicePorts.map fun sp => tables.lower (tables.strip sp.protocol)).filter (· ≠ "")

def nodeText (node : ProfiledNode) : String :=
  tables.lower (" ".intercalate
    ([node.vendor, node.productLine, node.deviceType, node.systemName, node.systemDesc, " ".intercalate node.protocols,
      " ".intercalate (node.servicePorts.map (·.protocol))].filter (· ≠ "")))

def nodePeerCount (ip : String) (traffic : Traffic) : Nat :=
  (((traffic.sent.map (·.dstKey) ++ traffic.received.map (·.srcKey)).filter fun peer => peer ≠ "" ∧ peer ≠ ip).dedup).length

def hasEngineeringActivity (traffic : Traffic) : Bool :=
  traffic.sent.any fun conv => conv.s7ProgramAccess || 5 < conv.modbusWrites

/-- What the roles are inferred from. -/
structure Traits where
  names : List String
  text : String
  peerCount : Nat
  serviceCount : Nat
  engineering : Bool
  servicePorts : List ServicePort

def traitsOf (ip : String) (traffic : Traffic) (node : ProfiledNode) : Traits where
  names := nodeServiceNames tables node
  text := nodeText tables node
  peerCount := nodePeerCount ip traffic
  serviceCount := node.servicePorts.length
  engineering := hasEngineeringActivity traffic
  servicePorts := node.servicePorts

namespace Traits

def serves (t : Traits) (services : List String) : Bool := services.any (t.names.contains ·)
def mentions (t : Traits) (tokens : List String) : Bool := tokens.any (within · t.text)
def hasPort (t : Traits) (port : Nat) (name : String) : Bool :=
  t.servicePorts.any fun sp => sp.port = port || within name (tables.lower sp.protocol)

def hasDbOrFile (t : Traits) : Bool :=
  t.serves ["mysql", "postgresql", "mssql", "ms-sql-s", "netbios-ssn", "microsoft-ds", "smb", "ftp", "tftp", "rpc portmap"]
def hasServerStack (t : Traits) : Bool :=
  t.serves ["http", "https", "dns", "ntp", "smtp", "smtp submission", "imap", "imaps", "pop3", "pop3s", "snmp", "opc ua"]
def hasRemoteAdmin (t : Traits) : Bool := t.serves ["ssh", "rdp", "vnc", "telnet"]
def historianHint (t : Traits) : Bool :=
  t.mentions (tables.historianSignatures ++ ["mes", "ignition", "factorytalk", "proficy"])
def hmiHint (t : Traits) : Bool := t.mentions tables.hmiSignatures
def engineeringSignature (t : Traits) : Bool := t.mentions tables.engineeringSignatures
def bacnetHint (t : Traits) : Bool := t.mentions ["bacnet"]
def iec104Hint (t : Traits) : Bool := t.mentions ["iec 60870-5-104", "iec 60870-5 asdu"]
def iec61850Hint (t : Traits) : Bool := t.mentions ["iec 61850", "mms (iec 61850)", "goose"]
def omronHint (t : Traits) : Bool := t.mentions (tables.omronSignatures ++ ["omron fins"])
def opcuaHint (t : Traits) : Bool := t.mentions ["opc-ua", "opc ua"]
def hasMmsService (t : Traits) : Bool := t.servicePorts.any (·.port = 102)
def hasOmronService (t : Traits) : Bool := t.hasPort tables 9600 "omron"
def iec61850CtrlHint (t : Traits) : Bool := t.mentions tables.iec61850BayControllerHints
def cameraHint (t : Traits) : Bool :=
  t.mentions ["axis", "hikvision", "dahua", "avigilon", "mobotix", "bosch security", "camera"]
def workstationHint (t : Traits) : Bool :=
  t.mentions ["apple", "pegatron", "dell", "lenovo", "hewlett packard", "hp ", "asus", "acer", "gigabyte", "microsoft"]
def applianceHint (t : Traits) : Bool :=
  t.mentions ["advantech", "red lion", "digi", "moxa", "westermo", "phoenix contact", "ewon", "hms", "innominate"]

end Traits

/-- A role, and a device type for a device of unknown type. -/
abbrev Role := String × String

def ProfiledNode.as (node : ProfiledNode) (role : Role) : ProfiledNode :=
  { node with
    role := role.1
    deviceType := if node.deviceType = "Unknown" then role.2 else node.deviceType }

/-- The roles that the capture states itself. -/
def nativeRole (t : Traits) (node : ProfiledNode) : Option Role :=
  if node.deviceType = "Programmable Logic Controller" ∨ node.deviceType = "PLC" then some ("PLC", node.deviceType)
  else if node.deviceType = "Human-Machine Interface" then some ("HMI/SCADA", node.deviceType)
  else if node.deviceType = "Bay Controller" then some ("Supervisory Controller", node.deviceType)
  else if node.deviceType = "Protection IED" then some ("Protective Relay", node.deviceType)
  else if node.deviceType = "IO Controller" then some ("Supervisory Controller", node.deviceType)
  else if node.deviceType = "IO Device" then some ("Field Device", node.deviceType)
  else if t.hasOmronService tables then some ("PLC", "Programmable Logic Controller")
  else if t.iec104Hint && t.hasPort tables 2404 "iec 60870-5-104" then some ("RTU", "Telemetry RTU")
  else if t.iec61850Hint && t.hasMmsService then
    if t.iec61850CtrlHint tables then some ("Supervisory Controller", "Bay Controller")
    else some ("Protective Relay", "Protection IED")
  else if t.iec61850Hint && !t.hasMmsService && node.initiates then some ("Supervisory Controller", "IEC 61850 Client")
  else if t.hasPort tables 4840 "opc-ua" && node.responds then
    some (if node.purdueLevel = 3 then "Application Server" else "Supervisory Controller", "OPC UA Server")
  else none

def fieldRole (t : Traits) (node : ProfiledNode) : Role :=
  let protocols := " ".intercalate node.protocols
  if within "Modbus" protocols then ("RTU/PLC", "RTU/PLC")
  else if within "EtherNet/IP" protocols then ("PLC", "PLC")
  else if within "S7comm" protocols then ("PLC", "PLC")
  else if within "DNP3" protocols then ("RTU", "RTU")
  else if t.iec104Hint then ("RTU", "Telemetry RTU")
  else if t.omronHint tables && t.hasOmronService tables then ("PLC", "Programmable Logic Controller")
  else if t.iec61850Hint then
    if t.iec61850CtrlHint tables then ("Supervisory Controller", "Bay Controller")
    else ("Protective Relay", "Protection IED")
  else if t.bacnetHint then ("Building Controller", "BACnet Controller")
  else ("Field Device", "Field Device")

def supervisoryRole (t : Traits) (node : ProfiledNode) : Role :=
  if t.engineering || t.engineeringSignature tables then ("Engineering Workstation", "Engineering Workstation")
  else if t.bacnetHint && node.initiates && !node.responds then ("HMI/SCADA", "BMS Workstation")
  else if t.bacnetHint && node.responds then ("Supervisory Controller", "Building Controller")
  else if t.iec61850Hint && node.responds && t.hasMmsService then
    if t.iec61850CtrlHint tables then ("Supervisory Controller", "Bay Controller")
    else ("Protective Relay", "Protection IED")
  else if t.iec61850Hint && node.initiates && !t.hasMmsService then ("Supervisory Controller", "IEC 61850 Client")
  else if t.omronHint tables && t.hasOmronService tables then ("PLC", "Programmable Logic Controller")
  else if t.opcuaHint && node.responds && !node.initiates then ("Supervisory Controller", "OPC UA Server")
  else if t.hmiHint tables then ("HMI/SCADA", "HMI Platform")
  else if node.initiates && !node.responds then
    ("HMI/SCADA", if t.workstationHint then "Operator Workstation" else "HMI Terminal")
  else if t.workstationHint then ("HMI/SCADA", "Operator Workstation")
  else if node.responds && !node.initiates then
    ("Supervisory Controller",
      if 2 ≤ t.serviceCount ∨ t.hasServerStack then "SCADA Server" else "Supervisory Controller")
  else if node.initiates && node.responds then
    if 3 ≤ t.serviceCount ∨ t.hasDbOrFile then ("Supervisory Controller", "SCADA Server")
    else ("HMI/SCADA", "Supervisory Workstation")
  else ("Supervisory Controller", "Supervisory Controller")

def infrastructureServer (t : Traits) : String :=
  if t.serves ["dns", "mdns", "dhcp server", "dhcp client", "ntp"] then "Network Services Host"
  else if t.serves ["http", "https", "http-alt", "https-alt"] then "Web Server"
  else if t.serves ["smtp", "smtps", "imap", "imaps", "pop3", "pop3s", "smtp submission"] then "Mail Server"
  else if t.serves ["syslog", "syslog tls", "snmp", "snmp trap"] then "Monitoring Server"
  else "Infrastructure Server"

def operationsRole (t : Traits) (node : ProfiledNode) : Role :=
  if t.historianHint tables && (t.hasDbOrFile || t.hasServerStack || 2 ≤ t.serviceCount) then
    ("Historian/MES", "Historian Server")
  else if t.opcuaHint && node.responds then ("Application Server", "OPC UA Server")
  else if t.bacnetHint && (node.responds || t.hasServerStack) then ("Application Server", "BMS Server")
  else if t.hmiHint tables then ("HMI/SCADA", "HMI Platform")
  else if t.cameraHint then ("Security Appliance", "IP Camera")
  else if t.applianceHint && (t.hasRemoteAdmin || t.hasServerStack || 2 ≤ t.serviceCount) then
    ("Industrial Appliance", "Gateway/Appliance")
  else if t.engineering || t.engineeringSignature tables then ("Engineering Workstation", "Engineering Workstation")
  else if t.iec104Hint && node.responds then ("Application Server", "Telemetry Server")
  else if t.workstationHint || node.initiates && !node.responds then ("Operations Workstation", "Workstation")
  else if node.responds && t.hasDbOrFile then ("Data Server", "Database/File Server")
  else if node.responds && t.hasServerStack && 3 ≤ t.peerCount then ("Infrastructure Server", infrastructureServer t)
  else if node.responds then ("Operations Host", "Server")
  else ("Operations Host", "Endpoint")

def enterpriseServer (t : Traits) : String :=
  if t.serves ["dns", "dhcp server", "dhcp client"] then "Enterprise DNS/DHCP"
  else if t.serves ["http", "https", "http-alt", "https-alt"] then "Enterprise Web Server"
  else if t.serves ["smtp", "smtps", "imap", "imaps", "pop3", "pop3s", "smtp submission"] then "Mail Server"
  else if t.serves ["ldap", "ldaps", "kerberos"] then "Directory Server"
  else "Enterprise Server"

def enterpriseRole (t : Traits) (node : ProfiledNode) : Role :=
  if t.hasDbOrFile || t.hasServerStack && 3 ≤ t.peerCount then ("Enterprise Server", enterpriseServer t)
  else if t.workstationHint || node.initiates && !node.responds then ("Enterprise Workstation", "Business Workstation")
  else ("Enterprise Host", "Enterprise Endpoint")

/-- The default role at each level. -/
def levelRole (t : Traits) (node : ProfiledNode) : Role :=
  if node.purdueLevel = 0 ∨ node.purdueLevel = 1 then fieldRole tables t node
  else if node.purdueLevel = 2 then supervisoryRole tables t node
  else if node.purdueLevel = 3 then operationsRole tables t node
  else if node.purdueLevel = 4 then enterpriseRole t node
  else if node.purdueLevel = 5 then ("External Host", "External Endpoint")
  else ("Unknown", "Unknown")

def engineered (t : Traits) (node : ProfiledNode) : ProfiledNode :=
  if (t.engineering || t.engineeringSignature tables) ∧ ¬["PLC", "RTU", "RTU/PLC"].contains node.role then
    { node with
      role := "Engineering Workstation"
      deviceType :=
        if ["Unknown", "Workstation", "Endpoint"].contains node.deviceType then "Engineering Workstation"
        else node.deviceType }
  else node

def switchByName (node : ProfiledNode) : ProfiledNode :=
  let name := tables.lower (tables.strip node.systemName)
  if node.deviceType = "Unknown" ∧ name ≠ "" ∧
      (["switch", "sw"].any (·.toList.isPrefixOf name.toList) ∨ tables.profinetSwitchHints.any (within · name)) then
    { node with deviceType := "Network Switch" }
  else node

def isSwitch (node : ProfiledNode) : Bool := node.deviceType = "Network Switch" || node.capabilities.contains "Bridge"
def isRouter (node : ProfiledNode) : Bool := node.deviceType = "Router" || node.capabilities.contains "Router"

def infrastructureVendors : List String :=
  ["moxa", "westermo", "ruggedcom", "hirschmann", "belden", "cisco", "juniper", "arista", "allied telesis", "netgear",
   "ubiquiti", "mikrotik", "d-link", "tp-link", "zyxel", "extreme networks", "huawei", "hewlett packard enterprise", "hp",
   "aruba", "dell networking", "cumulus", "pica8", "edgecore", "phoenix contact", "innominate"]

def byInfrastructureVendor (node : ProfiledNode) : Bool :=
  node.vendor ≠ "" ∧ node.vendor ≠ "Unknown" ∧ infrastructureVendors.any (within · (tables.lower node.vendor))

def named (role systemName : String) : String := if systemName ≠ "" then role ++ " (" ++ systemName ++ ")" else role

/-- One node of `_assign_roles`. -/
def assignRole (ip : String) (traffic : Traffic) (node : ProfiledNode) : ProfiledNode :=
  if isBroadcastOrMulticast tables ip then node
  else
    let node := switchByName tables node
    if isSwitch node then { node with role := named "Network Switch" node.systemName }
    else if isRouter node then { node with role := named "Router" node.systemName }
    else if byInfrastructureVendor tables node then
      { node with
        role := "Network Infrastructure"
        deviceType := if node.deviceType ≠ "Unknown" then node.deviceType else "Switch/Gateway"
        purdueLevel := 1
        assetType := "network" }
    else
      let t := traitsOf tables ip traffic node
      match nativeRole tables t node with
      | some role => node.as role
      | none => engineered tables t (node.as (levelRole tables t node))

/-- One node of `_rank_targets`. -/
def rankTarget (ip : String) (node : ProfiledNode) : ProfiledNode :=
  if isBroadcastOrMulticast tables ip then { node with attackPriority := 0, recommendedModules := [] }
  else
    let controller := within "PLC" node.role || within "RTU" node.role
    { node with
      attackPriority :=
        (if controller then 10 else 0) + (if node.authObserved then 0 else 5) +
          (if node.vendor ≠ "Unknown" then
            3 + if within "Siemens" node.vendor ∨ within "Allen-Bradley" node.vendor then 2 else 0 else 0) +
          if 2 < node.protocols.length then 2 else 0
      recommendedModules :=
        if controller then ["VORACITY-MODULE-FACTORYKEYS", "VORACITY-MODULE-COILTAPPER"] else [] }

/-! ### The whole build -/

/-- The nodes before `_assign_roles`. -/
def fingerprinted (subnetMap : SubnetMap) (b : TopologyBuilder) : ProfiledNodes :=
  (inferPurdueLevels tables subnetMap b (b.nodes.mapItems fun _ node => TopologyNode.profiled node)).mapItems fun ip =>
    fingerprintVendor tables (trafficOf b ip)

def profiledNodes (subnetMap : SubnetMap) (b : TopologyBuilder) : ProfiledNodes :=
  (fingerprinted tables subnetMap b).mapItems fun ip node => rankTarget tables ip (assignRole tables ip (trafficOf b ip) node)

end Passes

end Marlinspike.Topology.Profile
