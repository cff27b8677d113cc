import Mathlib.Data.Rat.Defs
import Marlinspike.Topology.Graph

/-!
The conversations that marlinspike-dpi's events are counted in: one for each pair of
endpoints, protocol and service port, in the direction from initiator to responder, and
one for each pair of neighbours that a discovery protocol announces.
-/
namespace Marlinspike.Dissect.Bronze
open Marlinspike.Topology.Graph (addNew ephemeralPortMin)

/-- What the adapter takes from Python's library, and its floating-point scores. -/
structure Services where
  lower : String → String
  title : String → String
  strip : String → String
  isIpAddress : String → Bool
  fromIsoFormat : String → Option Rat
  /-- The score, the interval and the jitter. -/
  computeBeaconScore : List Rat → Rat × Rat × Rat
  /-- The average entropy, and the average for the length. -/
  computeDnsEntropy : List String → Rat × Rat

/-! ### Events

A field that an event leaves out is empty, or 0. -/

structure Envelope where
  protocol : String
  srcIp : String
  dstIp : String
  srcMac : String
  dstMac : String
  srcPort : Nat
  dstPort : Nat
  transport : String
  timestamp : String
  packetCount : Nat
  bytesCount : Nat

structure Transaction where
  status : String
  operation : String
  attributes : PyDict String String
  objectRefs : List String

structure AssetObservation where
  assetKey : String
  protocols : List String
  roles : List String
  hostnames : List String
  identifiers : PyDict String String
  vendor : String
  model : String
  firmware : String

structure TopologyObservation where
  observationType : String
  localId : String
  remoteId : String
  description : String
  capabilities : List String
  metadata : PyDict String String

inductive Family where
  | assetObservation (asset : AssetObservation)
  | topologyObservation (observation : TopologyObservation)
  | protocolTransaction (tx : Transaction)
  | other

structure Event where
  envelope : Envelope
  family : Family

/-! ### Protocols and ports -/

def rustProtocolDisplayNames : List (String × String) :=
  [("arp", "ARP"), ("cdp", "CDP"), ("dhcp", "DHCP"), ("dns", "DNS"), ("dnp3", "DNP3"),
    ("ethernet_ip", "EtherNet/IP"), ("http", "HTTP"), ("lldp", "LLDP"), ("modbus", "Modbus TCP"),
    ("opc_ua", "OPC-UA"), ("profinet", "PROFINET"), ("s7comm", "S7comm"), ("snmp", "SNMP"), ("stp", "STP"),
    ("tls", "TLS")]

def rustProtocolServicePorts : List (String × List Nat) :=
  [("dhcp", [67, 68]), ("dns", [53, 5353]), ("dnp3", [20000]), ("ethernet_ip", [44818]), ("http", [80, 8080]),
    ("modbus", [502]), ("opc_ua", [4840]), ("profinet", [34964]), ("s7comm", [102]), ("snmp", [161, 162])]

def rustS7ProgramOperations : List String :=
  ["request_download", "download_block", "download_ended", "start_upload", "upload", "end_upload", "plc_stop"]

def protocolServicePort (protocolKey : String) (srcPort dstPort : Nat) : Nat :=
  let servicePorts := (rustProtocolServicePorts.lookup protocolKey).getD []
  if dstPort ∈ servicePorts then dstPort
  else if srcPort ∈ servicePorts then srcPort
  else if dstPort ≠ 0 ∧ dstPort < ephemeralPortMin then dstPort
  else if srcPort ≠ 0 ∧ srcPort < ephemeralPortMin then srcPort
  else if dstPort ≠ 0 then dstPort
  else srcPort

/-- `sorted` on texts. -/
def sorted (values : List String) : List String := values.mergeSort fun a b => a ≤ b

section Adapter
variable (services : Services)

def protocolDisplayName (protocolKey : String) : String :=
  if protocolKey = "" then "Unknown"
  else
    (rustProtocolDisplayNames.lookup protocolKey).getD
      (services.title (String.ofList (protocolKey.toList.map fun c => if c = '_' then ' ' else c)))

def looksLikeIp (value : String) : Bool := value ≠ "" && services.isIpAddress value

def parseIsoTimestamp (value : String) : Option Rat :=
  if value = "" then none
  else services.fromIsoFormat (String.ofList (value.toList.flatMap fun c => if c = 'Z' then "+00:00".toList else [c]))

/-- An event's endpoints, from initiator to responder. -/
structure Flow where
  srcIp : String
  dstIp : String
  srcMac : String
  dstMac : String
  srcPort : Nat
  dstPort : Nat
  servicePort : Nat
  transport : String
  protocolKey : String

def normalizeBronzeFlow (envelope : Envelope) (tx : Transaction) : Flow :=
  let protocolKey := services.lower envelope.protocol
  let servicePort := protocolServicePort protocolKey envelope.srcPort envelope.dstPort
  let status := services.lower tx.status
  let fromService := decide (servicePort ≠ 0 ∧ envelope.srcPort = servicePort ∧ envelope.dstPort ≠ servicePort)
  let reverse := if status = "response" then fromService else if status = "request" then fromService else fromService
  let transport := services.lower envelope.transport
  if reverse then
    ⟨envelope.dstIp, envelope.srcIp, envelope.dstMac, envelope.srcMac, envelope.dstPort, envelope.srcPort, servicePort,
      transport, protocolKey⟩
  else
    ⟨envelope.srcIp, envelope.dstIp, envelope.srcMac, envelope.dstMac, envelope.srcPort, envelope.dstPort, servicePort,
      transport, protocolKey⟩

/-! ### Attributes and assets -/

def appendUniqueLimited (limit : Nat) (bucket : List String) (value : String) : List String :=
  let text := services.strip value
  if text = "" ∨ text ∈ bucket then bucket else if bucket.length < limit then bucket ++ [text] else bucket

def mergeBronzeAttributes (bucket : PyDict String (List String)) (attributes : PyDict String String) :
    PyDict String (List String) :=
  attributes.items.foldl (fun bucket item =>
    let keyText := services.strip item.1
    if keyText = "" then bucket
    else bucket.set keyText (appendUniqueLimited services 12 ((bucket.get keyText).getD []) item.2)) bucket

inductive AttributeValue where
  | one (value : String)
  | many (values : List String)

def finalizeBronzeAttributes (bucket : PyDict String (List String)) : PyDict String AttributeValue :=
  (bucket.items.mergeSort fun a b => a.1 ≤ b.1).foldl (fun finalized item =>
    match item.2 with
    | [] => finalized
    | [value] => finalized.set item.1 (.one value)
    | values => finalized.set item.1 (.many values)) PyDict.empty

/-- What is reported of an asset. -/
structure AssetSummary where
  protocols : List String
  roles : List String
  hostnames : List String
  identifiers : PyDict String String
  assetKey : String
  vendor : String
  model : String
  firmware : String

def AssetSummary.empty : AssetSummary := ⟨[], [], [], PyDict.empty, "", "", "", ""⟩

def AssetSummary.isEmpty (summary : AssetSummary) : Bool :=
  summary.protocols = [] && summary.roles = [] && summary.hostnames = [] && summary.identifiers.items.isEmpty &&
    summary.assetKey = "" && summary.vendor = "" && summary.model = "" && summary.firmware = ""

def summarizeAssetObservation (asset : AssetObservation) : AssetSummary where
  protocols := asset.protocols.foldl (appendUniqueLimited services 16) []
  roles := asset.roles.foldl (appendUniqueLimited services 12) []
  hostnames := asset.hostnames.foldl (appendUniqueLimited services 8) []
  identifiers := (asset.identifiers.items.mergeSort fun a b => a.1 ≤ b.1).foldl (fun identifiers item =>
    let text := services.strip item.2
    if text = "" then identifiers else identifiers.set item.1 text) PyDict.empty
  assetKey := services.strip asset.assetKey
  vendor := services.strip asset.vendor
  model := services.strip asset.model
  firmware := services.strip asset.firmware

def mergeAssetSummary (existing incoming : AssetSummary) : AssetSummary :=
  let known (old new : String) := if old = "" then services.strip new else old
  { protocols := incoming.protocols.foldl (appendUniqueLimited services 16) existing.protocols
    roles := incoming.roles.foldl (appendUniqueLimited services 12) existing.roles
    hostnames := incoming.hostnames.foldl (appendUniqueLimited services 8) existing.hostnames
    identifiers := incoming.identifiers.items.foldl (fun identifiers item =>
      let text := services.strip item.2
      if text ≠ "" ∧ (identifiers.get item.1).getD "" = "" then identifiers.set item.1 text else identifiers)
      existing.identifiers
    assetKey := known existing.assetKey incoming.assetKey
    vendor := known existing.vendor incoming.vendor
    model := known existing.model incoming.model
    firmware := known existing.firmware incoming.firmware }

/-! ### Identities and discoveries -/

inductive NestedItem where
  | port (id : String)
  | text (value : String)
deriving DecidableEq

/-- A value of an identity or of a discovery. -/
inductive Nested where
  | text (value : String)
  | list (items : List NestedItem)
deriving DecidableEq

abbrev NestedDict := PyDict String Nested

def NestedDict.update (dict : NestedDict) (entries : List (String × Nested)) : NestedDict :=
  entries.foldl (fun dict entry => dict.set entry.1 entry.2) dict

def NestedDict.setdefault (dict : NestedDict) (key : String) (value : Nested) : NestedDict :=
  if (dict.get key).isSome then dict else dict.set key value

def NestedDict.textAt (dict : NestedDict) (key : String) : String :=
  match dict.get key with
  | some (.text value) => value
  | _ => ""

/-- Adds to the list under a key, if it is not there yet. -/
def NestedDict.append (dict : NestedDict) (key : String) (item : NestedItem) : NestedDict :=
  match dict.get key with
  | some (.list items) => dict.set key (.list (addNew items item))
  | _ => dict.set key (.list [item])

/-- What is known of an address. -/
structure AssetEntry where
  bronzeAsset : AssetSummary
  cipIdentity : NestedDict
  modbusIdentity : PyDict String String

def AssetEntry.empty : AssetEntry := ⟨AssetSummary.empty, PyDict.empty, PyDict.empty⟩

/-! ### Conversations being counted -/

inductive AggregateKey where
  | flow (srcIp dstIp srcMac dstMac protocolKey : String) (servicePort : Nat) (transport : String)
  | l2 (protocolKey srcMac dstMac : String)
deriving DecidableEq

structure Aggregate where
  srcIp : String
  dstIp : String
  srcMac : String
  dstMac : String
  protocol : String
  port : Nat
  packetCount : Nat
  bytesTotal : Nat
  firstSeen : String
  lastSeen : String
  modbusFunctions : List String
  modbusWrites : Nat
  cipIdentity : NestedDict
  pnIdentity : NestedDict
  s7Functions : List String
  s7ProgramAccess : Bool
  dnp3Objects : List String
  opcSessions : List String
  srcPort : Nat
  transport : String
  srcPortsSeen : List Nat
  timestamps : List Rat
  dnsQueries : List String
  l2Discovery : NestedDict
  operationsSeen : List String
  protocolAttributes : PyDict String (List String)
  protocolObjectRefs : List String

/-- Nothing counted yet. -/
def Aggregate.new (srcIp dstIp srcMac dstMac protocol : String) (port srcPort : Nat)
    (transport timestamp : String) : Aggregate where
  srcIp := srcIp
  dstIp := dstIp
  srcMac := srcMac
  dstMac := dstMac
  protocol := protocol
  port := port
  packetCount := 0
  bytesTotal := 0
  firstSeen := timestamp
  lastSeen := timestamp
  modbusFunctions := []
  modbusWrites := 0
  cipIdentity := PyDict.empty
  pnIdentity := PyDict.empty
  s7Functions := []
  s7ProgramAccess := false
  dnp3Objects := []
  opcSessions := []
  srcPort := srcPort
  transport := transport
  srcPortsSeen := []
  timestamps := []
  dnsQueries := []
  l2Discovery := PyDict.empty
  operationsSeen := []
  protocolAttributes := PyDict.empty
  protocolObjectRefs := []

/-- The packets, the bytes and the time of an event. -/
def Aggregate.count (aggregate : Aggregate) (envelope : Envelope) : Aggregate :=
  { aggregate with
    packetCount := aggregate.packetCount + (if envelope.packetCount = 0 then 1 else envelope.packetCount)
    bytesTotal := aggregate.bytesTotal + envelope.bytesCount
    firstSeen := if envelope.timestamp = "" then aggregate.firstSeen else min aggregate.firstSeen envelope.timestamp
    lastSeen := if envelope.timestamp = "" then aggregate.lastSeen else max aggregate.lastSeen envelope.timestamp
    timestamps := aggregate.timestamps ++ (parseIsoTimestamp services envelope.timestamp).toList }

/-- The entry that a protocol keeps of an operation. -/
def applyProtocolFields (aggregate : Aggregate) (tx : Transaction) (flow : Flow) : Aggregate :=
  let operation := tx.operation
  if aggregate.protocol = "Modbus TCP" then
    { aggregate with
      modbusFunctions := if operation ≠ "" then addNew aggregate.modbusFunctions operation else aggregate.modbusFunctions
      modbusWrites :=
        if "write_".toList <+: operation.toList then aggregate.modbusWrites + 1 else aggregate.modbusWrites }
  else if aggregate.protocol = "S7comm" then
    { aggregate with
      s7Functions := if operation ≠ "" then addNew aggregate.s7Functions operation else aggregate.s7Functions
      s7ProgramAccess := if operation ∈ rustS7ProgramOperations then true else aggregate.s7ProgramAccess }
  else if aggregate.protocol = "DNP3" then
    { aggregate with
      dnp3Objects := if operation ≠ "" then addNew aggregate.dnp3Objects operation else aggregate.dnp3Objects }
  else if aggregate.protocol = "OPC-UA" then
    let serviceType := (tx.attributes.get "service_type").getD ""
    let serviceType := if serviceType ≠ "" then serviceType else operation
    { aggregate with
      opcSessions := if serviceType ≠ "" then aggregate.opcSessions ++ [serviceType] else aggregate.opcSessions }
  else if aggregate.protocol = "DNS" then
    { aggregate with dnsQueries := (tx.objectRefs.filter (· ≠ "")).foldl addNew aggregate.dnsQueries }
  else if flow.protocolKey = "profinet" ∧ tx.attributes.items ≠ [] then
    { aggregate with
      pnIdentity := NestedDict.update aggregate.pnIdentity
        [("service_type", .text ((tx.attributes.get "service_type").getD "")),
          ("frame_id", .text ((tx.attributes.get "frame_id").getD ""))] }
  else aggregate

def applyProtocolTransaction (aggregate : Aggregate) (tx : Transaction) (flow : Flow) : Aggregate :=
  applyProtocolFields { aggregate with
    srcPortsSeen := addNew aggregate.srcPortsSeen flow.srcPort
    srcPort := if aggregate.srcPort = 0 then flow.srcPort else aggregate.srcPort
    operationsSeen :=
      if tx.operation = "" then aggregate.operationsSeen
      else appendUniqueLimited services 32 aggregate.operationsSeen tx.operation
    protocolAttributes := mergeBronzeAttributes services aggregate.protocolAttributes tx.attributes
    protocolObjectRefs := tx.objectRefs.foldl (appendUniqueLimited services 32) aggregate.protocolObjectRefs } tx flow

/-! ### The events, one by one -/

structure State where
  aggregates : PyDict AggregateKey Aggregate
  assetState : PyDict String AssetEntry
  l2AssetState : PyDict String NestedDict

def State.start : State := ⟨PyDict.empty, PyDict.empty, PyDict.empty⟩

/-- The address that an asset is known under. -/
def assetAddress (asset : AssetObservation) : String :=
  let ip := (asset.identifiers.get "ip").getD ""
  if ip ≠ "" then ip else if looksLikeIp services asset.assetKey then asset.assetKey else ""

def updateAsset (assetState : PyDict String AssetEntry) (ipKey : String) (f : AssetEntry → AssetEntry) :
    PyDict String AssetEntry :=
  assetState.set ipKey (f ((assetState.get ipKey).getD AssetEntry.empty))

def cipIdentityOf (asset : AssetObservation) : NestedDict :=
  let identifier (key : String) : Nested := .text ((asset.identifiers.get key).getD "")
  NestedDict.update PyDict.empty
    [("vendor_id", identifier "cip_vendor_id"), ("device_type", identifier "cip_device_type"),
      ("product_code", identifier "cip_product_code"), ("serial_number", identifier "cip_serial_number"),
      ("revision", identifier "cip_revision"), ("product_name", .text asset.model), ("vendor_name", .text asset.vendor)]

/-- What an announcement says of its sender. -/
def l2EntriesOf (asset : AssetObservation) : List (String × Nested) :=
  if "lldp" ∈ asset.protocols then
    [("source", .text "lldp"), ("system_name", .text asset.vendor), ("system_desc", .text asset.model)]
  else if "cdp" ∈ asset.protocols then
    [("source", .text "cdp"), ("system_name", .text (asset.hostnames.head?.getD asset.assetKey)),
      ("system_desc", .text asset.model), ("software_version", .text asset.firmware)]
  else [("source", .text "stp")]

def noteSummary (assetState : PyDict String AssetEntry) (asset : AssetObservation) : PyDict String AssetEntry :=
  let summary := summarizeAssetObservation services asset
  if assetAddress services asset ≠ "" ∧ summary.isEmpty = false then
    updateAsset assetState (assetAddress services asset) fun entry =>
      { entry with bronzeAsset := mergeAssetSummary services entry.bronzeAsset summary }
  else assetState

def noteCipIdentity (assetState : PyDict String AssetEntry) (asset : AssetObservation) : PyDict String AssetEntry :=
  if ("ethernet_ip" ∈ asset.protocols ∨ "cip" ∈ asset.protocols) ∧ assetAddress services asset ≠ "" then
    updateAsset assetState (assetAddress services asset) fun entry => { entry with cipIdentity := cipIdentityOf asset }
  else assetState

def noteModbusIdentity (assetState : PyDict String AssetEntry) (asset : AssetObservation) : PyDict String AssetEntry :=
  if "modbus" ∈ asset.protocols ∧ assetAddress services asset ≠ "" then
    updateAsset assetState (assetAddress services asset) fun entry => { entry with modbusIdentity := asset.identifiers }
  else assetState

def noteAnnouncement (l2AssetState : PyDict String NestedDict) (envelope : Envelope) (asset : AssetObservation) :
    PyDict String NestedDict :=
  let mac := (asset.identifiers.get "mac").getD ""
  let macKey := if mac ≠ "" then mac else envelope.srcMac
  if ("lldp" ∈ asset.protocols ∨ "cdp" ∈ asset.protocols ∨ "stp" ∈ asset.protocols) ∧ macKey ≠ "" then
    l2AssetState.set macKey (NestedDict.update ((l2AssetState.get macKey).getD PyDict.empty) (l2EntriesOf asset))
  else l2AssetState

def registerAssetObservation (state : State) (envelope : Envelope) (asset : AssetObservation) : State :=
  { state with
    assetState :=
      noteModbusIdentity services (noteCipIdentity services (noteSummary services state.assetState asset) asset) asset
    l2AssetState := noteAnnouncement state.l2AssetState envelope asset }

/-- What an observation adds to the discovery. -/
def observe (l2Data : NestedDict) (observation : TopologyObservation) : NestedDict :=
  let metadata (key : String) := (observation.metadata.get key).getD ""
  let put (key value : String) (l2Data : NestedDict) : NestedDict :=
    if value ≠ "" then l2Data.set key (.text value) else l2Data
  let addPort (l2Data : NestedDict) : NestedDict :=
    if observation.description ≠ "" then NestedDict.append l2Data "ports" (.port observation.description) else l2Data
  if observation.observationType = "lldp_neighbor" then
    let l2Data := addPort (put "chassis_id" observation.remoteId (NestedDict.setdefault l2Data "source" (.text "lldp")))
    if observation.capabilities ≠ [] then
      l2Data.set "capabilities" (.list (observation.capabilities.map .text))
    else l2Data
  else if observation.observationType = "cdp_neighbor" then
    let l2Data := NestedDict.setdefault l2Data "source" (.text "cdp")
    let l2Data := addPort
      (if NestedDict.textAt l2Data "system_name" = "" then put "system_name" observation.remoteId l2Data else l2Data)
    if metadata "native_vlan" ≠ "" then NestedDict.append l2Data "vlans" (.text (metadata "native_vlan")) else l2Data
  else if observation.observationType = "stp_topology" then
    let l2Data := put "stp_bridge" observation.localId
      (put "stp_root" observation.remoteId (NestedDict.setdefault l2Data "source" (.text "stp")))
    put "stp_type" observation.description
      (put "stp_port" (metadata "port_id") (put "stp_root_cost" (metadata "root_path_cost") l2Data))
  else l2Data

/-- The conversation of two neighbours, and the MAC of the sender. -/
def l2KeyOf (envelope : Envelope) (observation : TopologyObservation) : AggregateKey × String :=
  let srcMac := if envelope.srcMac ≠ "" then envelope.srcMac else observation.localId
  let dstMac := if envelope.dstMac ≠ "" then envelope.dstMac else observation.remoteId
  (.l2 (services.lower envelope.protocol) srcMac dstMac, srcMac)

/-- The conversation of a key, when its first event comes. -/
def AggregateKey.open (envelope : Envelope) (srcPort : Nat) : AggregateKey → Aggregate
  | .flow srcIp dstIp srcMac dstMac protocolKey servicePort transport =>
    Aggregate.new srcIp dstIp srcMac dstMac (protocolDisplayName services protocolKey) servicePort srcPort transport
      envelope.timestamp
  | .l2 protocolKey srcMac dstMac =>
    Aggregate.new "" "" srcMac dstMac (protocolDisplayName services protocolKey) 0 srcPort
      (services.lower envelope.transport) envelope.timestamp

def applyTopologyObservation (state : State) (envelope : Envelope) (observation : TopologyObservation) : State :=
  let (key, srcMac) := l2KeyOf services envelope observation
  let aggregate := ((state.aggregates.get key).getD (key.open services envelope 0)).count services envelope
  let known := (state.l2AssetState.get srcMac).getD PyDict.empty
  { state with
    aggregates := state.aggregates.set key
      { aggregate with
        l2Discovery := observe (NestedDict.update aggregate.l2Discovery known.items) observation } }

def Flow.key (flow : Flow) : AggregateKey :=
  .flow flow.srcIp flow.dstIp flow.srcMac flow.dstMac flow.protocolKey flow.servicePort flow.transport

def countTransaction (state : State) (envelope : Envelope) (tx : Transaction) : State :=
  let flow := normalizeBronzeFlow services envelope tx
  let aggregate := (state.aggregates.get flow.key).getD (flow.key.open services envelope flow.srcPort)
  { state with
    aggregates := state.aggregates.set flow.key
      (applyProtocolTransaction services (aggregate.count services envelope) tx flow) }

def processEvent (state : State) (event : Event) : State :=
  match event.family with
  | .assetObservation asset => registerAssetObservation services state event.envelope asset
  | .topologyObservation observation => applyTopologyObservation services state event.envelope observation
  | .protocolTransaction tx => countTransaction services state event.envelope tx
  | .other => state

/-! ### The conversations -/

structure Conversation where
  srcIp : String
  dstIp : String
  srcMac : String
  dstMac : String
  protocol : String
  port : Nat
  packetCount : Nat
  bytesTotal : Nat
  firstSeen : String
  lastSeen : String
  modbusFunctions : List String := []
  modbusWrites : Nat := 0
  cipIdentity : NestedDict := PyDict.empty
  pnIdentity : NestedDict := PyDict.empty
  s7Functions : List String := []
  s7ProgramAccess : Bool := false
  dnp3Objects : List String := []
  opcSessions : List String := []
  opcNoSecurity : Bool := false
  bacnetIdentity : NestedDict := PyDict.empty
  iec104Typeids : List String := []
  iec104Causes : List String := []
  omronIdentity : NestedDict := PyDict.empty
  mmsIdentity : NestedDict := PyDict.empty
  gooseIdentity : NestedDict := PyDict.empty
  srcPort : Nat := 0
  transport : String := ""
  srcPortsSeen : List Nat := []
  beaconScore : Rat := 0
  beaconInterval : Rat := 0
  beaconJitter : Rat := 0
  dnsQueries : List String := []
  dnsQueryTypes : List String := []
  dnsEntropy : Rat := 0
  dnsEntropyRatio : Rat := 0
  operationsSeen : List String := []
  protocolAttributes : PyDict String AttributeValue := PyDict.empty
  protocolObjectRefs : List String := []
  srcAsset : AssetSummary := AssetSummary.empty
  dstAsset : AssetSummary := AssetSummary.empty
  l2Discovery : NestedDict := PyDict.empty
  dhcpHostname : String := ""
  dhcpVendorClass : String := ""
  nbnsName : String := ""
  userAgent : String := ""

/-- What is known of one of its addresses. -/
def identify (assetState : PyDict String AssetEntry) (aggregate : Aggregate) (ipKey : String) : Aggregate :=
  let identity := (assetState.get ipKey).getD AssetEntry.empty
  { aggregate with
    cipIdentity :=
      if identity.cipIdentity.items ≠ [] ∧ aggregate.cipIdentity.items = [] then identity.cipIdentity
      else aggregate.cipIdentity
    modbusFunctions :=
      if identity.modbusIdentity.items ≠ [] ∧ aggregate.protocol = "Modbus TCP" ∧ aggregate.modbusFunctions = [] then
        ["read_device_identification"]
      else aggregate.modbusFunctions }

def conversationOf (assetState : PyDict String AssetEntry) (aggregate : Aggregate) : Conversation :=
  let aggregate := identify assetState (identify assetState aggregate aggregate.dstIp) aggregate.srcIp
  let asset (ip : String) :=
    mergeAssetSummary services AssetSummary.empty ((assetState.get ip).getD AssetEntry.empty).bronzeAsset
  let beacon := services.computeBeaconScore aggregate.timestamps
  let dnsQueries := sorted aggregate.dnsQueries
  let dnsEntropy := services.computeDnsEntropy dnsQueries
  { srcIp := aggregate.srcIp
    dstIp := aggregate.dstIp
    srcMac := aggregate.srcMac
    dstMac := aggregate.dstMac
    protocol := aggregate.protocol
    port := aggregate.port
    packetCount := aggregate.packetCount
    bytesTotal := aggregate.bytesTotal
    firstSeen := aggregate.firstSeen
    lastSeen := aggregate.lastSeen
    modbusFunctions := sorted aggregate.modbusFunctions
    modbusWrites := aggregate.modbusWrites
    cipIdentity := aggregate.cipIdentity
    pnIdentity := aggregate.pnIdentity
    s7Functions := sorted aggregate.s7Functions
    s7ProgramAccess := aggregate.s7ProgramAccess
    dnp3Objects := sorted aggregate.dnp3Objects
    opcSessions := aggregate.opcSessions
    srcPort := aggregate.srcPort
    transport := aggregate.transport
    srcPortsSeen := (aggregate.srcPortsSeen.filter (· ≠ 0)).mergeSort fun a b => a ≤ b
    beaconScore := beacon.1
    beaconInterval := beacon.2.1
    beaconJitter := beacon.2.2
    dnsQueries := dnsQueries.take 200
    dnsEntropy := dnsEntropy.1
    dnsEntropyRatio := dnsEntropy.2
    l2Discovery := aggregate.l2Discovery
    operationsSeen := aggregate.operationsSeen
    protocolAttributes := finalizeBronzeAttributes aggregate.protocolAttributes
    protocolObjectRefs := aggregate.protocolObjectRefs
    srcAsset := asset aggregate.srcIp
    dstAsset := asset aggregate.dstIp }

/-- The state after the events. -/
def processEvents (events : List Event) : State := events.foldl (processEvent services) State.start

def buildConversationsFromBronze (events : List Event) : List Conversation :=
  let state := processEvents services events
  (state.aggregates.items.map Prod.snd).map (conversationOf services state.assetState)

end Adapter
end Marlinspike.Dissect.Bronze
