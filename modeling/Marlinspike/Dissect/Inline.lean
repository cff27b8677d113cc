import Marlinspike.Dissect.ChunkLoop
import Marlinspike.Topology.Graph

/-!
What the reader of tshark's output takes from the fields of a packet besides addresses and
ports: names that hosts look up and give themselves, and what the protocol of the packet
says. Sets are lists without duplicates, in the order of the first additions.
-/
namespace Marlinspike.Dissect.Inline
open Marlinspike.Dissect.Reader (addTo)
open Marlinspike.Dissect.Lines
open Marlinspike.Dissect.ChunkLoop (InlineParsing)
open Marlinspike.Topology.Graph (L2Discovery CipIdentity PnIdentity)

/-- The string methods and conversions; there is no result where one raises. -/
structure TextTables where
  lower : String → String
  strip : String → String
  isDigit : String → Bool
  /-- `int(text)`. -/
  int : String → Option Nat
  /-- `int(text, 0)`. -/
  intAnyBase : String → Option Nat

/-- `part in text`. -/
def within (part text : String) : Bool := decide (part.toList <:+: text.toList)

/-! ### What is kept of a conversation -/

structure BacnetSets where
  vendorIds : List String
  objectNames : List String
  objectTypes : List String
deriving DecidableEq

structure OmronSets where
  commands : List String
  model : String
  version : String
deriving DecidableEq

structure MmsSets where
  serviceRequests : List String
  unconfirmedServices : List String
  names : List String
  datasets : List String
  reportIds : List String
  ctlModels : List String
deriving DecidableEq

structure GooseSets where
  gocbRefs : List String
  goIds : List String
  datasets : List String
  confRevs : List String
  simulation : Bool
  ndsCom : Bool
deriving DecidableEq

structure Details where
  dnsQueries : List String
  dnsQueryTypes : List String
  dhcpHostname : String
  dhcpVendorClass : String
  nbnsName : String
  userAgent : String
  modbusFunctions : List Nat
  modbusWrites : Nat
  cipIdentity : Option CipIdentity
  pnIdentity : Option PnIdentity
  s7Functions : List String
  s7ProgramAccess : Bool
  dnp3Objects : List String
  iec104Typeids : List String
  iec104Causes : List String
  mmsIdentity : MmsSets
  gooseIdentity : GooseSets
  bacnetIdentity : BacnetSets
  opcSessions : List String
  opcNoSecurity : Bool
  omronIdentity : OmronSets
  l2Discovery : Option L2Discovery
deriving DecidableEq

def Details.start : Details where
  dnsQueries := []
  dnsQueryTypes := []
  dhcpHostname := ""
  dhcpVendorClass := ""
  nbnsName := ""
  userAgent := ""
  modbusFunctions := []
  modbusWrites := 0
  cipIdentity := none
  pnIdentity := none
  s7Functions := []
  s7ProgramAccess := false
  dnp3Objects := []
  iec104Typeids := []
  iec104Causes := []
  mmsIdentity := ⟨[], [], [], [], [], []⟩
  gooseIdentity := ⟨[], [], [], [], false, false⟩
  bacnetIdentity := ⟨[], [], []⟩
  opcSessions := []
  opcNoSecurity := false
  omronIdentity := ⟨[], "", ""⟩
  l2Discovery := none

/-- `add`, of a field that is there. -/
def addField (values : List String) (value : String) : List String := if value ≠ "" then addTo values value else values

/-! ### Names -/

def dnsCap : Nat := 200

/-- DNS metadata, and the names that hosts give themselves; the first of each is kept. -/
def readNames (pkt : Fields) (d : Details) : Details :=
  let dnsQname := field pkt "dns.qry.name"
  { d with
    dnsQueries := if dnsQname ≠ "" ∧ d.dnsQueries.length < dnsCap then addTo d.dnsQueries dnsQname else d.dnsQueries
    dnsQueryTypes :=
      if dnsQname ≠ "" then addField d.dnsQueryTypes (field pkt "dns.qry.type") else d.dnsQueryTypes
    dhcpHostname := orElse d.dhcpHostname (field pkt "dhcp.option.hostname")
    dhcpVendorClass := orElse d.dhcpVendorClass (field pkt "dhcp.option.vendor_class_id")
    nbnsName := orElse d.nbnsName (field pkt "nbns.name")
    userAgent := orElse d.userAgent (field pkt "http.user_agent") }

/-! ### Industrial protocols -/

section Protocols
variable (text : TextTables) (pkt : Fields)

/-- The comma-separated parts of a field that are not blank. -/
def tokens (name : String) : List String :=
  let raw := field pkt name
  if raw ≠ "" then ((splitText ',' raw).map text.strip).filter (· ≠ "") else []

def addTokens (values : List String) (names : List String) : List String :=
  (names.flatMap (tokens text pkt)).foldl addTo values

/-- The function code, if it is a digit. Only here can a conversion raise. -/
def functionCode : Option (Option Nat) :=
  let fc := field pkt "modbus.func_code"
  if fc ≠ "" ∧ text.isDigit fc then (text.int fc).map some else some none

def Details.modbus (d : Details) (fc : Nat) : Details :=
  { d with
    modbusFunctions := addTo d.modbusFunctions fc
    modbusWrites := if fc ∈ [5, 6, 15, 16] then d.modbusWrites + 1 else d.modbusWrites }

def Details.cip (d : Details) : Details :=
  let vendor := field pkt "cip.id.vendor_id"
  let deviceType := field pkt "cip.id.device_type"
  let productName := field pkt "cip.id.product_name"
  if vendor ≠ "" ∨ deviceType ≠ "" ∨ productName ≠ "" then
    { d with
      cipIdentity := some
        { productName := productName
          vendorId := vendor
          deviceType := deviceType
          serialNumber := field pkt "cip.id.serial_number"
          revision := field pkt "cip.class_revision" } }
  else d

def Details.profinet (d : Details) : Details :=
  let station := field pkt "pn_dcp.suboption_device_nameofstation"
  let vendor := field pkt "pn_dcp.suboption_vendor_id"
  if station ≠ "" ∨ vendor ≠ "" ∨ field pkt "pn_dcp.suboption_device_id" ≠ "" then
    { d with pnIdentity := some ⟨station, vendor, field pkt "pn_dcp.suboption_device_role"⟩ }
  else d

def Details.s7 (d : Details) : Details :=
  { d with
    s7Functions := addField d.s7Functions (field pkt "s7comm.param.func")
    s7ProgramAccess := d.s7ProgramAccess || field pkt "s7comm.header.rosctr" = "7" }

def Details.dnp3 (d : Details) : Details := { d with dnp3Objects := addField d.dnp3Objects (field pkt "dnp3.al.obj") }

def Details.iec104 (d : Details) : Details :=
  { d with
    iec104Typeids := addField d.iec104Typeids (field pkt "iec60870_asdu.typeid")
    iec104Causes := addField d.iec104Causes (field pkt "iec60870_asdu.causetx") }

def Details.mms (d : Details) : Details :=
  let m := d.mmsIdentity
  { d with
    mmsIdentity :=
      { serviceRequests := addField m.serviceRequests (field pkt "mms.confirmedServiceRequest")
        unconfirmedServices := addField m.unconfirmedServices (field pkt "mms.unconfirmedService")
        names := addTokens text pkt m.names ["mms.domain", "mms.domainId", "mms.domainName", "mms.namedToken"]
        datasets := addTokens text pkt m.datasets ["mms.iec61850.datset"]
        reportIds := addTokens text pkt m.reportIds ["mms.iec61850.rptid"]
        ctlModels := addField m.ctlModels (field pkt "mms.iec61850.ctlmodel") } }

/-- A flag that is set. -/
def flagged (name : String) : Bool :=
  let raw := field pkt name
  raw ≠ "" && text.lower raw ∈ ["1", "true"]

def Details.goose (d : Details) : Details :=
  let g := d.gooseIdentity
  { d with
    gooseIdentity :=
      { gocbRefs := addTokens text pkt g.gocbRefs ["goose.gocbRef"]
        goIds := addTokens text pkt g.goIds ["goose.goID"]
        datasets := addTokens text pkt g.datasets ["goose.datSet"]
        confRevs := addTokens text pkt g.confRevs ["goose.confRev"]
        simulation := g.simulation || flagged text pkt "goose.simulation"
        ndsCom := g.ndsCom || flagged text pkt "goose.ndsCom" } }

def Details.bacnet (d : Details) : Details :=
  let b := d.bacnetIdentity
  { d with
    bacnetIdentity :=
      { vendorIds := addField b.vendorIds (field pkt "bacapp.vendor_identifier")
        objectNames := addField b.objectNames (field pkt "bacapp.object_name")
        objectTypes := addField b.objectTypes (field pkt "bacapp.objectType") } }

def Details.opcUa (d : Details) : Details :=
  let svc := field pkt "opcua.servicenodeid.numeric"
  let sec := field pkt "opcua.security.spu"
  { d with
    opcSessions := if svc ≠ "" then d.opcSessions ++ [svc] else d.opcSessions
    opcNoSecurity := d.opcNoSecurity || sec ≠ "" && within "none" (text.lower sec) }

def Details.omron (d : Details) : Details :=
  let o := d.omronIdentity
  { d with
    omronIdentity :=
      { commands := addField o.commands (field pkt "omron.command")
        model := orElse o.model (field pkt "omron.controller.model")
        version := orElse o.version (field pkt "omron.controller.version") } }

end Protocols

/-! ### Discovery protocols -/

section Discovery
variable (text : TextTables) (pkt : Fields)

def emptyDiscovery : L2Discovery := ⟨none, "", "", "", [], [], [], "", none, none⟩

/-- The data after an announcement; the protocol of the first one is kept as the source. -/
def announce (source : String) (change : L2Discovery → L2Discovery) (d : Details) : Details :=
  let ld := d.l2Discovery.getD emptyDiscovery
  { d with l2Discovery := some (change { ld with source := some (ld.source.getD source) }) }

def capabilityBits : List (Nat × String) :=
  [(0x04, "Bridge"), (0x08, "WLAN AP"), (0x10, "Router"), (0x20, "Telephone"), (0x40, "DOCSIS Cable"),
    (0x80, "Station Only")]

/-- The capabilities that a mask names, if it names any. -/
def capabilitiesOf (cap : String) (before : List String) : List String :=
  match text.intAnyBase cap with
  | none => before
  | some mask =>
    let caps := (capabilityBits.filter fun bit => mask &&& bit.1 ≠ 0).map Prod.snd
    if caps ≠ [] then caps else before

/-- `_parse_lldp_inline`. -/
def parseLldpInline (ld : L2Discovery) : L2Discovery :=
  let portId := field pkt "lldp.port.id"
  let cap := field pkt "lldp.tlv.system_cap"
  let vlanId := field pkt "lldp.ieee.802_1.port_vlan.id"
  { ld with
    systemName := orElse (field pkt "lldp.tlv.system.name") ld.systemName
    systemDesc := orElse (field pkt "lldp.tlv.system.desc") ld.systemDesc
    mgmtIp := orElse (orElse (field pkt "lldp.mgn.addr.ip4") (field pkt "lldp.mgn.addr.ip6")) ld.mgmtIp
    ports := if portId ≠ "" then addTo ld.ports ⟨portId, field pkt "lldp.port.desc"⟩ else ld.ports
    capabilities := if cap ≠ "" then capabilitiesOf text cap ld.capabilities else ld.capabilities
    vlans := addField ld.vlans vlanId }

/-- `_parse_cdp_inline`. -/
def parseCdpInline (ld : L2Discovery) : L2Discovery :=
  let portId := field pkt "cdp.portid"
  { ld with
    systemName := orElse (field pkt "cdp.deviceid") ld.systemName
    systemDesc := orElse (field pkt "cdp.platform") ld.systemDesc
    ports := if portId ≠ "" then addTo ld.ports ⟨portId, ""⟩ else ld.ports
    vlans := addField ld.vlans (field pkt "cdp.native_vlan") }

/-- `_parse_stp_inline`. -/
def parseStpInline (ld : L2Discovery) : L2Discovery :=
  let rootCost := field pkt "stp.root.cost"
  { ld with
    stpBridge := orElse (field pkt "stp.bridge.hw") ld.stpBridge
    stpRootCost := if rootCost ≠ "" then some rootCost else ld.stpRootCost }

/-- `_parse_lacp_inline`. -/
def parseLacpInline (ld : L2Discovery) : L2Discovery :=
  if field pkt "lacp.actor.sysid" ≠ "" then
    { ld with lacpActor := some ⟨field pkt "lacp.actor.key", some (field pkt "lacp.actor.port")⟩ }
  else ld

end Discovery

/-! ### A packet -/

section Packet
variable (text : TextTables)

/-- What the protocol of a packet says, other than Modbus. -/
def parseOther (pkt : Fields) (protocol : String) (d : Details) : Details :=
  if within "EtherNet/IP" protocol ∨ within "CIP" protocol then d.cip pkt
  else if within "PROFINET" protocol then d.profinet pkt
  else if within "S7comm" protocol then d.s7 pkt
  else if within "DNP3" protocol then d.dnp3 pkt
  else if within "IEC 60870-5-104" protocol then d.iec104 pkt
  else if within "MMS (IEC 61850)" protocol then d.mms text pkt
  else if within "IEC 61850 GOOSE" protocol ∨ within "R-GOOSE" protocol then d.goose text pkt
  else if within "BACnet" protocol then d.bacnet pkt
  else if within "OPC-UA" protocol then d.opcUa text pkt
  else if within "OMRON" protocol then d.omron pkt
  else if protocol = "LLDP" then announce "lldp" (parseLldpInline text pkt) d
  else if protocol = "CDP" then announce "cdp" (parseCdpInline pkt) d
  else if protocol ∈ ["STP", "RSTP", "MSTP"] then announce "stp" (parseStpInline pkt) d
  else if protocol = "LACP" then announce "lacp" (parseLacpInline pkt) d
  else d

def parseProtocol (pkt : Fields) (protocol : String) (d : Details) : Option Details :=
  if within "Modbus" protocol then (functionCode text pkt).map fun fc => fc.elim d d.modbus
  else some (parseOther text pkt protocol d)

/-- The names are kept where the function code raises. -/
def inlineParsing : InlineParsing Details where
  start := .start
  parseInline pkt protocol d := parseProtocol text pkt protocol (readNames pkt d)
  raises pkt protocol := within "Modbus" protocol && (functionCode text pkt).isNone
  left pkt _ d := readNames pkt d
  isNone_iff pkt protocol d := by
    unfold parseProtocol
    split_ifs with modbus
    · simp [modbus]
    · simp [modbus]

variable {text} {pkt : Fields} {protocol : String} {d : Details}

theorem dnsQueries_parseOther : (parseOther text pkt protocol d).dnsQueries = d.dnsQueries := by
  have cip : (d.cip pkt).dnsQueries = d.dnsQueries := by
    unfold Details.cip
    dsimp only
    split_ifs <;> rfl
  have profinet : (d.profinet pkt).dnsQueries = d.dnsQueries := by
    unfold Details.profinet
    dsimp only
    split_ifs <;> rfl
  let same (after : Details) : Prop := after.dnsQueries = d.dnsQueries
  unfold parseOther
  refine iteInduction (motive := same) (fun _ => cip) fun _ => ?_
  refine iteInduction (motive := same) (fun _ => profinet) fun _ => ?_
  iterate 12 refine iteInduction (motive := same) (fun _ => rfl) fun _ => ?_
  rfl

/-- Only the names of a packet add to the queries. -/
theorem dnsQueries_parseProtocol {after : Details} (parsed : parseProtocol text pkt protocol d = some after) :
    after.dnsQueries = d.dnsQueries := by
  unfold parseProtocol at parsed
  split_ifs at parsed with modbus
  · obtain ⟨fc, -, rfl⟩ := Option.map_eq_some_iff.mp parsed
    cases fc with
    | none => rfl
    | some fc => rfl
  · obtain rfl := Option.some.inj parsed
    exact dnsQueries_parseOther

theorem length_dnsQueries_readNames (few : d.dnsQueries.length ≤ dnsCap) :
    (readNames pkt d).dnsQueries.length ≤ dnsCap := by
  unfold readNames
  dsimp only
  split_ifs with room
  · rw [addTo]
    split_ifs
    · exact few
    · rw [List.length_append, List.length_singleton]
      exact room.2
  · exact few

end Packet

end Marlinspike.Dissect.Inline
