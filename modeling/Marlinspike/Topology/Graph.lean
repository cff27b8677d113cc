import Mathlib.Algebra.Order.Ring.Unbundled.Rat
import Mathlib.Data.String.Basic
import Marlinspike.PyDict

/-!
The topology graph: nodes keyed by IP, or by MAC where there is no IP, edges merged by
endpoints, protocol and port, and the conversations indexed by both endpoints.
-/
namespace Marlinspike.Topology.Graph

/-- `a or b`. -/
def either (a b : String) : String := if a ≠ "" then a else b

/-- `text.split(sep)`. -/
def split (sep : Char) (text : String) : List String := (text.toList.splitOn sep).map String.ofList

/-- `append`, unless the value is there. -/
def addNew {α : Type} [DecidableEq α] (values : List α) (value : α) : List α :=
  if value ∈ values then values else values ++ [value]

theorem mem_addNew {α : Type} [DecidableEq α] {values : List α} {value other : α} :
    other ∈ addNew values value ↔ other ∈ values ∨ other = value := by
  unfold addNew
  split_ifs with present
  · refine ⟨.inl, ?_⟩
    rintro (before | rfl)
    · exact before
    · exact present
  · simp

/-- The tables and the string methods that the builder uses. -/
structure Services where
  otProtocols : Nat → Option String
  /-- Names and categories. -/
  wellKnownPorts : Nat → Option (String × String)
  lower : String → String
  upper : String → String
  isDigit : String → Bool

/-! ### Conversations -/

structure PortEntry where
  id : String
  desc : String
deriving DecidableEq

structure LacpActor where
  key : String
  port : Option String
deriving DecidableEq

structure L2Discovery where
  source : Option String
  systemName : String
  systemDesc : String
  mgmtIp : String
  capabilities : List String
  ports : List PortEntry
  vlans : List String
  stpBridge : String
  stpRootCost : Option String
  lacpActor : Option LacpActor
deriving DecidableEq

structure CipIdentity where
  productName : String
  vendorId : String
  deviceType : String
  serialNumber : String
  revision : String
deriving DecidableEq

structure PnIdentity where
  stationName : String
  vendorId : String
  deviceRole : String
deriving DecidableEq

structure BacnetIdentity where
  vendorIds : List String
  objectNames : List String
deriving DecidableEq

structure OmronIdentity where
  model : String
  version : String
deriving DecidableEq

structure GooseIdentity where
  gocbRefs : List String
  goIds : List String
deriving DecidableEq

/-- An identity is absent where its dictionary is empty; the names of the MMS identity
    are all that is read of it. Floats are rationals. -/
structure Conversation where
  srcIp : String
  dstIp : String
  srcMac : String
  dstMac : String
  protocol : String
  port : Nat
  packetCount : Nat
  bytesTotal : Nat
  firstSeen : String
  lastSeen : String
  modbusFunctions : List Nat := []
  modbusWrites : Nat := 0
  cipIdentity : Option CipIdentity := none
  pnIdentity : Option PnIdentity := none
  s7Functions : List String := []
  s7ProgramAccess : Bool := false
  opcNoSecurity : Bool := false
  bacnetIdentity : Option BacnetIdentity := none
  omronIdentity : Option OmronIdentity := none
  mmsIdentity : List String := []
  gooseIdentity : Option GooseIdentity := none
  transport : String := ""
  srcPortsSeen : List Nat := []
  beaconScore : Rat := 0
  beaconInterval : Rat := 0
  beaconJitter : Rat := 0
  dnsQueries : List String := []
  dnsEntropy : Rat := 0
  dnsEntropyRatio : Rat := 0
  operationsSeen : List String := []
  l2Discovery : Option L2Discovery := none
  dhcpHostname : String := ""
  dhcpVendorClass : String := ""
  nbnsName : String := ""
  userAgent : String := ""
  notes : String := ""
deriving DecidableEq

def Conversation.srcKey (conv : Conversation) : String := either conv.srcIp conv.srcMac
def Conversation.dstKey (conv : Conversation) : String := either conv.dstIp conv.dstMac

/-- The discovery data by which an LLDP or CDP sender advertises itself. -/
def Conversation.advertised (conv : Conversation) : Option L2Discovery :=
  conv.l2Discovery.filter fun ld => ld.source = some "lldp" ∨ ld.source = some "cdp"

/-! ### Nodes -/

structure ServicePort where
  port : Nat
  transport : String
  protocol : String
  category : String
  connections : Nat
  peers : List String
deriving DecidableEq

structure TopologyNode where
  ip : String
  mac : String
  protocols : List String
  initiates : Bool
  responds : Bool
  systemName : String
  systemDesc : String
  mgmtIp : String
  capabilities : List String
  ports : List PortEntry
  vlans : List String
  servicePorts : List ServicePort
deriving DecidableEq

def TopologyNode.new (ip mac : String) : TopologyNode :=
  ⟨ip, mac, [], false, false, "", "", "", [], [], [], []⟩

abbrev Nodes := PyDict String TopologyNode

/-- A node for the key, if there is none. -/
def ensureNode (nodes : Nodes) (key ip mac : String) : Nodes :=
  if nodes.get key = none then nodes.set key (.new ip mac) else nodes

/-- Generic port labels, such as TCP/49161, are the transport alone. -/
def protoDisplay (services : Services) (protocol : String) : String :=
  let parts := split '/' protocol
  if 1 < parts.length ∧ services.isDigit (parts.getLast?.getD "") then parts.head?.getD "" else protocol

def TopologyNode.sends (node : TopologyNode) (mac display : String) : TopologyNode :=
  { node with
    initiates := true
    mac := either node.mac mac
    protocols := addNew node.protocols display }

def TopologyNode.receives (node : TopologyNode) (mac display : String) : TopologyNode :=
  { node with
    responds := true
    mac := either node.mac mac
    protocols := addNew node.protocols display }

/-- What a host says of itself by DHCP and NetBIOS. -/
def TopologyNode.hosted (node : TopologyNode) (conv : Conversation) : TopologyNode :=
  { node with
    systemName := either node.systemName (either conv.dhcpHostname conv.nbnsName)
    systemDesc := either node.systemDesc conv.dhcpVendorClass }

def TopologyNode.advertises (node : TopologyNode) (ld : L2Discovery) : TopologyNode :=
  { node with
    systemName := either node.systemName ld.systemName
    systemDesc := either node.systemDesc ld.systemDesc
    mgmtIp := either node.mgmtIp ld.mgmtIp
    capabilities := ld.capabilities.foldl addNew node.capabilities
    ports := ld.ports.foldl addNew node.ports
    vlans := ld.vlans.foldl addNew node.vlans }

/-- What an L2 protocol says of its sender. -/
def TopologyNode.discovers (node : TopologyNode) (conv : Conversation) : TopologyNode :=
  match conv.l2Discovery with
  | none => node
  | some ld =>
    if ld.source = some "lldp" ∨ ld.source = some "cdp" then node.advertises ld
    else if ld.source = some "stp" then
      if ld.stpBridge ≠ "" then
        { node with
          systemDesc := either node.systemDesc ("STP Bridge (cost " ++ ld.stpRootCost.getD "?" ++ ")")
          capabilities := addNew node.capabilities "Bridge" }
      else node
    else if ld.source = some "lacp" then
      match ld.lacpActor.filter (·.key ≠ "") with
      | none => node
      | some actor =>
        { node with ports := addNew node.ports ⟨"LAG key=" ++ actor.key, "port " ++ actor.port.getD "?"⟩ }
    else node

/-! ### Edges -/

structure TopologyEdge where
  src : String
  dst : String
  protocol : String
  conversationCount : Nat
  bytesTotal : Nat
  firstSeen : String
  lastSeen : String
  includesWrites : Bool
  includesProgramAccess : Bool
  dstPort : Nat
  transport : String
  portLabel : String
  srcPortsObserved : Nat
deriving DecidableEq

def ephemeralPortMin : Nat := 49152

def portLabelOf (services : Services) (conv : Conversation) : String :=
  if conv.port = 0 then ""
  else
    let label := toString conv.port ++ "/" ++ either conv.transport "tcp"
    match services.otProtocols conv.port with
    | some name => label ++ " (" ++ name ++ ")"
    | none =>
      match services.wellKnownPorts conv.port with
      | some (name, _) => label ++ " (" ++ name ++ ")"
      | none => label

def TopologyEdge.new (services : Services) (conv : Conversation) : TopologyEdge where
  src := conv.srcKey
  dst := conv.dstKey
  protocol := conv.protocol
  conversationCount := 1
  bytesTotal := conv.bytesTotal
  firstSeen := conv.firstSeen
  lastSeen := conv.lastSeen
  includesWrites := 0 < conv.modbusWrites
  includesProgramAccess := conv.s7ProgramAccess
  dstPort := conv.port
  transport := conv.transport
  portLabel := portLabelOf services conv
  srcPortsObserved := conv.srcPortsSeen.length

def TopologyEdge.merge (e : TopologyEdge) (conv : Conversation) : TopologyEdge :=
  { e with
    conversationCount := e.conversationCount + 1
    bytesTotal := e.bytesTotal + conv.bytesTotal
    firstSeen :=
      if e.firstSeen ≠ "" ∧ conv.firstSeen ≠ "" then min e.firstSeen conv.firstSeen else either e.firstSeen conv.firstSeen
    lastSeen :=
      if e.lastSeen ≠ "" ∧ conv.lastSeen ≠ "" then max e.lastSeen conv.lastSeen else either e.lastSeen conv.lastSeen
    includesWrites := e.includesWrites || 0 < conv.modbusWrites
    includesProgramAccess := e.includesProgramAccess || conv.s7ProgramAccess
    srcPortsObserved := e.srcPortsObserved + conv.srcPortsSeen.length }

abbrev EdgeKey := String × String × String × Nat × String

def Conversation.edgeKey (conv : Conversation) : EdgeKey :=
  (conv.srcKey, conv.dstKey, conv.protocol, conv.port, conv.transport)

/-! ### `_build_graph` -/

structure ServiceData where
  connections : Nat
  peers : List String

/-- The graph while it is built: `nodes`, `service_port_map` and `edge_map`. -/
structure Building where
  nodes : Nodes
  servicePortMap : PyDict String (PyDict (Nat × String) ServiceData)
  edgeMap : PyDict EdgeKey TopologyEdge

def Building.empty : Building := ⟨PyDict.empty, PyDict.empty, PyDict.empty⟩

section Build
variable (services : Services) (skipEphemeral : Bool)

/-- The nodes after a conversation: the sender's, the receiver's, and the sender's again. -/
def addToNodes (nodes : Nodes) (conv : Conversation) : Nodes :=
  let display := protoDisplay services conv.protocol
  let sent := (ensureNode nodes conv.srcKey conv.srcIp conv.srcMac).modify conv.srcKey (·.sends conv.srcMac display)
  let received := (ensureNode sent conv.dstKey conv.dstIp conv.dstMac).modify conv.dstKey (·.receives conv.dstMac display)
  received.modify conv.srcKey fun node => (node.hosted conv).discovers conv

def addToServices (servicePortMap : PyDict String (PyDict (Nat × String) ServiceData)) (conv : Conversation) :
    PyDict String (PyDict (Nat × String) ServiceData) :=
  if conv.port = 0 then servicePortMap
  else
    let portMap := (servicePortMap.get conv.dstKey).getD PyDict.empty
    let data := (portMap.get (conv.port, conv.transport)).getD ⟨0, []⟩
    let peers := if conv.srcKey ≠ "" then addNew data.peers conv.srcKey else data.peers
    servicePortMap.set conv.dstKey (portMap.set (conv.port, conv.transport) ⟨data.connections + 1, peers⟩)

def addToEdges (edgeMap : PyDict EdgeKey TopologyEdge) (conv : Conversation) : PyDict EdgeKey TopologyEdge :=
  if skipEphemeral ∧ ephemeralPortMin ≤ conv.port then edgeMap
  else
    match edgeMap.get conv.edgeKey with
    | some e => edgeMap.set conv.edgeKey (e.merge conv)
    | none => edgeMap.set conv.edgeKey (.new services conv)

def addConversation (b : Building) (conv : Conversation) : Building where
  nodes := addToNodes services b.nodes conv
  servicePortMap := addToServices b.servicePortMap conv
  edgeMap := addToEdges services skipEphemeral b.edgeMap conv

/-- A service of a node, unless it is a client's ephemeral port. -/
def servicePort (port : Nat) (transport : String) (data : ServiceData) : Option ServicePort :=
  if ephemeralPortMin ≤ port ∧ data.connections ≤ 1 then none
  else
    let unnamed := if transport ≠ "" then services.upper transport ++ "/" ++ toString port else toString port
    let named : String × String :=
      match services.otProtocols port with
      | some name => (name, "OT")
      | none =>
        match services.wellKnownPorts port with
        | some known => known
        | none => (unnamed, if ephemeralPortMin ≤ port then "Ephemeral" else "Unknown")
    some
      { port := port
        transport := either transport "tcp"
        protocol := named.1
        category := named.2
        connections := data.connections
        peers := data.peers.take 20 }

/-- The order of `sorted(port_map.items())`. -/
def portLe (a b : (Nat × String) × ServiceData) : Bool :=
  a.1.1 < b.1.1 ∨ a.1.1 = b.1.1 ∧ a.1.2 ≤ b.1.2

def TopologyNode.serves (node : TopologyNode) (portMap : PyDict (Nat × String) ServiceData) : TopologyNode :=
  { node with
    servicePorts := node.servicePorts ++
      (portMap.items.mergeSort portLe).filterMap fun item => servicePort services item.1.1 item.1.2 item.2 }

/-- The nodes and the edges of the conversations. -/
def buildGraph (conversations : List Conversation) : Nodes × List TopologyEdge :=
  let b := conversations.foldl (addConversation services skipEphemeral) .empty
  (b.servicePortMap.items.foldl (fun nodes item => nodes.modify item.1 (·.serves services item.2)) b.nodes,
    b.edgeMap.items.map Prod.snd)

end Build

/-! ### The conversations by their endpoints -/

abbrev Index := PyDict String (List Conversation)

def indexBy (key : Conversation → String) (conversations : List Conversation) : Index :=
  conversations.foldl (fun index conv => index.set (key conv) ((index.get (key conv)).getD [] ++ [conv])) PyDict.empty

structure TopologyBuilder where
  nodes : Nodes
  edges : List TopologyEdge
  convBySrc : Index
  convByDst : Index

/-- `build`, up to the graph. -/
def graphed (services : Services) (skipEphemeral : Bool) (conversations : List Conversation) : TopologyBuilder where
  nodes := (buildGraph services skipEphemeral conversations).1
  edges := (buildGraph services skipEphemeral conversations).2
  convBySrc := indexBy Conversation.srcKey conversations
  convByDst := indexBy Conversation.dstKey conversations

end Marlinspike.Topology.Graph
