import Mathlib.Data.Finset.Lattice.Fold
import Mathlib.Data.Finset.Lattice.Lemmas
import Mathlib.Data.String.Basic
import Marlinspike.Gathering
import Marlinspike.Dissect.Bronze

/-!
What a conversation has from its events. Every event but those about assets has a share in
one conversation, and the conversation's account is gathered from the shares in their order
(`get_accounts`). The assets give a Modbus conversation its one function if it has no other.
-/
namespace Marlinspike.Dissect.Accounts
open Marlinspike.Gathering
open Marlinspike.Dissect.Bronze
open Marlinspike.Topology.Graph (addNew mem_addNew)

/-! ### Accounts -/

/-- The lists of a conversation that name functions of an industrial protocol. -/
inductive FunctionField where
  | modbusFunctions
  | s7Functions
  | dnp3Objects
  | opcSessions
  | iec104Typeids
  | iec104Causes
deriving DecidableEq

/-- The protocol whose events fill the list. -/
def FunctionField.protocol : FunctionField → Option String
  | .modbusFunctions => some "Modbus TCP"
  | .s7Functions => some "S7comm"
  | .dnp3Objects => some "DNP3"
  | .opcSessions => some "OPC-UA"
  | .iec104Typeids => none
  | .iec104Causes => none

/-- What is compared of a conversation. -/
@[ext] structure Account where
  srcIp : String
  dstIp : String
  srcMac : String
  dstMac : String
  protocol : String
  port : Nat
  transport : String
  packetCount : Nat
  bytesTotal : Nat
  firstSeen : String
  lastSeen : String
  modbusWrites : Nat
  s7ProgramAccess : Bool
  functions : FunctionField → Finset String

/-- The addresses, the protocol and the port. -/
def Account.ends (account : Account) : String × String × String × String × String × Nat :=
  (account.srcIp, account.dstIp, account.srcMac, account.dstMac, account.protocol, account.port)

def Conversation.functions (conv : Conversation) : FunctionField → List String
  | .modbusFunctions => conv.modbusFunctions
  | .s7Functions => conv.s7Functions
  | .dnp3Objects => conv.dnp3Objects
  | .opcSessions => conv.opcSessions
  | .iec104Typeids => conv.iec104Typeids
  | .iec104Causes => conv.iec104Causes

def Conversation.account (conv : Conversation) : Account where
  srcIp := conv.srcIp
  dstIp := conv.dstIp
  srcMac := conv.srcMac
  dstMac := conv.dstMac
  protocol := conv.protocol
  port := conv.port
  transport := conv.transport
  packetCount := conv.packetCount
  bytesTotal := conv.bytesTotal
  firstSeen := conv.firstSeen
  lastSeen := conv.lastSeen
  modbusWrites := conv.modbusWrites
  s7ProgramAccess := conv.s7ProgramAccess
  functions field := (Conversation.functions conv field).toFinset

def Aggregate.functions (aggregate : Aggregate) : FunctionField → List String
  | .modbusFunctions => aggregate.modbusFunctions
  | .s7Functions => aggregate.s7Functions
  | .dnp3Objects => aggregate.dnp3Objects
  | .opcSessions => aggregate.opcSessions
  | .iec104Typeids => []
  | .iec104Causes => []

def Aggregate.account (aggregate : Aggregate) : Account where
  srcIp := aggregate.srcIp
  dstIp := aggregate.dstIp
  srcMac := aggregate.srcMac
  dstMac := aggregate.dstMac
  protocol := aggregate.protocol
  port := aggregate.port
  transport := aggregate.transport
  packetCount := aggregate.packetCount
  bytesTotal := aggregate.bytesTotal
  firstSeen := aggregate.firstSeen
  lastSeen := aggregate.lastSeen
  modbusWrites := aggregate.modbusWrites
  s7ProgramAccess := aggregate.s7ProgramAccess
  functions field := (Aggregate.functions aggregate field).toFinset

/-! ### Shares -/

def AggregateKey.srcIp : AggregateKey → String
  | .flow srcIp _ _ _ _ _ _ => srcIp
  | .l2 _ _ _ => ""

def AggregateKey.dstIp : AggregateKey → String
  | .flow _ dstIp _ _ _ _ _ => dstIp
  | .l2 _ _ _ => ""

def AggregateKey.srcMac : AggregateKey → String
  | .flow _ _ srcMac _ _ _ _ => srcMac
  | .l2 _ srcMac _ => srcMac

def AggregateKey.dstMac : AggregateKey → String
  | .flow _ _ _ dstMac _ _ _ => dstMac
  | .l2 _ _ dstMac => dstMac

def AggregateKey.port : AggregateKey → Nat
  | .flow _ _ _ _ _ servicePort _ => servicePort
  | .l2 _ _ _ => 0

/-- What an event adds to its conversation. -/
structure Share where
  key : AggregateKey
  timestamp : String
  transport : String
  packets : Nat
  bytes : Nat
  operation : String
  /-- The operation that an OPC session is listed with. -/
  serviceType : String

section Adapter
variable (services : Services)

def AggregateKey.protocol : AggregateKey → String
  | .flow _ _ _ _ protocolKey _ _ => protocolDisplayName services protocolKey
  | .l2 protocolKey _ _ => protocolDisplayName services protocolKey

def AggregateKey.ends (k : AggregateKey) : String × String × String × String × String × Nat :=
  (AggregateKey.srcIp k, AggregateKey.dstIp k, AggregateKey.srcMac k, AggregateKey.dstMac k,
    AggregateKey.protocol services k, AggregateKey.port k)

def shareIn (envelope : Envelope) (key : AggregateKey) (operation serviceType : String) : Share where
  key := key
  timestamp := envelope.timestamp
  transport := services.lower envelope.transport
  packets := if envelope.packetCount = 0 then 1 else envelope.packetCount
  bytes := envelope.bytesCount
  operation := operation
  serviceType := serviceType

def serviceTypeOf (tx : Transaction) : String :=
  let serviceType := (tx.attributes.get "service_type").getD ""
  if serviceType ≠ "" then serviceType else tx.operation

def shareOf (event : Event) : Option Share :=
  match event.family with
  | .topologyObservation observation =>
    some (shareIn services event.envelope (l2KeyOf services event.envelope observation).1 "" "")
  | .protocolTransaction tx =>
    some (shareIn services event.envelope (normalizeBronzeFlow services event.envelope tx).key tx.operation
      (serviceTypeOf tx))
  | _ => none

def shares (events : List Event) : List Share := events.filterMap (shareOf services)

/-- The shares of a conversation. -/
def sharesOf (k : AggregateKey) (events : List Event) : List Share := (shares services events).filter (·.key = k)

/-- The shares of a conversation name no operation. -/
def Silent (k : AggregateKey) (events : List Event) : Prop :=
  ∀ share ∈ sharesOf services k events, share.operation = ""

/-- The function that a share names in a list. -/
def Share.entries (share : Share) (field : FunctionField) : Finset String :=
  let named := if field = .opcSessions then share.serviceType else share.operation
  if field.protocol = some (AggregateKey.protocol services share.key) ∧ named ≠ "" then {named} else ∅

def Share.writes (share : Share) : Nat :=
  if AggregateKey.protocol services share.key = "Modbus TCP" ∧ "write_".toList <+: share.operation.toList then 1 else 0

def Share.programs (share : Share) : Bool :=
  AggregateKey.protocol services share.key = "S7comm" ∧ share.operation ∈ rustS7ProgramOperations

/-- A conversation before its first share is added. -/
def Share.begun (share : Share) : Account where
  srcIp := AggregateKey.srcIp share.key
  dstIp := AggregateKey.dstIp share.key
  srcMac := AggregateKey.srcMac share.key
  dstMac := AggregateKey.dstMac share.key
  protocol := AggregateKey.protocol services share.key
  port := AggregateKey.port share.key
  transport := share.transport
  packetCount := 0
  bytesTotal := 0
  firstSeen := share.timestamp
  lastSeen := share.timestamp
  modbusWrites := 0
  s7ProgramAccess := false
  functions _ := ∅

def Account.add (account : Account) (share : Share) : Account :=
  { account with
    packetCount := account.packetCount + share.packets
    bytesTotal := account.bytesTotal + share.bytes
    firstSeen := if share.timestamp = "" then account.firstSeen else min account.firstSeen share.timestamp
    lastSeen := if share.timestamp = "" then account.lastSeen else max account.lastSeen share.timestamp
    modbusWrites := account.modbusWrites + Share.writes services share
    s7ProgramAccess := account.s7ProgramAccess || Share.programs services share
    functions := fun field => account.functions field ∪ Share.entries services share field }

/-- The account of a conversation's first share. -/
def Share.account (share : Share) : Account := Account.add services (Share.begun services share) share

/-- The account of a conversation, but for what its addresses are known for. -/
def counted (k : AggregateKey) (events : List Event) : Option Account :=
  gather (Share.account services) (Account.add services) (sharesOf services k events)

/-! ### What is known of addresses -/

/-- The identifiers that Modbus devices at an address are observed with. -/
def modbusIdentities (ip : String) (events : List Event) : List (PyDict String String) :=
  events.filterMap fun event =>
    match event.family with
    | .assetObservation asset =>
      if "modbus" ∈ asset.protocols ∧ assetAddress services asset = ip ∧ ip ≠ "" then some asset.identifiers else none
    | _ => none

/-- The last Modbus device that is observed at an address has identifiers. -/
def Identified (events : List Event) (ip : String) : Prop :=
  ((modbusIdentities services ip events).getLast?.getD PyDict.empty).items ≠ []

instance (events : List Event) (ip : String) : Decidable (Identified services events ip) := by
  unfold Identified
  infer_instance

/-- One of the addresses of a conversation is that of an identified Modbus device. -/
def EndIdentified (events : List Event) (k : AggregateKey) : Prop :=
  Identified services events (AggregateKey.dstIp k) ∨ Identified services events (AggregateKey.srcIp k)

instance (events : List Event) (k : AggregateKey) : Decidable (EndIdentified services events k) :=
  inferInstanceAs (Decidable (_ ∨ _))

def Account.identified (known : Prop) [Decidable known] (account : Account) : Account :=
  { account with
    functions :=
      if known ∧ account.protocol = "Modbus TCP" ∧ account.functions .modbusFunctions = ∅ then
        Function.update account.functions .modbusFunctions {"read_device_identification"}
      else account.functions }

/-- The account of a conversation. -/
def accountOf (k : AggregateKey) (events : List Event) : Option Account :=
  (counted services k events).map (Account.identified (EndIdentified services events k))

/-- The accounts of all conversations. -/
def accounts (events : List Event) : PyDict AggregateKey Account :=
  (processEvents services events).aggregates.mapItems fun _ aggregate =>
    Conversation.account (conversationOf services (processEvents services events).assetState aggregate)

/-! ### The fields of one protocol -/

theorem toFinset_addNew (values : List String) (value : String) :
    (if value = "" then values else addNew values value).toFinset =
      values.toFinset ∪ if value = "" then ∅ else {value} := by
  split_ifs
  · simp
  · ext other
    simp [mem_addNew, or_comm]

theorem toFinset_append (values : List String) (value : String) :
    (if value = "" then values else values ++ [value]).toFinset =
      values.toFinset ∪ if value = "" then ∅ else {value} := by
  split_ifs
  · simp
  · simp

theorem normalizeBronzeFlow_transport (envelope : Envelope) (tx : Transaction) :
    (normalizeBronzeFlow services envelope tx).transport = services.lower envelope.transport := by
  unfold normalizeBronzeFlow
  dsimp only
  split_ifs <;> rfl

variable {services}

/-- What the fields of a protocol do to the lists of functions. -/
theorem functions_applyProtocolFields {aggregate : Aggregate} {envelope : Envelope} {tx : Transaction} {flow : Flow}
    {key : AggregateKey} (own : aggregate.protocol = AggregateKey.protocol services key) (field : FunctionField) :
    (Aggregate.functions (applyProtocolFields aggregate tx flow) field).toFinset =
      (Aggregate.functions aggregate field).toFinset ∪
        Share.entries services (shareIn services envelope key tx.operation (serviceTypeOf tx)) field := by
  unfold applyProtocolFields Share.entries
  simp only [shareIn, ← own]
  by_cases modbus : aggregate.protocol = "Modbus TCP"
  · rw [if_pos modbus]
    cases field <;> simp [Aggregate.functions, FunctionField.protocol, modbus, toFinset_addNew]
  rw [if_neg modbus]
  by_cases s7 : aggregate.protocol = "S7comm"
  · rw [if_pos s7]
    cases field <;> simp [Aggregate.functions, FunctionField.protocol, s7, toFinset_addNew]
  rw [if_neg s7]
  by_cases dnp3 : aggregate.protocol = "DNP3"
  · rw [if_pos dnp3]
    cases field <;> simp [Aggregate.functions, FunctionField.protocol, dnp3, toFinset_addNew]
  rw [if_neg dnp3]
  by_cases opc : aggregate.protocol = "OPC-UA"
  · rw [if_pos opc]
    cases field <;> simp [Aggregate.functions, FunctionField.protocol, opc, serviceTypeOf, toFinset_append]
  rw [if_neg opc]
  have none_ : ¬ field.protocol = some aggregate.protocol := by
    cases field <;> simp [FunctionField.protocol, Ne.symm modbus, Ne.symm s7, Ne.symm dnp3, Ne.symm opc]
  have nothing : (if field.protocol = some aggregate.protocol ∧
      (if field = .opcSessions then serviceTypeOf tx else tx.operation) ≠ "" then
        ({if field = .opcSessions then serviceTypeOf tx else tx.operation} : Finset String) else ∅) = ∅ :=
    if_neg fun both => none_ both.1
  rw [nothing, Finset.union_empty]
  split_ifs <;> cases field <;> rfl

theorem modbusWrites_applyProtocolFields {aggregate : Aggregate} {envelope : Envelope} {tx : Transaction}
    {flow : Flow} {key : AggregateKey} (own : aggregate.protocol = AggregateKey.protocol services key) :
    (applyProtocolFields aggregate tx flow).modbusWrites = aggregate.modbusWrites +
      Share.writes services (shareIn services envelope key tx.operation (serviceTypeOf tx)) := by
  unfold applyProtocolFields Share.writes
  simp only [shareIn, ← own]
  by_cases modbus : aggregate.protocol = "Modbus TCP"
  · simp only [modbus, if_true, true_and]
    split_ifs <;> rfl
  · simp only [modbus, if_false, false_and, Nat.add_zero]
    split_ifs <;> rfl

theorem s7ProgramAccess_applyProtocolFields {aggregate : Aggregate} {envelope : Envelope} {tx : Transaction}
    {flow : Flow} {key : AggregateKey} (own : aggregate.protocol = AggregateKey.protocol services key) :
    (applyProtocolFields aggregate tx flow).s7ProgramAccess = (aggregate.s7ProgramAccess ||
      Share.programs services (shareIn services envelope key tx.operation (serviceTypeOf tx))) := by
  unfold applyProtocolFields Share.programs
  simp only [shareIn, ← own]
  by_cases s7 : aggregate.protocol = "S7comm"
  · simp [s7, Bool.or_comm]
  · simp only [s7, if_false, false_and, decide_false, Bool.or_false]
    split_ifs <;> rfl

/-- The fields of a protocol add its share to the rest of the account. -/
theorem account_applyProtocolFields {aggregate : Aggregate} {envelope : Envelope} {tx : Transaction} {flow : Flow}
    {key : AggregateKey} (own : aggregate.protocol = AggregateKey.protocol services key) :
    Aggregate.account (applyProtocolFields aggregate tx flow) =
      { Aggregate.account aggregate with
        modbusWrites := aggregate.modbusWrites +
          Share.writes services (shareIn services envelope key tx.operation (serviceTypeOf tx))
        s7ProgramAccess := aggregate.s7ProgramAccess ||
          Share.programs services (shareIn services envelope key tx.operation (serviceTypeOf tx))
        functions := fun field => (Aggregate.functions aggregate field).toFinset ∪
          Share.entries services (shareIn services envelope key tx.operation (serviceTypeOf tx)) field } := by
  have rest : Aggregate.account (applyProtocolFields aggregate tx flow) =
      { Aggregate.account aggregate with
        modbusWrites := (applyProtocolFields aggregate tx flow).modbusWrites
        s7ProgramAccess := (applyProtocolFields aggregate tx flow).s7ProgramAccess
        functions := fun field => (Aggregate.functions (applyProtocolFields aggregate tx flow) field).toFinset } := by
    unfold applyProtocolFields
    split_ifs <;> rfl
  rw [rest, modbusWrites_applyProtocolFields own, s7ProgramAccess_applyProtocolFields own,
    funext (functions_applyProtocolFields own)]

/-! ### The share of one event -/

theorem account_transaction {aggregate : Aggregate} {envelope : Envelope} {tx : Transaction} {flow : Flow}
    {key : AggregateKey} (own : aggregate.protocol = AggregateKey.protocol services key) :
    Aggregate.account (applyProtocolTransaction services (aggregate.count services envelope) tx flow) =
      Account.add services (Aggregate.account aggregate)
        (shareIn services envelope key tx.operation (serviceTypeOf tx)) := by
  unfold applyProtocolTransaction
  refine (@account_applyProtocolFields services _ envelope tx flow key ?_).trans rfl
  exact own

theorem account_topology (aggregate : Aggregate) (envelope : Envelope) (key : AggregateKey) (discovery : NestedDict) :
    Aggregate.account { aggregate.count services envelope with l2Discovery := discovery } =
      Account.add services (Aggregate.account aggregate) (shareIn services envelope key "" "") := by
  have entries (field : FunctionField) : Share.entries services (shareIn services envelope key "" "") field = ∅ := by
    simp [Share.entries, shareIn]
  have writes : Share.writes services (shareIn services envelope key "" "") = 0 := by
    simp [Share.writes, shareIn]
  have programs : Share.programs services (shareIn services envelope key "" "") = false := by
    simp [Share.programs, shareIn, rustS7ProgramOperations]
  simp only [Account.add, entries, writes, programs, Finset.union_empty, Nat.add_zero, Bool.or_false]
  rfl

theorem account_new (srcIp dstIp srcMac dstMac protocol transport timestamp : String) (port srcPort : Nat) :
    Aggregate.account (.new srcIp dstIp srcMac dstMac protocol port srcPort transport timestamp) =
      ⟨srcIp, dstIp, srcMac, dstMac, protocol, port, transport, 0, 0, timestamp, timestamp, 0, false, fun _ => ∅⟩ := by
  apply Account.ext <;> try rfl
  funext field
  cases field <;> rfl

theorem account_open_l2 (envelope : Envelope) (protocolKey srcMac dstMac operation serviceType : String)
    (srcPort : Nat) : Aggregate.account ((AggregateKey.l2 protocolKey srcMac dstMac).open services envelope srcPort) =
      Share.begun services (shareIn services envelope (.l2 protocolKey srcMac dstMac) operation serviceType) :=
  account_new ..

theorem account_open_flow {envelope : Envelope} {flow : Flow} (carried : flow.transport = services.lower envelope.transport)
    (operation serviceType : String) : Aggregate.account (flow.key.open services envelope flow.srcPort) =
      Share.begun services (shareIn services envelope flow.key operation serviceType) := by
  simp only [Share.begun, shareIn, ← carried]
  exact account_new ..

theorem protocol_open (envelope : Envelope) (key : AggregateKey) (srcPort : Nat) :
    (key.open services envelope srcPort).protocol = AggregateKey.protocol services key := by
  cases key <;> rfl

/-- What an event without a share leaves, and one with a share adds to. -/
theorem account_processEvent {state : State} {k : AggregateKey}
    (keyed : ∀ aggregate, state.aggregates.get k = some aggregate → aggregate.protocol = AggregateKey.protocol services k)
    (event : Event) : ((processEvent services state event).aggregates.get k).map Aggregate.account =
      match shareOf services event with
      | none => (state.aggregates.get k).map Aggregate.account
      | some share =>
        if share.key = k then
          some (((state.aggregates.get k).map Aggregate.account).elim (Share.account services share)
            (Account.add services · share))
        else (state.aggregates.get k).map Aggregate.account := by
  obtain ⟨envelope, family⟩ := event
  cases family with
  | assetObservation asset => rfl
  | other => rfl
  | topologyObservation observation =>
    simp only [processEvent, shareOf, applyTopologyObservation, PyDict.get_set]
    generalize is : (l2KeyOf services envelope observation).1 = key
    obtain ⟨protocolKey, srcMac, dstMac, rfl⟩ : ∃ protocolKey srcMac dstMac, key = .l2 protocolKey srcMac dstMac :=
      ⟨_, _, _, is.symm⟩
    by_cases own : AggregateKey.l2 protocolKey srcMac dstMac = k
    · subst own
      refine Eq.trans ?_ (if_pos rfl).symm
      rw [if_pos rfl, Option.map_some, account_topology _ envelope (.l2 protocolKey srcMac dstMac)]
      cases state.aggregates.get (.l2 protocolKey srcMac dstMac) with
      | none =>
        rw [Option.getD_none, account_open_l2 envelope protocolKey srcMac dstMac "" ""]
        rfl
      | some aggregate => rfl
    · rw [if_neg own]
      exact (if_neg own).symm
  | protocolTransaction tx =>
    simp only [processEvent, shareOf, countTransaction, PyDict.get_set]
    have carried := normalizeBronzeFlow_transport services envelope tx
    generalize normalizeBronzeFlow services envelope tx = flow at carried
    by_cases own : flow.key = k
    · subst own
      refine Eq.trans ?_ (if_pos rfl).symm
      rw [if_pos rfl, Option.map_some]
      cases found : state.aggregates.get flow.key with
      | none =>
        rw [Option.getD_none, account_transaction (protocol_open envelope flow.key flow.srcPort),
          account_open_flow carried tx.operation (serviceTypeOf tx)]
        rfl
      | some aggregate =>
        rw [Option.getD_some, account_transaction (keyed aggregate found)]
        rfl
    · rw [if_neg own]
      exact (if_neg own).symm

/-! ### The shares of all events -/

theorem sharesOf_append (k : AggregateKey) (first second : List Event) :
    sharesOf services k (first ++ second) = sharesOf services k first ++ sharesOf services k second := by
  rw [sharesOf, shares, List.filterMap_append, List.filter_append]
  rfl

theorem mem_sharesOf {k : AggregateKey} {events : List Event} {share : Share} :
    share ∈ sharesOf services k events ↔ share ∈ shares services events ∧ share.key = k := by
  simp [sharesOf]

theorem ends_of_counted {k : AggregateKey} {events : List Event} {account : Account}
    (counted_ : counted services k events = some account) : account.ends = AggregateKey.ends services k := by
  obtain ⟨share, member, is⟩ := chosen_of_gather counted_ Account.ends
    (fun share => AggregateKey.ends services share.key) (fun _ => rfl) (fun _ _ => .inl rfl)
  rw [is, (mem_sharesOf.mp member).2]

theorem protocol_of_counted {k : AggregateKey} {events : List Event} {account : Account}
    (counted_ : counted services k events = some account) : account.protocol = AggregateKey.protocol services k :=
  congrArg (·.2.2.2.2.1) (ends_of_counted counted_)

/-- A conversation's account is counted from its shares. -/
theorem counted_eq (events : List Event) (k : AggregateKey) :
    ((processEvents services events).aggregates.get k).map Aggregate.account = counted services k events := by
  induction events using List.reverseRecOn with
  | nil => rfl
  | append_singleton events event ih =>
    have keyed (aggregate : Aggregate) (found : (processEvents services events).aggregates.get k = some aggregate) :
        aggregate.protocol = AggregateKey.protocol services k := by
      rw [found] at ih
      exact protocol_of_counted ih.symm
    rw [processEvents, List.foldl_append, List.foldl_cons, List.foldl_nil, ← processEvents,
      account_processEvent keyed, ih, counted, counted, sharesOf_append]
    cases has : shareOf services event with
    | none => simp [sharesOf, shares, has]
    | some share =>
      have own : sharesOf services k [event] = if share.key = k then [share] else [] := by
        simp [sharesOf, shares, has, List.filter_singleton]
      rw [own]
      dsimp only
      split_ifs
      · rw [gather_concat]
      · rw [List.append_nil]

/-! ### The identities of addresses -/

def identityAt (assetState : PyDict String AssetEntry) (ip : String) : PyDict String String :=
  ((assetState.get ip).getD AssetEntry.empty).modbusIdentity

theorem identityAt_updateAsset (assetState : PyDict String AssetEntry) (ipKey ip : String) (f : AssetEntry → AssetEntry) :
    identityAt (updateAsset assetState ipKey f) ip =
      if ipKey = ip then (f ((assetState.get ipKey).getD AssetEntry.empty)).modbusIdentity
      else identityAt assetState ip := by
  unfold identityAt updateAsset
  rw [PyDict.get_set]
  split_ifs <;> rfl

theorem identityAt_unless {assetState : PyDict String AssetEntry} {ipKey ip : String} {f : AssetEntry → AssetEntry}
    {p : Prop} [Decidable p] (harmless : p → ipKey = ip → ∀ entry, (f entry).modbusIdentity = entry.modbusIdentity) :
    identityAt (if p then updateAsset assetState ipKey f else assetState) ip = identityAt assetState ip := by
  split_ifs with changed
  · rw [identityAt_updateAsset]
    split_ifs with here
    · rw [harmless changed here, here]
      rfl
    · rfl
  · rfl

/-- Only an observation of a Modbus device replaces an identity. -/
theorem identityAt_register (state : State) (envelope : Envelope) (asset : AssetObservation) (ip : String) :
    identityAt (registerAssetObservation services state envelope asset).assetState ip =
      if "modbus" ∈ asset.protocols ∧ assetAddress services asset = ip ∧ ip ≠ "" then asset.identifiers
      else identityAt state.assetState ip := by
  have cip (assetState : PyDict String AssetEntry) :
      identityAt (noteCipIdentity services assetState asset) ip = identityAt assetState ip :=
    identityAt_unless fun _ _ _ => rfl
  have summary (assetState : PyDict String AssetEntry) :
      identityAt (noteSummary services assetState asset) ip = identityAt assetState ip :=
    identityAt_unless fun _ _ _ => rfl
  have same := (cip _).trans (summary state.assetState)
  have register : (registerAssetObservation services state envelope asset).assetState =
      noteModbusIdentity services (noteCipIdentity services (noteSummary services state.assetState asset) asset) asset := rfl
  generalize noteCipIdentity services (noteSummary services state.assetState asset) asset = before at same register
  rw [register, ← same, noteModbusIdentity]
  by_cases own : "modbus" ∈ asset.protocols ∧ assetAddress services asset = ip ∧ ip ≠ ""
  · rw [if_pos own, if_pos ⟨own.1, own.2.1.symm ▸ own.2.2⟩, identityAt_updateAsset, if_pos own.2.1]
  · rw [if_neg own]
    refine identityAt_unless fun changed here => absurd ?_ own
    exact ⟨changed.1, here, here ▸ changed.2⟩

theorem identityAt_processEvents (events : List Event) (ip : String) :
    identityAt (processEvents services events).assetState ip =
      (modbusIdentities services ip events).getLast?.getD PyDict.empty := by
  induction events using List.reverseRecOn with
  | nil => rfl
  | append_singleton events event ih =>
    rw [processEvents, List.foldl_append, List.foldl_cons, List.foldl_nil, ← processEvents, modbusIdentities,
      List.filterMap_append, ← modbusIdentities]
    obtain ⟨envelope, family⟩ := event
    cases family with
    | assetObservation asset =>
      rw [processEvent, identityAt_register, ih]
      by_cases own : "modbus" ∈ asset.protocols ∧ assetAddress services asset = ip ∧ ip ≠ ""
      · simp [own]
      · simp [own]
    | topologyObservation observation =>
      refine Eq.trans ih ?_
      simp [modbusIdentities]
    | protocolTransaction tx =>
      refine Eq.trans ih ?_
      simp [modbusIdentities]
    | other =>
      refine Eq.trans ih ?_
      simp [modbusIdentities]

theorem modbusFunctions_identify (assetState : PyDict String AssetEntry) (aggregate : Aggregate) (ip : String) :
    (identify assetState aggregate ip).modbusFunctions =
      if (identityAt assetState ip).items ≠ [] ∧ aggregate.protocol = "Modbus TCP" ∧ aggregate.modbusFunctions = [] then
        ["read_device_identification"]
      else aggregate.modbusFunctions := rfl

theorem protocol_identify (assetState : PyDict String AssetEntry) (aggregate : Aggregate) (ip : String) :
    (identify assetState aggregate ip).protocol = aggregate.protocol := rfl

/-- The two addresses of a conversation are looked at one after the other. -/
theorem modbusFunctions_identified {assetState : PyDict String AssetEntry} {aggregate : Aggregate} {known : Prop}
    [Decidable known] (is : known ↔ (identityAt assetState aggregate.dstIp).items ≠ [] ∨
      (identityAt assetState aggregate.srcIp).items ≠ []) :
    (identify assetState (identify assetState aggregate aggregate.dstIp) aggregate.srcIp).modbusFunctions =
      if known ∧ aggregate.protocol = "Modbus TCP" ∧ aggregate.modbusFunctions = [] then
        ["read_device_identification"]
      else aggregate.modbusFunctions := by
  rw [modbusFunctions_identify, modbusFunctions_identify, protocol_identify]
  simp only [is]
  by_cases modbus : aggregate.protocol = "Modbus TCP" ∧ aggregate.modbusFunctions = []
  · by_cases dst : (identityAt assetState aggregate.dstIp).items ≠ []
    · simp [modbus, dst]
    · simp [modbus, not_not.mp dst]
  · have never (p : Prop) : ¬ (p ∧ aggregate.protocol = "Modbus TCP" ∧ aggregate.modbusFunctions = []) :=
      fun all => modbus all.2
    simp only [never, if_false]

/-- A conversation has what its aggregate has, and the function that its addresses are known for. -/
theorem account_conversationOf {assetState : PyDict String AssetEntry} {aggregate : Aggregate} {known : Prop}
    [Decidable known] (is : known ↔ (identityAt assetState aggregate.dstIp).items ≠ [] ∨
      (identityAt assetState aggregate.srcIp).items ≠ []) :
    Conversation.account (conversationOf services assetState aggregate) =
      Account.identified known (Aggregate.account aggregate) := by
  have rest : Conversation.account (conversationOf services assetState aggregate) =
      { Aggregate.account aggregate with
        functions := fun field => (Aggregate.functions
          (identify assetState (identify assetState aggregate aggregate.dstIp) aggregate.srcIp) field).toFinset } := by
    apply Account.ext <;> try rfl
    funext field
    ext text
    cases field <;> simp [Conversation.account, Conversation.functions, conversationOf, Aggregate.functions, sorted]
  have unnamed : (Aggregate.account aggregate).functions .modbusFunctions = ∅ ↔ aggregate.modbusFunctions = [] :=
    List.toFinset_eq_empty_iff _
  have modbus := modbusFunctions_identified is
  rw [rest, Account.identified]
  by_cases named : known ∧ aggregate.protocol = "Modbus TCP" ∧ aggregate.modbusFunctions = []
  · rw [if_pos named] at modbus
    rw [if_pos ⟨named.1, named.2.1, unnamed.mpr named.2.2⟩]
    apply Account.ext <;> try rfl
    funext field
    cases field <;> first | rfl | simp [Aggregate.functions, modbus]
  · rw [if_neg named] at modbus
    rw [if_neg fun all => named ⟨all.1, all.2.1, unnamed.mp all.2.2⟩]
    apply Account.ext <;> try rfl
    funext field
    cases field <;> first | rfl | simp [Aggregate.functions, modbus, Aggregate.account]

theorem account_buildConversations (events : List Event) :
    (buildConversationsFromBronze services events).map Conversation.account =
      (accounts services events).items.map Prod.snd := by
  simp [buildConversationsFromBronze, accounts, PyDict.mapItems]

/-- The conversation of a key has the account of its shares and of its addresses. -/
theorem get_accounts (events : List Event) (k : AggregateKey) :
    (accounts services events).get k = accountOf services k events := by
  rw [accounts, PyDict.get_mapItems, accountOf]
  have counted_ := @counted_eq services events k
  cases found : (processEvents services events).aggregates.get k with
  | none =>
    rw [found] at counted_
    rw [← counted_]
    rfl
  | some aggregate =>
    rw [found] at counted_
    rw [← counted_, Option.map_some, Option.map_some, Option.map_some]
    have ends := ends_of_counted counted_.symm
    have dst : aggregate.dstIp = AggregateKey.dstIp k := congrArg (·.2.1) ends
    have src : aggregate.srcIp = AggregateKey.srcIp k := congrArg (·.1) ends
    refine congrArg some (account_conversationOf ?_)
    rw [identityAt_processEvents, identityAt_processEvents, dst, src]
    rfl

/-! ### What an account says of its shares -/

/-- A time, or none, which is later than all. -/
def instant (timestamp : String) : WithTop String := if timestamp = "" then ⊤ else timestamp

theorem empty_le (text : String) : "" ≤ text := by
  refine le_of_not_gt fun less => ?_
  rw [String.lt_iff_toList_lt] at less
  exact List.not_lt_nil _ less

theorem instant_empty : instant "" = ⊤ := if_pos rfl

theorem instant_of_ne {timestamp : String} (timed : timestamp ≠ "") : instant timestamp = timestamp := if_neg timed

theorem instant_injective : Function.Injective instant := by
  intro a b equal
  unfold instant at equal
  split_ifs at equal with untimed untimed' untimed'
  · rw [untimed, untimed']
  · exact absurd equal.symm (WithTop.coe_ne_top)
  · exact absurd equal (WithTop.coe_ne_top)
  · exact WithTop.coe_injective equal

theorem sharesOf_ne_nil_iff {k : AggregateKey} {events : List Event} :
    sharesOf services k events ≠ [] ↔ ∃ account, accountOf services k events = some account := by
  rw [accountOf, counted, ne_eq, ← @gather_eq_none_iff _ _ (Share.account services) (Account.add services),
    ← Option.ne_none_iff_exists', ne_eq, Option.map_eq_none_iff]

theorem mem_functions_of_counted {k : AggregateKey} {events : List Event} {account : Account}
    (counted_ : counted services k events = some account) (text : String) (field : FunctionField) :
    text ∈ account.functions field ↔ ∃ share ∈ sharesOf services k events, text ∈ Share.entries services share field := by
  refine mem_of_gather counted_ (fun text account => text ∈ account.functions field)
    (fun text share => text ∈ Share.entries services share field) ?_ ?_ text
  · intro text share
    simp [Share.account, Account.add, Share.begun]
  · intro text account share
    simp [Account.add]

section Found
variable {k : AggregateKey} {events : List Event} {account : Account}
  (found : accountOf services k events = some account)
include found

theorem counted_of_account : ∃ before, counted services k events = some before ∧
    account = Account.identified (EndIdentified services events k) before := by
  obtain ⟨before, counted_, rfl⟩ := Option.map_eq_some_iff.mp found
  exact ⟨before, counted_, rfl⟩

theorem packetCount_of_account : account.packetCount = ((sharesOf services k events).map Share.packets).sum := by
  obtain ⟨before, counted_, rfl⟩ := counted_of_account found
  exact sum_of_gather counted_ Account.packetCount Share.packets (fun _ => Nat.zero_add _) fun _ _ => rfl

theorem bytesTotal_of_account : account.bytesTotal = ((sharesOf services k events).map Share.bytes).sum := by
  obtain ⟨before, counted_, rfl⟩ := counted_of_account found
  exact sum_of_gather counted_ Account.bytesTotal Share.bytes (fun _ => Nat.zero_add _) fun _ _ => rfl

theorem modbusWrites_of_account :
    account.modbusWrites = ((sharesOf services k events).map (Share.writes services)).sum := by
  obtain ⟨before, counted_, rfl⟩ := counted_of_account found
  exact sum_of_gather counted_ Account.modbusWrites _ (fun _ => Nat.zero_add _) fun _ _ => rfl

theorem s7ProgramAccess_of_account :
    account.s7ProgramAccess = true ↔ ∃ share ∈ sharesOf services k events, Share.programs services share = true := by
  obtain ⟨before, counted_, rfl⟩ := counted_of_account found
  exact mem_of_gather counted_ (fun (_ : Unit) account => account.s7ProgramAccess = true)
    (fun _ share => Share.programs services share = true) (fun _ share => by simp [Share.account, Account.add, Share.begun])
    (fun _ account share => by simp [Account.add]) ()

theorem lastSeen_of_account (time : String) :
    account.lastSeen ≤ time ↔ ∀ share ∈ sharesOf services k events, share.timestamp ≤ time := by
  obtain ⟨before, counted_, rfl⟩ := counted_of_account found
  refine bounds_of_gather counted_ (fun time account => account.lastSeen ≤ time)
    (fun time share => share.timestamp ≤ time) ?_ ?_ time
  · intro time share
    simp [Share.account, Account.add, Share.begun]
  · intro time account share
    by_cases untimed : share.timestamp = ""
    · simp [Account.add, untimed, empty_le]
    · simp [Account.add, untimed]

theorem transport_of_account :
    ((sharesOf services k events).head?).map Share.transport = some account.transport := by
  obtain ⟨before, counted_, rfl⟩ := counted_of_account found
  obtain ⟨share, is, held⟩ := first_of_gather counted_ Account.transport Share.transport (fun _ => True) (fun _ => rfl)
    (fun _ _ _ => rfl)
  rw [is]
  exact congrArg some (held trivial).symm

/-- A conversation whose first share is untimed is never given a time. -/
theorem firstSeen_of_untimed {first : Share} (is : (sharesOf services k events).head? = some first)
    (untimed : first.timestamp = "") : account.firstSeen = "" := by
  obtain ⟨before, counted_, rfl⟩ := counted_of_account found
  obtain ⟨share, is', held⟩ := first_of_gather counted_ Account.firstSeen Share.timestamp (· = "")
    (fun share => by simp [Share.account, Account.add, Share.begun])
    (fun account share none_ => by simp [Account.add, none_, empty_le])
  rw [is] at is'
  obtain rfl := Option.some.inj is'
  exact (held untimed).trans untimed

/-- Otherwise it is given the earliest time of its shares. -/
theorem firstSeen_of_timed {first : Share} (is : (sharesOf services k events).head? = some first)
    (timed : first.timestamp ≠ "") : account.firstSeen ≠ "" ∧ ∀ time : WithTop String,
      time ≤ instant account.firstSeen ↔ ∀ share ∈ sharesOf services k events, time ≤ instant share.timestamp := by
  obtain ⟨before, counted_, rfl⟩ := counted_of_account found
  have held := gather_induction counted_
    (fun shares account => ∀ first, shares.head? = some first → first.timestamp ≠ "" → account.firstSeen ≠ "" ∧
      ∀ time : WithTop String, time ≤ instant account.firstSeen ↔ ∀ share ∈ shares, time ≤ instant share.timestamp) ?_ ?_
  · exact held first is timed
  · rintro share first ⟨⟩ timed
    have own : (Share.account services share).firstSeen = share.timestamp := by
      simp [Share.account, Account.add, Share.begun]
    simp [own, timed]
  · intro shares account share some_ held first is timed
    rw [List.head?_append_of_ne_nil _ some_] at is
    obtain ⟨named, bound⟩ := held first is timed
    by_cases untimed : share.timestamp = ""
    · have same : (Account.add services account share).firstSeen = account.firstSeen := by simp [Account.add, untimed]
      rw [same]
      refine ⟨named, fun time => ?_⟩
      rw [bound time]
      simp [untimed, instant_empty, or_imp, forall_and]
    · have lower : (Account.add services account share).firstSeen = min account.firstSeen share.timestamp := by
        simp [Account.add, untimed]
      rw [lower]
      have named' : min account.firstSeen share.timestamp ≠ "" := by
        rcases min_choice account.firstSeen share.timestamp with is | is <;> rw [is] <;> assumption
      refine ⟨named', fun time => ?_⟩
      have least : instant (min account.firstSeen share.timestamp) =
          min (instant account.firstSeen) (instant share.timestamp) := by
        rw [instant_of_ne named', instant_of_ne named, instant_of_ne untimed, WithTop.coe_min]
      rw [least, le_min_iff, bound time]
      simp [or_imp, forall_and]

/-- It is the time of one of them. -/
theorem firstSeen_mem : ∃ share ∈ sharesOf services k events, account.firstSeen = share.timestamp := by
  obtain ⟨before, counted_, rfl⟩ := counted_of_account found
  refine chosen_of_gather counted_ Account.firstSeen Share.timestamp ?_ ?_
  · intro share
    simp [Share.account, Account.add, Share.begun]
  · intro account share
    by_cases untimed : share.timestamp = ""
    · simp [Account.add, untimed]
    · simpa [Account.add, untimed] using min_choice account.firstSeen share.timestamp

/-- The functions of a list are those that the shares name, and the one of an identified
    Modbus device where they name none. -/
theorem mem_functions_of_account (text : String) (field : FunctionField) : text ∈ account.functions field ↔
    (∃ share ∈ sharesOf services k events, text ∈ Share.entries services share field) ∨
      field = .modbusFunctions ∧ text = "read_device_identification" ∧
        AggregateKey.protocol services k = "Modbus TCP" ∧ EndIdentified services events k ∧ Silent services k events := by
  obtain ⟨before, counted_, rfl⟩ := counted_of_account found
  have mem := mem_functions_of_counted counted_
  have protocol := protocol_of_counted counted_
  have silent (modbus : AggregateKey.protocol services k = "Modbus TCP") :
      before.functions .modbusFunctions = ∅ ↔ Silent services k events := by
    rw [Finset.eq_empty_iff_forall_notMem]
    simp only [mem, not_exists, not_and]
    constructor
    · intro none_ share member
      by_contra named
      refine none_ share.operation share member ?_
      simp [Share.entries, FunctionField.protocol, (mem_sharesOf.mp member).2, modbus, named]
    · intro unnamed text share member
      simp [Share.entries, unnamed share member]
  rw [← mem, Account.identified]
  by_cases named : EndIdentified services events k ∧ before.protocol = "Modbus TCP" ∧ before.functions .modbusFunctions = ∅
  · obtain ⟨known, modbus, none_⟩ := named
    rw [protocol] at modbus
    by_cases here : field = .modbusFunctions
    · subst here
      simp [known, protocol, modbus, none_, (silent modbus).mp none_]
    · simp [known, protocol, modbus, none_, here]
  · have unnamed : ¬ (AggregateKey.protocol services k = "Modbus TCP" ∧ EndIdentified services events k ∧
        Silent services k events) :=
      fun all => named ⟨all.2.1, protocol.trans all.1, (silent all.1).mpr all.2.2⟩
    simp only [named, if_false, unnamed, and_false, or_false]

theorem ends_of_account : account.ends = AggregateKey.ends services k := by
  obtain ⟨before, counted_, rfl⟩ := counted_of_account found
  exact (ends_of_counted counted_ : before.ends = _)

end Found
end Adapter
end Marlinspike.Dissect.Accounts
