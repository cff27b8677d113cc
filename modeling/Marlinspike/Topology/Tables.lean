import Mathlib.Data.List.Perm.Subperm
import Marlinspike.Topology.Endpoints
import Marlinspike.Topology.Profile

/-!
The tables that go with a topology: the MACs with their addresses, and the use of ports, which
the two pipelines count in two ways.
-/
namespace Marlinspike.Topology.Tables
open Marlinspike.Topology.Graph
open Marlinspike.Topology.Merge
open Marlinspike.Topology.Endpoints
open Marlinspike.Topology.Profile

/-! ### MACs -/

structure MacEntry where
  mac : String
  ip : String
  vendor : String
  systemName : String
  capabilities : List String
  source : String
deriving DecidableEq

section Mac
variable (tables : Tables)

def sourceOf (conv : Conversation) : String :=
  match conv.l2Discovery with
  | some ld => ld.source.getD "traffic"
  | none => if conv.protocol = "ARP" then "arp" else "traffic"

def seeMac (conv : Conversation) (seen : PyDict String MacEntry) (mac ip : String) : PyDict String MacEntry :=
  if mac = "" then seen
  else
    match seen.get (tables.lower mac) with
    | none => seen.set (tables.lower mac) ⟨mac, ip, "Unknown", "", [], sourceOf conv⟩
    | some entry => seen.set (tables.lower mac) { entry with ip := either entry.ip ip }

def cleanMac (mac : String) : String := tables.lower (String.ofList (mac.toList.filter fun c => c ∉ [':', '-', '.']))

def MacEntry.enriched (node : ProfiledNode) (entry : MacEntry) : MacEntry :=
  { entry with
    vendor := if node.vendor ≠ "" ∧ node.vendor ≠ "Unknown" then tables.normalizeVendorName node.vendor else entry.vendor
    systemName := either node.systemName entry.systemName
    capabilities := if node.capabilities ≠ [] then node.capabilities else entry.capabilities
    ip := either entry.ip node.ip }

def enrichMacs (seen : PyDict String MacEntry) (node : ProfiledNode) : PyDict String MacEntry :=
  if node.mac = "" then seen
  else
    seen.mapItems fun macKey entry =>
      if cleanMac tables node.mac = cleanMac tables macKey then MacEntry.enriched tables node entry else entry

def lookUpOui (macKey : String) (entry : MacEntry) : MacEntry :=
  let clean := (cleanMac tables macKey).toList
  if entry.vendor = "Unknown" ∧ 6 ≤ clean.length then
    let octet (k : Nat) := String.ofList ((clean.drop (2 * k)).take 2)
    match tables.ouiDb (octet 0 ++ ":" ++ octet 1 ++ ":" ++ octet 2) with
    | some (vendor, _) => { entry with vendor := tables.normalizeVendorName vendor }
    | none => entry
  else entry

/-- `_build_mac_table`. -/
def buildMacTable (conversations : List Conversation) (nodes : ProfiledNodes) : List MacEntry :=
  let seen := conversations.foldl
    (fun seen conv => seeMac tables conv (seeMac tables conv seen conv.srcMac conv.srcIp) conv.dstMac conv.dstIp)
    PyDict.empty
  let enriched := (nodes.items.map Prod.snd).foldl (enrichMacs tables) seen
  ((enriched.mapItems (lookUpOui tables)).items.map Prod.snd).mergeSort fun a b => either a.ip a.mac ≤ either b.ip b.mac

end Mac

/-! ### Ports -/

/-- What is counted of a port and a transport. -/
structure PortUse where
  protocol : String
  category : String
  connections : Nat
  bytes : Nat
  peers : List String

structure PortSummary where
  protocol : String
  category : String
  connections : Nat
  bytes : Nat
  uniquePeers : Nat
deriving DecidableEq

section Ports
variable (services : Services)

def categoryOf (port : Nat) : String :=
  if (services.otProtocols port).isSome then "OT"
  else
    match services.wellKnownPorts port with
    | some (_, category) => category
    | none => if ephemeralPortMin ≤ port then "Ephemeral" else "Unknown"

def PortUse.none : PortUse := ⟨"", "", 0, 0, []⟩

def PortUse.add (peersOf : Conversation → List String) (conv : Conversation) (use : PortUse) : PortUse where
  protocol := conv.protocol
  category := categoryOf services conv.port
  connections := use.connections + 1
  bytes := use.bytes + conv.bytesTotal
  peers := (peersOf conv).foldl addNew use.peers

def usePort (peersOf : Conversation → List String) (uses : PyDict (Nat × String) PortUse) (conv : Conversation) :
    PyDict (Nat × String) PortUse :=
  if conv.port = 0 then uses
  else
    let use := (uses.get (conv.port, conv.transport)).getD .none
    uses.set (conv.port, conv.transport) (use.add services peersOf conv)

def PortUse.summary (use : PortUse) : PortSummary :=
  ⟨use.protocol, use.category, use.connections, use.bytes, use.peers.length⟩

/-- The summary of the conversations' ports, with some of their addresses for the peers. -/
def summarizePorts (peersOf : Conversation → List String) (conversations : List Conversation) :
    PyDict (Nat × String) PortSummary :=
  (conversations.foldl (usePort services peersOf) PyDict.empty).mapItems fun _ use => use.summary

def bothAddresses (conv : Conversation) : List String := [conv.srcIp, conv.dstIp].filter (· ≠ "")

def dstAddress (conv : Conversation) : List String := [conv.dstIp].filter (· ≠ "")

/-- `OTProtocolDissector._build_port_summary`, whose order is that of the ports. -/
def buildPortSummary (conversations : List Conversation) : PyDict (Nat × String) PortSummary :=
  summarizePorts services bothAddresses conversations

def buildPortSummaryFromConversations (conversations : List Conversation) : PyDict (Nat × String) PortSummary :=
  summarizePorts services dstAddress conversations

/-! ### The two summaries -/

/-- A conversation of a port and a transport. -/
def Uses (conv : Conversation) (key : Nat × String) : Prop := conv.port ≠ 0 ∧ (conv.port, conv.transport) = key

/-- What is counted of the ports, whatever the peers. -/
def PortUse.counts (use : PortUse) : String × String × Nat × Nat :=
  (use.protocol, use.category, use.connections, use.bytes)

structure Counted (peersOf : Conversation → List String) (conversations : List Conversation)
    (uses : PyDict (Nat × String) PortUse) : Prop where
  present : ∀ key, uses.get key ≠ none ↔ ∃ conv ∈ conversations, Uses conv key
  distinct : ∀ key use, uses.get key = some use → use.peers.Nodup
  peers : ∀ key use, uses.get key = some use → ∀ ip,
    ip ∈ use.peers ↔ ∃ conv ∈ conversations, Uses conv key ∧ ip ∈ peersOf conv

theorem nodup_foldl_addNew (values before : List String) (distinct : before.Nodup) :
    (values.foldl addNew before).Nodup := by
  induction values generalizing before with
  | nil => exact distinct
  | cons value rest ih =>
    refine ih _ ?_
    unfold addNew
    split_ifs with present
    · exact distinct
    · exact List.nodup_append.mpr ⟨distinct, List.nodup_singleton _, by grind⟩

theorem mem_foldl_addNew (values before : List String) (value : String) :
    value ∈ values.foldl addNew before ↔ value ∈ before ∨ value ∈ values := by
  induction values generalizing before with
  | nil => simp
  | cons first rest ih =>
    rw [List.foldl_cons, ih, mem_addNew, List.mem_cons]
    tauto

variable {services}

theorem get_usePort_used {peersOf : Conversation → List String} (uses : PyDict (Nat × String) PortUse)
    {conv : Conversation} {key : Nat × String} (used : Uses conv key) :
    (usePort services peersOf uses conv).get key = some (((uses.get key).getD .none).add services peersOf conv) := by
  obtain ⟨ported, rfl⟩ := used
  rw [usePort, if_neg ported, PyDict.get_set_self]

theorem get_usePort_other {peersOf : Conversation → List String} (uses : PyDict (Nat × String) PortUse)
    {conv : Conversation} {key : Nat × String} (other : ¬Uses conv key) :
    (usePort services peersOf uses conv).get key = uses.get key := by
  unfold usePort
  split_ifs with none_
  · rfl
  · rw [PyDict.get_set, if_neg fun same => other ⟨none_, same⟩]

theorem counted_usePort {peersOf : Conversation → List String} {conversations : List Conversation}
    {uses : PyDict (Nat × String) PortUse} (counted : Counted peersOf conversations uses) (conv : Conversation) :
    Counted peersOf (conversations ++ [conv]) (usePort services peersOf uses conv) := by
  obtain ⟨present, distinct, peers⟩ := counted
  have before (key : Nat × String) (ip : String) : ip ∈ ((uses.get key).getD .none).peers ↔
      ∃ conv ∈ conversations, Uses conv key ∧ ip ∈ peersOf conv := by
    cases found : uses.get key with
    | none =>
      simp only [Option.getD_none, PortUse.none, List.not_mem_nil, false_iff]
      rintro ⟨other, member, used, -⟩
      exact (present key).mpr ⟨other, member, used⟩ found
    | some use => exact peers key use found ip
  constructor
  · intro key
    by_cases used : Uses conv key
    · rw [get_usePort_used uses used]
      exact ⟨fun _ => ⟨conv, by simp, used⟩, fun _ => Option.some_ne_none _⟩
    · rw [get_usePort_other uses used, present key]
      constructor
      · rintro ⟨other, member, same⟩
        exact ⟨other, List.mem_append_left _ member, same⟩
      · rintro ⟨other, member, same⟩
        rcases List.mem_append.mp member with old | new
        · exact ⟨other, old, same⟩
        · exact absurd (List.mem_singleton.mp new ▸ same) used
  · intro key use found
    by_cases used : Uses conv key
    · rw [get_usePort_used uses used] at found
      cases found
      refine nodup_foldl_addNew _ _ ?_
      cases previous : uses.get key with
      | none => exact List.nodup_nil
      | some other => exact distinct key other previous
    · rw [get_usePort_other uses used] at found
      exact distinct key use found
  · intro key use found ip
    by_cases used : Uses conv key
    · rw [get_usePort_used uses used] at found
      cases found
      rw [PortUse.add, mem_foldl_addNew, before]
      constructor
      · rintro (⟨other, member, same⟩ | own)
        · exact ⟨other, List.mem_append_left _ member, same⟩
        · exact ⟨conv, by simp, used, own⟩
      · rintro ⟨other, member, same, own⟩
        rcases List.mem_append.mp member with old | new
        · exact .inl ⟨other, old, same, own⟩
        · exact .inr (List.mem_singleton.mp new ▸ own)
    · rw [get_usePort_other uses used] at found
      rw [peers key use found]
      constructor
      · rintro ⟨other, member, same⟩
        exact ⟨other, List.mem_append_left _ member, same⟩
      · rintro ⟨other, member, same⟩
        rcases List.mem_append.mp member with old | new
        · exact ⟨other, old, same⟩
        · exact absurd (List.mem_singleton.mp new ▸ same.1) used

theorem counted_foldl {peersOf : Conversation → List String} (rest before : List Conversation)
    {uses : PyDict (Nat × String) PortUse} (counted : Counted peersOf before uses) :
    Counted peersOf (before ++ rest) (rest.foldl (usePort services peersOf) uses) := by
  induction rest generalizing before uses with
  | nil => rwa [List.append_nil]
  | cons conv rest ih =>
    rw [List.foldl_cons, ← List.singleton_append, ← List.append_assoc]
    exact ih (before ++ [conv]) (counted_usePort counted conv)

theorem counts_foldl (peersOf peersOf' : Conversation → List String) (conversations : List Conversation)
    {uses uses' : PyDict (Nat × String) PortUse}
    (alike : ∀ key, (uses.get key).map PortUse.counts = (uses'.get key).map PortUse.counts) (key : Nat × String) :
    ((conversations.foldl (usePort services peersOf) uses).get key).map PortUse.counts =
      ((conversations.foldl (usePort services peersOf') uses').get key).map PortUse.counts := by
  induction conversations generalizing uses uses' with
  | nil => exact alike key
  | cons conv rest ih =>
    refine ih fun other => ?_
    have before := alike other
    by_cases used : Uses conv other
    · rw [get_usePort_used uses used, get_usePort_used uses' used]
      cases found : uses.get other with
      | none =>
        cases found' : uses'.get other with
        | none => rfl
        | some use => simp [found, found'] at before
      | some use =>
        cases found' : uses'.get other with
        | none => simp [found, found'] at before
        | some use' =>
          simp only [found, found', Option.map_some, Option.some.injEq, PortUse.counts, Prod.mk.injEq] at before
          simp [PortUse.counts, PortUse.add, before.2.2.1, before.2.2.2]
    · rw [get_usePort_other uses used, get_usePort_other uses' used]
      exact before

theorem length_eq_iff_subset {some_ all : List String} (distinct : some_.Nodup) (distinct' : all.Nodup)
    (within : some_ ⊆ all) : all.length = some_.length ↔ all ⊆ some_ := by
  constructor
  · intro same
    have perm := (List.subperm_of_subset distinct within).perm_of_length_le same.le
    exact perm.symm.subset
  · intro back
    exact ((List.perm_ext_iff_of_nodup distinct' distinct).mpr fun ip => ⟨@back ip, @within ip⟩).length_eq

theorem mem_bothAddresses {conv : Conversation} {ip : String} :
    ip ∈ bothAddresses conv ↔ (ip = conv.srcIp ∨ ip = conv.dstIp) ∧ ip ≠ "" := by
  simp [bothAddresses]

theorem mem_dstAddress {conv : Conversation} {ip : String} : ip ∈ dstAddress conv ↔ ip = conv.dstIp ∧ ip ≠ "" := by
  simp [dstAddress]

variable (services)

/-- The two summaries agree exactly if every sender on a port also is an addressee there. -/
theorem summaries_agree_iff (conversations : List Conversation) :
    (∀ key, (buildPortSummary services conversations).get key =
      (buildPortSummaryFromConversations services conversations).get key) ↔
    ∀ conv ∈ conversations, conv.port ≠ 0 → conv.srcIp ≠ "" →
      ∃ other ∈ conversations, other.port = conv.port ∧ other.transport = conv.transport ∧ other.dstIp = conv.srcIp := by
  have start (peersOf : Conversation → List String) : Counted peersOf [] PyDict.empty := by
    refine ⟨fun key => ?_, fun key use found => ?_, fun key use found => ?_⟩
    · simp
    · cases found
    · cases found
  have both : Counted bothAddresses conversations (conversations.foldl (usePort services bothAddresses) PyDict.empty) :=
    counted_foldl conversations [] (start bothAddresses)
  have dst : Counted dstAddress conversations (conversations.foldl (usePort services dstAddress) PyDict.empty) :=
    counted_foldl conversations [] (start dstAddress)
  have alike (key : Nat × String) := @counts_foldl services bothAddresses dstAddress conversations PyDict.empty PyDict.empty
    (fun _ => rfl) key
  have agree {key : Nat × String} {b d : PortUse}
      (found : (conversations.foldl (usePort services bothAddresses) PyDict.empty).get key = some b)
      (found' : (conversations.foldl (usePort services dstAddress) PyDict.empty).get key = some d) :
      b.summary = d.summary ↔ b.peers ⊆ d.peers := by
    have counts := alike key
    rw [found, found', Option.map_some, Option.map_some, Option.some.injEq] at counts
    simp only [PortUse.counts, Prod.mk.injEq] at counts
    obtain ⟨protocol, category, connections, bytes⟩ := counts
    have within : d.peers ⊆ b.peers := by
      intro ip member
      obtain ⟨conv, inside, used, own⟩ := (dst.peers key d found' ip).mp member
      rw [mem_dstAddress] at own
      exact (both.peers key b found ip).mpr ⟨conv, inside, used, mem_bothAddresses.mpr ⟨.inr own.1, own.2⟩⟩
    rw [← length_eq_iff_subset (dst.distinct key d found') (both.distinct key b found) within]
    simp [PortUse.summary, protocol, category, connections, bytes]
  simp only [buildPortSummary, buildPortSummaryFromConversations, summarizePorts, PyDict.get_mapItems]
  constructor
  · intro same conv member ported sender
    have used : Uses conv (conv.port, conv.transport) := ⟨ported, rfl⟩
    obtain ⟨b, found⟩ := Option.ne_none_iff_exists'.mp ((both.present _).mpr ⟨conv, member, used⟩)
    obtain ⟨d, found'⟩ := Option.ne_none_iff_exists'.mp ((dst.present _).mpr ⟨conv, member, used⟩)
    have equal := same (conv.port, conv.transport)
    rw [found, found', Option.map_some, Option.map_some, Option.some.injEq, agree found found'] at equal
    have sends := (both.peers _ b found conv.srcIp).mpr
      ⟨conv, member, used, mem_bothAddresses.mpr ⟨.inl rfl, sender⟩⟩
    obtain ⟨other, inside, ⟨-, same⟩, own⟩ := (dst.peers _ d found' _).mp (equal sends)
    obtain ⟨port, transport⟩ := Prod.mk.inj same
    exact ⟨other, inside, port, transport, (mem_dstAddress.mp own).1.symm⟩
  · intro answered key
    cases found : (conversations.foldl (usePort services bothAddresses) PyDict.empty).get key with
    | none =>
      have absent : (conversations.foldl (usePort services dstAddress) PyDict.empty).get key = none := by
        by_contra present
        exact (both.present key).mpr ((dst.present key).mp present) found
      rw [absent]
    | some b =>
      have present : (conversations.foldl (usePort services dstAddress) PyDict.empty).get key ≠ none :=
        (dst.present key).mpr ((both.present key).mp (by rw [found]; exact Option.some_ne_none b))
      obtain ⟨d, found'⟩ := Option.ne_none_iff_exists'.mp present
      rw [found', Option.map_some, Option.map_some, Option.some.injEq, agree found found']
      intro ip member
      obtain ⟨conv, inside, used, own⟩ := (both.peers key b found ip).mp member
      obtain ⟨rfl | rfl, named⟩ := mem_bothAddresses.mp own
      · obtain ⟨other, inside', port, transport, back⟩ := answered conv inside used.1 named
        refine (dst.peers key d found' _).mpr ⟨other, inside', ⟨?_, ?_⟩, mem_dstAddress.mpr ⟨back.symm, named⟩⟩
        · rw [port]
          exact used.1
        · rw [port, transport]
          exact used.2
      · exact (dst.peers key d found' _).mpr ⟨conv, inside, used, mem_dstAddress.mpr ⟨rfl, named⟩⟩

end Ports

end Marlinspike.Topology.Tables
