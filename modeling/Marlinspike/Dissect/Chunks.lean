import Marlinspike.Dissect.Accounts

/-!
A large capture in chunks. Each chunk's events give conversations of their own, and these
are merged by MACs, protocol name and service port. The merge gives the conversations of the
whole capture exactly if no two of them have the same four, and for each of them the chunks
tell no less of its times, its transport and its Modbus functions (`chunks_merge_iff`).
-/
namespace Marlinspike.Dissect.Chunks
open Marlinspike.Gathering
open Marlinspike.Dissect.Bronze
open Marlinspike.Dissect.Accounts
open Marlinspike.Topology.Graph (addNew mem_addNew either)

/-! ### The merge -/

def mergeNested (existing incoming : NestedDict) : NestedDict :=
  incoming.items.foldl (fun merged item =>
    match merged.get item.1, item.2 with
    | none, value => merged.set item.1 value
    | some (.list items), .list values => merged.set item.1 (.list (values.foldl addNew items))
    | some (.list items), value => if items = [] then merged.set item.1 value else merged
    | some (.text text), value => if text = "" then merged.set item.1 value else merged) existing

structure MergeKey where
  srcMac : String
  dstMac : String
  protocol : String
  port : Nat
deriving DecidableEq

def mergeKey (conv : Conversation) : MergeKey := ⟨conv.srcMac, conv.dstMac, conv.protocol, conv.port⟩

/-- What is left of two conversations of one key. -/
def mergeConversation (existing conv : Conversation) : Conversation :=
  let beacon := existing.beaconScore < conv.beaconScore
  { existing with
    packetCount := existing.packetCount + conv.packetCount
    bytesTotal := existing.bytesTotal + conv.bytesTotal
    modbusWrites := existing.modbusWrites + conv.modbusWrites
    firstSeen :=
      if conv.firstSeen ≠ "" ∧ (existing.firstSeen = "" ∨ conv.firstSeen < existing.firstSeen) then conv.firstSeen
      else existing.firstSeen
    lastSeen :=
      if conv.lastSeen ≠ "" ∧ (existing.lastSeen = "" ∨ existing.lastSeen < conv.lastSeen) then conv.lastSeen
      else existing.lastSeen
    srcIp := either existing.srcIp conv.srcIp
    dstIp := either existing.dstIp conv.dstIp
    transport := either existing.transport conv.transport
    dhcpHostname := either existing.dhcpHostname conv.dhcpHostname
    dhcpVendorClass := either existing.dhcpVendorClass conv.dhcpVendorClass
    nbnsName := either existing.nbnsName conv.nbnsName
    userAgent := either existing.userAgent conv.userAgent
    srcPort := if existing.srcPort = 0 then conv.srcPort else existing.srcPort
    modbusFunctions := conv.modbusFunctions.foldl addNew existing.modbusFunctions
    s7Functions := conv.s7Functions.foldl addNew existing.s7Functions
    dnp3Objects := conv.dnp3Objects.foldl addNew existing.dnp3Objects
    opcSessions := conv.opcSessions.foldl addNew existing.opcSessions
    iec104Typeids := conv.iec104Typeids.foldl addNew existing.iec104Typeids
    iec104Causes := conv.iec104Causes.foldl addNew existing.iec104Causes
    srcPortsSeen := conv.srcPortsSeen.foldl addNew existing.srcPortsSeen
    dnsQueries := conv.dnsQueries.foldl addNew existing.dnsQueries
    dnsQueryTypes := conv.dnsQueryTypes.foldl addNew existing.dnsQueryTypes
    cipIdentity := mergeNested existing.cipIdentity conv.cipIdentity
    pnIdentity := mergeNested existing.pnIdentity conv.pnIdentity
    bacnetIdentity := mergeNested existing.bacnetIdentity conv.bacnetIdentity
    omronIdentity := mergeNested existing.omronIdentity conv.omronIdentity
    mmsIdentity := mergeNested existing.mmsIdentity conv.mmsIdentity
    gooseIdentity := mergeNested existing.gooseIdentity conv.gooseIdentity
    l2Discovery := mergeNested existing.l2Discovery conv.l2Discovery
    s7ProgramAccess := if conv.s7ProgramAccess then true else existing.s7ProgramAccess
    opcNoSecurity := if conv.opcNoSecurity then true else existing.opcNoSecurity
    beaconScore := if beacon then conv.beaconScore else existing.beaconScore
    beaconInterval := if beacon then conv.beaconInterval else existing.beaconInterval
    beaconJitter := if beacon then conv.beaconJitter else existing.beaconJitter
    dnsEntropy := max existing.dnsEntropy conv.dnsEntropy }

/-- A conversation is kept as it is, or merged into the one of its key. -/
def mergeRules : Grouping.Rules MergeKey Conversation Conversation where
  key := mergeKey
  update existing _ conv := existing.elim conv (mergeConversation · conv)

/-- `_merge_chunk_conversations`, the conversations. -/
def mergeChunkConversations (chunkReports : List (List Conversation)) : List Conversation :=
  (Grouping.addBatches mergeRules PyDict.empty chunkReports).items.map Prod.snd

/-- The same conversations, as far as they are compared. -/
def SameConversations (a b : List Conversation) : Prop :=
  ∀ account, account ∈ a.map Conversation.account ↔ account ∈ b.map Conversation.account

/-! ### Accounts of merged conversations -/

def Account.mergeKey (account : Account) : MergeKey :=
  ⟨account.srcMac, account.dstMac, account.protocol, account.port⟩

def Account.merge (existing account : Account) : Account :=
  { existing with
    srcIp := either existing.srcIp account.srcIp
    dstIp := either existing.dstIp account.dstIp
    transport := either existing.transport account.transport
    packetCount := existing.packetCount + account.packetCount
    bytesTotal := existing.bytesTotal + account.bytesTotal
    firstSeen :=
      if account.firstSeen ≠ "" ∧ (existing.firstSeen = "" ∨ account.firstSeen < existing.firstSeen) then
        account.firstSeen
      else existing.firstSeen
    lastSeen :=
      if account.lastSeen ≠ "" ∧ (existing.lastSeen = "" ∨ existing.lastSeen < account.lastSeen) then account.lastSeen
      else existing.lastSeen
    modbusWrites := existing.modbusWrites + account.modbusWrites
    s7ProgramAccess := existing.s7ProgramAccess || account.s7ProgramAccess
    functions := fun field => existing.functions field ∪ account.functions field }

/-- The account that is merged from those of one key. -/
def mergeAll (accounts : List Account) : Option Account := gather id Account.merge accounts

theorem toFinset_foldl_addNew (values more : List String) :
    (more.foldl addNew values).toFinset = values.toFinset ∪ more.toFinset := by
  induction more generalizing values with
  | nil => simp
  | cons value more ih =>
    rw [List.foldl_cons, ih]
    ext other
    simp [mem_addNew, or_left_comm, or_assoc]

theorem account_mergeConversation (existing conv : Conversation) :
    Conversation.account (mergeConversation existing conv) =
      Account.merge (Conversation.account existing) (Conversation.account conv) := by
  apply Account.ext <;> try rfl
  case s7ProgramAccess =>
    simp only [Conversation.account, mergeConversation, Account.merge]
    cases conv.s7ProgramAccess <;> simp
  case functions =>
    funext field
    cases field <;> exact toFinset_foldl_addNew ..

/-- The merged conversation of a key has what the conversations of the key have. -/
theorem get_merged (chunkReports : List (List Conversation)) (m : MergeKey) :
    ((Grouping.addBatches mergeRules PyDict.empty chunkReports).get m).map Conversation.account =
      mergeAll ((chunkReports.flatten.map Conversation.account).filter (Account.mergeKey · = m)) := by
  rw [@get_addBatches_eq_gather _ _ _ id mergeConversation _ mergeRules (fun _ => rfl) (fun _ _ _ => rfl), mergeAll,
    @map_gather _ _ id mergeConversation _ _ Conversation.account Conversation.account id Account.merge (fun _ => rfl)
      account_mergeConversation, List.filter_map]
  rfl

/-! ### What a merged account says of its parts -/

theorem later_le_iff (a b time : String) :
    (if b ≠ "" ∧ (a = "" ∨ a < b) then b else a) ≤ time ↔ a ≤ time ∧ b ≤ time := by
  split_ifs with later
  · obtain ⟨-, rfl | less⟩ := later
    · simp [empty_le]
    · exact ⟨fun le => ⟨less.le.trans le, le⟩, fun both => both.2⟩
  · refine ⟨fun le => ⟨le, ?_⟩, fun both => both.1⟩
    by_cases untimed : b = ""
    · rw [untimed]
      exact empty_le time
    · exact (not_lt.mp fun less => later ⟨untimed, .inr less⟩).trans le

theorem le_earlier_iff (a b : String) (time : WithTop String) :
    time ≤ instant (if b ≠ "" ∧ (a = "" ∨ b < a) then b else a) ↔ time ≤ instant a ∧ time ≤ instant b := by
  split_ifs with earlier
  · obtain ⟨timed, rfl | less⟩ := earlier
    · simp [instant_empty]
    · refine ⟨fun le => ⟨le.trans ?_, le⟩, fun both => both.2⟩
      have named : a ≠ "" := by
        rintro rfl
        exact absurd less (not_lt.mpr (empty_le b))
      rw [instant_of_ne timed, instant_of_ne named]
      exact WithTop.coe_le_coe.mpr less.le
  · refine ⟨fun le => ⟨le, le.trans ?_⟩, fun both => both.1⟩
    by_cases untimed : b = ""
    · rw [untimed, instant_empty]
      exact le_top
    · have named : a ≠ "" := fun none_ => earlier ⟨untimed, .inl none_⟩
      rw [instant_of_ne untimed, instant_of_ne named]
      exact WithTop.coe_le_coe.mpr (not_lt.mp fun less => earlier ⟨untimed, .inr less⟩)

theorem either_self (a : String) : either a a = a := by
  unfold either
  split_ifs <;> rfl

theorem either_eq_empty_iff (a b : String) : either a b = "" ↔ a = "" ∧ b = "" := by
  unfold either
  by_cases named : a = "" <;> simp [named]

section Merged
variable {parts : List Account} {merged : Account} (all : mergeAll parts = some merged)
include all

theorem packetCount_of_merged : merged.packetCount = (parts.map Account.packetCount).sum :=
  sum_of_gather all Account.packetCount Account.packetCount (fun _ => rfl) fun _ _ => rfl

theorem bytesTotal_of_merged : merged.bytesTotal = (parts.map Account.bytesTotal).sum :=
  sum_of_gather all Account.bytesTotal Account.bytesTotal (fun _ => rfl) fun _ _ => rfl

theorem modbusWrites_of_merged : merged.modbusWrites = (parts.map Account.modbusWrites).sum :=
  sum_of_gather all Account.modbusWrites Account.modbusWrites (fun _ => rfl) fun _ _ => rfl

theorem s7ProgramAccess_of_merged : merged.s7ProgramAccess = true ↔ ∃ part ∈ parts, part.s7ProgramAccess = true :=
  mem_of_gather all (fun (_ : Unit) account => account.s7ProgramAccess = true) (fun _ part => part.s7ProgramAccess = true)
    (fun _ _ => Iff.rfl) (fun _ account part => by simp [Account.merge]) ()

theorem mem_functions_of_merged (text : String) (field : FunctionField) :
    text ∈ merged.functions field ↔ ∃ part ∈ parts, text ∈ part.functions field :=
  mem_of_gather all (fun text account => text ∈ account.functions field) (fun text part => text ∈ part.functions field)
    (fun _ _ => Iff.rfl) (fun _ account part => by simp [Account.merge]) text

theorem lastSeen_of_merged (time : String) : merged.lastSeen ≤ time ↔ ∀ part ∈ parts, part.lastSeen ≤ time :=
  bounds_of_gather all (fun time account => account.lastSeen ≤ time) (fun time part => part.lastSeen ≤ time)
    (fun _ _ => Iff.rfl) (fun time account part => later_le_iff account.lastSeen part.lastSeen time) time

theorem firstSeen_of_merged (time : WithTop String) :
    time ≤ instant merged.firstSeen ↔ ∀ part ∈ parts, time ≤ instant part.firstSeen :=
  bounds_of_gather all (fun time account => time ≤ instant account.firstSeen)
    (fun time part => time ≤ instant part.firstSeen) (fun _ _ => Iff.rfl)
    (fun time account part => le_earlier_iff account.firstSeen part.firstSeen time) time

theorem firstSeen_mem_merged : ∃ part ∈ parts, merged.firstSeen = part.firstSeen := by
  refine chosen_of_gather all Account.firstSeen Account.firstSeen (fun _ => rfl) fun account part => ?_
  simp only [Account.merge]
  split_ifs
  · exact .inr rfl
  · exact .inl rfl

theorem transport_of_merged : ∃ part, parts.head? = some part ∧
    (part.transport ≠ "" → merged.transport = part.transport) :=
  first_of_gather all Account.transport Account.transport (· ≠ "") (fun _ => rfl) fun _ _ named => if_pos named

theorem transport_eq_empty_of_merged : merged.transport = "" ↔ ∀ part ∈ parts, part.transport = "" :=
  bounds_of_gather all (fun (_ : Unit) account => account.transport = "") (fun _ part => part.transport = "")
    (fun _ _ => Iff.rfl) (fun _ _ _ => either_eq_empty_iff ..) ()

/-- The merge keeps the endpoints that all parts have. -/
theorem ends_of_merged {ends : String × String × String × String × String × Nat}
    (same : ∀ part ∈ parts, part.ends = ends) : merged.ends = ends := by
  have held := gather_induction all (fun parts merged => (∀ part ∈ parts, part.ends = ends) → merged.ends = ends) ?_ ?_
  · exact held same
  · intro part same
    exact same part (List.mem_singleton_self part)
  · intro parts merged part _ held same
    have before := held fun other member => same other (List.mem_append_left _ member)
    have own := same part (List.mem_append_right _ (List.mem_singleton_self part))
    obtain ⟨srcIp, dstIp, srcMac, dstMac, protocol, port⟩ := ends
    simp only [Account.ends, Prod.mk.injEq] at before own
    simp [Account.ends, Account.merge, before, own, either_self]

end Merged

/-! ### One conversation in chunks -/

section Chunked
variable (services : Services) (chunks : List (List Event))

/-- What the chunks must not lose of a conversation. -/
structure Kept (k : AggregateKey) : Prop where
  /-- It begins untimed in every chunk, if it does so in the capture. -/
  untimed : ∀ first ∈ (sharesOf services k chunks.flatten).head?, first.timestamp = "" →
    ∀ chunk ∈ chunks, ∀ opening ∈ (sharesOf services k chunk).head?, opening.timestamp = ""
  /-- Else its earliest time is in a chunk that it does not begin untimed. -/
  earliest : ∀ first ∈ (sharesOf services k chunks.flatten).head?, first.timestamp ≠ "" →
    ∀ share ∈ sharesOf services k chunks.flatten, share.timestamp ≠ "" →
      ∃ chunk ∈ chunks, (∃ opening ∈ (sharesOf services k chunk).head?, opening.timestamp ≠ "") ∧
        ∃ other ∈ sharesOf services k chunk, other.timestamp ≠ "" ∧ other.timestamp ≤ share.timestamp
  /-- It begins without a transport in every chunk, if it does so in the capture. -/
  transport : ∀ first ∈ (sharesOf services k chunks.flatten).head?, first.transport = "" →
    ∀ chunk ∈ chunks, ∀ opening ∈ (sharesOf services k chunk).head?, opening.transport = ""
  /-- If no operation of it is named, one of its chunks identifies a Modbus device as the capture does. -/
  device : AggregateKey.protocol services k = "Modbus TCP" → Silent services k chunks.flatten →
    (EndIdentified services chunks.flatten k ↔
      ∃ chunk ∈ chunks, sharesOf services k chunk ≠ [] ∧ EndIdentified services chunk k)
  /-- Else a chunk that names no operation of it identifies none, or the operation is among the named ones. -/
  function : AggregateKey.protocol services k = "Modbus TCP" → ¬ Silent services k chunks.flatten →
    (∃ chunk ∈ chunks, sharesOf services k chunk ≠ [] ∧ Silent services k chunk ∧ EndIdentified services chunk k) →
      ∃ share ∈ sharesOf services k chunks.flatten, share.operation = "read_device_identification"

variable {services chunks} {k : AggregateKey}

theorem sharesOf_flatten :
    sharesOf services k chunks.flatten = (chunks.map (sharesOf services k)).flatten := by
  rw [sharesOf, shares, List.filterMap_flatten, List.filter_flatten, List.map_map]
  rfl

theorem mem_sharesOf_flatten {share : Share} :
    share ∈ sharesOf services k chunks.flatten ↔ ∃ chunk ∈ chunks, share ∈ sharesOf services k chunk := by
  simp [sharesOf_flatten]

theorem sharesOf_eq_nil {chunk : List Event} (none_ : accountOf services k chunk = none) :
    sharesOf services k chunk = [] := by
  by_contra some_
  obtain ⟨account, is⟩ := sharesOf_ne_nil_iff.mp some_
  rw [none_] at is
  cases is

theorem ne_nil_of_opening {chunk : List Event} {opening : Share} (is : (sharesOf services k chunk).head? = some opening) :
    ∃ account, accountOf services k chunk = some account :=
  sharesOf_ne_nil_iff.mp fun none_ => by simp [none_] at is

theorem opening_of_account {chunk : List Event} {account : Account} (found : accountOf services k chunk = some account) :
    ∃ opening, (sharesOf services k chunk).head? = some opening := by
  obtain ⟨opening, is, -⟩ := Option.map_eq_some_iff.mp (transport_of_account found)
  exact ⟨opening, is⟩

theorem firstSeen_eq_empty_iff {chunk : List Event} {account : Account} {opening : Share}
    (found : accountOf services k chunk = some account) (is : (sharesOf services k chunk).head? = some opening) :
    account.firstSeen = "" ↔ opening.timestamp = "" := by
  refine ⟨fun none_ => ?_, firstSeen_of_untimed found is⟩
  by_contra timed
  exact (firstSeen_of_timed found is timed).1 none_

/-- The parts' amounts are those of all shares. -/
theorem sum_of_parts {amount : Account → Nat} {own : Share → Nat}
    (closed : ∀ events account, accountOf services k events = some account →
      amount account = ((sharesOf services k events).map own).sum) :
    ((chunks.filterMap (accountOf services k)).map amount).sum =
      ((sharesOf services k chunks.flatten).map own).sum := by
  induction chunks with
  | nil => rfl
  | cons chunk rest ih =>
    rw [List.flatten_cons, sharesOf_append, List.map_append, List.sum_append, ← ih]
    cases found : accountOf services k chunk with
    | none =>
      rw [List.filterMap_cons_none found, sharesOf_eq_nil found]
      simp
    | some account =>
      rw [List.filterMap_cons_some found, List.map_cons, List.sum_cons, closed chunk account found]

section Whole
variable {whole merged : Account} (found : accountOf services k chunks.flatten = some whole)
  (all : mergeAll (chunks.filterMap (accountOf services k)) = some merged)
include found all

theorem packetCount_merged : merged.packetCount = whole.packetCount := by
  rw [packetCount_of_merged all, packetCount_of_account found]
  exact sum_of_parts fun _ _ => packetCount_of_account

theorem bytesTotal_merged : merged.bytesTotal = whole.bytesTotal := by
  rw [bytesTotal_of_merged all, bytesTotal_of_account found]
  exact sum_of_parts fun _ _ => bytesTotal_of_account

theorem modbusWrites_merged : merged.modbusWrites = whole.modbusWrites := by
  rw [modbusWrites_of_merged all, modbusWrites_of_account found]
  exact sum_of_parts fun _ _ => modbusWrites_of_account

omit found all in
theorem mem_parts {part : Account} : part ∈ chunks.filterMap (accountOf services k) ↔
    ∃ chunk ∈ chunks, accountOf services k chunk = some part := List.mem_filterMap

omit all in
/-- What some part has from some share, the whole has. -/
theorem exists_part_iff {p : Account → Prop} {own : Share → Prop}
    (closed : ∀ events account, accountOf services k events = some account →
      (p account ↔ ∃ share ∈ sharesOf services k events, own share)) :
    (∃ part ∈ chunks.filterMap (accountOf services k), p part) ↔ p whole := by
  rw [closed _ _ found]
  simp only [mem_parts, mem_sharesOf_flatten]
  constructor
  · rintro ⟨part, ⟨chunk, member, is⟩, holds⟩
    obtain ⟨share, present, owned⟩ := (closed chunk part is).mp holds
    exact ⟨share, ⟨chunk, member, present⟩, owned⟩
  · rintro ⟨share, ⟨chunk, member, present⟩, owned⟩
    obtain ⟨part, is⟩ := sharesOf_ne_nil_iff.mp (List.ne_nil_of_mem present)
    exact ⟨part, ⟨chunk, member, is⟩, (closed chunk part is).mpr ⟨share, present, owned⟩⟩

theorem s7ProgramAccess_merged : merged.s7ProgramAccess = whole.s7ProgramAccess := by
  rw [Bool.eq_iff_iff, s7ProgramAccess_of_merged all]
  exact exists_part_iff found fun _ _ => s7ProgramAccess_of_account

theorem lastSeen_merged : merged.lastSeen = whole.lastSeen := by
  have bound (time : String) : merged.lastSeen ≤ time ↔ whole.lastSeen ≤ time := by
    rw [lastSeen_of_merged all, ← not_iff_not]
    simp only [not_forall, exists_prop]
    refine @exists_part_iff services chunks k whole found (fun account => ¬ account.lastSeen ≤ time)
      (fun share => ¬ share.timestamp ≤ time) fun events account is => ?_
    rw [lastSeen_of_account is]
    simp only [not_forall, exists_prop]
  exact le_antisymm ((bound _).mpr le_rfl) ((bound _).mp le_rfl)

theorem ends_merged : merged.ends = whole.ends := by
  rw [ends_of_account found]
  refine ends_of_merged all fun part member => ?_
  obtain ⟨chunk, -, is⟩ := mem_parts.mp member
  exact ends_of_account is

omit found all in
/-- The first part's transport is that of the first share. -/
theorem head?_parts {first : Share} (is : (sharesOf services k chunks.flatten).head? = some first) :
    ∃ part, (chunks.filterMap (accountOf services k)).head? = some part ∧ part.transport = first.transport := by
  have own (chunk : List Event) : (accountOf services k chunk).map Account.transport =
      ((sharesOf services k chunk).head?).map Share.transport := by
    cases found : accountOf services k chunk with
    | none =>
      rw [sharesOf_eq_nil found]
      rfl
    | some account => exact (transport_of_account found).symm
  have heads : ((chunks.filterMap (accountOf services k)).head?).map Account.transport =
      ((sharesOf services k chunks.flatten).head?).map Share.transport := by
    rw [List.head?_filterMap, sharesOf_flatten, List.head?_flatten, List.findSome?_map, List.map_findSome?,
      List.map_findSome?]
    exact congrArg (List.findSome? · chunks) (funext own)
  rw [is] at heads
  exact Option.map_eq_some_iff.mp heads

theorem transport_merged_iff : merged.transport = whole.transport ↔
    ∀ first ∈ (sharesOf services k chunks.flatten).head?, first.transport = "" →
      ∀ chunk ∈ chunks, ∀ opening ∈ (sharesOf services k chunk).head?, opening.transport = "" := by
  obtain ⟨first, is⟩ := opening_of_account found
  have own := transport_of_account found
  rw [is] at own
  obtain ⟨part, head, carried⟩ := head?_parts is
  obtain ⟨part', head', kept⟩ := transport_of_merged all
  rw [head] at head'
  obtain rfl := Option.some.inj head'
  rw [← Option.some.inj own]
  by_cases named : first.transport = ""
  · rw [named, transport_eq_empty_of_merged all]
    have openings : (∀ part ∈ chunks.filterMap (accountOf services k), part.transport = "") ↔
        ∀ chunk ∈ chunks, ∀ opening ∈ (sharesOf services k chunk).head?, opening.transport = "" := by
      constructor
      · intro none_ chunk member opening is
        obtain ⟨account, found⟩ := ne_nil_of_opening is
        have own := transport_of_account found
        rw [show (sharesOf services k chunk).head? = some opening from is] at own
        exact (Option.some.inj own).trans (none_ account (mem_parts.mpr ⟨chunk, member, found⟩))
      · intro none_ part member
        obtain ⟨chunk, present, found⟩ := mem_parts.mp member
        obtain ⟨opening, is, same⟩ := Option.map_eq_some_iff.mp (transport_of_account found)
        exact same.symm.trans (none_ chunk present opening is)
    rw [openings, is]
    simp [named]
  · rw [is]
    refine iff_of_true ?_ ?_
    · rw [kept (carried ▸ named), carried]
    · rintro other ⟨⟩ none_
      exact absurd none_ named

theorem firstSeen_merged_of_untimed {first : Share} (is : (sharesOf services k chunks.flatten).head? = some first)
    (untimed : first.timestamp = "") : merged.firstSeen = whole.firstSeen ↔
      ∀ chunk ∈ chunks, ∀ opening ∈ (sharesOf services k chunk).head?, opening.timestamp = "" := by
  have none_iff (text : String) : ⊤ ≤ instant text ↔ text = "" := by
    rw [top_le_iff, ← instant_empty, instant_injective.eq_iff]
  rw [firstSeen_of_untimed found is untimed, ← none_iff, firstSeen_of_merged all]
  simp only [none_iff]
  constructor
  · intro none_ chunk member opening is
    obtain ⟨account, found⟩ := ne_nil_of_opening is
    exact (firstSeen_eq_empty_iff found is).mp (none_ account (mem_parts.mpr ⟨chunk, member, found⟩))
  · intro none_ part member
    obtain ⟨chunk, present, found⟩ := mem_parts.mp member
    obtain ⟨opening, is⟩ := opening_of_account found
    exact (firstSeen_eq_empty_iff found is).mpr (none_ chunk present opening is)

theorem firstSeen_merged_of_timed {first : Share} (is : (sharesOf services k chunks.flatten).head? = some first)
    (timed : first.timestamp ≠ "") : merged.firstSeen = whole.firstSeen ↔
      ∀ share ∈ sharesOf services k chunks.flatten, share.timestamp ≠ "" →
        ∃ chunk ∈ chunks, (∃ opening ∈ (sharesOf services k chunk).head?, opening.timestamp ≠ "") ∧
          ∃ other ∈ sharesOf services k chunk, other.timestamp ≠ "" ∧ other.timestamp ≤ share.timestamp := by
  obtain ⟨named, earliest⟩ := firstSeen_of_timed found is timed
  have part (chunk : List Event) (account : Account) (found : accountOf services k chunk = some account)
      (timed : account.firstSeen ≠ "") : (∃ opening ∈ (sharesOf services k chunk).head?, opening.timestamp ≠ "") ∧
        ∀ time, time ≤ instant account.firstSeen ↔
          ∀ share ∈ sharesOf services k chunk, time ≤ instant share.timestamp := by
    obtain ⟨opening, is⟩ := opening_of_account found
    have opens := mt (firstSeen_eq_empty_iff found is).mpr timed
    exact ⟨⟨opening, is, opens⟩, (firstSeen_of_timed found is opens).2⟩
  constructor
  · intro same share member shareTimed
    obtain ⟨account, present, is⟩ := firstSeen_mem_merged all
    obtain ⟨chunk, inChunks, found⟩ := mem_parts.mp present
    obtain ⟨other, inChunk, at_⟩ := firstSeen_mem found
    rw [same] at is
    refine ⟨chunk, inChunks, (part chunk account found (is ▸ named)).1, other, inChunk, ?_, ?_⟩
    · rw [← at_, ← is]
      exact named
    · have le := (earliest (instant whole.firstSeen)).mp le_rfl share member
      rw [instant_of_ne named, instant_of_ne shareTimed, is, at_] at le
      exact WithTop.coe_le_coe.mp le
  · intro kept
    apply instant_injective
    apply le_antisymm
    · rw [earliest]
      intro share member
      by_cases untimed : share.timestamp = ""
      · rw [untimed, instant_empty]
        exact le_top
      · obtain ⟨chunk, inChunks, ⟨opening, is, opens⟩, other, inChunk, otherTimed, le⟩ := kept share member untimed
        obtain ⟨account, found⟩ := ne_nil_of_opening is
        have own := (part chunk account found (mt (firstSeen_eq_empty_iff found is).mp opens)).2 (instant account.firstSeen)
        calc instant merged.firstSeen ≤ instant account.firstSeen :=
              (firstSeen_of_merged all _).mp le_rfl account (mem_parts.mpr ⟨chunk, inChunks, found⟩)
          _ ≤ instant other.timestamp := own.mp le_rfl other inChunk
          _ ≤ instant share.timestamp := by
              rw [instant_of_ne otherTimed, instant_of_ne untimed]
              exact WithTop.coe_le_coe.mpr le
    · rw [firstSeen_of_merged all]
      intro account present
      obtain ⟨chunk, inChunks, found⟩ := mem_parts.mp present
      by_cases untimed : account.firstSeen = ""
      · rw [untimed, instant_empty]
        exact le_top
      · rw [(part chunk account found untimed).2]
        intro share member
        exact (earliest _).mp le_rfl share (mem_sharesOf_flatten.mpr ⟨chunk, inChunks, member⟩)

omit found in
/-- The functions that the merged parts have, from their shares or from a Modbus device. -/
theorem mem_functions_merged (text : String) (field : FunctionField) : text ∈ merged.functions field ↔
    (∃ share ∈ sharesOf services k chunks.flatten, text ∈ Share.entries services share field) ∨
      field = .modbusFunctions ∧ text = "read_device_identification" ∧
        AggregateKey.protocol services k = "Modbus TCP" ∧
          ∃ chunk ∈ chunks, sharesOf services k chunk ≠ [] ∧ Silent services k chunk ∧ EndIdentified services chunk k := by
  rw [mem_functions_of_merged all]
  constructor
  · rintro ⟨part, member, has⟩
    obtain ⟨chunk, present, found⟩ := mem_parts.mp member
    rcases (mem_functions_of_account found text field).mp has with ⟨share, inChunk, named⟩ | ⟨here, is, modbus, known, silent⟩
    · exact .inl ⟨share, mem_sharesOf_flatten.mpr ⟨chunk, present, inChunk⟩, named⟩
    · exact .inr ⟨here, is, modbus, chunk, present, sharesOf_ne_nil_iff.mpr ⟨part, found⟩, silent, known⟩
  · rintro (⟨share, member, named⟩ | ⟨here, is, modbus, chunk, present, some_, silent, known⟩)
    · obtain ⟨chunk, present, inChunk⟩ := mem_sharesOf_flatten.mp member
      obtain ⟨part, found⟩ := sharesOf_ne_nil_iff.mp (List.ne_nil_of_mem inChunk)
      exact ⟨part, mem_parts.mpr ⟨chunk, present, found⟩,
        (mem_functions_of_account found text field).mpr (.inl ⟨share, inChunk, named⟩)⟩
    · obtain ⟨part, found⟩ := sharesOf_ne_nil_iff.mp some_
      exact ⟨part, mem_parts.mpr ⟨chunk, present, found⟩,
        (mem_functions_of_account found text field).mpr (.inr ⟨here, is, modbus, known, silent⟩)⟩

omit found all in
/-- The shares of a Modbus conversation name their operations. -/
theorem mem_entries_modbus (modbus : AggregateKey.protocol services k = "Modbus TCP") (events : List Event)
    (text : String) : (∃ share ∈ sharesOf services k events, text ∈ Share.entries services share .modbusFunctions) ↔
      text ≠ "" ∧ ∃ share ∈ sharesOf services k events, share.operation = text := by
  have entries (share : Share) (member : share ∈ sharesOf services k events) :
      text ∈ Share.entries services share .modbusFunctions ↔ text ≠ "" ∧ share.operation = text := by
    have own : AggregateKey.protocol services share.key = "Modbus TCP" := by rw [(mem_sharesOf.mp member).2, modbus]
    by_cases named : share.operation = ""
    · simp only [Share.entries, reduceCtorEq, if_false, named, ne_eq, not_true, and_false, Finset.notMem_empty, false_iff,
        not_and]
      exact fun some_ is => some_ is.symm
    · simp only [Share.entries, FunctionField.protocol, reduceCtorEq, if_false, own, named, ne_eq, not_false_eq_true,
        and_self, if_true, Finset.mem_singleton]
      exact ⟨fun is => ⟨is ▸ named, is.symm⟩, fun both => both.2.symm⟩
  constructor
  · rintro ⟨share, member, has⟩
    obtain ⟨named, is⟩ := (entries share member).mp has
    exact ⟨named, share, member, is⟩
  · rintro ⟨named, share, member, is⟩
    exact ⟨share, member, (entries share member).mpr ⟨named, is⟩⟩

theorem functions_merged_iff : merged.functions = whole.functions ↔
    (AggregateKey.protocol services k = "Modbus TCP" → Silent services k chunks.flatten →
      (EndIdentified services chunks.flatten k ↔
        ∃ chunk ∈ chunks, sharesOf services k chunk ≠ [] ∧ EndIdentified services chunk k)) ∧
    (AggregateKey.protocol services k = "Modbus TCP" → ¬ Silent services k chunks.flatten →
      (∃ chunk ∈ chunks, sharesOf services k chunk ≠ [] ∧ Silent services k chunk ∧ EndIdentified services chunk k) →
        ∃ share ∈ sharesOf services k chunks.flatten, share.operation = "read_device_identification") := by
  have pointwise : merged.functions = whole.functions ↔ ∀ field text, text ∈ merged.functions field ↔
      text ∈ whole.functions field := by
    rw [funext_iff]
    exact forall_congr' fun _ => Finset.ext_iff
  rw [pointwise]
  simp only [mem_functions_merged all, mem_functions_of_account found]
  have silentIn (silent : Silent services k chunks.flatten) (chunk : List Event) (member : chunk ∈ chunks) :
      Silent services k chunk :=
    fun share present => silent share (mem_sharesOf_flatten.mpr ⟨chunk, member, present⟩)
  have named (modbus : AggregateKey.protocol services k = "Modbus TCP") :
      (∃ share ∈ sharesOf services k chunks.flatten,
        "read_device_identification" ∈ Share.entries services share .modbusFunctions) ↔
      ∃ share ∈ sharesOf services k chunks.flatten, share.operation = "read_device_identification" :=
    (mem_entries_modbus modbus chunks.flatten _).trans (and_iff_right (by decide))
  constructor
  · intro same
    have read := same .modbusFunctions "read_device_identification"
    simp only [true_and] at read
    refine ⟨fun modbus silent => ?_, fun modbus loud part => ?_⟩
    · have unnamed : ¬ ∃ share ∈ sharesOf services k chunks.flatten, share.operation = "read_device_identification" := by
        rintro ⟨share, member, is⟩
        rw [silent share member] at is
        exact absurd is (by decide)
      rw [named modbus] at read
      simp only [unnamed, false_or, modbus, true_and, silent, and_true] at read
      rw [← read]
      constructor
      · rintro ⟨chunk, member, some_, -, known⟩
        exact ⟨chunk, member, some_, known⟩
      · rintro ⟨chunk, member, some_, known⟩
        exact ⟨chunk, member, some_, silentIn silent chunk member, known⟩
    · rcases read.mp (.inr ⟨modbus, part⟩) with has | ⟨-, -, silent⟩
      · exact (named modbus).mp has
      · exact absurd silent loud
  · rintro ⟨device, function⟩ field text
    constructor
    · rintro (has | ⟨here, is, modbus, part⟩)
      · exact .inl has
      · by_cases silent : Silent services k chunks.flatten
        · obtain ⟨chunk, member, some_, -, known⟩ := part
          exact .inr ⟨here, is, modbus, (device modbus silent).mpr ⟨chunk, member, some_, known⟩, silent⟩
        · subst here is
          exact .inl ((named modbus).mpr (function modbus silent part))
    · rintro (has | ⟨here, is, modbus, known, silent⟩)
      · exact .inl has
      · obtain ⟨chunk, member, some_, known⟩ := (device modbus silent).mp known
        exact .inr ⟨here, is, modbus, chunk, member, some_, silentIn silent chunk member, known⟩

/-- The merged parts of a conversation are the conversation exactly if the chunks keep it. -/
theorem merged_eq_iff : merged = whole ↔ Kept services chunks k := by
  obtain ⟨first, is⟩ := opening_of_account found
  have ends := ends_merged found all
  simp only [Account.ends, Prod.mk.injEq] at ends
  have fields : merged = whole ↔ merged.firstSeen = whole.firstSeen ∧ merged.transport = whole.transport ∧
      merged.functions = whole.functions := by
    refine ⟨fun same => by simp [same], fun ⟨firstSeen, transport, functions⟩ => ?_⟩
    exact Account.ext ends.1 ends.2.1 ends.2.2.1 ends.2.2.2.1 ends.2.2.2.2.1 ends.2.2.2.2.2 transport
      (packetCount_merged found all) (bytesTotal_merged found all) firstSeen (lastSeen_merged found all)
      (modbusWrites_merged found all) (s7ProgramAccess_merged found all) functions
  rw [fields, transport_merged_iff found all, functions_merged_iff found all]
  constructor
  · rintro ⟨firstSeen, transport, device, function⟩
    refine ⟨?_, ?_, transport, device, function⟩
    · intro other is' untimed
      exact (firstSeen_merged_of_untimed found all is' untimed).mp firstSeen
    · intro other is' timed
      exact (firstSeen_merged_of_timed found all is' timed).mp firstSeen
  · intro kept
    refine ⟨?_, kept.transport, kept.device, kept.function⟩
    by_cases untimed : first.timestamp = ""
    · exact (firstSeen_merged_of_untimed found all is untimed).mpr (kept.untimed first is untimed)
    · exact (firstSeen_merged_of_timed found all is untimed).mpr (kept.earliest first is untimed)

end Whole

/-! ### Separate conversations -/

variable (services) in
def AggregateKey.mergeKey (k : AggregateKey) : MergeKey :=
  ⟨AggregateKey.srcMac k, AggregateKey.dstMac k, AggregateKey.protocol services k, AggregateKey.port k⟩

/-- The accounts of the chunks that the merge puts together. -/
def partsAt (services : Services) (m : MergeKey) (chunks : List (List Event)) : List Account :=
  (((chunks.map (buildConversationsFromBronze services)).flatten).map Conversation.account).filter
    (Account.mergeKey · = m)

theorem mergeKey_of_account {events : List Event} {account : Account} (found : accountOf services k events = some account) :
    Account.mergeKey account = AggregateKey.mergeKey services k := by
  have ends := ends_of_account found
  simp only [Account.ends, AggregateKey.ends, Prod.mk.injEq] at ends
  simp [Account.mergeKey, AggregateKey.mergeKey, ends]

theorem mergeKey_of_parts {m : MergeKey} {merged : Account} (all : mergeAll (partsAt services m chunks) = some merged) :
    Account.mergeKey merged = m := by
  obtain ⟨part, member, is⟩ := chosen_of_gather all Account.mergeKey Account.mergeKey (fun _ => rfl) fun _ _ => .inl rfl
  rw [is]
  simpa using (List.mem_filter.mp member).2

theorem partsAt_cons (m : MergeKey) (chunk : List Event) (rest : List (List Event)) :
    partsAt services m (chunk :: rest) =
      (((accounts services chunk).items.map Prod.snd).filter (Account.mergeKey · = m)) ++ partsAt services m rest := by
  rw [partsAt, List.map_cons, List.flatten_cons, List.map_append, List.filter_append, account_buildConversations]
  rfl

theorem accountOf_of_mem {events : List Event} {item : AggregateKey × Account}
    (member : item ∈ (accounts services events).items) : accountOf services item.1 events = some item.2 := by
  rw [← get_accounts]
  exact PyDict.mem_items_iff.mp member

/-- If no other conversation has its merge key, a conversation's accounts are all that is merged. -/
theorem partsAt_of_separated (separated : ∀ chunk ∈ chunks, ∀ other, sharesOf services other chunk ≠ [] →
      AggregateKey.mergeKey services other = AggregateKey.mergeKey services k → other = k) :
    partsAt services (AggregateKey.mergeKey services k) chunks = chunks.filterMap (accountOf services k) := by
  induction chunks with
  | nil => rfl
  | cons chunk rest ih =>
    have own : ((accounts services chunk).items.map Prod.snd).filter
        (Account.mergeKey · = AggregateKey.mergeKey services k) = (accountOf services k chunk).toList := by
      rw [List.filter_map, ← get_accounts]
      have keyed : (accounts services chunk).items.filter
          ((fun account => decide (Account.mergeKey account = AggregateKey.mergeKey services k)) ∘ Prod.snd) =
            (accounts services chunk).items.filter fun item => item.1 = k := by
        refine List.filter_congr fun item member => decide_eq_decide.mpr ?_
        have found := accountOf_of_mem member
        rw [mergeKey_of_account found]
        refine ⟨separated chunk List.mem_cons_self item.1 (sharesOf_ne_nil_iff.mpr ⟨item.2, found⟩), ?_⟩
        intro is
        rw [is]
      rw [keyed, PyDict.filter_key]
      cases (accounts services chunk).get k <;> rfl
    rw [partsAt_cons, own, ih fun other member => separated other (List.mem_cons_of_mem _ member)]
    cases found : accountOf services k chunk with
    | none => simp [found]
    | some account => simp [found]

theorem sum_filter_two {α : Type} (items : List α) (weight : α → Nat) {p q r : α → Prop} [DecidablePred p]
    [DecidablePred q] [DecidablePred r] (first : ∀ item ∈ items, q item → p item) (second : ∀ item ∈ items, r item → p item)
    (apart : ∀ item, q item → ¬ r item) :
    ((items.filter (q ·)).map weight).sum + ((items.filter (r ·)).map weight).sum ≤
      ((items.filter (p ·)).map weight).sum := by
  induction items with
  | nil => simp
  | cons item rest ih =>
    have tail := ih (fun other member => first other (List.mem_cons_of_mem _ member))
      fun other member => second other (List.mem_cons_of_mem _ member)
    by_cases isQ : q item
    · have isP := first item List.mem_cons_self isQ
      simp only [List.filter_cons, isQ, isP, apart item isQ, decide_true, decide_false, if_true, List.map_cons,
        List.sum_cons, Bool.false_eq_true, if_false]
      omega
    · by_cases isR : r item
      · have isP := second item List.mem_cons_self isR
        simp only [List.filter_cons, isQ, isP, isR, decide_true, decide_false, if_true, List.map_cons, List.sum_cons,
          Bool.false_eq_true, if_false]
        omega
      · refine le_trans ?_ (le_trans tail ?_)
        · simp [isQ, isR]
        · by_cases isP : p item <;> simp [isP]

/-- Two conversations with one merge key are counted together. -/
theorem packets_of_two {other : AggregateKey} (apart : k ≠ other)
    (same : AggregateKey.mergeKey services other = AggregateKey.mergeKey services k) :
    ((chunks.filterMap (accountOf services k)).map Account.packetCount).sum +
        ((chunks.filterMap (accountOf services other)).map Account.packetCount).sum ≤
      ((partsAt services (AggregateKey.mergeKey services k) chunks).map Account.packetCount).sum := by
  induction chunks with
  | nil => simp [partsAt]
  | cons chunk rest ih =>
    have one (key : AggregateKey) : ((((accounts services chunk).items.filter fun item => item.1 = key).map
        fun item => item.2.packetCount).sum) = ((accountOf services key chunk).toList.map Account.packetCount).sum := by
      rw [PyDict.filter_key, get_accounts]
      cases accountOf services key chunk <;> rfl
    have here : ((accountOf services k chunk).toList.map Account.packetCount).sum +
        ((accountOf services other chunk).toList.map Account.packetCount).sum ≤
          ((((accounts services chunk).items.map Prod.snd).filter
            (Account.mergeKey · = AggregateKey.mergeKey services k)).map Account.packetCount).sum := by
      rw [← one, ← one, List.filter_map, List.map_map]
      refine sum_filter_two _ _ ?_ ?_ ?_
      · rintro item member rfl
        exact mergeKey_of_account (accountOf_of_mem member)
      · rintro item member rfl
        exact (mergeKey_of_account (accountOf_of_mem member)).trans same
      · rintro item rfl
        exact apart
    rw [partsAt_cons, List.map_append, List.sum_append]
    have cons (key : AggregateKey) : ((((chunk :: rest).filterMap (accountOf services key)).map Account.packetCount).sum) =
        ((accountOf services key chunk).toList.map Account.packetCount).sum +
          ((rest.filterMap (accountOf services key)).map Account.packetCount).sum := by
      cases found : accountOf services key chunk <;> simp [found]
    rw [cons, cons]
    omega

/-! ### All conversations -/

variable (services chunks) in
/-- What is merged from the conversations of the chunks. -/
def mergedChunks : List Conversation := mergeChunkConversations (chunks.map (buildConversationsFromBronze services))

variable (services chunks) in
/-- The merge keys tell the capture's conversations apart, and the chunks keep each of them. -/
structure Mergeable : Prop where
  separated : ∀ a ∈ shares services chunks.flatten, ∀ b ∈ shares services chunks.flatten,
    AggregateKey.mergeKey services a.key = AggregateKey.mergeKey services b.key → a.key = b.key
  kept : ∀ share ∈ shares services chunks.flatten, Kept services chunks share.key

theorem mem_whole_iff {events : List Event} {account : Account} :
    account ∈ (buildConversationsFromBronze services events).map Conversation.account ↔
      ∃ k, accountOf services k events = some account := by
  rw [account_buildConversations, List.mem_map]
  constructor
  · rintro ⟨item, member, rfl⟩
    exact ⟨item.1, accountOf_of_mem member⟩
  · rintro ⟨k, found⟩
    rw [← get_accounts] at found
    exact ⟨(k, account), PyDict.mem_items_iff.mpr found, rfl⟩

theorem mem_mergedChunks_iff {account : Account} : account ∈ (mergedChunks services chunks).map Conversation.account ↔
    ∃ m, mergeAll (partsAt services m chunks) = some account := by
  rw [mergedChunks, mergeChunkConversations, List.map_map, List.mem_map]
  simp only [partsAt, ← get_merged, Option.map_eq_some_iff]
  constructor
  · rintro ⟨⟨m, conv⟩, member, rfl⟩
    exact ⟨m, conv, PyDict.mem_items_iff.mp member, rfl⟩
  · rintro ⟨m, conv, found, rfl⟩
    exact ⟨(m, conv), PyDict.mem_items_iff.mpr found, rfl⟩

theorem exists_share_iff {events : List Event} : (∃ share ∈ shares services events, share.key = k) ↔
    ∃ account, accountOf services k events = some account := by
  rw [← sharesOf_ne_nil_iff]
  constructor
  · rintro ⟨share, member, own⟩
    exact List.ne_nil_of_mem (mem_sharesOf.mpr ⟨member, own⟩)
  · intro some_
    obtain ⟨share, member⟩ := List.exists_mem_of_ne_nil _ some_
    exact ⟨share, mem_sharesOf.mp member⟩

theorem packetCount_pos {events : List Event} {account : Account} (found : accountOf services k events = some account) :
    0 < account.packetCount := by
  rw [packetCount_of_account found]
  obtain ⟨share, member⟩ := List.exists_mem_of_ne_nil _ (sharesOf_ne_nil_iff.mpr ⟨account, found⟩)
  have positive : 0 < share.packets := by
    obtain ⟨event, -, is⟩ := List.mem_filterMap.mp (mem_sharesOf.mp member).1
    unfold shareOf at is
    split at is
    · cases is
      simp only [shareIn]
      split_ifs <;> omega
    · cases is
      simp only [shareIn]
      split_ifs <;> omega
    · cases is
  obtain ⟨before, after, all⟩ := List.append_of_mem member
  rw [all, List.map_append, List.map_cons, List.sum_append, List.sum_cons]
  omega

/-- Conversations that are merged into one are not all there. -/
theorem separated_of_same (same : SameConversations (mergedChunks services chunks)
      (buildConversationsFromBronze services chunks.flatten)) {other : AggregateKey} {a b : Account}
    (first : accountOf services k chunks.flatten = some a) (second : accountOf services other chunks.flatten = some b)
    (equal : AggregateKey.mergeKey services other = AggregateKey.mergeKey services k) : k = other := by
  by_contra apart
  have merged {key : AggregateKey} {account : Account} (found : accountOf services key chunks.flatten = some account) :
      mergeAll (partsAt services (AggregateKey.mergeKey services key) chunks) = some account := by
    obtain ⟨m, all⟩ := mem_mergedChunks_iff.mp ((same account).mpr (mem_whole_iff.mpr ⟨key, found⟩))
    rwa [← mergeKey_of_parts all, mergeKey_of_account found] at all
  have all := merged first
  have all' := merged second
  rw [equal, all] at all'
  obtain rfl := Option.some.inj all'
  have together := @packets_of_two services chunks k other apart equal
  rw [sum_of_parts fun _ _ => packetCount_of_account, sum_of_parts fun _ _ => packetCount_of_account,
    ← packetCount_of_account first, ← packetCount_of_account second, ← packetCount_of_merged all] at together
  have positive := packetCount_pos first
  omega

/-- A part of a merge is one of a conversation of the capture. -/
theorem whole_of_part {m : MergeKey} {part : Account} (member : part ∈ partsAt services m chunks) :
    ∃ k whole, accountOf services k chunks.flatten = some whole ∧ AggregateKey.mergeKey services k = m := by
  obtain ⟨present, own⟩ := List.mem_filter.mp member
  rw [List.map_flatten, List.map_map, List.mem_flatten] at present
  obtain ⟨built, inBuilt, here⟩ := present
  obtain ⟨chunk, inChunks, rfl⟩ := List.mem_map.mp inBuilt
  obtain ⟨k, found⟩ := mem_whole_iff.mp here
  obtain ⟨share, inChunk⟩ := List.exists_mem_of_ne_nil _ (sharesOf_ne_nil_iff.mpr ⟨part, found⟩)
  obtain ⟨whole, found'⟩ :=
    sharesOf_ne_nil_iff.mp (List.ne_nil_of_mem (mem_sharesOf_flatten.mpr ⟨chunk, inChunks, inChunk⟩))
  refine ⟨k, whole, found', ?_⟩
  rw [← mergeKey_of_account found]
  simpa using own

/-- With separate conversations, the merge of one puts its own parts together. -/
theorem partsAt_eq {account : Account} (separated : ∀ {other : AggregateKey} {b : Account},
      accountOf services other chunks.flatten = some b →
        AggregateKey.mergeKey services other = AggregateKey.mergeKey services k → other = k)
    (found : accountOf services k chunks.flatten = some account) :
    ∃ merged, partsAt services (AggregateKey.mergeKey services k) chunks = chunks.filterMap (accountOf services k) ∧
      mergeAll (chunks.filterMap (accountOf services k)) = some merged := by
  have parts : partsAt services (AggregateKey.mergeKey services k) chunks = chunks.filterMap (accountOf services k) := by
    refine partsAt_of_separated fun chunk member other some_ equal => ?_
    obtain ⟨share, present⟩ := List.exists_mem_of_ne_nil _ some_
    obtain ⟨b, found⟩ := sharesOf_ne_nil_iff.mp (List.ne_nil_of_mem (mem_sharesOf_flatten.mpr ⟨chunk, member, present⟩))
    exact separated found equal
  obtain ⟨share, member⟩ := List.exists_mem_of_ne_nil _ (sharesOf_ne_nil_iff.mpr ⟨account, found⟩)
  obtain ⟨chunk, inChunks, present⟩ := mem_sharesOf_flatten.mp member
  obtain ⟨part, is⟩ := sharesOf_ne_nil_iff.mp (List.ne_nil_of_mem present)
  have some_ : mergeAll (chunks.filterMap (accountOf services k)) ≠ none :=
    mt gather_eq_none_iff.mp (List.ne_nil_of_mem (mem_parts.mpr ⟨chunk, inChunks, is⟩))
  obtain ⟨merged, all⟩ := Option.ne_none_iff_exists'.mp some_
  exact ⟨merged, parts, all⟩

end Chunked

/-- A capture in chunks has the conversations of the whole capture exactly if these are
    told apart by their merge keys and kept by the chunks. -/
theorem chunks_merge_iff (services : Services) (chunks : List (List Event)) :
    SameConversations (mergeChunkConversations (chunks.map (buildConversationsFromBronze services)))
      (buildConversationsFromBronze services chunks.flatten) ↔ Mergeable services chunks := by
  rw [← mergedChunks]
  constructor
  · intro same
    have separated : ∀ a ∈ shares services chunks.flatten, ∀ b ∈ shares services chunks.flatten,
        AggregateKey.mergeKey services a.key = AggregateKey.mergeKey services b.key → a.key = b.key := by
      intro a inA b inB equal
      obtain ⟨first, foundA⟩ := exists_share_iff.mp ⟨a, inA, rfl⟩
      obtain ⟨second, foundB⟩ := exists_share_iff.mp ⟨b, inB, rfl⟩
      exact separated_of_same same foundA foundB equal.symm
    refine ⟨separated, fun share member => ?_⟩
    obtain ⟨whole, found⟩ := exists_share_iff.mp ⟨share, member, rfl⟩
    obtain ⟨merged, parts, all⟩ := partsAt_eq (fun found' equal => (separated_of_same same found found' equal).symm) found
    obtain ⟨m, all'⟩ := mem_mergedChunks_iff.mp ((same whole).mpr (mem_whole_iff.mpr ⟨share.key, found⟩))
    rw [← mergeKey_of_parts all', mergeKey_of_account found, parts, all] at all'
    exact (merged_eq_iff found all).mp (Option.some.inj all')
  · intro mergeable account
    have separated {k : AggregateKey} {whole : Account} (found : accountOf services k chunks.flatten = some whole)
        {other : AggregateKey} {b : Account} (found' : accountOf services other chunks.flatten = some b)
        (equal : AggregateKey.mergeKey services other = AggregateKey.mergeKey services k) : other = k := by
      obtain ⟨share, member, rfl⟩ := exists_share_iff.mpr ⟨whole, found⟩
      obtain ⟨share', member', rfl⟩ := exists_share_iff.mpr ⟨b, found'⟩
      exact mergeable.separated share' member' share member equal
    have merged {k : AggregateKey} {whole : Account} (found : accountOf services k chunks.flatten = some whole) :
        mergeAll (partsAt services (AggregateKey.mergeKey services k) chunks) = some whole := by
      obtain ⟨merged, parts, all⟩ := partsAt_eq (separated found) found
      obtain ⟨share, member, rfl⟩ := exists_share_iff.mpr ⟨whole, found⟩
      rw [parts, all, (merged_eq_iff found all).mpr (mergeable.kept share member)]
    rw [mem_mergedChunks_iff, mem_whole_iff]
    constructor
    · rintro ⟨m, all⟩
      obtain ⟨part, member, -⟩ := chosen_of_gather all Account.mergeKey Account.mergeKey (fun _ => rfl) fun _ _ => .inl rfl
      obtain ⟨k, whole, found, own⟩ := whole_of_part member
      have all' := merged found
      rw [own, all] at all'
      obtain rfl := Option.some.inj all'
      exact ⟨k, found⟩
    · rintro ⟨k, found⟩
      exact ⟨_, merged found⟩

/-- The library on lower-case texts without blanks around them, and on one time. -/
def plainServices : Services where
  lower text := text
  title text := text
  strip text := text
  isIpAddress _ := true
  fromIsoFormat text := if text = "2026-01-01T00:00:00+00:00" then some 1767225600 else none
  computeBeaconScore _ := (0, 0, 0)
  computeDnsEntropy _ := (0, 0)

/-- A read of a controller behind a router. -/
def routedRead (dstIp : String) : Event where
  envelope := ⟨"modbus", "10.0.1.5", dstIp, "00:00:00:00:00:05", "00:00:00:00:00:01", 40000, 502, "tcp",
    "2026-01-01T00:00:00Z", 1, 60⟩
  family := .protocolTransaction ⟨"request", "read_holding_registers", PyDict.empty, []⟩

/-- The reads of two controllers behind one router, a chunk each, become one conversation. -/
theorem routed_conversations_merged : ¬ SameConversations
    (mergeChunkConversations ([[routedRead "10.0.2.10"], [routedRead "10.0.2.11"]].map
      (buildConversationsFromBronze plainServices)))
    (buildConversationsFromBronze plainServices [[routedRead "10.0.2.10"], [routedRead "10.0.2.11"]].flatten) := by
  intro same
  have whole : "10.0.2.11" ∈ (buildConversationsFromBronze plainServices
      [[routedRead "10.0.2.10"], [routedRead "10.0.2.11"]].flatten).map Conversation.dstIp := by decide +kernel
  have merged : "10.0.2.11" ∉ (mergeChunkConversations ([[routedRead "10.0.2.10"], [routedRead "10.0.2.11"]].map
      (buildConversationsFromBronze plainServices))).map Conversation.dstIp := by decide +kernel
  obtain ⟨conv, present, is⟩ := List.mem_map.mp whole
  obtain ⟨conv', present', equal⟩ := List.mem_map.mp ((same _).mpr (List.mem_map_of_mem present))
  refine merged (List.mem_map.mpr ⟨conv', present', ?_⟩)
  exact (congrArg Account.dstIp equal).trans is

end Marlinspike.Dissect.Chunks
