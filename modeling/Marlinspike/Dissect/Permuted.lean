import Marlinspike.Sorting
import Marlinspike.Dissect.Chunks

/-!
The conversations of the same events in another order. Their counts, their times and their DNS
queries are gathered from the events whatever the order (`lossless_of_uniform`), but for the first
time of a conversation: a first event without a time leaves it empty (`lossless_iff`).
-/
namespace Marlinspike.Dissect.Permuted
open Marlinspike.Sorting
open Marlinspike.Dissect.Bronze
open Marlinspike.Dissect.Accounts
open Marlinspike.Topology.Graph (addNew mem_addNew)

section Adapter
variable (services : Services)

/-- The conversations under their keys. -/
def conversations (events : List Event) : PyDict AggregateKey Conversation :=
  (processEvents services events).aggregates.mapItems fun _ aggregate =>
    conversationOf services (processEvents services events).assetState aggregate

theorem buildConversations_eq (events : List Event) :
    buildConversationsFromBronze services events = (conversations services events).items.map Prod.snd := by
  simp [buildConversationsFromBronze, conversations, PyDict.mapItems]

/-! ### What should not depend on the order -/

structure Tally where
  packetCount : Nat
  bytesTotal : Nat
  firstSeen : String
  lastSeen : String
  dnsQueries : List String
  modbusWrites : Nat

def tally (conv : Conversation) : Tally :=
  ⟨conv.packetCount, conv.bytesTotal, conv.firstSeen, conv.lastSeen, conv.dnsQueries, conv.modbusWrites⟩

/-- The same conversations with the same tallies. -/
def SameTallies (events events' : List Event) : Prop :=
  ∀ k, ((conversations services events).get k).map tally = ((conversations services events').get k).map tally

/-- The packets of a transaction or of a topology observation. -/
def eventPackets (event : Event) : Nat :=
  match event.family with
  | .protocolTransaction _ | .topologyObservation _ =>
    if event.envelope.packetCount = 0 then 1 else event.envelope.packetCount
  | _ => 0

/-- The times of a conversation's events. -/
def timesOf (k : AggregateKey) (events : List Event) : List String :=
  ((sharesOf services k events).map Share.timestamp).filter (· ≠ "")

structure Lossless (events : List Event) : Prop where
  unordered : ∀ events', events.Perm events' → SameTallies services events events'
  packets : ((conversations services events).items.map (·.2.packetCount)).sum = (events.map eventPackets).sum
  times : ∀ k conv, (conversations services events).get k = some conv →
    conv.firstSeen = (timesOf services k events).min?.getD "" ∧ conv.lastSeen = (timesOf services k events).max?.getD ""

/-- The events of a conversation all have a time, or none of them has. -/
def Uniform (events : List Event) : Prop :=
  ∀ k, (∀ share ∈ sharesOf services k events, share.timestamp = "") ∨
    ∀ share ∈ sharesOf services k events, share.timestamp ≠ ""

variable {services}

theorem account_of_conversations {events : List Event} {k : AggregateKey} {conv : Conversation}
    (found : (conversations services events).get k = some conv) :
    accountOf services k events = some (Conversation.account conv) := by
  rw [conversations, PyDict.get_mapItems, Option.map_eq_some_iff] at found
  obtain ⟨aggregate, counted, rfl⟩ := found
  rw [← get_accounts, accounts, PyDict.get_mapItems, counted]
  rfl

/-! ### The packets -/

theorem packetCount_applyProtocolTransaction (aggregate : Aggregate) (tx : Transaction) (flow : Flow) :
    (applyProtocolTransaction services aggregate tx flow).packetCount = aggregate.packetCount := by
  simp only [applyProtocolTransaction, applyProtocolFields]
  split_ifs <;> rfl

theorem packetCount_open (envelope : Envelope) (srcPort : Nat) (k : AggregateKey) :
    (k.open services envelope srcPort).packetCount = 0 := by cases k <;> rfl

def packetSum (aggregates : PyDict AggregateKey Aggregate) : Nat :=
  (aggregates.items.map fun item => item.2.packetCount).sum

theorem packetSum_set {aggregates : PyDict AggregateKey Aggregate} {key : AggregateKey} {aggregate : Aggregate}
    {added : Nat} (more : aggregate.packetCount = (aggregates.get key).elim 0 Aggregate.packetCount + added) :
    packetSum (aggregates.set key aggregate) = packetSum aggregates + added := by
  have sum := PyDict.sum_set Aggregate.packetCount aggregates key aggregate
  simp only [packetSum]
  omega

/-- The packets of a conversation that an event is counted in. -/
theorem packetCount_count (aggregates : PyDict AggregateKey Aggregate) (key : AggregateKey) (envelope : Envelope)
    (srcPort : Nat) :
    (((aggregates.get key).getD (key.open services envelope srcPort)).count services envelope).packetCount =
      (aggregates.get key).elim 0 Aggregate.packetCount +
        if envelope.packetCount = 0 then 1 else envelope.packetCount := by
  cases aggregates.get key with
  | none => rw [Option.getD_none, Aggregate.count, packetCount_open, Option.elim_none]
  | some aggregate => rfl

theorem packetSum_processEvent (state : State) (event : Event) :
    packetSum (processEvent services state event).aggregates = packetSum state.aggregates + eventPackets event := by
  obtain ⟨envelope, family⟩ := event
  cases family with
  | assetObservation asset => rfl
  | other => rfl
  | topologyObservation observation =>
    exact packetSum_set (packetCount_count state.aggregates _ envelope 0)
  | protocolTransaction tx =>
    refine packetSum_set ?_
    rw [packetCount_applyProtocolTransaction]
    exact packetCount_count state.aggregates _ envelope _

theorem packetSum_run (events : List Event) (state : State) :
    packetSum (events.foldl (processEvent services) state).aggregates =
      packetSum state.aggregates + (events.map eventPackets).sum := by
  induction events generalizing state with
  | nil => rfl
  | cons event rest ih => rw [List.foldl_cons, ih, packetSum_processEvent, List.map_cons, List.sum_cons, Nat.add_assoc]

theorem packets_conversations (events : List Event) :
    ((conversations services events).items.map (·.2.packetCount)).sum = (events.map eventPackets).sum := by
  have same : ((conversations services events).items.map (·.2.packetCount)).sum =
      packetSum (processEvents services events).aggregates := by
    simp only [conversations, PyDict.mapItems, packetSum, List.map_map]
    rfl
  rw [same, processEvents, packetSum_run]
  exact Nat.zero_add _

/-! ### The DNS queries -/

theorem dnsQueries_applyProtocolTransaction (aggregate : Aggregate) (tx : Transaction) (flow : Flow) :
    (applyProtocolTransaction services aggregate tx flow).dnsQueries =
      if aggregate.protocol = "DNS" then (tx.objectRefs.filter (· ≠ "")).foldl addNew aggregate.dnsQueries
      else aggregate.dnsQueries := by
  simp only [applyProtocolTransaction, applyProtocolFields]
  split_ifs <;> simp_all

theorem nodup_addNew {names : List String} (distinct : names.Nodup) (name : String) : (addNew names name).Nodup := by
  unfold addNew
  split_ifs with known
  · exact distinct
  · exact List.nodup_append.mpr ⟨distinct, List.nodup_singleton _, by grind⟩

theorem foldl_addNew (more names : List String) : (names.Nodup → (more.foldl addNew names).Nodup) ∧
    ∀ name, name ∈ more.foldl addNew names ↔ name ∈ names ∨ name ∈ more := by
  induction more generalizing names with
  | nil => simp
  | cons first rest ih =>
    obtain ⟨distinct, mem⟩ := ih (addNew names first)
    refine ⟨fun before => distinct (nodup_addNew before first), fun name => ?_⟩
    rw [List.foldl_cons, mem, mem_addNew, List.mem_cons, or_assoc]

def queriesOf (aggregates : PyDict AggregateKey Aggregate) (k : AggregateKey) : List String :=
  (aggregates.get k).elim [] Aggregate.dnsQueries

/-- The names that an event asks for in a conversation. -/
def asked (services : Services) (k : AggregateKey) (event : Event) : List String :=
  match event.family with
  | .protocolTransaction tx =>
    if (normalizeBronzeFlow services event.envelope tx).key = k ∧ AggregateKey.protocol services k = "DNS" then
      tx.objectRefs.filter (· ≠ "")
    else []
  | _ => []

theorem dnsQueries_open (envelope : Envelope) (srcPort : Nat) (k : AggregateKey) :
    (k.open services envelope srcPort).dnsQueries = [] := by cases k <;> rfl

variable (services) in
/-- The queries of a conversation that an event is counted in. -/
theorem dnsQueries_count (aggregates : PyDict AggregateKey Aggregate) (k : AggregateKey) (envelope : Envelope)
    (srcPort : Nat) :
    (((aggregates.get k).getD (k.open services envelope srcPort)).count services envelope).dnsQueries =
      queriesOf aggregates k := by
  unfold queriesOf
  cases aggregates.get k with
  | none => exact dnsQueries_open envelope srcPort k
  | some aggregate => rfl

theorem queriesOf_processEvent {state : State} {k : AggregateKey}
    (keyed : ∀ aggregate, state.aggregates.get k = some aggregate → aggregate.protocol = AggregateKey.protocol services k)
    (event : Event) : queriesOf (processEvent services state event).aggregates k =
      (asked services k event).foldl addNew (queriesOf state.aggregates k) := by
  obtain ⟨envelope, family⟩ := event
  cases family with
  | assetObservation asset => rfl
  | other => rfl
  | topologyObservation observation =>
    have same := dnsQueries_count services state.aggregates k envelope 0
    simp only [processEvent, applyTopologyObservation, asked, List.foldl_nil]
    by_cases own : (l2KeyOf services envelope observation).1 = k
    · rw [queriesOf, PyDict.get_set, if_pos own, Option.elim_some]
      rw [own]
      exact same
    · rw [queriesOf, PyDict.get_set, if_neg own]
      rfl
  | protocolTransaction tx =>
    simp only [processEvent, countTransaction, asked]
    generalize normalizeBronzeFlow services envelope tx = flow
    by_cases own : flow.key = k
    · subst own
      have same := dnsQueries_count services state.aggregates flow.key envelope flow.srcPort
      have protocol : (((state.aggregates.get flow.key).getD (flow.key.open services envelope flow.srcPort)).count
          services envelope).protocol = AggregateKey.protocol services flow.key := by
        cases found : state.aggregates.get flow.key with
        | none => exact protocol_open envelope flow.key flow.srcPort
        | some aggregate => exact keyed aggregate found
      rw [queriesOf, PyDict.get_set, if_pos rfl, Option.elim_some, dnsQueries_applyProtocolTransaction, protocol, same]
      by_cases dns : AggregateKey.protocol services flow.key = "DNS" <;> simp [dns]
    · rw [queriesOf, PyDict.get_set, if_neg own, if_neg fun both => own both.1]
      rfl

variable (services) in
/-- The queries of a conversation are the names that its events ask for, each once. -/
theorem queriesOf_processEvents (events : List Event) (k : AggregateKey) :
    (queriesOf (processEvents services events).aggregates k).Nodup ∧
      ∀ query, query ∈ queriesOf (processEvents services events).aggregates k ↔
        ∃ event ∈ events, query ∈ asked services k event := by
  induction events using List.reverseRecOn with
  | nil => exact ⟨List.nodup_nil, fun query => by simp [processEvents, State.start, queriesOf]⟩
  | append_singleton events event ih =>
    obtain ⟨distinct, mem⟩ := ih
    have keyed (aggregate : Aggregate) (found : (processEvents services events).aggregates.get k = some aggregate) :
        aggregate.protocol = AggregateKey.protocol services k := by
      have counted_ := @counted_eq services events k
      rw [found] at counted_
      exact protocol_of_counted counted_.symm
    have added := foldl_addNew (asked services k event) (queriesOf (processEvents services events).aggregates k)
    rw [processEvents, List.foldl_append, List.foldl_cons, List.foldl_nil, ← processEvents, queriesOf_processEvent keyed]
    refine ⟨added.1 distinct, fun query => ?_⟩
    rw [added.2, mem]
    simp [or_and_right, exists_or]

theorem sorted_eq_of_perm {names names' : List String} (perm : names.Perm names') : sorted names = sorted names' :=
  (mergeSort_eq_iff (fun _ _ => decide_eq_true_iff) Function.injective_id).mpr perm

theorem dnsQueries_of_conversations {events : List Event} {k : AggregateKey} {conv : Conversation}
    (found : (conversations services events).get k = some conv) :
    conv.dnsQueries = (sorted (queriesOf (processEvents services events).aggregates k)).take 200 := by
  rw [conversations, PyDict.get_mapItems, Option.map_eq_some_iff] at found
  obtain ⟨aggregate, counted, rfl⟩ := found
  rw [queriesOf, counted]
  rfl

theorem dnsQueries_perm {events events' : List Event} (perm : events.Perm events') (k : AggregateKey) :
    sorted (queriesOf (processEvents services events).aggregates k) =
      sorted (queriesOf (processEvents services events').aggregates k) := by
  obtain ⟨distinct, mem⟩ := queriesOf_processEvents services events k
  obtain ⟨distinct', mem'⟩ := queriesOf_processEvents services events' k
  refine sorted_eq_of_perm ((List.perm_ext_iff_of_nodup distinct distinct').mpr fun query => ?_)
  rw [mem, mem']
  simp only [perm.mem_iff]

/-! ### The times -/

variable (services) in
theorem sharesOf_perm {events events' : List Event} (perm : events.Perm events') (k : AggregateKey) :
    (sharesOf services k events).Perm (sharesOf services k events') := (perm.filterMap _).filter _

theorem mem_timesOf {k : AggregateKey} {events : List Event} {time : String} :
    time ∈ timesOf services k events ↔ (∃ share ∈ sharesOf services k events, share.timestamp = time) ∧ time ≠ "" := by
  simp [timesOf]

section Found
variable {k : AggregateKey} {events : List Event} {account : Account}
  (found : accountOf services k events = some account)
include found

/-- The last time is the latest that an event has. -/
theorem lastSeen_eq : account.lastSeen = (timesOf services k events).max?.getD "" := by
  have bounds := lastSeen_of_account found
  have own := (bounds account.lastSeen).mp le_rfl
  cases latest : (timesOf services k events).max? with
  | none =>
    have none_ : timesOf services k events = [] := List.max?_eq_none_iff.mp latest
    refine le_antisymm ((bounds "").mpr fun share member => ?_) (empty_le _)
    by_contra timed
    have inside : share.timestamp ∈ timesOf services k events :=
      mem_timesOf.mpr ⟨⟨share, member, rfl⟩, fun untimed => timed (by rw [untimed])⟩
    rw [none_] at inside
    cases inside
  | some time =>
    obtain ⟨member, upper⟩ := List.max?_eq_some_iff.mp latest
    refine le_antisymm ((bounds time).mpr fun share inside => ?_) ?_
    · by_cases untimed : share.timestamp = ""
      · rw [untimed]
        exact empty_le time
      · exact upper share.timestamp (mem_timesOf.mpr ⟨⟨share, inside, rfl⟩, untimed⟩)
    · obtain ⟨⟨share, inside, rfl⟩, -⟩ := mem_timesOf.mp member
      exact own share inside

theorem sharesOf_head : ∃ first, (sharesOf services k events).head? = some first := by
  have some_ := sharesOf_ne_nil_iff.mpr ⟨account, found⟩
  obtain ⟨first, rest, split⟩ := List.exists_cons_of_ne_nil some_
  exact ⟨first, by rw [split]; rfl⟩

/-- The first time is the earliest that an event has, if all of them have one or none has. -/
theorem firstSeen_eq (uniform : (∀ share ∈ sharesOf services k events, share.timestamp = "") ∨
    ∀ share ∈ sharesOf services k events, share.timestamp ≠ "") :
    account.firstSeen = (timesOf services k events).min?.getD "" := by
  obtain ⟨first, head⟩ := sharesOf_head found
  have inside : first ∈ sharesOf services k events := List.mem_of_mem_head? head
  obtain untimed | timed := uniform
  · have none_ : timesOf services k events = [] := by
      refine List.eq_nil_iff_forall_not_mem.mpr fun time member => ?_
      obtain ⟨⟨share, inside, rfl⟩, timed⟩ := mem_timesOf.mp member
      exact timed (untimed share inside)
    rw [none_, firstSeen_of_untimed found head (untimed first inside)]
    rfl
  · obtain ⟨named, bounds⟩ := firstSeen_of_timed found head (timed first inside)
    obtain ⟨chosen, member, own⟩ := firstSeen_mem found
    have earliest : (timesOf services k events).min? = some account.firstSeen := by
      refine List.min?_eq_some_iff.mpr ⟨mem_timesOf.mpr ⟨⟨chosen, member, own.symm⟩, named⟩, fun time among => ?_⟩
      obtain ⟨⟨share, inside, rfl⟩, timed⟩ := mem_timesOf.mp among
      have lower := (bounds (instant account.firstSeen)).mp le_rfl share inside
      rw [instant_of_ne named, instant_of_ne timed] at lower
      exact WithTop.coe_le_coe.mp lower
    rw [earliest]
    rfl

end Found

theorem min?_perm {names names' : List String} (perm : names.Perm names') : names.min? = names'.min? := by
  refine Option.ext fun name => ?_
  rw [List.min?_eq_some_iff, List.min?_eq_some_iff]
  simp only [perm.mem_iff]

theorem max?_perm {names names' : List String} (perm : names.Perm names') : names.max? = names'.max? := by
  refine Option.ext fun name => ?_
  rw [List.max?_eq_some_iff, List.max?_eq_some_iff]
  simp only [perm.mem_iff]

/-! ### The conversations -/

theorem conversations_of_account {events : List Event} {k : AggregateKey} {account : Account}
    (found : accountOf services k events = some account) :
    ∃ conv, (conversations services events).get k = some conv := by
  rw [← get_accounts, accounts, PyDict.get_mapItems, Option.map_eq_some_iff] at found
  obtain ⟨aggregate, counted, -⟩ := found
  exact ⟨_, by rw [conversations, PyDict.get_mapItems, counted]; rfl⟩

theorem uniform_perm {events events' : List Event} (perm : events.Perm events') (uniform : Uniform services events) :
    Uniform services events' := by
  intro k
  have same := sharesOf_perm services perm k
  simpa only [same.mem_iff] using uniform k

/-- What a conversation's tally is gathered from. -/
theorem tally_of_uniform {events : List Event} (uniform : Uniform services events) {k : AggregateKey}
    {conv : Conversation} (found : (conversations services events).get k = some conv) :
    tally conv = ⟨((sharesOf services k events).map Share.packets).sum,
      ((sharesOf services k events).map Share.bytes).sum, (timesOf services k events).min?.getD "",
      (timesOf services k events).max?.getD "",
      (sorted (queriesOf (processEvents services events).aggregates k)).take 200,
      ((sharesOf services k events).map (Share.writes services)).sum⟩ := by
  have counted := account_of_conversations found
  have packets : conv.packetCount = _ := packetCount_of_account counted
  have bytes : conv.bytesTotal = _ := bytesTotal_of_account counted
  have first : conv.firstSeen = _ := firstSeen_eq counted (uniform k)
  have last : conv.lastSeen = _ := lastSeen_eq counted
  have writes : conv.modbusWrites = _ := modbusWrites_of_account counted
  rw [tally, packets, bytes, first, last, writes, dnsQueries_of_conversations found]

theorem sameTallies_of_uniform {events events' : List Event} (uniform : Uniform services events)
    (perm : events.Perm events') : SameTallies services events events' := by
  intro k
  have same := sharesOf_perm services perm k
  have times : (timesOf services k events).Perm (timesOf services k events') := (same.map _).filter _
  cases found : (conversations services events).get k with
  | none =>
    cases found' : (conversations services events').get k with
    | none => rfl
    | some conv' =>
      have some_ := sharesOf_ne_nil_iff.mpr ⟨_, account_of_conversations found'⟩
      have none_ : sharesOf services k events ≠ [] := fun nil => some_ (by rw [nil] at same; exact same.nil_eq.symm)
      obtain ⟨account, counted⟩ := sharesOf_ne_nil_iff.mp none_
      obtain ⟨conv, found''⟩ := conversations_of_account counted
      rw [found] at found''
      cases found''
  | some conv =>
    have some_ := sharesOf_ne_nil_iff.mpr ⟨_, account_of_conversations found⟩
    have some' : sharesOf services k events' ≠ [] := fun nil => some_ (by rw [nil] at same; exact same.eq_nil)
    obtain ⟨account, counted⟩ := sharesOf_ne_nil_iff.mp some'
    obtain ⟨conv', found'⟩ := conversations_of_account counted
    rw [found', Option.map_some, Option.map_some, tally_of_uniform uniform found,
      tally_of_uniform (uniform_perm perm uniform) found', min?_perm times, max?_perm times, dnsQueries_perm perm,
      (same.map Share.packets).sum_eq, (same.map Share.bytes).sum_eq, (same.map (Share.writes services)).sum_eq]

theorem lossless_of_uniform {events : List Event} (uniform : Uniform services events) : Lossless services events where
  unordered _ perm := sameTallies_of_uniform uniform perm
  packets := packets_conversations events
  times k _ found :=
    ⟨firstSeen_eq (account_of_conversations found) (uniform k), lastSeen_eq (account_of_conversations found)⟩

/-- An event that shows a share, put in front of the others. -/
theorem exists_perm_cons {events : List Event} {k : AggregateKey} {share : Share}
    (member : share ∈ sharesOf services k events) :
    ∃ events', events.Perm events' ∧ (sharesOf services k events').head? = some share := by
  obtain ⟨inside, own⟩ := mem_sharesOf.mp member
  obtain ⟨event, among, shown⟩ := List.mem_filterMap.mp inside
  obtain ⟨before, after, rfl⟩ := List.append_of_mem among
  refine ⟨event :: (before ++ after), List.perm_middle, ?_⟩
  simp [sharesOf, shares, shown, own]

theorem uniform_of_lossless {events : List Event} (lossless : Lossless services events) : Uniform services events := by
  intro k
  by_contra mixed
  push Not at mixed
  obtain ⟨⟨timed, timedIn, isTimed⟩, untimed, untimedIn, isUntimed⟩ := mixed
  obtain ⟨events', perm, head⟩ := exists_perm_cons untimedIn
  obtain ⟨account, counted⟩ := sharesOf_ne_nil_iff.mp (List.ne_nil_of_mem timedIn)
  obtain ⟨conv, found⟩ := conversations_of_account counted
  have same := lossless.unordered events' perm k
  rw [found, Option.map_some, eq_comm, Option.map_eq_some_iff] at same
  obtain ⟨conv', found', equal⟩ := same
  have empty : conv'.firstSeen = "" := firstSeen_of_untimed (account_of_conversations found') head isUntimed
  have first := (lossless.times k conv found).1
  have same : conv'.firstSeen = conv.firstSeen := congrArg Tally.firstSeen equal
  have among : timed.timestamp ∈ timesOf services k events := mem_timesOf.mpr ⟨⟨timed, timedIn, rfl⟩, isTimed⟩
  cases earliest : (timesOf services k events).min? with
  | none => exact List.ne_nil_of_mem among (List.min?_eq_none_iff.mp earliest)
  | some time =>
    obtain ⟨member, -⟩ := List.min?_eq_some_iff.mp earliest
    rw [earliest] at first
    exact (mem_timesOf.mp member).2 (first.symm.trans (same.symm.trans empty))

end Adapter

/-- The conversations do not depend on the order of the events exactly if in each of them all
events have a time or none has. -/
theorem lossless_iff (services : Services) (events : List Event) : Lossless services events ↔ Uniform services events :=
  ⟨uniform_of_lossless, lossless_of_uniform⟩

/-! ### An event without a time -/

/-- A read of a register at some time. -/
def read (timestamp : String) : Event where
  envelope :=
    ⟨"modbus", "10.0.1.5", "10.0.1.9", "00:00:00:00:00:05", "00:00:00:00:00:09", 40000, 502, "tcp", timestamp, 1, 60⟩
  family := .protocolTransaction ⟨"request", "read_holding_registers", PyDict.empty, []⟩

/-- The first event has no time, so the conversation has no first time. -/
theorem untimed_read_first : ¬ Lossless Chunks.plainServices [read "", read "2026-01-01T00:00:00Z"] := by
  intro lossless
  have uniform := uniform_of_lossless lossless
    (.flow "10.0.1.5" "10.0.1.9" "00:00:00:00:00:05" "00:00:00:00:00:09" "modbus" 502 "tcp")
  revert uniform
  decide +kernel

end Marlinspike.Dissect.Permuted
