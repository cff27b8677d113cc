import Marlinspike.Dissect.Permuted

/-!
The DNS queries of a report's conversations as the viewer lists them, each with the record type
at its position. The adapter of Bronze events keeps no record types, so that of its
conversations every query is listed without one (`observations_real`).
-/
namespace Marlinspike.Reports.DnsObservations
open Marlinspike.Dissect.Bronze
open Marlinspike.Dissect.Permuted
open Marlinspike.Dissect.Accounts
open Marlinspike.Topology.Graph (either)

/-- A query of a conversation, as a name or as a dictionary. -/
inductive Query where
  | plain (query : String)
  | entry (query name type : String)
deriving DecidableEq, Repr

/-- What is read of a conversation of a report. -/
structure Queried where
  dnsQueries : List Query
  dnsQueryTypes : List String
  srcIp : String
  dstIp : String

structure Observation where
  query : String
  recordType : Option String
  assetIp : String
  serverIp : String
deriving DecidableEq, Repr

def Query.text : Query → String
  | plain query => query
  | entry query name _ => either query name

/-- The type that goes with the query at a position. -/
def Queried.recordType (conv : Queried) (i : Nat) : Query → Option String
  | .plain _ => conv.dnsQueryTypes[i]?
  | .entry _ _ type => if type ≠ "" then some type else conv.dnsQueryTypes[i]?

def Queried.observations (conv : Queried) : List Observation :=
  (conv.dnsQueries.zipIdx.filter fun item => item.1.text ≠ "").map fun item =>
    ⟨item.1.text, conv.recordType item.2 item.1, conv.srcIp, conv.dstIp⟩

/-- `_dns_observations_for_report`. -/
def dnsObservationsForReport (conversations : List Queried) : List Observation :=
  conversations.flatMap Queried.observations

/-- A conversation of the adapter, as it is reported. -/
def Conversation.queried (conv : Conversation) : Queried :=
  ⟨conv.dnsQueries.map .plain, conv.dnsQueryTypes, conv.srcIp, conv.dstIp⟩

section Adapted
variable {services : Services} {events : List Event} {k : AggregateKey} {conv : Conversation}
  (found : (conversations services events).get k = some conv)
include found

theorem dnsQueryTypes_of_conversations : conv.dnsQueryTypes = [] := by
  rw [conversations, PyDict.get_mapItems, Option.map_eq_some_iff] at found
  obtain ⟨aggregate, -, rfl⟩ := found
  rfl

/-- What is asked for in a conversation, an event of the conversation asks for. -/
theorem asked_of_dnsQueries {query : String} (member : query ∈ conv.dnsQueries) :
    ∃ event ∈ events, query ∈ asked services k event := by
  rw [dnsQueries_of_conversations found] at member
  exact ((queriesOf_processEvents services events k).2 query).mp (List.mem_mergeSort.mp (List.mem_of_mem_take member))

theorem mem_observations {obs : Observation} : obs ∈ (Conversation.queried conv).observations ↔
    obs.query ∈ conv.dnsQueries ∧ obs.query ≠ "" ∧ obs = ⟨obs.query, none, conv.srcIp, conv.dstIp⟩ := by
  have untyped (i : Nat) (query : String) : (Conversation.queried conv).recordType i (.plain query) = none := by
    simp [Queried.recordType, Conversation.queried, dnsQueryTypes_of_conversations found]
  rw [Queried.observations, List.mem_map]
  constructor
  · rintro ⟨⟨item, i⟩, listed, rfl⟩
    obtain ⟨listed, some_⟩ := List.mem_filter.mp listed
    have among := List.fst_mem_of_mem_zipIdx listed
    obtain ⟨query, member, rfl⟩ := List.mem_map.mp among
    exact ⟨member, of_decide_eq_true some_, by rw [untyped]; rfl⟩
  · rintro ⟨member, some_, is⟩
    have among : Query.plain obs.query ∈ (Conversation.queried conv).dnsQueries := List.mem_map_of_mem member
    obtain ⟨i, small, here⟩ := List.mem_iff_getElem.mp among
    refine ⟨(.plain obs.query, i), List.mem_filter.mpr ⟨?_, decide_eq_true some_⟩, ?_⟩
    · exact List.mem_zipIdx_iff_getElem?.mpr (List.getElem?_eq_some_iff.mpr ⟨small, here⟩)
    · rw [untyped, is]
      rfl

end Adapted

theorem ne_empty_of_asked {services : Services} {k : AggregateKey} {event : Event} {query : String}
    (member : query ∈ asked services k event) : ∃ tx, event.family = .protocolTransaction tx ∧
      (normalizeBronzeFlow services event.envelope tx).key = k ∧ AggregateKey.protocol services k = "DNS" ∧
      query ∈ tx.objectRefs ∧ query ≠ "" := by
  obtain ⟨envelope, family⟩ := event
  unfold asked at member
  cases family with
  | assetObservation asset => cases member
  | topologyObservation observation => cases member
  | other => cases member
  | protocolTransaction tx =>
    simp only at member
    split_ifs at member with own
    · obtain ⟨listed, some_⟩ := List.mem_filter.mp member
      exact ⟨tx, rfl, own.1, own.2, listed, of_decide_eq_true some_⟩
    · cases member

/-- A DNS event of the conversation has the query, and the record type if there is one, whatever is
    taken for the record type of an event. -/
def OccurredTogether (services : Services) (typeOf : Transaction → Option String) (events : List Event)
    (k : AggregateKey) (obs : Observation) : Prop :=
  ∃ event ∈ events, ∃ tx, event.family = .protocolTransaction tx ∧
    (normalizeBronzeFlow services event.envelope tx).key = k ∧ AggregateKey.protocol services k = "DNS" ∧
    obs.query ∈ tx.objectRefs ∧ ∀ type, obs.recordType = some type → typeOf tx = some type

/-- What is listed for a conversation has occurred in it, and every name that it has kept is listed. -/
theorem observations_real (services : Services) (typeOf : Transaction → Option String) (events : List Event)
    (k : AggregateKey) (conv : Conversation) (found : (conversations services events).get k = some conv) :
    (∀ obs ∈ dnsObservationsForReport [Conversation.queried conv], OccurredTogether services typeOf events k obs) ∧
      ∀ query ∈ conv.dnsQueries, ∃ obs ∈ dnsObservationsForReport [Conversation.queried conv], obs.query = query := by
  have listed : dnsObservationsForReport [Conversation.queried conv] = (Conversation.queried conv).observations := by
    rw [dnsObservationsForReport, List.flatMap_cons, List.flatMap_nil, List.append_nil]
  rw [listed]
  constructor
  · intro obs member
    obtain ⟨among, -, is⟩ := (mem_observations found).mp member
    obtain ⟨event, inside, asks⟩ := asked_of_dnsQueries found among
    obtain ⟨tx, family, own, dns, refs, -⟩ := ne_empty_of_asked asks
    refine ⟨event, inside, tx, family, own, dns, refs, fun type typed => ?_⟩
    rw [is] at typed
    cases typed
  · intro query member
    obtain ⟨event, -, asks⟩ := asked_of_dnsQueries found member
    obtain ⟨tx, -, -, -, -, some_⟩ := ne_empty_of_asked asks
    exact ⟨⟨query, none, conv.srcIp, conv.dstIp⟩, (mem_observations found).mpr ⟨member, some_, rfl⟩, rfl⟩

/-- A lookup with its record type among the attributes. -/
def lookup (query type : String) : Event where
  envelope :=
    ⟨"dns", "10.0.1.5", "10.0.1.9", "00:00:00:00:00:05", "00:00:00:00:00:09", 40000, 53, "udp", "", 1, 60⟩
  family := .protocolTransaction ⟨"request", "query", PyDict.empty.set "query_type" type, [query]⟩

theorem observations_two_lookups : ∃ conv,
    (conversations Dissect.Chunks.plainServices [lookup "b.example" "TXT", lookup "a.example" "A"]).get
      (.flow "10.0.1.5" "10.0.1.9" "00:00:00:00:00:05" "00:00:00:00:00:09" "dns" 53 "udp") = some conv ∧
    "b.example" ∈ conv.dnsQueries ∧
    ∃ obs ∈ dnsObservationsForReport [Conversation.queried conv], obs.query = "b.example" := by
  have counted : ((conversations Dissect.Chunks.plainServices [lookup "b.example" "TXT", lookup "a.example" "A"]).get
      (.flow "10.0.1.5" "10.0.1.9" "00:00:00:00:00:05" "00:00:00:00:00:09" "dns" 53 "udp")).isSome = true := by
    decide +kernel
  obtain ⟨conv, found⟩ := Option.isSome_iff_exists.mp counted
  have queries : queriesOf (processEvents Dissect.Chunks.plainServices
      [lookup "b.example" "TXT", lookup "a.example" "A"]).aggregates
      (.flow "10.0.1.5" "10.0.1.9" "00:00:00:00:00:05" "00:00:00:00:00:09" "dns" 53 "udp") =
        ["b.example", "a.example"] := by decide +kernel
  have kept : "b.example" ∈ conv.dnsQueries := by
    rw [dnsQueries_of_conversations found, queries, List.take_of_length_le (by simp [sorted])]
    simp [sorted]
  exact ⟨conv, found, kept,
    (observations_real _ (fun tx => tx.attributes.get "query_type") _ _ conv found).2 "b.example" kept⟩

end Marlinspike.Reports.DnsObservations
