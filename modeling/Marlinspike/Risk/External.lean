import Mathlib.Data.List.Dedup
import Marlinspike.Risk.Score
import Marlinspike.Topology.Levels

/-!
Whether the risk checks report as internet endpoints only what the topology takes for one:
exactly if none of the addresses that they look at is global and at the same time a
multicast address or ends in 255 (`reports_public_iff`).
-/
namespace Marlinspike.Risk.External
open Marlinspike.Cidr
open Marlinspike.Topology
open Marlinspike.Topology.Graph
open Marlinspike.Topology.Merge
open Marlinspike.Topology.Profile
open Marlinspike.Risk.Surface
open Marlinspike.Risk.Score

section External
variable (tables : Tables) (surface : RiskSurface)

/-- Two endpoints with bytes in both directions. -/
def Flow (src dst : String) : Prop :=
  ∃ pair flows, (pair, flows) ∈ (flowPairs surface.conversations).items ∧ 0 < flows.outbound ∧ 0 < flows.inbound ∧
    ((src, dst) = pair ∨ (dst, src) = pair)

/-- The address is in an external-communications finding, or a conversation or flow to it
    counts as one to the outside. -/
inductive Reported : String → Prop where
  | external {ip : String} (listed : ip ∈ externalIps tables surface) : Reported ip
  | outbound {conv : Conversation} (checked : surface.skipC2 = false) (member : conv ∈ surface.conversations)
      (counts : dstPublic tables conv = true) : Reported conv.dstIp
  | flow {src dst : String} (checked : surface.skipC2 = false) (flow : Flow surface src dst)
      (counts : flowPublic tables dst = true) : Reported dst

/-- What is reported is a public address for the topology, and no broadcast or multicast one. -/
def ReportsPublic : Prop :=
  ∀ ip, Reported tables surface ip → isPublicIp tables ip = true ∧ isBroadcastOrMulticast tables ip = false

/-- A global address that is a multicast or a broadcast one all the same. -/
def Ambiguous (ip : String) : Prop :=
  ip ≠ "" ∧ isGlobalIp tables ip = true ∧ isBroadcastOrMulticast tables ip = true

structure NoneAmbiguous : Prop where
  receivers : ∀ conv ∈ surface.conversations,
    surface.skipC2 = false ∨ conv.srcKey ∈ otNodes tables surface → ¬Ambiguous tables conv.dstIp
  senders : ∀ conv ∈ surface.conversations, conv.dstKey ∈ otNodes tables surface →
    ¬(conv.srcKey ∈ otNodes tables surface ∧ dstPublic tables conv = true) → ¬Ambiguous tables conv.srcIp
  flows : surface.skipC2 = false → ∀ src dst, Flow surface src dst → ¬Ambiguous tables dst

end External

section Public
variable {tables : Tables} {surface : RiskSurface} {ip : String}

/-- Of the addresses that are global, the topology leaves out the multicast ones. -/
theorem isPublicIp_of_global (global : isGlobalIp tables ip = true) (host : isBroadcastOrMulticast tables ip = false) :
    isPublicIp tables ip = true := by
  unfold isGlobalIp at global
  unfold isBroadcastOrMulticast at host
  unfold isPublicIp
  cases parsed : tables.net.address ip with
  | none =>
    rw [parsed] at global
    cases global
  | some a =>
    rw [parsed] at global host
    obtain ⟨multicast, -⟩ := Bool.or_eq_false_iff.mp host
    simp only [multicast, Bool.false_eq_true, if_false]
    exact global

theorem dstPublic_iff {conv : Conversation} :
    dstPublic tables conv = true ↔ conv.dstIp ≠ "" ∧ isGlobalIp tables conv.dstIp = true := by simp [dstPublic]

theorem srcPublic_iff {conv : Conversation} :
    srcPublic tables conv = true ↔ conv.srcIp ≠ "" ∧ isGlobalIp tables conv.srcIp = true := by simp [srcPublic]

theorem mem_externalIps : ip ∈ externalIps tables surface ↔
    ∃ conv ∈ surface.conversations,
      conv.srcKey ∈ otNodes tables surface ∧ dstPublic tables conv = true ∧ conv.dstIp = ip ∨
      ¬(conv.srcKey ∈ otNodes tables surface ∧ dstPublic tables conv = true) ∧
        conv.dstKey ∈ otNodes tables surface ∧ srcPublic tables conv = true ∧ conv.srcIp = ip := by
  unfold externalIps
  simp only [List.mem_dedup, List.mem_map, List.mem_filterMap]
  constructor
  · rintro ⟨pair, ⟨conv, member, is⟩, rfl⟩
    refine ⟨conv, member, ?_⟩
    unfold exposure at is
    split_ifs at is with outbound inbound
    · cases is
      exact .inl (by simpa using outbound)
    · cases is
      exact .inr ⟨by simpa using outbound, by simpa using inbound⟩
  · rintro ⟨conv, member, ⟨ot, public_, rfl⟩ | ⟨other, ot, public_, rfl⟩⟩
    · refine ⟨(conv.srcKey, conv.dstIp), ⟨conv, member, ?_⟩, rfl⟩
      rw [exposure, if_pos (by simp [ot, public_])]
    · refine ⟨(conv.dstKey, conv.srcIp), ⟨conv, member, ?_⟩, rfl⟩
      rw [exposure, if_neg (by simpa using other), if_pos (by simp [ot, public_])]

theorem global_of_reported (reported : Reported tables surface ip) : ip ≠ "" ∧ isGlobalIp tables ip = true := by
  cases reported with
  | external listed =>
    obtain ⟨conv, -, ⟨-, public_, rfl⟩ | ⟨-, -, public_, rfl⟩⟩ := mem_externalIps.mp listed
    · exact dstPublic_iff.mp public_
    · exact srcPublic_iff.mp public_
  | outbound _ _ counts => exact dstPublic_iff.mp counts
  | flow _ _ counts => simpa [flowPublic] using counts

theorem not_ambiguous_of_reported (none_ : NoneAmbiguous tables surface) (reported : Reported tables surface ip) :
    ¬Ambiguous tables ip := by
  cases reported with
  | external listed =>
    obtain ⟨conv, member, ⟨ot, -, rfl⟩ | ⟨other, ot, -, rfl⟩⟩ := mem_externalIps.mp listed
    · exact none_.receivers conv member (.inr ot)
    · exact none_.senders conv member ot other
  | outbound checked member _ => exact none_.receivers _ member (.inl checked)
  | flow checked flow _ => exact none_.flows checked _ _ flow

theorem not_ambiguous_of_public (agrees : ReportsPublic tables surface)
    (reported : Ambiguous tables ip → Reported tables surface ip) : ¬Ambiguous tables ip := by
  intro ambiguous
  have host := (agrees ip (reported ambiguous)).2
  rw [ambiguous.2.2] at host
  cases host

end Public

/-- The risk checks report the topology's public addresses only, exactly if none of the
    addresses that they look at is ambiguous. -/
theorem reports_public_iff (tables : Tables) (surface : RiskSurface) :
    ReportsPublic tables surface ↔ NoneAmbiguous tables surface := by
  constructor
  · intro agrees
    refine ⟨?_, ?_, ?_⟩
    · rintro conv member (checked | ot)
      · exact not_ambiguous_of_public agrees fun ambiguous =>
          .outbound checked member (dstPublic_iff.mpr ⟨ambiguous.1, ambiguous.2.1⟩)
      · refine not_ambiguous_of_public agrees fun ambiguous => .external (mem_externalIps.mpr ?_)
        exact ⟨conv, member, .inl ⟨ot, dstPublic_iff.mpr ⟨ambiguous.1, ambiguous.2.1⟩, rfl⟩⟩
    · intro conv member ot other
      refine not_ambiguous_of_public agrees fun ambiguous => .external (mem_externalIps.mpr ?_)
      exact ⟨conv, member, .inr ⟨other, ot, srcPublic_iff.mpr ⟨ambiguous.1, ambiguous.2.1⟩, rfl⟩⟩
    · intro checked src dst flow
      exact not_ambiguous_of_public agrees fun ambiguous =>
        .flow checked flow (by simpa [flowPublic] using ⟨ambiguous.1, ambiguous.2.1⟩)
  · intro none_ ip reported
    obtain ⟨some_, global⟩ := global_of_reported reported
    have host : isBroadcastOrMulticast tables ip = false := by
      rw [← Bool.not_eq_true]
      exact fun broadcast => not_ambiguous_of_reported none_ reported ⟨some_, global, broadcast⟩
    exact ⟨isPublicIp_of_global global host, host⟩

/-! ### A controller that synchronises its clock -/

/-- Tables that know the addresses of the controller, of its client and of the PTP group
    224.0.1.129; only the addresses of 192.168.0.0/16 are not global. -/
def ptpTables : Tables :=
  { Levels.fewTables with
    net :=
      { address := fun ip =>
          if ip = "192.168.1.10" then some ⟨.v4, 0xC0A8010A⟩ else if ip = "192.168.1.20" then some ⟨.v4, 0xC0A80114⟩
          else if ip = "224.0.1.129" then some ⟨.v4, 0xE0000181⟩ else none
        network := fun _ => none
        isGlobal := fun a => a.value / 2 ^ 16 ≠ 0xC0A8 } }

/-- A controller that is polled over Modbus and sends PTP to the multicast group. -/
def ptpConversations : List Conversation :=
  [{ srcIp := "192.168.1.20", dstIp := "192.168.1.10", srcMac := "00:11:22:33:44:66", dstMac := "00:11:22:33:44:55"
     protocol := "Modbus TCP", port := 502, packetCount := 9, bytesTotal := 1200, firstSeen := "", lastSeen := ""
     transport := "tcp" },
   { srcIp := "192.168.1.10", dstIp := "224.0.1.129", srcMac := "00:11:22:33:44:55", dstMac := "01:00:5e:00:01:81"
     protocol := "PTP", port := 319, packetCount := 4, bytesTotal := 400, firstSeen := "", lastSeen := ""
     transport := "udp" }]

/-- The risk surface on what the topology makes of them, without a subnet map. -/
def ptpSurface : Option RiskSurface :=
  (topologyOf ptpTables.toServices false ptpConversations).map fun m =>
    { nodes := nodesByKey ((profiledNodes ptpTables PyDict.empty m.builder).items.map Prod.snd)
      edges := m.builder.edges
      conversations := ptpConversations
      skipC2 := false
      captureDuration := 60 }

/-- The group is reported as a public internet address, and the topology says that it is none. -/
theorem ptp_group_reported : ∃ surface, ptpSurface = some surface ∧ ¬ReportsPublic ptpTables surface := by
  have listed : ptpSurface.map (fun surface => decide ("224.0.1.129" ∈ externalIps ptpTables surface)) = some true := by
    decide +kernel
  obtain ⟨surface, is, listed⟩ := Option.map_eq_some_iff.mp listed
  refine ⟨surface, is, fun agrees => ?_⟩
  have public_ := (agrees "224.0.1.129" (.external (of_decide_eq_true listed))).1
  exact absurd public_ (by decide)

end Marlinspike.Risk.External
