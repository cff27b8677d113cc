import Marlinspike.Dissect.Bronze

/-!
The two directions of an exchange. A request and its response go to one conversation, from
initiator to responder, if the port that the protocol is known for is the server's; for an
unknown protocol, only if the client's port is an IANA ephemeral port and the server's is not
(`exchange_iff`).
-/
namespace Marlinspike.Dissect.Orientation
open Marlinspike.Dissect.Bronze
open Marlinspike.Topology.Graph (ephemeralPortMin)

/-- The event of a response, as far as its endpoints and its protocol go. -/
structure Mirrors (request response : Envelope) : Prop where
  srcIp : response.srcIp = request.dstIp
  dstIp : response.dstIp = request.srcIp
  srcMac : response.srcMac = request.dstMac
  dstMac : response.dstMac = request.srcMac
  srcPort : response.srcPort = request.dstPort
  dstPort : response.dstPort = request.srcPort
  protocol : response.protocol = request.protocol
  transport : response.transport = request.transport

/-- The ports that a protocol is known for. -/
def knownPorts (protocolKey : String) : List Nat := (rustProtocolServicePorts.lookup protocolKey).getD []

/-- The first port from which on an operating system takes the ports of clients. -/
def clientPortMin : Nat := 32768

/-- A port that is taken for a service's. -/
def Low (port : Nat) : Prop := port ≠ 0 ∧ port < ephemeralPortMin

instance (port : Nat) : Decidable (Low port) := inferInstanceAs (Decidable (_ ∧ _))

/-- The server's port, and it alone, is known for the protocol, or none is and the client's port
    is one of its operating system's. -/
def Served (ports : List Nat) (request : Envelope) : Prop :=
  (request.dstPort ∈ ports ∧ request.srcPort ∉ ports) ∨ (ports = [] ∧ clientPortMin ≤ request.srcPort)

/-- The ports tell the server from the client, or the two have the same addresses and only the
    choice of the port matters. -/
def Tellable (ports : List Nat) (request : Envelope) : Prop :=
  ports ≠ [] ∨ (¬Low request.srcPort ∧ Low request.dstPort) ∨
    ((request.srcIp = request.dstIp ∧ request.srcMac = request.dstMac) ∧
      (request.srcPort = request.dstPort ∨ (Low request.srcPort ∧ ¬Low request.dstPort) ∨
        (¬Low request.srcPort ∧ request.dstPort < ephemeralPortMin)))

/-- Both events have the same conversation, from the one who asks to the one who answers. -/
def OneConversation (services : Services) (request response : Envelope) (asked answered : Transaction) : Prop :=
  let flow := normalizeBronzeFlow services request asked
  flow.key = (normalizeBronzeFlow services response answered).key ∧
    flow.srcIp = request.srcIp ∧ flow.dstIp = request.dstIp ∧ flow.srcMac = request.srcMac ∧ flow.dstMac = request.dstMac

/-! ### The service port -/

theorem knownPorts_ne_zero {protocolKey : String} {port : Nat} (known : port ∈ knownPorts protocolKey) : port ≠ 0 := by
  have positive : ∀ entry ∈ rustProtocolServicePorts, 0 ∉ entry.2 := by decide
  rintro rfl
  unfold knownPorts at known
  cases found : rustProtocolServicePorts.lookup protocolKey with
  | none =>
    rw [found] at known
    cases known
  | some ports =>
    rw [found] at known
    obtain ⟨before, after, split, -⟩ := List.lookup_eq_some_iff.mp found
    exact positive (protocolKey, ports) (by rw [split]; simp) known

section Ports
variable {protocolKey : String} {srcPort dstPort : Nat}

theorem servicePort_of_dst (known : dstPort ∈ knownPorts protocolKey) :
    protocolServicePort protocolKey srcPort dstPort = dstPort := if_pos known

theorem servicePort_of_src (other : dstPort ∉ knownPorts protocolKey) (known : srcPort ∈ knownPorts protocolKey) :
    protocolServicePort protocolKey srcPort dstPort = srcPort := (if_neg other).trans (if_pos known)

theorem servicePort_of_unknown (unknown : knownPorts protocolKey = []) :
    protocolServicePort protocolKey srcPort dstPort =
      if Low dstPort then dstPort else if Low srcPort then srcPort else if dstPort ≠ 0 then dstPort else srcPort := by
  have none_ (port : Nat) : port ∉ knownPorts protocolKey := by simp [unknown]
  exact (if_neg (none_ dstPort)).trans (if_neg (none_ srcPort))

end Ports

/-! ### The direction -/

section Flow
variable (services : Services) (envelope : Envelope) (tx : Transaction)

def servicePortOf : Nat := protocolServicePort (services.lower envelope.protocol) envelope.srcPort envelope.dstPort

/-- The sender is the service. -/
def FromService : Prop :=
  servicePortOf services envelope ≠ 0 ∧ envelope.srcPort = servicePortOf services envelope ∧
    envelope.dstPort ≠ servicePortOf services envelope

instance : Decidable (FromService services envelope) := inferInstanceAs (Decidable (_ ∧ _))

/-- Whatever its status is, an event is turned around exactly if the service sends it. -/
theorem flow_eq : normalizeBronzeFlow services envelope tx =
    if FromService services envelope then
      ⟨envelope.dstIp, envelope.srcIp, envelope.dstMac, envelope.srcMac, envelope.dstPort, envelope.srcPort,
        servicePortOf services envelope, services.lower envelope.transport, services.lower envelope.protocol⟩
    else
      ⟨envelope.srcIp, envelope.dstIp, envelope.srcMac, envelope.dstMac, envelope.srcPort, envelope.dstPort,
        servicePortOf services envelope, services.lower envelope.transport, services.lower envelope.protocol⟩ := by
  unfold normalizeBronzeFlow
  simp only [ite_self, decide_eq_true_eq]
  rfl

end Flow

section Exchange
variable {services : Services} {request response : Envelope} (mirrors : Mirrors request response)
  (asked answered : Transaction)
include mirrors

/-- One conversation: the same service port, and addresses that the two directions agree on. -/
theorem oneConversation_iff : OneConversation services request response asked answered ↔
    servicePortOf services request = servicePortOf services response ∧
      ((request.srcIp = request.dstIp ∧ request.srcMac = request.dstMac) ∨
        (¬FromService services request ∧ FromService services response)) := by
  unfold OneConversation
  rw [flow_eq, flow_eq]
  obtain ⟨srcIp, dstIp, srcMac, dstMac, -, -, protocol, transport⟩ := mirrors
  by_cases turned : FromService services request <;> by_cases back : FromService services response <;>
    simp [turned, back, Flow.key, srcIp, dstIp, srcMac, dstMac, protocol, transport] <;> grind

/-- A request and its response fall into the same conversation exactly if the ports tell the
    server from the client. -/
theorem exchange_iff (served : Served (knownPorts (services.lower request.protocol)) request) :
    OneConversation services request response asked answered ↔
      Tellable (knownPorts (services.lower request.protocol)) request := by
  have asking : servicePortOf services request =
      protocolServicePort (services.lower request.protocol) request.srcPort request.dstPort := rfl
  have answering : servicePortOf services response =
      protocolServicePort (services.lower request.protocol) request.dstPort request.srcPort := by
    rw [servicePortOf, mirrors.protocol, mirrors.srcPort, mirrors.dstPort]
  rw [oneConversation_iff mirrors]
  unfold FromService Tellable
  rw [mirrors.srcPort, mirrors.dstPort, asking, answering]
  rcases served with ⟨server, client⟩ | ⟨unknown, high⟩
  · have apart : request.srcPort ≠ request.dstPort := by
      intro same
      rw [same] at client
      exact client server
    have some_ : knownPorts (services.lower request.protocol) ≠ [] := List.ne_nil_of_mem server
    rw [servicePort_of_dst server, servicePort_of_src client server]
    refine iff_of_true ⟨rfl, .inr ⟨fun turned => apart turned.2.1, ?_⟩⟩ (.inl some_)
    exact ⟨knownPorts_ne_zero server, rfl, apart⟩
  · rw [servicePort_of_unknown unknown, servicePort_of_unknown unknown]
    generalize (request.srcIp = request.dstIp ∧ request.srcMac = request.dstMac) = alike
    have neither : ¬knownPorts (services.lower request.protocol) ≠ [] := not_not.mpr unknown
    have some_ : request.srcPort ≠ 0 := by
      unfold clientPortMin at high
      omega
    have port_ne (low : Low request.srcPort ↔ ¬Low request.dstPort) : request.srcPort ≠ request.dstPort := by
      intro same
      rw [same] at low
      exact iff_not_self low
    by_cases client : Low request.srcPort <;> by_cases server : Low request.dstPort
    · -- the lower of the two is the service, so each direction takes the other's destination
      simp only [client, server, if_true]
      grind
    · have apart := port_ne (by simp [client, server])
      simp only [client, server, if_true, if_false]
      grind
    · have apart := port_ne (by simp [client, server])
      have service := server.1
      simp only [client, server, if_true, if_false]
      grind
    · simp only [client, server, if_false, some_, ne_eq, not_false_eq_true, if_true]
      have low : request.dstPort < ephemeralPortMin ↔ request.dstPort = 0 := by
        unfold Low at server
        unfold ephemeralPortMin at server ⊢
        omega
      by_cases zero : request.dstPort = 0
      · have apart : 0 ≠ request.srcPort := some_.symm
        simp only [zero, not_true_eq_false, if_false, ephemeralPortMin]
        grind
      · have high : ¬request.dstPort < ephemeralPortMin := fun small => zero (low.mp small)
        simp only [zero, not_false_eq_true, if_true]
        grind

end Exchange

/-- Text that is in lower case as it is. -/
def plainServices : Services where
  lower := id
  title := id
  strip := id
  isIpAddress := fun _ => false
  fromIsoFormat := fun _ => none
  computeBeaconScore := fun _ => (0, 0, 0)
  computeDnsEntropy := fun _ => (0, 0)

/-- A client asks, from the port, a server at the other port. -/
def ask (protocol : String) (srcPort dstPort : Nat) : Envelope where
  protocol := protocol
  srcIp := "10.0.0.5"
  dstIp := "10.0.0.9"
  srcMac := "00:00:00:00:00:05"
  dstMac := "00:00:00:00:00:09"
  srcPort := srcPort
  dstPort := dstPort
  transport := "tcp"
  timestamp := ""
  packetCount := 1
  bytesCount := 64

/-- The answer. -/
def Envelope.answer (request : Envelope) : Envelope :=
  { request with
    srcIp := request.dstIp
    dstIp := request.srcIp
    srcMac := request.dstMac
    dstMac := request.srcMac
    srcPort := request.dstPort
    dstPort := request.srcPort }

theorem mirrors_answer (request : Envelope) : Mirrors request (Envelope.answer request) := by
  constructor <;> rfl

def spoken (status : String) : Transaction := ⟨status, "", PyDict.empty, []⟩

theorem modbus_exchange : Served (knownPorts "modbus") (ask "modbus" 40000 502) ∧
    OneConversation plainServices (ask "modbus" 40000 502) (Envelope.answer (ask "modbus" 40000 502)) (spoken "request")
      (spoken "response") := by
  have served : Served (knownPorts "modbus") (ask "modbus" 40000 502) := .inl (by decide)
  exact ⟨served, (exchange_iff (mirrors_answer _) _ _ served).mpr (.inl (by decide))⟩

/-- A client of an unknown protocol asks from a port of Linux, and the answer is a conversation of
    its own. -/
theorem low_client_not_one : Served (knownPorts "telemetry") (ask "telemetry" 40000 9000) ∧
    ¬OneConversation plainServices (ask "telemetry" 40000 9000) (Envelope.answer (ask "telemetry" 40000 9000))
      (spoken "request") (spoken "response") := by
  refine ⟨.inr (by decide), fun one => ?_⟩
  have ports := ((oneConversation_iff (mirrors_answer _) _ _).mp one).1
  revert ports
  decide

end Marlinspike.Dissect.Orientation
