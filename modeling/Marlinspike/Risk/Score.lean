import Marlinspike.Risk.Surface

/-!
The command-and-control checks, the ranking of targets, and the score that all checks make.
-/
namespace Marlinspike.Risk.Score
open Marlinspike.Topology.Graph
open Marlinspike.Topology.Profile
open Marlinspike.Risk.Surface

/-- An indicator with the finding that goes with it, which has its severity, type and text. -/
structure Alert where
  indicator : C2Indicator
  affectedNodes : List String
  remediation : String

def Alert.finding (alert : Alert) : RiskFinding where
  severity := alert.indicator.severity
  category := alert.indicator.type
  description := alert.indicator.description
  affectedNodes := alert.affectedNodes
  remediation := alert.remediation

def benignPeriodicPorts : List Nat := [53, 5353, 123]

section Checks
variable (tables : Tables) (formats : Formats) (surface : RiskSurface)

def isOtPort (port : Nat) : Bool := (tables.otProtocols port).isSome
def isKnownPort (port : Nat) : Bool := (tables.wellKnownPorts port).isSome

/-! ### Beacons -/

def beaconFields (conv : Conversation) : List (String × Json) :=
  [("port", .int conv.port), ("transport", .str conv.transport),
   ("beacon_score", .float (formats.round 3 conv.beaconScore)),
   ("interval", .float (formats.round 1 conv.beaconInterval)),
   ("jitter", .float (formats.round 3 conv.beaconJitter)), ("packets", .int conv.packetCount)]

def checkBeacon (conv : Conversation) : List Alert :=
  if 1 / 2 < conv.beaconScore ∧ ¬benignPeriodicPorts.contains conv.port then
    if dstPublic tables conv then
      [{ indicator :=
          { type := "C2_BEACONING"
            severity := if 7 / 10 < conv.beaconScore then "CRITICAL" else "HIGH"
            src := conv.srcKey
            dst := conv.dstKey
            description := s!"Possible C2 beaconing: {conv.srcKey} -> {conv.dstKey}:{conv.port} " ++
              s!"every ~{formats.fixed 1 conv.beaconInterval}s " ++
              s!"(jitter {formats.percent conv.beaconJitter}, confidence {formats.percent conv.beaconScore})"
            fields := beaconFields formats conv }
         affectedNodes := [conv.srcKey, conv.dstKey]
         remediation :=
           "Investigate periodic outbound traffic — block external IP, check for malware on source host" }]
    else if 7 / 10 < conv.beaconScore ∧ isOtPort tables conv.port = false ∧ isKnownPort tables conv.port = false then
      [{ indicator :=
          { type := "C2_BEACONING"
            severity := "HIGH"
            src := conv.srcKey
            dst := conv.dstKey
            description := s!"Internal beaconing on unknown port: {conv.srcKey} -> {conv.dstKey}:{conv.port} " ++
              s!"every ~{formats.fixed 1 conv.beaconInterval}s (possible lateral movement)"
            fields := beaconFields formats conv }
         affectedNodes := [conv.srcKey, conv.dstKey]
         remediation := "Investigate internal beaconing — check both endpoints for compromise" }]
    else []
  else []

/-! ### DNS -/

/-- The base domain and the subdomain of a query of at least three labels. -/
def splitQuery (query : String) : Option (String × String) :=
  let labels := split '.' (String.ofList (query.toList.reverse.dropWhile (· = '.')).reverse)
  if 3 ≤ labels.length then
    some (".".intercalate (labels.drop (labels.length - 2)), ".".intercalate (labels.take (labels.length - 2)))
  else none

/-- The base domains of the queries, each with its subdomains. -/
def baseDomains (queries : List String) : PyDict String (List String) :=
  (queries.filterMap splitQuery).foldl
    (fun domains query => domains.set query.1 (addNew ((domains.get query.1).getD []) query.2)) PyDict.empty

def sampleQueries (conv : Conversation) : Json := .arr ((conv.dnsQueries.take 5).map Json.str)

def checkDomain (conv : Conversation) (base : String) (uniqueCount : Nat) : List Alert :=
  if (4 < conv.dnsEntropy ∨ 85 / 100 < conv.dnsEntropyRatio) ∧ 50 < uniqueCount then
    [{ indicator :=
        { type := "C2_DNS_EXFIL"
          severity := "CRITICAL"
          src := conv.srcKey
          dst := conv.dstKey
          description := s!"DNS data exfiltration suspected: {conv.srcKey} -> {base} " ++
            s!"({uniqueCount} unique subdomains, entropy {formats.fixed 2 conv.dnsEntropy})"
          fields :=
            [("base_domain", .str base), ("unique_subdomains", .int uniqueCount),
             ("entropy", .float (formats.round 2 conv.dnsEntropy)), ("bytes", .int conv.bytesTotal),
             ("sample_queries", sampleQueries conv)] }
       affectedNodes := [conv.srcKey, conv.dstKey]
       remediation := s!"Block DNS queries to {base} — investigate for DNS tunneling malware" }]
  else if (7 / 2 < conv.dnsEntropy ∨ 80 / 100 < conv.dnsEntropyRatio) ∧
      (500 < conv.packetCount ∨ 102400 < conv.bytesTotal) then
    [{ indicator :=
        { type := "C2_DNS_TUNNEL_SUSPECT"
          severity := "HIGH"
          src := conv.srcKey
          dst := conv.dstKey
          description := s!"DNS tunneling suspected: {conv.srcKey} -> {base} ({conv.packetCount} pkts, " ++
            s!"{conv.bytesTotal} bytes, entropy {formats.fixed 2 conv.dnsEntropy})"
          fields :=
            [("base_domain", .str base), ("unique_subdomains", .int uniqueCount),
             ("entropy", .float (formats.round 2 conv.dnsEntropy)), ("bytes", .int conv.bytesTotal),
             ("packets", .int conv.packetCount), ("sample_queries", sampleQueries conv)] }
       affectedNodes := [conv.srcKey, conv.dstKey]
       remediation := s!"Investigate high-volume DNS traffic to {base} — possible tunneling" }]
  else []

/-- The DNS checks of a conversation, after the alerts so far. -/
def checkDns (before : List Alert) (conv : Conversation) : List Alert :=
  if conv.dnsQueries = [] then []
  else
    let alerts := (baseDomains conv.dnsQueries).items.flatMap fun item => checkDomain formats conv item.1 item.2.length
    alerts ++
      if 4 < conv.dnsEntropy ∧ ¬(before ++ alerts).any fun alert =>
          alert.indicator.type = "C2_DNS_EXFIL" ∧ alert.indicator.src = conv.srcKey then
        [{ indicator :=
            { type := "C2_DNS_HIGH_ENTROPY"
              severity := "MEDIUM"
              src := conv.srcKey
              dst := conv.dstKey
              description := s!"High-entropy DNS queries from {conv.srcKey} " ++
                s!"(entropy {formats.fixed 2 conv.dnsEntropy}, {conv.dnsQueries.length} queries)"
              fields :=
                [("entropy", .float (formats.round 2 conv.dnsEntropy)), ("query_count", .int conv.dnsQueries.length),
                 ("sample_queries", sampleQueries conv)] }
           affectedNodes := [conv.srcKey]
           remediation := "Investigate encoded DNS queries — potential data exfiltration channel" }]
      else []

/-! ### Channels to the outside -/

def isSupervised (level : Int) : Bool := level = 0 ∨ level = 1 ∨ level = 2

def checkChannel (conv : Conversation) : List Alert :=
  let level := levelOf surface conv.srcKey
  if isSupervised level ∧ dstPublic tables conv ∧ isOtPort tables conv.port = false ∧
      isKnownPort tables conv.port = false ∧ 1024 < conv.port then
    [{ indicator :=
        { type := "C2_SUSPECT_CHANNEL"
          severity := "HIGH"
          src := conv.srcKey
          dst := conv.dstKey
          description := s!"OT device {conv.srcKey} (L{level}) communicating with external {conv.dstKey}:{conv.port} " ++
            s!"on unknown port ({conv.packetCount} pkts, {conv.bytesTotal} bytes)"
          fields :=
            [("port", .int conv.port), ("transport", .str conv.transport), ("packets", .int conv.packetCount),
             ("bytes", .int conv.bytesTotal)] }
       affectedNodes := [conv.srcKey, conv.dstKey]
       remediation := "Block unauthorized external connections from OT devices — investigate for compromise" }]
  else []

def checkConversations : List Alert :=
  surface.conversations.foldl
    (fun alerts conv =>
      let beacons := alerts ++ checkBeacon tables formats conv
      beacons ++ checkDns formats beacons conv ++ checkChannel tables surface conv)
    []

structure Flows where
  outbound : Nat
  inbound : Nat

/-- The bytes between each pair of endpoints, by direction. -/
def flowPairs (convs : List Conversation) : PyDict (String × String) Flows :=
  convs.foldl
    (fun pairs conv =>
      if conv.srcKey < conv.dstKey then
        let flows := (pairs.get (conv.srcKey, conv.dstKey)).getD ⟨0, 0⟩
        pairs.set (conv.srcKey, conv.dstKey) { flows with outbound := flows.outbound + conv.bytesTotal }
      else
        let flows := (pairs.get (conv.dstKey, conv.srcKey)).getD ⟨0, 0⟩
        pairs.set (conv.dstKey, conv.srcKey) { flows with inbound := flows.inbound + conv.bytesTotal })
    PyDict.empty

/-- Whether a flow counts as one to the outside. -/
def flowPublic (dst : String) : Bool := dst ≠ "" && isGlobalIp tables dst

def checkFlow (src dst : String) (outBytes inBytes : Nat) : List Alert :=
  let level := levelOf surface src
  if 0 < outBytes ∧ 0 < inBytes ∧ flowPublic tables dst ∧ isSupervised level ∧ 10 * inBytes < outBytes ∧
      10240 < outBytes then
    let ratio : Rat := (outBytes : Rat) / inBytes
    [{ indicator :=
        { type := "C2_DATA_EXFIL"
          severity := "HIGH"
          src := src
          dst := dst
          description := s!"Asymmetric data flow: {src}(L{level}) -> {dst} " ++
            s!"({outBytes} bytes out vs {inBytes} bytes in, {formats.fixed 1 ratio}x ratio)"
          fields :=
            [("outbound_bytes", .int outBytes), ("inbound_bytes", .int inBytes),
             ("ratio", .float (formats.round 1 ratio))] }
       affectedNodes := [src, dst]
       remediation := "Investigate large outbound data transfers from OT devices — possible data exfiltration" }]
  else []

def checkFlows : List Alert :=
  (flowPairs surface.conversations).items.flatMap fun item =>
    checkFlow tables formats surface item.1.1 item.1.2 item.2.outbound item.2.inbound ++
      checkFlow tables formats surface item.1.2 item.1.1 item.2.inbound item.2.outbound

def checkPersistence (conv : Conversation) : List Alert :=
  let estDuration := conv.beaconInterval * conv.packetCount
  if 0 < surface.captureDuration ∧ dstPublic tables conv ∧ isOtPort tables conv.port = false ∧
      isKnownPort tables conv.port = false ∧ 0 < conv.beaconInterval ∧ 2 < conv.packetCount ∧
      80 / 100 * surface.captureDuration < estDuration then
    [{ indicator :=
        { type := "C2_PERSISTENCE"
          severity := "MEDIUM"
          src := conv.srcKey
          dst := conv.dstKey
          description := s!"Persistent connection: {conv.srcKey} -> {conv.dstKey}:{conv.port} " ++
            s!"(~{formats.fixed 0 estDuration}s of {formats.fixed 0 surface.captureDuration}s capture)"
          fields :=
            [("port", .int conv.port), ("est_duration", .float (formats.round 1 estDuration)),
             ("capture_duration", .float (formats.round 1 surface.captureDuration))] }
       affectedNodes := [conv.srcKey, conv.dstKey]
       remediation := "Investigate persistent connections to external hosts on non-standard ports" }]
  else []

def checkC2Indicators : List Alert :=
  if surface.skipC2 then []
  else
    checkConversations tables formats surface ++ checkFlows tables formats surface ++
      surface.conversations.flatMap (checkPersistence tables formats surface)

/-! ### The score -/

def isNetworkAddress (key : String) : Bool :=
  match tables.net.address key with
  | some a => a.isMulticast || a.endsIn255
  | none => false

def rankTargets : List Target :=
  let targets := (surface.nodes.items.filter fun item =>
    isNetworkAddress tables item.1 = false ∧ 0 < item.2.attackPriority).map fun item =>
      (⟨item.1, item.2.role, item.2.vendor, item.2.attackPriority, item.2.recommendedModules⟩ : Target)
  (targets.mergeSort fun a b => b.priority ≤ a.priority).take 20

structure RiskReport where
  findings : List RiskFinding
  attackTargets : List Target
  c2Indicators : List C2Indicator
  purdueViolations : List PurdueViolation

/-- The findings of all checks, in their order. -/
def findings : List RiskFinding :=
  checkExternalComms tables surface ++ checkCrossPurdue surface ++ checkCleartextEngineering surface ++
    checkWriteSources surface ++ checkNoAuth tables formats surface ++ checkOpcSecurity surface ++
    checkProgramAccess surface ++ checkPortAnalysis surface ++ checkConduitAndCommandAnomalies surface ++
    checkBaselineDeviations surface ++ checkPlcIntegrity tables surface ++ checkOtThreatSignatures surface ++
    checkEolStatus tables surface ++ checkAdvancedProtocols tables surface ++ checkPlcStateShifts tables surface ++
    checkRogueAndDualHomed surface ++ checkPurdueLeakAndLateralMovement surface ++
    checkPollingJitterAndBursts tables surface ++ checkPassiveTlsSecurity tables surface ++
    checkProtocolConformance tables surface ++ (checkC2Indicators tables formats surface).map Alert.finding

def score : RiskReport where
  findings := findings tables formats surface
  attackTargets := rankTargets tables surface
  c2Indicators := (checkC2Indicators tables formats surface).map (·.indicator)
  purdueViolations := crossPurdueViolations surface ++ conduitViolations surface

end Checks

end Marlinspike.Risk.Score
