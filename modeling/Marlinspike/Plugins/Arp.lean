import Mathlib.Algebra.Order.Ring.Unbundled.Rat
import Marlinspike.Plugins.Values

/-!
The detection of ARP poisoning in a report: what its ARP conversations, its ARP observations
and the anomalies that the engine has flagged say of the bindings of addresses, and the
findings that are made of it. Of a report nothing else is looked at (`detect_congr`).
-/
namespace Marlinspike.Plugins.Arp
open Marlinspike.Reports (Library)
open Marlinspike.Findings.Identity (sorted)

/-! ### Settings -/

structure Settings where
  manyIpsThreshold : Int
  manyIps : Bool
  scanThreshold : Int
  responseRatioMax : Rat
  scanTargets : Bool
  perMinute : Int
  broadcastRate : Bool
  duplicateIp : Bool
  gatewayMacChange : Bool
  gratuitousReply : Bool
  gatewayIp : Option String
  routerOuiAllowlist : List String
deriving DecidableEq, Repr

/-- `settings` of a pack: what it gives. -/
structure PackSettings where
  manyIpsThreshold : Option Int
  manyIps : Option Bool
  scanThreshold : Option Int
  responseRatioMax : Option Rat
  scanTargets : Option Bool
  perMinute : Option Int
  broadcastRate : Option Bool
  duplicateIp : Option Bool
  gatewayMacChange : Option Bool
  gratuitousReply : Option Bool
  gatewayIp : Option (Option String)
  routerOuiAllowlist : List String
deriving DecidableEq, Repr

def normalizeMac (library : Library) (mac : String) : String := library.lower (library.strip mac)

def defaults : Settings :=
  { manyIpsThreshold := 5, manyIps := true, scanThreshold := 20, responseRatioMax := 1 / 5, scanTargets := true
    perMinute := 100, broadcastRate := true, duplicateIp := true, gatewayMacChange := true, gratuitousReply := true
    gatewayIp := none, routerOuiAllowlist := [] }

/-- The trailing colons are dropped. -/
def normalizeOui (library : Library) (oui : String) : String :=
  String.ofList (((normalizeMac library oui).toList.reverse.dropWhile (· = ':')).reverse)

def mergePack (library : Library) (merged : Settings) (pack : PackSettings) : Settings :=
  { manyIpsThreshold := pack.manyIpsThreshold.getD merged.manyIpsThreshold
    manyIps := pack.manyIps.getD merged.manyIps
    scanThreshold := pack.scanThreshold.getD merged.scanThreshold
    responseRatioMax := pack.responseRatioMax.getD merged.responseRatioMax
    scanTargets := pack.scanTargets.getD merged.scanTargets
    perMinute := pack.perMinute.getD merged.perMinute
    broadcastRate := pack.broadcastRate.getD merged.broadcastRate
    duplicateIp := pack.duplicateIp.getD merged.duplicateIp
    gatewayMacChange := pack.gatewayMacChange.getD merged.gatewayMacChange
    gratuitousReply := pack.gratuitousReply.getD merged.gratuitousReply
    gatewayIp := match pack.gatewayIp with
      | some given => given.filter (· ≠ "")
      | none => merged.gatewayIp
    routerOuiAllowlist := appendUnique merged.routerOuiAllowlist (pack.routerOuiAllowlist.map (normalizeOui library)) }

/-- `_merge_packs`: later packs override earlier ones. -/
def mergePacks (library : Library) (packs : List PackSettings) : Settings := packs.foldl (mergePack library) defaults

/-! ### What is read of a report -/

/-- An ARP conversation; its packet count is none if it is no number. -/
structure Conv where
  srcMac : String
  dstMac : String
  srcIp : String
  dstIp : String
  srcIps : List String
  dstIps : List String
  packetCount : Option Int
  firstSeen : String
  timestamps : Json

structure Observation where
  opcode : Option Int
  srcMac : String
  dstMac : String
  srcIp : String
  dstIp : String
  isGratuitous : Bool
  timestamp : String
deriving DecidableEq, Repr

/-- An entry of `l2_anomalies`. -/
structure Anomaly where
  decoder : String
  reason : String
  timestamp : String
deriving DecidableEq, Repr

def convOf (library : Library) (numbers : Numbers) (conv : Json) : Conv :=
  { srcMac := normalizeMac library ((conv.get "src_mac").text library)
    dstMac := normalizeMac library ((conv.get "dst_mac").text library)
    srcIp := (conv.get "src_ip").stripped library
    dstIp := (conv.get "dst_ip").stripped library
    srcIps := (conv.get "src_ips").listify.map (Json.stripped library)
    dstIps := (conv.get "dst_ips").listify.map (Json.stripped library)
    packetCount := if (conv.get "packet_count").truthy then (conv.get "packet_count").toInt numbers else some 1
    firstSeen := (conv.get "first_seen").text library
    timestamps := conv.get "timestamps" }

/-- `_extract_arp_convs`. -/
def extractConvs (library : Library) (numbers : Numbers) (report : Report) : List Conv :=
  ((((report.get "conversations").getD .null).objects).filter fun conv =>
    library.upper ((conv.get "protocol").stripped library) = "ARP").map (convOf library numbers)

/-- The objects of a field that is a list. -/
def listed (report : Report) (key : String) : List Json :=
  match report.get key with
  | some (.arr items) => items.filter Json.isObj
  | _ => []

def observationOf (library : Library) (obs : Json) : Observation :=
  { opcode := (obs.get "opcode").asInt
    srcMac := normalizeMac library ((obs.get "src_mac").text library)
    dstMac := normalizeMac library ((obs.get "dst_mac").text library)
    srcIp := (obs.get "src_ip").stripped library
    dstIp := (obs.get "dst_ip").stripped library
    isGratuitous := (obs.get "is_gratuitous").truthy
    timestamp := (obs.get "timestamp").stripped library }

/-- `_extract_arp_observations`. -/
def extractObservations (library : Library) (report : Report) : List Observation :=
  (listed report "arp_observations").map (observationOf library)

def anomalyOf (library : Library) (evt : Json) : Anomaly :=
  { decoder := library.lower ((evt.get "decoder").text library)
    reason := if (evt.get "reason").truthy then (evt.get "reason").text library
      else ((evt.get "details").get "reason").text library
    timestamp := (evt.get "timestamp").stripped library }

/-- `_extract_l2_anomalies`. -/
def extractAnomalies (library : Library) (report : Report) : List Anomaly :=
  (listed report "l2_anomalies").map (anomalyOf library)

/-! ### The bindings -/

def sourceAddresses (conv : Conv) : List String :=
  ((conv.srcIp :: conv.srcIps).filter fun ip => ip ≠ "" ∧ ip ≠ "0.0.0.0").dedup

/-- `_build_ip_mac_index`: the pairs of an IP and a MAC, and the conversations of each IP. -/
structure Index where
  bindings : List (String × String)
  announcing : List (String × Conv)

def buildIndex (convs : List Conv) (observations : List Observation) : Index :=
  let speaking := convs.filter (·.srcMac ≠ "")
  let announcing := observations.filter fun o => o.srcMac ≠ "" ∧ o.srcIp ≠ "" ∧ o.srcIp ≠ "0.0.0.0"
  { bindings := (speaking.flatMap fun c => (sourceAddresses c).map fun ip => (ip, c.srcMac)) ++
      announcing.map fun o => (o.srcIp, o.srcMac)
    announcing := speaking.flatMap fun c => (sourceAddresses c).map fun ip => (ip, c) }

def Index.ips (index : Index) : List String := sortedSet (index.bindings.map Prod.fst)
def Index.macs (index : Index) : List String := sortedSet (index.bindings.map Prod.snd)
def Index.macsOf (index : Index) (ip : String) : List String :=
  sortedSet ((index.bindings.filter (·.1 = ip)).map Prod.snd)
def Index.ipsOf (index : Index) (mac : String) : List String :=
  sortedSet ((index.bindings.filter (·.2 = mac)).map Prod.fst)
def Index.convsOf (index : Index) (ip : String) : List Conv := (index.announcing.filter (·.1 = ip)).map Prod.snd

/-- The epochs of a conversation without `first_seen`. -/
def epochs (library : Library) (conv : Conv) : List String :=
  match conv.timestamps with
  | .arr items => (items.filter Json.truthy).map (Json.toText library)
  | other => if other.truthy then [other.stripped library] else []

/-- `_first_seen`: `first_seen` counts before the epochs, which are compared as numbers. -/
def firstSeen (library : Library) (numbers : Numbers) (convs : List Conv) : String :=
  let rendered := ((convs.filter (·.firstSeen ≠ "")).map fun c => library.strip c.firstSeen).filter (· ≠ "")
  let raw := ((convs.filter (·.firstSeen = "")).flatMap (epochs library)).filter (· ≠ "")
  if rendered ≠ [] then (sorted rendered).headD ""
  else match raw.mapM numbers.parse with
    | some (first :: rest) => numbers.write (rest.foldl min first)
    | _ => (sorted raw).headD ""

/-! ### Findings -/

/-- `CATEGORY_ATTACK`. -/
def categoryAttack : List (String × List String) :=
  [("ARP_DUPLICATE_IP_CLAIM", ["T0830", "T1557.002"]), ("ARP_GATEWAY_MAC_CHANGE", ["T0830"]),
    ("ARP_MAC_CLAIMS_MANY_IPS", ["T0830"]), ("ARP_SCAN_BEHAVIOR", ["T0842"]), ("ARP_BROADCAST_STORM", ["T0814"]),
    ("ARP_GRATUITOUS_REPLY", ["T0830", "T1557.002"])]

/-- A finding, with the fields of its own between its category and its techniques. -/
structure Finding where
  category : String
  /-- `ip` or `mac`, by which findings of a category are ordered. -/
  subject : String
  fields : List (String × Json)
  severity : String
  detail : String

def Finding.toJson (finding : Finding) : Json :=
  .obj ([("category", .str finding.category)] ++ finding.fields ++
    [("attack_techniques", Json.ofTexts ((categoryAttack.lookup finding.category).getD [])),
      ("severity", .str finding.severity), ("detail", .str finding.detail)])

section Detectors
variable (library : Library) (numbers : Numbers) (settings : Settings)

/-- An IP with two MACs or more, under the category of the detector. -/
def claimFinding (index : Index) (category severity ip detail : String) : Finding :=
  let convs := index.convsOf ip
  ⟨category, ip,
    [("ip", .str ip), ("claimed_by_macs", Json.ofTexts (index.macsOf ip)), ("conversation_count", .int convs.length),
      ("first_seen", .str (firstSeen library numbers convs))], severity, detail⟩

def detectDuplicateIpClaim (index : Index) : List Finding :=
  if !settings.duplicateIp then []
  else (index.ips.filter fun ip => 2 ≤ (index.macsOf ip).length).map fun ip =>
    claimFinding library numbers index "ARP_DUPLICATE_IP_CLAIM" "HIGH" ip
      ("IP " ++ ip ++ " is claimed by " ++ toString (index.macsOf ip).length ++ " distinct source MACs: " ++
        commaList (index.macsOf ip) ++ ". Possible ARP poisoning or IP conflict.")

def detectGatewayMacChange (index : Index) : List Finding :=
  let gateway := library.strip (settings.gatewayIp.getD "")
  if !settings.gatewayMacChange ∨ gateway = "" ∨ (index.macsOf gateway).length < 2 then []
  else [claimFinding library numbers index "ARP_GATEWAY_MAC_CHANGE" "CRITICAL" gateway
    ("Gateway IP " ++ gateway ++ " is bound to " ++ toString (index.macsOf gateway).length ++ " MACs: " ++
      commaList (index.macsOf gateway) ++ ". Primary binding may have changed — possible gateway spoofing.")]

/-- `_oui_prefix`. -/
def ouiPrefix (mac : String) : String :=
  let parts := mac.toList.splitOn ':'
  if 3 ≤ parts.length then String.ofList ([':'].intercalate (parts.take 3)) else String.ofList (mac.toList.take 8)

def detectMacClaimsManyIps (index : Index) : List Finding :=
  if !settings.manyIps then []
  else
    let routers := settings.routerOuiAllowlist.map (normalizeMac library)
    let many := index.macs.filter fun mac => settings.manyIpsThreshold < (index.ipsOf mac).length ∧
      ¬routers.any fun r => ouiPrefix mac = r ∨ r.toList.isPrefixOf mac.toList
    many.map fun mac =>
      let ips := index.ipsOf mac
      ⟨"ARP_MAC_CLAIMS_MANY_IPS", mac,
        [("mac", .str mac), ("claimed_ips", Json.ofTexts (ips.take 1000)), ("ip_count", .int ips.length)], "HIGH",
        "MAC " ++ mac ++ " claims " ++ toString ips.length ++ " distinct IPs (threshold: " ++
          toString settings.manyIpsThreshold ++ "): " ++ commaList (ips.take 10) ++ (if 10 < ips.length then "..." else "") ++
          ". Possible ARP spoofing or rogue DHCP/ARP proxy."⟩

def isTarget (ip : String) : Bool := ip ≠ "" && ip ≠ "0.0.0.0" && ip ≠ "255.255.255.255"

/-- The pairs of a source and a target, and what is compared with the number of targets. -/
structure Scans where
  targets : List (String × String)
  answers : String → Nat
  signalSource : String
  ratioKey : String
  answersField : String → List (String × Json)
  wording : String → Nat → Rat → String

def scansOfObservations (observations : List Observation) : Scans :=
  let answers := fun mac => (observations.filter fun o => o.opcode = some 2 ∧ o.dstMac = mac ∧ o.dstMac ≠ "").length
  { targets := (observations.filter fun o => o.opcode = some 1 ∧ o.srcMac ≠ "" ∧ isTarget o.dstIp).map fun o => (o.srcMac, o.dstIp)
    answers
    signalSource := "arp_observations"
    ratioKey := "response_ratio"
    answersField := fun mac => [("replies_received", .int (answers mac))]
    wording := fun mac count ratio =>
      "MAC " ++ mac ++ " sent ARP requests to " ++ toString count ++ " distinct destination IPs (threshold: " ++
        toString settings.scanThreshold ++ ") and received " ++ toString (answers mac) ++ " replies (response ratio " ++
        numbers.fixed 3 ratio ++ ", max allowed: " ++ numbers.write settings.responseRatioMax ++
        "). Possible ARP reconnaissance." }

def scansOfConvs (convs : List Conv) : Scans :=
  let speaking := convs.filter (·.srcMac ≠ "")
  { targets := speaking.flatMap fun c => ((c.dstIp :: c.dstIps).filter isTarget).map fun ip => (c.srcMac, ip)
    answers := fun mac => (speaking.filter (·.srcMac = mac)).length
    signalSource := "conversation_proxy"
    ratioKey := "estimated_response_ratio"
    answersField := fun _ => []
    wording := fun mac count ratio =>
      "MAC " ++ mac ++ " sent ARP toward " ++ toString count ++ " distinct destination IPs (threshold: " ++
        toString settings.scanThreshold ++ ") with response ratio " ++ numbers.fixed 3 ratio ++ " (max allowed: " ++
        numbers.write settings.responseRatioMax ++ "). Possible ARP reconnaissance. " ++
        "Signal approximated from conversation counts; rerun with arp_observations for exact opcode-based ratio." }

/-- `_detect_scan_from_observations` and `_detect_scan_from_convs`. -/
def detectScans (scans : Scans) : List Finding :=
  let targetsOf := fun mac => sortedSet ((scans.targets.filter (·.1 = mac)).map Prod.snd)
  let ratioOf := fun mac => (scans.answers mac : Rat) / (targetsOf mac).length
  ((sortedSet (scans.targets.map Prod.fst)).filter fun mac =>
    settings.scanThreshold ≤ (targetsOf mac).length ∧ ratioOf mac ≤ settings.responseRatioMax).map fun mac =>
      ⟨"ARP_SCAN_BEHAVIOR", mac,
        [("mac", .str mac), ("distinct_target_ips", Json.ofTexts (targetsOf mac)),
          ("target_count", .int (targetsOf mac).length)] ++ scans.answersField mac ++
          [(scans.ratioKey, .float (numbers.round 3 (ratioOf mac))), ("signal_source", .str scans.signalSource)], "MEDIUM",
        scans.wording mac (targetsOf mac).length (ratioOf mac)⟩

/-- `_detect_scan_behavior`. -/
def detectScanBehavior (convs : List Conv) (observations : List Observation) : List Finding :=
  if !settings.scanTargets then []
  else if observations ≠ [] then detectScans numbers settings (scansOfObservations numbers settings observations)
  else detectScans numbers settings (scansOfConvs numbers settings convs)

/-- The times that the rate of a MAC's broadcasts is estimated from. -/
def broadcastTimes (conv : Conv) : List String :=
  match conv.timestamps with
  | .arr (first :: rest) => ((first :: rest).filter Json.truthy).map (Json.toText library)
  | other => if other.truthy then [other.toText library] else if conv.firstSeen ≠ "" then [conv.firstSeen] else []

/-- The span of the times in minutes, if they are numbers, else one minute. -/
def durationMinutes (times : List String) : Rat :=
  let ordered := sorted times
  if times.length < 2 then 1
  else match numbers.parse (ordered.headD ""), numbers.parse (ordered.getLastD "") with
    | some t0, some t1 => if 0 < t1 - t0 then (t1 - t0) / 60 else 1
    | _, _ => 1

/-- `_detect_broadcast_storm`; none if it raises, at a packet count that is no number. -/
def detectBroadcastStorm (convs : List Conv) : Option (List Finding) :=
  if !settings.broadcastRate then some []
  else do
    let flooding := convs.filter fun c => c.srcMac ≠ "" ∧ c.dstMac = "ff:ff:ff:ff:ff:ff"
    let counted ← flooding.mapM fun c => c.packetCount.map fun count => (c, count)
    let ofMac := fun mac => counted.filter (·.1.srcMac = mac)
    let packets : String → Int := fun mac => ((ofMac mac).map Prod.snd).sum
    let minutes := fun mac => durationMinutes numbers ((ofMac mac).flatMap fun c => broadcastTimes library c.1)
    let rate := fun mac => (packets mac : Rat) / max (minutes mac) 1
    return ((sortedSet (flooding.map (·.srcMac))).filter fun mac => settings.perMinute < rate mac).map fun mac =>
      ⟨"ARP_BROADCAST_STORM", mac,
        [("mac", .str mac), ("broadcast_packet_count", .int (packets mac)),
          ("estimated_duration_minutes", .float (numbers.round 2 (minutes mac))),
          ("estimated_rate_per_minute", .float (numbers.round 1 (rate mac)))], "HIGH",
        "MAC " ++ mac ++ " sent " ++ toString (packets mac) ++ " ARP broadcast packets at ~" ++ numbers.fixed 1 (rate mac) ++
          "/min (threshold: " ++ toString settings.perMinute ++ "/min). Possible broadcast storm or ARP flood."⟩

/-! ### Gratuitous replies and flagged anomalies -/

/-- The sightings of a MAC with an IP: how many, and the first of their times. -/
structure Sighting where
  mac : String
  ip : String
  timestamp : String
deriving DecidableEq, Repr

def pairsOf (sightings : List Sighting) : List (String × String) :=
  ((sightings.map fun s => (s.mac, s.ip)).dedup).mergeSort fun a b => a.1 < b.1 ∨ a.1 = b.1 ∧ a.2 ≤ b.2

def earliest (times : List String) : String := (sorted (times.filter (· ≠ ""))).headD ""

def gratuitousFinding (signalSource : String) (wording : String → String → Nat → String) (sightings : List Sighting)
    (pair : String × String) : Finding :=
  let seen := sightings.filter fun s => (s.mac, s.ip) = pair
  ⟨"ARP_GRATUITOUS_REPLY", pair.2,
    [("mac", .str pair.1), ("ip", .str pair.2), ("packet_count", .int seen.length),
      ("first_seen", .str (earliest (seen.map (·.timestamp)))), ("signal_source", .str signalSource)], "MEDIUM",
    wording pair.1 pair.2 seen.length⟩

/-- The observations that count as gratuitous: flagged, or a reply about the sender itself. -/
def gratuitousObservations (observations : List Observation) : List Sighting :=
  (observations.filter fun o =>
    o.srcMac ≠ "" ∧ o.srcIp ≠ "" ∧ (o.isGratuitous ∨ o.opcode = some 2 ∧ o.dstIp = o.srcIp)).map fun o =>
      ⟨o.srcMac, o.srcIp, o.timestamp⟩

/-- `_detect_gratuitous_from_observations`, which is given no keys to leave out. -/
def detectGratuitous (observations : List Observation) : List Finding :=
  if !settings.gratuitousReply then []
  else
    let sightings := gratuitousObservations observations
    (pairsOf sightings).map (gratuitousFinding "arp_observations"
      (fun mac ip count => "MAC " ++ mac ++ " sent " ++ toString count ++ " unsolicited (gratuitous) ARP reply(ies) claiming " ++
        ip ++ ". Often used to seed downstream caches during ARP poisoning or to advertise a takeover.") sightings)

/-- Whether the text begins with the literal, and what follows; case does not matter. -/
def afterLiteral (literal : String) (text : List Char) : Option (List Char) :=
  if (text.take literal.length).map Char.toLower = literal.toList then some (text.drop literal.length) else none

/-- `\s*(\S+)\s*` and a literal: every way to match, the longest word first. -/
def wordThen (literal : String) (text : List Char) : List (List Char × List Char) :=
  let text := text.dropWhile isSpace
  let word := text.takeWhile fun c => !isSpace c
  ((List.range word.length).reverse.map (· + 1)).filterMap fun n =>
    (afterLiteral literal ((text.drop n).dropWhile isSpace)).map fun rest => (text.take n, rest)

/-- `\s*(\S+)` at the end of a pattern. -/
def lastWord (text : List Char) : Option (List Char) :=
  let word := (text.dropWhile isSpace).takeWhile fun c => !isSpace c
  if word = [] then none else some word

/-- `ARP spoof: <ip> moved from <old_mac> to <new_mac>`, anywhere in the text. -/
def spoofOf (reason : String) : Option (String × String × String) :=
  (reason.toList.tails.flatMap fun text => ((afterLiteral "arp spoof:" text).toList.flatMap (wordThen "moved from")).flatMap
    fun ip => (wordThen "to" ip.2).filterMap fun oldMac => (lastWord oldMac.2).map fun newMac =>
      (String.ofList ip.1, String.ofList oldMac.1, String.ofList newMac)).head?

/-- `gratuitous ARP from <mac> claiming <ip>`, anywhere in the text. -/
def gratuitousOf (reason : String) : Option (String × String) :=
  (reason.toList.tails.flatMap fun text => ((afterLiteral "gratuitous arp from" text).toList.flatMap
    (wordThen "claiming")).filterMap fun mac => (lastWord mac.2).map fun ip =>
      (String.ofList mac.1, String.ofList ip)).head?

/-- A spoofing event: its IP and the MACs before and after. -/
structure Spoof where
  ip : String
  macs : List String
  timestamp : String
deriving DecidableEq, Repr

def spoofs (anomalies : List Anomaly) : List Spoof :=
  (anomalies.filter (·.decoder = "bilgepump:arp_spoof")).filterMap fun evt => (spoofOf evt.reason).map fun found =>
    ⟨library.strip found.1, [normalizeMac library found.2.1, normalizeMac library found.2.2].filter (· ≠ ""), evt.timestamp⟩

def flaggedGratuitous (anomalies : List Anomaly) : List Sighting :=
  (anomalies.filter (·.decoder = "bilgepump:arp_gratuitous")).filterMap fun evt => (gratuitousOf evt.reason).map fun found =>
    ⟨normalizeMac library found.1, library.strip found.2, evt.timestamp⟩

def spoofFinding (events : List Spoof) (ip : String) : Finding :=
  let seen := events.filter (·.ip = ip)
  let macs := sortedSet (seen.flatMap (·.macs))
  ⟨"ARP_DUPLICATE_IP_CLAIM", ip,
    [("ip", .str ip), ("claimed_by_macs", Json.ofTexts macs), ("conversation_count", .int 0),
      ("first_seen", .str (earliest (seen.map (·.timestamp)))), ("signal_source", .str "l2_anomalies"),
      ("engine_event_count", .int seen.length)], "HIGH",
    "Engine bilgepump consumer flagged ARP spoof on IP " ++ ip ++ " (MACs observed: " ++
      (if macs = [] then "unknown" else commaList macs) ++
      "). Binding changed mid-capture — strong ARP poisoning signal."⟩

/-- `_detect_from_l2_anomalies`: what the other detectors have reported is left out. -/
def detectFromAnomalies (anomalies : List Anomaly) (dupIps : List String) (gratuitousKeys : List (String × String)) :
    List Finding :=
  let events := if settings.duplicateIp then (spoofs library anomalies).filter fun e => e.ip ≠ "" ∧ e.ip ∉ dupIps else []
  let sightings := if settings.gratuitousReply then (flaggedGratuitous library anomalies).filter fun s =>
    s.mac ≠ "" ∧ s.ip ≠ "" ∧ (s.mac, s.ip) ∉ gratuitousKeys else []
  (sortedSet (events.map (·.ip))).map (spoofFinding events) ++
    (pairsOf sightings).map (gratuitousFinding "l2_anomalies"
      (fun mac ip count => "Engine bilgepump consumer flagged " ++ toString count ++ " gratuitous ARP event(s) from MAC " ++ mac ++
        " claiming " ++ ip ++ ".") sightings)

end Detectors

/-! ### The artifact -/

/-- What the plugin looks at of a report. -/
structure View where
  convs : List Conv
  observations : List Observation
  anomalies : List Anomaly

def viewOf (library : Library) (numbers : Numbers) (report : Report) : View :=
  ⟨extractConvs library numbers report, extractObservations library report, extractAnomalies library report⟩

/-- The findings of `_detect`, in the order of their category and subject. -/
def detectAll (library : Library) (numbers : Numbers) (settings : Settings) (view : View) : Option (List Finding) := do
  let index := buildIndex view.convs view.observations
  let dup := detectDuplicateIpClaim library numbers settings index
  let storms ← detectBroadcastStorm library numbers settings view.convs
  let gratuitousKeys := if settings.gratuitousReply then (gratuitousObservations view.observations).map fun s => (s.mac, s.ip) else []
  let findings := dup ++ detectGatewayMacChange library numbers settings index ++
    detectMacClaimsManyIps library settings index ++
    detectScanBehavior numbers settings view.convs view.observations ++ storms ++
    detectGratuitous settings view.observations ++
    detectFromAnomalies library settings view.anomalies (dup.map (·.subject)) gratuitousKeys
  return findings.mergeSort fun a b => a.category < b.category ∨ a.category = b.category ∧ a.subject ≤ b.subject

/-- `summary` and `data.findings`; none if the plugin raises. -/
structure Result where
  arpConversationCount : Nat
  arpObservationCount : Nat
  l2AnomalyCount : Nat
  findings : List Finding
  settings : Settings

/-- `_detect`. -/
def detect (library : Library) (numbers : Numbers) (settings : Settings) (report : Report) : Option Result :=
  let view := viewOf library numbers report
  if view.convs.isEmpty ∧ view.observations.isEmpty ∧ view.anomalies.isEmpty then some ⟨0, 0, 0, [], settings⟩
  else (detectAll library numbers settings view).map fun findings =>
    ⟨view.convs.length, view.observations.length, view.anomalies.length, findings, settings⟩

/-- The fields of a report that count. -/
def fields : List String := ["conversations", "arp_observations", "l2_anomalies"]

theorem detect_congr {library : Library} {numbers : Numbers} {settings : Settings} {report report' : Report}
    (same : ∀ key ∈ fields, report.get key = report'.get key) :
    detect library numbers settings report = detect library numbers settings report' := by
  have conversations := same "conversations" (by decide)
  have observations := same "arp_observations" (by decide)
  have anomalies := same "l2_anomalies" (by decide)
  unfold detect viewOf extractConvs extractObservations extractAnomalies listed
  rw [conversations, observations, anomalies]

end Marlinspike.Plugins.Arp
