import Mathlib.Data.List.Dedup
import Marlinspike.Dissect.Agreement
import Marlinspike.Dissect.Lines

/-!
Every packet of a pass is skipped or counted in one conversation, on both readers. The cap
on the number of conversations is kept by the reader of tshark's output; the built-in
reader keeps it exactly if the packets have no more keys (`passes_account_iff`).
-/
namespace Marlinspike.Dissect.Conservation
open Marlinspike.Struct
open Marlinspike.Dissect.Reader
open Marlinspike.Dissect.Files
open Marlinspike.Dissect.Agreement
open Marlinspike.Dissect.Lines

/-- The account of a pass: each packet is skipped or counted, so are the bytes of those not
    skipped, and there are no more conversations than the cap and the overflow entry. -/
structure Accounts (packets bytes pktCount skipped : Nat) (convs : List (Nat × Nat)) : Prop where
  read : pktCount = packets
  counts : pktCount = skipped + (convs.map Prod.fst).sum
  total : (convs.map Prod.snd).sum = bytes
  bounded : convs.length ≤ convMapCap + 1

/-- The sum of a count over all conversations. -/
def sumOf {Key Value : Type} (count : Value → Nat) (convs : PyDict Key Value) : Nat :=
  (convs.items.map fun item => count item.2).sum

theorem length_set {Key Value : Type} [DecidableEq Key] (d : PyDict Key Value) (key : Key) (value : Value) :
    (d.set key value).items.length = if d.get key = none then d.items.length + 1 else d.items.length := by
  have keys := congrArg List.length (PyDict.keys_set d key value)
  split_ifs at keys ⊢
  · simpa using keys
  · simpa using keys

/-- A conversation that grows by an amount makes the sum grow by it. -/
theorem sumOf_set {Key Value : Type} [DecidableEq Key] {count : Value → Nat} {convs : PyDict Key Value} {key : Key}
    (start : Value) {value : Value} {amount : Nat} (zero : count start = 0)
    (grows : count value = count ((convs.get key).getD start) + amount) :
    sumOf count (convs.set key value) = sumOf count convs + amount := by
  have balance := PyDict.sum_set count convs key value
  unfold sumOf
  cases found : convs.get key with
  | none =>
    rw [found] at balance grows
    simp only [Option.elim_none, Option.getD_none] at balance grows
    omega
  | some before =>
    rw [found] at balance grows
    simp only [Option.elim_some, Option.getD_some] at balance grows
    omega

/-! ### The reader of tshark's output -/

section Lines
variable {Details : Type} (tables : LineTables) (parsing : Parsing Details) (collapseThreshold : Nat)

/-- The bytes of a line's packet, unless it is skipped. -/
def lineBytes (line : String) : Nat :=
  if line = "" then 0 else ((readPacket tables line).join.bind (frameLen tables)).getD 0

/-- The cap, and one more entry if the overflow is in use. -/
def WithinCap (convMap : PyDict ConvKey (LineConv Details)) : Prop :=
  convMap.items.length ≤ convMapCap + 1 ∧ (convMap.get overflowKey = none → convMap.items.length ≤ convMapCap)

theorem withinCap_set {convMap : PyDict ConvKey (LineConv Details)} (within : WithinCap convMap) (key : ConvKey)
    (conv : LineConv Details) : WithinCap (convMap.set (fold convMap key) conv) := by
  obtain ⟨bound, spare⟩ := within
  unfold WithinCap
  rw [length_set, PyDict.get_set, fold]
  by_cases full : convMap.get key = none ∧ convMapCap ≤ convMap.items.length
  · rw [if_pos full, if_pos rfl]
    refine ⟨?_, nofun⟩
    split_ifs with unused
    · have := spare unused
      omega
    · exact bound
  · rw [if_neg full]
    by_cases present : convMap.get key = none
    · have room : convMap.items.length < convMapCap := by
        by_contra none_
        exact full ⟨present, by omega⟩
      rw [if_pos present]
      exact ⟨by omega, fun _ => by omega⟩
    · rw [if_neg present]
      refine ⟨bound, fun unused => ?_⟩
      split_ifs at unused
      exact spare unused

/-- What is so after some lines. -/
structure Accounted (lines : List String) (s : LineState Details) : Prop where
  read : s.pktCount = (lines.filter (· ≠ "")).length
  counts : s.pktCount = s.skipped + sumOf LineConv.packetCount s.convMap
  total : sumOf LineConv.bytes s.convMap = (lines.map (lineBytes tables)).sum
  within : WithinCap s.convMap

theorem collapse_kept (s : LineState Details) (p : LinePacket) :
    (collapse collapseThreshold s p).1.pktCount = s.pktCount ∧ (collapse collapseThreshold s p).1.skipped = s.skipped ∧
      (collapse collapseThreshold s p).1.convMap = s.convMap := by
  unfold collapse
  dsimp only
  split_ifs <;> exact ⟨rfl, rfl, rfl⟩

/-- A packet is counted once, with its bytes. -/
theorem countPacket_adds {s next : LineState Details} {p : LinePacket} (within : WithinCap s.convMap)
    (steps : countPacket tables parsing collapseThreshold s p = some next) :
    ∃ length, frameLen tables p = some length ∧ next.pktCount = s.pktCount ∧ next.skipped = s.skipped ∧
      sumOf LineConv.packetCount next.convMap = sumOf LineConv.packetCount s.convMap + 1 ∧
      sumOf LineConv.bytes next.convMap = sumOf LineConv.bytes s.convMap + length ∧ WithinCap next.convMap := by
  obtain ⟨pktCount, skipped, convMap⟩ := collapse_kept collapseThreshold s p
  unfold countPacket at steps
  dsimp only [bind, Option.bind] at steps
  cases framed : frameLen tables p with
  | none => simp [framed] at steps
  | some length =>
    simp only [framed] at steps
    split at steps
    · cases steps
    · rename_i details _
      cases steps
      rw [convMap]
      refine ⟨length, rfl, pktCount, skipped, ?_, ?_, withinCap_set within _ _⟩
      · exact sumOf_set (LineConv.start parsing) rfl rfl
      · exact sumOf_set (LineConv.start parsing) rfl rfl

/-- Another line. -/
theorem accounted_line {lines : List String} {s next : LineState Details} (accounted : Accounted tables lines s)
    {line : String} (steps : tsharkLine tables parsing collapseThreshold s line = some next) :
    Accounted tables (lines ++ [line]) next := by
  obtain ⟨read, counts, total, within⟩ := accounted
  unfold tsharkLine at steps
  by_cases empty : line = ""
  · rw [if_pos empty] at steps
    cases steps
    refine ⟨?_, counts, ?_, within⟩
    · simp [empty, read]
    · simp [empty, total, lineBytes]
  · rw [if_neg empty] at steps
    have counted : ((lines ++ [line]).filter (· ≠ "")).length = s.pktCount + 1 := by simp [empty, read]
    cases packet : readPacket tables line with
    | none => simp [packet] at steps
    | some result =>
      cases result with
      | none =>
        simp only [packet, bind, Option.bind] at steps
        cases steps
        refine ⟨counted.symm, ?_, ?_, within⟩
        · dsimp only
          omega
        · simp [lineBytes, packet, total]
      | some p =>
        simp only [packet, bind, Option.bind] at steps
        obtain ⟨length, framed, pktCount, skipped, more, longer, within⟩ :=
          countPacket_adds tables parsing collapseThreshold (s := { s with pktCount := s.pktCount + 1 }) within steps
        refine ⟨?_, ?_, ?_, within⟩
        · rw [pktCount, counted]
        · rw [pktCount, skipped, more]
          dsimp only
          omega
        · rw [longer, total]
          simp [lineBytes, empty, packet, framed]

theorem accounted_run (lines before : List String) {s last : LineState Details} (accounted : Accounted tables before s)
    (runs : runTsharkPass tables parsing collapseThreshold lines s = some last) :
    Accounted tables (before ++ lines) last := by
  induction lines generalizing before s with
  | nil =>
    cases runs
    rwa [List.append_nil]
  | cons line rest ih =>
    rw [runTsharkPass, List.foldlM_cons] at runs
    cases steps : tsharkLine tables parsing collapseThreshold s line with
    | none =>
      rw [steps] at runs
      cases runs
    | some next =>
      rw [steps] at runs
      have all := ih (before ++ [line]) (accounted_line tables parsing collapseThreshold accounted steps) runs
      rwa [List.append_assoc, List.singleton_append] at all

theorem accounted_start : Accounted tables [] (LineState.start : LineState Details) where
  read := rfl
  counts := rfl
  total := rfl
  within := ⟨Nat.zero_le _, fun _ => Nat.zero_le _⟩

end Lines

/-! ### The built-in reader -/

section Packets
variable (ports : Ports)

/-- A packet's conversation, unless it is skipped. -/
def packetKey (packet : Packet) : Option ConvKey :=
  if packet.1.length < 14 then none else (converse ports packet.1).map Prod.fst

def packetBytes (packet : Packet) : Nat := if (packetKey ports packet).isSome then packet.1.length else 0

structure Read (packets : List Packet) (s : PassState) : Prop where
  read : s.pktCount = packets.length
  counts : s.pktCount = s.skipped + sumOf Conv.packetCount s.convMap
  total : sumOf Conv.bytes s.convMap = (packets.map (packetBytes ports)).sum
  keys : ∀ key, s.convMap.get key ≠ none ↔ key ∈ packets.filterMap (packetKey ports)

theorem read_packet {packets : List Packet} {s : PassState} (before : Read ports packets s) (packet : Packet) :
    Read ports (packets ++ [packet]) (processPacket ports s packet) := by
  obtain ⟨read, counts, total, keys⟩ := before
  have skips (none_ : packetKey ports packet = none) : Read ports (packets ++ [packet])
      { s with pktCount := s.pktCount + 1, skipped := s.skipped + 1 } := by
    refine ⟨?_, ?_, ?_, ?_⟩
    · simp [read]
    · dsimp only
      omega
    · simp [packetBytes, none_, total]
    · simp [none_, keys]
  unfold processPacket
  by_cases short : packet.1.length < 14
  · rw [if_pos short]
    exact skips (by rw [packetKey, if_pos short])
  · rw [if_neg short]
    cases conversed : converse ports packet.1 with
    | none => exact skips (by rw [packetKey, if_neg short, conversed]; rfl)
    | some found =>
      obtain ⟨key, srcIp, dstIp, sport⟩ := found
      have own : packetKey ports packet = some key := by rw [packetKey, if_neg short, conversed]; rfl
      refine ⟨?_, ?_, ?_, fun other => ?_⟩
      · simp [read]
      · have more : sumOf Conv.packetCount (s.convMap.set key (((s.convMap.get key).getD .empty).add packet.1 srcIp dstIp
            packet.2 sport)) = sumOf Conv.packetCount s.convMap + 1 := sumOf_set Conv.empty rfl rfl
        dsimp only
        omega
      · have longer : sumOf Conv.bytes (s.convMap.set key (((s.convMap.get key).getD .empty).add packet.1 srcIp dstIp
            packet.2 sport)) = sumOf Conv.bytes s.convMap + packet.1.length := sumOf_set Conv.empty rfl rfl
        dsimp only
        simp [longer, total, packetBytes, own]
      · dsimp only
        rw [PyDict.get_set, List.filterMap_append, List.mem_append, ← keys other]
        by_cases same : key = other
        · simp [same, own]
        · simp [same, own, Ne.symm same]

theorem read_run (packets before : List Packet) {s : PassState} (read : Read ports before s) :
    Read ports (before ++ packets) (packets.foldl (processPacket ports) s) := by
  induction packets generalizing before s with
  | nil => rwa [List.append_nil, List.foldl_nil]
  | cons packet rest ih =>
    have all := ih (before ++ [packet]) (read_packet ports read packet)
    rwa [List.append_assoc, List.singleton_append] at all

def PassState.start : PassState := ⟨0, 0, PyDict.empty⟩

theorem read_file (file : Bytes) : Read ports (packetsOf file) (runPurePythonPass ports file PassState.start) := by
  have start : Read ports [] PassState.start := by
    refine ⟨rfl, rfl, rfl, fun key => ?_⟩
    simp [PassState.start]
  exact read_run ports (packetsOf file) [] start

/-- There are as many conversations as keys of packets. -/
theorem length_convMap {packets : List Packet} {s : PassState} (read : Read ports packets s) :
    s.convMap.items.length = (packets.filterMap (packetKey ports)).dedup.length := by
  have same : (s.convMap.items.map Prod.fst).Perm (packets.filterMap (packetKey ports)).dedup := by
    refine (List.perm_ext_iff_of_nodup s.convMap.distinct (List.nodup_dedup _)).mpr fun key => ?_
    rw [PyDict.mem_keys_iff, List.mem_dedup, read.keys]
  simpa using same.length_eq

end Packets

/-! ### Both readers -/

/-- The conversations' packets and bytes. -/
def lineCounts {Details : Type} (s : LineState Details) : List (Nat × Nat) :=
  s.convMap.items.map fun item => (item.2.packetCount, item.2.bytes)

def packetCounts (s : PassState) : List (Nat × Nat) :=
  s.convMap.items.map fun item => (item.2.packetCount, item.2.bytes)

/-- A pass over tshark's output accounts for every packet and keeps the cap; the built-in
    reader does, exactly if the packets that it does not skip have no more keys than that. -/
theorem passes_account_iff {Details : Type} (tables : LineTables) (parsing : Parsing Details) (ports : Ports) :
    (∀ collapseThreshold lines, ∀ s ∈ runTsharkPass tables parsing collapseThreshold lines LineState.start,
      Accounts (lines.filter (· ≠ "")).length (lines.map (lineBytes tables)).sum s.pktCount s.skipped (lineCounts s)) ∧
    ∀ file, Accounts (packetsOf file).length ((packetsOf file).map (packetBytes ports)).sum
        (runPurePythonPass ports file PassState.start).pktCount (runPurePythonPass ports file PassState.start).skipped
        (packetCounts (runPurePythonPass ports file PassState.start)) ↔
      ((packetsOf file).filterMap (packetKey ports)).dedup.length ≤ convMapCap + 1 := by
  constructor
  · intro collapseThreshold lines s runs
    have accounted := accounted_run tables parsing collapseThreshold lines [] (accounted_start tables) runs
    rw [List.nil_append] at accounted
    refine ⟨accounted.read, ?_, ?_, ?_⟩
    · simpa [lineCounts, sumOf, Function.comp_def] using accounted.counts
    · simpa [lineCounts, sumOf, Function.comp_def] using accounted.total
    · simpa [lineCounts] using accounted.within.1
  · intro file
    have read := read_file ports file
    rw [← length_convMap ports read]
    constructor
    · intro accounts
      simpa [packetCounts] using accounts.bounded
    · intro few
      refine ⟨read.read, ?_, ?_, ?_⟩
      · simpa [packetCounts, sumOf, Function.comp_def] using read.counts
      · simpa [packetCounts, sumOf, Function.comp_def] using read.total
      · simpa [packetCounts] using few

/-! A scan of ports: as many conversations as packets. -/

def scanFront : Bytes :=
  [2, 0, 0, 0, 0, 1, 2, 0, 0, 0, 0, 2, 8, 0, 0x45, 0, 0, 28, 0, 0, 0, 0, 64, 17, 0, 0,
    10, 0, 0, 1, 10, 0, 0, 2, 0x9C, 0x40]

/-- A datagram to a port. -/
def scanPacket (port : Nat) : Bytes := scanFront ++ (pack .big 2 port ++ [0, 8, 0, 0])

theorem length_scanPacket (port : Nat) : (scanPacket port).length = 42 := by
  simp [scanPacket, scanFront]

theorem scanned_port (ports : Ports) {port : Nat} (fits : port < 256 ^ 2) (ts : Rat) :
    (packetKey ports (scanPacket port, ts)).map ConvKey.port = some port := by
  have ethertype : uintAt .big (scanPacket port) 12 2 = 0x0800 := rfl
  have version : uintAt .big (scanPacket port) 14 1 = 0x45 := rfl
  have protoNum : uintAt .big (scanPacket port) 23 1 = 17 := rfl
  have dport : uintAt .big (scanPacket port) 36 2 = port := by
    rw [scanPacket, uintAt_append _ (by decide)]
    exact uintAt_pack fits
  have length := length_scanPacket port
  unfold packetKey converse
  simp [length, ethertype, version, protoNum, dport]

def scanRecord (port : Nat) : Record where
  tsSec := 0
  tsSubsec := 0
  origLen := 42
  data := scanPacket port
  fits := by rw [length_scanPacket]; decide

def portScan (ports : Nat) : Pcap where
  endian := .little
  nanoseconds := false
  versionMajor := 2
  versionMinor := 4
  thiszone := 0
  sigfigs := 0
  snaplen := 65535
  network := 1
  records := (List.range ports).map scanRecord

theorem portScan_ports (ports : Ports) {count : Nat} (fits : count ≤ 256 ^ 2) :
    ((packetsOf (portScan count).encode).filterMap (packetKey ports)).map ConvKey.port = List.range count := by
  have taken : (portScan count).records.filter (Record.Taken ·) = (List.range count).map scanRecord := by
    refine List.filter_eq_self.mpr fun r member => decide_eq_true ?_
    obtain ⟨port, -, rfl⟩ := List.mem_map.mp member
    exact ⟨by simp [scanRecord, length_scanPacket], by simp [scanRecord, length_scanPacket]⟩
  rw [packetsOf_pcap, recordPackets_records, taken, List.map_filterMap, List.map_map, List.filterMap_map]
  have own : ∀ port ∈ List.range count, ((fun packet => (packetKey ports packet).map ConvKey.port) ∘
      (fun r : Record => (r.data, r.ts (portScan count).tsDivisor)) ∘ scanRecord) port = some port := by
    intro port member
    have small := List.mem_range.mp member
    exact scanned_port ports (by omega) _
  exact (List.filterMap_congr own).trans List.filterMap_some

/-- There are as many conversations as ports. -/
theorem portScan_convMap (ports : Ports) {count : Nat} (fits : count ≤ 256 ^ 2) :
    (runPurePythonPass ports (portScan count).encode PassState.start).convMap.items.length = count := by
  have distinct : ((packetsOf (portScan count).encode).filterMap (packetKey ports)).Nodup := by
    refine List.Nodup.of_map ConvKey.port ?_
    rw [portScan_ports ports fits]
    exact List.nodup_range
  have many := congrArg List.length (portScan_ports ports fits)
  rw [List.length_map, List.length_range] at many
  rw [length_convMap ports (read_file ports (portScan count).encode), distinct.dedup, many]

def noPorts : Ports := ⟨fun _ => none, fun _ => none⟩

theorem portScan_unbounded : ¬Accounts (packetsOf (portScan 50002).encode).length
    ((packetsOf (portScan 50002).encode).map (packetBytes noPorts)).sum
    (runPurePythonPass noPorts (portScan 50002).encode PassState.start).pktCount
    (runPurePythonPass noPorts (portScan 50002).encode PassState.start).skipped
    (packetCounts (runPurePythonPass noPorts (portScan 50002).encode PassState.start)) := by
  intro accounts
  have bounded := accounts.bounded
  have length := portScan_convMap noPorts (show 50002 ≤ 256 ^ 2 by norm_num)
  rw [packetCounts, List.length_map, length, convMapCap] at bounded
  omega

end Marlinspike.Dissect.Conservation
