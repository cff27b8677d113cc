import Marlinspike.Words

/-!
Access lists of switches: lists of entries of which the first one that takes a packet decides, and
without one the packet is dropped. A list is read from the lines of a configuration that are
indented under its header; what cannot be read as an entry, as a remark, is passed over.
-/
namespace Marlinspike.AccessLists

abbrev Text := List Char

structure Packet where
  protocol : Text
  source : Text
  destination : Text
  /-- The port that it goes to. -/
  port : Nat

inductive Endpoint where
  | any
  | host (address : Text)
deriving DecidableEq

def Endpoint.takes : Endpoint → Text → Bool
  | .any, _ => true
  | .host address, other => address = other

structure Entry where
  permits : Bool
  protocol : Text
  source : Endpoint
  destination : Endpoint
  port : Option Nat
deriving DecidableEq

def Entry.takes (entry : Entry) (packet : Packet) : Bool :=
  (entry.protocol = "ip".toList || entry.protocol = packet.protocol) && entry.source.takes packet.source &&
    entry.destination.takes packet.destination && entry.port.all (· = packet.port)

/-! ### The first entry decides -/

def passes (entries : List Entry) (packet : Packet) : Bool :=
  match entries.find? (·.takes packet) with
  | some entry => entry.permits
  | none => false

section
variable {entries rest : List Entry} {entry : Entry} {packet : Packet}

theorem passes_cons (entry : Entry) (rest : List Entry) (packet : Packet) :
    passes (entry :: rest) packet = if entry.takes packet then entry.permits else passes rest packet := by
  unfold passes
  rw [List.find?_cons]
  cases entry.takes packet <;> rfl

/-- Nothing counts behind an entry that takes everything. -/
theorem passes_all (all : entry.takes packet = true) (rest : List Entry) :
    passes (entry :: rest) packet = entry.permits := by
  rw [passes_cons, if_pos all]

/-- Entries that deny keep out what one of them takes. -/
theorem passes_denies (denies : ∀ entry ∈ entries, entry.permits = false) (rest : List Entry) (packet : Packet) :
    passes (entries ++ rest) packet = true ↔
      (∀ entry ∈ entries, entry.takes packet = false) ∧ passes rest packet = true := by
  induction entries with
  | nil => simp
  | cons entry more ih =>
    obtain ⟨deny, denies⟩ := List.forall_mem_cons.mp denies
    rw [List.cons_append, passes_cons, List.forall_mem_cons]
    cases taken : entry.takes packet with
    | true => simp [deny]
    | false => simp [ih denies]

/-- Entries that permit let in what one of them takes. -/
theorem passes_permits (permits : ∀ entry ∈ entries, entry.permits = true) (rest : List Entry) (packet : Packet) :
    passes (entries ++ rest) packet = true ↔
      (∃ entry ∈ entries, entry.takes packet = true) ∨ passes rest packet = true := by
  induction entries with
  | nil => simp
  | cons entry more ih =>
    obtain ⟨permit, permits⟩ := List.forall_mem_cons.mp permits
    rw [List.cons_append, passes_cons]
    cases taken : entry.takes packet with
    | true => simp [permit, taken]
    | false => simp [ih permits, taken]

end

/-! ### Reading a configuration -/

def isBlank (c : Char) : Bool := c = ' '
def isBreak (c : Char) : Bool := c = '\n'

def readEndpoint : List Text → Option (Endpoint × List Text)
  | word :: rest =>
    if word = "any".toList then some (.any, rest)
    else if word = "host".toList then
      match rest with
      | address :: rest => some (.host address, rest)
      | [] => none
    else none
  | [] => none

def readPort : List Text → Option (Option Nat)
  | [] => some none
  | [word] => if word = "log".toList then some none else none
  | [word, digits] =>
    if word = "eq".toList then some (some (digits.foldl (fun n c => 10 * n + (c.toNat - 48)) 0)) else none
  | _ => none

def readEntry (line : Text) : Option Entry :=
  match Words.words isBlank line with
  | action :: protocol :: rest => do
    let (source, rest) ← readEndpoint rest
    let (destination, rest) ← readEndpoint rest
    let port ← readPort rest
    if action = "permit".toList then some ⟨true, protocol, source, destination, port⟩
    else if action = "deny".toList then some ⟨false, protocol, source, destination, port⟩
    else none
  | _ => none

/-- The entries under the headers of a list, whether the line before is under one or not. -/
def readLines (header : Text) : Bool → List Text → List Entry
  | _, [] => []
  | under, line :: rest =>
    if line = header then readLines header true rest
    else if under ∧ line.head? = some ' ' then (readEntry line).toList ++ readLines header true rest
    else readLines header false rest

def readList (header text : Text) : List Entry := readLines header false (text.splitOnP isBreak)

section
variable {header line : Text} {lines rest : List Text}

theorem readLines_before (plain : ∀ line ∈ lines, line ≠ header) (rest : List Text) :
    readLines header false (lines ++ rest) = readLines header false rest := by
  induction lines with
  | nil => rfl
  | cons line more ih =>
    obtain ⟨other, plain⟩ := List.forall_mem_cons.mp plain
    rw [List.cons_append, readLines, if_neg other, if_neg (by simp), ih plain]

theorem readLines_header (under : Bool) (rest : List Text) :
    readLines header under (header :: rest) = readLines header true rest := by
  rw [readLines, if_pos rfl]

theorem readLines_under (indented : ∀ line ∈ lines, line.head? = some ' ') (outer : header.head? ≠ some ' ')
    (rest : List Text) : readLines header true (lines ++ rest) =
      lines.filterMap readEntry ++ readLines header true rest := by
  induction lines with
  | nil => rfl
  | cons line more ih =>
    obtain ⟨blank, indented⟩ := List.forall_mem_cons.mp indented
    have other : line ≠ header := fun same => outer (same ▸ blank)
    rw [List.cons_append, readLines, if_neg other, if_pos ⟨rfl, blank⟩, ih indented, List.filterMap_cons]
    cases readEntry line <;> rfl

/-- Lines without a break in them are read as they were written, whatever comes behind. -/
theorem splitOnP_lines (plain : ∀ line ∈ lines, ∀ c ∈ line, isBreak c = false) (behind : Text) :
    ((lines.flatMap fun line => line ++ ['\n']) ++ behind).splitOnP isBreak = lines ++ behind.splitOnP isBreak := by
  induction lines with
  | nil => rfl
  | cons line more ih =>
    obtain ⟨first, plain⟩ := List.forall_mem_cons.mp plain
    rw [List.flatMap_cons, List.append_assoc, List.append_assoc, List.singleton_append,
      List.splitOnP_append_cons _ _ (by decide), List.splitOnP_eq_singleton first, ih plain]
    rfl

end
end Marlinspike.AccessLists
