import Marlinspike.Gateway.Uploads

/-!
The hand-over of a capture. `_ship_pcap` deletes its file when all frames are written; the
gateway has it for certain only once it has renamed it. In between, frames may be lost
with the connection and the gateway may refuse them, and nobody tells the agent.
-/
namespace Marlinspike.Gateway.Custody
open Marlinspike.Transition
open Marlinspike.Gateway.Server
open Marlinspike.Gateway.Upload
open Marlinspike.Gateway.Uploads

variable {pcapMaxSize : Nat} {tables : Tables} {s t : State} {k : Nat}

/-- The file of every ship that has deleted it is published with the same bytes. -/
def HandedOver (tables : Tables) (s : State) : Prop :=
  ∀ (k : Nat) (ship : Ship), s.ships[k]? = some ship → ship.phase = .removed → ∃ p ∈ s.published,
    p.sessionId = ship.source.sessionId ∧
      destination tables ship.source.sessionId ship.source.filename = some p.path ∧ p.bytes = ship.source.bytes

/-- The gateway has no frame of the upload before it, and no rename. -/
def Landed (s : State) (k : Nat) : Prop :=
  ∀ conn ∈ s.conns, (∀ frame ∈ queue conn, frame.attempt ≠ k) ∧
    ∀ e ∈ conn.finishing, e.transfer.attempt = k → e.phase ≠ .publishing

/-- A ship begins with its way clear, and deletes its file when it has landed and nothing
    of it has been lost or refused. -/
def Confirmed (tables : Tables) (s : State) : Label → Prop
  | .ships source => Clear tables s source
  | .removes k => Landed s k ∧ k ∉ s.troubles
  | _ => True

/-- An upload that has landed whole is published. -/
theorem published_of_landed (inv : Invariant tables s) {ship : Ship} (shipped : s.ships[k]? = some ship)
    (all : ship.sent = (ship.source.frames k).length) (landed : Landed s k) (untroubled : k ∉ s.troubles) :
    ∃ p ∈ s.published, p.sessionId = ship.source.sessionId ∧
      destination tables ship.source.sessionId ship.source.filename = some p.path ∧ p.bytes = ship.source.bytes := by
  obtain ⟨conn, present⟩ := connected inv shipped
  obtain ⟨frames_, renames⟩ := landed conn (List.mem_of_getElem? present)
  have fits := inv.fits k ship conn shipped present
  have queue_ : (view tables s k ship conn).queue = [] :=
    List.filter_eq_nil_iff.mpr fun frame member own => frames_ frame member (of_decide_eq_true own)
  have unsent_ : (view tables s k ship conn).unsent = [] := by
    simp only [view, unsent, all, List.drop_length, ite_self]
  have published : (view tables s k ship conn).published ≠ [] := by
    cases fits.stage (by simpa [view] using untroubled) with
    | uploading before => exact absurd before.last (by simp [queue_, unsent_])
    | publishing xfer finishing =>
      have member : ⟨xfer, .publishing⟩ ∈ (view tables s k ship conn).finishing := by simp [finishing]
      obtain ⟨there, own⟩ := List.mem_filter.mp member
      exact absurd rfl (renames _ there (of_decide_eq_true own))
    | published e finishing phase calls published =>
      exact fun none_ => by simp [none_] at published
    | finished idle calls published => exact fun none_ => by simp [none_] at published
  obtain ⟨p, member⟩ := List.exists_mem_of_ne_nil _ published
  obtain ⟨-, session, goes, whole⟩ := fits.published p member
  exact ⟨p, (List.mem_filter.mp member).1, session, goes, whole⟩

/-- Deleting is the only step that takes a file from the agent; what is published stays. -/
theorem handedOver_step {l : Label} (inv : Invariant tables s) (handed : HandedOver tables s)
    (met : Confirmed tables s l) (stepped : step pcapMaxSize tables s l = some t) : HandedOver tables t := by
  intro j ship' present removed
  cases changes_of_step stepped with
  | keeps keeps =>
    rw [keeps.published]
    exact handed j ship' (keeps.ships ▸ present) removed
  | begins source label ships published =>
    rw [published]
    rw [ships] at present
    rcases Nat.lt_or_ge j s.ships.length with old | new
    · exact handed j ship' (by rwa [List.getElem?_append_left old] at present) removed
    · rw [List.getElem?_append_right new, List.getElem?_singleton] at present
      split_ifs at present
      obtain rfl := Option.some.inj present
      cases removed
  | goesOn k ship now shipped source phase ships published =>
    rw [published]
    rw [ships, List.getElem?_set] at present
    split_ifs at present with same inside
    · subst same
      obtain rfl := Option.some.inj present
      obtain ⟨rfl, sending, all⟩ := phase removed
      rw [source]
      exact published_of_landed inv shipped all met.1 met.2
    · exact handed j ship' present removed
  | publishes c i conn xfer inode _ _ _ ships published =>
    obtain ⟨p, member, facts⟩ := handed j ship' (ships ▸ present) removed
    exact ⟨p, by simp [published, member], facts⟩

/-- One project with one agent, which owns every session. -/
def siteTables : Tables := ⟨fun _ => some ⟨some 1, some 1⟩, fun _ => some 7, fun _ => some 1⟩

def capture : Source := ⟨0, "s1", "/captures/cap_00001_20250101000000.pcapng".toList, [1, 2, 3]⟩

end Marlinspike.Gateway.Custody
