import Marlinspike.Gateway.Uploads

/-!
Uploads of different sessions. Locks and transfer tables belong to a connection, but the
two files of an upload are named after the project and the capture alone; two sessions of
one project whose captures have the same name share them.
-/
namespace Marlinspike.Gateway.Isolation
open Marlinspike.Transition
open Marlinspike.Gateway.Server
open Marlinspike.Gateway.Upload
open Marlinspike.Gateway.Uploads

variable {pcapMaxSize : Nat} {tables : Tables} {s t : State}

/-- Every scan finds the bytes that its session's agent has sent, and no two sessions
    publish to one path. -/
structure Isolated (s : State) : Prop where
  launched : ∀ l ∈ s.launched, ∃ ship, s.ships[l.attempt]? = some ship ∧ l.sessionId = ship.source.sessionId ∧
    l.bytes = some ship.source.bytes
  published : ∀ p ∈ s.published, ∀ q ∈ s.published, p.path = q.path → p.sessionId = q.sessionId

/-- No other session has published to the path. -/
def Unclaimed (tables : Tables) (s : State) (source : Source) : Prop :=
  ∀ p ∈ s.published, path tables source = some p.path → p.sessionId = source.sessionId

/-- A ship begins with its way clear, and not where another session has published. -/
def Separate (tables : Tables) (s : State) : Label → Prop
  | .ships source => Clear tables s source ∧ Unclaimed tables s source
  | _ => True

structure Partition (tables : Tables) (s : State) : Prop where
  sound : Invariant tables s
  underWay : ∀ k source, UnderWay tables s k source → Unclaimed tables s source
  published : ∀ p ∈ s.published, ∀ q ∈ s.published, p.path = q.path → p.sessionId = q.sessionId

/-- What is published next is the file of an upload that is under way. -/
private theorem publication_owner (sound : Invariant tables s) {c i : Nat} {conn : Conn} {xfer : Transfer}
    (present : s.conns[c]? = some conn) (at_i : conn.finishing[i]? = some ⟨xfer, .publishing⟩) :
    ∃ source, UnderWay tables s xfer.attempt source ∧ xfer.sessionId = source.sessionId ∧
      path tables source = some xfer.path := by
  obtain ⟨ship, shipped, rfl, member⟩ := owner_of_finishing sound present (List.mem_of_getElem? at_i)
  obtain ⟨-, ⟨-, session, goes⟩, -⟩ := (sound.fits _ ship conn shipped present).finishing _ member
  exact ⟨ship.source, ⟨ship, conn, shipped, rfl, present, .inr (.inr (.inr (List.ne_nil_of_mem member)))⟩, session, goes⟩

theorem partition_step {l : Label} (kept : Partition tables s) (met : Separate tables s l)
    (stepped : step pcapMaxSize tables s l = some t) : Partition tables t := by
  have clear (source) (begins : l = .ships source) : Clear tables s source := by
    subst begins
    exact met.1
  have was {k source} (now : UnderWay tables t k source) : Unclaimed tables s source := by
    rcases underWay_step kept.sound clear stepped now with before | rfl
    · exact kept.underWay k source before
    · exact met.2
  have sound := invariant_step kept.sound clear stepped
  have still (published : t.published = s.published) : Partition tables t := by
    refine ⟨sound, fun k source now => ?_, by rw [published]; exact kept.published⟩
    rw [Unclaimed, published]
    exact was now
  cases changes_of_step stepped with
  | keeps keeps => exact still keeps.published
  | begins source label ships published => exact still published
  | goesOn k ship ship' shipped source phase ships published => exact still published
  | publishes c i conn xfer inode present at_i there ships published =>
    obtain ⟨owner, owns, session, goes⟩ := publication_owner kept.sound present at_i
    have unclaimed := kept.underWay _ owner owns
    refine ⟨sound, fun k source now p member at_p => ?_, fun p first q second same => ?_⟩
    · rw [published] at member
      rcases List.mem_append.mp member with old | new
      · exact was now p old at_p
      · -- The upload that publishes is the only one under way to its path.
        obtain rfl := List.mem_singleton.mp new
        have begun : UnderWay tables s k source := by
          rcases underWay_step kept.sound clear stepped now with before | rfl
          · exact before
          · exact absurd (.inr ⟨_, goes, at_p⟩) ((clear source rfl).apart _ owner owns)
        obtain rfl := kept.sound.apart _ k owner source owns begun (.inr ⟨_, goes, at_p⟩)
        obtain ⟨ship, -, shipped, rfl, -⟩ := owns
        obtain ⟨ship', -, shipped', rfl, -⟩ := begun
        obtain rfl := Option.some.inj (shipped.symm.trans shipped')
        exact session
    · rw [published] at first second
      rcases List.mem_append.mp first with old | new
      · rcases List.mem_append.mp second with old' | new'
        · exact kept.published p old q old' same
        · obtain rfl := List.mem_singleton.mp new'
          exact (unclaimed p old (goes.trans (congrArg some same.symm))).trans session.symm
      · obtain rfl := List.mem_singleton.mp new
        rcases List.mem_append.mp second with old' | new'
        · exact session.trans (unclaimed q old' (goes.trans (congrArg some same))).symm
        · obtain rfl := List.mem_singleton.mp new'
          rfl

theorem isolated_of_partition (kept : Partition tables s) : Isolated s := by
  refine ⟨fun l member => ?_, kept.published⟩
  have mine : l ∈ s.launched.filter (·.attempt = l.attempt) := List.mem_filter.mpr ⟨member, by simp⟩
  rcases Nat.lt_or_ge l.attempt s.ships.length with known | beyond
  · have shipped : s.ships[l.attempt]? = some s.ships[l.attempt] := List.getElem?_eq_getElem known
    have present := List.getElem?_eq_getElem (kept.sound.home _ _ shipped)
    obtain ⟨-, session, -, bytes⟩ := (kept.sound.fits _ _ _ shipped present).launched l mine
    exact ⟨_, shipped, session, bytes⟩
  · rw [(kept.sound.recorded _ beyond).launched] at mine
    cases mine

/-- Two agents of one project, each with a session. -/
def fleetTables : Tables where
  sessions u := if u = "s1" then some ⟨some 1, some 1⟩ else some ⟨some 1, some 2⟩
  projects _ := some 7
  agents a := if a = "a1" then some 1 else some 2

def first : Source := ⟨0, "s1", "/captures/cap_00001_20250101000000.pcapng".toList, [1]⟩

def second : Source := ⟨1, "s2", "/captures/cap_00001_20250101000000.pcapng".toList, [2]⟩

end Marlinspike.Gateway.Isolation
