import Mathlib.Logic.Relation
import Marlinspike.Gateway.Upload

/-!
All uploads at once. What the gateway and the agents have of one upload is its `view`;
each step of the whole system is a move of that upload, or leaves its view alone
(`Follows`), as long as no two uploads that are under way have the same destination or
the same name on one connection. Then every upload stays fit (`Invariant`).
-/
namespace Marlinspike.Gateway.Uploads
open Marlinspike.Transition
open Marlinspike.Gateway.Server
open Marlinspike.Gateway.Upload
open Relation (ReflTransGen)

/-! ### Views -/

def lockFrames : Lock → List Frame
  | .free => []
  | .granted frame => [frame]
  | .resolving attempt chunk | .resolved attempt chunk _ => [⟨attempt, .pcapChunk chunk⟩]

/-- The name for which the holder of the lock creates a transfer. -/
def opening : Lock → Option (List Char)
  | .resolving _ chunk | .resolved _ chunk _ => some chunk.filename
  | .free | .granted _ => none

/-- The frames on a connection, in the order in which they are taken up. -/
def queue (conn : Conn) : List Frame := lockFrames conn.lock ++ conn.waiters ++ conn.spawned ++ conn.wire

def frames (k : Nat) (conn : Conn) : List Frame := (queue conn).filter (·.attempt = k)

def transfer (k : Nat) (filename : List Char) (conn : Conn) : Option Transfer :=
  (conn.transfers.get filename).filter (·.attempt = k)

def finishing (k : Nat) (conn : Conn) : List Finishing := conn.finishing.filter (·.transfer.attempt = k)

def unsent (k : Nat) (ship : Ship) : List Frame :=
  if ship.phase = .sending then (ship.source.frames k).drop ship.sent else []

section
variable (tables : Tables)

def path (source : Source) : Option UploadPath := destination tables source.sessionId source.filename

def view (s : State) (k : Nat) (ship : Ship) (conn : Conn) : Progress where
  queue := frames k conn
  unsent := unsent k ship
  transfer := transfer k ship.source.filename conn
  files := ((path tables ship.source).map s.files).getD Files.init
  finishing := finishing k conn
  published := s.published.filter (·.attempt = k)
  launched := s.launched.filter (·.attempt = k)
  calls := s.finishCalls.count k
  troubled := s.troubles.contains k
  unscanned := s.unscanned.contains k

/-- Two uploads that get in each other's way: one connection and name, or one destination. -/
def Overlap (a b : Source) : Prop :=
  (a.conn = b.conn ∧ a.filename = b.filename) ∨ ∃ p, path tables a = some p ∧ path tables b = some p

/-- The upload is under way. -/
def UnderWay (s : State) (k : Nat) (source : Source) : Prop :=
  ∃ ship conn, s.ships[k]? = some ship ∧ ship.source = source ∧ s.conns[source.conn]? = some conn ∧
    (view tables s k ship conn).Alive

/-- A connection has nothing of an upload. -/
structure Absent (k : Nat) (conn : Conn) : Prop where
  frames : frames k conn = []
  transfer : ∀ filename, transfer k filename conn = none
  finishing : finishing k conn = []

structure SoundConn (conn : Conn) : Prop where
  resolved : ∀ attempt chunk p, conn.lock = .resolved attempt chunk (some p) →
    destination tables chunk.sessionId chunk.filename = some p
  free : conn.lock = .free → conn.waiters = []
  unopened : ∀ filename, opening conn.lock = some filename → conn.transfers.get filename = none

/-- The records of an upload. -/
structure NoRecord (s : State) (k : Nat) : Prop where
  published : s.published.filter (·.attempt = k) = []
  launched : s.launched.filter (·.attempt = k) = []
  calls : s.finishCalls.count k = 0
  troubled : s.troubles.contains k = false
  unscanned : s.unscanned.contains k = false

structure Invariant (s : State) : Prop where
  home : ∀ (k : Nat) (ship : Ship), s.ships[k]? = some ship → ship.source.conn < s.conns.length
  foreign : ∀ (c : Nat) conn (k : Nat), s.conns[c]? = some conn → (∀ ship : Ship, s.ships[k]? = some ship → ship.source.conn ≠ c) →
    Absent k conn
  named : ∀ (c : Nat) conn (k : Nat) (ship : Ship) filename, s.conns[c]? = some conn → s.ships[k]? = some ship →
    filename ≠ ship.source.filename → transfer k filename conn = none
  sound : ∀ (c : Nat) conn, s.conns[c]? = some conn → SoundConn tables conn
  recorded : ∀ k, s.ships.length ≤ k → NoRecord s k
  apart : ∀ j k a b, UnderWay tables s j a → UnderWay tables s k b → Overlap tables a b → j = k
  fits : ∀ (k : Nat) (ship : Ship) conn, s.ships[k]? = some ship → s.conns[ship.source.conn]? = some conn →
    Fits k ship.source (path tables ship.source) (view tables s k ship conn)

/-- A step keeps the invariant, and nothing that is over is taken up again. -/
structure Advances (s t : State) : Prop where
  invariant : Invariant tables t
  underWay : ∀ k source, UnderWay tables t k source → UnderWay tables s k source

/-! ### What a step does to a view -/

/-- The upload has moved, or somebody else has changed the files of one that is over. -/
def Follows (k : Nat) (source : Source) (v w : Progress) : Prop :=
  ReflTransGen (Moves k source (path tables source)) v w ∨ (¬ v.Alive ∧ w = { v with files := w.files })

end

variable {tables : Tables}

theorem follows_refl {k : Nat} {source : Source} (v : Progress) : Follows tables k source v v := .inl .refl

theorem fits_follows {k : Nat} {source : Source} {v w : Progress} (fits : Fits k source (path tables source) v)
    (follows : Follows tables k source v w) : Fits k source (path tables source) w := by
  rcases follows with moves | ⟨idle, same⟩
  · induction moves with
    | refl => exact fits
    | tail _ move ih => exact fits_moves ih move
  · have still : ¬ w.Alive := by rw [same]; exact idle
    have nothing : v.queue = [] ∧ v.unsent = [] ∧ v.transfer = none ∧ v.finishing = [] := by
      simpa [Progress.Alive, not_or] using idle
    obtain ⟨queue, unsent, transfer, finishing⟩ := nothing
    rw [same]
    refine ⟨fits.order, by simp [transfer], fun alive => absurd alive idle, by simp [finishing], fits.published,
      fits.launched, fun untroubled => ?_⟩
    cases fits.stage untroubled with
    | uploading before => exact absurd before.last (by simp [queue, unsent])
    | publishing xfer some_ => simp [finishing] at some_
    | published e some_ => simp [finishing] at some_
    | finished _ calls published launched => exact .finished idle calls published launched

theorem alive_follows {k : Nat} {source : Source} {v w : Progress} (follows : Follows tables k source v w)
    (alive : w.Alive) : v.Alive := by
  rcases follows with moves | ⟨-, same⟩
  · induction moves with
    | refl => exact alive
    | tail _ move ih => exact ih (alive_moves move alive)
  · rw [same] at alive
    exact alive

/-- A step under which every upload follows keeps uploads apart and fit. -/
theorem advances_follows {s t : State} (inv : Invariant tables s) (count : t.ships.length = s.ships.length)
    (follows : ∀ (k : Nat) (ship : Ship) conn, s.ships[k]? = some ship → s.conns[ship.source.conn]? = some conn →
      ∃ ship' conn', t.ships[k]? = some ship' ∧ ship'.source = ship.source ∧
        t.conns[ship.source.conn]? = some conn' ∧
        Follows tables k ship.source (view tables s k ship conn) (view tables t k ship' conn'))
    (foreign : ∀ (c : Nat) conn (k : Nat), t.conns[c]? = some conn → (∀ ship : Ship, t.ships[k]? = some ship → ship.source.conn ≠ c) →
      Absent k conn)
    (named : ∀ (c : Nat) conn (k : Nat) (ship : Ship) filename, t.conns[c]? = some conn → t.ships[k]? = some ship →
      filename ≠ ship.source.filename → transfer k filename conn = none)
    (sound : ∀ (c : Nat) conn, t.conns[c]? = some conn → SoundConn tables conn)
    (recorded : ∀ k, t.ships.length ≤ k → NoRecord t k) : Advances tables s t := by
  have back {k ship'} (present : t.ships[k]? = some ship') : ∃ ship conn conn', s.ships[k]? = some ship ∧
      s.conns[ship.source.conn]? = some conn ∧ ship'.source = ship.source ∧ t.conns[ship'.source.conn]? = some conn' ∧
        Follows tables k ship.source (view tables s k ship conn) (view tables t k ship' conn') := by
    obtain ⟨bound, -⟩ := List.getElem?_eq_some_iff.mp present
    have before : s.ships[k]? = some s.ships[k] := List.getElem?_eq_getElem (count ▸ bound)
    have connected := List.getElem?_eq_getElem (inv.home k _ before)
    obtain ⟨other, conn', there, same, after, related⟩ := follows k _ _ before connected
    obtain rfl := Option.some.inj (there.symm.trans present)
    exact ⟨_, _, conn', before, connected, same, same ▸ after, related⟩
  have was (k source) (now : UnderWay tables t k source) : UnderWay tables s k source := by
    obtain ⟨ship', conn', present, rfl, connected, alive⟩ := now
    obtain ⟨ship, conn, other, before, connected', same, after, related⟩ := back present
    obtain rfl := Option.some.inj (after.symm.trans connected)
    exact ⟨ship, conn, before, same.symm, same ▸ connected', alive_follows related alive⟩
  refine ⟨⟨fun k ship' present => ?_, foreign, named, sound, recorded, fun j k a b first second overlap => ?_,
    fun k ship' conn' present connected => ?_⟩, was⟩
  · obtain ⟨ship, conn, conn', -, -, -, after, -⟩ := back present
    exact (List.getElem?_eq_some_iff.mp after).1
  · exact inv.apart j k a b (was j a first) (was k b second) overlap
  · obtain ⟨ship, conn, other, before, connected', same, after, related⟩ := back present
    obtain rfl := Option.some.inj (after.symm.trans connected)
    rw [same]
    exact fits_follows (inv.fits k ship conn before connected') related

/-! ### Steps for one upload on one connection -/

/-- The connection has the same of an upload as before. -/
structure SameFor (k : Nat) (conn conn' : Conn) : Prop where
  frames : frames k conn' = frames k conn
  transfer : ∀ filename, transfer k filename conn' = transfer k filename conn
  finishing : finishing k conn' = finishing k conn

structure SameRecord (k : Nat) (s t : State) : Prop where
  published : t.published.filter (·.attempt = k) = s.published.filter (·.attempt = k)
  launched : t.launched.filter (·.attempt = k) = s.launched.filter (·.attempt = k)
  calls : t.finishCalls.count k = s.finishCalls.count k
  troubled : t.troubles.contains k = s.troubles.contains k
  unscanned : t.unscanned.contains k = s.unscanned.contains k

theorem sameFor_refl (k : Nat) (conn : Conn) : SameFor k conn conn := ⟨rfl, fun _ => rfl, rfl⟩

theorem absent_same {k : Nat} {conn conn' : Conn} (same : SameFor k conn conn') (absent : Absent k conn) :
    Absent k conn' :=
  ⟨same.frames.trans absent.frames, fun filename => (same.transfer filename).trans (absent.transfer filename),
    same.finishing.trans absent.finishing⟩

theorem noRecord_same {k : Nat} {s t : State} (same : SameRecord k s t) (none_ : NoRecord s k) : NoRecord t k :=
  ⟨same.published.trans none_.published, same.launched.trans none_.launched, same.calls.trans none_.calls,
    same.troubled.trans none_.troubled, same.unscanned.trans none_.unscanned⟩

theorem view_same {s t : State} {k : Nat} {ship : Ship} {conn conn' : Conn} (same : SameFor k conn conn')
    (record : SameRecord k s t) :
    view tables t k ship conn' =
      { view tables s k ship conn with files := (view tables t k ship conn').files } := by
  simp only [view, same.frames, same.transfer, same.finishing, record.published, record.launched, record.calls,
    record.troubled, record.unscanned]

theorem view_eq {s t : State} {k : Nat} {ship : Ship} {conn conn' : Conn} (same : SameFor k conn conn')
    (record : SameRecord k s t) (files : ∀ p, path tables ship.source = some p → t.files p = s.files p) :
    view tables t k ship conn' = view tables s k ship conn := by
  rw [view_same same record]
  have : (view tables t k ship conn').files = (view tables s k ship conn).files := by
    simp only [view]
    cases goes : path tables ship.source with
    | none => rfl
    | some p => simp [files p goes]
  rw [this]

/-- A step of the whole system that is a step of one upload. -/
structure Acts (tables : Tables) (s t : State) (k c : Nat) (ship ship' : Ship) (conn conn' : Conn) : Prop where
  shipped : s.ships[k]? = some ship
  home : ship.source.conn = c
  present : s.conns[c]? = some conn
  ships : t.ships = s.ships.set k ship'
  source : ship'.source = ship.source
  conns : t.conns = s.conns.set c conn'
  others : ∀ j, j ≠ k → SameFor j conn conn' ∧ SameRecord j s t
  named : ∀ filename, filename ≠ ship.source.filename → transfer k filename conn' = none
  files : t.files = s.files ∨ (view tables s k ship conn).Alive ∧
    ∀ p, path tables ship.source ≠ some p → t.files p = s.files p
  sound : SoundConn tables conn'
  moves : ReflTransGen (Moves k ship.source (path tables ship.source)) (view tables s k ship conn)
    (view tables t k ship' conn')

theorem advances_acts {s t : State} {k c : Nat} {ship ship' : Ship} {conn conn' : Conn} (inv : Invariant tables s)
    (acts : Acts tables s t k c ship ship' conn conn') : Advances tables s t := by
  obtain ⟨bound, -⟩ := List.getElem?_eq_some_iff.mp acts.present
  obtain ⟨bound', -⟩ := List.getElem?_eq_some_iff.mp acts.shipped
  have connAt (d) : t.conns[d]? = if c = d then some conn' else s.conns[d]? := by
    rw [acts.conns, List.getElem?_set]
    simp [bound]
  have shipAt (j) : t.ships[j]? = if k = j then some ship' else s.ships[j]? := by
    rw [acts.ships, List.getElem?_set]
    simp [bound']
  refine advances_follows inv (by simp [acts.ships]) (fun j other otherConn present connected => ?_)
    (fun d now j present strange => ?_) (fun d now j other filename present shipped apart => ?_)
    (fun d now present => ?_) (fun j beyond => ?_)
  · by_cases same : k = j
    · subst same
      obtain rfl := Option.some.inj (acts.shipped.symm.trans present)
      obtain rfl := Option.some.inj (acts.present.symm.trans (acts.home ▸ connected))
      exact ⟨ship', conn', by rw [shipAt, if_pos rfl], acts.source, by rw [connAt, if_pos acts.home.symm], .inl acts.moves⟩
    · obtain ⟨others, record⟩ := acts.others j (Ne.symm same)
      have conns : ∃ now, t.conns[other.source.conn]? = some now ∧ SameFor j otherConn now := by
        rw [connAt]
        split_ifs with here
        · obtain rfl := Option.some.inj (acts.present.symm.trans (here ▸ connected))
          exact ⟨conn', rfl, others⟩
        · exact ⟨otherConn, connected, sameFor_refl j otherConn⟩
      obtain ⟨now, there, sameFor⟩ := conns
      refine ⟨other, now, by rw [shipAt, if_neg same]; exact present, rfl, there, ?_⟩
      by_cases alive : (view tables s j other otherConn).Alive
      · -- The files of an upload that is under way are not those of the one that acts.
        refine .inl ?_
        rw [view_eq sameFor record fun p goes => ?_]
        rcases acts.files with all | ⟨busy, elsewhere⟩
        · rw [all]
        · refine elsewhere p fun own => same ?_
          exact inv.apart k j ship.source other.source ⟨ship, conn, acts.shipped, rfl, acts.home ▸ acts.present, busy⟩
            ⟨other, otherConn, present, rfl, connected, alive⟩ (.inr ⟨p, own, goes⟩)
      · exact .inr ⟨alive, view_same sameFor record⟩
  · rw [connAt] at present
    split_ifs at present with here
    · subst here
      obtain rfl := Option.some.inj present
      by_cases same : k = j
      · exact absurd (acts.source ▸ acts.home) (strange ship' (by rw [shipAt, if_pos same]))
      · refine absent_same (acts.others j (Ne.symm same)).1 (inv.foreign c conn j acts.present fun other shipped => ?_)
        exact strange other (by rw [shipAt, if_neg same]; exact shipped)
    · refine inv.foreign d now j present fun other shipped => ?_
      by_cases same : k = j
      · subst same
        obtain rfl := Option.some.inj (acts.shipped.symm.trans shipped)
        exact fun home => here (acts.home.symm.trans home)
      · exact strange other (by rw [shipAt, if_neg same]; exact shipped)
  · rw [connAt] at present
    rw [shipAt] at shipped
    by_cases same : k = j
    · subst same
      rw [if_pos rfl] at shipped
      obtain rfl := Option.some.inj shipped
      rw [acts.source] at apart
      split_ifs at present with here
      · obtain rfl := Option.some.inj present
        exact acts.named filename apart
      · exact inv.named d now k ship filename present acts.shipped apart
    · rw [if_neg same] at shipped
      split_ifs at present with here
      · obtain rfl := Option.some.inj present
        rw [(acts.others j (Ne.symm same)).1.transfer]
        exact inv.named c conn j other filename acts.present shipped apart
      · exact inv.named d now j other filename present shipped apart
  · rw [connAt] at present
    split_ifs at present with here
    · obtain rfl := Option.some.inj present
      exact acts.sound
    · exact inv.sound d now present
  · rw [acts.ships, List.length_set] at beyond
    exact noRecord_same (acts.others j (by omega)).2 (inv.recorded j beyond)

/-! ### `_handle_event` -/

/-- A frame of the upload has been taken up, in a state that differs from the last one
    at most in the upload's files. -/
structure Handling (tables : Tables) (s s₁ : State) (k c : Nat) (ship : Ship) (conn conn₁ : Conn) (event : Event)
    (before after : List Frame) : Prop where
  shipped : s.ships[k]? = some ship
  home : ship.source.conn = c
  present : s.conns[c]? = some conn
  files_only : s₁ = { s with files := s₁.files }
  files : ∀ p, path tables ship.source ≠ some p → s₁.files p = s.files p
  others : ∀ j, j ≠ k → SameFor j conn conn₁
  named : ∀ filename, filename ≠ ship.source.filename → transfer k filename conn₁ = none
  sound : SoundConn tables conn₁
  taken : frames k conn₁ = before ++ after
  busy : (view tables s k ship conn).Alive
  moves : ReflTransGen (Moves k ship.source (path tables ship.source)) (view tables s k ship conn)
    { view tables s₁ k ship conn₁ with queue := before ++ ⟨k, event⟩ :: after }

section
variable {s s₁ : State} {k c : Nat} {ship : Ship} {conn conn₁ : Conn} {event : Event} {before after : List Frame}

theorem handling_fits (inv : Invariant tables s)
    (handling : Handling tables s s₁ k c ship conn conn₁ event before after) :
    Fits k ship.source (path tables ship.source)
      { view tables s₁ k ship conn₁ with queue := before ++ ⟨k, event⟩ :: after } :=
  fits_follows (inv.fits k ship conn handling.shipped (handling.home ▸ handling.present)) (.inl handling.moves)

/-- The transfer under a name of the upload is the upload's own. -/
theorem handling_own (inv : Invariant tables s)
    (handling : Handling tables s s₁ k c ship conn conn₁ event before after) {xfer : Transfer}
    (current : conn₁.transfers.get ship.source.filename = some xfer) :
    xfer.attempt = k ∧ transfer k ship.source.filename conn₁ = some xfer := by
  have own : xfer.attempt = k := by
    by_contra other
    have there : transfer xfer.attempt ship.source.filename conn₁ = some xfer := by simp [transfer, current]
    rw [(handling.others xfer.attempt other).transfer] at there
    by_cases known : ∃ owner, s.ships[xfer.attempt]? = some owner ∧ owner.source.conn = c
    · obtain ⟨owner, shipped, home⟩ := known
      by_cases name : ship.source.filename = owner.source.filename
      · refine other (inv.apart xfer.attempt k owner.source ship.source ⟨owner, conn, shipped, rfl, home ▸ handling.present, ?_⟩
          ⟨ship, conn, handling.shipped, rfl, handling.home ▸ handling.present, handling.busy⟩
          (.inl ⟨home.trans handling.home.symm, name.symm⟩))
        refine .inr (.inr (.inl ?_))
        simp [view, ← name, there]
      · rw [inv.named c conn xfer.attempt owner _ handling.present shipped name] at there
        cases there
    · have absent := inv.foreign c conn xfer.attempt handling.present fun owner shipped home =>
        known ⟨owner, shipped, home⟩
      rw [absent.transfer] at there
      cases there
  exact ⟨own, by simp [transfer, current, own]⟩

/-- The handler changes nothing but the upload's own transfer, files and records. -/
private theorem acts_handling (inv : Invariant tables s)
    (handling : Handling tables s s₁ k c ship conn conn₁ event before after) {t : State}
    {transfers : PyDict (List Char) Transfer} {finished : List Finishing} (ships : t.ships = s₁.ships)
    (conns : t.conns = s₁.conns.set c { conn₁ with transfers := transfers, finishing := finished })
    (records : ∀ j, j ≠ k → SameRecord j s₁ t)
    (elsewhere : ∀ filename, ship.source.filename ≠ filename → transfers.get filename = conn₁.transfers.get filename)
    (own : ∀ xfer, transfers.get ship.source.filename = some xfer → xfer.attempt = k)
    (none_ : conn₁.transfers.get ship.source.filename = none → transfers.get ship.source.filename = none)
    (finishing : ∀ j, j ≠ k → finished.filter (·.transfer.attempt = j) = finishing j conn₁)
    (files : ∀ p, path tables ship.source ≠ some p → t.files p = s₁.files p)
    (moves : ReflTransGen (Moves k ship.source (path tables ship.source))
      { view tables s₁ k ship conn₁ with queue := before ++ ⟨k, event⟩ :: after }
      (view tables t k ship { conn₁ with transfers := transfers, finishing := finished })) :
    Acts tables s t k c ship ship conn { conn₁ with transfers := transfers, finishing := finished } := by
  have same := handling.files_only
  have others (j) (other : j ≠ k) : SameFor j conn₁ { conn₁ with transfers := transfers, finishing := finished } := by
    refine ⟨rfl, fun filename => ?_, finishing j other⟩
    by_cases here : ship.source.filename = filename
    · subst here
      have before : transfer j ship.source.filename conn₁ = none := by
        refine Option.filter_eq_none_iff.mpr fun xfer current => ?_
        simp [(handling_own inv handling current).1, Ne.symm other]
      rw [before]
      exact Option.filter_eq_none_iff.mpr fun xfer current => by simp [own xfer current, Ne.symm other]
    · simp [transfer, elsewhere filename here]
  refine ⟨handling.shipped, handling.home, handling.present, ?_, rfl, ?_, fun j other => ⟨?_, ?_⟩, fun filename apart => ?_,
    .inr ⟨handling.busy, fun p away => (files p away).trans (handling.files p away)⟩,
    ⟨handling.sound.resolved, handling.sound.free, fun filename opens => ?_⟩, handling.moves.trans moves⟩
  · obtain ⟨bound, at_k⟩ := List.getElem?_eq_some_iff.mp handling.shipped
    rw [ships, same]
    simp [← at_k]
  · rw [conns, same]
  · have first := handling.others j other
    have second := others j other
    exact ⟨second.frames.trans first.frames, fun filename => (second.transfer filename).trans (first.transfer filename),
      second.finishing.trans first.finishing⟩
  · have second := records j other
    rw [same] at second
    exact ⟨second.published, second.launched, second.calls, second.troubled, second.unscanned⟩
  · have first := handling.named filename apart
    simp only [transfer, elsewhere filename (Ne.symm apart)]
    exact first
  · have unopened := handling.sound.unopened filename opens
    by_cases here : ship.source.filename = filename
    · subst here
      exact none_ unopened
    · exact (elsewhere filename here).trans unopened

private theorem sameRecord_trouble {j : Nat} (other : j ≠ k) {attempts : List Nat} (own : ∀ a ∈ attempts, a = k) {t : State}
    (published : t.published = s.published) (launched : t.launched = s.launched) (calls : t.finishCalls = s.finishCalls)
    (troubles : t.troubles = s.troubles ++ attempts) (unscanned : t.unscanned = s.unscanned) : SameRecord j s t := by
  have strange : j ∉ attempts := fun member => other (own j member)
  refine ⟨by rw [published], by rw [launched], by rw [calls], ?_, by rw [unscanned]⟩
  rw [troubles]
  simp [strange]

private theorem acts_trouble (inv : Invariant tables s)
    (handling : Handling tables s s₁ k c ship conn conn₁ event before after) :
    Acts tables s ((s₁.setConn c conn₁).trouble [k]) k c ship ship conn conn₁ := by
  refine acts_handling inv handling rfl rfl (fun j other => sameRecord_trouble other (by simp) rfl rfl rfl rfl rfl)
    (fun _ _ => rfl) (fun xfer current => (handling_own inv handling current).1) id (fun _ _ => rfl) (fun _ _ => rfl)
    (.single ?_)
  have now : view tables ((s₁.setConn c conn₁).trouble [k]) k ship conn₁ =
      { view tables s₁ k ship conn₁ with queue := before ++ after, troubled := true } := by
    have troubled : (s₁.troubles ++ [k]).contains k = true := by simp
    simp only [view, State.trouble, State.setConn, handling.taken, troubled]
  rw [now]
  exact .refuses before ⟨k, event⟩ after rfl

private theorem acts_abort (inv : Invariant tables s)
    (handling : Handling tables s s₁ k c ship conn conn₁ event before after) :
    ∃ conn', Acts tables s (abortPcapTransfer s₁ c conn₁ ship.source.filename k) k c ship ship conn conn' := by
  unfold abortPcapTransfer
  cases current : conn₁.transfers.get ship.source.filename with
  | none => exact ⟨conn₁, acts_trouble inv handling⟩
  | some xfer =>
    obtain ⟨own, there⟩ := handling_own inv handling current
    obtain ⟨⟨-, -, goes⟩, -⟩ := (handling_fits inv handling).transfer xfer there
    refine ⟨_, acts_handling inv handling rfl rfl
      (fun j other => sameRecord_trouble other (by simp [own]) rfl rfl rfl rfl rfl)
      (fun filename other => by rw [PyDict.get_pop, if_neg other]) (by simp) (by simp) (fun _ _ => rfl)
      (fun p away => if_neg fun same : p = xfer.path => away (same ▸ goes)) ?_⟩
    refine (ReflTransGen.single (.refuses before ⟨k, event⟩ after rfl)).tail ?_
    have now : view tables (((s₁.setConn c { conn₁ with transfers := conn₁.transfers.pop ship.source.filename }).setFiles
          xfer.path (s₁.files xfer.path).discardPartial).trouble [k, xfer.attempt]) k ship
          { conn₁ with transfers := conn₁.transfers.pop ship.source.filename } =
        { view tables s₁ k ship conn₁ with
          queue := before ++ after
          transfer := none
          files := (view tables s₁ k ship conn₁).files.discardPartial
          troubled := true } := by
      have troubled : (s₁.troubles ++ [k, xfer.attempt]).contains k = true := by simp
      have popped : transfer k ship.source.filename { conn₁ with transfers := conn₁.transfers.pop ship.source.filename } =
          none := by simp [transfer]
      have taken : frames k { conn₁ with transfers := conn₁.transfers.pop ship.source.filename } = before ++ after :=
        handling.taken
      simp only [view, State.trouble, State.setConn, State.setFiles, troubled, popped, taken, goes, Option.map_some,
        Option.getD_some, if_true]
      rfl
    rw [now]
    exact .aborts xfer there

private theorem acts_store (inv : Invariant tables s) {chunk : PcapChunk}
    (handling : Handling tables s s₁ k c ship conn conn₁ (.pcapChunk chunk) before after)
    (name : chunk.filename = ship.source.filename) {xfer : Transfer}
    (current : conn₁.transfers.get ship.source.filename = some xfer) (written : Bool) :
    ∃ conn', Acts tables s (storeChunk s₁ c conn₁ k chunk xfer written) k c ship ship conn conn' := by
  obtain ⟨own, there⟩ := handling_own inv handling current
  obtain ⟨⟨-, -, goes⟩, -⟩ := (handling_fits inv handling).transfer xfer there
  unfold storeChunk
  by_cases mismatched : xfer.sessionId ≠ chunk.sessionId
  · rw [if_pos mismatched]
    exact ⟨conn₁, acts_trouble inv handling⟩
  rw [if_neg mismatched]
  cases decoded : Base64.decode chunk.data with
  | none =>
    rw [name]
    exact acts_abort inv handling
  | some bytes =>
    cases written with
    | false => exact ⟨conn₁, acts_trouble inv handling⟩
    | true =>
      rw [name]
      refine ⟨_, acts_handling inv handling rfl rfl (fun j other => ⟨rfl, rfl, rfl, rfl, rfl⟩)
        (fun filename other => by rw [PyDict.get_set, if_neg other]) (by simp [own]) (by simp [current]) (fun _ _ => rfl)
        (fun p away => if_neg fun same : p = xfer.path => away (same ▸ goes)) (.single ?_)⟩
      have stored : transfer k ship.source.filename { conn₁ with
            transfers := conn₁.transfers.set ship.source.filename
              { xfer with received := insert chunk.chunkIndex.toNat xfer.received } } =
          some { xfer with received := insert chunk.chunkIndex.toNat xfer.received } := by
        simp [transfer, own]
      have taken : frames k { conn₁ with
            transfers := conn₁.transfers.set ship.source.filename
              { xfer with received := insert chunk.chunkIndex.toNat xfer.received } } = before ++ after :=
        handling.taken
      have moves : Moves k ship.source (path tables ship.source) _ _ := .stores
        (v := { view tables s₁ k ship conn₁ with queue := before ++ ⟨k, .pcapChunk chunk⟩ :: after })
        before chunk after xfer bytes rfl there decoded
      convert moves using 1
      simp only [view, State.setConn, State.setFiles, stored, taken, goes, Option.map_some, Option.getD_some, if_true]
      rfl

private theorem acts_complete (inv : Invariant tables s) {complete : PcapComplete}
    (handling : Handling tables s s₁ k c ship conn conn₁ (.pcapComplete complete) [] after)
    (name : complete.filename = ship.source.filename) (pcapMaxSize : Nat) :
    ∃ conn', Acts tables s (completeUpload pcapMaxSize s₁ c conn₁ k complete) k c ship ship conn conn' := by
  unfold completeUpload
  rw [name]
  cases current : conn₁.transfers.get ship.source.filename with
  | none => exact ⟨conn₁, acts_trouble inv handling⟩
  | some xfer =>
    obtain ⟨own, there⟩ := handling_own inv handling current
    obtain ⟨⟨-, -, goes⟩, -⟩ := (handling_fits inv handling).transfer xfer there
    have popped (finished : List Finishing) : transfer k ship.source.filename
        { conn₁ with transfers := conn₁.transfers.pop ship.source.filename, finishing := finished } = none := by
      simp [transfer]
    have taken (finished : List Finishing) : frames k
        { conn₁ with transfers := conn₁.transfers.pop ship.source.filename, finishing := finished } = after :=
      handling.taken
    simp only
    split_ifs with all
    · refine ⟨_, acts_handling inv handling rfl rfl (fun j other => ⟨rfl, rfl, ?_, rfl, rfl⟩)
        (fun filename other => by rw [PyDict.get_pop, if_neg other]) (by simp) (by simp) (fun j other => ?_)
        (fun p away => rfl) (.single ?_)⟩
      · simp [List.count_append, own, Ne.symm other]
      · simp [finishing, own, Ne.symm other]
      · have moves : Moves k ship.source (path tables ship.source) _ _ := .completes
          (v := { view tables s₁ k ship conn₁ with queue := [] ++ ⟨k, .pcapComplete complete⟩ :: after })
          complete after xfer rfl there all.2.2
        convert moves using 1
        have ending : finishing k { conn₁ with
              transfers := conn₁.transfers.pop ship.source.filename
              finishing := conn₁.finishing ++ [⟨xfer, .publishing⟩] } =
            finishing k conn₁ ++ [⟨xfer, .publishing⟩] := by
          simp [finishing, own]
        have counted : (s₁.finishCalls ++ [xfer.attempt]).count k = s₁.finishCalls.count k + 1 := by
          simp [List.count_append, own]
        simp only [view, State.setConn, popped, taken, ending, counted]
    · refine ⟨_, acts_handling inv handling rfl rfl
        (fun j other => sameRecord_trouble other (by simp [own]) rfl rfl rfl rfl rfl)
        (fun filename other => by rw [PyDict.get_pop, if_neg other]) (by simp) (by simp) (fun _ _ => rfl)
        (fun p away => if_neg fun same : p = xfer.path => away (same ▸ goes)) ?_⟩
      refine (ReflTransGen.single (.refuses [] ⟨k, .pcapComplete complete⟩ after rfl)).tail ?_
      have moves : Moves k ship.source (path tables ship.source) _ _ := .aborts
        (v := { view tables s₁ k ship conn₁ with queue := [] ++ after, troubled := true }) xfer there
      convert moves using 1
      have troubled : (s₁.troubles ++ [k, xfer.attempt]).contains k = true := by simp
      simp only [view, State.trouble, State.setConn, State.setFiles, troubled, popped, taken, goes, Option.map_some,
        Option.getD_some, if_true]
      rfl

end

/-! ### Steps of a connection -/

section
variable {s t : State} {c : Nat} {conn conn₁ : Conn}

/-- Every frame on a connection is one of an upload on it. -/
theorem owner_of_mem (inv : Invariant tables s) (present : s.conns[c]? = some conn) {frame : Frame}
    (member : frame ∈ queue conn) : ∃ ship, s.ships[frame.attempt]? = some ship ∧ ship.source.conn = c ∧
      frame ∈ ship.source.frames frame.attempt := by
  have mine : frame ∈ frames frame.attempt conn := List.mem_filter.mpr ⟨member, by simp⟩
  by_cases known : ∃ ship : Ship, s.ships[frame.attempt]? = some ship ∧ ship.source.conn = c
  · obtain ⟨ship, shipped, home⟩ := known
    have fits := inv.fits frame.attempt ship conn shipped (home ▸ present)
    exact ⟨ship, shipped, home, fits.order.subset (List.mem_append_left _ mine)⟩
  · have absent := inv.foreign c conn frame.attempt present fun ship shipped home => known ⟨ship, shipped, home⟩
    simp [absent.frames] at mine

theorem handling_taken (inv : Invariant tables s) (present : s.conns[c]? = some conn) {k : Nat} {event : Event}
    {first rest : List Frame} (whole : queue conn = first ++ ⟨k, event⟩ :: rest) (left : queue conn₁ = first ++ rest)
    (transfers : conn₁.transfers = conn.transfers) (finished : conn₁.finishing = conn.finishing)
    (sound : SoundConn tables conn₁) : ∃ ship, ⟨k, event⟩ ∈ ship.source.frames k ∧
      Handling tables s s k c ship conn conn₁ event (first.filter (·.attempt = k)) (rest.filter (·.attempt = k)) := by
  have queued : ⟨k, event⟩ ∈ queue conn := by simp [whole]
  obtain ⟨ship, shipped, home, sent⟩ := owner_of_mem inv present queued
  have taken : frames k conn = first.filter (·.attempt = k) ++ ⟨k, event⟩ :: rest.filter (·.attempt = k) := by
    simp [frames, whole]
  have transferSame (j filename) : transfer j filename conn₁ = transfer j filename conn := by
    simp [transfer, transfers]
  have finishingSame (j) : finishing j conn₁ = finishing j conn := by simp [finishing, finished]
  refine ⟨ship, sent, shipped, home, present, rfl, fun _ _ => rfl, fun j other => ⟨?_, transferSame j, finishingSame j⟩,
    fun filename apart => ?_, sound, by simp [frames, left], .inl (by simp [view, taken]), ?_⟩
  · simp [frames, whole, left, Ne.symm other]
  · rw [transferSame]
    exact inv.named c conn k ship filename present shipped apart
  · have still : view tables s k ship conn =
        { view tables s k ship conn₁ with
          queue := first.filter (·.attempt = k) ++ ⟨k, event⟩ :: rest.filter (·.attempt = k) } := by
      simp only [view, taken, transferSame, finishingSame]
    rw [← still]

/-- A step of one connection, on which every upload follows. -/
private theorem advances_conn (inv : Invariant tables s) (present : s.conns[c]? = some conn)
    (conns : t.conns = s.conns.set c conn₁) (ships : t.ships = s.ships) (files : t.files = s.files)
    (sound : SoundConn tables conn₁)
    (here : ∀ (k : Nat) (ship : Ship), s.ships[k]? = some ship → ship.source.conn = c →
      Follows tables k ship.source (view tables s k ship conn) (view tables t k ship conn₁))
    (transfers : ∀ k filename, transfer k filename conn = none → transfer k filename conn₁ = none)
    (elsewhere : ∀ k, Absent k conn → Absent k conn₁ ∧ SameRecord k s t) : Advances tables s t := by
  obtain ⟨bound, -⟩ := List.getElem?_eq_some_iff.mp present
  have connAt (d) : t.conns[d]? = if c = d then some conn₁ else s.conns[d]? := by
    rw [conns, List.getElem?_set]
    simp [bound]
  refine advances_follows inv (by rw [ships]) (fun k ship other shipped connected => ?_) (fun d now k there strange => ?_)
    (fun d now k ship filename there shipped apart => ?_) (fun d now there => ?_) (fun k beyond => ?_)
  · by_cases home : ship.source.conn = c
    · obtain rfl := Option.some.inj (present.symm.trans (home ▸ connected))
      exact ⟨ship, conn₁, ships ▸ shipped, rfl, by rw [connAt, if_pos home.symm], here k ship shipped home⟩
    · have absent := inv.foreign c conn k present fun owner same => by
        obtain rfl := Option.some.inj (shipped.symm.trans same)
        exact home
      refine ⟨ship, other, ships ▸ shipped, rfl, by rw [connAt, if_neg (Ne.symm home)]; exact connected, ?_⟩
      rw [view_eq (sameFor_refl k other) (elsewhere k absent).2 fun _ _ => by rw [files]]
      exact follows_refl _
  · rw [ships] at strange
    rw [connAt] at there
    split_ifs at there with same
    · subst same
      obtain rfl := Option.some.inj there
      exact (elsewhere k (inv.foreign c conn k present strange)).1
    · exact inv.foreign d now k there strange
  · rw [ships] at shipped
    rw [connAt] at there
    split_ifs at there with same
    · subst same
      obtain rfl := Option.some.inj there
      exact transfers k filename (inv.named c conn k ship filename present shipped apart)
    · exact inv.named d now k ship filename there shipped apart
  · rw [connAt] at there
    split_ifs at there with same
    · obtain rfl := Option.some.inj there
      exact sound
    · exact inv.sound d now there
  · rw [ships] at beyond
    refine noRecord_same (elsewhere k (inv.foreign c conn k present fun owner shipped => ?_)).2 (inv.recorded k beyond)
    rw [List.getElem?_eq_none beyond] at shipped
    cases shipped

/-- A step that moves frames from one place of the queue to the next. -/
private theorem advances_quiet (inv : Invariant tables s) (present : s.conns[c]? = some conn)
    (left : queue conn₁ = queue conn) (transfers : conn₁.transfers = conn.transfers)
    (finished : conn₁.finishing = conn.finishing) (sound : SoundConn tables conn₁) :
    Advances tables s (s.setConn c conn₁) := by
  have same (k) : SameFor k conn conn₁ :=
    ⟨by simp [frames, left], fun filename => by simp [transfer, transfers], by simp [finishing, finished]⟩
  have record (k) : SameRecord k s (s.setConn c conn₁) := ⟨rfl, rfl, rfl, rfl, rfl⟩
  refine advances_conn inv present rfl rfl rfl sound (fun k ship _ _ => ?_)
    (fun k filename none_ => ((same k).transfer filename).trans none_)
    (fun k absent => ⟨absent_same (same k) absent, record k⟩)
  rw [view_eq (same k) (record k) fun _ _ => rfl]
  exact follows_refl _

theorem advances_reads (inv : Invariant tables s) (stepped : reads s c = some t) : Advances tables s t := by
  simp only [reads, Option.bind_eq_bind, Option.bind_eq_some_iff, Option.pure_def, Option.some.injEq] at stepped
  obtain ⟨conn, present, frame, head, rfl⟩ := stepped
  have wire : conn.wire = frame :: conn.wire.tail := (List.cons_head?_tail head).symm
  have sound := inv.sound c conn present
  refine advances_quiet inv present ?_ rfl rfl ⟨sound.resolved, sound.free, sound.unopened⟩
  rw [queue, queue, wire]
  simp

theorem queue_release (conn : Conn) : queue conn.release = conn.waiters ++ conn.spawned ++ conn.wire := by
  unfold Conn.release
  cases waiting : conn.waiters <;> simp [queue, lockFrames]

theorem sound_release (conn : Conn) : SoundConn tables conn.release := by
  unfold Conn.release
  cases waiting : conn.waiters with
  | nil => exact ⟨by simp, fun _ => rfl, by simp [opening]⟩
  | cons frame rest => exact ⟨by simp, by simp, by simp [opening]⟩

theorem opening_release (conn : Conn) : opening conn.release.lock = none := by
  unfold Conn.release; cases conn.waiters <;> rfl

@[simp] theorem release_transfers (conn : Conn) : conn.release.transfers = conn.transfers := by
  unfold Conn.release; cases conn.waiters <;> rfl

@[simp] theorem release_finishing (conn : Conn) : conn.release.finishing = conn.finishing := by
  unfold Conn.release; cases conn.waiters <;> rfl

theorem advances_drops (inv : Invariant tables s) (stepped : drops s c = some t) : Advances tables s t := by
  simp only [drops, Option.bind_eq_bind, Option.bind_eq_some_iff, Option.pure_def, Option.some.injEq,
    Option.guard_eq_some'] at stepped
  obtain ⟨conn, present, -, -, rfl⟩ := stepped
  have sound := inv.sound c conn present
  let lost := conn.wire.map (·.attempt) ++ conn.transfers.items.map (·.2.attempt)
  let dropped : Conn := { conn with isOpen := false, wire := [], transfers := PyDict.empty }
  -- An upload that loses nothing keeps its view.
  have kept (k) (none_ : k ∉ lost) : SameFor k conn dropped ∧ SameRecord k s ((s.setConn c dropped).trouble lost) := by
    have wire : conn.wire.filter (·.attempt = k) = [] := by
      refine List.filter_eq_nil_iff.mpr fun frame member own => none_ ?_
      exact List.mem_append_left _ (List.mem_map.mpr ⟨frame, member, of_decide_eq_true own⟩)
    refine ⟨⟨?_, fun filename => ?_, rfl⟩, rfl, rfl, rfl, ?_, rfl⟩
    · simp [frames, queue, dropped, wire]
    · have nothing : transfer k filename conn = none := by
        refine Option.filter_eq_none_iff.mpr fun xfer current own => none_ (List.mem_append_right _ ?_)
        exact List.mem_map.mpr ⟨(filename, xfer), PyDict.mem_items_of_get current, of_decide_eq_true own⟩
      rw [nothing]
      rfl
    · simp [State.trouble, State.setConn, none_]
  refine advances_conn inv present rfl rfl rfl ⟨sound.resolved, sound.free, fun _ _ => rfl⟩ (fun k ship _ _ => ?_)
    (fun k filename _ => rfl) (fun k absent => ?_)
  · by_cases none_ : k ∈ lost
    · refine .inl (.single ?_)
      have moves : Moves k ship.source (path tables ship.source) _ _ := .drops
        (v := view tables s k ship conn) (frames k dropped) ?_
      · convert moves using 1
        have troubled : (s.troubles ++ lost).contains k = true := by simp [none_]
        simp only [view, State.trouble, State.setConn]
        rw [troubled]
        rfl
      · exact (List.Sublist.append_left (List.nil_sublist _) _).filter _
    · rw [view_eq (kept k none_).1 (kept k none_).2 fun _ _ => rfl]
      exact follows_refl _
  · have none_ : k ∉ lost := by
      intro member
      rcases List.mem_append.mp member with wire | transfers
      · obtain ⟨frame, member, own⟩ := List.mem_map.mp wire
        have : frame ∈ frames k conn := List.mem_filter.mpr ⟨List.mem_append_right _ member, decide_eq_true own⟩
        simp [absent.frames] at this
      · obtain ⟨⟨filename, xfer⟩, member, own⟩ := List.mem_map.mp transfers
        have current := PyDict.get_of_mem_items member
        have := absent.transfer filename
        simp only [transfer, current] at this
        exact Option.filter_eq_none_iff.mp this xfer rfl (decide_eq_true own)
    exact ⟨absent_same (kept k none_).1 absent, (kept k none_).2⟩

/-- Everything of a `pcap_chunk` or a `pcap_complete` but its way to the lock. -/
private theorem advances_store (inv : Invariant tables s) (present : s.conns[c]? = some conn) {k : Nat}
    {chunk : PcapChunk} {first rest : List Frame} (whole : queue conn = first ++ ⟨k, .pcapChunk chunk⟩ :: rest)
    (left : queue conn₁ = first ++ rest) (transfers : conn₁.transfers = conn.transfers)
    (finished : conn₁.finishing = conn.finishing) (sound : SoundConn tables conn₁) {xfer : Transfer}
    (current : conn₁.transfers.get chunk.filename = some xfer) (written : Bool) :
    Advances tables s (storeChunk s c conn₁ k chunk xfer written) := by
  obtain ⟨ship, sent, handling⟩ := handling_taken inv present whole left transfers finished sound
  obtain ⟨i, -, rfl⟩ := chunk_of_mem sent
  obtain ⟨conn', acts⟩ := acts_store inv handling rfl current written
  exact advances_acts inv acts

private theorem advances_complete (inv : Invariant tables s) (present : s.conns[c]? = some conn) {k : Nat}
    {complete : PcapComplete} {rest : List Frame} (whole : queue conn = ⟨k, .pcapComplete complete⟩ :: rest)
    (left : queue conn₁ = rest) (transfers : conn₁.transfers = conn.transfers)
    (finished : conn₁.finishing = conn.finishing) (sound : SoundConn tables conn₁) (pcapMaxSize : Nat) :
    Advances tables s (completeUpload pcapMaxSize s c conn₁ k complete) := by
  obtain ⟨ship, sent, handling⟩ := handling_taken inv present (whole.trans (List.nil_append _).symm)
    (left.trans (List.nil_append _).symm) transfers finished sound
  obtain rfl := complete_of_mem sent
  obtain ⟨conn', acts⟩ := acts_complete inv handling rfl pcapMaxSize
  exact advances_acts inv acts

/-- The first task that has not begun takes its frame out of the queue. -/
theorem queue_starts {frame : Frame} (head : conn.spawned.head? = some frame) :
    queue conn = (lockFrames conn.lock ++ conn.waiters) ++ frame :: (conn.spawned.tail ++ conn.wire) ∧
      queue { conn with spawned := conn.spawned.tail } =
        (lockFrames conn.lock ++ conn.waiters) ++ (conn.spawned.tail ++ conn.wire) := by
  have spawned : conn.spawned = frame :: conn.spawned.tail := (List.cons_head?_tail head).symm
  constructor
  · rw [queue, spawned]
    simp
  · simp [queue]

theorem advances_starts {pcapMaxSize : Nat} {written : Bool} (inv : Invariant tables s)
    (stepped : starts pcapMaxSize s c written = some t) : Advances tables s t := by
  simp only [starts, Option.bind_eq_bind, Option.bind_eq_some_iff, Option.pure_def, Option.some.injEq] at stepped
  obtain ⟨conn, present, ⟨k, event⟩, head, rfl⟩ := stepped
  have sound := inv.sound c conn present
  have begun : SoundConn tables { conn with spawned := conn.spawned.tail } := ⟨sound.resolved, sound.free, sound.unopened⟩
  obtain ⟨whole, left⟩ := queue_starts head
  -- Behind the lock, where the order of the frames stays.
  have waits (busy : conn.lock ≠ .free) : Advances tables s
      (s.setConn c (({ conn with spawned := conn.spawned.tail } : Conn).wait ⟨k, event⟩)) := by
    refine advances_quiet inv present ?_ rfl rfl ⟨sound.resolved, fun free => absurd free busy, sound.unopened⟩
    rw [whole, queue, Conn.wait]
    simp
  unfold handleEvent
  cases event with
  | pcapChunk chunk =>
    simp only
    by_cases within : inRange pcapMaxSize chunk
    · rw [if_pos within]
      cases current : conn.transfers.get chunk.filename with
      | some xfer => exact advances_store inv present whole left rfl rfl begun current written
      | none =>
        simp only
        split_ifs with free
        · refine advances_quiet inv present ?_ rfl rfl ⟨by simp, by simp, by simpa [opening] using current⟩
          rw [whole, queue, free, sound.free free]
          simp [lockFrames]
        · exact waits free
    · rw [if_neg within]
      obtain ⟨ship, sent, handling⟩ := handling_taken inv present whole left rfl rfl begun
      obtain ⟨i, -, rfl⟩ := chunk_of_mem sent
      obtain ⟨conn', acts⟩ := acts_abort inv handling
      exact advances_acts inv acts
  | pcapComplete complete =>
    simp only
    split_ifs with free
    · have nothing : lockFrames conn.lock ++ conn.waiters = [] := by simp [free, sound.free free, lockFrames]
      rw [nothing, List.nil_append] at whole left
      exact advances_complete inv present whole left rfl rfl begun pcapMaxSize
    · exact waits free

theorem advances_acquires {pcapMaxSize : Nat} {written : Bool} (inv : Invariant tables s)
    (stepped : acquires pcapMaxSize s c written = some t) : Advances tables s t := by
  simp only [acquires, Option.bind_eq_bind, Option.bind_eq_some_iff, Option.pure_def] at stepped
  obtain ⟨conn, present, taken⟩ := stepped
  cases holds : conn.lock with
  | free => simp [holds] at taken
  | resolving => simp [holds] at taken
  | resolved => simp [holds] at taken
  | granted frame =>
    obtain ⟨k, event⟩ := frame
    simp only [holds, Option.some.injEq] at taken
    subst taken
    have whole : queue conn = [] ++ ⟨k, event⟩ :: (conn.waiters ++ conn.spawned ++ conn.wire) := by
      simp [queue, holds, lockFrames]
    have left : queue conn.release = [] ++ (conn.waiters ++ conn.spawned ++ conn.wire) := queue_release conn
    unfold acquired
    cases event with
    | pcapChunk chunk =>
      simp only
      cases current : conn.transfers.get chunk.filename with
      | some xfer =>
        exact advances_store inv present whole left (release_transfers conn) (release_finishing conn) (sound_release conn)
          (by simpa using current) written
      | none =>
        refine advances_quiet inv present ?_ rfl rfl ⟨by simp, by simp, by simpa [opening] using current⟩
        rw [whole, queue]
        simp [lockFrames]
    | pcapComplete complete =>
      exact advances_complete inv present whole left (release_transfers conn) (release_finishing conn)
        (sound_release conn) pcapMaxSize

theorem advances_resolves {answered : Bool} (inv : Invariant tables s)
    (stepped : resolves tables s c answered = some t) : Advances tables s t := by
  simp only [resolves, Option.bind_eq_bind, Option.bind_eq_some_iff, Option.pure_def] at stepped
  obtain ⟨conn, present, taken⟩ := stepped
  cases holds : conn.lock with
  | free => simp [holds] at taken
  | granted frame => simp [holds] at taken
  | resolved => simp [holds] at taken
  | resolving attempt chunk =>
    simp only [holds, Option.some.injEq] at taken
    subst taken
    have unopened := (inv.sound c conn present).unopened chunk.filename (by simp [holds, opening])
    refine advances_quiet inv present ?_ rfl rfl
      ⟨fun other chunk' p same => ?_, by simp, by simpa [opening] using unopened⟩
    · simp [queue, holds, lockFrames]
    · simp only [Lock.resolved.injEq] at same
      obtain ⟨-, rfl, resolved⟩ := same
      split_ifs at resolved
      exact destination_of_begin resolved

/-- The transfer that a chunk creates. -/
def created (s : State) (p : UploadPath) (chunk : PcapChunk) (attempt : Nat) : Transfer :=
  ⟨p, (s.files p).openPartial.2, ∅, chunk.sessionId, attempt⟩

theorem handling_opens (inv : Invariant tables s) (present : s.conns[c]? = some conn) {k : Nat} {chunk : PcapChunk}
    {p : UploadPath} (holds : conn.lock = .resolved k chunk (some p)) :
    ∃ ship after, ⟨k, .pcapChunk chunk⟩ ∈ ship.source.frames k ∧
      Handling tables s (s.setFiles p (s.files p).openPartial.1) k c ship conn
        { conn.release with transfers := conn.transfers.set chunk.filename (created s p chunk k) } (.pcapChunk chunk)
        [] after := by
  have sound := inv.sound c conn present
  have whole : queue conn = [] ++ ⟨k, .pcapChunk chunk⟩ :: (conn.waiters ++ conn.spawned ++ conn.wire) := by
    simp [queue, holds, lockFrames]
  obtain ⟨ship, sent, handling⟩ := handling_taken inv present whole (queue_release conn) (release_transfers conn)
    (release_finishing conn) (sound_release conn)
  refine ⟨ship, (conn.waiters ++ conn.spawned ++ conn.wire).filter (·.attempt = k), sent, ?_⟩
  obtain ⟨i, -, same⟩ := chunk_of_mem sent
  have name : chunk.filename = ship.source.filename := by rw [same]; rfl
  have session : chunk.sessionId = ship.source.sessionId := by rw [same]; rfl
  have goes : path tables ship.source = some p := by
    rw [path, ← name, ← session]
    exact sound.resolved k chunk p holds
  have unopened : conn.transfers.get ship.source.filename = none := sound.unopened _ (by simp [holds, opening, name])
  generalize made : ({ conn.release with transfers := conn.transfers.set chunk.filename (created s p chunk k) } : Conn) =
    conn₂
  have elsewhere (filename) (other : filename ≠ ship.source.filename) (j) :
      transfer j filename conn₂ = transfer j filename conn.release := by
    simp [transfer, ← made, name, PyDict.get_set, Ne.symm other]
  refine ⟨handling.shipped, handling.home, handling.present, rfl,
    fun q away => if_neg fun same : q = p => away (same ▸ goes), fun j other => ?_, fun filename apart => ?_, ?_,
    ?_, handling.busy, handling.moves.tail ?_⟩
  · have same := handling.others j other
    subst made
    refine ⟨same.frames, fun filename => ?_, same.finishing⟩
    by_cases here : filename = ship.source.filename
    · subst here
      simp [transfer, name, unopened, created, Ne.symm other]
    · rw [elsewhere filename here, same.transfer]
  · rw [elsewhere filename apart]
    exact handling.named filename apart
  · have released : SoundConn tables conn.release := sound_release conn
    subst made
    exact ⟨released.resolved, released.free, fun filename opens => by simp [opening_release] at opens⟩
  · subst made
    exact handling.taken
  · have moves : Moves k ship.source (path tables ship.source) _ _ := .opens
      (v := { view tables s k ship conn.release with
        queue := [].filter (·.attempt = k) ++ ⟨k, .pcapChunk chunk⟩ ::
          (conn.waiters ++ conn.spawned ++ conn.wire).filter (·.attempt = k) })
      (created s p chunk k) (by simp) (by simp [view, transfer, unopened]) goes rfl session rfl
      (by simp [view, goes, created])
    convert moves using 1
    subst made
    have current : transfer k ship.source.filename
        { conn.release with transfers := conn.transfers.set chunk.filename (created s p chunk k) } =
        some (created s p chunk k) := by simp [transfer, name, created]
    simp only [view, State.setFiles, current, goes, Option.map_some, Option.getD_some, if_true]
    rfl

theorem advances_opens {opened written : Bool} (inv : Invariant tables s)
    (stepped : opens s c opened written = some t) : Advances tables s t := by
  simp only [opens, Option.bind_eq_bind, Option.bind_eq_some_iff, Option.pure_def] at stepped
  obtain ⟨conn, present, taken⟩ := stepped
  cases holds : conn.lock with
  | free => simp [holds] at taken
  | granted frame => simp [holds] at taken
  | resolving => simp [holds] at taken
  | resolved k chunk found =>
    simp only [holds, Option.some.injEq] at taken
    subst taken
    have whole : queue conn = [] ++ ⟨k, .pcapChunk chunk⟩ :: (conn.waiters ++ conn.spawned ++ conn.wire) := by
      simp [queue, holds, lockFrames]
    obtain ⟨ship, -, handling⟩ := handling_taken inv present whole (queue_release conn) (release_transfers conn)
      (release_finishing conn) (sound_release conn)
    have refused := advances_acts inv (acts_trouble inv handling)
    unfold openTransfer
    cases found with
    | none => exact refused
    | some p =>
      cases opened with
      | false => exact refused
      | true =>
        obtain ⟨ship, after, sent, begun⟩ := handling_opens inv present holds
        obtain ⟨i, -, same⟩ := chunk_of_mem sent
        have name : chunk.filename = ship.source.filename := by rw [same]; rfl
        obtain ⟨conn', acts⟩ := acts_store inv begun name (by rw [← name]; exact PyDict.get_set_self ..) written
        exact advances_acts inv acts

end

/-! ### Steps of the agent -/

section
variable {s t : State} {k : Nat}

theorem connected (inv : Invariant tables s) {ship : Ship} (shipped : s.ships[k]? = some ship) :
    ∃ conn, s.conns[ship.source.conn]? = some conn :=
  ⟨_, List.getElem?_eq_getElem (inv.home k ship shipped)⟩

/-- A step of one ship that leaves everything on its connection but a frame at the end of the wire. -/
private theorem acts_ship (inv : Invariant tables s) {ship : Ship} {conn : Conn} (ship' : Ship) (written : List Frame)
    (shipped : s.ships[k]? = some ship) (present : s.conns[ship.source.conn]? = some conn)
    (own : ∀ frame ∈ written, frame.attempt = k)
    (ships : t.ships = s.ships.set k ship')
    (conns : t.conns = s.conns.set ship.source.conn { conn with wire := conn.wire ++ written })
    (source : ship'.source = ship.source) (files : t.files = s.files) (records : ∀ j, j ≠ k → SameRecord j s t)
    (moves : ReflTransGen (Moves k ship.source (path tables ship.source)) (view tables s k ship conn)
      (view tables t k ship' { conn with wire := conn.wire ++ written })) : Advances tables s t := by
  have sound := inv.sound _ conn present
  refine advances_acts inv
    ⟨shipped, rfl, present, ships, source, conns, fun j other => ⟨⟨?_, fun _ => rfl, rfl⟩, records j other⟩,
      fun filename apart => inv.named _ conn k ship filename present shipped apart, .inl files,
      ⟨sound.resolved, sound.free, sound.unopened⟩, moves⟩
  have strange : written.filter (·.attempt = j) = [] :=
    List.filter_eq_nil_iff.mpr fun frame member same => other ((of_decide_eq_true same).symm.trans (own frame member))
  simp [frames, queue, strange]

private theorem set_same {α : Type} {l : List α} {i : Nat} {a : α} (there : l[i]? = some a) : l.set i a = l := by
  obtain ⟨bound, rfl⟩ := List.getElem?_eq_some_iff.mp there
  exact List.set_getElem_self bound

private theorem unsent_sending {ship : Ship} (sending : ship.phase = .sending) :
    unsent k ship = (ship.source.frames k).drop ship.sent := if_pos sending

theorem attempt_of_mem {source : Source} {frame : Frame} (sent : frame ∈ source.frames k) : frame.attempt = k := by
  rcases mem_frames.mp sent with ⟨i, -, rfl⟩ | rfl <;> rfl

theorem advances_sends (inv : Invariant tables s) (stepped : sends s k = some t) : Advances tables s t := by
  simp only [sends, Option.bind_eq_bind, Option.bind_eq_some_iff, Option.pure_def, Option.guard_eq_some'] at stepped
  obtain ⟨ship, shipped, conn, present, frame, next, -, sending, stepped⟩ := stepped
  have own : frame.attempt = k := attempt_of_mem (List.mem_of_getElem? next)
  have before : unsent k ship = frame :: unsent k { ship with sent := ship.sent + 1 } := by
    have still : ({ ship with sent := ship.sent + 1 } : Ship).phase = .sending := sending
    rw [unsent_sending sending, unsent_sending still]
    exact List.drop_eq_getElem?_toList_append.trans (by simp [next])
  split_ifs at stepped with isOpen
  · obtain rfl := Option.some.inj stepped
    refine acts_ship inv _ [frame] shipped present (by simpa using own) rfl rfl rfl rfl
      (fun j other => ⟨rfl, rfl, rfl, rfl, rfl⟩) (.single ?_)
    have moves : Moves k ship.source (path tables ship.source) _ _ := .sends
      (v := view tables s k ship conn) frame _ before
    convert moves using 1
    have written : frames k { conn with wire := conn.wire ++ [frame] } = frames k conn ++ [frame] := by
      simp [frames, queue, own]
    simp only [view, State.setConn, written]
    rfl
  · obtain rfl := Option.some.inj stepped
    refine acts_ship inv _ [] shipped present (by simp) rfl ?_ rfl rfl
      (fun j other => sameRecord_trouble other (by simp) rfl rfl rfl rfl rfl) (.single ?_)
    · simp [State.trouble, set_same present]
    · have moves : Moves k ship.source (path tables ship.source) _ _ := .losesSent
        (v := view tables s k ship conn) frame _ before
      convert moves using 1
      have troubled : (s.troubles ++ [k]).contains k = true := by simp
      simp only [view, State.trouble, List.append_nil, troubled]

theorem advances_spools (inv : Invariant tables s) (stepped : spools s k = some t) : Advances tables s t := by
  simp only [spools, Option.bind_eq_bind, Option.bind_eq_some_iff, Option.pure_def, Option.some.injEq,
    Option.guard_eq_some'] at stepped
  obtain ⟨ship, shipped, -, ⟨sending, short⟩, rfl⟩ := stepped
  obtain ⟨conn, present⟩ := connected inv shipped
  refine acts_ship inv _ [] shipped present (by simp) rfl ?_ rfl rfl
    (fun j other => sameRecord_trouble other (by simp) rfl rfl rfl rfl rfl) (.single ?_)
  · simp [State.trouble, set_same present]
  · have moves : Moves k ship.source (path tables ship.source) _ _ := .gives
      (v := view tables s k ship conn) (by simpa [view, unsent_sending sending] using short)
    convert moves using 1
    have troubled : (s.troubles ++ [k]).contains k = true := by simp
    simp only [view, State.trouble, List.append_nil, troubled]
    rfl

theorem advances_removes (inv : Invariant tables s) (stepped : removes s k = some t) : Advances tables s t := by
  simp only [removes, Option.bind_eq_bind, Option.bind_eq_some_iff, Option.pure_def, Option.some.injEq,
    Option.guard_eq_some'] at stepped
  obtain ⟨ship, shipped, -, ⟨sending, all⟩, rfl⟩ := stepped
  obtain ⟨conn, present⟩ := connected inv shipped
  refine acts_ship inv _ [] shipped present (by simp) rfl ?_ rfl rfl (fun j other => ⟨rfl, rfl, rfl, rfl, rfl⟩) ?_
  · simp [set_same present]
  · have before : unsent k ship = [] := by simp [unsent_sending sending, all]
    have after : unsent k { ship with phase := .removed } = [] := rfl
    simp only [view, before, after, List.append_nil]
    exact .refl

end

/-! ### The end of a `pcap_complete` -/

section
variable {s t : State} {c i : Nat} {conn : Conn} {e : Finishing}

/-- Every handler that finishes an upload is one of an upload on its connection. -/
theorem owner_of_finishing (inv : Invariant tables s) (present : s.conns[c]? = some conn) (member : e ∈ conn.finishing) :
    ∃ ship : Ship, s.ships[e.transfer.attempt]? = some ship ∧ ship.source.conn = c ∧
      e ∈ finishing e.transfer.attempt conn := by
  have mine : e ∈ finishing e.transfer.attempt conn := List.mem_filter.mpr ⟨member, by simp⟩
  by_cases known : ∃ ship : Ship, s.ships[e.transfer.attempt]? = some ship ∧ ship.source.conn = c
  · obtain ⟨ship, shipped, home⟩ := known
    exact ⟨ship, shipped, home, mine⟩
  · have absent := inv.foreign c conn e.transfer.attempt present fun ship shipped home => known ⟨ship, shipped, home⟩
    simp [absent.finishing] at mine

/-- A step of one handler that finishes an upload: it goes on to `now`, or ends. -/
private theorem advances_finishing (inv : Invariant tables s) (present : s.conns[c]? = some conn)
    (at_i : conn.finishing[i]? = some e) (now : List Finishing) (own : ∀ f ∈ now, f.transfer.attempt = e.transfer.attempt)
    (ships : t.ships = s.ships)
    (conns : t.conns = s.conns.set c
      { conn with finishing := conn.finishing.take i ++ now ++ conn.finishing.drop (i + 1) })
    (records : ∀ j, j ≠ e.transfer.attempt → SameRecord j s t)
    (files : t.files = s.files ∨ ∀ p, p ≠ e.transfer.path → t.files p = s.files p)
    (moves : ∀ (ship : Ship) before after, path tables ship.source = some e.transfer.path →
      (view tables s e.transfer.attempt ship conn).finishing = before ++ e :: after →
        Closed ship.source (s.files e.transfer.path) e →
          Moves e.transfer.attempt ship.source (path tables ship.source) (view tables s e.transfer.attempt ship conn)
            { view tables t e.transfer.attempt ship conn with finishing := before ++ now ++ after }) :
    Advances tables s t := by
  obtain ⟨ship, shipped, home, member⟩ := owner_of_finishing inv present (List.mem_of_getElem? at_i)
  generalize at_k : e.transfer.attempt = k at *
  obtain ⟨bound, at_e⟩ := List.getElem?_eq_some_iff.mp at_i
  have whole : conn.finishing = conn.finishing.take i ++ e :: conn.finishing.drop (i + 1) := by
    rw [← at_e, ← List.drop_eq_getElem_cons bound, List.take_append_drop]
  generalize conn.finishing.take i = first at *
  generalize conn.finishing.drop (i + 1) = rest at *
  have mine : finishing k conn =
      first.filter (·.transfer.attempt = k) ++ e :: rest.filter (·.transfer.attempt = k) := by
    simp [finishing, whole, at_k]
  obtain ⟨-, ⟨-, -, goes⟩, closed⟩ := (inv.fits k ship conn shipped (home ▸ present)).finishing e member
  have sound := inv.sound c conn present
  refine advances_acts inv ⟨shipped, home, present, by rw [ships, set_same shipped], rfl, conns,
    fun j other => ⟨⟨rfl, fun _ => rfl, ?_⟩, records j other⟩,
    fun filename apart => inv.named c conn k ship filename present shipped apart, ?_,
    ⟨sound.resolved, sound.free, sound.unopened⟩, .single ?_⟩
  · have strange : now.filter (·.transfer.attempt = j) = [] :=
      List.filter_eq_nil_iff.mpr fun f member same => other ((of_decide_eq_true same).symm.trans (own f member))
    simp [finishing, whole, strange, at_k, Ne.symm other]
  · refine files.imp id fun elsewhere => ⟨.inr (.inr (.inr ?_)), fun p away => elsewhere p fun same => away (same ▸ goes)⟩
    simp [view, mine]
  · have moved := moves ship _ _ goes mine (by simpa [view, goes] using closed)
    convert moved using 1
    have all : now.filter (·.transfer.attempt = k) = now :=
      List.filter_eq_self.mpr fun f member => decide_eq_true (own f member)
    simp only [view, finishing, List.filter_append, all]
    rfl

private theorem set_eq (at_i : conn.finishing[i]? = some e) (now : Finishing) :
    conn.finishing.set i now = conn.finishing.take i ++ [now] ++ conn.finishing.drop (i + 1) := by
  obtain ⟨bound, -⟩ := List.getElem?_eq_some_iff.mp at_i
  rw [List.set_eq_take_append_cons_drop, if_pos bound, List.append_assoc, List.singleton_append]

private theorem eraseIdx_eq (conn : Conn) (i : Nat) :
    conn.finishing.eraseIdx i = conn.finishing.take i ++ [] ++ conn.finishing.drop (i + 1) := by
  rw [List.eraseIdx_eq_take_drop_succ, List.append_nil]

theorem advances_publishes {replaced : Bool} (inv : Invariant tables s) (stepped : publishes s c i replaced = some t) :
    Advances tables s t := by
  simp only [publishes, Option.bind_eq_bind, Option.bind_eq_some_iff, Option.pure_def, Option.guard_eq_some'] at stepped
  obtain ⟨conn, present, ⟨xfer, phase⟩, at_i, -, publishing, stepped⟩ := stepped
  obtain rfl : phase = .publishing := publishing
  have failed : Advances tables s
      ((s.setConn c { conn with finishing := conn.finishing.eraseIdx i }).trouble [xfer.attempt]) := by
    refine advances_finishing inv present at_i [] (by simp) rfl (by rw [← eraseIdx_eq]; rfl)
      (fun j other => sameRecord_trouble other (by simp) rfl rfl rfl rfl rfl) (.inl rfl)
      fun ship before after goes parts closed => ?_
    have moves : Moves xfer.attempt ship.source (path tables ship.source) _ _ := .fails before xfer after parts
    convert moves using 1
    have troubled : (s.troubles ++ [xfer.attempt]).contains xfer.attempt = true := by simp
    simp only [view, State.trouble, State.setConn, List.append_nil, troubled]
  cases there : (s.files xfer.path).partialFile with
  | none =>
    simp only [Files.replace, there, Option.map_none, Option.some.injEq] at stepped
    exact stepped ▸ failed
  | some inode =>
    cases replaced with
    | false =>
      simp only [Files.replace, there, Option.map_some, Option.some.injEq] at stepped
      exact stepped ▸ failed
    | true =>
      simp only [Files.replace, there, Option.map_some, Option.some.injEq] at stepped
      subst stepped
      refine advances_finishing inv present at_i [⟨xfer, .checking⟩] (by simp) rfl (by rw [← set_eq at_i]; rfl)
        (fun j other => ⟨?_, rfl, rfl, rfl, rfl⟩) (.inr fun p away => if_neg away)
        fun ship before after goes parts closed => ?_
      · simp [Ne.symm other]
      · have moves : Moves xfer.attempt ship.source (path tables ship.source) _ _ :=
          .publishes before xfer after inode parts (by simpa [view, goes] using there)
        convert moves using 1
        simp [view, State.setConn, State.setFiles, goes]

theorem advances_checks {answered : Bool} (inv : Invariant tables s)
    (stepped : checks tables s c i answered = some t) : Advances tables s t := by
  simp only [checks, Option.bind_eq_bind, Option.bind_eq_some_iff, Option.pure_def, Option.guard_eq_some'] at stepped
  obtain ⟨conn, present, ⟨xfer, phase⟩, at_i, -, checking, stepped⟩ := stepped
  obtain rfl : phase = .checking := checking
  have dismissed : Advances tables s
      { s.setConn c { conn with finishing := conn.finishing.eraseIdx i } with
        unscanned := s.unscanned ++ [xfer.attempt] } := by
    refine advances_finishing inv present at_i [] (by simp) rfl (by rw [← eraseIdx_eq]; rfl)
      (fun j other => ⟨rfl, rfl, rfl, rfl, by simp [other]⟩) (.inl rfl)
      fun ship before after goes parts closed => ?_
    have moves : Moves xfer.attempt ship.source (path tables ship.source) _ _ := .dismisses before xfer after parts
    convert moves using 1
    have unscanned : (s.unscanned ++ [xfer.attempt]).contains xfer.attempt = true := by simp
    simp only [view, State.setConn, List.append_nil, unscanned]
  cases owned : ownership tables s.deleted xfer.sessionId conn.agentUuid with
  | none =>
    simp only [owned, Option.some.injEq] at stepped
    exact stepped ▸ dismissed
  | some owner =>
    cases answered with
    | false =>
      simp only [owned, Option.some.injEq] at stepped
      exact stepped ▸ dismissed
    | true =>
      simp only [owned, Option.some.injEq] at stepped
      subst stepped
      refine advances_finishing inv present at_i [⟨xfer, .resolved owner⟩] (by simp) rfl (by rw [← set_eq at_i]; rfl)
        (fun j other => ⟨rfl, rfl, rfl, rfl, rfl⟩) (.inl rfl) fun ship before after goes parts closed => ?_
      have moves : Moves xfer.attempt ship.source (path tables ship.source) _ _ :=
        .checks before xfer after owner parts
      convert moves using 1
      simp [view, State.setConn]

theorem advances_launches (inv : Invariant tables s) (stepped : launches s c i = some t) : Advances tables s t := by
  simp only [launches, Option.bind_eq_bind, Option.bind_eq_some_iff] at stepped
  obtain ⟨conn, present, ⟨xfer, phase⟩, at_i, stepped⟩ := stepped
  cases phase with
  | publishing => simp at stepped
  | checking => simp at stepped
  | resolved owner =>
    obtain rfl := Option.some.inj stepped
    refine advances_finishing inv present at_i [] (by simp) rfl (by rw [← eraseIdx_eq]; rfl)
      (fun j other => ⟨rfl, by simp [Ne.symm other], rfl, rfl, rfl⟩) (.inl rfl)
      fun ship before after goes parts closed => ?_
    have moves : Moves xfer.attempt ship.source (path tables ship.source) _ _ := .launches before xfer owner after parts
    convert moves using 1
    simp [view, State.setConn, goes]

end

/-! ### Every step -/

section
variable {s t : State}

theorem invariant_empty (files : UploadPath → Files) : Invariant tables { State.init with files := files } := by
  refine ⟨by simp [State.init], by simp [State.init], by simp [State.init], by simp [State.init],
    fun k _ => ⟨rfl, rfl, rfl, rfl, rfl⟩, ?_, by simp [State.init]⟩
  rintro j k a b ⟨ship, conn, shipped, -⟩
  simp [State.init] at shipped

theorem invariant_init : Invariant tables State.init := invariant_empty _

theorem advances_connects (inv : Invariant tables s) (agentUuid : String) :
    Advances tables s { s with conns := s.conns ++ [Conn.init agentUuid] } := by
  have connAt {c : Nat} {conn : Conn} (there : (s.conns ++ [Conn.init agentUuid])[c]? = some conn) :
      s.conns[c]? = some conn ∨ conn = Conn.init agentUuid := by
    rcases Nat.lt_trichotomy c s.conns.length with less | same | more
    · rw [List.getElem?_append_left less] at there
      exact .inl there
    · rw [List.getElem?_append_right same.ge, same] at there
      simp only [Nat.sub_self, List.getElem?_cons_zero, Option.some.injEq] at there
      exact .inr there.symm
    · rw [List.getElem?_eq_none (by simp; omega)] at there
      cases there
  refine advances_follows inv rfl (fun k ship conn shipped present => ?_) (fun c conn k there strange => ?_)
    (fun c conn k ship filename there shipped apart => ?_) (fun c conn there => ?_)
    (fun k beyond => ⟨(inv.recorded k beyond).published, (inv.recorded k beyond).launched,
      (inv.recorded k beyond).calls, (inv.recorded k beyond).troubled, (inv.recorded k beyond).unscanned⟩)
  · refine ⟨ship, conn, shipped, rfl, ?_, follows_refl _⟩
    rw [List.getElem?_append_left (inv.home k ship shipped)]
    exact present
  · rcases connAt there with old | rfl
    · exact inv.foreign c conn k old strange
    · exact ⟨rfl, fun _ => rfl, rfl⟩
  · rcases connAt there with old | rfl
    · exact inv.named c conn k ship filename old shipped apart
    · rfl
  · rcases connAt there with old | rfl
    · exact inv.sound c conn old
    · exact ⟨by simp [Conn.init], fun _ => rfl, fun _ _ => rfl⟩

/-- Nothing that is under way gets in the way of a new upload, and no longer file has been
    left where it goes. -/
structure Clear (tables : Tables) (s : State) (source : Source) : Prop where
  apart : ∀ k other, UnderWay tables s k other → ¬ Overlap tables other source
  short : ∀ p inode, path tables source = some p → (s.files p).partialFile = some inode →
    ((s.files p).data inode).length ≤ source.bytes.length

theorem overlap_symm {a b : Source} (overlap : Overlap tables a b) : Overlap tables b a := by
  rcases overlap with ⟨conn, name⟩ | ⟨p, first, second⟩
  · exact .inl ⟨conn.symm, name.symm⟩
  · exact .inr ⟨p, second, first⟩

private theorem invariant_ships (inv : Invariant tables s) {source : Source} (home : source.conn < s.conns.length)
    (clear : Clear tables s source) : Invariant tables { s with ships := s.ships ++ [⟨source, 0, .sending⟩] } ∧
      ∀ k other, UnderWay tables { s with ships := s.ships ++ [⟨source, 0, .sending⟩] } k other →
        UnderWay tables s k other ∨ k = s.ships.length ∧ other = source := by
  have shipAt {k : Nat} {ship : Ship} (there : (s.ships ++ [⟨source, 0, .sending⟩])[k]? = some ship) :
      s.ships[k]? = some ship ∨ k = s.ships.length ∧ ship = ⟨source, 0, .sending⟩ := by
    rcases Nat.lt_trichotomy k s.ships.length with less | same | more
    · rw [List.getElem?_append_left less] at there
      exact .inl there
    · rw [List.getElem?_append_right same.ge, same] at there
      simp only [Nat.sub_self, List.getElem?_cons_zero, Option.some.injEq] at there
      exact .inr ⟨same, there.symm⟩
    · rw [List.getElem?_eq_none (by simp; omega)] at there
      cases there
  have fresh (c) (conn : Conn) (there : s.conns[c]? = some conn) : Absent s.ships.length conn :=
    inv.foreign c conn _ there fun ship shipped => by simp at shipped
  have was (k other) (now : UnderWay tables { s with ships := s.ships ++ [⟨source, 0, .sending⟩] } k other) :
      UnderWay tables s k other ∨ k = s.ships.length ∧ other = source := by
    obtain ⟨ship, conn, shipped, rfl, present, alive⟩ := now
    rcases shipAt shipped with old | ⟨rfl, rfl⟩
    · exact .inl ⟨ship, conn, old, rfl, present, alive⟩
    · exact .inr ⟨rfl, rfl⟩
  refine ⟨⟨fun k ship shipped => ?_, fun c conn k there strange => ?_,
    fun c conn k ship filename there shipped apart => ?_, inv.sound, fun k beyond => ?_,
    fun j k a b first second overlap => ?_, fun k ship conn shipped present => ?_⟩, was⟩
  · rcases shipAt shipped with old | ⟨-, rfl⟩
    · exact inv.home k ship old
    · exact home
  · refine inv.foreign c conn k there fun ship shipped => strange ship ?_
    rw [List.getElem?_append_left (List.getElem?_eq_some_iff.mp shipped).1]
    exact shipped
  · rcases shipAt shipped with old | ⟨rfl, rfl⟩
    · exact inv.named c conn k ship filename there old apart
    · exact (fresh c conn there).transfer filename
  · have none_ := inv.recorded k (by simp at beyond; omega)
    exact ⟨none_.published, none_.launched, none_.calls, none_.troubled, none_.unscanned⟩
  · rcases was j a first with before | ⟨rfl, rfl⟩
    · rcases was k b second with before' | ⟨rfl, rfl⟩
      · exact inv.apart j k a b before before' overlap
      · exact absurd overlap (clear.apart j a before)
    · rcases was k b second with before' | ⟨rfl, -⟩
      · exact absurd (overlap_symm overlap) (clear.apart k b before')
      · rfl
  · rcases shipAt shipped with old | ⟨rfl, rfl⟩
    · exact inv.fits k ship conn old present
    · have absent := fresh _ conn present
      have none_ := inv.recorded s.ships.length (Nat.le_refl _)
      refine fits_begun absent.frames rfl (absent.transfer _) absent.finishing none_.published none_.launched none_.calls
        fun inode there => ?_
      cases goes : path tables source with
      | none => simp [view, goes, Files.init] at there
      | some p =>
        simp only [view, goes, Option.map_some, Option.getD_some] at there ⊢
        exact clear.short p inode goes there

/-- Every step but one that begins an upload. -/
theorem advances_step {pcapMaxSize : Nat} {l : Label} (inv : Invariant tables s) (other : ∀ source, l ≠ .ships source)
    (stepped : step pcapMaxSize tables s l = some t) : Advances tables s t := by
  cases l with
  | connects agentUuid =>
    obtain rfl := Option.some.inj stepped
    exact advances_connects inv agentUuid
  | ships source => exact absurd rfl (other source)
  | sends k => exact advances_sends inv stepped
  | spools k => exact advances_spools inv stepped
  | removes k => exact advances_removes inv stepped
  | reads c => exact advances_reads inv stepped
  | drops c => exact advances_drops inv stepped
  | starts c written => exact advances_starts inv stepped
  | acquires c written => exact advances_acquires inv stepped
  | resolves c answered => exact advances_resolves inv stepped
  | opens c opened written => exact advances_opens inv stepped
  | publishes c i replaced => exact advances_publishes inv stepped
  | checks c i answered => exact advances_checks inv stepped
  | launches c i => exact advances_launches inv stepped
  | deletes row =>
    obtain rfl := Option.some.inj stepped
    refine ⟨⟨inv.home, inv.foreign, inv.named, inv.sound, fun k beyond => ?_, inv.apart, inv.fits⟩, fun _ _ => id⟩
    have none_ := inv.recorded k beyond
    exact ⟨none_.published, none_.launched, none_.calls, none_.troubled, none_.unscanned⟩

/-- Every step keeps the invariant, one that begins an upload if the way is clear. -/
theorem invariant_step {pcapMaxSize : Nat} {l : Label} (inv : Invariant tables s)
    (clear : ∀ source, l = .ships source → Clear tables s source) (stepped : step pcapMaxSize tables s l = some t) :
    Invariant tables t := by
  by_cases begins : ∃ source, l = .ships source
  · obtain ⟨source, rfl⟩ := begins
    simp only [step] at stepped
    split_ifs at stepped with home
    obtain rfl := Option.some.inj stepped
    exact (invariant_ships inv home (clear source rfl)).1
  · exact (advances_step inv (fun source same => begins ⟨source, same⟩) stepped).invariant

/-- What is under way was so before, or begins. -/
theorem underWay_step {pcapMaxSize : Nat} {l : Label} (inv : Invariant tables s)
    (clear : ∀ source, l = .ships source → Clear tables s source) (stepped : step pcapMaxSize tables s l = some t)
    {k : Nat} {source : Source} (now : UnderWay tables t k source) : UnderWay tables s k source ∨ l = .ships source := by
  by_cases begins : ∃ other, l = .ships other
  · obtain ⟨other, rfl⟩ := begins
    simp only [step] at stepped
    split_ifs at stepped with home
    obtain rfl := Option.some.inj stepped
    rcases (invariant_ships inv home (clear other rfl)).2 k source now with before | ⟨-, rfl⟩
    · exact .inl before
    · exact .inr rfl
  · exact .inl ((advances_step inv (fun other same => begins ⟨other, same⟩) stepped).underWay k source now)

end

end Marlinspike.Gateway.Uploads
