import Marlinspike.Framing

/-!
The four pairs of functions that send and receive JSON objects behind their length: between
agent and gateway, and between capd and its clients. They agree on the length and on the bound
of what is taken; that a text is within the bound is checked by the gateway and by capd before
they send, and by neither of the other two.
-/
namespace Marlinspike.Fleet.Frames
open Marlinspike.Struct
open Marlinspike.Framing

/-- `_MAX_MESSAGE_BYTES`. -/
def maxMessageBytes : Nat := 2 ^ 20

/-- Objects and their JSON texts in UTF-8. -/
structure Codec where
  Obj : Type
  dumps : Obj → Bytes
  loads : Bytes → Option Obj
  /-- `{}`. -/
  empty : Obj
  loads_dumps : ∀ obj, loads (dumps obj) = some obj
  dumps_ne_nil : ∀ obj, dumps obj ≠ []

variable (codec : Codec)

/-! ### Senders and receivers -/

def Gateway.sendFrame (obj : codec.Obj) : Option Bytes := Framing.sendFrame (some maxMessageBytes) (codec.dumps obj)

def Agent.sendFrame (obj : codec.Obj) : Option Bytes := Framing.sendFrame none (codec.dumps obj)

def Capd.sendJsonAsync (obj : codec.Obj) : Option Bytes := Framing.sendFrame (some maxMessageBytes) (codec.dumps obj)

def Client.sendJson (obj : codec.Obj) : Option Bytes := Framing.sendFrame none (codec.dumps obj)

def Gateway.recvFrame : Receiver codec.Obj where
  loads := codec.loads
  limit := maxMessageBytes
  badLength := .refused
  malformed := .message codec.empty

def Agent.recvFrame : Receiver codec.Obj where
  loads := codec.loads
  limit := maxMessageBytes
  badLength := .refused
  malformed := .stop .refused

/-- A bad length is the end of the stream to capd. -/
def Capd.recvJsonAsync : Receiver codec.Obj where
  loads := codec.loads
  limit := maxMessageBytes
  badLength := .ended
  malformed := .message codec.empty

def Client.recvJson : Receiver codec.Obj where
  loads := codec.loads
  limit := maxMessageBytes
  badLength := .refused
  malformed := .stop .refused

/-! ### Pairs -/

inductive Pair where
  | agentToGateway
  | gatewayToAgent
  | clientToCapd
  | capdToClient
deriving DecidableEq, Repr

namespace Pair

def send : Pair → codec.Obj → Option Bytes
  | agentToGateway => Agent.sendFrame codec
  | gatewayToAgent => Gateway.sendFrame codec
  | clientToCapd => Client.sendJson codec
  | capdToClient => Capd.sendJsonAsync codec

def receiver : Pair → Receiver codec.Obj
  | agentToGateway => Gateway.recvFrame codec
  | gatewayToAgent => Agent.recvFrame codec
  | clientToCapd => Capd.recvJsonAsync codec
  | capdToClient => Client.recvJson codec

def reader : Pair → ExactReader
  | agentToGateway => streamReader
  | gatewayToAgent => streamReader
  | clientToCapd => socket
  | capdToClient => socket

/-- What the sender looks at before it sends. -/
def bound : Pair → Option Nat
  | agentToGateway => none
  | gatewayToAgent => some maxMessageBytes
  | clientToCapd => none
  | capdToClient => some maxMessageBytes

theorem send_eq (pair : Pair) (obj : codec.Obj) : pair.send codec obj = sendFrame pair.bound (codec.dumps obj) := by
  cases pair <;> rfl

theorem limit_receiver (pair : Pair) : (pair.receiver codec).limit = maxMessageBytes := by
  cases pair <;> rfl

theorem reads_receiver (pair : Pair) : (pair.receiver codec).Reads codec.dumps where
  loads_dumps obj := by cases pair <;> exact codec.loads_dumps obj
  dumps_ne_nil := codec.dumps_ne_nil

theorem bound_eq {pair : Pair} {most : Nat} (checks : pair.bound = some most) : most = maxMessageBytes := by
  cases pair <;> cases checks <;> rfl

/-- The bytes of a sequence of objects, if none of them is refused. -/
def transmit (pair : Pair) (objs : List codec.Obj) : Option Bytes :=
  (objs.mapM (pair.send codec)).map List.flatten

/-- The objects that a receiver takes off a stream in whatever pieces it comes, and how it ends. -/
def receive (pair : Pair) (s : pair.reader.State) : List codec.Obj × Stop := recvAll (pair.receiver codec) pair.reader s

/-- The objects are received in every segmentation, and of a stream that is cut off the first of them. -/
structure RoundTrips (pair : Pair) (objs : List codec.Obj) (bytes : Bytes) : Prop where
  whole : ∀ s, pair.reader.content s = bytes → pair.receive codec s = (objs, .ended)
  cut : ∀ s k, pair.reader.content s = bytes.take k →
    ∃ first, first <+: objs ∧ pair.receive codec s = (first, .ended)

end Pair

/-! ### What is sent -/

variable {codec}

theorem of_sendFrame {bound : Option Nat} {body bytes : Bytes} (sent : sendFrame bound body = some bytes) :
    bytes = frame body ∧ body.length < 256 ^ 4 ∧ ∀ most ∈ bound, body.length ≤ most := by
  unfold sendFrame at sent
  split_ifs at sent with bad
  rw [not_or] at bad
  refine ⟨(Option.some.inj sent).symm, Nat.lt_of_not_le bad.2, fun most checks => Nat.le_of_not_lt fun longer => ?_⟩
  exact bad.1 ⟨most, checks, longer⟩

theorem of_transmit {pair : Pair} {objs : List codec.Obj} {bytes : Bytes}
    (sent : pair.transmit codec objs = some bytes) :
    bytes = stream codec.dumps objs ∧ (∀ obj ∈ objs, (codec.dumps obj).length < 256 ^ 4) ∧
      ∀ obj ∈ objs, ∀ most ∈ pair.bound, (codec.dumps obj).length ≤ most := by
  obtain ⟨frames, all, rfl⟩ := Option.map_eq_some_iff.mp sent
  clear sent
  induction objs generalizing frames with
  | nil =>
    rw [List.mapM_nil] at all
    cases all
    exact ⟨rfl, nofun, nofun⟩
  | cons obj objs ih =>
    rw [List.mapM_cons] at all
    obtain ⟨first, here, rest⟩ := Option.bind_eq_some_iff.mp all
    obtain ⟨more, later, is⟩ := Option.bind_eq_some_iff.mp rest
    cases is
    rw [Pair.send_eq] at here
    obtain ⟨rfl, small, fits⟩ := of_sendFrame here
    obtain ⟨same, smalls, within⟩ := ih more later
    refine ⟨?_, List.forall_mem_cons.mpr ⟨small, smalls⟩, List.forall_mem_cons.mpr ⟨fits, within⟩⟩
    rw [List.flatten_cons, same]
    rfl

theorem transmit_singleton {pair : Pair} {obj : codec.Obj} (unchecked : pair.bound = none)
    (small : (codec.dumps obj).length < 256 ^ 4) :
    pair.transmit codec [obj] = some (stream codec.dumps [obj]) := by
  have sent : pair.send codec obj = some (frame (codec.dumps obj)) := by
    rw [Pair.send_eq, unchecked, sendFrame, if_neg]
    rintro (⟨most, checks, -⟩ | large)
    · cases checks
    · omega
  simp [Pair.transmit, sent, stream]

/-! ### Round trips -/

theorem roundTrips_of_fits {pair : Pair} {objs : List codec.Obj} {bytes : Bytes}
    (sent : pair.transmit codec objs = some bytes) (fits : ∀ obj ∈ objs, (codec.dumps obj).length ≤ maxMessageBytes) :
    pair.RoundTrips codec objs bytes := by
  obtain ⟨rfl, small, -⟩ := of_transmit sent
  rw [← Pair.limit_receiver codec pair] at fits
  exact ⟨fun s content => recvAll_stream (pair.reads_receiver codec) small fits content,
    fun s k content => recvAll_cut (pair.reads_receiver codec) small fits content⟩

/-- Bytes that have arrived in one piece. -/
def arrived (pair : Pair) {bytes : Bytes} (some_ : bytes ≠ []) : pair.reader.State :=
  match pair with
  | .agentToGateway => (bytes, [])
  | .gatewayToAgent => (bytes, [])
  | .clientToCapd => ⟨[bytes], fun nothing => some_ (List.mem_singleton.mp nothing).symm⟩
  | .capdToClient => ⟨[bytes], fun nothing => some_ (List.mem_singleton.mp nothing).symm⟩

theorem content_arrived (pair : Pair) {bytes : Bytes} (some_ : bytes ≠ []) :
    pair.reader.content (arrived pair some_) = bytes := by
  cases pair <;> exact List.append_nil bytes

theorem not_roundTrips {pair : Pair} {objs : List codec.Obj} {bytes : Bytes}
    (sent : pair.transmit codec objs = some bytes) {obj : codec.Obj} (member : obj ∈ objs)
    (long : maxMessageBytes < (codec.dumps obj).length) : ¬pair.RoundTrips codec objs bytes := by
  intro trips
  obtain ⟨rfl, small, -⟩ := of_transmit sent
  have some_ : stream codec.dumps objs ≠ [] := by
    intro nil
    have none_ := List.flatten_eq_nil_iff.mp nil _ (List.mem_map_of_mem member)
    simpa using congrArg List.length none_
  rw [← Pair.limit_receiver codec pair] at long
  have fewer := (recvAll_long (pair.reads_receiver codec) small member long (content_arrived pair some_)).1
  have all := trips.whole (arrived pair some_) (content_arrived pair some_)
  rw [Pair.receive] at all
  rw [all] at fewer
  exact Nat.lt_irrefl _ fewer

/-- What is sent comes out as it went in exactly if the sender looks at the bound of the
    receiver, or none of the texts is above it. -/
theorem roundTrips_iff {codec : Codec} (pair : Pair) (objs : List codec.Obj) (bytes : Bytes)
    (sent : pair.transmit codec objs = some bytes) :
    pair.RoundTrips codec objs bytes ↔
      pair.bound.isSome = true ∨ ∀ obj ∈ objs, (codec.dumps obj).length ≤ maxMessageBytes := by
  constructor
  · intro trips
    refine Or.inr fun obj member => Nat.le_of_not_lt fun long => ?_
    exact not_roundTrips sent member long trips
  · rintro (checks | fits)
    · obtain ⟨most, checked⟩ := Option.isSome_iff_exists.mp checks
      refine roundTrips_of_fits sent fun obj member => ?_
      exact Pair.bound_eq checked ▸ (of_transmit sent).2.2 obj member most checked
    · exact roundTrips_of_fits sent fits

/-! ### An object of a mebibyte -/

/-- `{"x":"aaa…"}` with `n` letters. -/
def letters (n : Nat) : Bytes := [123, 34, 120, 34, 58, 34] ++ List.replicate n 97 ++ [34, 125]

theorem length_letters (n : Nat) : (letters n).length = n + 8 := by
  simp [letters]

/-- Objects with one string, and the empty one. -/
def oneString : Codec where
  Obj := Option Nat
  dumps obj := obj.elim [123, 125] letters
  loads bytes :=
    if bytes = [123, 125] then some none
    else if bytes = letters (bytes.length - 8) then some (some (bytes.length - 8)) else none
  empty := none
  loads_dumps obj := by
    cases obj with
    | none => rfl
    | some n => simp [letters]
  dumps_ne_nil obj := by cases obj <;> simp [letters]

/-- An agent sends an object at which the gateway ends the connection. -/
theorem not_forall_roundTrips :
    ¬∀ (codec : Codec) (pair : Pair) (objs : List codec.Obj) (bytes : Bytes),
      pair.transmit codec objs = some bytes → pair.RoundTrips codec objs bytes := by
  intro all
  have length : (oneString.dumps (some (2 ^ 20))).length = 2 ^ 20 + 8 := length_letters (2 ^ 20)
  have small : (oneString.dumps (some (2 ^ 20))).length < 256 ^ 4 := by
    rw [length]
    norm_num
  have long : maxMessageBytes < (oneString.dumps (some (2 ^ 20))).length := by
    rw [length, maxMessageBytes]
    norm_num
  have sent := @transmit_singleton oneString .agentToGateway _ rfl small
  exact not_roundTrips sent List.mem_cons_self long (all oneString .agentToGateway _ _ sent)

theorem roundTrips_oneString :
    Pair.RoundTrips oneString .clientToCapd [some 3, none] (stream oneString.dumps [some 3, none]) :=
  (@roundTrips_iff oneString .clientToCapd [some 3, none] _ (by decide)).mpr (Or.inr (by decide))

end Marlinspike.Fleet.Frames
