import Mathlib.Data.List.Basic
import Marlinspike.Struct

/-!
Byte streams that arrive in pieces, and frames over them that have their length in front. A
reader that reads exactly as much as it is asked for does not see where the pieces end
(`ExactReader`), so a receiver of frames gets the same objects from every segmentation of a
stream, and from a stream that is cut the first of them (`recvAll_stream`, `recvAll_cut`).
-/
namespace Marlinspike.Framing
open Marlinspike.Struct
universe u

/-! ### Streams -/

/-- Bytes in the pieces in which they arrive. -/
structure Segments where
  pieces : List Bytes
  nonempty : [] ∉ pieces

def Segments.content (segments : Segments) : Bytes := segments.pieces.flatten

/-- A way to read a number of bytes, or to find that there are not as many. -/
structure ExactReader where
  State : Type u
  content : State → Bytes
  read : Nat → State → Option (Bytes × State)
  read_some : ∀ n s, n ≤ (content s).length →
    ∃ t, read n s = some ((content s).take n, t) ∧ content t = (content s).drop n
  read_none : ∀ n s, (content s).length < n → read n s = none

/-! #### Sockets -/

/-- `sock.recv(n)`: what is there of a piece, and nothing at the end of the stream. -/
def recv (n : Nat) (segments : Segments) : Bytes × Segments :=
  match segments with
  | ⟨[], none_⟩ => ([], ⟨[], none_⟩)
  | ⟨piece :: rest, some_⟩ =>
    if short : piece.length ≤ n then (piece, ⟨rest, fun member => some_ (List.mem_cons_of_mem _ member)⟩)
    else
      (piece.take n, ⟨piece.drop n :: rest, fun member => by
        rcases List.mem_cons.mp member with nothing | inside
        · exact short (List.drop_eq_nil_iff.mp nothing.symm)
        · exact some_ (List.mem_cons_of_mem _ inside)⟩)

theorem recv_content (n : Nat) (segments : Segments) :
    (recv n segments).1 ++ (recv n segments).2.content = segments.content := by
  unfold recv
  split
  · rfl
  · split_ifs
    · rfl
    · simp [Segments.content, ← List.append_assoc]

theorem length_recv_le (n : Nat) (segments : Segments) : (recv n segments).1.length ≤ n := by
  unfold recv
  split
  · exact Nat.zero_le _
  · split_ifs with short
    · exact short
    · exact (List.length_take_le _ _)

/-- Only the end of a stream is empty. -/
theorem recv_ne_nil {n : Nat} (pos : 0 < n) {segments : Segments} (more : segments.content ≠ []) :
    (recv n segments).1 ≠ [] := by
  obtain ⟨pieces, nonempty⟩ := segments
  cases pieces with
  | nil => exact absurd rfl more
  | cons piece rest =>
    have some_ : piece ≠ [] := fun nothing => nonempty (nothing ▸ List.mem_cons_self)
    simp only [recv]
    split_ifs
    · exact some_
    · simpa [List.take_eq_nil_iff, some_] using Nat.pos_iff_ne_zero.mp pos

/-- `_recv_exact`, with what it has read. -/
def recvMore (buf : Bytes) (n : Nat) (segments : Segments) : Option (Bytes × Segments) :=
  if _less : buf.length < n then
    if _end : (recv (n - buf.length) segments).1 = [] then none
    else recvMore (buf ++ (recv (n - buf.length) segments).1) n (recv (n - buf.length) segments).2
  else some (buf, segments)
termination_by n - buf.length
decreasing_by
  have more := List.length_pos_iff.mpr _end
  rw [List.length_append]
  omega

def recvExact (n : Nat) (segments : Segments) : Option (Bytes × Segments) := recvMore [] n segments

theorem recvMore_some (buf : Bytes) (n : Nat) (segments : Segments) (short : buf.length ≤ n)
    (enough : n ≤ (buf ++ segments.content).length) :
    ∃ t, recvMore buf n segments = some ((buf ++ segments.content).take n, t) ∧
      t.content = (buf ++ segments.content).drop n := by
  induction buf, segments using recvMore.induct n with
  | case1 buf segments less end_ =>
    have more : segments.content ≠ [] := by
      intro nil
      rw [nil, List.append_nil] at enough
      omega
    exact absurd end_ (recv_ne_nil (by omega) more)
  | case2 buf segments less end_ ih =>
    have whole := List.append_assoc buf (recv (n - buf.length) segments).1
      (recv (n - buf.length) segments).2.content
    rw [recv_content] at whole
    have bound := length_recv_le (n - buf.length) segments
    rw [recvMore, dif_pos less, dif_neg end_, ← whole]
    refine ih ?_ (whole ▸ enough)
    rw [List.length_append]
    omega
  | case3 buf segments full =>
    have is : buf.length = n := by omega
    rw [recvMore, dif_neg full, List.take_left' is, List.drop_left' is]
    exact ⟨segments, rfl, rfl⟩

theorem recvMore_none (buf : Bytes) (n : Nat) (segments : Segments)
    (short : (buf ++ segments.content).length < n) : recvMore buf n segments = none := by
  induction buf, segments using recvMore.induct n with
  | case1 buf segments less end_ => rw [recvMore, dif_pos less, dif_pos end_]
  | case2 buf segments less end_ ih =>
    have whole := List.append_assoc buf (recv (n - buf.length) segments).1
      (recv (n - buf.length) segments).2.content
    rw [recv_content] at whole
    rw [recvMore, dif_pos less, dif_neg end_]
    exact ih (whole ▸ short)
  | case3 buf segments full =>
    rw [List.length_append] at short
    omega

def socket : ExactReader where
  State := Segments
  content := Segments.content
  read := recvExact
  read_some n segments enough := recvMore_some [] n segments (Nat.zero_le _) enough
  read_none n segments short := recvMore_none [] n segments short

/-! #### Stream readers -/

/-- `StreamReader.readexactly(n)`: pieces go into the buffer until it holds enough. -/
def readexactly (n : Nat) (buffer : Bytes) : List Bytes → Option (Bytes × Bytes × List Bytes)
  | [] => if n ≤ buffer.length then some (buffer.take n, buffer.drop n, []) else none
  | piece :: rest =>
    if n ≤ buffer.length then some (buffer.take n, buffer.drop n, piece :: rest)
    else readexactly n (buffer ++ piece) rest

theorem readexactly_some {n : Nat} {buffer : Bytes} {pieces : List Bytes}
    (enough : n ≤ (buffer ++ pieces.flatten).length) :
    ∃ rest later, readexactly n buffer pieces = some ((buffer ++ pieces.flatten).take n, rest, later) ∧
      rest ++ later.flatten = (buffer ++ pieces.flatten).drop n := by
  induction pieces generalizing buffer with
  | nil =>
    rw [List.flatten_nil, List.append_nil] at enough ⊢
    refine ⟨buffer.drop n, [], ?_, List.append_nil _⟩
    rw [readexactly, if_pos enough]
  | cons piece pieces ih =>
    by_cases held : n ≤ buffer.length
    · refine ⟨buffer.drop n, piece :: pieces, ?_, ?_⟩
      · rw [readexactly, if_pos held, List.take_append_of_le_length held]
      · rw [List.drop_append_of_le_length held]
    · have whole : buffer ++ (piece :: pieces).flatten = buffer ++ piece ++ pieces.flatten := by
        rw [List.flatten_cons, List.append_assoc]
      rw [whole] at enough ⊢
      rw [readexactly, if_neg held]
      exact ih enough

theorem readexactly_none {n : Nat} {buffer : Bytes} {pieces : List Bytes}
    (short : (buffer ++ pieces.flatten).length < n) : readexactly n buffer pieces = none := by
  induction pieces generalizing buffer with
  | nil =>
    rw [List.flatten_nil, List.append_nil] at short
    rw [readexactly, if_neg (Nat.not_le.mpr short)]
  | cons piece pieces ih =>
    have held : ¬n ≤ buffer.length := by
      rw [List.length_append] at short
      omega
    rw [readexactly, if_neg held]
    refine ih ?_
    rwa [List.append_assoc, ← List.flatten_cons]

def streamReader : ExactReader where
  State := Bytes × List Bytes
  content s := s.1 ++ s.2.flatten
  read n s := readexactly n s.1 s.2
  read_some n s enough := by
    obtain ⟨rest, later, is, same⟩ := readexactly_some enough
    exact ⟨(rest, later), is, same⟩
  read_none n s short := readexactly_none short

/-! ### Frames -/

/-- A body behind its length. -/
def frame (body : Bytes) : Bytes := pack .big 4 body.length ++ body

/-- What fits the length of a frame and, where the sender looks at its own bound, is not above it. -/
def sendFrame (bound : Option Nat) (body : Bytes) : Option Bytes :=
  if (∃ most ∈ bound, most < body.length) ∨ 256 ^ 4 ≤ body.length then none else some (frame body)

inductive Stop where
  | ended
  | refused
deriving DecidableEq, Repr

inductive Received (Obj : Type u) where
  | message (obj : Obj)
  | stop (how : Stop)

/-- What a receiver reads out of a body, and what it does with one that it does not take. -/
structure Receiver (Obj : Type u) where
  loads : Bytes → Option Obj
  limit : Nat
  badLength : Stop
  malformed : Received Obj

section Frames
variable {Obj : Type u} (receiver : Receiver Obj) (reader : ExactReader)

def recvFrame (s : reader.State) : Received Obj × reader.State :=
  match reader.read 4 s with
  | none => (.stop .ended, s)
  | some (header, t) =>
    if value .big header ≤ 0 ∨ receiver.limit < value .big header then (.stop receiver.badLength, t)
    else
      match reader.read (value .big header) t with
      | none => (.stop .ended, t)
      | some (body, u) =>
        match receiver.loads body with
        | none => (receiver.malformed, u)
        | some obj => (.message obj, u)

theorem ExactReader.of_read {n : Nat} {s t : reader.State} {bytes : Bytes} (got : reader.read n s = some (bytes, t)) :
    bytes = (reader.content s).take n ∧ reader.content t = (reader.content s).drop n ∧
      n ≤ (reader.content s).length := by
  rcases Nat.lt_or_ge (reader.content s).length n with short | enough
  · rw [reader.read_none n s short] at got
    exact absurd got nofun
  · obtain ⟨u, read, rest⟩ := reader.read_some n s enough
    rw [read, Option.some.injEq, Prod.mk.injEq] at got
    exact ⟨got.1.symm, got.2 ▸ rest, enough⟩

/-- An object takes the bytes of its length off the stream, at least. -/
theorem recvFrame_shrinks {s t : reader.State} {obj : Obj} (got : recvFrame receiver reader s = (.message obj, t)) :
    (reader.content t).length < (reader.content s).length := by
  unfold recvFrame at got
  cases head : reader.read 4 s with
  | none => simp [head] at got
  | some first =>
    obtain ⟨header, u⟩ := first
    obtain ⟨-, rest, four⟩ := reader.of_read head
    simp only [head] at got
    split_ifs at got with bad
    · simp at got
    · cases read : reader.read (value .big header) u with
      | none => simp [read] at got
      | some second =>
        obtain ⟨body, v⟩ := second
        obtain ⟨-, later, -⟩ := reader.of_read read
        have is : t = v := by
          simp only [read] at got
          cases decoded : receiver.loads body <;> simp only [decoded, Prod.mk.injEq] at got <;> exact got.2.symm
        rw [is, later, rest, List.length_drop, List.length_drop]
        omega

/-- The objects up to the first thing that is none, and why there are no more. -/
def recvAll (s : reader.State) : List Obj × Stop :=
  match _got : recvFrame receiver reader s with
  | (.stop how, _) => ([], how)
  | (.message obj, t) => (obj :: (recvAll t).1, (recvAll t).2)
termination_by (reader.content s).length
decreasing_by all_goals exact recvFrame_shrinks receiver reader _got

variable {receiver reader}

theorem recvAll_stop {s t : reader.State} {how : Stop} (got : recvFrame receiver reader s = (.stop how, t)) :
    recvAll receiver reader s = ([], how) := by
  rw [recvAll]
  split
  · next is _ same =>
    rw [got] at same
    cases same
    rfl
  · next same =>
    rw [got] at same
    exact absurd same nofun

theorem recvAll_message {s t : reader.State} {obj : Obj} (got : recvFrame receiver reader s = (.message obj, t)) :
    recvAll receiver reader s = (obj :: (recvAll receiver reader t).1, (recvAll receiver reader t).2) := by
  rw [recvAll]
  split
  · next same =>
    rw [got] at same
    exact absurd same nofun
  · next same =>
    rw [got] at same
    cases same
    rfl

@[simp] theorem length_frame (body : Bytes) : (frame body).length = 4 + body.length := by
  rw [frame, List.length_append, length_pack]

/-! #### What a frame is received as -/

section Step
variable {s : reader.State} {body rest : Bytes}

/-- The length of a frame is read off its front. -/
theorem read_header (content : reader.content s = frame body ++ rest) :
    ∃ t, reader.read 4 s = some (pack .big 4 body.length, t) ∧ reader.content t = body ++ rest := by
  have front : reader.content s = pack .big 4 body.length ++ (body ++ rest) := by
    rw [content, frame, List.append_assoc]
  obtain ⟨t, read, later⟩ := reader.read_some 4 s (by rw [front, List.length_append, length_pack]; omega)
  rw [front, List.take_left' (length_pack ..)] at read
  rw [front, List.drop_left' (length_pack ..)] at later
  exact ⟨t, read, later⟩

theorem recvFrame_frame (content : reader.content s = frame body ++ rest) (some_ : body ≠ [])
    (fits : body.length ≤ receiver.limit) (small : body.length < 256 ^ 4) {obj : Obj}
    (decoded : receiver.loads body = some obj) :
    ∃ t, recvFrame receiver reader s = (.message obj, t) ∧ reader.content t = rest := by
  obtain ⟨t, header, after⟩ := read_header content
  obtain ⟨u, read, later⟩ := reader.read_some body.length t (by rw [after, List.length_append]; omega)
  rw [after, List.take_left' rfl] at read
  rw [after, List.drop_left' rfl] at later
  have pos := List.length_pos_iff.mpr some_
  refine ⟨u, ?_, later⟩
  rw [recvFrame, header]
  simp only [value_pack .big small]
  rw [if_neg (by omega), read]
  simp only [decoded]

theorem recvFrame_long (content : reader.content s = frame body ++ rest) (long : receiver.limit < body.length)
    (small : body.length < 256 ^ 4) : ∃ t, recvFrame receiver reader s = (.stop receiver.badLength, t) := by
  obtain ⟨t, header, -⟩ := read_header content
  refine ⟨t, ?_⟩
  rw [recvFrame, header]
  simp only [value_pack .big small]
  rw [if_pos (Or.inr long)]

/-- Of a frame that is cut off there is nothing. -/
theorem recvFrame_cut {k : Nat} (content : reader.content s = (frame body ++ rest).take k)
    (cut : k < (frame body).length) (some_ : body ≠ []) (fits : body.length ≤ receiver.limit)
    (small : body.length < 256 ^ 4) : ∃ t, recvFrame receiver reader s = (.stop .ended, t) := by
  have short : (reader.content s).length = k := by
    rw [content, List.length_take, List.length_append, min_eq_left (by omega)]
  rw [length_frame] at cut
  rcases Nat.lt_or_ge k 4 with before | after
  · exact ⟨s, by rw [recvFrame, reader.read_none 4 s (by omega)]⟩
  · have front : reader.content s = pack .big 4 body.length ++ body.take (k - 4) := by
      rw [content, frame, List.append_assoc, List.take_append, length_pack,
        List.take_of_length_le (by rwa [length_pack]), List.take_append_of_le_length (by omega)]
    obtain ⟨t, header, later⟩ := reader.read_some 4 s (by omega)
    rw [front, List.take_left' (length_pack ..)] at header
    rw [front, List.drop_left' (length_pack ..)] at later
    have pos := List.length_pos_iff.mpr some_
    have missing := reader.read_none body.length t (by rw [later, List.length_take]; omega)
    refine ⟨t, ?_⟩
    rw [recvFrame, header]
    simp only [value_pack .big small]
    rw [if_neg (by omega), missing]

theorem recvFrame_nil (content : reader.content s = []) : recvFrame receiver reader s = (.stop .ended, s) := by
  rw [recvFrame, reader.read_none 4 s (by simp [content])]

end Step

/-! #### Streams of frames -/

def stream (dumps : Obj → Bytes) (objs : List Obj) : Bytes := (objs.map fun obj => frame (dumps obj)).flatten

/-- Every object comes back out of its text. -/
structure Receiver.Reads (receiver : Receiver Obj) (dumps : Obj → Bytes) : Prop where
  loads_dumps : ∀ obj, receiver.loads (dumps obj) = some obj
  dumps_ne_nil : ∀ obj, dumps obj ≠ []

section Streams
variable {dumps : Obj → Bytes} (reads : receiver.Reads dumps) {objs : List Obj}
  (small : ∀ obj ∈ objs, (dumps obj).length < 256 ^ 4)
include reads small

/-- Objects whose texts are within the limit are all received, and then what follows them. -/
theorem recvAll_append (fits : ∀ obj ∈ objs, (dumps obj).length ≤ receiver.limit) {s : reader.State} {rest : Bytes}
    (content : reader.content s = stream dumps objs ++ rest) :
    ∃ t, reader.content t = rest ∧
      recvAll receiver reader s = (objs ++ (recvAll receiver reader t).1, (recvAll receiver reader t).2) := by
  induction objs generalizing s with
  | nil => exact ⟨s, content, rfl⟩
  | cons obj objs ih =>
    have front : reader.content s = frame (dumps obj) ++ (stream dumps objs ++ rest) := by
      rw [content, stream, List.map_cons, List.flatten_cons, List.append_assoc, stream]
    obtain ⟨t, got, after⟩ := recvFrame_frame front (reads.dumps_ne_nil obj) (fits obj List.mem_cons_self)
      (small obj List.mem_cons_self) (reads.loads_dumps obj)
    obtain ⟨u, later, all⟩ := ih (fun o inside => small o (List.mem_cons_of_mem _ inside))
      (fun o inside => fits o (List.mem_cons_of_mem _ inside)) after
    refine ⟨u, later, ?_⟩
    rw [recvAll_message got, all, List.cons_append]

theorem recvAll_stream (fits : ∀ obj ∈ objs, (dumps obj).length ≤ receiver.limit) {s : reader.State}
    (content : reader.content s = stream dumps objs) : recvAll receiver reader s = (objs, .ended) := by
  have whole : reader.content s = stream dumps objs ++ [] := by rw [content, List.append_nil]
  obtain ⟨t, nil, all⟩ := recvAll_append reads small fits whole
  rw [all, recvAll_stop (recvFrame_nil nil), List.append_nil]

/-- Of a stream that is cut off, the objects before the cut. -/
theorem recvAll_cut (fits : ∀ obj ∈ objs, (dumps obj).length ≤ receiver.limit) {s : reader.State} {k : Nat}
    (content : reader.content s = (stream dumps objs).take k) :
    ∃ first, first <+: objs ∧ recvAll receiver reader s = (first, .ended) := by
  induction objs generalizing s k with
  | nil =>
    rw [stream, List.map_nil, List.flatten_nil, List.take_nil] at content
    exact ⟨[], List.nil_prefix, recvAll_stop (recvFrame_nil content)⟩
  | cons obj objs ih =>
    rw [stream, List.map_cons, List.flatten_cons] at content
    change reader.content s = (frame (dumps obj) ++ stream dumps objs).take k at content
    rcases Nat.lt_or_ge k (frame (dumps obj)).length with cut | whole
    · obtain ⟨t, got⟩ := recvFrame_cut content cut (reads.dumps_ne_nil obj) (fits obj List.mem_cons_self)
        (small obj List.mem_cons_self)
      exact ⟨[], List.nil_prefix, recvAll_stop got⟩
    · rw [List.take_append, List.take_of_length_le whole] at content
      obtain ⟨t, got, after⟩ := recvFrame_frame content (reads.dumps_ne_nil obj) (fits obj List.mem_cons_self)
        (small obj List.mem_cons_self) (reads.loads_dumps obj)
      obtain ⟨first, before, all⟩ := ih (fun o inside => small o (List.mem_cons_of_mem _ inside))
        (fun o inside => fits o (List.mem_cons_of_mem _ inside)) after
      refine ⟨obj :: first, (List.prefix_cons_inj obj).mpr before, ?_⟩
      rw [recvAll_message got, all]

/-- The first object past the limit ends the connection. -/
theorem recvAll_long {obj : Obj} (member : obj ∈ objs) (long : receiver.limit < (dumps obj).length)
    {s : reader.State} (content : reader.content s = stream dumps objs) :
    (recvAll receiver reader s).1.length < objs.length ∧ (recvAll receiver reader s).2 = receiver.badLength := by
  induction objs generalizing s with
  | nil => exact absurd member List.not_mem_nil
  | cons head objs ih =>
    rw [stream, List.map_cons, List.flatten_cons] at content
    change reader.content s = frame (dumps head) ++ stream dumps objs at content
    rcases Nat.lt_or_ge receiver.limit (dumps head).length with longer | within
    · obtain ⟨t, got⟩ := recvFrame_long content longer (small head List.mem_cons_self)
      rw [recvAll_stop got]
      exact ⟨Nat.succ_pos _, rfl⟩
    · obtain ⟨t, got, after⟩ := recvFrame_frame content (reads.dumps_ne_nil head) within
        (small head List.mem_cons_self) (reads.loads_dumps head)
      have later : obj ∈ objs := (List.mem_cons.mp member).resolve_left fun is => by
        rw [is] at long
        omega
      obtain ⟨fewer, how⟩ := ih (fun o inside => small o (List.mem_cons_of_mem _ inside)) later after
      rw [recvAll_message got]
      exact ⟨Nat.succ_lt_succ fewer, how⟩

end Streams

end Frames

end Marlinspike.Framing
