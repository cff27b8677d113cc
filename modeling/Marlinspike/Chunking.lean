import Mathlib.Algebra.Order.Group.Nat
import Mathlib.Data.List.Basic
import Mathlib.Tactic.SplitIfs

/-!
A list read chunk by chunk, the reader's state carried from each to the next, in a loop
that ends with the first chunk in which nothing is counted. It comes to the same as one
pass over the whole list, and reaches the last chunk, exactly if something is counted in
every other chunk and none of them ends the pass (`chunked_iff`).
-/
namespace Marlinspike.Chunking
universe u v
variable {Frame : Type u} {State : Type v}

/-- A reader of frames; a step says whether the pass goes on. Only a frame that is counted
    ends it. -/
structure Reader (Frame : Type u) (State : Type v) where
  step : State → Frame → State × Bool
  count : State → Nat
  counts : Frame → Bool
  count_step : ∀ s frame, count (step s frame).1 = count s + if counts frame then 1 else 0
  counts_of_end : ∀ s frame, (step s frame).2 = false → counts frame = true

section Loop
variable (reader : Reader Frame State)

def pass (s : State) : List Frame → State × Bool
  | [] => (s, true)
  | frame :: rest => if (reader.step s frame).2 then pass (reader.step s frame).1 rest else reader.step s frame

/-- The loop from a chunk on, with the number of the chunk that it ends with. -/
def loop {n : Nat} (pos : 0 < n) (number : Nat) (s : State) (frames : List Frame) : State × Nat :=
  if frames = [] then (s, number + 1)
  else
    let after := (pass reader s (frames.take n)).1
    if reader.count after = reader.count s then (after, number + 1) else loop pos (number + 1) after (frames.drop n)
termination_by frames.length
decreasing_by
  rename_i some_ _
  have := List.length_pos_iff.mpr some_
  rw [List.length_drop]
  omega

end Loop

def chunk (n k : Nat) (frames : List Frame) : List Frame := (frames.drop (k * n)).take n

variable {reader : Reader Frame State}

/-! ### Passes -/

theorem pass_append (s : State) (first second : List Frame) : pass reader s (first ++ second) =
    if (pass reader s first).2 then pass reader (pass reader s first).1 second else pass reader s first := by
  induction first generalizing s with
  | nil => simp [pass]
  | cons frame rest ih =>
    rw [List.cons_append, pass, pass]
    by_cases on : (reader.step s frame).2 = true
    · rw [if_pos on, if_pos on, ih]
    · simp [on]

theorem pass_on (never : ∀ s frame, (reader.step s frame).2 = true) (s : State) (frames : List Frame) :
    (pass reader s frames).2 = true := by
  induction frames generalizing s with
  | nil => rfl
  | cons frame rest ih => rw [pass, if_pos (never s frame), ih]

theorem count_le_pass (s : State) (frames : List Frame) : reader.count s ≤ reader.count (pass reader s frames).1 := by
  induction frames generalizing s with
  | nil => exact le_refl _
  | cons frame rest ih =>
    have one := reader.count_step s frame
    rw [pass]
    by_cases on : (reader.step s frame).2 = true
    · rw [if_pos on]
      have later := ih (reader.step s frame).1
      omega
    · rw [if_neg on]
      omega

theorem count_pass_eq_iff (s : State) (frames : List Frame) :
    reader.count (pass reader s frames).1 = reader.count s ↔ ∀ frame ∈ frames, reader.counts frame = false := by
  induction frames generalizing s with
  | nil => simp [pass]
  | cons frame rest ih =>
    have one := reader.count_step s frame
    by_cases counted : reader.counts frame = true
    · have more : reader.count s < reader.count (pass reader s (frame :: rest)).1 := by
        rw [if_pos counted] at one
        have later : reader.count (reader.step s frame).1 ≤ reader.count (pass reader (reader.step s frame).1 rest).1 :=
          count_le_pass _ rest
        rw [pass]
        split_ifs
        · omega
        · omega
      simp [counted, more.ne']
    · have on : (reader.step s frame).2 = true := by
        by_contra ended
        exact counted (reader.counts_of_end s frame (by simpa using ended))
      rw [if_neg counted] at one
      rw [pass, if_pos on, List.forall_mem_cons, ← ih, one]
      simp [counted]

/-! ### The chunks that the loop reaches -/

/-- Something is counted in every chunk but the last. -/
def Counted (reader : Reader Frame State) (n : Nat) (frames : List Frame) : Prop :=
  ∀ k, (k + 1) * n < frames.length → ∃ frame ∈ chunk n k frames, reader.counts frame = true

/-- No chunk but the last ends the pass. -/
def Uninterrupted (reader : Reader Frame State) (n : Nat) (s : State) (frames : List Frame) : Prop :=
  ∀ k, (k + 1) * n < frames.length → (pass reader s (frames.take ((k + 1) * n))).2 = true

/-- The loop gets to every chunk. -/
def Reaches (n number last : Nat) (frames : List Frame) : Prop := ∀ k, k * n < frames.length → number + k < last

section Chunks
variable {n : Nat} {s : State} {frames : List Frame}

theorem chunk_drop (k : Nat) : chunk n k (frames.drop n) = chunk n (k + 1) frames := by
  rw [chunk, chunk, List.drop_drop, Nat.succ_mul, Nat.add_comm]

theorem mem_chunk_iff {k : Nat} {frame : Frame} :
    frame ∈ frames.take ((k + 1) * n) ↔ frame ∈ frames.take (k * n) ∨ frame ∈ chunk n k frames := by
  rw [Nat.succ_mul, List.take_add, List.mem_append, chunk]

/-- The chunks before the last, one by one or all together. -/
theorem forall_chunks_iff {holds : Frame → Prop} :
    (∀ k, (k + 1) * n < frames.length → ∀ frame ∈ frames.take ((k + 1) * n), holds frame) ↔
      ∀ k, (k + 1) * n < frames.length → ∀ frame ∈ chunk n k frames, holds frame := by
  constructor
  · intro together k more frame member
    exact together k more frame (mem_chunk_iff.mpr (.inr member))
  · intro alone k
    induction k with
    | zero =>
      intro more frame member
      rcases mem_chunk_iff.mp member with before | own
      · simp at before
      · exact alone 0 more frame own
    | succ k ih =>
      intro more frame member
      rcases mem_chunk_iff.mp member with before | own
      · rw [Nat.succ_mul] at more
        exact ih (by omega) frame before
      · exact alone (k + 1) more frame own

theorem lt_length_drop {k : Nat} : k * n < (frames.drop n).length ↔ (k + 1) * n < frames.length := by
  rw [List.length_drop, Nat.succ_mul]
  omega

theorem counted_iff : Counted reader n frames ↔
    (n < frames.length → ∃ frame ∈ frames.take n, reader.counts frame = true) ∧ Counted reader n (frames.drop n) := by
  constructor
  · intro counted
    refine ⟨fun longer => ?_, fun k more => ?_⟩
    · simpa [chunk] using counted 0 (by omega)
    · rw [chunk_drop]
      exact counted (k + 1) (lt_length_drop.mp more)
  · rintro ⟨first, others⟩ k more
    cases k with
    | zero => simpa [chunk] using first (by omega)
    | succ k =>
      rw [← chunk_drop]
      exact others k (lt_length_drop.mpr more)

theorem uninterrupted_drop (on : (pass reader s (frames.take n)).2 = true) :
    Uninterrupted reader n s frames ↔ Uninterrupted reader n (pass reader s (frames.take n)).1 (frames.drop n) := by
  have split (k : Nat) : pass reader s (frames.take ((k + 1 + 1) * n)) =
      pass reader (pass reader s (frames.take n)).1 ((frames.drop n).take ((k + 1) * n)) := by
    rw [Nat.succ_mul (k + 1), Nat.add_comm, List.take_add, pass_append, if_pos on]
  constructor
  · intro whole k more
    rw [← split]
    exact whole (k + 1) (lt_length_drop.mp more)
  · intro rest k more
    cases k with
    | zero => simpa using on
    | succ k =>
      rw [split]
      exact rest k (lt_length_drop.mpr more)

theorem reaches_drop {number last : Nat} (started : number < last) :
    Reaches n number last frames ↔ Reaches n (number + 1) last (frames.drop n) := by
  constructor
  · intro whole k more
    have := whole (k + 1) (lt_length_drop.mp more)
    omega
  · intro rest k more
    cases k with
    | zero => exact started
    | succ k =>
      have := rest k (lt_length_drop.mpr more)
      omega

theorem reaches_one (number : Nat) (some_ : frames ≠ []) :
    Reaches n number (number + 1) frames ↔ frames.length ≤ n := by
  have pos := List.length_pos_iff.mpr some_
  constructor
  · intro reached
    by_contra longer
    have := reached 1 (by omega)
    omega
  · intro short k more
    cases k with
    | zero => omega
    | succ k =>
      rw [Nat.succ_mul] at more
      omega

end Chunks

section Loop
variable {n : Nat} (pos : 0 < n)

theorem lt_loop (number : Nat) (s : State) (frames : List Frame) : number < (loop reader pos number s frames).2 := by
  induction number, s, frames using loop.induct reader pos with
  | case1 => simp [loop]
  | case2 number s frames some_ after same =>
    rw [loop, if_neg some_, if_pos same]
    exact Nat.lt_succ_self number
  | case3 number s frames some_ after more ih =>
    rw [loop, if_neg some_, if_neg more]
    exact Nat.lt_of_succ_lt ih

theorem count_le_loop (number : Nat) (s : State) (frames : List Frame) :
    reader.count s ≤ reader.count (loop reader pos number s frames).1 := by
  induction number, s, frames using loop.induct reader pos with
  | case1 => simp [loop]
  | case2 number s frames some_ after same =>
    rw [loop, if_neg some_, if_pos same]
    exact same.ge
  | case3 number s frames some_ after more ih =>
    rw [loop, if_neg some_, if_neg more]
    exact le_trans (count_le_pass s _) ih

/-- A chunk without anything counted is taken for the end. -/
theorem reaches_iff (number : Nat) (s : State) (frames : List Frame) :
    Reaches n number (loop reader pos number s frames).2 frames ↔ Counted reader n frames := by
  induction number, s, frames using loop.induct reader pos with
  | case1 number s =>
    constructor
    · rintro - k more
      simp at more
    · rintro - k more
      simp at more
  | case2 number s frames some_ after same =>
    rw [loop, if_neg some_, if_pos same, reaches_one number some_, counted_iff]
    have none_ := (count_pass_eq_iff s _).mp same
    constructor
    · intro short
      refine ⟨fun longer => absurd short (by omega), ?_⟩
      rw [List.drop_eq_nil_of_le short]
      intro k more
      simp at more
    · rintro ⟨first, -⟩
      by_contra longer
      obtain ⟨frame, member, counted⟩ := first (by omega)
      rw [none_ frame member] at counted
      cases counted
  | case3 number s frames some_ after more ih =>
    have first : ∃ frame ∈ frames.take n, reader.counts frame = true := by
      by_contra none_
      exact more ((count_pass_eq_iff s _).mpr (by simpa using none_))
    rw [loop, if_neg some_, if_neg more, reaches_drop (Nat.lt_of_succ_lt (lt_loop pos _ _ _)), ih]
    exact (counted_iff.trans (and_iff_right fun _ => first)).symm

theorem loop_eq_pass (number : Nat) (s : State) (frames : List Frame) (counted : Counted reader n frames)
    (uninterrupted : Uninterrupted reader n s frames) :
    (loop reader pos number s frames).1 = (pass reader s frames).1 := by
  induction number, s, frames using loop.induct reader pos with
  | case1 => simp [loop, pass]
  | case2 number s frames some_ after same =>
    have reached := (reaches_iff pos number s frames).mpr counted
    rw [loop, if_neg some_, if_pos same] at reached ⊢
    rw [List.take_of_length_le ((reaches_one number some_).mp reached)]
  | case3 number s frames some_ after more ih =>
    rw [loop, if_neg some_, if_neg more]
    by_cases short : frames.length ≤ n
    · rw [List.drop_eq_nil_of_le short, loop, if_pos rfl, List.take_of_length_le short]
    · have on : (pass reader s (frames.take n)).2 = true := by simpa using uninterrupted 0 (by omega)
      rw [ih (counted_iff.mp counted).2 ((uninterrupted_drop on).mp uninterrupted)]
      conv => rhs; rw [← List.take_append_drop n frames, pass_append, if_pos on]

theorem count_lt_loop (all : ∀ frame, reader.counts frame = true) (number : Nat) (s : State) {frames : List Frame}
    (some_ : frames ≠ []) : reader.count s < reader.count (loop reader pos number s frames).1 := by
  obtain ⟨frame, rest, rfl⟩ := List.exists_cons_of_ne_nil some_
  have more : ¬reader.count (pass reader s ((frame :: rest).take n)).1 = reader.count s := by
    rw [count_pass_eq_iff]
    intro none_
    have uncounted := none_ frame (by simp [List.take_cons pos])
    rw [all frame] at uncounted
    cases uncounted
  have first : reader.count s ≤ reader.count (pass reader s ((frame :: rest).take n)).1 := count_le_pass s _
  rw [loop, if_neg some_, if_neg more]
  refine Nat.lt_of_lt_of_le ?_ (count_le_loop pos (number + 1) _ _)
  omega

/-- Where the pass ends early, the loop goes on and counts more. -/
theorem lt_of_interrupted (all : ∀ frame, reader.counts frame = true) (number : Nat) (s : State) (frames : List Frame)
    (interrupted : ¬Uninterrupted reader n s frames) :
    reader.count (pass reader s frames).1 < reader.count (loop reader pos number s frames).1 := by
  induction number, s, frames using loop.induct reader pos with
  | case1 number s => exact absurd (fun k more => by simp at more) interrupted
  | case2 number s frames some_ after same =>
    have more := count_lt_loop pos all number s some_
    rw [loop, if_neg some_, if_pos same, same] at more
    exact absurd more (lt_irrefl _)
  | case3 number s frames some_ after more ih =>
    have longer : n < frames.length := by
      by_contra short
      refine interrupted fun k beyond => ?_
      rw [Nat.succ_mul] at beyond
      omega
    rw [loop, if_neg some_, if_neg more]
    conv => lhs; rw [← List.take_append_drop n frames, pass_append]
    by_cases on : (pass reader s (frames.take n)).2 = true
    · rw [if_pos on]
      exact ih (mt (uninterrupted_drop on).mpr interrupted)
    · have rest : frames.drop n ≠ [] := by simpa using longer
      rw [if_neg on]
      exact count_lt_loop pos all (number + 1) after rest

/-- The loop against the pass, for a reader that counts every frame or never ends a pass. -/
theorem chunked_iff (uniform : (∀ frame, reader.counts frame = true) ∨ ∀ s frame, (reader.step s frame).2 = true)
    (number : Nat) (s : State) (frames : List Frame) :
    ((loop reader pos number s frames).1 = (pass reader s frames).1 ∧
      Reaches n number (loop reader pos number s frames).2 frames) ↔
      Counted reader n frames ∧ Uninterrupted reader n s frames := by
  rw [reaches_iff]
  constructor
  · rintro ⟨same, counted⟩
    refine ⟨counted, ?_⟩
    rcases uniform with all | never
    · by_contra interrupted
      have more := lt_of_interrupted pos all number s frames interrupted
      rw [same] at more
      exact lt_irrefl _ more
    · exact fun k _ => pass_on never s _
  · rintro ⟨counted, uninterrupted⟩
    exact ⟨loop_eq_pass pos number s frames counted uninterrupted, counted⟩

end Loop

end Marlinspike.Chunking
