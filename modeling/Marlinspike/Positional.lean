import Mathlib.Data.List.Basic
import Mathlib.Tactic.SplitIfs

/-!
Files as lists, written at positions. A source is cut into pieces of one size, the last
one shorter; pieces that are written each at its own offset, in whatever order and
however often, put the source together (`eq_of_agrees`).
-/
namespace Marlinspike.Positional
universe u
variable {α : Type u}

/-- `seek(pos)` and `write(piece)`: a gap is filled, and nothing is truncated. -/
def writeAt (fill : α) (data : List α) (pos : Nat) (piece : List α) : List α :=
  if piece = [] then data
  else data.take pos ++ List.replicate (pos - data.length) fill ++ piece ++ data.drop (pos + piece.length)

/-- The pieces that a source has; an empty one has one empty piece. -/
def pieces (size : Nat) (source : List α) : Nat := max 1 ((source.length + size - 1) / size)

def piece (size : Nat) (source : List α) (i : Nat) : List α := (source.drop (i * size)).take size

/-- The data has the piece at its place. -/
def Agrees (size : Nat) (data source : List α) (i : Nat) : Prop :=
  ∀ p, i * size ≤ p → p < (i + 1) * size → p < source.length → data[p]? = source[p]?

variable {fill : α} {data source : List α} {size : Nat}

theorem getElem?_writeAt_inside {pos p : Nat} {piece : List α} (after : pos ≤ p) (before : p < pos + piece.length) :
    (writeAt fill data pos piece)[p]? = piece[p - pos]? := by
  have some_ : piece ≠ [] := by rintro rfl; simp at before; omega
  have lengths : (data.take pos ++ List.replicate (pos - data.length) fill).length = pos := by
    simp only [List.length_append, List.length_take, List.length_replicate]; omega
  rw [writeAt, if_neg some_, List.append_assoc, List.getElem?_append_right (by omega), lengths,
    List.getElem?_append_left (by omega)]

theorem getElem?_writeAt_outside {pos p : Nat} {piece : List α} (there : p < data.length)
    (outside : p < pos ∨ pos + piece.length ≤ p) : (writeAt fill data pos piece)[p]? = data[p]? := by
  unfold writeAt
  split_ifs with empty
  · rfl
  · rcases outside with before | after
    · rw [List.append_assoc, List.append_assoc, List.getElem?_append_left (by simp; omega),
        List.getElem?_take_of_lt before]
    · have lengths : (data.take pos ++ List.replicate (pos - data.length) fill ++ piece).length = pos + piece.length := by
        simp only [List.length_append, List.length_take, List.length_replicate]; omega
      rw [List.getElem?_append_right (by omega), lengths, List.getElem?_drop]
      congr 1
      omega

theorem length_writeAt_le {pos bound : Nat} {piece : List α} (short : data.length ≤ bound)
    (fits : piece ≠ [] → pos + piece.length ≤ bound) : (writeAt fill data pos piece).length ≤ bound := by
  unfold writeAt
  split_ifs with empty
  · exact short
  · have := fits empty
    simp only [List.length_append, List.length_take, List.length_replicate, List.length_drop]
    omega

/-- Inside the data, a write keeps what is before and after it. -/
theorem writeAt_of_le {pos : Nat} (inside : pos ≤ data.length) (piece : List α) :
    writeAt fill data pos piece = data.take pos ++ piece ++ data.drop (pos + piece.length) := by
  unfold writeAt
  split_ifs with empty
  · simp [empty]
  · rw [Nat.sub_eq_zero_of_le inside, List.replicate_zero, List.append_nil]

theorem writeAt_zero (piece : List α) : writeAt fill data 0 piece = piece ++ data.drop piece.length := by
  rw [writeAt_of_le (Nat.zero_le _), List.take_zero, List.nil_append, Nat.zero_add]

/-- What is written piece by piece is written at once. -/
theorem writeAt_append (pos : Nat) (first second : List α) :
    writeAt fill (writeAt fill data pos first) (pos + first.length) second = writeAt fill data pos (first ++ second) := by
  by_cases none_ : first = []
  · simp [none_, writeAt]
  have front : (data.take pos ++ List.replicate (pos - data.length) fill ++ first).length = pos + first.length := by
    simp only [List.length_append, List.length_take, List.length_replicate]
    omega
  rw [writeAt.eq_1 fill data pos first, if_neg none_, writeAt_of_le (by rw [List.length_append, front]; omega),
    List.take_left' front, ← List.drop_drop, List.drop_left' front, List.drop_drop, writeAt, if_neg (by simp [none_]),
    List.length_append, Nat.add_assoc]
  simp only [List.append_assoc]

/-- The rest of one source over another that begins the same. -/
theorem writeAt_front {front back rest : List α} {pos : Nat} (inside : pos ≤ (front ++ back).length) :
    writeAt fill (front ++ back) pos ((front ++ rest).drop pos) =
      front ++ writeAt fill back (pos - front.length) (rest.drop (pos - front.length)) := by
  have beyond : (front ++ back).drop (pos + ((front ++ rest).drop pos).length) =
      back.drop (pos - front.length + (rest.drop (pos - front.length)).length) := by
    rw [List.drop_append, List.drop_eq_nil_of_le, List.nil_append]
    · congr 1
      simp only [List.length_drop, List.length_append]
      omega
    · simp only [List.length_drop, List.length_append]
      omega
  rw [List.length_append] at inside
  rw [writeAt_of_le (by rwa [List.length_append]), writeAt_of_le (by omega), beyond]
  rcases Nat.le_total pos front.length with before | after
  · rw [Nat.sub_eq_zero_of_le before, List.take_append_of_le_length before, List.drop_append_of_le_length before]
    simp [← List.append_assoc]
  · rw [List.take_append, List.take_of_length_le after, List.drop_append, List.drop_eq_nil_of_le after]
    simp [List.append_assoc]

theorem length_piece (i : Nat) : (piece size source i).length = min size (source.length - i * size) := by
  simp [piece]

theorem length_write_le {i : Nat} (short : data.length ≤ source.length) :
    (writeAt fill data (i * size) (piece size source i)).length ≤ source.length := by
  refine length_writeAt_le short fun some_ => ?_
  have : 0 < (piece size source i).length := List.length_pos_iff.mpr some_
  rw [length_piece] at this ⊢
  omega

/-- A written piece is there. -/
theorem agrees_write (i : Nat) : Agrees size (writeAt fill data (i * size) (piece size source i)) source i := by
  intro p after before inside
  have bound : p < i * size + (piece size source i).length := by
    rw [length_piece]
    rw [Nat.add_mul] at before
    omega
  rw [getElem?_writeAt_inside after bound, piece, List.getElem?_take_of_lt (by rw [Nat.add_mul] at before; omega),
    List.getElem?_drop]
  congr 1
  omega

/-- The other pieces stay. -/
theorem agrees_write_other {i j : Nat} (other : j ≠ i) (agrees : Agrees size data source j) :
    Agrees size (writeAt fill data (i * size) (piece size source i)) source j := by
  intro p after before inside
  have same := agrees p after before inside
  have there : p < data.length := by
    by_contra beyond
    rw [List.getElem?_eq_none (by omega), eq_comm, List.getElem?_eq_none_iff] at same
    omega
  rw [getElem?_writeAt_outside there ?_, same]
  rw [length_piece]
  rcases Nat.lt_or_gt_of_ne other with less | more
  · have := Nat.mul_le_mul_right size (Nat.succ_le_of_lt less)
    exact .inl (Nat.lt_of_lt_of_le before this)
  · have := Nat.mul_le_mul_right size (Nat.succ_le_of_lt more)
    right
    rw [Nat.succ_mul] at this
    omega

theorem lt_pieces_of_lt {p : Nat} (positive : 0 < size) (inside : p < source.length) : p / size < pieces size source := by
  refine Nat.lt_of_lt_of_le ?_ (Nat.le_max_right ..)
  rw [Nat.div_lt_iff_lt_mul positive]
  have := Nat.div_add_mod (source.length + size - 1) size
  have := Nat.mod_lt (source.length + size - 1) positive
  rw [Nat.mul_comm ((source.length + size - 1) / size)]
  omega

/-- Data that is no longer than the source and has all its pieces is the source. -/
theorem eq_of_agrees (positive : 0 < size) (short : data.length ≤ source.length)
    (all : ∀ i < pieces size source, Agrees size data source i) : data = source := by
  apply List.ext_getElem?
  intro p
  by_cases inside : p < source.length
  · have := Nat.div_add_mod p size
    have := Nat.mod_lt p positive
    refine all (p / size) (lt_pieces_of_lt positive inside) p (Nat.div_mul_le_self p size) ?_ inside
    rw [Nat.add_mul, Nat.mul_comm]
    omega
  · rw [List.getElem?_eq_none (by omega), List.getElem?_eq_none (by omega)]

end Marlinspike.Positional
