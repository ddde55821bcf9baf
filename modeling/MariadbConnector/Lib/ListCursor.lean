import Mathlib

/-! A list read from a position, as a client library reads a result set it has stored. -/

/-- A list and a read position that never passes its end. -/
@[ext]
structure ListCursor (α : Type) where
  items : List α
  pos : Nat
  pos_le : pos ≤ items.length

namespace ListCursor

variable {α : Type}

/-- The elements not read yet. -/
def remaining (c : ListCursor α) : List α := c.items.drop c.pos

/-- The cursor at the start of `items`. -/
def start (items : List α) : ListCursor α := ⟨items, 0, Nat.zero_le _⟩

/-- The element at the position and the cursor past it, or `none` at the end. -/
def next (c : ListCursor α) : Option (α × ListCursor α) :=
  if h : c.pos < c.items.length then some (c.items[c.pos], ⟨c.items, c.pos + 1, h⟩) else none

/-- The cursor moved to place `n`, or to the end where `n` passes it. -/
def seek (c : ListCursor α) (n : Nat) : ListCursor α :=
  ⟨c.items, min n c.items.length, Nat.min_le_right _ _⟩

/-- `next` called until it has returned `n` elements or reaches the end: the elements, and the
cursor after them. -/
def read : Nat → ListCursor α → List α × ListCursor α
  | 0, c => ([], c)
  | n + 1, c =>
    match c.next with
    | none => ([], c)
    | some (a, c') =>
      let r := read n c'
      (a :: r.1, r.2)

variable {c : ListCursor α} {m n : Nat}

@[simp] theorem start_items (items : List α) : (start items).items = items := rfl

@[simp] theorem start_pos (items : List α) : (start items).pos = 0 := rfl

@[simp] theorem start_remaining (items : List α) : (start items).remaining = items := rfl

@[simp] theorem seek_items (c : ListCursor α) (n : Nat) : (c.seek n).items = c.items := rfl

@[simp] theorem seek_pos (c : ListCursor α) (n : Nat) : (c.seek n).pos = min n c.items.length :=
  rfl

theorem remaining_seek (c : ListCursor α) (n : Nat) : (c.seek n).remaining = c.items.drop n := by
  rw [remaining, seek_pos, seek_items]
  rcases le_total n c.items.length with h | h
  · rw [Nat.min_eq_left h]
  · rw [Nat.min_eq_right h, List.drop_length, List.drop_eq_nil_of_le h]

theorem remaining_seek_add (c : ListCursor α) (k : Nat) :
    (c.seek (c.pos + k)).remaining = c.remaining.drop k := by
  rw [remaining_seek, remaining, List.drop_drop, Nat.add_comm]

@[simp] theorem seek_seek (c : ListCursor α) (m n : Nat) : (c.seek m).seek n = c.seek n := by
  ext <;> simp

@[simp] theorem seek_pos_self (c : ListCursor α) : c.seek c.pos = c := by
  ext <;> simp [c.pos_le]

theorem next_spec (c : ListCursor α) :
    c.next = match c.remaining with
      | [] => none
      | a :: _ => some (a, c.seek (c.pos + 1)) := by
  unfold next remaining
  split
  · next h =>
    rw [List.drop_eq_getElem_cons h]
    have hseek : (⟨c.items, c.pos + 1, h⟩ : ListCursor α) = c.seek (c.pos + 1) := by
      ext <;> simp
      omega
    rw [hseek]
  · next h =>
    rw [List.drop_eq_nil_of_le (Nat.le_of_not_lt h)]

theorem seek_of_remaining_eq_nil (h : c.remaining = []) (k : Nat) : c.seek (c.pos + k) = c := by
  have hend : c.items.length ≤ c.pos := by simpa [remaining, List.drop_eq_nil_iff] using h
  have hle := c.pos_le
  ext <;> simp
  omega

theorem next_of_remaining_eq_nil (h : c.remaining = []) : c.next = none := by
  rw [next_spec, h]

theorem next_of_remaining_eq_cons {a : α} {rest : List α} (h : c.remaining = a :: rest) :
    c.next = some (a, c.seek (c.pos + 1)) := by
  rw [next_spec, h]

theorem remaining_of_next {c' : ListCursor α} {a : α} (h : c.next = some (a, c')) :
    c.remaining = a :: c'.remaining := by
  rw [next_spec] at h
  cases hr : c.remaining with
  | nil =>
    rw [hr] at h
    cases h
  | cons b rest =>
    rw [hr] at h
    obtain ⟨rfl, rfl⟩ := Prod.mk.inj (Option.some.inj h)
    rw [remaining_seek_add, hr, List.drop_one, List.tail_cons]

theorem read_spec (n : Nat) (c : ListCursor α) :
    read n c = (c.remaining.take n, c.seek (c.pos + n)) := by
  induction n generalizing c with
  | zero => simp [read]
  | succ n ih =>
    cases hrem : c.remaining with
    | nil =>
      rw [read, next_of_remaining_eq_nil hrem, seek_of_remaining_eq_nil hrem, List.take_nil]
    | cons a rest =>
      have hrest : (c.seek (c.pos + 1)).remaining = rest := by
        rw [remaining_seek_add, hrem, List.drop_one, List.tail_cons]
      have hpos : (c.seek (c.pos + 1)).pos = c.pos + 1 := by
        have hlen := congrArg List.length hrem
        simp only [remaining, List.length_drop, List.length_cons] at hlen
        simp only [seek_pos]
        omega
      rw [read, next_of_remaining_eq_cons hrem]
      dsimp only
      rw [ih, hrest, hpos, seek_seek, List.take_succ_cons, Nat.add_assoc, Nat.add_comm 1 n]

theorem read_fst (n : Nat) (c : ListCursor α) : (read n c).1 = c.remaining.take n := by
  rw [read_spec]

theorem read_snd (n : Nat) (c : ListCursor α) : (read n c).2 = c.seek (c.pos + n) := by
  rw [read_spec]

theorem read_append_remaining (n : Nat) (c : ListCursor α) :
    (read n c).1 ++ (read n c).2.remaining = c.remaining := by
  rw [read_spec, remaining_seek_add, List.take_append_drop]

end ListCursor
