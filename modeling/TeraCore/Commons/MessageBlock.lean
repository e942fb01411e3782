import Mathlib.Data.List.Basic

/-!
# Message blocks

A message block is a buffer of a fixed size that is written to at its end and read from at its
front.  What was read still takes up room, until the block is crunched or reset.

## Main definitions

* `MessageBlock`: what was written, within the size, and where to read
* `MessageBlock.copy`, `MessageBlock.advance`, `MessageBlock.crunch`, `MessageBlock.reset`
-/

namespace Commons

variable {α : Type*}

/-- **A message block**: what was written to it, and how much of that was read. -/
structure MessageBlock (α : Type*) where
  size : ℕ
  data : List α
  rd : ℕ
  fits : data.length ≤ size

namespace MessageBlock

variable (b : MessageBlock α)

/-- An empty block. -/
def new (size : ℕ) : MessageBlock α := ⟨size, [], 0, Nat.zero_le size⟩

/-- What was not read yet. -/
def unread : List α := b.data.drop b.rd

def length : ℕ := b.unread.length

/-- The room at the end. -/
def space : ℕ := b.size - b.data.length

/-- **`copy`** to the end, if there is room. -/
def copy (l : List α) : Option (MessageBlock α) :=
  if h : b.data.length + l.length ≤ b.size then
    some ⟨b.size, b.data ++ l, b.rd, by rwa [List.length_append]⟩
  else none

/-- `rd_ptr(n)` -/
def advance (n : ℕ) : MessageBlock α := { b with rd := b.rd + n }

/-- What was not read yet is moved to the base. -/
def crunch : MessageBlock α :=
  ⟨b.size, b.unread, 0, Nat.le_trans (List.drop_sublist b.rd b.data).length_le b.fits⟩

/-- Everything is forgotten. -/
def reset : MessageBlock α := new b.size

variable {b}

@[simp] theorem unread_new (size : ℕ) : (new size : MessageBlock α).unread = [] := rfl

@[simp] theorem space_new (size : ℕ) : (new size : MessageBlock α).space = size := rfl

@[simp] theorem unread_crunch : b.crunch.unread = b.unread := rfl

theorem unread_advance (n : ℕ) : (b.advance n).unread = b.unread.drop n := by
  rw [unread, unread, List.drop_drop]
  rfl

/-- **What fits is copied.** -/
theorem copy_of_le {l : List α} (h : l.length ≤ b.space) :
    ∃ b', b.copy l = some b' ∧ b'.size = b.size ∧ b'.data = b.data ++ l ∧ b'.rd = b.rd := by
  have hfits : b.data.length + l.length ≤ b.size := by
    have := b.fits
    unfold space at h
    omega
  exact ⟨_, dif_pos hfits, rfl, rfl, rfl⟩

end MessageBlock

end Commons
