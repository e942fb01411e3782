import Mathlib.Data.List.Count
import Mathlib.Algebra.BigOperators.Group.List.Basic
import Mathlib.Algebra.GroupWithZero.Nat

/-!
# Updates of the first element of a kind

A container searched from its beginning, whose found element is changed in place or erased: the
list with `f` applied to its first element that satisfies `p`, and `List.eraseP`.

Both are read through the element that is found, `List.find? p`: what is counted, what is
mapped, and which elements there are.

## Main definitions

* `modifyFirst p f l`: `f` applied to the first element of `l` that satisfies `p`

## Main results

* `countP_modifyFirst`, `countP_eraseP`: the elements of a kind, before and after
* `sum_map_modifyFirst`, `sum_map_eraseP`: a sum over the elements, before and after
* `map_modifyFirst`: what `f` keeps is kept
* `mem_modifyFirst`: an element of the result is an element, or the changed one
-/

namespace Commons

variable {α β : Type*}

/-- `f` applied to the first element that satisfies `p`. -/
def modifyFirst (p : α → Bool) (f : α → α) : List α → List α
  | [] => []
  | x :: l => if p x then f x :: l else x :: modifyFirst p f l

variable {p : α → Bool} {f : α → α} {l : List α}

@[simp] theorem modifyFirst_nil : modifyFirst p f [] = [] := rfl

theorem map_modifyFirst {g : α → β} (hg : ∀ x, g (f x) = g x) :
    (modifyFirst p f l).map g = l.map g := by
  induction l with
  | nil => rfl
  | cons x l ih =>
    simp only [modifyFirst]
    split_ifs <;> simp [ih, hg]

theorem mem_modifyFirst {y : α} (h : y ∈ modifyFirst p f l) :
    y ∈ l ∨ ∃ x, l.find? p = some x ∧ y = f x := by
  induction l with
  | nil => simp at h
  | cons x l ih =>
    simp only [modifyFirst] at h
    cases hx : p x with
    | true =>
      simp only [hx, if_true, List.mem_cons] at h
      rcases h with rfl | h
      · exact .inr ⟨x, by simp [hx], rfl⟩
      · exact .inl (List.mem_cons_of_mem _ h)
    | false =>
      simp only [hx, Bool.false_eq_true, if_false, List.mem_cons] at h
      rcases h with rfl | h
      · exact .inl (by simp)
      · rcases ih h with h | ⟨z, hz, rfl⟩
        · exact .inl (List.mem_cons_of_mem _ h)
        · exact .inr ⟨z, by simp [hx, hz], rfl⟩

/-- **The list around the element that is found**: what is changed, or erased, is that one. -/
theorem exists_append_of_find? (f : α → α) {x : α} (h : l.find? p = some x) :
    ∃ l₁ l₂, l = l₁ ++ x :: l₂ ∧ modifyFirst p f l = l₁ ++ f x :: l₂ ∧ l.eraseP p = l₁ ++ l₂ := by
  induction l with
  | nil => simp at h
  | cons y l ih =>
    rw [List.find?_cons] at h
    cases hy : p y with
    | true =>
      simp only [hy, Option.some.injEq] at h
      subst h
      exact ⟨[], l, rfl, by simp [modifyFirst, hy], by simp [hy]⟩
    | false =>
      simp only [hy] at h
      obtain ⟨l₁, l₂, hl, hmodify, herase⟩ := ih h
      refine ⟨y :: l₁, l₂, congrArg _ hl, ?_, ?_⟩
      · simp [modifyFirst, hy, hmodify]
      · simp [hy, herase]

theorem mem_modifyFirst_of_find? {x : α} (h : l.find? p = some x) : f x ∈ modifyFirst p f l := by
  obtain ⟨l₁, l₂, -, hmodify, -⟩ := exists_append_of_find? f h
  simp [hmodify]

theorem find?_modifyFirst (hp : ∀ x, p (f x) = p x) :
    (modifyFirst p f l).find? p = (l.find? p).map f := by
  induction l with
  | nil => rfl
  | cons x l ih =>
    cases hx : p x with
    | true => simp [modifyFirst, hx, hp]
    | false => simp [modifyFirst, hx, ih]

theorem modifyFirst_of_fixed {x : α} (h : l.find? p = some x) (hx : f x = x) :
    modifyFirst p f l = l := by
  obtain ⟨l₁, l₂, hl, hmodify, -⟩ := exists_append_of_find? f h
  rw [hmodify, hx, hl]

theorem forall₂_modifyFirst {r : α → α → Prop} (hsame : ∀ x, r x x) (hf : ∀ x, r x (f x)) :
    List.Forall₂ r l (modifyFirst p f l) := by
  induction l with
  | nil => exact .nil
  | cons x l ih =>
    simp only [modifyFirst]
    split_ifs
    · exact .cons (hf x) (List.forall₂_same.mpr fun y _ => hsame y)
    · exact .cons (hsame x) ih

theorem find?_eq_some_of_unique {x : α} (hx : x ∈ l) (hp : p x = true)
    (hunique : ∀ y ∈ l, p y = true → y = x) : l.find? p = some x := by
  cases h : l.find? p with
  | none => exact absurd hp (List.find?_eq_none.mp h x hx)
  | some y =>
    rw [hunique y (List.mem_of_find?_eq_some h) (List.find?_some h)]

theorem countP_modifyFirst (q : α → Bool) {x : α} (h : l.find? p = some x) :
    (modifyFirst p f l).countP q + (if q x then 1 else 0) =
      l.countP q + (if q (f x) then 1 else 0) := by
  obtain ⟨l₁, l₂, hl, hmodify, -⟩ := exists_append_of_find? f h
  rw [hmodify, hl]
  simp only [List.countP_append, List.countP_cons]
  omega

theorem countP_eraseP (q : α → Bool) {x : α} (h : l.find? p = some x) :
    (l.eraseP p).countP q + (if q x then 1 else 0) = l.countP q := by
  obtain ⟨l₁, l₂, hl, -, herase⟩ := exists_append_of_find? id h
  rw [herase, hl]
  simp only [List.countP_append, List.countP_cons]
  omega

theorem sum_map_modifyFirst (g : α → ℕ) {x : α} (h : l.find? p = some x) :
    ((modifyFirst p f l).map g).sum + g x = (l.map g).sum + g (f x) := by
  obtain ⟨l₁, l₂, hl, hmodify, -⟩ := exists_append_of_find? f h
  rw [hmodify, hl]
  simp only [List.map_append, List.map_cons, List.sum_append, List.sum_cons]
  omega

theorem sum_map_eraseP (g : α → ℕ) {x : α} (h : l.find? p = some x) :
    ((l.eraseP p).map g).sum + g x = (l.map g).sum := by
  obtain ⟨l₁, l₂, hl, -, herase⟩ := exists_append_of_find? id h
  rw [herase, hl]
  simp only [List.map_append, List.map_cons, List.sum_append, List.sum_cons]
  omega

theorem eraseP_of_find?_eq_none (h : l.find? p = none) : l.eraseP p = l :=
  List.eraseP_of_forall_not fun x hx => by simpa using List.find?_eq_none.mp h x hx

end Commons
