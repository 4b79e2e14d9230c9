-- A long list that is read a page at a time: what a page holds, what a reader
-- gets that asks again behind each page, and how a page is cut into entries.
import Mathlib.Algebra.Order.Ring.Nat
import Mathlib.Data.List.Basic

namespace listing

variable {α κ σ : Type*}

/-! ## Reading on -/

/-- What a reader puts together that asks for up to `n` pages, the first at `start`, and stops at
an empty one. -/
def gather (page : σ → List α) (next : σ → List α → σ) : Nat → σ → List α
  | 0, _ => []
  | n + 1, start =>
    if (page start).isEmpty then []
    else page start ++ gather page next n (next start (page start))

/-- The items of one kind at the head of the list, while the page has room for one more. -/
def fill [DecidableEq κ] (kind : α → κ) (size : κ → Nat) (room : Nat) (k : κ) :
    Nat → List α → List α
  | _, [] => []
  | used, a :: as =>
    if kind a = k then
      a :: if used + size k + size k ≤ room then fill kind size room k (used + size k) as else []
    else []

/-- The first item decides the kind, and is always taken. -/
def page [DecidableEq κ] (kind : α → κ) (size : κ → Nat) (room used : Nat) : List α → List α
  | [] => []
  | a :: as => fill kind size room (kind a) used (a :: as)

section Fill

variable [DecidableEq κ] {kind : α → κ} {size : κ → Nat} {room used : Nat} {k : κ} {l : List α}

end Fill

/-- The pieces of `n` items that a list is made of. -/
def chunks (n : Nat) (l : List α) : List (List α) :=
  (List.range (l.length / n)).map fun i => (l.drop (i * n)).take n

end listing
