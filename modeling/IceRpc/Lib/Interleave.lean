/-
Module: IceRpc.Lib.Interleave
Purpose: Interleavings of two lists, each kept in its order.
Trusted boundary: none
Main exports: Interleaves, Interleaves.snoc_left, Interleaves.snoc_right
-/

namespace IceRpc.Lib

variable {α : Type _}

/-- The third list is made of the items of the first two, nothing left out and nothing
twice, those of each list in their order. -/
inductive Interleaves : List α → List α → List α → Prop
  | nil : Interleaves [] [] []
  | left {left right both : List α} (item : α) :
      Interleaves left right both → Interleaves (item :: left) right (item :: both)
  | right {left right both : List α} (item : α) :
      Interleaves left right both → Interleaves left (item :: right) (item :: both)

namespace Interleaves

variable {left right both : List α}

theorem snoc_left (woven : Interleaves left right both) (item : α) :
    Interleaves (left ++ [item]) right (both ++ [item]) := by
  induction woven with
  | nil => exact .left item .nil
  | left first _ ih => exact .left first ih
  | right first _ ih => exact .right first ih

theorem snoc_right (woven : Interleaves left right both) (item : α) :
    Interleaves left (right ++ [item]) (both ++ [item]) := by
  induction woven with
  | nil => exact .right item .nil
  | left first _ ih => exact .left first ih
  | right first _ ih => exact .right first ih

end Interleaves

end IceRpc.Lib
