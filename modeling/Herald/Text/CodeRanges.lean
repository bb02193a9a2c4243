set_option autoImplicit false

/-!
Sets of code points given as sorted, disjoint closed ranges, stored flat:
the first and last code point of each range in turn. Membership halves the
list of ranges until one range is left.
-/

namespace Herald.Text

/-- Whether `n` lies in one of the ranges with index at least `lo` and below
`hi`, given the flat bounds of sorted disjoint ranges; `fuel` bounds the
number of halvings. -/
def boundsContain (bounds : Array Nat) (n : Nat) : Nat → Nat → Nat → Bool
  | 0, _, _ => false
  | fuel + 1, lo, hi =>
    if hi ≤ lo then false
    else
      let mid := (lo + hi) / 2
      let first := bounds.getD (2 * mid) 0
      let last := bounds.getD (2 * mid + 1) 0
      if n < first then boundsContain bounds n fuel lo mid
      else if last < n then boundsContain bounds n fuel (mid + 1) hi
      else true

/-- Whether a code point lies in a set of ranges given by flat bounds. -/
def inRanges (bounds : Array Nat) (n : Nat) : Bool :=
  boundsContain bounds n 64 0 (bounds.size / 2)

end Herald.Text
