import LayoutParity.Comparison.Divergence
import LayoutParity.Layout.Cache
import LayoutParity.Log

/-!
# Comparisons

A comparator lays structs out under the policies of host and device and lists how the layouts
diverge. It remembers the layouts it has computed, which makes no difference to what it finds. Each
comparison is logged: the layouts that are computed for it, a warning for every divergence and an
information on their number.
-/

namespace LayoutParity

/-- The layouts of a struct on both sides and how they diverge. -/
structure Comparison where
  name : String
  host : Layout
  device : Layout
  divergences : List Divergence

namespace Comparison

/-- Whether nothing diverges. -/
def isEquivalent (comparison : Comparison) : Bool :=
  comparison.divergences.isEmpty

/-- The divergences that are about a field. -/
def fieldDivergences (comparison : Comparison) : List Divergence :=
  comparison.divergences.filter fun divergence => !divergence.isWhole

/-- The comparison as a paragraph, each line ended. -/
def text (comparison : Comparison) : String :=
  s!"{comparison.name}: {comparison.host.policy.name} vs {comparison.device.policy.name}\n"
    ++ if comparison.isEquivalent then s!"  layouts match ({comparison.host.size} bytes)\n"
      else String.join (comparison.divergences.map fun divergence => s!"  {divergence.text}\n")

/-- What is logged about what a comparison finds. -/
def log (comparison : Comparison) : List LogLine :=
  comparison.divergences.map (fun divergence => ⟨.warn, divergence.text⟩)
    ++ [⟨.info, s!"{comparison.name}: {comparison.divergences.length} divergence(s) between "
        ++ s!"{comparison.host.policy.name} and {comparison.device.policy.name}"⟩]

end Comparison

/-- Compares structs under two policies. -/
structure Comparator where
  /-- How the sizes and offsets are calculated. -/
  arith : Arithmetic
  host : Policy
  device : Policy
  /-- Whether the fields of nested structs are compared too. -/
  nested : Bool
  cache : LayoutCache

namespace Comparator

/-- A comparator that has computed no layout. -/
def fresh (arith : Arithmetic) (host device : Policy) (nested : Bool) : Comparator :=
  ⟨arith, host, device, nested, .empty⟩

/-- The comparison of a struct, and the comparator that remembers its layouts. -/
def compare (comparator : Comparator) (schema : Schema) : Comparison × Comparator :=
  let arith := comparator.arith
  let (host, cache) := comparator.cache.compute arith schema comparator.host
  let (device, cache) := cache.compute arith schema comparator.device
  (⟨schema.name, host, device, host.divergences arith schema.name comparator.nested device⟩,
    { comparator with cache })

/-- What is logged while a struct is compared. -/
def compareLog (comparator : Comparator) (schema : Schema) : List LogLine :=
  let arith := comparator.arith
  let (_, cache) := comparator.cache.compute arith schema comparator.host
  comparator.cache.computeLog arith schema comparator.host
    ++ cache.computeLog arith schema comparator.device
    ++ (comparator.compare schema).1.log

/-- The comparisons of structs one after the other. -/
def compareAll (comparator : Comparator) : List Schema → List Comparison × Comparator
  | [] => ([], comparator)
  | schema :: rest =>
    let (comparison, comparator) := comparator.compare schema
    let (comparisons, comparator) := comparator.compareAll rest
    (comparison :: comparisons, comparator)

end Comparator

/-- How the layouts of a struct diverge under two policies, apart from the structs in it. -/
def Schema.divergences (arith : Arithmetic) (schema : Schema) (host device : Policy) :
    List Divergence :=
  ((Comparator.fresh arith host device false).compare schema).1.divergences

end LayoutParity
