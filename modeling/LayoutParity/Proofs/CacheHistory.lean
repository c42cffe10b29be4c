import LayoutParity.Proofs.Comparator
import LayoutParity.Registry
import Mathlib.Data.List.Dedup
import Mathlib.Data.List.DropRight

/-!
# Remembering layouts changes no answer

A cache is asked in any order for remembered layouts, for computed ones and for its size, and is
cleared. What it holds after a history of calls is `LayoutCache.Remembers`: the computed layouts of
the keys computed since the last `clear` (`LayoutCache.Call.computed`), each once. One call keeps
this (`LayoutCache.Remembers.after`), so it holds after every history (`LayoutCache.remembers_run`)
and fixes every answer.

A comparator asks its cache for two layouts in each comparison and changes nothing else. Its state
is therefore that of a cache after a history of its own (`Comparator.run_eq`), and what it finds
does not depend on this history (`Comparator.compare_withHistory`,
`Comparator.compareAll_withHistory`).
-/

namespace LayoutParity

namespace LayoutCache

/-- What can be asked of a cache. -/
inductive Call where
  | find (schema : Schema) (policy : Policy)
  | compute (schema : Schema) (policy : Policy)
  | clear
  | size

namespace Call

def isClear : Call → Bool
  | clear => true
  | find .. | compute .. | size => false

/-- The key of a call that makes the cache remember a layout. -/
def computes? : Call → Option (Schema × Policy)
  | compute schema policy => some (schema, policy)
  | find .. | clear | size => none

/-- The keys that were computed since the cache was last cleared, one for each call. -/
def computed (calls : List Call) : List (Schema × Policy) :=
  (calls.rtakeWhile fun call => !call.isClear).filterMap computes?

end Call

/-- The cache after a call. -/
def after (arith : Arithmetic) (cache : LayoutCache) : Call → LayoutCache
  | .compute schema policy => (cache.compute arith schema policy).2
  | .clear => .empty
  | .find .. | .size => cache

/-- The cache after a history of calls. -/
def run (arith : Arithmetic) (cache : LayoutCache) (calls : List Call) : LayoutCache :=
  calls.foldl (after arith) cache

theorem run_concat (arith : Arithmetic) (cache : LayoutCache) (calls : List Call) (call : Call) :
    cache.run arith (calls ++ [call]) = (cache.run arith calls).after arith call :=
  List.foldl_concat ..

/-! ## Keys computed since the last `clear` -/

theorem Call.computed_concat (calls : List Call) (call : Call) :
    computed (calls ++ [call]) =
      if call.isClear then [] else computed calls ++ call.computes?.toList := by
  rw [computed]
  cases call with
  | clear => rw [List.rtakeWhile_concat_neg _ _ _ (by decide)]; rfl
  | find | compute | size =>
    rw [List.rtakeWhile_concat_pos _ _ _ rfl, List.filterMap_append]
    rfl

/-! ## Hits and misses -/

variable {arith : Arithmetic} {cache : LayoutCache} {schema : Schema} {policy : Policy}

theorem compute_of_hit {layout : Layout} (h : cache.find? schema policy = some layout) :
    cache.compute arith schema policy = (layout, cache) := by
  rw [compute, h]

theorem compute_of_miss (h : cache.find? schema policy = none) :
    cache.compute arith schema policy = (schema.layout arith policy,
      ⟨((schema, policy), schema.layout arith policy) :: cache.entries⟩) := by
  rw [compute, h]

/-- Computing leaves the cache unchanged exactly if it finds the layout there. -/
theorem compute_eq_self_iff {layout : Layout} :
    cache.compute arith schema policy = (layout, cache) ↔
      cache.find? schema policy = some layout := by
  refine ⟨fun h => ?_, compute_of_hit⟩
  cases hf : cache.find? schema policy with
  | some found =>
    rw [compute_of_hit hf] at h
    obtain ⟨rfl, -⟩ := Prod.mk.inj h
    rfl
  | none =>
    rw [compute_of_miss hf] at h
    have hentries := congrArg (fun result => result.2.entries.length) h
    simp at hentries

/-- A key is found exactly if it has an entry. -/
theorem find?_eq_none_iff :
    cache.find? schema policy = none ↔ (schema, policy) ∉ cache.entries.map (·.1) := by
  rw [find?, List.lookup_eq_none_iff]
  constructor
  · intro h hm
    obtain ⟨entry, he, hk⟩ := List.mem_map.1 hm
    simpa [hk] using h entry he
  · intro h entry he
    have hne : (schema, policy) ≠ entry.1 := fun hk => h (hk ▸ List.mem_map_of_mem he)
    simpa using hne

theorem mem_of_find?_eq_some {layout : Layout} (h : cache.find? schema policy = some layout) :
    ((schema, policy), layout) ∈ cache.entries := by
  obtain ⟨before, behind, he, -⟩ := List.lookup_eq_some_iff.1 h
  rw [he]
  exact List.mem_append_right _ (.head _)

/-! ## What a cache holds -/

/-- The cache holds the computed layouts of these keys, each once, and nothing else. -/
structure Remembers (arith : Arithmetic) (cache : LayoutCache) (keys : List (Schema × Policy)) :
    Prop where
  layouts : ∀ entry ∈ cache.entries, entry.2 = entry.1.1.layout arith entry.1.2
  keys : ∀ key, key ∈ cache.entries.map (·.1) ↔ key ∈ keys
  nodup : (cache.entries.map (·.1)).Nodup

theorem remembers_empty (arith : Arithmetic) : empty.Remembers arith [] :=
  ⟨List.forall_mem_nil _, fun _ => Iff.rfl, .nil⟩

namespace Remembers

variable {keys : List (Schema × Policy)} (h : cache.Remembers arith keys)
include h

theorem find?_eq_some_iff {layout : Layout} :
    cache.find? schema policy = some layout ↔
      (schema, policy) ∈ keys ∧ layout = schema.layout arith policy := by
  have hfound : ∀ {layout}, cache.find? schema policy = some layout →
      layout = schema.layout arith policy := fun hf => h.layouts _ (mem_of_find?_eq_some hf)
  constructor
  · intro hf
    have hm := List.mem_map_of_mem (f := (·.1)) (mem_of_find?_eq_some hf)
    exact ⟨(h.keys _).1 hm, hfound hf⟩
  · rintro ⟨hk, rfl⟩
    cases hf : cache.find? schema policy with
    | some layout => rw [hfound hf]
    | none => exact absurd ((h.keys _).2 hk) (find?_eq_none_iff.1 hf)

theorem compute_fst (schema : Schema) (policy : Policy) :
    (cache.compute arith schema policy).1 = schema.layout arith policy := by
  cases hf : cache.find? schema policy with
  | some layout =>
    rw [compute_of_hit hf]
    exact (h.find?_eq_some_iff.1 hf).2
  | none => rw [compute_of_miss hf]

/-- Computing a key adds it if it is new. -/
theorem compute_snd (schema : Schema) (policy : Policy) :
    (cache.compute arith schema policy).2.Remembers arith (keys ++ [(schema, policy)]) := by
  cases hf : cache.find? schema policy with
  | some layout =>
    have hold : (schema, policy) ∈ keys := (h.find?_eq_some_iff.1 hf).1
    rw [compute_of_hit hf]
    refine ⟨h.layouts, fun key => ?_, h.nodup⟩
    rw [h.keys, List.mem_append, List.mem_singleton]
    exact ⟨.inl, fun hk => hk.elim id fun he => he ▸ hold⟩
  | none =>
    have hnew := find?_eq_none_iff.1 hf
    rw [compute_of_miss hf]
    refine ⟨List.forall_mem_cons.2 ⟨rfl, h.layouts⟩, fun key => ?_, ?_⟩
    · rw [List.map_cons, List.mem_cons, h.keys, List.mem_append, List.mem_singleton, or_comm]
    · rw [List.map_cons, List.nodup_cons]
      exact ⟨hnew, h.nodup⟩

/-- The size counts different keys. -/
theorem size_eq : cache.size = keys.dedup.length := by
  have hperm : (cache.entries.map (·.1)).Perm keys.dedup :=
    (List.perm_ext_iff_of_nodup h.nodup (List.nodup_dedup _)).2 fun key => by
      rw [h.keys, List.mem_dedup]
  rw [← hperm.length_eq, List.length_map, size]

/-- One call keeps what the cache holds in step with the keys computed. -/
theorem after (call : Call) :
    (cache.after arith call).Remembers arith
      (if call.isClear then [] else keys ++ call.computes?.toList) := by
  cases call with
  | clear => exact remembers_empty arith
  | compute schema policy => exact h.compute_snd schema policy
  | find | size =>
    have hkeys : keys ++ [] = keys := List.append_nil keys
    exact hkeys.symm ▸ h

end Remembers

/-- After every history a cache holds the layouts computed since it was last cleared. -/
theorem remembers_run (arith : Arithmetic) (calls : List Call) :
    (empty.run arith calls).Remembers arith (Call.computed calls) := by
  induction calls using List.reverseRecOn with
  | nil => exact remembers_empty arith
  | append_singleton calls call ih =>
    rw [run_concat, Call.computed_concat]
    exact ih.after call

end LayoutCache

namespace Comparator

/-- What can be asked of a comparator. -/
inductive Call where
  | compare (schema : Schema)
  | compareAll (registry : Registry)

/-- The comparator after a call. -/
def after (comparator : Comparator) : Call → Comparator
  | .compare schema => (comparator.compare schema).2
  | .compareAll registry => (comparator.compareAll registry.schemas).2

/-- The comparator after a history of calls. -/
def run (comparator : Comparator) (calls : List Call) : Comparator :=
  calls.foldl after comparator

/-- The structs that a call compares. -/
def Call.schemas : Call → List Schema
  | compare schema => [schema]
  | compareAll registry => registry.schemas

/-! ## A comparator only asks for layouts -/

section
variable (arith : Arithmetic) (host device : Policy) (nested : Bool)

/-- The calls that comparing a struct makes of the cache. -/
def lookups (schema : Schema) : List LayoutCache.Call :=
  [.compute schema host, .compute schema device]

/-- The comparator of these settings whose cache has this history. -/
def withHistory (calls : List LayoutCache.Call) : Comparator :=
  ⟨arith, host, device, nested, LayoutCache.empty.run arith calls⟩

/-- Whatever the history of its cache, a comparator finds what a new one finds. -/
theorem compare_withHistory (calls : List LayoutCache.Call) (schema : Schema) :
    (withHistory arith host device nested calls).compare schema =
      (((fresh arith host device nested).compare schema).1,
        withHistory arith host device nested (calls ++ lookups host device schema)) := by
  have hfirst := LayoutCache.remembers_run arith calls
  have hsecond := hfirst.compute_snd schema host
  have hrun : LayoutCache.empty.run arith (calls ++ lookups host device schema) =
      (((LayoutCache.empty.run arith calls).compute arith schema host).2.compute arith schema
        device).2 :=
    List.foldl_append
  rw [compare_fresh, withHistory, withHistory, hrun]
  simp only [compare, hfirst.compute_fst, hsecond.compute_fst]

theorem compareAll_withHistory (calls : List LayoutCache.Call) (schemas : List Schema) :
    (withHistory arith host device nested calls).compareAll schemas =
      (schemas.map fun schema => ((fresh arith host device nested).compare schema).1,
        withHistory arith host device nested (calls ++ schemas.flatMap (lookups host device))) := by
  induction schemas generalizing calls with
  | nil => rw [List.flatMap_nil, List.append_nil]; rfl
  | cons schema rest ih =>
    rw [compareAll, compare_withHistory]
    dsimp only
    rw [ih, List.map_cons, List.flatMap_cons, List.append_assoc]

/-- The state of a comparator is that of a cache. -/
theorem run_eq (calls : List Call) :
    (fresh arith host device nested).run calls =
      withHistory arith host device nested
        ((calls.flatMap Call.schemas).flatMap (lookups host device)) := by
  induction calls using List.reverseRecOn with
  | nil => rfl
  | append_singleton calls call ih =>
    rw [run, List.foldl_concat, ← run, ih, List.flatMap_append, List.flatMap_append]
    cases call with
    | compare schema => rw [after, compare_withHistory]; simp [Call.schemas]
    | compareAll registry => rw [after, compareAll_withHistory]; simp [Call.schemas]

/-- Whatever a comparator was used for before, it finds what a new one finds. -/
theorem compare_run (calls : List Call) (schema : Schema) :
    (((fresh arith host device nested).run calls).compare schema).1 =
      ((fresh arith host device nested).compare schema).1 := by
  rw [run_eq, compare_withHistory]

end

end Comparator

/-- Caches and comparators answer as if they remembered nothing. After any history of calls a cache
returns the computed layout of whatever struct and policy it is asked for. It finds a layout
without computing exactly if the same declaration was computed under the same policy since the cache
was last cleared; exactly then computing returns what the cache holds and leaves it unchanged, as
looking up always does. Its size is the number of different keys computed since.

Whatever a comparator was used for before, it finds in a struct what a new one of the same settings
finds, and so in every struct of a registry, in order. -/
theorem Comparator.history_irrelevant :
    (∀ (arith : Arithmetic) (calls : List LayoutCache.Call),
      let cache := LayoutCache.empty.run arith calls
      let keys := LayoutCache.Call.computed calls
      (∀ schema policy, (cache.compute arith schema policy).1 = schema.layout arith policy) ∧
      (∀ schema policy layout, cache.find? schema policy = some layout ↔
        (schema, policy) ∈ keys ∧ layout = schema.layout arith policy) ∧
      (∀ schema policy layout, cache.compute arith schema policy = (layout, cache) ↔
        cache.find? schema policy = some layout) ∧
      (∀ schema policy, cache.after arith (.find schema policy) = cache ∧
        cache.after arith .size = cache) ∧
      cache.size = keys.dedup.length) ∧
    ∀ (arith : Arithmetic) (host device : Policy) (nested : Bool)
      (calls : List Comparator.Call),
      let comparator := (Comparator.fresh arith host device nested).run calls
      let alone (schema : Schema) := ((Comparator.fresh arith host device nested).compare schema).1
      (∀ schema, (comparator.compare schema).1 = alone schema) ∧
      ∀ registry : Registry,
        (comparator.compareAll registry.schemas).1 = registry.schemas.map alone := by
  refine ⟨fun arith calls => ?_, fun arith host device nested calls => ?_⟩
  · have h := LayoutCache.remembers_run arith calls
    exact ⟨h.compute_fst, fun _ _ _ => h.find?_eq_some_iff,
      fun _ _ _ => LayoutCache.compute_eq_self_iff, fun _ _ => ⟨rfl, rfl⟩, h.size_eq⟩
  · intro comparator alone
    have hrun : comparator = _ := Comparator.run_eq arith host device nested calls
    rw [hrun]
    refine ⟨fun schema => ?_, fun registry => ?_⟩
    · rw [Comparator.compare_withHistory]
    · rw [Comparator.compareAll_withHistory]

end LayoutParity
