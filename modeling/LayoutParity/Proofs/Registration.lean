import LayoutParity.Catalogue
import LayoutParity.Proofs.Structs
import LayoutParity.Proofs.WellFormed

/-!
# Runs of registrations

`Registry.run` makes any sequence of calls of `register`, and a refused call leaves the registry as
it is. What one accepted call checks is `Registry.register_eq_ok_iff`: the name is free, the
declaration is well formed, and the structs its fields hold are registered with the same content.
`Registry.Grown` is the invariant of a run, with this one step as its constructor.

A call looks at direct structs only. That every struct at every depth is registered, earlier than
the declaration that holds it, is a consequence of the order in which a registry grows
(`Registry.Grown.inside_earlier`).

A run adds the declarations of the calls that succeed (`Registry.schemas_run`) and logs one line
about each of them (`Registry.runLog_eq`). The built-in structs are registered in this way
(`Registry.run_catalogue`).
-/

namespace LayoutParity

namespace Registry

/-- The registry after a call of `register`. -/
def attempt (registry : Registry) (schema : Schema) : Registry :=
  match registry.register schema with
  | .ok grown => grown
  | .error _ => registry

/-- The registry after calls of `register`, one for each declaration. -/
def run (registry : Registry) : List Schema → Registry
  | [] => registry
  | schema :: calls => (registry.attempt schema).run calls

/-- The declarations of the calls that succeed, in the order of the calls. -/
def accepted (registry : Registry) : List Schema → List Schema
  | [] => []
  | schema :: calls =>
    match registry.register schema with
    | .ok grown => schema :: grown.accepted calls
    | .error _ => registry.accepted calls

/-- What is logged by calls of `register`, one for each declaration. -/
def runLog (registry : Registry) : List Schema → List LogLine
  | [] => []
  | schema :: calls => registry.registerLog schema ++ (registry.attempt schema).runLog calls

/-! ## One call -/

theorem contains_iff_mem_names (registry : Registry) (name : String) :
    registry.contains name = true ↔ name ∈ registry.names := by
  simp only [contains, find?, List.find?_isSome, beq_iff_eq, names, List.mem_map]

theorem unregistered?_eq_none_iff (registry : Registry) (schema : Schema) :
    registry.unregistered? schema = none ↔
      ∀ inner ∈ schema.nested, registry.find? inner.name = some inner := by
  simp [unregistered?, List.find?_eq_none]

/-- A call succeeds exactly if the name is free, the declaration is well formed and the structs its
fields hold are registered with the same content; then the declaration is added at the end. -/
theorem register_eq_ok_iff (registry grown : Registry) (schema : Schema) :
    registry.register schema = .ok grown ↔
      schema.name ∉ registry.names ∧ schema.WellFormed ∧
        (∀ inner ∈ schema.nested, registry.find? inner.name = some inner) ∧
        grown = ⟨registry.schemas ++ [schema]⟩ := by
  rw [← contains_iff_mem_names, ← Schema.validate_eq_ok_iff, ← unregistered?_eq_none_iff, register]
  cases hc : registry.contains schema.name with
  | true => simp
  | false =>
    cases hv : schema.validate with
    | error problem => simp [bind, Except.bind]
    | ok _ =>
      cases hu : registry.unregistered? schema with
      | none => simp [bind, Except.bind, eq_comm]
      | some inner => simp [bind, Except.bind]

/-! ## The order in which a registry grows -/

/-- The declarations of a registry that has grown from nothing: each was well formed and of a free
name when it was added, and the structs its fields hold were there. -/
inductive Grown : List Schema → Prop
  | empty : Grown []
  | register {earlier : List Schema} {schema : Schema} : Grown earlier → schema.WellFormed →
      schema.name ∉ earlier.map (·.name) → (∀ inner ∈ schema.nested, inner ∈ earlier) →
      Grown (earlier ++ [schema])

namespace Grown

variable {schemas : List Schema}

theorem names_nodup (h : Grown schemas) : (schemas.map (·.name)).Nodup := by
  induction h with
  | empty => exact .nil
  | @register earlier schema _ _ hfree _ ih =>
    rw [List.map_append, List.nodup_append]
    refine ⟨ih, List.pairwise_singleton .., fun name hm other ho he => ?_⟩
    have ho : other = schema.name := List.mem_singleton.1 ho
    exact hfree (ho ▸ he ▸ hm)

theorem wellFormed (h : Grown schemas) : ∀ schema ∈ schemas, schema.WellFormed := by
  induction h with
  | empty => exact fun _ hm => nomatch hm
  | register _ hw _ _ ih =>
    intro schema hm
    rcases List.mem_append.1 hm with hm | hm
    · exact ih schema hm
    · exact List.mem_singleton.1 hm ▸ hw

/-- Every struct in a declaration, at any depth, was added before it. -/
theorem inside_earlier (h : Grown schemas) {position : Nat} {schema : Schema}
    (hp : schemas[position]? = some schema) {inner : Schema} (hi : inner ∈ schema.inside) :
    ∃ before < position, schemas[before]? = some inner := by
  induction h generalizing position schema inner with
  | empty => simp at hp
  | @register earlier added h hw hfree hnested ih =>
    -- What is found among the earlier declarations is still at its place.
    have hkeep : ∀ {place : Nat} {found : Schema}, earlier[place]? = some found →
        (earlier ++ [added])[place]? = some found := fun hf => by
      rw [List.getElem?_append_left (List.getElem?_eq_some_iff.1 hf).1, hf]
    rcases Nat.lt_or_ge position earlier.length with hlt | hge
    · rw [List.getElem?_append_left hlt] at hp
      obtain ⟨before, hb, hf⟩ := ih hp hi
      exact ⟨before, hb, hkeep hf⟩
    · rw [List.getElem?_append_right hge] at hp
      obtain rfl : added = schema := by
        have hm := List.mem_of_getElem? hp
        exact (List.mem_singleton.1 hm).symm
      obtain ⟨direct, hd, hs⟩ := Schema.mem_inside_iff.1 hi
      obtain ⟨place, hf⟩ := List.mem_iff_getElem?.1 (hnested direct hd)
      have hplace := (List.getElem?_eq_some_iff.1 hf).1
      rw [Schema.structs_eq] at hs
      rcases List.mem_cons.1 hs with rfl | hs
      · exact ⟨place, by omega, hkeep hf⟩
      · obtain ⟨before, hb, hf⟩ := ih hf hs
        exact ⟨before, by omega, hkeep hf⟩

/-- Every struct in a declaration, at any depth, is registered. -/
theorem mem_of_mem_structs (h : Grown schemas) {schema inner : Schema} (hm : schema ∈ schemas)
    (hi : inner ∈ schema.structs) : inner ∈ schemas := by
  rw [Schema.structs_eq] at hi
  rcases List.mem_cons.1 hi with rfl | hi
  · exact hm
  · obtain ⟨position, hp⟩ := List.mem_iff_getElem?.1 hm
    obtain ⟨before, -, hb⟩ := h.inside_earlier hp hi
    exact List.mem_of_getElem? hb

/-- A registered declaration is the one of its name. -/
theorem find?_eq_some (h : Grown schemas) {schema : Schema} (hm : schema ∈ schemas) :
    Registry.find? ⟨schemas⟩ schema.name = some schema :=
  find?_key_of_nodup h.names_nodup hm

/-- Every declaration of the registry names its fields apart at every depth. -/
theorem distinctNames (h : Grown schemas) {schema : Schema} (hm : schema ∈ schemas) :
    schema.DistinctNames :=
  fun struct hs => (h.wellFormed struct (h.mem_of_mem_structs hm hs)).distinct

end Grown

/-! ## Runs -/

/-- One call keeps the order. -/
theorem Grown.attempt {registry : Registry} (h : Grown registry.schemas) (schema : Schema) :
    Grown (registry.attempt schema).schemas := by
  rw [Registry.attempt]
  cases hr : registry.register schema with
  | error _ => exact h
  | ok grown =>
    obtain ⟨hfree, hw, hnested, rfl⟩ := (register_eq_ok_iff ..).1 hr
    exact .register h hw hfree fun inner hi => List.mem_of_find?_eq_some (hnested inner hi)

theorem Grown.run {registry : Registry} (h : Grown registry.schemas) (calls : List Schema) :
    Grown (registry.run calls).schemas := by
  induction calls generalizing registry with
  | nil => exact h
  | cons schema calls ih => exact ih (h.attempt schema)

/-- A run adds the declarations of the calls that succeed, in order. -/
theorem schemas_run (registry : Registry) (calls : List Schema) :
    (registry.run calls).schemas = registry.schemas ++ registry.accepted calls := by
  induction calls generalizing registry with
  | nil => exact (List.append_nil _).symm
  | cons schema calls ih =>
    rw [run, ih, attempt, accepted]
    cases hr : registry.register schema with
    | error _ => rfl
    | ok grown =>
      obtain ⟨-, -, -, rfl⟩ := (register_eq_ok_iff ..).1 hr
      exact List.append_assoc ..

/-- A run logs a line about each declaration that it registers, in order. -/
theorem runLog_eq (registry : Registry) (calls : List Schema) :
    registry.runLog calls = (registry.accepted calls).map registeredLine := by
  induction calls generalizing registry with
  | nil => rfl
  | cons schema calls ih =>
    rw [runLog, ih, registerLog, attempt, accepted]
    cases registry.register schema <;> rfl

/-- Registering the built-in structs in order refuses none of them and gives the catalogue. -/
theorem run_catalogue : empty.run Catalogue.schemas = .catalogue := by
  have haccepted : empty.accepted Catalogue.schemas = Catalogue.schemas := by decide +kernel
  have hschemas := schemas_run empty Catalogue.schemas
  rw [haccepted] at hschemas
  exact congrArg Registry.mk hschemas

theorem get_eq_ok_iff (registry : Registry) (name : String) (schema : Schema) :
    registry.get name = .ok schema ↔ registry.find? name = some schema := by
  rw [get]
  cases registry.find? name <;> simp

/-- Whatever calls are made of a new registry, its names are told apart and are those of the calls
that succeed, in order. A name can be looked up exactly if it is listed, and the declaration of that
name is found that was registered. Each registered declaration and every struct in it, at any depth,
is well formed, and every struct in it is the registered declaration of its name, which was
registered earlier. -/
theorem run_invariant (calls : List Schema) :
    let registry := empty.run calls
    let accepted := empty.accepted calls
    registry.names.Nodup ∧
    registry.schemas = accepted ∧
    registry.names = accepted.map (·.name) ∧
    (∀ name, ((∃ schema, registry.get name = .ok schema) ↔ registry.contains name = true) ∧
      (registry.contains name = true ↔ name ∈ registry.names) ∧
      ∀ schema, registry.get name = .ok schema ↔ schema ∈ accepted ∧ schema.name = name) ∧
    (∀ stored ∈ registry.schemas, ∀ struct ∈ stored.structs, struct.WellFormed) ∧
    ∀ (position : Nat) (stored : Schema), registry.schemas[position]? = some stored →
      ∀ inner ∈ stored.inside, registry.get inner.name = .ok inner ∧
        ∃ earlier < position, registry.schemas[earlier]? = some inner := by
  intro registry accepted
  have hg : Grown registry.schemas := Grown.empty.run calls
  have hs : registry.schemas = accepted := schemas_run empty calls
  have hget : ∀ name schema, registry.get name = .ok schema ↔
      schema ∈ accepted ∧ schema.name = name := by
    intro name schema
    rw [get_eq_ok_iff, ← hs]
    constructor
    · intro hf
      exact ⟨List.mem_of_find?_eq_some hf, by simpa using List.find?_some hf⟩
    · rintro ⟨hm, rfl⟩
      exact hg.find?_eq_some hm
  refine ⟨hg.names_nodup, hs, by rw [names, hs], fun name => ⟨?_, ?_, hget name⟩,
    fun stored hm struct hi => hg.wellFormed struct (hg.mem_of_mem_structs hm hi),
    fun position stored hp inner hi => ?_⟩
  · rw [contains, Option.isSome_iff_exists]
    exact exists_congr fun schema => get_eq_ok_iff ..
  · exact contains_iff_mem_names ..
  · obtain ⟨earlier, he, hf⟩ := hg.inside_earlier hp hi
    exact ⟨(hget _ _).2 ⟨hs ▸ List.mem_of_getElem? hf, rfl⟩, earlier, he, hf⟩

end Registry

end LayoutParity
