import LayoutParity.Proofs.Registration

/-!
# Calls of `register`

A call of `Registering.register` works on a registry in place: three checks, and then one change.
The checks only read, which is what `Registering.Answers` says of a computation, so a call that is
refused by any of them leaves the registry as it is. When the change is made the name is known to be
free, so the declaration comes last (`Registry.insertInto_of_free`). Together this is
`Registering.run_register`: the call in place agrees with `Registry.register`, on its result and on
the registry it leaves.

What `Registry.register` accepts is `Registry.register_eq_ok_iff`, and why it refuses the rest is
`Registry.register_eq_error_iff`.
-/

namespace LayoutParity

namespace Registry

/-! ## Which calls are accepted, and why the others are not -/

theorem name_notMem_names_iff (registry : Registry) (name : String) :
    name ∉ registry.names ↔ ∀ stored ∈ registry.schemas, stored.name ≠ name := by
  simp [names]

/-- A call is accepted exactly if the name is free, the declaration is valid, and each struct that
is the innermost element of a field is the registered one of its name. -/
theorem exists_register_eq_ok_iff (registry : Registry) (schema : Schema) :
    (∃ grown, registry.register schema = .ok grown) ↔
      (∀ stored ∈ registry.schemas, stored.name ≠ schema.name) ∧ schema.validate = .ok () ∧
        ∀ field ∈ schema.fields, ∀ inner, field.type.element = .struct inner →
          registry.get inner.name = .ok inner := by
  have hnested : (∀ inner ∈ schema.nested, registry.find? inner.name = some inner) ↔
      ∀ field ∈ schema.fields, ∀ inner, field.type.element = .struct inner →
        registry.get inner.name = .ok inner := by
    simp only [Schema.mem_nested_iff, get_eq_ok_iff]
    exact ⟨fun h field hf inner he => h inner ⟨field, hf, he⟩,
      fun h inner ⟨field, hf, he⟩ => h field hf inner he⟩
  rw [← name_notMem_names_iff, Schema.validate_eq_ok_iff, ← hnested]
  constructor
  · rintro ⟨grown, hg⟩
    obtain ⟨hfree, hw, hall, -⟩ := (register_eq_ok_iff ..).1 hg
    exact ⟨hfree, hw, hall⟩
  · rintro ⟨hfree, hw, hall⟩
    exact ⟨_, (register_eq_ok_iff ..).2 ⟨hfree, hw, hall, rfl⟩⟩

/-- A call is refused because the name is taken, whatever else is wrong; or else because of the
declaration's own first defect; or else because of the first struct that it holds and that is not
registered with the same content. -/
theorem register_eq_error_iff (registry : Registry) (schema : Schema) (problem : Problem) :
    registry.register schema = .error problem ↔
      (schema.name ∈ registry.names ∧ problem = .duplicateSchema schema.name) ∨
      schema.name ∉ registry.names ∧
        (schema.validate = .error problem ∨ schema.validate = .ok () ∧
          ∃ inner, registry.unregistered? schema = some inner ∧
            problem = .invalidSchema schema.name (.unregistered inner.name)) := by
  rw [← contains_iff_mem_names, register]
  cases hc : registry.contains schema.name with
  | true => simp [eq_comm]
  | false =>
    cases hv : schema.validate with
    | error own => simp [bind, Except.bind]
    | ok _ =>
      cases hu : registry.unregistered? schema with
      | none => simp [bind, Except.bind]
      | some inner => simp [bind, Except.bind, eq_comm]

/-- The content counts and not only the name: a struct may be registered with one type of a field
and held with another. -/
example :
    let light : Schema := ⟨"Light", [⟨"color", .primitive .vector3, none⟩]⟩
    let other : Schema := ⟨"Light", [⟨"color", .primitive .vector4, none⟩]⟩
    let scene : Schema := ⟨"Scene", [⟨"lights", .struct other, some 4⟩]⟩
    unregistered? ⟨[light]⟩ scene = some other := by
  cbv

/-- A declaration of a free name comes last. -/
theorem insertInto_of_free {schema : Schema} {schemas : List Schema}
    (h : ∀ stored ∈ schemas, stored.name ≠ schema.name) :
    insertInto schema schemas = schemas ++ [schema] := by
  induction schemas with
  | nil => rfl
  | cons stored rest ih =>
    obtain ⟨hstored, hrest⟩ := List.forall_mem_cons.1 h
    rw [insertInto, if_neg hstored, ih hrest, List.cons_append]

end Registry

/-- A declaration is refused under its own name. -/
theorem Schema.exists_of_validate_eq_error {schema : Schema} {problem : Problem}
    (h : schema.validate = .error problem) :
    ∃ defect, problem = .invalidSchema schema.name defect := by
  obtain ⟨defect, -, hproblem⟩ := Schema.validate_eq_error_iff.1 h
  exact ⟨defect, hproblem⟩

namespace Registering

/-! ## Computations that only read -/

/-- On this registry a computation has this result, and it leaves the registry as it is. -/
def Answers {α : Type} (action : Registering α) (registry : Registry)
    (result : Except Problem α) : Prop :=
  action.run.run registry = (result, registry)

section
variable {α β : Type} {registry : Registry}

/-- What follows a computation that only reads and succeeds runs on the same registry. -/
theorem Answers.andThen {action : Registering α} {value : α}
    (h : Answers action registry (.ok value)) (next : α → Registering β) :
    (action >>= next).run.run registry = (next value).run.run registry := by
  rw [Answers] at h
  rw [ExceptT.run_bind, StateT.run_bind, h]
  rfl

/-- Nothing follows a computation that fails. -/
theorem Answers.stop {action : Registering α} {problem : Problem}
    (h : Answers action registry (.error problem)) (next : α → Registering β) :
    Answers (action >>= next) registry (.error problem) := by
  rw [Answers] at h ⊢
  rw [ExceptT.run_bind, StateT.run_bind, h]
  rfl

end

section
variable (registry : Registry)

theorem answers_get : Answers get registry (.ok registry) := rfl

theorem answers_validate (schema : Schema) :
    Answers (liftM schema.validate) registry schema.validate := rfl

theorem answers_requireFree (name : String) :
    Answers (requireFree name) registry
      (if registry.contains name then .error (.duplicateSchema name) else .ok ()) := by
  rw [Answers, requireFree, (answers_get registry).andThen]
  split <;> rfl

theorem answers_requireRegistered (holder : String) (inner : Schema) :
    Answers (requireRegistered holder inner) registry
      (if registry.find? inner.name = some inner then .ok ()
        else .error (.invalidSchema holder (.unregistered inner.name))) := by
  rw [Answers, requireRegistered, (answers_get registry).andThen]
  split <;> rfl

/-- Checking structs one after the other fails at the first that is not registered. -/
theorem answers_requireAll (holder : String) (inners : List Schema) :
    Answers (inners.forM (requireRegistered holder)) registry
      (match inners.find? fun inner => registry.find? inner.name ≠ some inner with
        | none => .ok ()
        | some inner => .error (.invalidSchema holder (.unregistered inner.name))) := by
  induction inners with
  | nil => rfl
  | cons inner rest ih =>
    have hfirst := answers_requireRegistered registry holder inner
    have hcons : (inner :: rest).forM (requireRegistered holder) = (do
      requireRegistered holder inner
      rest.forM (requireRegistered holder)) := rfl
    rw [hcons]
    by_cases h : registry.find? inner.name = some inner
    · rw [if_pos h] at hfirst
      rw [Answers, hfirst.andThen, List.find?_cons_of_neg (by simpa using h)]
      exact ih
    · rw [if_neg h] at hfirst
      rw [List.find?_cons_of_pos (by simpa using h)]
      exact hfirst.stop _

/-! ## A call -/

/-- A call in place hands the declaration back and leaves the grown registry, or leaves the registry
as it is. -/
theorem run_register (schema : Schema) :
    (register schema).run.run registry =
      match registry.register schema with
      | .ok grown => (.ok schema, grown)
      | .error problem => (.error problem, registry) := by
  have hfree := answers_requireFree registry schema.name
  have hvalid := answers_validate registry schema
  have hnested := answers_requireAll registry schema.name schema.nested
  rw [register, Registry.register, Registry.unregistered?]
  cases hc : registry.contains schema.name with
  | true =>
    rw [hc] at hfree
    exact hfree.stop _
  | false =>
    rw [hc] at hfree
    rw [hfree.andThen]
    cases hv : schema.validate with
    | error problem =>
      rw [hv] at hvalid
      exact hvalid.stop _
    | ok _ =>
      rw [hv] at hvalid
      refine (hvalid.andThen _).trans ?_
      split at hnested
      · next hall =>
        have hnames : ∀ stored ∈ registry.schemas, stored.name ≠ schema.name := by
          simpa [Registry.contains, Registry.find?] using hc
        refine (hnested.andThen _).trans ?_
        rw [hall, ← Registry.insertInto_of_free hnames]
        rfl
      · next inner hfirst =>
        rw [hfirst]
        exact hnested.stop _

end

end Registering

/-- The registry after a call is the one that the call in place leaves. -/
theorem Registry.attempt_eq (registry : Registry) (schema : Schema) :
    registry.attempt schema = ((Registering.register schema).run.run registry).2 := by
  rw [Registering.run_register, Registry.attempt]
  cases registry.register schema <;> rfl

/-- On every registry, and so after any calls, a call of `register` succeeds exactly if no
registered declaration has the name, the declaration is valid, and each struct that is the innermost
element of a field is the registered one of its name. It then adds the declaration at the end and
hands it back. A call that fails leaves the registry as it is; it reports a taken name whatever else
is wrong, and otherwise an invalid declaration of this name: for what is wrong with it on its own,
or else for a struct that it holds and that is not registered with the same content. -/
theorem Registering.register_exact (registry : Registry) (schema : Schema) :
    let result := ((Registering.register schema).run.run registry).1
    let after := ((Registering.register schema).run.run registry).2
    ((∃ handle, result = .ok handle) ↔
      (∀ stored ∈ registry.schemas, stored.name ≠ schema.name) ∧ schema.validate = .ok () ∧
        ∀ field ∈ schema.fields, ∀ inner, field.type.element = .struct inner →
          registry.get inner.name = .ok inner) ∧
    (∀ handle, result = .ok handle →
      handle = schema ∧ after.schemas = registry.schemas ++ [schema]) ∧
    ∀ problem, result = .error problem → after = registry ∧
      ((∃ stored ∈ registry.schemas, stored.name = schema.name) →
        problem = .duplicateSchema schema.name) ∧
      ((∀ stored ∈ registry.schemas, stored.name ≠ schema.name) →
        ∃ defect, problem = .invalidSchema schema.name defect ∧
          (schema.validate = .error problem ∨ schema.validate = .ok () ∧
            ∃ inner ∈ schema.nested, registry.get inner.name ≠ .ok inner ∧
              defect = .unregistered inner.name)) := by
  intro result after
  have haccepted := registry.exists_register_eq_ok_iff schema
  have hrun := run_register registry schema
  cases hr : registry.register schema with
  | ok grown =>
    rw [hr] at hrun
    obtain ⟨-, -, -, rfl⟩ := (Registry.register_eq_ok_iff ..).1 hr
    have hresult : result = .ok schema := congrArg Prod.fst hrun
    have hafter : after = ⟨registry.schemas ++ [schema]⟩ := congrArg Prod.snd hrun
    rw [hresult, hafter]
    exact ⟨iff_of_true ⟨schema, rfl⟩ (haccepted.1 ⟨_, hr⟩),
      fun handle hh => ⟨(Except.ok.inj hh).symm, rfl⟩, nofun⟩
  | error refused =>
    rw [hr] at hrun
    have hresult : result = .error refused := congrArg Prod.fst hrun
    have hafter : after = registry := congrArg Prod.snd hrun
    have hrefused : ¬∃ grown, registry.register schema = .ok grown := by simp [hr]
    rw [hresult, hafter, ← haccepted, ← Registry.name_notMem_names_iff]
    refine ⟨iff_of_false nofun hrefused, nofun, fun problem hp => ⟨rfl, ?_⟩⟩
    obtain rfl : refused = problem := Except.error.inj hp
    obtain ⟨htaken, hproblem⟩ | ⟨hfree, hwhy⟩ := (Registry.register_eq_error_iff ..).1 hr
    · exact ⟨fun _ => hproblem, fun hfree => absurd htaken hfree⟩
    · refine ⟨fun ⟨stored, hs, hn⟩ => absurd (hn ▸ List.mem_map_of_mem hs) hfree, fun _ => ?_⟩
      obtain hinvalid | ⟨hvalid, inner, hu, hproblem⟩ := hwhy
      · obtain ⟨defect, hdefect⟩ := Schema.exists_of_validate_eq_error hinvalid
        exact ⟨defect, hdefect, .inl hinvalid⟩
      · have hcontent : registry.get inner.name ≠ .ok inner := by
          rw [ne_eq, Registry.get_eq_ok_iff]
          simpa using List.find?_some hu
        exact ⟨_, hproblem, .inr ⟨hvalid, inner, List.mem_of_find?_eq_some hu, hcontent, rfl⟩⟩

end LayoutParity
