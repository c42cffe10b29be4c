import LayoutParity.Schema.Basic

/-!
# Equality of declarations

Declarations are compared by their whole content: two structs are the same only if their names and
all their fields are, at every depth. A repeat count and an array type are told apart, and so are
structs of one name with different fields.
-/

namespace LayoutParity

mutual

/-- Whether two types are the same. -/
def FieldType.decEq : (s t : FieldType) → Decidable (s = t)
  | .primitive p, .primitive q =>
    if h : p = q then isTrue (h ▸ rfl) else isFalse fun e => h (FieldType.primitive.inj e)
  | .struct s, .struct t =>
    match s.decEq t with
    | isTrue h => isTrue (h ▸ rfl)
    | isFalse h => isFalse fun e => h (FieldType.struct.inj e)
  | .array s m, .array t n =>
    match s.decEq t with
    | isTrue h =>
      if hn : m = n then isTrue (h ▸ hn ▸ rfl) else isFalse fun e => hn (FieldType.array.inj e).2
    | isFalse h => isFalse fun e => h (FieldType.array.inj e).1
  | .primitive _, .struct _ | .primitive _, .array .. => isFalse nofun
  | .struct _, .primitive _ | .struct _, .array .. => isFalse nofun
  | .array .., .primitive _ | .array .., .struct _ => isFalse nofun

/-- Whether two struct declarations are the same. -/
def Schema.decEq : (s t : Schema) → Decidable (s = t)
  | ⟨n, fields⟩, ⟨m, others⟩ =>
    match Field.decEqList fields others with
    | isTrue h =>
      if hn : n = m then isTrue (h ▸ hn ▸ rfl) else isFalse fun e => hn (Schema.mk.inj e).1
    | isFalse h => isFalse fun e => h (Schema.mk.inj e).2

/-- Whether two lists of fields are the same. -/
def Field.decEqList : (fs gs : List Field) → Decidable (fs = gs)
  | [], [] => isTrue rfl
  | f :: fs, g :: gs =>
    match f.decEq g with
    | isTrue h =>
      match Field.decEqList fs gs with
      | isTrue hs => isTrue (h ▸ hs ▸ rfl)
      | isFalse hs => isFalse fun e => hs (List.cons.inj e).2
    | isFalse h => isFalse fun e => h (List.cons.inj e).1
  | [], _ :: _ | _ :: _, [] => isFalse nofun

/-- Whether two fields are the same. -/
def Field.decEq : (f g : Field) → Decidable (f = g)
  | ⟨n, s, c⟩, ⟨m, t, d⟩ =>
    match s.decEq t with
    | isTrue h =>
      if hn : n = m ∧ c = d then isTrue (h ▸ hn.1 ▸ hn.2 ▸ rfl)
      else isFalse fun e => hn ⟨(Field.mk.inj e).1, (Field.mk.inj e).2.2⟩
    | isFalse h => isFalse fun e => h (Field.mk.inj e).2.1

end

instance : DecidableEq FieldType := FieldType.decEq

instance : DecidableEq Schema := Schema.decEq

instance : DecidableEq Field := Field.decEq

end LayoutParity
