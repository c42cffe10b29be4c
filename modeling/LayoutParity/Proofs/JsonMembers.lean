import LayoutParity.Json.Access
import LayoutParity.Proofs.JsonTexts
import Mathlib.Data.List.Count
import Mathlib.Data.List.Nodup

/-!
# Members and containers of JSON values

Reading the members of an object does not depend on their order (`Json.members?_perm`), so a value
is read alike after its members were put in another order. `Json.Arranges` says this of a function
on values; sorting the members is one, and doing nothing is another, which lets one proof serve the
values of records and the sorted values of reports.

`Json.depth` counts how deep containers are nested. A reader of records with as much room gets
through, and arranging members leaves the depth as it is.
-/

namespace LayoutParity

namespace Json

section
variable {κ : Type} [BEq κ] [LawfulBEq κ] [DecidableEq κ]

/-- Looking a key up finds the first of its members. -/
theorem lookup_eq (key : κ) (members : List (κ × Json)) :
    members.lookup key = (members.filter (·.1 = key)).head?.map (·.2) := by
  induction members with
  | nil => rfl
  | cons member rest ih =>
    obtain ⟨name, value⟩ := member
    by_cases h : name = key
    · simp [h]
    · have hb : (key == name) = false := by simpa using Ne.symm h
      simp [List.lookup_cons, h, hb, ih]

theorem length_filter_key (key : κ) (members : List (κ × Json)) :
    (members.filter (·.1 = key)).length = (members.map (·.1)).count key := by
  rw [List.count_eq_countP, List.countP_map, List.countP_eq_length_filter]
  simp only [Function.comp_def, beq_eq_decide]

/-- Permuting members leaves what is found under a key that does not occur twice. -/
theorem lookup_perm {members others : List (κ × Json)} (h : members.Perm others) {key : κ}
    (hk : (members.map (·.1)).count key ≤ 1) : members.lookup key = others.lookup key := by
  have hfilter := h.filter fun member => decide (member.1 = key)
  rw [← length_filter_key] at hk
  rw [lookup_eq, lookup_eq]
  generalize members.filter (·.1 = key) = found at hfilter hk
  match found, hk with
  | [], _ => rw [hfilter.nil_eq]
  | [member], _ => rw [List.singleton_perm.1 hfilter]

/-- Among the members of some keys, what is found under these keys is found as before. -/
theorem lookup_filter (p : κ → Bool) (members : List (κ × Json)) (key : κ) :
    (members.filter fun member => p member.1).lookup key =
      if p key then members.lookup key else none := by
  induction members with
  | nil => simp
  | cons member rest ih =>
    obtain ⟨name, value⟩ := member
    by_cases hk : key = name
    · subst hk
      cases hp : p key <;> simp [hp, ih]
    · have hb : (key == name) = false := by simpa using hk
      cases hp : p name <;> simp [hp, ih, List.lookup_cons, hb]

end

variable {members others : List (Option String × Json)}

theorem repeats_eq_false_iff (members : List (Option String × Json)) (key : String) :
    repeats members key = false ↔ (members.map (·.1)).count (some key) ≤ 1 := by
  rw [← length_filter_key]
  simp [repeats]

theorem repeats_perm (h : members.Perm others) (key : String) :
    repeats members key = repeats others key := by
  rw [repeats, repeats, (h.filter _).length_eq]

/-- The members of an object are read alike in any order. -/
theorem members?_perm (h : members.Perm others) (keys : List String) :
    (object members).members? keys = (object others).members? keys := by
  have hnames : members.any (fun member => member.1.isNone) =
      others.any (fun member => member.1.isNone) := by
    rw [Bool.eq_iff_iff, List.any_eq_true, List.any_eq_true]
    simp only [h.mem_iff]
  have hrepeats : repeats members = repeats others := funext (repeats_perm h)
  rw [members?, members?, hnames, hrepeats]
  split
  · rfl
  · rename_i hc
    have hkeys : ∀ key ∈ keys, members.lookup (some key) = others.lookup (some key) := by
      intro key hk
      refine lookup_perm h ((repeats_eq_false_iff members key).1 ?_)
      rw [hrepeats]
      simp only [Bool.or_eq_true, List.any_eq_true, not_or, not_exists, not_and,
        Bool.not_eq_true] at hc
      exact hc.2 key hk
    rw [List.map_congr_left hkeys]

theorem lookup_map_some (members : List (String × Json)) (key : String) :
    (members.map fun member => (some member.1, member.2)).lookup (some key) =
      members.lookup key := by
  induction members with
  | nil => rfl
  | cons member rest ih => rw [List.map_cons, List.lookup_cons, List.lookup_cons, ih]; rfl

theorem lookup_map_value (f : Json → Json) (members : List (String × Json)) (key : String) :
    (members.map fun member => (member.1, f member.2)).lookup key =
      (members.lookup key).map f := by
  induction members with
  | nil => rfl
  | cons member rest ih =>
    rw [List.map_cons, List.lookup_cons, List.lookup_cons, ih]
    cases key == member.1 <;> rfl

theorem repeats_map_some (members : List (String × Json)) (key : String) :
    repeats (members.map fun member => (some member.1, member.2)) key = false ↔
      (members.map (·.1)).count key ≤ 1 := by
  have hnames : (members.map fun member => (some member.1, member.2)).map (·.1) =
      (members.map (·.1)).map some := by
    simp
  have hinj : Function.Injective (some : String → Option String) := fun _ _ => Option.some.inj
  rw [repeats_eq_false_iff, hnames, List.count_map_of_injective _ some hinj]

/-- An object in which no key asked for occurs twice is read by looking each of them up. -/
theorem members?_ofMembers {members : List (String × Json)} {keys : List String}
    (hc : ∀ key ∈ keys, (members.map (·.1)).count key ≤ 1) :
    (ofMembers members).members? keys = some (keys.map fun key => members.lookup key) := by
  have hnames : (members.map fun member => (some member.1, member.2)).any
      (fun member => member.1.isNone) = false := by
    simp [List.any_eq_false]
  have hrepeats : keys.any (repeats (members.map fun member => (some member.1, member.2))) =
      false := by
    rw [List.any_eq_false]
    exact fun key hk => by rw [(repeats_map_some members key).2 (hc key hk)]; decide
  rw [ofMembers, members?, hnames, hrepeats]
  simp only [lookup_map_some, Bool.or_self, Bool.false_eq_true, if_false]

/-! ## Reading lists and what may be null -/

/-- A list is read item by item. -/
theorem mapM_eq_some_iff {α β : Type} {read : α → Option β} {items : List α} {records : List β} :
    items.mapM read = some records ↔
      List.Forall₂ (fun item record => read item = some record) items records := by
  induction items generalizing records with
  | nil => simp [eq_comm]
  | cons item items ih =>
    rw [List.mapM_cons]
    constructor
    · intro h
      obtain ⟨record, hr, h⟩ := Option.bind_eq_some_iff.1 h
      obtain ⟨rest, hs, h⟩ := Option.bind_eq_some_iff.1 h
      obtain rfl : record :: rest = records := Option.some.inj h
      exact .cons hr (ih.1 hs)
    · intro h
      cases h with
      | cons hr hs =>
        rw [hr, ih.2 hs]
        rfl

theorem list?_eq_some_iff {α : Type} {read : Nat → Json → Option α} {room : Nat}
    {value : Json} {records : List α} :
    value.list? read (room + 1) = some records ↔
      ∃ items, value = .array items ∧
        List.Forall₂ (fun item record => read room item = some record) items records := by
  cases value with
  | array items =>
    rw [list?, mapM_eq_some_iff]
    exact ⟨fun h => ⟨items, rfl, h⟩, fun ⟨_, he, h⟩ => array.inj he ▸ h⟩
  | atom _ | object _ => simp [list?]

/-- What may be null is read as its content where it is not. -/
theorem optional?_some {α : Type} {read : Json → Option α} {value : Json} {content : α}
    (hr : read value = some content) (hn : value ≠ .null) :
    optional? read (some value) = some (some content) := by
  rw [optional?, hr]
  · rfl
  · exact hn

/-- What may be null has a content only if this was read. -/
theorem of_optional?_eq_some {α : Type} {read : Json → Option α} {value? : Option Json}
    {content : α} (h : optional? read value? = some (some content)) :
    ∃ value, value? = some value ∧ read value = some content := by
  rw [optional?.eq_def] at h
  split at h
  · cases h
  · cases h
  · obtain ⟨_, hr, he⟩ := Option.map_eq_some_iff.1 h
    exact ⟨_, rfl, Option.some.inj he ▸ hr⟩

/-! ## Values with their members in another order -/

/-- A function that leaves everything in a value but the order of members. -/
structure Arranges (arrange : Json → Json) : Prop where
  atom : ∀ value, arrange (.atom value) = .atom value
  array : ∀ items, arrange (.array items) = .array (items.map arrange)
  object : ∀ members, ∃ arranged, arrange (.object members) = .object arranged ∧
    arranged.Perm (members.map fun member => (member.1, arrange member.2))

theorem arranges_id : Arranges id where
  atom _ := rfl
  array items := by rw [List.map_id]; rfl
  object members := ⟨members, rfl, by simp⟩

theorem insertMember_perm (member : Option String × Json) (members : List (Option String × Json)) :
    (insertMember member members).Perm (member :: members) := by
  induction members with
  | nil => exact .refl _
  | cons other rest ih =>
    rw [insertMember]
    split
    · exact .refl _
    · exact (ih.cons other).trans (.swap ..)

theorem sortedItems_eq (items : List Json) : sortedItems items = items.map sorted := by
  induction items with
  | nil => rfl
  | cons item rest ih => rw [sortedItems, ih]; rfl

theorem sortedMembers_perm (members : List (Option String × Json)) :
    (sortedMembers members).Perm (members.map fun member => (member.1, member.2.sorted)) := by
  induction members with
  | nil => exact .refl _
  | cons member rest ih =>
    obtain ⟨key, value⟩ := member
    exact (insertMember_perm ..).trans (ih.cons _)

/-- Putting members in the order of their keys changes nothing else. -/
theorem arranges_sorted : Arranges sorted where
  atom _ := rfl
  array items := by rw [sorted, sortedItems_eq]
  object members := ⟨sortedMembers members, rfl, sortedMembers_perm members⟩

namespace Arranges

variable {arrange : Json → Json} (h : Arranges arrange)
include h

/-- The members of an arranged object are found as before, each arranged itself. -/
theorem members?_eq {members : List (String × Json)} (hn : (members.map (·.1)).Nodup)
    (keys : List String) :
    (arrange (ofMembers members)).members? keys =
      some (keys.map fun key => (members.lookup key).map arrange) := by
  obtain ⟨arranged, he, hp⟩ := h.object (members.map fun member => (some member.1, member.2))
  have hobject : Json.object ((members.map fun member => (some member.1, member.2)).map
      fun member => (member.1, arrange member.2)) =
      ofMembers (members.map fun member => (member.1, arrange member.2)) := by
    rw [ofMembers, List.map_map, List.map_map]
    rfl
  have hkeys : ((members.map fun member => (member.1, arrange member.2)).map (·.1)).Nodup := by
    rwa [List.map_map]
  have hcount : ∀ key ∈ keys, ((members.map fun member => (member.1, arrange member.2)).map
      (·.1)).count key ≤ 1 := fun key _ => List.nodup_iff_count_le_one.1 hkeys key
  rw [ofMembers, he, members?_perm hp, hobject, members?_ofMembers hcount]
  simp only [lookup_map_value]

end Arranges

/-! ## Nesting -/

mutual

/-- How deep containers are nested in a value. -/
def depth : Json → Nat
  | .atom _ => 0
  | .array items => itemsDepth items + 1
  | .object members => membersDepth members + 1

/-- How deep containers are nested in some items. -/
def itemsDepth : List Json → Nat
  | [] => 0
  | item :: rest => max item.depth (itemsDepth rest)

/-- How deep containers are nested in some members. -/
def membersDepth : List (Option String × Json) → Nat
  | [] => 0
  | member :: rest => max (memberDepth member) (membersDepth rest)

/-- How deep containers are nested in a member. -/
def memberDepth : Option String × Json → Nat
  | (_, value) => value.depth

end

@[simp] theorem depth_atom (value : Atom) : (atom value).depth = 0 := rfl

/-- An array takes one unit of room and leaves the rest to its items. -/
theorem depth_array_le_iff {items : List Json} {room : Nat} :
    (array items).depth ≤ room + 1 ↔ ∀ item ∈ items, item.depth ≤ room := by
  rw [depth, Nat.add_le_add_iff_right]
  induction items with
  | nil => simp [itemsDepth]
  | cons item rest ih => rw [itemsDepth, Nat.max_le, ih, List.forall_mem_cons]

/-- An object takes one unit of room and leaves the rest to its members. -/
theorem depth_object_le_iff {members : List (Option String × Json)} {room : Nat} :
    (object members).depth ≤ room + 1 ↔ ∀ member ∈ members, member.2.depth ≤ room := by
  rw [depth, Nat.add_le_add_iff_right]
  induction members with
  | nil => simp [membersDepth]
  | cons member rest ih =>
    obtain ⟨key, value⟩ := member
    rw [membersDepth, memberDepth, Nat.max_le, ih, List.forall_mem_cons]

theorem depth_ofMembers_le_iff {members : List (String × Json)} {room : Nat} :
    (ofMembers members).depth ≤ room + 1 ↔ ∀ member ∈ members, member.2.depth ≤ room := by
  rw [ofMembers, depth_object_le_iff, List.forall_mem_map]

/-- Arranging members leaves the nesting as it is. -/
theorem Arranges.depth_le_iff {arrange : Json → Json} (h : Arranges arrange) (value : Json)
    {room : Nat} : (arrange value).depth ≤ room ↔ value.depth ≤ room := by
  induction value using nestedInduction generalizing room with
  | atom value => rw [h.atom]
  | array items ih =>
    rw [h.array]
    cases room with
    | zero => simp [depth]
    | succ room =>
      rw [depth_array_le_iff, depth_array_le_iff, List.forall_mem_map]
      exact forall₂_congr fun item hi => ih item hi
  | object members ih =>
    obtain ⟨arranged, he, hp⟩ := h.object members
    rw [he]
    cases room with
    | zero => simp [depth]
    | succ room =>
      rw [depth_object_le_iff, depth_object_le_iff]
      simp only [hp.mem_iff, List.forall_mem_map]
      exact forall₂_congr fun member hm => ih member hm

end Json
end LayoutParity
