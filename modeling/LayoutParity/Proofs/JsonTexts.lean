import LayoutParity.Json.Reader
import LayoutParity.Proofs.SpelledTokens

/-!
# Texts of JSON values

A text is written for a value if it has the tokens of the value, each spelled as the grammar allows
and with white space anywhere between them (`Json.Written`). Both printers write such texts
(`Json.written_compact`, `Json.written_pretty`), and a reader that is given one finds the value
(`Json.parse?_of_written`): the scanner finds the tokens, and the stack machine, which has no
recursion of its own, takes the tokens of a value to the state after this value
(`Json.readsThrough`). So a text is written for at most one value, and writing a value loses
nothing.
-/

namespace LayoutParity

namespace Json

/-! ## Induction over values -/

mutual

/-- What holds of the atoms, of an array if it holds of its items and of an object if it holds of
the values of its members, holds of every value. -/
theorem nestedInduction {motive : Json → Prop} (atom : ∀ value, motive (.atom value))
    (array : ∀ items, (∀ item ∈ items, motive item) → motive (.array items))
    (object : ∀ members, (∀ member ∈ members, motive member.2) → motive (.object members)) :
    ∀ value : Json, motive value
  | .atom value => atom value
  | .array items => array items (itemsInduction atom array object items)
  | .object members => object members (membersInduction atom array object members)

/-- `nestedInduction` for the items of an array. -/
theorem itemsInduction {motive : Json → Prop} (atom : ∀ value, motive (.atom value))
    (array : ∀ items, (∀ item ∈ items, motive item) → motive (.array items))
    (object : ∀ members, (∀ member ∈ members, motive member.2) → motive (.object members)) :
    ∀ items : List Json, ∀ item ∈ items, motive item
  | [] => List.forall_mem_nil _
  | first :: rest => List.forall_mem_cons.2
    ⟨nestedInduction atom array object first, itemsInduction atom array object rest⟩

/-- `nestedInduction` for the members of an object. -/
theorem membersInduction {motive : Json → Prop} (atom : ∀ value, motive (.atom value))
    (array : ∀ items, (∀ item ∈ items, motive item) → motive (.array items))
    (object : ∀ members, (∀ member ∈ members, motive member.2) → motive (.object members)) :
    ∀ members : List (Option String × Json), ∀ member ∈ members, motive member.2
  | [] => List.forall_mem_nil _
  | first :: rest => List.forall_mem_cons.2
    ⟨memberInduction atom array object first, membersInduction atom array object rest⟩

/-- `nestedInduction` for a member of an object. -/
theorem memberInduction {motive : Json → Prop} (atom : ∀ value, motive (.atom value))
    (array : ∀ items, (∀ item ∈ items, motive item) → motive (.array items))
    (object : ∀ members, (∀ member ∈ members, motive member.2) → motive (.object members)) :
    ∀ member : Option String × Json, motive member.2
  | (_, value) => nestedInduction atom array object value

end

/-! ## The tokens of a value -/

theorem moreItemTokens_eq (items : List Json) :
    moreItemTokens items = items.flatMap fun item => .comma :: item.tokens := by
  induction items with
  | nil => rfl
  | cons item rest ih => rw [moreItemTokens, ih]; rfl

theorem pairTokens_eq (member : Option String × Json) :
    pairTokens member = .atom (.text member.1) :: .colon :: member.2.tokens := by
  cases member
  rfl

theorem moreMemberTokens_eq (members : List (Option String × Json)) :
    moreMemberTokens members = members.flatMap fun member => .comma :: pairTokens member := by
  induction members with
  | nil => rfl
  | cons member rest ih => rw [moreMemberTokens, ih]; rfl

theorem tokens_array_append (items : List Json) (rest : List Token) :
    (array items).tokens ++ rest = .beginArray :: (itemTokens items ++ .endArray :: rest) := by
  simp [tokens]

theorem tokens_object_append (members : List (Option String × Json)) (rest : List Token) :
    (object members).tokens ++ rest =
      .beginObject :: (memberTokens members ++ .endObject :: rest) := by
  simp [tokens]

/-! ## Atoms are followed by separators -/

/-- The tokens that may follow a value: none, or a separator first. -/
structure MayFollow (rest : List Token) : Prop where
  apart : Token.Apart rest
  separated : ∀ next ∈ rest.head?, next.isSeparator = true

theorem MayFollow.nil : MayFollow [] := ⟨.nil, fun _ h => nomatch h⟩

/-- A separator may follow a value. -/
theorem MayFollow.cons {token : Token} {rest : List Token} (hs : token.isSeparator = true)
    (h : Token.Apart rest) : MayFollow (token :: rest) := by
  refine ⟨List.isChain_cons.2 ⟨?_, h⟩, ?_⟩
  · rintro next - ⟨value, rfl⟩
    cases hs
  · intro next hn
    cases hn
    exact hs

/-- Anything may follow the beginning of a container. -/
theorem apart_cons {token : Token} {rest : List Token} (ht : ∀ value, token ≠ .atom value)
    (h : Token.Apart rest) : Token.Apart (token :: rest) :=
  List.isChain_cons.2 ⟨fun _ _ ⟨value, he⟩ => absurd he (ht value), h⟩

theorem apart_atom {value : Atom} {rest : List Token} (h : MayFollow rest) :
    Token.Apart (.atom value :: rest) :=
  List.isChain_cons.2 ⟨fun next hn _ => h.separated next hn, h.apart⟩

/-- Values with a comma before each may follow a value. -/
theorem MayFollow.flatMap {α : Type} {tokensOf : α → List Token} {parts : List α}
    (hp : ∀ part ∈ parts, ∀ rest, MayFollow rest → Token.Apart (tokensOf part ++ rest))
    {rest : List Token} (h : MayFollow rest) :
    MayFollow (parts.flatMap (fun part => .comma :: tokensOf part) ++ rest) := by
  induction parts with
  | nil => exact h
  | cons part parts ih =>
    obtain ⟨hpart, hparts⟩ := List.forall_mem_cons.1 hp
    rw [List.flatMap_cons, List.append_assoc]
    exact .cons rfl (hpart _ (ih hparts))

/-- In the tokens of a value every atom is followed by a separator. -/
theorem apart_tokens_append (value : Json) {rest : List Token} (h : MayFollow rest) :
    Token.Apart (value.tokens ++ rest) := by
  induction value using nestedInduction generalizing rest with
  | atom value => exact apart_atom h
  | array items ih =>
    have hend : MayFollow (.endArray :: rest) := .cons rfl h.apart
    rw [tokens_array_append]
    refine apart_cons nofun ?_
    cases items with
    | nil => exact hend.apart
    | cons item items =>
      obtain ⟨hitem, hitems⟩ := List.forall_mem_cons.1 ih
      rw [itemTokens, List.append_assoc, moreItemTokens_eq]
      exact hitem (.flatMap (fun part hp _ => hitems part hp) hend)
  | object members ih =>
    have hend : MayFollow (.endObject :: rest) := .cons rfl h.apart
    have hpair : ∀ member ∈ members, ∀ rest, MayFollow rest →
        Token.Apart (pairTokens member ++ rest) := by
      intro member hm rest hr
      have hvalue := ih member hm hr
      rw [pairTokens_eq]
      exact apart_atom (.cons rfl hvalue)
    rw [tokens_object_append]
    refine apart_cons nofun ?_
    cases members with
    | nil => exact hend.apart
    | cons member members =>
      obtain ⟨hmember, hmembers⟩ := List.forall_mem_cons.1 hpair
      rw [memberTokens, List.append_assoc, moreMemberTokens_eq]
      exact hmember _ (.flatMap hmembers hend)

theorem apart_tokens (value : Json) : Token.Apart value.tokens := by
  simpa using value.apart_tokens_append .nil

/-! ## The reader takes the tokens of a value -/

open ReaderState

theorem run_cons {state next : ReaderState} {token : Token} (h : state.step token = some next)
    (rest : List Token) : run state (token :: rest) = run next rest := by
  rw [run, h, Option.bind_some]

/-- The tokens of a value start with no end of a container. -/
theorem exists_tokens_eq_cons (value : Json) : ∃ token rest, value.tokens = token :: rest ∧
    ∀ stack, step (.arrayStart stack) token = step (.awaitValue (.array [] :: stack)) token := by
  cases value with
  | atom value => exact ⟨.atom value, [], rfl, fun _ => rfl⟩
  | array items => exact ⟨.beginArray, itemTokens items ++ [.endArray], rfl, fun _ => rfl⟩
  | object members =>
    exact ⟨.beginObject, memberTokens members ++ [.endObject], rfl, fun _ => rfl⟩

/-- The first item of an array is read as a value inside it. -/
theorem run_arrayStart (value : Json) (stack : List Frame) (rest : List Token) :
    run (.arrayStart stack) (value.tokens ++ rest) =
      run (.awaitValue (.array [] :: stack)) (value.tokens ++ rest) := by
  obtain ⟨token, more, he, hstep⟩ := value.exists_tokens_eq_cons
  rw [he, List.cons_append, run, run, hstep]

/-- The reader has finished a value after its tokens, inside whatever is open. -/
def ReadsThrough (value : Json) : Prop :=
  ∀ stack rest, run (.awaitValue stack) (value.tokens ++ rest) = run (complete value stack) rest

theorem run_moreItems {items : List Json} (h : ∀ item ∈ items, item.ReadsThrough)
    (before : List Json) (stack : List Frame) (rest : List Token) :
    run (.afterItem before stack) (moreItemTokens items ++ .endArray :: rest) =
      run (complete (.array (before.reverse ++ items)) stack) rest := by
  induction items generalizing before with
  | nil => rw [moreItemTokens, List.nil_append, run_cons rfl, List.append_nil]
  | cons item items ih =>
    obtain ⟨hitem, hitems⟩ := List.forall_mem_cons.1 h
    rw [moreItemTokens, List.append_assoc, List.cons_append, run_cons rfl, hitem, complete,
      ih hitems, List.reverse_cons, List.append_assoc]
    rfl

/-- The first member of an object is read as any other. -/
theorem run_objectStart (member : Option String × Json) (stack : List Frame)
    (rest : List Token) :
    run (.objectStart stack) (pairTokens member ++ rest) =
      run (.awaitKey [] stack) (pairTokens member ++ rest) := by
  rw [pairTokens_eq, List.cons_append, run_cons rfl, run_cons rfl]

theorem run_pair {member : Option String × Json} (h : member.2.ReadsThrough)
    (before : List (Option String × Json)) (stack : List Frame) (rest : List Token) :
    run (.awaitKey before stack) (pairTokens member ++ rest) =
      run (.afterMember (member :: before) stack) rest := by
  rw [pairTokens_eq, List.cons_append, List.cons_append, run_cons rfl, run_cons rfl, h, complete]

theorem run_moreMembers {members : List (Option String × Json)}
    (h : ∀ member ∈ members, member.2.ReadsThrough) (before : List (Option String × Json))
    (stack : List Frame) (rest : List Token) :
    run (.afterMember before stack) (moreMemberTokens members ++ .endObject :: rest) =
      run (complete (.object (before.reverse ++ members)) stack) rest := by
  induction members generalizing before with
  | nil => rw [moreMemberTokens, List.nil_append, run_cons rfl, List.append_nil]
  | cons member members ih =>
    obtain ⟨hmember, hmembers⟩ := List.forall_mem_cons.1 h
    rw [moreMemberTokens, List.append_assoc, List.cons_append, run_cons rfl, run_pair hmember,
      ih hmembers, List.reverse_cons, List.append_assoc]
    rfl

theorem readsThrough (value : Json) : value.ReadsThrough := by
  induction value using nestedInduction with
  | atom value => exact fun stack rest => run_cons rfl rest
  | array items ih =>
    intro stack rest
    rw [tokens_array_append, run_cons rfl]
    cases items with
    | nil => exact run_cons rfl rest
    | cons item items =>
      obtain ⟨hitem, hitems⟩ := List.forall_mem_cons.1 ih
      rw [itemTokens, List.append_assoc, run_arrayStart, hitem, complete, run_moreItems hitems]
      rfl
  | object members ih =>
    intro stack rest
    rw [tokens_object_append, run_cons rfl]
    cases members with
    | nil => exact run_cons rfl rest
    | cons member members =>
      obtain ⟨hmember, hmembers⟩ := List.forall_mem_cons.1 ih
      rw [memberTokens, List.append_assoc, run_objectStart, run_pair hmember,
        run_moreMembers hmembers]
      rfl

theorem ofTokens?_tokens (value : Json) : ofTokens? value.tokens = some value := by
  have h := value.readsThrough [] []
  rw [List.append_nil] at h
  rw [ofTokens?, h]
  rfl

/-! ## Written texts -/

/-- A text is written for a value if it has the tokens of the value one after the other, each in
one of its spellings and with white space anywhere around them. -/
def Written (text : String) (value : Json) : Prop :=
  Token.Spaced value.tokens text.toList

/-- Whatever text is written for a value, the reader finds the value in it. -/
theorem parse?_of_written {text : String} {value : Json} (h : Written text value) :
    parse? text = some value := by
  have hscan : Token.scan text.toList = some value.tokens :=
    Token.scan_of_spaced h value.apart_tokens
  rw [parse?, hscan, Option.bind_some, ofTokens?_tokens]

theorem written_compact (value : Json) : Written value.compact value := by
  rw [Written, compact, String.toList_ofList]
  exact Token.spaced_flatMap_chars value.tokens

theorem isSpace_of_mem_newLine {depth : Nat} : ∀ c ∈ newLine depth, Token.isSpace c = true := by
  intro c hc
  rcases List.mem_cons.1 hc with rfl | hc
  · rfl
  · obtain rfl := (List.mem_replicate.1 hc).2
    rfl

/-- The pretty text of a value at some depth is written for it, whatever follows. -/
def PrettyWritten (depth : Nat) (value : Json) : Prop :=
  ∀ {tokens : List Token} {cs : List Char}, Token.Spaced tokens cs →
    Token.Spaced (value.tokens ++ tokens) (value.prettyChars depth ++ cs)

section
open Token (Spaced)

variable {depth : Nat} {tokens : List Token} {cs : List Char}

/-- A part of a container stands on a line of its own. -/
theorem spaced_newLine (depth : Nat) (h : Spaced tokens cs) : Spaced tokens (newLine depth ++ cs) :=
  h.indent isSpace_of_mem_newLine

theorem spaced_prettyItems {items : List Json} (hi : ∀ item ∈ items, PrettyWritten depth item)
    (h : Spaced tokens cs) :
    Spaced (moreItemTokens items ++ tokens) (prettyItems depth items ++ cs) := by
  induction items with
  | nil => exact h
  | cons item items ih =>
    obtain ⟨hitem, hitems⟩ := List.forall_mem_cons.1 hi
    have hline := spaced_newLine depth (hitem (ih hitems))
    rw [moreItemTokens, prettyItems]
    simpa [Token.chars] using Spaced.chars_append .comma hline

theorem spaced_prettyMember {member : Option String × Json} (hm : PrettyWritten depth member.2)
    (h : Spaced tokens cs) :
    Spaced (pairTokens member ++ tokens) (prettyMember depth member ++ cs) := by
  have hspace : ∀ c ∈ [' '], Token.isSpace c = true := List.forall_mem_singleton.2 rfl
  have hvalue := Spaced.chars_append .colon ((hm h).indent hspace)
  obtain ⟨key, value⟩ := member
  rw [pairTokens, prettyMember]
  simpa [Token.chars] using Spaced.chars_append (.atom (.text key)) hvalue

theorem spaced_prettyMembers {members : List (Option String × Json)}
    (hm : ∀ member ∈ members, PrettyWritten depth member.2) (h : Spaced tokens cs) :
    Spaced (moreMemberTokens members ++ tokens) (prettyMembers depth members ++ cs) := by
  induction members with
  | nil => exact h
  | cons member members ih =>
    obtain ⟨hmember, hmembers⟩ := List.forall_mem_cons.1 hm
    have hline := spaced_newLine depth (spaced_prettyMember hmember (ih hmembers))
    rw [moreMemberTokens, prettyMembers]
    simpa [Token.chars] using Spaced.chars_append .comma hline

end

theorem prettyWritten (value : Json) : ∀ depth, PrettyWritten depth value := by
  induction value using nestedInduction with
  | atom value => exact fun depth _ _ h => .chars_append (.atom value) h
  | array items ih =>
    intro depth tokens cs h
    rw [tokens_array_append]
    cases items with
    | nil => exact .chars_append .beginArray (.chars_append .endArray h)
    | cons item items =>
      have hend := spaced_newLine depth (Token.Spaced.chars_append .endArray h)
      have hitems := spaced_prettyItems (fun item hm => ih item (.tail _ hm) (depth + 1)) hend
      have hitem := spaced_newLine (depth + 1) (ih item (.head _) (depth + 1) hitems)
      have h := Token.Spaced.chars_append .beginArray hitem
      simpa [prettyChars, itemTokens, Token.chars] using h
  | object members ih =>
    intro depth tokens cs h
    rw [tokens_object_append]
    cases members with
    | nil => exact .chars_append .beginObject (.chars_append .endObject h)
    | cons member members =>
      have hend := spaced_newLine depth (Token.Spaced.chars_append .endObject h)
      have hmembers :=
        spaced_prettyMembers (fun member hm => ih member (.tail _ hm) (depth + 1)) hend
      have hmember := spaced_newLine (depth + 1)
        (spaced_prettyMember (ih member (.head _) (depth + 1)) hmembers)
      have h := Token.Spaced.chars_append .beginObject hmember
      simpa [prettyChars, memberTokens, Token.chars] using h

theorem written_pretty (value : Json) : Written value.pretty value := by
  have h := value.prettyWritten 0 (Token.Spaced.nil (List.forall_mem_nil _))
  rw [List.append_nil, List.append_nil] at h
  rwa [Written, pretty, String.toList_ofList]

end Json
end LayoutParity
