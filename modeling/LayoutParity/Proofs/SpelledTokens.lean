import LayoutParity.Json.Printer
import LayoutParity.Json.Scanner
import Mathlib.Data.List.Chain

/-!
# How tokens are spelled

The grammar of JSON tokens, apart from the scanner. `Token.Spelled` relates a token to the texts
that it may be written with: a string may use escapes for any of its characters, and a number may
have a sign, a fraction and an exponent. `Token.Spaced` relates tokens to the texts that have them
one after the other, with white space anywhere around them.

The scanner finds the tokens of every such text (`Token.scan_of_spaced`). It takes the longest token
at each place, so a number must not run into what follows it; `Token.Apart` asks for a separator
after every atom, which the tokens of a value have.
-/

namespace LayoutParity

namespace Token

/-! ## The grammar -/

/-- The pieces of a string, as they may stand between its quotation marks. -/
inductive Piece.Spelled : List Piece → List Char → Prop
  | nil : Spelled [] []
  | plain {c : Char} {pieces : List Piece} {cs : List Char} : c ≠ '"' → c ≠ '\\' →
      0x20 ≤ c.toNat → Spelled pieces cs → Spelled (.char c :: pieces) (c :: cs)
  | short {letter c : Char} {pieces : List Piece} {cs : List Char} :
      shortEscape? letter = some c → Spelled pieces cs →
      Spelled (.char c :: pieces) ('\\' :: letter :: cs)
  | unit {a b c d : Char} {value : Nat} {pieces : List Piece} {cs : List Char} :
      unit? a b c d = some value → Spelled pieces cs →
      Spelled (.ofUnit value :: pieces) ('\\' :: 'u' :: a :: b :: c :: d :: cs)

/-- One or more digits. -/
def Digits (cs : List Char) : Prop :=
  cs ≠ [] ∧ ∀ c ∈ cs, c.isDigit = true

/-- The digits before the point: no other digit follows a zero. -/
def Whole (cs : List Char) : Prop :=
  cs = ['0'] ∨ Digits cs ∧ cs.head? ≠ some '0'

/-- A fraction, if there is one. -/
inductive Fraction : List Char → Prop
  | absent : Fraction []
  | present {digits : List Char} : Digits digits → Fraction ('.' :: digits)

/-- An exponent, if there is one. -/
inductive Exponent : List Char → Prop
  | absent : Exponent []
  | present {letter : Char} {sign digits : List Char} : letter ∈ ['e', 'E'] →
      sign ∈ [[], ['+'], ['-']] → Digits digits → Exponent (letter :: (sign ++ digits))

/-- The texts that a token may be written with. -/
inductive Spelled : Token → List Char → Prop
  | beginArray : Spelled .beginArray ['[']
  | endArray : Spelled .endArray [']']
  | beginObject : Spelled .beginObject ['\x7b']
  | endObject : Spelled .endObject ['\x7d']
  | comma : Spelled .comma [',']
  | colon : Spelled .colon [':']
  | null : Spelled (.atom .null) ['n', 'u', 'l', 'l']
  | yes : Spelled (.atom (.bool true)) ['t', 'r', 'u', 'e']
  | no : Spelled (.atom (.bool false)) ['f', 'a', 'l', 's', 'e']
  | natural {digits : List Char} : Whole digits →
      Spelled (.atom (.number (some (Nat.ofDigitChars 10 digits 0)))) digits
  | positive {digits fraction exponent : List Char} : Whole digits → Fraction fraction →
      Exponent exponent → fraction ++ exponent ≠ [] →
      Spelled (.atom (.number none)) (digits ++ (fraction ++ exponent))
  | negative {digits fraction exponent : List Char} : Whole digits → Fraction fraction →
      Exponent exponent → Spelled (.atom (.number none)) ('-' :: (digits ++ (fraction ++ exponent)))
  | text {pieces : List Piece} {cs : List Char} : Piece.Spelled pieces cs →
      Spelled (.atom (.text ((Piece.join pieces).map String.ofList))) ('"' :: (cs ++ ['"']))

/-- The texts that have the tokens one after the other, with white space around them. -/
inductive Spaced : List Token → List Char → Prop
  | nil {gap : List Char} : (∀ c ∈ gap, isSpace c = true) → Spaced [] gap
  | cons {gap cs rest : List Char} {token : Token} {tokens : List Token} :
      (∀ c ∈ gap, isSpace c = true) → token.Spelled cs → Spaced tokens rest →
      Spaced (token :: tokens) (gap ++ (cs ++ rest))

/-- Whether a token is punctuation that may follow an atom. -/
def isSeparator : Token → Bool
  | comma | colon | endArray | endObject => true
  | beginArray | beginObject | atom _ => false

/-- Nothing but a separator follows an atom. -/
def Apart (tokens : List Token) : Prop :=
  tokens.IsChain fun first second => (∃ value, first = .atom value) → second.isSeparator = true

/-! ## Strings -/

theorem pieces?_append {pieces : List Piece} {cs : List Char} (h : Piece.Spelled pieces cs)
    (rest : List Char) : pieces? (cs ++ '"' :: rest) = some (pieces, rest) := by
  induction h with
  | nil => rfl
  | plain hq hs hc _ ih =>
    rw [List.cons_append, pieces?, ih] <;> simp_all
  | @short letter c pieces cs hl _ ih =>
    -- The letter `u` names no short escape, so no other case of the scanner applies.
    have hu : letter ≠ 'u' := fun he => by simp [he, shortEscape?] at hl
    rw [List.cons_append, List.cons_append, pieces?, hl, ih]
    · rfl
    · exact fun _ _ _ _ _ he _ => hu he
  | unit hu _ ih =>
    simp only [List.cons_append]
    rw [pieces?, hu, ih]
    rfl

/-! ## Numbers -/

/-- Whether a number that goes on has the character in this place. -/
def isNumberPart (c : Char) : Bool :=
  c.isDigit || c == '.' || c == 'e' || c == 'E'

/-- A number that ends here is not continued by the text. -/
def EndsNumber (rest : List Char) : Prop :=
  ∀ c ∈ rest.head?, isNumberPart c = false

theorem EndsNumber.nil : EndsNumber [] := fun _ h => nomatch h

theorem EndsNumber.cons {c : Char} (h : isNumberPart c = false) (rest : List Char) :
    EndsNumber (c :: rest) := by
  intro d hd
  cases hd
  exact h

theorem digits?_append {digits rest : List Char} (h : Digits digits)
    (hr : ∀ c ∈ rest.head?, c.isDigit = false) :
    digits? (digits ++ rest) = some (digits, rest) := by
  have htake : (digits ++ rest).takeWhile Char.isDigit = digits := by
    rw [List.takeWhile_append_of_pos h.2]
    cases rest with
    | nil => simp
    | cons c rest => simp [hr c rfl]
  have hdrop : (digits ++ rest).dropWhile Char.isDigit = rest := by
    rw [List.dropWhile_append_of_pos h.2]
    cases rest with
    | nil => rfl
    | cons c rest => simp [hr c rfl]
  rw [digits?, htake, hdrop]
  cases hd : digits with
  | nil => exact absurd hd h.1
  | cons => rfl

theorem whole?_append {digits rest : List Char} (h : Whole digits)
    (hr : ∀ c ∈ rest.head?, c.isDigit = false) : whole? (digits ++ rest) = some (digits, rest) := by
  rcases h with rfl | ⟨hd, hz⟩
  · rfl
  · cases digits with
    | nil => exact absurd rfl hd.1
    | cons c digits =>
      have hc : c ≠ '0' := fun he => hz (he ▸ rfl)
      rw [List.cons_append, whole?]
      · exact digits?_append hd hr
      · exact fun _ h0 => hc (List.cons.inj h0).1

theorem fraction?_append {fraction rest : List Char} (h : Fraction fraction)
    (hd : ∀ c ∈ rest.head?, c.isDigit = false) (hp : rest.head? ≠ some '.') :
    fraction? (fraction ++ rest) = some (!fraction.isEmpty, rest) := by
  cases h with
  | absent =>
    rw [List.nil_append, fraction?]
    · rfl
    · rintro rest rfl
      exact hp rfl
  | present h => rw [List.cons_append, fraction?, digits?_append h hd]; rfl

theorem EndsNumber.not_digit {rest : List Char} (h : EndsNumber rest) :
    ∀ c ∈ rest.head?, c.isDigit = false := by
  intro c hc
  have hpart := h c hc
  simp only [isNumberPart, Bool.or_eq_false_iff] at hpart
  exact hpart.1.1.1

/-- What follows a sign is found whether or not there is one. -/
theorem skipSign_append {sign digits : List Char} (hs : sign ∈ [[], ['+'], ['-']])
    (hd : Digits digits) (rest : List Char) :
    skipSign (sign ++ digits ++ rest) = digits ++ rest := by
  simp only [List.mem_cons, List.not_mem_nil, or_false] at hs
  rcases hs with rfl | rfl | rfl
  · cases digits with
    | nil => exact absurd rfl hd.1
    | cons c digits =>
      have hc : c.isDigit = true := hd.2 c (.head _)
      rw [List.nil_append, List.cons_append, skipSign] <;>
        exact fun _ he => absurd ((List.cons.inj he).1 ▸ hc) (by decide)
  · rfl
  · rfl

theorem exponent?_append {exponent rest : List Char} (h : Exponent exponent)
    (hr : EndsNumber rest) : exponent? (exponent ++ rest) = some (!exponent.isEmpty, rest) := by
  cases h with
  | absent =>
    rw [List.nil_append, exponent?]
    · rfl
    · rintro rest rfl
      exact absurd (hr 'e' rfl) (by decide)
    · rintro rest rfl
      exact absurd (hr 'E' rfl) (by decide)
  | @present letter sign digits hl hs hd =>
    have hexp : exponent? (letter :: (sign ++ digits ++ rest)) =
        (digits? (skipSign (sign ++ digits ++ rest))).map fun digits => (true, digits.2) := by
      simp only [List.mem_cons, List.not_mem_nil, or_false] at hl
      rcases hl with rfl | rfl <;> rw [exponent?]
    rw [List.cons_append, hexp, skipSign_append hs hd, digits?_append hd hr.not_digit]
    rfl

/-- An exponent begins with no digit and no point. -/
theorem Exponent.head_append {exponent rest : List Char} (h : Exponent exponent)
    (hr : EndsNumber rest) :
    (∀ c ∈ (exponent ++ rest).head?, c.isDigit = false) ∧ (exponent ++ rest).head? ≠ some '.' := by
  cases h with
  | absent => exact ⟨hr.not_digit, fun he => absurd (hr '.' he) (by decide)⟩
  | present hl =>
    simp only [List.mem_cons, List.not_mem_nil, or_false] at hl
    rcases hl with rfl | rfl <;> simp

theorem Fraction.head_append {fraction rest : List Char} (h : Fraction fraction)
    (hr : ∀ c ∈ rest.head?, c.isDigit = false) :
    ∀ c ∈ (fraction ++ rest).head?, c.isDigit = false := by
  cases h with
  | absent => exact hr
  | present => simp

theorem unsigned?_append {digits fraction exponent rest : List Char} (hw : Whole digits)
    (hf : Fraction fraction) (he : Exponent exponent) (hr : EndsNumber rest) :
    unsigned? (digits ++ (fraction ++ exponent) ++ rest) =
      some (if fraction ++ exponent = [] then some (Nat.ofDigitChars 10 digits 0) else none,
        rest) := by
  obtain ⟨hdigit, hpoint⟩ := he.head_append hr
  have hwhole : whole? (digits ++ (fraction ++ (exponent ++ rest))) =
      some (digits, fraction ++ (exponent ++ rest)) :=
    whole?_append hw (hf.head_append hdigit)
  rw [List.append_assoc, List.append_assoc, unsigned?, hwhole]
  simp only [Option.bind_eq_bind, Option.bind_some]
  rw [fraction?_append hf hdigit hpoint]
  simp only [Option.bind_some]
  rw [exponent?_append he hr]
  cases fraction <;> cases exponent <;> rfl

/-! ## Single tokens -/

/-- A text that begins like a number is scanned as one. -/
theorem next?_of_number {c : Char} (h : c = '-' ∨ c.isDigit = true) (cs : List Char) :
    next? (c :: cs) = (number? (c :: cs)).map fun token => (.atom token.1, token.2) := by
  -- No other token begins with such a character.
  have hne : ∀ {other : Char}, other ≠ '-' → other.isDigit = false → c ≠ other := by
    rintro other hm hd rfl
    rcases h with h | h
    · exact hm h
    · rw [hd] at h
      cases h
  rw [next?] <;> exact fun _ he => hne (by decide) (by decide) (List.cons.inj he).1

/-- A digit string begins with a digit. -/
theorem Whole.exists_cons {digits : List Char} (h : Whole digits) :
    ∃ c rest, digits = c :: rest ∧ c.isDigit = true := by
  rcases h with rfl | ⟨⟨hne, hd⟩, -⟩
  · exact ⟨'0', [], rfl, rfl⟩
  · cases digits with
    | nil => exact absurd rfl hne
    | cons c rest => exact ⟨c, rest, rfl, hd c (.head _)⟩

/-- A number without a sign is scanned with the digits, fraction and exponent that it has. -/
theorem next?_unsigned {digits fraction exponent rest : List Char} (hw : Whole digits)
    (hf : Fraction fraction) (he : Exponent exponent) (hr : EndsNumber rest) :
    next? (digits ++ (fraction ++ exponent) ++ rest) =
      some
        (.atom (.number
          (if fraction ++ exponent = [] then some (Nat.ofDigitChars 10 digits 0) else none)),
          rest) := by
  have hu := unsigned?_append hw hf he hr
  obtain ⟨c, tail, rfl, hc⟩ := hw.exists_cons
  have hsign : c ≠ '-' := by rintro rfl; cases hc
  simp only [List.cons_append] at hu ⊢
  rw [next?_of_number (.inr hc), number?, hu]
  · rfl
  · exact fun _ h => hsign (List.cons.inj h).1

theorem next?_append {token : Token} {cs rest : List Char} (h : token.Spelled cs)
    (hr : (∃ value, token = .atom value) → EndsNumber rest) :
    next? (cs ++ rest) = some (token, rest) := by
  cases h with
  | beginArray | endArray | beginObject | endObject | comma | colon | null | yes | no => rfl
  | natural hw =>
    have hnext := next?_unsigned hw .absent .absent (hr ⟨_, rfl⟩)
    rw [List.append_nil, List.append_nil, if_pos rfl] at hnext
    exact hnext
  | positive hw hf he hne => rw [next?_unsigned hw hf he (hr ⟨_, rfl⟩), if_neg hne]
  | negative hw hf he =>
    rw [List.cons_append, next?_of_number (.inl rfl), number?,
      unsigned?_append hw hf he (hr ⟨_, rfl⟩)]
    rfl
  | @text pieces cs hp =>
    have hstring : string? (cs ++ '"' :: rest) =
        some (.text ((Piece.join pieces).map String.ofList), rest) := by
      rw [string?, pieces?_append hp]
      rfl
    have hshape : '"' :: (cs ++ ['"']) ++ rest = '"' :: (cs ++ '"' :: rest) := by simp
    rw [hshape, next?, hstring]
    rfl

/-! ## Sequences of tokens -/

/-- A token is written with at least one character, the first of which is no white space. -/
theorem Spelled.exists_cons {token : Token} {cs : List Char} (h : token.Spelled cs) :
    ∃ c rest, cs = c :: rest ∧ isSpace c = false := by
  have hdigit : ∀ c : Char, c.isDigit = true → isSpace c = false := by
    intro c hc
    simp only [isSpace, Bool.or_eq_false_iff, decide_eq_false_iff_not]
    refine ⟨⟨⟨?_, ?_⟩, ?_⟩, ?_⟩ <;> (rintro rfl; cases hc)
  cases h with
  | natural hw | positive hw =>
    obtain ⟨c, rest, rfl, hc⟩ := hw.exists_cons
    exact ⟨c, _, rfl, hdigit c hc⟩
  | _ => exact ⟨_, _, rfl, by decide⟩

theorem dropWhile_gap {gap : List Char} (hg : ∀ c ∈ gap, isSpace c = true) (rest : List Char)
    (hr : ∀ c ∈ rest.head?, isSpace c = false) : (gap ++ rest).dropWhile isSpace = rest := by
  rw [List.dropWhile_append_of_pos hg]
  cases rest with
  | nil => rfl
  | cons c rest => simp [hr c rfl]

/-- A separator is written with one character, with which no number goes on. -/
theorem Spelled.endsNumber {token : Token} {cs : List Char} (h : token.Spelled cs)
    (hs : token.isSeparator = true) (rest : List Char) : EndsNumber (cs ++ rest) := by
  cases h with
  | comma | colon | endArray | endObject => exact .cons (by decide) _
  | _ => cases hs

/-- A number that is followed by white space, by a separator or by nothing ends there. -/
theorem Spaced.endsNumber {tokens : List Token} {cs : List Char} (h : Spaced tokens cs)
    (hs : ∀ token ∈ tokens.head?, token.isSeparator = true) : EndsNumber cs := by
  have hspace : ∀ c : Char, isSpace c = true → isNumberPart c = false := by
    intro c hc
    simp only [isSpace, Bool.or_eq_true, decide_eq_true_eq] at hc
    rcases hc with ((rfl | rfl) | rfl) | rfl <;> decide
  cases h with
  | nil hg =>
    cases cs with
    | nil => exact .nil
    | cons c gap => exact .cons (hspace c (hg c (.head _))) gap
  | @cons gap cs rest token tokens hg ht =>
    cases gap with
    | nil => exact ht.endsNumber (hs token rfl) rest
    | cons c gap => exact .cons (hspace c (hg c (.head _))) _

theorem scanFrom_of_spaced {tokens : List Token} {cs : List Char} (h : Spaced tokens cs)
    (ha : Apart tokens) {fuel : Nat} (hf : cs.length ≤ fuel) : scanFrom fuel cs = some tokens := by
  induction h generalizing fuel with
  | @nil gap hg =>
    have hdrop : gap.dropWhile isSpace = [] := by
      simpa using dropWhile_gap hg [] (by simp)
    rw [scanFrom.eq_def, hdrop]
  | @cons gap cs rest token tokens hg ht hrest ih =>
    obtain ⟨hfirst, htail⟩ := List.isChain_cons.1 ha
    have hend : (∃ value, token = .atom value) → EndsNumber rest :=
      fun hatom => hrest.endsNumber fun next hn => hfirst next hn hatom
    have hnext := next?_append ht hend
    obtain ⟨c, spelling, rfl, hc⟩ := ht.exists_cons
    have hdrop := dropWhile_gap hg (c :: spelling ++ rest) (by simpa using hc)
    simp only [List.length_append, List.length_cons] at hf
    obtain ⟨fuel, rfl⟩ : ∃ smaller, fuel = smaller + 1 := ⟨fuel - 1, by omega⟩
    rw [scanFrom.eq_def, hdrop]
    simp only [List.cons_append] at hnext ⊢
    rw [hnext]
    simp only [Option.bind_eq_bind, Option.bind_some]
    rw [ih htail (by omega)]
    rfl

/-- The scanner finds the tokens of a text, however they are spelled and spaced. -/
theorem scan_of_spaced {tokens : List Token} {cs : List Char} (h : Spaced tokens cs)
    (ha : Apart tokens) : scan cs = some tokens :=
  scanFrom_of_spaced h ha (Nat.le_refl _)

/-! ## Written tokens -/

theorem hexValue?_hexDigit : ∀ value < 16, hexValue? (hexDigit value) = some value := by
  decide

/-- The four digits that a control character is written with name its code. -/
theorem unit?_control {c : Char} (hc : c.toNat < 0x20) :
    unit? '0' '0' (hexDigit (c.toNat / 16)) (hexDigit (c.toNat % 16)) = some c.toNat := by
  have hzero : hexValue? '0' = some 0 := rfl
  rw [unit?, hzero, hexValue?_hexDigit _ (by omega), hexValue?_hexDigit _ (by omega)]
  simp only [Option.bind_eq_bind, Option.bind_some, Option.pure_def, Option.some.injEq]
  omega

/-- An escaped character is spelled as the grammar allows. -/
theorem Piece.spelled_escapeChar (c : Char) {pieces : List Piece} {cs : List Char}
    (h : Piece.Spelled pieces cs) :
    Piece.Spelled (.char c :: pieces) (Json.escapeChar c ++ cs) := by
  rw [Json.escapeChar.eq_def]
  split
  case h_8 _ hq hs _ _ _ _ _ =>
    by_cases hc : c.toNat < 0x20
    · have hpiece : Piece.ofUnit c.toNat = .char c := by
        rw [Piece.ofUnit, if_neg (by omega), if_neg (by omega), Char.ofNat_toNat]
      rw [if_pos hc]
      exact hpiece ▸ .unit (unit?_control hc) h
    · rw [if_neg hc]
      exact .plain hq hs (by omega) h
  -- The other cases are the characters with a short escape.
  all_goals exact .short rfl h

/-- A text between quotation marks is spelled as the grammar allows. -/
theorem spelled_quote (text : List Char) :
    (atom (.text (some (String.ofList text)))).Spelled (Json.quote text) := by
  have hpieces : Piece.Spelled (text.map .char) (text.flatMap Json.escapeChar) := by
    induction text with
    | nil => exact .nil
    | cons c rest ih => exact Piece.spelled_escapeChar c ih
  have hjoin : Piece.join (text.map .char) = some text := by
    clear hpieces
    induction text with
    | nil => rfl
    | cons c rest ih => rw [List.map_cons, Piece.join, ih]; rfl
  have h := Spelled.text hpieces
  rwa [hjoin] at h

/-- A positive number is written without a leading zero. -/
theorem head?_toDigits_ne {n : Nat} (h : 0 < n) : (Nat.toDigits 10 n).head? ≠ some '0' := by
  induction n using Nat.strongRecOn with
  | ind n ih =>
    rw [Nat.toDigits_eq_if (by decide)]
    split
    · have hdigit : ∀ d < 10, 0 < d → d.digitChar ≠ '0' := by decide
      simpa using hdigit n ‹_› h
    · have hrec := ih (n / 10) (by omega) (by omega)
      rw [List.head?_append]
      cases hh : (Nat.toDigits 10 (n / 10)).head? with
      | none => exact absurd (List.head?_eq_none_iff.1 hh) Nat.toDigits_ne_nil
      | some c => simpa [hh] using hrec

theorem whole_toDigits (n : Nat) : Whole (Nat.toDigits 10 n) := by
  rcases Nat.eq_zero_or_pos n with rfl | hn
  · exact .inl (Nat.toDigits_zero 10)
  · have hdigits : ∀ c ∈ Nat.toDigits 10 n, c.isDigit = true :=
      fun c hc => Nat.isDigit_of_mem_toDigits (by decide) (by decide) hc
    exact .inr ⟨⟨Nat.toDigits_ne_nil, hdigits⟩, head?_toDigits_ne hn⟩

/-- Every token is written as the grammar allows. -/
theorem spelled_chars (token : Token) : token.Spelled token.chars := by
  cases token with
  | beginArray => exact .beginArray
  | endArray => exact .endArray
  | beginObject => exact .beginObject
  | endObject => exact .endObject
  | comma => exact .comma
  | colon => exact .colon
  | atom value =>
    match value with
    | .null => exact .null
    | .bool true => exact .yes
    | .bool false => exact .no
    | .number (some n) =>
      have h := Spelled.natural (whole_toDigits n)
      rwa [Nat.ofDigitChars_ten_toDigits] at h
    | .number none => exact .negative (.inl rfl) .absent .absent
    | .text (some text) =>
      have h := spelled_quote text.toList
      rwa [String.ofList_toList] at h
    | .text none =>
      have hunit : unit? 'd' '8' '0' '0' = some 0xD800 := rfl
      exact .text (.unit hunit .nil)

/-- The text of tokens, without white space. -/
theorem spaced_flatMap_chars (tokens : List Token) : Spaced tokens (tokens.flatMap chars) := by
  induction tokens with
  | nil => exact .nil (List.forall_mem_nil _)
  | cons token rest ih => exact .cons (List.forall_mem_nil _) (spelled_chars token) ih

/-- White space may be put in front of a text. -/
theorem Spaced.indent {tokens : List Token} {gap cs : List Char}
    (hg : ∀ c ∈ gap, isSpace c = true) (h : Spaced tokens cs) : Spaced tokens (gap ++ cs) := by
  cases h with
  | nil hg' => exact .nil (List.forall_mem_append.2 ⟨hg, hg'⟩)
  | cons hg' ht hrest =>
    rw [← List.append_assoc]
    exact .cons (List.forall_mem_append.2 ⟨hg, hg'⟩) ht hrest

/-- A token may be put in front of a text as it is written. -/
theorem Spaced.chars_append (token : Token) {tokens : List Token} {cs : List Char}
    (h : Spaced tokens cs) : Spaced (token :: tokens) (token.chars ++ cs) :=
  .cons (List.forall_mem_nil _) (spelled_chars token) h

end Token
end LayoutParity
