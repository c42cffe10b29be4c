/-!
# Blank characters

A set of characters is given by ranges of code points (`inRanges`). Here it is the characters with
Unicode's White_Space property (`isBlank`), with the text left when they are cut from both ends
(`trim`) and the texts that consist of nothing else (`isBlankText`). A text is blank exactly when
trimming leaves nothing of it (`trim_eq_empty_iff`).
-/

namespace LayoutParity.Text

/-- Whether a character's code point is in one of the ranges, both ends of which belong to it. -/
def inRanges (ranges : List (Nat × Nat)) (c : Char) : Bool :=
  ranges.any fun range => range.1 ≤ c.toNat && c.toNat ≤ range.2

/-- The code point ranges of the White_Space property, both ends included. -/
def blankRanges : List (Nat × Nat) :=
  [(0x09, 0x0D), (0x20, 0x20), (0x85, 0x85), (0xA0, 0xA0), (0x1680, 0x1680), (0x2000, 0x200A),
   (0x2028, 0x2029), (0x202F, 0x202F), (0x205F, 0x205F), (0x3000, 0x3000)]

/-- Whether a character has the White_Space property. -/
def isBlank (c : Char) : Bool :=
  inRanges blankRanges c

/-- The characters without the blank ones at either end. -/
def trimChars (cs : List Char) : List Char :=
  ((cs.dropWhile isBlank).reverse.dropWhile isBlank).reverse

/-- The text without the blank characters at either end. -/
def trim (text : String) : String :=
  String.ofList (trimChars text.toList)

/-- Whether a text has no character that is not blank; the empty text has none. -/
def isBlankText (text : String) : Bool :=
  text.toList.all isBlank

/-- Cutting blank characters from the front leaves nothing exactly of the blank lists. -/
theorem dropWhile_isBlank_eq_nil_iff (cs : List Char) :
    cs.dropWhile isBlank = [] ↔ ∀ c ∈ cs, isBlank c = true := by
  induction cs with
  | nil => simp
  | cons c rest ih => by_cases h : isBlank c = true <;> simp [h, ih]

/-- What is left after cutting blank characters from the front starts with another character. -/
theorem isBlank_head_dropWhile {cs : List Char} {c : Char} {rest : List Char}
    (h : cs.dropWhile isBlank = c :: rest) : isBlank c = false := by
  induction cs with
  | nil => simp at h
  | cons d ds ih =>
    by_cases hd : isBlank d = true
    · exact ih (by simpa [hd] using h)
    · simp only [hd, Bool.false_eq_true, not_false_eq_true, List.dropWhile_cons_of_neg,
        List.cons.injEq] at h
      exact h.1 ▸ by simpa using hd

/-- Nothing is left of a list exactly when all of it is blank. -/
theorem trimChars_eq_nil_iff (cs : List Char) : trimChars cs = [] ↔ ∀ c ∈ cs, isBlank c = true := by
  rw [← dropWhile_isBlank_eq_nil_iff]
  constructor
  · intro h
    simp only [trimChars, List.reverse_eq_nil_iff, dropWhile_isBlank_eq_nil_iff,
      List.mem_reverse] at h
    cases hd : cs.dropWhile isBlank with
    | nil => rfl
    | cons c rest => simp [hd, isBlank_head_dropWhile hd] at h
  · intro h
    simp [trimChars, h]

/-- Nothing is left of a text exactly when all of it is blank. -/
theorem trim_eq_empty_iff (text : String) : trim text = "" ↔ isBlankText text = true := by
  rw [isBlankText, List.all_eq_true, ← trimChars_eq_nil_iff, trim, ← String.toList_inj]
  simp

end LayoutParity.Text
