import LayoutParity.Proofs.JsonTexts
import LayoutParity.Proofs.PaintedTexts

/-!
# JSON texts without escapes

A text that is written for a JSON value has no escape character, in any spelling: strings spell
control characters with a backslash, and an escape is no white space (`Json.Written.escapeFree`).
-/

namespace LayoutParity

open Text (escape EscapeFree)

namespace Token

theorem Piece.Spelled.escape_notMem {pieces : List Piece} {cs : List Char}
    (h : Piece.Spelled pieces cs) : escape ∉ cs := by
  induction h with
  | nil => exact List.not_mem_nil
  | @plain c _ _ _ _ hc _ ih =>
    have hplain : escape ≠ c := fun he => absurd (he ▸ hc) (by decide)
    simp [hplain, ih]
  | @short letter c _ _ hl _ ih =>
    have hnone : shortEscape? escape = none := rfl
    have hletter : escape ≠ letter := fun he => by simp [← he, hnone] at hl
    have hslash : escape ≠ '\\' := by decide
    simp [hslash, hletter, ih]
  | @unit a b c d _ _ _ hu _ ih =>
    have hnone : hexValue? escape = none := rfl
    have hdigits : escape ≠ a ∧ escape ≠ b ∧ escape ≠ c ∧ escape ≠ d := by
      refine ⟨?_, ?_, ?_, ?_⟩ <;> rintro rfl <;> simp [unit?, hnone] at hu
    have hslash : escape ≠ '\\' ∧ escape ≠ 'u' := by decide
    simp [hslash, hdigits, ih]

theorem Digits.escape_notMem {cs : List Char} (h : Digits cs) : escape ∉ cs :=
  fun hc => absurd (h.2 escape hc) (by decide)

theorem Whole.escape_notMem {cs : List Char} (h : Whole cs) : escape ∉ cs := by
  rcases h with rfl | ⟨hdigits, -⟩
  · decide
  · exact hdigits.escape_notMem

theorem Fraction.escape_notMem {cs : List Char} (h : Fraction cs) : escape ∉ cs := by
  cases h with
  | absent => exact List.not_mem_nil
  | present hdigits =>
    have hpoint : escape ≠ '.' := by decide
    simp [hpoint, hdigits.escape_notMem]

theorem Exponent.escape_notMem {cs : List Char} (h : Exponent cs) : escape ∉ cs := by
  cases h with
  | absent => exact List.not_mem_nil
  | @present letter sign _ hl hs hd =>
    have hletter : escape ≠ letter := fun he => absurd (he ▸ hl) (by decide)
    have hsign : escape ∉ sign := by
      have hsigns : ∀ sign ∈ ([[], ['+'], ['-']] : List (List Char)), escape ∉ sign := by decide
      exact hsigns sign hs
    simp [hletter, hsign, hd.escape_notMem]

/-- No spelling of a token has an escape. -/
theorem Spelled.escape_notMem {token : Token} {cs : List Char} (h : token.Spelled cs) :
    escape ∉ cs := by
  cases h with
  | natural hw => exact hw.escape_notMem
  | positive hw hf he _ => simp [hw.escape_notMem, hf.escape_notMem, he.escape_notMem]
  | negative hw hf he =>
    have hsign : escape ≠ '-' := by decide
    simp [hsign, hw.escape_notMem, hf.escape_notMem, he.escape_notMem]
  | text hp =>
    have hquote : escape ≠ '"' := by decide
    simp [hquote, hp.escape_notMem]
  | _ => decide

theorem Spaced.escape_notMem {tokens : List Token} {cs : List Char} (h : Spaced tokens cs) :
    escape ∉ cs := by
  have hgap {gap : List Char} (hspace : ∀ c ∈ gap, isSpace c = true) : escape ∉ gap :=
    fun hc => absurd (hspace escape hc) (by decide)
  induction h with
  | nil hspace => exact hgap hspace
  | cons hspace ht _ ih => simp [hgap hspace, ht.escape_notMem, ih]

end Token

/-- No text of a JSON value has an escape. -/
theorem Json.Written.escapeFree {text : String} {value : Json} (h : Json.Written text value) :
    EscapeFree text :=
  Token.Spaced.escape_notMem h

end LayoutParity
