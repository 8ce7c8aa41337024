import Audience.Json.Text
import Audience.Json.Token
import Audience.Proofs.Outcome

/-!
# JSON strings read back from their text

* **`Json.pieceOf`**: what the reader makes of a written character.
* **`Json.foldlM_stringChar`**: a written character is read as that piece.
* **`Json.text?_pieces`**: the pieces of a text are that text.
* **`Json.foldlM_stringText`**: the text of a string is one token.
-/

namespace Audience.Json

variable {c : Char} {chars : List Char} {pieces : List Piece} {found : List Token}

/-! ### Characters -/

/-- What a written character is read as: a control character without a letter of its own is written by
its code. -/
def pieceOf (c : Char) : Piece :=
  if c.toNat < 0x20 ∧ c ∉ ['\n', '\r', '\t', '\x08', '\x0c'] then .codeUnit c.toNat else .char c

theorem hexDigit?_digitChar {d : Nat} (hd : d < 16) : Text.hexDigit? d.digitChar = some d := by
  have hall : ∀ d < 16, Text.hexDigit? d.digitChar = some d := by decide
  exact hall d hd

theorem fourDigits_eq {n : Nat} (hn : n < 0x20) :
    fourDigits n = ['0', '0', (n / 16).digitChar, (n % 16).digitChar] := by
  have hall : ∀ n < 0x20, fourDigits n = ['0', '0', (n / 16).digitChar, (n % 16).digitChar] := by
    decide
  exact hall n hn

theorem step?_digitChar {d value left : Nat} (hd : d < 16) :
    Lexer.step? ⟨.hexadecimal pieces value (left + 1), found⟩ d.digitChar =
      some ⟨.hexadecimal pieces (16 * value + d) left, found⟩ := by
  simp only [Lexer.step?, hexDigit?_digitChar hd]
  rfl

theorem step?_last_digitChar {d value : Nat} (hd : d < 16) :
    Lexer.step? ⟨.hexadecimal pieces value 0, found⟩ d.digitChar =
      some ⟨.string (.codeUnit (16 * value + d) :: pieces), found⟩ := by
  simp only [Lexer.step?, hexDigit?_digitChar hd]
  rfl

theorem foldlM_fourDigits {n : Nat} (hn : n < 0x20) :
    (fourDigits n).foldlM Lexer.step? ⟨.hexadecimal pieces 0 3, found⟩ =
      some ⟨.string (.codeUnit n :: pieces), found⟩ := by
  have hvalue : 16 * (16 * (16 * (16 * 0 + 0) + 0) + n / 16) + n % 16 = n := by omega
  rw [fourDigits_eq hn, show '0' = Nat.digitChar 0 from rfl,
    foldlM_cons_of_some (step?_digitChar (by decide)),
    foldlM_cons_of_some (step?_digitChar (by decide)),
    foldlM_cons_of_some (step?_digitChar (by omega)),
    foldlM_cons_of_some (step?_last_digitChar (by omega)), hvalue]
  rfl

/-- Within a string, a written character is read as its piece. -/
theorem foldlM_stringChar : (stringChar c).foldlM Lexer.step? ⟨.string pieces, found⟩ =
    some ⟨.string (pieceOf c :: pieces), found⟩ := by
  by_cases hletter : c ∈ ['"', '\\', '\n', '\r', '\t', '\x08', '\x0c']
  · simp only [List.mem_cons, List.not_mem_nil, or_false] at hletter
    rcases hletter with rfl | rfl | rfl | rfl | rfl | rfl | rfl <;> rfl
  · simp only [List.mem_cons, List.not_mem_nil, or_false, not_or] at hletter
    obtain ⟨hquote, hslash, hfeed, hreturn, htab, hback, hform⟩ := hletter
    by_cases hcontrol : c.toNat < 0x20
    · have hpiece : pieceOf c = .codeUnit c.toNat := if_pos ⟨hcontrol, by
        simp [hfeed, hreturn, htab, hback, hform]⟩
      have htext : stringChar c = '\\' :: 'u' :: fourDigits c.toNat := by
        simp [stringChar, hquote, hslash, hfeed, hreturn, htab, hback, hform, hcontrol]
      rw [htext, hpiece]
      exact foldlM_fourDigits hcontrol
    · have hpiece : pieceOf c = .char c := if_neg fun h => hcontrol h.1
      have htext : stringChar c = [c] := by
        simp [stringChar, hquote, hslash, hfeed, hreturn, htab, hback, hform, hcontrol]
      rw [htext, hpiece]
      simp [Lexer.step?, hquote, hslash, hcontrol]

/-! ### Whole strings -/

theorem foldlM_stringChars :
    (chars.map stringChar).flatten.foldlM Lexer.step? ⟨.string pieces, found⟩ =
      some ⟨.string ((chars.map pieceOf).reverse ++ pieces), found⟩ := by
  induction chars generalizing pieces with
  | nil => rfl
  | cons c rest ih =>
    rw [List.map_cons, List.flatten_cons, foldlM_append_of_some foldlM_stringChar, ih, List.map_cons,
      List.reverse_cons, List.append_assoc, List.singleton_append]

theorem text?_codeUnit {code : Nat} (h : code < 0x20) :
    Piece.text? (.codeUnit code :: pieces) = (Piece.text? pieces).map (Char.ofNat code :: ·) := by
  have hhigh : ¬ 0xd800 ≤ code := by omega
  have hlow : ¬ 0xdc00 ≤ code := by omega
  cases pieces with
  | nil => simp [Piece.text?, hhigh]
  | cons piece rest => cases piece <;> simp [Piece.text?, hhigh, hlow]

theorem text?_pieces : Piece.text? (chars.map pieceOf) = some chars := by
  induction chars with
  | nil => rfl
  | cons c rest ih =>
    rw [List.map_cons, pieceOf]
    split
    · rename_i h
      rw [text?_codeUnit h.1, ih, Char.ofNat_toNat]
      rfl
    · rw [Piece.text?, ih]
      rfl

/-- The text of a string is one token. -/
theorem foldlM_stringText (text : String) :
    (stringText text).toList.foldlM Lexer.step? ⟨.between, found⟩ =
      some ⟨.between, .string (some text) :: found⟩ := by
  have hopen : Lexer.step? ⟨.between, found⟩ '"' = some ⟨.string [], found⟩ := rfl
  have hclose : Lexer.step? ⟨.string ((text.toList.map pieceOf).reverse ++ []), found⟩ '"' =
      some ⟨.between, .string (some text) :: found⟩ := by
    rw [List.append_nil, Lexer.step?]
    simp only [List.reverse_reverse, text?_pieces, Option.map_some, String.ofList_toList]
    rfl
  rw [stringText, String.toList_ofList, List.cons_append, foldlM_cons_of_some hopen,
    foldlM_append_of_some foldlM_stringChars, foldlM_cons_of_some hclose]
  rfl

end Audience.Json
