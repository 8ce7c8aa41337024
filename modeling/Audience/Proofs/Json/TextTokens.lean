import Audience.Proofs.Json.NumberText
import Audience.Proofs.Json.StringText

/-!
# The tokens of a written value

A word has no end of its own: it ends where a mark or the text does. So the tokens of a text are stated
of the state behind it, which treats a mark as if the last word had ended already. Texts that are put
together with marks between them then have the tokens of both.

* **`Json.Reads`**: the tokens of a text. **`Json.Reads.append_mark`**, **`Json.reads_row`**: texts put
  together with marks.
* **`Json.reread`**: a value with its numbers as they come back.
* **`Json.tokens`**: the tokens of a value. **`Json.tokens?_text`**: its text has those of the value that
  comes back.
-/

namespace Audience.Json

/-! ### Tokens of texts -/

/-- No more than a mark or the end of the text is needed for the tokens. -/
structure Settles (state : Lexer) (found : List Token) : Prop where
  mark : ∀ c, Lexer.isWordChar c = false → Lexer.step? state c = Lexer.start? found c
  ends : state.finish? = some found.reverse

/-- The text has the tokens, behind any others. -/
def Reads (text : List Char) (tokens : List Token) : Prop :=
  ∀ found, ∃ state, text.foldlM Lexer.step? ⟨.between, found⟩ = some state ∧
    Settles state (tokens.reverse ++ found)

theorem settles_between (found : List Token) : Settles ⟨.between, found⟩ found :=
  ⟨fun _ _ => rfl, rfl⟩

variable {text front rest word : List Char} {before after : List Token} {token : Token} {c : Char}

theorem Reads.tokens? (h : Reads text after) : tokens? text = some after := by
  obtain ⟨state, hstate, hsettles⟩ := h []
  have hends := hsettles.ends
  rw [List.append_nil, List.reverse_reverse] at hends
  rw [Json.tokens?, hstate]
  exact hends

/-- A mark is a token by itself, and no part of a word. -/
theorem start?_mark (hmark : Lexer.markToken? c = some token) (found : List Token) :
    Lexer.isWordChar c = false ∧ Lexer.start? found c = some ⟨.between, token :: found⟩ := by
  unfold Lexer.markToken? at hmark
  split at hmark <;> cases hmark <;> exact ⟨by decide, rfl⟩

theorem reads_nil : Reads [] [] := fun found => ⟨_, rfl, settles_between found⟩

/-- A mark ends what stands before it. -/
theorem Reads.append_mark (hfront : Reads front before) (hmark : Lexer.markToken? c = some token)
    (hrest : Reads rest after) : Reads (front ++ c :: rest) (before ++ token :: after) := by
  intro found
  obtain ⟨state, hstate, hsettles⟩ := hfront found
  obtain ⟨last, hlast, hlasts⟩ := hrest (token :: (before.reverse ++ found))
  obtain ⟨hword, hstart⟩ := start?_mark hmark (before.reverse ++ found)
  refine ⟨last, ?_, ?_⟩
  · rw [foldlM_append_of_some hstate, foldlM_cons_of_some ((hsettles.mark c hword).trans hstart), hlast]
  · rwa [List.reverse_append, List.reverse_cons, List.append_assoc, List.append_assoc,
      List.singleton_append]

theorem Reads.cons_mark (hmark : Lexer.markToken? c = some token) (h : Reads rest after) :
    Reads (c :: rest) (token :: after) :=
  reads_nil.append_mark hmark h

theorem foldlM_word {chars : List Char} {found : List Token}
    (h : ∀ c ∈ word, Lexer.isWordChar c = true) :
    word.foldlM Lexer.step? ⟨.word chars, found⟩ = some ⟨.word (word.reverse ++ chars), found⟩ := by
  induction word generalizing chars with
  | nil => rfl
  | cons c rest ih =>
    have hstep : Lexer.step? ⟨.word chars, found⟩ c = some ⟨.word (c :: chars), found⟩ :=
      if_pos (h c List.mem_cons_self)
    rw [foldlM_cons_of_some hstep, ih fun c hc => h c (List.mem_cons_of_mem _ hc), List.reverse_cons,
      List.append_assoc, List.singleton_append]

theorem start?_word (h : Lexer.isWordChar c = true) (found : List Token) :
    Lexer.start? found c = some ⟨.word [c], found⟩ := by
  have hne : ∀ other, Lexer.isWordChar other = false → c ≠ other := by
    rintro other hother rfl
    rw [h] at hother
    cases hother
  rw [Lexer.start?, if_neg, if_neg (hne '"' (by decide)), if_pos h]
  simp [hne ' ' (by decide), hne '\n' (by decide), hne '\t' (by decide), hne '\r' (by decide)]

theorem reads_word (htoken : Lexer.wordToken? word = some token)
    (h : ∀ c ∈ word, Lexer.isWordChar c = true) : Reads word [token] := by
  intro found
  obtain ⟨c, rest, rfl⟩ : ∃ c rest, word = c :: rest := by
    cases word with
    | nil => cases htoken
    | cons c rest => exact ⟨c, rest, rfl⟩
  have hstart : Lexer.step? ⟨.between, found⟩ c = some ⟨.word [c], found⟩ :=
    start?_word (h c List.mem_cons_self) found
  have hword : (rest.reverse ++ [c]).reverse = c :: rest := by simp
  refine ⟨⟨.word (rest.reverse ++ [c]), found⟩, ?_, ?_, ?_⟩
  · rw [foldlM_cons_of_some hstart, foldlM_word fun c hc => h c (List.mem_cons_of_mem _ hc)]
  · intro next hnext
    simp only [Lexer.step?, hnext, hword, htoken]
    rfl
  · simp only [Lexer.finish?, hword, htoken]
    rfl

theorem reads_stringText (value : String) : Reads (stringText value).toList [.string (some value)] :=
  fun _ => ⟨_, foldlM_stringText value, settles_between _⟩

/-- Rows with commas between them. -/
theorem reads_row {texts : List (List Char)} {rows : List (List Token)}
    (h : List.Forall₂ Reads texts rows) :
    Reads ([','].intercalate texts) ([.comma].intercalate rows) := by
  induction h with
  | nil => exact reads_nil
  | cons hfirst hrest ih =>
    cases hrest with
    | nil => simpa using hfirst
    | cons _ _ =>
      rw [List.intercalate_cons_cons, List.intercalate_cons_cons, List.append_assoc, List.append_assoc]
      exact hfirst.append_mark rfl ih

/-! ### Values as they come back -/

mutual

/-- The value that comes back of a value from its text, but for the order of members. -/
def reread : Json → Json
  | null => null
  | bool value => bool value
  | number value => number value.reread
  | string value => string value
  | array items => array (rereadItems items)
  | object members => object (rereadMembers members)

/-- What comes back of a row of values. -/
def rereadItems : List Json → List Json
  | [] => []
  | item :: rest => reread item :: rereadItems rest

/-- What comes back of members. -/
def rereadMembers : List (String × Json) → List (String × Json)
  | [] => []
  | (key, value) :: rest => (key, reread value) :: rereadMembers rest

end

theorem rereadItems_eq_map (items : List Json) : rereadItems items = items.map reread := by
  induction items with
  | nil => rfl
  | cons item rest ih => rw [rereadItems, ih, List.map_cons]

theorem rereadMembers_eq_map (members : List (String × Json)) :
    rereadMembers members = members.map fun entry => (entry.1, entry.2.reread) := by
  induction members with
  | nil => rfl
  | cons entry rest ih => rw [rereadMembers, ih, List.map_cons]

/-! ### Tokens of values -/

mutual

/-- The tokens of a value. -/
def tokens : Json → List Token
  | null => [.null]
  | bool value => [.bool value]
  | number value => [.number (some value)]
  | string value => [.string (some value)]
  | array items => .arrayOpen :: ([.comma].intercalate (itemTokens items) ++ [.arrayClose])
  | object members => .objectOpen :: ([.comma].intercalate (memberTokens members) ++ [.objectClose])

/-- The tokens of each of several values. -/
def itemTokens : List Json → List (List Token)
  | [] => []
  | item :: rest => tokens item :: itemTokens rest

/-- The tokens of each of several members. -/
def memberTokens : List (String × Json) → List (List Token)
  | [] => []
  | (key, value) :: rest => (.string (some key) :: .colon :: tokens value) :: memberTokens rest

end

mutual

/-- The text of a value has the tokens of the value that comes back. -/
theorem reads_text (json : Json) : Reads json.text.toList json.reread.tokens := by
  cases json with
  | null => exact reads_word rfl (List.all_eq_true.1 rfl)
  | bool value => cases value <;> exact reads_word rfl (List.all_eq_true.1 rfl)
  | number value =>
    rw [text]
    exact reads_word (wordToken?_text value).1 (wordToken?_text value).2
  | string value => exact reads_stringText value
  | array items =>
    have hrows := (reads_row (reads_itemTexts items)).append_mark (c := ']') rfl reads_nil
    rw [text, String.toList_append, String.toList_append, String.toList_intercalate, List.append_assoc]
    exact hrows.cons_mark rfl
  | object members =>
    have hrows := (reads_row (reads_memberTexts members)).append_mark (c := '\x7d') rfl reads_nil
    rw [text, String.toList_append, String.toList_append, String.toList_intercalate, List.append_assoc]
    exact hrows.cons_mark rfl

theorem reads_itemTexts (items : List Json) :
    List.Forall₂ Reads ((itemTexts items).map String.toList) (itemTokens (rereadItems items)) := by
  cases items with
  | nil => exact .nil
  | cons item rest => exact .cons (reads_text item) (reads_itemTexts rest)

theorem reads_memberTexts (members : List (String × Json)) :
    List.Forall₂ Reads ((memberTexts members).map String.toList)
      (memberTokens (rereadMembers members)) := by
  cases members with
  | nil => exact .nil
  | cons member rest =>
    obtain ⟨key, value⟩ := member
    refine .cons ?_ (reads_memberTexts rest)
    rw [String.toList_append, String.toList_append, List.append_assoc]
    exact (reads_stringText key).append_mark (c := ':') rfl (reads_text value)

end

theorem tokens?_text (json : Json) : tokens? json.text.toList = some json.reread.tokens :=
  (reads_text json).tokens?

end Audience.Json
