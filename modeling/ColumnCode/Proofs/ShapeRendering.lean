import ColumnCode.Proofs.Readers
import ColumnCode.Shape

/-!
# The renderings of a shape

A shape is written in three ways: as an array type around an element, in
brackets, and as a product.  All three show the tokens that the shape was made
of, in the same order and spelled as they are, whether a token was taken for a
literal or for a symbol.
-/

namespace ColumnCode

namespace Shape

/-- The text consists of array types around an element, one layer for each
extent.  Layers are counted from the outside. -/
def IsLayered (extents : List String) (element text : String) : Prop :=
  ∃ layer : Nat → String, layer 0 = text ∧ layer extents.length = element ∧
    ∀ (place : Nat) (inside : place < extents.length),
      layer place = "std::array<" ++ layer (place + 1) ++ ", " ++ extents[place] ++ ">"

def isBracket (character : Char) : Bool :=
  character == '[' || character == ']'

/-- What stands between the brackets of a text. -/
def betweenBrackets (text : String) : List String :=
  ((text.toList.splitOnP isBracket).filter (· ≠ [])).map String.ofList

section Layers

variable {extent : String} {extents : List String} {element text : String}

theorem isLayered_nil_iff : IsLayered [] element text ↔ text = element := by
  constructor
  · rintro ⟨layer, rfl, rfl, -⟩
    rfl
  · rintro rfl
    exact ⟨fun _ => text, rfl, rfl, by simp⟩

theorem isLayered_cons_iff :
    IsLayered (extent :: extents) element text ↔
      ∃ inner, IsLayered extents element inner ∧ text = arrayOf inner extent := by
  constructor
  · rintro ⟨layer, rfl, innermost, closes⟩
    refine ⟨layer 1, ⟨fun place => layer (place + 1), rfl, innermost, ?_⟩, ?_⟩
    · exact fun place inside => closes (place + 1) (Nat.succ_lt_succ inside)
    · exact closes 0 (Nat.succ_pos extents.length)
  · rintro ⟨inner, ⟨layer, rfl, innermost, closes⟩, rfl⟩
    -- The new layer stands at place zero, so all others move by one place.
    let layers (place : Nat) : String := place.casesOn (arrayOf (layer 0) extent) layer
    refine ⟨layers, rfl, innermost, fun place inside => ?_⟩
    cases place with
    | zero => rfl
    | succ place => exact closes place (Nat.lt_of_succ_lt_succ inside)

/-- The wrapped element is the only text with these layers. -/
theorem isLayered_iff :
    IsLayered extents element text ↔ text = (ofTokens extents).wrap element := by
  rw [wrap, spellings_ofTokens]
  induction extents generalizing text with
  | nil => exact isLayered_nil_iff
  | cons extent extents ih => simp [isLayered_cons_iff, ih]

theorem wrap_append (first second : List String) (element : String) :
    (ofTokens (first ++ second)).wrap element =
      (ofTokens first).wrap ((ofTokens second).wrap element) := by
  simp only [wrap, spellings_ofTokens, List.foldr_append]

end Layers

section Brackets

/-- No bracket stands inside a token, so a bracketed token ends at its own. -/
theorem splitOnP_bracketed {token : List Char} (isToken : Definition.IsToken token)
    (rest : List Char) :
    (Definition.bracketed token ++ rest).splitOnP isBracket =
      [] :: token :: rest.splitOnP isBracket := by
  have unbracketed : ∀ character ∈ token, isBracket character = false := by
    intro character member
    have inside := isToken.1 character member
    simp only [Definition.inDimension, Bool.and_eq_true, bne_iff_ne] at inside
    simp [isBracket, inside]
  have closed := List.splitOnP_append_cons_of_forall_mem unbracketed ']' rfl rest
  rw [Definition.bracketed, List.cons_append, List.append_assoc, List.singleton_append,
    List.splitOnP_cons_eq_if_modifyHead, closed]
  rfl

theorem betweenBrackets_bracketed {tokens : List String}
    (areTokens : ∀ token ∈ tokens, Definition.IsToken token.toList) :
    betweenBrackets (ofTokens tokens).bracketed = tokens := by
  unfold betweenBrackets bracketed
  rw [spellings_ofTokens]
  induction tokens with
  | nil => rfl
  | cons token tokens ih =>
      obtain ⟨isToken, others⟩ := List.forall_mem_cons.mp areTokens
      have nonempty : token.toList ≠ [] := by
        obtain ⟨character, member, -⟩ := isToken.2
        exact List.ne_nil_of_mem member
      have head : ("[" ++ token ++ "]").toList = Definition.bracketed token.toList := by
        simp [Definition.bracketed]
      rw [List.map_cons, String.join_cons, String.toList_append, head,
        splitOnP_bracketed isToken, List.filter_cons_of_neg (by simp),
        List.filter_cons_of_pos (by simpa using nonempty), List.map_cons, ih others,
        String.ofList_toList]

/-- Shapes that are written alike in brackets are the same. -/
theorem bracketed_eq_iff {tokens others : List String}
    (areTokens : ∀ token ∈ tokens, Definition.IsToken token.toList)
    (areOthers : ∀ token ∈ others, Definition.IsToken token.toList) :
    (ofTokens tokens).bracketed = (ofTokens others).bracketed ↔
      ofTokens tokens = ofTokens others := by
  constructor
  · intro same
    have recovered := congrArg betweenBrackets same
    rw [betweenBrackets_bracketed areTokens, betweenBrackets_bracketed areOthers] at recovered
    rw [recovered]
  · intro same
    rw [same]

end Brackets

theorem product_append {first second : List String} (notFirst : first ≠ [])
    (notSecond : second ≠ []) :
    (ofTokens (first ++ second)).product =
      (ofTokens first).product ++ " * " ++ (ofTokens second).product := by
  simp only [product, spellings_ofTokens]
  exact String.intercalate_append_of_ne_nil notFirst notSecond

/-- The three renderings of a shape show its tokens as they are spelled.  The
array type has one layer for each, the first outermost, so wrapping goes layer by
layer; the brackets hold them in order, so they are found again and tell the
shape; and the product joins them in order. -/
theorem renderings_show_tokens {tokens : List String}
    (areTokens : ∀ token ∈ tokens, Definition.IsToken token.toList) :
    (∀ element text,
        text = (ofTokens tokens).wrap element ↔ IsLayered tokens element text) ∧
      (∀ others element, (ofTokens (tokens ++ others)).wrap element =
        (ofTokens tokens).wrap ((ofTokens others).wrap element)) ∧
      (ofTokens tokens).bracketed =
        String.join (tokens.map fun token => "[" ++ token ++ "]") ∧
      betweenBrackets (ofTokens tokens).bracketed = tokens ∧
      (∀ others, (∀ token ∈ others, Definition.IsToken token.toList) →
        ((ofTokens tokens).bracketed = (ofTokens others).bracketed ↔
          ofTokens tokens = ofTokens others)) ∧
      (∀ token, (ofTokens [token]).product = token) ∧
      ∀ others, tokens ≠ [] → others ≠ [] →
        (ofTokens (tokens ++ others)).product =
          (ofTokens tokens).product ++ " * " ++ (ofTokens others).product := by
  refine ⟨fun element text => isLayered_iff.symm, wrap_append tokens, ?_,
    betweenBrackets_bracketed areTokens, fun others areOthers => ?_, fun token => ?_,
    fun others notTokens notOthers => product_append notTokens notOthers⟩
  · rw [bracketed, spellings_ofTokens]
  · exact bracketed_eq_iff areTokens areOthers
  · simp [product]

/-- A literal with a zero in front, an expression with spaces and a number that
is no word, and one more dimension behind them. -/
theorem renderings_show_tokens_spelled :
    (∀ token ∈ ["010", "2 * N", "18446744073709551616"],
        Definition.IsToken token.toList) ∧
      IsLayered ["010", "2 * N", "18446744073709551616"] "Int_t"
        ("std::array<std::array<std::array<Int_t, 18446744073709551616>, 2 * N>, 010>") ∧
      (ofTokens ["010", "2 * N", "18446744073709551616"]).bracketed =
        "[010][2 * N][18446744073709551616]" ∧
      betweenBrackets "[010][2 * N][18446744073709551616]" =
        ["010", "2 * N", "18446744073709551616"] ∧
      (ofTokens ["010", "2 * N", "18446744073709551616", "n"]).product =
        "010 * 2 * N * 18446744073709551616 * n" := by
  have areTokens : ∀ token ∈ ["010", "2 * N", "18446744073709551616"],
      Definition.IsToken token.toList := by
    decide +kernel
  obtain ⟨layered, -, brackets, between, -, -, product⟩ := renderings_show_tokens areTokens
  have shown := brackets.trans (by decide +kernel : _ = "[010][2 * N][18446744073709551616]")
  exact ⟨areTokens, (layered _ _).mp (by decide +kernel), shown, shown ▸ between,
    (product ["n"] (by decide) (by decide)).trans (by decide +kernel)⟩

end Shape

end ColumnCode
