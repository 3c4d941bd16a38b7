import Mathlib.Data.List.Basic

/-! `prismTokensToHast` from `ModDetailsSource.tsx`, which turns the token stream of
`Prism.tokenize` into the HAST nodes `react-diff-view` renders, and the highlighter
adapter built on it. The source text is the strings of the stream, in order. -/

set_option autoImplicit false

namespace Windhawk.ModDetailsSource

/-! ## Token streams and HAST -/

inductive TokenType where
  | name (type : String)
  | names (types : List String)
  deriving DecidableEq, Repr

mutual
inductive StreamItem where
  | text (value : String)
  | token (type : TokenType) (content : TokenContent)
/-- `token.content`, a `TokenStream`: a string, a single token, or an array of strings and
tokens. -/
inductive TokenContent where
  | text (value : String)
  | token (type : TokenType) (content : TokenContent)
  | stream (items : List StreamItem)
end

inductive HastNode where
  | text (value : String)
  | element (tagName : String) (className : List String) (children : List HastNode)
  deriving Repr

/-! ## `prismTokensToHast` -/

def className : TokenType → List String
  | .names types => types.map ("token " ++ ·)
  | .name type => ["token", type].filter (· ≠ "")

mutual
def prismTokensToHast : List StreamItem → List HastNode
  | [] => []
  | .text value :: rest => .text value :: prismTokensToHast rest
  | .token type content :: rest =>
      .element "span" (className type) (contentChildren content) :: prismTokensToHast rest
/-- The `children` of a token's `span`: a string becomes one text node, an array is
converted in turn, and anything else goes through `String(token.content)`, which for a
`Prism.Token` is `"[object Object]"`. -/
def contentChildren : TokenContent → List HastNode
  | .text value => [.text value]
  | .stream items => prismTokensToHast items
  | .token _ _ => [.text "[object Object]"]
end

/-- The highlighter adapter `prismAdapter.highlight`, given what `Prism.tokenize` makes of
the code with the grammar of the language, when there is one. -/
def highlight (tokenize : String → Option (List StreamItem)) (code : String) : List HastNode :=
  match tokenize code with
  | none => [.text code]
  | some tokens => prismTokensToHast tokens

/-! ## The text of a stream and of a tree -/

mutual
def streamText : List StreamItem → String
  | [] => ""
  | .text value :: rest => value ++ streamText rest
  | .token _ content :: rest => contentText content ++ streamText rest
def contentText : TokenContent → String
  | .text value => value
  | .token _ content => contentText content
  | .stream items => streamText items
end

mutual
def textValues : List HastNode → String
  | [] => ""
  | node :: rest => node.textValue ++ textValues rest
def HastNode.textValue : HastNode → String
  | .text value => value
  | .element _ _ children => textValues children
end

mutual
def streamSingleTokenFree : List StreamItem → Bool
  | [] => true
  | .text _ :: rest => streamSingleTokenFree rest
  | .token _ content :: rest => contentSingleTokenFree content && streamSingleTokenFree rest
def contentSingleTokenFree : TokenContent → Bool
  | .text _ => true
  | .token _ _ => false
  | .stream items => streamSingleTokenFree items
end

/-! ## The text survives exactly when no content is a single token -/

mutual
theorem textValues_prismTokensToHast :
    ∀ items : List StreamItem, streamSingleTokenFree items = true →
      textValues (prismTokensToHast items) = streamText items
  | [], _ => rfl
  | .text value :: rest, free => by
      simp only [streamSingleTokenFree] at free
      simp only [prismTokensToHast, textValues, HastNode.textValue, streamText,
        textValues_prismTokensToHast rest free]
  | .token type content :: rest, free => by
      simp only [streamSingleTokenFree, Bool.and_eq_true] at free
      simp only [prismTokensToHast, textValues, HastNode.textValue, streamText,
        textValues_contentChildren content free.1, textValues_prismTokensToHast rest free.2]
theorem textValues_contentChildren :
    ∀ content : TokenContent, contentSingleTokenFree content = true →
      textValues (contentChildren content) = contentText content
  | .text value, _ => by simp [contentChildren, textValues, HastNode.textValue, contentText]
  | .stream items, free => textValues_prismTokensToHast items free
  | .token _ _, free => nomatch free
end

/-- Every stream in which a token's content is a string or an array, as `Prism.tokenize`
builds them, keeps its text through `prismTokensToHast`. -/
theorem prismTokensToHast_keeps_text (items : List StreamItem)
    (free : streamSingleTokenFree items = true) :
    textValues (prismTokensToHast items) = streamText items :=
  textValues_prismTokensToHast items free

theorem prismTokensToHast_keeps_text_nested :
    streamSingleTokenFree [.token (.name "function") (.stream [.text "f",
        .token (.name "punctuation") (.text "(")]), .text ")"] = true ∧
      textValues (prismTokensToHast [.token (.name "function") (.stream [.text "f",
        .token (.name "punctuation") (.text "(")]), .text ")"]) = "f()" :=
  ⟨rfl, prismTokensToHast_keeps_text _ rfl⟩

/-- A token whose content is a single token loses the inner token's text: its `span` shows
`[object Object]`. -/
theorem prismTokensToHast_single_token_content :
    textValues (prismTokensToHast
        [.token (.name "keyword") (.token (.name "builtin") (.text "int"))]) = "[object Object]" ∧
      streamText [.token (.name "keyword") (.token (.name "builtin") (.text "int"))] = "int" := by
  decide

end Windhawk.ModDetailsSource
