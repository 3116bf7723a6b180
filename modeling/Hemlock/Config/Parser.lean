import Hemlock.Config.Tree

/-!
# Recursive-descent parser: tokens to a configuration tree

`statements` and `statement` follow the parser's two methods.  The parser's
position is the list of tokens that are left; `Parsed` carries the fact that a
call consumed something, which is what makes the two functions terminate.
-/

namespace Hemlock.Config

inductive ParseError where
  | lex (error : LexError)
  | unexpected (pos : Pos) (expected found : String)
  | unexpectedEof
  deriving DecidableEq, Repr

/-- One character as the `Debug` form of a string shows it. -/
def debugChar (ch : Char) : List Char :=
  if ch = '"' then ['\\', '"']
  else if ch = '\\' then ['\\', '\\']
  else if ch = '\n' then ['\\', 'n']
  else if ch = '\r' then ['\\', 'r']
  else if ch = '\t' then ['\\', 't']
  else [ch]

/-- How an error message names a token.  The parser only ever complains about
the tokens that are not words. -/
def Token.display : Token → String
  | .word text => String.ofList ('"' :: text.toList.flatMap debugChar ++ ['"'])
  | .lBrace => "'\x7b'"
  | .rBrace => "'\x7d'"
  | .semi => "';'"
  | .newline => "end of line"

def unexpected (spanned : Spanned) (expected : String) : ParseError :=
  .unexpected spanned.pos expected spanned.token.display

/-- A parsed value together with the tokens left, fewer than `bound`. -/
structure Parsed (Value : Type) (bound : Nat) where
  value : Value
  rest : List Spanned
  shorter : rest.length < bound

def takeWords : List Spanned → List String × List Spanned
  | ⟨.word text, _⟩ :: rest => (text :: (takeWords rest).1, (takeWords rest).2)
  | rest => ([], rest)

theorem takeWords_length (tokens : List Spanned) : (takeWords tokens).2.length ≤ tokens.length := by
  fun_induction takeWords tokens with
  | case1 text pos rest ih =>
    simp only [List.length_cons]
    omega
  | case2 => exact le_rfl

theorem takeWords_length_of_eq {tokens rest : List Spanned} {words : List String}
    (taken : takeWords tokens = (words, rest)) : rest.length ≤ tokens.length := by
  have bound := takeWords_length tokens
  rw [taken] at bound
  exact bound

mutual

/-- Statements until the end of input (top level) or a closing brace, which is
consumed.  Blank lines between statements are skipped. -/
def statements (topLevel : Bool) (tokens : List Spanned) :
    Except ParseError (Parsed (List Item) (tokens.length + 1)) :=
  match tokens with
  | [] =>
    if topLevel then .ok ⟨[], [], by simp⟩ else .error .unexpectedEof
  | ⟨.newline, _⟩ :: rest => do
      let parsed ← statements topLevel rest
      return ⟨parsed.value, parsed.rest, by have := parsed.shorter; simp only [List.length_cons]; omega⟩
  | ⟨.rBrace, pos⟩ :: rest =>
    if topLevel then .error (unexpected ⟨.rBrace, pos⟩ "a statement")
    else .ok ⟨[], rest, by simp only [List.length_cons]; omega⟩
  | spanned :: rest => do
      let head ← statement (spanned :: rest)
      let parsed ← statements topLevel head.rest
      return ⟨head.value :: parsed.value, parsed.rest, by
        have := head.shorter
        have := parsed.shorter
        omega⟩
termination_by 2 * tokens.length + 1
decreasing_by
  · simp only [List.length_cons]
    omega
  · omega
  · have := head.shorter
    omega

def statement (tokens : List Spanned) : Except ParseError (Parsed Item tokens.length) :=
  match tokens with
  | [] => .error .unexpectedEof
  | ⟨.word name, _⟩ :: rest =>
    match _taken : takeWords rest with
    | (words, ⟨.semi, _⟩ :: after) => .ok ⟨.leaf name words, after, by
        have := takeWords_length_of_eq _taken
        simp only [List.length_cons] at this ⊢
        omega⟩
    | (words, ⟨.newline, _⟩ :: after) => .ok ⟨.leaf name words, after, by
        have := takeWords_length_of_eq _taken
        simp only [List.length_cons] at this ⊢
        omega⟩
    | (words, ⟨.lBrace, _⟩ :: after) => do
        let body ← statements false after
        return ⟨.block name words body.value, body.rest, by
          have := takeWords_length_of_eq _taken
          have := body.shorter
          simp only [List.length_cons] at *
          omega⟩
    -- A closing brace or the end of input also ends a leaf, unconsumed.
    | (words, after) => .ok ⟨.leaf name words, after, by
        have := takeWords_length_of_eq _taken
        simp only [List.length_cons]
        omega⟩
  | spanned :: _ => .error (unexpected spanned "a name")
termination_by 2 * tokens.length
decreasing_by
  have := takeWords_length_of_eq _taken
  simp only [List.length_cons] at *
  omega

end

def parseTokens (tokens : List Spanned) : Except ParseError ConfigTree := do
  let parsed ← statements true tokens
  return ⟨parsed.value⟩

def parse (input : String) : Except ParseError ConfigTree :=
  match lex input with
  | .error error => .error (.lex error)
  | .ok tokens => parseTokens tokens

end Hemlock.Config
