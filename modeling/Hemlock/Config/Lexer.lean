import Mathlib.Data.String.Basic
import Mathlib.Data.List.Basic

/-!
# Tokenizer of the curly-brace configuration format

`scan` is one turn of the tokenizer's main loop: it looks at the text that is
left and either skips something, emits one token, or fails.  `lexFrom` iterates
it and keeps the line and column counters.  Positions never influence which
tokens come out, so everything the rest of the development needs is phrased
with the position-free relation `Lexes`.
-/

namespace Hemlock.Config

/-- A token; quotes of a quoted word are already stripped and unescaped. -/
inductive Token where
  | word (text : String)
  | lBrace
  | rBrace
  | semi
  | newline
  deriving DecidableEq, Repr

/-- Line and column of the next character, both counted from one. -/
structure Pos where
  line : Nat
  col : Nat
  deriving DecidableEq, Repr

structure Spanned where
  token : Token
  pos : Pos
  deriving DecidableEq, Repr

inductive LexError where
  | unterminatedString (pos : Pos)
  | unterminatedComment (pos : Pos)
  | unexpectedChar (pos : Pos) (ch : Char)
  deriving DecidableEq, Repr

def Pos.start : Pos := ⟨1, 1⟩

/-- The counters after the `bump!` of one character. -/
def Pos.bump (pos : Pos) (ch : Char) : Pos :=
  if ch = '\n' then ⟨pos.line + 1, 1⟩ else ⟨pos.line, pos.col + 1⟩

/-- Every consumed character is bumped exactly once, so the counters only
depend on the text between the old and the new position. -/
def Pos.advance (pos : Pos) (chars rest : List Char) : Pos :=
  (chars.take (chars.length - rest.length)).foldl Pos.bump pos

/-- Characters that may appear in a bare (unquoted) word. -/
def isWordChar (ch : Char) : Bool :=
  ch.isAlphanum || ch ∈ ['-', '_', '.', ':', '/', '*', '@', '+', ',']

def isBlank (ch : Char) : Bool := ch ∈ [' ', '\t', '\r']

/-- What is left after a comment that runs to the end of the line; the newline
itself stays. -/
def skipLine (chars : List Char) : List Char := chars.dropWhile (· ≠ '\n')

/-- What is left after the closing `*/` of a block comment. -/
def skipComment : List Char → Option (List Char)
  | [] => none
  | ch :: rest =>
    if ch = '*' ∧ rest.head? = some '/' then some rest.tail else skipComment rest

/-- What a backslash followed by `ch` stands for inside a quoted word. -/
def unescape (ch : Char) : List Char :=
  if ch = '"' then ['"']
  else if ch = '\\' then ['\\']
  else if ch = 'n' then ['\n']
  else ['\\', ch]

def readString : List Char → Option (List Char × List Char)
  | [] => none
  | ch :: rest =>
    if ch = '"' then some ([], rest)
    else if ch = '\\' then
      match rest with
      | [] => none
      | escaped :: rest =>
        (readString rest).map fun (value, left) => (unescape escaped ++ value, left)
    else (readString rest).map fun (value, left) => (ch :: value, left)

@[simp]
theorem readString_quote (rest : List Char) : readString ('"' :: rest) = some ([], rest) := by
  cases rest <;> simp [readString]

@[simp]
theorem readString_backslash (escaped : Char) (rest : List Char) : readString ('\\' :: escaped :: rest) =
      (readString rest).map fun (value, left) => (unescape escaped ++ value, left) := by
  simp [readString]

variable {ch : Char}

theorem readString_other (rest : List Char) (notQuote : ch ≠ '"')
    (notBackslash : ch ≠ '\\') :
    readString (ch :: rest) = (readString rest).map fun (value, left) => (ch :: value, left) := by
  cases rest <;> simp [readString, notQuote, notBackslash]

/-- The outcome of one turn of the main loop. -/
inductive Scan where
  | done
  | skip (rest : List Char)
  | emit (token : Token) (rest : List Char)
  | unterminatedString
  | unterminatedComment
  | unexpectedChar (ch : Char)
  deriving DecidableEq, Repr

def scanWord (chars : List Char) : Scan :=
  .emit (.word (String.ofList (chars.takeWhile isWordChar))) (chars.dropWhile isWordChar)

/-- A slash opens one of the two comment forms or starts a word. -/
def scanSlash : List Char → Scan
  | '/' :: rest => .skip (skipLine ('/' :: rest))
  | '*' :: rest =>
    match skipComment rest with
    | some left => .skip left
    | none => .unterminatedComment
  | rest => scanWord ('/' :: rest)

def scanString (rest : List Char) : Scan :=
  match readString rest with
  | some (value, left) => .emit (.word (String.ofList value)) left
  | none => .unterminatedString

def scan : List Char → Scan
  | [] => .done
  | ch :: rest =>
    if isBlank ch then .skip rest
    else if ch = '\n' then .emit .newline rest
    else if ch = '{' then .emit .lBrace rest
    else if ch = '}' then .emit .rBrace rest
    else if ch = ';' then .emit .semi rest
    else if ch = '#' then .skip (skipLine (ch :: rest))
    else if ch = '/' then scanSlash rest
    else if ch = '"' then scanString rest
    else if isWordChar ch then scanWord (ch :: rest)
    else .unexpectedChar ch

theorem skipLine_suffix (chars : List Char) : skipLine chars <:+ chars :=
  List.dropWhile_suffix _

variable {chars rest : List Char}

theorem skipComment_suffix (closed : skipComment chars = some rest) : rest <:+ chars := by
  induction chars with
  | nil => simp [skipComment] at closed
  | cons ch tail ih =>
    rw [skipComment] at closed
    split_ifs at closed with atEnd
    · cases closed
      exact (List.tail_suffix tail).trans (List.suffix_cons ch tail)
    · exact (ih closed).trans (List.suffix_cons ch tail)

/-- A string ends at its closing quote, and no value is longer than what stands for it. -/
theorem readString_closing {value : List Char} (read : readString chars = some (value, rest)) :
    ∃ front, chars = front ++ '"' :: rest ∧ value.length ≤ front.length := by
  fun_induction readString chars generalizing value with
  | case1 | case3 => simp at read
  | case2 head =>
    cases read
    exact ⟨[], rfl, le_rfl⟩
  | case4 escaped tail _ ih =>
    simp only [Option.map_eq_some_iff, Prod.exists] at read
    rcases read with ⟨inner, left, hf, rfl, rfl⟩
    obtain ⟨front, rfl, fits⟩ := ih hf
    have short : (unescape escaped).length ≤ 2 := by
      unfold unescape
      split_ifs <;> simp
    refine ⟨_ :: escaped :: front, rfl, ?_⟩
    simp only [List.length_append, List.length_cons]
    omega
  | case5 head tail notQuote notEscape ih =>
    simp only [Option.map_eq_some_iff, Prod.exists, Prod.mk.injEq] at read
    rcases read with ⟨inner, left, hf, rfl, rfl⟩
    obtain ⟨front, rfl, fits⟩ := ih hf
    exact ⟨head :: front, rfl, Nat.succ_le_succ fits⟩

/-- The text a turn of the loop leaves, if it goes on at all. -/
def Scan.rest? : Scan → Option (List Char)
  | .skip rest => some rest
  | .emit _ rest => some rest
  | _ => none

variable {tail : List Char}

theorem scanWord_suffix (wordStart : isWordChar ch = true)
    (left : (scanWord (ch :: tail)).rest? = some rest) : rest <:+ tail := by
  simp only [scanWord, Scan.rest?, Option.some.injEq] at left
  rw [← left, List.dropWhile_cons_of_pos wordStart]
  exact List.dropWhile_suffix _

theorem scanSlash_suffix (left : (scanSlash chars).rest? = some rest) : rest <:+ chars := by
  unfold scanSlash at left
  split at left
  next tail =>
    cases left
    exact skipLine_suffix _
  next tail =>
    split at left
    next hf closed =>
      cases left
      exact (skipComment_suffix closed).trans (List.suffix_cons _ _)
    next => simp [Scan.rest?] at left
  next => exact scanWord_suffix (by decide) left

theorem scanString_suffix (left : (scanString chars).rest? = some rest) : rest <:+ chars := by
  unfold scanString at left
  split at left
  next value tail read =>
    cases left
    obtain ⟨front, rfl, -⟩ := readString_closing read
    exact ⟨front ++ ['"'], by simp⟩
  next => simp [Scan.rest?] at left

/-- Everything one turn of the loop can do on a nonempty text. -/
inductive Turn (ch : Char) (tail : List Char) : Scan → Prop where
  | blank : isBlank ch = true → Turn ch tail (.skip tail)
  | newline : ch = '\n' → Turn ch tail (.emit .newline tail)
  | lBrace : ch = '{' → Turn ch tail (.emit .lBrace tail)
  | rBrace : ch = '}' → Turn ch tail (.emit .rBrace tail)
  | semi : ch = ';' → Turn ch tail (.emit .semi tail)
  | hash : ch = '#' → Turn ch tail (.skip (skipLine tail))
  | slash : ch = '/' → Turn ch tail (scanSlash tail)
  | quote : ch = '"' → Turn ch tail (scanString tail)
  | word : isWordChar ch = true → ch ≠ '/' → Turn ch tail (scanWord (ch :: tail))
  | unexpected : Turn ch tail (.unexpectedChar ch)

theorem turn_scan (ch : Char) (tail : List Char) : Turn ch tail (scan (ch :: tail)) := by
  rw [scan]
  by_cases blank : isBlank ch = true
  · rw [if_pos blank]
    exact .blank blank
  rw [if_neg blank]
  by_cases newline : ch = '\n'
  · rw [if_pos newline]
    exact .newline newline
  rw [if_neg newline]
  by_cases lBrace : ch = '{'
  · rw [if_pos lBrace]
    exact .lBrace lBrace
  rw [if_neg lBrace]
  by_cases rBrace : ch = '}'
  · rw [if_pos rBrace]
    exact .rBrace rBrace
  rw [if_neg rBrace]
  by_cases semi : ch = ';'
  · rw [if_pos semi]
    exact .semi semi
  rw [if_neg semi]
  by_cases hash : ch = '#'
  · rw [if_pos hash, skipLine, List.dropWhile_cons_of_pos (by simpa using newline)]
    exact .hash hash
  rw [if_neg hash]
  by_cases slash : ch = '/'
  · rw [if_pos slash]
    exact .slash slash
  rw [if_neg slash]
  by_cases quote : ch = '"'
  · rw [if_pos quote]
    exact .quote quote
  rw [if_neg quote]
  by_cases wordStart : isWordChar ch = true
  · rw [if_pos wordStart]
    exact .word wordStart slash
  rw [if_neg wordStart]
  exact .unexpected

theorem scan_suffix (left : (scan (ch :: tail)).rest? = some rest) : rest <:+ tail := by
  have turn := turn_scan ch tail
  generalize scan (ch :: tail) = scanned at *
  cases turn with
  | hash _ =>
    cases left
    exact skipLine_suffix _
  | slash _ => exact scanSlash_suffix left
  | quote _ => exact scanString_suffix left
  | word wordStart _ => exact scanWord_suffix wordStart left
  | unexpected => simp [Scan.rest?] at left
  | _ =>
    cases left
    exact List.suffix_rfl

theorem scan_length (left : (scan chars).rest? = some rest) : rest.length < chars.length := by
  cases chars with
  | nil => simp [scan, Scan.rest?] at left
  | cons ch tail => exact Nat.lt_succ_of_le (scan_suffix left).length_le

def lexFrom (pos : Pos) (chars : List Char) : Except LexError (List Spanned) :=
  match _scanned : scan chars with
  | .done => .ok []
  | .skip rest => lexFrom (pos.advance chars rest) rest
  | .emit token rest => do
      let tokens ← lexFrom (pos.advance chars rest) rest
      return ⟨token, pos⟩ :: tokens
  | .unterminatedString => .error (.unterminatedString pos)
  | .unterminatedComment => .error (.unterminatedComment pos)
  | .unexpectedChar ch => .error (.unexpectedChar pos ch)
termination_by chars.length
decreasing_by
  all_goals exact scan_length (by simp [_scanned, Scan.rest?])

def lex (input : String) : Except LexError (List Spanned) := lexFrom .start input.toList

/-- The tokens of a text, without their positions. -/
inductive Lexes : List Char → List Token → Prop where
  | done : Lexes [] []
  | skip {chars rest tokens} : scan chars = .skip rest → Lexes rest tokens → Lexes chars tokens
  | emit {chars rest token tokens} :
      scan chars = .emit token rest → Lexes rest tokens → Lexes chars (token :: tokens)

theorem scanSlash_ne_done (chars : List Char) : scanSlash chars ≠ .done := by
  unfold scanSlash
  split
  · simp
  · split <;> simp
  · simp [scanWord]

theorem scan_eq_done_iff (chars : List Char) : scan chars = .done ↔ chars = [] := by
  constructor
  · intro scanned
    cases chars with
    | nil => rfl
    | cons ch tail =>
      have turn := turn_scan ch tail
      rw [scanned] at turn
      generalize done : Scan.done = outcome at turn
      cases turn with
      | slash _ => exact absurd done.symm (scanSlash_ne_done tail)
      | quote _ =>
        unfold scanString at done
        split at done <;> simp at done
      | _ => cases done
  · rintro rfl
    rfl

/-- The loop succeeds on exactly the texts that have a token sequence, and
returns that sequence whatever position it started from. -/
theorem lexFrom_eq_ok_iff (pos : Pos) (chars : List Char) (tokens : List Token) :
    (∃ spanned, lexFrom pos chars = .ok spanned ∧ spanned.map Spanned.token = tokens) ↔
      Lexes chars tokens := by
  constructor
  · rintro ⟨spanned, lexed, rfl⟩
    fun_induction lexFrom pos chars generalizing spanned with
    | case1 pos chars scanned =>
      cases lexed
      rw [(scan_eq_done_iff chars).mp scanned]
      exact .done
    | case2 pos chars rest scanned ih =>
      exact .skip scanned (ih spanned lexed)
    | case3 pos chars token rest scanned ih =>
      simp only [bind, Except.bind] at lexed
      split at lexed
      next => simp at lexed
      next tail hf =>
        cases lexed
        exact .emit scanned (ih tail hf)
    | case4 | case5 | case6 => simp at lexed
  · intro lexes
    induction lexes generalizing pos with
    | done =>
      refine ⟨[], ?_, rfl⟩
      rw [lexFrom]
      rfl
    | @skip chars rest tokens scanned _ ih =>
      rcases ih (pos.advance chars rest) with ⟨spanned, lexed, erased⟩
      refine ⟨spanned, ?_, erased⟩
      rw [lexFrom]
      split <;> simp_all
    | @emit chars rest token tokens scanned _ ih =>
      rcases ih (pos.advance chars rest) with ⟨spanned, lexed, erased⟩
      refine ⟨⟨token, pos⟩ :: spanned, ?_, by simp [erased]⟩
      rw [lexFrom]
      split <;> simp_all

theorem Lexes.of_skip {tokens : List Token} (lexes : Lexes chars tokens)
    (scanned : scan chars = .skip rest) : Lexes rest tokens := by
  cases lexes with
  | done => simp [scan] at scanned
  | skip other tail =>
    rw [scanned, Scan.skip.injEq] at other
    exact other ▸ tail
  | emit other tail => simp [scanned] at other

theorem Lexes.of_emit {token : Token} {tokens : List Token} (lexes : Lexes chars tokens)
    (scanned : scan chars = .emit token rest) : ∃ tail, tokens = token :: tail ∧ Lexes rest tail := by
  cases lexes with
  | done => simp [scan] at scanned
  | skip other tail => simp [scanned] at other
  | emit other tail =>
    rw [scanned] at other
    obtain ⟨rfl, rfl⟩ := other
    exact ⟨_, rfl, tail⟩

end Hemlock.Config
