import Hemlock.Config.Rendering

/-!
# The round trip through the canonical text

`parse (toText tree) = ok tree` holds for exactly the trees that write back.
The interesting half is that a name or value that does not write back spoils the
round trip whatever else the tree contains.  The reason is one of length: a word
that has to be quoted takes two characters more to read than the renderer spent
on it, so from there on the tokenizer stays ahead of the renderer and runs out
of text before it has seen every word.
-/

namespace Hemlock.Config

open Item

def wordsOf (tokens : List Token) : List String :=
  tokens.filterMap fun
    | .word text => some text
    | _ => none

@[simp]
theorem wordsOf_append (first second : List Token) :
    wordsOf (first ++ second) = wordsOf first ++ wordsOf second := by
  simp [wordsOf]

@[simp]
theorem wordsOf_cons_word (text : String) (tokens : List Token) :
    wordsOf (.word text :: tokens) = text :: wordsOf tokens := rfl

@[simp]
theorem wordsOf_map_word (values : List String) : wordsOf (values.map .word) = values := by
  induction values with
  | nil => rfl
  | cons value values ih => simp [ih]

theorem wordsOf_cons_other {token : Token} (tokens : List Token)
    (notWord : ∀ text, token ≠ .word text) : wordsOf (token :: tokens) = wordsOf tokens := by
  cases token with
  | word text => exact absurd rfl (notWord text)
  | _ => rfl

/-- A word as the renderer writes it: as it stands, or in quotes. -/
inductive Piece where
  | plain (word : String)
  | quoted (word : String)

def Piece.word : Piece → String
  | .plain word => word
  | .quoted word => word

def Piece.shown : Piece → List Char
  | .plain word => word.toList
  | .quoted word => Config.quoted word.toList

def Piece.readsBack : Piece → Bool
  | .plain word => readsBare word.toList
  | .quoted _ => true

/-- The renderer quotes only words that are not bare. -/
def Piece.Quotable : Piece → Prop
  | .plain _ => True
  | .quoted word => isBare word.toList = false

def Piece.ofValue (value : String) : Piece :=
  if isBare value.toList then .plain value else .quoted value

theorem Piece.ofValue_spec (value : String) :
    (Piece.ofValue value).word = value ∧ (Piece.ofValue value).shown = atom value ∧
      (Piece.ofValue value).readsBack = valueReadsBack value ∧ (Piece.ofValue value).Quotable := by
  rw [Piece.ofValue, atom_eq]
  by_cases bare : isBare value.toList = true
  all_goals simp [bare, Piece.word, Piece.shown, Piece.readsBack, Piece.Quotable, valueReadsBack]

mutual

def Item.pieces : Item → List Piece
  | .leaf name values => .plain name :: values.map Piece.ofValue
  | .block name keys children =>
    .plain name :: keys.map Piece.ofValue ++ Item.allPieces children

def Item.allPieces : List Item → List Piece
  | [] => []
  | item :: rest => item.pieces ++ Item.allPieces rest

end

theorem map_word_ofValue (values : List String) : (values.map Piece.ofValue).map Piece.word = values := by
  simp [Function.comp_def, Piece.ofValue_spec]

theorem all_readsBack_ofValue (values : List String) :
    (values.map Piece.ofValue).all Piece.readsBack = values.all valueReadsBack := by
  simp [Function.comp_def, Piece.ofValue_spec]

theorem Item.allPieces_readsBack (items : List Item) :
    (allPieces items).all Piece.readsBack = allWriteBack items := by
  induction items using list_induction with
  | nil => rfl
  | leaf name values rest ih =>
    simp [allPieces, pieces, allWriteBack, writesBack, Bool.and_assoc,
      ih, Piece.readsBack, -List.all_map, all_readsBack_ofValue]
  | block name keys children rest childrenHypothesis ih =>
    simp [allPieces, pieces, allWriteBack, writesBack, Bool.and_assoc,
      childrenHypothesis, ih, Piece.readsBack, -List.all_map,
      all_readsBack_ofValue]

variable {tokens : List Token}

theorem Body.words {items : List Item} (derived : Body tokens items) :
    wordsOf tokens = (allPieces items).map Piece.word := by
  induction derived with
  | done => rfl
  | blankLine _ ih => simpa [wordsOf] using ih
  | lineLeaf _ ih | semiLeaf _ ih =>
    simp [allPieces, pieces, Piece.word, wordsOf_cons_other, ih,
      -List.map_map, map_word_ofValue]
  | lastLeaf =>
    simp [allPieces, pieces, Piece.word, -List.map_map, map_word_ofValue]
  | block _ _ childrenHypothesis ih =>
    simp [allPieces, pieces, Piece.word, wordsOf_cons_other, childrenHypothesis,
      ih, -List.map_map, map_word_ofValue]

/-- The first word of a text and what is left behind it. -/
inductive FirstWord : List Char → String → List Char → Prop where
  | here {chars word rest} : scan chars = .emit (.word word) rest → FirstWord chars word rest
  | skip {chars middle word rest} :
      scan chars = .skip middle → FirstWord middle word rest → FirstWord chars word rest
  | pass {chars token middle word rest} :
      scan chars = .emit token middle → (∀ text, token ≠ .word text) →
      FirstWord middle word rest → FirstWord chars word rest

variable {chars : List Char} {word : String}

theorem Lexes.firstWord {words : List String} (lexes : Lexes chars tokens)
    (split : wordsOf tokens = word :: words) :
    ∃ rest tokens', FirstWord chars word rest ∧ Lexes rest tokens' ∧ wordsOf tokens' = words := by
  induction lexes with
  | done => simp [wordsOf] at split
  | skip scanned _ ih =>
    obtain ⟨rest, tokens', first, lexes', words'⟩ := ih split
    exact ⟨rest, tokens', .skip scanned first, lexes', words'⟩
  | @emit chars rest token tokens scanned lexes ih =>
    by_cases isWord : ∃ text, token = .word text
    · obtain ⟨text, rfl⟩ := isWord
      simp only [wordsOf_cons_word, List.cons.injEq] at split
      exact ⟨rest, tokens, split.1 ▸ .here scanned, lexes, split.2⟩
    · have notWord : ∀ text, token ≠ .word text := fun text equal => isWord ⟨text, equal⟩
      rw [wordsOf_cons_other tokens notWord] at split
      obtain ⟨left, tokens', first, lexes', words'⟩ := ih split
      exact ⟨left, tokens', .pass scanned notWord first, lexes', words'⟩

variable {ch : Char}

theorem opensComment_of_ne (tail : List Char) (notSlash : ch ≠ '/') :
    opensComment (ch :: tail) = false := by
  unfold opensComment
  split
  next equality =>
    cases equality
    exact absurd rfl notSlash
  next => rfl

theorem readsBare_takeWhile {tail : List Char} (wordStart : isWordChar ch = true)
    (noComment : ch = '/' → ∀ next rest, tail = next :: rest → next ≠ '/' ∧ next ≠ '*') :
    readsBare ((ch :: tail).takeWhile isWordChar) = true := by
  have plain : opensComment (ch :: tail.takeWhile isWordChar) = false := by
    by_cases slash : ch = '/'
    · cases tail with
      | nil => simp [opensComment]
      | cons next rest =>
        obtain ⟨notSlash, notStar⟩ := noComment slash next rest rfl
        by_cases wordNext : isWordChar next = true
        · simp [slash, opensComment, wordNext, notSlash, notStar]
        · simp [opensComment, wordNext]
    · exact opensComment_of_ne _ slash
  simp [readsBare, isBare, plain, wordStart]

variable {rest : List Char}

/-- A word token is a bare word in front of the rest, or the value of a quoted
string. -/
theorem scan_word_cases (scanned : scan chars = .emit (.word word) rest) :
    (readsBare word.toList = true ∧ chars = word.toList ++ rest) ∨
      ∃ tail, chars = '"' :: tail ∧ readString tail = some (word.toList, rest) := by
  have bare {ch : Char} {tail : List Char} (wordStart : isWordChar ch = true)
      (noComment : ch = '/' → ∀ next rest, tail = next :: rest → next ≠ '/' ∧ next ≠ '*')
      (emitted : scanWord (ch :: tail) = .emit (.word word) rest) :
      readsBare word.toList = true ∧ ch :: tail = word.toList ++ rest := by
    simp only [scanWord, Scan.emit.injEq, Token.word.injEq] at emitted
    rw [← emitted.1, ← emitted.2, String.toList_ofList]
    exact ⟨readsBare_takeWhile wordStart noComment, List.takeWhile_append_dropWhile.symm⟩
  cases chars with
  | nil => simp [scan] at scanned
  | cons ch tail =>
    have turn := turn_scan ch tail
    rw [scanned] at turn
    generalize emitted : Scan.emit (Token.word word) rest = outcome at turn
    cases turn with
    | slash slash =>
      left
      unfold scanSlash at emitted
      split at emitted
      next => cases emitted
      next => split at emitted <;> cases emitted
      next notSlash notStar =>
        subst slash
        apply bare (by decide) _ emitted.symm
        rintro - next rest rfl
        exact ⟨fun equal => notSlash rest (by rw [equal]), fun equal => notStar rest (by rw [equal])⟩
    | quote quote =>
      right
      unfold scanString at emitted
      split at emitted
      next value left read =>
        simp only [Scan.emit.injEq, Token.word.injEq] at emitted
        exact ⟨tail, by rw [quote], by rw [read, emitted.1, emitted.2, String.toList_ofList]⟩
      next => cases emitted
    | word wordStart notSlash =>
      left
      exact bare wordStart (fun equal => absurd equal notSlash) emitted.symm
    | _ => cases emitted

theorem readString_consumes {value : List Char} (read : readString chars = some (value, rest)) :
    value.length + 1 + rest.length ≤ chars.length := by
  obtain ⟨front, rfl, fits⟩ := readString_closing read
  simp only [List.length_append, List.length_cons]
  omega

theorem scan_rest_suffix (left : (scan chars).rest? = some rest) : rest <:+ chars := by
  cases chars with
  | nil => simp [scan, Scan.rest?] at left
  | cons ch tail => exact (scan_suffix left).trans (List.suffix_cons ch tail)

/-- Reading a word takes at least its length, and two characters more when the
word can only come from a quoted string. -/
theorem FirstWord.consumes (first : FirstWord chars word rest) :
    word.toList.length + rest.length ≤ chars.length ∧
      (readsBare word.toList = false → word.toList.length + 2 + rest.length ≤ chars.length) := by
  induction first with
  | here scanned =>
    rcases scan_word_cases scanned with ⟨bare, rfl⟩ | ⟨tail, rfl, read⟩
    · simp [bare]
    · have consumed := readString_consumes read
      simp only [List.length_cons]
      constructor
      · omega
      · intro _
        omega
  | skip scanned _ ih | pass scanned _ _ ih =>
    have shorter := (scan_rest_suffix (by rw [scanned]; rfl)).length_le
    constructor
    · exact ih.1.trans shorter
    · intro notBare
      exact (ih.2 notBare).trans shorter

/-- The characters the renderer puts between words. -/
def isGap (ch : Char) : Bool := ch ∈ [' ', '\n', '{', '}']

/-- The text up to `rest` ends in a character that is part of a word. -/
def EndsInWord (chars rest : List Char) : Prop :=
  ∃ front last, chars = front ++ last :: rest ∧ isGap last = false

theorem EndsInWord.of_suffix {middle : List Char} (suffix : middle <:+ chars)
    (ends : EndsInWord middle rest) : EndsInWord chars rest := by
  obtain ⟨before, rfl⟩ := suffix
  obtain ⟨front, last, rfl, notGap⟩ := ends
  exact ⟨before ++ front, last, by simp, notGap⟩

theorem EndsInWord.suffix (ends : EndsInWord chars rest) : rest <:+ chars ∧ rest.length < chars.length := by
  obtain ⟨front, last, rfl, -⟩ := ends
  constructor
  · exact ⟨front ++ [last], by simp⟩
  · simp
    omega

theorem not_isGap_of_isWordChar (wordChar : isWordChar ch = true) : isGap ch = false := by
  by_contra gap
  simp only [isGap, List.mem_cons, List.not_mem_nil, or_false, decide_eq_true_eq,
    Bool.not_eq_false] at gap
  rcases gap with rfl | rfl | rfl | rfl <;> revert wordChar <;> decide

theorem FirstWord.endsInWord (first : FirstWord chars word rest) : EndsInWord chars rest := by
  induction first with
  | @here chars word rest scanned =>
    rcases scan_word_cases scanned with ⟨bare, rfl⟩ | ⟨tail, rfl, read⟩
    · simp only [readsBare, isBare, Bool.and_eq_true, Bool.not_eq_true',
        List.isEmpty_eq_false_iff, List.all_eq_true] at bare
      obtain ⟨⟨nonempty, wordChars⟩, _⟩ := bare
      have last := List.dropLast_append_getLast nonempty
      refine ⟨word.toList.dropLast, _, ?_,
        not_isGap_of_isWordChar (wordChars _ (List.getLast_mem nonempty))⟩
      rw [← List.singleton_append, ← List.append_assoc, last]
    · obtain ⟨front, rfl, -⟩ := readString_closing read
      exact ⟨'"' :: front, '"', rfl, by decide⟩
  | skip scanned _ ih | pass scanned _ _ ih =>
    exact ih.of_suffix (scan_rest_suffix (by rw [scanned]; rfl))

/-- A quote inside an escaped word is an escaped quote, so what follows it is the
escaped form of a shorter word. -/
theorem quote_suffix_escape {word tail : List Char} (suffix : '"' :: tail <:+ escape word ++ ['"']) :
    tail = [] ∨ ∃ shorter, shorter.length < word.length ∧ tail = escape shorter ++ ['"'] := by
  induction word with
  | nil =>
    rw [escape_nil] at suffix
    left
    have lengths := suffix.length_le
    simpa using lengths
  | cons ch word ih =>
    rw [escape_cons] at suffix
    have inner (inside : '"' :: tail <:+ escape word ++ ['"']) :
        tail = [] ∨ ∃ shorter, shorter.length < (ch :: word).length ∧
          tail = escape shorter ++ ['"'] := by
      rcases ih inside with empty | ⟨shorter, short, equality⟩
      · exact .inl empty
      · exact .inr ⟨shorter, by simp; omega, equality⟩
    by_cases backslash : ch = '\\'
    · simp only [backslash, if_true, List.cons_append, List.suffix_cons_iff] at suffix
      rcases suffix with equality | equality | inside
      · simp at equality
      · simp at equality
      · exact inner inside
    · by_cases quote : ch = '"'
      · simp only [quote, Char.reduceEq, if_true, if_false, List.cons_append,
          List.suffix_cons_iff] at suffix
        rcases suffix with equality | equality | inside
        · simp at equality
        · simp only [List.cons.injEq, true_and] at equality
          exact .inr ⟨word, by simp, equality⟩
        · exact inner inside
      · simp only [backslash, quote, if_false, List.cons_append,
          List.suffix_cons_iff] at suffix
        rcases suffix with equality | inside
        · simp only [List.cons.injEq] at equality
          exact absurd equality.1.symm quote
        · exact inner inside

theorem suffix_append_cases {front back middle : List Char} (suffix : middle <:+ front ++ back) :
    (∃ inside, inside <:+ front ∧ middle = inside ++ back) ∨ middle <:+ back := by
  induction front with
  | nil => exact .inr suffix
  | cons ch front ih =>
    rw [List.cons_append, List.suffix_cons_iff] at suffix
    rcases suffix with rfl | suffix
    · exact .inl ⟨ch :: front, List.suffix_rfl, rfl⟩
    · rcases ih suffix with ⟨inside, within, rfl⟩ | behind
      · exact .inl ⟨inside, within.trans (List.suffix_cons ch front), rfl⟩
      · exact .inr behind

/-- From inside the quoted form of a word, that word is not read before the
quoted form is over. -/
theorem FirstWord.behind_quoted {inside behind : List Char} (first : FirstWord chars word rest)
    (notBare : readsBare word.toList = false) (within : inside <:+ escape word.toList ++ ['"'])
    (split : chars = inside ++ behind) : rest.length < behind.length := by
  -- once the tokenizer has left the quoted form, any word is behind it
  have outside {middle : List Char} (left : middle <:+ behind)
      (hf : FirstWord middle word rest) : rest.length < behind.length := by
    have consumed := hf.consumes.2 notBare
    have shorter := left.length_le
    omega
  induction first generalizing inside with
  | @here chars word rest scanned =>
    cases inside with
    | nil => exact outside (by simp [split]) (.here scanned)
    | cons ch inside =>
      rcases scan_word_cases scanned with ⟨bare, _⟩ | ⟨tail, rfl, read⟩
      · simp [bare] at notBare
      · simp only [List.cons_append] at split
        obtain ⟨rfl, rfl⟩ := split
        rcases quote_suffix_escape within with rfl | ⟨shorter, short, rfl⟩
        · have consumed := readString_consumes read
          simp only [List.nil_append] at consumed
          omega
        · rw [List.append_assoc, List.singleton_append, readString_escape] at read
          simp only [Option.some.injEq, Prod.mk.injEq] at read
          rw [read.1] at short
          omega
  | skip scanned hf ih | pass scanned _ hf ih =>
    have suffix := scan_rest_suffix (by rw [scanned]; rfl)
    rw [split] at suffix
    rcases suffix_append_cases suffix with ⟨deeper, left, equality⟩ | left
    · exact ih notBare (left.trans within) equality outside
    · exact outside left hf

theorem EndsInWord.of_length {front back : List Char} (ends : EndsInWord (front ++ back) rest)
    (shorter : rest.length < back.length) : EndsInWord back rest := by
  induction front with
  | nil => exact ends
  | cons ch front ih =>
    obtain ⟨before, last, equality, notGap⟩ := ends
    cases before with
    | nil =>
      have lengths := congrArg List.length equality
      simp only [List.length_append, List.length_cons, List.nil_append] at lengths
      omega
    | cons first before =>
      simp only [List.cons_append, List.cons.injEq] at equality
      exact ih ⟨before, last, equality.2, notGap⟩

/-- A text made of pieces, in order, with gaps around them. -/
inductive Laid : List Char → List Piece → Prop where
  | done : Laid [] []
  | gap {ch text pieces} : isGap ch = true → Laid text pieces → Laid (ch :: text) pieces
  | piece {piece text pieces} : piece.Quotable → StopsWord text → Laid text pieces →
      Laid (piece.shown ++ text) (piece :: pieces)

variable {text : List Char} {pieces : List Piece}

theorem Laid.blanks (count : Nat) (laid : Laid text pieces) :
    Laid (List.replicate count ' ' ++ text) pieces := by
  induction count with
  | zero => simpa using laid
  | succ count ih =>
    exact .gap (by decide) ih

theorem Laid.words {values : List String} (stops : StopsWord text) (laid : Laid text pieces) :
    Laid (renderWords values ++ text) (values.map Piece.ofValue ++ pieces) := by
  induction values with
  | nil => simpa [renderWords] using laid
  | cons value values ih =>
    obtain ⟨-, shown, -, quotable⟩ := Piece.ofValue_spec value
    have shape : renderWords (value :: values) ++ text =
        ' ' :: ((Piece.ofValue value).shown ++ (renderWords values ++ text)) := by
      simp [renderWords, shown]
    rw [shape]
    exact .gap (by decide) (.piece quotable (stopsWord_renderWords values stops) ih)

theorem Laid.header (depth : Nat) (name : String) (values : List String) (stops : StopsWord text)
    (laid : Laid text pieces) : Laid (indent depth ++ (name.toList ++ (renderWords values ++ text)))
      (.plain name :: (values.map Piece.ofValue ++ pieces)) := by
  apply Laid.blanks
  exact @Laid.piece (.plain name) _ _ trivial (stopsWord_renderWords values stops) (laid.words stops)

theorem laid_renderAll (items : List Item) (depth : Nat) (laid : Laid text pieces) :
    Laid (renderAll depth items ++ text) (Item.allPieces items ++ pieces) := by
  induction items using Item.list_induction generalizing depth text pieces with
  | nil => simpa [renderAll, Item.allPieces] using laid
  | leaf name values tail ih =>
    have line := Laid.gap (show isGap '\n' = true by decide) (ih depth laid)
    have whole := line.header depth name values (stopsWord_cons _ (by decide))
    simpa [renderAll, render, Item.allPieces, Item.pieces] using whole
  | block name keys children tail childrenHypothesis ih =>
    have after := (Laid.gap (show isGap '}' = true by decide) (.gap (show isGap '\n' = true
      by decide) (ih depth laid))).blanks (4 * depth)
    have inner := childrenHypothesis (depth + 1) after
    have opening := Laid.gap (show isGap ' ' = true by decide)
      (.gap (show isGap '{' = true by decide) (.gap (show isGap '\n' = true by decide) inner))
    have whole := opening.header depth name keys (stopsWord_cons _ (by decide))
    simpa [renderAll, render, indent, Item.allPieces, Item.pieces] using whole

theorem FirstWord.behind_piece {piece : Piece} (quotable : piece.Quotable)
    (ends : EndsInWord (piece.shown ++ text) chars) (first : FirstWord chars piece.word rest) :
    rest.length < text.length := by
  obtain ⟨suffix, proper⟩ := ends.suffix
  have consumed := first.consumes
  cases piece with
  | plain word =>
    simp only [Piece.shown, List.length_append, Piece.word] at proper consumed
    omega
  | quoted word =>
    have notBare : readsBare word.toList = false := by
      simp only [Piece.Quotable] at quotable
      simp [readsBare, quotable]
    rcases suffix_append_cases suffix with ⟨inside, within, rfl⟩ | left
    · apply first.behind_quoted notBare _ rfl
      simp only [Piece.shown, quoted, List.cons_append, List.suffix_cons_iff] at within
      rcases within with rfl | within
      · simp [Piece.shown, quoted] at proper
      · exact within
    · have strictly := consumed.2 notBare
      have shorter := left.length_le
      omega

/-- A tokenizer that is ahead of the renderer runs out of text before it has read
every word. -/
theorem Laid.behind (laid : Laid text pieces) (ends : EndsInWord text chars)
    (lexes : Lexes chars tokens) : wordsOf tokens ≠ pieces.map Piece.word := by
  intro words
  induction laid generalizing chars tokens with
  | done =>
    obtain ⟨front, last, equality, -⟩ := ends
    simp at equality
  | gap isGap laid ih =>
    obtain ⟨front, last, equality, notGap⟩ := ends
    cases front with
    | nil =>
      simp only [List.nil_append, List.cons.injEq] at equality
      simp [equality.1, notGap] at isGap
    | cons ch front =>
      simp only [List.cons_append, List.cons.injEq] at equality
      exact ih ⟨front, last, equality.2, notGap⟩ lexes words
  | piece quotable stops laid ih =>
    obtain ⟨rest, tokens', first, lexes', words'⟩ := lexes.firstWord words
    have shorter := first.behind_piece quotable ends
    have ends' := (first.endsInWord.of_suffix ends.suffix.1).of_length shorter
    exact ih ends' lexes' words'

theorem Lexes.of_gap (gap : isGap ch = true) (lexes : Lexes (ch :: text) tokens) :
    ∃ tokens', Lexes text tokens' ∧ wordsOf tokens' = wordsOf tokens := by
  have kept {token : Token} (scanned : scan (ch :: text) = .emit token text)
      (notWord : ∀ word, token ≠ .word word) :
      ∃ tokens', Lexes text tokens' ∧ wordsOf tokens' = wordsOf tokens := by
    obtain ⟨tokens', rfl, lexes'⟩ := lexes.of_emit scanned
    exact ⟨tokens', lexes', (wordsOf_cons_other tokens' notWord).symm⟩
  simp only [isGap, List.mem_cons, List.not_mem_nil, or_false, decide_eq_true_eq] at gap
  rcases gap with rfl | rfl | rfl | rfl
  · exact ⟨tokens, lexes.of_skip rfl, rfl⟩
  all_goals exact kept rfl (by simp)

/-- A laid out text whose tokens carry exactly its words consists of pieces that
read back. -/
theorem Laid.readsBack (laid : Laid text pieces) (lexes : Lexes text tokens)
    (words : wordsOf tokens = pieces.map Piece.word) : pieces.all Piece.readsBack = true := by
  induction laid generalizing tokens with
  | done => rfl
  | gap isGap laid ih =>
    obtain ⟨tokens', lexes', hs⟩ := lexes.of_gap isGap
    exact ih lexes' (hs.trans words)
  | @piece piece text pieces quotable stops laid ih =>
    rw [List.all_cons, Bool.and_eq_true]
    by_cases readsBack : piece.readsBack = true
    · have scanned : scan (piece.shown ++ text) = .emit (.word piece.word) text := by
        cases piece with
        | plain word => simpa [Piece.shown, Piece.word] using scan_bare readsBack stops
        | quoted word => simpa [Piece.shown, Piece.word] using scan_quoted word.toList text
      obtain ⟨tokens', rfl, lexes'⟩ := lexes.of_emit scanned
      simp only [wordsOf_cons_word, List.map_cons, List.cons.injEq, true_and] at words
      exact ⟨readsBack, ih lexes' words⟩
    · cases piece with
      | quoted word => simp [Piece.readsBack] at readsBack
      | plain word =>
        -- the tokenizer needs quotes for this word and so overtakes the renderer
        simp only [Bool.not_eq_true] at readsBack
        obtain ⟨rest, tokens', first, lexes', words'⟩ := lexes.firstWord words
        have consumed := first.consumes.2 readsBack
        simp only [Piece.shown, Piece.word, List.length_append] at consumed
        have ends := first.endsInWord.of_length (by omega)
        exact absurd words' (laid.behind ends lexes')

theorem writesBack_of_parse_toText {tree : ConfigTree} (hp : parse tree.toText = .ok tree) :
    tree.writesBack = true := by
  obtain ⟨tokens, lexes, derived⟩ := parse_eq_ok_iff.mp hp
  rw [ConfigTree.toText, String.toList_ofList] at lexes
  have laid := laid_renderAll tree.items 0 .done
  simp only [List.append_nil] at laid
  rw [ConfigTree.writesBack, ← Item.allPieces_readsBack]
  exact laid.readsBack lexes derived.words

/-- A parsed configuration survives the canonical text exactly when its names are
bare words and none of its bare words opens a comment. -/
theorem parse_toText_iff_writesBack (source : String) (tree : ConfigTree)
    (_parsed : parse source = .ok tree) :
    (∃ tree', parse tree.toText = .ok tree' ∧ tree' = tree) ↔ tree.writesBack = true := by
  constructor
  · rintro ⟨tree', parsed, rfl⟩
    exact writesBack_of_parse_toText parsed
  · intro writesBack
    exact ⟨tree, parse_toText_of_writesBack writesBack, rfl⟩

theorem parse_toText_iff_writesBack_hostname :
    (∃ tree', parse (ConfigTree.mk [.leaf "host" ["a b"]]).toText = .ok tree' ∧
        tree' = ⟨[.leaf "host" ["a b"]]⟩) ↔
      (ConfigTree.mk [.leaf "host" ["a b"]]).writesBack = true :=
  parse_toText_iff_writesBack "host \"a b\";" _ (by decide +kernel)

/-- The name of the only statement loses its quotes, and with them the blank in it
becomes a separator. -/
theorem quoted_name_changes :
    parse "\"a b\" 1\n" = .ok ⟨[.leaf "a b" ["1"]]⟩ ∧
      parse (ConfigTree.mk [.leaf "a b" ["1"]]).toText = .ok ⟨[.leaf "a" ["b", "1"]]⟩ := by
  decide +kernel

end Hemlock.Config
