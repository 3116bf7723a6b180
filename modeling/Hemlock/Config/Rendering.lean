import Hemlock.Config.Grammar

/-!
# Which rendered words read back

A word written without quotes comes back as the same token when it consists of
word characters and does not open a comment; a quoted word always comes back.
`ConfigTree.writesBack` collects what this asks of a whole tree, and a tree that
passes it survives rendering and parsing.
-/

namespace Hemlock.Config

open Item

/-- A slash followed by a slash or a star starts a comment, not a word. -/
def opensComment : List Char → Bool
  | '/' :: ch :: _ => ch = '/' || ch = '*'
  | _ => false

/-- The words the tokenizer can produce without quotes. -/
def readsBare (word : List Char) : Bool := isBare word && !opensComment word

/-- A value reads back unless it is written bare and opens a comment. -/
def valueReadsBack (value : String) : Bool :=
  !(isBare value.toList) || readsBare value.toList

mutual

def Item.writesBack : Item → Bool
  | .leaf name values => readsBare name.toList && values.all valueReadsBack
  | .block name keys children =>
    readsBare name.toList && keys.all valueReadsBack && Item.allWriteBack children

def Item.allWriteBack : List Item → Bool
  | [] => true
  | item :: rest => item.writesBack && Item.allWriteBack rest

end

/-- Names are bare words, and no value that is written bare opens a comment. -/
def ConfigTree.writesBack (tree : ConfigTree) : Bool := Item.allWriteBack tree.items

/-- The next character, if there is one, cannot continue a bare word. -/
def StopsWord (chars : List Char) : Prop :=
  ∀ ch rest, chars = ch :: rest → isWordChar ch = false

theorem takeWhile_of_stopsWord {word rest : List Char} (wordChars : word.all isWordChar = true)
    (stops : StopsWord rest) :
    (word ++ rest).takeWhile isWordChar = word ∧ (word ++ rest).dropWhile isWordChar = rest := by
  induction word with
  | nil =>
    cases rest with
    | nil => simp
    | cons ch rest => simp [stops ch rest rfl]
  | cons ch word ih =>
    simp only [List.all_cons, Bool.and_eq_true] at wordChars
    obtain ⟨taken, dropped⟩ := ih wordChars.2
    simp [wordChars.1, taken, dropped]

theorem scanWord_append {word rest : List Char} (wordChars : word.all isWordChar = true)
    (stops : StopsWord rest) : scanWord (word ++ rest) = .emit (.word (String.ofList word)) rest := by
  obtain ⟨taken, dropped⟩ := takeWhile_of_stopsWord wordChars stops
  rw [scanWord, taken, dropped]

theorem scan_bare {word rest : List Char} (bare : readsBare word = true)
    (stops : StopsWord rest) : scan (word ++ rest) = .emit (.word (String.ofList word)) rest := by
  simp only [readsBare, isBare, Bool.and_eq_true, Bool.not_eq_true'] at bare
  obtain ⟨⟨nonempty, wordChars⟩, noComment⟩ := bare
  cases word with
  | nil => simp at nonempty
  | cons ch tail =>
    have wordStart : isWordChar ch = true := by
      simp only [List.all_cons, Bool.and_eq_true] at wordChars
      exact wordChars.1
    have notSpecial (other : Char) (special : isWordChar other = false) : ch ≠ other := by
      rintro rfl
      simp [wordStart] at special
    have notBlank : isBlank ch = false := by
      simp [isBlank, notSpecial ' ' (by decide), notSpecial '\t' (by decide),
        notSpecial '\r' (by decide)]
    simp only [List.cons_append, scan, notBlank, Bool.false_eq_true, if_false,
      notSpecial '\n' (by decide), notSpecial '{' (by decide), notSpecial '}' (by decide),
      notSpecial ';' (by decide), notSpecial '#' (by decide), notSpecial '"' (by decide)]
    split_ifs with slash
    · subst slash
      have whole := scanWord_append wordChars stops
      cases tail with
      | nil =>
        cases rest with
        | nil => rfl
        | cons next rest =>
          have notWord := stops next rest rfl
          unfold scanSlash
          split <;> simp_all [isWordChar]
      | cons next tail =>
        simp only [opensComment] at noComment
        unfold scanSlash
        split <;> simp_all
    · exact scanWord_append wordChars stops

theorem escape_nil : escape [] = [] := rfl

theorem escape_cons (ch : Char) (word : List Char) : escape (ch :: word) =
      (if ch = '\\' then ['\\', '\\'] else if ch = '"' then ['\\', '"'] else [ch]) ++
        escape word := by
  by_cases backslash : ch = '\\'
  · simp [escape, backslash]
  · by_cases quote : ch = '"' <;> simp [escape, backslash]

theorem readString_escape (word rest : List Char) :
    readString (escape word ++ '"' :: rest) = some (word, rest) := by
  induction word with
  | nil => simp [escape_nil]
  | cons ch word ih =>
    rw [escape_cons]
    by_cases backslash : ch = '\\'
    · simp [backslash, unescape, ih]
    · by_cases quote : ch = '"'
      · simp [quote, unescape, ih]
      · simp [backslash, quote, readString_other, ih]

def quoted (word : List Char) : List Char := '"' :: escape word ++ ['"']

theorem scan_quoted (word rest : List Char) :
    scan (quoted word ++ rest) = .emit (.word (String.ofList word)) rest := by
  simp [quoted, scan, isBlank, scanString, readString_escape]

theorem atom_eq (word : String) :
    atom word = if isBare word.toList then word.toList else quoted word.toList := rfl

variable {rest : List Char}

theorem scan_atom {value : String} (readsBack : valueReadsBack value = true)
    (stops : StopsWord rest) : scan (atom value ++ rest) = .emit (.word value) rest := by
  rw [atom_eq]
  split_ifs with bare
  · have reads : readsBare value.toList = true := by simpa [valueReadsBack, bare] using readsBack
    simpa using scan_bare reads stops
  · simpa using scan_quoted value.toList rest

theorem Lexes.blanks {tokens : List Token} (count : Nat)
    (lexes : Lexes rest tokens) : Lexes (List.replicate count ' ' ++ rest) tokens := by
  induction count with
  | zero => simpa using lexes
  | succ count ih =>
    rw [List.replicate_succ]
    exact .skip (by simp [scan, isBlank]) ih

theorem stopsWord_cons {ch : Char} (rest : List Char) (notWord : isWordChar ch = false) :
    StopsWord (ch :: rest) := by
  rintro other tail ⟨rfl, rfl⟩
  exact notWord

theorem stopsWord_renderWords (values : List String) (stops : StopsWord rest) :
    StopsWord (renderWords values ++ rest) := by
  cases values with
  | nil => simpa [renderWords] using stops
  | cons value values => exact stopsWord_cons _ (by decide)

variable {values : List String}

theorem Lexes.words {tokens : List Token}
    (readBack : values.all valueReadsBack = true) (stops : StopsWord rest)
    (lexes : Lexes rest tokens) : Lexes (renderWords values ++ rest) (values.map .word ++ tokens) := by
  induction values with
  | nil => simpa [renderWords] using lexes
  | cons value values ih =>
    simp only [List.all_cons, Bool.and_eq_true] at readBack
    have tail := ih readBack.2
    have scanned := scan_atom readBack.1 (stopsWord_renderWords values stops)
    have shape : renderWords (value :: values) ++ rest =
        ' ' :: (atom value ++ (renderWords values ++ rest)) := by
      simp [renderWords]
    rw [shape]
    exact .skip (by simp [scan, isBlank]) (.emit scanned tail)

mutual

def Item.tokens : Item → List Token
  | .leaf name values => .word name :: values.map .word ++ [.newline]
  | .block name keys children =>
    .word name :: keys.map .word ++ .lBrace :: .newline :: Item.allTokens children ++
      [.rBrace, .newline]

def Item.allTokens : List Item → List Token
  | [] => []
  | item :: rest => item.tokens ++ Item.allTokens rest

end

theorem Item.allTokens_body (items : List Item) : Body (allTokens items) items := by
  induction items using list_induction with
  | nil => exact .done
  | leaf name values rest ih =>
    simpa [allTokens, tokens] using Body.lineLeaf ih
  | block name keys children rest childrenHypothesis ih =>
    simpa [allTokens, tokens] using Body.block (.blankLine childrenHypothesis) (.blankLine ih)

theorem Lexes.header (depth : Nat) {name : String}
    {tokens : List Token} (nameReads : readsBare name.toList = true)
    (readBack : values.all valueReadsBack = true) (stops : StopsWord rest) (lexes : Lexes rest tokens) :
    Lexes (indent depth ++ (name.toList ++ (renderWords values ++ rest)))
      (.word name :: (values.map .word ++ tokens)) := by
  apply Lexes.blanks
  apply Lexes.emit _ (Lexes.words readBack stops lexes)
  simpa using scan_bare nameReads (stopsWord_renderWords values stops)

theorem lexes_renderAll {items : List Item} (writesBack : Item.allWriteBack items = true)
    (depth : Nat) {tokens : List Token} (lexes : Lexes rest tokens) :
    Lexes (renderAll depth items ++ rest) (Item.allTokens items ++ tokens) := by
  induction items using Item.list_induction generalizing depth rest tokens with
  | nil => simpa [renderAll, Item.allTokens] using lexes
  | leaf name values tail ih =>
    simp only [Item.allWriteBack, Item.writesBack, Bool.and_eq_true] at writesBack
    have line : Lexes ('\n' :: (renderAll depth tail ++ rest))
        (.newline :: (Item.allTokens tail ++ tokens)) :=
      .emit rfl (ih writesBack.2 depth lexes)
    have whole := line.header depth writesBack.1.1 writesBack.1.2 (stopsWord_cons _ (by decide))
    simpa [renderAll, render, Item.allTokens, Item.tokens] using whole
  | block name keys children tail childrenHypothesis ih =>
    simp only [Item.allWriteBack, Item.writesBack, Bool.and_eq_true] at writesBack
    have after : Lexes (indent depth ++ '}' :: '\n' :: (renderAll depth tail ++ rest))
        (.rBrace :: .newline :: (Item.allTokens tail ++ tokens)) :=
      .blanks _ (.emit rfl (.emit rfl (ih writesBack.2 depth lexes)))
    have inner := childrenHypothesis writesBack.1.2 (depth + 1) after
    have opening := Lexes.skip (show scan (' ' :: '{' :: '\n' :: _) = .skip _ from rfl)
      (.emit rfl (.emit rfl inner))
    have whole := opening.header depth writesBack.1.1.1 writesBack.1.1.2 (stopsWord_cons _ (by decide))
    simpa [renderAll, render, Item.allTokens, Item.tokens] using whole

theorem parse_toText_of_writesBack {tree : ConfigTree} (writesBack : tree.writesBack = true) :
    parse tree.toText = .ok tree := by
  have lexes := lexes_renderAll writesBack 0 .done
  refine parse_eq_ok_iff.mpr ⟨_, ?_, allTokens_body tree.items⟩
  simpa [ConfigTree.toText] using lexes

end Hemlock.Config
