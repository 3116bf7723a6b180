import Hemlock.Config.Parser

/-!
# The configuration grammar

`Body` is the documented grammar, written over token lists with no reference to
the parser: a body is a sequence of statements and blank lines, where only the
last leaf may lack its terminator.  The parser accepts exactly the bodies and
returns the tree of the derivation.
-/

namespace Hemlock.Config

open Spanned Parsed

/-- What stands between two braces, or in the whole file, and the statements it
denotes. -/
inductive Body : List Token → List Item → Prop where
  | done : Body [] []
  | blankLine {tokens items} : Body tokens items → Body (.newline :: tokens) items
  | lineLeaf {name values tokens items} : Body tokens items →
      Body (.word name :: values.map .word ++ .newline :: tokens) (.leaf name values :: items)
  | semiLeaf {name values tokens items} : Body tokens items →
      Body (.word name :: values.map .word ++ .semi :: tokens) (.leaf name values :: items)
  | lastLeaf {name values} : Body (.word name :: values.map .word) [.leaf name values]
  | block {name keys inner children tokens items} : Body inner children → Body tokens items →
      Body (.word name :: keys.map .word ++ .lBrace :: inner ++ .rBrace :: tokens)
        (.block name keys children :: items)

def Parsed.out {Value : Type} {bound : Nat} (parsed : Parsed Value bound) : Value × List Spanned :=
  (parsed.value, parsed.rest)

def runStatements (topLevel : Bool) (tokens : List Spanned) :
    Except ParseError (List Item × List Spanned) :=
  (statements topLevel tokens).map Parsed.out

def runStatement (tokens : List Spanned) : Except ParseError (Item × List Spanned) :=
  (statement tokens).map Parsed.out

@[simp]
theorem runStatements_nil (topLevel : Bool) :
    runStatements topLevel [] = if topLevel then .ok ([], []) else .error .unexpectedEof := by
  cases topLevel <;> simp [runStatements, statements, Except.map, out]

@[simp]
theorem runStatements_newline (topLevel : Bool) (pos : Pos) (rest : List Spanned) :
    runStatements topLevel (⟨.newline, pos⟩ :: rest) = runStatements topLevel rest := by
  simp only [runStatements, statements]
  cases statements topLevel rest <;> rfl

@[simp]
theorem runStatements_rBrace (topLevel : Bool) (pos : Pos) (rest : List Spanned) :
    runStatements topLevel (⟨.rBrace, pos⟩ :: rest) =
      if topLevel then .error (unexpected ⟨.rBrace, pos⟩ "a statement") else .ok ([], rest) := by
  cases topLevel <;> simp [runStatements, statements, Except.map, out]

/-- What the parser returns when it reads `items` first and `outcome` after them. -/
def andThen (items : List Item) (outcome : Except ParseError (List Item × List Spanned)) :
    Except ParseError (List Item × List Spanned) :=
  outcome.map fun rest => (items ++ rest.1, rest.2)

@[simp]
theorem andThen_nil (ho : Except ParseError (List Item × List Spanned)) : andThen [] ho = ho := by
  cases ho <;> rfl

@[simp]
theorem andThen_andThen (first second : List Item) (ho : Except ParseError (List Item × List Spanned)) :
    andThen first (andThen second ho) = andThen (first ++ second) ho := by
  cases ho with
  | error error => rfl
  | ok rest => simp [andThen, Except.map]

@[simp]
theorem andThen_ok (items more : List Item) (rest : List Spanned) :
    andThen items (.ok (more, rest)) = .ok (items ++ more, rest) := rfl

variable {items : List Item} {rest : List Spanned}

theorem andThen_eq_ok {result : List Item} {ho : Except ParseError (List Item × List Spanned)}
    (ran : andThen items ho = .ok (result, rest)) :
    ∃ more, ho = .ok (more, rest) ∧ result = items ++ more := by
  cases ho with
  | error error => simp [andThen, Except.map] at ran
  | ok pair =>
    rcases pair with ⟨more, left⟩
    simp only [andThen_ok, Except.ok.injEq, Prod.mk.injEq] at ran
    exact ⟨more, by rw [ran.2], ran.1.symm⟩

theorem runStatements_other (topLevel : Bool) (spanned : Spanned) (rest : List Spanned)
    (notNewline : spanned.token ≠ .newline) (notBrace : spanned.token ≠ .rBrace) :
    runStatements topLevel (spanned :: rest) = (runStatement (spanned :: rest)).bind fun head =>
        andThen [head.1] (runStatements topLevel head.2) := by
  rcases spanned with ⟨token, pos⟩
  cases token with
  | newline => exact absurd rfl notNewline
  | rBrace => exact absurd rfl notBrace
  | _ =>
    simp only [runStatements, runStatement, statements]
    cases statement (_ :: rest) with
    | error error => rfl
    | ok head =>
      simp only [bind, Except.bind, Except.map, out]
      cases statements topLevel head.rest <;> rfl

/-- What a statement is, once its name and words are known. -/
def finishStatement (name : String) (words : List String) :
    List Spanned → Except ParseError (Item × List Spanned)
  | ⟨.semi, _⟩ :: after => .ok (.leaf name words, after)
  | ⟨.newline, _⟩ :: after => .ok (.leaf name words, after)
  | ⟨.lBrace, _⟩ :: after =>
    (runStatements false after).map fun body => (.block name words body.1, body.2)
  | after => .ok (.leaf name words, after)

theorem runStatement_word (name : String) (pos : Pos) (rest : List Spanned) :
    runStatement (⟨.word name, pos⟩ :: rest) =
      finishStatement name (takeWords rest).1 (takeWords rest).2 := by
  simp only [runStatement, statement]
  split
  next taken => simp [taken, finishStatement, Except.map, out]
  next taken => simp [taken, finishStatement, Except.map, out]
  next words bracePos after taken =>
    simp only [taken, finishStatement, runStatements]
    cases statements false after <;> rfl
  next words after notSemi notNewline notBrace taken =>
    simp only [taken, finishStatement, Except.map, out]

theorem runStatement_other (spanned : Spanned) (rest : List Spanned)
    (notWord : ∀ name, spanned.token ≠ .word name) :
    runStatement (spanned :: rest) = .error (unexpected spanned "a name") := by
  rcases spanned with ⟨token, pos⟩
  cases token with
  | word name => exact absurd rfl (notWord name)
  | _ => simp [runStatement, statement, Except.map]

theorem parseTokens_eq_ok_iff (tokens : List Spanned) (tree : ConfigTree) :
    parseTokens tokens = .ok tree ↔ ∃ rest, runStatements true tokens = .ok (tree.items, rest) := by
  simp only [parseTokens, runStatements]
  cases statements true tokens with
  | error error => simp [bind, Except.bind, Except.map]
  | ok hp =>
    rcases tree with ⟨items⟩
    simp [bind, Except.bind, Except.map, out, pure, Except.pure]

/-- Neither a word nor the opening of a block follows. -/
def Closes (tokens : List Token) : Prop :=
  tokens = [] ∨ ∃ rest, tokens = .rBrace :: rest

def StopsWords (tokens : List Token) : Prop := ∀ name rest, tokens ≠ .word name :: rest

variable {tokens : List Token}

theorem Closes.stopsWords (closes : Closes tokens) : StopsWords tokens := by
  intro name rest equality
  rcases closes with rfl | ⟨tail, rfl⟩ <;> simp at equality

variable {values : List String} {tail : List Token}

theorem takeWords_eq {tokens : List Spanned}
    (shape : tokens.map token = values.map .word ++ tail) (stops : StopsWords tail) :
    takeWords tokens = (values, tokens.drop values.length) := by
  induction values generalizing tokens with
  | nil =>
    unfold takeWords
    split
    next name pos rest =>
      exact absurd shape.symm (stops name _)
    next => simp
  | cons value values ih =>
    cases tokens with
    | nil => simp at shape
    | cons spanned rest =>
      rcases spanned with ⟨token, pos⟩
      simp only [List.map_cons, List.cons_append, List.cons.injEq] at shape
      obtain ⟨rfl, shape⟩ := shape
      simp [takeWords, ih shape]

theorem takeWords_shape (tokens : List Spanned) : tokens.map token =
        (takeWords tokens).1.map .word ++ (takeWords tokens).2.map token ∧
      StopsWords ((takeWords tokens).2.map token) := by
  fun_induction takeWords tokens with
  | case1 text pos rest ih =>
    exact ⟨by simp [ih.1], ih.2⟩
  | case2 rest notWord =>
    refine ⟨by simp, ?_⟩
    intro name tail equality
    cases rest with
    | nil => simp at equality
    | cons spanned rest =>
      rcases spanned with ⟨token, pos⟩
      simp only [List.map_cons, List.cons.injEq] at equality
      exact notWord name pos rest (by rw [equality.1])

variable {spanned : List Spanned} {name : String}
variable (shape : spanned.map token = .word name :: (values.map .word ++ tail))
include shape

theorem split_words : ∃ pos rest, spanned = ⟨.word name, pos⟩ :: rest ∧
      rest.map token = values.map .word ++ tail := by
  cases spanned with
  | nil => simp at shape
  | cons head rest =>
    rcases head with ⟨token, pos⟩
    simp only [List.map_cons, List.cons.injEq] at shape
    obtain ⟨rfl, shape⟩ := shape
    exact ⟨pos, rest, rfl, shape⟩

variable {topLevel : Bool}

theorem runStatements_word (stops : StopsWords tail) : runStatements topLevel spanned =
      (finishStatement name values (spanned.drop (values.length + 1))).bind fun head =>
        andThen [head.1] (runStatements topLevel head.2) := by
  obtain ⟨pos, rest, rfl, restShape⟩ := split_words shape
  rw [runStatements_other _ _ _ (by simp) (by simp), runStatement_word, takeWords_eq restShape stops]
  rfl

omit shape

theorem drop_shape {front : List Token} {token : Token}
    (shape : spanned.map Spanned.token = front ++ token :: tail) :
    ∃ pos, spanned.drop front.length = ⟨token, pos⟩ :: spanned.drop (front.length + 1) ∧
      (spanned.drop (front.length + 1)).map Spanned.token = tail := by
  induction front generalizing spanned with
  | nil =>
    cases spanned with
    | nil => simp at shape
    | cons head rest =>
      rcases head with ⟨hf, pos⟩
      simp only [List.map_cons, List.nil_append, List.cons.injEq] at shape
      obtain ⟨rfl, shape⟩ := shape
      exact ⟨pos, by simp, by simpa using shape⟩
  | cons first front ih =>
    cases spanned with
    | nil => simp at shape
    | cons head rest =>
      simp only [List.map_cons, List.cons_append, List.cons.injEq] at shape
      simpa using ih shape.2

theorem drop_words {token : Token}
    (shape : spanned.map Spanned.token = .word name :: (values.map .word ++ token :: tail)) :
    ∃ pos, spanned.drop (values.length + 1) = ⟨token, pos⟩ :: spanned.drop (values.length + 2) ∧
      (spanned.drop (values.length + 2)).map Spanned.token = tail := by
  rw [← List.cons_append] at shape
  simpa using drop_shape shape

theorem runStatements_leaf {terminator : Token}
    (shape : spanned.map Spanned.token = .word name :: (values.map .word ++ terminator :: tail))
    (ends : terminator = .newline ∨ terminator = .semi) :
    runStatements topLevel spanned = andThen [.leaf name values]
        (runStatements topLevel (spanned.drop (values.length + 2))) := by
  obtain ⟨pos, dropped, _⟩ := drop_words shape
  have stops : StopsWords (terminator :: tail) := by
    intro other rest equality
    rcases ends with rfl | rfl <;> simp at equality
  rw [runStatements_word shape stops, dropped]
  rcases ends with rfl | rfl <;> rfl

theorem Body.run (derived : Body tokens items) (topLevel : Bool)
    (shape : spanned.map Spanned.token = tokens ++ tail) (closes : Closes tail) :
    runStatements topLevel spanned =
      andThen items (runStatements topLevel (spanned.drop tokens.length)) := by
  induction derived generalizing topLevel spanned tail with
  | done => simp
  | @blankLine tokens items _ ih =>
    cases spanned with
    | nil => simp at shape
    | cons head rest =>
      rcases head with ⟨token, pos⟩
      simp only [List.map_cons, List.cons_append, List.cons.injEq] at shape
      obtain ⟨rfl, shape⟩ := shape
      rw [runStatements_newline]
      exact ih topLevel shape closes
  | lineLeaf _ ih | semiLeaf _ ih =>
    simp only [List.append_assoc] at shape
    obtain ⟨pos, _, after⟩ := drop_words shape
    rw [runStatements_leaf shape (by simp), ih topLevel after closes]
    simp [Nat.add_comm, Nat.add_left_comm]
  | @lastLeaf name values =>
    rw [runStatements_word shape closes.stopsWords]
    have rest : (spanned.drop (values.length + 1)).map Spanned.token = tail := by
      rw [List.map_drop, shape]
      simp
    have unterminated : finishStatement name values (spanned.drop (values.length + 1)) =
        .ok (.leaf name values, spanned.drop (values.length + 1)) := by
      rcases closes with rfl | ⟨braceTail, rfl⟩
      · rw [List.map_eq_nil_iff.mp rest]
        rfl
      · obtain ⟨pos, dropped, _⟩ := drop_words shape
        rw [dropped]
        rfl
    rw [unterminated]
    simp [Except.bind]
  | @block name keys inner children tokens items _ _ innerHypothesis ih =>
    simp only [List.cons_append, List.append_assoc] at shape
    obtain ⟨pos, dropped, after⟩ := drop_words shape
    have innerRun := innerHypothesis false after (.inr ⟨_, rfl⟩)
    obtain ⟨bracePos, brace, behind⟩ := drop_shape after
    rw [runStatements_word shape (by intro other rest equality; simp at equality), dropped]
    rw [brace, runStatements_rBrace] at innerRun
    simp only [Bool.false_eq_true, if_false, andThen_ok] at innerRun
    simp only [finishStatement, innerRun, Except.map, Except.bind]
    rw [ih topLevel behind closes]
    have position : keys.length + 2 + (inner.length + 1) + tokens.length =
        keys.length + (inner.length + (tokens.length + 1) + 1) + 1 := by omega
    simp [position]

/-- What a successful run leaves behind the body it read. -/
def Leaves (topLevel : Bool) (tail : List Token) (rest : List Spanned) : Prop :=
  if topLevel then tail = [] ∧ rest = [] else tail = .rBrace :: rest.map Spanned.token

theorem leaves_of_closed (closes : Closes (spanned.map token))
    (ran : runStatements topLevel spanned = .ok (items, rest)) :
    items = [] ∧ Leaves topLevel (spanned.map token) rest := by
  rcases closes with empty | ⟨behind, brace⟩
  · rw [List.map_eq_nil_iff.mp empty, runStatements_nil] at ran
    cases topLevel with
    | false => simp at ran
    | true =>
      simp only [if_true, Except.ok.injEq, Prod.mk.injEq] at ran
      exact ⟨ran.1.symm, by simp [Leaves, empty, ran.2]⟩
  · cases spanned with
    | nil => simp at brace
    | cons head tail =>
      rcases head with ⟨token, pos⟩
      obtain ⟨rfl, _⟩ := brace
      cases topLevel with
      | false =>
        simp only [runStatements_rBrace, Bool.false_eq_true, if_false, Except.ok.injEq,
          Prod.mk.injEq] at ran
        exact ⟨ran.1.symm, by simp [Leaves, ran.2]⟩
      | true => simp at ran

/-- The tokens are a body denoting `items`, and `rest` is what comes behind it. -/
def ReadsBody (topLevel : Bool) (read : List Token) (items : List Item) (rest : List Spanned) : Prop :=
  ∃ tokens tail, Body tokens items ∧ read = tokens ++ tail ∧ Leaves topLevel tail rest

theorem readsBody_statement {after : List Spanned}
    (shorterRuns : ∀ (inner : Bool) (spanned left : List Spanned) (hf : List Item),
      spanned.length < after.length → runStatements inner spanned = .ok (hf, left) →
        ReadsBody inner (spanned.map token) hf left) (stops : StopsWords (after.map token))
    (ran : (finishStatement name values after).bind (fun head =>
      andThen [head.1] (runStatements topLevel head.2)) = .ok (items, rest)) :
    ReadsBody topLevel (.word name :: (values.map .word ++ after.map token)) items rest := by
  -- a leaf that nothing terminates is the last statement of its body
  have unterminated (closes : Closes (after.map token))
      (run : andThen [.leaf name values] (runStatements topLevel after) = .ok (items, rest)) :
      ReadsBody topLevel (.word name :: (values.map .word ++ after.map token)) items rest := by
    obtain ⟨more, ended, rfl⟩ := andThen_eq_ok run
    obtain ⟨rfl, leaves⟩ := leaves_of_closed closes ended
    exact ⟨_, _, .lastLeaf, rfl, leaves⟩
  cases after with
  | nil => exact unterminated (.inl rfl) ran
  | cons head behind =>
    rcases head with ⟨token, pos⟩
    cases token with
    | word other => exact absurd rfl (stops other _)
    | rBrace => exact unterminated (.inr ⟨_, rfl⟩) ran
    | newline =>
      obtain ⟨more, run, rfl⟩ := andThen_eq_ok ran
      obtain ⟨tokens, tail, derived, shape, leaves⟩ :=
        shorterRuns topLevel behind rest more (by simp) run
      exact ⟨_, tail, .lineLeaf derived, by simp [shape], leaves⟩
    | semi =>
      obtain ⟨more, run, rfl⟩ := andThen_eq_ok ran
      obtain ⟨tokens, tail, derived, shape, leaves⟩ :=
        shorterRuns topLevel behind rest more (by simp) run
      exact ⟨_, tail, .semiLeaf derived, by simp [shape], leaves⟩
    | lBrace =>
      simp only [finishStatement] at ran
      cases children : runStatements false behind with
      | error error => simp [children, Except.map, Except.bind] at ran
      | ok body =>
        rcases body with ⟨inner, left⟩
        simp only [children] at ran
        obtain ⟨more, run, rfl⟩ := andThen_eq_ok ran
        obtain ⟨innerTokens, innerTail, innerDerived, innerShape, innerLeaves⟩ :=
          shorterRuns false behind left inner (by simp) children
        subst innerTail
        have leftShorter : left.length < behind.length := by
          have lengths := congrArg List.length innerShape
          simp only [List.length_map, List.length_append, List.length_cons] at lengths
          omega
        obtain ⟨tokens, tail, derived, shape, leaves⟩ :=
          shorterRuns topLevel left rest more (by simp; omega) run
        exact ⟨_, tail, .block innerDerived derived, by simp [innerShape, shape], leaves⟩

/-- A successful run read a derivable body: induction on the number of tokens,
because a block's children and the statements behind it are both shorter. -/
theorem readsBody_of_runStatements (bound : Nat) (topLevel : Bool) (fits : spanned.length < bound)
    (ran : runStatements topLevel spanned = .ok (items, rest)) :
    ReadsBody topLevel (spanned.map token) items rest := by
  induction bound generalizing topLevel spanned rest items with
  | zero => omega
  | succ bound ih =>
    cases spanned with
    | nil =>
      obtain ⟨rfl, leaves⟩ := leaves_of_closed (.inl rfl) ran
      exact ⟨[], [], .done, rfl, leaves⟩
    | cons head tail =>
      rcases head with ⟨token, pos⟩
      simp only [List.length_cons] at fits
      cases token with
      | newline =>
        rw [runStatements_newline] at ran
        obtain ⟨tokens, after, derived, shape, leaves⟩ :=
          ih topLevel (by omega) ran
        exact ⟨.newline :: tokens, after, .blankLine derived, by simp [shape], leaves⟩
      | rBrace =>
        obtain ⟨rfl, leaves⟩ := leaves_of_closed (.inr ⟨_, rfl⟩) ran
        exact ⟨[], _, .done, rfl, leaves⟩
      | semi | lBrace =>
        rw [runStatements_other _ _ _ (by simp) (by simp), runStatement_other _ _ (by simp)] at ran
        simp [Except.bind] at ran
      | word name =>
        rw [runStatements_other _ _ _ (by simp) (by simp), runStatement_word] at ran
        obtain ⟨split, stops⟩ := takeWords_shape tail
        have shorter := takeWords_length tail
        simp only [List.map_cons]
        rw [split]
        apply readsBody_statement _ stops ran
        intro inner spanned left hf smaller run
        exact ih inner (by omega) run

theorem parseTokens_eq_ok_iff_body (tokens : List Spanned) (tree : ConfigTree) :
    parseTokens tokens = .ok tree ↔ Body (tokens.map token) tree.items := by
  rw [parseTokens_eq_ok_iff]
  constructor
  · rintro ⟨rest, ran⟩
    obtain ⟨body, tail, derived, shape, leaves⟩ :=
      readsBody_of_runStatements _ true (Nat.lt_succ_self _) ran
    rw [shape, leaves.1, List.append_nil]
    exact derived
  · intro derived
    have whole : tokens.map token = tokens.map token ++ [] := by simp
    refine ⟨[], ?_⟩
    rw [derived.run true whole (.inl rfl)]
    simp

theorem parse_eq_ok_iff {source : String} {tree : ConfigTree} :
    parse source = .ok tree ↔ ∃ tokens, Lexes source.toList tokens ∧ Body tokens tree.items := by
  constructor
  · intro hp
    rw [parse] at hp
    split at hp
    next => simp at hp
    next spanned lexed =>
      exact ⟨_, (lexFrom_eq_ok_iff .start _ _).mp ⟨spanned, lexed, rfl⟩,
        (parseTokens_eq_ok_iff_body spanned tree).mp hp⟩
  · rintro ⟨tokens, lexes, derived⟩
    obtain ⟨spanned, lexed, rfl⟩ := (lexFrom_eq_ok_iff .start _ _).mpr lexes
    have hp := (parseTokens_eq_ok_iff_body spanned tree).mpr derived
    simp [parse, lex, lexed, hp]

/-- Two token lists that differ only in how their leaves end.  The flag says
whether the token before was a word, so that a terminator can stand here. -/
inductive Retermed : Bool → List Token → List Token → Prop where
  | nil {flag} : Retermed flag [] []
  | word {flag name first second} : Retermed true first second →
      Retermed flag (.word name :: first) (.word name :: second)
  | other {flag token first second} : (∀ name, token ≠ .word name) →
      Retermed false first second → Retermed flag (token :: first) (token :: second)
  | lineSemi {first second} : Retermed false first second →
      Retermed true (.newline :: first) (.semi :: second)
  | semiLine {first second} : Retermed false first second →
      Retermed true (.semi :: first) (.newline :: second)
  | lineBrace {first second} : Retermed false first second →
      Retermed true (.newline :: .rBrace :: first) (.rBrace :: second)
  | braceLine {first second} : Retermed false first second →
      Retermed true (.rBrace :: first) (.newline :: .rBrace :: second)

theorem Retermed.refl (flag : Bool) (tokens : List Token) : Retermed flag tokens tokens := by
  induction tokens generalizing flag with
  | nil => exact .nil
  | cons token tokens ih =>
    cases token with
    | word name => exact .word (ih true)
    | _ => exact .other (by simp) (ih false)

theorem Retermed.append (flag : Bool) (front : List Token) (name : String)
    {first second : List Token} (back : Retermed true first second) :
    Retermed flag (front ++ .word name :: first) (front ++ .word name :: second) := by
  induction front generalizing flag with
  | nil => exact .word back
  | cons token front ih =>
    cases token with
    | word other => exact .word (ih true)
    | _ => exact .other (by simp) (ih false)

theorem Retermed.words {flag : Bool} {second : List Token}
    (retermed : Retermed flag (.word name :: (values.map .word ++ tail)) second) :
    ∃ rest, second = .word name :: (values.map .word ++ rest) ∧ Retermed true tail rest := by
  induction values generalizing flag name second with
  | nil =>
    cases retermed with
    | word rest => exact ⟨_, rfl, rest⟩
    | other notWord _ => exact absurd rfl (notWord name)
  | cons value values ih =>
    cases retermed with
    | word rest =>
      obtain ⟨after, rfl, ended⟩ := ih rest
      exact ⟨after, rfl, ended⟩
    | other notWord _ => exact absurd rfl (notWord name)

theorem Body.eq_nil_of_append {rest : List Token} (derived : Body tokens items)
    (brace : tokens ++ tail = .rBrace :: rest) : tokens = [] ∧ items = [] := by
  cases derived with
  | done => exact ⟨rfl, rfl⟩
  | _ => simp at brace

theorem Body.reterm {second : List Token} (derived : Body tokens items) (closes : Closes tail)
    (retermed : Retermed false (tokens ++ tail) second) :
    ∃ tokens' tail', second = tokens' ++ tail' ∧ Body tokens' items ∧ Retermed false tail tail' := by
  induction derived generalizing tail second with
  | done => exact ⟨[], second, rfl, .done, retermed⟩
  | blankLine _ ih =>
    cases retermed with
    | other _ rest =>
      obtain ⟨tokens', tail', rfl, derived', rest'⟩ := ih closes rest
      exact ⟨_, tail', rfl, .blankLine derived', rest'⟩
  | @lineLeaf name values tokens items derived ih =>
    simp only [List.cons_append, List.append_assoc] at retermed
    obtain ⟨rest, rfl, ended⟩ := retermed.words
    generalize split : tokens ++ tail = follow at ended
    cases ended with
    | other _ after =>
      obtain ⟨tokens', tail', rfl, derived', rest'⟩ := ih closes (split ▸ after)
      exact ⟨_, tail', by simp, .lineLeaf derived', rest'⟩
    | lineSemi after =>
      obtain ⟨tokens', tail', rfl, derived', rest'⟩ := ih closes (split ▸ after)
      exact ⟨_, tail', by simp, .semiLeaf derived', rest'⟩
    | lineBrace after =>
      obtain ⟨rfl, rfl⟩ := derived.eq_nil_of_append split
      rw [List.nil_append] at split
      exact ⟨_, _, rfl, .lastLeaf, split ▸ .other (by simp) after⟩
  | @semiLeaf name values tokens items derived ih =>
    simp only [List.append_assoc] at retermed
    obtain ⟨rest, rfl, ended⟩ := retermed.words
    cases ended with
    | other _ after =>
      obtain ⟨tokens', tail', rfl, derived', rest'⟩ := ih closes after
      exact ⟨_, tail', by simp, .semiLeaf derived', rest'⟩
    | semiLine after =>
      obtain ⟨tokens', tail', rfl, derived', rest'⟩ := ih closes after
      exact ⟨_, tail', by simp, .lineLeaf derived', rest'⟩
  | @lastLeaf name values =>
    obtain ⟨rest, rfl, ended⟩ := retermed.words
    rcases closes with rfl | ⟨behind, rfl⟩
    · cases ended
      exact ⟨_, [], by simp, .lastLeaf, .nil⟩
    · cases ended with
      | other notWord after => exact ⟨_, _, rfl, .lastLeaf, .other notWord after⟩
      | braceLine after =>
        exact ⟨_, _, by simp, .lineLeaf .done, .other (by simp) after⟩
  | @block name keys inner children tokens items _ _ innerHypothesis ih =>
    simp only [List.cons_append, List.append_assoc] at retermed
    obtain ⟨rest, rfl, ended⟩ := retermed.words
    cases ended with
    | other _ body =>
      obtain ⟨inner', braceTail, rfl, innerDerived, brace⟩ :=
        innerHypothesis (.inr ⟨_, rfl⟩) body
      cases brace with
      | other _ after =>
        obtain ⟨tokens', tail', rfl, derived', rest'⟩ := ih closes after
        exact ⟨_, tail', by simp, .block innerDerived derived', rest'⟩

theorem Body.of_retermed {first second : List Token} (derived : Body first items)
    (retermed : Retermed false first second) : Body second items := by
  rw [← List.append_nil first] at retermed
  obtain ⟨tokens, tail, rfl, derived, rest⟩ := derived.reterm (.inl rfl) retermed
  cases rest
  simpa using derived

/-- The parser implements the grammar: it succeeds on exactly the derivable
token lists and returns the tree of the derivation; and a leaf may be ended by a
newline, by a semicolon or by the closing brace with no effect on the tree. -/
theorem parser_correct : (∀ (tokens : List Spanned) (tree : ConfigTree),
      parseTokens tokens = .ok tree ↔ Body (tokens.map Spanned.token) tree.items) ∧
    (∀ (front back : List Spanned) (word : String) (wordPos linePos : Pos) (tree : ConfigTree),
      parseTokens (front ++ ⟨.word word, wordPos⟩ :: ⟨.newline, linePos⟩ :: back) = .ok tree ↔
        parseTokens (front ++ ⟨.word word, wordPos⟩ :: ⟨.semi, linePos⟩ :: back) = .ok tree) ∧
    (∀ (front back : List Spanned) (word : String) (wordPos linePos bracePos : Pos) (tree : ConfigTree),
      parseTokens (front ++ ⟨.word word, wordPos⟩ :: ⟨.newline, linePos⟩ ::
          ⟨.rBrace, bracePos⟩ :: back) = .ok tree ↔
        parseTokens (front ++ ⟨.word word, wordPos⟩ :: ⟨.rBrace, bracePos⟩ :: back) = .ok tree) := by
  refine ⟨parseTokens_eq_ok_iff_body, ?_, ?_⟩
  · intro front back word wordPos linePos tree
    simp only [parseTokens_eq_ok_iff_body, List.map_append]
    constructor
    · intro derived
      exact derived.of_retermed (.append false _ word (.lineSemi (.refl false _)))
    · intro derived
      exact derived.of_retermed (.append false _ word (.semiLine (.refl false _)))
  · intro front back word wordPos linePos bracePos tree
    simp only [parseTokens_eq_ok_iff_body, List.map_append, List.map_cons]
    constructor
    · intro derived
      exact derived.of_retermed (.append false _ word (.lineBrace (.refl false _)))
    · intro derived
      exact derived.of_retermed (.append false _ word (.braceLine (.refl false _)))

end Hemlock.Config
