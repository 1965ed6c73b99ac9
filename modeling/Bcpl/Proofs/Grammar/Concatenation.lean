import Bcpl.Proofs.Grammar.Spacing

/-!
Two programs, one below the other, are one program (`parse_newline_append`). The new line between
them ends a remark in the last line of the first, and nothing is inserted at it, because no program
begins with the start of a command.
-/

namespace Bcpl

open Grammar

/-- A kind of token that neither starts nor ends a command. -/
structure Kind.Inert (kind : Kind) : Prop where
  noSemicolon : kind.isSemicolonStart = false
  noDo : kind.isDoStart = false
  noEnd : kind.isCommandEnd = false

namespace Layout

variable {first second text : Text} {chunk : Chunk} {chunks firsts seconds : List Chunk}
  {armed : Bool}

/-- Blanks in front of a text belong to its first gap. -/
theorem indented {blanks : Text} (blank : ∀ c ∈ blanks, Lexer.isBlank c = true)
    (layout : Layout text (chunk :: chunks)) :
    Layout (blanks ++ text) (⟨blanks ++ chunk.gap, chunk.lexeme⟩ :: chunks) := by
  have both {gap : Text} (blankToo : ∀ c ∈ gap, Lexer.isBlank c = true) :
      ∀ c ∈ blanks ++ gap, Lexer.isBlank c = true := fun c member =>
    (List.mem_append.mp member).elim (blank c) (blankToo c)
  cases layout with
  | finish blankToo => exact .finish (both blankToo)
  | lexeme blankToo visible read ends following =>
      rw [← List.append_assoc]
      exact .lexeme (both blankToo) visible read ends following

theorem plainLexemes_cons : plainLexemes armed (chunk :: chunks) =
    ((chunk.spelled armed).map Chunk.lexeme).filter (·.kind ≠ .comment) ++
      plainLexemes (chunk.arms armed) chunks := by
  simp only [plainLexemes, spellOut, List.map_append, List.filter_append]

/-- In front of an inert token it does not matter what stands there. -/
theorem plainLexemes_of_inert (inert : chunk.lexeme.kind.Inert) :
    plainLexemes armed (chunk :: chunks) =
      [chunk.lexeme].filter (·.kind ≠ .comment) ++ plainLexemes false chunks := by
  have nothing : chunk.inserted? armed = none := by
    simp [Chunk.inserted?, inert.noSemicolon, inert.noDo]
  have disarmed : chunk.arms armed = false := by simp [Chunk.arms, inert.noEnd]
  rw [plainLexemes_cons, Chunk.spelled_of_none nothing, disarmed]
  rfl

/-- A text below another one is laid out as the rows of both. The first row loses its end. -/
theorem newline_append (layout : Layout first firsts)
    (legal : ∀ chunk ∈ firsts, chunk.lexeme.kind ≠ .illegal)
    (following : Layout second (chunk :: seconds)) (inert : chunk.lexeme.kind.Inert)
    (armed : Bool) :
    ∃ chunks front, Layout (first ++ '\n' :: second) chunks ∧
      plainLexemes armed firsts = front ++ [⟨.eof, []⟩] ∧
      plainLexemes armed chunks = front ++ plainLexemes false (chunk :: seconds) := by
  induction layout generalizing armed with
  | @finish gap blank =>
      have blanks : ∀ c ∈ gap ++ ['\n'], Lexer.isBlank c = true := by
        intro c member
        rcases List.mem_append.mp member with inside | last
        · exact blank c inside
        · rw [List.mem_singleton.mp last]
          decide
      refine ⟨_, [], by simpa using following.indented blanks, ?_, ?_⟩
      · simp [plainLexemes, spellOut_finish]
      · rw [plainLexemes_of_inert inert, plainLexemes_of_inert (by exact inert)]
        rfl
  | @lexeme gap after lexeme chunks blank visible read ends rest ih =>
      by_cases closed : lexeme.continuedBy '\n' = false
      · obtain ⟨others, front, joined, plain, same⟩ :=
          ih (fun chunk member => legal chunk (List.mem_cons_of_mem _ member))
            (Chunk.arms armed ⟨gap, lexeme⟩)
        have stops : lexeme.EndsBefore (after ++ '\n' :: second) := by
          cases after with
          | nil =>
              intro c next
              rwa [← Option.some.inj next]
          | cons c after => simpa [Lexeme.EndsBefore] using ends
        let here := ((Chunk.spelled armed ⟨gap, lexeme⟩).map Chunk.lexeme).filter
          (·.kind ≠ .comment)
        refine ⟨⟨gap, lexeme⟩ :: others, here ++ front, ?_, ?_, ?_⟩
        · simpa using Layout.lexeme blank visible read stops joined
        · rw [plainLexemes_cons, plain, ← List.append_assoc]
        · rw [plainLexemes_cons, same, ← List.append_assoc]
      · -- A remark in the last line takes in the new line.
        have goesOn : lexeme.continuedBy '\n' = true := by simpa using closed
        have comment := Lexeme.comment_of_continuedBy_blank visible read
          (legal _ List.mem_cons_self) (by decide) goesOn
        obtain ⟨⟨line, unended, spelled⟩, last⟩ := Lexeme.open_remark read comment goesOn
        obtain rfl := last after ends
        obtain rfl := rest.eq_of_nil rfl
        have ended : Lexeme.read ('/' :: '/' :: (line ++ ['\n'])) =
            ⟨.comment, '/' :: '/' :: (line ++ ['\n'])⟩ := Lexeme.remark_of_mem unended []
        have joined := Layout.lexeme blank ⟨'/', '/' :: (line ++ ['\n']), rfl, by decide⟩ ended
          (fun c _ => Lexeme.continuedBy_ended_remark line c) following
        refine ⟨_, [], by simpa [spelled] using joined, ?_, ?_⟩
        · rw [plainLexemes_of_comment comment]
          simp [plainLexemes, spellOut_finish]
        · rw [plainLexemes_of_comment rfl, arms_of_comment rfl, List.nil_append]

end Layout

namespace Grammar

variable {lexemes : List Lexeme}

theorem Block.exists_cons {decl : Decl} (block : Block lexemes decl) :
    ∃ scope : Scope, ∃ word rest, lexemes = word :: rest ∧ word.kind = scope.kind := by
  cases block with
  | global reserved => exact ⟨.global, _, _, rfl, reserved⟩
  | manifest reserved => exact ⟨.manifest, _, _, rfl, reserved⟩

theorem Definition.exists_cons {definition : Def} (defined : Definition lexemes definition) :
    ∃ word rest, lexemes = word :: rest ∧ word.kind = .keyword .let_ := by
  induction defined with
  | first reserved => exact ⟨_, _, rfl, reserved⟩
  | both earlier reserved single ih =>
      obtain ⟨word, rest, rfl, start⟩ := ih
      exact ⟨word, _, rfl, start⟩

/-- A program begins with a word that starts an item. -/
theorem Derives.inert_head {program : Program} {lexeme : Lexeme}
    (derived : Derives lexemes program) (head : lexeme ∈ lexemes.head?) : lexeme.kind.Inert := by
  induction derived with
  | empty => contradiction
  | @block before _ _ _ earlier block ih =>
      cases before with
      | cons first before => exact ih head
      | nil =>
          obtain ⟨scope, word, rest, rfl, reserved⟩ := block.exists_cons
          cases head
          constructor <;> rw [reserved] <;> cases scope <;> rfl
  | @definition before _ _ _ earlier defined ih =>
      cases before with
      | cons first before => exact ih head
      | nil =>
          obtain ⟨word, rest, rfl, reserved⟩ := defined.exists_cons
          cases head
          constructor <;> rw [reserved] <;> rfl

theorem Derives.append {firsts seconds : List Lexeme} {one other : Program}
    (first : Derives firsts one) (second : Derives seconds other) :
    Derives (firsts ++ seconds) ⟨one.decls ++ other.decls, one.defs ++ other.defs⟩ := by
  induction second with
  | empty => simpa using first
  | block earlier block ih => simpa [Program.addDecl] using ih.block block
  | definition earlier defined ih => simpa [Program.addDef] using ih.definition defined

end Grammar

section Parsed

variable {text : Text} {chunk : Chunk} {chunks : List Chunk}

theorem Layout.significantTokens_eq (layout : Layout text chunks) :
    (significantTokens text).map Token.toLexeme ++ [⟨.eof, []⟩] = plainLexemes false chunks := by
  rw [← layout.plainTokens_eq, (Bcpl.plainTokens_eq text).1, List.map_append]
  rfl

theorem Layout.inert_of_parse {program : Program} (layout : Layout text (chunk :: chunks))
    (parsed : parse text = .ok program) : chunk.lexeme.kind.Inert := by
  by_cases comment : chunk.lexeme.kind = .comment
  · constructor <;> rw [comment] <;> rfl
  · have lexemes := layout.significantTokens_eq
    rw [plainLexemes_of_none comment Chunk.inserted?_false] at lexemes
    cases first : (significantTokens text).map Token.toLexeme with
    | nil =>
        rw [first] at lexemes
        rw [← (List.cons.inj lexemes).1]
        constructor <;> rfl
    | cons lexeme rest =>
        rw [first] at lexemes
        have derived := derives_of_parse parsed
        rw [first] at derived
        rw [← (List.cons.inj lexemes).1]
        exact derived.inert_head rfl

end Parsed

/-- Two programs, one below the other, are one program with the items of both. -/
theorem parse_newline_append {first second : Text} {one other : Program}
    (parsed : parse first = .ok one) (parsedBelow : parse second = .ok other) :
    parse (first ++ '\n' :: second) =
      .ok ⟨one.decls ++ other.decls, one.defs ++ other.defs⟩ := by
  obtain ⟨firsts, layout⟩ := Layout.exists_chunks first
  obtain ⟨seconds, below⟩ := Layout.exists_chunks second
  obtain ⟨chunk, rest, rfl⟩ : ∃ chunk rest, seconds = chunk :: rest := by
    cases below <;> exact ⟨_, _, rfl⟩
  obtain ⟨chunks, front, joined, plain, same⟩ :=
    layout.newline_append (layout.legal_of_parse parsed) below (below.inert_of_parse parsedBelow)
      false
  rw [← layout.significantTokens_eq] at plain
  rw [← joined.significantTokens_eq, ← below.significantTokens_eq, ← List.append_assoc] at same
  apply parse_eq_ok_of_derives
  rw [List.append_cancel_right same, ← List.append_cancel_right plain]
  exact (derives_of_parse parsed).append (derives_of_parse parsedBelow)

/-- The first program ends in a remark that is still open, and the second in a number. -/
theorem parse_below_remark :
    let first := "manifest $( N = 3 $) // last".toList
    let second := "let A, B = 1, 2 and V = vec 3".toList
    let one : Program := ⟨[.constant [⟨"N".toList, 3⟩]], []⟩
    let other : Program := ⟨[], [.both (.simple ["A".toList, "B".toList] [.const 1, .const 2])
      (.vec "V".toList (.const 3))]⟩
    parse first = .ok one ∧ parse second = .ok other ∧
      parse (first ++ '\n' :: second) = .ok ⟨one.decls, other.defs⟩ := by
  intro first second one other
  have parsed : parse first = .ok one := by decide +kernel
  have parsedBelow : parse second = .ok other := by decide +kernel
  exact ⟨parsed, parsedBelow, parse_newline_append parsed parsedBelow⟩

end Bcpl
