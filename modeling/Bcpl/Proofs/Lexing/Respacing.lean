import Bcpl.Proofs.Grammar.Neighbours
import Bcpl.Proofs.Lexing.Shape
import Bcpl.Proofs.Lexing.SpelledOut

/-!
Other blanks between the lexemes of a text. The text still is a row of those lexemes, but for a
remark in the last line, which takes in blanks put behind it (`Layout.respaced`). Where no token that
can end a command stands in front of one that can start one, the same tokens are inserted
(`SameRow.plainLexemes_eq`).
-/

namespace Bcpl

/-- The text of some lexemes with a gap in front of each. -/
def respace : List Chunk → List Text → Text
  | chunk :: chunks, gap :: gaps => gap ++ (chunk.lexeme.text ++ respace chunks gaps)
  | _, _ => []

/-- Gaps for a row of chunks. Lexemes that touch each other may be moved apart, and where a
semicolon is inserted the gap holds a new line. -/
inductive Respacing : Bool → List Chunk → List Text → Prop where
  | nil {armed : Bool} : Respacing armed [] []
  | cons {armed : Bool} {chunk : Chunk} {chunks : List Chunk} {gap : Text} {gaps : List Text}
      (blank : ∀ c ∈ gap, Lexer.isBlank c) (kept : gap = chunk.gap ∨ gap ≠ [])
      (parted : chunk.inserted? armed = some (.symbol .semicolon) → '\n' ∈ gap)
      (rest : Respacing (chunk.arms armed) chunks gaps) :
      Respacing armed (chunk :: chunks) (gap :: gaps)

/-- Two rows with the same lexemes, except in remarks, and a new line in the second one wherever a
semicolon is inserted in the first. -/
inductive SameRow : Bool → List Chunk → List Chunk → Prop where
  | nil {armed : Bool} : SameRow armed [] []
  | cons {armed : Bool} {first second : Chunk} {firsts seconds : List Chunk}
      (same : first.lexeme = second.lexeme ∨
        first.lexeme.kind = .comment ∧ second.lexeme.kind = .comment)
      (parted : first.inserted? armed = some (.symbol .semicolon) → second.startsLine = true)
      (rest : SameRow (first.arms armed) firsts seconds) :
      SameRow armed (first :: firsts) (second :: seconds)

/-- The lexemes of a row with what is inserted between them, and without remarks. -/
def plainLexemes (armed : Bool) (chunks : List Chunk) : List Lexeme :=
  ((spellOut armed chunks).map Chunk.lexeme).filter (·.kind ≠ .comment)

namespace Lexeme

theorem isBlank_plain {c : Char} (blank : Lexer.isBlank c = true) :
    c.isAlphanum = false ∧ c.isDigit = false ∧ c ≠ '/' ∧ ∀ symbol : Symbol, c ∉ symbol.spelling := by
  simp only [Lexer.isBlank, Bool.or_eq_true, decide_eq_true_eq] at blank
  refine ⟨?_, ?_, ?_, fun symbol member => ?_⟩
  · rcases blank with ((rfl | rfl) | rfl) | rfl <;> decide
  · rcases blank with ((rfl | rfl) | rfl) | rfl <;> decide
  · rcases blank with ((rfl | rfl) | rfl) | rfl <;> decide
  · have plain := Symbol.plain_of_mem_spelling member
    rcases blank with ((rfl | rfl) | rfl) | rfl <;> simp at plain

/-- Neither two strokes nor a symbol end in a blank. -/
theorem mark_not_continued {c : Char} (blank : Lexer.isBlank c = true) (front : Text) :
    (front ++ [c] == ['/', '/']) = false ∧
      (Symbol.all.any fun longer => longer.spelling == front ++ [c]) = false := by
  obtain ⟨_, _, noStroke, noSymbol⟩ := isBlank_plain blank
  constructor
  · rw [beq_eq_false_iff_ne]
    intro same
    have last := congrArg List.getLast? same
    rw [List.getLast?_concat] at last
    exact noStroke (Option.some.inj last)
  · rw [List.any_eq_false]
    intro longer _ same
    exact noSymbol longer (by simp [beq_iff_eq.mp same])

/-- Apart from what is illegal, only a remark goes on with a blank. -/
theorem comment_of_continuedBy_blank {lexeme : Lexeme} {c : Char} (visible : lexeme.Visible)
    (read : Lexeme.read lexeme.text = lexeme) (legal : lexeme.kind ≠ .illegal)
    (blank : Lexer.isBlank c = true) (goesOn : lexeme.continuedBy c = true) :
    lexeme.kind = .comment := by
  obtain ⟨noLetter, noDigit, _⟩ := isBlank_plain blank
  cases kind : lexeme.kind with
  | comment => rfl
  | illegal => exact absurd kind legal
  | eof => exact absurd kind (visible.kind_ne_eof read)
  | name | keyword word => simp [continuedBy, kind, noLetter] at goesOn
  | number => simp [continuedBy, kind, noDigit] at goesOn
  | stringConst => simp [continuedBy, kind] at goesOn
  | symbol symbol =>
      have shape := read_shape lexeme.text
      rw [read] at shape
      have spelled : lexeme.text = symbol.spelling := by
        simpa only [Shape, kind] using shape
      have unquoted : symbol.spelling.head? ≠ some '"' := by
        cases symbol <;> decide
      obtain ⟨noRemark, noLonger⟩ := mark_not_continued blank symbol.spelling
      simp only [continuedBy, kind, spelled, noRemark, noLonger, Bool.or_false,
        beq_iff_eq] at goesOn
      exact absurd goesOn unquoted

theorem continuedBy_ended_remark (line : Text) (c : Char) :
    continuedBy ⟨.comment, '/' :: '/' :: (line ++ ['\n'])⟩ c = false := by
  have last : ('/' :: '/' :: (line ++ ['\n'])).getLast? = some '\n' := by
    rw [← List.cons_append, ← List.cons_append, List.getLast?_concat]
  simp only [continuedBy, last, bne_self_eq_false]

/-- A remark that goes on takes in the rest of its line, so it is the last lexeme. -/
theorem open_remark {lexeme : Lexeme} {c : Char} (read : Lexeme.read lexeme.text = lexeme)
    (comment : lexeme.kind = .comment) (goesOn : lexeme.continuedBy c = true) :
    (∃ line, '\n' ∉ line ∧ lexeme.text = '/' :: '/' :: line) ∧
      ∀ rest, lexeme.EndsBefore rest → rest = [] := by
  have shape := read_shape lexeme.text
  rw [read] at shape
  obtain ⟨line, spelled, same⟩ : ∃ line, lexeme.text = '/' :: '/' :: line ∧ lexeme = remark line := by
    simpa only [Shape, comment] using shape
  have unended : '\n' ∉ line := by
    intro ended
    obtain ⟨inner, after, rfl, inside⟩ := List.eq_append_cons_of_mem ended
    rw [same, remark_of_mem inside, continuedBy_ended_remark] at goesOn
    contradiction
  refine ⟨⟨line, unended, spelled⟩, fun rest ends => ?_⟩
  refine (endsBefore_iff_of_open rest fun d => ?_).mp ends
  simpa only [continuedBy, comment] using goesOn

end Lexeme

namespace Layout

variable {text : Text} {chunks : List Chunk} {gaps : List Text} {armed : Bool}

/-- Blanks behind an open remark are taken in up to the end of the line. -/
theorem open_remark {gap line after : Text} (blank : ∀ c ∈ gap, Lexer.isBlank c = true)
    (unended : '\n' ∉ line) (blanks : ∀ c ∈ after, Lexer.isBlank c = true) :
    ∃ remark rest, remark.kind = .comment ∧
      Layout (gap ++ ('/' :: '/' :: line ++ after)) [⟨gap, remark⟩, ⟨rest, ⟨.eof, []⟩⟩] := by
  have visible {tail : Text} : (Lexeme.mk .comment ('/' :: '/' :: tail)).Visible :=
    ⟨'/', '/' :: tail, rfl, by decide⟩
  by_cases ended : '\n' ∈ after
  · obtain ⟨inner, rest, rfl, inside⟩ := List.eq_append_cons_of_mem ended
    have read : Lexeme.remark (line ++ inner ++ ['\n']) =
        ⟨.comment, '/' :: '/' :: (line ++ inner ++ ['\n'])⟩ :=
      Lexeme.remark_of_mem (by simp [unended, inside]) []
    have final : Layout rest [⟨rest, ⟨.eof, []⟩⟩] :=
      .finish fun c member => blanks c (by simp [member])
    have closed : Lexeme.EndsBefore ⟨.comment, '/' :: '/' :: (line ++ inner ++ ['\n'])⟩ rest :=
      fun c _ => Lexeme.continuedBy_ended_remark _ c
    have layout := Layout.lexeme blank visible read closed final
    exact ⟨_, rest, rfl, by simpa using layout⟩
  · have read : Lexeme.remark (line ++ after) = ⟨.comment, '/' :: '/' :: (line ++ after)⟩ :=
      Lexeme.remark_of_notMem (by simp [unended, ended])
    have final : Layout [] [⟨[], ⟨.eof, []⟩⟩] := .finish (by simp)
    have layout := Layout.lexeme blank visible read (by simp [Lexeme.EndsBefore]) final
    exact ⟨_, [], rfl, by simpa using layout⟩

theorem eq_of_nil (layout : Layout text chunks) (empty : text = []) :
    chunks = [⟨[], ⟨.eof, []⟩⟩] := by
  cases layout with
  | finish => rw [empty]
  | lexeme _ visible =>
      obtain ⟨c, tail, spelled, _⟩ := visible
      simp [spelled] at empty

theorem endsBefore_respace {before : Lexeme} (layout : Layout text chunks)
    (respacing : Respacing armed chunks gaps) (ends : before.EndsBefore text)
    (closed : ∀ c, Lexer.isBlank c = true → before.continuedBy c = false) :
    before.EndsBefore (respace chunks gaps) := by
  have parted {gap rest : Text} (blank : ∀ c ∈ gap, Lexer.isBlank c) (apart : gap ≠ []) :
      before.EndsBefore (gap ++ rest) := by
    cases gap with
    | nil => exact absurd rfl apart
    | cons c gap =>
        intro d next
        obtain rfl : c = d := Option.some.inj next
        exact closed c (blank c List.mem_cons_self)
  cases respacing with
  | nil => simp [respace, Lexeme.EndsBefore]
  | @cons _ chunk chunks gap gaps blank kept _ rest =>
      rcases kept with rfl | apart
      · cases layout with
        | finish =>
            cases rest
            simpa [respace] using ends
        | @lexeme gap after lexeme chunks _ visible _ _ _ =>
            obtain ⟨c, tail, spelled, _⟩ := visible
            cases gap <;> simpa [Lexeme.EndsBefore, respace, spelled] using ends
      · exact parted blank apart

/-- A text with other gaps is laid out as the same row of lexemes. -/
theorem respaced (layout : Layout text chunks)
    (legal : ∀ chunk ∈ chunks, chunk.lexeme.kind ≠ .illegal)
    (respacing : Respacing armed chunks gaps) :
    ∃ others, Layout (respace chunks gaps) others ∧ SameRow armed chunks others := by
  induction layout generalizing armed gaps with
  | @finish gap blank =>
      cases respacing with
      | cons blank _ parted rest =>
          cases rest
          refine ⟨[⟨_, ⟨.eof, []⟩⟩], by simpa [respace] using Layout.finish blank, ?_⟩
          refine .cons (.inl rfl) (fun inserted => ?_) .nil
          simpa [Chunk.startsLine] using parted inserted
  | @lexeme oldGap after lexeme chunks _ visible read ends following ih =>
      cases respacing with
      | @cons _ _ _ gap gaps blank _ parted rest =>
          have newLine : Chunk.inserted? armed ⟨oldGap, lexeme⟩ = some (.symbol .semicolon) →
              Chunk.startsLine ⟨gap, lexeme⟩ = true := by
            intro inserted
            simpa [Chunk.startsLine] using parted inserted
          by_cases closed : ∀ c, Lexer.isBlank c = true → lexeme.continuedBy c = false
          · obtain ⟨others, layout, same⟩ :=
              ih (fun chunk member => legal chunk (List.mem_cons_of_mem _ member)) rest
            have stops := following.endsBefore_respace rest ends closed
            exact ⟨_, .lexeme blank visible read stops layout, .cons (.inl rfl) newLine same⟩
          · -- A remark in the last line, behind which nothing but the end of the text was.
            simp only [not_forall, Bool.not_eq_false] at closed
            obtain ⟨c, blankChar, goesOn⟩ := closed
            have comment := Lexeme.comment_of_continuedBy_blank visible read
              (legal _ List.mem_cons_self) blankChar goesOn
            obtain ⟨⟨line, unended, spelled⟩, last⟩ := Lexeme.open_remark read comment goesOn
            obtain rfl := following.eq_of_nil (last after ends)
            cases rest with
            | @cons _ _ _ final _ blanks _ _ none_ =>
                cases none_
                obtain ⟨remark, rest, kind, layout⟩ := open_remark blank unended blanks
                refine ⟨[⟨gap, remark⟩, ⟨rest, ⟨.eof, []⟩⟩], ?_, ?_⟩
                · simpa [respace, spelled] using layout
                · refine .cons (.inr ⟨comment, kind⟩) newLine (.cons (.inl rfl) ?_ .nil)
                  intro inserted
                  rw [Chunk.inserted?_of_eof rfl] at inserted
                  contradiction

end Layout

section Insertion

variable {armed again : Bool} {chunk first second : Chunk} {last : Option Kind} {kind : Kind}

theorem arms_of_comment (comment : chunk.lexeme.kind = .comment) : chunk.arms armed = false := by
  simp [Chunk.arms, comment, Kind.isCommandEnd]

theorem isCommandEnd_of_arms (arms : chunk.arms armed = true) :
    chunk.lexeme.kind.isCommandEnd = true := by
  unfold Chunk.arms at arms
  split at arms
  · contradiction
  · exact arms

theorem of_inserted_semicolon (inserted : chunk.inserted? armed = some (.symbol .semicolon)) :
    armed = true ∧ chunk.lexeme.kind.isSemicolonStart = true := by
  unfold Chunk.inserted? at inserted
  split at inserted
  · next starts =>
      simp only [Bool.and_eq_true] at starts
      exact ⟨starts.1.1, starts.2⟩
  · split at inserted <;> simp at inserted

theorem of_inserted_do (inserted : chunk.inserted? armed = some (.keyword .do_)) :
    chunk.lexeme.kind.isDoStart = true := by
  unfold Chunk.inserted? at inserted
  split at inserted
  · simp at inserted
  · split at inserted
    · next starts =>
        simp only [Bool.and_eq_true] at starts
        exact starts.2
    · contradiction

theorem plainLexemes_of_comment {chunks : List Chunk} (comment : chunk.lexeme.kind = .comment) :
    plainLexemes armed (chunk :: chunks) = plainLexemes (chunk.arms armed) chunks := by
  have nothing : chunk.inserted? armed = none := by
    simp [Chunk.inserted?, comment, Kind.isSemicolonStart, Kind.isDoStart]
  simp [plainLexemes, spellOut, Chunk.spelled_of_none nothing, comment]

theorem plainLexemes_of_none {chunks : List Chunk} (significant : chunk.lexeme.kind ≠ .comment)
    (nothing : chunk.inserted? armed = none) :
    plainLexemes armed (chunk :: chunks) =
      chunk.lexeme :: plainLexemes (chunk.arms armed) chunks := by
  simp [plainLexemes, spellOut, Chunk.spelled_of_none nothing, significant]

theorem plainLexemes_of_some {chunks : List Chunk} (significant : chunk.lexeme.kind ≠ .comment)
    (inserted : chunk.inserted? armed = some kind) :
    plainLexemes armed (chunk :: chunks) =
      Lexeme.ofKind kind :: chunk.lexeme :: plainLexemes chunk.lexeme.kind.isCommandEnd chunks := by
  have written : (Lexeme.ofKind kind).kind ≠ .comment := by
    rcases Chunk.inserted_kind inserted with rfl | rfl <;> simp [Lexeme.ofKind]
  simp [plainLexemes, spellOut, Chunk.spelled_of_some inserted, significant, written,
    Chunk.arms_of_inserted inserted]

theorem Chunk.inserted?_of_mayFollow (follows : chunk.lexeme.kind.MayFollow last)
    (ended : armed = true → ∃ before ∈ last, before.isCommandEnd = true) :
    chunk.inserted? armed = none := by
  cases armed with
  | false => exact Chunk.inserted?_false
  | true =>
      obtain ⟨before, behind, ends⟩ := ended rfl
      have noStart : chunk.lexeme.kind.isSemicolonStart = false := by
        rw [Bool.eq_false_iff]
        intro starts
        have unarmed := follows.unarmed (.inl starts) before behind
        rw [ends] at unarmed
        contradiction
      simp [Chunk.inserted?, noStart, follows.startsNothing]

/-- Between tokens that may follow each other the same is inserted in two rows. A row is `armed` in
front of its next lexeme only behind the end of a command, and behind a number both are. -/
theorem SameRow.plainLexemes_eq {firsts seconds : List Chunk} (row : SameRow armed firsts seconds)
    (neighbours : Kind.Neighbours last ((plainLexemes armed firsts).map Lexeme.kind))
    (ended : again = true → ∃ before ∈ last, before.isCommandEnd = true)
    (numbered : armed = true → last = some .number → again = true) :
    plainLexemes again seconds = plainLexemes armed firsts := by
  induction row generalizing last again with
  | nil => rfl
  | @cons armed first second firsts seconds same parted row ih =>
      by_cases comment : first.lexeme.kind = .comment
      · have commentAgain : second.lexeme.kind = .comment := by
          rcases same with same | both
          · rwa [← same]
          · exact both.2
        rw [plainLexemes_of_comment comment] at neighbours ⊢
        rw [plainLexemes_of_comment commentAgain]
        apply ih neighbours
        · simp [arms_of_comment commentAgain]
        · simp [arms_of_comment comment]
      · have same : first.lexeme = second.lexeme := by
          rcases same with same | both
          · exact same
          · exact absurd both.1 comment
        have significant : second.lexeme.kind ≠ .comment := by rwa [← same]
        cases inserted : first.inserted? armed with
        | none =>
            rw [plainLexemes_of_none comment inserted] at neighbours ⊢
            obtain ⟨follows, others⟩ := neighbours
            have nothing : second.inserted? again = none :=
              Chunk.inserted?_of_mayFollow (same ▸ follows) ended
            rw [plainLexemes_of_none significant nothing, same]
            congr 1
            apply ih others
            · intro arms
              exact ⟨_, rfl, same ▸ isCommandEnd_of_arms arms⟩
            · intro _ number
              have kind : first.lexeme.kind = .number := Option.some.inj number
              -- What stands in front of a number ends no command.
              have unarmed : again = false := by
                rw [Bool.eq_false_iff]
                intro armed
                obtain ⟨before, behind, ends⟩ := ended armed
                have noEnd := follows.unarmed (.inr kind) before behind
                rw [ends] at noEnd
                contradiction
              rw [unarmed, Chunk.arms_false, ← same, kind]
              rfl
        | some kind =>
            rw [plainLexemes_of_some comment inserted] at neighbours ⊢
            obtain ⟨mark, follows, others⟩ := neighbours
            rcases Chunk.inserted_kind inserted with rfl | rfl
            · obtain ⟨rfl, starts⟩ := of_inserted_semicolon inserted
              obtain rfl : again = true := numbered rfl (mark.separates rfl)
              have insertedAgain : second.inserted? true = some (.symbol .semicolon) := by
                simp [Chunk.inserted?, parted inserted, ← same, starts]
              rw [plainLexemes_of_some significant insertedAgain, same]
              congr 2
              rw [Chunk.arms_of_inserted inserted, same] at ih
              rw [same] at others
              exact ih others (fun ends => ⟨_, rfl, ends⟩) fun arms _ => arms
            · have starts := of_inserted_do inserted
              rw [follows.startsNothing] at starts
              contradiction

end Insertion

end Bcpl
