import Bcpl.Proofs.Grammar.FirstError
import Bcpl.Proofs.Grammar.Step

/-!
Which tokens stand next to each other in a program. What stands in front of a name, a number or an
opening bracket cannot end a command, so nothing is ever inserted there but the semicolons between
the entries of a block, and those stand behind numbers.
-/

namespace Bcpl

namespace Kind

/-- A kind of token that an accepted program may have behind `last`. -/
structure MayFollow (last : Option Kind) (kind : Kind) : Prop where
  unarmed : kind.isSemicolonStart ∨ kind = .number → ∀ before ∈ last, before.isCommandEnd = false
  separates : kind = .symbol .semicolon → last = some .number
  startsNothing : kind.isDoStart = false
  readable : kind ≠ .illegal

/-- Kinds of tokens each of which may follow the one before it. -/
def Neighbours : Option Kind → List Kind → Prop
  | _, [] => True
  | last, kind :: rest => kind.MayFollow last ∧ Neighbours (some kind) rest

end Kind

namespace Position

/-- The positions in front of a name, a number or an opening bracket. -/
def IsOpen : Position → Prop
  | .opening _ | .entryName _ _ | .entryValue _ _ _ | .firstName _ | .nextName _ | .body _
  | .vectorSize _ | .value _ _ => True
  | _ => False

/-- What a position says about the kind of the token in front of it. -/
structure Behind (position : Position) (last : Option Kind) : Prop where
  opened : position.IsOpen → ∀ kind ∈ last, kind.isCommandEnd = false
  entered : ∀ scope entries, position = .entryEnd scope entries → last = some .number

variable {position behind : Position} {token : Token} {last : Option Kind}

theorem behind_afterNumber {next : Int → Position} (kind : token.kind = .number)
    (closed : ∀ value, ¬ (next value).IsOpen) :
    (afterNumber token next).Behind (some token.kind) := by
  refine ⟨fun opened => ?_, fun _ _ _ => congrArg some kind⟩
  rcases afterNumber_cases token next with ⟨value, same⟩ | same
  · rw [same] at opened
    exact absurd opened (closed value)
  · rw [same] at opened
    exact opened.elim

theorem Step.stands (step : Step token position behind) : behind.Behind (some token.kind) := by
  cases step with
  | entryValue kind | firstValue kind | size kind | value kind =>
      exact behind_afterNumber kind fun _ => id
  | block scope kind =>
      cases scope <;> exact ⟨by simp [kind, Scope.kind, Kind.isCommandEnd], nofun⟩
  | entryMark kind =>
      exact ⟨by rcases kind with kind | kind <;> simp [kind, Kind.isCommandEnd], nofun⟩
  | define kind | bracket kind | semicolon kind | firstComma kind | firstEquals kind
  | nextComma kind | nextEquals kind | vector kind | valueComma kind | joined kind =>
      exact ⟨by simp [kind, Kind.isCommandEnd], nofun⟩
  | entryName kind | close kind | firstName kind | nextName kind => exact ⟨False.elim, nofun⟩

theorem Step.mayFollow (step : Step token position behind) (stands : position.Behind last) :
    token.kind.MayFollow last := by
  cases step with
  | block scope kind =>
      cases scope <;> constructor <;>
        simp [kind, Scope.kind, Kind.isSemicolonStart, Kind.isDoStart]
  | entryMark kind =>
      rcases kind with kind | kind <;> constructor <;>
        simp [kind, Kind.isSemicolonStart, Kind.isDoStart]
  | bracket kind | entryName kind | entryValue kind | firstName kind | nextName kind
  | firstValue kind | size kind | value kind =>
      refine ⟨fun _ => stands.opened trivial, ?_, ?_, ?_⟩ <;> simp [kind, Kind.isDoStart]
  | @semicolon scope entries kind =>
      refine ⟨?_, fun _ => stands.entered scope entries rfl, ?_, ?_⟩ <;>
        simp [kind, Kind.isSemicolonStart, Kind.isDoStart]
  | define kind | close kind | firstComma kind | firstEquals kind | nextComma kind
  | nextEquals kind | vector kind | valueComma kind | joined kind =>
      constructor <;> simp [kind, Kind.isSemicolonStart, Kind.isDoStart]

end Position

namespace Parser

variable {parser behind : Parser} {token : Token} {last : Option Kind}

theorem settle_behind {next : Kind} {settled : List Event × Parser}
    (stands : parser.position.Behind last) (settles : parser.settle next = .ok settled) :
    settled.2.position.Behind last := by
  have complete (program : Program) (definition : Def) :
      (settleDef program definition next).2.position.Behind last := by
    unfold settleDef
    split <;> exact ⟨False.elim, nofun⟩
  obtain ⟨program, position⟩ := parser
  unfold settle at settles
  cases position with
  | blockEnd decl =>
      cases settles
      exact ⟨False.elim, nofun⟩
  | vectorSize binding =>
      simp only at settles
      split at settles <;> cases settles <;> exact stands
  | valueEnd binding values span =>
      simp only at settles
      split at settles
      · cases settles
        exact stands
      · split at settles
        · cases settles
          exact complete _ _
        · contradiction
  | defEnd definition =>
      cases settles
      exact complete _ _
  | oversized number => contradiction
  | _ =>
      cases settles
      exact stands

theorem accept_neighbour (stands : parser.position.Behind last)
    (accepts : parser.accept token = .ok behind) :
    token.kind.MayFollow last ∧ behind.position.Behind (some token.kind) := by
  obtain ⟨settled, position, settles, found, rfl⟩ := exists_of_accept accepts
  have step := Position.step_of_after found
  exact ⟨step.mayFollow (settle_behind stands settles), step.stands⟩

theorem acceptAll_neighbours {tokens : List Token} (stands : parser.position.Behind last)
    (accepts : tokens.foldlM accept parser = .ok behind) :
    Kind.Neighbours last (tokens.map (·.kind) ++ [.eof]) := by
  induction tokens generalizing parser last with
  | nil =>
      refine ⟨?_, trivial⟩
      constructor <;> simp [Kind.isSemicolonStart, Kind.isDoStart]
  | cons token tokens ih =>
      obtain ⟨next, first, others⟩ := foldlM_cons_eq_ok_iff.mp accepts
      obtain ⟨follows, after⟩ := accept_neighbour stands first
      exact ⟨follows, ih after others⟩

end Parser

theorem neighbours_of_parse {text : Text} {program : Program} (parsed : parse text = .ok program) :
    Kind.Neighbours none ((plainTokens text).map (·.kind)) := by
  rw [parse_eq_accepted] at parsed
  obtain ⟨behind, accepted, _⟩ := bind_eq_ok_iff.mp parsed
  have start : Position.Behind .item none := ⟨False.elim, nofun⟩
  rw [(plainTokens_eq text).1, List.map_append]
  exact Parser.acceptAll_neighbours start accepted

end Bcpl
