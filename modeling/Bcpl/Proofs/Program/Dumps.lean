import Bcpl.Proofs.Session.Jobs
import Bcpl.Proofs.Text.Delimiting
import Bcpl.Proofs.Text.Encoding

/-!
Programs told from their dumps. In each of its layouts the dump of a tree shows the tree, and where
it ends (`Dump.Determines`): every part begins with a letter, and no part goes on into the mark
behind it. So two programs have the same dump only if they are the same (`Program.determines_dump`).
-/

namespace Bcpl

namespace Dump

/-- A tree on one line, or on many lines at some depth. -/
def laid (dump : Dump) : Option Nat → Text
  | none => dump.compact
  | some depth => dump.expanded depth

/-- A value is told from its tree in every layout, unless a digit stands behind the tree. -/
def Determines {α : Type} (dump : α → Dump) (value : α) : Prop :=
  ∀ layout, Text.Determines Text.EndsNumber (fun value => (dump value).laid layout) value

/-- All layouts of a tree have the same character in front. -/
def StartsWith (dump : Dump) (c : Char) : Prop :=
  ∀ layout, ∃ rest, dump.laid layout = c :: rest

theorem startsWith_record (c : Char) (name : Text) (parts : List Dump) :
    (record (c :: name) parts).StartsWith c := by
  intro layout
  cases layout with
  | none => exact ⟨_, rfl⟩
  | some depth => exact ⟨_, rfl⟩

theorem startsWith_wrapped (c : Char) (name : Text) (part : Dump) :
    (wrapped (c :: name) part).StartsWith c := by
  intro layout
  cases layout with
  | none => exact ⟨_, rfl⟩
  | some depth => exact ⟨_, rfl⟩

def indentation (depth : Nat) : Text := List.replicate (4 * depth) ' '

theorem indentation_succ (depth : Nat) :
    indentation (depth + 1) = indentation depth ++ "    ".toList := by
  simp [indentation, Nat.mul_succ, List.replicate_add]

theorem enclose_one (opening closing : Text) (part : Dump) (depth : Nat) :
    enclose opening [part] closing depth =
      opening ++ ('\n' :: indentation (depth + 1)) ++ part.expanded (depth + 1) ++
        (',' :: '\n' :: (indentation depth ++ closing)) := by
  simp [enclose, lines, indentation]

theorem enclose_two (opening closing : Text) (first second : Dump) (depth : Nat) :
    enclose opening [first, second] closing depth =
      opening ++ ('\n' :: indentation (depth + 1)) ++ (first.expanded (depth + 1) ++
        ((',' :: '\n' :: indentation (depth + 1)) ++ second.expanded (depth + 1) ++
          (',' :: '\n' :: (indentation depth ++ closing)))) := by
  simp [enclose, lines, indentation]

theorem row_cons (part : Dump) (parts : List Dump) :
    row (part :: parts) =
      part.compact ++ parts.flatMap fun part => ", ".toList ++ part.compact := by
  induction parts generalizing part with
  | nil => simp [row]
  | cons next parts ih =>
      rw [List.flatMap_cons, List.append_assoc, ← ih next]
      simp [row, List.intercalate_cons_cons]

theorem lines_cons (part : Dump) (parts : List Dump) (depth : Nat) :
    lines (part :: parts) depth = indentation depth ++ (part.expanded depth ++
      ((parts.flatMap fun part => ",\n".toList ++ indentation depth ++ part.expanded depth) ++
        ",\n".toList)) := by
  induction parts generalizing part with
  | nil => simp [lines, indentation]
  | cons next parts ih =>
      have behind := ih next
      simp only [lines, List.flatMap_cons, List.append_assoc] at behind ⊢
      rw [behind]
      rfl

namespace Determines

open Text (EndsNumber)

variable {α β : Type} {dump : α → Dump} {dump' : β → Dump} {value : α} {value' : β}

theorem comap (f : β → α) {value : β} (determines : Determines dump (f value))
    (injective : ∀ other, f value = f other → value = other) :
    Determines (fun value => dump (f value)) value :=
  fun layout => (determines layout).comap f injective

theorem labelled (determines : Determines dump value) (label : Text) :
    Determines (fun value => Dump.labelled label (dump value)) value := by
  intro layout
  cases layout with
  | none => exact (determines none).prepend _
  | some depth => exact (determines (some depth)).prepend _

theorem wrapped (determines : Determines dump value) (name : Text) :
    Determines (fun value => Dump.wrapped name (dump value)) value := by
  intro layout
  cases layout with
  | none => exact ((determines none).prepend _).append _ fun _ _ => .cons (by decide) _
  | some depth =>
      simp only [laid, Dump.wrapped, enclose_one]
      exact ((determines (some (depth + 1))).prepend _).append _ fun _ _ => .cons (by decide) _

theorem record (determines : Determines dump value) (name : Text) :
    Determines (fun value => Dump.record name [dump value]) value := by
  intro layout
  cases layout with
  | none =>
      simp only [laid, Dump.record, row, List.map_cons, List.map_nil, List.intercalate_singleton]
      exact ((determines none).prepend _).append _ fun _ _ => .cons (by decide) _
  | some depth =>
      simp only [laid, Dump.record, enclose_one]
      exact ((determines (some (depth + 1))).prepend _).append _ fun _ _ => .cons (by decide) _

theorem record_two (determines : Determines dump value) (determines' : Determines dump' value')
    (name : Text) :
    Determines (fun values : α × β => Dump.record name [dump values.1, dump' values.2])
      (value, value') := by
  intro layout
  cases layout with
  | none =>
      simp only [laid, Dump.record, row, List.map_cons, List.map_nil, List.intercalate_cons_cons,
        List.intercalate_singleton, List.append_assoc]
      have second : Text.Determines EndsNumber
          (fun value => ", ".toList ++ ((dump' value).compact ++ " \x7d".toList)) value' :=
        ((determines' none).append _ fun _ _ => .cons (by decide) _).prepend _
      exact (((determines none).pair second fun _ _ _ => .cons (by decide) _).prepend _).prepend _
  | some depth =>
      have second : Text.Determines EndsNumber
          (fun value => (',' :: '\n' :: indentation (depth + 1)) ++
            (dump' value).expanded (depth + 1) ++
              (',' :: '\n' :: (indentation depth ++ "\x7d".toList))) value' :=
        ((determines' (some (depth + 1))).prepend _).append _ fun _ _ => .cons (by decide) _
      simp only [laid, Dump.record, enclose_two]
      exact ((determines (some (depth + 1))).pair second fun _ _ _ => .cons (by decide) _).prepend _

/-- A sequence of trees, none of which could be taken for its closing bracket. -/
theorem sequence (determines : ∀ value, Determines dump value)
    (starts : ∀ value, ∃ c, c ≠ ']' ∧ (dump value).StartsWith c) (values : List α) :
    Determines (fun values => Dump.sequence (values.map dump)) values := by
  intro layout
  cases layout with
  | none =>
      refine .separated "[".toList ", ".toList "]".toList (fun value => determines value none)
        ?written (fun _ => .cons (by decide) _) (fun _ => .cons (by decide) _) ?apart ?filled values
      case written =>
        intro value values
        simp [laid, Dump.sequence, row_cons, List.flatMap_map]
      case apart =>
        intro rest rest' same
        exact absurd (List.cons.inj same).1 (by decide)
      case filled =>
        intro value values rest rest' same
        obtain ⟨c, other, started⟩ := starts value
        obtain ⟨following, written⟩ := started none
        simp only [laid] at written
        simp [laid, Dump.sequence, Dump.row, written] at same
        exact other same.1.symm
  | some depth =>
      refine .separated ('[' :: '\n' :: indentation (depth + 1))
        (",\n".toList ++ indentation (depth + 1))
        (",\n".toList ++ (indentation depth ++ "]".toList))
        (fun value => determines value (some (depth + 1)))
        ?written (fun _ => .cons (by decide) _) (fun _ => .cons (by decide) _) ?apart ?filled values
      case written =>
        intro value values
        simp [laid, Dump.sequence, enclose, lines_cons, indentation, List.flatMap_map]
      case apart =>
        -- Behind the same indentation there is one level more, or the bracket.
        intro rest rest' same
        simp only [List.append_assoc, indentation_succ] at same
        have marks := List.append_cancel_left (List.append_cancel_left same)
        exact absurd (List.cons.inj marks).1 (by decide)
      case filled =>
        intro value values rest rest' same
        simp [laid, Dump.sequence, enclose] at same

theorem text (content : Text) : Determines Dump.text content := by
  intro layout
  have same (content : Text) : (Dump.text content).laid layout = content.quoted := by
    cases layout <;> rfl
  simp only [same]
  exact Text.determines_quoted EndsNumber content

theorem int (value : Int) : Determines Dump.int value := by
  intro layout
  have nonneg (n : Nat) : (Dump.int (.ofNat n)).laid layout = Text.decimal n := by
    cases layout <;> rfl
  have neg (n : Nat) : (Dump.int (.negSucc n)).laid layout = '-' :: Text.decimal (n + 1) := by
    cases layout <;> rfl
  intro other rest rest' ends ends' same
  cases value with
  | ofNat n =>
      cases other with
      | ofNat m =>
          simp only [nonneg] at same
          obtain ⟨rfl, left⟩ := Text.determines_decimal n ends ends' same
          exact ⟨rfl, left⟩
      | negSucc m =>
          simp only [nonneg, neg] at same
          exact absurd same (Text.decimal_append_ne n (by decide) _ _)
  | negSucc n =>
      cases other with
      | ofNat m =>
          simp only [nonneg, neg] at same
          exact absurd same.symm (Text.decimal_append_ne m (by decide) _ _)
      | negSucc m =>
          simp only [neg, List.cons_append] at same
          obtain ⟨told, left⟩ := Text.determines_decimal (n + 1) ends ends' (List.cons.inj same).2
          exact ⟨congrArg Int.negSucc (Nat.succ.inj told), left⟩

/-- A value in one of the forms of its type, if the trees of the other forms begin with other
letters. -/
theorem of_form {initial : α → Char} (starts : ∀ value, (dump value).StartsWith (initial value))
    (form : β → α) (value' : β)
    (apart : ∀ other, initial (form value') = initial other → ∃ value, form value = other)
    (determines : Determines (fun value => dump (form value)) value') :
    Determines dump (form value') := by
  intro layout other rest rest' ends ends' same
  obtain ⟨following, written⟩ := starts (form value') layout
  obtain ⟨following', written'⟩ := starts other layout
  have letters : initial (form value') = initial other := by
    simp only [written, written', List.cons_append] at same
    exact (List.cons.inj same).1
  obtain ⟨value, rfl⟩ := apart other letters
  obtain ⟨rfl, left⟩ := determines layout ends ends' same
  exact ⟨rfl, left⟩

end Determines

end Dump

open Dump (Determines)

theorem Entry.determines_dump (entry : Entry) : Determines dump entry :=
  .comap (fun entry : Entry => (entry.name, entry.value))
    (((Determines.text entry.name).labelled "name".toList).record_two
      ((Determines.int entry.value).labelled "value".toList) "VarDecl".toList)
    fun other same => by cases entry; cases other; cases same; rfl

theorem Entry.startsWith_dump (entry : Entry) : entry.dump.StartsWith 'V' :=
  Dump.startsWith_record 'V' _ _

theorem determines_entries (entries : List Entry) :
    Determines (fun entries => Dump.sequence (entries.map Entry.dump)) entries :=
  .sequence Entry.determines_dump (fun entry => ⟨'V', by decide, entry.startsWith_dump⟩) entries

/-- The first letter of the tree of a declaration. -/
def Decl.initial : Decl → Char
  | .global _ => 'G'
  | .constant _ => 'C'

theorem Decl.startsWith_dump (decl : Decl) : decl.dump.StartsWith decl.initial := by
  cases decl with
  | global entries => exact Dump.startsWith_wrapped _ _ _
  | constant entries => exact Dump.startsWith_wrapped _ _ _

theorem Decl.determines_dump (decl : Decl) : Determines dump decl := by
  cases decl with
  | global entries =>
      refine .of_form startsWith_dump Decl.global entries ?_
        ((((determines_entries entries).labelled _).record _).wrapped _)
      intro other letters
      cases other with
      | global entries => exact ⟨entries, rfl⟩
      | constant entries => simp [initial] at letters
  | constant entries =>
      refine .of_form startsWith_dump Decl.constant entries ?_
        ((((determines_entries entries).labelled _).record _).wrapped _)
      intro other letters
      cases other with
      | global entries => simp [initial] at letters
      | constant entries => exact ⟨entries, rfl⟩

theorem Expr.startsWith_dump (expr : Expr) : expr.dump.StartsWith 'C' := by
  cases expr with
  | const value => exact Dump.startsWith_wrapped _ _ _

theorem Expr.determines_dump (expr : Expr) : Determines dump expr := by
  cases expr with
  | const value =>
      refine .of_form startsWith_dump Expr.const value ?_
        ((((Determines.int value).labelled _).record _).wrapped _)
      rintro ⟨other⟩ _
      exact ⟨other, rfl⟩

theorem determines_nameDump (name : Text) : Determines nameDump name :=
  ((Determines.text name).labelled _).record _

theorem determines_names (names : List Text) :
    Determines (fun names => Dump.sequence (names.map nameDump)) names :=
  .sequence determines_nameDump (fun _ => ⟨'N', by decide, Dump.startsWith_record _ _ _⟩) names

theorem determines_values (values : List Expr) :
    Determines (fun values => Dump.sequence (values.map Expr.dump)) values :=
  .sequence Expr.determines_dump (fun value => ⟨'C', by decide, value.startsWith_dump⟩) values

/-- The first letter of the tree of a definition. -/
def Def.initial : Def → Char
  | .simple .. => 'S'
  | .vec .. => 'V'
  | .both .. => 'A'

theorem Def.startsWith_dump (definition : Def) :
    definition.dump.StartsWith definition.initial := by
  cases definition with
  | simple names values => exact Dump.startsWith_wrapped _ _ _
  | vec name size => exact Dump.startsWith_wrapped _ _ _
  | both left right => exact Dump.startsWith_wrapped _ _ _

theorem Def.determines_dump (definition : Def) : Determines dump definition := by
  -- The induction is on one of two definitions with the same tree. That the other one has the same
  -- form shows in the first letter.
  induction definition with
  | simple names values =>
      have nameList := ((determines_names names).labelled "names".toList).record "NameList".toList
      have exprList := ((determines_values values).labelled "exprs".toList).record "ExprList".toList
      have parts := (nameList.labelled "names".toList).record_two (exprList.labelled "exprs".toList)
        "SimpleDef".toList
      refine .of_form startsWith_dump (fun parts : List Text × List Expr =>
        Def.simple parts.1 parts.2) (names, values) ?_ ?_
      · intro other letters
        cases other with
        | simple names values => exact ⟨(names, values), rfl⟩
        | vec name size => simp [initial] at letters
        | both left right => simp [initial] at letters
      · simp only [dump]
        exact parts.wrapped "Simple".toList
  | vec name size =>
      have parts := ((Determines.text name).labelled "name".toList).record_two
        (size.determines_dump.labelled "size".toList) "VecDef".toList
      refine .of_form startsWith_dump (fun parts : Text × Expr => Def.vec parts.1 parts.2)
        (name, size) ?_ ?_
      · intro other letters
        cases other with
        | simple names values => simp [initial] at letters
        | vec name size => exact ⟨(name, size), rfl⟩
        | both left right => simp [initial] at letters
      · simp only [dump]
        exact parts.wrapped "Vec".toList
  | both left right leftIH rightIH =>
      have parts := (leftIH.labelled "left".toList).record_two (rightIH.labelled "right".toList)
        "AndDef".toList
      refine .of_form startsWith_dump (fun parts : Def × Def => Def.both parts.1 parts.2)
        (left, right) ?_ ?_
      · intro other letters
        cases other with
        | simple names values => simp [initial] at letters
        | vec name size => simp [initial] at letters
        | both left right => exact ⟨(left, right), rfl⟩
      · simp only [dump]
        exact parts.wrapped "And".toList

theorem Program.determines_dump (program : Program) : Determines dump program := by
  have decls := Determines.sequence Decl.determines_dump
    (fun decl => ⟨_, by cases decl <;> simp [Decl.initial], decl.startsWith_dump⟩) program.decls
  have defs := Determines.sequence Def.determines_dump
    (fun definition => ⟨_, by cases definition <;> simp [Def.initial], definition.startsWith_dump⟩)
    program.defs
  refine .comap (fun program : Program => (program.decls, program.defs))
    ((decls.labelled "decls".toList).record_two (defs.labelled "defs".toList) "Program".toList) ?_
  intro other same
  cases program
  cases other
  cases same
  rfl

/-- Two programs with the same dump are the same, in whichever layout they are written. -/
theorem Program.laid_dump_injective (layout : Option Nat) :
    Function.Injective fun program : Program => program.dump.laid layout := by
  intro program other same
  exact (program.determines_dump layout .nil .nil (congrArg (· ++ []) same)).1

namespace Session

/-- The printed tree determines the program. When two texts are parsed, in whichever sessions, the
same is written for both only if their programs are the same, and so it is with the layout on one
line. -/
theorem printed_tree_determines_program {first second : Source} {program other : Program}
    (parsed : parse first.text = .ok program) (parsed' : parse second.text = .ok other)
    (session session' : Session) :
    ((session.perform .parse first none).1.written =
        (session'.perform .parse second none).1.written ↔ program = other) ∧
      (program.dump.compact = other.dump.compact ↔ program = other) := by
  have written : (session.perform .parse first none).1.written =
      (program.dump.expanded 0 ++ "\n".toList).bytes := session.written_of_parsed parsed
  have written' : (session'.perform .parse second none).1.written =
      (other.dump.expanded 0 ++ "\n".toList).bytes := session'.written_of_parsed parsed'
  constructor
  · rw [written, written', Text.bytes_injective.eq_iff, List.append_left_inj]
    exact (Program.laid_dump_injective (some 0)).eq_iff
  · exact (Program.laid_dump_injective none).eq_iff

/-- The names of the first program and those of the second one are the same, but not how they are
defined. -/
theorem printed_tree_determines_program_joined :
    let first := Source.inline "first".toList "let A, B = 1, 2 and V = vec 3".toList
    let second := Source.inline "second".toList "let A = 1 and B = 2 and V = vec 3".toList
    let one : Program := ⟨[], [.both (.simple ["A".toList, "B".toList] [.const 1, .const 2])
      (.vec "V".toList (.const 3))]⟩
    let other : Program := ⟨[], [.both (.both (.simple ["A".toList] [.const 1])
      (.simple ["B".toList] [.const 2])) (.vec "V".toList (.const 3))]⟩
    (parse first.text = .ok one ∧ parse second.text = .ok other) ∧
      (({} : Session).perform .parse first none).1.written ≠
        (({} : Session).perform .parse second none).1.written ∧
      one.dump.compact ≠ other.dump.compact := by
  intro first second one other
  have parsed : parse first.text = .ok one := by decide +kernel
  have parsed' : parse second.text = .ok other := by decide +kernel
  have apart : one ≠ other := by decide
  have determined := printed_tree_determines_program parsed parsed' {} {}
  exact ⟨⟨parsed, parsed'⟩, mt determined.1.mp apart, mt determined.2.mp apart⟩

end Session

end Bcpl
