import Bcpl.Proofs.Lexing.Keywords
import Bcpl.Proofs.Lexing.Symbols

/-!
The kinds of tokens and their names. Every kind has a name of letters, and no two have the same one.
-/

namespace Bcpl.Kind

theorem mem_all (kind : Kind) : kind ∈ all := by
  cases kind with
  | symbol mark => simp [all, mark.mem_all]
  | keyword word => simp [all, word.mem_all]
  | _ => simp [all]

theorem isAlpha_of_mem_label {kind : Kind} {c : Char} (member : c ∈ kind.label) :
    c.isAlpha = true := by
  have letters : kind.label.all Char.isAlpha = true := by
    cases kind with
    | symbol mark => cases mark <;> decide
    | keyword word => cases word <;> decide
    | illegal | eof | comment | name | number | stringConst => decide
  exact List.all_eq_true.mp letters c member

theorem label_injective : Function.Injective label := by
  have distinct : (all.map label).Nodup := by decide
  intro first second same
  exact List.inj_on_of_nodup_map distinct (mem_all first) (mem_all second) same

end Bcpl.Kind
