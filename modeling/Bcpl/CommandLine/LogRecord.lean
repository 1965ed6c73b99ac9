import Bcpl.CommandLine.LogFilter
import Bcpl.Compiler

/-!
Log lines. What a command tells about its course is written with a level and a target; the fields
of a line follow its message.
-/

namespace Bcpl

structure LogField where
  name : Text
  value : Text
deriving DecidableEq, Repr, Inhabited

structure LogRecord where
  level : LogLevel
  target : Text
  message : Text
  fields : List LogField
deriving DecidableEq, Repr, Inhabited

namespace LogRecord

def line (record : LogRecord) : Text :=
  Text.alignRight 5 record.level.name ++ " ".toList ++ record.target ++ ": ".toList
    ++ record.message
    ++ record.fields.flatMap (fun field => " ".toList ++ field.name ++ "=".toList ++ field.value)
    ++ "\n".toList

/-- The names of the fields of a record. The message is one of them. -/
def fieldNames (record : LogRecord) : List Text :=
  "message".toList :: record.fields.map LogField.name

end LogRecord

def Event.record : Event → LogRecord
  | .inserted token before =>
      ⟨.trace, "bcpl_frontend::lexer".toList, "inserting token".toList,
        [⟨"inserted".toList, token.kind.description⟩, ⟨"before".toList, before.text.quoted⟩,
          ⟨"at".toList, Text.decimal before.span.start⟩]⟩
  | .namesIgnored name ignored =>
      ⟨.warn, "bcpl_frontend::parser".toList,
        "vector definition binds only its first name".toList,
        [⟨"name".toList, name.quoted⟩, ⟨"ignored".toList, Text.decimal ignored⟩]⟩
  | .declaration decl =>
      ⟨.debug, "bcpl_frontend::parser".toList, "parsed declaration".toList,
        [⟨"decl".toList, decl.dump.compact⟩]⟩
  | .definition bound =>
      ⟨.debug, "bcpl_frontend::parser".toList, "parsed definition".toList,
        [⟨"def".toList, bound.dump.compact⟩]⟩

def Notice.record : Notice → LogRecord
  | .reading path =>
      ⟨.debug, "bcplc::cli".toList, "reading source file".toList, [⟨"path".toList, path⟩]⟩
  | .lexing name =>
      ⟨.debug, "bcplc::compiler".toList, "lexing".toList, [⟨"name".toList, name⟩]⟩
  | .parsing name =>
      ⟨.debug, "bcplc::compiler".toList, "parsing".toList, [⟨"name".toList, name⟩]⟩
  | .event happening => happening.record
  | .parsed decls defs =>
      ⟨.info, "bcplc::compiler".toList, "parsed program".toList,
        [⟨"decls".toList, Text.decimal decls⟩, ⟨"defs".toList, Text.decimal defs⟩]⟩

def LogFilter.passes (filter : LogFilter) (record : LogRecord) : Bool :=
  filter.allows record.level record.target record.fieldNames

def LogFilter.lines (filter : LogFilter) (records : List LogRecord) : Text :=
  (records.filter filter.passes).flatMap LogRecord.line

end Bcpl
