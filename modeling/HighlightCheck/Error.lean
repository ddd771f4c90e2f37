import HighlightCheck.Mismatch

/-!
# Errors

What an operation of the library gives instead of a result: a check failed, a text names no kind,
or the file system refused. An error has a text, and may have a cause with a text of its own.
-/

namespace HighlightCheck

/-- The ways in which the file system refuses. -/
inductive SystemErrorKind where
  | notFound
  | permissionDenied
  | alreadyExists
  | invalidInput
  | unexpectedEnd
  | other
  deriving DecidableEq, Repr

/-- What is said of a refusal that comes without a text. -/
def SystemErrorKind.text : SystemErrorKind → String
  | notFound => "entity not found"
  | permissionDenied => "permission denied"
  | alreadyExists => "entity already exists"
  | invalidInput => "invalid input parameter"
  | unexpectedEnd => "unexpected end of file"
  | other => "other error"

/-- A refusal of the file system, with a text if it came with one. -/
structure SystemError where
  kind : SystemErrorKind
  detail : Option String
  deriving DecidableEq, Repr

/-- The text of a refusal: its own, or that of its kind. -/
def SystemError.message (e : SystemError) : String :=
  e.detail.getD e.kind.text

/-- What an operation gives instead of a result. -/
inductive Error where
  | mismatch (failure : Mismatch)
  | unknownKind (unknown : UnknownKind)
  | system (refusal : SystemError)
  deriving DecidableEq, Repr

namespace Error

/-- The text of an error. That of a failed check is its report, which may not be writable. -/
def message : Error → Except Fault String
  | mismatch failure => failure.report
  | unknownKind unknown => .ok ("unknown token kind: " ++ unknown.name)
  | system refusal => .ok ("I/O error: " ++ refusal.message)

/-- The text of the cause, for an error that has one. -/
def cause : Error → Option (Except Fault String)
  | mismatch failure => some failure.report
  | unknownKind _ => none
  | system refusal => some (.ok refusal.message)

end Error

end HighlightCheck
