import SourceHarvest.FileTree.Basic

/-!
# Failures

A failure is a chain of causes: the root cause, and around it what was being done
when it arose.  Some causes are known by their type, others only by their words.
-/

namespace SourceHarvest

/-- One cause in the chain of a failure. -/
inductive Cause where
  /-- A setting that cannot be used. -/
  | configuration (detail : String)
  /-- Windows that would not advance. -/
  | invalidSplit (greatestSize overlap : Nat)
  /-- No grammar for the extension of a file. -/
  | unsupportedExtension (extension : String)
  /-- A file with syntax errors in which no unit is left. -/
  | emptySyntaxTree (path : Path)
  /-- A variable of the environment that would get a value with a zero character in it. -/
  | unsettable (name : String)
  /-- The vector store cannot be used at all. -/
  | storeUnavailable (detail : String)
  /-- The file tree refused an operation. -/
  | file (error : FileError)
  /-- What stood in the way of a request over HTTP. -/
  | exchange (words : String)
  /-- What is known by its words alone. -/
  | message (text : String)
deriving DecidableEq, Repr

namespace Cause

/-- The words for a cause. -/
def text : Cause → String
  | configuration detail => "configuration error: " ++ detail
  | invalidSplit greatestSize overlap =>
      s!"invalid split window: overlap {overlap} must be smaller than max size {greatestSize}"
  | unsupportedExtension extension => s!"no grammar registered for extension '{extension}'"
  | emptySyntaxTree path => "syntax errors left no extractable units in " ++ path.text
  | unsettable name => "failed to set environment variable " ++ name
  | storeUnavailable detail => "vector store unavailable: " ++ detail
  | file error => error.message
  | exchange words => words
  | message text => text

/-- The cause is one of the core's own, known by its type. -/
def isTyped : Cause → Bool
  | unsettable _ => false
  | file _ => false
  | exchange _ => false
  | message _ => false
  | _ => true

end Cause

/-- A chain of causes, outermost first. -/
structure Failure where
  outermost : Cause
  inner : List Cause
deriving DecidableEq, Repr

namespace Failure

/-- A failure with a single cause. -/
def ofCause (cause : Cause) : Failure := ⟨cause, []⟩

/-- A failure known by its words. -/
def ofMessage (text : String) : Failure := ofCause (.message text)

/-- The failure of an operation on a file tree. -/
def ofFile (error : FileError) : Failure := ofCause (.file error)

/-- All causes, outermost first. -/
def causes (failure : Failure) : List Cause :=
  failure.outermost :: failure.inner

/-- The failure with a further cause around it. -/
def within (failure : Failure) (cause : Cause) : Failure :=
  ⟨cause, failure.causes⟩

/-- The failure with words around it. -/
def context (failure : Failure) (text : String) : Failure :=
  failure.within (.message text)

/-- The words of all causes, outermost first. -/
def text (failure : Failure) : String :=
  ": ".intercalate (failure.causes.map Cause.text)

/-- The outermost cause that is known by its type. -/
def typed? (failure : Failure) : Option Cause :=
  failure.causes.find? Cause.isTyped

theorem causes_context (failure : Failure) (text : String) :
    (failure.context text).causes = .message text :: failure.causes :=
  rfl

/-- Words around a failure leave its outermost typed cause as it is. -/
theorem typed?_context (failure : Failure) (text : String) :
    (failure.context text).typed? = failure.typed? := by
  simp [typed?, causes_context, Cause.isTyped]

/-- Say around the failure of a result what was being done. -/
def during {α : Type} (text : String) (result : Except Failure α) : Except Failure α :=
  result.mapError (·.context text)

/-- The result of an operation on a file tree, with its failure as a chain. -/
def ofFileResult {α : Type} (result : Except FileError α) : Except Failure α :=
  result.mapError ofFile

end Failure

end SourceHarvest
