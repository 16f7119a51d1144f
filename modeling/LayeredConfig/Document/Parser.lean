import LayeredConfig.Conversion.Fault
import LayeredConfig.Value.Basic

/-!
# Parsers — what reads a document

A parser of a format gives the value of a document, or it fails. Most failures come to the same: the
document breaks the rules of its format. Apart from them a parser may meet a fault, for example where
the rules allow what has no value for want of range. Of a parser that is not part of the library no
more is known than is assumed of it.
-/

namespace LayeredConfig.Document

/-- Why a document gives no value. -/
inductive Failure where
  | malformed
  | fault (f : Fault)
  deriving DecidableEq, Repr

namespace Failure

/-- What is not there breaks the rules. -/
def ofOption {α : Type} : Option α → Except Failure α
  | some a => .ok a
  | none => .error .malformed

/-- The fault that is not taken for a bad document. Bad values are. -/
def fault? : Failure → Option Fault
  | .malformed => none
  | .fault f => if f.category = .value then none else some f

end Failure

/-- What gives the value of a document. -/
abbrev Parser : Type := List UInt8 → Except Failure Value

/-- All failures of a parser count as bad documents. -/
def Parser.BlamesDocuments (parse : Parser) : Prop :=
  ∀ bytes failure, parse bytes = .error failure → failure.fault? = none

end LayeredConfig.Document
