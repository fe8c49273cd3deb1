import Enrolment.Settings.Environment
import Enrolment.Text.Alphanumeric
import Enrolment.Text.Split

/-!
Log filters: directives with commas between them. A directive is a level, or a target, a span in
brackets with fields in braces, or both, behind which a level may stand. A field may have a pattern
to match; patterns are the business of a library, and so what is wrong with a field has to be
given.
-/

namespace Enrolment

/-- What is wrong with a directive of a log filter. -/
inductive LogFilterProblem where
  | form
  | field (reason : String)
  | level
  deriving DecidableEq, Repr

def LogFilterProblem.message : LogFilterProblem → String
  | form => "invalid filter directive"
  | field reason => "invalid field filter: " ++ reason
  | level =>
      "error parsing level filter: expected one of \"off\", \"error\", \"warn\", \"info\", " ++
        "\"debug\", \"trace\", or a number 0-5"

namespace LogFilter

/-- Whether a text names a level; none does so too. -/
def isLevel (cs : List Char) : Bool :=
  let word := String.ofList (cs.map Char.toLower)
  ["", "off", "error", "warn", "info", "debug", "trace"].contains word ||
    match readNumber cs with
    | .ok n => n ≤ 5
    | .error _ => false

inductive Ending where
  | bare
  | level (length : Nat)
  deriving DecidableEq, Repr

def ofLevel : List Char → Except LogFilterProblem Ending
  | [] => .ok .bare
  | '=' :: cs => .ok (.level cs.length)
  | _ => .error .form

section

variable (fieldProblem? : List Char → Option String)

/-- The field is looked at before what stands behind it. -/
def ofFields (cs : List Char) : Except LogFilterProblem Ending :=
  match Text.cutAt '\x7d' cs with
  | (field@(_ :: _), some cs) =>
      match fieldProblem? field, cs with
      | some reason, _ => .error (.field reason)
      | none, ']' :: cs => ofLevel cs
      | none, _ => .error .form
  | _ => .error .form

def ofSpan : List Char → Except LogFilterProblem Ending
  | [] => .error .form
  | ']' :: cs => ofLevel cs
  | '\x7b' :: cs => ofFields fieldProblem? cs
  | _ :: cs => ofSpan cs

def ofTarget : List Char → Except LogFilterProblem Ending
  | [] => .ok .bare
  | '=' :: cs => .ok (.level cs.length)
  | '[' :: cs => ofSpan fieldProblem? cs
  | _ :: cs => ofTarget cs

def ending : List Char → Except LogFilterProblem Ending
  | [] => .error .form
  | '[' :: cs => ofSpan fieldProblem? cs
  | c :: cs =>
      if c = '-' || c = ':' || c = '_' || Text.alphanumeric.contains c then
        ofTarget fieldProblem? cs
      else
        .error .form

/-- What is wrong with one directive. Blanks around it do not count, but those behind it are part of
its level; and blanks in front shift where the level is looked for. -/
def directiveProblem? (cs : List Char) : Option LogFilterProblem :=
  let body := Text.trim cs
  match ending fieldProblem? body with
  | .error problem => some problem
  | .ok .bare => none
  | .ok (.level length) =>
      if isLevel (cs.drop (body.length - length)) then none else some .level

def problem? (text : String) : Option LogFilterProblem :=
  ((Text.splitOn ',' text.toList).filter (· ≠ [])).findSome? (directiveProblem? fieldProblem?)

end

/-- What is wrong with a log filter as far as it can be seen without reading patterns. -/
def problemWithoutPatterns? (text : String) : Option String :=
  (problem? (fun _ => none) text).map LogFilterProblem.message

end LogFilter
end Enrolment
