import RecordQuery.Text.Blank
import RecordQuery.Time.Format

/-!
# Reading spans and points in time from texts

A text is a point in time if it is written like one in a query, with blanks around it, or
if it has a `T` between the date and the time of day.  A text is a span if it is written
like one in a query or is a number of days, with a minus sign or without and with blanks
around it.  A point may also be read by a format that the reader brings along, which may
leave out the time of day.
-/

set_option autoImplicit false

namespace RecordQuery

open Text (digitsValue)

/-- Why a text is no span or point in time. -/
inductive ReadingFault where
  | noDateTime (text : String) (fault : FormatFault)
  | otherFormat (text format : String) (fault : FormatFault)
  | noTimeSpan (text : String)
deriving DecidableEq, Repr

/-- The text of a fault. -/
def ReadingFault.message : ReadingFault → String
  | .noDateTime text fault => "'" ++ text ++ "' is not a valid date time: " ++ fault.message
  | .otherFormat text format fault =>
    "'" ++ text ++ "' does not match format '" ++ format ++ "': " ++ fault.message
  | .noTimeSpan text => "'" ++ text ++ "' is not a valid time span"

namespace DateTime

/-- The formats with a `T`, with seconds and without. -/
def secondsFormat : List Char := "%Y-%m-%dT%H:%M:%S%.f".toList

@[inherit_doc secondsFormat]
def minutesFormat : List Char := "%Y-%m-%dT%H:%M".toList

/-- The point that a text writes in the way of queries, if that is all there is. -/
def ofNotation? (text : List Char) : Option DateTime :=
  match PointNotation.read? text with
  | some (point, []) => point.value.toOption
  | _ => none

/-- The point in time that a text writes.  Where it is none, the fault is that of the
format without seconds. -/
def ofText (text : String) : Except ReadingFault DateTime :=
  let trimmed := Text.trim text.toList
  match ofNotation? trimmed with
  | some point => .ok point
  | none =>
    match DateTime.ofFormat secondsFormat trimmed with
    | .ok point => .ok point
    | .error _ => (DateTime.ofFormat minutesFormat trimmed).mapError (.noDateTime text)

/-- The point in time that a text writes by a format; a format without a time of day gives
midnight.  Where it gives none, the fault is that of the attempt with a time of day. -/
def ofTextByFormat (text format : String) : Except ReadingFault DateTime :=
  match DateTime.ofFormat format.toList text.toList with
  | .ok point => .ok point
  | .error fault =>
    match Date.ofFormat format.toList text.toList with
    | .ok date => .ok ⟨date, .midnight⟩
    | .error _ => .error (.otherFormat text format fault)

end DateTime

namespace TimeSpan

/-- The span that a text writes without a sign: digits alone are days. -/
def ofUnsigned? (text : List Char) : Option TimeSpan :=
  if text ≠ [] ∧ text.all Char.isDigit then ofDays? (digitsValue text)
  else
    match SpanNotation.read? true text with
    | some (span, []) => span.value.toOption
    | _ => none

/-- The span that a text writes. -/
def ofText (text : String) : Except ReadingFault TimeSpan :=
  let span :=
    match Text.trim text.toList with
    | '-' :: digits => (ofUnsigned? digits).map negate
    | digits => ofUnsigned? digits
  span.elim (.error (.noTimeSpan text)) .ok

end TimeSpan

end RecordQuery
