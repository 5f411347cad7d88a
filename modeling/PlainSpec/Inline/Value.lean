import PlainSpec.Block.Basic
import PlainSpec.Inline.ParamType
import PlainSpec.Number.Binary64
import PlainSpec.Number.CalendarDate
import PlainSpec.Number.Decimal
import PlainSpec.Number.Integer

/-!
# Values

What step functions are called with: values read from the line of a step, and blocks.
-/

namespace PlainSpec

/-- A **value** of a parameter. A fraction is given by the bits of a double. -/
inductive Value
  | nothing
  | int (value : Int)
  | real (bits : UInt64)
  | decimal (value : Decimal)
  | bool (value : Bool)
  | text (value : Text)
  | date (value : CalendarDate)
  | member (name : Text)
  | block (block : Block)
  | record (record : Record)
  | records (records : List Record)
  deriving DecidableEq, Repr

/-- Why a text has **no value** of a type. -/
inductive ValueFault
  | notInteger (text : Text)
  | tooManyDigits (count : Nat)
  | notReal (text : Text)
  | notDate (text : Text)
  | yearOutOfRange (year : Nat)
  | monthOutOfRange
  | dayOutOfRange
  | notMember (text enumeration : Text)
  | noValueOf (text enumeration : Text)
  | notComplex
  deriving DecidableEq, Repr

/-- What a fault **says**. -/
def ValueFault.message : ValueFault → Text
  | notInteger text => noIntegerMessage 10 text
  | tooManyDigits count => tooLongMessage count
  | notReal text => Binary64.noNumberMessage text
  | notDate text => "Invalid isoformat string: " ++ Text.quoted text
  | yearOutOfRange year => DateFault.message (.year year)
  | monthOutOfRange => DateFault.message .month
  | dayOutOfRange => DateFault.message .day
  | notMember text enumeration => "'" ++ text ++ "' is not a member of " ++ enumeration
  | noValueOf text enumeration => Text.quoted text ++ " is not a valid " ++ enumeration
  | notComplex => "complex() arg is a malformed string"

/-- Why a **conversion** fails: the text has no value, it is no decimal number, or the type makes no
values of texts. -/
inductive ConversionFault
  | value (fault : ValueFault)
  | decimal
  | type
  deriving DecidableEq, Repr

namespace Value

/-- The **integer** that a text denotes. -/
def readInt (t : Text) : Except ConversionFault Value :=
  match readInteger t with
  | .ok n => .ok (int n)
  | .error .malformed => .error (.value (.notInteger t))
  | .error (.tooLong digits) => .error (.value (.tooManyDigits digits))

/-- The **double** that a text denotes. -/
def readReal (t : Text) : Except ConversionFault Value :=
  match Binary64.read? t with
  | some bits => .ok (real bits)
  | none => .error (.value (.notReal t))

/-- The **decimal number** that a text denotes. -/
def readDecimal (t : Text) : Except ConversionFault Value :=
  match Decimal.read? t with
  | some d => .ok (decimal d)
  | none => .error .decimal

/-- The **date** that a text denotes. -/
def readDate (t : Text) : Except ConversionFault Value :=
  match CalendarDate.read t with
  | .ok d => .ok (date d)
  | .error .malformed => .error (.value (.notDate t))
  | .error (.year y) => .error (.value (.yearOutOfRange y))
  | .error .month => .error (.value .monthOutOfRange)
  | .error .day => .error (.value .dayOutOfRange)

/-- The **text** that stands in matching quotation marks, or else the text as it is. -/
def readText (t : Text) : Value :=
  match t with
  | c :: rest =>
    if (c = '"' || c = '\'') && rest.getLast? = some c then text rest.dropLast else text t
  | [] => text t

end Value

end PlainSpec
