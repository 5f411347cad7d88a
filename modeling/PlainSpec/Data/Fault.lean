import PlainSpec.Number.CalendarDate
import PlainSpec.Number.Integer
import PlainSpec.Number.Binary64

/-!
# Faults in written data

Written data may be malformed, or well formed and still spell a scalar that there is not.
-/

namespace PlainSpec

/-- Why a text **spells no data**. -/
inductive DataFault
  | malformed
  | nestedTooDeep
  | notInteger (base : Nat) (digits : Text)
  | tooManyDigits (count : Nat)
  | notReal (digits : Text)
  | noDigits
  | notTruth (word : Text)
  | notMoment
  | date (fault : DateFault)
  | timeOfDay (part : Text) (last : Nat)
  | offset (span : Text)
  | noCharacter
  deriving DecidableEq, Repr

/-- What a fault **says**. -/
def DataFault.message : DataFault → Text
  | notInteger base digits => noIntegerMessage base digits
  | tooManyDigits count => tooLongMessage count
  | notReal digits => Binary64.noNumberMessage digits
  | notTruth word => Text.quoted word
  | date fault => fault.message
  | timeOfDay part last => part ++ " must be in 0.." ++ Text.ofNat last
  | offset span =>
    "offset must be a timedelta strictly between -timedelta(hours=24) and timedelta(hours=24), not " ++
      span ++ "."
  | noCharacter => "chr() arg not in range(0x110000)"
  | malformed | nestedTooDeep | noDigits | notMoment => []

end PlainSpec
