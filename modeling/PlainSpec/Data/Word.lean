import PlainSpec.Data.Basic
import PlainSpec.Data.Fault

/-!
# Words among data

A word without quotation marks is nothing, a truth value, a number, a point in time or a text; which of
them is read off its spelling. Two words have a meaning of their own as keys: one merges other mappings into
the one that it stands in.
-/

namespace PlainSpec

/-- What **kind** of scalar a word spells. -/
inductive WordKind
  | null
  | bool
  | int
  | real
  | moment
  | text
  | merge
  | default
  deriving DecidableEq, Repr

namespace Scalar

/-! ### Truth values -/

/-- The words for **nothing**. -/
def nullWords : List Text := ["", "~", "null", "Null", "NULL"]

/-- The words for **true**, in lower case. -/
def trueWords : List Text := ["yes", "true", "on"]

/-- The words for **false**, in lower case. -/
def falseWords : List Text := ["no", "false", "off"]

/-- A word in **lower case**, if it is written in lower case, in upper case or with a capital. -/
def uniformCase? (word : Text) : Option Text :=
  let low := word.map Char.toLower
  let capital := low.take 1 |>.map Char.toUpper
  if word == low || word == low.map Char.toUpper || word == capital ++ low.drop 1 then some low else none

/-- Whether a word spells a **truth value**. -/
def spellsTruth (word : Text) : Bool :=
  (uniformCase? word).elim false fun low => (trueWords ++ falseWords).contains low

/-- The **truth value** that a word in any case spells. -/
def readTruth (word : Text) : Except DataFault Scalar :=
  let low := word.map Char.toLower
  if trueWords.contains low then .ok (bool true)
  else if falseWords.contains low then .ok (bool false)
  else .error (.notTruth low)

/-! ### Integers -/

/-- Whether a character is a decimal digit or an **underscore**, which may stand among the digits of
numbers. -/
def isSpacedDigit (c : Char) : Bool := c.isDigit || c == '_'

/-- Whether a text is a number **below sixty** of one or two digits. -/
def isSixtieth : Text → Bool
  | [d] => d.isDigit
  | [t, d] => ['0', '1', '2', '3', '4', '5'].contains t && d.isDigit
  | _ => false

/-- Whether a text is one of digits that **begin with a digit**. -/
def isSpacedNumber : Text → Bool
  | d :: rest => d.isDigit && rest.all isSpacedDigit
  | [] => false

/-- Whether a word spells an **integer**: binary, octal behind a zero, hexadecimal, decimal, or in sixtieths
between colons. -/
def spellsInteger (word : Text) : Bool :=
  match (takeSign word).2 with
  | '0' :: 'b' :: digits => !digits.isEmpty && digits.all fun c => c == '0' || c == '1' || c == '_'
  | '0' :: 'x' :: digits => !digits.isEmpty && digits.all fun c => isHexDigit c || c == '_'
  | '0' :: digits => digits.all fun c => (48 ≤ c.toNat && c.toNat < 56) || c == '_'
  | digits =>
    match Text.splitOn (· == ':') digits with
    | whole :: sixtieths => isSpacedNumber whole && sixtieths.all isSixtieth
    | [] => false

/-- The natural number that digits to a **base** denote. -/
def readBase (base : Nat) (digits : Text) : Except DataFault Nat :=
  if digits.isEmpty || !digits.all fun c => isHexDigit c && digitValue c < base then
    .error (.notInteger base digits)
  else .ok (digits.foldl (fun n c => base * n + digitValue c) 0)

/-- The integer that **decimal digits** denote. -/
def readDecimal (digits : Text) : Except DataFault Int :=
  match readInteger digits with
  | .ok n => .ok n
  | .error .malformed => .error (.notInteger 10 digits)
  | .error (.tooLong count) => .error (.tooManyDigits count)

/-- The **integer** that a word spells. -/
def readWhole (word : Text) : Except DataFault Scalar := do
  let (negative, digits) := takeSign (word.filter (· != '_'))
  let size : Int ← match digits with
    | [] => .error .noDigits
    | ['0'] => .ok 0
    | '0' :: 'b' :: rest => (readBase 2 rest).map Int.ofNat
    | '0' :: 'x' :: rest => (readBase 16 rest).map Int.ofNat
    | '0' :: _ => (readBase 8 digits).map Int.ofNat
    | _ => do
      let parts ← (Text.splitOn (· == ':') digits).mapM readDecimal
      .ok (parts.foldl (fun n part => 60 * n + part) 0)
  return int (if negative then -size else size)

/-! ### Numbers with places -/

/-- Whether a text is the **exponent** of a number with places, which has a sign, or is empty. -/
def isExponent : Text → Bool
  | [] => true
  | e :: sign :: digits =>
    (e == 'e' || e == 'E') && (sign == '+' || sign == '-') && !digits.isEmpty && digits.all Char.isDigit
  | _ => false

/-- Whether a text is the **places** behind a point, and an exponent. -/
def arePlaces (t : Text) : Bool := isExponent (t.dropWhile isSpacedDigit)

/-- Whether a text is a number in **sixtieths** of which the last one has places. -/
def isSixtiethReal (t : Text) : Bool :=
  match Text.splitOn (· == '.') t with
  | [parts, places] =>
    match Text.splitOn (· == ':') parts with
    | whole :: sixtieth :: rest =>
      isSpacedNumber whole && (sixtieth :: rest).all isSixtieth && places.all isSpacedDigit
    | _ => false
  | _ => false

/-- The spellings of **infinity**, behind a point. -/
def infinityWords : List Text := [".inf", ".Inf", ".INF"]

/-- The spellings of what is **not a number**, behind a point. -/
def notANumberWords : List Text := [".nan", ".NaN", ".NAN"]

/-- Whether a word spells a **number with places**. Without digits before the point it has no sign. -/
def spellsReal (word : Text) : Bool :=
  let unsigned := (takeSign word).2
  let whole := unsigned.takeWhile isSpacedDigit
  (match unsigned.drop whole.length with
   | '.' :: places => isSpacedNumber whole && arePlaces places
   | _ => false) ||
  (match word with
   | '.' :: d :: places => d.isDigit && arePlaces places
   | _ => false) ||
  isSixtiethReal unsigned || infinityWords.contains unsigned || notANumberWords.contains word

/-- The **double** that unsigned digits denote. -/
def readDouble (digits : Text) : Except DataFault UInt64 :=
  match Binary64.read? digits with
  | some bits => .ok bits
  | none => .error (.notReal digits)

/-- The double of parts that count by **powers of sixty**, the last part first; every sum and product is
rounded. -/
def sumOfSixtieths : Nat → Float → List UInt64 → Float
  | _, sum, [] => sum
  | unit, sum, part :: rest =>
    sumOfSixtieths (60 * unit) (sum + Float.ofBits part * Float.ofNat unit) rest

/-- The **number with places** that a word spells. -/
def readFraction (word : Text) : Except DataFault Scalar := do
  let low := (word.filter (· != '_')).map Char.toLower
  if low.isEmpty then .error .noDigits
  let (negative, digits) := takeSign low
  let size : UInt64 ←
    if digits == ".inf" then .ok (UInt64.ofNat Binary64.infinity)
    else if digits == ".nan" then .ok Binary64.notANumber
    else if digits.contains ':' then do
      let parts ← (Text.splitOn (· == ':') digits).mapM readDouble
      .ok (sumOfSixtieths 1 0 parts.reverse).toBits
    else readDouble digits
  return real (if negative && digits != ".nan" then size ^^^ 0x8000000000000000 else size)

/-! ### Points in time -/

/-- The **digits** in front, from `least` up to `most` of them, as a number; and what follows them. -/
def leadingNumber? (least most : Nat) (t : Text) : Option (Nat × Text) :=
  let digits := (t.take most).takeWhile Char.isDigit
  if digits.length < least then none
  else some (digits.foldl (fun n c => 10 * n + digitValue c) 0, t.drop digits.length)

/-- What follows a **character** in front, if it is there. -/
def past? (c : Char) : Text → Option Text
  | d :: rest => if c = d then some rest else none
  | [] => none

/-- Whether a character is a **space or a tab**. -/
def isSpace (c : Char) : Bool := c == ' ' || c == '\t'

/-- A **clock's offset** from universal time in minutes, which is the rest of a text; none if nothing is
left. -/
def readOffset? (t : Text) : Option (Option Int) :=
  match t.dropWhile isSpace with
  | [] => if t.isEmpty then some none else none
  | ['Z'] => some (some 0)
  | sign :: rest =>
    if sign != '+' && sign != '-' then none
    else do
      let (hours, rest) ← leadingNumber? 1 2 rest
      let minutes ← match rest with
        | [] => some 0
        | ':' :: rest =>
          match leadingNumber? 2 2 rest with
          | some (minutes, []) => some minutes
          | _ => none
        | _ => none
      let size : Int := 60 * hours + minutes
      return some (if sign = '-' then -size else size)

/-- The number of **microseconds** that digits behind a point denote. -/
def microseconds (places : Text) : Nat :=
  ((places ++ List.replicate 6 '0').take 6).foldl (fun n c => 10 * n + digitValue c) 0

/-- The **time of day** and the offset that are the rest of a text. -/
def readTime? (date : CalendarDate) (t : Text) : Option Moment := do
  let (hour, rest) ← leadingNumber? 1 2 t
  let rest ← past? ':' rest
  let (minute, rest) ← leadingNumber? 2 2 rest
  let rest ← past? ':' rest
  let (second, rest) ← leadingNumber? 2 2 rest
  let places := match rest with
    | '.' :: places => places.takeWhile Char.isDigit
    | _ => []
  let rest := match rest with
    | '.' :: places => places.dropWhile Char.isDigit
    | _ => rest
  let offset ← readOffset? rest
  return ⟨date, hour, minute, second, microseconds places, offset⟩

/-- The date, or the date and the time of day, that a word **spells**, be there such a day or not. -/
def timeParts? (word : Text) : Option (CalendarDate × Option Moment) := do
  let (year, rest) ← leadingNumber? 4 4 word
  let rest ← past? '-' rest
  let (month, rest) ← leadingNumber? 1 2 rest
  let rest ← past? '-' rest
  let (day, rest) ← leadingNumber? 1 2 rest
  let date : CalendarDate := ⟨year, month, day⟩
  match rest with
  | [] => return (date, none)
  | c :: time =>
    if c = 'T' || c = 't' then return (date, some (← readTime? date time))
    else if isSpace c then return (date, some (← readTime? date (time.dropWhile isSpace)))
    else none

/-- Whether a word spells a **point in time**; a date alone has two digits for the month and for the day. -/
def spellsTime (word : Text) : Bool :=
  match timeParts? word with
  | some (_, none) => word.length == 10
  | some (_, some _) => true
  | none => false

/-- Check the **time of day** of a moment. -/
def checkTime (m : Moment) : Except DataFault Moment :=
  if 23 < m.hour then .error (.timeOfDay "hour" 23)
  else if 59 < m.minute then .error (.timeOfDay "minute" 59)
  else if 59 < m.second then .error (.timeOfDay "second" 59)
  else .ok m

/-- The **point in time** that a word spells. -/
def readTime (word : Text) : Except DataFault Scalar :=
  match timeParts? word with
  | none => .error .notMoment
  | some (d, none) => ((CalendarDate.check d).mapError DataFault.date).map date
  | some (d, some m) =>
    if (m.offset.getD 0).natAbs ≥ 1440 then .error (.offset (Moment.spanText (m.offset.getD 0)))
    else ((CalendarDate.check d).mapError DataFault.date).bind fun _ => (checkTime m).map moment

end Scalar

namespace WordKind

/-- The **kind** of scalar that a word spells. -/
def ofWord (word : Text) : WordKind :=
  if Scalar.spellsTruth word then bool
  else if Scalar.spellsReal word then real
  else if Scalar.spellsInteger word then int
  else if word == "<<" then merge
  else if Scalar.nullWords.contains word then null
  else if Scalar.spellsTime word then moment
  else if word == "=" then default
  else text

/-- The kinds by their **names**. -/
def names : List (Text × WordKind) :=
  [("null", null), ("bool", bool), ("int", int), ("float", real), ("timestamp", moment), ("str", text),
   ("merge", merge), ("value", default)]

/-- The **scalar** of a kind that a word spells. The words with a meaning as keys spell none. -/
def read (kind : WordKind) (word : Text) : Except DataFault Scalar :=
  match kind with
  | null => .ok .null
  | bool => Scalar.readTruth word
  | int => Scalar.readWhole word
  | real => Scalar.readFraction word
  | moment => Scalar.readTime word
  | text => .ok (.text word)
  | merge | default => .error .malformed

end WordKind

end PlainSpec
