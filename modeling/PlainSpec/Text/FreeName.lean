import PlainSpec.Text.Basic

/-!
# Free names

Where a name is taken already, a number is put behind it: the smallest one from two on that makes it free.
-/

namespace PlainSpec

namespace Text

/-- The first of the names with a number, **counted from a number on**, that is not taken; after so many
attempts the next one is used as it is. -/
def firstFree (taken : List Text) (name : Nat → Text) : Nat → Nat → Text
  | 0, n => name n
  | attempts + 1, n => if taken.contains (name n) then firstFree taken name attempts (n + 1) else name n

/-- A name if it is **not taken**, or else the name with the smallest number behind it that is free. Among
as many numbers as there are names taken one must be free, as the name itself takes none. -/
def freeName (taken : List Text) (base separator : Text) : Text :=
  if taken.contains base then
    firstFree taken (fun n => base ++ separator ++ ofNat n) taken.length 2
  else base

end Text

end PlainSpec
