import PlainSpec.Data.Basic

/-!
# Printing data trees

A tree of data is printed line by line, what belongs to an item or an entry further to the right than the
line above it. Texts stand in double quotation marks.
-/

namespace PlainSpec

namespace Datum

/-- A scalar **on one line**. -/
def scalarText : Scalar → Text
  | .null => "null"
  | .bool b => if b then "true" else "false"
  | .int n => Text.ofInt n
  | .real bits => Binary64.toText bits
  | .text t => '"' :: t.flatMap (Text.quoteChar '"') ++ ['"']
  | .date d => d.toText
  | .moment m => m.toText

/-- A value without parts **on one line**. -/
def flatText : Datum → Text
  | scalar s => scalarText s
  | list _ => "[]"
  | mapping _ => ['\x7b', '\x7d']

/-- Whether a value takes **lines of its own**. -/
def isNested : Datum → Bool
  | list items => !items.isEmpty
  | mapping entries => !entries.isEmpty
  | _ => false

mutual

/-- The **lines** that spell a value. -/
def toLines : Datum → List Text
  | list (item :: items) => itemLines (item :: items)
  | mapping (entry :: entries) => entryLines (entry :: entries)
  | value => [flatText value]

/-- The lines of the **items** of a list. -/
def itemLines : List Datum → List Text
  | [] => []
  | item :: rest =>
    (match toLines item with
     | [] => []
     | first :: others => ("- " ++ first) :: others.map ("  " ++ ·)) ++ itemLines rest

/-- The lines of the **entries** of a mapping. -/
def entryLines : List (Scalar × Datum) → List Text
  | [] => []
  | (key, value) :: rest =>
    (if isNested value then (scalarText key ++ ":") :: (toLines value).map ("  " ++ ·)
     else [scalarText key ++ ": " ++ flatText value]) ++ entryLines rest

end

/-- A value **as a text**, line by line. -/
def toText (d : Datum) : Text := d.toLines.flatMap fun line => line ++ ['\n']

end Datum

end PlainSpec
