import PlainSpec.Entries
import PlainSpec.Number.Moment
import PlainSpec.Number.Shortest
import PlainSpec.Text.Quoted

/-!
# Data trees

Configuration files, language tables and the values of enumerations are trees of scalars, lists and
mappings. The keys of a mapping are scalars of any kind. Truth values count as the numbers one and zero, and
a number with places equals the integer of its value.
-/

namespace PlainSpec

/-- A **scalar**: a value without parts. A number with places is given by the bits of a double. -/
inductive Scalar
  | null
  | bool (value : Bool)
  | int (value : Int)
  | real (bits : UInt64)
  | text (value : Text)
  | date (value : CalendarDate)
  | moment (value : Moment)
  deriving Repr, Inhabited

namespace Scalar

/-- What **counts** when scalars are compared. -/
inductive Identity
  | null
  | whole (value : Int)
  | fraction (bits : UInt64)
  | text (value : Text)
  | date (value : CalendarDate)
  | moment (value : Moment)
  deriving DecidableEq, Repr

/-- The **identity** of a scalar: numbers that are equal have the same one. -/
def identity : Scalar → Identity
  | null => .null
  | bool b => .whole (if b then 1 else 0)
  | int n => .whole n
  | real bits =>
    match Binary64.integer? bits with
    | some n => .whole n
    | none => .fraction bits
  | text t => .text t
  | date d => .date d
  | moment m => .moment m

/-- Two scalars are **equal** if they have the same identity. -/
instance : BEq Scalar := ⟨fun a b => a.identity == b.identity⟩

instance : EquivBEq Scalar where
  rfl := beq_self_eq_true (α := Identity) _
  symm h := BEq.symm (α := Identity) h
  trans h₁ h₂ := BEq.trans (α := Identity) h₁ h₂

/-- The **text** that a scalar is, if it is one. -/
def text? : Scalar → Option Text
  | text t => some t
  | _ => none

/-- Whether a scalar **counts as true**: it is neither null nor false, zero or empty. -/
def isTruthy : Scalar → Bool
  | null => false
  | bool b => b
  | int n => n != 0
  | real bits => !Binary64.isZero bits
  | text t => !t.isEmpty
  | date _ | moment _ => true

/-- A scalar **inside another value**, texts in quotation marks. -/
def inner : Scalar → Text
  | null => "None"
  | bool true => "True"
  | bool false => "False"
  | int n => Text.ofInt n
  | real bits => Binary64.toText bits
  | text t => Text.quoted t
  | date d => d.inner
  | moment m => m.inner

/-- A scalar **as a text**; a text is itself. -/
def asText : Scalar → Text
  | text t => t
  | date d => d.toText
  | moment m => m.toText
  | s => inner s

end Scalar

/-- A **tree of data**. -/
inductive Datum
  | scalar (value : Scalar)
  | list (items : List Datum)
  | mapping (entries : List (Scalar × Datum))
  deriving Repr

/-- The entries of a **mapping**. -/
abbrev DataEntries := List (Scalar × Datum)

namespace Datum

/-- **Nothing** as data. -/
@[match_pattern] abbrev null : Datum := scalar .null

/-- A **truth value** as data. -/
@[match_pattern] abbrev bool (value : Bool) : Datum := scalar (.bool value)

/-- An **integer** as data. -/
@[match_pattern] abbrev int (value : Int) : Datum := scalar (.int value)

/-- A **text** as data. -/
@[match_pattern] abbrev text (value : Text) : Datum := scalar (.text value)

instance : Inhabited Datum := ⟨null⟩

/-- A mapping whose keys are **names**. -/
def record (entries : List (Text × Datum)) : Datum :=
  mapping (entries.map fun (name, value) => (.text name, value))

/-- The **entry** of a mapping under a name. -/
def entry? (name : Text) : Datum → Option Datum
  | mapping entries => entries.lookup (.text name)
  | _ => none

/-- Whether a value **counts as true**: it is neither null nor false, zero or empty. -/
def isTruthy : Datum → Bool
  | scalar s => s.isTruthy
  | list items => !items.isEmpty
  | mapping entries => !entries.isEmpty

mutual

/-- Whether two values are **equal**; the order of entries does not count. -/
def same : Datum → Datum → Bool
  | scalar a, scalar b => a == b
  | list as, list bs => sameItems as bs
  | mapping as, mapping bs => as.length == bs.length && sameEntries as bs
  | _, _ => false

/-- Whether two lists have **equal items**. -/
def sameItems : List Datum → List Datum → Bool
  | [], [] => true
  | a :: as, b :: bs => same a b && sameItems as bs
  | _, _ => false

/-- Whether every entry has an **equal one** among others. -/
def sameEntries : List (Scalar × Datum) → List (Scalar × Datum) → Bool
  | [], _ => true
  | (key, value) :: rest, others =>
    (match others.lookup key with
     | some other => same value other
     | none => false) && sameEntries rest others

end

mutual

/-- A value **inside another one**, texts in quotation marks. -/
def inner : Datum → Text
  | scalar s => s.inner
  | list items => "[" ++ innerItems items ++ "]"
  | mapping entries => '\x7b' :: innerEntries entries ++ ['\x7d']

/-- The items of a list, between commas. -/
def innerItems : List Datum → Text
  | [] => []
  | [item] => inner item
  | item :: rest => inner item ++ ", " ++ innerItems rest

/-- The entries of a mapping, between commas. -/
def innerEntries : List (Scalar × Datum) → Text
  | [] => []
  | [(key, value)] => key.inner ++ ": " ++ inner value
  | (key, value) :: rest => key.inner ++ ": " ++ inner value ++ ", " ++ innerEntries rest

end

/-- A value **as a text**; a text is itself. -/
def asText : Datum → Text
  | scalar s => s.asText
  | d => inner d

end Datum

end PlainSpec
