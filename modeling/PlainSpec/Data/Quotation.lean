import PlainSpec.Data.Place

/-!
# Quotations

A text in quotation marks may run over several lines: a line break and the white space around it count as one
space, and empty lines as line breaks. In double marks a character may be escaped by a backslash, also the
break of a line; in single marks only the mark itself can be, by writing it twice.
-/

namespace PlainSpec

namespace Place

/-- The characters that **escapes of one letter** stand for. -/
def escapes : List (Char × Char) :=
  [('0', '\x00'), ('a', '\x07'), ('b', '\x08'), ('t', '\t'), ('\t', '\t'), ('n', '\n'), ('v', '\x0B'),
   ('f', '\x0C'), ('r', '\r'), ('e', '\x1B'), (' ', ' '), ('"', '"'), ('\\', '\\'), ('/', '/'),
   ('N', '\u0085'), ('_', '\u00A0'), ('L', '\u2028'), ('P', '\u2029')]

/-- How many **hexadecimal digits** follow the letter of an escape. -/
def escapeWidth? : Char → Option Nat
  | 'x' => some 2
  | 'u' => some 4
  | 'U' => some 8
  | _ => none

/-- The number of so many **hexadecimal digits** in front. -/
def hexNumber? (width : Nat) (t : Text) : Option Nat :=
  let digits := t.take width
  if digits.length < width || !digits.all isHexDigit then none
  else some (digits.foldl (fun n c => 16 * n + digitValue c) 0)

/-- The character that an **escape** stands for, the place being behind its backslash; and the place behind
the escape. -/
def escaped (p : Place) : Except DataFault (Char × Place) :=
  match p.rest with
  | [] => .error .malformed
  | c :: rest =>
    match escapes.lookup c, escapeWidth? c with
    | some d, _ => .ok (d, p.next)
    | none, none => .error .malformed
    | none, some width =>
      match hexNumber? width rest with
      | none => .error .malformed
      | some n => if 0x110000 ≤ n then .error .noCharacter else .ok (Char.ofNat n, p.skip (width + 1))

/-- The breaks of **empty lines** inside quotation marks, the place being behind a line break. -/
def emptyLines : Nat → Place → Except DataFault (Text × Place)
  | 0, _ => .error .malformed
  | fuel + 1, p =>
    if p.isAtBoundary then .error .malformed
    else
      let p := p.skipWhile fun c => c == ' ' || c == '\t'
      match p.lineBreak? with
      | some (c, p) => (emptyLines fuel p).map fun (breaks, p) => (c :: breaks, p)
      | none => .ok ([], p)

/-- The breaks of a line and of the empty lines after it, **folded**: of a single line feed a space is left,
and of several all but the first. -/
def folded (first : Char) (others : Text) : Text :=
  if first != '\n' then first :: others else if others.isEmpty then [' '] else others

/-- What stands in **quotation marks**, the place being behind the opening one; and the place behind the
closing one. -/
def quoted (mark : Char) : Nat → Place → Except DataFault (Text × Place)
  | 0, _ => .error .malformed
  | fuel + 1, p =>
    match p.peek with
    | none => .error .malformed
    | some c =>
      if c = mark then
        if c = '\'' && p.next.isAt '\'' then
          (quoted mark fuel (p.skip 2)).map fun (t, p) => ('\'' :: t, p)
        else .ok ([], p.next)
      else if c = '\\' && mark = '"' then
        match p.next.lineBreak? with
        | some (_, p) => do
          let (breaks, p) ← emptyLines fuel p
          let (t, p) ← quoted mark fuel p
          return (breaks ++ t, p)
        | none => do
          let (c, p) ← escaped p.next
          let (t, p) ← quoted mark fuel p
          return (c :: t, p)
      else if c = ' ' || c = '\t' || breaksLine c then
        let blanks := p.leading fun c => c == ' ' || c == '\t'
        let p := p.skip blanks.length
        match p.lineBreak? with
        | some (first, p) => do
          let (others, p) ← emptyLines fuel p
          let (t, p) ← quoted mark fuel p
          return (folded first others ++ t, p)
        | none => (quoted mark fuel p).map fun (t, p) => (blanks ++ t, p)
      else (quoted mark fuel p.next).map fun (t, p) => (c :: t, p)

end Place

end PlainSpec
