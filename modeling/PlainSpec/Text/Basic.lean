/-!
# Texts

A text is the list of its characters, so that every function on texts is a recursion on a list and every
statement about them an induction. String literals coerce to texts.

## Main results

* `mem_join`, `all_join`: what joined texts are made of.
* `splitOn_ne_nil`: a text has at least one part, whatever it is split at.
-/

namespace PlainSpec

/-- A **text** is the list of its characters. -/
abbrev Text := List Char

instance : Coe String Text := ⟨String.toList⟩

namespace Text

/-- The decimal digits of a natural number. -/
def ofNat (n : Nat) : Text := Nat.toDigits 10 n

/-- The decimal digits of an integer, after a minus sign if it is negative. -/
def ofInt : Int → Text
  | .ofNat n => ofNat n
  | .negSucc n => '-' :: ofNat (n + 1)

/-- The texts one after the other with a **separator** between neighbours. -/
def join (separator : Text) : List Text → Text
  | [] => []
  | [t] => t
  | t :: rest => t ++ separator ++ join separator rest

/-- Two parts in a row are joined by **the separator**. -/
theorem join_cons_cons (separator t u : Text) (ts : List Text) :
    join separator (t :: u :: ts) = t ++ separator ++ join separator (u :: ts) := rfl

/-- What is in joined texts is in **one of them**, or in the separator. -/
theorem mem_join {separator : Text} {ts : List Text} {c : Char} (h : c ∈ join separator ts) :
    c ∈ separator ∨ ∃ t ∈ ts, c ∈ t := by
  induction ts with
  | nil => exact absurd h List.not_mem_nil
  | cons t ts ih =>
      cases ts with
      | nil => exact .inr ⟨t, List.mem_cons_self, h⟩
      | cons u ts =>
          rw [join_cons_cons, List.mem_append, List.mem_append] at h
          rcases h with (h | h) | h
          · exact .inr ⟨t, List.mem_cons_self, h⟩
          · exact .inl h
          · exact (ih h).imp_right fun ⟨v, hv, hc⟩ => ⟨v, List.mem_cons_of_mem _ hv, hc⟩

/-- The **characters of joined texts** are those of the texts, and those of the separator. -/
theorem all_join {p : Char → Bool} {separator : Text} (hp : separator.all p = true) (ts : List Text) :
    (join separator ts).all p = ts.flatten.all p := by
  induction ts with
  | nil => rfl
  | cons t ts ih =>
      cases ts with
      | nil => rw [join, List.flatten_singleton]
      | cons u ts =>
          rw [List.flatten_cons, List.all_append, join_cons_cons, List.all_append, List.all_append, hp, ih,
            Bool.and_true]

/-- Changing **each character** of joined texts is changing those of the texts, and those of the separator. -/
theorem map_join (f : Char → Char) (separator : Text) (ts : List Text) :
    (join separator ts).map f = join (separator.map f) (ts.map (List.map f)) := by
  induction ts with
  | nil => rfl
  | cons t ts ih =>
      cases ts with
      | nil => rfl
      | cons u ts =>
          rw [List.map_cons] at ih
          rw [join_cons_cons, List.map_append, List.map_append, ih, List.map_cons, List.map_cons, join_cons_cons]

/-- Joined texts **begin with the first** of them, if this is not empty. -/
theorem head?_join {separator : Text} {ts : List Text} (hts : ∀ t ∈ ts, t ≠ []) :
    (join separator ts).head? = ts.flatten.head? := by
  cases ts with
  | nil => rfl
  | cons t ts =>
      obtain ⟨c, t, rfl⟩ := List.exists_cons_of_ne_nil (hts t List.mem_cons_self)
      cases ts with
      | nil => rw [join, List.flatten_singleton]
      | cons u ts => rfl

/-- Put a character in front of the first part. -/
def consHead (c : Char) : List Text → List Text
  | [] => [[c]]
  | part :: parts => (c :: part) :: parts

/-- The parts of a text **between the characters** that satisfy `p`, empty parts included. -/
def splitOn (p : Char → Bool) : Text → List Text
  | [] => [[]]
  | c :: rest => if p c then [] :: splitOn p rest else consHead c (splitOn p rest)

theorem splitOn_ne_nil (p : Char → Bool) (t : Text) : splitOn p t ≠ [] := by
  cases t with
  | nil => simp [splitOn]
  | cons c rest =>
    unfold splitOn
    split
    · simp
    · cases splitOn p rest <;> simp [consHead]

/-- What stands before the **last** character that satisfies `p`, and what stands behind it; without such a
character nothing stands before. -/
def splitLast (p : Char → Bool) (t : Text) : Text × Text :=
  let last := (t.reverse.takeWhile fun c => !p c).reverse
  ((t.take (t.length - last.length)).dropLast, last)

/-- What follows a given **beginning**, if the text has it. -/
def afterPrefix? : Text → Text → Option Text
  | [], t => some t
  | _ :: _, [] => none
  | p :: ps, c :: cs => if p = c then afterPrefix? ps cs else none

/-- Whether a text ends with another. -/
def endsWith (t ending : Text) : Bool := ending.reverse.isPrefixOf t.reverse

/-- Drop the longest **end** of the text all of whose characters satisfy `p`. -/
def dropEndWhile (p : Char → Bool) (t : Text) : Text := (t.reverse.dropWhile p).reverse

/-- The **order** of texts by their characters. -/
def before (a b : Text) : Bool := !(List.lex b a (fun x y => x.toNat < y.toNat))

/-- Fill a text up to a width with blanks on its right. -/
def padRight (width : Nat) (t : Text) : Text := t ++ List.replicate (width - t.length) ' '

end Text

end PlainSpec
