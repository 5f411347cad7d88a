import PlainSpec.Entries
import PlainSpec.Language.Table

/-!
# Consulting a language table

A table is asked for languages again and again. A language that was found is kept, under the code in the table that
stands for it, and is not put together a second time.
-/

namespace PlainSpec

/-- A table that is **consulted**, and the languages that were found in it so far. -/
structure Consultation where
  table : LanguageTable
  found : Entries Language

namespace Consultation

/-- A table that **nobody has asked** yet. -/
def opened (table : LanguageTable) : Consultation := ⟨table, []⟩

/-- **Ask** for the language of a code. Nothing is kept of a language that lacks a keyword. -/
def ask (c : Consultation) (code : Text) : Except Keyword Language × Consultation :=
  let resolved := c.table.resolve code
  match c.found.lookup resolved with
  | some language => (.ok language, c)
  | none =>
    match c.table.language code with
    | .error keyword => (.error keyword, c)
    | .ok language => (.ok language, { c with found := Entries.put resolved language c.found })

/-- The consultation after **several codes** were asked for. -/
def askAll (c : Consultation) (codes : List Text) : Consultation :=
  codes.foldl (fun c code => (c.ask code).2) c

end Consultation

end PlainSpec
