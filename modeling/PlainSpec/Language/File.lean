import PlainSpec.Files.Tree
import PlainSpec.Language.BuiltIn
import PlainSpec.Pattern.Basic

/-!
# Languages from files

A file may add languages to the built-in ones, or give other words to their keywords. Its top level is a
mapping from language codes to mappings from keywords to words.
-/

namespace PlainSpec

/-- A **language table** and the file, if any, that was laid over the built-in one. -/
structure Languages where
  table : LanguageTable
  file : Option Text

/-- The **built-in** languages alone. -/
def Languages.builtIn : Languages := ⟨builtInLanguages, none⟩

/-- The **pattern** of a keyword: any of its words, longest first. -/
def Language.pattern (language : Language) (keyword : Keyword) : Pattern :=
  .group (.oneOf ((language.wordsByLength keyword).map .literal))

namespace Vocabularies

/-- The entry that the **data of one language** spell; no other names than those of keywords are
allowed, and nothing but texts are names. -/
def readEntry (path : Path) (code : Text) : Datum → Except Failure (Text × Vocabulary)
  | .mapping entries =>
    match entries.mapM fun (name, value) => name.text?.map (·, value.asText) with
    | none => .error .wrongType
    | some texts =>
      match (texts.map Prod.fst).filter fun name => (Keyword.ofName? name).isNone with
      | [] => .ok (code, Vocabulary.ofNames texts)
      | unknown => .error (.configuration (.unknownKeywords code (unknown.mergeSort Text.before)))
  | _ => .error (.configuration (.languageNotMapping code path))

/-- The entries that **data** spell. Data that count as false spell none. -/
def ofData (path : Path) (data : Datum) : Except Failure Vocabularies :=
  if !data.isTruthy then .ok []
  else match data with
    | .mapping languages =>
      (languages.mapM fun entry => readEntry path entry.1.asText entry.2).map Vocabularies.ofList
    | _ => .error (.configuration (.tableNotMapping path))

/-- The entries in a **file**. -/
def ofFile (tree : FileTree) (path : Path) : Except Failure Vocabularies :=
  match tree.readData path with
  | .error .undecodable => .error (.file .undecodable)
  | .error fault => .error (.configuration (.unreadableTable path fault))
  | .ok (.error .malformed) => .error (.configuration (.brokenTable path))
  | .ok (.error fault) => .error (.data fault)
  | .ok (.ok data) => ofData path data

end Vocabularies

/-- The table of entries with a **default language**, which has to have an entry. -/
def LanguageTable.ofVocabularies (entries : Vocabularies) (default : Text) : Except Failure LanguageTable :=
  match LanguageTable.ofVocabularies? entries default with
  | some table => .ok table
  | none => .error (.configuration (.noDefaultLanguage default))

/-- The **languages** that are built in, with those of a file laid over them. An empty name is no file. -/
def Languages.load (tree : FileTree) (file : Option Text) (default : Text) : Except Failure Languages := do
  let file := file.filter (!·.isEmpty)
  let added ← match file with
    | some name => Vocabularies.ofFile tree (Path.ofText name)
    | none => .ok []
  let table ← LanguageTable.ofVocabularies (added.laidOver builtInVocabularies) default
  return ⟨table, file⟩

end PlainSpec
