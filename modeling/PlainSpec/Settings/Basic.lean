import PlainSpec.Entries
import PlainSpec.Failure

/-!
# Settings

Settings are a mapping of values and further mappings. They are laid over one another from the defaults to
the settings of an environment; texts that name a variable are replaced by its value.

## Main results

* `merge_nil`: laying nothing over settings leaves them alone.
-/

namespace PlainSpec

/-- **Settings**: values under keys. -/
abbrev Settings := DataEntries

/-- The **variables** of the environment. -/
abbrev Variables := Entries Text

namespace Settings

/-- The **default** settings. -/
def defaults : Settings :=
  [(.text "language", .text "en"),
   (.text "languages_file", .null),
   (.text "features", .text "features"),
   (.text "steps", .list []),
   (.text "generate", .record
     [("output_dir", .null), ("base_class", .null), ("report_undefined", .bool true)]),
   (.text "verify", .record [("strict", .bool false)]),
   (.text "logging", .record [("level", .text "INFO")])]

mutual

/-- Lay settings **over** others. Where both have a mapping the mappings are merged, and elsewhere the
upper value counts. -/
def merge (lower : Settings) : Settings → Settings
  | [] => lower
  | (key, value) :: rest => merge (Entries.put key (mergeValue (lower.lookup key) value) lower) rest

/-- A value laid over the one that is there, **if any**. -/
def mergeValue (lower : Option Datum) : Datum → Datum
  | .mapping upper =>
    match lower with
    | some (.mapping lower) => .mapping (merge lower upper)
    | _ => .mapping upper
  | value => value

end

theorem merge_nil (lower : Settings) : merge lower [] = lower := by simp [merge]

/-- Put **overrides** into settings. Where both have a mapping the keys of the settings' mapping are
replaced, however deep their values are. -/
def override (settings overrides : Settings) : Settings :=
  overrides.foldl (fun settings (key, value) =>
    match settings.lookup key, value with
    | some (.mapping old), .mapping new =>
      Entries.put key (.mapping (new.foldl (fun old entry => Entries.put entry.1 entry.2 old) old)) settings
    | _, value => Entries.put key value settings) settings

/-- The name of the **variable** that a text stands for: what is in braces behind a dollar sign. -/
def variableName? : Text → Option Text
  | '$' :: '\x7b' :: rest => if rest.getLast? = some '\x7d' then some rest.dropLast else none
  | _ => none

/-- The names in braces behind dollar signs **anywhere** in a text: what variables it may ask for. -/
def variableNames : Text → List Text
  | [] => []
  | '$' :: '\x7b' :: rest => rest.takeWhile (· != '\x7d') :: variableNames rest
  | _ :: rest => variableNames rest

mutual

/-- A value in which texts that name a variable are **replaced** by its value, if it has one. -/
def substitute (vars : Variables) : Datum → Datum
  | .text t =>
    match variableName? t with
    | some name => .text ((vars.lookup name).getD t)
    | none => .text t
  | .list items => .list (substituteItems vars items)
  | .mapping entries => .mapping (substituteEntries vars entries)
  | value => value

/-- The items of a list with variables replaced. -/
def substituteItems (vars : Variables) : List Datum → List Datum
  | [] => []
  | item :: rest => substitute vars item :: substituteItems vars rest

/-- The entries of a mapping with variables replaced; **keys** are left alone. -/
def substituteEntries (vars : Variables) : List (Scalar × Datum) → List (Scalar × Datum)
  | [] => []
  | (key, value) :: rest => (key, substitute vars value) :: substituteEntries vars rest

end

end Settings

/-- The value at the end of a **path of keys**, if every key is there. -/
def Datum.at? : List Text → Datum → Option Datum
  | [], value => some value
  | key :: keys, value => (value.entry? key).bind (Datum.at? keys)

/-- The value at the end of a path of keys that is written with **dots** between them. -/
def Datum.get? (value : Datum) (keys : Text) : Option Datum := Datum.at? (Text.splitOn (· == '.') keys) value

/-- The **text** in a setting. A setting that counts as false is none; any other one that is no text is
`unfit`. -/
def Datum.textSetting (unfit : Failure) : Option Datum → Except Failure (Option Text)
  | some (.text t) => .ok (if t.isEmpty then none else some t)
  | some value => if value.isTruthy then .error unfit else .ok none
  | none => .ok none

/-- The text of a **path** in a list of settings. -/
def Datum.pathSetting : Datum → Except Failure Text
  | .text t => .ok t
  | _ => .error .notPath

/-- The **setting** at the end of a path of keys. -/
def Settings.get? (settings : Settings) (keys : Text) : Option Datum := (Datum.mapping settings).get? keys

end PlainSpec
