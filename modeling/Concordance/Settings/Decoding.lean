import Concordance.Decimal.Shortest
import Concordance.Document.Value
import Concordance.Settings.Basic
import Concordance.Text.Lower

/-!
# Settings from values

A setting is given by a value, which comes from somewhere.  Plain values stand for texts, and
numbers and some words for truth values; a list has to be a list.

* `LoadError` tells why there are no settings, `LoadError.message` in words.
* `Settings.ofFields` are the settings given by values; those that are missing keep their defaults.
-/

namespace Concordance

open Concordance.Document (Value)
open Concordance.Text (lower quoted)

/-- A value with the place it comes from, if that is known. -/
structure Sourced where
  /-- The value. -/
  value : Value
  /-- The place. -/
  origin : Option String

/-- Why settings cannot be loaded. -/
inductive LoadError where
  /-- There is no file. -/
  | missing (path : String)
  /-- The file has an unknown extension. -/
  | unsupported (path : String)
  /-- The file is malformed. -/
  | malformed
  /-- A text is wanted for a key. -/
  | notText (found : Value) (key : String) (origin : Option String)
  /-- A truth value is wanted for a key. -/
  | notBool (found : Value) (key : String) (origin : Option String)
  /-- A list is wanted for a key. -/
  | notList (found : Value) (key : String)
  /-- There is no order with this name. -/
  | unknownOrder (name key : String)
  /-- The value cannot name an order. -/
  | notOrder (key : String)

/-- What kind of value it is, in words. -/
def Document.Value.words : Value → String
  | .null => "unit value"
  | .bool b => "boolean \x60" ++ (if b then "true" else "false") ++ "\x60"
  | .integer n => "integer \x60" ++ toString n ++ "\x60"
  | .number x =>
    let whole := x.isFinite && !x.text.toList.contains '.'
    "floating point \x60" ++ x.text ++ (if whole then ".0" else "") ++ "\x60"
  | .text s => "string " ++ quoted s
  | .list _ => "sequence"
  | .table _ => "map"

namespace LoadError

/-- Says for which key. -/
def forKey (key : String) : String := " for key \x60" ++ key ++ "\x60"

/-- Says where the value comes from. -/
def fromOrigin : Option String → String
  | some origin => " in " ++ origin
  | none => ""

/-- Says what was found and what is wanted. -/
def mismatch (found : Value) (wanted : String) : String :=
  "invalid type: " ++ found.words ++ ", expected " ++ wanted

/-- The message for settings that cannot be loaded. -/
def message : LoadError → String
  | .missing path => "configuration file \"" ++ path ++ "\" not found"
  | .unsupported path => "configuration file \"" ++ path ++ "\" is not of a supported file format"
  | .malformed => "malformed configuration file"
  | .notText found key origin => mismatch found "a string" ++ forKey key ++ fromOrigin origin
  | .notBool found key origin => mismatch found "a boolean" ++ forKey key ++ fromOrigin origin
  | .notList found key => mismatch found "a sequence" ++ forKey key
  | .unknownOrder name key =>
    "enum SortOrder does not have variant constructor " ++ name ++ forKey key
  | .notOrder key =>
    "value of enum SortOrder should be represented by either string or table with exactly one key"
      ++ forKey key

end LoadError

namespace Settings

/-- The text that a plain value stands for. -/
def text? : Value → Option String
  | .bool b => some (if b then "true" else "false")
  | .integer n => some (toString n)
  | .number x => some x.text
  | .text s => some s
  | _ => none

/-- The text that a value stands for, under a key. -/
def toText (key : String) (v : Sourced) : Except LoadError String :=
  match text? v.value with
  | some s => .ok s
  | none => .error (.notText v.value key v.origin)

/-- The truth value that a value stands for, under a key. -/
def toBool (key : String) (v : Sourced) : Except LoadError Bool :=
  match v.value with
  | .bool b => .ok b
  | .integer n => .ok (n ≠ 0)
  | .number x => .ok !x.isZero
  | .text s =>
    let small := lower s
    if ["1", "true", "on", "yes"].contains small then .ok true
    else if ["0", "false", "off", "no"].contains small then .ok false
    else .error (.notBool (.text small) key v.origin)
  | found => .error (.notBool found key v.origin)

/-- The texts that values stand for, which have numbers under a key from `n` on. -/
def toTexts (key : String) (origin : Option String) : Nat → List Value →
    Except LoadError (List String)
  | _, [] => .ok []
  | n, v :: rest => do
    let s ← toText (key ++ "[" ++ toString n ++ "]") ⟨v, origin⟩
    let more ← toTexts key origin (n + 1) rest
    .ok (s :: more)

/-- The list of texts that a value stands for, under a key. -/
def toList (key : String) (v : Sourced) : Except LoadError (List String) :=
  match v.value with
  | .list items => toTexts key v.origin 0 items
  | found => .error (.notList found key)

/-- The order with a name. -/
def toNamedOrder (key : String) (name : String) : Except LoadError SortOrder :=
  if name = "natural" then .ok .natural
  else if name = "lexical" then .ok .lexical
  else .error (.unknownOrder name key)

/-- The order that a value stands for: a name, or a table with a name as its only key. -/
def toOrder (key : String) (v : Sourced) : Except LoadError SortOrder :=
  match v.value with
  | .text name => toNamedOrder key name
  | .table [(name, _)] => toNamedOrder key name
  | _ => .error (.notOrder key)

/-- Reads the value under a key, if there is one. -/
def field {α : Type} (fields : List (String × Sourced)) (key : String)
    (read : String → Sourced → Except LoadError α) (default : α) : Except LoadError α :=
  match fields.lookup key with
  | some v => read key v
  | none => .ok default

/-- The settings given by values under keys.  Other keys do not matter. -/
def ofFields (fields : List (String × Sourced)) : Except LoadError Settings := do
  let defaults : Settings := {}
  let extensions ← field fields "extensions" toList defaults.extensions
  let order ← field fields "sort_order" toOrder defaults.order
  let trigrams ← field fields "trigram_index" toBool defaults.trigrams
  let markElement ← field fields "mark_element" toText defaults.markElement
  .ok { extensions, order, trigrams, markElement }

end Settings

end Concordance
