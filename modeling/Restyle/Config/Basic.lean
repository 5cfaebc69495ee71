import Restyle.Config.Toml
import Restyle.Error

/-!
# Restyle.Config.Basic

Settings of the editor. They come from configuration text, where given, and from one variable
of the environment, which wins; both are checked.
-/

namespace Restyle

/-- Limits under which a component runs. -/
structure Limits where
  recursion : Nat := 256
  stack : Nat := 10 * 1024
  iterations : Nat := 1000000
  deriving Repr, BEq, DecidableEq, Inhabited

structure Config where
  /-- How long the guard holds after a patch, in milliseconds. -/
  guardMillis : Nat := 100
  rootClass : String := "preview-content"
  popoverClass : String := "style-editor-popover"
  /-- Pixels between a click and the popover below it. -/
  popoverOffset : Float32 := 10
  /-- Name whose ending tells the dialect of the source. -/
  filename : String := "component.tsx"
  maxSourceBytes : Nat := 512 * 1024
  limits : Limits := {}

/-- Why settings cannot be used. -/
inductive ConfigFault where
  /-- The text is not well-formed, or a value has the wrong type. -/
  | notReadable
  | guardTooLong
  | blankRootClass
  | noSource
  | guardNotNumber (raw : String)
  /-- The file cannot be read. -/
  | noFile
  deriving Repr, BEq, DecidableEq

/-- Longest time that the guard may hold. -/
def maxGuardMillis : Nat := 10000

/-- Name of the variable that sets the time of the guard. -/
def guardVariable : String := "STYLEPAD_SYNC_GUARD_MS"

namespace ConfigFault

/-- What is said of the fault; nothing of text that is not readable. -/
def message? : ConfigFault → Option String
  | notReadable => none
  | guardTooLong => some ("sync_guard_ms must be at most " ++ toString maxGuardMillis)
  | blankRootClass => some "preview_root_class must not be empty"
  | noSource => some "max_source_bytes must be greater than zero"
  | guardNotNumber raw => some (guardVariable ++ " must be an integer, got `" ++ raw ++ "`")
  | noFile => none

def error (f : ConfigFault) : EditorError :=
  match f with
  | noFile => .io "" ""
  | f => .config ((message? f).getD "")

end ConfigFault

namespace Config

open Toml (Table Value)

def natural? : Value → Option Nat
  | .integer n => if 0 ≤ n then some n.toNat else none
  | _ => none

def text? : Value → Option String
  | .text s => some s
  | _ => none

/-- A number, narrowed to single precision. -/
def single? : Value → Option Float32
  | .real x => some x.toFloat32
  | .integer n =>
    let bits := Number.Format.single.ofScientific n.natAbs 0
    let x := Float32.ofBits bits.toUInt32
    some (if n < 0 then -x else x)
  | _ => none

/-- The value under a key, or a default; `none` if the value has the wrong type. -/
def field? {α : Type} (t : Table) (key : String) (read? : Value → Option α) (default : α) :
    Option α :=
  match t.lookup key with
  | some v => read? v
  | none => some default

/-- The item at a place of a list, or a default. -/
def item? {α : Type} (items : List Value) (i : Nat) (read? : Value → Option α) (default : α) :
    Option α :=
  match items[i]? with
  | some v => read? v
  | none => some default

/-- Limits from a table by name, or from a list by place; a date or a time names none. -/
def limits? : Value → Option Limits
  | .moment => some {}
  | .table _ t => do
    return {
      recursion := ← field? t "recursion_limit" natural? 256
      stack := ← field? t "stack_size_limit" natural? (10 * 1024)
      iterations := ← field? t "loop_iteration_limit" natural? 1000000 }
  | .list items => do
    return {
      recursion := ← item? items 0 natural? 256
      stack := ← item? items 1 natural? (10 * 1024)
      iterations := ← item? items 2 natural? 1000000 }
  | _ => none

def ofTable? (t : Table) : Option Config := do
  let d : Config := {}
  return {
    guardMillis := ← field? t "sync_guard_ms" natural? d.guardMillis
    rootClass := ← field? t "preview_root_class" text? d.rootClass
    popoverClass := ← field? t "popover_class" text? d.popoverClass
    popoverOffset := ← field? t "popover_offset_y" single? d.popoverOffset
    filename := ← field? t "component_filename" text? d.filename
    maxSourceBytes := ← field? t "max_source_bytes" natural? d.maxSourceBytes
    limits := ← field? t "runtime" limits? d.limits }

/-- Settings that can be used, or the first fault found. -/
def check (c : Config) : Except ConfigFault Config :=
  if c.guardMillis > maxGuardMillis then .error .guardTooLong
  else if (Text.trim c.rootClass).isEmpty then .error .blankRootClass
  else if c.maxSourceBytes == 0 then .error .noSource
  else .ok c

/-- Settings from configuration text. -/
def parse (text : String) : Except ConfigFault Config :=
  match (Toml.parse? text).bind ofTable? with
  | some c => c.check
  | none => .error .notReadable

/-- What is found where the configuration file should be. -/
inductive File where
  | missing
  | unreadable
  | contents (text : String)

/-- Reads a number of sixty-four bits, with a plus sign or without. -/
def word? (cs : List Char) : Option Nat :=
  let ds := match cs with
    | '+' :: rest => rest
    | _ => cs
  if !ds.isEmpty && ds.all Char.isDigit && Text.decimal ds < 18446744073709551616 then some (Text.decimal ds)
  else none

/-- Settings from the configuration file and the variable of the guard. -/
def load (file : File) (guardText : Option String) : Except ConfigFault Config :=
  let base : Except ConfigFault Config := match file with
    | .missing => .ok {}
    | .unreadable => .error .noFile
    | .contents text => parse text
  match base, guardText with
  | .error e, _ => .error e
  | .ok c, none => c.check
  | .ok c, some raw =>
    match word? (Text.trimBy Text.isBlank raw.toList) with
    | some n => { c with guardMillis := n }.check
    | none => .error (.guardNotNumber raw)

end Config
end Restyle
