import Restyle.Script.Library.Regex
import Restyle.Text.NormalForm

/-!
# Restyle.Script.Library.Text

Texts: what `String` itself offers and the methods of texts.
-/

namespace Restyle
namespace Script
namespace Library

open Run

def stringTable : List (String × Nat) := [("fromCharCode", 1), ("fromCodePoint", 1), ("raw", 1)]

def stringMethodTable : List (String × Nat) :=
  [("at", 1), ("charAt", 1), ("charCodeAt", 1), ("codePointAt", 1), ("concat", 1), ("endsWith", 1),
    ("includes", 1), ("indexOf", 1), ("isWellFormed", 0), ("lastIndexOf", 1), ("localeCompare", 1),
    ("match", 1), ("matchAll", 1), ("normalize", 0), ("padEnd", 1), ("padStart", 1), ("repeat", 1),
    ("replace", 2), ("replaceAll", 2), ("search", 1), ("slice", 2), ("split", 2),
    ("startsWith", 1), ("substring", 2), ("toLocaleLowerCase", 0), ("toLocaleUpperCase", 0),
    ("toLowerCase", 0), ("toString", 0), ("toUpperCase", 0), ("toWellFormed", 0), ("trim", 0),
    ("trimEnd", 0), ("trimStart", 0), ("valueOf", 0)]

/-- The longest text that is made. -/
def maxTextLength : Nat := 536870911

/-- Units in runs of whole characters, and surrogates that stand alone. -/
def runsOfUnits (points : List (Char ⊕ UInt16)) : List (List Char ⊕ UInt16) :=
  points.foldr (fun p out =>
    match p, out with
    | .inl c, .inl cs :: out => .inl (c :: cs) :: out
    | .inl c, out => .inl [c] :: out
    | .inr u, out => .inr u :: out) []

/-- A text with its characters changed; surrogates that stand alone are left as they are. -/
def mapText (f : List Char → List Char) (s : Utf16) : Utf16 :=
  match s with
  | .whole s => Utf16.ofChars (f s.toList)
  | .broken us => Utf16.ofUnits ((runsOfUnits (Utf16.points us)).flatMap fun
      | .inl cs => (f cs).flatMap Utf16.unitsOfChar
      | .inr u => [u])

/-- What a text is lengthened by: another text, over and over, cut off. -/
def padding (h : Host) (s : Utf16) (args : List Value) : Run Utf16 := do
  let n ← toLength h (arg args 0)
  if n ≤ s.length then return .whole ""
  let fill ← match arg args 1 with
    | .undefined => pure (Utf16.whole " ")
    | v => toText h v
  if fill.isEmpty then return .whole ""
  if n > maxTextLength then rangeError "invalid string length"
  let missing := n - s.length
  let times := missing / fill.length + 1
  return Utf16.ofUnits (((List.replicate times fill.units).flatten).take missing)

/-- The pieces of a text between occurrences of another, as units; the piece so far is
reversed. -/
def piecesBetween (sep : List UInt16) : List UInt16 → (skip : Nat) → (piece : List UInt16) →
    List Utf16
  | [], _, piece => [Utf16.ofUnits piece.reverse]
  | _ :: rest, skip + 1, piece => piecesBetween sep rest skip piece
  | u :: rest, 0, piece =>
    if sep.isPrefixOf (u :: rest) then
      Utf16.ofUnits piece.reverse :: piecesBetween sep rest (sep.length - 1) []
    else piecesBetween sep rest 0 (u :: piece)

def splitText (s sep : Utf16) : List Utf16 :=
  if sep.isEmpty then s.units.map fun u => Utf16.ofUnits [u]
  else piecesBetween sep.units s.units 0 []

/-- A text as an argument, which may not be a regular expression. -/
def plainPattern (h : Host) (v : Value) : Run Utf16 := do
  if ← isRegex h v then typeError "first argument must not be a regular expression"
  toText h v

/-- All occurrences of a text from a position on. -/
def occurrences (s text : Utf16) : Nat → Nat → List Occurrence
  | 0, _ => []
  | fuel + 1, pos =>
    match s.indexOf? text pos with
    | none => []
    | some i => { text, start := i } :: occurrences s text fuel (i + max 1 text.length)

/-- The method under a symbol that an argument brings, if it brings one. -/
def broughtBy (h : Host) (v : Value) (symbol : Nat) : Run (Option Value) := do
  if v.isNullish then return none
  method? h v (.symbol symbol)

/-- An argument as a regular expression, asked to do something with a text. -/
def askRegex (h : Host) (v : Value) (flags : String) (symbol : Nat) (s : Utf16) : Run Value := do
  let body ← partText h v
  let regex ← makeRegex Ref.regexProto body flags
  let f ← callback (← getProp h regex (.symbol symbol))
  h.call f regex [.string s]

/-- Does an argument that is a regular expression ask for all matches? -/
def checkGlobal (h : Host) (v : Value) : Run Unit := do
  if ← isRegex h v then
    let flags ← getName h v "flags"
    if flags.isNullish then typeError "cannot convert 'null' or 'undefined' to object"
    if !hasFlag (← toText h flags).spell 'g' then typeError "expression must be global"

/-- Replaces the first occurrence of a text, or all. -/
def replaceText (h : Host) (s : Utf16) (pattern by' : Value) (all : Bool) : Run Value := do
  let text ← toText h pattern
  let by' ← replacementOf h by'
  let found :=
    if all then occurrences s text (s.length + 2) 0
    else (s.indexOf? text 0).toList.map fun i => { text, start := i }
  return .string (← replaceAll h s by' found 0 s.units [])

def string : Body := fun h name _ args => do
  match name with
  | "fromCharCode" =>
    let us ← args.mapM fun v => do return (Numeral.toUInt32 (← toNumber h v)).toUInt16
    return .string (Utf16.ofUnits us)
  | "fromCodePoint" =>
    let us ← args.mapM fun v => do
      match asIndex? (← toNumber h v) with
      | some n =>
        if n > 0x10FFFF then rangeError "invalid code point"
        else return (if n < 0x10000 then [n.toUInt16] else Utf16.unitsOfChar (Char.ofNat n))
      | none => rangeError "invalid code point"
    return .string (Utf16.ofUnits us.flatten)
  | "raw" =>
    let source := Value.object (← toObject (arg args 0))
    let raw := Value.object (← toObject (← getName h source "raw"))
    let n ← lengthOf h raw
    let parts ← through (fun out i => do
      let out := out.push (← toText h (← itemAt h raw i))
      if i + 1 < n && i + 1 < args.length then return out.push (← toText h (arg args (i + 1)))
      return out) n 0 #[]
    return .string (Utf16.join "" parts.toList)
  | _ => unknown name

/-- The text that a text object stands for, or a text itself. -/
def thisString (v : Value) : Run Utf16 := do
  match v with
  | .string s => return s
  | .object ref =>
    match (← obj ref).kind with
    | .wrapper (.string s) => return s
    | _ => typeError "'this' is not a string"
  | _ => typeError "'this' is not a string"

/-- The text that a method of texts is called on. -/
def thisText (h : Host) (v : Value) : Run Utf16 := do
  match v with
  | .string s => return s
  | .undefined | .null => typeError "cannot convert 'null' or 'undefined' to string"
  | v => toText h v

/-- The character at a position, or the unit if it is none. -/
def pointAt (s : Utf16) (i : Nat) : Value :=
  match Utf16.points ((s.units.drop i).take 2) with
  | .inl c :: _ => .nat c.toNat
  | .inr u :: _ => .nat u.toNat
  | [] => .undefined

/-- Methods that an argument may take over under a symbol; nothing for other methods. -/
def delegated? (h : Host) (name : String) (this : Value) (args : List Value) :
    Run (Option Value) := do
  let a := arg args 0
  let symbol? := match name with
    | "match" => some Symbols.match'
    | "matchAll" => some Symbols.matchAll
    | "replace" | "replaceAll" => some Symbols.replace
    | "search" => some Symbols.search
    | "split" => some Symbols.split
    | _ => none
  match symbol? with
  | none => return none
  | some symbol =>
    if this.isNullish then typeError "cannot convert 'null' or 'undefined' to string"
    if name == "matchAll" || name == "replaceAll" then checkGlobal h a
    match ← broughtBy h a symbol with
    | none => return none
    | some f =>
      let rest := if name.startsWith "replace" || name == "split" then [arg args 1] else []
      return some (← h.call f a (this :: rest))

/-- What the methods do, on a text. -/
def textMethod (h : Host) (name : String) (s : Utf16) (args : List Value) : Run Value := do
  let a := arg args 0
  let b := arg args 1
  match name with
  | "charAt" =>
    match asIndex? (← toInteger h a) with
    | some i => return .string (s.slice i (i + 1))
    | none => return .text ""
  | "charCodeAt" =>
    match (asIndex? (← toInteger h a)).bind s.unit? with
    | some u => return .nat u.toNat
    | none => return .number Numeral.nan
  | "codePointAt" =>
    match asIndex? (← toInteger h a) with
    | some i => return pointAt s i
    | none => return .undefined
  | "at" =>
    match (within? (← toInteger h a) s.length).bind s.unit? with
    | some u => return .string (Utf16.ofUnits [u])
    | none => return .undefined
  | "concat" =>
    let parts ← args.mapM (toText h)
    return .string (Utf16.join "" (s :: parts))
  | "includes" =>
    let t ← plainPattern h a
    return .boolean (s.indexOf? t (clamp (← toInteger h b) s.length)).isSome
  | "startsWith" =>
    let t ← plainPattern h a
    let start := clamp (← toInteger h b) s.length
    return .boolean (t.units.isPrefixOf (s.units.drop start))
  | "endsWith" =>
    let t ← plainPattern h a
    let last ← match b with
      | .undefined => pure s.length
      | v => do pure (clamp (← toInteger h v) s.length)
    return .boolean (t.units.isSuffixOf (s.units.take last))
  | "indexOf" =>
    let t ← toText h a
    return position? (s.indexOf? t (clamp (← toInteger h b) s.length))
  | "lastIndexOf" =>
    let t ← toText h a
    let x ← toNumber h b
    let last := if x.isNaN then s.length else clamp x s.length
    return position? ((List.range (last + 1)).reverse.find? fun i => t.units.isPrefixOf (s.units.drop i))
  | "localeCompare" =>
    let t ← toText h a
    return .number (if s.before t then -1.0 else if t.before s then 1.0 else 0.0)
  | "slice" =>
    let first ← toRelative h a s.length 0
    let last ← toRelative h b s.length s.length
    return .string (s.slice first last)
  | "substring" =>
    let x := clamp (← toInteger h a) s.length
    let y ← match b with
      | .undefined => pure s.length
      | v => do pure (clamp (← toInteger h v) s.length)
    return .string (s.slice (min x y) (max x y))
  | "trim" => return .string (s.trim true true)
  | "trimStart" => return .string (s.trim true false)
  | "trimEnd" => return .string (s.trim false true)
  | "toLowerCase" | "toLocaleLowerCase" => return .string (mapText Text.lowerText s)
  | "toUpperCase" | "toLocaleUpperCase" =>
    return .string (mapText (·.flatMap Text.upperChar) s)
  | "normalize" =>
    let form ← match a with
      | .undefined => pure "NFC"
      | v => do pure (← toText h v).spell
    match Text.NormalForm.named.lookup form with
    | some form => return .string (mapText form.apply s)
    | none => rangeError "the form is not one of 'NFC', 'NFD', 'NFKC' and 'NFKD'"
  | "padStart" => return .string ((← padding h s args) ++ s)
  | "padEnd" => return .string (s ++ (← padding h s args))
  | "repeat" =>
    let x ← toInteger h a
    if x < 0.0 || !x.isFinite then rangeError "invalid count"
    let n := clamp x 1000000000
    if n * s.length > maxTextLength then rangeError "invalid string length"
    return .string (Utf16.join "" (List.replicate n s))
  | "split" =>
    let limit ← splitLimit h b
    let sep ← toText h a
    if limit == 0 then return ← arrayOf #[]
    let pieces := if a.isUndefined then [s] else splitText s sep
    arrayOfList ((pieces.take limit).map .string)
  | "replace" => replaceText h s a b false
  | "replaceAll" => replaceText h s a b true
  | "search" => askRegex h a "" Symbols.search s
  | "match" => askRegex h a "" Symbols.match' s
  | "matchAll" => askRegex h a "g" Symbols.matchAll s
  | "isWellFormed" => return .boolean s.text?.isSome
  | "toWellFormed" =>
    return .string (match s with
      | .whole t => .whole t
      | .broken us => Utf16.ofUnits ((Utf16.points us).flatMap fun
          | .inl c => Utf16.unitsOfChar c
          | .inr _ => [0xFFFD]))
  | "iterator" => newObject Ref.stringIteratorProto (.characterIterator s.units) #[]
  | _ => unknown name

def stringMethod : Body := fun h name this args => do
  match name with
  | "toString" | "valueOf" => return .string (← thisString this)
  | _ =>
    match ← delegated? h name this args with
    | some v => return v
    | none => textMethod h name (← thisText h this) args

end Library
end Script
end Restyle
