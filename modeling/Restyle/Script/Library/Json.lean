import Restyle.Script.Library.Basic
import Restyle.Json.Text

/-!
# Restyle.Script.Library.Json

Values as JSON text and JSON text as values.
-/

namespace Restyle
namespace Script
namespace Library

open Run

def jsonTable : List (String × Nat) := [("parse", 2), ("stringify", 3)]

/-! ## Writing -/

/-- A text in quotes; a surrogate that stands alone is written as an escape. -/
def quoteText (s : Utf16) : Utf16 :=
  match s with
  | .whole t => .whole (Json.quote t)
  | .broken us => .whole (String.ofList ('"' :: (Utf16.points us).flatMap (fun
      | .inl c => Json.escapeChar c
      | .inr u => '\\' :: 'u' :: Nat.toDigits 16 u.toNat) ++ ['"']))

/-- How JSON text is laid out and what goes into it. -/
structure JsonStyle where
  gap : Utf16
  /-- A function that replaces values, or undefined. -/
  replacer : Value
  /-- The keys to be written, if only some are. -/
  only : Option (List Key)

/-- Parts between brackets, each on a line of its own if there is a gap. -/
def bracketed (style : JsonStyle) (indent : Utf16) (first last : String) (parts : List Utf16) :
    Utf16 :=
  if parts.isEmpty then .whole (first ++ last)
  else if style.gap.isEmpty then .whole first ++ Utf16.join "," parts ++ .whole last
  else
    let inner := indent ++ style.gap
    .whole (first ++ "\n") ++ inner ++ Utf16.join (.whole ",\n" ++ inner) parts ++ .whole "\n" ++
      indent ++ .whole last

/-- The value that an object stands for: a number or a text is asked of it, anything else is what
it was made for. -/
def unwrapped (h : Host) (v : Value) : Run Value := do
  match v with
  | .object ref =>
    match (← obj ref).kind with
    | .wrapper (.number _) => return .number (← toNumber h v)
    | .wrapper (.string _) => return .string (← toText h v)
    | .wrapper (.boolean b) => return .boolean b
    | .wrapper (.bigint n) => return .bigint n
    | _ => return v
  | v => return v

/-- The JSON text of the value of a property, if it has one. -/
def writeJson (h : Host) (style : JsonStyle) :
    Nat → List Nat → Utf16 → Value → Key → Value → Run (Option Utf16)
  | 0, _, _, _, _, _ => rangeError "value is nested too deeply"
  | fuel + 1, above, indent, holder, k, v => do
    let v ← match v with
      | .object _ | .bigint _ => do
        let f ← getName h v "toJSON"
        if ← isCallable f then h.call f v [k.value] else pure v
      | v => pure v
    let v ← match style.replacer with
      | .undefined => pure v
      | f => h.call f holder [k.value, v]
    let v ← unwrapped h v
    match v with
    | .null => return some "null"
    | .boolean b => return some (if b then "true" else "false")
    | .number x => return some (if x.isFinite then Numeral.text x else "null")
    | .string s => return some (quoteText s)
    | .bigint _ => typeError "cannot serialize BigInt to JSON"
    | .undefined | .symbol _ => return none
    | .object ref =>
      if ← isCallable v then return none
      if above.contains ref then typeError "cyclic object value"
      let above := ref :: above
      let inner := indent ++ style.gap
      if ← isArray v then
        let n ← lengthOf h v
        let parts ← (List.range n).mapM fun i => do
          let t ← writeJson h style fuel above inner v (Key.ofNat i) (← itemAt h v i)
          return t.getD "null"
        return some (bracketed style indent "[" "]" parts)
      let ks ← match style.only with
        | some ks => pure ks
        | none => listedKeys h ref
      let parts ← ks.filterMapM fun k => do
        match ← writeJson h style fuel above inner v k (← getProp h v k) with
        | some t =>
          let name := match k with
            | .name s => quoteText s
            | _ => quoteText ""
          return some (name ++ .whole (if style.gap.isEmpty then ":" else ": ") ++ t)
        | none => return none
      return some (bracketed style indent "\x7b" "\x7d" parts)

/-- The gap that an argument asks for. -/
def gapOf (h : Host) (v : Value) : Run Utf16 := do
  return match ← unwrapped h v with
    | .number x => .whole (String.ofList (List.replicate (clamp x 10) ' '))
    | .string s => s.slice 0 10
    | _ => .whole ""

/-- The keys that a list names: its texts and numbers, each once. -/
def chosenKeys (h : Host) (v : Value) : Run (List Key) := do
  let ks ← (← listItems h v).filterMapM fun v => do
    match v with
    | .string s => return some (.name s)
    | .number x => return some (.name (Numeral.text x))
    | .object ref =>
      match (← obj ref).kind with
      | .wrapper (.number _) | .wrapper (.string _) => return some (.name (← toText h v))
      | _ => return none
    | _ => return none
  return ks.eraseDups

def stringify (h : Host) (args : List Value) : Run Value := do
  let r := arg args 1
  let isFunction ← isCallable r
  let isList ← isArray r
  let only ← if !isFunction && isList then some <$> chosenKeys h r else pure none
  let gap ← gapOf h (arg args 2)
  let style : JsonStyle := { gap, replacer := if isFunction then r else .undefined, only }
  let holder ← plainObject [(.name "", arg args 0)]
  match ← writeJson h style 1000 [] "" holder "" (arg args 0) with
  | some t => return .string t
  | none => return .undefined

/-! ## Reading -/

/-- JSON text as it is written. -/
inductive JsonTree where
  | null
  | boolean (b : Bool)
  | number (x : Float)
  | string (s : String)
  | array (items : List JsonTree)
  | object (fields : List (String × JsonTree))

/-- Reads a string after its opening quote. Characters are collected in reverse. -/
def readJsonString : Nat → List Char → List Char → Option (String × List Char)
  | 0, _, _ => none
  | _ + 1, [], _ => none
  | _ + 1, '"' :: rest, out => some (String.ofList out.reverse, rest)
  | fuel + 1, '\\' :: rest, out =>
    match Json.readEscape? rest with
    | some (c, rest) => readJsonString fuel rest (c :: out)
    | none => none
  | fuel + 1, c :: rest, out => if c.toNat < 32 then none else readJsonString fuel rest (c :: out)

/-- Reads a number; one that is too great is malformed. -/
def readJsonNumber (cs : List Char) : Option (Float × List Char) :=
  let (negative, rest) := match cs with
    | '-' :: rest => (true, rest)
    | cs => (false, cs)
  let whole := rest.takeWhile Char.isDigit
  let rest := rest.drop whole.length
  if whole.isEmpty || (whole.length > 1 && whole.head? == some '0') then none
  else
    let fraction := match rest with
      | '.' :: rest => rest.takeWhile Char.isDigit
      | _ => []
    let badPoint := rest.head? == some '.' && fraction.isEmpty
    let rest := if rest.head? == some '.' then rest.drop (fraction.length + 1) else rest
    let (exponent, rest, badExponent) : List Char × List Char × Bool := match rest with
      | c :: more =>
        if c == 'e' || c == 'E' then
          let (sign, ds) : List Char × List Char := match more with
            | '-' :: ds => (['-'], ds)
            | '+' :: ds => ([], ds)
            | ds => ([], ds)
          let digits := ds.takeWhile Char.isDigit
          ('e' :: sign ++ digits, ds.drop digits.length, digits.isEmpty)
        else ([], rest, false)
      | [] => ([], rest, false)
    if badPoint || badExponent then none
    else
      ((Numeral.unsigned? (whole ++ '.' :: fraction ++ exponent)).filter Float.isFinite).map fun x =>
        (if negative then -x else x, rest)

mutual

/-- Reads a value, with brackets in each other as deeply as a number says. -/
def readJson : Nat → Nat → List Char → Option (JsonTree × List Char)
  | 0, _, _ => none
  | fuel + 1, depth, cs =>
    match Json.skipSpaces cs with
    | 'n' :: 'u' :: 'l' :: 'l' :: rest => some (.null, rest)
    | 't' :: 'r' :: 'u' :: 'e' :: rest => some (.boolean true, rest)
    | 'f' :: 'a' :: 'l' :: 's' :: 'e' :: rest => some (.boolean false, rest)
    | '"' :: rest => (readJsonString (rest.length + 1) rest []).map fun (s, rest) => (.string s, rest)
    | '[' :: rest =>
      match depth, Json.skipSpaces rest with
      | 0, _ => none
      | _ + 1, ']' :: rest => some (.array [], rest)
      | depth + 1, rest => readJsonItems fuel depth rest []
    | '{' :: rest =>
      match depth, Json.skipSpaces rest with
      | 0, _ => none
      | _ + 1, '}' :: rest => some (.object [], rest)
      | depth + 1, rest => readJsonFields fuel depth rest []
    | cs => (readJsonNumber cs).map fun (x, rest) => (.number x, rest)

/-- Reads the items of an array up to its closing bracket. -/
def readJsonItems : Nat → Nat → List Char → List JsonTree → Option (JsonTree × List Char)
  | 0, _, _, _ => none
  | fuel + 1, depth, cs, out =>
    match readJson fuel depth cs with
    | none => none
    | some (v, rest) =>
      match Json.skipSpaces rest with
      | ',' :: rest => readJsonItems fuel depth rest (v :: out)
      | ']' :: rest => some (.array (v :: out).reverse, rest)
      | _ => none

/-- Reads the fields of an object up to its closing brace. -/
def readJsonFields : Nat → Nat → List Char → List (String × JsonTree) →
    Option (JsonTree × List Char)
  | 0, _, _, _ => none
  | fuel + 1, depth, cs, out =>
    match Json.skipSpaces cs with
    | '"' :: rest =>
      match readJsonString (rest.length + 1) rest [] with
      | none => none
      | some (k, rest) =>
        match Json.skipSpaces rest with
        | ':' :: rest =>
          match readJson fuel depth rest with
          | none => none
          | some (v, rest) =>
            match Json.skipSpaces rest with
            | ',' :: rest => readJsonFields fuel depth rest ((k, v) :: out)
            | '}' :: rest => some (.object ((k, v) :: out).reverse, rest)
            | _ => none
        | _ => none
    | _ => none

end

/-- How deeply brackets may be in each other. -/
def jsonDepth : Nat := 127

mutual

/-- Makes the value that was read. -/
def buildJson : JsonTree → Run Value
  | .null => pure .null
  | .boolean b => pure (.boolean b)
  | .number x => pure (.number x)
  | .string s => pure (.string s)
  | .array items => do arrayOfList (← buildItems items)
  | .object fields => do
    let ref ← alloc { parent := some Ref.objectProto }
    buildFields ref fields
    return .object ref

def buildItems : List JsonTree → Run (List Value)
  | [] => pure []
  | t :: ts => do
    let v ← buildJson t
    return v :: (← buildItems ts)

def buildFields (ref : Nat) : List (String × JsonTree) → Run Unit
  | [] => pure ()
  | (k, t) :: rest => do
    add ref (.name k) (← buildJson t)
    buildFields ref rest

end

/-- Lets a function change values from the inside out. -/
def revive (h : Host) (f : Value) : Nat → Value → Key → Run Value
  | 0, _, _ => rangeError "value is nested too deeply"
  | fuel + 1, holder, k => do
    let v ← getProp h holder k
    match v with
    | .object ref =>
      let isList ← isArray v
      let ks ← if isList then do pure ((List.range (← lengthOf h v)).map Key.ofNat)
        else listedKeys h ref
      for k' in ks do
        match ← revive h f fuel v k' with
        | .undefined =>
          let _ ← deleteOwn h ref k'
        | new =>
          let _ ← tryCreate h ref k' new
    | _ => pure ()
    h.call f holder [k.value, v]

def parseJson (h : Host) (args : List Value) : Run Value := do
  let s ← toText h (arg args 0)
  -- a surrogate that stands alone is part of no JSON text
  let cs := ((s.text?).getD "").toList
  match readJson (2 * cs.length + 10) jsonDepth cs with
  | some (t, rest) =>
    if !(Json.skipSpaces rest).isEmpty then raise .form "unexpected text after JSON value"
    let v ← buildJson t
    if ← isCallable (arg args 1) then
      let holder ← plainObject [(.name "", v)]
      revive h (arg args 1) 1000 holder ""
    else return v
  | none => raise .form "malformed JSON"

def json : Body := fun h name _ args => do
  match name with
  | "parse" => parseJson h args
  | "stringify" => stringify h args
  | _ => unknown name

end Library
end Script
end Restyle
