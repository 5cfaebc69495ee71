import Restyle.Script.Library.Array.Method
import Restyle.Script.Regex

/-!
# Restyle.Script.Library.Regex

Regular expressions: making them, their methods, and what the methods of texts ask of them.

An expression can be given another way to match. As long as it has none, all matches in a text
are found in one go.
-/

namespace Restyle
namespace Script
namespace Library

open Run

def regexMethodTable : List (String × Nat) := [("exec", 1), ("test", 1), ("toString", 0)]

/-- Methods under symbols, which the methods of texts call, with their number of parameters. -/
def regexSymbolTable : List (String × Nat × Nat) :=
  [("match", Symbols.match', 1), ("matchAll", Symbols.matchAll, 1), ("replace", Symbols.replace, 2),
    ("search", Symbols.search, 1), ("split", Symbols.split, 2)]

/-- Properties that are computed from the flags, with the letter of the flag. -/
def regexFlagNames : List (String × Char) :=
  [("hasIndices", 'd'), ("global", 'g'), ("ignoreCase", 'i'), ("multiline", 'm'), ("dotAll", 's'),
    ("unicode", 'u'), ("unicodeSets", 'v'), ("sticky", 'y')]

/-- Body and flags of a regular expression. -/
def regexParts? (v : Value) : Run (Option (String × String)) := do
  match v with
  | .object ref =>
    match (← obj ref).kind with
    | .regex body flags => return some (body, flags)
    | _ => return none
  | _ => return none

/-- Is a value to be taken as a regular expression? -/
def isRegex (h : Host) (v : Value) : Run Bool := do
  if !v.isObject then return false
  match ← getProp h v (.symbol Symbols.match') with
  | .undefined => return (← regexParts? v).isSome
  | m => return m.truthy

/-- Makes a regular expression with a parent, unless it is malformed. -/
def makeRegex (parent : Nat) (body flags : String) : Run Value := do
  match Regex.compile? body flags with
  | some _ =>
    newObject parent (.regex body flags) #[("lastIndex", ⟨.data (.number 0.0), true, false, false⟩)]
  | none => raise .form "invalid regular expression"

/-- An argument as the text of a part of an expression. -/
def partText (h : Host) (v : Value) : Run String := do
  match v with
  | .undefined => return ""
  | v => return (← toText h v).spell

/-- Body and flags that arguments of the constructor stand for. -/
def regexOf (h : Host) (pattern flags : Value) : Run (String × String) := do
  match ← regexParts? pattern with
  | some (body, own) =>
    if flags.isUndefined then return (body, own) else return (body, ← partText h flags)
  | none =>
    if ← isRegex h pattern then
      let body ← getName h pattern "source"
      let flags ← if flags.isUndefined then getName h pattern "flags" else pure flags
      let body ← partText h body
      return (body, ← partText h flags)
    else
      let body ← partText h pattern
      return (body, ← partText h flags)

/-! ## Matching -/

def hasFlag (flags : String) (c : Char) : Bool := flags.toList.contains c

def lastIndex (h : Host) (v : Value) : Run Nat := do toLength h (← getName h v "lastIndex")

def setLastIndex (h : Host) (v : Value) (i : Nat) : Run Unit := setProp h v "lastIndex" (.nat i)

/-- The next match of an expression from where it left off. -/
def nextMatch? (h : Host) (v : Value) (body flags : String) (s : Utf16) :
    Run (Option (Regex × Regex.Match)) := do
  let last ← lastIndex h v
  let sticky := hasFlag flags 'y'
  let moves := hasFlag flags 'g' || sticky
  match Regex.compile? body flags with
  | none => return none
  | some r =>
    match r.find? s.units (if moves then last else 0) sticky with
    | some m =>
      if moves then setLastIndex h v m.after.pos
      return some (r, m)
    | none =>
      if moves then setLastIndex h v 0
      return none

/-- The text of a group; undefined for one that took no part. -/
def groupValue (m : Regex.Match) (i : Nat) : Value :=
  match m.group? i with
  | some codes => .string (Regex.textOf codes)
  | none => .undefined

/-- The groups of a match in order. -/
def groupValues (r : Regex) (m : Regex.Match) : List Value :=
  (List.range r.groups).map fun i => groupValue m (i + 1)

/-- What the named groups of an expression stand for, as an object without a parent. -/
def namedValues (r : Regex) (value : Nat → Run Value) : Run Value := do
  if r.names.isEmpty then return .undefined
  let props ← r.names.mapM fun (x, i) => do return (Key.name x, Slot.plain (← value i))
  return .object (← alloc { parent := none, props := props.toArray })

def namedGroups (r : Regex) (m : Regex.Match) : Run Value :=
  namedValues r fun i => pure (groupValue m i)

/-- Start and end of a group. -/
def groupExtent (m : Regex.Match) (i : Nat) : Run Value := do
  match m.after.group? i with
  | some (start, codes) =>
    arrayOf #[.nat start, .nat (start + (Regex.unitsOf codes).length)]
  | none => return .undefined

/-- A match as an array, with the extents of its groups if they are asked for. -/
def matchArray (r : Regex) (m : Regex.Match) (input : Utf16) (extents : Bool) : Run Value := do
  let a ← arrayOfList (.string (Regex.textOf m.text) :: groupValues r m)
  let ref ← refOf a
  add ref "index" (.nat m.start)
  add ref "input" (.string input)
  add ref "groups" (← namedGroups r m)
  if extents then
    let whole ← arrayOf #[.nat m.start, .nat m.after.pos]
    let parts ← (List.range r.groups).mapM fun i => groupExtent m (i + 1)
    let all ← arrayOfList (whole :: parts)
    add (← refOf all) "groups" (← namedValues r (groupExtent m))
    add ref "indices" all
  return a

/-- What an expression itself gives for a text: a match, or null. -/
def execute (h : Host) (v : Value) (s : Utf16) : Run Value := do
  match ← regexParts? v with
  | none => typeError "value is not a regular expression"
  | some (body, flags) =>
    match ← nextMatch? h v body flags s with
    | some (r, m) => matchArray r m s (hasFlag flags 'd')
    | none => return .null

/-- What the way of an expression to match gives for a text. -/
def exec (h : Host) (v : Value) (s : Utf16) : Run Value := do
  let f ← getName h v "exec"
  if ← isCallable f then
    match ← h.call f v [.string s] with
    | .object r => return .object r
    | .null => return .null
    | _ => typeError "result of 'exec' must be an object or null"
  else execute h v s

/-- Is a property of the parent of all expressions still a function of the library? -/
def isUntouched (k : Key) (name : String) : Run Bool := do
  match (← obj Ref.regexProto).own? k with
  | some { content := .data (.object f), .. } | some { content := .accessor (.object f) _, .. } =>
    match (← obj f).kind with
    | .native n => return n.name == name
    | _ => return false
  | _ => return false

/-- Body and flags of an expression that matches in its own way. -/
def plainParts? (v : Value) : Run (Option (String × String)) := do
  match v with
  | .object ref =>
    let o ← obj ref
    match o.kind with
    | .regex body flags =>
      let isPlain := o.props.size == 1 && o.parent == some Ref.regexProto && o.props.all (·.2.writable)
      if isPlain && (← isUntouched "exec" "exec") && (← isUntouched "flags" "flags") &&
          (← isUntouched "constructor" "RegExp") then
        return some (body, flags)
      return none
    | _ => return none
  | _ => return none

/-- The position after one, or after the character there. -/
def advance (s : Utf16) (i : Nat) (unicode : Bool) : Nat :=
  if unicode then
    match (s.units.drop i).take 2 with
    | [u, v] => if Utf16.isHigh u && Utf16.isLow v then i + 2 else i + 1
    | _ => i + 1
  else i + 1

/-- Moves an expression on after a match that is empty. -/
def passEmpty (h : Host) (v : Value) (s text : Utf16) (unicode : Bool) : Run Unit := do
  if text.isEmpty then setLastIndex h v (advance s (← lastIndex h v) unicode)

/-- All results of an expression for a text, one after the other. -/
def allResults (h : Host) (v : Value) (s : Utf16) (unicode : Bool) : Nat → Run (List (Value × Utf16))
  | 0 => throw .limit
  | fuel + 1 => do
    match ← exec h v s with
    | .null => return []
    | result =>
      let text ← toText h (← getProp h result "0")
      passEmpty h v s text unicode
      return (result, text) :: (← allResults h v s unicode fuel)

/-- The flags of an expression as text. -/
def flagsText (h : Host) (v : Value) : Run String := do
  return (← toText h (← getName h v "flags")).spell

def readsPoints (flags : String) : Bool := hasFlag flags 'u' || hasFlag flags 'v'

def matchIn (h : Host) (v : Value) (s : Utf16) : Run Value := do
  let plain ← plainParts? v
  match plain.filter (hasFlag ·.2 'g') with
  | some (body, flags) =>
    setLastIndex h v 0
    match Regex.compile? body flags with
    | none => return .null
    | some r =>
      match r.all s.units 0 (hasFlag flags 'y') with
      | [] => return .null
      | ms => arrayOfList (ms.map fun m => .string (Regex.textOf m.text))
  | none =>
    let flags ← flagsText h v
    if !hasFlag flags 'g' then exec h v s
    else
      setLastIndex h v 0
      match ← allResults h v s (readsPoints flags) itemBound with
      | [] => return .null
      | rs => arrayOfList (rs.map fun r => .string r.2)

/-! ## Replacing -/

/-- An occurrence that is replaced. -/
structure Occurrence where
  text : Utf16
  start : Nat
  groups : List Value := []
  /-- An object that holds the groups by their names, or undefined. -/
  named : Value := .undefined

/-- What a text for replacement stands for, once an occurrence is known. -/
def expand (h : Host) (o : Occurrence) (s : Utf16) : Nat → List UInt16 → List UInt16 →
    Run (List UInt16)
  | 0, us, out => return out.reverse ++ us
  | _ + 1, [], out => return out.reverse
  | fuel + 1, u :: rest, out => do
    let put (us : List UInt16) := us.reverse ++ out
    let group (i : Nat) : Option Value := if i == 0 then none else o.groups[i - 1]?
    let textOf (v : Value) : List UInt16 :=
      match v with
      | .string t => t.units
      | _ => []
    if u != 36 then expand h o s fuel rest (u :: out)
    else
      match rest with
      | 36 :: rest => expand h o s fuel rest (36 :: out)
      | 38 :: rest => expand h o s fuel rest (put o.text.units)
      | 96 :: rest => expand h o s fuel rest (put (s.units.take o.start))
      | 39 :: rest => expand h o s fuel rest (put (s.units.drop (o.start + o.text.length)))
      | 60 :: rest =>
        let x := rest.takeWhile (· != 62)
        if o.named.isUndefined || x.length == rest.length then
          expand h o s fuel rest (60 :: 36 :: out)
        else
          let value ← match ← getProp h o.named (.name (Utf16.ofUnits x)) with
            | .undefined => pure (Utf16.whole "")
            | v => toText h v
          expand h o s fuel (rest.drop (x.length + 1)) (put value.units)
      | d :: rest =>
        if Regex.isDigit d.toNat then
          let one := d.toNat - 48
          let two := rest.head?.bind fun e =>
            if Regex.isDigit e.toNat then group (one * 10 + (e.toNat - 48)) else none
          match two with
          | some v => expand h o s fuel (rest.drop 1) (put (textOf v))
          | none =>
            match group one with
            | some v => expand h o s fuel rest (put (textOf v))
            | none => expand h o s fuel rest (d :: 36 :: out)
        else expand h o s fuel (d :: rest) (36 :: out)
      | [] => return (36 :: out).reverse

/-- What stands for an occurrence: the result of a function, or an expanded text. -/
def replacement (h : Host) (o : Occurrence) (s : Utf16) (by' : Value) : Run (List UInt16) := do
  match by' with
  | .string t =>
    let o ← if o.named.isUndefined then pure o else do
      pure { o with named := .object (← toObject o.named) }
    expand h o s (t.length + 1) t.units []
  | f =>
    let extra := if o.named.isUndefined then [] else [o.named]
    let v ← h.call f .undefined
      (.string o.text :: o.groups ++ [.nat o.start, .string s] ++ extra)
    return (← toText h v).units

/-- A text with occurrences replaced; the rest of it from a position on is given. -/
def replaceAll (h : Host) (s : Utf16) (by' : Value) :
    List Occurrence → Nat → List UInt16 → List (List UInt16) → Run Utf16
  | [], _, rest, out => return Utf16.ofUnits ((rest :: out).reverse.flatten)
  | o :: os, pos, rest, out => do
    let new ← replacement h o s by'
    if o.start < pos then replaceAll h s by' os pos rest out
    else
      let size := o.text.length
      replaceAll h s by' os (o.start + size) (rest.drop (o.start - pos + size))
        (new :: rest.take (o.start - pos) :: out)

/-- A match as an occurrence. -/
def occurrenceOf (r : Regex) (m : Regex.Match) : Run Occurrence := do
  return { text := Regex.textOf m.text, start := m.start, groups := groupValues r m
           named := ← namedGroups r m }

/-- A result of an expression as an occurrence. -/
def readOccurrence (h : Host) (s : Utf16) (result : Value) : Run Occurrence := do
  let count ← lengthOf h result
  let text ← toText h (← getProp h result "0")
  let start := clamp (← toInteger h (← getName h result "index")) s.length
  let groups ← (List.range (count - 1)).mapM fun i => do
    match ← itemAt h result (i + 1) with
    | .undefined => pure .undefined
    | v => return .string (← toText h v)
  return { text, start, groups, named := ← getName h result "groups" }

/-- A replacement as an argument: a function, or the text of another value. -/
def replacementOf (h : Host) (v : Value) : Run Value := do
  if ← isCallable v then return v else return .string (← toText h v)

def replaceIn (h : Host) (v : Value) (s : Utf16) (by' : Value) : Run Value := do
  let by' ← replacementOf h by'
  let occurrences ←
    match ← plainParts? v with
    | some (body, flags) =>
      if hasFlag flags 'g' then
        setLastIndex h v 0
        match Regex.compile? body flags with
        | some r => (r.all s.units 0 (hasFlag flags 'y')).mapM (occurrenceOf r)
        | none => pure []
      else
        match ← nextMatch? h v body flags s with
        | some (r, m) => do pure [← occurrenceOf r m]
        | none => pure []
    | none =>
      let flags ← flagsText h v
      if hasFlag flags 'g' then
        setLastIndex h v 0
        let rs ← allResults h v s (readsPoints flags) itemBound
        rs.mapM fun r => readOccurrence h s r.1
      else
        match ← exec h v s with
        | .null => pure []
        | r => do pure [← readOccurrence h s r]
  return .string (← replaceAll h s by' occurrences 0 s.units [])

/-! ## Splitting and searching -/

/-- The constructor to make an expression like another one with; none for a plain one. -/
def regexSpecies (h : Host) (v : Value) : Run (Option Value) := do
  match ← getName h v "constructor" with
  | .undefined => return none
  | c =>
    let _ ← refOf c
    match ← getProp h c (.symbol Symbols.species) with
    | .undefined | .null => return none
    | s =>
      if ← isConstructor s then return some s
      typeError "object is not a constructor"

/-- An expression like another one, with other flags. -/
def regexLike (h : Host) (v : Value) (flags : String) : Run Value := do
  match ← regexSpecies h v with
  | some c => h.construct c [v, .text flags] c
  | none =>
    let (body, flags) ← regexOf h v (.text flags)
    makeRegex Ref.regexProto body flags

/-- The pieces of a text between matches that are not empty at their place, and the groups of
the matches; the codes of the piece so far are reversed. Each place takes two steps at most: a
match that ends there, and a step beyond it. -/
def pieces (r : Regex) : Nat → Pattern.State Nat → Nat → List Nat → List Value
  | 0, _, _, piece => [.string (Regex.textOf piece.reverse)]
  | fuel + 1, st, from', piece =>
    match st.step? false with
    | none => [.string (Regex.textOf piece.reverse)]
    | some (c, next) =>
      match r.pattern.matchAt? { st with groups := [] } with
      | none => pieces r fuel next from' (c :: piece)
      | some m =>
        if m.after.pos == from' then pieces r fuel next from' (c :: piece)
        else
          .string (Regex.textOf piece.reverse) :: groupValues r m ++
            pieces r fuel m.after m.after.pos []

def plainSplit (r : Regex) (s : Utf16) : List Value :=
  if s.isEmpty then
    if (r.find? [] 0 true).isSome then [] else [.string s]
  else pieces r (2 * s.length + 2) (r.stateAt s.units 0) 0 []

/-- Pieces of a text by an expression that has its own way to match: from one position on, with
the search at another. -/
def splitFrom (h : Host) (v : Value) (s : Utf16) (unicode : Bool) : Nat → Nat → Nat →
    Array Value → Nat → Run (Array Value)
  | 0, _, _, _, _ => throw .limit
  | fuel + 1, from', at', out, limit => do
    let size := s.length
    if at' ≥ size then return out.push (.string (s.slice from' size))
    setLastIndex h v at'
    match ← exec h v s with
    | .null => splitFrom h v s unicode fuel from' (advance s at' unicode) out limit
    | result =>
      let e := min (← lastIndex h v) size
      if e == from' then splitFrom h v s unicode fuel from' (advance s at' unicode) out limit
      else
        let out := out.push (.string (s.slice from' at'))
        if out.size == limit then return out
        let count ← lengthOf h result
        let groups ← (List.range (count - 1)).mapM fun i => itemAt h result (i + 1)
        let out := out ++ groups.toArray
        if out.size ≥ limit then return out.extract 0 limit
        splitFrom h v s unicode fuel e e out limit

/-- How many pieces are wanted. -/
def splitLimit (h : Host) (v : Value) : Run Nat := do
  match v with
  | .undefined => return 4294967295
  | v => return Numeral.toUInt32 (← toNumber h v)

def splitBy (h : Host) (v : Value) (s : Utf16) (limit : Value) : Run Value := do
  match ← plainParts? v with
  | some (body, flags) =>
    let limit ← splitLimit h limit
    match Regex.compile? body flags with
    | some r => arrayOfList ((plainSplit r s).take limit)
    | none => arrayOf #[]
  | none =>
    let flags ← flagsText h v
    let splitter ← regexLike h v (if hasFlag flags 'y' then flags else flags ++ "y")
    let limit ← splitLimit h limit
    if limit == 0 then return ← arrayOf #[]
    if s.isEmpty then
      match ← exec h splitter s with
      | .null => return ← arrayOf #[.string s]
      | _ => return ← arrayOf #[]
    arrayOf (← splitFrom h splitter s (readsPoints flags) itemBound 0 0 #[] limit)

def searchIn (h : Host) (v : Value) (s : Utf16) : Run Value := do
  let old ← getName h v "lastIndex"
  if !old.identical (.number 0.0) then setLastIndex h v 0
  let result ← exec h v s
  if !(← getName h v "lastIndex").identical old then setProp h v "lastIndex" old
  match result with
  | .null => return .number (-1.0)
  | r => getName h r "index"

def matchAllIn (h : Host) (v : Value) (s : Utf16) : Run Value := do
  let flags ← flagsText h v
  let matcher ← regexLike h v flags
  setLastIndex h matcher (← lastIndex h v)
  newObject Ref.matchIteratorProto
    (.matchIterator matcher s (hasFlag flags 'g') (readsPoints flags) false) #[]

/-! ## Methods -/

/-- The body of an expression as it would be written between slashes. -/
def sourceText (body : String) : String :=
  if body.isEmpty then "(?:)"
  else
    String.ofList (body.toList.flatMap fun
      | '/' => ['\\', '/']
      | '\n' => ['\\', 'n']
      | '\r' => ['\\', 'r']
      | c => [c])

/-- The flags that the properties of an expression stand for. -/
def collectFlags (h : Host) (v : Value) : Run String := do
  let letters ← regexFlagNames.filterMapM fun (name, c) => do
    return if (← getName h v name).truthy then some c else none
  return String.ofList letters

/-- What the getters for the body and the flags of an expression give. -/
def regexGetter (this : Value) (name : String) : Run Value := do
  match ← regexParts? this with
  | some (body, flags) =>
    if name == "source" then return .text (sourceText body)
    return .boolean ((regexFlagNames.lookup name).any (hasFlag flags))
  | none =>
    if this.same (.object Ref.regexProto) then
      return if name == "source" then .text "(?:)" else .undefined
    typeError "value is not a regular expression"

def regexMethod : Body := fun h name this args => do
  let a := arg args 0
  match name with
  | "species" => return this
  | "exec" =>
    if (← regexParts? this).isNone then typeError "value is not a regular expression"
    execute h this (← toText h a)
  | "source" => regexGetter this name
  | _ =>
    if (regexFlagNames.lookup name).isSome then return ← regexGetter this name
    let _ ← refOf this
    match name with
    | "flags" => return .text (← collectFlags h this)
    | "toString" =>
      let body ← toText h (← getName h this "source")
      let flags ← toText h (← getName h this "flags")
      return .string ("/" ++ body ++ "/" ++ flags)
    | "test" =>
      match ← exec h this (← toText h a) with
      | .null => return .boolean false
      | _ => return .boolean true
    | "match" => matchIn h this (← toText h a)
    | "matchAll" => matchAllIn h this (← toText h a)
    | "replace" => replaceIn h this (← toText h a) (arg args 1)
    | "search" => searchIn h this (← toText h a)
    | "split" => splitBy h this (← toText h a) (arg args 1)
    | _ => unknown name

end Library
end Script
end Restyle
