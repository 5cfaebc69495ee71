import Restyle.Script.Library.Collection
import Restyle.Script.Library.Date
import Restyle.Script.Library.Function
import Restyle.Script.Library.Number
import Restyle.Script.Library.Promise
import Restyle.Script.Library.Regex

/-!
# Restyle.Script.Library.Constructor

The constructors of the library, called as functions or to make objects. A new object takes its
parent from the function that `new` was applied to, so that classes can extend them.
-/

namespace Restyle
namespace Script
namespace Library

open Run

/-- Constructors, with their number of parameters and the parent of what they make. -/
def constructorTable : List (String × Nat × Nat) :=
  [("Object", 1, Ref.objectProto), ("Function", 1, Ref.functionProto), ("Array", 1, Ref.arrayProto),
    ("String", 1, Ref.stringProto), ("Number", 1, Ref.numberProto),
    ("Boolean", 1, Ref.booleanProto), ("Symbol", 0, Ref.symbolProto),
    ("BigInt", 1, Ref.bigintProto), ("RegExp", 2, Ref.regexProto), ("Map", 0, Ref.mapProto),
    ("Set", 0, Ref.setProto), ("WeakMap", 0, Ref.weakMapProto), ("WeakSet", 0, Ref.weakSetProto),
    ("WeakRef", 1, Ref.weakRefProto), ("Promise", 1, Ref.promiseProto), ("Date", 7, Ref.dateProto)]

/-- Constructors of errors; those of special errors inherit from that of plain ones. -/
def errorTable : List (String × Nat × Nat) :=
  ErrorKind.all.map fun k => (k.name, (if k == .aggregate then 2 else 1), Ref.errorProto k)

/-- The parent of a new object. -/
def parentFor (h : Host) (newTarget : Value) (default : Nat) : Run Nat := do
  match newTarget with
  | .undefined => return default
  | f =>
    match ← getName h f "prototype" with
    | .object p => return p
    | _ => return default

def make (h : Host) (newTarget : Value) (proto : Nat) (kind : Kind) : Run Value := do
  newObject (← parentFor h newTarget proto) kind #[]

/-- Is the value a constructor of the library with a name? -/
def isMaker (v : Value) (name : String) : Run Bool := do
  match v with
  | .object ref =>
    match (← obj ref).kind with
    | .native f => return f == ⟨.constructor, name⟩
    | _ => return false
  | _ => return false

/-- Makes an error with a message, a cause if one is given, and the errors that it stands for. -/
def makeError (h : Host) (kind : ErrorKind) (args : List Value) (newTarget : Value) :
    Run Value := do
  let (message, options) := match kind with
    | .aggregate => (arg args 1, arg args 2)
    | _ => (arg args 0, arg args 1)
  let e ← make h newTarget (Ref.errorProto kind) (.error kind)
  let ref ← refOf e
  if !message.isUndefined then
    let s ← toText h message
    put ref "message" (.quiet (.string s))
  match options with
  | .object o =>
    if ← hasProperty h o "cause" then
      let cause ← getName h options "cause"
      put ref "cause" (.quiet cause)
  | _ => pure ()
  if kind == .aggregate then
    let all ← arrayOf (← itemsOf h (arg args 0))
    put ref "errors" (.quiet all)
  return e

/-- Fills a new collection by its own method, with entries or with items. -/
def fillBy (h : Host) (v items : Value) (method : String) : Run Value := do
  match items with
  | .undefined | .null => return v
  | items =>
    let f ← callback (← getName h v method)
    forItems h items fun _ x => do
      if method == "set" then
        if !x.isObject then typeError "entry is not an object"
        let k ← getProp h x "0"
        let _ ← h.call f v [k, ← getProp h x "1"]
      else
        let _ ← h.call f v [x]
    return v

/-- Makes a collection. -/
def makeCollection (h : Host) (name : String) (items newTarget : Value) : Run Value := do
  match name with
  | "Map" => do fillBy h (← make h newTarget Ref.mapProto (.map #[])) items "set"
  | "Set" => do fillBy h (← make h newTarget Ref.setProto (.set #[])) items "add"
  | "WeakMap" => do fillBy h (← make h newTarget Ref.weakMapProto (.weakMap [])) items "set"
  | _ => do fillBy h (← make h newTarget Ref.weakSetProto (.weakSet [])) items "add"

/-- Items and length of a new array. -/
def arrayItems (args : List Value) : Run (Array (Option Value) × Nat) := do
  match args with
  | [.number x] =>
    match asIndex? x with
    | some n => return (#[], n)
    | none => rangeError "invalid array length"
  | args => return ((args.map some).toArray, args.length)

/-- Makes a regular expression; called as a function, it leaves one as it is. -/
def regexFrom (h : Host) (pattern flags newTarget : Value) : Run Value := do
  let asIs ←
    if newTarget.isUndefined && flags.isUndefined then do
      if ← isRegex h pattern then isMaker (← getName h pattern "constructor") "RegExp"
      else pure false
    else pure false
  if asIs then return pattern
  let (body, flags) ← regexOf h pattern flags
  makeRegex (← parentFor h newTarget Ref.regexProto) body flags

/-- Constructors that cannot be called as functions. -/
def onlyNew : List String :=
  ["Map", "Set", "WeakMap", "WeakSet", "WeakRef", "Promise", "Proxy"]

/-- A value as a text, also a symbol. -/
def anyText (h : Host) (v : Value) : Run Utf16 := do
  match v with
  | .symbol id =>
    match ← symbolDescription id with
    | .string d => return "Symbol(" ++ d ++ ")"
    | _ => return "Symbol()"
  | v => toText h v

/-- A value as a number, also an integer of any size. -/
def anyNumber (h : Host) (v : Value) : Run Float := do
  match ← toNumeric h v with
  | .bigint n => return Numeral.ofInt n
  | .number x => return x
  | _ => return Numeral.nan

/-- Calls a constructor as a function, or makes an object if `newTarget` is given. -/
def construct (h : Host) (name : String) (args : List Value) (newTarget : Value) : Run Value := do
  let a := arg args 0
  let isNew := newTarget.isObject
  if !isNew && onlyNew.contains name then typeError "constructor requires 'new'"
  match name with
  | "Object" =>
    let isOwn ← isMaker newTarget name
    if isNew && !isOwn then make h newTarget Ref.objectProto .ordinary
    else if a.isNullish then newObject Ref.objectProto .ordinary #[]
    else return .object (← toObject a)
  | "Function" => raise .evaluation "code in texts is not run"
  | "Array" =>
    let parent ← parentFor h newTarget Ref.arrayProto
    let (items, length) ← arrayItems args
    newObject parent (.array items length) #[]
  | "String" =>
    let s ← if args.isEmpty then pure (Utf16.whole "")
      else if isNew then toText h a else anyText h a
    if isNew then make h newTarget Ref.stringProto (.wrapper (.string s)) else return .string s
  | "Number" =>
    let x ← if args.isEmpty then pure 0.0 else anyNumber h a
    if isNew then make h newTarget Ref.numberProto (.wrapper (.number x)) else return .number x
  | "Boolean" =>
    let b := a.truthy
    if isNew then make h newTarget Ref.booleanProto (.wrapper (.boolean b)) else return .boolean b
  | "Symbol" =>
    if isNew then typeError "Symbol is not a constructor"
    match a with
    | .undefined => return .symbol (← newSymbol .undefined)
    | v => return .symbol (← newSymbol (.string (← toText h v)))
  | "BigInt" =>
    if isNew then typeError "BigInt is not a constructor"
    return .bigint (← makeBigint h a)
  | "RegExp" => regexFrom h a (arg args 1) newTarget
  | "Map" | "Set" | "WeakMap" | "WeakSet" => makeCollection h name a newTarget
  | "WeakRef" =>
    if !a.isObject then typeError "target of a WeakRef must be an object"
    make h newTarget Ref.weakRefProto (.weakRef a)
  | "Proxy" => makeProxy a (arg args 1)
  | "Promise" =>
    let f ← callback a
    let p ← make h newTarget Ref.promiseProto .promise
    let _ ← orCatch (do h.call f .undefined [← settler, ← settler]) fun _ => pure .undefined
    return p
  | "Date" =>
    if isNew then
      let t ← timeOfArgs h args
      make h newTarget Ref.dateProto (.date t)
    else return .text ((momentOf 0.0).text "toString")
  | name =>
    match ErrorKind.all.find? (·.name == name) with
    | some kind => makeError h kind args newTarget
    | none => typeError "value is not a constructor"

end Library
end Script
end Restyle
