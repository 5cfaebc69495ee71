import Restyle.Source.Literal
import Restyle.Source.Scan

/-!
# Restyle.Source.Enum

Enum declarations become a variable filled by a function that is called at once. Members map
to their values, and numeric values back to their names.
-/

namespace Restyle
namespace Source

namespace Scan

/-- Position after the string at `i`, or the end of the text if the string is open. -/
def stringStop (cs : Chars) (i : Nat) : Nat := (stringEnd? cs i).getD cs.size

theorem lt_stringStop {cs : Chars} {i : Nat} (h : i < cs.size) : i < stringStop cs i := by
  simp only [stringStop]
  cases hs : stringEnd? cs i with
  | none => simpa using h
  | some j => simpa using lt_of_stringEnd? hs

/-- Position of the end of the line that goes on at `i`. -/
def lineEnd (cs : Chars) (i : Nat) : Nat := (find? '\n' cs i).getD cs.size

/-- A text without its comments; a space stands for a block comment. Each step moves on. -/
def withoutComments (cs : Chars) : Nat → Nat → List Char
  | 0, _ => []
  | fuel + 1, i =>
    match cs[i]? with
    | none => []
    | some c =>
      if isQuoteMark c then slice cs i (stringStop cs i) ++ withoutComments cs fuel (stringStop cs i)
      else if startsAt cs i ['/', '/'] then withoutComments cs fuel (lineEnd cs i)
      else if startsAt cs i ['/', '*'] then
        ' ' :: withoutComments cs fuel ((commentEnd? cs (i + 2)).getD cs.size)
      else c :: withoutComments cs fuel (i + 1)

/-- The pieces between marks outside strings and brackets; `start` is where the piece began. -/
def splitFrom (cs : Chars) (mark : Char) (depth start i : Nat) : List (List Char) :=
  if h : i < cs.size then
    if isQuoteMark cs[i] then splitFrom cs mark depth start (stringStop cs i)
    else if isOpening cs[i] then splitFrom cs mark (depth + 1) start (i + 1)
    else if isClosing cs[i] then splitFrom cs mark (depth - 1) start (i + 1)
    else if cs[i] == mark && depth == 0 then
      slice cs start i :: splitFrom cs mark depth (i + 1) (i + 1)
    else splitFrom cs mark depth start (i + 1)
  else [slice cs start cs.size]
termination_by cs.size - i
decreasing_by
  · have := lt_stringStop h
    omega
  all_goals omega

/-- The pieces between marks outside strings and brackets. -/
def split (cs : List Char) (mark : Char) : List (List Char) := splitFrom cs.toArray mark 0 0 0

end Scan

namespace Enum

/-- Least and greatest of the numbers with sixty-four bits. -/
def isWord (n : Int) : Bool := -9223372036854775808 ≤ n && n < 9223372036854775808

/-- Reads decimal digits, with a sign or without, as a number of sixty-four bits. -/
def integer? (cs : List Char) : Option Int :=
  let (negative, digits) := match cs with
    | '-' :: rest => (true, rest)
    | '+' :: rest => (false, rest)
    | _ => (false, cs)
  if !digits.isEmpty && digits.all Char.isDigit then
    let n : Int := Text.decimal digits
    let n := if negative then -n else n
    if isWord n then some n else none
  else none

/-- Is the text one string or template? -/
def isString (cs : List Char) : Bool :=
  cs.head?.any isQuoteMark && Scan.stringEnd? cs.toArray 0 == some cs.length

/-- A member's key as a literal, if it is a string or a name. -/
def key? (raw : List Char) : Option (List Char) :=
  if raw.head?.any (fun c => c == '"' || c == '\'') then some raw
  else if !raw.isEmpty && raw.all isNamePart then some (stringLiteral raw)
  else none

/-- Before a member: the value counted so far, and the key of the member before it. -/
structure Count where
  next : Option Int := some 0
  previous : Option (List Char) := none

/-- The number after a value, while it fits. -/
def after (n : Int) : Option Int := if isWord (n + 1) then some (n + 1) else none

/-- The statement of a numeric member. -/
def numeric (name key value : List Char) : List Char :=
  ' ' :: name ++ '[' :: name ++ '[' :: key ++ "] = ".toList ++ value ++ "] = ".toList ++ key ++ [';']

/-- The statement for a member and the count after it. -/
def member (name key : List Char) (initializer : Option (List Char)) (count : Count) :
    List Char × Count :=
  let number (n : Int) :=
    (numeric name key (toString n).toList, ({ next := after n, previous := some key } : Count))
  match initializer with
  | some init =>
    if isString init then
      (' ' :: name ++ '[' :: key ++ "] = ".toList ++ init ++ [';'],
        { next := none, previous := some key })
    else
      match integer? init with
      | some n => number n
      | none => (numeric name key ('(' :: init ++ [')']), { next := none, previous := some key })
  | none =>
    match count.next, count.previous with
    | some n, _ => number n
    | none, some previous =>
      (numeric name key (name ++ '[' :: previous ++ "] + 1".toList),
        { next := none, previous := some key })
    | none, none => (numeric name key ['0'], { next := none, previous := some key })

/-- The statements of members; a key that is no string and no name is the fault. -/
def members (name : List Char) : Count → List (List Char) → Except (List Char) (List Char)
  | _, [] => .ok []
  | count, text :: rest =>
    let text := Text.trimBy Text.isBlank text
    if text.isEmpty then members name count rest
    else
      let (raw, initializer) := match Scan.split text '=' with
        | key :: _ :: _ =>
          (Text.trimBy Text.isBlank key, some (Text.trimBy Text.isBlank (text.drop (key.length + 1))))
        | pieces => (Text.trimBy Text.isBlank pieces.flatten, none)
      match key? raw with
      | none => .error raw
      | some key =>
        let (statement, count) := member name key initializer count
        (members name count rest).map (statement ++ ·)

/-- The declaration of a variable for an enum with a name and the text of its members. -/
def declaration (name : List Char) (body : Chars) : Except (List Char) (List Char) :=
  let body := Scan.withoutComments body (body.size + 1) 0
  (members name {} (Scan.split body ',')).map fun statements =>
    "var ".toList ++ name ++ " = (function (".toList ++ name ++ [')', ' ', '{'] ++ statements ++
      " return ".toList ++ name ++ [';', ' ', '}', ')', '('] ++ name ++
      [' ', '|', '|', ' ', '{', '}', ')', ';']

end Enum
end Source
end Restyle
