import Restyle.Source.Lowering
import Restyle.Proofs.Source.Extent

/-!
# Restyle.Proofs.Source.Reading

What lowering reads as markup, and what it reads without looking for markup.

* `OpeningTag`: the opening tag of an element that is lowered.
* `Passage`: a piece of source in which no markup is looked for.
* `codeAccount` and its companions follow lowering call by call and give an account of both.

Lowering as rules about positions: `Reads s r A` says that reading `r` of the listing `s` succeeds
and has the account `A`. There is one rule for each case of the functions of lowering, with what
its position depends on.

* `Reads.forward`: reading goes forward.
* `Reads.covers`: every `<` that is read belongs to the tag of an element that is lowered, or to a
  closing tag, or stands in a passage in which no markup is looked for.
-/

namespace Restyle
namespace Source

/-- What a passage is. `types` are annotations and declarations that go, `template` is text of a
template or a whole one, `parameters` is a whole list of parameters, `tagSpace` is what stands
between the attributes of a tag, and `text` stands between tags. -/
inductive PassageKind where
  | comment | string | regex | types | comparison | template | parameters | tagSpace | attribute
  | text
  deriving Repr, DecidableEq

structure Passage where
  kind : PassageKind
  start : Nat
  stop : Nat
  deriving Repr, DecidableEq

/-- An opening tag, from its `<` to after its `>`. -/
structure OpeningTag where
  name : List Char := []
  start : Nat := 0
  stop : Nat := 0
  /-- What stands between its attributes. -/
  spaces : List Passage := []
  /-- Passages in the braces of its attributes. -/
  inner : List Passage := []
  /-- Is one of its values an element without braces? -/
  holdsElement : Bool := false
  deriving Repr, DecidableEq

structure Account where
  /-- The opening tags of elements that are lowered. -/
  tags : List OpeningTag := []
  /-- Where no markup is looked for, though a `<` may stand there. -/
  passages : List Passage := []
  /-- What a reader has to get over that looks for the end of a tag around: passages with quotation
  marks or braces of their own. -/
  hurdles : List Passage := []
  deriving Repr, DecidableEq

namespace Account

instance : Append Account :=
  ⟨fun a b => ⟨a.tags ++ b.tags, a.passages ++ b.passages, a.hurdles ++ b.hurdles⟩⟩

@[simp] theorem tags_append (a b : Account) : (a ++ b).tags = a.tags ++ b.tags := rfl

@[simp] theorem passages_append (a b : Account) : (a ++ b).passages = a.passages ++ b.passages := rfl

@[simp] theorem hurdles_append (a b : Account) : (a ++ b).hurdles = a.hurdles ++ b.hurdles := rfl

/-- A passage that no reader stumbles over. -/
def passage (kind : PassageKind) (start stop : Nat) : Account :=
  { passages := [⟨kind, start, stop⟩] }

def hurdle (kind : PassageKind) (start stop : Nat) : Account :=
  { passages := [⟨kind, start, stop⟩], hurdles := [⟨kind, start, stop⟩] }

/-- A passage with markup in it, to be got over as a whole. -/
def whole (a : Account) (kind : PassageKind) (start stop : Nat) : Account :=
  { a with hurdles := [⟨kind, start, stop⟩] }

/-- The account of a construct that is copied or dropped, where that succeeds. -/
def ofCursor (account : Nat → Account) (result : Except FaultAt Cursor) : Account :=
  match result with
  | .ok c => account c.pos
  | .error _ => {}

end Account

namespace OpeningTag

/-- The tag with white space and comments before its next attribute. -/
def spaced (o : OpeningTag) (start stop : Nat) : OpeningTag :=
  { o with spaces := ⟨.tagSpace, start, stop⟩ :: o.spaces }

/-- The tag with the value of one more attribute. -/
def holding (o : OpeningTag) (inner : List Passage) (holdsElement : Bool) : OpeningTag :=
  { o with inner := inner ++ o.inner, holdsElement := holdsElement || o.holdsElement }

end OpeningTag

open Scan Listing Account in
mutual

/-- The account of code from the cursor on. -/
def codeAccount (s : Listing) : Nat → Stop → Nat → Cursor → Account
  | 0, _, _, _ => {}
  | fuel + 1, stop, depth, c =>
    if stop.reached c.pos then {}
    else
      match s.charAt? c.pos with
      | none => {}
      | some d =>
        if d == '}' && depth == 0 && stop == .brace then {}
        else
          match construct s fuel d c with
          | .ok next =>
            constructAccount s fuel d c ++ codeAccount s fuel stop (braceDepth depth d) next
          | .error _ => {}

/-- The account of the construct at the cursor, where `d` stands. -/
def constructAccount (s : Listing) : Nat → Char → Cursor → Account
  | 0, _, _ => {}
  | fuel + 1, d, c =>
    let next := s.charAt? (c.pos + 1)
    if d == '/' && next == some '/' then hurdle .comment c.pos (c.lineComment s).pos
    else if d == '/' && next == some '*' then ofCursor (hurdle .comment c.pos) (c.blockComment s)
    else if d == '\'' || d == '"' then ofCursor (passage .string c.pos) (c.string s)
    else if d == '\x60' then
      ofCursor ((templateAccount s fuel (c.copyBlank d)).whole .template c.pos)
        (template s fuel c.pos (c.copyBlank d))
    else if d == '{' || d == '}' then {}
    else if d == '<' then angleAccount s fuel c
    else if d == '/' then
      if c.previous.startsExpression then ofCursor (hurdle .regex c.pos) (c.slash s) else {}
    else if d == '(' then openParenAccount s fuel c
    else if d == '!' && s.assertsValue c then {}
    else if d == '.' && next.any Char.isDigit then {}
    else if isNameStart d then
      -- a word that is only copied is no passage
      ofCursor (fun stop =>
        if stop == nameEnd s.chars c.pos then {} else hurdle .types c.pos stop) (c.word s)
    else {}

def angleAccount (s : Listing) : Nat → Cursor → Account
  | 0, _ => {}
  | fuel + 1, c =>
    let starts := c.previous.startsExpression
    match if s.dialect.hasTypes && starts then s.arrowParametersEnd? c.pos else none with
    | some stop => hurdle .types c.pos stop
    | none =>
      if s.dialect.allowsMarkup && starts &&
          (s.charAt? (c.pos + 1)).any (fun d => d == '>' || isNameStart d) then
        elementAccount s fuel c.pos
      else
        match if s.dialect.hasTypes && c.previous.endsValue then s.callArgumentsEnd? c.pos
          else none with
        | some stop => hurdle .types c.pos stop
        | none => passage .comparison c.pos (c.pos + 1)

def openParenAccount (s : Listing) : Nat → Cursor → Account
  | 0, _ => {}
  | fuel + 1, c =>
    let closing := if s.dialect.hasTypes then close? s.chars c.pos else none
    match closing, closing.bind (s.parametersEnd? c.previous) with
    | some close, some stop =>
      let inner := parametersAccount s fuel close (c.copyBlank '(')
      ofCursor (fun last => (inner ++ passage .types last stop).whole .parameters c.pos stop)
        (parameters s fuel close (c.copyBlank '('))
    | _, _ => {}

def parametersAccount (s : Listing) : Nat → Nat → Cursor → Account
  | 0, _, _ => {}
  | fuel + 1, close, c =>
    let p := parameter s.chars c.pos close
    let start := { c with previous := .start }
    match code s fuel (.limit p.nameStop) 0 start with
    | .error _ => {}
    | .ok named =>
      let typed := named.passType p
      let account := codeAccount s fuel (.limit p.nameStop) 0 start ++
        passage .types named.pos typed.pos
      match if p.equals.isSome then code s fuel (.limit p.stop) 0 typed else .ok typed with
      | .error _ => {}
      | .ok last =>
        let account := account ++
          (if p.equals.isSome then codeAccount s fuel (.limit p.stop) 0 typed else {})
        if p.stop ≥ close then account
        else
          account ++ (passage .types last.pos (p.stop + 1) ++
            parametersAccount s fuel close { last.write [','] with pos := p.stop + 1 })

/-- The account of a template from after its opening mark. -/
def templateAccount (s : Listing) : Nat → Cursor → Account
  | 0, _ => {}
  | fuel + 1, c =>
    match s.charAt? c.pos with
    | none => {}
    | some d =>
      let c' := c.copyBlank d
      let next := s.charAt? (c.pos + 1)
      if d == '\\' then
        let escaped := match next with
          | some e => c'.copyBlank e
          | none => c'
        passage .template c.pos escaped.pos ++ templateAccount s fuel escaped
      else if d == '\x60' then {}
      else if d == '$' && next == some '{' then
        let start := { c'.copyBlank '{' with previous := .start }
        match code s fuel .brace 0 start with
        | .ok inner =>
          codeAccount s fuel .brace 0 start ++
            templateAccount s fuel { inner.write ['}'] with previous := c.previous }
        | .error _ => {}
      else passage .template c.pos c'.pos ++ templateAccount s fuel c'

def captureAccount (s : Listing) : Nat → Nat → Account
  | 0, _ => {}
  | fuel + 1, pos => codeAccount s fuel .brace 0 { pos }

/-- The account of the element at a position; a fragment has the empty name. -/
def elementAccount (s : Listing) : Nat → Nat → Account
  | 0, _ => {}
  | fuel + 1, start =>
    match skipTagSpaces s.chars (s.chars.size + 1) (start + 1) with
    | .error _ => {}
    | .ok pos =>
      if s.charAt? pos == some '>' then
        { tags := [{ start, stop := pos + 1 }] } ++
          (hurdle .tagSpace (start + 1) pos ++ childrenAccount s fuel (pos + 1))
      else
        match tagName s pos with
        | .error _ => {}
        | .ok (name, stop) =>
          { tags := [{ openingTag s fuel stop with name, start }] } ++
            (hurdle .tagSpace (start + 1) pos ++ attributesAccount s fuel stop)

/-- The rest of an opening tag, from after some of its attributes. -/
def openingTag (s : Listing) : Nat → Nat → OpeningTag
  | 0, _ => {}
  | fuel + 1, pos =>
    match skipTagSpaces s.chars (s.chars.size + 1) pos with
    | .error _ => {}
    | .ok item =>
      let here : OpeningTag := {}
      match s.charAt? item with
      | none => {}
      | some d =>
        if d == '/' then { here.spaced pos item with stop := item + 2 }
        else if d == '>' then { here.spaced pos item with stop := item + 1 }
        else if d == '{' then
          let inside := skipSpaces s.chars (item + 1) + 3
          match capture s fuel inside with
          | .error _ => {}
          | .ok (_, next) =>
            ((openingTag s fuel next).holding (captureAccount s fuel inside).hurdles false).spaced
              pos item
        else
          match tagName s item with
          | .error _ => {}
          | .ok (_, stop) =>
            let sign := skipSpaces s.chars stop
            if s.charAt? sign == some '=' then
              let value := skipSpaces s.chars (sign + 1)
              match attributeValue s fuel value with
              | .error _ => {}
              | .ok (_, next) =>
                ((openingTag s fuel next).holding (valueHurdles s fuel value)
                  (s.charAt? value == some '<')).spaced pos item
            else (openingTag s fuel sign).spaced pos item

/-- The hurdles in the braces of an attribute's value. -/
def valueHurdles (s : Listing) : Nat → Nat → List Passage
  | 0, _ => []
  | fuel + 1, pos =>
    if s.charAt? pos == some '{' then (captureAccount s fuel (pos + 1)).hurdles else []

/-- The account of a tag and the element's contents, from after some of its attributes. -/
def attributesAccount (s : Listing) : Nat → Nat → Account
  | 0, _ => {}
  | fuel + 1, pos =>
    match skipTagSpaces s.chars (s.chars.size + 1) pos with
    | .error _ => {}
    | .ok item =>
      hurdle .tagSpace pos item ++
        match s.charAt? item with
        | none => {}
        | some d =>
          if d == '/' then {}
          else if d == '>' then childrenAccount s fuel (item + 1)
          else if d == '{' then
            let inside := skipSpaces s.chars (item + 1) + 3
            match capture s fuel inside with
            | .error _ => {}
            | .ok (_, next) => captureAccount s fuel inside ++ attributesAccount s fuel next
          else
            match tagName s item with
            | .error _ => {}
            | .ok (_, stop) =>
              let sign := skipSpaces s.chars stop
              if s.charAt? sign == some '=' then
                let value := skipSpaces s.chars (sign + 1)
                match attributeValue s fuel value with
                | .error _ => {}
                | .ok (_, next) =>
                  attributeValueAccount s fuel value ++ attributesAccount s fuel next
              else attributesAccount s fuel sign

def attributeValueAccount (s : Listing) : Nat → Nat → Account
  | 0, _ => {}
  | fuel + 1, pos =>
    match s.charAt? pos with
    | some '{' => captureAccount s fuel (pos + 1)
    | some '<' => elementAccount s fuel pos
    | some d =>
      match find? d s.chars (pos + 1) with
      | some stop => hurdle .attribute pos (stop + 1)
      | none => {}
    | none => {}

def childrenAccount (s : Listing) : Nat → Nat → Account
  | 0, _ => {}
  | fuel + 1, pos =>
    match s.charAt? pos with
    | none => {}
    | some d =>
      if d == '<' then
        if s.charAt? (skipSpaces s.chars (pos + 1)) == some '/' then {}
        else
          match element s fuel pos with
          | .error _ => {}
          | .ok (_, next) => elementAccount s fuel pos ++ childrenAccount s fuel next
      else if d == '{' then
        match capture s fuel (pos + 1) with
        | .error _ => {}
        | .ok (_, next) => captureAccount s fuel (pos + 1) ++ childrenAccount s fuel next
      else
        let stop := skip (fun e => e != '<' && e != '{') s.chars pos
        { hurdles := [⟨.text, pos, stop⟩] } ++ childrenAccount s fuel stop

end

/-- The account of a whole source. -/
def account (source : String) (dialect : Dialect) : Account :=
  let cs := source.toList
  codeAccount ⟨cs.toArray, dialect⟩ (stepsPerChar * (cs.length + 2)) .text 0 {}

end Source

/-! ## Rules of reading -/

namespace Source

open Scan Listing

/-- What is read, and from where to where. -/
inductive Reading where
  | code (stop : Stop) (depth : Nat) (a b : Cursor)
  | construct (a b : Cursor)
  | parameters (a b : Cursor)
  | template (a b : Cursor)
  | capture (i j : Nat)
  | element (i j : Nat)
  | attributes (i : Nat) (opening : OpeningTag) (j : Nat)
  | value (i j : Nat) (inner : List Passage) (holdsElement : Bool)
  | children (i j : Nat)

/-- Characters of code that begin no string, no markup and no block. -/
def isPlainCode (c : Char) : Bool := !(['<', '"', '\'', '\x60', '{', '}'].contains c)

/-- A class without the marks that are not plain. -/
theorem isPlainCode_of_class {p : Char → Bool}
    (hp : ['<', '"', '\'', '\x60', '{', '}'].all (!p ·) = true) (c : Char) (h : p c = true) :
    isPlainCode c = true := by
  rw [isPlainCode, Bool.not_eq_true', Bool.eq_false_iff]
  intro hc
  have hnot := List.all_eq_true.mp hp c (List.contains_iff_mem.mp hc)
  rw [h] at hnot
  cases hnot

/-- The characters from one position to another are of a class. -/
def Holds (s : Listing) (p : Char → Bool) (i j : Nat) : Prop :=
  ∀ k c, i ≤ k → k < j → s.charAt? k = some c → p c = true

namespace Holds

variable {s : Listing} {p q : Char → Bool} {i j k : Nat} {c : Char}

theorem single (hc : s.charAt? i = some c) (hp : p c = true) : Holds s p i (i + 1) := by
  intro k d hk hk' hd
  obtain rfl : k = i := by omega
  rw [hc] at hd
  cases hd
  exact hp

theorem append (h : Holds s p i j) (h' : Holds s p j k) : Holds s p i k := by
  intro n d hi hk hd
  by_cases hj : n < j
  · exact h n d hi hj hd
  · exact h' n d (by omega) hk hd

theorem mono (h : Holds s p i j) (hpq : ∀ c, p c = true → q c = true) : Holds s q i j :=
  fun k c hi hj hc => hpq c (h k c hi hj hc)

/-- What is skipped is of the class. -/
theorem skip (p : Char → Bool) (i : Nat) : Holds s p i (Scan.skip p s.chars i) := by
  fun_induction Scan.skip p s.chars i with
  | case1 i hi hp ih =>
    exact append (single (Array.getElem?_eq_some_iff.mpr ⟨hi, rfl⟩) hp) ih
  | case2 => intro k c _ _ _; omega
  | case3 => intro k c _ _ _; omega

theorem startsAt {word : List Char} (h : startsAt s.chars i word = true) (hp : word.all p = true) :
    Holds s p i (i + word.length) := by
  induction word generalizing i with
  | nil => intro k c _ _ _; simp at *; omega
  | cons d word ih =>
    simp only [Scan.startsAt, Bool.and_eq_true, beq_iff_eq] at h
    simp only [List.all_cons, Bool.and_eq_true] at hp
    have hrest := (single h.1 hp.1).append (ih h.2 hp.2)
    rwa [Nat.add_assoc, Nat.add_comm 1] at hrest

theorem tagName {name : List Char} (h : s.tagName i = .ok (name, j)) :
    Holds s isTagNamePart i j := by
  unfold Listing.tagName at h
  split at h
  · cases h
    exact skip isTagNamePart i
  · cases h

end Holds

open Account in
/-- The rules of reading. -/
inductive Reads (s : Listing) : Reading → Account → Prop where
  -- code
  | reached {stop : Stop} {depth : Nat} {a : Cursor} :
      stop.reached a.pos = true ∨ s.charAt? a.pos = none ∧ stop ≠ .brace →
      Reads s (.code stop depth a a) {}
  | closed {a b : Cursor} :
      s.charAt? a.pos = some '}' → b.pos = a.pos + 1 →
      Reads s (.code .brace 0 a b) {}
  | openBrace {stop : Stop} {depth : Nat} {a b c : Cursor} {A : Account} :
      s.charAt? a.pos = some '{' → b.pos = a.pos + 1 → Reads s (.code stop (depth + 1) b c) A →
      Reads s (.code stop depth a c) ({} ++ A)
  | closeBrace {stop : Stop} {depth : Nat} {a b c : Cursor} {A : Account} :
      s.charAt? a.pos = some '}' → (stop = .brace → depth ≠ 0) → b.pos = a.pos + 1 →
      Reads s (.code stop (depth - 1) b c) A →
      Reads s (.code stop depth a c) ({} ++ A)
  | step {stop : Stop} {depth : Nat} {a b c : Cursor} {A B : Account} :
      Reads s (.construct a b) A → Reads s (.code stop depth b c) B →
      Reads s (.code stop depth a c) (A ++ B)
  -- constructs
  | plain {a b : Cursor} :
      a.pos ≤ b.pos → Holds s isPlainCode a.pos b.pos →
      Reads s (.construct a b) {}
  | string {a b : Cursor} {mark : Char} :
      s.charAt? a.pos = some mark → mark = '\'' ∨ mark = '"' →
      stringEnd? s.chars a.pos = some b.pos →
      Reads s (.construct a b) (passage .string a.pos b.pos)
  | hurdle {kind : PassageKind} {a b : Cursor} :
      a.pos ≤ b.pos →
      Reads s (.construct a b) (hurdle kind a.pos b.pos)
  | comparison {a b : Cursor} :
      s.charAt? a.pos = some '<' → b.pos = a.pos + 1 →
      Reads s (.construct a b) (passage .comparison a.pos b.pos)
  | markup {a b : Cursor} {A : Account} :
      Reads s (.element a.pos b.pos) A →
      Reads s (.construct a b) A
  | wholeTemplate {a b c d : Cursor} {A : Account} :
      s.charAt? a.pos = some '\x60' → b.pos = a.pos + 1 → Reads s (.template b c) A →
      d.pos = c.pos →
      Reads s (.construct a d) (A.whole .template a.pos d.pos)
  | wholeParameters {a b c d : Cursor} {A : Account} :
      s.charAt? a.pos = some '(' → b.pos = a.pos + 1 → Reads s (.parameters b c) A →
      a.pos ≤ d.pos →
      Reads s (.construct a d) ((A ++ passage .types c.pos d.pos).whole .parameters a.pos d.pos)
  -- parameters: a name, a type, and a default value or none
  | lastParameter {a n b c : Cursor} {stop : Stop} {A : Account} :
      n.pos = a.pos → Reads s (.code stop 0 n b) A →
      Reads s (.parameters a c) (A ++ passage .types b.pos c.pos ++ {})
  | lastDefault {a n b c d : Cursor} {stop stop' : Stop} {A B : Account} :
      n.pos = a.pos → Reads s (.code stop 0 n b) A → Reads s (.code stop' 0 c d) B →
      Reads s (.parameters a d) (A ++ passage .types b.pos c.pos ++ B)
  | parameter {a n b c e f : Cursor} {stop : Stop} {A C : Account} :
      n.pos = a.pos → Reads s (.code stop 0 n b) A → Reads s (.parameters e f) C →
      Reads s (.parameters a f)
        (A ++ passage .types b.pos c.pos ++ {} ++ (passage .types c.pos e.pos ++ C))
  | default {a n b c d e f : Cursor} {stop stop' : Stop} {A B C : Account} :
      n.pos = a.pos → Reads s (.code stop 0 n b) A → Reads s (.code stop' 0 c d) B →
      Reads s (.parameters e f) C →
      Reads s (.parameters a f)
        (A ++ passage .types b.pos c.pos ++ B ++ (passage .types d.pos e.pos ++ C))
  -- templates
  | templateText {a b c : Cursor} {A : Account} :
      a.pos ≤ b.pos → Reads s (.template b c) A →
      Reads s (.template a c) (passage .template a.pos b.pos ++ A)
  | templateEnd {a b : Cursor} :
      s.charAt? a.pos = some '\x60' → b.pos = a.pos + 1 →
      Reads s (.template a b) {}
  | substitution {a b c d e : Cursor} {A B : Account} :
      s.charAt? a.pos = some '$' → s.charAt? (a.pos + 1) = some '{' → b.pos = a.pos + 2 →
      Reads s (.code .brace 0 b c) A → d.pos = c.pos → Reads s (.template d e) B →
      Reads s (.template a e) (A ++ B)
  | capture {i : Nat} {b : Cursor} {A : Account} :
      Reads s (.code .brace 0 { pos := i } b) A →
      Reads s (.capture i b.pos) A
  -- elements
  | fragment {i k j : Nat} {A : Account} :
      s.charAt? i = some '<' → skipTagSpaces s.chars (s.chars.size + 1) (i + 1) = .ok k →
      s.charAt? k = some '>' → Reads s (.children (k + 1) j) A →
      Reads s (.element i j)
        ({ tags := [{ start := i, stop := k + 1 }] } ++ (Account.hurdle .tagSpace (i + 1) k ++ A))
  | element {i k m j : Nat} {name : List Char} {o : OpeningTag} {A : Account} :
      s.charAt? i = some '<' → skipTagSpaces s.chars (s.chars.size + 1) (i + 1) = .ok k →
      s.tagName k = .ok (name, m) → Reads s (.attributes m o j) A →
      Reads s (.element i j)
        ({ tags := [{ o with name, start := i }] } ++ (Account.hurdle .tagSpace (i + 1) k ++ A))
  -- attributes, up to the end of the opening tag, and the contents
  | selfClosed {i k : Nat} :
      i ≤ k → s.charAt? k = some '/' → s.charAt? (k + 1) = some '>' →
      Reads s (.attributes i { ({} : OpeningTag).spaced i k with stop := k + 2 } (k + 2))
        (Account.hurdle .tagSpace i k ++ {})
  | opened {i k j : Nat} {A : Account} :
      i ≤ k → s.charAt? k = some '>' → Reads s (.children (k + 1) j) A →
      Reads s (.attributes i { ({} : OpeningTag).spaced i k with stop := k + 1 } j)
        (Account.hurdle .tagSpace i k ++ A)
  | spread {i k n m j : Nat} {o : OpeningTag} {A B : Account} :
      i ≤ k → s.charAt? k = some '{' → n = skipSpaces s.chars (k + 1) →
      startsAt s.chars n ['.', '.', '.'] = true → Reads s (.capture (n + 3) m) A →
      Reads s (.attributes m o j) B →
      Reads s (.attributes i ((o.holding A.hurdles false).spaced i k) j)
        (Account.hurdle .tagSpace i k ++ (A ++ B))
  | bare {i k m n j : Nat} {name : List Char} {o : OpeningTag} {B : Account} :
      i ≤ k → s.tagName k = .ok (name, m) → n = skipSpaces s.chars m →
      Reads s (.attributes n o j) B →
      Reads s (.attributes i (o.spaced i k) j) (Account.hurdle .tagSpace i k ++ B)
  | valued {i k m n v e j : Nat} {name : List Char} {inner : List Passage} {holdsElement : Bool}
      {o : OpeningTag} {A B : Account} :
      i ≤ k → s.tagName k = .ok (name, m) → n = skipSpaces s.chars m →
      s.charAt? n = some '=' → v = skipSpaces s.chars (n + 1) →
      Reads s (.value v e inner holdsElement) A → Reads s (.attributes e o j) B →
      Reads s (.attributes i ((o.holding inner holdsElement).spaced i k) j)
        (Account.hurdle .tagSpace i k ++ (A ++ B))
  -- values
  | stringValue {i q : Nat} {mark : Char} :
      s.charAt? i = some mark → mark = '"' ∨ mark = '\'' → find? mark s.chars (i + 1) = some q →
      Reads s (.value i (q + 1) [] false) (Account.hurdle .attribute i (q + 1))
  | expression {i j : Nat} {A : Account} :
      s.charAt? i = some '{' → Reads s (.capture (i + 1) j) A →
      Reads s (.value i j A.hurdles false) A
  | elementValue {i j : Nat} {A : Account} :
      Reads s (.element i j) A →
      Reads s (.value i j [] true) A
  -- contents
  | closing {i j : Nat} :
      s.charAt? i = some '<' → s.charAt? (skipSpaces s.chars (i + 1)) = some '/' → i + 1 ≤ j →
      Holds s isPlainCode (i + 1) j →
      Reads s (.children i j) {}
  | childElement {i k j : Nat} {A B : Account} :
      Reads s (.element i k) A → Reads s (.children k j) B →
      Reads s (.children i j) (A ++ B)
  | childExpression {i k j : Nat} {A B : Account} :
      s.charAt? i = some '{' → Reads s (.capture (i + 1) k) A → Reads s (.children k j) B →
      Reads s (.children i j) (A ++ B)
  | childText {i k j : Nat} {B : Account} :
      i ≤ k → Holds s (· != '<') i k → Reads s (.children k j) B →
      Reads s (.children i j) ({ hurdles := [⟨.text, i, k⟩] } ++ B)

namespace Reading

def start : Reading → Nat
  | code _ _ a _ => a.pos
  | construct a _ => a.pos
  | parameters a _ => a.pos
  | template a _ => a.pos
  | capture i _ => i
  | element i _ => i
  | attributes i _ _ => i
  | value i _ _ _ => i
  | children i _ => i

def stop : Reading → Nat
  | code _ _ _ b => b.pos
  | construct _ b => b.pos
  | parameters _ b => b.pos
  | template _ b => b.pos
  | capture _ j => j
  | element _ j => j
  | attributes _ _ j => j
  | value _ j _ _ => j
  | children _ j => j

/-- Reading goes forward. The parts of a list of parameters are told apart by looking ahead, so that
nothing holds of where they end. -/
def Forward : Reading → Prop
  | parameters .. => True
  | r => r.start ≤ r.stop

end Reading

namespace Reads

variable {s : Listing} {r : Reading} {A : Account}

theorem forward (h : Reads s r A) : r.Forward := by
  induction h <;> simp only [Reading.Forward, Reading.start, Reading.stop] at *
  case string hend => exact Nat.le_of_lt (lt_of_stringEnd? hend)
  case fragment hspaces _ _ _ =>
    have := le_skipTagSpaces hspaces
    omega
  case element hspaces hname _ _ =>
    have := le_skipTagSpaces hspaces
    have := le_tagName hname
    omega
  case spread hspaces _ _ _ _ _ =>
    have := Nat.le_trans (le_skipSpaces s.chars _) (Nat.le_of_eq hspaces.symm)
    omega
  case bare hname hspaces _ _ =>
    have := le_tagName hname
    have := Nat.le_trans (le_skipSpaces s.chars _) (Nat.le_of_eq hspaces.symm)
    omega
  case valued hname hsign _ hspaces _ _ _ _ =>
    have := le_tagName hname
    have := Nat.le_trans (le_skipSpaces s.chars _) (Nat.le_of_eq hsign.symm)
    have := Nat.le_trans (le_skipSpaces s.chars _) (Nat.le_of_eq hspaces.symm)
    omega
  case stringValue hfind =>
    have := le_find? hfind
    omega
  all_goals omega

end Reads

/-! ## Where markup is not looked for -/

/-- Markup stands at a position only where a lowered element or a closing tag does, or in a passage
in which it is not looked for. -/
def Accounted (s : Listing) (A : Account) (i : Nat) : Prop :=
  (∃ o ∈ A.tags, o.start = i) ∨ (∃ p ∈ A.passages, p.start ≤ i ∧ i < p.stop) ∨
    s.charAt? (skipSpaces s.chars (i + 1)) = some '/'

/-- All angle brackets from one position to another are accounted for. -/
def Covers (s : Listing) (A : Account) (i j : Nat) : Prop :=
  ∀ k, i ≤ k → k < j → s.charAt? k = some '<' → Accounted s A k

namespace Covers

variable {s : Listing} {A B : Account} {i j k : Nat}

theorem of_holds {p : Char → Bool} (h : Holds s p i j) (hp : p '<' = false) : Covers s A i j := by
  intro k hi hj hk
  rw [h k '<' hi hj hk] at hp
  cases hp

theorem trans (h : Covers s A i j) (h' : Covers s A j k) : Covers s A i k := by
  intro n hi hk hn
  by_cases hj : n < j
  · exact h n hi hj hn
  · exact h' n (by omega) hk hn

theorem nil : Covers s A i i := fun _ hi hj _ => absurd hj (by omega)

theorem single {c : Char} (hc : s.charAt? i = some c) (hne : (c != '<') = true) (hj : j = i + 1) :
    Covers s A i j := by
  subst hj
  exact of_holds (p := (· != '<')) (.single hc hne) rfl

theorem spaces : Covers s A i (skipSpaces s.chars i) :=
  of_holds (Holds.skip Text.isSpace i) (by decide)

theorem name {name : List Char} (h : s.tagName i = .ok (name, j)) : Covers s A i j :=
  of_holds (Holds.tagName h) (by decide)

theorem tag {o : OpeningTag} (ho : o.start = i) : Covers s { tags := [o] } i (i + 1) :=
  fun _ hi hj _ => .inl ⟨o, List.mem_singleton_self _, by omega⟩

theorem left (h : Covers s A i j) : Covers s (A ++ B) i j := by
  intro k hi hj hk
  rcases h k hi hj hk with ⟨o, ho, heq⟩ | ⟨p, hp, hin⟩ | hslash
  · exact .inl ⟨o, List.mem_append_left _ ho, heq⟩
  · exact .inr (.inl ⟨p, List.mem_append_left _ hp, hin⟩)
  · exact .inr (.inr hslash)

theorem right (h : Covers s B i j) : Covers s (A ++ B) i j := by
  intro k hi hj hk
  rcases h k hi hj hk with ⟨o, ho, heq⟩ | ⟨p, hp, hin⟩ | hslash
  · exact .inl ⟨o, List.mem_append_right _ ho, heq⟩
  · exact .inr (.inl ⟨p, List.mem_append_right _ hp, hin⟩)
  · exact .inr (.inr hslash)

theorem append (h : Covers s A i j) (h' : Covers s B j k) : Covers s (A ++ B) i k :=
  h.left.trans h'.right

theorem passage {kind : PassageKind} : Covers s (Account.passage kind i j) i j :=
  fun _ hi hj _ => .inr (.inl ⟨_, List.mem_singleton_self _, hi, hj⟩)

theorem hurdle {kind : PassageKind} : Covers s (Account.hurdle kind i j) i j := passage

end Covers

namespace Reads

variable {s : Listing} {r : Reading} {A : Account}

theorem covers (h : Reads s r A) : Covers s A r.start r.stop := by
  induction h with
  | reached => exact .nil
  | closed hd hb => exact .single hd rfl hb
  | openBrace hd hb _ ih => exact .append (.single hd rfl hb) ih
  | closeBrace hd _ hb _ ih => exact .append (.single hd rfl hb) ih
  | step _ _ ih ih' => exact ih.append ih'
  | plain _ hclass => exact .of_holds hclass rfl
  | string => exact .passage
  | hurdle => exact .hurdle
  | comparison => exact .passage
  | markup _ ih => exact ih
  | wholeTemplate hd hb _ hend ih =>
    have hinside : Covers s _ _ _ := (Covers.single hd rfl hb).trans ih
    simp only [Reading.stop] at hinside ⊢
    rw [hend]
    exact hinside
  | wholeParameters hd hb _ _ ih =>
    exact ((Covers.single hd rfl hb).trans ih).append .passage
  | lastParameter hn _ ih =>
    simp only [Reading.start] at ih ⊢
    exact .append (.append (hn ▸ ih) .passage) .nil
  | lastDefault hn _ _ ih ih' =>
    simp only [Reading.start] at ih ⊢
    exact .append (.append (hn ▸ ih) .passage) ih'
  | parameter hn _ _ ih ih' =>
    simp only [Reading.start] at ih ⊢
    exact .append (.append (.append (hn ▸ ih) .passage) .nil) (.append .passage ih')
  | default hn _ _ _ ih ih' ih'' =>
    simp only [Reading.start] at ih ⊢
    exact .append (.append (.append (hn ▸ ih) .passage) ih') (.append .passage ih'')
  | templateText _ _ ih => exact .append .passage ih
  | templateEnd hd hb => exact .single hd rfl hb
  | substitution hd hbrace hb _ hc _ ih ih' =>
    simp only [Reading.start, Reading.stop] at ih ih' ⊢
    rw [hc] at ih'
    exact .append ((Covers.single hd rfl rfl).trans ((Covers.single hbrace rfl hb).trans ih)) ih'
  | capture _ ih => exact ih
  | fragment hd _ hclose _ ih =>
    exact .append (.tag rfl) (.append .hurdle (.trans (.single hclose rfl rfl) ih))
  | element hd _ hname _ ih =>
    exact .append (.tag rfl) (.append .hurdle (.trans (.name hname) ih))
  | selfClosed _ hslash hclose =>
    exact .append .hurdle (.trans (.single hslash rfl rfl) (.single hclose rfl rfl))
  | opened _ hclose _ ih => exact .append .hurdle (.trans (.single hclose rfl rfl) ih)
  | spread _ hd hspaces hdots _ _ ih ih' =>
    have hdots := Holds.startsAt (p := (· == '.')) hdots rfl
    exact .append .hurdle (.append (.trans (.single hd rfl rfl)
      (.trans (hspaces ▸ .spaces) (.trans (.of_holds hdots rfl) ih))) ih')
  | bare _ hname hspaces _ ih =>
    exact .append .hurdle (.trans (.name hname) (.trans (hspaces ▸ .spaces) ih))
  | valued _ hname hsign hd hspaces _ _ ih ih' =>
    exact .append .hurdle (.append (.trans (.name hname) (.trans (hsign ▸ .spaces)
      (.trans (.single hd rfl rfl) (.trans (hspaces ▸ .spaces) ih)))) ih')
  | stringValue => exact .hurdle
  | expression hd _ ih => exact .trans (.single hd rfl rfl) ih
  | elementValue _ ih => exact ih
  | closing hd hslash _ hclass =>
    refine .trans (j := _ + 1) (fun k hi hj _ => ?_) (.of_holds hclass rfl)
    obtain rfl : k = _ := Nat.le_antisymm (Nat.le_of_lt_succ hj) hi
    exact .inr (.inr hslash)
  | childElement _ _ ih ih' => exact ih.append ih'
  | childExpression hd _ _ ih ih' => exact .append (.trans (.single hd rfl rfl) ih) ih'
  | childText _ hclass _ ih => exact .append (.of_holds hclass rfl) ih

end Reads

end Source
end Restyle
