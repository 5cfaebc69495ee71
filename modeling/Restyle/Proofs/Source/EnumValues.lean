import Restyle.Proofs.Script.Calls
import Restyle.Proofs.Script.Statements
import Restyle.Proofs.Source.EnumText

/-!
# Restyle.Proofs.Source.EnumValues

What becomes of an enum when a script runs its declaration: each member is mapped to what it is worth,
and numbers are mapped back to the members' names. The count that goes along the members is told by
`Tally`, the statement of one member by `Writes`, the declaration by `Declares`. An initializer that
names a variable is not counted: the declaration runs it as it stands, in a function where members
are no variables, and throws (`exists_misses`).
-/

namespace Restyle
namespace Source
namespace Enum

open Script (Flags IsQuoted IsAsciiName IsNumeral IsVariable IsExpression IsStatement Expr Stmt Value Obj Slot Key Machine
  Host Utf16)
open Script.Run

/-! ## What members are worth -/

/-- What a member is worth: a number that is counted, a number that is computed, or a text. -/
inductive Worth where
  | integer (n : Int)
  | number (x : Float)
  | text (s : Utf16)

namespace Worth

def number? : Worth → Option Float
  | integer n => some (Flags.ofInt.value n)
  | number x => some x
  | text _ => none

def value : Worth → Value
  | integer n => .number (Flags.ofInt.value n)
  | number x => .number x
  | text s => .string s

/-- What a member without initializer is worth behind the member: one more, and nothing behind a text. -/
def next? : Worth → Option Worth
  | integer n => if n + 1 < 2 ^ 63 then some (integer (n + 1)) else none
  | number x => some (number (x + Script.Numeral.nearest 1))
  | text _ => none

end Worth

def Initializer.worth? : Initializer → Option Worth
  | integer n => some (.integer n)
  | string s => some (.text s)
  | flags e => e.value?.map .number

/-- What a member is worth where one without initializer is worth so much. -/
def Member.worth? (m : Member) (auto : Option Worth) : Option Worth :=
  match m.initializer with
  | some i => i.worth?
  | none => auto

/-- The names of members and what they are worth; there is none if an initializer needs names. -/
def worths? : Option Worth → List Member → Option (List (Utf16 × Worth))
  | _, [] => some []
  | auto, m :: ms => do
    let w ← m.worth? auto
    let ws ← worths? w.next? ms
    return (m.name, w) :: ws

/-! ## Objects of members -/

/-- An object with one more member. -/
def put (o : Obj) (name : Utf16) (w : Worth) : Obj :=
  match w.number? with
  | some x => (o.store (.name name) (.plain w.value)).store (.name (Script.Numeral.text x)) (.plain (.string name))
  | none => o.store (.name name) (.plain w.value)

/-- An object with more members. -/
def filled : Obj → List (Utf16 × Worth) → Obj
  | o, [] => o
  | o, (name, w) :: ws => filled (put o name w) ws

variable {o o' : Obj} {name : Utf16} {w : Worth} {x : Float} {k : Key}

theorem put_number (hx : w.number? = some x) : put o name w =
    (o.store (.name name) (.plain (.number x))).store (.name (Script.Numeral.text x)) (.plain (.string name)) := by
  cases w <;> cases hx <;> rfl

theorem put_text (s : Utf16) : put o name (.text s) = o.store (.name name) (.plain (.string s)) := rfl

theorem isPlain_put (ho : o.IsPlain) (name : Utf16) (w : Worth) : (put o name w).IsPlain := by
  cases w with
  | integer n => exact (ho.store _ _).store _ _
  | number x => exact (ho.store _ _).store _ _
  | text s => exact ho.store _ _

theorem parent_put (o : Obj) (name : Utf16) (w : Worth) : (put o name w).parent = o.parent := by
  cases w <;> simp only [put, Worth.number?, Obj.store_parent]

theorem own?_put (hkind : o.kind = .ordinary) (name : Utf16) (w : Worth) (k : Key) :
    (put o name w).own? k =
      if w.number?.any (fun x => Key.name (Script.Numeral.text x) == k) then some (.plain (.string name))
      else if Key.name name == k then some (.plain w.value) else o.own? k := by
  cases w with
  | text s =>
    rw [put_text, Obj.own?_store hkind]
    rfl
  | _ =>
    rw [put_number rfl, Obj.own?_store ((Obj.store_kind ..).trans hkind), Obj.own?_store hkind]
    rfl

/-- The object that is filled holds these members and nothing else. -/
structure Enumerates (o : Obj) (ws : List (Utf16 × Worth)) : Prop where
  /-- Members are mapped to what they are worth. -/
  forth : ∀ e ∈ ws, o.own? (.name e.1) = some (.plain e.2.value)
  /-- Numbers are mapped back, to the last member that is worth so much. -/
  back : ∀ before e after x, ws = before ++ e :: after → e.2.number? = some x →
    (∀ e' ∈ after, ∀ x', e'.2.number? = some x' → Script.Numeral.text x' ≠ Script.Numeral.text x) →
    o.own? (.name (Script.Numeral.text x)) = some (.plain (.string e.1))
  only : ∀ k s, o.own? k = some s → ∃ e ∈ ws, k = .name e.1 ∨
    ∃ x, e.2.number? = some x ∧ k = .name (Script.Numeral.text x)

variable {ws ws' : List (Utf16 × Worth)}

theorem isPlain_filled (ho : o.IsPlain) (ws : List (Utf16 × Worth)) : (filled o ws).IsPlain := by
  induction ws generalizing o with
  | nil => exact ho
  | cons e ws ih => exact ih (isPlain_put ho e.1 e.2)

theorem filled_append (o : Obj) (ws ws' : List (Utf16 × Worth)) :
    filled o (ws ++ ws') = filled (filled o ws) ws' := by
  induction ws generalizing o with
  | nil => rfl
  | cons e ws ih => exact ih (put o e.1 e.2)

/-- What no member writes stays as it is. -/
theorem own?_filled (ho : o.IsPlain) (hk : ∀ e ∈ ws, k ≠ .name e.1 ∧
    ∀ x, e.2.number? = some x → k ≠ .name (Script.Numeral.text x)) : (filled o ws).own? k = o.own? k := by
  induction ws generalizing o with
  | nil => rfl
  | cons e ws ih =>
    obtain ⟨⟨hname, hnumber⟩, hk⟩ := List.forall_mem_cons.mp hk
    have hany : e.2.number?.any (fun x => Key.name (Script.Numeral.text x) == k) = false := by
      rw [Bool.eq_false_iff, ne_eq, Option.any_eq_true]
      rintro ⟨x, hx, heq⟩
      exact hnumber x hx (eq_of_beq heq).symm
    have hne : (Key.name e.1 == k) = false := beq_eq_false_iff_ne.mpr (Ne.symm hname)
    show (filled (put o e.1 e.2) ws).own? k = _
    rw [ih (isPlain_put ho e.1 e.2) hk, own?_put ho.kind, hany, hne]
    rfl

/-- **Members fill an object with what they are worth**, if their names are different and none of them
is the text of a number. -/
theorem enumerates_filled (ho : o.IsPlain) (hempty : ∀ k, o.own? k = none) (hdistinct : (ws.map (·.1)).Nodup)
    (hnames : ∀ e ∈ ws, ∀ x, e.1 ≠ .whole (Script.Numeral.text x)) : Enumerates (filled o ws) ws where
  forth := by
    intro e he
    obtain ⟨before, after, rfl⟩ := List.append_of_mem he
    have hname := hnames e he
    rw [List.map_append, List.map_cons, List.nodup_append] at hdistinct
    have hafter : ∀ e' ∈ after, e.1 ≠ e'.1 := fun e' he' heq =>
      (List.nodup_cons.mp hdistinct.2.1).1 (heq ▸ List.mem_map_of_mem he')
    rw [filled_append]
    show (filled (put (filled o before) e.1 e.2) after).own? _ = _
    rw [own?_filled (isPlain_put (isPlain_filled ho before) e.1 e.2), own?_put (isPlain_filled ho before).kind]
    · have hany : e.2.number?.any (fun x => Key.name (Script.Numeral.text x) == Key.name e.1) = false := by
        rw [Bool.eq_false_iff, ne_eq, Option.any_eq_true]
        rintro ⟨x, -, heq⟩
        exact hname x (Key.name.inj (eq_of_beq heq)).symm
      rw [hany, beq_self_eq_true]
      rfl
    · exact fun e' he' => ⟨fun heq => hafter e' he' (Key.name.inj heq), fun x _ heq => hname x (Key.name.inj heq)⟩
  back := by
    rintro before e after x rfl hx hlast
    rw [filled_append]
    show (filled (put (filled o before) e.1 e.2) after).own? _ = _
    rw [own?_filled (isPlain_put (isPlain_filled ho before) e.1 e.2), own?_put (isPlain_filled ho before).kind]
    · have hany : e.2.number?.any (fun x' => Key.name (Script.Numeral.text x') == Key.name (Script.Numeral.text x)) = true := by
        rw [hx]
        exact beq_self_eq_true _
      rw [hany]
      rfl
    · refine fun e' he' => ⟨fun heq => ?_, fun x' hx' heq => ?_⟩
      · exact hnames e' (List.mem_append_right _ (List.mem_cons_of_mem _ he')) x (Key.name.inj heq).symm
      · exact hlast e' he' x' hx' (Utf16.whole.inj (Key.name.inj heq)).symm
  only := by
    intro k s hs
    refine Classical.byContradiction fun hnone => ?_
    have hother : (filled o ws).own? k = o.own? k := own?_filled ho fun e he =>
      ⟨fun heq => hnone ⟨e, he, .inl heq⟩, fun x hx heq => hnone ⟨e, he, .inr ⟨x, hx, heq⟩⟩⟩
    rw [hs, hempty] at hother
    cases hother

/-! ## The statement of a member -/

variable {n : String} {quote : Char} {inner cs value : List Char} {e : Expr} {c : Nat} {s : Utf16}

theorem numeric_eq (n key value : List Char) :
    numeric n key value = Script.assignmentText [' '] n (Script.assignmentText [] n key (' ' :: value)) (' ' :: key) ++ [';'] := by
  have hmark : "] = ".toList = [']', ' ', '=', ' '] := rfl
  simp [numeric, Script.assignmentText, hmark]

theorem isStatement_numeric (hn : IsVariable n) (hname : IsAsciiName n.toList) (hkey : IsQuoted quote inner name)
    (hvalue : IsExpression ']' (' ' :: value) c e) (hc : c ≤ 30) :
    IsStatement (numeric n.toList (quote :: inner) value) (numberStatement n name e) := by
  have hgap := Script.IsGap.nil
  have hinner := Script.isExpression_assignment hn hname.isName hgap (Script.isExpression_quoted hkey hgap ']') hvalue
  rw [numeric_eq]
  exact Script.isStatement_assignment hn hname.isName Script.IsGap.space hinner
    (Script.isExpression_quoted hkey Script.IsGap.space ';') (by omega)

theorem isStatement_text (hn : IsVariable n) (hname : IsAsciiName n.toList) (hkey : IsQuoted quote inner name)
    {quote' : Char} {inner' : List Char} (hs : IsQuoted quote' inner' s) :
    IsStatement (' ' :: n.toList ++ '[' :: (quote :: inner) ++ "] = ".toList ++ (quote' :: inner') ++ [';'])
      (textStatement n name s) := by
  have hmark : "] = ".toList = [']', ' ', '=', ' '] := rfl
  have h := Script.isStatement_assignment hn hname.isName Script.IsGap.space
    (Script.isExpression_quoted hkey Script.IsGap.nil ']') (Script.isExpression_quoted hs Script.IsGap.space ';') (by omega)
  simpa [Script.assignmentText, hmark, textStatement] using h

theorem isExpression_integer (a : Int) :
    IsExpression ']' (' ' :: (toString a).toList) 5 (Flags.ofInt a).expr :=
  Script.isExpression_flags (Flags.isWritten_ofInt a Script.IsGap.space) (by decide)

/-- What is written for one more than a member. -/
theorem isExpression_next (hn : IsVariable n) (hname : IsAsciiName n.toList) (hkey : IsQuoted quote inner name) :
    IsExpression ']' (' ' :: (n.toList ++ '[' :: (quote :: inner) ++ "] + 1".toList)) 2 (successor n (.string name)) := by
  have hmark : "] + 1".toList = [']', ' ', '+', ' ', '1'] := rfl
  have hsuccessor := Script.isExpression_successor hn hname.isName Script.IsGap.space
    (Script.isExpression_quoted hkey Script.IsGap.nil ']') (List.mem_cons_self (l := [';']))
  simpa [Script.successorText, hmark] using hsuccessor

/-- What is written for flags. -/
theorem isExpression_parentheses {e : Flags} (h : Flags.IsWritten 1 cs e) :
    IsExpression ']' (' ' :: ('(' :: cs ++ [')'])) 5 e.expr :=
  Script.isExpression_group h Script.IsGap.space (List.mem_cons_self (l := [';']))

variable {count : Count} {initializer : Option (List Char)} {m : Member} {p : List Char} {ps : List (List Char)}
  {ms : List Member}

/-- The member before, if there is one, is known by its name. -/
def Count.IsKeyed (count : Count) : Prop :=
  ∀ key, count.previous = some key → ∃ quote inner name, key = quote :: inner ∧ IsQuoted quote inner name

theorem previous_member (n key : List Char) (initializer : Option (List Char)) (count : Count) :
    (member n key initializer count).2.previous = some key := by
  unfold member
  split
  · split
    · rfl
    · split <;> rfl
  · split <;> rfl

theorem isKeyed_member (hkey : IsQuoted quote inner name) (n : List Char) (initializer : Option (List Char)) (count : Count) :
    (member n (quote :: inner) initializer count).2.IsKeyed := by
  intro key heq
  rw [previous_member] at heq
  exact ⟨quote, inner, name, (Option.some.inj heq).symm, hkey⟩

/-- What is written for a member is a statement, whatever the member is worth. -/
theorem exists_isStatement (hn : IsVariable n) (hname : IsAsciiName n.toList) (hkey : IsQuoted quote inner name)
    (hcount : count.IsKeyed) (hinitializer : initializer = none ∨ ∃ (i : Initializer) (cs : List Char),
      initializer = some cs ∧ i.IsWritten cs) :
    ∃ e, IsStatement (member n.toList (quote :: inner) initializer count).1 (.expression e) := by
  obtain rfl | ⟨i, cs, rfl, hi⟩ := hinitializer
  · obtain ⟨next, previous⟩ := count
    cases next with
    | some a => exact ⟨_, isStatement_numeric hn hname hkey (isExpression_integer a) (by decide)⟩
    | none =>
      cases previous with
      | some key =>
        obtain ⟨quote', inner', name', rfl, hkey'⟩ := hcount key rfl
        exact ⟨_, isStatement_numeric hn hname hkey (isExpression_next hn hname hkey') (by decide)⟩
      | none => exact ⟨_, isStatement_numeric hn hname hkey (isExpression_integer 0) (by decide)⟩
  · obtain ⟨a, rfl, hlow, h⟩ | ⟨quote', inner', s, rfl, hs, h⟩ | ⟨e, rfl, he, h⟩ := member_initialized hi
    · rw [h]
      exact ⟨_, isStatement_numeric hn hname hkey (isExpression_integer a) (by decide)⟩
    · rw [h]
      exact ⟨_, isStatement_text hn hname hkey hs⟩
    · rw [h]
      exact ⟨_, isStatement_numeric hn hname hkey (isExpression_parentheses he) (by decide)⟩

/-- The text is read as statements, which declare no function. -/
structure IsRead (text : List Char) (ss : List Stmt) : Prop where
  isBody : ∀ cs ss', Script.IsBody cs ss' → Script.IsBody (text ++ cs) (ss ++ ss')
  declares : DeclaresNone ss

namespace IsRead

theorem nil : IsRead [] [] where
  isBody _ _ h := h
  declares := List.forall_mem_nil _

theorem cons {text text' : List Char} {ss : List Stmt} (hs : IsStatement text (.expression e)) (h : IsRead text' ss) :
    IsRead (text ++ text') (.expression e :: ss) where
  isBody cs ss' hbody := by
    rw [List.append_assoc]
    exact (h.isBody cs ss' hbody).cons hs
  declares := List.forall_mem_cons.mpr ⟨⟨e, .inl rfl⟩, h.declares⟩

end IsRead

theorem exists_reading (hn : IsVariable n) (hname : IsAsciiName n.toList) (hm : m.IsWritten p) (hcount : count.IsKeyed) :
    ∃ (step : List Char × Count) (e : Expr), IsStatement step.1 (.expression e) ∧ step.2.IsKeyed ∧
      ∀ ps, members n.toList count (p :: ps) = (members n.toList step.2 ps).map (step.1 ++ ·) := by
  obtain ⟨quote, inner, initializer, hkey, hread, hinitializer⟩ := members_cons hm
  obtain ⟨e, hs⟩ := exists_isStatement hn hname hkey hcount (hinitializer.imp (·.2) fun ⟨i, cs, _, h⟩ => ⟨i, cs, h⟩)
  exact ⟨_, e, hs, isKeyed_member hkey _ _ _, hread _ _⟩

/-- **What is written for members is read as statements**, whatever the members are worth. -/
theorem exists_isRead (hn : IsVariable n) (hname : IsAsciiName n.toList) (hms : AreWritten ps ms)
    (hcount : count.IsKeyed) : ∃ text ss, members n.toList count ps = .ok text ∧ IsRead text ss := by
  induction hms generalizing count with
  | blank hgap => exact ⟨[], [], members_blank hgap _ _, .nil⟩
  | last hm =>
    obtain ⟨step, e, hs, -, hread⟩ := exists_reading hn hname hm hcount
    exact ⟨_, _, hread [], .cons hs .nil⟩
  | cons hm hms ih =>
    obtain ⟨step, e, hs, hkeyed, hread⟩ := exists_reading hn hname hm hcount
    obtain ⟨text, ss, htext, hss⟩ := ih hkeyed
    exact ⟨_, _, by rw [hread, htext]; rfl, .cons hs hss⟩

/-- The text is a statement that makes one object of another. -/
structure Writes (n : String) (text : List Char) (s : Stmt) (o o' : Obj) : Prop where
  isStatement : IsStatement text s
  isExpression : ∃ e, s = .expression e
  fills : ∀ (h : Host) (m : Machine) (scope ref : Nat), IsFilling m scope n ref →
    stmt h scope [] s (m.withObj ref o) = .ok .next (m.withObj ref o')

theorem writes_numeric (hn : IsVariable n) (hname : IsAsciiName n.toList) (hkey : IsQuoted quote inner name)
    (hproto : name ≠ .whole "__proto__") (ho : o.IsPlain) (hparent : o.parent = some Script.Ref.objectProto)
    (hvalue : IsExpression ']' (' ' :: value) c e) (hc : c ≤ 30) (he : Counts n o e x) (hx : w.number? = some x) :
    Writes n (numeric n.toList (quote :: inner) value) (numberStatement n name e) o (put o name w) where
  isStatement := isStatement_numeric hn hname hkey hvalue hc
  isExpression := ⟨_, rfl⟩
  fills h m scope ref hf := by
    rw [put_number hx]
    exact stmt_number hf ho hparent hproto (he h m scope ref hf)

theorem writes_text (hn : IsVariable n) (hname : IsAsciiName n.toList) (hkey : IsQuoted quote inner name)
    (hproto : name ≠ .whole "__proto__") (ho : o.IsPlain) (hparent : o.parent = some Script.Ref.objectProto)
    {quote' : Char} {inner' : List Char} (hs : IsQuoted quote' inner' s) :
    Writes n (' ' :: n.toList ++ '[' :: (quote :: inner) ++ "] = ".toList ++ (quote' :: inner') ++ [';'])
      (textStatement n name s) o (put o name (.text s)) where
  isStatement := isStatement_text hn hname hkey hs
  isExpression := ⟨_, rfl⟩
  fills _ _ _ _ hf := stmt_text hf ho hparent hproto s

/-! ## Counting along -/

/-- What the count says of the worth of a member without initializer, where an object is filled. -/
inductive Tally : Option Worth → Count → Obj → Prop where
  | counted {a : Int} {count : Count} {o : Obj} (hnext : count.next = some a) (hlow : -9007199254740992 < a) :
      Tally (some (.integer a)) count o
  | computed {x : Float} {count : Count} {o : Obj} {quote : Char} {inner : List Char} {name : Utf16}
      (hnext : count.next = none) (hprevious : count.previous = some (quote :: inner))
      (hkey : IsQuoted quote inner name) (hown : o.own? (.name name) = some (.plain (.number x))) :
      Tally (some (.number (x + Script.Numeral.nearest 1))) count o
  | unknown {count : Count} {o : Obj} : Tally none count o

theorem Tally.start (o : Obj) : Tally (some (.integer 0)) {} o := .counted rfl (by decide)

theorem Tally.after_integer {a : Int} (hlow : -9007199254740992 < a) (key : List Char) (o : Obj) :
    Tally (Worth.integer a).next? { next := after a, previous := some key } o := by
  show Tally (if a + 1 < 2 ^ 63 then some (Worth.integer (a + 1)) else none) _ o
  split
  · rename_i hhigh
    refine .counted (show after a = some (a + 1) from ?_) (by omega)
    have hword : isWord (a + 1) = true := by
      rw [isWord, Bool.and_eq_true, decide_eq_true_eq, decide_eq_true_eq]
      omega
    rw [after, hword, if_pos rfl]
  · exact .unknown

theorem Tally.after_number (hkey : IsQuoted quote inner name) (ho : o.IsPlain) (x : Float)
    (hnumber : ∀ x, name ≠ .whole (Script.Numeral.text x)) :
    Tally (Worth.number x).next? { next := none, previous := some (quote :: inner) } (put o name (.number x)) := by
  refine .computed rfl rfl hkey ?_
  have hany : (Worth.number x).number?.any (fun x => Key.name (Script.Numeral.text x) == Key.name name) = false := by
    rw [Worth.number?, Option.any_some, beq_eq_false_iff_ne]
    exact fun heq => hnumber x (Key.name.inj heq).symm
  rw [own?_put ho.kind, hany, beq_self_eq_true]
  rfl

variable {auto : Option Worth}

/-- A name of a member is one that assignments reach, and no text of a number. -/
structure IsMemberName (name : Utf16) : Prop where
  proto : name ≠ .whole "__proto__"
  number : ∀ x, name ≠ .whole (Script.Numeral.text x)

/-- Names are such, but for three of them. -/
theorem isMemberName_of_isAsciiName {x : String} (h : IsAsciiName x.toList)
    (hne : x ∉ ["__proto__", "NaN", "Infinity"]) : IsMemberName (.whole x) where
  proto heq := by
    rw [Utf16.whole.inj heq] at hne
    exact hne (List.mem_cons_self ..)
  number y heq := by
    simp only [List.mem_cons, List.not_mem_nil, or_false, not_or] at hne
    obtain ⟨c, rest, hcs, hc, -⟩ := h
    refine Script.Numeral.text_ne hne.2.1 hne.2.2 ?_ y (Utf16.whole.inj heq).symm
    rw [hcs, List.head?_cons, Option.any_some, Bool.or_eq_false_iff, beq_eq_false_iff_ne]
    refine ⟨Script.isDigit_of_isNameStart (Script.isNameStart_of_source hc), ?_⟩
    rintro rfl
    exact absurd hc (by decide)

/-- What is known where a member is read: the variable and its object, and the name of the member. -/
structure AtMember (n : String) (o : Obj) (quote : Char) (inner : List Char) (name : Utf16) : Prop where
  isVariable : IsVariable n
  isName : IsAsciiName n.toList
  plain : o.IsPlain
  parent : o.parent = some Script.Ref.objectProto
  key : IsQuoted quote inner name
  isMember : IsMemberName name

/-- The member's statement and the count behind it are as they should be. -/
def Steps (n : String) (o : Obj) (name : Utf16) (w : Worth) (step : List Char × Count) : Prop :=
  ∃ s, Writes n step.1 s o (put o name w) ∧ Tally w.next? step.2 (put o name w)

namespace AtMember

variable (h : AtMember n o quote inner name)
include h

theorem integer {a : Int} (hlow : -9007199254740992 < a) :
    Steps n o name (.integer a) (numeric n.toList (quote :: inner) (toString a).toList,
      { next := after a, previous := some (quote :: inner) }) := by
  have hvalue := isExpression_integer a
  have hworth := Counts.flags n o (Flags.value?_ofInt a)
  exact ⟨_, writes_numeric h.isVariable h.isName h.key h.isMember.proto h.plain h.parent hvalue (by omega) hworth rfl,
    .after_integer hlow _ _⟩

theorem number (hvalue : IsExpression ']' (' ' :: value) c e) (hc : c ≤ 30) (he : Counts n o e x) :
    Steps n o name (.number x) (numeric n.toList (quote :: inner) value,
      { next := none, previous := some (quote :: inner) }) :=
  ⟨_, writes_numeric h.isVariable h.isName h.key h.isMember.proto h.plain h.parent hvalue hc he rfl,
    .after_number h.key h.plain x h.isMember.number⟩

theorem text {quote' : Char} {inner' : List Char} (hs : IsQuoted quote' inner' s) :
    Steps n o name (.text s) (' ' :: n.toList ++ '[' :: (quote :: inner) ++ "] = ".toList ++ (quote' :: inner') ++ [';'],
      { next := none, previous := some (quote :: inner) }) :=
  ⟨_, writes_text h.isVariable h.isName h.key h.isMember.proto h.plain h.parent hs, .unknown⟩

/-- A member without initializer counts on. -/
theorem counted (ht : Tally (some w) count o) :
    Steps n o name w (member n.toList (quote :: inner) none count) := by
  cases ht with
  | counted hnext hlow =>
    have hmember := h.integer hlow
    simpa only [member, hnext] using hmember
  | computed hnext hprevious hkey hown =>
    have hvalue := isExpression_next h.isVariable h.isName hkey
    have hmember := h.number hvalue (by omega) (.successor h.plain hown)
    simpa only [member, hnext, hprevious] using hmember

/-- A member with an initializer has its value. -/
theorem initialized {i : Initializer} (hi : i.IsWritten cs) (hw : i.worth? = some w) :
    Steps n o name w (member n.toList (quote :: inner) (some cs) count) := by
  obtain ⟨a, rfl, hlow, hmember⟩ | ⟨quote', inner', s, rfl, hs, hmember⟩ | ⟨e, rfl, he, hmember⟩ := member_initialized hi
  · cases hw
    rw [hmember]
    exact h.integer hlow
  · cases hw
    rw [hmember]
    exact h.text hs
  · obtain ⟨x, hx, rfl⟩ := Option.map_eq_some_iff.mp hw
    rw [hmember]
    exact h.number (isExpression_parentheses he) (by omega) (.flags n o hx)

end AtMember

/-! ## Whole enums -/

theorem map_worths? {auto : Option Worth} (h : worths? auto ms = some ws) : ws.map (·.1) = ms.map Member.name := by
  induction ms generalizing auto ws with
  | nil =>
    cases h
    rfl
  | cons m ms ih =>
    simp only [worths?, Option.bind_eq_bind, Option.bind_eq_some_iff] at h
    obtain ⟨w, -, rest, hrest, heq⟩ := h
    cases heq
    simp [ih hrest]

/-- What is written for members, and read of it. -/
structure Fills (n : String) (o : Obj) (text : List Char) (ss : List Stmt) (o' : Obj) : Prop where
  isRead : IsRead text ss
  fills : Script.Run.Fills n o ss o'

namespace Fills

theorem nil (n : String) (o : Obj) : Fills n o [] [] o := ⟨.nil, Script.Run.Fills.nil n o⟩

theorem cons {text text' : List Char} {s : Stmt} {ss : List Stmt} {o₁ o₂ : Obj} (h : Fills n o₁ text' ss o₂)
    (hs : Writes n text s o o₁) : Fills n o (text ++ text') (s :: ss) o₂ := by
  obtain ⟨e, rfl⟩ := hs.isExpression
  exact ⟨.cons hs.isStatement h.isRead, .cons hs.fills h.fills⟩

end Fills

theorem exists_step (hn : IsVariable n) (hname : IsAsciiName n.toList) (hm : m.IsWritten p)
    (hmember : IsMemberName m.name) (hw : m.worth? auto = some w) (ht : Tally auto count o)
    (ho : o.IsPlain) (hparent : o.parent = some Script.Ref.objectProto) :
    ∃ step, Steps n o m.name w step ∧ step.2.IsKeyed ∧
      ∀ ps, members n.toList count (p :: ps) = (members n.toList step.2 ps).map (step.1 ++ ·) := by
  obtain ⟨quote, inner, initializer, hkey, hread, hinitializer⟩ := members_cons hm
  have h : AtMember n o quote inner m.name := ⟨hn, hname, ho, hparent, hkey, hmember⟩
  refine ⟨member n.toList (quote :: inner) initializer count, ?_, isKeyed_member hkey _ _ _, hread n.toList count⟩
  unfold Member.worth? at hw
  obtain ⟨hnone, rfl⟩ | ⟨i, cs, hsome, rfl, hi⟩ := hinitializer
  · rw [hnone] at hw
    exact h.counted (hw ▸ ht)
  · rw [hsome] at hw
    exact h.initialized hi hw

/-- Wherever the count is right, the statements of the members fill an object with what they are worth. -/
def FillsAll (n : String) (ps : List (List Char)) (ms : List Member) : Prop :=
  ∀ auto count o ws, worths? auto ms = some ws → Tally auto count o → o.IsPlain →
    o.parent = some Script.Ref.objectProto →
    ∃ text ss, members n.toList count ps = .ok text ∧ Fills n o text ss (filled o ws)

theorem FillsAll.cons (hn : IsVariable n) (hname : IsAsciiName n.toList) (hm : m.IsWritten p)
    (hmember : IsMemberName m.name) (h : FillsAll n ps ms) : FillsAll n (p :: ps) (m :: ms) := by
  intro auto count o ws hws ht ho hparent
  simp only [worths?, Option.bind_eq_bind, Option.bind_eq_some_iff] at hws
  obtain ⟨w, hw, ws', hws', heq⟩ := hws
  cases heq
  obtain ⟨step, ⟨s, hwrites, ht'⟩, -, hread⟩ := exists_step hn hname hm hmember hw ht ho hparent
  obtain ⟨text, ss, htext, hfills⟩ := h _ _ _ _ hws' ht' (isPlain_put ho m.name w) ((parent_put o m.name w).trans hparent)
  exact ⟨_, _, by rw [hread, htext]; rfl, hfills.cons hwrites⟩

theorem fillsAll (hn : IsVariable n) (hname : IsAsciiName n.toList) (hms : AreWritten ps ms)
    (hmembers : ∀ m ∈ ms, IsMemberName m.name) : FillsAll n ps ms := by
  induction hms with
  | blank hgap =>
    intro auto count o ws hws _ _ _
    cases hws
    exact ⟨[], [], members_blank hgap _ _, .nil n o⟩
  | last hm =>
    refine .cons hn hname hm (hmembers _ (List.mem_cons_self ..)) ?_
    intro auto count o ws hws _ _ _
    cases hws
    exact ⟨[], [], rfl, .nil n o⟩
  | cons hm hms ih =>
    obtain ⟨hmember, hmembers⟩ := List.forall_mem_cons.mp hmembers
    exact .cons hn hname hm hmember (ih hmembers)

theorem declaredText_eq (n statements : List Char) :
    "var ".toList ++ n ++ " = (function (".toList ++ n ++ [')', ' ', '{'] ++ statements ++ " return ".toList ++ n ++
        [';', ' ', '}', ')', '('] ++ n ++ [' ', '|', '|', ' ', '{', '}', ')', ';'] =
      Script.declaredText n (statements ++ ([' ', 'r', 'e', 't', 'u', 'r', 'n', ' '] ++ n ++ [';'])) := by
  -- with the words of the texts as variables, so that nothing is done with them
  have h : ∀ before word word' behind last : List Char, before = word ++ [' '] →
      behind = [' ', '=', ' ', '('] ++ word' ++ [' ', '('] → last = [' ', 'r', 'e', 't', 'u', 'r', 'n', ' '] →
      before ++ n ++ behind ++ n ++ [')', ' ', '{'] ++ statements ++ last ++ n ++
          [';', ' ', '}', ')', '('] ++ n ++ [' ', '|', '|', ' ', '{', '}', ')', ';'] =
        word ++ ' ' :: n ++ [' ', '='] ++ ([' ', '('] ++ word' ++ [' ', '('] ++ n ++ [')', ' ', '{'] ++
          (statements ++ ([' ', 'r', 'e', 't', 'u', 'r', 'n', ' '] ++ n ++ [';'])) ++ [' ', '}', ')', '('] ++ n ++
          [' ', '|', '|', ' ', '{', '}', ')']) ++ [';'] := by
    rintro _ word word' _ _ rfl rfl rfl
    simp
  exact h _ _ _ _ _ rfl rfl rfl

/-- An object without members. -/
theorem isPlain_empty : Obj.IsPlain { parent := some Script.Ref.objectProto } where
  kind := rfl
  extensible := rfl
  plain _ _ h := by cases h

/-- What is made of an enum: the declaration that is written for it, and what a script reads that as.
Lowering writes the declaration with the line breaks of the enum; it looks for the end of the enum
before comments are taken out, so these must hold no bracket and no quotation mark then. -/
structure Declares (inside : Char → Bool) (name : String) (body text : List Char) (program : List Stmt) : Prop where
  written : declaration name.toList body.toArray = .ok text
  read : ∀ k, Script.read (text ++ List.replicate k '\n') = .ok program
  lowered : (∀ c, inside c = true → isQuiet c = true) → ∀ head dialect, IsHead name.toList head →
    dialect.hasTypes = true → lower (String.ofList (head ++ (body ++ ['}']))) dialect =
      .ok (String.ofList (text ++ List.replicate ((head ++ (body ++ ['}'])).count '\n') '\n'))

variable {inside : Char → Bool} {name : String} {body t : List Char}

/-- An enum on one line. -/
theorem Declares.of_line {head text : List Char} {program : List Stmt} {dialect : Dialect}
    (h : Declares inside name body text program) (hinside : ∀ c, inside c = true → isQuiet c = true)
    (hhead : IsHead name.toList head) (htypes : dialect.hasTypes = true) (hline : '\n' ∉ head ++ (body ++ ['}'])) :
    lower (String.ofList (head ++ (body ++ ['}']))) dialect = .ok (String.ofList text) ∧
      Script.read text = .ok program := by
  have hlowered := h.lowered hinside head dialect hhead htypes
  have hread := h.read 0
  rw [List.count_eq_zero.mpr hline, List.replicate_zero, List.append_nil] at hlowered
  rw [List.replicate_zero, List.append_nil] at hread
  exact ⟨hlowered, hread⟩

theorem exists_declares (hn : IsVariable name) (hname : IsAsciiName name.toList) (hbody : IsBody inside body ms)
    (huncommented : Uncommented inside body ([','].intercalate ps)) (hms : AreWritten ps ms) {ss : List Stmt}
    (htext : members name.toList {} ps = .ok t) (hread : IsRead t ss) :
    ∃ text, Declares inside name body text [Script.Grammar.declared name (returning name ss)] := by
  have hdeclaration : declaration name.toList body.toArray = .ok (Script.declaredText name.toList
      (t ++ ([' ', 'r', 'e', 't', 'u', 'r', 'n', ' '] ++ name.toList ++ [';']))) := by
    rw [declaration_eq huncommented hms, htext]
    exact congrArg Except.ok (declaredText_eq name.toList t)
  refine ⟨_, hdeclaration, fun k => ?_, fun hinside head dialect hhead htypes =>
    lower_enum hhead hname htypes (hbody.walks hinside) hdeclaration⟩
  have hbreaks : Script.IsGap (List.replicate k '\n') := fun c hc => by
    rw [List.eq_of_mem_replicate hc]
    decide
  exact Script.read_declaredText hn hname.isName (hread.isBody _ _ (Script.isBody_return hn hname.isName)) hbreaks

theorem ne_fixed (hn : IsVariable name) (hname : IsAsciiName name.toList) : name ≠ "this" ∧ name ≠ "new.target" := by
  refine ⟨hn.ne, ?_⟩
  rintro rfl
  exact absurd (IsAsciiName.all hname '.' (by decide)) (by decide)

/-- **What an enum is worth.** Its declaration is written, a script reads it, and where it runs with no
other variable, the variable of the enum holds an object in which each member is mapped to what it is
worth, numbers are mapped back to names, the last one winning, and there is nothing else. -/
theorem exists_enumerates (hn : IsVariable name) (hname : IsAsciiName name.toList)
    (hbody : IsBody inside body ms) (hmembers : ∀ m ∈ ms, IsMemberName m.name)
    (hdistinct : (ms.map Member.name).Nodup) (hws : worths? (some (.integer 0)) ms = some ws) :
    ∃ text program, Declares inside name body text program ∧
      ∀ (component : Script.Library.Body) (room : Nat) (m : Machine) (scope : Nat),
        m.scopes[scope]? = some (loneScope name .undefined) → HasRoom m →
        ∃ (m' : Machine) (ref : Nat) (o : Obj),
          stmts (Script.Engine.host component (room + 1)) scope program m = .ok .next m' ∧
          m'.scopes[scope]? = some (loneScope name (.object ref)) ∧ m'.heap[ref]? = some o ∧ Enumerates o ws := by
  obtain ⟨u, ps, huncommented, rfl, hms⟩ := id hbody
  obtain ⟨t, ss, ht, hfills⟩ := fillsAll hn hname hms hmembers _ {} _ ws hws (.start _) isPlain_empty rfl
  obtain ⟨text, hdeclares⟩ := exists_declares hn hname hbody huncommented hms ht hfills.isRead
  refine ⟨text, _, hdeclares, fun component room m scope hscope hm => ?_⟩
  obtain ⟨m', ref, hheld, hthere, hrun⟩ :=
    stmts_declared component room hfills.isRead.declares hfills.fills hscope hm (ne_fixed hn hname)
  have hnames : ws.map (·.1) = ms.map Member.name := map_worths? hws
  refine ⟨m', ref, _, hrun, hheld, hthere, enumerates_filled isPlain_empty (fun _ => rfl) (hnames ▸ hdistinct) ?_⟩
  intro e he x
  obtain ⟨m, hm, hname⟩ := List.mem_map.mp (hnames ▸ List.mem_map_of_mem he)
  exact hname ▸ (hmembers m hm).number x

/-! ## Initializers with names -/

/-- A member whose initializer has names in it is no number where no such variables are. -/
theorem missesIn_number {e : Flags} (hne : e.names ≠ []) (hnames : ∀ x ∈ e.names, x ∉ ["this", "new.target", n])
    (o : Obj) (k : Utf16) : MissesIn n o (numberStatement n k e.expr) :=
  fun _ _ _ _ hf hsees => stmt_number_misses hf k (expr_flags_misses hsees hne hnames)

theorem AreWritten.of_cons (h : AreWritten ps (m :: ms)) :
    ∃ p qs, ps = p :: qs ∧ m.IsWritten p ∧ (qs = [] ∧ ms = [] ∨ AreWritten qs ms) := by
  cases h with
  | last hm => exact ⟨_, [], rfl, hm, .inl ⟨rfl, rfl⟩⟩
  | cons hm hms => exact ⟨_, _, rfl, hm, .inr hms⟩

theorem missesIn_first (hn : IsVariable n) (hname : IsAsciiName n.toList) {e : Flags} (hm : m.IsWritten p)
    (hms : ps = [] ∧ ms = [] ∨ AreWritten ps ms) (hinitializer : m.initializer = some (.flags e)) (hne : e.names ≠ [])
    (hnames : n ∉ e.names) (count : Count) (o : Obj) :
    ∃ text s after, members n.toList count (p :: ps) = .ok text ∧ IsRead text (s :: after) ∧ MissesIn n o s := by
  obtain ⟨quote, inner, initializer, hkey, hread, hinit⟩ := members_cons hm
  obtain ⟨hnone, -⟩ | ⟨i, cs, hsome, rfl, hi⟩ := hinit
  · rw [hnone] at hinitializer
    cases hinitializer
  rw [hinitializer] at hsome
  cases hsome
  obtain ⟨_, hi', -⟩ | ⟨_, _, _, hi', -⟩ | ⟨_, hi', he, hmember⟩ := member_initialized hi <;> cases hi'
  have hs := isStatement_numeric hn hname hkey (isExpression_parentheses he) (by decide)
  have hfixed : ∀ x ∈ e.names, x ∉ ["this", "new.target", n] := by
    intro x hx
    obtain ⟨hvariable, hascii⟩ := he.isVariable_of_mem x hx
    obtain ⟨hthis, htarget⟩ := ne_fixed hvariable hascii
    have hself : x ≠ n := fun heq => hnames (heq ▸ hx)
    simp [hthis, htarget, hself]
  have hkeyed := isKeyed_member hkey n.toList (some cs) count
  have hread := hread n.toList count ps
  rw [hmember] at hkeyed hread
  obtain ⟨text, ss, htext, hss⟩ : ∃ text ss,
      members n.toList { next := none, previous := some (quote :: inner) } ps = .ok text ∧ IsRead text ss := by
    obtain ⟨rfl, rfl⟩ | hms := hms
    · exact ⟨[], [], rfl, .nil⟩
    · exact exists_isRead hn hname hms hkeyed
  exact ⟨_, _, ss, by rw [hread, htext]; rfl, .cons hs hss, missesIn_number hne hfixed o m.name⟩

/-- **The statement of the first member whose initializer has names in it misses them**, and those of the
members before it fill the object. -/
theorem exists_missesIn (hn : IsVariable n) (hname : IsAsciiName n.toList) {m₀ : Member} {ms' : List Member} {e : Flags}
    (hms : AreWritten ps (ms ++ m₀ :: ms')) (hmembers : ∀ m ∈ ms, IsMemberName m.name)
    (hinitializer : m₀.initializer = some (.flags e)) (hne : e.names ≠ []) (hnames : n ∉ e.names)
    (hws : worths? auto ms = some ws) (ht : Tally auto count o) (hcount : count.IsKeyed) (ho : o.IsPlain)
    (hparent : o.parent = some Script.Ref.objectProto) :
    ∃ text before s after o', members n.toList count ps = .ok text ∧ IsRead text (before ++ s :: after) ∧
      Script.Run.Fills n o before o' ∧ MissesIn n o' s := by
  induction ms generalizing ps auto count o ws with
  | nil =>
    obtain ⟨p, qs, rfl, hm, hrest⟩ := hms.of_cons
    obtain ⟨text, s, after, htext, hss, hs⟩ := missesIn_first hn hname hm hrest hinitializer hne hnames count o
    exact ⟨text, [], s, after, o, htext, hss, .nil n o, hs⟩
  | cons m ms ih =>
    obtain ⟨p, qs, rfl, hm, hrest⟩ := hms.of_cons
    have hrest : AreWritten qs (ms ++ m₀ :: ms') := hrest.resolve_left fun h => by simp at h
    obtain ⟨hmember, hmembers⟩ := List.forall_mem_cons.mp hmembers
    simp only [worths?, Option.bind_eq_bind, Option.bind_eq_some_iff] at hws
    obtain ⟨w, hw, ws', hws', -⟩ := hws
    obtain ⟨step, ⟨s₁, hwrites, ht'⟩, hkeyed, hread⟩ := exists_step hn hname hm hmember hw ht ho hparent
    obtain ⟨text, before, s, after, o', htext, hss, hbefore, hs⟩ := ih hrest hmembers hws' ht' hkeyed
      (isPlain_put ho m.name w) ((parent_put o m.name w).trans hparent)
    obtain ⟨e₁, rfl⟩ := hwrites.isExpression
    exact ⟨_, .expression e₁ :: before, s, after, o', by rw [hread, htext]; rfl, .cons hwrites.isStatement hss,
      .cons hwrites.fills hbefore, hs⟩

/-- **An enum throws where an initializer names a member.** Its declaration is written and read as that of
any other, but where it runs with no other variable, it throws that there is no such variable. -/
theorem exists_misses (hn : IsVariable name) (hname : IsAsciiName name.toList) {m₀ : Member} {ms' : List Member} {e : Flags}
    (hbody : IsBody inside body (ms ++ m₀ :: ms')) (hmembers : ∀ m ∈ ms, IsMemberName m.name)
    (hws : worths? (some (.integer 0)) ms = some ws) (hinitializer : m₀.initializer = some (.flags e))
    (hne : e.names ≠ []) (hnames : name ∉ e.names) :
    ∃ text program, Declares inside name body text program ∧
      ∀ (component : Script.Library.Body) (room : Nat) (m : Machine) (scope : Nat),
        m.scopes[scope]? = some (loneScope name .undefined) → HasRoom m →
        Misses (stmts (Script.Engine.host component (room + 1)) scope program) m := by
  obtain ⟨u, ps, huncommented, rfl, hms⟩ := id hbody
  have hcount : Count.IsKeyed {} := fun _ h => by cases h
  obtain ⟨t, before, s, after, o', ht, hread, hbefore, hs⟩ :=
    exists_missesIn hn hname hms hmembers hinitializer hne hnames hws (.start _) hcount isPlain_empty rfl
  obtain ⟨text, hdeclares⟩ := exists_declares hn hname hbody huncommented hms ht hread
  exact ⟨text, _, hdeclares, fun component room m scope hscope hm =>
    stmts_misses component room hread.declares hbefore hs hscope hm (ne_fixed hn hname)⟩

/-- A machine with an object to begin with, and one variable. -/
def smallMachine (n : String) : Machine where
  heap := #[{ parent := none }]
  scopes := #[loneScope n .undefined]
  bounds := ⟨10, 10, 10⟩

theorem hasRoom_smallMachine (n : String) : HasRoom (smallMachine n) where
  root := ⟨{ parent := none }, rfl, rfl, rfl, fun _ _ _ h => by cases h⟩
  stack := show 0 + 3 < 10 by decide

def shiftMembers : List Member :=
  [⟨.whole "A", some (.integer 1)⟩, ⟨.whole "B", some (.flags (.binary .shift (.name "A") (.number 1)))⟩]

theorem isWritten_shift : Flags.IsWritten 1 "A << 1".toList (.binary .shift (.name "A") (.number 1)) := by
  have hA : IsAsciiName "A".toList := ⟨_, _, rfl, rfl, rfl⟩
  have hleft := Flags.IsWritten.name 9 Script.IsGap.nil hA (by unfold IsVariable; decide)
  have hone : Script.IsNumeral ['1'] := by unfold Script.IsNumeral; decide
  have hright := Flags.IsWritten.number 10 Script.IsGap.space hone
  exact .weaken (Nat.le_of_ble_eq_true rfl) (.binary .shift hleft Script.IsGap.space hright)

theorem isBody_shift : IsBody isQuiet " A = 1, B = A << 1 ".toList shiftMembers := by
  have hA : IsKey "A".toList (.whole "A") := .plain ⟨_, _, rfl, rfl, rfl⟩
  have hB : IsKey "B".toList (.whole "B") := .plain ⟨_, _, rfl, rfl, rfl⟩
  have hone : Initializer.IsWritten ['1'] (.integer 1) := .integer (by unfold Script.IsNumeral; decide) (by decide)
  have hspace : IsBlanks [' '] ∧ IsBlanks [] := by decide
  have hall : Uncommented isQuiet (" A = 1, B = A << 1 ".toList ++ []) (" A = 1, B = A << 1 ".toList ++ []) := .chars rfl .nil
  refine ⟨_, [[' '] ++ ("A".toList ++ ([' '] ++ '=' :: ([' '] ++ (['1'] ++ [])))),
    [' '] ++ ("B".toList ++ ([' '] ++ '=' :: ([' '] ++ ("A << 1".toList ++ [' ']))))], hall, by decide +kernel, ?_⟩
  refine .cons (.initialized hspace.1 hA hspace.1 hspace.1 hone hspace.2) (.last ?_)
  exact .initialized hspace.1 hB hspace.1 hspace.1 (.flags isWritten_shift rfl ⟨'A', by decide, by decide, rfl⟩) hspace.1

/-- `B` names `A`, which is one and should make it two. -/
theorem naming_initializer_throws :
    ∃ text program, lower "enum E \x7b A = 1, B = A << 1 \x7d" .tsx = .ok (String.ofList text) ∧
      Script.read text = .ok program ∧
      Misses (stmts (Script.Engine.host (fun _ _ _ _ => pure .undefined) 1) 0 program) (smallMachine "E") := by
  have hE : IsAsciiName "E".toList := ⟨_, _, rfl, rfl, rfl⟩
  have hmembers : ∀ m ∈ [Member.mk (.whole "A") (some (.integer 1))], IsMemberName m.name :=
    List.forall_mem_singleton.mpr (isMemberName_of_isAsciiName ⟨_, _, rfl, rfl, rfl⟩ (by decide))
  have hbody : IsBody isQuiet " A = 1, B = A << 1 ".toList ([⟨.whole "A", some (.integer 1)⟩] ++ ⟨.whole "B", _⟩ :: []) :=
    isBody_shift
  obtain ⟨text, program, hdeclares, hmisses⟩ := exists_misses (e := .binary .shift (.name "A") (.number 1))
    (by unfold IsVariable; decide) hE hbody hmembers rfl rfl (List.cons_ne_nil _ _) (by decide)
  have hspaces : IsSpaces [' '] := List.forall_mem_singleton.mpr rfl
  have hhead : IsHead "E".toList _ := .plain hspaces (List.cons_ne_nil _ _) hspaces
  have htypes : Dialect.tsx.hasTypes = true := rfl
  obtain ⟨hlowered, hread⟩ := hdeclares.of_line (fun _ h => h) hhead htypes (by decide +kernel)
  have hsource : "enum E \x7b A = 1, B = A << 1 \x7d" = String.ofList ("enum".toList ++ headText [' '] "E".toList [' '] ++
      (" A = 1, B = A << 1 ".toList ++ ['}'])) := by decide +kernel
  exact ⟨text, program, hsource ▸ hlowered, hread, hmisses _ 0 _ 0 rfl (hasRoom_smallMachine "E")⟩

/-! ## An enum with members of all kinds -/

/-- Members that count from zero, and on from a number, a text, flags, and one behind them. -/
def maskMembers : List Member :=
  [⟨.whole "First", none⟩, ⟨.whole "Fifth", some (.integer 5)⟩, ⟨.whole "Sixth", none⟩,
    ⟨.whole "a label", some (.string (.whole "x"))⟩,
    ⟨.whole "Mask", some (.flags (.binary .or (.number 1) (.number 2)))⟩, ⟨.whole "Next", none⟩]

def maskText : List Char :=
  " First, Fifth = 5, Sixth, 'a label' = \"x\", Mask = 1 | 2 /* flags */, Next ".toList

theorem isAsciiName_mask : ∀ x ∈ ["E", "First", "Fifth", "Sixth", "Mask", "Next"], IsAsciiName x.toList := by
  intro x hx
  simp only [List.mem_cons, List.not_mem_nil, or_false] at hx
  rcases hx with rfl | rfl | rfl | rfl | rfl | rfl <;> exact ⟨_, _, rfl, rfl, rfl⟩

theorem isQuoted_label : IsQuoted '\'' "a label'".toList (.whole "a label") :=
  ⟨.inr rfl, by decide, _, _, rfl, by decide⟩

theorem isQuoted_x : IsQuoted '"' "x\"".toList (.whole "x") := ⟨.inl rfl, by decide, _, _, rfl, by decide⟩

theorem isWritten_mask : Flags.IsWritten 1 "1 | 2".toList (.binary .or (.number 1) (.number 2)) := by
  have hdigit : ∀ d ∈ [['1'], ['2']], Script.IsNumeral d := by unfold Script.IsNumeral; decide
  have hleft := Flags.IsWritten.number 4 Script.IsGap.nil (hdigit ['1'] (by decide))
  have hright := Flags.IsWritten.number 5 Script.IsGap.space (hdigit ['2'] (by decide))
  exact .weaken (Nat.le_of_ble_eq_true rfl) (.binary .or hleft Script.IsGap.space hright)

theorem isBody_mask : IsBody isQuiet maskText maskMembers := by
  -- the text from its end: what is behind the comment, the comment, the strings
  have hnext : Uncommented isQuiet (", Next ".toList ++ []) (", Next ".toList ++ []) := .chars rfl .nil
  have hplain : ¬ ['*', '/'] <:+: " flags ".toList := fun h => absurd (h.subset (List.mem_cons_self ..)) (by decide)
  have hcomment : Uncommented isQuiet (['/', '*'] ++ (" flags ".toList ++ '*' :: '/' :: (", Next ".toList ++ [])))
      (' ' :: (", Next ".toList ++ [])) := .block (List.all_eq_true.mp rfl) hplain hnext
  have hmask : Uncommented isQuiet (", Mask = 1 | 2 ".toList ++ _) (", Mask = 1 | 2 ".toList ++ _) := .chars rfl hcomment
  have hequals : Uncommented isQuiet (" = ".toList ++ _) (" = ".toList ++ _) :=
    .chars rfl (.string (.inl rfl) isQuoted_x.stringBody hmask)
  have hall : Uncommented isQuiet (" First, Fifth = 5, Sixth, ".toList ++ _) (" First, Fifth = 5, Sixth, ".toList ++ _) :=
    .chars rfl (.string (.inr rfl) isQuoted_label.stringBody hequals)
  have htext : maskText = " First, Fifth = 5, Sixth, ".toList ++ ('\'' :: "a label'".toList ++ (" = ".toList ++
      ('"' :: "x\"".toList ++ (", Mask = 1 | 2 ".toList ++ (['/', '*'] ++ (" flags ".toList ++
      '*' :: '/' :: (", Next ".toList ++ []))))))) := by decide +kernel
  have hkey : ∀ x ∈ ["E", "First", "Fifth", "Sixth", "Mask", "Next"], IsKey x.toList (.whole x) := fun x hx =>
    .plain (isAsciiName_mask x hx)
  have hnone : IsBlanks [] := by decide
  have hspace : IsBlanks [' '] ∧ IsBlanks [' ', ' '] := by decide
  have hfive : Initializer.IsWritten ['5'] (.integer 5) := .integer (by unfold Script.IsNumeral; decide) (by decide)
  rw [htext]
  refine ⟨_, [[' '] ++ ("First".toList ++ []), [' '] ++ ("Fifth".toList ++ ([' '] ++ '=' :: ([' '] ++ (['5'] ++ [])))),
    [' '] ++ ("Sixth".toList ++ []),
    [' '] ++ ('\'' :: "a label'".toList ++ ([' '] ++ '=' :: ([' '] ++ ('"' :: "x\"".toList ++ [])))),
    [' '] ++ ("Mask".toList ++ ([' '] ++ '=' :: ([' '] ++ ("1 | 2".toList ++ [' ', ' '])))),
    [' '] ++ ("Next".toList ++ [' '])], hall, by decide +kernel, ?_⟩
  refine .cons (.plain hspace.1 (hkey _ (by decide)) hnone) (.cons ?_ (.cons (.plain hspace.1 (hkey _ (by decide)) hnone)
    (.cons ?_ (.cons ?_ (.last (.plain hspace.1 (hkey _ (by decide)) hspace.1))))))
  · exact .initialized hspace.1 (hkey _ (by decide)) hspace.1 hspace.1 hfive hnone
  · exact .initialized hspace.1 (.quoted isQuoted_label) hspace.1 hspace.1 (.string isQuoted_x) hnone
  · exact .initialized hspace.1 (hkey _ (by decide)) hspace.1 hspace.1 (.flags isWritten_mask rfl ⟨'|', by decide, by decide, rfl⟩) hspace.2

theorem isMemberName_mask : ∀ m ∈ maskMembers, IsMemberName m.name := by
  have hlabel : IsMemberName (.whole "a label") := ⟨by decide, fun x heq =>
    Script.Numeral.text_ne (by decide) (by decide) rfl x (Utf16.whole.inj heq).symm⟩
  intro m hm
  simp only [maskMembers, List.mem_cons, List.not_mem_nil, or_false] at hm
  rcases hm with rfl | rfl | rfl | rfl | rfl | rfl
  · exact isMemberName_of_isAsciiName (isAsciiName_mask _ (by decide)) (by decide)
  · exact isMemberName_of_isAsciiName (isAsciiName_mask _ (by decide)) (by decide)
  · exact isMemberName_of_isAsciiName (isAsciiName_mask _ (by decide)) (by decide)
  · exact hlabel
  · exact isMemberName_of_isAsciiName (isAsciiName_mask _ (by decide)) (by decide)
  · exact isMemberName_of_isAsciiName (isAsciiName_mask _ (by decide)) (by decide)

theorem enumerates_mask :
    let mask := Script.FlagOp.or.apply (Script.Numeral.nearest 1) (Script.Numeral.nearest 2)
    ∃ text program, Declares isQuiet "E" maskText text program ∧
      lower (String.ofList ("const enum E \x7b".toList ++ (maskText ++ ['}']))) .ts = .ok (String.ofList text) ∧
      Script.read text = .ok program ∧
      ∃ (m' : Machine) (ref : Nat) (o : Obj),
        stmts (Script.Engine.host (fun _ _ _ _ => pure .undefined) 1) 0 program (smallMachine "E") = .ok .next m' ∧
        m'.scopes[0]? = some (loneScope "E" (.object ref)) ∧ m'.heap[ref]? = some o ∧
        Enumerates o [(.whole "First", .integer 0), (.whole "Fifth", .integer 5), (.whole "Sixth", .integer 6),
          (.whole "a label", .text (.whole "x")), (.whole "Mask", .number mask),
          (.whole "Next", .number (mask + Script.Numeral.nearest 1))] := by
  have hvariable : IsVariable "E" := by unfold IsVariable; decide
  have hdistinct : (maskMembers.map Member.name).Nodup := by decide
  obtain ⟨text, program, hdeclares, hruns⟩ := exists_enumerates hvariable (isAsciiName_mask "E" (by decide))
    isBody_mask isMemberName_mask hdistinct rfl
  have hspaces : IsSpaces [' '] := List.forall_mem_singleton.mpr rfl
  have hne : [' '] ≠ [] := List.cons_ne_nil _ _
  have hhead : "const".toList ++ ([' '] ++ ("enum".toList ++ headText [' '] "E".toList [' '])) = "const enum E \x7b".toList := by
    decide +kernel
  have hline : '\n' ∉ "const enum E \x7b".toList ++ (maskText ++ ['}']) := by decide +kernel
  have hconst : IsHead "E".toList _ := .const hspaces hne hspaces hne hspaces
  rw [hhead] at hconst
  have htypes : Dialect.ts.hasTypes = true := rfl
  obtain ⟨hlowered, hread⟩ := hdeclares.of_line (fun _ h => h) hconst htypes hline
  exact ⟨text, program, hdeclares, hlowered, hread, hruns _ 0 _ 0 rfl (hasRoom_smallMachine "E")⟩

end Enum
end Source
end Restyle
