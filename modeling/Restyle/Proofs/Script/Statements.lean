import Restyle.Proofs.Script.Filling
import Restyle.Proofs.Script.Strings

/-!
# Restyle.Proofs.Script.Statements

How the statements that fill an object are written. `IsStatement` is said of a text that is read as
one statement whatever stands behind it, `IsBody` of one that is read as several up to a brace.
-/

namespace Restyle
namespace Script

open Grammar Parse Run

variable {d d' : Nat} {ws ws' : List Word} {s : Stmt} {ss : List Stmt} {n : String} {k v e : Expr}
  {f f₁ f₂ f₃ f₄ f₅ : Bool}

/-! ## Statements by their words -/

/-- With so much depth, or more, the words are read as one statement, which may stand in braces. -/
def ReadsStatement (d : Nat) (ws : List Word) (s : Stmt) : Prop :=
  ∀ n, d ≤ n → ∀ x y, Ahead x ws y → Takes (grammar n).statement x s y ∧ Takes (isMark "\x7d") x false x

theorem readsBody_nil (d : Nat) : ReadsBody d [] [] := by
  intro n _ x y hahead _
  rw [Ahead.nil_iff.mp hahead]
  exact .nil y

theorem readsBody_cons (h : ReadsStatement d ws s) (h' : ReadsBody d' ws' ss) :
    ReadsBody (max d d') (ws ++ ws') (s :: ss) := by
  intro n hn x z hahead hz
  obtain ⟨y, hfirst, hrest⟩ := Ahead.append_iff.mp hahead
  obtain ⟨hs, hgoes⟩ := h n (by omega) x y hfirst
  exact .cons hgoes hs (h' n (by omega) y z hrest hz)

theorem readsStatement_assignment (hn : IsVariable n) (hk : Reads d ws k) (hv : Reads d' ws' v)
    (hlength : ws.length ≤ d) :
    ReadsStatement (d + d' + 11) (⟨.name n false, f₁⟩ :: ⟨.mark "[", f₂⟩ :: ws ++ [⟨.mark "]", f₃⟩] ++
      ⟨.mark "=", f₄⟩ :: ws' ++ [⟨.mark ";", f₅⟩]) (.expression (assignment n k v)) := by
  intro m hm x z hahead
  obtain ⟨i, rfl⟩ : ∃ i, m = i + 1 := ⟨m - 1, by omega⟩
  obtain ⟨y, hassigned, hclose⟩ := Ahead.append_iff.mp hahead
  obtain ⟨hy, -, z', hnextz, hnil⟩ := Ahead.cons_iff.mp hclose
  rw [Ahead.nil_iff.mp hnil] at hnextz
  have hexpression := (reads_assign hn hk hv f₁ f₂ f₃ f₄ hlength).expression (n := i) (by omega) hassigned
    ⟨_, by decide, hy⟩
  obtain ⟨hx, -, x', hnext, hrest⟩ := Ahead.cons_iff.mp hassigned
  obtain ⟨hx', -⟩ := Ahead.cons_iff.mp hrest
  have hmark := takes_isMark "\x7d" x
  rw [hx] at hmark
  exact ⟨takes_statementBody_member hn hx hnext hx' hexpression hy hnextz, hmark⟩

theorem reads_name (hn : IsVariable n) (f : Bool) : Reads 5 [⟨.name n false, f⟩] (.name n) := by
  refine reads_of_climbs (d := 3) (fun m hm => climbs_operand (isOperand_name hn f m (by omega)))
    (Nat.le_refl 1) (fun m x y _ hahead hy => ?_) (by simp)
  obtain ⟨hx, -, y', hnext, hnil⟩ := Ahead.cons_iff.mp hahead
  rw [Ahead.nil_iff.mp hnil] at hnext
  exact begins_name hn hx hnext (.inl hy)

theorem readsStatement_return (hn : IsVariable n) :
    ReadsStatement 9 [⟨.name "return" false, f₁⟩, ⟨.name n false, false⟩, ⟨.mark ";", f₂⟩] (.returns (.name n)) := by
  intro m hm x z hahead
  obtain ⟨i, rfl⟩ : ∃ i, m = i + 1 := ⟨m - 1, by omega⟩
  obtain ⟨hx, -, x', hnext, hrest⟩ := Ahead.cons_iff.mp hahead
  have hrest : Ahead x' ([⟨.name n false, false⟩] ++ [⟨.mark ";", f₂⟩]) z := hrest
  obtain ⟨y, hname, hclose⟩ := Ahead.append_iff.mp hrest
  obtain ⟨hy, -, z', hnextz, hnil⟩ := Ahead.cons_iff.mp hclose
  rw [Ahead.nil_iff.mp hnil] at hnextz
  obtain ⟨hx', hfresh, -⟩ := Ahead.cons_iff.mp hname
  have hexpression := (reads_name hn false).expression (n := i) (by omega) hname ⟨_, by decide, hy⟩
  have hmark := takes_isMark "\x7d" x
  rw [hx] at hmark
  exact ⟨takes_statementBody_return hx hnext hfresh hx' hexpression hy hnextz, hmark⟩

/-- The words of one more than a member. -/
def successorWords (n : String) (f : Bool) (ws : List Word) : List Word :=
  (⟨.name n false, f⟩ :: ⟨.mark "[", false⟩ :: ws ++ [⟨.mark "]", false⟩]) ++
    ⟨.mark "+", false⟩ :: [⟨.number (Numeral.nearest 1), false⟩]

theorem reads_successor (hn : IsVariable n) (hk : Reads d ws k) (hlength : ws.length ≤ d) :
    Reads (d + 9) (successorWords n f ws) (successor n k) := by
  refine reads_of_climbs (l := 10) (d := d + 7) (fun m hm => ?_) (by omega) (fun m x y _ hahead _ => ?_) ?_
  · obtain ⟨i, rfl⟩ : ∃ i, m = i + 2 := ⟨m - 2, by omega⟩
    have hmember : Climbs (grammar (i + 2)) 10 _ (.member false (.name n) k) :=
      climbs_operand (isOperand_member hn hk f false false (i + 2) (by omega))
    have hone : Climbs (grammar (i + 1)) 11 _ (.number (Numeral.nearest 1)) :=
      climbs_operand (isOperand_number (Numeral.nearest 1) false (i + 1) (by omega))
    exact hmember.binary (by decide) rfl fun x y hahead hy hstops =>
      hone.takes hahead hy (Nat.le_refl 11) ⟨10, by omega, hstops⟩ (show 1 < i by omega)
  · obtain ⟨z, hleft, -⟩ := Ahead.append_iff.mp hahead
    obtain ⟨hx, -, x', hnext, hrest⟩ := Ahead.cons_iff.mp hleft
    obtain ⟨hx', -⟩ := Ahead.cons_iff.mp hrest
    exact begins_name hn hx hnext (.inr hx')
  · simp only [successorWords, List.length_append, List.length_cons, List.length_nil]
    omega

/-! ## Expressions by their texts -/

/-- Before a mark, the text is read as an expression, with three levels of depth for each word and some
more. -/
def IsExpression (stop : Char) (cs : List Char) (more : Nat) (e : Expr) : Prop :=
  ∃ ws, ws.length ≤ cs.length ∧ (∀ rest, Leads cs ws (stop :: rest)) ∧ Reads (3 * ws.length + more) ws e

variable {stop mark : Char} {cs cs' gap inner : List Char} {c c' : Nat} {text : Utf16}

theorem isExpression_quoted (h : IsQuoted mark inner text) (hgap : IsGap gap) (stop : Char) :
    IsExpression stop (gap ++ mark :: inner) 2 (.string text) := by
  obtain ⟨plain, hleads⟩ := leads_quoted h hgap
  refine ⟨_, ?_, fun rest => hleads _, reads_string text plain _⟩
  simp only [List.length_append, List.length_cons, List.length_nil]
  omega

/-- The words of an assignment to a member of a variable. -/
def assignmentWords (n : String) (f : Bool) (ws ws' : List Word) : List Word :=
  ⟨.name n false, f⟩ :: ⟨.mark "[", false⟩ :: ws ++ [⟨.mark "]", false⟩] ++ ⟨.mark "=", false⟩ :: ws'

/-- How it is written. -/
def assignmentText (gap n key value : List Char) : List Char :=
  gap ++ n ++ '[' :: key ++ [']', ' ', '='] ++ value

theorem leads_here {m : String} (hm : m ∈ ["[", "]", "(", ")", "\x7b", "\x7d", ";"]) {c : Char} (hc : m.toList = [c])
    (rest : List Char) : Leads [c] [⟨.mark m, false⟩] rest :=
  hc ▸ leads_mark hm IsGap.nil rest

theorem leads_spaced {m : String} (hm : m ∈ ["[", "]", "(", ")", "\x7b", "\x7d", ";"]) {c : Char} (hc : m.toList = [c])
    (rest : List Char) : Leads [' ', c] [⟨.mark m, false⟩] rest :=
  hc ▸ leads_mark hm IsGap.space rest

theorem leads_assignment (hname : IsName n.toList) (hgap : IsGap gap) {rest : List Char}
    (hkey : ∀ rest, Leads cs ws (']' :: rest)) (hvalue : Leads (' ' :: cs') ws' rest) :
    Leads (assignmentText gap n.toList cs (' ' :: cs')) (assignmentWords n (gap.any isLineEnd) ws ws') rest := by
  have hequals := (leads_equals IsGap.space (cs' ++ rest)).append hvalue
  have hclose := (leads_here (m := "]") (c := ']') (by decide) rfl _).append hequals
  have hinner := (hkey _).append hclose
  have hopen := (leads_here (m := "[") (c := '[') (by decide) rfl _).append hinner
  have hall := (leads_name hname hgap (by rfl)).append hopen
  have hspace : isLineEnd ' ' = false := rfl
  simpa [assignmentText, assignmentWords, hspace] using hall

theorem length_pos_of_isName {cs : List Char} (h : IsName cs) : 0 < cs.length := by
  obtain ⟨hstart, -⟩ := h
  cases cs with
  | nil => cases hstart
  | cons => exact Nat.succ_pos _

theorem length_assignmentWords (gap : List Char) (f : Bool) (hname : IsName n.toList) (hlength : ws.length ≤ cs.length)
    (hlength' : ws'.length ≤ cs'.length) :
    (assignmentWords n f ws ws').length ≤ (assignmentText gap n.toList cs cs').length := by
  have := length_pos_of_isName hname
  simp only [assignmentWords, assignmentText, List.length_append, List.length_cons, List.length_nil]
  omega

theorem isExpression_assignment (hn : IsVariable n) (hname : IsName n.toList) (hgap : IsGap gap)
    (hkey : IsExpression ']' cs c k) (hvalue : IsExpression stop (' ' :: cs') c' v) :
    IsExpression stop (assignmentText gap n.toList cs (' ' :: cs')) (c + c') (assignment n k v) := by
  obtain ⟨ws, hlength, hleads, hreads⟩ := hkey
  obtain ⟨ws', hlength', hleads', hreads'⟩ := hvalue
  have hassign : Reads _ (assignmentWords n (gap.any isLineEnd) ws ws') (assignment n k v) :=
    reads_assign hn hreads hreads' (gap.any isLineEnd) false false false (by omega)
  refine ⟨_, length_assignmentWords _ _ hname hlength hlength',
    fun rest => leads_assignment hname hgap hleads (hleads' rest), fun m hm => hassign m ?_⟩
  simp only [assignmentWords, List.length_append, List.length_cons, List.length_nil] at hm
  omega

theorem isExpression_flags {e : Flags} (h : Flags.IsWritten 1 cs e) (hstop : stop ∈ [']', ';']) :
    IsExpression stop cs 5 e.expr := by
  obtain ⟨ws, hws, hlength, hleads⟩ := h.exists_words
  refine ⟨ws, hlength, fun rest => hleads _ ?_, hws.reads⟩
  simp only [List.mem_cons, List.not_mem_nil, or_false] at hstop
  rcases hstop with rfl | rfl <;> exact endsNumeral_cons (by decide) (by decide) (by decide)

/-- Flags in parentheses. -/
theorem isExpression_group {e : Flags} (h : Flags.IsWritten 1 cs e) (hgap : IsGap gap) (hstop : stop ∈ [']', ';']) :
    IsExpression stop (gap ++ '(' :: (cs ++ [')'])) 5 e.expr :=
  isExpression_flags (.group 1 hgap h IsGap.nil) hstop

/-- How the successor of a member is written. -/
def successorText (gap n key : List Char) : List Char := gap ++ n ++ '[' :: key ++ [']', ' ', '+', ' ', '1']

theorem leads_successor (hname : IsName n.toList) (hgap : IsGap gap) {rest : List Char}
    (hkey : ∀ rest, Leads cs ws (']' :: rest)) (hrest : EndsNumeral rest) :
    Leads (successorText gap n.toList cs) (successorWords n (gap.any isLineEnd) ws) rest := by
  have hnumeral : IsNumeral ['1'] := by unfold IsNumeral; decide
  have hone := leads_numeral hnumeral IsGap.space hrest
  have hplus := (leads_operator (m := "+") (c := ' ') (by decide) IsGap.space (by decide) ('1' :: rest)).append hone
  have hclose := (leads_here (m := "]") (c := ']') (by decide) rfl _).append hplus
  have hopen := (leads_here (m := "[") (c := '[') (by decide) rfl _).append ((hkey _).append hclose)
  have hall := (leads_name hname hgap (by rfl)).append hopen
  have hspace : isLineEnd ' ' = false := rfl
  have hdecimal : Text.decimal ['1'] = 1 := rfl
  simpa [successorText, successorWords, hspace, hdecimal] using hall

theorem isExpression_successor (hn : IsVariable n) (hname : IsName n.toList) (hgap : IsGap gap)
    (hkey : IsExpression ']' cs c k) (hstop : stop ∈ [']', ';']) :
    IsExpression stop (successorText gap n.toList cs) c (successor n k) := by
  obtain ⟨ws, hlength, hleads, hreads⟩ := hkey
  have hpos := length_pos_of_isName hname
  have hsuccessor := reads_successor (f := gap.any isLineEnd) hn hreads (by omega)
  refine ⟨_, ?_, fun rest => leads_successor hname hgap hleads ?_, fun m hm => hsuccessor m ?_⟩
  · simp only [successorWords, successorText, List.length_append, List.length_cons, List.length_nil]
    omega
  · simp only [List.mem_cons, List.not_mem_nil, or_false] at hstop
    rcases hstop with rfl | rfl <;> exact endsNumeral_cons (by decide) (by decide) (by decide)
  · simp only [successorWords, List.length_append, List.length_cons, List.length_nil] at hm
    omega

/-! ## Statements by their texts -/

/-- The text is read as one statement, whatever stands behind it. -/
def IsStatement (cs : List Char) (s : Stmt) : Prop :=
  ∃ ws, 0 < ws.length ∧ ws.length ≤ cs.length ∧ (∀ rest, Leads cs ws rest) ∧ ReadsStatement (3 * ws.length + 60) ws s

theorem isStatement_assignment (hn : IsVariable n) (hname : IsName n.toList) (hgap : IsGap gap)
    (hkey : IsExpression ']' cs c k) (hvalue : IsExpression ';' (' ' :: cs') c' v) (hc : c + c' ≤ 40) :
    IsStatement (assignmentText gap n.toList cs (' ' :: cs') ++ [';']) (.expression (assignment n k v)) := by
  obtain ⟨ws, hlength, hleads, hreads⟩ := hkey
  obtain ⟨ws', hlength', hleads', hreads'⟩ := hvalue
  have hassign : ReadsStatement _ (assignmentWords n (gap.any isLineEnd) ws ws' ++ [⟨.mark ";", false⟩])
      (.expression (assignment n k v)) := readsStatement_assignment hn hreads hreads' (by omega)
  have hend : ∀ rest, Leads [';'] [⟨.mark ";", false⟩] rest :=
    leads_here (by decide) rfl
  have hlengths := length_assignmentWords gap (gap.any isLineEnd) hname hlength hlength'
  refine ⟨_, ?_, ?_, fun rest => (leads_assignment hname hgap hleads (hleads' _)).append (hend rest),
    fun m hm => hassign m ?_⟩
  · simp [assignmentWords]
  · simp only [List.length_append, List.length_cons, List.length_nil]
    omega
  · simp only [assignmentWords, List.length_append, List.length_cons, List.length_nil] at hm
    omega

/-- The text is read as statements up to a brace. -/
def IsBody (cs : List Char) (ss : List Stmt) : Prop :=
  ∃ ws, ws.length ≤ cs.length ∧ (∀ rest, Leads cs ws rest) ∧ ReadsBody (3 * ws.length + 60) ws ss ∧
    ss.length ≤ ws.length

theorem IsBody.nil : IsBody [] [] := ⟨[], Nat.le_refl _, Leads.nil, readsBody_nil _, Nat.le_refl _⟩

theorem IsBody.cons (h : IsBody cs' ss) (hs : IsStatement cs s) : IsBody (cs ++ cs') (s :: ss) := by
  obtain ⟨ws, hpos, hlength, hleads, hreads⟩ := hs
  obtain ⟨ws', hlength', hleads', hreads', hcount⟩ := h
  refine ⟨ws ++ ws', ?_, fun rest => (hleads _).append (hleads' rest), fun m hm => ?_, ?_⟩
  · simp only [List.length_append]
    omega
  · rw [List.length_append] at hm
    exact readsBody_cons hreads hreads' m (by omega)
  · simp only [List.length_append, List.length_cons]
    omega

theorem isStatement_return (hn : IsVariable n) (hname : IsName n.toList) :
    IsStatement ([' ', 'r', 'e', 't', 'u', 'r', 'n', ' '] ++ n.toList ++ [';']) (.returns (.name n)) := by
  have hpos := length_pos_of_isName hname
  have hspace : [' '].any isLineEnd = false := rfl
  have hreturn : IsName "return".toList := by unfold IsName; decide
  refine ⟨[⟨.name "return" false, false⟩, ⟨.name n false, false⟩, ⟨.mark ";", false⟩], Nat.succ_pos _, ?_,
    fun rest => ?_, fun m hm => readsStatement_return hn m (by omega)⟩
  · simp only [List.length_append, List.length_cons, List.length_nil]
    omega
  · have hend := leads_here (m := ";") (c := ';') (by decide) rfl rest
    have hvalue := (leads_name hname IsGap.space (by rfl)).append hend
    have hword := (leads_name hreturn IsGap.space (by rfl)).append hvalue
    rw [hspace] at hword
    simpa using hword

theorem isBody_return (hn : IsVariable n) (hname : IsName n.toList) :
    IsBody ([' ', 'r', 'e', 't', 'u', 'r', 'n', ' '] ++ n.toList ++ [';']) [.returns (.name n)] := by
  have hbody := IsBody.nil.cons (isStatement_return hn hname)
  rwa [List.append_nil] at hbody

/-! ## The declaration by its text -/

/-- How a function is called at once with a variable or an empty object. -/
def filledText (n body : List Char) : List Char :=
  [' ', '('] ++ "function".toList ++ [' ', '('] ++ n ++ [')', ' ', '{'] ++ body ++ [' ', '}', ')', '('] ++ n ++
    [' ', '|', '|', ' ', '{', '}', ')']

theorem leads_filled (hname : IsName n.toList) (hleads : ∀ rest, Leads cs ws rest) (rest : List Char) :
    Leads (filledText n.toList cs) (filledWords n ws) rest := by
  have hspace : isLineEnd ' ' = false := rfl
  have hfunction : IsName "function".toList := by unfold IsName; decide
  -- from the end: the argument, the body of the function, and its head
  have hclose := leads_here (m := ")") (c := ')') (by decide) rfl rest
  have hobject := (leads_spaced (m := "\x7b") (c := '{') (by decide) rfl _).append
    ((leads_here (m := "\x7d") (c := '}') (by decide) rfl _).append hclose)
  have hor := (leads_or IsGap.space ('{' :: '}' :: ')' :: rest)).append hobject
  have hargument := (leads_here (m := "(") (c := '(') (by decide) rfl _).append
    ((leads_name hname IsGap.nil (by rfl)).append hor)
  have hend := (leads_spaced (m := "\x7d") (c := '}') (by decide) rfl _).append
    ((leads_here (m := ")") (c := ')') (by decide) rfl _).append hargument)
  have hbody := (leads_spaced (m := "\x7b") (c := '{') (by decide) rfl _).append ((hleads _).append hend)
  have hparameter := (leads_name hname IsGap.nil (by rfl)).append
    ((leads_here (m := ")") (c := ')') (by decide) rfl _).append hbody)
  have hhead := (leads_name hfunction IsGap.nil (by rfl)).append
    ((leads_spaced (m := "(") (c := '(') (by decide) rfl _).append hparameter)
  have hall := (leads_spaced (m := "(") (c := '(') (by decide) rfl _).append hhead
  unfold filledText
  generalize "function".toList = word at hall ⊢
  simpa [filledWords, functionWords, hspace] using hall

/-- How a variable is declared with what the function gives. -/
def declaredText (n body : List Char) : List Char :=
  "var".toList ++ ' ' :: n ++ [' ', '='] ++ filledText n body ++ [';']

theorem leads_declared (hname : IsName n.toList) (hleads : ∀ rest, Leads cs ws rest) (rest : List Char) :
    Leads (declaredText n.toList cs) (declaredWords n ws) rest := by
  have hvar : IsName "var".toList := by unfold IsName; decide
  have hfilled : ∃ t, filledText n.toList cs = ' ' :: t := ⟨_, rfl⟩
  have hvalue := (leads_filled hname hleads _).append (leads_here (m := ";") (c := ';') (by decide) rfl rest)
  obtain ⟨t, ht⟩ := hfilled
  rw [ht] at hvalue
  have hequals := (leads_equals IsGap.space (t ++ [';'] ++ rest)).append hvalue
  have hall := (leads_name hvar IsGap.nil (by rfl)).append ((leads_name hname IsGap.space (by rfl)).append hequals)
  unfold declaredText
  generalize "var".toList = word at hall ⊢
  have hspace : isLineEnd ' ' = false := rfl
  simpa [ht, declaredWords, hspace] using hall

/-- At the end of a text there is a word for it. -/
theorem next_finish {r : Reader} (h : IsGap r.rest) : ∃ y, r.next = .ok y ∧ y.token = .finish := by
  have hspan : spaceSpan .plain r.rest false 0 = some (r.rest.length, r.rest.any isLineEnd) := by
    have hgap := spaceSpan_gap h [] false 0
    rw [List.append_nil] at hgap
    rw [hgap, Bool.false_or, Nat.zero_add]
    rfl
  have hskip : (r.skip r.rest.length).rest = [] := List.drop_length
  unfold Reader.next
  rw [hspan]
  simp only [hskip, readToken]
  exact ⟨_, rfl, rfl⟩

/-- **A declaration that fills an object is read as such**, with space behind it. -/
theorem read_declaredText (hn : IsVariable n) (hname : IsName n.toList) (h : IsBody cs ss) (hgap : IsGap gap) :
    read (declaredText n.toList cs ++ gap) = .ok [declared n ss] := by
  obtain ⟨ws, hlength, hleads, hreads, hcount⟩ := h
  have hall := leads_declared hname hleads gap
  obtain ⟨r, -, rfl, hmeets⟩ := hall (Reader.ofText _) (Reader.isSound_ofText _) rfl
  obtain ⟨y, hnext, hfinish⟩ := next_finish hgap
  obtain ⟨x, hlook, hahead⟩ := hmeets.ahead hnext
  refine read_of_words (d := 3 * ws.length + 60) hn hreads (by omega) (by omega) ?_ hlook hahead hfinish
  have hpos := length_pos_of_isName hname
  unfold declaredText filledText
  generalize "var".toList = word
  generalize "function".toList = word'
  simp only [List.length_append, List.length_cons, List.length_nil]
  omega

end Script
end Restyle
