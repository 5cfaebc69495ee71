import Restyle.Proofs.Source.CodeReads

/-!
# Restyle.Proofs.Source.LineComments

What becomes of line comments in the braces of markup. Lowering cuts the blanks at the end of an
expression, and with them the line break that ends a comment there, so the rest of the call becomes
comment. Where no types are removed, `swallows_iff_strays` says that this happens to no other
expression, and that without such an expression the whole result is read as it should be: what is
generated is code, and brackets close one another as they do in the source.
-/

namespace Restyle
namespace Source

open Scan Listing ScriptState

variable {s : Listing} {counted : Bool} {rs : List Run} {i j fuel start : Nat}
  {t text : List Char} {b : Cursor} {k : ScriptState} {ps : List Nat}

/-! ## Expressions in braces -/

/-- Whether a text ends in a comment does not depend on brackets. -/
theorem endsInLineComment_iff (counted : Bool) (t : List Char) :
    EndsInLineComment t ↔
      (ScriptState.read { opened := if counted then some [] else none } t).inside = .lineComment := by
  cases counted with
  | true => rfl
  | false => exact (iff_of_eq (congrArg (·.inside = .lineComment) (read_forget {} t))).symm

theorem dropWhile_of_full {front v : List Char} {last : Char} (hlast : Text.isBlank last = false) :
    (front ++ last :: v).dropWhile Text.isBlank = front.dropWhile Text.isBlank ++ last :: v := by
  rw [List.dropWhile_append, List.dropWhile_cons_of_neg (by simp [hlast])]
  split
  · rename_i hempty
    rw [List.isEmpty_iff.mp hempty, List.nil_append]
  · rfl

theorem takeWhile_of_endsFull (h : EndsFull text) (v : List Char) :
    (text ++ v).takeWhile Text.isBlank = text.takeWhile Text.isBlank := by
  obtain ⟨front, last, rfl, hlast⟩ := h
  have hstop : ¬ Text.isBlank last = true := by simp [hlast]
  simp [List.takeWhile_append, List.takeWhile_cons_of_neg hstop]

/-- The blanks are cut from both ends of a text. -/
theorem trimBy_append {u v : List Char} (hu : EndsFull u) (hv : ∀ c ∈ v, Text.isBlank c = true) :
    Text.trimBy Text.isBlank (u ++ v) = u.dropWhile Text.isBlank := by
  obtain ⟨front, last, rfl, hlast⟩ := hu
  have hv : ∀ c ∈ v.reverse, Text.isBlank c = true := fun c hc => hv c (List.mem_reverse.mp hc)
  unfold Text.trimBy
  rw [List.append_assoc, List.singleton_append, dropWhile_of_full hlast, dropWhile_of_full hlast,
    List.reverse_append, List.reverse_cons, List.append_assoc, List.dropWhile_append_of_pos hv,
    List.singleton_append, List.dropWhile_cons_of_neg (by simp [hlast])]
  simp

theorem trimBy_blanks {v : List Char} (hv : ∀ c ∈ v, Text.isBlank c = true) :
    Text.trimBy Text.isBlank v = [] := by
  have hdrop : v.dropWhile Text.isBlank = [] := by
    rw [← List.append_nil v, List.dropWhile_append_of_pos hv]
    rfl
  rw [Text.trimBy, hdrop]
  rfl

/-- Plain blanks at the beginning are nothing to the reader. -/
theorem read_dropWhile (hk : k.inside = .code)
    (hplain : ∀ c ∈ t.takeWhile Text.isBlank, Text.isSpace c = true) :
    k.read (t.dropWhile Text.isBlank) = k.read t := by
  rw [← List.takeWhile_append_dropWhile (p := Text.isBlank) (l := t), read_append,
    read_spaces hk hplain]
  simp

/-- What is left of an expression between braces when its blanks are cut. It ends in a comment if its
last construct is one, and is else an operand. -/
theorem CodeReads.trimmed (h : CodeReads s counted .brace 0 ps { pos := i } b)
    (hplain : ∀ c ∈ b.written.reverse.takeWhile Text.isBlank, Text.isSpace c = true)
    (hbalanced : counted = true → Run.IsBalanced s { constructs := ps }) :
    ((lastFull s ps).any (fun i => startsAt s.chars i ['/', '/']) = true ∧
        ∀ k : ScriptState, k.inside = .code → k.starts = true → Counts counted k.opened →
          (k.read (Text.trimBy Text.isBlank b.written.reverse)).inside = .lineComment) ∨
      ((lastFull s ps).any (fun i => startsAt s.chars i ['/', '/']) = false ∧
        IsOperand counted (Text.trimBy Text.isBlank b.written.reverse)) := by
  obtain ⟨w, c, hw, ⟨-, rfl⟩, hread⟩ := h
  have htext : ({ c with pos := c.pos + 1 } : Cursor).written.reverse = w := by simp [hw]
  rw [htext] at hplain ⊢
  have hbegin (k : ScriptState) (hk : k.inside = .code) (hstarts : k.starts = true) :
      Stands s k { pos := i } k :=
    ⟨hk, hstarts, .inl ⟨.of_code hk, fun e _ => by rw [hk]; rfl⟩⟩
  cases hlast : lastFull s ps with
  | none =>
    refine .inr ⟨rfl, fun k hk hstarts hcounts => ?_⟩
    obtain ⟨k', -, -, -, -, htail⟩ := hread k.depth k k (hbegin k hk hstarts) hcounts rfl (.inl rfl)
    rw [trimBy_blanks (htail.blank hlast).1]
    exact .of_code hk
  | some m =>
    cases hslash : startsAt s.chars m ['/', '/'] with
    | true =>
      refine .inl ⟨hslash, fun k hk hstarts hcounts => ?_⟩
      obtain ⟨k', -, -, -, -, htail⟩ := hread k.depth k k (hbegin k hk hstarts) hcounts rfl (.inl rfl)
      obtain ⟨u, v, rfl, hv, hu, hcomment, -⟩ := htail.full m hlast
      rw [takeWhile_of_endsFull hu] at hplain
      rw [trimBy_append hu hv, read_dropWhile hk hplain]
      exact hcomment hslash
    | false =>
      refine .inr ⟨hslash, fun k hk hstarts hcounts => ?_⟩
      obtain ⟨k', hstands, houter, hopened, hdepth, htail⟩ :=
        hread k.depth k k (hbegin k hk hstarts) hcounts rfl (.inl rfl)
      obtain ⟨u, v, rfl, hv, hu, -, hcalm⟩ := htail.full m hlast
      rw [takeWhile_of_endsFull hu] at hplain
      rw [trimBy_append hu hv, read_dropWhile hk hplain]
      rw [foldl_bracket_of_balanced hbalanced hcounts] at hopened
      obtain ⟨starts, hsettles⟩ := hcalm hslash
      refine ⟨starts, ?_⟩
      have heq : { k' with starts } = { k with starts } := by
        rw [ScriptState.mk.injEq]
        exact ⟨hstands.inside.trans hk.symm, rfl, hdepth rfl, houter, hopened⟩
      rwa [heq] at hsettles

/-- An expression and the runs within it. -/
theorem settled_expression {lowered : Option (List Char)}
    (h : Settled s counted rs (CodeReads s counted .brace 0 ps { pos := i } b))
    (hlowered : ∀ t, lowered = some t → t = b.written.reverse) :
    Settled s counted ({ constructs := ps, lowered } :: rs)
      (lowered.isSome = true → IsOperand counted (Text.trimBy Text.isBlank b.written.reverse)) := by
  intro hfair
  rw [List.forall_mem_cons] at hfair
  obtain ⟨⟨hplain, hbalanced⟩, hfair⟩ := hfair
  obtain ⟨r, hr, hbad⟩ | ⟨hgood, hreads⟩ := h hfair
  · exact .inl ⟨r, List.mem_cons_of_mem _ hr, hbad⟩
  cases lowered with
  | none =>
    have hfirst : ¬ Run.Strays s { constructs := ps } ∧ ¬ Run.Swallows { constructs := ps } := by
      simp [Run.Strays, Run.Swallows]
    exact .inr ⟨List.forall_mem_cons.mpr ⟨hfirst, hgood⟩, fun hsome => by cases hsome⟩
  | some t =>
    obtain rfl := hlowered t rfl
    have hplain : ∀ c ∈ b.written.reverse.takeWhile Text.isBlank, Text.isSpace c = true := by
      simpa [Run.IsPlain] using hplain
    have hstart : Counts counted (if counted then some [] else none) := by
      intro hcounted
      rw [hcounted]
      rfl
    obtain ⟨hstrays, hcomment⟩ | ⟨hstrays, hoperand⟩ := hreads.trimmed hplain hbalanced
    · -- the run itself is one that strays
      have hswallows := (endsInLineComment_iff counted _).mpr
        (hcomment { opened := if counted then some [] else none } rfl rfl hstart)
      exact .inl ⟨_, List.mem_cons_self .., ⟨rfl, hstrays⟩, by simpa [Run.Swallows] using hswallows⟩
    · have hfirst := (hoperand { opened := if counted then some [] else none } rfl rfl hstart).inside_ne
      rw [ne_eq, ← endsInLineComment_iff] at hfirst
      refine .inr ⟨List.forall_mem_cons.mpr ⟨⟨?_, ?_⟩, hgood⟩, fun _ => hoperand⟩
      · rintro ⟨-, hany⟩
        rw [hstrays] at hany
        cases hany
      · simpa [Run.Swallows] using hfirst

theorem isTagNamePart_of_tagName {name : List Char} (h : s.tagName i = .ok (name, j)) :
    ∀ c ∈ name, isTagNamePart c = true := by
  unfold tagName at h
  split at h
  · cases h
    exact fun c hc => mem_slice_skip hc
  · cases h

namespace Tracks

theorem capture_succ {spread : Bool} (ih : Tracks s counted fuel)
    (h : Source.capture s (fuel + 1) i = .ok (text, j)) :
    Settled s counted (captureRuns s spread (fuel + 1) i)
      ((spread || !isBlank text) = true →
        IsOperand counted (Text.trimBy Text.isBlank text)) := by
  rw [Source.capture] at h
  rw [captureRuns]
  obtain ⟨c, hcode, heq⟩ := exists_of_map_eq_ok h
  cases heq
  rw [hcode]
  refine (settled_expression (ih.code hcode) ?_).imp fun hoperand hplaced => hoperand ?_
  · intro t ht
    split at ht
    · cases ht; rfl
    · cases ht
  · rw [if_pos hplaced]
    rfl

theorem element_succ (ih : Tracks s counted fuel)
    (h : Source.element s (fuel + 1) i = .ok (text, j)) :
    Settled s counted (elementRuns s (fuel + 1) i) (IsCall counted text) := by
  rw [Source.element] at h
  rw [elementRuns]
  cases hspaces : skipTagSpaces s.chars (s.chars.size + 1) (i + 1) with
  | error e => rw [hspaces] at h; cases h
  | ok m =>
    rw [hspaces] at h
    dsimp only at h ⊢
    split at h
    · rename_i hfragment
      rw [if_pos hfragment]
      obtain ⟨⟨texts, m⟩, hchildren, heq⟩ := exists_of_map_eq_ok h
      cases heq
      refine (ih.children hchildren).imp fun hoperands => ?_
      exact isCall_createElement (isOperand_name (List.all_eq_true.mp (by decide))) (isOperand_name (List.all_eq_true.mp (by decide)))
        (hoperands (List.forall_mem_nil _))
    · rename_i hfragment
      rw [if_neg hfragment]
      cases hname : s.tagName m with
      | error e => rw [hname] at h; cases h
      | ok named =>
        obtain ⟨name, m⟩ := named
        rw [hname] at h
        exact (ih.attributes h).imp fun hcall => hcall (isTagNamePart_of_tagName hname)
          (List.forall_mem_nil _)

theorem attributes_succ {name : List Char} {props : List (List Char)} (ih : Tracks s counted fuel)
    (h : Source.attributes s (fuel + 1) start name props i = .ok (text, j)) :
    Settled s counted (attributesRuns s (fuel + 1) i)
      ((∀ c ∈ name, isTagNamePart c = true) → (∀ p ∈ props, IsOperand counted p) →
        IsCall counted text) := by
  rw [Source.attributes] at h
  rw [attributesRuns]
  have hcall {texts : List (List Char)} (hname : ∀ c ∈ name, isTagNamePart c = true)
      (hprops : ∀ p ∈ props, IsOperand counted p) (htexts : ∀ t ∈ texts, IsOperand counted t) :
      IsCall counted (createElement (elementType name) (propsObject props.reverse) texts) :=
    isCall_createElement (isOperand_elementType hname)
      (isOperand_propsObject fun p hp => hprops p (List.mem_reverse.mp hp)) htexts
  cases hspaces : skipTagSpaces s.chars (s.chars.size + 1) i with
  | error e => rw [hspaces] at h; cases h
  | ok m =>
    rw [hspaces] at h
    dsimp only at h ⊢
    cases hd : s.charAt? m with
    | none => rw [hd] at h; cases h
    | some d =>
      rw [hd] at h
      dsimp only at h ⊢
      split at h
      · rename_i hslash
        rw [if_pos hslash]
        split at h
        · cases h
          exact .of_nil fun hname hprops => hcall hname hprops (List.forall_mem_nil _)
        · cases h
      rename_i hslash
      rw [if_neg hslash]
      split at h
      · rename_i hclose
        rw [if_pos hclose]
        obtain ⟨⟨texts, m⟩, hchildren, heq⟩ := exists_of_map_eq_ok h
        cases heq
        exact (ih.children hchildren).imp fun hoperands hname hprops =>
          hcall hname hprops (hoperands (List.forall_mem_nil _))
      rename_i hclose
      rw [if_neg hclose]
      split at h
      · rename_i hspread
        rw [if_pos hspread]
        split at h
        · cases hcapture : Source.capture s fuel (skipSpaces s.chars (m + 1) + 3) with
          | error e => rw [hcapture] at h; cases h
          | ok captured =>
            obtain ⟨inside, m⟩ := captured
            rw [hcapture] at h
            refine ((ih.capture hcapture).append (ih.attributes h)).imp ?_
            rintro ⟨hinside, hrest⟩ hname hprops
            exact hrest hname (List.forall_mem_cons.mpr ⟨isOperand_spread (hinside rfl), hprops⟩)
        · cases h
      rename_i hspread
      rw [if_neg hspread]
      split at h
      · rename_i hstart
        obtain ⟨key, m, hkey⟩ := Found.tagName_ok hd hstart
        rw [hkey] at h ⊢
        dsimp only at h ⊢
        by_cases hsign : (s.charAt? (skipSpaces s.chars m) == some '=') = true
        · rw [if_pos hsign] at h ⊢
          cases hvalue : attributeValue s fuel (skipSpaces s.chars (skipSpaces s.chars m + 1)) with
          | error e => rw [hvalue] at h; cases h
          | ok value =>
            obtain ⟨code, e⟩ := value
            rw [hvalue] at h
            refine ((ih.value hvalue).append (ih.attributes h)).imp ?_
            rintro ⟨hoperand, hrest⟩ hname hprops
            exact hrest hname (List.forall_mem_cons.mpr ⟨isOperand_property key hoperand, hprops⟩)
        · rw [if_neg hsign] at h ⊢
          refine (ih.attributes h).imp fun hrest hname hprops => ?_
          have htrue : IsOperand counted "true".toList := isOperand_name (List.all_eq_true.mp (by decide))
          exact hrest hname (List.forall_mem_cons.mpr ⟨isOperand_property key htrue, hprops⟩)
      · cases h

theorem value_succ (ih : Tracks s counted fuel)
    (h : attributeValue s (fuel + 1) i = .ok (text, j)) :
    Settled s counted (valueRuns s (fuel + 1) i) (IsOperand counted text) := by
  rw [attributeValue] at h
  split at h
  · rename_i hd
    rw [valueRuns, hd]
    cases hcapture : Source.capture s fuel (i + 1) with
    | error e => rw [hcapture] at h; cases h
    | ok captured =>
      obtain ⟨inside, m⟩ := captured
      rw [hcapture] at h
      dsimp only at h
      split at h
      · cases h
      · rename_i hblank
        cases h
        exact (ih.capture hcapture).imp fun hoperand => hoperand (by simpa using hblank)
  · rename_i hd
    rw [valueRuns, hd]
    exact (ih.element h).imp IsCall.isOperand
  · rename_i d hbrace hangle hd
    -- a quoted value holds no code
    have hnil : valueRuns s (fuel + 1) i = [] := by
      rw [valueRuns, hd]
      split
      · exact absurd (Option.some.inj ‹_›) hbrace
      · exact absurd (Option.some.inj ‹_›) hangle
      · rfl
    rw [hnil]
    split at h
    · split at h
      · cases h
        exact .of_nil (isOperand_stringLiteral _)
      · cases h
    · cases h
  · cases h

theorem children_succ {name : List Char} {found texts : List (List Char)}
    (ih : Tracks s counted fuel)
    (h : Source.children s (fuel + 1) name start found i = .ok (texts, j)) :
    Settled s counted (childrenRuns s (fuel + 1) i)
      ((∀ t ∈ found, IsOperand counted t) → ∀ t ∈ texts, IsOperand counted t) := by
  rw [Source.children] at h
  rw [childrenRuns]
  cases hd : s.charAt? i with
  | none => rw [hd] at h; cases h
  | some d =>
    rw [hd] at h
    dsimp only at h ⊢
    split at h
    · rename_i hangle
      rw [if_pos hangle]
      split at h
      · rename_i hslash
        rw [if_pos hslash]
        split at h
        · cases h
        · split at h
          · cases h
          · split at h
            · cases h
              exact .of_nil fun hfound t ht => hfound t (List.mem_reverse.mp ht)
            · cases h
      · rename_i hslash
        rw [if_neg hslash]
        cases helement : Source.element s fuel i with
        | error e => rw [helement] at h; cases h
        | ok read =>
          obtain ⟨code, m⟩ := read
          rw [helement] at h
          refine ((ih.element helement).append (ih.children h)).imp ?_
          rintro ⟨hcall, hrest⟩ hfound
          exact hrest (List.forall_mem_cons.mpr ⟨hcall.isOperand, hfound⟩)
    rename_i hangle
    rw [if_neg hangle]
    split at h
    · rename_i hbrace
      rw [if_pos hbrace]
      cases hcapture : Source.capture s fuel (i + 1) with
      | error e => rw [hcapture] at h; cases h
      | ok captured =>
        obtain ⟨inside, m⟩ := captured
        rw [hcapture] at h
        refine ((ih.capture hcapture).append (ih.children h)).imp ?_
        rintro ⟨hinside, hrest⟩ hfound
        refine hrest ?_
        split
        · exact hfound
        · rename_i hblank
          exact List.forall_mem_cons.mpr ⟨hinside (by simpa using hblank), hfound⟩
    · rename_i hbrace
      rw [if_neg hbrace]
      refine (ih.children h).imp fun hrest hfound => hrest ?_
      split
      · exact hfound
      · exact List.forall_mem_cons.mpr ⟨isOperand_stringLiteral _, hfound⟩

theorem succ (hno : s.dialect.hasTypes = false) (ih : Tracks s counted fuel) :
    Tracks s counted (fuel + 1) where
  code := ih.code_succ
  construct := construct_succ hno ih
  angle := angle_succ hno ih
  openParen := openParen_succ hno
  template := ih.template_succ
  capture := ih.capture_succ
  element := ih.element_succ
  attributes := ih.attributes_succ
  value := ih.value_succ
  children := ih.children_succ

theorem all (hno : s.dialect.hasTypes = false) (counted : Bool) (fuel : Nat) :
    Tracks s counted fuel := by
  induction fuel with
  | zero => exact zero s counted
  | succ fuel ih => exact ih.succ hno

end Tracks

/-! ## A whole source -/

/-- A script read from its beginning to its end: it ends in code or in a line comment, in no template,
and its brackets close one another. -/
def IsWhole (t : List Char) : Prop :=
  ((ScriptState.read {} t).settle.inside = .code ∨ (ScriptState.read {} t).inside = .lineComment) ∧
    (ScriptState.read {} t).outer = [] ∧ (ScriptState.read {} t).opened = some []

instance : DecidablePred IsWhole := fun _ => inferInstanceAs (Decidable (_ ∧ _))

/-- The reader at the beginning of a source. -/
theorem stands_start (s : Listing) (opened : Option (List Char)) : Stands s { opened } {} { opened } :=
  ⟨rfl, rfl, .inl ⟨.of_code rfl, fun _ _ => rfl⟩⟩

/-- What is written for a source is whole if the brackets of the source close one another. -/
theorem CodeReads.isWhole (h : CodeReads s true .text 0 ps {} b)
    (hbalanced : Run.IsBalanced s { constructs := ps }) : IsWhole b.written.reverse := by
  obtain ⟨w, c, hw, ⟨-, rfl⟩, hread⟩ := h
  obtain ⟨k, hstands, houter, hopened, -⟩ :=
    hread 0 {} {} (stands_start s _) (fun hsome => by cases hsome) rfl (.inr ⟨rfl, rfl⟩)
  have hwritten : b.written.reverse = w := by
    rw [hw]
    exact (congrArg List.reverse (List.append_nil _)).trans (List.reverse_reverse w)
  have hends : k.opened = some [] := hopened.trans hbalanced
  rw [hwritten]
  obtain ⟨hsettles, -⟩ | ⟨hcomment, -⟩ := hstands.reads
  · obtain ⟨hsettle, hinside⟩ := hsettles
    have hkeep (r : ScriptState) : r.settle.outer = r.outer ∧ r.settle.opened = r.opened := by
      unfold ScriptState.settle
      cases r.inside <;> exact ⟨rfl, rfl⟩
    refine ⟨.inl (by rw [hsettle, hinside]), ?_, ?_⟩
    · rw [← (hkeep _).1, hsettle, houter]
    · rw [← (hkeep _).2, hsettle, hends]
  · rw [IsWhole, hcomment]
    exact ⟨.inr rfl, houter, hends⟩

/-- The dialect with the same markup that keeps types. -/
def Dialect.untyped : Dialect → Dialect
  | tsx => jsx
  | ts => js
  | d => d

theorem Dialect.untyped_eq_self {dialect : Dialect} (h : dialect.hasTypes = false) : dialect.untyped = dialect := by
  cases dialect <;> first | rfl | cases h

theorem Dialect.hasTypes_untyped (dialect : Dialect) : dialect.untyped.hasTypes = false := by
  cases dialect <;> rfl

/-- Where types are not removed, or there are none to remove, the expressions that are placed in a call so
that they end inside of a line comment are those with nothing but blanks after one. If there are none,
the brackets of what is written close one another as they do in each run of the source. -/
theorem swallows_iff_strays {source text : String} {dialect : Dialect} (h : lower source dialect = .ok text)
    (hsame : dialect.hasTypes = true → lower source dialect.untyped = .ok text)
    (hplain : ∀ r ∈ runs ⟨source.toList.toArray, dialect.untyped⟩, r.IsPlain) :
    let s : Listing := ⟨source.toList.toArray, dialect.untyped⟩
    ((∀ r ∈ runs s, ¬ r.Swallows) ↔ ∀ r ∈ runs s, ¬ r.Strays s) ∧
      ((∀ r ∈ runs s, ¬ r.Strays s) → (∀ r ∈ runs s, r.IsBalanced s) → IsWhole text.toList) := by
  intro s
  have huntyped : lower source dialect.untyped = .ok text := by
    cases htypes : dialect.hasTypes with
    | true => exact hsame htypes
    | false => rwa [Dialect.untyped_eq_self htypes]
  have hno : s.dialect.hasTypes = false := dialect.hasTypes_untyped
  unfold lower at huntyped
  dsimp only at huntyped
  split at huntyped
  · rename_i b hcode
    cases huntyped
    rw [String.toList_ofList]
    have hsize : source.toList.length = s.chars.size := List.size_toArray.symm
    rw [hsize] at hcode
    have hsettled (counted : Bool) :
        Settled s counted (runs s) (CodeReads s counted .text 0 _ {} b ∧ _) :=
      ((Tracks.all hno counted _).code hcode).cons
    constructor
    · obtain ⟨r, hr, hstrays, hswallows⟩ | ⟨hgood, -⟩ :=
        hsettled false fun r hr => ⟨hplain r hr, fun hcounted => by cases hcounted⟩
      · exact ⟨fun hnone => absurd hswallows (hnone r hr), fun hnone => absurd hstrays (hnone r hr)⟩
      · exact ⟨fun _ r hr => (hgood r hr).1, fun _ r hr => (hgood r hr).2⟩
    · intro hnone hbalanced
      obtain ⟨r, hr, hstrays, -⟩ | ⟨-, hreads, hsource⟩ :=
        hsettled true fun r hr => ⟨hplain r hr, fun _ => hbalanced r hr⟩
      · exact absurd hstrays (hnone r hr)
      · exact hreads.isWhole (hsource rfl)
  · cases huntyped

/-- A comment in the middle of an expression keeps its line break, with types removed or not. -/
theorem comment_within_expression :
    let source := "<p>\x7ba // c\n + 1\x7d</p>"
    let text := "React.createElement(\"p\", null, a // c\n + 1)"
    let s : Listing := ⟨source.toList.toArray, .jsx⟩
    lower source .tsx = .ok text ∧ lower source .jsx = .ok text ∧
      (∀ r ∈ runs s, r.IsPlain) ∧ (∀ r ∈ runs s, ¬ r.Swallows) ∧ IsWhole text.toList := by
  intro source text s
  have hboth : ∀ dialect ∈ [Dialect.tsx, .jsx], (lower source dialect).toOption = some text := by decide +kernel
  have hok : ∀ dialect ∈ [Dialect.tsx, .jsx], lower source dialect = .ok text := by
    intro dialect hdialect
    have hsome := hboth dialect hdialect
    cases h : lower source dialect with
    | error e => rw [h] at hsome; cases hsome
    | ok text => rw [h] at hsome; cases hsome; rfl
  obtain ⟨htsx, hjsx⟩ := List.forall_mem_cons.mp hok
  have hjsx := hjsx .jsx (List.mem_singleton_self _)
  have hplain : ∀ r ∈ runs s, r.IsPlain := by decide +kernel
  have hstrays : ∀ r ∈ runs s, ¬ r.Strays s := by decide +kernel
  have hbalanced : ∀ r ∈ runs s, r.IsBalanced s := by decide +kernel
  obtain ⟨hiff, hwhole⟩ := swallows_iff_strays htsx (fun _ => hjsx) hplain
  exact ⟨htsx, hjsx, hplain, hiff.mpr hstrays, hwhole hstrays hbalanced⟩

/-- A comment at the end of an expression loses its line break, and the parenthesis of the call is
comment, with types removed or not. -/
theorem comment_swallows_paren :
    let source := "<p>\x7ba // c\n\x7d</p>"
    let s : Listing := ⟨source.toList.toArray, .jsx⟩
    (∀ dialect ∈ [Dialect.tsx, .jsx],
      (lower source dialect).toOption = some "React.createElement(\"p\", null, a // c)") ∧
      (∃ r ∈ runs s, r.Swallows) ∧ (∀ r ∈ runs s, r.IsBalanced s) ∧
      ¬ IsWhole "React.createElement(\"p\", null, a // c)".toList := by
  decide +kernel

end Source
end Restyle
