import Restyle.Proofs.Source.Reading

/-!
# Restyle.Proofs.Source.Lowered

The rules of reading find every successful run of lowering, with its account (`Found.all`), one
function of lowering at a time.
-/

namespace Restyle
namespace Source

open Scan Listing

variable {s : Listing} {fuel : Nat}

/-- The rules find all runs of lowering with some fuel. -/
structure Found (s : Listing) (fuel : Nat) : Prop where
  code {stop depth a b} : code s fuel stop depth a = .ok b →
    Reads s (.code stop depth a b) (codeAccount s fuel stop depth a)
  construct {d a b} : s.charAt? a.pos = some d → d ≠ '{' → d ≠ '}' →
    construct s fuel d a = .ok b → Reads s (.construct a b) (constructAccount s fuel d a)
  angle {a b} : s.charAt? a.pos = some '<' → angle s fuel a = .ok b →
    Reads s (.construct a b) (angleAccount s fuel a)
  openParen {a b} : s.charAt? a.pos = some '(' → openParen s fuel a = .ok b →
    Reads s (.construct a b) (openParenAccount s fuel a)
  parameters {close a b} : parameters s fuel close a = .ok b →
    Reads s (.parameters a b) (parametersAccount s fuel close a)
  template {start a b} : template s fuel start a = .ok b →
    Reads s (.template a b) (templateAccount s fuel a)
  capture {i text j} : capture s fuel i = .ok (text, j) →
    Reads s (.capture i j) (captureAccount s fuel i)
  element {i text j} : s.charAt? i = some '<' → element s fuel i = .ok (text, j) →
    Reads s (.element i j) (elementAccount s fuel i)
  attributes {start name props i text j} :
    attributes s fuel start name props i = .ok (text, j) →
    Reads s (.attributes i (openingTag s fuel i) j) (attributesAccount s fuel i)
  value {i text j} : attributeValue s fuel i = .ok (text, j) →
    Reads s (.value i j (valueHurdles s fuel i) (s.charAt? i == some '<'))
      (attributeValueAccount s fuel i)
  children {name start found i texts j} :
    children s fuel name start found i = .ok (texts, j) →
    Reads s (.children i j) (childrenAccount s fuel i)

theorem exists_of_map_eq_ok {ε α β : Type} {e : Except ε α} {f : α → β} {b : β}
    (h : e.map f = .ok b) : ∃ a, e = .ok a ∧ f a = b := by
  cases e with
  | error e => cases h
  | ok a => cases h; exact ⟨a, rfl, rfl⟩

theorem Stop.eq_brace {stop : Stop} (h : (stop == .brace) = true) : stop = .brace := by
  cases stop with
  | brace => rfl
  | text => cases h
  | limit n => cases h

namespace Found

theorem zero (s : Listing) : Found s 0 where
  code h := by rw [Source.code] at h; cases h
  construct _ _ _ h := by rw [Source.construct] at h; cases h
  angle _ h := by rw [Source.angle] at h; cases h
  openParen _ h := by rw [Source.openParen] at h; cases h
  parameters h := by rw [Source.parameters] at h; cases h
  template h := by rw [Source.template] at h; cases h
  capture h := by rw [Source.capture] at h; cases h
  element _ h := by rw [Source.element] at h; cases h
  attributes h := by rw [Source.attributes] at h; cases h
  value h := by rw [Source.attributeValue] at h; cases h
  children h := by rw [Source.children] at h; cases h

variable {a b : Cursor} {stop : Stop} {depth close i j start : Nat} {d : Char}
  {name text : List Char} {props found texts : List (List Char)}

/-- Braces are copied. -/
theorem construct_brace (hd : d = '{' ∨ d = '}') (h : Source.construct s fuel d a = .ok b) :
    b.pos = a.pos + 1 ∧ constructAccount s fuel d a = {} := by
  cases fuel with
  | zero => rw [Source.construct] at h; cases h
  | succ fuel =>
    rw [Source.construct] at h
    rw [constructAccount]
    rcases hd with rfl | rfl
    · cases h; exact ⟨rfl, rfl⟩
    · cases h; exact ⟨rfl, rfl⟩

theorem code_succ (ih : Found s fuel) (h : Source.code s (fuel + 1) stop depth a = .ok b) :
    Reads s (.code stop depth a b) (codeAccount s (fuel + 1) stop depth a) := by
  rw [Source.code] at h
  rw [codeAccount]
  cases hreached : stop.reached a.pos with
  | true =>
    rw [hreached] at h
    cases h
    exact .reached (.inl hreached)
  | false =>
    rw [hreached] at h
    simp only [Bool.false_eq_true, if_false] at h ⊢
    cases hd : s.charAt? a.pos with
    | none =>
      rw [hd] at h
      dsimp only at h
      split at h
      · cases h
      · rename_i hstop
        cases h
        exact .reached (.inr ⟨hd, fun heq => hstop (by rw [heq]; rfl)⟩)
    | some d =>
      rw [hd] at h
      dsimp only at h ⊢
      split at h
      · rename_i hclose
        rw [if_pos hclose]
        simp only [Bool.and_eq_true, beq_iff_eq] at hclose
        obtain ⟨⟨rfl, rfl⟩, hbrace⟩ := hclose
        obtain rfl := Stop.eq_brace hbrace
        cases h
        exact .closed hd rfl
      · rename_i hclose
        rw [if_neg hclose]
        cases hnext : Source.construct s fuel d a with
        | error e => rw [hnext] at h; cases h
        | ok next =>
          rw [hnext] at h
          have hrest := ih.code h
          by_cases hopen : d = '{'
          · obtain ⟨hpos, haccount⟩ := construct_brace (.inl hopen) hnext
            subst hopen
            rw [haccount]
            exact .openBrace hd hpos hrest
          by_cases hshut : d = '}'
          · obtain ⟨hpos, haccount⟩ := construct_brace (.inr hshut) hnext
            subst hshut
            rw [haccount]
            refine .closeBrace hd ?_ hpos hrest
            rintro rfl rfl
            exact hclose rfl
          have hdepth : braceDepth depth d = depth := by simp [braceDepth, hopen, hshut]
          rw [hdepth] at hrest ⊢
          exact .step (ih.construct hd hopen hshut hnext) hrest

theorem angle_succ (ih : Found s fuel) (hd : s.charAt? a.pos = some '<')
    (h : Source.angle s (fuel + 1) a = .ok b) :
    Reads s (.construct a b) (angleAccount s (fuel + 1) a) := by
  rw [Source.angle] at h
  rw [angleAccount]
  dsimp only at h ⊢
  generalize harrow : (if s.dialect.hasTypes && a.previous.startsExpression then
    s.arrowParametersEnd? a.pos else none) = arrow at h ⊢
  generalize hcall : (if s.dialect.hasTypes && a.previous.endsValue then
    s.callArgumentsEnd? a.pos else none) = call at h ⊢
  cases arrow with
  | some stop =>
    cases h
    have hstop : a.pos ≤ stop := by
      split at harrow
      · exact le_arrowParametersEnd? harrow
      · cases harrow
    exact .hurdle (b := { a with pos := stop }) hstop
  | none =>
    dsimp only at h ⊢
    split at h
    · rename_i hmarkup
      rw [if_pos hmarkup]
      obtain ⟨⟨text, pos⟩, helement, rfl⟩ := exists_of_map_eq_ok h
      exact .markup (ih.element hd helement)
    · rename_i hmarkup
      rw [if_neg hmarkup]
      cases call with
      | some stop =>
        cases h
        have hstop : a.pos ≤ stop := by
          split at hcall
          · exact le_callArgumentsEnd? hcall
          · cases hcall
        exact .hurdle (b := { a with pos := stop }) hstop
      | none =>
        cases h
        exact .comparison hd rfl

theorem openParen_succ (ih : Found s fuel) (hd : s.charAt? a.pos = some '(')
    (h : Source.openParen s (fuel + 1) a = .ok b) :
    Reads s (.construct a b) (openParenAccount s (fuel + 1) a) := by
  rw [Source.openParen] at h
  rw [openParenAccount]
  dsimp only at h ⊢
  have hplain : Reads s (.construct a (a.copyMark '(' (.mark '('))) {} :=
    .plain (Nat.le_succ _) (.single hd (by decide))
  generalize hclosing : (if s.dialect.hasTypes then close? s.chars a.pos else none) = closing at h ⊢
  cases closing with
  | none =>
    cases h
    exact hplain
  | some close =>
    rw [Option.bind_some] at h ⊢
    cases hstop : s.parametersEnd? a.previous close with
    | none =>
      rw [hstop] at h
      cases h
      exact hplain
    | some stop =>
      rw [hstop] at h
      obtain ⟨c, hparameters, rfl⟩ := exists_of_map_eq_ok h
      have hle : a.pos ≤ stop := by
        split at hclosing
        · have := le_close? hclosing
          have := lt_parametersEnd? hstop
          omega
        · cases hclosing
      dsimp only
      rw [hparameters]
      exact .wholeParameters hd rfl (ih.parameters hparameters) hle

/-- A construct that is copied or dropped, in one of the two ways. -/
theorem construct_ofCursor {account : Nat → Account} {result : Except FaultAt Cursor}
    (h : result = .ok b) (hb : Reads s (.construct a b) (account b.pos)) :
    Reads s (.construct a b) (Account.ofCursor account result) := by
  rw [h]
  exact hb

theorem construct_succ (ih : Found s fuel) (hd : s.charAt? a.pos = some d) (hopen : d ≠ '{')
    (hshut : d ≠ '}') (h : Source.construct s (fuel + 1) d a = .ok b) :
    Reads s (.construct a b) (constructAccount s (fuel + 1) d a) := by
  have hpos : a.pos < s.chars.size := (Array.getElem?_eq_some_iff.mp hd).1
  have hle := Nat.le_of_lt hpos
  rw [Source.construct] at h
  rw [constructAccount]
  by_cases hcomment : (d == '/' && s.charAt? (a.pos + 1) == some '/') = true
  · rw [if_pos hcomment] at h ⊢
    cases h
    exact .hurdle (Cursor.le_lineComment hle)
  rw [if_neg hcomment] at h ⊢
  by_cases hblock : (d == '/' && s.charAt? (a.pos + 1) == some '*') = true
  · rw [if_pos hblock] at h ⊢
    exact construct_ofCursor h (.hurdle (Cursor.le_blockComment h))
  rw [if_neg hblock] at h ⊢
  by_cases hquote : (d == '\'' || d == '"') = true
  · rw [if_pos hquote] at h ⊢
    refine construct_ofCursor h ?_
    unfold Cursor.string at h
    split at h
    · rename_i stop hstop
      cases h
      exact .string hd (by simpa using hquote) hstop
    · cases h
  rw [if_neg hquote] at h ⊢
  by_cases htemplate : (d == '\x60') = true
  · rw [if_pos htemplate] at h ⊢
    obtain ⟨c, hc, rfl⟩ := exists_of_map_eq_ok h
    rw [hc]
    rw [eq_of_beq htemplate] at hd
    exact .wholeTemplate (d := { c with previous := .value }) hd rfl (ih.template hc) rfl
  rw [if_neg htemplate] at h ⊢
  have hbrace : ¬(d == '{' || d == '}') = true := by simp [hopen, hshut]
  rw [if_neg hbrace] at h ⊢
  by_cases hangle : (d == '<') = true
  · rw [if_pos hangle] at h ⊢
    rw [eq_of_beq hangle] at hd
    exact ih.angle hd h
  rw [if_neg hangle] at h ⊢
  -- what is left begins with a plain character
  have hplain : isPlainCode d = true := by
    simp only [Bool.or_eq_true, beq_iff_eq, not_or] at hquote htemplate hbrace hangle
    simp [isPlainCode, hquote, htemplate, hbrace, hangle]
  have hsingle : Holds s isPlainCode a.pos (a.pos + 1) := .single hd hplain
  have hnumber : Holds s isPlainCode a.pos (a.number s).pos :=
    hsingle.append ((Holds.skip Cursor.isNumberPart (a.pos + 1)).mono
      (isPlainCode_of_class (by decide)))
  by_cases hslash : (d == '/') = true
  · rw [if_pos hslash] at h ⊢
    split
    · exact construct_ofCursor h (.hurdle (Cursor.le_slash h))
    · rename_i hstarts
      rw [Cursor.slash, if_neg hstarts] at h
      cases h
      exact .plain (Nat.le_succ _) hsingle
  rw [if_neg hslash] at h ⊢
  by_cases hparen : (d == '(') = true
  · rw [if_pos hparen] at h ⊢
    rw [eq_of_beq hparen] at hd
    exact ih.openParen hd h
  rw [if_neg hparen] at h ⊢
  by_cases hassert : (d == '!' && s.assertsValue a) = true
  · rw [if_pos hassert] at h ⊢
    cases h
    exact .plain (Nat.le_succ _) hsingle
  rw [if_neg hassert] at h ⊢
  by_cases hdot : (d == '.' && (s.charAt? (a.pos + 1)).any Char.isDigit) = true
  · rw [if_pos hdot] at h ⊢
    cases h
    exact .plain (Cursor.le_number ..) hnumber
  rw [if_neg hdot] at h ⊢
  by_cases hname : isNameStart d = true
  · rw [if_pos hname] at h ⊢
    refine construct_ofCursor h ?_
    split
    · rename_i hstop
      refine .plain (Cursor.le_word hle h) ?_
      rw [eq_of_beq hstop]
      exact (Holds.skip isNamePart a.pos).mono (isPlainCode_of_class (by decide))
    · exact .hurdle (Cursor.le_word hle h)
  rw [if_neg hname] at h ⊢
  repeat' split at h
  · cases h; exact .plain (Cursor.le_number ..) hnumber
  · cases h; exact .plain (Nat.le_succ _) hsingle
  · cases h; exact .plain (Nat.le_succ _) hsingle
  · cases h; exact .plain (Nat.le_succ _) hsingle

theorem parameters_succ (ih : Found s fuel)
    (h : Source.parameters s (fuel + 1) close a = .ok b) :
    Reads s (.parameters a b) (parametersAccount s (fuel + 1) close a) := by
  rw [Source.parameters] at h
  rw [parametersAccount]
  dsimp only at h ⊢
  generalize parameter s.chars a.pos close = p at h ⊢
  cases hnamed : Source.code s fuel (.limit p.nameStop) 0 { a with previous := .start } with
  | error e => rw [hnamed] at h; cases h
  | ok named =>
    rw [hnamed] at h
    dsimp only at h ⊢
    have hname := ih.code hnamed
    have hstart : ({ a with previous := .start } : Cursor).pos = a.pos := rfl
    generalize ({ a with previous := .start } : Cursor) = n at hname hstart ⊢
    generalize named.passType p = typed at h ⊢
    by_cases hequals : p.equals.isSome = true
    · simp only [hequals, if_true] at h ⊢
      cases hlast : Source.code s fuel (.limit p.stop) 0 typed with
      | error e => rw [hlast] at h; cases h
      | ok last =>
        rw [hlast] at h
        dsimp only at h ⊢
        split at h
        · rename_i hclose
          rw [if_pos hclose]
          cases h
          exact .lastDefault hstart hname (ih.code hlast)
        · rename_i hclose
          rw [if_neg hclose]
          exact .default (e := { last.write [','] with pos := p.stop + 1 }) hstart hname
            (ih.code hlast) (ih.parameters h)
    · simp only [hequals, Bool.false_eq_true, if_false] at h ⊢
      split at h
      · rename_i hclose
        rw [if_pos hclose]
        cases h
        exact .lastParameter hstart hname
      · rename_i hclose
        rw [if_neg hclose]
        exact .parameter (e := { typed.write [','] with pos := p.stop + 1 }) hstart hname
          (ih.parameters h)

theorem template_succ (ih : Found s fuel) (h : Source.template s (fuel + 1) start a = .ok b) :
    Reads s (.template a b) (templateAccount s (fuel + 1) a) := by
  rw [Source.template] at h
  rw [templateAccount]
  cases hd : s.charAt? a.pos with
  | none => rw [hd] at h; cases h
  | some d =>
    rw [hd] at h
    dsimp only at h ⊢
    split at h
    · rename_i hescape
      rw [if_pos hescape]
      refine .templateText ?_ (ih.template h)
      split
      · exact Nat.le_succ_of_le (Nat.le_succ _)
      · exact Nat.le_succ _
    rename_i hescape
    rw [if_neg hescape]
    split at h
    · rename_i hmark
      rw [if_pos hmark]
      cases h
      rw [eq_of_beq hmark] at hd
      exact .templateEnd hd rfl
    rename_i hmark
    rw [if_neg hmark]
    split at h
    · rename_i hsubstitution
      rw [if_pos hsubstitution]
      simp only [Bool.and_eq_true, beq_iff_eq] at hsubstitution
      obtain ⟨rfl, hbrace⟩ := hsubstitution
      cases hinner : Source.code s fuel .brace 0
          { (a.copyBlank '$').copyBlank '{' with previous := .start } with
      | error e => rw [hinner] at h; cases h
      | ok inner =>
        rw [hinner] at h
        exact .substitution (d := { inner.write ['}'] with previous := a.previous }) hd hbrace rfl
          (ih.code hinner) rfl (ih.template h)
    · rename_i hsubstitution
      rw [if_neg hsubstitution]
      exact .templateText (Nat.le_succ _) (ih.template h)

theorem capture_succ (ih : Found s fuel) (h : Source.capture s (fuel + 1) i = .ok (text, j)) :
    Reads s (.capture i j) (captureAccount s (fuel + 1) i) := by
  rw [Source.capture] at h
  obtain ⟨c, hcode, heq⟩ := exists_of_map_eq_ok h
  cases heq
  rw [captureAccount]
  exact .capture (ih.code hcode)

theorem element_succ (ih : Found s fuel) (hd : s.charAt? i = some '<')
    (h : Source.element s (fuel + 1) i = .ok (text, j)) :
    Reads s (.element i j) (elementAccount s (fuel + 1) i) := by
  rw [Source.element] at h
  rw [elementAccount]
  cases hspaces : skipTagSpaces s.chars (s.chars.size + 1) (i + 1) with
  | error e => rw [hspaces] at h; cases h
  | ok k =>
    rw [hspaces] at h
    dsimp only at h ⊢
    split at h
    · rename_i hfragment
      rw [if_pos hfragment]
      obtain ⟨⟨texts, m⟩, hchildren, heq⟩ := exists_of_map_eq_ok h
      cases heq
      exact .fragment hd hspaces (eq_of_beq hfragment) (ih.children hchildren)
    · rename_i hfragment
      rw [if_neg hfragment]
      cases hname : s.tagName k with
      | error e => rw [hname] at h; cases h
      | ok named =>
        obtain ⟨name, m⟩ := named
        rw [hname] at h
        exact .element hd hspaces hname (ih.attributes h)

/-- Where a name begins, one is read. -/
theorem tagName_ok (hd : s.charAt? i = some d) (h : isNameStart d = true) :
    ∃ name stop, s.tagName i = .ok (name, stop) := by
  unfold tagName
  rw [hd]
  simp [h]

theorem attributes_succ (ih : Found s fuel)
    (h : Source.attributes s (fuel + 1) start name props i = .ok (text, j)) :
    Reads s (.attributes i (openingTag s (fuel + 1) i) j) (attributesAccount s (fuel + 1) i) := by
  rw [Source.attributes] at h
  rw [attributesAccount, openingTag]
  cases hspaces : skipTagSpaces s.chars (s.chars.size + 1) i with
  | error e => rw [hspaces] at h; cases h
  | ok k =>
    rw [hspaces] at h
    have hk := le_skipTagSpaces hspaces
    dsimp only at h ⊢
    cases hd : s.charAt? k with
    | none => rw [hd] at h; cases h
    | some d =>
      rw [hd] at h
      dsimp only at h ⊢
      split at h
      · rename_i hslash
        rw [if_pos hslash, if_pos hslash]
        rw [eq_of_beq hslash] at hd
        split at h
        · rename_i hclose
          cases h
          exact .selfClosed hk hd (eq_of_beq hclose)
        · cases h
      rename_i hslash
      rw [if_neg hslash, if_neg hslash]
      split at h
      · rename_i hclose
        rw [if_pos hclose, if_pos hclose]
        rw [eq_of_beq hclose] at hd
        obtain ⟨⟨texts, m⟩, hchildren, heq⟩ := exists_of_map_eq_ok h
        cases heq
        exact .opened hk hd (ih.children hchildren)
      rename_i hclose
      rw [if_neg hclose, if_neg hclose]
      split at h
      · rename_i hspread
        rw [if_pos hspread, if_pos hspread]
        rw [eq_of_beq hspread] at hd
        split at h
        · rename_i hdots
          cases hcapture : Source.capture s fuel (skipSpaces s.chars (k + 1) + 3) with
          | error e => rw [hcapture] at h; cases h
          | ok captured =>
            obtain ⟨inside, m⟩ := captured
            rw [hcapture] at h
            exact .spread hk hd rfl hdots (ih.capture hcapture) (ih.attributes h)
        · cases h
      rename_i hspread
      rw [if_neg hspread, if_neg hspread]
      split at h
      · rename_i hname
        obtain ⟨key, m, hkey⟩ := tagName_ok hd hname
        rw [hkey] at h ⊢
        dsimp only at h ⊢
        by_cases hsign : (s.charAt? (skipSpaces s.chars m) == some '=') = true
        · rw [if_pos hsign] at h
          rw [if_pos hsign, if_pos hsign]
          cases hvalue : attributeValue s fuel (skipSpaces s.chars (skipSpaces s.chars m + 1)) with
          | error e => rw [hvalue] at h; cases h
          | ok value =>
            obtain ⟨code, e⟩ := value
            rw [hvalue] at h
            exact .valued hk hkey rfl (eq_of_beq hsign) rfl (ih.value hvalue) (ih.attributes h)
        · rw [if_neg hsign] at h
          rw [if_neg hsign, if_neg hsign]
          exact .bare hk hkey rfl (ih.attributes h)
      · cases h

/-- The account of a quoted value. -/
theorem attributeValueAccount_quoted {mark : Char} {q : Nat} (hd : s.charAt? i = some mark)
    (hmark : mark = '"' ∨ mark = '\'') (hfind : find? mark s.chars (i + 1) = some q) :
    attributeValueAccount s (fuel + 1) i = .hurdle .attribute i (q + 1) := by
  rw [attributeValueAccount, hd]
  split
  · rename_i heq
    rcases hmark with rfl | rfl <;> exact absurd heq (by decide)
  · rename_i heq
    rcases hmark with rfl | rfl <;> exact absurd heq (by decide)
  · rename_i d _ _ heq
    cases heq
    rw [hfind]
  · rename_i heq
    cases heq

theorem value_succ (ih : Found s fuel)
    (h : attributeValue s (fuel + 1) i = .ok (text, j)) :
    Reads s (.value i j (valueHurdles s (fuel + 1) i) (s.charAt? i == some '<'))
      (attributeValueAccount s (fuel + 1) i) := by
  rw [attributeValue] at h
  rw [valueHurdles]
  split at h
  · rename_i hd
    have haccount : attributeValueAccount s (fuel + 1) i = captureAccount s fuel (i + 1) := by
      simp only [attributeValueAccount, hd]
    rw [haccount, hd]
    cases hcapture : Source.capture s fuel (i + 1) with
    | error e => rw [hcapture] at h; cases h
    | ok captured =>
      obtain ⟨inside, m⟩ := captured
      rw [hcapture] at h
      dsimp only at h
      split at h
      · cases h
      · cases h
        exact .expression hd (ih.capture hcapture)
  · rename_i hd
    have haccount : attributeValueAccount s (fuel + 1) i = elementAccount s fuel i := by
      simp only [attributeValueAccount, hd]
    rw [haccount, hd]
    exact .elementValue (ih.element hd h)
  · rename_i d _ _ hd
    split at h
    · rename_i hmark
      rw [Bool.or_eq_true, beq_iff_eq, beq_iff_eq] at hmark
      cases hfind : find? d s.chars (i + 1) with
      | none => rw [hfind] at h; cases h
      | some q =>
        rw [hfind] at h
        cases h
        rw [attributeValueAccount_quoted hd hmark hfind, hd]
        rcases hmark with rfl | rfl
        · exact .stringValue hd (.inl rfl) hfind
        · exact .stringValue hd (.inr rfl) hfind
    · cases h
  · cases h

theorem holds_skipSpaces (s : Listing) (i : Nat) :
    Holds s isPlainCode i (skipSpaces s.chars i) :=
  (Holds.skip Text.isSpace i).mono (isPlainCode_of_class (by decide))

/-- The name in a closing tag is plain. -/
theorem holds_closingName (h : children.closingName s i = .ok (name, j)) :
    i ≤ j ∧ Holds s isPlainCode i j := by
  unfold children.closingName at h
  split at h
  · cases h
    exact ⟨Nat.le_refl _, fun k c hk hk' => by omega⟩
  · obtain ⟨⟨name, k⟩, hname, heq⟩ := exists_of_map_eq_ok h
    cases heq
    exact ⟨Nat.le_trans (le_tagName hname) (le_skipSpaces ..),
      ((Holds.tagName hname).mono (isPlainCode_of_class (by decide))).append
        (holds_skipSpaces s _)⟩

theorem children_succ (ih : Found s fuel)
    (h : Source.children s (fuel + 1) name start found i = .ok (texts, j)) :
    Reads s (.children i j) (childrenAccount s (fuel + 1) i) := by
  rw [Source.children] at h
  rw [childrenAccount]
  cases hd : s.charAt? i with
  | none => rw [hd] at h; cases h
  | some d =>
    rw [hd] at h
    dsimp only at h ⊢
    split at h
    · rename_i hangle
      rw [if_pos hangle]
      rw [eq_of_beq hangle] at hd
      split at h
      · rename_i hslash
        rw [if_pos hslash]
        rw [beq_iff_eq] at hslash
        have hbefore := le_skipSpaces s.chars (i + 1)
        have hfirst := holds_skipSpaces s (i + 1)
        generalize hk : skipSpaces s.chars (i + 1) = k at h hslash hbefore hfirst
        have hafter := le_skipSpaces s.chars (k + 1)
        have hsecond := holds_skipSpaces s (k + 1)
        generalize skipSpaces s.chars (k + 1) = m at h hafter hsecond
        split at h
        · cases h
        · rename_i closing stop hname
          obtain ⟨hstop, hthird⟩ := holds_closingName hname
          split at h
          · cases h
          · rename_i hlast
            split at h
            · cases h
              have hlast : s.charAt? stop = some '>' := by simpa using hlast
              exact .closing hd (hk ▸ hslash) (by omega)
                (hfirst.append ((Holds.single hslash (by decide)).append
                  (hsecond.append (hthird.append (.single hlast (by decide))))))
            · cases h
      · rename_i hslash
        rw [if_neg hslash]
        cases helement : Source.element s fuel i with
        | error e => rw [helement] at h; cases h
        | ok read =>
          obtain ⟨code, k⟩ := read
          rw [helement] at h
          exact .childElement (ih.element hd helement) (ih.children h)
    rename_i hangle
    rw [if_neg hangle]
    split at h
    · rename_i hbrace
      rw [if_pos hbrace]
      rw [eq_of_beq hbrace] at hd
      cases hcapture : Source.capture s fuel (i + 1) with
      | error e => rw [hcapture] at h; cases h
      | ok captured =>
        obtain ⟨inside, k⟩ := captured
        rw [hcapture] at h
        exact .childExpression hd (ih.capture hcapture) (ih.children h)
    · rename_i hbrace
      rw [if_neg hbrace]
      refine .childText (le_skip ..) ?_ (ih.children h)
      exact (Holds.skip _ i).mono fun c hc => (Bool.and_eq_true_iff.mp hc).1

theorem succ (ih : Found s fuel) : Found s (fuel + 1) where
  code := ih.code_succ
  construct := ih.construct_succ
  angle := ih.angle_succ
  openParen := ih.openParen_succ
  parameters := ih.parameters_succ
  template := ih.template_succ
  capture := ih.capture_succ
  element := ih.element_succ
  attributes := ih.attributes_succ
  value := ih.value_succ
  children := ih.children_succ

theorem all (s : Listing) (fuel : Nat) : Found s fuel := by
  induction fuel with
  | zero => exact zero s
  | succ fuel ih => exact succ ih

end Found

/-- Successful lowering is found among the rules, from the first character on. -/
theorem reads_of_lower {source text : String} {dialect : Dialect}
    (h : lower source dialect = .ok text) :
    ∃ b, Reads ⟨source.toList.toArray, dialect⟩ (.code .text 0 {} b) (account source dialect) := by
  unfold lower at h
  dsimp only at h
  split at h
  · rename_i b hcode
    exact ⟨b, (Found.all _ _).code hcode⟩
  · cases h

end Source
end Restyle
