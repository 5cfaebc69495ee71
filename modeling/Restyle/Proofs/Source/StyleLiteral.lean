import Restyle.Proofs.Source.Merge
import Restyle.Proofs.Source.Nested

/-!
# Restyle.Proofs.Source.StyleLiteral

Style objects are written so that they are read back.

* `unquote?_escape`: a value between quotation marks is read as it was.
* `Entry.IsWritten`: the text of an entry stands for it in a list of entries.
* `parseStyleValue_literal`: the entries of a written object are read again.
* `isWritten_of_parseStyleValue`: what is read from nested text can be written.
-/

namespace Restyle
namespace Source

variable {stop : Char → Bool} {c mark : Char} {cs ds text : List Char} {e : Entry}
  {es : List Entry} {p : Property} {v : String}

/-! ## Blanks at the ends -/

def IsBlanks (cs : List Char) : Prop := ∀ c ∈ cs, Text.isBlank c = true

instance (cs : List Char) : Decidable (IsBlanks cs) := decidable_of_iff _ List.all_eq_true

theorem isBlanks_single (h : Text.isBlank c = true) : IsBlanks [c] := by
  intro d hd
  rwa [List.mem_singleton.mp hd]

theorem trimmed_append_left (h : IsBlanks ds) : trimmed (ds ++ cs) = trimmed cs := by
  unfold trimmed Text.trimBy
  rw [List.dropWhile_append_of_pos h]

theorem trimmed_append_right (h : IsBlanks ds) : trimmed (cs ++ ds) = trimmed cs := by
  unfold trimmed Text.trimBy
  rw [List.dropWhile_append]
  split
  · rename_i hcs
    have hds : (ds ++ []).dropWhile Text.isBlank = [] := List.dropWhile_append_of_pos h
    rw [List.append_nil] at hds
    rw [List.isEmpty_iff.mp hcs, hds]
  · have hback : ∀ c ∈ ds.reverse, Text.isBlank c = true := fun c hc => h c (List.mem_reverse.mp hc)
    rw [List.reverse_append, List.dropWhile_append_of_pos hback]

/-- A text is its trimmed text with blanks around. -/
theorem exists_trimmed (cs : List Char) :
    ∃ front back, IsBlanks front ∧ IsBlanks back ∧ cs = front ++ (trimmed cs ++ back) := by
  refine ⟨cs.takeWhile Text.isBlank,
    ((cs.dropWhile Text.isBlank).reverse.takeWhile Text.isBlank).reverse, ?_, ?_, ?_⟩
  · exact List.all_eq_true.mp List.all_takeWhile
  · intro c hc
    exact List.all_eq_true.mp List.all_takeWhile c (List.mem_reverse.mp hc)
  · unfold trimmed Text.trimBy
    rw [← List.reverse_append, List.takeWhile_append_dropWhile, List.reverse_reverse,
      List.takeWhile_append_dropWhile]

@[simp] theorem trimmed_trimmed (cs : List Char) : trimmed (trimmed cs) = trimmed cs := by
  obtain ⟨front, back, hfront, hback, hcs⟩ := exists_trimmed cs
  have h : trimmed (front ++ (trimmed cs ++ back)) = trimmed (trimmed cs) := by
    rw [trimmed_append_left hfront, trimmed_append_right hback]
  rw [← h, ← hcs]

/-- A text without blanks at its ends. -/
theorem trimmed_of_ends {d : Char} (hc : Text.isBlank c = false)
    (hlast : (c :: cs).getLast? = some d) (hd : Text.isBlank d = false) :
    trimmed (c :: cs) = c :: cs := by
  unfold trimmed Text.trimBy
  rw [List.dropWhile_cons_of_neg (by simp [hc])]
  rw [← List.head?_reverse] at hlast
  obtain ⟨ds, hds⟩ := List.head?_eq_some_iff.mp hlast
  rw [hds, List.dropWhile_cons_of_neg (by simp [hd]), ← hds, List.reverse_reverse]

theorem length_trimmed_le (cs : List Char) : (trimmed cs).length ≤ cs.length := by
  obtain ⟨front, back, -, -, hcs⟩ := exists_trimmed cs
  have := congrArg List.length hcs
  simp only [List.length_append] at this
  omega

/-- A text that begins with no blank keeps its beginning. -/
theorem trimmed_cons (hc : Text.isBlank c = false) (cs : List Char) :
    ∃ ds, trimmed (c :: cs) = c :: ds := by
  unfold trimmed Text.trimBy
  rw [List.dropWhile_cons_of_neg (by simp [hc]), List.reverse_cons, List.dropWhile_append]
  split
  · exact ⟨[], by simp [hc]⟩
  · exact ⟨_, by simp; rfl⟩

theorem isInert_of_isBlank (h : Text.isBlank c = true) : Matching.isInert c = true := by
  rw [← Bool.not_eq_false]
  intro hinert
  have hall : Matching.marks.all (!Text.isBlank ·) = true := by decide
  have hnot := List.all_eq_true.mp hall c (by simpa [Matching.isInert] using hinert)
  rw [h] at hnot
  cases hnot

theorem Nested.trimmed (h : Nested stop cs) : Nested stop (trimmed cs) := by
  obtain ⟨front, back, hfront, hback, hcs⟩ := exists_trimmed cs
  rw [hcs] at h
  generalize Source.trimmed cs = t at *
  clear hcs
  have hrest : Nested stop (t ++ back) := by
    induction front with
    | nil => exact h
    | cons c front ih =>
      obtain ⟨hc, hfront⟩ := List.forall_mem_cons.mp hfront
      exact ih hfront (.of_cons (isInert_of_isBlank hc) h)
  clear h hfront
  induction back generalizing t with
  | nil => simpa using hrest
  | cons c back ih =>
    obtain ⟨hc, hback⟩ := List.forall_mem_cons.mp hback
    rw [List.append_cons] at hrest
    exact .of_concat (isInert_of_isBlank hc) (ih hback (t ++ [c]) hrest)

/-- A text that can stand between marks: nested without them at top, without blanks at its ends,
and not empty. -/
structure IsPiece (stop : Char → Bool) (t : List Char) : Prop where
  nested : Nested stop t
  trimmed : Source.trimmed t = t
  ne_nil : t ≠ []

/-- A piece begins and ends with no blank. -/
theorem IsPiece.ends (h : IsPiece stop text) : ∃ c d, text.head? = some c ∧
    Text.isBlank c = false ∧ text.getLast? = some d ∧ Text.isBlank d = false := by
  refine ⟨text.head h.ne_nil, text.getLast h.ne_nil, List.head?_eq_some_head _, ?_,
    List.getLast?_eq_some_getLast _, ?_⟩
  · rw [Bool.eq_false_iff]
    intro hblank
    obtain ⟨c, cs, rfl⟩ := List.exists_cons_of_ne_nil h.ne_nil
    have hcut : Source.trimmed ([c] ++ cs) = Source.trimmed cs :=
      trimmed_append_left (isBlanks_single (by simpa using hblank))
    have := length_trimmed_le cs
    rw [← hcut, List.singleton_append, h.trimmed, List.length_cons] at this
    omega
  · rw [Bool.eq_false_iff]
    intro hblank
    rcases List.eq_nil_or_concat text with hnil | ⟨cs, d, rfl⟩
    · exact h.ne_nil hnil
    have hcut : Source.trimmed (cs ++ [d]) = Source.trimmed cs :=
      trimmed_append_right (isBlanks_single (by simpa using hblank))
    have := length_trimmed_le cs
    rw [← hcut, ← List.concat_eq_append, h.trimmed, List.length_concat] at this
    omega

/-! ## Strings -/

theorem escape_cons (c : Char) (cs : List Char) : escape (c :: cs) = escape [c] ++ escape cs := by
  simp [escape]

/-- A character is written after a backslash, or as itself if it means nothing in a string. -/
theorem escape_single (c : Char) :
    (∃ d, escape [c] = ['\\', d] ∧
      (if d == 'n' then '\n' else if d == 't' then '\t' else d) = c) ∨
    (escape [c] = [c] ∧ c ≠ '"' ∧ c ≠ '\\') := by
  by_cases h₁ : c = '"'
  · subst h₁; exact .inl ⟨'"', rfl, rfl⟩
  by_cases h₂ : c = '\\'
  · subst h₂; exact .inl ⟨'\\', rfl, rfl⟩
  by_cases h₃ : c = '\n'
  · subst h₃; exact .inl ⟨'n', rfl, rfl⟩
  exact .inr ⟨by simp [escape, h₁, h₂, h₃], h₁, h₂⟩

theorem unescape?_escape (cs : List Char) : unescape? '"' (escape cs) = some cs := by
  induction cs with
  | nil => rfl
  | cons c cs ih =>
    rw [escape_cons]
    obtain ⟨d, hd, hc⟩ | ⟨hc, hquote, hslash⟩ := escape_single c
    · rw [hd, List.cons_append, List.singleton_append, unescape?, ih, hc]
      rfl
    · rw [hc]
      simp [unescape?, hquote, hslash, ih]

/-- A value between quotation marks is read as it was. -/
theorem unquote?_escape (v : List Char) :
    unquote? ('"' :: (escape v ++ ['"'])) = some (String.ofList v) := by
  simp [unquote?, unescape?_escape]

/-- A string that goes on after it. -/
theorem read_escape (awaited : List Char) (cs : List Char) :
    Matching.read stop { string := some ('"', false), awaited } (escape cs) =
      some { string := some ('"', false), awaited } := by
  induction cs with
  | nil => rfl
  | cons c cs ih =>
    rw [escape_cons, Matching.read_append]
    obtain ⟨d, hd, -⟩ | ⟨hc, hquote, hslash⟩ := escape_single c
    · rw [hd]
      simpa [Matching.read, Matching.step, Matching.isTop] using ih
    · rw [hc]
      simpa [Matching.read, Matching.step, Matching.isTop, hquote, hslash] using ih

theorem nested_escape (hstop : stop '"' = false) (cs : List Char) :
    Nested stop ('"' :: (escape cs ++ ['"'])) := by
  refine Matching.read_cons_eq_some_iff.mpr
    ⟨by simp [hstop], { string := some ('"', false) }, rfl, ?_⟩
  rw [Matching.read_append, read_escape]
  rfl

/-! ## One entry -/

namespace Entry

/-- An entry with a colon, from the text before it and the text after. -/
theorem parse_keyed (h : Nested (· == ':') cs) (rest : List Char) :
    parse (cs ++ ':' :: rest) =
      (let key := (unquote? (trimmed cs)).getD (String.ofList (trimmed cs))
       if key.isEmpty then .error .emptyKey
       else
        match unquote? (trimmed rest) with
        | some value => .ok (quoted key value (some (String.ofList (cs ++ ':' :: rest))))
        | none => .ok (raw (some key) (String.ofList (cs ++ ':' :: rest)))) := by
  have hsplit : ∃ piece pieces,
      splitPieces ':' {} (cs ++ ':' :: rest) = cs :: piece :: pieces := by
    rw [splitPieces_nested ':' (by rfl) h, splitPieces, if_pos (by rfl)]
    cases hrest : splitPieces ':' {} rest with
    | nil => exact (splitPieces_ne_nil _ _ _ hrest).elim
    | cons piece pieces => exact ⟨piece, pieces, by simp [beforeFirst]⟩
  obtain ⟨piece, pieces, hsplit⟩ := hsplit
  simp only [parse, hsplit]
  have hdrop : (cs ++ ':' :: rest).drop (cs.length + 1) = rest := by
    rw [← List.drop_drop, List.drop_left]
    rfl
  generalize (cs ++ ':' :: rest).drop (cs.length + 1) = value at hdrop
  subst hdrop
  rfl

/-- An entry without a colon. -/
theorem parse_plain (h : Nested (· == ':') cs) : parse cs = .ok (raw none (String.ofList cs)) := by
  have hsplit := splitPieces_nested ':' (by rfl) h []
  rw [List.append_nil] at hsplit
  simp [parse, hsplit, splitPieces, beforeFirst]

/-- The only fault of an entry. -/
theorem eq_emptyKey_of_parse {fault : StyleFault} (h : parse cs = .error fault) :
    fault = .emptyKey := by
  unfold parse at h
  grind

/-- What is read has the text that it was read from. -/
theorem text_of_parse (h : parse cs = .ok e) : e.text = String.ofList cs ∧ e.settled = e := by
  unfold parse at h
  have : (∃ key value, e = quoted key value (some (String.ofList cs))) ∨
      ∃ key, e = raw key (String.ofList cs) := by grind
  rcases this with ⟨key, value, rfl⟩ | ⟨key, rfl⟩ <;> exact ⟨rfl, rfl⟩

/-- The text of the entry stands for it in a list of entries. -/
structure IsWritten (e : Entry) : Prop where
  isPiece : IsPiece (· == ',') e.text.toList
  parse : Entry.parse e.text.toList = .ok e.settled

/-- The entry that an edit writes can be read. -/
theorem isWritten_edited (p : Property) (v : String) : (edited p v).IsWritten := by
  have htext : (edited p v).text.toList =
      p.key.toList ++ ':' :: ([' '] ++ '"' :: (escape v.toList ++ ['"'])) := by
    simp [edited, text]
  have hkey : Nested (fun c => c == ',' || c == ':') p.key.toList := by cases p <;> decide
  have hcut : Source.trimmed ([' '] ++ '"' :: (escape v.toList ++ ['"'])) =
      '"' :: (escape v.toList ++ ['"']) := by
    rw [trimmed_append_left (by decide)]
    exact trimmed_of_ends (d := '"') (by decide) (by simp [List.getLast?_cons]) (by decide)
  refine ⟨⟨?_, ?_, ?_⟩, ?_⟩
  · rw [htext]
    have hcolon : Nested (· == ',') [':', ' '] := by decide
    exact .append (hkey.mono (by simp +contextual)) (hcolon.append (nested_escape rfl _))
  · have hfirst : ∃ c cs, p.key.toList = c :: cs ∧ Text.isBlank c = false := by
      cases p <;> exact ⟨_, _, rfl, by decide⟩
    obtain ⟨c, cs, hcs, hc⟩ := hfirst
    rw [htext, hcs]
    exact trimmed_of_ends (d := '"') hc (by simp [List.getLast?_cons]) (by decide)
  · rw [htext]
    simp
  · have hname : unquote? (Source.trimmed p.key.toList) = none ∧
        String.ofList (Source.trimmed p.key.toList) = p.key ∧ p.key.isEmpty = false := by
      cases p <;> decide
    rw [htext, parse_keyed (hkey.mono (by simp +contextual)), hcut, unquote?_escape, hname.1,
      Option.getD_none, hname.2.1]
    simp only [hname.2.2, ← htext, String.ofList_toList]
    simp [edited, settled]

/-! ## Several entries -/

/-- Entries are read one by one. -/
theorem mapM_parse_of_forall (h : ∀ e ∈ es, e.IsWritten) :
    (es.map (·.text.toList)).mapM parse = .ok (es.map settled) := by
  induction es with
  | nil => rfl
  | cons e es ih =>
    obtain ⟨he, hes⟩ := List.forall_mem_cons.mp h
    rw [List.map_cons, List.mapM_cons, he.parse, ih hes]
    rfl

/-- What is read from some texts has these texts. -/
theorem of_mapM_parse {texts : List (List Char)} (h : texts.mapM parse = .ok es) :
    es.map (·.text.toList) = texts ∧
      ∀ e ∈ es, e.settled = e ∧ parse e.text.toList = .ok e := by
  induction texts generalizing es with
  | nil => cases h; exact ⟨rfl, by simp⟩
  | cons t texts ih =>
    rw [List.mapM_cons] at h
    cases ht : parse t with
    | error fault => rw [ht] at h; cases h
    | ok e =>
      cases htexts : texts.mapM parse with
      | error fault => rw [ht, htexts] at h; cases h
      | ok es' =>
        rw [ht, htexts] at h
        cases h
        obtain ⟨htext, hsettled⟩ := text_of_parse ht
        obtain ⟨hmap, hall⟩ := ih htexts
        have htext : e.text.toList = t := by simp [htext]
        refine ⟨by rw [List.map_cons, htext, hmap], List.forall_mem_cons.mpr ⟨⟨hsettled, ?_⟩, hall⟩⟩
        rw [htext, ht]

end Entry

/-! ## Style values -/

/-- The object literal of some entries. -/
def literal (es : List Entry) : List Char :=
  inBraces (' ' :: ([',', ' '].intercalate (es.map (·.text.toList)) ++ [' ']))

theorem styleAttribute_eq (es : List Entry) :
    styleAttribute es = "style".toList ++ (['='] ++ inBraces (literal es)) := by
  simp [styleAttribute, literal, inBraces, String.toList_intercalate, Function.comp_def]

theorem intercalate_cons_of_ne_nil {sep x : List Char} {xs : List (List Char)} (h : xs ≠ []) :
    sep.intercalate (x :: xs) = x ++ (sep ++ sep.intercalate xs) := by
  obtain ⟨y, ys, rfl⟩ := List.exists_cons_of_ne_nil h
  rw [List.intercalate_cons_cons, List.append_assoc]

/-- The texts stand in the body of an object one after the other, with commas between them and
blanks around; a comma after the last is allowed. -/
inductive Lists : List Char → List (List Char) → Prop where
  | none {blanks : List Char} : IsBlanks blanks → Lists blanks []
  | last {front back t : List Char} : IsBlanks front → IsBlanks back → IsPiece (· == ',') t →
      Lists (front ++ (t ++ back)) [t]
  | cons {front back t body : List Char} {ts : List (List Char)} : IsBlanks front →
      IsBlanks back → IsPiece (· == ',') t → Lists body ts →
      Lists (front ++ (t ++ (back ++ ',' :: body))) (t :: ts)

theorem nested_of_isBlanks (h : IsBlanks cs) : Nested (· == ',') cs := by
  refine .of_forall fun c hc => ⟨isInert_of_isBlank (h c hc), ?_⟩
  rw [beq_eq_false_iff_ne]
  rintro rfl
  exact absurd (h _ hc) (by decide)

theorem trimmed_between {front back t : List Char} (hfront : IsBlanks front)
    (hback : IsBlanks back) (ht : IsPiece (· == ',') t) : trimmed (front ++ (t ++ back)) = t := by
  rw [trimmed_append_left hfront, trimmed_append_right hback, ht.trimmed]

theorem trimmed_of_isBlanks (h : IsBlanks cs) : trimmed cs = [] := by
  have hempty : trimmed (cs ++ []) = trimmed [] := trimmed_append_left h
  rwa [List.append_nil] at hempty

/-- The texts of a list are found again. -/
theorem Lists.split {body : List Char} {ts : List (List Char)} (h : Lists body ts) :
    ((splitPieces ',' {} body).map trimmed).filter (!·.isEmpty) = ts := by
  induction h with
  | none hblanks =>
    have hsplit := splitPieces_nested ',' (by rfl) (nested_of_isBlanks hblanks) []
    rw [List.append_nil] at hsplit
    simp [hsplit, splitPieces, beforeFirst, trimmed_of_isBlanks hblanks]
  | @last front back t hfront hback ht =>
    have hnested := (nested_of_isBlanks hfront).append (ht.nested.append (nested_of_isBlanks hback))
    have hsplit := splitPieces_nested ',' (by rfl) hnested []
    rw [List.append_nil] at hsplit
    simp [hsplit, splitPieces, beforeFirst, trimmed_between hfront hback ht, ht.ne_nil]
  | @cons front back t body ts hfront hback ht _ ih =>
    have hnested := (nested_of_isBlanks hfront).append (ht.nested.append (nested_of_isBlanks hback))
    have hsplit := splitPieces_nested ',' (by rfl) hnested (',' :: body)
    have htext : front ++ (t ++ (back ++ ',' :: body)) = front ++ (t ++ back) ++ ',' :: body := by
      simp
    rw [htext, hsplit, splitPieces, if_pos (by rfl)]
    simp [beforeFirst, trimmed_between hfront hback ht, ht.ne_nil, ih]

theorem Lists.nested {body : List Char} {ts : List (List Char)} (h : Lists body ts) :
    Nested anywhere body := by
  induction h with
  | none hblanks => exact (nested_of_isBlanks hblanks).anywhere
  | last hfront hback ht =>
    exact (nested_of_isBlanks hfront).anywhere.append
      (ht.nested.anywhere.append (nested_of_isBlanks hback).anywhere)
  | cons hfront hback ht _ ih =>
    have hcomma : Nested anywhere [','] := by decide
    exact (nested_of_isBlanks hfront).anywhere.append
      (ht.nested.anywhere.append ((nested_of_isBlanks hback).anywhere.append (hcomma.append ih)))

/-- Listed texts, as they are written. -/
theorem lists_intercalate {ts : List (List Char)} (h : ∀ t ∈ ts, IsPiece (· == ',') t) :
    Lists (' ' :: ([',', ' '].intercalate ts ++ [' '])) ts := by
  have hspace : IsBlanks [' '] := by decide
  induction ts with
  | nil => exact .none (by decide)
  | cons t ts ih =>
    obtain ⟨ht, hts⟩ := List.forall_mem_cons.mp h
    by_cases hne : ts = []
    · subst hne
      simpa using Lists.last hspace hspace ht
    · have := Lists.cons hspace (by simp [IsBlanks] : IsBlanks []) ht (ih hts)
      rw [intercalate_cons_of_ne_nil hne]
      simpa using this

theorem unbrace?_inBraces (cs : List Char) : unbrace? (inBraces cs) = some cs := by
  simp [unbrace?, inBraces]

/-- A value in braces that is an object literal. -/
theorem parseStyleValue_inBraces {front back : List Char} (hfront : IsBlanks front)
    (hback : IsBlanks back) (body : List Char) :
    parseStyleValue (inBraces (front ++ (inBraces body ++ back))) =
      (((splitPieces ',' {} body).map trimmed).filter (!·.isEmpty)).mapM Entry.parse := by
  have hinside : trimmed (front ++ (inBraces body ++ back)) = inBraces body := by
    rw [trimmed_append_left hfront, trimmed_append_right hback]
    exact trimmed_of_ends (d := '}') (by decide) (by simp [List.getLast?_cons]) (by decide)
  simp only [parseStyleValue, unbrace?_inBraces, hinside]

/-- **A written object** is read with its entries. -/
theorem parseStyleValue_literal (h : ∀ e ∈ es, e.IsWritten) :
    parseStyleValue (inBraces (literal es)) = .ok (es.map Entry.settled) := by
  have hlists : Lists _ (es.map (·.text.toList)) := lists_intercalate (by
    simpa using fun e he => (h e he).isPiece)
  have hnone : IsBlanks [] := by simp [IsBlanks]
  have hread := parseStyleValue_inBraces hnone hnone
    (' ' :: ([',', ' '].intercalate (es.map (·.text.toList)) ++ [' ']))
  rw [hlists.split, Entry.mapM_parse_of_forall h] at hread
  simpa [literal] using hread

theorem nested_literal (h : ∀ e ∈ es, e.IsWritten) : Nested anywhere (literal es) := by
  have hlists : Lists _ (es.map (·.text.toList)) := lists_intercalate (by
    simpa using fun e he => (h e he).isPiece)
  have hbraced : Nested anywhere _ := hlists.nested.braced rfl
  simpa [literal] using hbraced

/-- **What is read from nested text** can be written. -/
theorem isWritten_of_parseStyleValue {front back body : List Char} (hfront : IsBlanks front)
    (hback : IsBlanks back) (hbody : Nested anywhere body)
    (h : parseStyleValue (inBraces (front ++ (inBraces body ++ back))) = .ok es) :
    ∀ e ∈ es, e.IsWritten ∧ e.settled = e := by
  rw [parseStyleValue_inBraces hfront hback] at h
  have hpieces := nested_of_mem_splitPieces ',' rfl hbody
  obtain ⟨htexts, hread⟩ := Entry.of_mapM_parse h
  intro e he
  obtain ⟨hsettled, hparse⟩ := hread e he
  -- the text of the entry is one of the pieces, trimmed
  have htext := List.mem_map_of_mem (f := (·.text.toList)) he
  rw [htexts, List.mem_filter, List.mem_map] at htext
  obtain ⟨⟨piece, hpiece, htrimmed⟩, hne⟩ := htext
  refine ⟨⟨⟨?_, ?_, by simpa using hne⟩, by rw [hparse, hsettled]⟩, hsettled⟩
  · rw [← htrimmed]
    exact (hpieces piece hpiece).trimmed
  · rw [← htrimmed, trimmed_trimmed]

end Source
end Restyle
