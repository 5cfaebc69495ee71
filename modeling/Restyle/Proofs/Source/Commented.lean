import Mathlib
import Restyle.Source.ModuleForm
import Restyle.Proofs.Pattern.Behind

/-!
# Restyle.Proofs.Source.Commented

A line comment in front of a module. Imports and named exports are looked for at the start of a
line, so none begins in the comment (`stripImportsList_comment`, `stripNamedExports_comment`). A
default export is looked for anywhere: the comment is kept, and the module stays what it is, exactly
if no form that is looked for begins in the comment (`normalize_commented_iff`).
-/

namespace Restyle
namespace Source

open Pattern

/-- A line comment with its line break. -/
def comment (c : List Char) : List Char := '/' :: '/' :: c ++ ['\n']

/-- A text after a line comment. -/
def commented (c s : String) : String := "//" ++ c ++ "\n" ++ s

variable {c s : List Char}

@[simp] theorem toList_commented (c s : String) :
    (commented c s).toList = comment c.toList ++ s.toList := by
  simp [commented, comment, String.toList_append]

theorem getLast?_comment : (comment c).getLast? = some '\n' := List.getLast?_concat

/-! ## Patterns that cannot tell a line break before them from the start of the text -/

/-- A pattern that is matched after a line break as at the start of the text. -/
structure Shiftable (p : TextPattern) : Prop where
  plain : p.isPlain = true
  covers : 1 ≤ p.least
  blind : p.Blind '\n'

attribute [grind =] Blind Pattern.sequence

theorem blind_sequence {ps : List TextPattern} (h : ∀ p ∈ ps, p.Blind '\n') :
    (sequence ps).Blind '\n' := by
  induction ps with
  | nil => trivial
  | cons p ps ih =>
    cases ps with
    | nil => exact h p (List.mem_singleton_self p)
    | cons q qs =>
      exact ⟨h p (List.mem_cons_self ..), ih fun q hq => h q (List.mem_cons_of_mem _ hq)⟩

@[simp] theorem blind_word (w : String) : (word w).Blind '\n' := by
  refine blind_sequence fun p hp => ?_
  obtain ⟨_, _, rfl⟩ := List.mem_map.mp hp
  trivial

/-- A word is read as it stands. -/
theorem reads_word {w : String} {st st' : State Char} (h : Pattern.Reads (word w) st st') :
    st.rest = w.toList ++ st'.rest := by
  unfold word at h
  generalize w.toList = cs at h
  induction cs generalizing st with
  | nil =>
    cases h
    rfl
  | cons a cs ih =>
    have hchar {st₁ : State Char} (h : Pattern.Reads (char a) st st₁) :
        st.rest = a :: st₁.rest := by
      cases h with
      | symbol hrest ha => rw [hrest, beq_iff_eq.mp ha]; rfl
    cases cs with
    | nil => exact hchar h
    | cons b cs =>
      cases h with
      | seq hfirst hrest => rw [hchar hfirst, ih hrest]; rfl

@[simp] theorem blind_optional {p : TextPattern} :
    (Pattern.optional p).Blind '\n' ↔ p.Blind '\n' := .rfl

@[simp] theorem blind_char (a : Char) : (char a).Blind '\n' := trivial

@[simp] theorem blind_quotation : quotation.Blind '\n' := trivial

@[simp] theorem blind_unquoted : unquoted.Blind '\n' := trivial

@[simp] theorem blind_blanks : blanks.Blind '\n' := trivial

@[simp] theorem blind_gap : gap.Blind '\n' := ⟨trivial, trivial⟩

@[simp] theorem blind_indent : indent.Blind '\n' := trivial

@[simp] theorem blind_name : name.Blind '\n' := ⟨trivial, trivial⟩

@[simp] theorem blind_bindings : Form.bindings.Blind '\n' := ⟨trivial, trivial⟩

@[simp] theorem blind_finish : Form.finish.Blind '\n' := ⟨trivial, trivial⟩

@[simp] theorem blind_lineStart : lineStart.Blind '\n' := fun _ => rfl

@[simp] theorem blind_lineEnd : lineEnd.Blind '\n' := fun _ => rfl

@[simp] theorem blind_boundary : boundary.Blind '\n' := fun _ => rfl

theorem shiftable_libraryImport : Shiftable Form.libraryImport where
  plain := by decide
  covers := by decide
  blind := by simp [Form.libraryImport, Pattern.sequence, Blind]

theorem shiftable_typeImport : Shiftable Form.typeImport where
  plain := by decide
  covers := by decide
  blind := by simp [Form.typeImport, Pattern.sequence, some', Blind]

theorem shiftable_namedExport : Shiftable Form.namedExport where
  plain := by decide
  covers := by decide
  blind := by simp [Form.namedExport, Pattern.sequence, choice, Blind]

theorem shiftable_exportList : Shiftable Form.exportList where
  plain := by decide
  covers := by decide
  blind := by simp [Form.exportList, Pattern.sequence, Blind]

theorem shiftable_defaultFunction : Shiftable Form.defaultFunction where
  plain := by decide
  covers := by decide
  blind := by simp [Form.defaultFunction, Pattern.sequence, Blind]

theorem shiftable_defaultClass : Shiftable Form.defaultClass where
  plain := by decide
  covers := by decide
  blind := by simp [Form.defaultClass, Pattern.sequence, Blind]

theorem shiftable_defaultName : Shiftable Form.defaultName where
  plain := by decide
  covers := by decide
  blind := by simp [Form.defaultName, Pattern.sequence, Blind]

theorem shiftable_exportAsDefault : Shiftable Form.exportAsDefault where
  plain := by decide
  covers := by decide
  blind := by simp [Form.exportAsDefault, Pattern.sequence, Blind]

theorem shiftable_exportDefault : Shiftable Form.exportDefault where
  plain := by decide
  covers := by decide
  blind := by simp [Form.exportDefault, Pattern.sequence, Blind]

/-! ## Forms that are looked for at the start of a line -/

/-- What stands before a place in a line comment is a part of its line. -/
theorem mem_skipped {skipped rest : List Char} (h : comment c ++ s = skipped ++ rest)
    (hlength : skipped.length < (comment c).length) {a : Char} (ha : a ∈ skipped) :
    a ∈ '/' :: '/' :: c := by
  have hline : skipped.length ≤ ('/' :: '/' :: c).length := by
    simp only [comment, List.length_append, List.length_singleton] at hlength
    omega
  have htake : skipped = ('/' :: '/' :: c).take skipped.length := by
    calc skipped
        = (skipped ++ rest).take skipped.length := List.take_left.symm
      _ = ('/' :: '/' :: c ++ ('\n' :: s)).take skipped.length := by rw [← h]; simp [comment]
      _ = ('/' :: '/' :: c).take skipped.length := List.take_append_of_le_length hline
  exact List.mem_of_mem_take (htake ▸ ha)

/-- A form at the start of a line that does not open with a slash does not begin in a line
comment: there is one line, and it begins with a slash. -/
theorem not_beginsIn_comment {p : TextPattern} (hp : Shiftable (.seq lineStart p))
    (hopens : p.opens '/' = false) (hc : '\n' ∉ c) :
    ¬ (Pattern.seq lineStart p).BeginsIn (comment c) s := by
  rintro ⟨m, hm, hstart⟩
  obtain ⟨skipped, htext, hpos, hread, -⟩ := find?_text hp.plain hm
  rw [hpos] at hstart
  cases hread with
  | seq hline hread =>
    unfold lineStart at hline
    cases hline with
    | between hbefore =>
      have hskipped : skipped = [] := by
        refine List.getLast?_eq_none_iff.mp (Option.eq_none_iff_forall_not_mem.mpr fun a ha => ?_)
        have hbreak : a = '\n' := by
          simpa [State.behind, List.head?_reverse, show skipped.getLast? = some a from ha]
            using hbefore
        subst hbreak
        simpa [hc] using mem_skipped htext hstart (List.mem_of_getLast? ha)
      subst hskipped
      have hone : (({ rest := m.text ++ m.after.rest } : State Char).behind []).ByOne := rfl
      have hmoved := hread.least_le hone
      have hcovers : 1 ≤ 0 + p.least := hp.covers
      obtain ⟨a, rest, hrest, ha⟩ := hread.opens hone (by omega)
      have hslash : comment c ++ s = a :: rest := htext.trans hrest
      cases hslash
      rw [hopens] at ha
      cases ha

theorem replace_comment {p : TextPattern} (hp : Shiftable p)
    (hnot : ¬ p.BeginsIn (comment c) s) {make : Match Char → List Char}
    (hmake : Steady (comment c) make) :
    replace p make (comment c ++ s) = comment c ++ replace p make s :=
  replaceAll_append getLast?_comment hp.blind hp.plain hp.covers hmake hnot

theorem steady_keepLineBreaks : Steady (comment c) keepLineBreaks := fun _ => rfl

theorem stripImportsList_comment (hc : '\n' ∉ c) :
    stripImportsList (comment c ++ s) = comment c ++ stripImportsList s := by
  unfold stripImportsList
  rw [replace_comment shiftable_libraryImport
      (not_beginsIn_comment shiftable_libraryImport (by decide) hc) steady_keepLineBreaks,
    replace_comment shiftable_typeImport
      (not_beginsIn_comment shiftable_typeImport (by decide) hc) steady_keepLineBreaks]

/-- The groups of a match are those it has behind other text. -/
theorem group?_behind {front : List Char} (m : Match Char) (index : Nat) :
    (m.behind front).group? index = m.group? index := State.group?_behind index

theorem stripNamedExports_comment (hc : '\n' ∉ c) :
    stripNamedExports (comment c ++ s) = comment c ++ stripNamedExports s := by
  unfold stripNamedExports
  rw [replace_comment shiftable_namedExport
      (not_beginsIn_comment shiftable_namedExport (by decide) hc)
      (fun m => by simp only [group?_behind]),
    replace_comment shiftable_exportList
      (not_beginsIn_comment shiftable_exportList (by decide) hc) steady_keepLineBreaks]

/-! ## The default export -/

namespace DefaultExport

/-- A form of the default export, and what a match of it says. -/
structure Kind where
  form : TextPattern
  read : Match Char → DefaultExport

/-- The forms of the default export in the order in which they are looked for. -/
def kinds : List Kind :=
  [{ form := Form.defaultFunction
     read := fun m => .functionNamed ((m.group? 1).getD []) (m.group? 2) ((m.group? 3).getD []) },
   { form := Form.defaultClass, read := fun m => .classNamed (m.group? 1) },
   { form := Form.defaultName, read := fun m => .binding ((m.group? 1).getD []) },
   { form := Form.exportAsDefault, read := fun m => .binding ((m.group? 1).getD []) },
   { form := Form.exportDefault, read := fun _ => .expression }]

/-- The first of some forms that occurs. -/
def findOf? (source : List Char) : List Kind → Option (Match Char × DefaultExport)
  | [] => none
  | kind :: kinds =>
    match first? kind.form source with
    | some m => some (m, kind.read m)
    | none => findOf? source kinds

theorem find?_eq (source : List Char) : find? source = findOf? source kinds := by
  simp only [find?, kinds, findOf?]
  cases first? Form.defaultFunction source with
  | some _ => rfl
  | none =>
    cases first? Form.defaultClass source with
    | some _ => rfl
    | none =>
      cases first? Form.defaultName source with
      | some _ => rfl
      | none =>
        cases first? Form.exportAsDefault source with
        | some _ => rfl
        | none => cases first? Form.exportDefault source <;> rfl

/-- The forms that are looked for in a source: those up to the first that occurs. -/
def searched (source : List Char) : List Kind → List TextPattern
  | [] => []
  | kind :: kinds =>
    kind.form :: if (first? kind.form source).isSome then [] else searched source kinds

theorem exists_of_mem_searched {source : List Char} {kinds : List Kind} {form : TextPattern}
    (h : form ∈ searched source kinds) : ∃ kind ∈ kinds, kind.form = form := by
  induction kinds with
  | nil => cases h
  | cons kind kinds ih =>
    obtain rfl | h := List.mem_cons.mp h
    · exact ⟨kind, List.mem_cons_self .., rfl⟩
    · split at h
      · cases h
      · obtain ⟨kind', hkind', rfl⟩ := ih h
        exact ⟨kind', List.mem_cons_of_mem _ hkind', rfl⟩

/-- What is read off a match of some kind is what is read off it behind a comment. -/
structure Kind.Sound (kind : Kind) : Prop where
  shiftable : Shiftable kind.form
  steady (front : List Char) (m : Match Char) : kind.read (m.behind front) = kind.read m

theorem sound_of_mem {kind : Kind} (h : kind ∈ kinds) : kind.Sound := by
  simp only [kinds, List.mem_cons, List.not_mem_nil, or_false] at h
  obtain rfl | rfl | rfl | rfl | rfl := h
  · exact ⟨shiftable_defaultFunction, fun _ m => by simp only [group?_behind]⟩
  · exact ⟨shiftable_defaultClass, fun _ m => by simp only [group?_behind]⟩
  · exact ⟨shiftable_defaultName, fun _ m => by simp only [group?_behind]⟩
  · exact ⟨shiftable_exportAsDefault, fun _ m => by simp only [group?_behind]⟩
  · exact ⟨shiftable_exportDefault, fun _ _ => rfl⟩

theorem first?_comment {p : TextPattern} (hp : Shiftable p) (hnot : ¬ p.BeginsIn (comment c) s) :
    first? p (comment c ++ s) = (first? p s).map (Match.behind (comment c)) :=
  find?_append getLast?_comment hp.blind hnot

/-- If no form that is looked for begins in the comment, the same is found behind it. -/
theorem findOf?_comment {kinds : List Kind} (hkinds : ∀ kind ∈ kinds, kind.Sound)
    (hnot : ∀ form ∈ searched s kinds, ¬ form.BeginsIn (comment c) s) :
    findOf? (comment c ++ s) kinds =
      (findOf? s kinds).map fun (m, e) => (m.behind (comment c), e) := by
  induction kinds with
  | nil => rfl
  | cons kind kinds ih =>
    have hsound := hkinds kind (List.mem_cons_self ..)
    simp only [findOf?, first?_comment hsound.shiftable (hnot kind.form (List.mem_cons_self ..))]
    cases hm : first? kind.form s with
    | some m =>
      simp only [Option.map_some, hsound.steady]
    | none =>
      refine ih (fun k hk => hkinds k (List.mem_cons_of_mem _ hk)) fun form hform => hnot form ?_
      simp only [searched, hm]
      exact List.mem_cons_of_mem _ hform

/-- If some form that is looked for begins in the comment, what is found begins there. -/
theorem findOf?_in_comment {kinds : List Kind} (hkinds : ∀ kind ∈ kinds, kind.Sound)
    {form : TextPattern} (hform : form ∈ searched s kinds) (hin : form.BeginsIn (comment c) s) :
    ∃ kind ∈ kinds, ∃ m, first? kind.form (comment c ++ s) = some m ∧
      m.start < (comment c).length ∧ findOf? (comment c ++ s) kinds = some (m, kind.read m) := by
  induction kinds with
  | nil => cases hform
  | cons kind kinds ih =>
    by_cases hfirst : kind.form.BeginsIn (comment c) s
    · obtain ⟨m, hm, hstart⟩ := hfirst
      exact ⟨kind, List.mem_cons_self .., m, hm, hstart, by
        rw [findOf?, show first? kind.form (comment c ++ s) = some m from hm]⟩
    · have hnone := first?_comment (hkinds kind (List.mem_cons_self ..)).shiftable hfirst
      obtain rfl | hform := List.mem_cons.mp hform
      · exact absurd hin hfirst
      · cases hm : first? kind.form s with
        | some m => simp [hm] at hform
        | none =>
          rw [hm] at hform hnone
          obtain ⟨kind', hkind', m, hm', hstart, hfound⟩ :=
            ih (fun k hk => hkinds k (List.mem_cons_of_mem _ hk)) hform
          refine ⟨kind', List.mem_cons_of_mem _ hkind', m, hm', hstart, ?_⟩
          rw [findOf?, hnone]
          exact hfound

/-- Every form of the default export begins with the word. -/
theorem exists_form {kind : Kind} (h : kind ∈ kinds) :
    ∃ q, kind.form = .seq boundary (.seq (word "export") q) := by
  simp only [kinds, List.mem_cons, List.not_mem_nil, or_false] at h
  obtain rfl | rfl | rfl | rfl | rfl := h <;> exact ⟨_, rfl⟩

theorem eq_of_opens {kind : Kind} (h : kind ∈ kinds) {a : Char}
    (ha : kind.form.opens a = true) : a = 'e' := by
  obtain ⟨q, hq⟩ := exists_form h
  simpa [hq, word, Pattern.sequence, char, boundary, opens, least] using ha

/-- The keyword of a function that is exported. -/
def keyword : TextPattern :=
  sequence [Pattern.optional (.seq (word "async") gap), word "function", blanks,
    Pattern.optional (char '*')]

theorem held_keyword : Form.defaultFunction.held 1 = [keyword] := by rfl

theorem opens_keyword {a : Char} (ha : keyword.opens a = true) : a ≠ 'e' := by
  rintro rfl
  revert ha
  decide

/-- The keyword does not open as `export` does. -/
theorem keyword_head? {text : List Char} {m : Match Char}
    (hm : first? Form.defaultFunction text = some m) : ((m.group? 1).getD []).head? ≠ some 'e' := by
  obtain ⟨skipped, -, -, hread, -⟩ := find?_text shiftable_defaultFunction.plain hm
  unfold Match.group?
  cases hgroup : m.after.group? 1 with
  | none => simp
  | some x =>
    obtain hnone | ⟨q, hq, st₁, st₂, hread, hone, hpass⟩ := hread.group?_of rfl hgroup
    · cases hnone
    · rw [held_keyword, List.mem_singleton] at hq
      subst hq
      obtain ⟨a, rest, htext, ha⟩ := hread.exists_cons hone hpass (by decide)
      simpa [htext] using opens_keyword ha

theorem head?_trimEndBy (p : Char → Bool) (cs : List Char) :
    (Text.trimEndBy p cs).head? = none ∨ (Text.trimEndBy p cs).head? = cs.head? := by
  have hpre : Text.trimEndBy p cs <+: cs := by
    have := List.reverse_prefix.mpr (List.dropWhile_suffix p (l := cs.reverse))
    rwa [List.reverse_reverse] at this
  obtain ⟨rest, hcs⟩ := hpre
  cases htrim : Text.trimEndBy p cs with
  | nil => exact .inl rfl
  | cons a trimmed =>
    right
    rw [← hcs, htrim]
    rfl

theorem head?_text_function {word opening : List Char} {name : Option (List Char)}
    (h : word.head? ≠ some 'e') : (functionNamed word name opening).text.head? ≠ some 'e' := by
  unfold text
  dsimp only
  obtain htrim | htrim := head?_trimEndBy Text.isBlank word
  · simp [htrim]
  · cases hword : word.head? with
    | none => simp [htrim, hword]
    | some a => simpa [htrim, hword] using h

theorem head?_append_word {w : String} {a b : Char} (rest : List Char)
    (hw : w.toList.head? = some a) (hne : a ≠ b) : (w.toList ++ rest).head? ≠ some b := by
  simpa [hw] using hne

/-- What stands for an export does not open as it does. -/
theorem head?_text {kind : Kind} (h : kind ∈ kinds) {source : List Char} {m : Match Char}
    (hm : first? kind.form source = some m) : (kind.read m).text.head? ≠ some 'e' := by
  simp only [kinds, List.mem_cons, List.not_mem_nil, or_false] at h
  obtain rfl | rfl | rfl | rfl | rfl := h
  · exact head?_text_function (keyword_head? hm)
  · unfold text
    rw [List.append_assoc]
    exact head?_append_word (w := "class ") (a := 'c') (b := 'e') _ (by decide) (by decide)
  · exact nofun
  · exact nofun
  · unfold text
    rw [List.append_assoc]
    exact head?_append_word (w := "const ") (a := 'c') (b := 'e') _ (by decide) (by decide)

end DefaultExport

/-! ## The first line -/

/-- A text up to its first line break. -/
def firstLine (cs : List Char) : List Char := cs.takeWhile (· != '\n')

theorem firstLine_append {line rest : List Char} (h : '\n' ∉ line) :
    firstLine (line ++ rest) = line ++ firstLine rest :=
  List.takeWhile_append_of_pos fun _ ha => bne_iff_ne.mpr fun heq => h (heq ▸ ha)

theorem firstLine_cons {a : Char} (ha : a ≠ '\n') : firstLine (a :: s) = a :: firstLine s :=
  List.takeWhile_cons_of_pos (p := (· != '\n')) (bne_iff_ne.mpr ha)

theorem firstLine_comment (hc : '\n' ∉ c) : firstLine (comment c ++ s) = '/' :: '/' :: c := by
  have hline : '\n' ∉ '/' :: '/' :: c := by simpa using hc
  rw [comment, List.append_assoc, firstLine_append hline]
  exact List.append_nil _

/-- A place in a line comment, other than a slash, stands in its text. -/
theorem exists_in_comment {skipped rest : List Char} (hc : '\n' ∉ c)
    (htext : comment c ++ s = skipped ++ rest) (hlength : skipped.length < (comment c).length)
    (hrest : rest.head? ≠ some '/') :
    ∃ line, '\n' ∉ line ∧ skipped = '/' :: '/' :: line ∧ c = line ++ firstLine rest := by
  have hskipped : '\n' ∉ skipped := fun hmem => by
    simpa [hc] using mem_skipped htext hlength hmem
  obtain _ | ⟨x, _ | ⟨y, line⟩⟩ := skipped
  · cases htext
    exact absurd rfl hrest
  · cases htext
    exact absurd rfl hrest
  · have hline := firstLine_comment (s := s) hc
    rw [htext, firstLine_append hskipped] at hline
    simp only [List.cons_append, List.cons.injEq] at hline
    obtain ⟨rfl, rfl, rfl⟩ := hline
    exact ⟨line, by simpa using hskipped, rfl, rfl⟩

/-- A text with line breaks is its first line and what follows. -/
theorem exists_line (h : '\n' ∈ s) : ∃ line rest, '\n' ∉ line ∧ s = line ++ '\n' :: rest := by
  induction s with
  | nil => cases h
  | cons a s ih =>
    by_cases ha : a = '\n'
    · exact ⟨[], s, List.not_mem_nil, by rw [ha, List.nil_append]⟩
    · obtain ⟨line, rest, hline, rfl⟩ := ih ((List.mem_cons.mp h).resolve_left (Ne.symm ha))
      exact ⟨a :: line, rest, by simpa [hline] using Ne.symm ha, rfl⟩

/-- Named exports are looked for behind a comment, so its line stays. -/
theorem firstLine_stripNamedExports (hbreak : '\n' ∈ s) :
    firstLine (stripNamedExports ('/' :: '/' :: s)) = firstLine ('/' :: '/' :: s) := by
  obtain ⟨line, rest, hline, rfl⟩ := exists_line hbreak
  have hcomment : '/' :: '/' :: (line ++ '\n' :: rest) = comment line ++ rest := by simp [comment]
  rw [hcomment, stripNamedExports_comment hline, firstLine_comment hline, firstLine_comment hline]

theorem lineBreaks_eq_nil (h : '\n' ∉ s) : lineBreaks s = [] :=
  List.filter_eq_nil_iff.mpr fun _ ha heq => h (beq_iff_eq.mp heq ▸ ha)

theorem lineBreaks_eq_cons (h : '\n' ∈ s) : ∃ rest, lineBreaks s = '\n' :: rest := by
  obtain ⟨line, rest, hline, rfl⟩ := exists_line h
  refine ⟨lineBreaks rest, ?_⟩
  rw [lineBreaks, List.filter_append, ← lineBreaks, lineBreaks_eq_nil hline]
  rfl

/-- Where a match is replaced by a text with another first letter, its line is another one. -/
theorem firstLine_splice_ne {text matched rest : List Char} {a : Char}
    (ha : a ≠ '\n') (htext : text.head? ≠ some a) :
    firstLine (text ++ lineBreaks (a :: matched) ++ rest) ≠ firstLine (a :: matched ++ rest) := by
  rw [List.cons_append, firstLine_cons ha]
  intro h
  cases text with
  | cons b text =>
    by_cases hb : b = '\n'
    · subst hb
      cases h
    · rw [List.cons_append, List.cons_append, firstLine_cons hb] at h
      obtain ⟨rfl, -⟩ := List.cons.inj h
      exact htext rfl
  | nil =>
    rw [lineBreaks, List.filter_cons_of_neg (by simpa using ha), ← lineBreaks,
      List.nil_append] at h
    by_cases hbreak : '\n' ∈ matched
    · obtain ⟨_, hbreaks⟩ := lineBreaks_eq_cons hbreak
      rw [hbreaks] at h
      cases h
    · rw [lineBreaks_eq_nil hbreak, List.nil_append, firstLine_append hbreak] at h
      have hlength := congrArg List.length h
      simp only [List.length_cons, List.length_append] at hlength
      omega

/-! ## Modules -/

theorem splice_comment (m : Match Char) (text : List Char) :
    splice (comment c ++ s) (m.behind (comment c)) text = comment c ++ splice s m text := by
  simp only [splice, Match.behind, State.behind, List.append_assoc]
  rw [Nat.add_comm, List.take_length_add_append, List.append_assoc]

/-- A default export that begins in the comment changes the comment's line. -/
theorem firstLine_rewritten_ne {kind : DefaultExport.Kind} (hkind : kind ∈ DefaultExport.kinds)
    {m : Match Char} (hm : first? kind.form (comment c ++ s) = some m)
    (hstart : m.start < (comment c).length) (hc : '\n' ∉ c) :
    firstLine (stripNamedExports (splice (comment c ++ s) m (kind.read m).text)) ≠
      '/' :: '/' :: c := by
  have hform := (DefaultExport.sound_of_mem hkind).shiftable
  obtain ⟨skipped, htext, hpos, hread, hpass⟩ := find?_text hform.plain hm
  rw [hpos] at hstart
  obtain ⟨a, matched, hmatched, ha⟩ := hread.exists_cons rfl hpass hform.covers
  obtain rfl := DefaultExport.eq_of_opens hkind ha
  obtain ⟨line, hline, rfl, hcut⟩ := exists_in_comment hc htext hstart (by simp [hmatched])
  have hspliced : splice (comment c ++ s) m (kind.read m).text =
      '/' :: '/' :: (line ++ ((kind.read m).text ++ lineBreaks m.text ++ m.after.rest)) := by
    rw [splice, htext, hpos, List.take_left]
    simp only [List.append_assoc, List.cons_append]
  have hbreak : '\n' ∈ (kind.read m).text ++ lineBreaks m.text ++ m.after.rest := by
    have hmem : '\n' ∈ '/' :: '/' :: line ++ (m.text ++ m.after.rest) := htext ▸ by simp [comment]
    have hmem : '\n' ∈ m.text ∨ '\n' ∈ m.after.rest := by simpa [hline] using hmem
    obtain hmem | hmem := hmem
    · exact List.mem_append_left _ (List.mem_append_right _ (by simpa [lineBreaks] using hmem))
    · exact List.mem_append_right _ hmem
  intro heq
  rw [hspliced, firstLine_stripNamedExports (List.mem_append_right line hbreak),
    firstLine_cons (by decide), firstLine_cons (by decide), firstLine_append hline, hcut] at heq
  have hlines := List.append_cancel_left (List.cons.inj (List.cons.inj heq).2).2
  rw [hmatched] at hlines
  exact firstLine_splice_ne (a := 'e') (by decide) (DefaultExport.head?_text hkind hm) hlines

theorem normalize_eq (source : String) :
    normalize source =
      (DefaultExport.findOf? (stripImportsList source.toList) DefaultExport.kinds).map fun (m, e) =>
        { body := String.ofList
            (stripNamedExports (splice (stripImportsList source.toList) m e.text))
          component := String.ofList e.component } := by
  rw [← DefaultExport.find?_eq]
  rfl

/-- No form of the default export begins in a comment without the word. -/
theorem not_beginsIn_of_not_infix {kind : DefaultExport.Kind} (hkind : kind ∈ DefaultExport.kinds)
    (hc : '\n' ∉ c) (hword : ¬ "export".toList <:+: c) : ¬ kind.form.BeginsIn (comment c) s := by
  rintro ⟨m, hm, hstart⟩
  obtain ⟨q, hq⟩ := DefaultExport.exists_form hkind
  obtain ⟨skipped, htext, hpos, hread, -⟩ :=
    find?_text (DefaultExport.sound_of_mem hkind).shiftable.plain hm
  rw [hpos] at hstart
  rw [hq] at hread
  cases hread with
  | seq hboundary hread =>
    unfold boundary at hboundary
    cases hboundary with
    | between =>
      cases hread with
      | seq hexport hread =>
        have hrest : m.text ++ m.after.rest = "export".toList ++ _ := reads_word hexport
        rw [hrest] at htext
        obtain ⟨line, -, -, hcut⟩ := exists_in_comment hc htext hstart (by simp)
        rw [firstLine_append (by decide), ← List.append_assoc] at hcut
        exact hword ⟨line, _, hcut.symm⟩

/-- If no form of the default export that is looked for begins in the comment, the comment is kept
and the module stays what it is. -/
theorem normalize_commented {c s : String} {m : ModuleBody} (hc : '\n' ∉ c.toList)
    (h : normalize s = some m)
    (hnot : ∀ form ∈ DefaultExport.searched (stripImportsList s.toList) DefaultExport.kinds,
      ¬ form.BeginsIn (comment c.toList) (stripImportsList s.toList)) :
    normalize (commented c s) =
      some { body := commented c m.body, component := m.component } := by
  rw [normalize_eq] at h
  obtain ⟨⟨m₀, e⟩, hfound, rfl⟩ := Option.map_eq_some_iff.mp h
  rw [normalize_eq, toList_commented, stripImportsList_comment hc,
    DefaultExport.findOf?_comment (fun _ => DefaultExport.sound_of_mem) hnot, hfound]
  simp only [Option.map_some, splice_comment, stripNamedExports_comment hc]
  refine congrArg some (ModuleBody.mk.injEq .. ▸ ⟨String.toList_inj.mp ?_, rfl⟩)
  rw [String.toList_ofList, toList_commented, String.toList_ofList]

/-- A comment without the word `export` is kept, and the module stays what it is. -/
theorem normalize_commented_of_not_infix {c s : String} {m : ModuleBody} (hc : '\n' ∉ c.toList)
    (hword : ¬ "export".toList <:+: c.toList) (h : normalize s = some m) :
    normalize (commented c s) =
      some { body := commented c m.body, component := m.component } := by
  refine normalize_commented hc h fun form hform => ?_
  obtain ⟨kind, hkind, rfl⟩ := DefaultExport.exists_of_mem_searched hform
  exact not_beginsIn_of_not_infix hkind hc hword

/-- What a module is, by where its default export stands and what it says. -/
theorem normalize_of_found (source : String) (start : Nat) (matched rest : List Char)
    (e : DefaultExport)
    (h : (DefaultExport.findOf? (stripImportsList source.toList) DefaultExport.kinds).map
      (fun (m, e) => (m.start, m.text, m.after.rest, e)) = some (start, matched, rest, e)) :
    normalize source = some
      { body := String.ofList (stripNamedExports
          ((stripImportsList source.toList).take start ++ e.text ++ lineBreaks matched ++ rest))
        component := String.ofList e.component } := by
  obtain ⟨⟨m, e'⟩, hfound, hm⟩ := Option.map_eq_some_iff.mp h
  simp only [Prod.mk.injEq] at hm
  obtain ⟨rfl, rfl, rfl, rfl⟩ := hm
  rw [normalize_eq, hfound]
  rfl

theorem normalize_name :
    normalize "export default App" = some { body := "", component := "App" } := by
  have hstrip : stripImportsList "export default App".toList = "export default App".toList := by
    cbv
  have hnamed : stripNamedExports [] = [] := by decide +kernel
  have hfound := normalize_of_found "export default App" 0 "export default App".toList []
    (.binding "App".toList) (by cbv)
  rw [hfound, hstrip]
  show some (ModuleBody.mk (String.ofList (stripNamedExports [])) (String.ofList "App".toList)) = _
  rw [hnamed]
  rfl

/-- **A line comment in front of a module.** The comment is kept, and the module stays what it is
with the same component, exactly if no form of the default export that is looked for begins in
the comment. -/
theorem normalize_commented_iff {c s : String} {m : ModuleBody} (hc : '\n' ∉ c.toList)
    (h : normalize s = some m) :
    normalize (commented c s) =
        some { body := commented c m.body, component := m.component } ↔
      ∀ form ∈ DefaultExport.searched (stripImportsList s.toList) DefaultExport.kinds,
        ¬ form.BeginsIn (comment c.toList) (stripImportsList s.toList) := by
  refine ⟨fun heq form hform hin => ?_, normalize_commented hc h⟩
  obtain ⟨kind, hkind, m', hm, hstart, hfound⟩ :=
    DefaultExport.findOf?_in_comment (fun _ => DefaultExport.sound_of_mem) hform hin
  rw [normalize_eq, toList_commented, stripImportsList_comment hc, hfound] at heq
  have hline := congrArg (fun m => m.map (firstLine ·.body.toList)) heq
  simp only [Option.map_some, String.toList_ofList, toList_commented, firstLine_comment hc,
    Option.some.injEq] at hline
  exact firstLine_rewritten_ne hkind hm hstart hc hline

theorem normalize_commented_iff_card :
    '\n' ∉ " a card".toList ∧
      normalize (commented " a card" "export default App") =
        some { body := commented " a card" "", component := "App" } := by
  refine ⟨by decide, (normalize_commented_iff (by decide) normalize_name).mpr fun form hform => ?_⟩
  obtain ⟨kind, hkind, rfl⟩ := DefaultExport.exists_of_mem_searched hform
  exact not_beginsIn_of_not_infix hkind (by decide) (by decide +kernel)

/-- An export in a comment is taken for the module's. -/
theorem normalize_name_commented :
    normalize (commented " export default Old" "export default App") =
      some { body := "// \nexport default App", component := "Old" } := by
  have hsource : (commented " export default Old" "export default App").toList =
      "// export default Old\nexport default App".toList := by decide
  have hstrip : stripImportsList "// export default Old\nexport default App".toList =
      "// export default Old\nexport default App".toList := by cbv
  have hnamed : stripNamedExports "// \nexport default App".toList =
      "// \nexport default App".toList := by cbv
  have hfound := normalize_of_found (commented " export default Old" "export default App") 3
    "export default Old".toList "\nexport default App".toList (.binding "Old".toList)
    (by rw [hsource]; cbv)
  rw [hfound, hsource, hstrip]
  show some (ModuleBody.mk (String.ofList (stripNamedExports "// \nexport default App".toList))
    (String.ofList "Old".toList)) = _
  rw [hnamed]
  rfl

/-- A comment is not always kept apart from the module. -/
theorem comment_not_inert :
    ¬ ∀ (s c : String) (m : ModuleBody), '\n' ∉ c.toList → normalize s = some m →
      normalize (commented c s) =
        some { body := commented c m.body, component := m.component } := by
  intro h
  have happ := h _ " export default Old" _ (by decide) normalize_name
  rw [normalize_name_commented] at happ
  have hcomponent := congrArg (Option.map ModuleBody.component) happ
  exact absurd hcomponent (by decide)

end Source
end Restyle
