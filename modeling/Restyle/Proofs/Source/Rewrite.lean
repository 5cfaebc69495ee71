import Restyle.Proofs.Source.AttributeText
import Restyle.Proofs.Source.StyleLiteral

/-!
# Restyle.Proofs.Source.Rewrite

Edits written into attribute text.

* `rewriteAttributes_found`, `rewriteAttributes_absent`: the first `style` is replaced or removed
  where it stands, or one is put last.
* `IsEntry`: an entry of a style object by its text, with its key.
* `rewriteAttributes_entries`: the attributes beside `style` stay as they are, and so do the entries
  that no edit is for.
-/

namespace Restyle
namespace Source

variable {lead trail text body : List Char} {es : List Entry} {edits : Styles} {key : Option String}
  {item : AttributeItem} {items earlier later : List AttributeItem}

/-! ## Items -/

/-- The `style` attribute as it is written. -/
def styleItem (lead : List Char) (es : List Entry) : AttributeItem :=
  { lead, text := styleAttribute es, name := some "style".toList,
    value := some (inBraces (literal es)) }

/-- No attribute for no entries. -/
def styled (lead : List Char) : List Entry → List AttributeItem
  | [] => []
  | e :: es => [styleItem lead (e :: es)]

/-- The entries of a `style` attribute. -/
def AttributeItem.entries (i : AttributeItem) : Except StyleFault (List Entry) :=
  (i.value.map parseStyleValue).getD (.ok [])

theorem isWritten_styleItem (hlead : IsSpaces lead) (h : ∀ e ∈ es, e.IsWritten) :
    (styleItem lead es).IsWritten := by
  have hname : IsAttributeName "style".toList := by decide
  unfold styleItem
  rw [styleAttribute_eq]
  exact .valued hlead hname isSign_equals (.expression (nested_literal h))

theorem entries_styleItem (h : ∀ e ∈ es, e.IsWritten) :
    (styleItem lead es).entries = .ok (es.map Entry.settled) := by
  simp [AttributeItem.entries, styleItem, parseStyleValue_literal h]

/-- The `style` attribute with other entries, if any, takes the place of the one before. -/
theorem IsAttributeList.styled (h : IsAttributeList (earlier ++ item :: later) trail)
    (hes : ∀ e ∈ es, e.IsWritten) :
    IsAttributeList (earlier ++ (styled item.lead es ++ later)) trail := by
  have hlead := (h.written item (by simp)).isSpaces_lead
  cases es with
  | nil => exact h.remove
  | cons e es => exact h.replace rfl (isWritten_styleItem hlead hes)

/-- The `style` attribute, if there are entries, is put last. -/
theorem IsAttributeList.styled_last (h : IsAttributeList items trail)
    (hes : ∀ e ∈ es, e.IsWritten) : IsAttributeList (items ++ Source.styled [' '] es) trail := by
  cases es with
  | nil => simpa [Source.styled] using h
  | cons e es => exact h.concat (by simp [styleItem]) (isWritten_styleItem (by simp [IsSpaces]; decide) hes)

/-! ## Rewriting -/

/-- A first `style` is replaced or removed where it stands. -/
theorem rewriteAttributes_found (h : IsAttributeList (earlier ++ item :: later) trail)
    (hearlier : ∀ i ∈ earlier, i.isStyle = false) (hitem : item.isStyle = true) :
    rewriteAttributes (AttributeItem.join (earlier ++ item :: later) ++ trail) edits =
      item.entries.map fun es =>
        AttributeItem.join (earlier ++ (styled item.lead (Entry.merge es edits) ++ later)) ++
          trail := by
  have hnot : ∀ i ∈ earlier, (!i.isStyle) = true := by simpa using hearlier
  have htake : (earlier ++ item :: later).takeWhile (!·.isStyle) = earlier := by
    rw [List.takeWhile_append_of_pos hnot]
    simp [hitem]
  have hdrop : (earlier ++ item :: later).dropWhile (!·.isStyle) = item :: later := by
    rw [List.dropWhile_append_of_pos hnot]
    simp [hitem]
  have hread : (item.value.map parseStyleValue).getD (.ok []) = item.entries := rfl
  simp only [rewriteAttributes, h.scan_join, hdrop, htake, hread]
  cases hentries : item.entries with
  | error fault => rfl
  | ok entries =>
    dsimp only [Except.map]
    cases hmerge : Entry.merge entries edits with
    | nil => simp [styled]
    | cons e es => simp [styled, styleItem]

/-- Where there is no `style`, one is put last. -/
theorem rewriteAttributes_absent (h : IsAttributeList items trail)
    (hnone : ∀ i ∈ items, i.isStyle = false) :
    rewriteAttributes (AttributeItem.join items ++ trail) edits =
      .ok (AttributeItem.join (items ++ styled [' '] (Entry.merge [] edits)) ++ trail) := by
  have hdrop : (items ++ []).dropWhile (!AttributeItem.isStyle ·) = [] :=
    List.dropWhile_append_of_pos (by simpa using hnone)
  rw [List.append_nil] at hdrop
  have htrim := h.trimEndBy_join (p := Text.isBlank) (fun _ => Text.isBlank_of_isSpace)
    fun _ => id
  simp only [rewriteAttributes, h.scan_join, hdrop]
  cases hmerge : Entry.merge [] edits with
  | nil => simp [styled]
  | cons e es => simp [styled, styleItem, htrim]

theorem isWritten_merge (h : ∀ e ∈ es, e.IsWritten) :
    ∀ e ∈ Entry.merge es edits, e.IsWritten := by
  intro e he
  rcases Entry.mem_merge he with he | ⟨p, v, -, -, rfl⟩
  · exact h e he
  · exact Entry.isWritten_edited p v

/-! ## Entries by their text -/

/-- What ends the key of an entry. -/
def endsKey (c : Char) : Bool := c == ':' || c == ','

/-- The text of an entry, with its key as it is written or, where that is a string, its value: an
entry has a key before a colon, is spread, or is the name of a variable. -/
inductive IsEntry : List Char → Option String → Prop where
  | keyed {key before after value : List Char} : IsPiece endsKey key → IsBlanks before →
      IsBlanks after → IsPiece (· == ',') value →
      IsEntry (key ++ (before ++ ':' :: (after ++ value)))
        (some ((unquote? key).getD (String.ofList key)))
  | spread {cs : List Char} : IsPiece (· == ',') ("...".toList ++ cs) →
      IsEntry ("...".toList ++ cs) none
  | shorthand {name : List Char} : IsPiece endsKey name → IsEntry name none

/-- Is there an edit for the key? -/
def isEdited (edits : Styles) (key : Option String) : Bool :=
  edits.toList.any fun (p, _) => key == some p.key || key == some p.name

theorem IsPiece.mono {stop stop' : Char → Bool} (h : IsPiece stop text)
    (hstop : ∀ c, stop' c = true → stop c = true) : IsPiece stop' text :=
  ⟨h.nested.mono hstop, h.trimmed, h.ne_nil⟩

theorem comma_endsKey (c : Char) (h : (c == ',') = true) : endsKey c = true := by
  simp [endsKey, h]

theorem colon_endsKey (c : Char) (h : (c == ':') = true) : endsKey c = true := by
  simp [endsKey, h]

namespace IsEntry

theorem isPiece (h : IsEntry text key) : IsPiece (· == ',') text := by
  cases h with
  | @keyed key before after value hkey hbefore hafter hvalue =>
    obtain ⟨c, -, hc, hblank, -⟩ := hkey.ends
    obtain ⟨-, d, -, -, hd, hblank'⟩ := hvalue.ends
    obtain ⟨key', rfl⟩ := List.head?_eq_some_iff.mp hc
    refine ⟨?_, ?_, by simp⟩
    · have hcolon : Nested (· == ',') [':'] := by decide
      exact (hkey.nested.mono comma_endsKey).append ((nested_of_isBlanks hbefore).append
        (hcolon.append ((nested_of_isBlanks hafter).append hvalue.nested)))
    · exact trimmed_of_ends hblank (by simp [List.getLast?_append, List.getLast?_cons, hd]) hblank'
  | spread hpiece => exact hpiece
  | shorthand hname => exact hname.mono comma_endsKey

/-- Which edits an entry is for is seen from its key. -/
def Shows (key : Option String) (e : Entry) : Prop :=
  ∀ p, e.isFor p = (key == some p.key || key == some p.name)

/-- A text that begins with a dot has no key that an edit could be for. -/
theorem parse_dot (cs : List Char) : ∃ e, Entry.parse ('.' :: cs) = .ok e ∧ Shows none e := by
  obtain ⟨piece, pieces, hsplit⟩ : ∃ piece pieces,
      splitPieces ':' {} ('.' :: cs) = ('.' :: piece) :: pieces := by
    rw [splitPieces_cons_of_not (by decide)]
    cases splitPieces ':' (Nesting.bracket {} '.') cs with
    | nil => exact ⟨_, _, rfl⟩
    | cons piece pieces => exact ⟨_, _, rfl⟩
  obtain ⟨ds, hkey⟩ := trimmed_cons (c := '.') (by decide) piece
  have hunquote : unquote? ('.' :: ds) = none := rfl
  have hshows : ∀ e : Entry, e.key? = some (String.ofList ('.' :: ds)) → Shows none e := by
    intro e he p
    have hdot : p.key.toList.head? ≠ some '.' ∧ p.name.toList.head? ≠ some '.' := by
      cases p <;> decide
    show e.isFor p = false
    rw [Bool.eq_false_iff]
    intro hfor
    rw [Entry.isFor_iff, he] at hfor
    rcases hfor with h | h
    · exact hdot.1 (by rw [← Option.some.inj h]; simp)
    · exact hdot.2 (by rw [← Option.some.inj h]; simp)
  have hne : (String.ofList ('.' :: ds)).isEmpty = false := by simp
  unfold Entry.parse
  rw [hsplit]
  cases pieces with
  | nil => exact ⟨_, rfl, fun p => rfl⟩
  | cons piece' pieces =>
    simp only [hkey, hunquote, Option.getD_none, hne]
    split
    · contradiction
    · split
      · exact ⟨_, rfl, hshows _ rfl⟩
      · exact ⟨_, rfl, hshows _ rfl⟩

/-- An entry is read, unless its key is empty. -/
theorem parse (h : IsEntry text key) :
    (key = some "" → Entry.parse text = .error .emptyKey) ∧
      (key ≠ some "" → ∃ e, Entry.parse text = .ok e ∧ Shows key e) := by
  cases h with
  | @keyed key before after value hkey hbefore hafter hvalue =>
    have hnested : Nested (· == ':') (key ++ before) := by
      refine (hkey.nested.mono colon_endsKey).append (.of_forall fun c hc => ?_)
      have hblank := hbefore c hc
      refine ⟨isInert_of_isBlank hblank, ?_⟩
      rw [beq_eq_false_iff_ne]
      rintro rfl
      exact absurd hblank (by decide)
    have hparse := Entry.parse_keyed hnested (after ++ value)
    rw [trimmed_append_right hbefore, hkey.trimmed, List.append_assoc] at hparse
    dsimp only at hparse
    rw [hparse]
    generalize (unquote? key).getD (String.ofList key) = k
    constructor
    · rintro ⟨⟩
      rfl
    · intro hk
      rw [if_neg (by simpa using hk)]
      split
      · exact ⟨_, rfl, fun p => rfl⟩
      · exact ⟨_, rfl, fun p => rfl⟩
  | spread => exact ⟨nofun, fun _ => parse_dot _⟩
  | shorthand hname =>
    exact ⟨nofun, fun _ => ⟨_, Entry.parse_plain (hname.nested.mono colon_endsKey), fun p => rfl⟩⟩

/-- Entries are read, unless one has an empty key; those without an edit are seen from the keys. -/
theorem mapM_parse {forms : List (List Char × Option String)}
    (h : ∀ f ∈ forms, IsEntry f.1 f.2) (edits : Styles) :
    ((∃ f ∈ forms, f.2 = some "") → (forms.map (·.1)).mapM Entry.parse = .error .emptyKey) ∧
      ((∀ f ∈ forms, f.2 ≠ some "") → ∃ es, (forms.map (·.1)).mapM Entry.parse = .ok es ∧
        (es.filter (Entry.isUntouched edits)).map (·.text.toList) =
          (forms.filter (!isEdited edits ·.2)).map (·.1)) := by
  induction forms with
  | nil => exact ⟨by simp, fun _ => ⟨[], rfl, rfl⟩⟩
  | cons f forms ih =>
    obtain ⟨hf, hforms⟩ := List.forall_mem_cons.mp h
    obtain ⟨herror, hok⟩ := ih hforms
    obtain ⟨hempty, hread⟩ := hf.parse
    rw [List.map_cons, List.mapM_cons]
    constructor
    · intro hex
      cases hparse : Entry.parse f.1 with
      | error fault => rw [Entry.eq_emptyKey_of_parse hparse]; rfl
      | ok e =>
        have hne : f.2 ≠ some "" := by
          intro hkey
          rw [hempty hkey] at hparse
          cases hparse
        have hrest : ∃ f ∈ forms, f.2 = some "" := by
          obtain ⟨g, hg, hkey⟩ := hex
          rcases List.mem_cons.mp hg with rfl | hg
          · exact absurd hkey hne
          · exact ⟨g, hg, hkey⟩
        rw [herror hrest]
        rfl
    · intro hall
      obtain ⟨hkey, hkeys⟩ := List.forall_mem_cons.mp hall
      obtain ⟨e, hparse, hshows⟩ := hread hkey
      obtain ⟨es, hes, hfilter⟩ := hok hkeys
      refine ⟨e :: es, by rw [hparse, hes]; rfl, ?_⟩
      have htext : e.text.toList = f.1 := by simp [(Entry.text_of_parse hparse).1]
      have hsame : e.isUntouched edits = !isEdited edits f.2 := by
        unfold Entry.isUntouched isEdited
        rw [← List.not_any_eq_all_not]
        simp only [hshows _]
      rw [List.filter_cons, List.filter_cons, ← hsame]
      split
      · rw [List.map_cons, List.map_cons, hfilter, htext]
      · exact hfilter

end IsEntry

/-! ## What rewriting keeps -/

/-- Where the `style` attribute of a list stands or will stand: the items before it, the white space
before it and the items after it; and its entries. -/
inductive StyleAt : List AttributeItem → List AttributeItem → List Char → List AttributeItem →
    List (List Char × Option String) → Prop where
  | found {earlier later : List AttributeItem} {item : AttributeItem}
      {front back body : List Char} {forms : List (List Char × Option String)} :
      (∀ i ∈ earlier, i.isStyle = false) → item.isStyle = true →
      item.value = some (inBraces (front ++ (inBraces body ++ back))) → IsBlanks front →
      IsBlanks back → Lists body (forms.map (·.1)) → (∀ f ∈ forms, IsEntry f.1 f.2) →
      StyleAt (earlier ++ item :: later) earlier item.lead later forms
  | absent {items : List AttributeItem} : (∀ i ∈ items, i.isStyle = false) →
      StyleAt items items [' '] [] []

theorem styled_map_settled : styled lead (es.map Entry.settled) = styled lead es := by
  cases es with
  | nil => rfl
  | cons e es => simp [styled, styleItem, styleAttribute, literal, Function.comp_def]

/-- Entries are read from the attribute they are written to. -/
theorem entries_of_mem_styled {i : AttributeItem} (h : ∀ e ∈ es, e.IsWritten)
    (hi : i ∈ styled lead es) : i.entries = .ok (es.map Entry.settled) := by
  cases es with
  | nil => cases hi
  | cons e es =>
    rw [List.mem_singleton.mp hi]
    exact entries_styleItem h

/-- Rewriting is merging, where entries can be read. -/
theorem rewriteAttributes_styleAt {forms : List (List Char × Option String)}
    (h : IsAttributeList items trail) (hat : StyleAt items earlier lead later forms)
    (edits : Styles) :
    rewriteAttributes (AttributeItem.join items ++ trail) edits =
      (((forms.map (·.1)).mapM Entry.parse).map fun es =>
        AttributeItem.join (earlier ++ (styled lead (Entry.merge es edits) ++ later)) ++ trail) ∧
    (∀ f ∈ forms, IsEntry f.1 f.2) ∧
    ∀ es : List Entry, (∀ e ∈ es, e.IsWritten) →
      IsAttributeList (earlier ++ (styled lead es ++ later)) trail := by
  cases hat with
  | @found earlier later item front back body forms hearlier hitem hvalue hfront hback hbody hforms =>
    refine ⟨?_, hforms, fun es hes => h.styled hes⟩
    have hentries : item.entries = (forms.map (·.1)).mapM Entry.parse := by
      rw [AttributeItem.entries, hvalue, Option.map_some, Option.getD_some,
        parseStyleValue_inBraces hfront hback, hbody.split]
    rw [rewriteAttributes_found h hearlier hitem, hentries]
  | absent hnone =>
    refine ⟨?_, by simp, fun es hes => by simpa using h.styled_last hes⟩
    rw [rewriteAttributes_absent h hnone]
    simp only [List.append_nil]
    rfl

/-- **Rewriting attributes** fails where an entry has the empty key. Otherwise the attributes beside
`style` are there again as they were. That one is gone if no entry is left, and else has the entries
that no edit is for, as they were, and one entry for each edit that is not empty. -/
theorem rewriteAttributes_entries {forms : List (List Char × Option String)}
    (h : IsAttributeList items trail) (hat : StyleAt items earlier lead later forms)
    (edits : Styles) :
    ((∃ f ∈ forms, f.2 = some "") →
      rewriteAttributes (AttributeItem.join items ++ trail) edits = .error .emptyKey) ∧
    ((∀ f ∈ forms, f.2 ≠ some "") → ∃ out es,
      rewriteAttributes (AttributeItem.join items ++ trail) edits = .ok out ∧
      scan out = (earlier ++ (styled lead es ++ later), trail) ∧
      (∀ i ∈ styled lead es, i.isStyle = true ∧ i.entries = .ok es) ∧
      (es.filter (Entry.isUntouched edits)).map (·.text.toList) =
        (forms.filter (!isEdited edits ·.2)).map (·.1) ∧
      ∀ p v, (p, v) ∈ edits.toList →
        es.filter (·.isFor p) =
          if v.isEmpty then [] else [.quoted p.key v (some (Entry.edited p v).text)]) := by
  obtain ⟨hrewrite, hforms, hlist⟩ := rewriteAttributes_styleAt h hat edits
  obtain ⟨hempty, hread⟩ := IsEntry.mapM_parse hforms edits
  refine ⟨fun hex => by rw [hrewrite, hempty hex]; rfl, fun hkeys => ?_⟩
  obtain ⟨old, hold, huntouched⟩ := hread hkeys
  have hwritten : ∀ e ∈ Entry.merge old edits, e.IsWritten := by
    refine isWritten_merge fun e he => ?_
    obtain ⟨htexts, hparse⟩ := Entry.of_mapM_parse hold
    obtain ⟨hsettled, hparse⟩ := hparse e he
    have htext := List.mem_map_of_mem (f := (·.text.toList)) he
    rw [htexts, List.mem_map] at htext
    obtain ⟨f, hf, htext⟩ := htext
    exact ⟨htext ▸ (hforms f hf).isPiece, by rw [hparse, hsettled]⟩
  refine ⟨_, (Entry.merge old edits).map Entry.settled, by rw [hrewrite, hold]; rfl, ?_, ?_, ?_, ?_⟩
  · rw [styled_map_settled]
    exact (hlist _ hwritten).scan_join
  · rw [styled_map_settled]
    intro i hi
    refine ⟨?_, entries_of_mem_styled hwritten hi⟩
    cases hmerge : Entry.merge old edits with
    | nil => rw [hmerge] at hi; cases hi
    | cons e es =>
      rw [hmerge] at hi
      rw [List.mem_singleton.mp hi]
      rfl
  · have hfilter : ((Entry.merge old edits).map Entry.settled).filter (Entry.isUntouched edits) =
        ((Entry.merge old edits).filter (Entry.isUntouched edits)).map Entry.settled := by
      rw [List.filter_map]
      congr 2
      funext e
      simp [Entry.isUntouched]
    rw [hfilter, Entry.filter_untouched_merge, List.map_map, ← huntouched]
    simp [Function.comp_def]
  · intro p v hpv
    rw [Entry.filter_map_settled, Entry.filter_isFor_merge hpv]
    split <;> rfl

/-- Two entries go, one is put where the first of them stood, and the attributes around stay. -/
theorem rewriteAttributes_entries_mixed :
    let before : AttributeItem :=
      { lead := [' '], text := "a=\"x\"".toList, name := some ['a'], value := some "\"x\"".toList }
    let after : AttributeItem :=
      { lead := ['\n'], text := "\x7b...e\x7d".toList, name := some []
        value := some "\x7b...e\x7d".toList }
    let attributes := (" a=\"x\" style=\x7b\x7b padding: 'a,b', ...c ? [] : d, " ++
      "\"margin\": [1, 2], color \x7d\x7d\n\x7b...e\x7d ").toList
    let edits : Styles := { padding := some "2px", margin := some "" }
    ∃ out es, rewriteAttributes attributes edits = .ok out ∧
      scan out = ([before] ++ (styled [' '] es ++ [after]), [' ']) ∧
      (es.filter (Entry.isUntouched edits)).map (·.text.toList) =
        ["...c ? [] : d".toList, "color".toList] ∧
      es.filter (·.isFor .padding) = [.quoted "padding" "2px" (some "padding: \"2px\"")] ∧
      es.filter (·.isFor .margin) = [] := by
  intro before after attributes edits
  let first := "padding: 'a,b'".toList
  let second := "...c ? [] : d".toList
  let third := "\"margin\": [1, 2]".toList
  let fourth := "color".toList
  let forms : List (List Char × Option String) :=
    [(first, some "padding"), (second, none), (third, some "margin"), (fourth, none)]
  let body := " padding: 'a,b', ...c ? [] : d, \"margin\": [1, 2], color ".toList
  let style : AttributeItem :=
    { lead := [' '], text := "style".toList ++ (['='] ++ inBraces ([] ++ (inBraces body ++ [])))
      name := some "style".toList, value := some (inBraces ([] ++ (inBraces body ++ []))) }
  have hname : IsAttributeName ['a'] ∧ IsAttributeName "style".toList := by decide
  have hspace : IsSpaces [' '] := by decide
  have hlist : IsAttributeList ([before] ++ style :: [after]) [' '] := by
    refine ⟨fun i hi => ?_, by decide, hspace⟩
    simp only [List.singleton_append, List.mem_cons, List.not_mem_nil, or_false] at hi
    rcases hi with rfl | rfl | rfl
    · have hvalue : IsAttributeValue ('"' :: (['x'] ++ ['"'])) := .string (.inl rfl) (by decide)
      exact .valued hspace hname.1 isSign_equals hvalue
    · exact .valued hspace hname.2 isSign_equals (.expression (by decide))
    · have hspread : Nested anywhere "...e".toList := by decide
      exact .spread (by decide) hspread
  have hpiece : ∀ {stop : Char → Bool} {t : List Char}, Nested stop t → trimmed t = t → t ≠ [] →
      IsPiece stop t := fun h h' h'' => ⟨h, h', h''⟩
  have hblank : IsBlanks [' '] := by decide
  have hnil : IsBlanks [] := by decide
  have hforms : ∀ f ∈ forms, IsEntry f.1 f.2 := by
    intro f hf
    simp only [forms, List.mem_cons, List.not_mem_nil, or_false] at hf
    rcases hf with rfl | rfl | rfl | rfl
    · have hkey : IsPiece endsKey "padding".toList := hpiece (by decide) (by decide) (by decide)
      have hvalue : IsPiece (· == ',') "'a,b'".toList := hpiece (by decide) (by decide) (by decide)
      exact .keyed hkey hnil hblank hvalue
    · have hspread : IsPiece (· == ',') ("...".toList ++ "c ? [] : d".toList) :=
        hpiece (by decide) (by decide) (by decide)
      exact .spread hspread
    · have hkey : IsPiece endsKey "\"margin\"".toList := hpiece (by decide) (by decide) (by decide)
      have hvalue : IsPiece (· == ',') "[1, 2]".toList := hpiece (by decide) (by decide) (by decide)
      exact .keyed hkey hnil hblank hvalue
    · exact .shorthand (hpiece (by decide) (by decide) (by decide))
  have hbody : Lists body (forms.map (·.1)) := by
    have hlisted : ∀ f ∈ forms, IsPiece (· == ',') f.1 := fun f hf => (hforms f hf).isPiece
    exact .cons hblank hnil (hlisted (first, some "padding") (by simp [forms]))
      (.cons hblank hnil (hlisted (second, none) (by simp [forms]))
        (.cons hblank hnil (hlisted (third, some "margin") (by simp [forms]))
          (.last hblank hblank (hlisted (fourth, none) (by simp [forms])))))
  have hat : StyleAt ([before] ++ style :: [after]) [before] [' '] [after] forms :=
    .found (by decide) (by decide) rfl hnil hnil hbody hforms
  obtain ⟨out, es, hout, hscan, -, huntouched, hedits⟩ :=
    (rewriteAttributes_entries hlist hat edits).2 (by decide)
  exact ⟨out, es, hout, hscan, huntouched, hedits .padding "2px" (.head _),
    hedits .margin "" (.tail _ (.head _))⟩

/-- A text is not rewritten where an entry of its style object has the empty key. -/
theorem emptyKey_not_rewritten :
    ¬ ∀ (items : List AttributeItem) (trail : List Char) (earlier : List AttributeItem)
        (lead : List Char) (later : List AttributeItem)
        (forms : List (List Char × Option String)) (edits : Styles),
      IsAttributeList items trail → StyleAt items earlier lead later forms →
      ∃ out, rewriteAttributes (AttributeItem.join items ++ trail) edits = .ok out := by
  intro hclaim
  let style : AttributeItem :=
    { lead := [' '], text := "style".toList ++ (['='] ++ inBraces (inBraces " \"\": 1 ".toList))
      name := some "style".toList, value := some (inBraces (inBraces " \"\": 1 ".toList)) }
  have hname : IsAttributeName "style".toList := by decide
  have hspace : IsSpaces [' '] := by decide
  have hlist : IsAttributeList [style] [] := by
    refine ⟨fun i hi => ?_, by decide, by simp [IsSpaces]⟩
    rw [List.mem_singleton.mp hi]
    exact .valued hspace hname isSign_equals (.expression (by decide))
  have hblank : IsBlanks [' '] := by decide
  have hnil : IsBlanks [] := by decide
  have hkey : IsPiece endsKey "\"\"".toList := ⟨by decide, by decide, by decide⟩
  have hvalue : IsPiece (· == ',') ['1'] := ⟨by decide, by decide, by decide⟩
  have hentry : IsEntry "\"\": 1".toList (some "") := .keyed hkey hnil hblank hvalue
  have hat : StyleAt ([] ++ style :: []) [] [' '] [] [("\"\": 1".toList, some "")] :=
    .found (by simp) (by decide) rfl hnil hnil (.last hblank hblank hentry.isPiece)
      (by simpa using hentry)
  obtain ⟨out, hout⟩ := hclaim [style] [] [] [' '] [] _ { padding := some "2px" } hlist hat
  have hfault : (rewriteAttributes (AttributeItem.join [style] ++ [])
      { padding := some "2px" }).toOption = none := by decide +kernel
  rw [hout] at hfault
  cases hfault

end Source
end Restyle
