import Restyle.Proofs.Source.Nested
import Restyle.Proofs.Source.StaticMarkup

/-!
# Restyle.Proofs.Source.AttributeText

Attribute text as it may be written: names, names with strings or brace groups for values, and
spreads, with white space between them.

* `IsAttributeList`: the items of such a text and the white space after them.
* `IsAttributeList.scan_join`: cutting the text gives the items back.
* `IsAttributeList.siteOf?_join`: in a tag it ends where the tag does.
-/

namespace Restyle
namespace Source

variable {name sign value lead rest tail trail cs : List Char} {c : Char} {i : AttributeItem}
  {items later : List AttributeItem}

/-! ## Syntax -/

/-- Names of attributes. -/
structure IsAttributeName (name : List Char) : Prop extends IsPlainName name where
  noBlank : ∀ c ∈ name, Text.isBlank c = false

instance (name : List Char) : Decidable (IsAttributeName name) :=
  decidable_of_iff (name ≠ [] ∧ name.all fun c => isPlainChar c && !Text.isBlank c) <| by
    simp only [List.all_eq_true, Bool.and_eq_true, Bool.not_eq_true']
    exact ⟨fun ⟨hne, h⟩ => ⟨⟨hne, fun c hc => (h c hc).1⟩, fun c hc => (h c hc).2⟩,
      fun h => ⟨h.ne_nil, fun c hc => ⟨h.plain c hc, h.noBlank c hc⟩⟩⟩

/-- An equals sign, with white space around it or without. -/
def IsSign (sign : List Char) : Prop :=
  ∃ front back, IsSpaces front ∧ IsSpaces back ∧ sign = front ++ '=' :: back

theorem isSign_equals : IsSign ['='] := ⟨[], [], by decide, by decide, rfl⟩

inductive IsAttributeValue : List Char → Prop where
  | string {mark : Char} {cs : List Char} : mark = '"' ∨ mark = '\'' → mark ∉ cs →
      IsAttributeValue (mark :: (cs ++ [mark]))
  | expression {cs : List Char} : Nested anywhere cs → IsAttributeValue (inBraces cs)

/-- An item as it may be written. -/
inductive AttributeItem.IsWritten : AttributeItem → Prop where
  | bare {lead name : List Char} : IsSpaces lead → IsAttributeName name →
      IsWritten { lead, text := name, name := some name }
  | valued {lead name sign value : List Char} : IsSpaces lead → IsAttributeName name →
      IsSign sign → IsAttributeValue value →
      IsWritten { lead, text := name ++ (sign ++ value), name := some name, value := some value }
  | spread {lead cs : List Char} : IsSpaces lead → Nested anywhere cs →
      IsWritten { lead, text := inBraces cs, name := some [], value := some (inBraces cs) }

/-- Items one after the other, with white space before each but the first and at the end. -/
structure IsAttributeList (items : List AttributeItem) (trail : List Char) : Prop where
  written : ∀ i ∈ items, i.IsWritten
  separated : ∀ i ∈ items.tail, i.lead ≠ []
  trail : IsSpaces trail

theorem AttributeItem.IsWritten.isSpaces_lead (h : i.IsWritten) : IsSpaces i.lead := by
  cases h <;> assumption

namespace AttributeItem

@[simp] theorem join_nil : join [] = [] := rfl

@[simp] theorem join_cons (i : AttributeItem) (items : List AttributeItem) :
    join (i :: items) = i.lead ++ (i.text ++ join items) := by
  simp [join]

@[simp] theorem join_append (items later : List AttributeItem) :
    join (items ++ later) = join items ++ join later := by
  simp [join]

end AttributeItem

/-! ## What may follow an item -/

/-- The text does not go on with the item before it. -/
structure IsApart (tail : List Char) : Prop where
  space : ∀ c, tail.head? = some c → Text.isSpace c = true
  noSign : (tail.dropWhile Text.isSpace).head? ≠ some '='

theorem takeWhile_append_of_head {p : Char → Bool} (h : ∀ c ∈ cs, p c = true)
    (htail : ∀ c, tail.head? = some c → p c = false) : (cs ++ tail).takeWhile p = cs := by
  rw [List.takeWhile_append_of_pos h]
  cases tail with
  | nil => simp
  | cons d tail => simp [htail d rfl]

theorem dropWhile_append_of_head {p : Char → Bool} (h : ∀ c ∈ cs, p c = true)
    (htail : ∀ c, tail.head? = some c → p c = false) : (cs ++ tail).dropWhile p = tail := by
  rw [List.dropWhile_append_of_pos h]
  cases tail with
  | nil => rfl
  | cons d tail => simp [htail d rfl]

theorem isAttributeNameChar_of_isPlainChar (h : isPlainChar c = true) :
    isAttributeNameChar c = true := by
  simp only [isPlainChar, List.contains_cons, Bool.not_eq_true', Bool.or_eq_false_iff] at h
  obtain ⟨hspace, -, hgt, hslash, hsign, -⟩ := h
  simp [isAttributeNameChar, hspace, hgt, hslash, hsign]

theorem isAttributeNameChar_of_isSpace (h : Text.isSpace c = true) :
    isAttributeNameChar c = false := by
  simp [isAttributeNameChar, h]

/-- A sign begins with no character of a name. -/
theorem head?_sign (h : IsSign sign) :
    ∀ c, (sign ++ rest).head? = some c → isAttributeNameChar c = false := by
  obtain ⟨front, back, hfront, -, rfl⟩ := h
  cases front with
  | nil => rintro c ⟨⟩; decide
  | cons d front =>
    rintro c ⟨⟩
    exact isAttributeNameChar_of_isSpace (hfront _ (List.mem_cons_self ..))

/-! ## Cutting one item -/

theorem head?_value (h : IsAttributeValue value) (rest : List Char) :
    ∀ c, (value ++ rest).head? = some c → Text.isSpace c = false := by
  cases h with
  | string hmark => rcases hmark with rfl | rfl <;> rintro c ⟨⟩ <;> decide
  | expression => rintro c ⟨⟩; decide

theorem cutValue_append (h : IsAttributeValue value) : cutValue (value ++ tail) = (value, tail) := by
  cases h with
  | @string mark cs hmark hcs =>
    have hall : ∀ c ∈ cs, (c != mark) = true := fun c hc => by
      rw [bne_iff_ne]
      exact fun h => hcs (h ▸ hc)
    have htake : (cs ++ mark :: tail).takeWhile (· != mark) = cs :=
      takeWhile_append_of_head hall (by simp)
    have hdrop : (cs ++ mark :: tail).dropWhile (· != mark) = mark :: tail :=
      dropWhile_append_of_head hall (by simp)
    have hcut : cutQuoted mark (cs ++ mark :: tail) = (mark :: (cs ++ [mark]), tail) := by
      simp only [cutQuoted, hdrop, htake, List.cons_append]
    rw [List.cons_append, List.append_assoc, List.singleton_append, cutValue, hcut]
    rcases hmark with rfl | rfl <;> rfl
  | expression hcs =>
    have hcut := cutBraced_nested hcs tail
    rw [inBraces, List.cons_append] at hcut ⊢
    rw [cutValue, if_pos (by rfl), hcut]

theorem cutNamed_valued (hsign : IsSign sign) (hvalue : IsAttributeValue value) :
    cutNamed lead name (sign ++ (value ++ tail)) =
      ({ lead, text := name ++ (sign ++ value), name := some name, value := some value }, tail) := by
  obtain ⟨front, back, hfront, hback, rfl⟩ := hsign
  have hequals : ∀ c, ('=' :: (back ++ (value ++ tail))).head? = some c →
      Text.isSpace c = false := by
    rintro c ⟨⟩; decide
  have htake := takeWhile_append_of_head hfront hequals
  have hdrop := dropWhile_append_of_head hfront hequals
  have htake' := takeWhile_append_of_head hback (head?_value hvalue tail)
  have hdrop' := dropWhile_append_of_head hback (head?_value hvalue tail)
  simp only [cutNamed, List.append_assoc, List.cons_append, htake, hdrop, htake', hdrop',
    cutValue_append hvalue]

theorem cutNamed_bare (h : IsApart tail) :
    cutNamed lead name tail = ({ lead, text := name, name := some name }, tail) := by
  unfold cutNamed
  split
  · rename_i after hsign
    exact absurd (by rw [hsign]; rfl) h.noSign
  · rfl

theorem cutItem_name (h : IsAttributeName (c :: cs))
    (htail : ∀ d, tail.head? = some d → isAttributeNameChar d = false) :
    cutItem lead c (cs ++ tail) = cutNamed lead (c :: cs) tail := by
  have hall := fun d hd => isAttributeNameChar_of_isPlainChar (h.plain d hd)
  obtain ⟨hc, hcs⟩ := List.forall_mem_cons.mp hall
  have hbrace : c ≠ '{' := by
    rintro rfl
    exact absurd (h.plain _ (List.mem_cons_self ..)) (by decide)
  rw [cutItem, if_neg (by simpa using hbrace), if_pos hc, takeWhile_append_of_head hcs htail,
    dropWhile_append_of_head hcs htail]

theorem isSpace_of_isPlainChar (h : isPlainChar c = true) : Text.isSpace c = false := by
  simp only [isPlainChar, Bool.not_eq_true', Bool.or_eq_false_iff] at h
  exact h.1

/-- A written item is cut where it ends. -/
theorem AttributeItem.IsWritten.cutItem (h : i.IsWritten) :
    ∃ c cs, i.text = c :: cs ∧ Text.isSpace c = false ∧ c ≠ '=' ∧
      ∀ tail, IsApart tail → Source.cutItem i.lead c (cs ++ tail) = (i, tail) := by
  have hfirst : ∀ {name : List Char}, IsAttributeName name →
      ∃ c cs, name = c :: cs ∧ Text.isSpace c = false ∧ c ≠ '=' := by
    intro name hname
    obtain ⟨c, cs, rfl⟩ := List.exists_cons_of_ne_nil hname.ne_nil
    have hc := hname.plain c (List.mem_cons_self ..)
    exact ⟨c, cs, rfl, isSpace_of_isPlainChar hc, by rintro rfl; exact absurd hc (by decide)⟩
  cases h with
  | bare hlead hname =>
    obtain ⟨c, cs, rfl, hspace, hsign⟩ := hfirst hname
    refine ⟨c, cs, rfl, hspace, hsign, fun tail htail => ?_⟩
    rw [cutItem_name hname fun d hd => isAttributeNameChar_of_isSpace (htail.space d hd),
      cutNamed_bare htail]
  | @valued lead name sign value hlead hname hsign hvalue =>
    obtain ⟨c, cs, rfl, hspace, hne⟩ := hfirst hname
    refine ⟨c, cs ++ (sign ++ value), rfl, hspace, hne, fun tail _ => ?_⟩
    rw [List.append_assoc, List.append_assoc, cutItem_name hname (head?_sign hsign),
      cutNamed_valued hsign hvalue]
  | @spread lead cs hlead hcs =>
    refine ⟨'{', cs ++ ['}'], rfl, by decide, by decide, fun tail _ => ?_⟩
    have hcut := cutBraced_nested hcs tail
    rw [inBraces, List.cons_append] at hcut
    simp only [Source.cutItem, beq_self_eq_true, if_true, hcut, inBraces]

/-! ## Cutting all items -/

theorem scan_of_isSpaces (h : IsSpaces cs) : scan cs = ([], cs) := by
  have hdrop : (cs ++ []).dropWhile Text.isSpace = [] := List.dropWhile_append_of_pos h
  rw [List.append_nil] at hdrop
  rw [scan]
  split
  · rfl
  · rename_i hcons
    rw [hdrop] at hcons
    cases hcons

theorem scan_cons (hlead : IsSpaces lead) (hc : Text.isSpace c = false)
    (hcut : cutItem lead c rest = (i, tail)) :
    scan (lead ++ c :: rest) = (i :: (scan tail).1, (scan tail).2) := by
  have hhead : ∀ d, (c :: rest).head? = some d → Text.isSpace d = false := by
    rintro d ⟨⟩; exact hc
  have hdrop := dropWhile_append_of_head hlead hhead
  rw [scan]
  split
  · rename_i hnil
    rw [hdrop] at hnil
    cases hnil
  · rename_i d rest' hcons
    rw [hdrop] at hcons
    cases hcons
    split
    rename_i item after hitem
    rw [takeWhile_append_of_head hlead hhead, hcut] at hitem
    cases hitem
    rfl

namespace IsAttributeList

theorem of_cons (h : IsAttributeList (i :: items) trail) : IsAttributeList items trail where
  written := (List.forall_mem_cons.mp h.written).2
  separated j hj := h.separated j (List.mem_of_mem_tail hj)
  trail := h.trail

/-- What follows an item in a list. -/
theorem isApart (h : IsAttributeList (i :: items) trail) :
    IsApart (AttributeItem.join items ++ trail) := by
  cases items with
  | nil =>
    refine ⟨fun c hc => h.trail c (List.mem_of_head? hc), ?_⟩
    have hdrop : (trail ++ []).dropWhile Text.isSpace = [] := List.dropWhile_append_of_pos h.trail
    rw [List.append_nil] at hdrop
    simp [hdrop]
  | cons j items =>
    have hj : j.IsWritten := h.written j (by simp)
    obtain ⟨c, cs, htext, hc, hsign, -⟩ := hj.cutItem
    have htail : AttributeItem.join (j :: items) ++ trail =
        j.lead ++ c :: (cs ++ (AttributeItem.join items ++ trail)) := by simp [htext]
    rw [htail]
    refine ⟨fun d hd => ?_, ?_⟩
    · obtain ⟨e, lead, hlead⟩ := List.exists_cons_of_ne_nil (h.separated j (by simp))
      rw [hlead] at hd
      cases hd
      exact hj.isSpaces_lead _ (by rw [hlead]; exact List.mem_cons_self ..)
    · rw [dropWhile_append_of_head hj.isSpaces_lead (by rintro d ⟨⟩; exact hc)]
      simpa using hsign

/-- **Cutting written text** gives the items it was written from. -/
theorem scan_join (h : IsAttributeList items trail) :
    scan (AttributeItem.join items ++ trail) = (items, trail) := by
  induction items with
  | nil => exact scan_of_isSpaces h.trail
  | cons i items ih =>
    have hi : i.IsWritten := h.written i (by simp)
    obtain ⟨c, cs, htext, hc, -, hcut⟩ := hi.cutItem
    have hsplit : AttributeItem.join (i :: items) ++ trail =
        i.lead ++ c :: (cs ++ (AttributeItem.join items ++ trail)) := by simp [htext]
    rw [hsplit, scan_cons hi.isSpaces_lead hc (hcut _ h.isApart), ih h.of_cons]

/-! ## Changing the list -/

/-- An item may take the place of another with the same white space before it. -/
theorem replace {j : AttributeItem} (h : IsAttributeList (items ++ i :: later) trail)
    (hlead : j.lead = i.lead) (hj : j.IsWritten) : IsAttributeList (items ++ j :: later) trail where
  written k hk := by
    have := h.written k
    simp only [List.mem_append, List.mem_cons] at hk this
    grind
  separated k hk := by
    cases items with
    | nil => exact h.separated k hk
    | cons a items =>
      have hi := h.separated i
      have := h.separated k
      simp only [List.cons_append, List.tail_cons, List.mem_append, List.mem_cons] at hk this hi
      grind
  trail := h.trail

/-- An item may go. -/
theorem remove (h : IsAttributeList (items ++ i :: later) trail) :
    IsAttributeList (items ++ later) trail where
  written k hk := by
    have := h.written k
    simp only [List.mem_append, List.mem_cons] at hk this
    grind
  separated k hk := by
    cases items with
    | nil => exact h.separated k (List.mem_of_mem_tail hk)
    | cons a items =>
      have := h.separated k
      simp only [List.cons_append, List.tail_cons, List.mem_append, List.mem_cons] at hk this
      grind
  trail := h.trail

/-- An item may come last. -/
theorem concat (h : IsAttributeList items trail) (hlead : i.lead ≠ []) (hi : i.IsWritten) :
    IsAttributeList (items ++ [i]) trail where
  written k hk := by
    rcases List.mem_append.mp hk with hk | hk
    · exact h.written k hk
    · rwa [List.mem_singleton.mp hk]
  separated k hk := by
    cases items with
    | nil => cases hk
    | cons a items =>
      rcases List.mem_append.mp hk with hk | hk
      · exact h.separated k hk
      · rwa [List.mem_singleton.mp hk]
  trail := h.trail

end IsAttributeList

/-! ## In a tag -/

theorem Passes.inBraces (h : Nested anywhere cs) : Passes (inBraces cs) :=
  fun tail => cutTagEnd_nested h tail

namespace AttributeItem.IsWritten

theorem passes (h : i.IsWritten) : Passes (i.lead ++ i.text) := by
  have hsign : Passes ['='] := .single (by decide) rfl
  cases h with
  | bare hlead hname => exact .append (.of_isSpaces hlead) (.of_isPlainName hname.1)
  | valued hlead hname hsigns hvalue =>
    obtain ⟨front, back, hfront, hback, rfl⟩ := hsigns
    have hequals : Passes (front ++ '=' :: back) :=
      .append (.of_isSpaces hfront) (.append hsign (.of_isSpaces hback))
    refine .append (.of_isSpaces hlead) (.append (.of_isPlainName hname.1) (.append hequals ?_))
    cases hvalue with
    | string hmark hcs => exact .string hmark hcs
    | expression hcs => exact .inBraces hcs
  | spread hlead hcs => exact .append (.of_isSpaces hlead) (.inBraces hcs)

/-- An item ends in no blank and no slash. -/
theorem exists_concat (h : i.IsWritten) :
    ∃ init d, i.text = init ++ [d] ∧ Text.isBlank d = false ∧ d ≠ '/' := by
  cases h with
  | @bare lead name hlead hname =>
    rcases List.eq_nil_or_concat name with rfl | ⟨init, d, hconcat⟩
    · exact absurd rfl hname.ne_nil
    · have hd : d ∈ name := by simp [hconcat]
      refine ⟨init, d, by simpa using hconcat, hname.noBlank d hd, ?_⟩
      rintro rfl
      exact absurd (hname.plain _ hd) (by decide)
  | @valued lead name sign value hlead hname hsign hvalue =>
    cases hvalue with
    | @string mark cs hmark =>
      refine ⟨name ++ (sign ++ mark :: cs), mark, by simp, ?_⟩
      rcases hmark with rfl | rfl <;> decide
    | @expression cs =>
      exact ⟨name ++ (sign ++ '{' :: cs), '}', by simp [inBraces], by decide, by decide⟩
  | @spread lead cs => exact ⟨'{' :: cs, '}', by simp [inBraces], by decide, by decide⟩

end AttributeItem.IsWritten

namespace IsAttributeList

theorem passes (h : IsAttributeList items trail) :
    Passes (AttributeItem.join items ++ trail) := by
  induction items with
  | nil => exact .of_isSpaces h.trail
  | cons i items ih =>
    have := Passes.append (h.written i (by simp)).passes (ih h.of_cons)
    simpa using this

/-- Without the blanks at its end the text ends with its last item. -/
theorem trimEndBy_join {p : Char → Bool} (h : IsAttributeList items trail)
    (hspace : ∀ c, Text.isSpace c = true → p c = true)
    (hblank : ∀ c, Text.isBlank c = false → p c = false) :
    Text.trimEndBy p (AttributeItem.join items ++ trail) = AttributeItem.join items := by
  rw [trimEndBy_append fun c hc => hspace c (h.trail c hc)]
  rcases List.eq_nil_or_concat items with rfl | ⟨init, i, rfl⟩
  · rfl
  · obtain ⟨text, d, htext, hd, -⟩ := (h.written i (by simp)).exists_concat
    have hjoin : AttributeItem.join (init ++ [i]) =
        AttributeItem.join init ++ (i.lead ++ text) ++ [d] := by simp [htext]
    rw [List.concat_eq_append, hjoin, trimEndBy_concat (hblank d hd)]

theorem getLast?_join (h : IsAttributeList items trail) :
    (Text.trimEndBy Text.isSpace (AttributeItem.join items ++ trail)).getLast? ≠ some '/' := by
  rw [h.trimEndBy_join (fun _ hc => hc) fun c hc => by
    rw [Bool.eq_false_iff] at hc ⊢
    exact fun hs => hc (Text.isBlank_of_isSpace hs)]
  rcases List.eq_nil_or_concat items with rfl | ⟨init, i, rfl⟩
  · decide
  · obtain ⟨text, d, htext, -, hd⟩ := (h.written i (by simp)).exists_concat
    simpa [htext] using hd

/-- **In a tag** the text ends where the tag does. -/
theorem siteOf?_join {selfClosing : Bool} {closing after : List Char}
    (h : IsAttributeList items trail) (hclosing : IsClosing selfClosing closing) :
    siteOf? name (AttributeItem.join items ++ trail ++ (closing ++ after)) =
      some { before := [], name, attributes := AttributeItem.join items ++ trail, closing,
             selfClosing, after } :=
  siteOf?_append h.passes h.getLast?_join hclosing

end IsAttributeList

end Source
end Restyle
