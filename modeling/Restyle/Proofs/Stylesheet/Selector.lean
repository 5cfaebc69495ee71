import Mathlib
import Restyle.Proofs.Document.Forest
import Restyle.Stylesheet.Selector

/-!
# Restyle.Proofs.Stylesheet.Selector

Which elements a selector matches, and what is kept of its text.

* `accepts_ofMarkup`: the walk up from an element, which gives each compound the nearest ancestor
  that is left, finds ancestors for all compounds if there are any. What fits above an ancestor also
  fits above the node itself (`Placed.lower`), so that the nearest choice is no worse than another.
* `parse?_keeps_iff`: the texts that are accepted are those that are `IsWritten` as pieces, and of
  each piece the type name, all classes and the last id are kept. Nothing is lost just when no piece
  has two ids.
-/

namespace Restyle
namespace Stylesheet

/-! ## Ancestors -/

namespace Selector

variable {d : Document} {h a : Handle} {o : Option Handle} {c : Compound} {cs : List Compound}
  {n fuel : Nat}

/-- Each node of the list is properly above the one before it, the first one above `h`. -/
inductive Ascends (d : Document) : Handle → List Handle → Prop where
  | nil {h : Handle} : Ascends d h []
  | cons {h a : Handle} {as : List Handle} (n : Nat) :
      d.ancestor? (n + 1) h = some a → Ascends d a as → Ascends d h (a :: as)

/-- The compounds can be given to nodes from `o` on upwards, each to one above the one before. -/
def Placed (d : Document) : Option Handle → List Compound → Prop
  | _, [] => True
  | o, c :: cs => ∃ n a, o.bind (d.ancestor? n) = some a ∧ c.accepts d a = true ∧
      Placed d (d.parent? a) cs

/-- What fits above an ancestor fits above the node itself. -/
theorem Placed.lower (ha : d.ancestor? n h = some a) (hp : Placed d (d.parent? a) cs) :
    Placed d (d.parent? h) cs := by
  cases cs with
  | nil => trivial
  | cons c cs =>
    obtain ⟨m, b, hb, hc, hrest⟩ := hp
    refine ⟨n + m, b, ?_, hc, hrest⟩
    have hup : d.ancestor? (n + (m + 1)) h = some b := by
      rw [Document.ancestor?_add, ha, Option.bind_some]
      exact hb
    exact hup

/-- **The walk takes the nearest node that fits.** It is no worse than any other choice: the
compounds that are left fit above it if they fit above any node farther up. -/
theorem climb_iff_placed (hend : o.bind (d.ancestor? fuel) = none) :
    climb d fuel o cs = true ↔ Placed d o cs := by
  induction fuel generalizing o cs with
  | zero =>
    cases o with
    | some h => cases hend
    | none => cases cs <;> simp [climb, Placed]
  | succ fuel ih =>
    cases cs with
    | nil => simp [climb, Placed]
    | cons c cs =>
      cases o with
      | none => simp [climb, Placed]
      | some h =>
        rw [climb, ih hend]
        by_cases hc : c.accepts d h = true
        · rw [if_pos hc]
          constructor
          · intro hp
            exact ⟨0, h, rfl, hc, hp⟩
          · -- a later choice can be exchanged for this one
            rintro ⟨n, a, ha, -, hp⟩
            exact hp.lower ha
        · rw [if_neg hc]
          constructor
          · rintro ⟨n, a, ha, hrest⟩
            exact ⟨n + 1, a, ha, hrest⟩
          · rintro ⟨n, a, ha, hca, hrest⟩
            cases n with
            | zero =>
              cases ha
              exact absurd hca hc
            | succ n => exact ⟨n, a, ha, hca, hrest⟩

theorem placed_iff_ascends : Placed d (d.parent? h) cs ↔
    ∃ as, Ascends d h as ∧ List.Forall₂ (fun c a => Compound.accepts c d a = true) cs as := by
  induction cs generalizing h with
  | nil => exact ⟨fun _ => ⟨[], .nil, .nil⟩, fun _ => trivial⟩
  | cons c cs ih =>
    constructor
    · rintro ⟨n, a, ha, hc, hp⟩
      obtain ⟨as, has, hall⟩ := ih.mp hp
      exact ⟨a :: as, .cons n ha has, .cons hc hall⟩
    · rintro ⟨_, has, hall⟩
      cases hall with
      | cons hc hall =>
        cases has with
        | cons n ha has => exact ⟨n, _, ha, hc, ih.mpr ⟨_, has, hall⟩⟩

/-- In a forest the walk ends before the number of its steps does. -/
theorem accepts_iff_ascends (hf : d.IsForest) (s : Selector) (h : Handle) : s.accepts d h = true ↔
    s.subject.accepts d h = true ∧ ∃ as, Ascends d h as ∧
      List.Forall₂ (fun (c : Compound) a => c.accepts d a = true) s.ancestors as := by
  have hend : (d.parent? h).bind (d.ancestor? d.size) = none := by
    cases d.parent? h with
    | none => rfl
    | some p => exact hf.ancestor?_size p
  rw [accepts, Bool.and_eq_true, climb_iff_placed hend, placed_iff_ascends]

/-- **A selector matches where its compounds have ancestors to match.** In a document of markup the
last compound has to match the element itself, and the others, read from right to left, nodes each
of which is properly above the one before. -/
theorem accepts_ofMarkup (markup cls : String) (s : Selector) (h : Handle) :
    let d := Document.ofMarkup markup cls
    s.accepts d h = true ↔ ∃ others last, s.compounds = others ++ [last] ∧
      last.accepts d h = true ∧ ∃ as, Ascends d h as ∧
        List.Forall₂ (fun (c : Compound) a => c.accepts d a = true) others.reverse as := by
  intro d
  have hcompounds : s.compounds = s.ancestors.reverse ++ [s.subject] := List.reverse_cons
  rw [accepts_iff_ascends (Document.isTree_ofMarkup markup cls).isForest, hcompounds]
  constructor
  · rintro ⟨hsubject, as, has, hall⟩
    exact ⟨_, _, rfl, hsubject, as, has, by rwa [List.reverse_reverse]⟩
  · rintro ⟨others, last, heq, hlast, as, has, hall⟩
    obtain ⟨rfl, hsubject⟩ := List.append_inj' heq rfl
    cases hsubject
    exact ⟨hlast, as, has, by rwa [List.reverse_reverse] at hall⟩

/-- Of three nested elements the outer two are given to the two equal compounds. -/
example : let d := Document.ofMarkup "<div><p><b>a</b></p></div>" "preview"
    (parse? "div div b".toList).map (·.accepts d 3) = some true ∧
      (parse? "div div div b".toList).map (·.accepts d 3) = some false := by
  decide +kernel

end Selector

/-! ## Compounds as written -/

namespace Compound

/-- A name in a selector. -/
structure Ident where
  chars : List Char
  ne_nil : chars ≠ []
  all_isNameChar : chars.all Compound.isNameChar = true

def Ident.text (i : Ident) : String := String.ofList i.chars

/-- What a compound may begin with. -/
inductive Front where
  | nothing
  | any
  | tag (name : Ident)

inductive Part where
  | id (name : Ident)
  | cls (name : Ident)

/-- A compound as it is written. -/
structure Piece where
  front : Front := .nothing
  parts : List Part := []

namespace Front

def chars : Front → List Char
  | nothing => []
  | any => ['*']
  | tag name => name.chars

def tag? : Front → Option String
  | tag name => some name.text
  | _ => none

end Front

namespace Part

def chars : Part → List Char
  | id name => '#' :: name.chars
  | cls name => '.' :: name.chars

def id? : Part → Option String
  | id name => some name.text
  | cls _ => none

def class? : Part → Option String
  | id _ => none
  | cls name => some name.text

end Part

namespace Piece

def chars (p : Piece) : List Char := p.front.chars ++ p.parts.flatMap Part.chars

def ids (p : Piece) : List String := p.parts.filterMap Part.id?

def classes (p : Piece) : List String := p.parts.filterMap Part.class?

/-- What is kept of a piece: of its ids the last. -/
def compound (p : Piece) : Compound where
  tag := p.front.tag?.map Text.lower
  id := p.ids.getLast?
  classes := p.classes

/-- Does an element satisfy the type name, the classes and these ids? -/
structure FitsWith (p : Piece) (ids : List String) (e : Element) : Prop where
  tag : ∀ name ∈ p.front.tag?, Text.sameFolded name e.tag = true
  ids : ∀ name ∈ ids, e.attribute? "id" = some name
  classes : ∀ name ∈ p.classes, e.hasClass name = true

/-- Does an element satisfy every part that is written? -/
def Fits (p : Piece) (e : Element) : Prop := p.FitsWith p.ids e

end Piece

variable {c c' : Compound} {cs name rest : List Char} {p : Piece} {e : Element}

/-! ## Reading a compound -/

/-- Parts begin with their marks. -/
theorem head?_parts (parts : List Part) :
    ∀ c ∈ (parts.flatMap Part.chars).head?, isNameChar c = false ∧ c ≠ '*' := by
  intro c hc
  cases parts with
  | nil => cases hc
  | cons part parts =>
    cases part <;>
    · cases hc
      decide

theorem takeWhile_ident (i : Ident) (h : ∀ c ∈ rest.head?, isNameChar c = false) :
    (i.chars ++ rest).takeWhile isNameChar = i.chars ∧
      (i.chars ++ rest).dropWhile isNameChar = rest := by
  have hrest : rest.takeWhile isNameChar = [] ∧ rest.dropWhile isNameChar = rest := by
    cases rest with
    | nil => exact ⟨rfl, rfl⟩
    | cons c rest => simp [h c rfl]
  have hname := List.all_eq_true.mp i.all_isNameChar
  rw [List.takeWhile_append_of_pos hname, List.dropWhile_append_of_pos hname, hrest.1, hrest.2,
    List.append_nil]
  exact ⟨rfl, rfl⟩

/-- A name is taken off the front of a text. -/
theorem exists_ident (h : cs.takeWhile isNameChar ≠ []) :
    ∃ i : Ident, i.chars = cs.takeWhile isNameChar ∧ cs = i.chars ++ cs.dropWhile isNameChar :=
  ⟨⟨_, h, List.all_takeWhile⟩, rfl, List.takeWhile_append_dropWhile.symm⟩

/-- What one more part makes of a compound. -/
def withPart (c : Compound) : Part → Compound
  | .id name => { c with id := some name.text }
  | .cls name => { c with classes := c.classes ++ [name.text] }

theorem foldl_withPart (parts : List Part) (c : Compound) : parts.foldl withPart c =
    { tag := c.tag
      id := (parts.filterMap Part.id?).getLast?.or c.id
      classes := c.classes ++ parts.filterMap Part.class? } := by
  induction parts generalizing c with
  | nil => simp
  | cons part parts ih =>
    rw [List.foldl_cons, ih]
    cases part with
    | id name =>
      simp only [withPart, List.filterMap_cons, Part.id?, Part.class?, List.getLast?_cons]
      cases (parts.filterMap Part.id?).getLast? <;> rfl
    | cls name =>
      simp [withPart, List.filterMap_cons, Part.id?, Part.class?]

theorem parseParts?_cons (c : Compound) (part : Part) (h : ∀ c ∈ rest.head?, isNameChar c = false) :
    parseParts? c (part.chars ++ rest) = parseParts? (c.withPart part) rest := by
  cases part with
  | id name | cls name =>
    obtain ⟨htake, hdrop⟩ := takeWhile_ident name h
    rw [Part.chars, List.cons_append, parseParts?, htake, hdrop]
    cases hn : name.chars with
    | nil => exact absurd hn name.ne_nil
    | cons x xs => simp [withPart, Ident.text, hn]

theorem parseParts?_parts (parts : List Part) (c : Compound) :
    parseParts? c (parts.flatMap Part.chars) = some (parts.foldl withPart c) := by
  induction parts generalizing c with
  | nil => rw [List.flatMap_nil, parseParts?, List.foldl_nil]
  | cons part parts ih =>
    have hhead := fun x hx => (head?_parts parts x hx).1
    rw [List.flatMap_cons, parseParts?_cons c part hhead, ih, List.foldl_cons]

theorem exists_parts (h : parseParts? c cs = some c') :
    ∃ parts : List Part, cs = parts.flatMap Part.chars ∧ c' = parts.foldl withPart c := by
  fun_induction parseParts? c cs with
  | case1 c => cases h; exact ⟨[], rfl, rfl⟩
  | case2 => cases h
  | case3 c mark rest hdot hname name ih =>
    obtain ⟨i, hi, hrest⟩ := exists_ident hname
    obtain ⟨parts, hparts, hc⟩ := ih h
    refine ⟨.cls i :: parts, ?_, ?_⟩
    · rw [List.flatMap_cons, Part.chars, ← hparts, List.cons_append, ← hrest, beq_iff_eq.mp hdot]
    · rw [hc, List.foldl_cons, withPart, Ident.text, hi]
  | case4 c mark rest _ hhash hname name ih =>
    obtain ⟨i, hi, hrest⟩ := exists_ident hname
    obtain ⟨parts, hparts, hc⟩ := ih h
    refine ⟨.id i :: parts, ?_, ?_⟩
    · rw [List.flatMap_cons, Part.chars, ← hparts, List.cons_append, ← hrest, beq_iff_eq.mp hhash]
    · rw [hc, List.foldl_cons, withPart, Ident.text, hi]
  | case5 => cases h

theorem parse?_chars (p : Piece) : parse? p.chars = some p.compound := by
  obtain ⟨front, parts⟩ := p
  have hhead := head?_parts parts
  have hparts : ∀ tag, parseParts? { tag } (parts.flatMap Part.chars) = some
      { tag
        id := (parts.filterMap Part.id?).getLast?
        classes := parts.filterMap Part.class? } := by
    intro tag
    rw [parseParts?_parts, foldl_withPart, Option.or_none, List.nil_append]
  unfold parse?
  cases front with
  | nothing =>
    rw [Piece.chars, Front.chars, List.nil_append]
    split
    · rename_i rest heq
      exact absurd rfl (hhead '*' (by rw [heq]; rfl)).2
    · have htake : (parts.flatMap Part.chars).takeWhile isNameChar = [] := by
        cases hcs : parts.flatMap Part.chars with
        | nil => rfl
        | cons c cs => simp [(hhead c (by rw [hcs]; rfl)).1]
      rw [htake]
      exact hparts none
  | any => exact hparts none
  | tag name =>
    obtain ⟨htake, hdrop⟩ := takeWhile_ident name fun x hx => (hhead x hx).1
    rw [Piece.chars, Front.chars]
    split
    · rename_i rest heq
      cases hn : name.chars with
      | nil => exact absurd hn name.ne_nil
      | cons x xs =>
        rw [hn] at heq
        cases heq
        have hname := name.all_isNameChar
        rw [hn] at hname
        cases hname
    · rw [htake, hdrop]
      split
      · rename_i heq
        exact absurd heq name.ne_nil
      · exact hparts _

/-- What stands behind the front is read as parts. -/
theorem exists_piece (front : Front)
    (h : parseParts? { tag := front.tag?.map Text.lower } rest = some c) :
    ∃ p : Piece, front.chars ++ rest = p.chars ∧ c = p.compound := by
  obtain ⟨parts, rfl, rfl⟩ := exists_parts h
  refine ⟨⟨front, parts⟩, rfl, ?_⟩
  rw [foldl_withPart, Option.or_none, List.nil_append]
  rfl

/-- **What is read is what is written**: something to begin with, then ids and classes. -/
theorem parse?_eq_some_iff : parse? cs = some c ↔ ∃ p : Piece, cs = p.chars ∧ c = p.compound := by
  constructor
  · intro h
    unfold parse? at h
    split at h
    · exact exists_piece .any h
    · split at h
      · exact exists_piece .nothing h
      · rename_i hname
        obtain ⟨i, hi, hrest⟩ := exists_ident hname
        rw [← hi] at h
        rw [hrest]
        exact exists_piece (.tag i) h
  · rintro ⟨p, rfl, rfl⟩
    exact parse?_chars p

/-! ## Matching -/

theorem matchesElement_compound (he : Text.lower e.tag = e.tag) :
    p.compound.matchesElement e = true ↔ p.FitsWith p.ids.getLast?.toList e := by
  have htag : ∀ name, Text.sameFolded name e.tag = (Text.lower name == e.tag) := fun name => by
    rw [Text.sameFolded, he]
  have hparts : p.FitsWith p.ids.getLast?.toList e ↔
      ((∀ name ∈ p.front.tag?, Text.sameFolded name e.tag = true) ∧
        ∀ name ∈ p.ids.getLast?, e.attribute? "id" = some name) ∧
      ∀ name ∈ p.classes, e.hasClass name = true :=
    ⟨fun h => ⟨⟨h.tag, fun name hn => h.ids name (Option.mem_toList.mpr hn)⟩, h.classes⟩,
      fun h => ⟨h.1.1, fun name hn => h.1.2 name (Option.mem_toList.mp hn), h.2⟩⟩
  rw [hparts]
  unfold Compound.matchesElement Piece.compound
  rw [Bool.and_eq_true, Bool.and_eq_true]
  refine and_congr (and_congr ?_ ?_) ?_
  · cases p.front.tag? with
    | none => simp
    | some name => simp [htag]
  · cases p.ids.getLast? with
    | none => simp
    | some name => simp
  · simp

end Compound

/-! ## Selectors as written -/

open Compound (Piece)

/-- The numbers of ids, classes and type names that are written. -/
def Specificity.ofPieces (ps : List Piece) : Specificity where
  ids := (ps.map (·.ids.length)).sum
  classes := (ps.map (·.classes.length)).sum
  tags := ps.countP (·.front.tag?.isSome)

namespace Selector

variable {cs : List Char} {ps : List Piece} {s : Selector}

/-- The text is these pieces, with blanks around and between them. -/
structure IsWritten (cs : List Char) (ps : List Piece) : Prop where
  ne_nil : ps ≠ []
  pieces : Text.piecesBy Text.isBlank cs = ps.map Piece.chars

theorem mapM_parse?_eq_some_iff {pieces : List (List Char)} {compounds : List Compound} :
    pieces.mapM Compound.parse? = some compounds ↔
      ∃ ps : List Piece, pieces = ps.map Piece.chars ∧ compounds = ps.map Piece.compound := by
  induction pieces generalizing compounds with
  | nil =>
    rw [List.mapM_nil]
    constructor
    · intro h
      cases h
      exact ⟨[], rfl, rfl⟩
    · rintro ⟨ps, hps, rfl⟩
      rw [List.map_eq_nil_iff.mp hps.symm]
      rfl
  | cons piece pieces ih =>
    rw [List.mapM_cons]
    simp only [Option.bind_eq_bind, Option.bind_eq_some_iff, Compound.parse?_eq_some_iff, ih,
      Option.pure_def, Option.some.injEq]
    constructor
    · rintro ⟨_, ⟨p, rfl, rfl⟩, _, ⟨ps, rfl, rfl⟩, rfl⟩
      exact ⟨p :: ps, rfl, rfl⟩
    · rintro ⟨ps, hps, rfl⟩
      cases ps with
      | nil => cases hps
      | cons p ps =>
        cases hps
        exact ⟨_, ⟨p, rfl, rfl⟩, _, ⟨ps, rfl, rfl⟩, rfl⟩

theorem parse?_eq_some_iff_mapM : parse? cs = some s ↔
    (Text.piecesBy Text.isBlank cs).mapM Compound.parse? = some s.compounds := by
  unfold parse? compounds
  cases hread : (Text.piecesBy Text.isBlank cs).mapM Compound.parse? with
  | none => simp
  | some compounds =>
    obtain ⟨subject, ancestors⟩ := s
    rw [Option.map_some, Option.some.injEq, ← List.reverse_eq_iff]
    cases compounds.reverse <;> simp

/-- The compounds of a selector are what is kept of the pieces, in the order written. -/
theorem compounds_of_isWritten (h : parse? cs = some s) (hw : IsWritten cs ps) :
    s.compounds = ps.map Piece.compound := by
  have hread := mapM_parse?_eq_some_iff.mpr ⟨ps, hw.pieces, rfl⟩
  rw [parse?_eq_some_iff_mapM.mp h] at hread
  exact Option.some.inj hread

/-- The texts that are accepted are those that are written as selectors are. -/
theorem isSome_parse?_iff : (parse? cs).isSome = true ↔ ∃ ps, IsWritten cs ps := by
  constructor
  · intro h
    obtain ⟨s, hs⟩ := Option.isSome_iff_exists.mp h
    obtain ⟨ps, hps, heq⟩ := mapM_parse?_eq_some_iff.mp (parse?_eq_some_iff_mapM.mp hs)
    refine ⟨ps, ?_, hps⟩
    rintro rfl
    simp [compounds] at heq
  · rintro ⟨ps, hne, hps⟩
    have hread := mapM_parse?_eq_some_iff.mpr ⟨ps, hps, rfl⟩
    rw [parse?, hread, Option.map_some]
    cases hrev : (ps.map Piece.compound).reverse with
    | nil => simp [hne] at hrev
    | cons subject ancestors => rfl

theorem foldl_specificity (cs : List Compound) (acc : Specificity) :
    cs.foldl (fun acc c =>
      { ids := acc.ids + c.id.toList.length
        classes := acc.classes + c.classes.length
        tags := acc.tags + c.tag.toList.length }) acc =
      { ids := acc.ids + cs.countP (·.id.isSome)
        classes := acc.classes + (cs.map (·.classes.length)).sum
        tags := acc.tags + cs.countP (·.tag.isSome) } := by
  induction cs generalizing acc with
  | nil => rfl
  | cons c cs ih =>
    rw [List.foldl_cons, ih, List.countP_cons, List.countP_cons, List.map_cons, List.sum_cons,
      Option.length_toList, Option.length_toList]
    simp only [Specificity.mk.injEq]
    omega

theorem specificity_eq (s : Selector) : s.specificity =
    { ids := s.compounds.countP (·.id.isSome)
      classes := (s.compounds.map (·.classes.length)).sum
      tags := s.compounds.countP (·.tag.isSome) } := by
  rw [specificity, foldl_specificity]
  simp only [Nat.zero_add]

/-! ## What is kept -/

theorem toList_getLast? {l : List String} (h : l.length ≤ 1) : l.getLast?.toList = l := by
  match l, h with
  | [], _ => rfl
  | [x], _ => rfl

/-- One id of each piece is counted. -/
theorem countP_ids_eq_iff (ps : List Piece) :
    ps.countP (·.ids.getLast?.isSome) ≤ (ps.map (·.ids.length)).sum ∧
      (ps.countP (·.ids.getLast?.isSome) = (ps.map (·.ids.length)).sum ↔
        ∀ p ∈ ps, p.ids.length ≤ 1) := by
  induction ps with
  | nil => simp
  | cons p ps ih =>
    obtain ⟨hle, hiff⟩ := ih
    rw [List.map_cons, List.sum_cons, List.forall_mem_cons, ← hiff, List.countP_cons]
    cases hids : p.ids with
    | nil => simpa using hle
    | cons x xs =>
      simp only [List.getLast?_cons, Option.isSome_some, if_true, List.length_cons]
      omega

/-- Nothing that is written is lost: all of it counts for the specificity, and an element is matched
by a compound just when it satisfies every part of its piece. Tags of elements are in lower case, as
`Element.ofTag` makes them. -/
structure Keeps (s : Selector) (ps : List Piece) : Prop where
  specificity : s.specificity = .ofPieces ps
  fits : List.Forall₂ (fun (c : Compound) (p : Piece) => ∀ e : Element, Text.lower e.tag = e.tag →
    (c.matchesElement e = true ↔ p.Fits e)) s.compounds ps

theorem forall₂_map_compound {R : Compound → Piece → Prop} (h : ∀ p ∈ ps, R p.compound p) :
    List.Forall₂ R (ps.map Piece.compound) ps := by
  induction ps with
  | nil => exact .nil
  | cons p ps ih =>
    rw [List.forall_mem_cons] at h
    exact .cons h.1 (ih h.2)

/-- **A selector keeps all but earlier ids of a compound.** It is read from just the texts that are
written as pieces. Of each piece the type name, the classes and the last id count and are matched;
so nothing is lost just when no piece has two ids. -/
theorem parse?_keeps_iff (cs : List Char) :
    ((parse? cs).isSome = true ↔ ∃ ps, IsWritten cs ps) ∧
    ∀ s ps, parse? cs = some s → IsWritten cs ps →
      s.specificity = { Specificity.ofPieces ps with ids := ps.countP (·.ids.getLast?.isSome) } ∧
      List.Forall₂ (fun (c : Compound) (p : Piece) => ∀ e : Element, Text.lower e.tag = e.tag →
        (c.matchesElement e = true ↔ p.FitsWith p.ids.getLast?.toList e)) s.compounds ps ∧
      (Keeps s ps ↔ ∀ p ∈ ps, p.ids.length ≤ 1) := by
  refine ⟨isSome_parse?_iff, fun s ps hs hw => ?_⟩
  have hcompounds := compounds_of_isWritten hs hw
  have hspecificity : s.specificity =
      { Specificity.ofPieces ps with ids := ps.countP (·.ids.getLast?.isSome) } := by
    rw [specificity_eq, hcompounds]
    simp [Specificity.ofPieces, Piece.compound, Function.comp_def]
  refine ⟨hspecificity, ?_, ?_⟩
  · rw [hcompounds]
    exact forall₂_map_compound fun p _ e he => Compound.matchesElement_compound he
  · rw [← (countP_ids_eq_iff ps).2]
    constructor
    · intro hk
      have h := hk.specificity
      rw [hspecificity] at h
      exact congrArg Specificity.ids h
    · intro h
      refine ⟨by rw [hspecificity, h]; rfl, ?_⟩
      rw [hcompounds]
      refine forall₂_map_compound fun p hp e he => ?_
      rw [Compound.matchesElement_compound he, Piece.Fits,
        toList_getLast? ((countP_ids_eq_iff ps).2.mp h p hp)]

/-- A selector of two compounds, the second with a type name, a class and an id. -/
theorem parse?_keeps_iff_lead :
    let ps : List Piece := [
      { parts := [.cls ⟨"card".toList, by decide, by decide⟩] },
      { front := .tag ⟨"P".toList, by decide, by decide⟩
        parts := [.cls ⟨"lead".toList, by decide, by decide⟩,
          .id ⟨"intro".toList, by decide, by decide⟩] }]
    ∃ s, parse? ".card P.lead#intro".toList = some s ∧ IsWritten ".card P.lead#intro".toList ps ∧
      s.specificity = { ids := 1, classes := 2, tags := 1 } ∧ Keeps s ps := by
  intro ps
  have hw : IsWritten ".card P.lead#intro".toList ps := ⟨by simp [ps], by decide +kernel⟩
  obtain ⟨haccepts, hkeeps⟩ := parse?_keeps_iff ".card P.lead#intro".toList
  obtain ⟨s, hs⟩ := Option.isSome_iff_exists.mp (haccepts.mpr ⟨ps, hw⟩)
  obtain ⟨hspecificity, -, hiff⟩ := hkeeps s ps hs hw
  refine ⟨s, hs, hw, hspecificity, hiff.mpr ?_⟩
  intro p hp
  simp only [ps, List.mem_cons, List.not_mem_nil, or_false] at hp
  rcases hp with rfl | rfl <;> decide

/-- Of two ids the first is lost: it is not counted, and elements without it are matched. -/
theorem earlier_id_lost :
    let p : Piece := { parts := [.id ⟨"a".toList, by decide, by decide⟩,
      .id ⟨"b".toList, by decide, by decide⟩] }
    let e := (Element.ofTag "p").setAttribute "id" "b"
    ∃ s, parse? "#a#b".toList = some s ∧ IsWritten "#a#b".toList [p] ∧ ¬ Keeps s [p] ∧
      s.specificity = { ids := 1 } ∧ Specificity.ofPieces [p] = { ids := 2 } ∧
      s.subject.matchesElement e = true ∧ ¬ p.Fits e := by
  intro p e
  refine ⟨{ subject := { id := some "b" } }, by decide +kernel, ⟨by simp, by decide +kernel⟩, ?_,
    rfl, by decide +kernel, by decide +kernel, ?_⟩
  · intro hk
    have h := congrArg Specificity.ids hk.specificity
    revert h
    decide +kernel
  · intro hfits
    have h := hfits.ids "a" (by decide +kernel)
    revert h
    decide +kernel

end Selector
end Stylesheet
end Restyle
