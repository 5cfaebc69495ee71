import Restyle.Proofs.Component.Rendering
import Restyle.Proofs.Stylesheet.Kept

/-!
# Restyle.Proofs.Component.RoundTrip

Content of the page that is rendered and read again is the same content (`outline_rendered`):
rendering and reading are each settled by themselves, and meet in the markup.

An inline style of one property that is rendered and read again. It is the style that setting the
property gives just when the value is kept on the way (`style_rendered_iff`): scripts trim it, and
the reader of declarations takes comments out, ends at a semicolon and squeezes blanks.
-/

namespace Restyle
namespace Component

open Script Script.Run
open PageTree Rendered

variable {H : Array Obj} {proto : Obj} {w : Nat} {v : Value} {ts : List PageTree}

/-- A value that describes content of the page, on a machine where objects are as they are at
first. -/
structure Describes (H : Array Obj) (proto : Obj) (w : Nat) (v : Value) (ts : List PageTree) :
    Prop where
  getElem? : H[Ref.objectProto]? = some proto
  isClean : IsClean proto
  stands : Stands H w [v] ts
  isPage : IsPage ts

theorem Describes.renders (hd : Describes H proto w v ts) (h : Script.Host) :
    Renders h H proto w v (ts.map rendered) := by
  obtain ⟨a, b, rfl, hv, rfl⟩ := hd.stands.rendersAll (h := h) hd.isClean hd.getElem? hd.isPage
  rwa [List.append_nil]

/-- **What is rendered and read again is what was described**, with strings spelled out and texts
next to each other as one. With enough frames, rounds and slots of the stack it is rendered; with
fewer nothing else ever is. -/
theorem outline_rendered (hd : Describes H proto w v ts) (h : Script.Host) (cls : String) :
    ∃ n, ∀ (left : Nat) (m : Machine), m.heap = H →
      (n ≤ left → Passable proto w → m.rounds + n ≤ m.bounds.iterations →
        m.stack + n ≤ m.bounds.stack →
        ∃ rs m', (View.surface h).renderNode left v m = .ok rs m') ∧
      ∀ rs m', (View.surface h).renderNode left v m = .ok rs m' →
        (Document.ofMarkup (markupAll rs).spell cls).outline 0 =
          [.element (if cls.isEmpty then Element.ofTag "div"
            else (Element.ofTag "div").setAttribute "class" cls) (settle ts)] := by
  obtain ⟨n, hn⟩ := (hd.renders h).runs
  refine ⟨n, fun left m hm => ⟨(hn left m hm).1, fun rs m' hrs => ?_⟩⟩
  rw [(hn left m hm).2 rs m' hrs]
  exact Document.outline_ofMarkup hd.isPage cls

/-- A machine with an element `p` that has a `title`, and in it a list of two texts. -/
def exampleHeap : Array Obj :=
  #[{ parent := none },
    { parent := some Ref.objectProto
      props := #[("$$typeof", .plain (.object Ref.elementMark)), ("type", .plain (.text "p")),
        ("key", .plain .null), ("props", .plain (.object 2))] },
    { parent := some Ref.objectProto
      props := #[("title", .plain (.text "a\"b")), ("children", .plain (.object 3))] },
    { parent := some Ref.arrayProto
      kind := .array #[some (.text "x<"), some (.text "&y")] 2 }]

theorem describes_exampleHeap : Describes exampleHeap { parent := none } 2 (.object 1)
    [.element "p" [("title", "a\"b")] [.text "x<", .text "&y"]] where
  getElem? := rfl
  isClean := ⟨⟨rfl, rfl, fun _ _ hs => by cases hs⟩, rfl, rfl⟩
  stands := by
    have hitems : Stands exampleHeap 2 [.string "x<", .string "&y"] [.text "x<", .text "&y"] :=
      .text (.text .nil)
    have hchildren : Stands exampleHeap 2 [.object 3] ([.text "x<", .text "&y"] ++ []) :=
      .items rfl rfl (by decide) hitems .nil
    exact .element (p := 2) rfl ⟨rfl, rfl, rfl, rfl⟩ rfl ⟨rfl, rfl, .inl rfl⟩ (by decide) hchildren
      .nil
  isPage := by
    have htitle : Markup.IsHostName "title" := by decide
    refine .element ⟨by decide, ?_, by simp⟩ (fun h => absurd h (by decide))
      (.text (.text .nil)) .nil
    intro a ha
    rw [List.mem_singleton.mp ha]
    exact ⟨htitle, by decide⟩

theorem outline_rendered_paragraph :
    Describes exampleHeap { parent := none } 2 (.object 1)
        [.element "p" [("title", "a\"b")] [.text "x<", .text "&y"]] ∧
      ∃ left m rs m', m.heap = exampleHeap ∧
        (View.surface (View.host 0)).renderNode left (.object 1) m = .ok rs m' ∧
        (Document.ofMarkup (markupAll rs).spell "").outline 0 = [.element (Element.ofTag "div")
          [.element { tag := "p", attributes := [("title", "a\"b")] } [.text "x<&y"]]] := by
  obtain ⟨n, hn⟩ := outline_rendered describes_exampleHeap (View.host 0) ""
  let m : Machine := { heap := exampleHeap, bounds := ⟨n, n, n⟩ }
  obtain ⟨hok, hread⟩ := hn n m rfl
  have hpassable : Passable { parent := none } 2 := ⟨by decide, by decide⟩
  obtain ⟨rs, m', hrs⟩ := hok (Nat.le_refl n) hpassable (Nat.le_of_eq (Nat.zero_add n))
    (Nat.le_of_eq (Nat.zero_add n))
  refine ⟨describes_exampleHeap, n, m, rs, m', rfl, hrs, (hread rs m' hrs).trans ?_⟩
  have hsettle : settle [.element "p" [("title", "a\"b")] [.text "x<", .text "&y"]] =
      [.element { tag := "p", attributes := [("title", "a\"b")] } [.text "x<&y"]] := by
    simp only [settle, settleFrom, run, shown, spelledAttributes]
    rfl
  rw [hsettle]
  rfl

/-- A text that is one half of a pair of surrogates is rendered, but it is not read back: no string
of the page has that half alone. -/
theorem surrogate_not_read_back :
    (Utf16.broken [0xD800]).isEmpty = false ∧
      ∃ m rs, (View.surface (View.host 0)).renderNode 3 (.string (.broken [0xD800])) m = .ok rs m ∧
        ¬ ∃ content, (Document.ofMarkup (markupAll rs).spell "").outline 0 =
            [.element (Element.ofTag "div") [.text content]] ∧
          (Utf16.whole content).units = [0xD800] := by
  let s : Utf16 := .broken [0xD800]
  have hrender : (View.surface (View.host 0)).renderNode 3 (.string s)
      { bounds := ⟨3, 100, 0⟩ } = .ok [.text s] { bounds := ⟨3, 100, 0⟩ } := by
    rw [Surface.renderNode]
    rfl
  refine ⟨rfl, _, _, hrender, ?_⟩
  rintro ⟨content, -, hunits⟩
  have hpoints := congrArg Utf16.points hunits
  rw [Utf16.units_whole, Utf16.points_flatMap] at hpoints
  obtain ⟨c, -, -, hc, -⟩ := List.map_eq_cons_iff.mp hpoints
  cases hc

end Component

/-! ## Inline styles -/

namespace Component

open Script Script.Run
open Markup (IsHostName)
open Rendered
open Stylesheet (styleText IsKept)

variable {H : Array Obj} {w n left s : Nat} {ok : Prop} {h : Script.Host} {o proto style : Obj}
  {name x tag v : String} {value : Value} {p : Property}

/-! ## Objects with one property -/

structure IsSingle (o : Obj) (name : String) (value : Value) : Prop where
  kind : o.kind = .ordinary
  parent : o.parent = some Ref.objectProto
  props : o.props.toList = [(.name (.whole name), .plain value)]

namespace IsSingle

theorem own?_self (ho : IsSingle o name value) :
    o.own? (.name (.whole name)) = some (.plain value) := by
  have hname : (Key.name (.whole name) == .name (.whole name)) = true := beq_self_eq_true name
  rw [own?_of_ordinary ho.kind, ho.props, List.find?_singleton, if_pos hname]
  rfl

theorem own?_other (ho : IsSingle o name value) (hne : name ≠ x) :
    o.own? (.name (.whole x)) = none := by
  have hname : ¬ (Key.name (.whole name) == .name (.whole x)) = true := by
    intro heq
    exact hne (beq_iff_eq.mp (show (name == x) = true from heq))
  rw [own?_of_ordinary ho.kind, ho.props, List.find?_singleton, if_neg hname]
  rfl

theorem isListed (ho : IsSingle o name value) (hindex : (Key.name (.whole name)).index? = none) :
    IsListed o [.name (.whole name)] := by
  have hkeys : o.keys = [name].map fun x => .name (.whole x) :=
    keys_of_names ho.kind (by rw [ho.props]; rfl) (by simpa using hindex)
  refine ⟨isProxy_of_ordinary ho.kind, hkeys, fun k hk => ?_, fun k hk => ?_⟩
  · rw [List.mem_singleton.mp hk]
    rfl
  · rw [List.mem_singleton.mp hk]
    exact ⟨_, ho.own?_self, rfl⟩

/-- A walk over the object meets its one key. -/
theorem gives_keys (ho : IsSingle o name value) (hindex : (Key.name (.whole name)).index? = none)
    (hs : H[s]? = some o) (hproto : H[Ref.objectProto]? = some proto) (hclean : IsClean proto)
    (hok : ok → Passable proto 1) :
    Gives H ok 0 ((View.surface h).keys (.object s)) [.whole name] := by
  have hwalk := gives_keysAlong (h := h) hs (ho.isListed hindex) ho.parent hproto hclean.isQuiet
  refine (hwalk.imp fun hw => ?_).bind_reads (.pure _)
  have := (hok hw).2
  rw [List.length_singleton]
  omega

end IsSingle

/-! ## Rendering -/

/-- What is written of the value of a property. -/
def writtenValue (v : String) : List Char := Text.trimBy Utf16.isSpace v.toList

/-- What is written of a style with one property. -/
def writtenStyle (p : Property) (v : String) : String := String.ofList (styleText p (writtenValue v))

theorem writtenStyle_ne (p : Property) (v : String) : writtenStyle p v ≠ "" := by
  intro hempty
  have hlist := congrArg String.toList hempty
  simp [writtenStyle, styleText] at hlist

theorem index?_key (p : Property) : (Key.name (.whole p.key)).index? = none := by
  cases p <;> decide

theorem hyphenated_key (p : Property) : hyphenated (.whole p.key) = .whole p.cssName := by
  cases p <;> decide

section

variable {q : Nat} {props : Obj} (hs : H[s]? = some style)
  (hstyle : IsSingle style p.key (.string (.whole v))) (hne : v ≠ "")

include hs hstyle hne

/-- The declaration of a style with one property. -/
theorem gives_styleEntry (hok : ok → 3 ≤ left) :
    Gives H ok 0 ((View.surface h).styleEntry left (.object s) (.whole p.key))
      (some (.whole (writtenStyle p v))) := by
  have hproxy := isProxy_of_ordinary hstyle.kind
  have hset : (Datum.text (.whole v)).setsNothing = false := by
    simpa [Datum.setsNothing, Utf16.isEmpty] using hne
  have htext : Utf16.whole p.cssName ++ .whole ":" ++ (Utf16.whole v).trim true true =
      .whole (writtenStyle p v) := by
    rw [Utf16.trim_whole]
    refine congrArg Utf16.whole (String.toList_inj.mp ?_)
    simp [writtenStyle, styleText, writtenValue]
  unfold Surface.styleEntry
  refine .after (gives_need fun h => Nat.le_of_succ_le (hok h)) ?_
  refine .after_reads (reads_hasOwn hs hproxy) ?_
  rw [hstyle.own?_self]
  dsimp only
  rw [if_neg (by simp)]
  refine .after_reads (reads_getProp hs hproxy hstyle.own?_self) ?_
  refine .after_reads (.pure (Datum.text (.whole v))) ?_
  rw [hset, if_neg (by simp)]
  rw [hyphenated_key]
  have hdeclaration : Gives H ok 0 (do
      let t ← (View.surface h).styleValue left (.whole p.key) (.text (.whole v)) (.string (.whole v))
      return some (.whole p.cssName ++ .whole ":" ++ t.trim true true))
      (some (.whole (writtenStyle p v))) := by
    refine .after_reads (.pure (Utf16.whole v)) ?_
    rw [htext]
    exact .pure _
  split
  · exact .after (gives_need hok) hdeclaration
  · exact hdeclaration

variable (hclean : IsClean proto) (hproto : H[Ref.objectProto]? = some proto)

include hclean hproto

/-- The text of the style. -/
theorem gives_styleText (hok : ok → 4 ≤ left ∧ Passable proto 1) :
    Gives H ok 13 ((View.surface h).styleText left (.object s))
      (.whole (writtenStyle p v)) := by
  have hobject : Reads H ((View.surface h).datum (.object s)) .object :=
    (reads_isCallable_ordinary hs hstyle.kind).bind (.pure _)
  have hkeys := hstyle.gives_keys (h := h) (index?_key p) hs hproto hclean fun h => (hok h).2
  have hentry : ∀ q ∈ [p], Gives H ok 0
      ((View.surface h).styleEntry (left - 1) (.object s) (.whole q.key))
      (some (.whole (writtenStyle p v))) := by
    intro q hq
    rw [List.mem_singleton.mp hq]
    exact gives_styleEntry hs hstyle hne fun h => by have := (hok h).1; omega
  have hentries := gives_eachKey (h := h) [p] (fun q => .whole q.key) _ hentry
  unfold Surface.styleText
  refine .after_reads hobject ?_
  dsimp only
  refine Gives.of_le (n := 2 + 1 + frameSize) (.bind_reads (.framed 1 (.after hkeys hentries)) ?_)
    (by decide)
  exact .pure _

variable (hq : H[q]? = some props) (hprops : IsSingle props "style" (.object s))

include hq hprops

/-- **The attribute of the style is its text.** -/
theorem gives_attributeFor_style (hok : ok → 4 ≤ left ∧ Passable proto 1) :
    Gives H ok 13 ((View.surface h).attributeFor left (.object q) (.whole "style"))
      (some ⟨.whole "style", some (.whole (writtenStyle p v))⟩) := by
  have hproxy := isProxy_of_ordinary hprops.kind
  have hobject : Reads H ((View.surface h).datum (.object s)) .object :=
    (reads_isCallable_ordinary hs hstyle.kind).bind (.pure _)
  have hcss := gives_styleText (h := h) hs hstyle hne hclean hproto hok
  have hshown : isListed unshown (.whole "style") = false := by decide
  have hfilled : (Utf16.whole (writtenStyle p v)).isEmpty = false := by
    simpa [Utf16.isEmpty] using writtenStyle_ne p v
  unfold Surface.attributeFor
  refine .after (gives_need fun h => by have := (hok h).1; omega) ?_
  refine .after_reads (reads_hasOwn hq hproxy) ?_
  rw [hprops.own?_self, hshown]
  dsimp only
  rw [if_neg (by simp)]
  refine .after_reads (reads_getProp hq hproxy hprops.own?_self) ?_
  refine .after_reads hobject ?_
  have hhandler : isHandler (.whole "style") = false := by decide
  dsimp only
  rw [hhandler, if_neg (by decide), if_pos (by decide)]
  refine Gives.of_le (n := 13 + 0) (.bind hcss ?_) (Nat.le_refl _)
  rw [hfilled, if_neg (by decide)]
  refine .after (gives_need fun h => by have := (hok h).1; omega) ?_
  exact .pure _

/-- What the renderer finds in properties that hold only the style. -/
theorem shows_style :
    Shows h H proto 1 (.object q)
      [⟨.whole "style", some (.whole (writtenStyle p v))⟩] .undefined where
  attributes := by
    refine ⟨15, fun left => ?_⟩
    have hkeys : Gives H (15 ≤ left ∧ Passable proto 1) 0 ((View.surface h).keys (.object q))
        [.whole "style"] :=
      hprops.gives_keys (by decide) hq hproto hclean And.right
    have hentry : ∀ x ∈ ["style"], Gives H (15 ≤ left ∧ Passable proto 1) 13
        ((View.surface h).attributeFor left (.object q) (.whole x))
        (some ⟨.whole "style", some (.whole (writtenStyle p v))⟩) := by
      intro x hx
      rw [List.mem_singleton.mp hx]
      exact gives_attributeFor_style hs hstyle hne hclean hproto hq hprops fun hok =>
        ⟨by omega, hok.2⟩
    exact hkeys.after (gives_eachKey ["style"] Utf16.whole _ hentry)
  rawMarkup := by
    refine (reads_getProp_absent hq (isProxy_of_ordinary hprops.kind)
      (hprops.own?_other (by decide)) hprops.parent hproto hclean.isQuiet.isProxy hclean.rawMarkup
      hclean.isQuiet.parent).bind ?_
    exact .pure _
  children := reads_getProp_absent hq (isProxy_of_ordinary hprops.kind)
    (hprops.own?_other (by decide)) hprops.parent hproto hclean.isQuiet.isProxy hclean.children
    hclean.isQuiet.parent

end

/-! ## Reading -/

theorem element_style (htag : IsHostName tag) (css : String) :
    Markup.Tag.element { name := tag, attributes := [("style", css)] } =
      { tag, style := .ofDeclarations ((Stylesheet.parseDeclarations css).map fun d =>
        (d.name, d.value)) } := by
  rw [Markup.Tag.element_eq, List.foldl_cons, List.foldl_nil, Element.ofTag, htag.lower]
  rfl

/-- What is read of a style with one property: the declarations of what is written of it. -/
def readStyle (p : Property) (v : String) : InlineStyle :=
  .ofDeclarations ((Stylesheet.parseDeclarations (writtenStyle p v)).map fun d => (d.name, d.value))

/-- An element that is described with one style property, a string, and nothing else. -/
structure DescribesStyle (H : Array Obj) (proto : Obj) (ref : Nat) (tag : String) (p : Property)
    (v : String) : Prop where
  getElem? : H[Ref.objectProto]? = some proto
  isClean : IsClean proto
  isTag : IsHostName tag ∧ tag ∉ ["script", "style", "constructor"]
  objects : ∃ o q props s style, H[ref]? = some o ∧ IsElement o tag q ∧ H[q]? = some props ∧
    IsSingle props "style" (.object s) ∧ H[s]? = some style ∧
    IsSingle style p.key (.string (.whole v))

theorem DescribesStyle.renders {ref : Nat} (hd : DescribesStyle H proto ref tag p v) (hne : v ≠ "")
    (h : Script.Host) : Renders h H proto 1 (.object ref) [PageTree.rendered (.element tag
      [("style", .whole (writtenStyle p v))] [])] := by
  obtain ⟨o, q, props, s, style, ho, he, hq, hprops, hs, hstyle⟩ := hd.objects
  have hshows := shows_style (h := h) hs hstyle hne hd.isClean hd.getElem? hq hprops
  have helement := renders_element ho he hshows (renders_nothing (.inl rfl))
  rw [ite_self] at helement
  rw [PageTree.rendered]
  exact helement

/-- What is read of the rendered element. -/
theorem DescribesStyle.outline_eq {ref : Nat} (hd : DescribesStyle H proto ref tag p v)
    (cls : String) :
    (Document.ofMarkup (markupAll [PageTree.rendered (.element tag
        [("style", .whole (writtenStyle p v))] [])]).spell cls).outline 0 =
      [.element (if cls.isEmpty then Element.ofTag "div"
          else (Element.ofTag "div").setAttribute "class" cls)
        [.element { tag, style := readStyle p v } []]] := by
  have hstyle : ∀ a ∈ PageTree.spelledAttributes
      [("style", .whole (writtenStyle p v))], IsHostName a.1 := by
    intro a ha
    rw [List.mem_singleton.mp ha]
    show IsHostName "style"
    decide
  rw [readStyle, ← element_style hd.isTag.1]
  exact Document.outline_ofMarkup_element hd.isTag.1 hd.isTag.2 hstyle cls

/-- **A style that is rendered and read again is the one that setting its property gives just when
the value is kept**: scripts trim nothing of it, and the reader of declarations finds no comment in
it, no semicolon that ends it and no blanks to squeeze. In any case it has the declarations that are
read from what is written. -/
theorem style_rendered_iff {ref : Nat} (hd : DescribesStyle H proto ref tag p v) (hne : v ≠ "")
    (ht : Text.trim v = v) (h : Script.Host) (cls : String) :
    ∃ n, ∀ (left : Nat) (m : Machine), m.heap = H →
      (n ≤ left → Passable proto 1 → m.rounds + n ≤ m.bounds.iterations →
        m.stack + n ≤ m.bounds.stack →
        ∃ rs m', (View.surface h).renderNode left (.object ref) m = .ok rs m') ∧
      ∀ rs m', (View.surface h).renderNode left (.object ref) m = .ok rs m' →
        (Document.ofMarkup (markupAll rs).spell cls).outline 0 =
            [.element (if cls.isEmpty then Element.ofTag "div"
              else (Element.ofTag "div").setAttribute "class" cls)
              [.element { tag, style := readStyle p v } []]] ∧
          (readStyle p v = ({} : InlineStyle).set p.cssName v ↔
            writtenValue v = v.toList ∧ IsKept v.toList) := by
  obtain ⟨n, hn⟩ := (hd.renders hne h).runs
  refine ⟨n, fun left m hm => ⟨(hn left m hm).1, fun rs m' hrs => ?_⟩⟩
  rw [(hn left m hm).2 rs m' hrs]
  exact ⟨hd.outline_eq cls,
    InlineStyle.ofDeclarations_eq_set_iff p hne ht (Text.trimBy_sublist _ _)⟩

/-- A machine with an element `p` whose style has one property. -/
def styledHeap (p : Property) (v : String) : Array Obj :=
  #[{ parent := none },
    { parent := some Ref.objectProto
      props := #[("$$typeof", .plain (.object Ref.elementMark)), ("type", .plain (.text "p")),
        ("key", .plain .null), ("props", .plain (.object 2))] },
    { parent := some Ref.objectProto, props := #[("style", .plain (.object 3))] },
    { parent := some Ref.objectProto, props := #[(.name (.whole p.key), .plain (.text v))] }]

theorem describesStyle_styledHeap (p : Property) (v : String) :
    DescribesStyle (styledHeap p v) { parent := none } 1 "p" p v where
  getElem? := rfl
  isClean := ⟨⟨rfl, rfl, fun _ _ hs => by cases hs⟩, rfl, rfl⟩
  isTag := by decide
  objects := ⟨_, 2, _, 3, _, rfl, ⟨rfl, rfl, rfl, rfl⟩, rfl, ⟨rfl, rfl, rfl⟩, rfl, ⟨rfl, rfl, rfl⟩⟩

theorem style_rendered_padding :
    ("4px 8px" ≠ "" ∧ Text.trim "4px 8px" = "4px 8px") ∧
      ∃ left m rs m', m.heap = styledHeap .padding "4px 8px" ∧
        (View.surface (View.host 0)).renderNode left (.object 1) m = .ok rs m' ∧
        (Document.ofMarkup (markupAll rs).spell "").outline 0 = [.element (Element.ofTag "div")
          [.element { tag := "p", style := ({} : InlineStyle).set "padding" "4px 8px" } []]] := by
  have hne : "4px 8px" ≠ "" := by decide
  have ht : Text.trim "4px 8px" = "4px 8px" := by decide
  obtain ⟨n, hn⟩ := style_rendered_iff (describesStyle_styledHeap .padding "4px 8px") hne ht
    (View.host 0) ""
  let m : Machine := { heap := styledHeap .padding "4px 8px", bounds := ⟨n, n, n⟩ }
  obtain ⟨hok, hread⟩ := hn n m rfl
  obtain ⟨rs, m', hrs⟩ := hok (Nat.le_refl n) ⟨by decide, by decide⟩ (Nat.le_of_eq (Nat.zero_add n))
    (Nat.le_of_eq (Nat.zero_add n))
  obtain ⟨houtline, hstyle⟩ := hread rs m' hrs
  have hkept : IsKept "4px 8px".toList := by
    have hplain : ∀ c ∈ "4px 8px".toList, Stylesheet.IsPlain ';' c := by
      simp [Stylesheet.IsPlain]
    have huncommented := Stylesheet.stripComments_append hplain []
    exact ⟨by simpa [Stylesheet.stripComments] using huncommented, by decide, by decide⟩
  rw [hstyle.mpr ⟨by decide, hkept⟩] at houtline
  exact ⟨⟨hne, ht⟩, n, m, rs, m', rfl, hrs, houtline⟩

/-- A value with a semicolon is not read back: what follows is another declaration. -/
theorem semicolon_not_read_back :
    ("1px;color:red" ≠ "" ∧ Text.trim "1px;color:red" = "1px;color:red") ∧
      ∃ left m rs m' style, m.heap = styledHeap .margin "1px;color:red" ∧
        (View.surface (View.host 0)).renderNode left (.object 1) m = .ok rs m' ∧
        (Document.ofMarkup (markupAll rs).spell "").outline 0 = [.element (Element.ofTag "div")
          [.element { tag := "p", style } []]] ∧
        style ≠ ({} : InlineStyle).set "margin" "1px;color:red" := by
  have hne : "1px;color:red" ≠ "" := by decide
  have ht : Text.trim "1px;color:red" = "1px;color:red" := by decide
  have hd := describesStyle_styledHeap .margin "1px;color:red"
  have hpassable : Passable { parent := none } 1 := ⟨by decide, by decide⟩
  obtain ⟨left, m, m', hm, hok⟩ := (hd.renders hne (View.host 0)).exists_ok hpassable
  refine ⟨⟨hne, ht⟩, left, m, _, m', _, hm, hok, hd.outline_eq "", fun heq => ?_⟩
  have hsublist := Text.trimBy_sublist Utf16.isSpace "1px;color:red".toList
  obtain ⟨-, hkept⟩ := (InlineStyle.ofDeclarations_eq_set_iff .margin hne ht hsublist).mp heq
  have hcut : Stylesheet.cutTop ';' "1px;color:red".toList ≠ none := by decide
  exact hcut hkept.semicolon

end Component
end Restyle
