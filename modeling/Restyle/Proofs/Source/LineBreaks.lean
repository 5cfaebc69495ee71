import Restyle.Proofs.Pattern.Behind
import Restyle.Proofs.Source.Commented

/-!
# Restyle.Proofs.Source.LineBreaks

The line breaks of a module and of the body it becomes. Imports, export lists and the statement of
the default export leave theirs behind. There are two exceptions: line breaks in the keyword of an
exported function are copied with it, so they come twice; and those between `export` and a
declaration go. `breaks_normalize_iff` is the account of all of them.
-/

namespace Restyle
namespace Source

open Pattern

variable {p : TextPattern} {s : List Char} {m : Match Char}

/-- Number of line breaks. -/
def breaks (cs : List Char) : Nat := cs.count '\n'

@[simp] theorem breaks_append (cs ds : List Char) : breaks (cs ++ ds) = breaks cs + breaks ds :=
  List.count_append

@[simp] theorem breaks_lineBreaks (cs : List Char) : breaks (lineBreaks cs) = breaks cs := by
  unfold breaks lineBreaks
  rw [List.count_filter (by decide)]

theorem breaks_eq_zero {cs : List Char} (h : '\n' ∉ cs) : breaks cs = 0 :=
  List.count_eq_zero.mpr h

/-! ## Statements that leave their line breaks -/

theorem breaks_replace_keepLineBreaks (hp : p.isPlain = true) :
    breaks (replace p keepLineBreaks s) = breaks s := by
  have hcount := count_replaceAll hp keepLineBreaks '\n' (s.length + 1)
    (show State.ByOne { rest := s } from rfl)
  have hkept : ∀ m : Match Char, (keepLineBreaks m).count '\n' = m.text.count '\n' :=
    fun m => breaks_lineBreaks m.text
  simp only [hkept] at hcount
  exact Nat.add_right_cancel hcount

theorem breaks_stripImportsList : breaks (stripImportsList s) = breaks s := by
  unfold stripImportsList
  rw [breaks_replace_keepLineBreaks shiftable_typeImport.plain,
    breaks_replace_keepLineBreaks shiftable_libraryImport.plain]

/-! ## Named exports -/

/-- The exported declarations that lose their keyword. -/
def namedExports (s : List Char) : List (Match Char) :=
  Form.namedExport.matchesFrom (s.length + 1) { rest := s }

/-- What is kept of an exported declaration has no line breaks. -/
theorem breaks_group_namedExport (hm : m ∈ namedExports s) :
    breaks ((m.group? 1).getD [] ++ (m.group? 2).getD []) = 0 := by
  obtain ⟨st, hone, hnone, hread⟩ := exists_reads_of_mem shiftable_namedExport.plain
    (show State.ByOne { rest := s } from rfl) hm
  have hgroup (index : Nat) (hheld : ∀ q ∈ Form.namedExport.held index, q.mentions '\n' = false) :
      '\n' ∉ (m.group? index).getD [] :=
    not_mem_group? hread hone (by rw [State.group?, hnone]; rfl) hheld
  rw [breaks_append, breaks_eq_zero (hgroup 1 (by decide)), breaks_eq_zero (hgroup 2 (by decide))]

/-- The line breaks of an exported declaration up to its keyword go. -/
theorem breaks_stripNamedExports :
    breaks (stripNamedExports s) + ((namedExports s).map fun m => breaks m.text).sum = breaks s := by
  have hcount := count_replaceAll shiftable_namedExport.plain
    (fun m => (m.group? 1).getD [] ++ (m.group? 2).getD []) '\n' (s.length + 1)
    (show State.ByOne { rest := s } from rfl)
  have hnone : ((namedExports s).map fun m =>
      breaks ((m.group? 1).getD [] ++ (m.group? 2).getD [])).sum = 0 := by
    rw [List.map_congr_left fun m hm => breaks_group_namedExport hm]
    simp
  unfold stripNamedExports
  rw [breaks_replace_keepLineBreaks shiftable_exportList.plain]
  exact hcount.trans (congrArg (breaks s + ·) hnone)

/-! ## The default export -/

theorem breaks_splice (hp : p.isPlain = true) (hm : first? p s = some m) (text : List Char) :
    breaks (splice s m text) = breaks s + breaks text := by
  obtain ⟨skipped, htext, hpos, -, -⟩ := find?_text hp hm
  have hsource : breaks s = breaks skipped + (breaks m.text + breaks m.after.rest) := by
    rw [htext, breaks_append, breaks_append]
  unfold splice
  rw [show s.take m.start = skipped by rw [htext, hpos, List.take_left]]
  simp only [breaks_append, breaks_lineBreaks]
  omega

namespace DefaultExport

/-- The line breaks in the keyword of an exported function. -/
def keywordBreaks : DefaultExport → Nat
  | functionNamed keyword _ _ => breaks (Text.trimEndBy Text.isBlank keyword)
  | classNamed _ | binding _ | expression => 0

theorem exists_of_findOf? {kinds : List Kind} {e : DefaultExport}
    (h : findOf? s kinds = some (m, e)) :
    ∃ kind ∈ kinds, first? kind.form s = some m ∧ e = kind.read m := by
  induction kinds with
  | nil => cases h
  | cons kind kinds ih =>
    unfold findOf? at h
    split at h
    · rename_i hm
      cases h
      exact ⟨kind, List.mem_cons_self .., hm, rfl⟩
    · obtain ⟨kind', hkind', hm, he⟩ := ih h
      exact ⟨kind', List.mem_cons_of_mem _ hkind', hm, he⟩

/-- The groups of a form of the default export without line breaks. -/
theorem not_mem_group {kind : Kind} (hkind : kind ∈ kinds) (hm : first? kind.form s = some m)
    (index : Nat) (hheld : ∀ q ∈ kind.form.held index, q.mentions '\n' = false) :
    '\n' ∉ (m.group? index).getD [] := by
  obtain ⟨skipped, -, -, hread, -⟩ := find?_text (sound_of_mem hkind).shiftable.plain hm
  exact not_mem_group? hread rfl rfl hheld

theorem breaks_component_function (keyword opening : List Char) {name : Option (List Char)}
    (h : '\n' ∉ name.getD []) : breaks (functionNamed keyword name opening).component = 0 := by
  cases name with
  | none => rfl
  | some n => exact breaks_eq_zero h

theorem breaks_component_class {name : Option (List Char)} (h : '\n' ∉ name.getD []) :
    breaks (classNamed name).component = 0 := by
  cases name with
  | none => rfl
  | some n =>
    unfold component
    dsimp only
    split
    · rfl
    · exact breaks_eq_zero h

/-- What stands for a default export has the line breaks of the keyword. -/
theorem breaks_text {kind : Kind} (hkind : kind ∈ kinds) (hm : first? kind.form s = some m) :
    breaks (kind.read m).text = (kind.read m).keywordBreaks := by
  have hgroup := not_mem_group hkind hm
  simp only [kinds, List.mem_cons, List.not_mem_nil, or_false] at hkind
  obtain rfl | rfl | rfl | rfl | rfl := hkind
  · have hname := breaks_component_function ((m.group? 1).getD []) ((m.group? 3).getD [])
      (hgroup 2 (by decide))
    have hopening := breaks_eq_zero (hgroup 3 (by decide))
    unfold text keywordBreaks
    dsimp only
    have hspace (cs : List Char) : breaks (' ' :: cs) = breaks cs :=
      List.count_cons_of_ne (by decide)
    rw [breaks_append, breaks_append, hopening, hspace, hname]
    rfl
  · have hname := breaks_component_class (hgroup 1 (by decide))
    unfold text keywordBreaks
    dsimp only
    rw [breaks_append, breaks_append, hname]
    split <;> rfl
  · rfl
  · rfl
  · rfl

end DefaultExport

/-! ## Modules -/

/-- The line breaks that are copied with the keyword of a default export. -/
def copiedBreaks (source : String) : Nat :=
  match DefaultExport.findOf? (stripImportsList source.toList) DefaultExport.kinds with
  | some (_, e) => e.keywordBreaks
  | none => 0

/-- The line breaks that go with the `export` of declarations. -/
def droppedBreaks (source : String) : Nat :=
  match DefaultExport.findOf? (stripImportsList source.toList) DefaultExport.kinds with
  | some (m, e) =>
    ((namedExports (splice (stripImportsList source.toList) m e.text)).map fun m =>
      breaks m.text).sum
  | none => 0

/-- **Line breaks of a module.** The body has those of the source, without the ones between
`export` and a declaration, and with the ones in the keyword of a default export once more. So the
number is kept exactly if as many are dropped as are copied. -/
theorem breaks_normalize_iff {source : String} {body : ModuleBody}
    (h : normalize source = some body) :
    breaks body.body.toList + droppedBreaks source = breaks source.toList + copiedBreaks source ∧
      (breaks body.body.toList = breaks source.toList ↔
        droppedBreaks source = copiedBreaks source) := by
  have haccount : breaks body.body.toList + droppedBreaks source =
      breaks source.toList + copiedBreaks source := by
    rw [normalize_eq] at h
    obtain ⟨⟨m, e⟩, hfound, rfl⟩ := Option.map_eq_some_iff.mp h
    obtain ⟨kind, hkind, hm, rfl⟩ := DefaultExport.exists_of_findOf? hfound
    have hplain := (DefaultExport.sound_of_mem hkind).shiftable.plain
    unfold droppedBreaks copiedBreaks
    rw [hfound]
    dsimp only
    rw [String.toList_ofList, breaks_stripNamedExports, breaks_splice hplain hm,
      breaks_stripImportsList, DefaultExport.breaks_text hkind hm]
  exact ⟨haccount, by omega⟩

/-- An import over three lines leaves its two breaks behind. -/
theorem breaks_normalize_import :
    normalize "import \x7b\nx \x7d from\n'react'\nexport default App" =
        some { body := "\n\n\n", component := "App" } ∧
      droppedBreaks "import \x7b\nx \x7d from\n'react'\nexport default App" =
        copiedBreaks "import \x7b\nx \x7d from\n'react'\nexport default App" := by
  have hstrip : stripImportsList "import \x7b\nx \x7d from\n'react'\nexport default App".toList =
      "\n\n\nexport default App".toList := by cbv
  have hnamed : stripNamedExports "\n\n\n".toList = "\n\n\n".toList := by cbv
  have hfound := normalize_of_found "import \x7b\nx \x7d from\n'react'\nexport default App" 3
    "export default App".toList [] (.binding "App".toList) (by cbv)
  rw [hstrip] at hfound
  have hbody : normalize "import \x7b\nx \x7d from\n'react'\nexport default App" =
      some { body := "\n\n\n", component := "App" } := by
    refine hfound.trans ?_
    show some (ModuleBody.mk (String.ofList (stripNamedExports "\n\n\n".toList))
      (String.ofList "App".toList)) = _
    rw [hnamed]
    rfl
  exact ⟨hbody, (breaks_normalize_iff hbody).2.mp (by decide)⟩

/-- A line break in the keyword of an exported function comes twice. -/
theorem keyword_break_twice :
    normalize "export default async\nfunction A()\x7b\x7d" =
        some { body := "async\nfunction A(\n)\x7b\x7d", component := "A" } ∧
      breaks "async\nfunction A(\n)\x7b\x7d".toList ≠ breaks "export default async\nfunction A()\x7b\x7d".toList := by
  have hstrip : stripImportsList "export default async\nfunction A()\x7b\x7d".toList =
      "export default async\nfunction A()\x7b\x7d".toList := by cbv
  have hnamed : stripNamedExports "async\nfunction A(\n)\x7b\x7d".toList =
      "async\nfunction A(\n)\x7b\x7d".toList := by cbv
  have hfound := normalize_of_found "export default async\nfunction A()\x7b\x7d" 0
    "export default async\nfunction A(".toList ")\x7b\x7d".toList
    (.functionNamed "async\nfunction ".toList (some "A".toList) "(".toList) (by cbv)
  rw [hfound, hstrip]
  refine ⟨?_, by decide⟩
  show some (ModuleBody.mk (String.ofList (stripNamedExports "async\nfunction A(\n)\x7b\x7d".toList))
    (String.ofList "A".toList)) = _
  rw [hnamed]
  rfl

end Source
end Restyle
