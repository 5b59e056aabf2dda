import ViewAtlas.Proofs.File.Spelling
import ViewAtlas.Proofs.Project.Contents
/-!
# Where imports lead

A relative name means a file or a folder, and says which: a name that ends with a slash, `.` or `..` is that of a folder
(`IsOfFolder`).  What it asks for is a script, or `index.ts` in a folder (`sought?`).  An import by it leads there, and
the script is a source of the project, but for two kinds of names: `.` and `..` lead nowhere, and the name of a folder
leads to a script beside the folder if there is one (`resolveImport_sought`).
-/
namespace ViewAtlas
namespace Project

open File (Disk Path)

variable {d : Disk} {importer p target : Path} {name : Text}

/-! ## Names -/

def IsDots (name : Text) : Prop := name = ['.'] ∨ name = Path.up

/-- A name that goes on behind its dots. -/
def GoesOn (name : Text) : Prop := "./".toList <+: name ∨ "../".toList <+: name

/-- **A relative name**: it starts from the folder of the script that imports by it. -/
def IsRelative (name : Text) : Prop := IsDots name ∨ GoesOn name

instance (name : Text) : Decidable (IsDots name) := inferInstanceAs (Decidable (_ ∨ _))

instance (name : Text) : Decidable (GoesOn name) := inferInstanceAs (Decidable (_ ∨ _))

instance (name : Text) : Decidable (IsRelative name) := inferInstanceAs (Decidable (_ ∨ _))

/-- What stands behind the last slash of a name. -/
def lastPart (name : Text) : Text := (name.reverse.takeWhile (· ≠ '/')).reverse

/-- **A name that can only be that of a folder.** -/
def IsOfFolder (name : Text) : Prop := name.getLast? = some '/' ∨ lastPart name = ['.'] ∨ lastPart name = Path.up

instance (name : Text) : Decidable (IsOfFolder name) := inferInstanceAs (Decidable (_ ∨ _ ∨ _))

/-- A name without the end of what a script is made into. -/
def stem (name : Text) : Text :=
  if productEnd <:+ name then name.take (name.length - productEnd.length) else name

/-! ## What a name asks for -/

/-- The path that a name means, from the folder of an importing script. -/
def importTarget (importer : Path) (name : Text) : Path := (importer.folder.join (.ofText name)).normal

/-- The path of the script that a path means when its end is left out. -/
def withScriptEnd (p : Path) : Path := ⟨p.slashes, p.names.dropLast ++ [stem p.name ++ scriptEnd]⟩

/-- The path of the script that stands for a folder. -/
def indexIn (p : Path) : Path := ⟨p.slashes, p.names ++ ["index.ts".toList]⟩

/-- The paths of the scripts that a target means as a file. -/
def scriptPaths (target : Path) : List Path :=
  (if scriptEnd <:+ target.text then [target] else []) ++ [withScriptEnd target]

def soughtPaths (importer : Path) (name : Text) : List Path :=
  let target := importTarget importer name
  if IsOfFolder name then [indexIn target] else scriptPaths target ++ [indexIn target]

/-- **The file that a name asks for**: the first one at the paths of a relative name. -/
def sought? (d : Disk) (importer : Path) (name : Text) : Option Path :=
  if IsRelative name then (soughtPaths importer name).find? fun p => d.isFile p.text else none

/-- **A folder is overlooked** that is named by dots only. -/
def IsOverlooked (d : Disk) (importer : Path) (name : Text) : Prop :=
  IsDots name ∧ d.isFile (indexIn (importTarget importer name)).text = true

/-- **A folder is shadowed** by a script beside it, though the name is that of a folder. -/
def IsShadowed (d : Disk) (importer : Path) (name : Text) (p : Path) : Prop :=
  GoesOn name ∧ IsOfFolder name ∧
    (scriptPaths (importTarget importer name)).find? (fun p => d.isFile p.text) = some p

instance (d : Disk) (importer : Path) (name : Text) : Decidable (IsOverlooked d importer name) :=
  inferInstanceAs (Decidable (_ ∧ _))

instance (d : Disk) (importer : Path) (name : Text) (p : Path) : Decidable (IsShadowed d importer name p) :=
  inferInstanceAs (Decidable (_ ∧ _ ∧ _))

/-! ## The paths that are looked up -/

theorem importTarget_isNormal (h : importer.IsProper) (name : Text) : (importTarget importer name).IsNormal := by
  have hfolder : importer.folder.IsProper := ⟨h.1, h.2.folder⟩
  exact (hfolder.join name).normal

theorem stem_append {front name : Text} (h : productEnd <:+ front ++ name ↔ productEnd <:+ name) :
    stem (front ++ name) = front ++ stem name := by
  unfold stem
  by_cases hname : productEnd <:+ name
  · have hle := hname.length_le
    rw [if_pos hname, if_pos (h.2 hname), List.length_append, List.take_append,
      List.take_of_length_le (by omega)]
    congr 2
    omega
  · rw [if_neg hname, if_neg fun htext => hname (h.1 htext)]

theorem isName_append_scriptEnd {name : Text} (h : '/' ∉ name) : File.isName (name ++ scriptEnd) = true := by
  have hlong : ∀ t : Text, t.length < 3 → name ++ scriptEnd ≠ t := by
    rintro t ht rfl
    rw [List.length_append] at ht
    exact absurd ht (by simp [scriptEnd])
  refine File.isName_iff.2 ⟨⟨hlong _ (by decide), hlong _ (by decide), hlong _ (by decide)⟩, ?_⟩
  rw [List.mem_append, not_or]
  exact ⟨h, by decide⟩

theorem slash_notMem_name (h : target.IsNormal) : '/' ∉ target.name := by
  unfold Path.name
  cases hlast : target.names.getLast? with
  | none => simp
  | some n => exact (h.proper.2 n (List.mem_of_getLast? hlast)).2.2

theorem withScriptEnd_isNormal (h : target.IsNormal) : (withScriptEnd target).IsNormal := by
  have hstem : '/' ∉ stem target.name := by
    unfold stem
    split
    · exact fun hmem => slash_notMem_name h (List.mem_of_mem_take hmem)
    · exact slash_notMem_name h
  refine h.withNames fun n hn => ?_
  rcases List.mem_append.1 hn with hn | hn
  · exact .inl (List.mem_of_mem_dropLast hn)
  · rw [List.mem_singleton.1 hn]
    exact .inr (isName_append_scriptEnd hstem)

theorem indexIn_isNormal (h : target.IsNormal) : (indexIn target).IsNormal := by
  refine h.withNames fun n hn => ?_
  rcases List.mem_append.1 hn with hn | hn
  · exact .inl hn
  · rw [List.mem_singleton.1 hn]
    exact .inr (by decide)

theorem ofText_stem (h : target.IsNormal) : Path.ofText (stem target.text ++ scriptEnd) = withScriptEnd target := by
  by_cases hnames : target.names = []
  · obtain ⟨k, names⟩ := target
    obtain ⟨⟨hk, -⟩, -⟩ := h
    dsimp only at hk hnames
    subst hnames
    rcases hk with rfl | rfl <;> decide
  · obtain ⟨front, -, hfront⟩ := File.exists_text_concat target.slashes target.names.dropLast
    have htext : target.text = front ++ target.name := by
      rw [← hfront, Path.dropLast_append_name hnames]
    have hend : productEnd <:+ front ++ target.name ↔ productEnd <:+ target.name := by
      rw [← htext]
      exact File.suffix_text_iff hnames (by decide)
    have hwith : (withScriptEnd target).text = stem target.text ++ scriptEnd := by
      rw [withScriptEnd, hfront, htext, stem_append hend, List.append_assoc]
    have hnormal := withScriptEnd_isNormal h
    rw [← hwith, File.ofText_text hnormal.proper.2 (by simp [withScriptEnd]) hnormal.proper.1]

theorem importPaths_eq (h : target.IsNormal) : importPaths target = [target, withScriptEnd target, indexIn target] := by
  have hindex : target.join (.ofText "index.ts".toList) = indexIn target := rfl
  rw [← ofText_stem h, ← hindex]
  simp only [importPaths, stem, List.isSuffixOf_iff_suffix]

theorem scriptEnd_suffix_text {n : Text} (h : scriptEnd <:+ n) (k : Nat) (names : List Text) :
    scriptEnd <:+ (⟨k, names ++ [n]⟩ : Path).text := by
  obtain ⟨front, -, hfront⟩ := File.exists_text_concat k names
  rw [hfront]
  exact h.trans (List.suffix_append _ _)

theorem find?_importPaths (h : target.IsNormal) :
    (importPaths target).find? (fun p => scriptEnd.isSuffixOf p.text && d.isFile p.text && d.filePaths.contains p) =
      (scriptPaths target ++ [indexIn target]).find? fun p => d.isFile p.text := by
  have hfound : ∀ p : Path, p.IsNormal → (d.isFile p.text && d.filePaths.contains p) = d.isFile p.text := by
    intro p hp
    rw [Bool.and_eq_left_iff_imp, List.contains_iff_mem]
    exact hp.mem_filePaths
  have hwith : scriptEnd.isSuffixOf (withScriptEnd target).text = true :=
    List.isSuffixOf_iff_suffix.2 (scriptEnd_suffix_text (List.suffix_append _ _) _ _)
  have hindex : scriptEnd.isSuffixOf (indexIn target).text = true :=
    List.isSuffixOf_iff_suffix.2 (scriptEnd_suffix_text (by decide) _ _)
  rw [importPaths_eq h, scriptPaths]
  by_cases hend : scriptEnd <:+ target.text
  · simp only [List.find?_cons, if_pos hend, List.isSuffixOf_iff_suffix.2 hend, hwith, hindex, Bool.and_assoc, hfound _ h,
      hfound _ (withScriptEnd_isNormal h), hfound _ (indexIn_isNormal h), Bool.true_and, List.cons_append,
      List.nil_append, List.find?_nil]
  · have hnone : scriptEnd.isSuffixOf target.text = false := by
      rw [← Bool.not_eq_true, List.isSuffixOf_iff_suffix]
      exact hend
    simp only [List.find?_cons, if_neg hend, hnone, hwith, hindex, Bool.and_assoc, hfound _ (withScriptEnd_isNormal h),
      hfound _ (indexIn_isNormal h), Bool.true_and, Bool.false_and, List.cons_append, List.nil_append, List.find?_nil]

/-- **Where an import leads**: a name is looked up when it goes on behind its dots, and none is taken as that of a folder
only. -/
theorem resolveImport_eq (h : importer.IsProper) (name : Text) :
    resolveImport d importer name =
      if GoesOn name then
        (scriptPaths (importTarget importer name) ++ [indexIn (importTarget importer name)]).find? fun p =>
          d.isFile p.text
      else none := by
  have hon : ("./".toList.isPrefixOf name || "../".toList.isPrefixOf name) = true ↔ GoesOn name := by
    rw [Bool.or_eq_true, List.isPrefixOf_iff_prefix, List.isPrefixOf_iff_prefix]
    rfl
  rw [← find?_importPaths (importTarget_isNormal h name)]
  exact if_congr hon rfl rfl

theorem indexIn_notMem_scriptPaths (target : Path) : indexIn target ∉ scriptPaths target := by
  have htarget : indexIn target ≠ target := by
    intro heq
    have hlen := congrArg (fun p => p.names.length) heq
    simp [indexIn] at hlen
  have hwith : indexIn target ≠ withScriptEnd target := by
    intro heq
    have hnames : target.names ++ ["index.ts".toList] = target.names.dropLast ++ [stem target.name ++ scriptEnd] :=
      congrArg Path.names heq
    by_cases hnil : target.names = []
    · have hname : target.name = [] := by
        rw [Path.name, hnil]
        rfl
      rw [hnil, hname] at hnames
      exact absurd hnames (by decide)
    · have hlen := congrArg List.length hnames
      have hpos := List.length_pos_iff.2 hnil
      simp only [List.length_append, List.length_dropLast, List.length_singleton] at hlen
      omega
  unfold scriptPaths
  rw [List.mem_append, List.mem_singleton, not_or]
  refine ⟨fun hmem => ?_, hwith⟩
  split at hmem
  · exact htarget (List.mem_singleton.1 hmem)
  · cases hmem

/-! ## What is found -/

theorem GoesOn.not_isDots (h : GoesOn name) : ¬ IsDots name := by
  rintro (rfl | rfl) <;> revert h <;> decide

theorem IsDots.isOfFolder (h : IsDots name) : IsOfFolder name := by
  rcases h with rfl | rfl <;> decide

theorem resolveImport_of_isOverlooked (hi : importer.IsProper) (h : IsOverlooked d importer name) :
    resolveImport d importer name = none := by
  rw [resolveImport_eq hi, if_neg fun hon => hon.not_isDots h.1]

theorem sought?_of_isOverlooked (h : IsOverlooked d importer name) :
    sought? d importer name = some (indexIn (importTarget importer name)) := by
  rw [sought?, if_pos (.inl h.1), soughtPaths, if_pos h.1.isOfFolder, List.find?_singleton, if_pos h.2]

theorem resolveImport_of_isShadowed (hi : importer.IsProper) (h : IsShadowed d importer name p) :
    resolveImport d importer name = some p := by
  obtain ⟨hon, -, hfound⟩ := h
  rw [resolveImport_eq hi, if_pos hon, List.find?_append, hfound, Option.some_or]

theorem sought?_of_isShadowed (h : IsShadowed d importer name p) : sought? d importer name ≠ some p := by
  obtain ⟨hon, hfolder, hfound⟩ := h
  rw [sought?, if_pos (.inr hon), soughtPaths, if_pos hfolder]
  intro hsought
  have hindex := List.mem_singleton.1 (List.mem_of_find?_eq_some hsought)
  exact indexIn_notMem_scriptPaths _ (hindex ▸ List.mem_of_find?_eq_some hfound)

/-- **What an import finds is what its name asks for**, but for names that are overlooked or shadowed. -/
theorem resolveImport_eq_sought? (hi : importer.IsProper) (hoverlooked : ¬ IsOverlooked d importer name)
    (hshadowed : ∀ p, ¬ IsShadowed d importer name p) : resolveImport d importer name = sought? d importer name := by
  rw [resolveImport_eq hi, sought?]
  by_cases hon : GoesOn name
  · rw [if_pos hon, if_pos (.inr hon), soughtPaths]
    by_cases hfolder : IsOfFolder name
    · have hnone : (scriptPaths (importTarget importer name)).find? (fun p => d.isFile p.text) = none :=
        Option.eq_none_iff_forall_ne_some.2 fun p hp => hshadowed p ⟨hon, hfolder, hp⟩
      rw [if_pos hfolder, List.find?_append, hnone, Option.none_or]
    · rw [if_neg hfolder]
  · rw [if_neg hon]
    by_cases hdots : IsDots name
    · have hindex : ¬ d.isFile (indexIn (importTarget importer name)).text = true := fun h => hoverlooked ⟨hdots, h⟩
      rw [if_pos (.inl hdots), soughtPaths, if_pos hdots.isOfFolder, List.find?_singleton, if_neg hindex]
    · have hrelative : ¬ IsRelative name := not_or.2 ⟨hdots, hon⟩
      rw [if_neg hrelative]

/-! ## What is followed -/

theorem isProper_of_mem_sources (hd : d.IsReal) {followImports : Bool} {c : Text} {p : Project}
    (h : (read d followImports c).result = .ok p) {f : Path} (hf : f ∈ p.sources) : f.IsProper := by
  obtain ⟨hroot, -, hsources⟩ := read_sources hd.named h
  obtain ⟨hread, hsource⟩ := hsources f hf
  obtain ⟨-, -, names, hnames, -⟩ := isSource_iff.1 hsource
  refine ⟨?_, hread⟩
  rw [hnames, hroot]
  exact File.absolute_slashes d c

/-- **No import of a source leads out of the sources** to another one. -/
theorem closedUnderImports_sources {c : Text} {p : Project} (h : (read d true c).result = .ok p) :
    ClosedUnderImports d p.root {f | f ∈ p.sources} := by
  obtain ⟨-, sources, hsources, rfl⟩ := read_ok_iff.1 h
  intro f hf t hlead
  have hmem := fun f => (inTextOrder_perm (reachedFrom d (d.absolute c).folder true sources)).mem_iff (a := f)
  exact (hmem t).2 ((reachedFrom_isLeast (nodup_gathered hsources)).1.2 f ((hmem f).1 hf) t hlead)

/-- **Where imports lead.**  An import finds what its name asks for, unless the name is overlooked, and then it finds
nothing, or is shadowed, and then it finds the script beside the folder.  When imports are followed, what a source asks
for by a name that is neither is among the sources, if it can be one. -/
theorem resolveImport_sought (hd : d.IsReal) :
    (∀ importer name, importer.IsProper →
      (resolveImport d importer name = sought? d importer name ↔
        ¬ IsOverlooked d importer name ∧ ∀ p, ¬ IsShadowed d importer name p) ∧
      (IsOverlooked d importer name → resolveImport d importer name = none) ∧
      ∀ p, IsShadowed d importer name p → resolveImport d importer name = some p) ∧
    ∀ c p, (read d true c).result = .ok p → ∀ f ∈ p.sources, ∀ name t, Imports d f name → sought? d f name = some t →
      isSource p.root t = true → t ∈ p.sources ∨ IsOverlooked d f name ∨ ∃ q, IsShadowed d f name q := by
  refine ⟨fun importer name hi => ⟨⟨fun heq => ⟨fun h => ?_, fun p h => ?_⟩, fun h => ?_⟩, fun h => ?_, fun p h => ?_⟩,
    fun c p hp f hf name t himports ht hsource => ?_⟩
  · rw [resolveImport_of_isOverlooked hi h, sought?_of_isOverlooked h] at heq
    cases heq
  · exact sought?_of_isShadowed h (heq ▸ resolveImport_of_isShadowed hi h)
  · exact resolveImport_eq_sought? hi h.1 h.2
  · exact resolveImport_of_isOverlooked hi h
  · exact resolveImport_of_isShadowed hi h
  · by_contra hnot
    rw [not_or, not_or, not_exists] at hnot
    obtain ⟨hmem, hoverlooked, hshadowed⟩ := hnot
    have hfound := resolveImport_eq_sought? (isProper_of_mem_sources hd hp hf) hoverlooked hshadowed
    exact hmem (closedUnderImports_sources hp f hf t (leadsTo_iff.2 ⟨name, himports, hfound.trans ht, hsource⟩))

/-- A disk with a script that imports folders: its own one, one beside which there is a script, and one by way of a
folder that is not there. -/
def folders : Disk where
  entries := [("p".toList, .folder [
    ("t.json".toList, file "\x7b\"files\":[\"a.ts\"]\x7d"),
    ("a.ts".toList, file "import '.';import './b/';import './c/d.js';import './x/../e/'"),
    ("index.ts".toList, file ""),
    ("b.ts".toList, file ""),
    ("b".toList, .folder [("index.ts".toList, file "")]),
    ("c".toList, .folder [("d.ts".toList, file "")]),
    ("e".toList, .folder [("index.ts".toList, file "")])])]
  home := []
where
  file (s : String) : File.Entry := .file (Text.Utf8.encode s.toList)

def inFolders (names : List String) : Path := ⟨1, "p".toList :: names.map String.toList⟩

theorem folders_isReal : folders.IsReal := ⟨by decide, by decide, by decide⟩

theorem inFolders_isProper : (inFolders ["a.ts"]).IsProper := by
  refine ⟨.inl rfl, ?_⟩
  unfold Path.IsRead
  decide

theorem imports_of_load {f : Path} {names : List Text}
    (h : (Script.Source.load d f.text).toOption.map (·.imports) = some names) : ∀ name ∈ names, Imports d f name := by
  obtain ⟨s, hs, rfl⟩ := Option.map_eq_some_iff.1 h
  intro name hname
  cases hload : Script.Source.load d f.text with
  | error m =>
    rw [hload] at hs
    cases hs
  | ok s' =>
    rw [hload] at hs
    cases hs
    exact ⟨s, hload, hname⟩

theorem folders_steps :
    ((Script.Source.load folders (inFolders ["a.ts"]).text).toOption.map (·.imports) =
        some ([".", "./b/", "./c/d.js", "./x/../e/"].map String.toList) ∧
      folders.isFile "/p/t.json".toList = true) ∧
    (folders.absolute "/p/t.json".toList = inFolders ["t.json"] ∧
      (gathered folders (inFolders ["t.json"])).result = .ok [inFolders ["a.ts"]]) ∧
    reachedFrom folders (inFolders ["t.json"]).folder true [inFolders ["a.ts"]] =
      [["a.ts"], ["b.ts"], ["c", "d.ts"], ["e", "index.ts"]].map inFolders := by
  unfold folders folders.file
  -- evaluation is slow in taking the characters of a literal, so they are taken first
  repeat rw [String.toList_ofList]
  decide +kernel

theorem imports_folders : ∀ name ∈ [".", "./b/", "./c/d.js", "./x/../e/"].map String.toList,
    Imports folders (inFolders ["a.ts"]) name := imports_of_load folders_steps.1.1

theorem read_folders : (read folders true "/p/t.json".toList).result =
    .ok ⟨inFolders [], inFolders ["t.json"], [["a.ts"], ["b.ts"], ["c", "d.ts"], ["e", "index.ts"]].map inFolders⟩ := by
  obtain ⟨⟨-, hfile⟩, ⟨habsolute, hgathered⟩, hreached⟩ := folders_steps
  refine read_ok_iff.2 ⟨hfile, _, habsolute ▸ hgathered, ?_⟩
  rw [habsolute, hreached, inTextOrder_of_pairwise (by decide)]
  rfl

theorem resolveImport_sought_folders :
    let a := inFolders ["a.ts"]
    folders.IsReal ∧ a.IsProper ∧
      ((¬ IsOverlooked folders a "./c/d.js".toList ∧ ∀ p, ¬ IsShadowed folders a "./c/d.js".toList p) ∧
        resolveImport folders a "./c/d.js".toList = sought? folders a "./c/d.js".toList) ∧
      (IsOverlooked folders a ".".toList ∧ resolveImport folders a ".".toList = none) ∧
      (IsShadowed folders a "./b/".toList (inFolders ["b.ts"]) ∧
        resolveImport folders a "./b/".toList = some (inFolders ["b.ts"])) ∧
      ∃ p, (read folders true "/p/t.json".toList).result = .ok p ∧ a ∈ p.sources ∧
        Imports folders a "./x/../e/".toList ∧
        sought? folders a "./x/../e/".toList = some (inFolders ["e", "index.ts"]) ∧
        isSource p.root (inFolders ["e", "index.ts"]) = true ∧ inFolders ["e", "index.ts"] ∈ p.sources := by
  intro a
  have hfile : ¬ IsOverlooked folders a "./c/d.js".toList ∧ ∀ p, ¬ IsShadowed folders a "./c/d.js".toList p :=
    ⟨by decide, fun p h => absurd h.2.1 (by decide)⟩
  have hoverlooked : IsOverlooked folders a ".".toList := by decide +kernel
  have hshadowed : IsShadowed folders a "./b/".toList (inFolders ["b.ts"]) := by decide +kernel
  have hmem : a ∈ [["a.ts"], ["b.ts"], ["c", "d.ts"], ["e", "index.ts"]].map inFolders := List.mem_cons_self ..
  have himports : Imports folders a "./x/../e/".toList := imports_folders _ (by decide)
  have hsought : sought? folders a "./x/../e/".toList = some (inFolders ["e", "index.ts"]) := by decide +kernel
  have hsource : isSource (inFolders []) (inFolders ["e", "index.ts"]) = true := by decide
  have hneither : ¬ (IsOverlooked folders a "./x/../e/".toList ∨ ∃ q, IsShadowed folders a "./x/../e/".toList q) := by
    have hnone : (scriptPaths (importTarget a "./x/../e/".toList)).find? (fun p => folders.isFile p.text) = none := by
      decide +kernel
    rintro (h | ⟨q, -, -, hq⟩)
    · exact absurd h.1 (by decide)
    · rw [hnone] at hq
      cases hq
  obtain ⟨hlookup, hfollow⟩ := resolveImport_sought folders_isReal
  exact ⟨folders_isReal, inFolders_isProper, ⟨hfile, (hlookup a _ inFolders_isProper).1.2 hfile⟩,
    ⟨hoverlooked, (hlookup a _ inFolders_isProper).2.1 hoverlooked⟩,
    ⟨hshadowed, (hlookup a _ inFolders_isProper).2.2 _ hshadowed⟩, _, read_folders, hmem, himports, hsought, hsource,
    (hfollow _ _ read_folders a hmem _ _ himports hsought hsource).resolve_right hneither⟩

/-- **A folder that is named by a dot is not found, and neither is one beside which there is a script**, though a source
imports them and `index.ts` is there. -/
theorem resolveImport_sought_not :
    let a := inFolders ["a.ts"]
    folders.IsReal ∧ a.IsProper ∧
      sought? folders a ".".toList = some (inFolders ["index.ts"]) ∧ resolveImport folders a ".".toList = none ∧
      sought? folders a "./b/".toList = some (inFolders ["b", "index.ts"]) ∧
      resolveImport folders a "./b/".toList = some (inFolders ["b.ts"]) ∧
      ∃ p, (read folders true "/p/t.json".toList).result = .ok p ∧ a ∈ p.sources ∧
        (Imports folders a ".".toList ∧ isSource p.root (inFolders ["index.ts"]) = true ∧
          inFolders ["index.ts"] ∉ p.sources) ∧
        Imports folders a "./b/".toList ∧ isSource p.root (inFolders ["b", "index.ts"]) = true ∧
          inFolders ["b", "index.ts"] ∉ p.sources := by
  intro a
  exact ⟨folders_isReal, inFolders_isProper, by decide +kernel, by decide +kernel, by decide +kernel,
    by decide +kernel, _, read_folders, List.mem_cons_self ..,
    ⟨imports_folders _ (by decide), by decide, by decide⟩, imports_folders _ (by decide), by decide, by decide⟩

end Project
end ViewAtlas
