import ViewAtlas.Proofs.File.Reaching
import ViewAtlas.Proofs.Project.Loading
import ViewAtlas.Proofs.Project.Rearranging
/-!
# What a project may contain

A file is selected by its name, by a pattern or by an import.  Whichever way it is, there is a file at its path
(`selected_isThere`, `reachedFrom_isThere`), so every source is spelled in one way, below the root.  How the entries of
`files`, `include` and `exclude` are arranged does not matter to the sources (`read_contents`), unless a configuration is
a script of the project itself (`read_contents_script`).
-/
namespace ViewAtlas
namespace Project

open File (Disk Path)

variable {d d' : Disk}

/-! ## Files of the disk -/

/-- **There is a file at a path**, down from the outermost folder by its names. -/
def IsThere (d : Disk) (f : Path) : Prop := d.Holds f.names ∧ d.isFile f.text = true

theorem listedBy_isThere {folder : Path} {v : Json.Value} {paths : List Path} (hfolder : folder.IsRead)
    (h : listedBy d folder v = .ok paths) : ∀ f ∈ paths, f.isAbsolute = true → IsThere d f := by
  obtain ⟨name, -, h⟩ := bind_ok_iff.1 h
  obtain ⟨isThere, hfind, h⟩ := bind_ok_iff.1 h
  cases h
  intro f hf habs
  split at hf
  · rename_i hthere
    rw [List.mem_singleton.1 hf] at habs ⊢
    have hfile : d.isFile (folder.join (.ofText name)).normal.text = true := (findFile_eq_ok hfind).2.trans hthere
    have hread := (hfolder.join (File.ofText_isRead name)).normal
    have hplain : Path.up ∉ (folder.join (.ofText name)).normal.names := File.up_notMem_normal habs
    have hholds := File.holds_of_isFile habs hread hfile
    rw [File.normal_eq_self hplain] at hholds
    exact ⟨hholds, hfile⟩
  · cases hf

theorem isThere_of_locate (hd : d.IsReal) {path : Path} {r : File.Place} (habs : path.isAbsolute = true)
    (hread : path.IsRead) (hr : d.locate path.text = .ok r) (hfile : r.entry.isFile = true) :
    IsThere d { r.path with slashes := path.slashes } := by
  refine ⟨⟨r, .of_locate hr, hfile, rfl⟩, ?_⟩
  have hspelled := File.locate_spelled hd habs hread hr
  change d.isFile (⟨path.slashes, r.names.reverse⟩ : Path).text = true
  rwa [Disk.isFile, hspelled]

theorem expand_isThere {folder : Path} {pattern : Text} {paths : List Path} (hd : d.IsReal) (hfolder : folder.IsRead)
    (h : expand d folder pattern = .ok paths) : ∀ f ∈ paths, f.isAbsolute = true → IsThere d f := by
  intro f hf habs
  rcases mem_expand h hf with ⟨p, hp, -, r, hr, hfile, hshort, rfl⟩ | ⟨g, p, hg, hp, hruns, r, hr, hfile, rfl⟩
  · have hread : (folder.join (.ofText pattern)).IsRead := hfolder.join (File.ofText_isRead pattern)
    obtain ⟨below, hbelow, -⟩ := File.mem_within hr
    have hnamed : (folder.join (.ofText pattern)).isAbsolute = true := habs
    have hway := File.IsWayTo.down hd hnamed hread hp ((File.Disk.Has.of_locate hp).within hr) hbelow
    have hthere := isThere_of_locate hd hway.absolute hway.read (hway.locate hshort) hfile
    exact hthere
  · obtain ⟨hselect, hkind⟩ := List.mem_filter.1 hr
    have hway : File.IsWayTo d folder p := ⟨habs, hfolder, .of_locate hp, fun _ => hp⟩
    have hnames : ∀ n, .name n ∈ g.parts → n ≠ [] ∧ n ≠ ['.'] ∧ '/' ∉ n := fun n hn =>
      File.ofText_isRead pattern n (mem_of_reads (reads_ofText hg).2 hn)
    obtain ⟨way, hroot, hread, hslashes, hr⟩ := File.locate_of_selectParts hd hway hnames hruns hselect hkind
    exact hslashes ▸ isThere_of_locate hd hroot hread hr hfile

theorem includesOf_isRead {root : Path} {s : Settings} {i : Setting} (hroot : root.IsRead) (hs : s.IsRead)
    (h : includesOf root s = some i) : i.folder.IsRead := by
  unfold includesOf at h
  split at h
  · rename_i j hj
    cases h
    exact hs.includes i hj
  · split at h
    · cases h
      exact hroot
    · cases h

theorem selected_isThere {root : Path} {s : Settings} {paths : List Path} (hd : d.IsReal) (hroot : root.IsRead)
    (hs : s.IsRead) (h : (selected d root s).result = .ok paths) :
    ∀ f ∈ paths, f.isAbsolute = true → IsThere d f := by
  rw [selected_eq, result_listed] at h
  obtain ⟨names, hnames, h⟩ := bind_ok_iff.1 h
  obtain ⟨found, hfound, h⟩ := bind_ok_iff.1 h
  cases h
  have hfolder : (s.files.getD ⟨[], root⟩).folder.IsRead := by
    cases hfiles : s.files with
    | none => exact hroot
    | some x => exact hs.files x hfiles
  intro f hf habs
  rcases List.mem_append.1 hf with hf | hf
  · rcases ((mem_collect hnames).2 f).1 hf with hf | ⟨v, -, paths, hpaths, hf⟩
    · cases hf
    · exact listedBy_isThere hfolder hpaths f hf habs
  · unfold chosen at hfound
    split at hfound
    · rename_i i hi
      rcases ((mem_collect hfound).2 f).1 hf with hf | ⟨v, -, kept, hkept, hf⟩
      · cases hf
      · obtain ⟨pattern, -, hkept⟩ := bind_ok_iff.1 hkept
        obtain ⟨expanded, hexpanded, hkept⟩ := bind_ok_iff.1 hkept
        exact expand_isThere hd (includesOf_isRead hroot hs hi) hexpanded f (mem_of_mem_filterM hkept hf) habs
    · cases hfound
      cases hf

/-! ## Sources -/

/-- **A source as it is spelled in a project**: the one normal absolute path of a file below the root, of a script and
in no folder of packages or products. -/
structure IsSpelled (d : Disk) (root f : Path) : Prop where
  absolute : f.isAbsolute = true
  normal : f.normal = f
  text : Path.ofText f.text = f
  isFile : d.isFile f.text = true
  below : ∃ names, names ≠ [] ∧ f = ⟨root.slashes, root.names ++ names⟩ ∧ ∀ n ∈ names.dropLast, n ∉ skippedFolders
  isScript : scriptEnd <:+ f.text
  isKept : ∀ e ∈ skippedEnds, ¬ e <:+ f.text

theorem isSource_iff {root f : Path} : isSource root f = true ↔
    scriptEnd <:+ f.name ∧ (∀ e ∈ skippedEnds, ¬ e <:+ f.name) ∧
      ∃ names, f = ⟨root.slashes, root.names ++ names⟩ ∧ ∀ n ∈ names.dropLast, n ∉ skippedFolders := by
  have hbelow : ∀ {names}, root.below? f = some names ↔ f = ⟨root.slashes, root.names ++ names⟩ := by
    intro names
    unfold Path.below?
    constructor
    · intro h
      split at h
      · rename_i hunder
        obtain ⟨rest, hrest⟩ := List.isPrefixOf_iff_prefix.1 hunder.2
        cases h
        rw [← hrest, List.drop_left, hunder.1]
        cases f
        exact congrArg _ hrest.symm
      · cases h
    · rintro rfl
      simp
  have hends : (skippedEnds.any fun e => e.isSuffixOf f.name) = false ↔ ∀ e ∈ skippedEnds, ¬ e <:+ f.name := by
    simp only [List.any_eq_false, List.isSuffixOf_iff_suffix]
  have hfolders : ∀ {names : List Text}, (names.dropLast.any skippedFolders.contains) = false ↔
      ∀ n ∈ names.dropLast, n ∉ skippedFolders := by
    intro names
    simp only [List.any_eq_false, List.contains_iff_mem]
  unfold isSource
  rw [Bool.and_eq_true, Bool.and_eq_true, List.isSuffixOf_iff_suffix, Bool.not_eq_true', hends, and_assoc]
  refine and_congr_right fun _ => and_congr_right fun _ => ?_
  cases hnames : root.below? f with
  | none => simp [← hbelow, hnames]
  | some names =>
    simp only [Bool.not_eq_true', hfolders, ← hbelow, hnames, Option.some.injEq, exists_eq_left']

theorem isSpelled_of_isSource {root f : Path} (hd : d.IsReal) (hroot : root.slashes = 1 ∨ root.slashes = 2)
    (hroots : ¬ d.Holds root.names) (hsource : isSource root f = true) (h : IsThere d f) : IsSpelled d root f := by
  obtain ⟨h, hfile⟩ := h
  obtain ⟨hscript, hkept, names, hf, hfolders⟩ := isSource_iff.1 hsource
  obtain ⟨hnames, hproper⟩ := h.isName hd
  have hslashes : f.slashes = root.slashes := by rw [hf]
  have hread : f.IsRead := File.isRead_of_isName hproper
  have hsome : f.slashes ≠ 0 := by omega
  have hends : ∀ e : Text, '/' ∉ e → (e <:+ f.text ↔ e <:+ f.name) := fun e he => File.suffix_text_iff hnames he
  refine ⟨by simpa [Path.isAbsolute] using hsome, ?_, File.ofText_text hread hnames (by omega), hfile,
    ⟨names, ?_, hf, hfolders⟩, (hends _ (by decide)).2 hscript, fun e he => ?_⟩
  · exact File.normal_eq_self fun hup => (File.isPlain_of_isName (hproper _ hup)).2.2 rfl
  · rintro rfl
    rw [List.append_nil] at hf
    exact hroots (by rwa [hf] at h)
  · have hslash : ∀ e ∈ skippedEnds, '/' ∉ e := by decide
    rw [hends e (hslash e he)]
    exact hkept e he

theorem gathered_isThere {path : Path} {sources : List Path} (hd : d.IsReal) (hpath : path.IsRead)
    (habs : path.isAbsolute = true) (h : (gathered d path).result = .ok sources) :
    ∀ f ∈ sources, IsThere d f ∧ isSource path.folder f = true := by
  obtain ⟨s, hs, h⟩ := Noted.result_andThen_ok_iff.1 h
  obtain ⟨paths, hpaths, h⟩ := Noted.result_andThen_ok_iff.1 h
  cases h
  intro f hf
  obtain ⟨hmem, hsource⟩ := List.mem_filter.1 (List.mem_eraseDups.1 ((List.mergeSort_perm _ _).mem_iff.1 hf))
  obtain ⟨-, -, names, hnames, -⟩ := isSource_iff.1 hsource
  refine ⟨selected_isThere hd hpath.folder (resolve_isRead hpath hs) hpaths f hmem ?_, hsource⟩
  rw [hnames]
  exact habs

theorem reachedFrom_nodup {root : Path} {followImports : Bool} {sources : List Path} (h : sources.Nodup) :
    (reachedFrom d root followImports sources).Nodup := by
  cases followImports with
  | false => exact h
  | true =>
    exact ((Worklist.sound_start h (.refl _) (List.reverse_perm sources).symm).run
      (follow_run sources sources.reverse [])).nodup

theorem reachedFrom_isLeast {root : Path} {sources : List Path} (h : sources.Nodup) :
    IsLeast (Worklist.closures d root sources) {f | f ∈ reachedFrom d root true sources} :=
  ((Worklist.sound_start h (.refl _) (List.reverse_perm sources).symm).run
    (follow_run sources sources.reverse [])).isLeast rfl

theorem isThere_of_resolveImport {importer t : Path} {name : Text} (h : resolveImport d importer name = some t) :
    IsThere d t := by
  refine ⟨File.holds_of_mem_filePaths (mem_filePaths_of_resolveImport h), ?_⟩
  unfold resolveImport at h
  split at h
  · have hfound := List.find?_some h
    simp only [Bool.and_eq_true] at hfound
    exact hfound.1.2
  · cases h

theorem reachedFrom_isThere {root : Path} {followImports : Bool} {sources : List Path} (hn : sources.Nodup)
    (h : ∀ f ∈ sources, IsThere d f ∧ isSource root f = true) :
    ∀ f ∈ reachedFrom d root followImports sources, IsThere d f ∧ isSource root f = true := by
  cases followImports with
  | false => exact h
  | true =>
    have hclosed : {f | IsThere d f ∧ isSource root f = true} ∈ Worklist.closures d root sources := by
      refine ⟨h, ?_⟩
      rintro f - t ⟨-, -, name, -, ht, hsource⟩
      exact ⟨isThere_of_resolveImport ht, hsource⟩
    exact fun f hf => (reachedFrom_isLeast hn).2 hclosed hf

/-! ## Order -/

theorem inTextOrder_pairwise (paths : List Path) : (inTextOrder paths).Pairwise fun a b => ¬ b.text < a.text := by
  have hsorted : (inTextOrder paths).Pairwise fun a b => (!(b.text < a.text)) = true := by
    refine List.pairwise_mergeSort (fun a b c hab hbc => ?_) (fun a b => ?_) paths
    · simp only [Bool.not_eq_true', decide_eq_false_iff_not, List.not_lt] at hab hbc ⊢
      exact List.le_trans hab hbc
    · simp only [Bool.or_eq_true, Bool.not_eq_true', decide_eq_false_iff_not, List.not_lt]
      exact List.le_total _ _
  exact hsorted.imp fun h => by simpa using h

theorem inTextOrder_strict {paths : List Path} (hn : paths.Nodup) (htext : ∀ f ∈ paths, Path.ofText f.text = f) :
    (inTextOrder paths).Pairwise fun a b => a.text < b.text := by
  have hnodup := (inTextOrder_perm paths).nodup_iff.2 hn
  refine ((inTextOrder_pairwise paths).and hnodup).imp_of_mem fun {a b} ha hb hab => ?_
  have hmem := fun f => (inTextOrder_perm paths).mem_iff (a := f)
  by_contra hnot
  refine hab.2 ?_
  rw [← htext a ((hmem a).1 ha), ← htext b ((hmem b).1 hb),
    List.le_antisymm (List.not_lt.1 hab.1) (List.not_lt.1 hnot)]

theorem inTextOrder_eq {paths paths' : List Path} (hn : paths.Nodup) (hn' : paths'.Nodup)
    (htext : ∀ f ∈ paths, Path.ofText f.text = f) (h : ∀ f, f ∈ paths ↔ f ∈ paths') :
    inTextOrder paths = inTextOrder paths' := by
  have hperm : (inTextOrder paths).Perm (inTextOrder paths') :=
    (inTextOrder_perm paths).trans (((List.perm_ext_iff_of_nodup hn hn').2 h).trans (inTextOrder_perm paths').symm)
  refine hperm.eq_of_pairwise (fun a b ha hb hab hba => ?_) (inTextOrder_pairwise _) (inTextOrder_pairwise _)
  have ha := (inTextOrder_perm paths).mem_iff.1 ha
  have hb := (h b).2 ((inTextOrder_perm paths').mem_iff.1 hb)
  rw [← htext a ha, ← htext b hb, List.le_antisymm (List.not_lt.1 hab) (List.not_lt.1 hba)]

/-! ## Rearranged entries -/

/-- Whether the script of a file imports a module by a name. -/
def Imports (d : Disk) (f : Path) (name : Text) : Prop :=
  ∃ s, Script.Source.load d f.text = .ok s ∧ name ∈ s.imports

theorem leadsTo_iff {root f t : Path} : LeadsTo d root f t ↔
    ∃ name, Imports d f name ∧ resolveImport d f name = some t ∧ isSource root t = true := by
  constructor
  · rintro ⟨s, hs, name, hname, h⟩
    exact ⟨name, ⟨s, hs, hname⟩, h⟩
  · rintro ⟨name, ⟨s, hs, hname⟩, h⟩
    exact ⟨s, hs, name, hname, h⟩

theorem leadsTo_alike {R : List UInt8 → List UInt8 → Prop} (h : d.Alike R d') {root f t : Path}
    (himports : ∀ name, Imports d f name ↔ Imports d' f name) : LeadsTo d root f t ↔ LeadsTo d' root f t := by
  have hresolve : ∀ name, resolveImport d f name = resolveImport d' f name := by
    intro name
    unfold resolveImport
    simp only [h.filePaths, h.isFile]
  simp only [leadsTo_iff, himports, hresolve]

theorem gathered_same (h : d.Alike Reorders d') {path : Path} {sources : List Path}
    (hsources : (gathered d path).result = .ok sources) :
    ∃ sources', (gathered d' path).result = .ok sources' ∧ ∀ f, f ∈ sources ↔ f ∈ sources' := by
  obtain ⟨s, hs, hsources⟩ := Noted.result_andThen_ok_iff.1 hsources
  obtain ⟨paths, hpaths, hsources⟩ := Noted.result_andThen_ok_iff.1 hsources
  cases hsources
  have hresolve := resolve_reordered h [] path
  rw [hs] at hresolve
  obtain ⟨s', hs', hsame⟩ : ∃ s', (resolve d' [] path).result = .ok s' ∧ s.Same s' := by
    generalize (resolve d' [] path).result = y at hresolve
    cases hresolve with
    | ok hsame => exact ⟨_, rfl, hsame⟩
  obtain ⟨paths', hpaths', hmem⟩ := selected_same h hsame hpaths
  refine ⟨_, Noted.result_andThen_ok_iff.2 ⟨s', hs', Noted.result_andThen_ok_iff.2 ⟨paths', hpaths', rfl⟩⟩, fun f => ?_⟩
  rw [inOrder, inOrder, (List.mergeSort_perm _ _).mem_iff, (List.mergeSort_perm _ _).mem_iff, List.mem_eraseDups,
    List.mem_eraseDups, List.mem_filter, List.mem_filter, hmem]

/-- **The same sources lead to the same**, when the files that are reached import the same. -/
theorem reachedFrom_same {R : List UInt8 → List UInt8 → Prop} (h : d.Alike R d') {root : Path} {followImports : Bool}
    {sources sources' : List Path} (hn : sources.Nodup) (hn' : sources'.Nodup) (hsame : ∀ f, f ∈ sources ↔ f ∈ sources')
    (himports : followImports = true → ∀ f ∈ reachedFrom d root true sources, ∀ name,
      Imports d f name ↔ Imports d' f name) :
    ∀ f, f ∈ reachedFrom d root followImports sources ↔ f ∈ reachedFrom d' root followImports sources' := by
  cases followImports with
  | false => exact hsame
  | true =>
    have himports := himports rfl
    have hleast : IsLeast (Worklist.closures d root sources) {f | f ∈ reachedFrom d root true sources} :=
      reachedFrom_isLeast hn
    have hleast' : IsLeast (Worklist.closures d' root sources') {f | f ∈ reachedFrom d' root true sources'} :=
      reachedFrom_isLeast hn'
    have hback : ∀ f ∈ reachedFrom d' root true sources', f ∈ reachedFrom d root true sources := by
      refine fun f hf => hleast'.2 ⟨fun f hf => hleast.1.1 f ((hsame f).2 hf), fun f hf t hlead => ?_⟩ hf
      exact hleast.1.2 f hf t ((leadsTo_alike h (himports f hf)).2 hlead)
    refine fun f => ⟨fun hf => ?_, hback f⟩
    -- what is reached on the other disk is closed under imports on this one too
    refine hleast.2 ⟨fun f hf => hleast'.1.1 f ((hsame f).1 hf), fun f hf t hlead => ?_⟩ hf
    exact hleast'.1.2 f hf t ((leadsTo_alike h (himports f (hback f hf))).1 hlead)

/-- **What a project may contain.**  Its sources are in strict order of their texts, and each is spelled in one way.
They do not change when entries of `files`, `include` and `exclude` are put in another order or repeated, in any of the
configurations, as long as no source imports other modules for it. -/
theorem read_contents {followImports : Bool} {c : Text} {p : Project} (hd : d.IsReal)
    (h : (read d followImports c).result = .ok p) :
    p.root = (d.absolute c).folder ∧ (p.sources.Pairwise fun a b => a.text < b.text) ∧
      (∀ f ∈ p.sources, IsSpelled d p.root f) ∧
      ∀ d', d.Alike Reorders d' →
        (followImports = true → ∀ f ∈ p.sources, ∀ name, Imports d f name ↔ Imports d' f name) →
          (read d' followImports c).result = .ok p := by
  obtain ⟨hfile, sources, hsources, rfl⟩ := read_ok_iff.1 h
  have hslashes := File.absolute_slashes d c
  have hgathered := gathered_isThere hd (File.absolute_isRead hd.named c)
    (by simp only [Path.isAbsolute, decide_eq_true_eq]; omega) hsources
  have hn := nodup_gathered hsources
  have hroot : ¬ d.Holds (d.absolute c).folder.names := (File.holds_absolute hd hfile).not_dropLast hd
  have hnodup : (reachedFrom d (d.absolute c).folder followImports sources).Nodup := reachedFrom_nodup hn
  have hspelled : ∀ f ∈ reachedFrom d (d.absolute c).folder followImports sources,
      IsSpelled d (d.absolute c).folder f := by
    intro f hf
    obtain ⟨hthere, hsource⟩ := reachedFrom_isThere hn hgathered f hf
    exact isSpelled_of_isSource hd hslashes hroot hsource hthere
  refine ⟨rfl, inTextOrder_strict hnodup fun f hf => (hspelled f hf).text, fun f hf => ?_, fun d' halike himports => ?_⟩
  · exact hspelled f ((inTextOrder_perm _).mem_iff.1 hf)
  · obtain ⟨sources', hsources', hsame⟩ := gathered_same halike hsources
    have habsolute := halike.absolute c
    refine read_ok_iff.2 ⟨halike.isFile c ▸ hfile, sources', habsolute ▸ hsources', ?_⟩
    rw [← habsolute]
    refine congrArg _ (inTextOrder_eq hnodup (reachedFrom_nodup (nodup_gathered hsources'))
      (fun f hf => (hspelled f hf).text) (reachedFrom_same halike hn (nodup_gathered hsources') hsame ?_))
    intro hfollow f hf
    subst hfollow
    exact himports rfl f ((inTextOrder_perm _).mem_iff.2 hf)

theorem reorders_of_onlySetting {a b : List UInt8} {names names' : List Text}
    (ha : onlySetting? a = some ("files".toList, names)) (hb : onlySetting? b = some ("files".toList, names'))
    (hsub : names ⊆ names') (hsub' : names' ⊆ names) : Reorders a b := by
  obtain ⟨s, hs, hrecord⟩ := readRelaxed_of_onlySetting ha
  obtain ⟨t, ht, hrecord'⟩ := readRelaxed_of_onlySetting hb
  refine .configuration hs hrecord ht hrecord' ⟨rfl, .list ⟨fun v => ?_, .inr ?_⟩, .same _, .same _⟩
  · simp only [List.mem_map]
    exact ⟨fun h => h.imp fun n hn => ⟨hsub hn.1, hn.2⟩, fun h => h.imp fun n hn => ⟨hsub' hn.1, hn.2⟩⟩
  · rintro v hv
    obtain ⟨n, -, rfl⟩ := List.mem_map.1 hv
    exact ⟨n, rfl⟩

def listing (entries : String) : List UInt8 :=
  Text.Utf8.encode ("\x7b\"files\":[".toList ++ entries.toList ++ "]\x7d".toList)

/-- A disk with a configuration and two scripts. -/
def withScripts (configuration : List UInt8) : Disk where
  entries := [("p".toList, .folder [
    ("t.json".toList, .file configuration),
    ("a.ts".toList, .file (Text.Utf8.encode "import './b'".toList)),
    ("b.ts".toList, .file [])])]
  home := []

theorem withScripts_alike {a b : List UInt8} (h : Reorders a b) : (withScripts a).Alike Reorders (withScripts b) :=
  ⟨⟨rfl, ⟨rfl, h, rfl, .same _, rfl, .same _, trivial⟩, trivial⟩, rfl⟩

theorem read_contents_listing :
    let d := withScripts (listing "\"./a.ts\",\"q/../a.ts\",\"b.d.ts\"")
    let d' := withScripts (listing "\"b.d.ts\",\"./a.ts\",\"b.d.ts\",\"q/../a.ts\"")
    (read d true "/p/t.json".toList).result = .ok (cycleOf ["a.ts", "b.ts"]) ∧
      IsSpelled d (cycleOf []).root ⟨1, ["p".toList, "b.ts".toList]⟩ ∧ d.Alike Reorders d' ∧
        (read d' true "/p/t.json".toList).result = .ok (cycleOf ["a.ts", "b.ts"]) := by
  intro d d'
  have hd : d.IsReal := ⟨by decide, by decide, by decide⟩
  have hsteps : d.isFile "/p/t.json".toList = true ∧ d.absolute "/p/t.json".toList = (cycleOf []).configuration ∧
      (gathered d (cycleOf []).configuration).result = .ok (cycleOf ["a.ts"]).sources ∧
      reachedFrom d (cycleOf []).configuration.folder true (cycleOf ["a.ts"]).sources =
        (cycleOf ["a.ts", "b.ts"]).sources := by
    unfold d withScripts listing
    -- evaluation is slow in taking the characters of a literal, so they are taken first
    repeat rw [String.toList_ofList]
    decide +kernel
  obtain ⟨hfile, habsolute, hgathered, hreached⟩ := hsteps
  have hp : (read d true "/p/t.json".toList).result = .ok (cycleOf ["a.ts", "b.ts"]) := by
    refine read_ok_iff.2 ⟨hfile, _, habsolute ▸ hgathered, ?_⟩
    rw [habsolute, hreached, inTextOrder_of_pairwise (by decide)]
    rfl
  have hlisted : Reorders (listing "\"./a.ts\",\"q/../a.ts\",\"b.d.ts\"")
      (listing "\"b.d.ts\",\"./a.ts\",\"b.d.ts\",\"q/../a.ts\"") := by
    have honly : onlySetting? (listing "\"./a.ts\",\"q/../a.ts\",\"b.d.ts\"") =
          some ("files".toList, ["./a.ts", "q/../a.ts", "b.d.ts"].map String.toList) ∧
        onlySetting? (listing "\"b.d.ts\",\"./a.ts\",\"b.d.ts\",\"q/../a.ts\"") =
          some ("files".toList, ["b.d.ts", "./a.ts", "b.d.ts", "q/../a.ts"].map String.toList) := by
      unfold listing
      repeat rw [String.toList_ofList]
      decide +kernel
    exact reorders_of_onlySetting honly.1 honly.2 (by decide) (by decide)
  have halike : d.Alike Reorders d' := withScripts_alike hlisted
  obtain ⟨-, -, hspelled, hsame⟩ := read_contents hd hp
  refine ⟨hp, hspelled _ (by decide), halike, hsame d' halike fun _ f hf name => ?_⟩
  have hread : ∀ f ∈ (cycleOf ["a.ts", "b.ts"]).sources, d.read f.text = d'.read f.text := by decide +kernel
  unfold Imports Script.Source.load
  rw [hread f hf]

/-- A configuration that lists files, and is a script too: for a script a line ends at U+2028, for a configuration it
does not. -/
def scriptListing (entries : String) : List UInt8 :=
  Text.Utf8.encode ("//\u2028/*\n\x7b\"files\":[".toList ++ entries.toList ++ "]\x7d//*/".toList)

def asScript (configuration : List UInt8) : Disk where
  entries := [("p".toList, .folder [("t.ts".toList, .file configuration), ("u.ts".toList, .file [])])]
  home := []

theorem asScript_alike {a b : List UInt8} (h : Reorders a b) : (asScript a).Alike Reorders (asScript b) :=
  ⟨⟨rfl, ⟨rfl, h, rfl, .same _, trivial⟩, trivial⟩, rfl⟩

/-- **Where a configuration is a script of its project**, its list stands in a comment of the script.  Its entries may
end the comment, so their order matters. -/
theorem read_contents_script :
    let d := asScript (scriptListing "\"t.ts\",\"*/import './u';/*\",\"*/;//\"")
    let d' := asScript (scriptListing "\"t.ts\",\"*/;//\",\"*/import './u';/*\"")
    d.IsReal ∧ d.Alike Reorders d' ∧ ∃ p p', (read d true "/p/t.ts".toList).result = .ok p ∧
      (read d' true "/p/t.ts".toList).result = .ok p' ∧ p.sources = (cycleOf ["t.ts", "u.ts"]).sources ∧
        p'.sources = (cycleOf ["t.ts"]).sources := by
  intro d d'
  have hlisted : Reorders (scriptListing "\"t.ts\",\"*/import './u';/*\",\"*/;//\"")
      (scriptListing "\"t.ts\",\"*/;//\",\"*/import './u';/*\"") := by
    have honly : onlySetting? (scriptListing "\"t.ts\",\"*/import './u';/*\",\"*/;//\"") =
          some ("files".toList, ["t.ts", "*/import './u';/*", "*/;//"].map String.toList) ∧
        onlySetting? (scriptListing "\"t.ts\",\"*/;//\",\"*/import './u';/*\"") =
          some ("files".toList, ["t.ts", "*/;//", "*/import './u';/*"].map String.toList) := by
      unfold scriptListing
      repeat rw [String.toList_ofList]
      decide +kernel
    exact reorders_of_onlySetting honly.1 honly.2 (by decide) (by decide)
  have hread : ∀ {d : Disk} {reached : List Path}, (d.isFile "/p/t.ts".toList = true ∧
      d.absolute "/p/t.ts".toList = ⟨1, ["p".toList, "t.ts".toList]⟩ ∧
      (gathered d ⟨1, ["p".toList, "t.ts".toList]⟩).result = .ok (cycleOf ["t.ts"]).sources) →
      reachedFrom d ⟨1, ["p".toList]⟩ true (cycleOf ["t.ts"]).sources = reached →
      (reached.Pairwise fun a b => (!(b.text < a.text)) = true) →
        ∃ p, (read d true "/p/t.ts".toList).result = .ok p ∧ p.sources = reached := by
    rintro d reached ⟨hfile, habsolute, hgathered⟩ hreached hsorted
    refine ⟨_, read_ok_iff.2 ⟨hfile, _, habsolute ▸ hgathered, rfl⟩, ?_⟩
    rw [habsolute]
    change inTextOrder (reachedFrom d ⟨1, ["p".toList]⟩ true _) = reached
    rw [hreached, inTextOrder_of_pairwise hsorted]
  have hsteps : (∀ x ∈ [d, d'], x.isFile "/p/t.ts".toList = true ∧
        x.absolute "/p/t.ts".toList = ⟨1, ["p".toList, "t.ts".toList]⟩ ∧
        (gathered x ⟨1, ["p".toList, "t.ts".toList]⟩).result = .ok (cycleOf ["t.ts"]).sources) ∧
      reachedFrom d ⟨1, ["p".toList]⟩ true (cycleOf ["t.ts"]).sources = (cycleOf ["t.ts", "u.ts"]).sources ∧
      reachedFrom d' ⟨1, ["p".toList]⟩ true (cycleOf ["t.ts"]).sources = (cycleOf ["t.ts"]).sources := by
    unfold d d' asScript scriptListing
    repeat rw [String.toList_ofList]
    decide +kernel
  obtain ⟨hsame, hreached, hreached'⟩ := hsteps
  obtain ⟨p, hp, hsources⟩ := hread (hsame d (by simp)) hreached (by decide)
  obtain ⟨p', hp', hsources'⟩ := hread (hsame d' (by simp)) hreached' (by decide)
  exact ⟨⟨by decide, by decide, by decide⟩, asScript_alike hlisted, p, p', hp, hp', hsources, hsources'⟩

end Project
end ViewAtlas
