import ViewAtlas.Proofs.File.Naming
import ViewAtlas.Proofs.Project.Excluding
import ViewAtlas.Proofs.Project.Following
import ViewAtlas.Proofs.Project.Lookup
/-!
# The sources of a project

On a disk that is named properly, every setting starts from a folder whose path can be written (`resolve_isRead`), so
every path that is selected or imported can be written too.  All sources lie below the root of their project, and as
seen from there no two have the same text (`read_distinct`).
-/
namespace ViewAtlas

namespace Project

open File (Disk Path Place Glob)

variable {d : Disk}

/-! ## Lists with failures -/

theorem bind_ok_iff {ε α β : Type} {a : Except ε α} {f : α → Except ε β} {y : β} :
    a >>= f = .ok y ↔ ∃ x, a = .ok x ∧ f x = .ok y := by
  cases a <;> simp [bind, Except.bind]

theorem foldlM_ok_keeps {ε α β : Type} {f : β → α → Except ε β} {P : β → Prop}
    (hstep : ∀ a b b', P b → f b a = .ok b' → P b') : ∀ {l : List α} {b c : β}, P b → l.foldlM f b = .ok c → P c
  | [], _, _, hb, h => by
    cases h
    exact hb
  | a :: l, b, c, hb, h => by
    rw [List.foldlM_cons] at h
    obtain ⟨x, hx, hl⟩ := bind_ok_iff.1 h
    exact foldlM_ok_keeps hstep (hstep a b x hb hx) hl

theorem mem_of_mem_filterAuxM {ε α : Type} {f : α → Except ε Bool} {x : α} : ∀ {l acc r : List α},
    l.filterAuxM f acc = .ok r → x ∈ r → x ∈ l ∨ x ∈ acc
  | [], _, _, h, hx => by
    cases h
    exact .inr hx
  | a :: l, acc, r, h, hx => by
    rw [List.filterAuxM] at h
    obtain ⟨b, -, h⟩ := bind_ok_iff.1 h
    rcases mem_of_mem_filterAuxM h hx with h | h
    · exact .inl (List.mem_cons_of_mem _ h)
    · cases b with
      | false => exact .inr h
      | true =>
        rcases List.mem_cons.1 h with rfl | h
        · exact .inl (List.mem_cons_self ..)
        · exact .inr h

theorem mem_of_mem_filterM {ε α : Type} {f : α → Except ε Bool} {x : α} {l r : List α} (h : l.filterM f = .ok r)
    (hx : x ∈ r) : x ∈ l := by
  obtain ⟨found, hfound, hr⟩ := bind_ok_iff.1 h
  cases hr
  rcases mem_of_mem_filterAuxM hfound (List.mem_reverse.1 hx) with h | h
  · exact h
  · cases h

/-! ## Settings -/

/-- **Settings whose folders can be written.** -/
structure Settings.IsRead (s : Settings) : Prop where
  files : ∀ x ∈ s.files, x.folder.IsRead
  includes : ∀ x ∈ s.includes, x.folder.IsRead
  excludes : ∀ x ∈ s.excludes, x.folder.IsRead

theorem none_isRead : Settings.none.IsRead := ⟨fun _ h => (nomatch h), fun _ h => (nomatch h), fun _ h => (nomatch h)⟩

theorem Settings.IsRead.before {s t : Settings} (hs : s.IsRead) (ht : t.IsRead) : (s.before t).IsRead := by
  have hor : ∀ {a b : Option Setting}, (∀ x ∈ a, x.folder.IsRead) → (∀ x ∈ b, x.folder.IsRead) →
      ∀ x ∈ (a <|> b), x.folder.IsRead := by
    intro a b ha hb
    cases a with
    | none => exact hb
    | some x => exact ha
  exact ⟨hor hs.files ht.files, hor hs.includes ht.includes, hor hs.excludes ht.excludes⟩

theorem ownSetting_folder {folder : Path} {config : Json.Value} {name : String} {x : Option Setting}
    (h : ownSetting folder config name = .ok x) : ∀ y ∈ x, y.folder = folder := by
  unfold ownSetting at h
  split at h
  · cases h
    exact fun _ h => nomatch h
  · split at h
    · cases h
      intro y hy
      cases hy
      rfl
    · cases h

theorem ownSettings_isRead {folder : Path} {config : Json.Value} {s : Settings} (hfolder : folder.IsRead)
    (h : ownSettings folder config = .ok s) : s.IsRead := by
  obtain ⟨files, hfiles, h⟩ := bind_ok_iff.1 h
  obtain ⟨includes, hincludes, h⟩ := bind_ok_iff.1 h
  obtain ⟨excludes, hexcludes, h⟩ := bind_ok_iff.1 h
  cases h
  exact ⟨fun x hx => ownSetting_folder hfiles x hx ▸ hfolder, fun x hx => ownSetting_folder hincludes x hx ▸ hfolder,
    fun x hx => ownSetting_folder hexcludes x hx ▸ hfolder⟩

theorem basePath?_isRead {folder p : Path} {name : Text} (hfolder : folder.IsRead)
    (h : basePath? d folder name = .ok (some p)) : p.IsRead := by
  obtain ⟨q, hmem, -, rfl⟩ := basePath?_eq_some h
  refine Path.IsRead.normal ?_
  have hjoin : ∀ {r : Path} (s : Text), r.IsRead → (r.join (.ofText s)).IsRead := fun s hr =>
    hr.join (File.ofText_isRead s)
  have hnear : q ∈ [folder.join (.ofText name), folder.join (.ofText (name ++ ".json".toList))] → q.IsRead := by
    intro hm
    rcases List.mem_cons.1 hm with rfl | hm
    · exact hjoin _ hfolder
    · rw [List.mem_singleton.1 hm]
      exact hjoin _ hfolder
  unfold basePaths at hmem
  split at hmem
  · exact hnear hmem
  · exact hnear hmem
  · obtain ⟨f, hf, hmem⟩ := List.mem_flatMap.1 hmem
    have hpackage := hjoin name (hjoin "node_modules".toList (hfolder.of_mem_upward hf))
    simp only [List.mem_cons, List.not_mem_nil, or_false] at hmem
    rcases hmem with rfl | rfl | rfl
    · exact hpackage
    · exact File.ofText_isRead _
    · exact hjoin _ hpackage

/-- **Every setting of a configuration starts from a folder that can be written**, whichever configuration states
it. -/
theorem resolve_isRead {chain : List Path} {path : Path} {s : Settings} (hpath : path.IsRead)
    (h : (resolve d chain path).result = .ok s) : s.IsRead := by
  rw [resolve] at h
  by_cases hc : path ∈ chain
  · rw [dif_pos hc] at h
    cases h
  · rw [dif_neg hc] at h
    obtain ⟨config, -, h⟩ := Noted.result_andThen_ok_iff.1 h
    by_cases hp : path ∈ d.filePaths
    · rw [dif_pos hp] at h
      obtain ⟨names, -, h⟩ := Noted.result_andThen_ok_iff.1 h
      obtain ⟨inherited, hinherited, h⟩ := Noted.result_andThen_ok_iff.1 h
      obtain ⟨own, hown, h⟩ := Noted.result_andThen_ok_iff.1 h
      cases h
      refine (ownSettings_isRead hpath.folder hown).before (Noted.foldlM_keeps ?_ none_isRead hinherited)
      intro name settings settings' hsettings hstep
      split at hstep
      · rename_i name
        split at hstep
        · cases hstep
        · obtain ⟨-, -, hstep⟩ := Noted.result_andThen_ok_iff.1 hstep
          cases hstep
          exact hsettings
        · rename_i base hbase
          obtain ⟨t, ht, hstep⟩ := Noted.result_andThen_ok_iff.1 hstep
          cases hstep
          exact (resolve_isRead (basePath?_isRead hpath.folder hbase) ht).before hsettings
      · cases hstep
    · rw [dif_neg hp] at h
      cases h
      exact none_isRead
termination_by remaining d chain
decreasing_by exact remaining_append hp hc

/-! ## Selected files -/

theorem listed_isRead {s : Setting} {paths : List Path} (hs : s.folder.IsRead) (h : (listed d s).result = .ok paths) :
    ∀ p ∈ paths, p.IsRead := by
  refine Noted.foldlM_keeps (P := fun paths => ∀ p ∈ paths, Path.IsRead p) ?_ (by simp) h
  intro v paths paths' hpaths hstep
  obtain ⟨name, -, hstep⟩ := Noted.result_andThen_ok_iff.1 hstep
  obtain ⟨isThere, -, hstep⟩ := Noted.result_andThen_ok_iff.1 hstep
  split at hstep
  · cases hstep
    intro p hp
    rcases List.mem_append.1 hp with hp | hp
    · exact hpaths p hp
    · rw [List.mem_singleton.1 hp]
      exact (hs.join (File.ofText_isRead name)).normal
  · obtain ⟨-, -, hstep⟩ := Noted.result_andThen_ok_iff.1 hstep
    cases hstep
    exact hpaths

theorem expand_isRead {folder : Path} {pattern : Text} {paths : List Path} (hd : d.isNamed = true)
    (h : expand d folder pattern = .ok paths) : ∀ p ∈ paths, p.IsRead := by
  intro q hq
  rcases mem_expand h hq with ⟨p, hp, -, r, hr, -, -, rfl⟩ | ⟨g, p, -, hp, -, r, hr, -, rfl⟩
  · exact ((File.locate_isNamed hd hp).within hr).isRead
  · exact ((File.locate_isNamed hd hp).selectParts (List.mem_filter.1 hr).1).isRead

theorem included_isRead {includes excludes : Setting} {paths : List Path} (hd : d.isNamed = true)
    (h : included d includes excludes = .ok paths) : ∀ p ∈ paths, p.IsRead := by
  refine foldlM_ok_keeps (P := fun paths => ∀ p ∈ paths, Path.IsRead p) ?_ (by simp) h
  intro v paths paths' hpaths hstep
  obtain ⟨pattern, -, hstep⟩ := bind_ok_iff.1 hstep
  obtain ⟨found, hfound, hstep⟩ := bind_ok_iff.1 hstep
  obtain ⟨kept, hkept, hstep⟩ := bind_ok_iff.1 hstep
  cases hstep
  intro p hp
  rcases List.mem_append.1 hp with hp | hp
  · exact hpaths p hp
  · exact expand_isRead hd hfound p (mem_of_mem_filterM hkept hp)

theorem selected_isRead {root : Path} {s : Settings} {paths : List Path} (hd : d.isNamed = true) (hroot : root.IsRead)
    (hs : s.IsRead) (h : (selected d root s).result = .ok paths) : ∀ p ∈ paths, p.IsRead := by
  obtain ⟨names, hnames, h⟩ := Noted.result_andThen_ok_iff.1 h
  have hlisted : ∀ p ∈ names, p.IsRead := by
    refine listed_isRead ?_ hnames
    cases hfiles : s.files with
    | none => exact hroot
    | some x => exact hs.files x hfiles
  have hsome : ∀ {r : Except Failure (List Path)}, (∀ found, r = .ok found → ∀ p ∈ found, p.IsRead) →
      ((Noted.ofExcept r).andThen fun found => Noted.done (names ++ found)).result = .ok paths →
        ∀ p ∈ paths, p.IsRead := by
    intro r hr h
    obtain ⟨found, hfound, h⟩ := Noted.result_andThen_ok_iff.1 h
    cases h
    intro p hp
    rcases List.mem_append.1 hp with hp | hp
    · exact hlisted p hp
    · exact hr found hfound p hp
  cases hincludes : s.includes with
  | some i =>
    rw [hincludes] at h
    exact hsome (fun _ => included_isRead hd) h
  | none =>
    rw [hincludes] at h
    dsimp only at h
    split at h
    · cases h
      exact hlisted
    · exact hsome (fun _ => included_isRead hd) h

theorem gathered_isRead {path : Path} {sources : List Path} (hd : d.isNamed = true) (hpath : path.IsRead)
    (h : (gathered d path).result = .ok sources) : ∀ p ∈ sources, p.IsRead ∧ isSource path.folder p = true := by
  obtain ⟨s, hs, h⟩ := Noted.result_andThen_ok_iff.1 h
  obtain ⟨paths, hpaths, h⟩ := Noted.result_andThen_ok_iff.1 h
  cases h
  intro p hp
  have hmem := List.mem_filter.1 (List.mem_eraseDups.1 ((List.mergeSort_perm _ _).mem_iff.1 hp))
  exact ⟨selected_isRead hd hpath.folder (resolve_isRead hpath hs) hpaths p hmem.1, hmem.2⟩

/-! ## Sources -/

theorem leadsTo_isRead {root f t : Path} (hd : d.isNamed = true) (h : LeadsTo d root f t) : t.IsRead := by
  obtain ⟨-, -, name, -, ht, -⟩ := h
  exact File.isRead_of_mem_filePaths hd (mem_filePaths_of_resolveImport ht)

/-- **The sources of a project**: each once, at a path that can be written, below the root and not set aside. -/
theorem read_sources {followImports : Bool} {c : Text} {p : Project} (hd : d.isNamed = true)
    (h : (read d followImports c).result = .ok p) :
    p.root = (d.absolute c).folder ∧ p.sources.Nodup ∧ ∀ f ∈ p.sources, f.IsRead ∧ isSource p.root f = true := by
  rw [read_eq] at h
  split at h
  case isFalse => cases h
  obtain ⟨sources, hsources, h⟩ := Noted.result_andThen_ok_iff.1 h
  have hnodup := nodup_gathered hsources
  have hgathered := gathered_isRead hd (File.absolute_isRead hd c) hsources
  cases h
  refine ⟨rfl, (inTextOrder_perm _).nodup_iff.2 ?_, fun f hf => ?_⟩
  · cases followImports with
    | false => exact hnodup
    | true =>
      exact ((Worklist.sound_start hnodup (.refl _) (List.reverse_perm sources).symm).run
        (follow_run sources sources.reverse [])).nodup
  · have hmem := (inTextOrder_perm _).mem_iff.1 hf
    cases followImports with
    | false => exact hgathered f hmem
    | true =>
      obtain ⟨s, hs, hchain⟩ := ((Worklist.sound_start hnodup (.refl _) (List.reverse_perm sources).symm).run
        (follow_run sources sources.reverse [])).led f hmem
      cases hchain with
      | refl => exact hgathered _ hs
      | tail _ hlast =>
        obtain ⟨-, -, -, -, -, hsource⟩ := id hlast
        exact ⟨leadsTo_isRead hd hlast, hsource⟩

theorem read_distinct {followImports : Bool} {c : Text} {p : Project} (hd : d.isNamed = true)
    (h : (read d followImports c).result = .ok p) : ∀ f ∈ p.sources, ∀ g ∈ p.sources,
      (p.root.relative f).text = (p.root.relative g).text → f = g := by
  have hbelow : ∀ {f}, isSource p.root f = true → ∃ names, f = ⟨p.root.slashes, p.root.names ++ names⟩ := by
    intro f hf
    simp only [isSource, Bool.and_eq_true] at hf
    obtain ⟨-, hf⟩ := hf
    unfold Path.below? at hf
    split at hf
    · cases hf
    · rename_i names hnames
      split at hnames
      · rename_i hunder
        obtain ⟨names, hnames⟩ := List.isPrefixOf_iff_prefix.1 hunder.2
        exact ⟨names, by rw [hnames, hunder.1]⟩
      · cases hnames
  intro f hf g hg htext
  obtain ⟨hreadf, hsourcef⟩ := (read_sources hd h).2.2 f hf
  obtain ⟨hreadg, hsourceg⟩ := (read_sources hd h).2.2 g hg
  obtain ⟨names, rfl⟩ := hbelow hsourcef
  obtain ⟨names', rfl⟩ := hbelow hsourceg
  rw [relative_append _ _ names rfl, relative_append _ _ names' rfl] at htext
  have hnames : ∀ {ns : List Text}, (⟨p.root.slashes, p.root.names ++ ns⟩ : Path).IsRead → (⟨0, ns⟩ : Path).IsRead :=
    fun hread n hn => hread n (List.mem_append_right _ hn)
  have hsame : names' = names := by
    have hfirst := File.filter_splitAt_text (hnames hreadf)
    rwa [htext, File.filter_splitAt_text (hnames hreadg)] at hfirst
  rw [hsame]

theorem read_of_selected (d : Disk) (c : Text) (path : Path) (paths : List Path) (hfile : d.isFile c = true)
    (hpath : d.absolute c = path)
    (hselected : ((resolve d [] path).andThen (selected d path.folder)).result = .ok paths)
    (hsources : (paths.filter (isSource path.folder)).eraseDups = paths)
    (hnames : paths.Pairwise fun a b => (!(b.names < a.names)) = true)
    (htexts : paths.Pairwise fun a b => (!(b.text < a.text)) = true) :
    (read d false c).result = .ok ⟨path.folder, path, paths⟩ := by
  have hgathered : (gathered d path).result = .ok paths := by
    rw [gathered, ← Noted.andThen_andThen, Noted.result_andThen hselected]
    refine congrArg Except.ok ?_
    rw [inOrder, hsources]
    exact List.mergeSort_of_pairwise hnames
  rw [read_eq, if_pos hfile, hpath, Noted.result_andThen hgathered]
  change Except.ok (⟨_, _, inTextOrder paths⟩ : Project) = _
  rw [inTextOrder_of_pairwise htexts]

end Project
end ViewAtlas
