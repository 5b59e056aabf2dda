import ViewAtlas.Proofs.Project.Extending
/-!
# Circles of configurations

A configuration is a file, and a file may be named in many ways.  Whichever way a base is named, it is looked up in the
same order for all spellings of the path that names it (`basePaths_respelled`), so following paths and following files
comes to the same (`LeadsToFile.hasBase`, `LeadsToFile.exists_extends`), as long as no path is too long.  Resolving a
configuration ends (`acc_calls`), it succeeds unless a file that is reached leads back to itself, and it says so where one
does (`settings_circular_iff`).
-/
namespace ViewAtlas
namespace Project

open File (Disk Path Place Spells Respells)
open Json (Value)

variable {d : Disk} {chain : List Path} {path p q : Path} {v : Value} {a b : Place}

/-! ## Respelled configurations -/

theorem load_of_locate (h : d.locate p.text = d.locate q.text) (hload : load d p.text = .ok v) :
    load d q.text = .ok v := by
  have hread : d.read p.text = d.read q.text := by
    unfold Disk.read
    rw [h]
  unfold load at hload ⊢
  rw [← hread]
  cases hr : d.read p.text with
  | error why =>
    rw [hr] at hload
    rcases why with (_ | _ | _ | _) | _ | _ <;> cases hload
  | ok s =>
    rw [hr] at hload
    dsimp only at hload ⊢
    cases hs : Json.readRelaxed s with
    | error fault =>
      rw [hs] at hload
      cases fault <;> cases hload
    | ok w =>
      rw [hs] at hload
      cases w <;> exact hload

/-! ## Files that extend others -/

/-- **A configuration file extends another**: it names it, and the file is at the first path of that name at which there is
one. -/
def HasBase (d : Disk) (a b : Place) : Prop :=
  ∃ v t c, load d a.path.text = .ok v ∧ t ∈ baseTexts v ∧
    (basePaths a.path.folder t).find? (fun p => d.isFile p.text) = some c ∧ d.locate c.text = .ok b

/-- **A path leads to a file of the disk**, which it spells. -/
structure LeadsToFile (d : Disk) (p : Path) (a : Place) : Prop where
  locate : d.locate p.text = .ok a
  isFile : a.entry.isFile = true
  spells : Spells p a

namespace LeadsToFile

theorem isFound (h : LeadsToFile d p a) : IsFound d p := ⟨a, h.locate, h.isFile, h.spells⟩

theorem respells_path (hd : d.IsReal) (h : LeadsToFile d p a) : Respells p a.path :=
  h.spells.respells_path hd (.of_locate h.locate)

theorem locate_path (hd : d.IsReal) (h : LeadsToFile d p a) : d.locate p.text = d.locate a.path.text :=
  ((h.respells_path hd).locate (File.isTooLong_of_locate h.locate)).symm

theorem of_isFile (hd : d.IsReal) {c : Path} (hproper : c.IsProper) (h : d.isFile c.text = true) :
    ∃ b, d.locate c.text = .ok b ∧ LeadsToFile d c.normal b := by
  obtain ⟨b, hb, hfile⟩ := File.exists_locate_of_isFile h
  exact ⟨b, hb, File.locate_normal hd hproper hb, hfile, File.spells_normal hproper.1 hproper.2 hb⟩

theorem hasBase (hd : d.IsReal) (h : LeadsToFile d p a) (hload : load d p.text = .ok v) (htyped : IsWellTyped v)
    (hpq : Extends d p q) : ∃ b, HasBase d a b ∧ LeadsToFile d q b := by
  have hp := h.respells_path hd
  obtain ⟨t, ht, hq⟩ := (extends_iff hload htyped).1 hpq
  obtain ⟨found, hfound, hq⟩ := basePath?_eq_ok hq
  obtain ⟨c, rfl, rfl⟩ := Option.map_eq_some_iff.1 hq.symm
  have hfind := find?_of_findM? hfound
  have hproper := isProper_of_mem_basePaths hp.folder.left (List.mem_of_find?_eq_some hfind)
  obtain ⟨b, hb, hleads⟩ := of_isFile hd hproper (List.find?_some (p := fun p : Path => d.isFile p.text) hfind)
  obtain ⟨found', hfound', hcc⟩ := findM?_respelled (basePaths_respelled hp.folder t) hfound
  cases hcc with
  | @some _ c' hcc =>
    refine ⟨b, ⟨v, t, c', load_of_locate (h.locate_path hd) hload, ht, find?_of_findM? hfound', ?_⟩, hleads⟩
    rw [hcc.locate (File.isTooLong_of_locate hb), hb]

theorem exists_extends (hd : d.IsReal) (h : LeadsToFile d p a) (hload : load d p.text = .ok v) (htyped : IsWellTyped v)
    (hshort : ¬ MeetsTooLong d p) (hab : HasBase d a b) : ∃ q, Extends d p q ∧ LeadsToFile d q b := by
  have hp := h.respells_path hd
  obtain ⟨w, t, c, hw, ht, hc, hb⟩ := hab
  cases (load_of_locate (h.locate_path hd) hload).symm.trans hw
  cases hbase : basePath? d p.folder t with
  | error e => exact absurd (.of_mem hload htyped ht (basePath?_eq_error_iff.1 hbase).2) hshort
  | ok found =>
    obtain ⟨found', hfound', rfl⟩ := basePath?_eq_ok hbase
    obtain ⟨found'', hfound'', hcc⟩ := findM?_respelled (basePaths_respelled hp.folder t) hfound'
    -- the file is found by the shorter spelling, so the longer one finds it too
    obtain rfl : found'' = some c := (find?_of_findM? hfound'').symm.trans hc
    cases hcc with
    | @some c' _ hcc =>
      have hfind := find?_of_findM? hfound'
      have hproper := isProper_of_mem_basePaths hp.folder.left (List.mem_of_find?_eq_some hfind)
      obtain ⟨b', hb', hleads⟩ := of_isFile hd hproper (List.find?_some (p := fun p : Path => d.isFile p.text) hfind)
      rw [hcc.locate (File.isTooLong_of_locate hb'), hb'] at hb
      cases hb
      exact ⟨c'.normal, (extends_iff hload htyped).2 ⟨t, ht, hbase⟩, hleads⟩

end LeadsToFile

/-! ## Chains of files -/

abbrev ReachesFile (d : Disk) : Place → Place → Prop := Relation.ReflTransGen (HasBase d)

/-- **All configuration files that are reached are loaded**, with settings of the right kind. -/
def AllFilesLoad (d : Disk) (a : Place) : Prop :=
  ∀ b, ReachesFile d a b → ∃ v, load d b.path.text = .ok v ∧ IsWellTyped v

/-- **A file leads back to itself** that is reached. -/
def HasCircle (d : Disk) (a : Place) : Prop := ∃ b, ReachesFile d a b ∧ Relation.TransGen (HasBase d) b b

theorem AllFilesLoad.of_hasBase (h : AllFilesLoad d a) (hab : HasBase d a b) : AllFilesLoad d b :=
  fun c hc => h c (.head hab hc)

theorem AllFilesLoad.load (hd : d.IsReal) (h : AllFilesLoad d a) (hp : LeadsToFile d p a) :
    ∃ v, Project.load d p.text = .ok v ∧ IsWellTyped v := by
  obtain ⟨v, hload, htyped⟩ := h a .refl
  exact ⟨v, load_of_locate (hp.locate_path hd).symm hload, htyped⟩

theorem reachesFile_of_reaches (hd : d.IsReal) (hpq : Reaches d p q) : ∀ {a : Place}, LeadsToFile d p a →
    AllFilesLoad d a → ∃ b, ReachesFile d a b ∧ LeadsToFile d q b := by
  induction hpq using Relation.ReflTransGen.head_induction_on with
  | refl => exact fun hp _ => ⟨_, .refl, hp⟩
  | head hstep _ ih =>
    intro a hp hall
    obtain ⟨v, hload, htyped⟩ := hall.load hd hp
    obtain ⟨b, hab, hb⟩ := hp.hasBase hd hload htyped hstep
    obtain ⟨c, hbc, hc⟩ := ih hb (hall.of_hasBase hab)
    exact ⟨c, .head hab hbc, hc⟩

theorem reaches_of_reachesFile (hd : d.IsReal) (hab : ReachesFile d a b) : ∀ {p : Path}, LeadsToFile d p a →
    AllLoad d p → ¬ MeetsTooLong d p → ∃ q, Reaches d p q ∧ LeadsToFile d q b := by
  induction hab using Relation.ReflTransGen.head_induction_on with
  | refl => exact fun hp _ _ => ⟨_, .refl, hp⟩
  | head hstep _ ih =>
    intro p hp hall hshort
    obtain ⟨v, hload, htyped⟩ := hall p .refl
    obtain ⟨q, hpq, hq⟩ := hp.exists_extends hd hload htyped hshort hstep
    obtain ⟨r, hqr, hr⟩ := ih hq (hall.of_extends hpq) fun h => hshort (h.of_reaches (.single hpq))
    exact ⟨r, .head hpq hqr, hr⟩

theorem AllFilesLoad.allLoad (hd : d.IsReal) (hp : LeadsToFile d p a) (hall : AllFilesLoad d a) : AllLoad d p := by
  intro q hpq
  obtain ⟨b, hab, hb⟩ := reachesFile_of_reaches hd hpq hp hall
  exact AllFilesLoad.load hd (fun c hc => hall c (hab.trans hc)) hb

theorem AllLoad.allFilesLoad (hd : d.IsReal) (hp : LeadsToFile d p a) (hall : AllLoad d p) (hshort : ¬ MeetsTooLong d p) :
    AllFilesLoad d a := by
  intro b hab
  obtain ⟨q, hpq, hq⟩ := reaches_of_reachesFile hd hab hp hall hshort
  obtain ⟨v, hload, htyped⟩ := hall q hpq
  exact ⟨v, load_of_locate (hq.locate_path hd) hload, htyped⟩

theorem exists_transGen (hd : d.IsReal) (hp : LeadsToFile d p a) (hall : AllLoad d p) (hshort : ¬ MeetsTooLong d p)
    (ha : Relation.TransGen (HasBase d) a a) : ∃ q, Relation.TransGen (Extends d) p q ∧ LeadsToFile d q a := by
  obtain ⟨b, hab, hba⟩ := Relation.TransGen.head'_iff.1 ha
  obtain ⟨v, hload, htyped⟩ := hall p .refl
  obtain ⟨r, hpr, hr⟩ := hp.exists_extends hd hload htyped hshort hab
  obtain ⟨q, hrq, hq⟩ := reaches_of_reachesFile hd hba hr (hall.of_extends hpr) fun h => hshort (h.of_reaches (.single hpr))
  exact ⟨q, Relation.TransGen.head'_iff.2 ⟨r, hpr, hrq⟩, hq⟩

/-- **Where there is a circle of paths, there is one of files.** -/
theorem hasCircle_of_isCircular (hd : d.IsReal) (hp : LeadsToFile d p a) (hall : AllFilesLoad d a)
    (h : IsCircular d p) : HasCircle d a := by
  obtain ⟨q, hpq, hcircle⟩ := h
  obtain ⟨b, hab, hb⟩ := reachesFile_of_reaches hd hpq hp hall
  have hallb : AllFilesLoad d b := fun c hc => hall c (hab.trans hc)
  obtain ⟨r, hqr, hrq⟩ := Relation.TransGen.head'_iff.1 hcircle
  obtain ⟨v, hload, htyped⟩ := hallb.load hd hb
  obtain ⟨c, hbc, hc⟩ := hb.hasBase hd hload htyped hqr
  obtain ⟨b', hcb, hb'⟩ := reachesFile_of_reaches hd hrq hc (hallb.of_hasBase hbc)
  obtain rfl : b = b' := Except.ok.inj (hb.locate.symm.trans hb'.locate)
  exact ⟨b, hab, Relation.TransGen.head'_iff.2 ⟨c, hbc, hcb⟩⟩

/-- **Where there is a circle of files, there is one of paths**, as long as no base is met that cannot be looked up. -/
theorem isCircular_of_hasCircle (hd : d.IsReal) (hp : LeadsToFile d p a) (hall : AllLoad d p)
    (hshort : ¬ MeetsTooLong d p) (h : HasCircle d a) : IsCircular d p := by
  obtain ⟨b, hab, hcircle⟩ := h
  -- one of the two spellings is met twice when the circle is gone through twice
  obtain ⟨q₀, hq₀, hb₀⟩ := reaches_of_reachesFile hd hab hp hall hshort
  have hall₀ : AllLoad d q₀ := fun r hr => hall r (hq₀.trans hr)
  have hshort₀ : ¬ MeetsTooLong d q₀ := fun h => hshort (h.of_reaches hq₀)
  obtain ⟨q₁, hq₁, hb₁⟩ := exists_transGen hd hb₀ hall₀ hshort₀ hcircle
  have hall₁ : AllLoad d q₁ := fun r hr => hall₀ r (hq₁.to_reflTransGen.trans hr)
  have hshort₁ : ¬ MeetsTooLong d q₁ := fun h => hshort₀ (h.of_reaches hq₁.to_reflTransGen)
  obtain ⟨q₂, hq₂, hb₂⟩ := exists_transGen hd hb₁ hall₁ hshort₁ hcircle
  rcases hb₀.spells.two hb₁.spells hb₂.spells with rfl | rfl | rfl
  · exact ⟨q₀, hq₀, hq₁⟩
  · exact ⟨q₁, hq₀.trans hq₁.to_reflTransGen, hq₂⟩
  · exact ⟨q₀, hq₀, hq₁.trans hq₂⟩

/-! ## How resolving ends -/

/-- **Resolving one configuration resolves another**, with one more path in the chain. -/
inductive Calls (d : Disk) : List Path × Path → List Path × Path → Prop
  | intro {chain : List Path} {path base : Path} (hnew : path ∉ chain) (h : Extends d path base) :
      Calls d (chain ++ [path], base) (chain, path)

/-- **Resolving ends**: each call takes one of the paths of all files into the chain. -/
theorem acc_calls (hd : d.IsReal) {chain : List Path} {path : Path} (hp : IsFound d path) :
    Acc (Calls d) (chain, path) := by
  refine .intro _ fun call h => ?_
  cases h with
  | @intro _ _ base hnew h =>
    have hfile := hp.mem_filePaths
    exact acc_calls hd (hp.of_extends hd h)
termination_by remaining d chain
decreasing_by exact remaining_append hfile hnew

/-- **How resolving ends.**  When all configuration files that are reached are loaded, with settings of the right kind, the
calls of resolving come to an end.  As long as no base is met that cannot be looked up, they end with the failure that
tells a circle when a file that is reached leads back to itself, in whichever way the files are named, and with settings
when none does.  Such a base ends them with a failure too, and the failure tells a circle only where there is one. -/
theorem settings_circular_iff (hd : d.IsReal) (c : Text) (ha : d.locate (d.absolute c).text = .ok a)
    (hall : AllFilesLoad d a) :
    Acc (Calls d) ([], d.absolute c) ∧
      (¬ MeetsTooLong d (d.absolute c) →
        ((∃ chain, (settings d c).result = .error (.circular chain)) ↔ HasCircle d a) ∧
          ((∃ s, (settings d c).result = .ok s) ↔ ¬ HasCircle d a)) ∧
        (MeetsTooLong d (d.absolute c) → (settings d c).result = .error .tooLong ∨
          HasCircle d a ∧ ∃ chain, (settings d c).result = .error (.circular chain)) := by
  have hspells := File.spells_absolute hd ha
  have hleads : LeadsToFile d (d.absolute c) a := by
    obtain ⟨v, hload, -⟩ := hall a .refl
    have hlocate := (hspells.respells_path hd (.of_locate ha)).locate (File.isTooLong_of_locate ha)
    obtain ⟨b, hb, hfile⟩ := exists_file_of_load hload
    obtain rfl : a = b := Except.ok.inj (ha.symm.trans (hlocate.symm.trans hb))
    exact ⟨ha, hfile, hspells⟩
  have hpaths := hall.allLoad hd hleads
  have hok : (∃ s, (settings d c).result = .ok s) ↔ _ := resolve_ok_iff hd hleads.isFound hpaths
  have hcases : ∀ e, (settings d c).result = .error e →
      (∃ chain, e = .circular chain) ∧ HasCircle d a ∨ e = .tooLong ∧ MeetsTooLong d (d.absolute c) := by
    intro e h
    rcases resolve_error_cases hd hleads.isFound hpaths (.singleton _) h with ⟨front, q, rfl, hq, hfront, hprefix⟩ | h
    · exact .inl ⟨⟨_, rfl⟩, hasCircle_of_isCircular hd hleads hall (isCircular_of_isChain hfront hq hprefix)⟩
    · exact .inr h
  refine ⟨acc_calls hd hleads.isFound, fun hshort => ?_, fun hmeets => ?_⟩
  · have hsettings : (∃ s, (settings d c).result = .ok s) ↔ ¬ HasCircle d a := by
      rw [hok]
      refine ⟨fun h hcircle => h.1 (isCircular_of_hasCircle hd hleads hpaths hshort hcircle), fun h => ⟨fun hc => ?_, hshort⟩⟩
      exact h (hasCircle_of_isCircular hd hleads hall hc)
    refine ⟨⟨?_, fun hcircle => ?_⟩, hsettings⟩
    · rintro ⟨chain, hchain⟩
      rcases hcases _ hchain with ⟨-, hcircle⟩ | ⟨-, hmeets⟩
      · exact hcircle
      · exact absurd hmeets hshort
    · cases h : (settings d c).result with
      | ok s => exact absurd hcircle (hsettings.1 ⟨s, h⟩)
      | error e =>
        rcases hcases e h with ⟨⟨chain, rfl⟩, -⟩ | ⟨-, hmeets⟩
        · exact ⟨chain, rfl⟩
        · exact absurd hmeets hshort
  · cases h : (settings d c).result with
    | ok s => exact absurd hmeets (hok.1 ⟨s, h⟩).2
    | error e =>
      rcases hcases e h with ⟨⟨chain, rfl⟩, hcircle⟩ | ⟨rfl, -⟩
      · exact .inr ⟨hcircle, chain, rfl⟩
      · exact .inl rfl

def circle : Disk where
  entries :=
    [("p".toList, .folder
      [("t.json".toList, file "\x7b\"extends\":[\"pkg\",\"./q/../u\"]\x7d"),
        ("u.json".toList, file "\x7b\"extends\":\"//p/t\"\x7d"),
        ("q".toList, .folder []),
        ("node_modules".toList, .folder
          [("pkg".toList, .folder [("tsconfig.json".toList, file "\x7b\"extends\":\"../../u.json\"\x7d")])])])]
  home := ["p".toList]
where
  file (s : String) : File.Entry := .file (Text.Utf8.encode s.toList)

def circlePaths : List Path :=
  [1, 2].flatMap fun k => [["p", "t.json"], ["p", "u.json"], ["p", "node_modules", "pkg", "tsconfig.json"]].map fun names =>
    ⟨k, names.map String.toList⟩

theorem settings_circular_pkg :
    circle.IsReal ∧ ∃ a, circle.locate (circle.absolute "t.json".toList).text = .ok a ∧ AllFilesLoad circle a ∧
      Acc (Calls circle) ([], circle.absolute "t.json".toList) ∧
        ((∃ chain, (settings circle "t.json".toList).result = .error (.circular chain)) ↔ HasCircle circle a) ∧
          ((∃ s, (settings circle "t.json".toList).result = .ok s) ↔ ¬ HasCircle circle a) := by
  have hd : circle.IsReal := ⟨by decide, by decide, by decide⟩
  have hpaths : circlePaths.all (leadsInto circle circlePaths) = true := by
    unfold circle circle.file
    -- evaluation is slow in taking the characters of a literal, so they are taken first
    repeat rw [String.toList_ofList]
    decide +kernel
  have hpath : circle.absolute "t.json".toList ∈ circlePaths := by decide +kernel
  obtain ⟨hall, hshort⟩ := of_all_leadsInto hpaths hpath
  obtain ⟨v, hload, -⟩ := hall _ .refl
  obtain ⟨a, ha, hfile, hp⟩ := isFound_absolute hd hload
  have hfiles := AllLoad.allFilesLoad hd ⟨ha, hfile, hp⟩ hall hshort
  obtain ⟨hends, hiff, -⟩ := settings_circular_iff hd _ ha hfiles
  exact ⟨hd, a, ha, hfiles, hends, hiff hshort⟩

/-- **Where a base has a name that is too long**, there is no circle and there are no settings either. -/
theorem settings_circular_overlong :
    overlong.IsReal ∧ ∃ a, overlong.locate (overlong.absolute "/p/t.json".toList).text = .ok a ∧
      AllFilesLoad overlong a ∧ ¬ HasCircle overlong a ∧
        (settings overlong "/p/t.json".toList).result = .error .tooLong := by
  have hpath : overlong.absolute "/p/t.json".toList = overlongPath := by decide +kernel
  obtain ⟨a, ha, hfile⟩ := exists_file_of_load load_overlong
  have hnames : a.path = overlongPath := by
    have hread : overlongPath.IsRead := File.isRead_of_isName (by decide +kernel)
    have hnormal := File.locate_names rfl hread ha
    change (⟨1, a.names.reverse⟩ : Path) = _
    rw [hnormal]
    rfl
  have hnone : ∀ b, ¬ HasBase overlong a b := by
    rintro b ⟨v, t, c, hload, ht, hc, -⟩
    rw [hnames] at hload hc
    cases load_overlong.symm.trans hload
    obtain rfl := List.mem_singleton.1 ht
    have hmissing : (basePaths overlongPath.folder tooLongBase).find? (fun p => overlong.isFile p.text) = none := by
      decide +kernel
    rw [hmissing] at hc
    cases hc
  refine ⟨⟨by decide, by decide, by decide⟩, a, hpath ▸ ha, fun b hb => ?_, ?_, ?_⟩
  · rcases Relation.ReflTransGen.cases_head hb with rfl | ⟨c, hc, -⟩
    · exact ⟨_, hnames ▸ load_overlong, isWellTyped_overlong⟩
    · exact absurd hc (hnone c)
  · rintro ⟨b, hb, hcircle⟩
    rcases Relation.ReflTransGen.cases_head hb with rfl | ⟨c, hc, -⟩
    · obtain ⟨c, hc, -⟩ := Relation.TransGen.head'_iff.1 hcircle
      exact hnone c hc
    · exact hnone c hc
  · change (resolve overlong [] _).result = _
    rw [hpath]
    exact resolve_overlong

end Project
end ViewAtlas
