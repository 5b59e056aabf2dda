import ViewAtlas.Project.Reading
import ViewAtlas.Proofs.Project.Closure
import ViewAtlas.Proofs.Script.Properties
/-!
# Reading a project with its imports

Whether imports are followed or not, a project is read in the same way up to its selected sources (`read_eq`), and none
of that warns of a file that is not followed (`quiet_gathered`).  So what following adds is the closure that a worklist
reaches, and the warnings are those of the worklist (`read_following`).
-/
namespace ViewAtlas

def Noted.Quiet {ε α : Type} (a : Noted ε α) : Prop := ∀ n ∈ a.notices, Project.isUnfollowed n = false

namespace Noted

variable {ε α β : Type}

theorem quiet_done (a : α) : (done a : Noted ε α).Quiet := fun _ h => nomatch h

theorem quiet_fail (e : ε) : (fail e : Noted ε α).Quiet := fun _ h => nomatch h

theorem quiet_ofExcept (r : Except ε α) : (ofExcept r).Quiet := fun _ h => nomatch h

theorem quiet_note {n : Notice} (hn : Project.isUnfollowed n = false) : (note n : Noted ε Unit).Quiet := by
  intro m hm
  rw [List.mem_singleton.1 hm]
  exact hn

theorem Quiet.andThen {a : Noted ε α} {f : α → Noted ε β} (ha : a.Quiet) (hf : ∀ x, (f x).Quiet) :
    (a.andThen f).Quiet := by
  intro n hn
  unfold Noted.andThen at hn
  cases hr : a.result with
  | error e =>
    rw [hr] at hn
    exact ha n hn
  | ok x =>
    rw [hr] at hn
    rcases List.mem_append.1 hn with hn | hn
    · exact ha n hn
    · exact hf x n hn

theorem noteAll_andThen_done (l : List Notice) (a : α) :
    ((noteAll l : Noted ε Unit).andThen fun _ => done a) = ⟨l, .ok a⟩ := by
  simp [andThen, noteAll, done]

theorem quiet_foldlM {f : β → α → Noted ε β} (hf : ∀ b a, (f b a).Quiet) :
    ∀ (l : List α) (b : β), (l.foldlM f b).Quiet
  | [], b => quiet_done b
  | a :: l, b => (hf b a).andThen fun c => quiet_foldlM hf l c

end Noted

namespace Project

open File (Disk Path)

theorem quiet_listed (d : Disk) (s : Setting) : (listed d s).Quiet := by
  refine Noted.quiet_foldlM (fun paths v => (Noted.quiet_ofExcept _).andThen fun name =>
    (Noted.quiet_ofExcept _).andThen fun isThere => ?_) _ _
  split
  · exact Noted.quiet_done _
  · exact (Noted.quiet_note rfl).andThen fun _ => Noted.quiet_done _

theorem quiet_selected (d : Disk) (root : Path) (s : Settings) : (selected d root s).Quiet := by
  refine (quiet_listed d _).andThen fun names => ?_
  have hsome : ∀ r : Except Failure (List Path),
      ((Noted.ofExcept r).andThen fun paths => Noted.done (names ++ paths)).Quiet := fun r =>
    (Noted.quiet_ofExcept r).andThen fun _ => Noted.quiet_done _
  cases s.includes with
  | some i => exact hsome _
  | none =>
    dsimp only
    split
    · exact Noted.quiet_done _
    · exact hsome _

/-- **Settings are resolved without a warning of imports**: each configuration that a chain does not hold yet is one
file less that can be extended. -/
theorem quiet_resolve (d : Disk) (chain : List Path) (path : Path) : (resolve d chain path).Quiet := by
  rw [resolve]
  by_cases hc : path ∈ chain
  · rw [dif_pos hc]
    exact Noted.quiet_fail _
  · rw [dif_neg hc]
    refine (Noted.quiet_ofExcept _).andThen fun config => ?_
    by_cases hp : path ∈ d.filePaths
    · rw [dif_pos hp]
      refine (Noted.quiet_ofExcept _).andThen fun names =>
        Noted.Quiet.andThen (Noted.quiet_foldlM ?_ _ _) fun inherited =>
          (Noted.quiet_ofExcept _).andThen fun own => Noted.quiet_done _
      intro settings name
      split
      · split
        · exact Noted.quiet_fail _
        · exact (Noted.quiet_note rfl).andThen fun _ => Noted.quiet_done _
        · exact (quiet_resolve d (chain ++ [path]) _).andThen fun s => Noted.quiet_done _
      · exact Noted.quiet_fail _
    · rw [dif_neg hp]
      exact Noted.quiet_done _
termination_by remaining d chain
decreasing_by exact remaining_append hp hc

/-- **The sources that a configuration selects**, before imports are followed. -/
def gathered (d : Disk) (path : Path) : Noted Failure (List Path) :=
  (resolve d [] path).andThen fun s => (selected d path.folder s).andThen fun paths =>
    .done (inOrder (paths.filter (isSource path.folder)))

theorem quiet_gathered (d : Disk) (path : Path) : (gathered d path).Quiet :=
  (quiet_resolve d [] path).andThen fun s => (quiet_selected d path.folder s).andThen fun _ => Noted.quiet_done _

theorem read_eq (d : Disk) (followImports : Bool) (c : Text) :
    read d followImports c =
      if d.isFile c then
        (gathered d (d.absolute c)).andThen fun sources =>
          let root := (d.absolute c).folder
          let found := if followImports then follow d root sources sources.reverse else ([], sources)
          ⟨found.1, .ok ⟨root, d.absolute c, inTextOrder found.2⟩⟩
      else .fail (.notFound c) := by
  unfold read gathered
  cases d.isFile c with
  | false => rfl
  | true =>
    simp only [Bool.not_true, Bool.false_eq_true, if_false, if_true, Noted.bind_eq_andThen, Noted.andThen_andThen,
      Noted.done_andThen]
    cases followImports with
    | false => rfl
    | true => simp only [if_true, Noted.pure_eq_done, Noted.noteAll_andThen_done]

/-- The sources that are reached, in the order in which they are. -/
def reachedFrom (d : Disk) (root : Path) (followImports : Bool) (sources : List Path) : List Path :=
  if followImports then (follow d root sources sources.reverse).2 else sources

theorem read_ok_iff {d : Disk} {followImports : Bool} {c : Text} {p : Project} : (read d followImports c).result = .ok p ↔
    d.isFile c = true ∧ ∃ sources, (gathered d (d.absolute c)).result = .ok sources ∧
      p = ⟨(d.absolute c).folder, d.absolute c,
        inTextOrder (reachedFrom d (d.absolute c).folder followImports sources)⟩ := by
  rw [read_eq]
  cases d.isFile c with
  | false => simp [Noted.fail]
  | true =>
    rw [if_pos rfl, Noted.result_andThen_ok_iff]
    have hfound : ∀ sources, (if followImports then follow d (d.absolute c).folder sources sources.reverse
        else ([], sources)).2 = reachedFrom d (d.absolute c).folder followImports sources := by
      intro sources
      cases followImports <;> rfl
    simp only [hfound, Except.ok.injEq, true_and]
    exact exists_congr fun sources => and_congr_right fun _ => eq_comm

/-! ## Orders -/

theorem nodup_inOrder (paths : List Path) : (inOrder paths).Nodup :=
  (List.mergeSort_perm _ _).nodup_iff.2 (nodup_eraseDups paths)

theorem inTextOrder_perm (paths : List Path) : (inTextOrder paths).Perm paths := List.mergeSort_perm _ _

theorem inTextOrder_of_pairwise {paths : List Path} (h : paths.Pairwise fun a b => (!(b.text < a.text)) = true) :
    inTextOrder paths = paths := List.mergeSort_of_pairwise h

theorem nodup_gathered {d : Disk} {path : Path} {sources : List Path} (h : (gathered d path).result = .ok sources) :
    sources.Nodup := by
  obtain ⟨s, -, h⟩ := Noted.result_andThen_ok_iff.1 h
  obtain ⟨paths, -, h⟩ := Noted.result_andThen_ok_iff.1 h
  cases h
  exact nodup_inOrder _

/-! ## The closure -/

/-- **What it is for `all` to be the sources with what they import**, and for the notices to be those of it. -/
structure Followed (d : Disk) (root : Path) (sources all : List Path) (notices : List Notice) : Prop where
  least : IsLeast (Worklist.closures d root sources) {f | f ∈ all}
  once : all.Nodup
  chained : ∀ f ∈ all, ∃ s ∈ sources, Relation.ReflTransGen (LeadsTo d root) s f
  warned : (notices.filter isUnfollowed).Perm (all.filterMap (warning? d))
  /-- In whichever order pending paths are taken, the worklist ends. -/
  ends : ∀ pending, sources.Perm pending → Acc (fun w' w => Takes d root w w') ⟨[], sources, pending⟩
  /-- In whichever order pending paths are taken, the worklist ends with the same paths and warnings. -/
  anyOrder : ∀ pending w, sources.Perm pending → Relation.ReflTransGen (Takes d root) ⟨[], sources, pending⟩ w →
    (∀ w', ¬ Takes d root w w') →
      w.reached.Perm all ∧ (w.notices.filter isUnfollowed).Perm (notices.filter isUnfollowed)

/-- **A run that has ended** has found what follows from the sources, and so has every other run. -/
theorem Worklist.Sound.followed {d : Disk} {root : Path} {sources all : List Path} {notices : List Notice}
    {w : Worklist} (h : w.Sound d root sources) (hw : w.pending = []) (hn : sources.Nodup) (hall : w.reached.Perm all)
    (hnotices : notices.filter isUnfollowed = w.notices.filter isUnfollowed) :
    Followed d root sources all notices := by
  have hset : {f | f ∈ all} = {f | f ∈ w.reached} := Set.ext fun f => hall.mem_iff.symm
  have hwarned := h.warned hw
  constructor
  case least =>
    rw [hset]
    exact h.isLeast hw
  case once => exact hall.nodup_iff.1 h.nodup
  case chained => exact fun f hf => h.led f (hall.mem_iff.2 hf)
  case warned =>
    rw [hnotices]
    exact hwarned.trans (hall.filterMap _)
  case ends => exact fun pending _ => (Worklist.takes_wellFounded d root).apply _
  case anyOrder =>
    intro pending v hp hrun hend
    have hv := (Worklist.sound_start hn (.refl _) hp).run hrun
    have hvp := Worklist.pending_eq_nil hend
    have hsame := (hv.isLeast hvp).unique (h.isLeast hw)
    have hreached : v.reached.Perm w.reached :=
      (List.perm_ext_iff_of_nodup hv.nodup h.nodup).2 fun f => Set.ext_iff.1 hsame f
    refine ⟨hreached.trans hall, ?_⟩
    rw [hnotices]
    exact (hv.warned hvp).trans ((hreached.filterMap _).trans hwarned.symm)

/-- **Following imports computes the closure** of the sources that are read without it.  It succeeds on the same
configurations; what it adds is reached by imports, in whichever order they are followed; and the files of the closure
that are malformed are those that it warns of, each once. -/
theorem read_following (d : Disk) (c : Text) :
    ((∃ p, (read d true c).result = .ok p) ↔ ∃ q, (read d false c).result = .ok q) ∧
      ∀ p q, (read d true c).result = .ok p → (read d false c).result = .ok q →
        p.root = q.root ∧ p.configuration = q.configuration ∧
          Followed d p.root q.sources p.sources (read d true c).notices := by
  rw [read_eq, read_eq]
  by_cases hc : d.isFile c = true
  case neg =>
    rw [if_neg hc, if_neg hc]
    exact ⟨Iff.rfl, fun p q hp _ => nomatch hp⟩
  rw [if_pos hc, if_pos hc]
  have hquiet := quiet_gathered d (d.absolute c)
  have hnodup := @nodup_gathered d (d.absolute c)
  generalize gathered d (d.absolute c) = g at hquiet hnodup ⊢
  generalize (d.absolute c).folder = root
  obtain ⟨notices, result⟩ := g
  cases result with
  | error e => exact ⟨Iff.rfl, fun p q hp _ => nomatch hp⟩
  | ok sources =>
    refine ⟨⟨fun _ => ⟨_, rfl⟩, fun _ => ⟨_, rfl⟩⟩, ?_⟩
    rintro p q ⟨⟩ ⟨⟩
    refine ⟨rfl, rfl, ?_⟩
    have hsources := (inTextOrder_perm sources).symm
    have hn : sources.Nodup := hnodup rfl
    have hstart : Worklist.Sound d root (inTextOrder sources) ⟨[], sources, sources.reverse⟩ :=
      Worklist.sound_start (hsources.nodup_iff.1 hn) hsources.symm
        (hsources.symm.trans (List.reverse_perm sources).symm)
    refine (hstart.run (follow_run sources sources.reverse [])).followed rfl (hsources.nodup_iff.1 hn)
      (inTextOrder_perm _).symm ?_
    change (notices ++ _).filter isUnfollowed = _
    rw [List.filter_append, List.filter_eq_nil_iff.2 fun n hm => by simp [hquiet n hm]]
    rfl

/-- A disk with a configuration that lists one script, which imports itself and a script that imports it back and
another one that is malformed. -/
def cycle : Disk where
  entries := [("p".toList, .folder [
    ("t.json".toList, file "\x7b\"files\":[\"a.ts\"]\x7d"),
    ("a.ts".toList, file "import './a';import './b'"),
    ("b.ts".toList, file "import './a';import './c'"),
    ("c.ts".toList, file "("),
    ("d.ts".toList, file "")])]
  home := []
where
  file (s : String) : File.Entry := .file (s.toList.map fun c => UInt8.ofNat c.toNat)

def cycleOf (names : List String) : Project where
  root := ⟨1, ["p".toList]⟩
  configuration := ⟨1, ["p".toList, "t.json".toList]⟩
  sources := names.map fun n => ⟨1, ["p".toList, n.toList]⟩

theorem read_following_cycle :
    (read cycle true "/p/t.json".toList).result = .ok (cycleOf ["a.ts", "b.ts", "c.ts"]) ∧
      (read cycle false "/p/t.json".toList).result = .ok (cycleOf ["a.ts"]) ∧
      Followed cycle (cycleOf []).root (cycleOf ["a.ts"]).sources (cycleOf ["a.ts", "b.ts", "c.ts"]).sources
        (read cycle true "/p/t.json".toList).notices := by
  have hsteps : cycle.isFile "/p/t.json".toList = true ∧
      cycle.absolute "/p/t.json".toList = (cycleOf []).configuration ∧
      (gathered cycle (cycleOf []).configuration).result = .ok (cycleOf ["a.ts"]).sources ∧
      reachedFrom cycle (cycleOf []).configuration.folder true (cycleOf ["a.ts"]).sources =
        (cycleOf ["a.ts", "b.ts", "c.ts"]).sources := by
    unfold cycle cycle.file
    -- evaluation is slow in taking the characters of a literal, so they are taken first
    repeat rw [String.toList_ofList]
    decide +kernel
  obtain ⟨hfile, habsolute, hgathered, hreached⟩ := hsteps
  have hp : (read cycle true "/p/t.json".toList).result = .ok (cycleOf ["a.ts", "b.ts", "c.ts"]) := by
    refine read_ok_iff.2 ⟨hfile, _, habsolute ▸ hgathered, ?_⟩
    rw [habsolute, hreached, inTextOrder_of_pairwise (by decide)]
    rfl
  have hq : (read cycle false "/p/t.json".toList).result = .ok (cycleOf ["a.ts"]) := by
    refine read_ok_iff.2 ⟨hfile, _, habsolute ▸ hgathered, ?_⟩
    rw [habsolute]
    change _ = Project.mk _ _ (inTextOrder (cycleOf ["a.ts"]).sources)
    rw [inTextOrder_of_pairwise (by decide)]
    rfl
  exact ⟨hp, hq, ((read_following cycle "/p/t.json".toList).2 _ _ hp hq).2.2⟩

end Project
end ViewAtlas
