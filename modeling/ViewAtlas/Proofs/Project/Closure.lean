import Mathlib.Logic.Relation
import Mathlib.Order.Bounds.Basic
import ViewAtlas.Project.Imports
/-!
# What following imports reaches

Imports lead from a source to sources (`LeadsTo`).  Following them is a worklist: a pending path is taken, what it leads
to that was not reached becomes reached and pending.  Which pending path is taken does not matter: every step keeps
what is said of a worklist in `Worklist.Sound`, every run ends (`takes_wellFounded`), and a run that has ended has
reached the closure of the sources and noted each malformed file of it once (`Worklist.Sound.isLeast`,
`Worklist.Sound.warned`).  `follow` is such a run.
-/
namespace ViewAtlas
namespace Project

open File (Disk Path)

variable {d : Disk} {root : Path}

/-- **An import of a source**: the script of `f` names a module by which it finds `t`, and `t` is a source. -/
def LeadsTo (d : Disk) (root f t : Path) : Prop :=
  ∃ s, Script.Source.load d f.text = .ok s ∧
    ∃ name ∈ s.imports, resolveImport d f name = some t ∧ isSource root t = true

/-- **A set that imports do not leave.** -/
def ClosedUnderImports (d : Disk) (root : Path) (S : Set Path) : Prop := ∀ f ∈ S, ∀ t, LeadsTo d root f t → t ∈ S

/-- The warning that a file is due: one when it has no script. -/
def warning? (d : Disk) (f : Path) : Option Notice :=
  match Script.Source.load d f.text with
  | .error m => some (.importsNotFollowed f.text m.message)
  | .ok _ => none

/-- Whether a notice is the warning of a file whose imports are not followed. -/
def isUnfollowed : Notice → Bool
  | .importsNotFollowed .. => true
  | _ => false

/-! ## What one path leads to -/

theorem freshFrom_fresh (d : Disk) (root : Path) (reached : List Path) (path : Path) (names : List Text) :
    (freshFrom d root reached path names).2.Nodup ∧
      ∀ t ∈ (freshFrom d root reached path names).2, t ∉ reached ∧
        ∃ name ∈ names, resolveImport d path name = some t ∧ isSource root t = true := by
  fun_induction freshFrom d root reached path names with
  | case1 => simp
  | case2 _ _ _ _ ih =>
    exact ⟨ih.1, fun t ht => ⟨(ih.2 t ht).1, (ih.2 t ht).2.imp fun _ h => ⟨List.mem_cons_of_mem _ h.1, h.2⟩⟩⟩
  | case3 _ _ _ _ _ _ ih =>
    exact ⟨ih.1, fun t ht => ⟨(ih.2 t ht).1, (ih.2 t ht).2.imp fun _ h => ⟨List.mem_cons_of_mem _ h.1, h.2⟩⟩⟩
  | case4 reached name names p hp hr hs notices fresh heq ih =>
    rw [heq] at ih
    refine ⟨List.nodup_cons.2 ⟨fun hm => (ih.2 p hm).1 (by simp), ih.1⟩, fun t ht => ?_⟩
    rcases List.mem_cons.1 ht with rfl | ht
    · exact ⟨hr, name, List.mem_cons_self .., hp, hs⟩
    · obtain ⟨h1, name', h2, h3⟩ := ih.2 t ht
      exact ⟨fun hm => h1 (List.mem_append_left _ hm), name', List.mem_cons_of_mem _ h2, h3⟩
  | case5 _ _ _ _ _ _ _ notices fresh heq ih =>
    rw [heq] at ih
    exact ⟨ih.1, fun t ht => ⟨(ih.2 t ht).1, (ih.2 t ht).2.imp fun _ h => ⟨List.mem_cons_of_mem _ h.1, h.2⟩⟩⟩

theorem mem_freshFrom (reached : List Path) (path : Path) (names : List Text) :
    ∀ name ∈ names, ∀ t, resolveImport d path name = some t → isSource root t = true →
      t ∈ reached ∨ t ∈ (freshFrom d root reached path names).2 := by
  fun_induction freshFrom d root reached path names with
  | case1 => simp
  | case2 _ name _ hp ih =>
    intro n hn t ht hs
    rcases List.mem_cons.1 hn with rfl | hn
    · rw [hp] at ht
      cases ht
    · exact ih n hn t ht hs
  | case3 _ name _ p hp hr ih =>
    intro n hn t ht hs
    rcases List.mem_cons.1 hn with rfl | hn
    · rw [hp] at ht
      cases ht
      exact .inl hr
    · exact ih n hn t ht hs
  | case4 reached name names p hp hr _ notices fresh heq ih =>
    intro n hn t ht hs
    rw [heq] at ih
    rcases List.mem_cons.1 hn with rfl | hn
    · rw [hp] at ht
      cases ht
      exact .inr (List.mem_cons_self ..)
    · rcases ih n hn t ht hs with h | h
      · rcases List.mem_append.1 h with h | h
        · exact .inl h
        · exact .inr (List.mem_cons.2 (.inl (List.mem_singleton.1 h)))
      · exact .inr (List.mem_cons_of_mem _ h)
  | case5 _ name _ p hp _ hns notices fresh heq ih =>
    intro n hn t ht hs
    rw [heq] at ih
    rcases List.mem_cons.1 hn with rfl | hn
    · rw [hp] at ht
      cases ht
      exact absurd hs hns
    · exact ih n hn t ht hs

theorem freshFrom_notices (reached : List Path) (path : Path) (names : List Text) :
    ∀ n ∈ (freshFrom d root reached path names).1, isUnfollowed n = false := by
  fun_induction freshFrom d root reached path names with
  | case1 => simp
  | case2 _ _ _ _ ih => exact ih
  | case3 _ _ _ _ _ _ ih => exact ih
  | case4 _ _ _ _ _ _ _ notices fresh heq ih =>
    rw [heq] at ih
    exact ih
  | case5 _ _ _ _ _ _ _ notices fresh heq ih =>
    rw [heq] at ih
    intro n hn
    rcases List.mem_cons.1 hn with rfl | hn
    · rfl
    · exact ih n hn

/-- **What a path leads to that is new**: each once, reached by an import, and nothing is left out. -/
theorem freshOf_fresh (d : Disk) (root : Path) (reached : List Path) (path : Path) :
    (freshOf d root reached path).2.Nodup ∧
      (∀ t ∈ (freshOf d root reached path).2, t ∉ reached ∧ LeadsTo d root path t) ∧
      ∀ t, LeadsTo d root path t → t ∈ reached ∨ t ∈ (freshOf d root reached path).2 := by
  unfold freshOf
  cases hload : Script.Source.load d path.text with
  | error m =>
    refine ⟨.nil, by simp, ?_⟩
    rintro t ⟨s, hs, _⟩
    rw [hload] at hs
    cases hs
  | ok s =>
    obtain ⟨h1, h2⟩ := freshFrom_fresh d root reached path s.imports
    refine ⟨h1, fun t ht => ⟨(h2 t ht).1, s, hload, (h2 t ht).2⟩, ?_⟩
    rintro t ⟨s', hs', name, hname, ht, hsource⟩
    rw [hload] at hs'
    cases hs'
    exact mem_freshFrom reached path s.imports name hname t ht hsource

/-- **A path is warned of once if it has no script**, and never otherwise. -/
theorem freshOf_warnings (reached : List Path) (path : Path) :
    (freshOf d root reached path).1.filter isUnfollowed = (warning? d path).toList := by
  unfold freshOf warning?
  cases Script.Source.load d path.text with
  | error m => rfl
  | ok s =>
    rw [List.filter_eq_nil_iff.2 fun n hn => by simp [freshFrom_notices reached path s.imports n hn]]
    rfl

/-! ## The worklist -/

/-- **A worklist**: what was noted, the paths that are reached, and those of them that are still to be taken. -/
structure Worklist where
  notices : List Notice
  reached : List Path
  pending : List Path

/-- **A step**: any pending path is taken, and what it leads to that is new is reached and pending, in any order. -/
inductive Takes (d : Disk) (root : Path) : Worklist → Worklist → Prop where
  | take {w : Worklist} {path : Path} {rest pending : List Path} (hpath : w.pending.Perm (path :: rest))
      (hpending : pending.Perm ((freshOf d root w.reached path).2 ++ rest)) :
      Takes d root w
        ⟨w.notices ++ (freshOf d root w.reached path).1, w.reached ++ (freshOf d root w.reached path).2, pending⟩

/-- **What is true of a worklist** that began with the given sources: the paths reached are those taken and those
pending, each once; all of them are led to from the sources; what the taken ones lead to is reached; and the taken ones
that have no script are warned of, each once. -/
structure Worklist.Sound (d : Disk) (root : Path) (sources : List Path) (w : Worklist) : Prop where
  nodup : w.reached.Nodup
  start : ∀ f ∈ sources, f ∈ w.reached
  led : ∀ f ∈ w.reached, ∃ s ∈ sources, Relation.ReflTransGen (LeadsTo d root) s f
  taken : ∃ taken, w.reached.Perm (taken ++ w.pending) ∧ (∀ f ∈ taken, ∀ t, LeadsTo d root f t → t ∈ w.reached) ∧
    (w.notices.filter isUnfollowed).Perm (taken.filterMap (warning? d))

namespace Worklist

theorem sound_start {sources reached pending : List Path} (hn : sources.Nodup) (hr : sources.Perm reached)
    (hp : sources.Perm pending) : Sound d root sources ⟨[], reached, pending⟩ :=
  ⟨hr.nodup_iff.1 hn, fun _ h => hr.mem_iff.1 h, fun f hf => ⟨f, hr.mem_iff.2 hf, .refl⟩, [], hr.symm.trans hp, by simp,
    .refl _⟩

theorem Sound.step {sources : List Path} {w w' : Worklist} (h : w.Sound d root sources) (ht : Takes d root w w') :
    w'.Sound d root sources := by
  obtain @⟨path, rest, pending, hpath, hpending⟩ := ht
  obtain ⟨hnodup, hstart, hled, taken, hperm, hclosed, hwarn⟩ := h
  obtain ⟨h1, h2, h3⟩ := freshOf_fresh d root w.reached path
  have hmem : path ∈ w.reached := hperm.mem_iff.2 (List.mem_append_right _ (hpath.mem_iff.2 (List.mem_cons_self ..)))
  refine ⟨?_, fun f hf => List.mem_append_left _ (hstart f hf), fun f hf => ?_, path :: taken, ?_,
    fun f hf t hlead => ?_, ?_⟩
  · exact List.nodup_append.2 ⟨hnodup, h1, fun a ha b hb hab => (h2 b hb).1 (hab ▸ ha)⟩
  · rcases List.mem_append.1 hf with hf | hf
    · exact hled f hf
    · obtain ⟨s, hs, hchain⟩ := hled path hmem
      exact ⟨s, hs, hchain.tail (h2 f hf).2⟩
  -- The path moves from the pending to the taken ones, and what is fresh is pending.
  · have hreached : w.reached.Perm (path :: taken ++ rest) :=
      hperm.trans ((List.Perm.append_left taken hpath).trans List.perm_middle)
    have hfresh : (w.reached ++ (freshOf d root w.reached path).2).Perm
        (path :: taken ++ ((freshOf d root w.reached path).2 ++ rest)) := by
      refine (hreached.append_right _).trans ?_
      rw [List.append_assoc]
      exact List.Perm.append_left _ List.perm_append_comm
    exact hfresh.trans (List.Perm.append_left _ hpending.symm)
  · rcases List.mem_cons.1 hf with rfl | hf
    · exact List.mem_append.2 (h3 t hlead)
    · exact List.mem_append_left _ (hclosed f hf t hlead)
  · have hone : (path :: taken).filterMap (warning? d) = (warning? d path).toList ++ taken.filterMap (warning? d) := by
      rw [List.filterMap_cons]
      cases warning? d path <;> rfl
    rw [List.filter_append, freshOf_warnings, hone]
    exact (hwarn.append_right _).trans List.perm_append_comm

theorem Sound.run {sources : List Path} {w w' : Worklist} (h : w.Sound d root sources)
    (ht : Relation.ReflTransGen (Takes d root) w w') : w'.Sound d root sources := by
  induction ht with
  | refl => exact h
  | tail _ hstep ih => exact ih.step hstep

/-- The sets that hold the sources and that imports do not leave. -/
def closures (d : Disk) (root : Path) (sources : List Path) : Set (Set Path) :=
  {S | (∀ f ∈ sources, f ∈ S) ∧ ClosedUnderImports d root S}

theorem mem_of_chain {S : Set Path} (hS : ClosedUnderImports d root S) {s f : Path} (hs : s ∈ S)
    (hchain : Relation.ReflTransGen (LeadsTo d root) s f) : f ∈ S := by
  induction hchain with
  | refl => exact hs
  | tail _ hlast ih => exact hS _ ih _ hlast

theorem Sound.isLeast {sources : List Path} {w : Worklist} (h : w.Sound d root sources) (hw : w.pending = []) :
    IsLeast (closures d root sources) {f | f ∈ w.reached} := by
  obtain ⟨-, hstart, hled, taken, hperm, hclosed, -⟩ := h
  rw [hw, List.append_nil] at hperm
  refine ⟨⟨hstart, fun f hf t hlead => hclosed f (hperm.mem_iff.1 hf) t hlead⟩, ?_⟩
  rintro S ⟨hsources, hS⟩ f hf
  obtain ⟨s, hs, hchain⟩ := hled f hf
  exact mem_of_chain hS (hsources s hs) hchain

theorem Sound.warned {sources : List Path} {w : Worklist} (h : w.Sound d root sources) (hw : w.pending = []) :
    (w.notices.filter isUnfollowed).Perm (w.reached.filterMap (warning? d)) := by
  obtain ⟨-, -, -, taken, hperm, -, hwarn⟩ := h
  rw [hw, List.append_nil] at hperm
  exact hwarn.trans (hperm.symm.filterMap _)

/-- **Every run ends**: a step takes a path away, and a path that it adds is one file less to be reached. -/
theorem takes_wellFounded (d : Disk) (root : Path) : WellFounded fun w' w => Takes d root w w' := by
  refine Subrelation.wf (r := (measure fun w : Worklist => remaining d w.reached + w.pending.length).rel) ?_
    (measure _).wf
  intro w' w ht
  obtain @⟨path, rest, pending, hpath, hpending⟩ := ht
  have hless := remaining_freshOf d root w.reached path
  have h1 := hpath.length_eq
  have h2 := hpending.length_eq
  rw [List.length_cons] at h1
  rw [List.length_append] at h2
  change remaining d (w.reached ++ _) + pending.length < remaining d w.reached + w.pending.length
  omega

theorem pending_eq_nil {w : Worklist} (h : ∀ w', ¬ Takes d root w w') : w.pending = [] := by
  cases hw : w.pending with
  | nil => rfl
  | cons path rest => exact absurd (.take (.of_eq hw) (.refl _)) (h _)

end Worklist

theorem follow_run (reached pending : List Path) : ∀ notices, Relation.ReflTransGen (Takes d root)
    ⟨notices, reached, pending⟩
    ⟨notices ++ (follow d root reached pending).1, (follow d root reached pending).2, []⟩ := by
  fun_induction follow d root reached pending with
  | case1 reached =>
    intro notices
    rw [List.append_nil]
  | case2 reached path rest fresh more all heq ih =>
    intro notices
    rw [heq] at ih
    have hrun := ih (notices ++ (freshOf d root reached path).1)
    rw [List.append_assoc] at hrun
    exact .head (.take (.refl _) ((List.reverse_perm _).append_right _)) hrun

end Project
end ViewAtlas
