import ViewAtlas.Proofs.File.Spelling
import ViewAtlas.Project.Configuration
/-!
# How a base is looked up

Paths are tried one after the other.  The first at which there is a file is taken (`basePath?_eq_some`), unless one that
is tried before it is too long (`basePath?_eq_error_iff`).  A path with fewer slashes is no longer than the same with more,
so where the longer ones find something, the shorter ones find the same (`findM?_respelled`).
-/
namespace ViewAtlas
namespace Project

open File (Disk Path Respells)

variable {d : Disk} {folder p q : Path} {name : Text}

/-! ## One path -/

theorem findFile_eq_ok {found : Bool} (h : findFile d p = .ok found) :
    d.isTooLong p.text = false ∧ d.isFile p.text = found := by
  unfold findFile at h
  split at h
  · cases h
  · rename_i hshort
    cases h
    exact ⟨by simpa using hshort, rfl⟩

theorem findFile_eq_error {e : Failure} (h : findFile d p = .error e) : d.isTooLong p.text = true ∧ e = .tooLong := by
  unfold findFile at h
  split at h
  · rename_i hlong
    cases h
    exact ⟨hlong, rfl⟩
  · cases h

theorem findFile_respelled {found : Bool} (hpq : Respells p q) (h : findFile d p = .ok found) :
    findFile d q = .ok found := by
  obtain ⟨hshort, rfl⟩ := findFile_eq_ok h
  have hlocate := hpq.locate hshort
  unfold Disk.isTooLong at hshort
  unfold findFile Disk.isTooLong Disk.isFile
  rw [hlocate]
  exact if_neg (by simpa using hshort)

/-! ## One path after the other -/

theorem find?_of_findM? {found : Option Path} : ∀ {l : List Path}, l.findM? (findFile d) = .ok found →
    l.find? (fun p => d.isFile p.text) = found
  | [], h => by
    cases h
    rfl
  | p :: l, h => by
    rw [List.findM?] at h
    cases hp : findFile d p with
    | error e =>
      rw [hp] at h
      cases h
    | ok isThere =>
      rw [hp] at h
      rw [List.find?_cons, (findFile_eq_ok hp).2]
      cases isThere with
      | true =>
        cases h
        rfl
      | false => exact find?_of_findM? h

/-- **Trying paths fails** where one is too long and there is no file at those before it. -/
theorem findM?_eq_error_iff {e : Failure} : ∀ {l : List Path}, l.findM? (findFile d) = .error e ↔
    e = .tooLong ∧ ∃ before p after, l = before ++ p :: after ∧ d.isTooLong p.text = true ∧
      ∀ q ∈ before, d.isFile q.text = false
  | [] => by
    constructor
    · intro h
      cases h
    · rintro ⟨-, before, p, after, h, -⟩
      cases before <;> cases h
  | p :: l => by
    rw [List.findM?]
    cases hp : findFile d p with
    | error e' =>
      obtain ⟨hlong, rfl⟩ := findFile_eq_error hp
      constructor
      · intro h
        cases h
        exact ⟨rfl, [], p, l, rfl, hlong, fun _ h => nomatch h⟩
      · rintro ⟨rfl, -⟩
        rfl
    | ok isThere =>
      obtain ⟨hshort, hfile⟩ := findFile_eq_ok hp
      -- the path that is too long is another one, and comes behind this one
      have hrest : (∃ before q after, p :: l = before ++ q :: after ∧ d.isTooLong q.text = true ∧
          ∀ r ∈ before, d.isFile r.text = false) ↔ isThere = false ∧ ∃ before q after, l = before ++ q :: after ∧
            d.isTooLong q.text = true ∧ ∀ r ∈ before, d.isFile r.text = false := by
        constructor
        · rintro ⟨before, q, after, heq, hlong, hbefore⟩
          cases before with
          | nil =>
            cases heq
            rw [hshort] at hlong
            cases hlong
          | cons r before =>
            cases heq
            rw [List.forall_mem_cons, hfile] at hbefore
            exact ⟨hbefore.1, before, q, after, rfl, hlong, hbefore.2⟩
        · rintro ⟨rfl, before, q, after, rfl, hlong, hbefore⟩
          exact ⟨p :: before, q, after, rfl, hlong, List.forall_mem_cons.2 ⟨hfile, hbefore⟩⟩
      rw [hrest]
      cases isThere with
      | true =>
        constructor
        · intro h
          cases h
        · rintro ⟨-, h, -⟩
          cases h
      | false =>
        change l.findM? (findFile d) = .error e ↔ _
        rw [findM?_eq_error_iff]
        simp only [true_and]

/-- **Shorter spellings find the same.** -/
theorem findM?_respelled {found : Option Path} : ∀ {l m : List Path}, List.Forall₂ Respells l m →
    l.findM? (findFile d) = .ok found → ∃ found', m.findM? (findFile d) = .ok found' ∧ Option.Rel Respells found found'
  | [], [], .nil, h => by
    cases h
    exact ⟨none, rfl, .none⟩
  | p :: l, q :: m, .cons hpq hrest, h => by
    rw [List.findM?] at h ⊢
    cases hp : findFile d p with
    | error e =>
      rw [hp] at h
      cases h
    | ok isThere =>
      rw [hp] at h
      rw [findFile_respelled hpq hp]
      cases isThere with
      | true =>
        cases h
        exact ⟨some q, rfl, .some hpq⟩
      | false => exact findM?_respelled hrest h

/-! ## The paths of a base -/

/-- **A base cannot be looked up by a name**: one of the paths at which it may be is too long, and there is no file at
those before it. -/
def IsTooLongFor (d : Disk) (folder : Path) (name : Text) : Prop :=
  ∃ before p after, basePaths folder name = before ++ p :: after ∧ d.isTooLong p.text = true ∧
    ∀ q ∈ before, d.isFile q.text = false

theorem basePath?_eq_error_iff {e : Failure} : basePath? d folder name = .error e ↔
    e = .tooLong ∧ IsTooLongFor d folder name := by
  rw [IsTooLongFor, ← findM?_eq_error_iff, basePath?]
  cases (basePaths folder name).findM? (findFile d) with
  | error e' => exact Iff.rfl
  | ok found =>
    constructor
    all_goals intro h; cases h

theorem basePath?_eq_ok {found : Option Path} (h : basePath? d folder name = .ok found) :
    ∃ c, (basePaths folder name).findM? (findFile d) = .ok c ∧ found = c.map Path.normal := by
  unfold basePath? at h
  cases hc : (basePaths folder name).findM? (findFile d) with
  | error e =>
    rw [hc] at h
    cases h
  | ok c =>
    rw [hc] at h
    cases h
    exact ⟨c, rfl, rfl⟩

/-- **A base that is found** is at one of its paths, at which there is a file. -/
theorem basePath?_eq_some (h : basePath? d folder name = .ok (some p)) :
    ∃ c ∈ basePaths folder name, d.isFile c.text = true ∧ c.normal = p := by
  obtain ⟨c, hc, hp⟩ := basePath?_eq_ok h
  obtain ⟨c, rfl, rfl⟩ := Option.map_eq_some_iff.1 hp.symm
  have hfind := find?_of_findM? hc
  exact ⟨c, List.mem_of_find?_eq_some hfind, List.find?_some (p := fun p : Path => d.isFile p.text) hfind, rfl⟩

theorem isProper_of_mem_basePaths (h : folder.IsProper) (hp : p ∈ basePaths folder name) : p.IsProper := by
  unfold basePaths at hp
  dsimp only at hp
  split at hp
  · simp only [List.mem_cons, List.not_mem_nil, or_false] at hp
    rcases hp with rfl | rfl <;> exact h.join _
  · simp only [List.mem_cons, List.not_mem_nil, or_false] at hp
    rcases hp with rfl | rfl <;> exact h.join _
  · obtain ⟨f, hf, hp⟩ := List.mem_flatMap.1 hp
    have hproper : f.IsProper := by
      refine ⟨?_, h.2.of_mem_upward hf⟩
      obtain ⟨n, -, rfl⟩ := List.mem_map.1 hf
      exact h.1
    simp only [List.mem_cons, List.not_mem_nil, or_false] at hp
    rcases hp with rfl | rfl | rfl
    · exact (hproper.join _).join _
    · exact ((hproper.join _).join _).ofText_append _
    · exact ((hproper.join _).join _).join _

theorem basePaths_respelled {folder' : Path} (h : Respells folder folder') (name : Text) :
    List.Forall₂ Respells (basePaths folder name) (basePaths folder' name) := by
  unfold basePaths
  dsimp only
  split
  · exact .cons (h.join _) (.cons (h.join _) .nil)
  · exact .cons (h.join _) (.cons (h.join _) .nil)
  · refine List.rel_flatMap h.upward fun f g hfg => ?_
    have hpackage := (hfg.join "node_modules".toList).join name
    exact .cons hpackage (.cons (hpackage.ofText_append (by decide)) (.cons (hpackage.join _) .nil))

end Project
end ViewAtlas
