import ViewAtlas.Proofs.File.Spelling
/-!
# What is reached is found

A folder that is gone through, and a glob that is followed, lead to places by way of paths.  As long as none of these is
too long, each of them leads to its place when it is looked up by itself (`IsWayTo.down`, `locate_of_selectParts`).
-/
namespace ViewAtlas
namespace File

variable {d : Disk} {p q r : Place} {path : Path}

/-- **A path leads to a place**, unless it is too long. -/
structure IsWayTo (d : Disk) (path : Path) (p : Place) : Prop where
  absolute : path.isAbsolute = true
  read : path.IsRead
  has : d.Has p
  locate : d.isTooLong path.text = false → d.locate path.text = .ok p

theorem Path.IsRead.append {k : Nat} (h : path.IsRead) {names : List Text}
    (hread : ∀ n ∈ names, n ≠ [] ∧ n ≠ ['.'] ∧ '/' ∉ n) : (⟨k, path.names ++ names⟩ : Path).IsRead := by
  intro n hn
  rcases List.mem_append.1 hn with hn | hn
  · exact h n hn
  · exact hread n hn

/-- What more names lead to from the place at a path. -/
theorem locate_append {names : List Text} (habs : path.isAbsolute = true) (hpath : path.IsRead)
    (hp : d.locate path.text = .ok p) (hread : ∀ n ∈ names, n ≠ [] ∧ n ≠ ['.'] ∧ '/' ∉ n)
    (hnul : ∀ n ∈ names, '\x00' ∉ n) :
    d.locate (⟨path.slashes, path.names ++ names⟩ : Path).text =
      if mostPathOctets < Text.octets (⟨path.slashes, path.names ++ names⟩ : Path).text then .error .tooLong
      else names.foldlM Place.step p := by
  obtain ⟨hnone, hshort, -⟩ := locate_eq_ok hp
  have hslashes : path.slashes ≠ 0 := by simpa [Path.isAbsolute] using habs
  have htext : path.text = List.replicate path.slashes '/' ++ Text.joinWith ['/'] path.names :=
    text_absolute hslashes path.names
  have hold : ∀ n ∈ path.names, '\x00' ∉ n := by
    intro n hn hc
    rw [htext] at hnone
    exact hnone (List.mem_append_right _ (Text.mem_joinWith ['/'] hn hc))
  have hsteps : path.names.foldlM Place.step d.top = .ok p := by
    have hlocate := locate_absolute (d := d) hslashes (fun n hn => (hpath n hn).2.2) hold
    rw [hp, if_neg (Nat.not_lt.2 hshort)] at hlocate
    exact hlocate.symm
  rw [locate_absolute hslashes (fun n hn => (hpath.append hread (k := 0) n hn).2.2)
    (fun n hn => (List.mem_append.1 hn).elim (hold n) (hnul n)), List.foldlM_append, hsteps]
  rfl

/-- **The way to a place goes on to a place in it.** -/
theorem IsWayTo.down (hd : d.IsReal) (habs : path.isAbsolute = true) (hpath : path.IsRead)
    (hp : d.locate path.text = .ok p) (hq : d.Has q) {below : List Text}
    (hbelow : q.names = below.reverse ++ p.names) : IsWayTo d (p.spell path q) q := by
  have hnames : p.spell path q = ⟨path.slashes, path.names ++ below⟩ := by
    unfold Place.spell
    rw [hbelow, List.length_append, Nat.add_sub_cancel, List.take_left, List.reverse_reverse]
  have hmem : ∀ n ∈ below, n ∈ q.names := by
    intro n hn
    rw [hbelow]
    exact List.mem_append_left _ (List.mem_reverse.2 hn)
  have hread : ∀ n ∈ below, n ≠ [] ∧ n ≠ ['.'] ∧ '/' ∉ n := fun n hn =>
    (hq.isNamed hd.named).isRead n (List.mem_reverse.2 (hmem n hn))
  refine hnames ▸ ⟨habs, hpath.append hread, hq, fun hshort => ?_⟩
  have hsteps : below.foldlM Place.step p = if q.Fits then .ok q else .error .tooLong := by
    have hall := hq.foldlM_names hd
    rw [hbelow, List.reverse_append, List.reverse_reverse, List.foldlM_append,
      (Disk.Has.of_locate hp).foldlM_names hd, if_pos (fits_of_locate hp)] at hall
    exact hall
  have hlocate := locate_append habs hpath hp hread fun n hn => (hq.isDistinct hd).2 n (hmem n hn)
  rw [hsteps] at hlocate
  rw [Disk.isTooLong] at hshort
  by_cases hlong : mostPathOctets < Text.octets (⟨path.slashes, path.names ++ below⟩ : Path).text
  · rw [if_pos hlong] at hlocate
    rw [hlocate] at hshort
    cases hshort
  · rw [if_neg hlong] at hlocate
    by_cases hfits : q.Fits
    · rwa [if_pos hfits] at hlocate
    · rw [hlocate, if_neg hfits] at hshort
      cases hshort

/-- **The way to a place goes on by a step.** -/
theorem IsWayTo.step (hd : d.IsReal) (habs : path.isAbsolute = true) (hpath : path.IsRead)
    (hp : d.locate path.text = .ok p) {n : Text} (hn : n ≠ [] ∧ n ≠ ['.'] ∧ '/' ∉ n) (hq : p.step n = .ok q) :
    IsWayTo d (path.join ⟨0, [n]⟩) q := by
  have hleads := Place.leads_of_step hq
  have hhas : d.Has q := (Disk.Has.of_locate hp).of_leads hleads
  have hread : ∀ m ∈ [n], m ≠ [] ∧ m ≠ ['.'] ∧ '/' ∉ m := fun m hm => List.mem_singleton.1 hm ▸ hn
  have hnul : '\x00' ∉ n := by
    cases hleads with
    | stay hstay => exact absurd hstay (not_or.2 ⟨hn.1, hn.2.1⟩)
    | top hup =>
      rw [hup]
      decide
    | up hup =>
      rw [hup]
      decide
    | down => exact (hhas.isDistinct hd).2 n (List.mem_cons_self ..)
  refine ⟨habs, hpath.append hread, hhas, fun hshort => ?_⟩
  have hlocate := locate_append habs hpath hp hread fun m hm => List.mem_singleton.1 hm ▸ hnul
  have hjoin : path.join ⟨0, [n]⟩ = ⟨path.slashes, path.names ++ [n]⟩ := rfl
  rw [hjoin, Disk.isTooLong] at hshort
  rw [hjoin]
  split at hlocate
  · rw [hlocate] at hshort
    cases hshort
  · rw [hlocate, List.foldlM_cons, hq]
    rfl

/-- **What a glob leads to is found**, when no path along the glob is too long. -/
theorem locate_of_selectParts (hd : d.IsReal) {foldersOnly : Bool} : ∀ {parts : List GlobPart} {p : Place} {path : Path},
    IsWayTo d path p → (∀ n, .name n ∈ parts → n ≠ [] ∧ n ≠ ['.'] ∧ '/' ∉ n) →
      d.overruns foldersOnly parts path p = false → r ∈ p.selectParts parts →
        (!foldersOnly || r.entry.isFolder) = true →
          ∃ f : Path, f.isAbsolute = true ∧ f.IsRead ∧ f.slashes = path.slashes ∧ d.locate f.text = .ok r
  | [], p, path, hway, _, hruns, hr, hkind => by
    rw [Place.selectParts, List.mem_singleton] at hr
    subst hr
    rw [Disk.overruns, hkind, Bool.true_and] at hruns
    exact ⟨path, hway.absolute, hway.read, rfl, hway.locate hruns⟩
  | part :: parts, p, path, hway, hnames, hruns, hr, hkind => by
    -- each part of the glob goes one step further on the way, and the glob does not go on where that is too long
    have hrest : ∀ n, .name n ∈ parts → n ≠ [] ∧ n ≠ ['.'] ∧ '/' ∉ n := fun n hn =>
      hnames n (List.mem_cons_of_mem _ hn)
    by_cases hfolder : p.entry.isFolder = true
    · unfold Disk.overruns at hruns
      rw [hfolder, Bool.true_and, Bool.or_eq_false_iff] at hruns
      have hp := hway.locate hruns.1
      cases part with
      | folders =>
        rw [Place.selectParts, List.mem_flatMap] at hr
        obtain ⟨q, hq, hr⟩ := hr
        obtain ⟨below, hbelow, -⟩ := mem_within (List.mem_filter.1 hq).1
        have hdown := IsWayTo.down hd hway.absolute hway.read hp (hway.has.within (List.mem_filter.1 hq).1) hbelow
        have hq := List.any_eq_false.1 hruns.2 q hq
        have hfound := locate_of_selectParts hd hdown hrest (by simpa using hq) hr hkind
        exact hfound
      | name n =>
        rw [Place.selectParts] at hr
        split at hr
        · rename_i q hq
          have hstep := IsWayTo.step hd hway.absolute hway.read hp (hnames n (List.mem_cons_self ..)) hq
          have hruns := (Bool.or_eq_false_iff.1 hruns.2).2
          rw [hq] at hruns
          have hfound := locate_of_selectParts hd hstep hrest hruns hr hkind
          exact hfound
        · cases hr
      | wild items =>
        rw [Place.selectParts, List.mem_flatMap] at hr
        obtain ⟨q, hq, hr⟩ := hr
        have hchild := (List.mem_filter.1 hq).1
        have hnames : q.names = [q.names.headD []].reverse ++ p.names := mem_children hchild
        have hdown := IsWayTo.down hd hway.absolute hway.read hp (hway.has.children hchild) hnames
        have hq := List.any_eq_false.1 hruns.2 q hq
        have hfound := locate_of_selectParts hd hdown hrest (by simpa using hq) hr hkind
        exact hfound
    · -- a file leads nowhere
      obtain ⟨names, entry, outer⟩ := p
      cases entry with
      | folder entries => exact absurd rfl hfolder
      | file octets =>
        cases part with
        | folders => simp [Place.selectParts, Place.within, Entry.places, Entry.isFolder] at hr
        | name n => simp [Place.selectParts, Place.step] at hr
        | wild items => simp [Place.selectParts, Place.children] at hr

end File
end ViewAtlas
