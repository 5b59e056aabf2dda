import ViewAtlas.Proofs.File.Places
/-!
# Names on a disk

On a disk that is named properly, every name can be written in a path.  Then so can the path of every place that is
reached on it, along a path, inside a folder or by a glob (`Place.IsNamed.selectParts`), and the paths that are made of such
paths by joining and by taking `..` away.
-/
namespace ViewAtlas
namespace File

def isName (n : Text) : Bool := n ≠ [] && n ≠ ['.'] && n ≠ Path.up && !n.contains '/'

theorem isName_iff {n : Text} : isName n = true ↔ IsPlain n ∧ '/' ∉ n := by
  simp only [isName, IsPlain, Bool.and_eq_true, decide_eq_true_eq, Bool.not_eq_true', List.contains_eq_mem,
    decide_eq_false_iff_not, and_assoc]

mutual

def Entry.isNamed : Entry → Bool
  | .file _ => true
  | .folder entries => areNamed entries

def areNamed : List (Text × Entry) → Bool
  | [] => true
  | (name, e) :: rest => isName name && e.isNamed && areNamed rest

end

/-- **Whether a disk is named properly**, in all its folders and on the way to its working folder. -/
def Disk.isNamed (d : Disk) : Bool := areNamed d.entries && d.home.all isName

/-- **A place that is reached by names only**, in properly named folders. -/
structure Place.IsNamed (p : Place) : Prop where
  names : ∀ n ∈ p.names, isName n = true
  entry : p.entry.isNamed = true
  outer : ∀ e ∈ p.outer, e.isNamed = true

theorem areNamed_iff : ∀ {entries : List (Text × Entry)},
    areNamed entries = true ↔ ∀ e ∈ entries, isName e.1 = true ∧ e.2.isNamed = true
  | [] => by simp [areNamed]
  | (name, e) :: rest => by simp [areNamed, areNamed_iff]

/-! ## Places -/

theorem Disk.top_isNamed {d : Disk} (hd : d.isNamed = true) : d.top.IsNamed := by
  simp only [Disk.isNamed, Bool.and_eq_true] at hd
  constructor
  case names => exact fun _ h => nomatch h
  case entry => exact hd.1
  case outer => exact fun _ h => nomatch h

theorem Place.IsNamed.of_leads {p q : Place} {n : Text} (hp : p.IsNamed) (h : p.Leads n q) : q.IsNamed := by
  cases h with
  | stay => exact hp
  | top => exact hp
  | up _ houter =>
    have hall := hp.outer
    rw [houter, List.forall_mem_cons] at hall
    exact ⟨fun n hn => hp.names n (List.mem_of_mem_drop hn), hall.1, hall.2⟩
  | down _ _ hentries hget =>
    have hentry := hp.entry
    rw [hentries] at hentry
    obtain ⟨hname, he⟩ := areNamed_iff.1 hentry _ (Table.mem_of_get? hget)
    exact ⟨List.forall_mem_cons.2 ⟨hname, hp.names⟩, he, List.forall_mem_cons.2 ⟨hp.entry, hp.outer⟩⟩

theorem locate_isNamed {d : Disk} {path : Text} {p : Place} (hd : d.isNamed = true) (h : d.locate path = .ok p) :
    p.IsNamed :=
  locate_keep (Disk.top_isNamed hd) Place.IsNamed.of_leads h

mutual

theorem Entry.mem_places_isNamed : ∀ {e : Entry} {names : List Text} {outer : List Entry} {q : Place},
    Place.IsNamed ⟨names, e, outer⟩ → q ∈ e.places names outer → q.IsNamed
  | .file octets, names, outer, q, he, h => by
    rw [Entry.places, List.mem_singleton] at h
    rwa [h]
  | .folder entries, names, outer, q, he, h => by
    rw [Entry.places, List.mem_cons] at h
    rcases h with rfl | h
    · exact he
    · exact mem_placesIn_isNamed he.names he.entry (List.forall_mem_cons.2 ⟨he.entry, he.outer⟩) h

theorem mem_placesIn_isNamed : ∀ {entries : List (Text × Entry)} {names : List Text} {outer : List Entry} {q : Place},
    (∀ n ∈ names, isName n = true) → areNamed entries = true → (∀ e ∈ outer, e.isNamed = true) →
      q ∈ placesIn names outer entries → q.IsNamed
  | [], _, _, _, _, _, _, h => by simp [placesIn] at h
  | (name, e) :: rest, names, outer, q, hnames, hentries, houter, h => by
    simp only [areNamed, Bool.and_eq_true] at hentries
    rw [placesIn, List.mem_append] at h
    rcases h with h | h
    · exact Entry.mem_places_isNamed ⟨List.forall_mem_cons.2 ⟨hentries.1.1, hnames⟩, hentries.1.2, houter⟩ h
    · exact mem_placesIn_isNamed hnames hentries.2 houter h

end

theorem Place.IsNamed.within {p q : Place} (hp : p.IsNamed) (h : q ∈ p.within) : q.IsNamed :=
  Entry.mem_places_isNamed hp h

theorem Place.IsNamed.children {p q : Place} (hp : p.IsNamed) (h : q ∈ p.children) : q.IsNamed := by
  unfold Place.children at h
  split at h
  · cases h
  · rename_i entries hentries
    obtain ⟨e, he, rfl⟩ := List.mem_map.1 h
    have hentry := hp.entry
    rw [hentries] at hentry
    obtain ⟨hname, hnamed⟩ := areNamed_iff.1 hentry e he
    exact ⟨List.forall_mem_cons.2 ⟨hname, hp.names⟩, hnamed, List.forall_mem_cons.2 ⟨hp.entry, hp.outer⟩⟩

theorem Place.IsNamed.selectParts : ∀ {parts : List GlobPart} {p q : Place}, p.IsNamed → q ∈ p.selectParts parts →
    q.IsNamed
  | [], p, q, hp, h => by
    rw [Place.selectParts, List.mem_singleton] at h
    rwa [h]
  | .folders :: parts, p, q, hp, h => by
    rw [Place.selectParts, List.mem_flatMap] at h
    obtain ⟨r, hr, hq⟩ := h
    exact (hp.within (List.mem_filter.1 hr).1).selectParts hq
  | .name n :: parts, p, q, hp, h => by
    rw [Place.selectParts] at h
    split at h
    · rename_i r hr
      exact (hp.of_leads (Place.leads_of_step hr)).selectParts h
    · cases h
  | .wild items :: parts, p, q, hp, h => by
    rw [Place.selectParts, List.mem_flatMap] at h
    obtain ⟨r, hr, hq⟩ := h
    exact (hp.children (List.mem_filter.1 hr).1).selectParts hq

/-! ## Paths -/

theorem isRead_of_isName {p : Path} (h : ∀ n ∈ p.names, isName n = true) : p.IsRead := by
  intro n hn
  obtain ⟨hplain, hslash⟩ := isName_iff.1 (h n hn)
  exact ⟨hplain.1, hplain.2.1, hslash⟩

theorem Place.IsNamed.isRead {p : Place} (hp : p.IsNamed) : p.path.IsRead :=
  isRead_of_isName fun n hn => hp.names n (List.mem_reverse.1 hn)

theorem isRead_of_mem_filePaths {d : Disk} {p : Path} (hd : d.isNamed = true) (h : p ∈ d.filePaths) : p.IsRead := by
  obtain ⟨q, hq, hp⟩ := List.mem_flatMap.1 h
  have hread := ((Disk.top_isNamed hd).within (List.mem_filter.1 hq).1).isRead
  rcases List.mem_cons.1 hp with rfl | hp
  · exact hread
  · rw [List.mem_singleton.1 hp]
    exact hread

theorem mem_collapse {isAbsolute : Bool} {n : Text} {kept names : List Text}
    (h : n ∈ Path.collapse isAbsolute kept names) : n ∈ kept ∨ n ∈ names ∨ n = Path.up := by
  fun_induction Path.collapse isAbsolute kept names with
  | case1 kept => exact .inl (List.mem_reverse.1 h)
  | case2 rest hroot ih => rcases ih h with h | h | h <;> simp_all
  | case3 rest hroot ih => rcases ih h with h | h | h <;> simp_all
  | case4 rest ks ih => rcases ih h with h | h | h <;> simp_all
  | case5 rest k ks hk ih => rcases ih h with h | h | h <;> simp_all
  | case6 kept m rest hn ih =>
    rcases ih h with h | h | h
    · rcases List.mem_cons.1 h with rfl | h
      · exact .inr (.inl (List.mem_cons_self ..))
      · exact .inl h
    · exact .inr (.inl (List.mem_cons_of_mem _ h))
    · exact .inr (.inr h)

theorem Path.IsRead.normal {p : Path} (hp : p.IsRead) : p.normal.IsRead := by
  intro n hn
  rcases mem_collapse hn with h | h | rfl
  · cases h
  · exact hp n h
  · decide

theorem Path.IsRead.folder {p : Path} (hp : p.IsRead) : p.folder.IsRead := fun n hn => hp n (List.mem_of_mem_dropLast hn)

theorem Path.IsRead.of_mem_upward {p q : Path} (hp : p.IsRead) (h : q ∈ p.upward) : q.IsRead := by
  obtain ⟨k, -, rfl⟩ := List.mem_map.1 h
  exact fun n hn => hp n (List.mem_of_mem_take hn)

theorem absolute_isRead {d : Disk} (hd : d.isNamed = true) (path : Text) : (d.absolute path).IsRead := by
  simp only [Disk.isNamed, Bool.and_eq_true, List.all_eq_true] at hd
  exact ((isRead_of_isName (p := d.homePath) hd.2).join (ofText_isRead path)).normal

end File
end ViewAtlas
