import ViewAtlas.Proofs.File.Naming
/-!
# Places are found by their paths

The places of a disk are the outermost one and those that a place of the disk holds (`Disk.Has`).  Steps, listings and
globs lead from places of a disk to places of it.  Where the names in each folder are different, the path of a place
leads to it (`locate_path`), so a file that the disk holds is found there (`Holds.isFile`), and its path is read again
from its text (`ofText_text`).
-/
namespace ViewAtlas
namespace File

/-- **The places of a disk.** -/
inductive Disk.Has (d : Disk) : Place → Prop
  | top : d.Has d.top
  | child {p : Place} {entries : List (Text × Entry)} {n : Text} {e : Entry} (hp : d.Has p)
      (hentry : p.entry = .folder entries) (he : (n, e) ∈ entries) : d.Has ⟨n :: p.names, e, p.entry :: p.outer⟩

mutual

/-- Whether the names in each folder are different, and hold no NUL. -/
def Entry.isDistinct : Entry → Bool
  | .file _ => true
  | .folder entries => areDistinct entries

def areDistinct : List (Text × Entry) → Bool
  | [] => true
  | (name, e) :: rest => !name.contains '\x00' && !(rest.map (·.1)).contains name && e.isDistinct && areDistinct rest

end

/-- **A disk as there can be one**: its names are names, different in each folder, and hold no NUL. -/
structure Disk.IsReal (d : Disk) : Prop where
  named : d.isNamed = true
  distinct : areDistinct d.entries = true
  home : ∀ n ∈ d.home, '\x00' ∉ n

theorem areDistinct_iff : ∀ {entries : List (Text × Entry)}, areDistinct entries = true ↔
    (entries.map (·.1)).Nodup ∧ ∀ e ∈ entries, '\x00' ∉ e.1 ∧ e.2.isDistinct = true
  | [] => by simp [areDistinct]
  | (name, e) :: rest => by
    have ih : areDistinct rest = true ↔ (rest.map (·.1)).Nodup ∧ ∀ e ∈ rest, '\x00' ∉ e.1 ∧ e.2.isDistinct = true :=
      areDistinct_iff
    rw [areDistinct, Bool.and_eq_true, ih, List.map_cons, List.nodup_cons,
      List.forall_mem_cons]
    simp only [Bool.and_eq_true, Bool.not_eq_true', List.contains_eq_mem, decide_eq_false_iff_not]
    constructor
    · rintro ⟨⟨⟨hnul, hnew⟩, he⟩, hnodup, hrest⟩
      exact ⟨⟨hnew, hnodup⟩, ⟨hnul, he⟩, hrest⟩
    · rintro ⟨⟨hnew, hnodup⟩, ⟨hnul, he⟩, hrest⟩
      exact ⟨⟨⟨hnul, hnew⟩, he⟩, hnodup, hrest⟩

variable {d : Disk} {p q : Place}

/-! ## From places to places -/

theorem Disk.Has.of_leads {n : Text} (hp : d.Has p) (h : p.Leads n q) : d.Has q := by
  cases h with
  | stay => exact hp
  | top => exact hp
  | up _ houter =>
    -- one name up is where the place was found
    cases hp with
    | top => cases houter
    | child hp =>
      cases houter
      exact hp
  | down _ _ hentry hget => exact .child hp hentry (Table.mem_of_get? hget)

theorem Disk.Has.of_locate {path : Text} (h : d.locate path = .ok p) : d.Has p := locate_keep .top .of_leads h

mutual

theorem Disk.Has.mem_places : ∀ {e : Entry} {names : List Text} {outer : List Entry}, d.Has ⟨names, e, outer⟩ →
    q ∈ e.places names outer → d.Has q
  | .file octets, names, outer, he, h => by
    rw [Entry.places, List.mem_singleton] at h
    rwa [h]
  | .folder entries, names, outer, he, h => by
    rw [Entry.places, List.mem_cons] at h
    rcases h with rfl | h
    · exact he
    · exact mem_placesIn_has (fun n e hmem => .child he rfl hmem) h

theorem mem_placesIn_has : ∀ {entries : List (Text × Entry)} {names : List Text} {outer : List Entry},
    (∀ n e, (n, e) ∈ entries → d.Has ⟨n :: names, e, outer⟩) → q ∈ placesIn names outer entries → d.Has q
  | [], _, _, _, h => by simp [placesIn] at h
  | (name, e) :: rest, names, outer, hall, h => by
    rw [placesIn, List.mem_append] at h
    rcases h with h | h
    · exact Disk.Has.mem_places (hall name e (List.mem_cons_self ..)) h
    · exact mem_placesIn_has (fun n e hmem => hall n e (List.mem_cons_of_mem _ hmem)) h

end

theorem Disk.Has.within (hp : d.Has p) (h : q ∈ p.within) : d.Has q := hp.mem_places h

theorem Disk.Has.children (hp : d.Has p) (h : q ∈ p.children) : d.Has q := by
  unfold Place.children at h
  split at h
  · cases h
  · rename_i entries hentries
    obtain ⟨e, he, rfl⟩ := List.mem_map.1 h
    exact .child hp hentries he

/-! ## Paths of places -/

theorem Disk.Has.isNamed (hd : d.isNamed = true) (hp : d.Has p) : p.IsNamed := by
  induction hp with
  | top => exact Disk.top_isNamed hd
  | child _ hentry he ih =>
    have hall := ih.entry
    rw [hentry] at hall
    obtain ⟨hname, hnamed⟩ := areNamed_iff.1 hall _ he
    exact ⟨List.forall_mem_cons.2 ⟨hname, ih.names⟩, hnamed, List.forall_mem_cons.2 ⟨ih.entry, ih.outer⟩⟩

theorem Disk.Has.isDistinct (hd : d.IsReal) (hp : d.Has p) :
    p.entry.isDistinct = true ∧ ∀ n ∈ p.names, '\x00' ∉ n := by
  induction hp with
  | top => exact ⟨hd.distinct, fun _ h => nomatch h⟩
  | child _ hentry he ih =>
    have hall := ih.1
    rw [hentry] at hall
    obtain ⟨hnul, hdistinct⟩ := (areDistinct_iff.1 hall).2 _ he
    exact ⟨hdistinct, List.forall_mem_cons.2 ⟨hnul, ih.2⟩⟩

theorem isPlain_of_isName {n : Text} (h : isName n = true) : IsPlain n := (isName_iff.1 h).1

/-- **A place that no name too long leads to.** -/
def Place.Fits (p : Place) : Prop := ∀ n ∈ p.names, Text.octets n ≤ mostNameOctets

instance (p : Place) : Decidable p.Fits := inferInstanceAs (Decidable (∀ n ∈ p.names, Text.octets n ≤ mostNameOctets))

theorem fits_of_locate {path : Text} (h : d.locate path = .ok p) : p.Fits := by
  refine locate_keep (P := Place.Fits) (fun _ h => nomatch h) (fun {p q n} hp hleads => ?_) h
  cases hleads with
  | stay => exact hp
  | top => exact hp
  | up => exact fun m hm => hp m (List.mem_of_mem_drop hm)
  | down _ hfits => exact List.forall_mem_cons.2 ⟨hfits, hp⟩

/-- **The names of a place lead to it**, unless one of them is too long. -/
theorem Disk.Has.foldlM_names (hd : d.IsReal) (hp : d.Has p) :
    p.names.reverse.foldlM Place.step d.top = if p.Fits then .ok p else .error .tooLong := by
  induction hp with
  | top => rfl
  | @child p entries n e hp hentry he ih =>
    have hname : IsPlain n := by
      have hall := (hp.isNamed hd.named).entry
      rw [hentry] at hall
      exact isPlain_of_isName (areNamed_iff.1 hall _ he).1
    have hget : Table.get? n entries = some e := by
      have hall := (hp.isDistinct hd).1
      rw [hentry] at hall
      exact Table.get?_of_mem (areDistinct_iff.1 hall).1 he
    have hstep : p.step n = if mostNameOctets < Text.octets n then .error .tooLong
        else .ok ⟨n :: p.names, e, p.entry :: p.outer⟩ := by
      unfold Place.step
      simp only [hentry, hget, if_neg (show ¬ (n = [] ∨ n = ['.']) from not_or.2 ⟨hname.1, hname.2.1⟩),
        if_neg hname.2.2]
    have hfits : (⟨n :: p.names, e, p.entry :: p.outer⟩ : Place).Fits ↔ Text.octets n ≤ mostNameOctets ∧ p.Fits :=
      List.forall_mem_cons
    rw [List.reverse_cons, List.foldlM_append, ih]
    by_cases hp : p.Fits
    · rw [if_pos hp]
      simp only [hfits, hp, and_true, bind, Except.bind, List.foldlM_cons, List.foldlM_nil, hstep]
      by_cases hn : mostNameOctets < Text.octets n
      · rw [if_pos hn, if_neg (Nat.not_le.2 hn)]
      · rw [if_neg hn, if_pos (Nat.not_lt.1 hn)]
        rfl
    · rw [if_neg hp, if_neg fun h => hp (hfits.1 h).2]
      rfl

/-- **Places with the same names are the same.** -/
theorem Disk.Has.unique (hd : d.IsReal) (hp : d.Has p) : ∀ {q : Place}, d.Has q → p.names = q.names → p = q := by
  induction hp with
  | top =>
    intro q hq hnames
    cases hq with
    | top => rfl
    | child => cases hnames
  | @child p entries n e hp hentry he ih =>
    intro q hq hnames
    cases hq with
    | top => cases hnames
    | @child q entries' n' e' hq hentry' he' =>
      obtain ⟨rfl, houter⟩ : n = n' ∧ p.names = q.names := List.cons.inj hnames
      obtain rfl := ih hq houter
      obtain rfl : entries = entries' := Entry.folder.inj (hentry.symm.trans hentry')
      have hall := (hp.isDistinct hd).1
      rw [hentry] at hall
      have hnodup := (areDistinct_iff.1 hall).1
      obtain rfl : e = e' :=
        Option.some.inj ((Table.get?_of_mem hnodup he).symm.trans (Table.get?_of_mem hnodup he'))
      rfl

theorem foldlM_replicate_nil (d : Disk) (names : List Text) : ∀ k : Nat,
    (List.replicate k [] ++ names).foldlM Place.step d.top = names.foldlM Place.step d.top
  | 0 => rfl
  | k + 1 => by
    rw [List.replicate_succ, List.cons_append, List.foldlM_cons]
    exact foldlM_replicate_nil d names k

theorem splitAt_replicate (s : Text) : ∀ k : Nat,
    Text.splitAt '/' (List.replicate k '/' ++ s) = List.replicate k [] ++ Text.splitAt '/' s
  | 0 => rfl
  | k + 1 => by
    rw [List.replicate_succ, List.cons_append, Text.splitAt, if_pos rfl, splitAt_replicate s k]
    rfl

theorem notMem_joinWith {c : Char} {sep : Text} (hsep : c ∉ sep) : ∀ {l : List Text}, (∀ n ∈ l, c ∉ n) →
    c ∉ Text.joinWith sep l
  | [], _ => by simp [Text.joinWith]
  | [a], h => by
    rw [Text.joinWith_singleton]
    exact h a (List.mem_cons_self ..)
  | a :: b :: l, h => by
    rw [Text.joinWith_cons sep a (by simp), List.mem_append, List.mem_append]
    rintro (hc | hc | hc)
    · exact h a (List.mem_cons_self ..) hc
    · exact hsep hc
    · exact notMem_joinWith hsep (fun n hn => h n (List.mem_cons_of_mem _ hn)) hc

theorem text_absolute {k : Nat} (hk : k ≠ 0) (names : List Text) :
    (⟨k, names⟩ : Path).text = List.replicate k '/' ++ Text.joinWith ['/'] names := by
  simp [Path.text, hk]

/-- **An absolute path leads to the place that its names lead to**, unless its text is too long. -/
theorem locate_absolute {k : Nat} {names : List Text} (hk : k ≠ 0) (hslash : ∀ n ∈ names, '/' ∉ n)
    (hnul : ∀ n ∈ names, '\x00' ∉ n) : d.locate (⟨k, names⟩ : Path).text =
      if mostPathOctets < Text.octets (⟨k, names⟩ : Path).text then .error .tooLong
      else names.foldlM Place.step d.top := by
  obtain ⟨j, rfl⟩ := Nat.exists_eq_succ_of_ne_zero hk
  have hnone : (List.replicate (j + 1) '/' ++ Text.joinWith ['/'] names).contains '\x00' = false := by
    rw [List.contains_eq_mem, decide_eq_false_iff_not, List.mem_append, not_or]
    exact ⟨fun h => absurd (List.eq_of_mem_replicate h) (by decide), notMem_joinWith (by decide) hnul⟩
  have hsteps : (List.replicate (j + 1) [] ++ Text.splitAt '/' (Text.joinWith ['/'] names)).foldlM Place.step d.top =
      names.foldlM Place.step d.top := by
    rw [foldlM_replicate_nil]
    by_cases hnames : names = []
    · rw [hnames]
      rfl
    · rw [Text.splitAt_joinWith hnames hslash]
  have hhead : (List.replicate (j + 1) '/' ++ Text.joinWith ['/'] names).head? = some '/' := by
    simp [List.replicate_succ]
  have hne : List.replicate (j + 1) '/' ++ Text.joinWith ['/'] names ≠ [] := by simp [List.replicate_succ]
  unfold Disk.locate
  rw [Nat.succ_eq_add_one, text_absolute (Nat.succ_ne_zero j), hnone, if_neg hne, splitAt_replicate]
  dsimp only
  rw [if_pos hhead, hsteps]
  rfl

/-- **The path of a place leads to it**, unless a name is too long or all of the text. -/
theorem Disk.Has.locate_path (hd : d.IsReal) (hp : d.Has p) {k : Nat} (hk : k ≠ 0) :
    d.locate (⟨k, p.names.reverse⟩ : Path).text =
      if mostPathOctets < Text.octets (⟨k, p.names.reverse⟩ : Path).text then .error .tooLong
      else if p.Fits then .ok p else .error .tooLong := by
  have hread : ∀ n ∈ p.names.reverse, n ≠ [] ∧ n ≠ ['.'] ∧ '/' ∉ n := (hp.isNamed hd.named).isRead
  rw [locate_absolute hk (fun n hn => (hread n hn).2.2)
    (fun n hn => (hp.isDistinct hd).2 n (List.mem_reverse.1 hn)), hp.foldlM_names hd]

/-! ## Lengths of paths -/

theorem octets_joinWith_le {l l' : List Text} (h : l.Sublist l') :
    Text.octets (Text.joinWith ['/'] l) ≤ Text.octets (Text.joinWith ['/'] l') := by
  have hcons : ∀ (n : Text) (l : List Text), Text.octets (Text.joinWith ['/'] (n :: l)) =
      Text.octets n + if l = [] then 0 else 1 + Text.octets (Text.joinWith ['/'] l) := by
    intro n l
    by_cases hl : l = []
    · subst hl
      rw [Text.joinWith_singleton, if_pos rfl, Nat.add_zero]
    · rw [Text.joinWith_cons ['/'] n hl, Text.octets_append, Text.octets_append, if_neg hl]
      rfl
  induction h with
  | slnil => exact Nat.le_refl _
  | @cons l l' n h ih =>
    rw [hcons]
    by_cases hl : l' = []
    · subst hl
      rw [List.sublist_nil.1 h]
      exact Nat.zero_le _
    · rw [if_neg hl]
      omega
  | @cons_cons l l' n h ih =>
    rw [hcons, hcons]
    by_cases hl : l = []
    · rw [if_pos hl]
      omega
    · have hl' : l' ≠ [] := fun hnil => hl (List.sublist_nil.1 (hnil ▸ h))
      rw [if_neg hl, if_neg hl']
      omega

theorem collapse_sublist (names kept : List Text) :
    (Path.collapse true kept names).Sublist (kept.reverse ++ names) := by
  induction names generalizing kept with
  | nil => rw [Path.collapse, List.append_nil]
  | cons n names ih =>
    by_cases hn : n = Path.up
    · subst hn
      cases kept with
      | nil => exact (ih []).cons _
      | cons k ks =>
        simp only [Path.collapse, if_true]
        split
        · exact (ih _).trans (by simp)
        · refine (ih ks).trans (List.Sublist.append ?_ (List.sublist_cons_self ..))
          rw [List.reverse_cons]
          exact List.sublist_append_left ..
    · rw [collapse_cons_plain hn]
      exact (ih _).trans (by simp)

theorem octets_text_le {j k : Nat} {l l' : List Text} (hj : j ≠ 0) (hjk : j ≤ k) (h : l.Sublist l') :
    Text.octets (⟨j, l⟩ : Path).text ≤ Text.octets (⟨k, l'⟩ : Path).text := by
  have hslashes : ∀ k : Nat, Text.octets (List.replicate k '/') = k := by
    intro k
    induction k with
    | zero => rfl
    | succ k ih => rw [List.replicate_succ, Text.octets_cons, ih, show '/'.utf8Size = 1 from rfl, Nat.add_comm]
  rw [text_absolute hj, text_absolute (by omega), Text.octets_append, Text.octets_append, hslashes, hslashes]
  exact Nat.add_le_add hjk (octets_joinWith_le h)

/-- **A place that a path leads to is also found by its own path**, which is no longer. -/
theorem locate_shorter (hd : d.IsReal) {f : Path} {k : Nat} (habs : f.isAbsolute = true) (hread : f.IsRead)
    (h : d.locate f.text = .ok p) (hk : k ≠ 0) (hle : k ≤ f.slashes) :
    d.locate (⟨k, p.names.reverse⟩ : Path).text = .ok p := by
  have hnames := locate_names habs hread h
  have hshort : Text.octets (⟨k, p.names.reverse⟩ : Path).text ≤ mostPathOctets := by
    refine (octets_text_le hk hle ?_).trans (locate_eq_ok h).2.1
    rw [hnames, Path.normal, habs]
    exact collapse_sublist f.names []
  rw [(Disk.Has.of_locate h).locate_path hd hk, if_neg (Nat.not_lt.2 hshort), if_pos (fits_of_locate h)]

/-- **A place that is found is found by its own path**, after as many slashes. -/
theorem locate_spelled (hd : d.IsReal) {f : Path} (habs : f.isAbsolute = true) (hread : f.IsRead)
    (hp : d.locate f.text = .ok p) : d.locate (⟨f.slashes, p.names.reverse⟩ : Path).text = .ok p :=
  locate_shorter hd habs hread hp (by simpa [Path.isAbsolute] using habs) (Nat.le_refl _)

/-! ## Files -/

/-- **These names lead to a file**, down from the outermost folder. -/
def Disk.Holds (d : Disk) (names : List Text) : Prop :=
  ∃ p, d.Has p ∧ p.entry.isFile = true ∧ p.names.reverse = names

theorem Disk.Holds.isName {names : List Text} (hd : d.IsReal) (h : d.Holds names) :
    names ≠ [] ∧ ∀ n ∈ names, File.isName n = true := by
  obtain ⟨p, hp, hfile, rfl⟩ := h
  refine ⟨fun hnil => ?_, fun n hn => (hp.isNamed hd.named).names n (List.mem_reverse.1 hn)⟩
  cases hp with
  | top => cases hfile
  | child _ _ _ => simp at hnil

theorem holds_of_mem_filePaths {f : Path} (h : f ∈ d.filePaths) : d.Holds f.names := by
  obtain ⟨q, hq, hf⟩ := List.mem_flatMap.1 h
  obtain ⟨hwithin, hfile⟩ := List.mem_filter.1 hq
  refine ⟨q, Disk.Has.top.within hwithin, hfile, ?_⟩
  rcases List.mem_cons.1 hf with rfl | hf
  · rfl
  · rw [List.mem_singleton.1 hf]
    rfl

theorem exists_locate_of_isFile {s : Text} (h : d.isFile s = true) :
    ∃ a, d.locate s = .ok a ∧ a.entry.isFile = true := by
  unfold Disk.isFile at h
  split at h
  · rename_i a ha
    exact ⟨a, ha, h⟩
  · cases h

theorem Path.isAbsolute_of_slashes {f : Path} (h : f.slashes = 1 ∨ f.slashes = 2) : f.isAbsolute = true := by
  rcases h with h | h <;> simp [Path.isAbsolute, h]

theorem leadingSlashes_of_head {s : Text} (h : s.head? = some '/') :
    Path.leadingSlashes s = 1 ∨ Path.leadingSlashes s = 2 := by
  cases s with
  | nil => cases h
  | cons c s =>
    obtain rfl : c = '/' := Option.some.inj h
    simp only [Path.leadingSlashes, List.takeWhile_cons, decide_true, if_true, List.length_cons]
    split <;> omega

theorem isAbsolute_ofText_iff {s : Text} : (Path.ofText s).isAbsolute = true ↔ s.head? = some '/' := by
  constructor
  · intro h
    cases s with
    | nil => cases h
    | cons c s =>
      by_contra hc
      have hc : c ≠ '/' := fun hslash => hc (congrArg some hslash)
      simp [Path.isAbsolute, Path.ofText, Path.leadingSlashes, hc] at h
  · intro h
    exact Path.isAbsolute_of_slashes (leadingSlashes_of_head h)

theorem holds_of_isFile {f : Path} (habs : f.isAbsolute = true) (hread : f.IsRead) (h : d.isFile f.text = true) :
    d.Holds f.normal.names := by
  obtain ⟨p, hp, hfile⟩ := exists_locate_of_isFile h
  exact ⟨p, .of_locate hp, hfile, locate_names habs hread hp⟩

theorem holds_absolute {path : Text} (hd : d.IsReal) (h : d.isFile path = true) : d.Holds (d.absolute path).names := by
  have hhome : d.home.filter (fun n => n ≠ [] && n ≠ ['.']) = d.home := by
    have hnamed := hd.named
    simp only [Disk.isNamed, Bool.and_eq_true, List.all_eq_true] at hnamed
    refine List.filter_eq_self.2 fun n hn => ?_
    obtain ⟨h1, h2, -⟩ := isPlain_of_isName (hnamed.2 n hn)
    simp [h1, h2]
  have habsolute : (d.absolute path).names =
      Path.collapse true [] ((d.way path).filter fun n => n ≠ [] && n ≠ ['.']) := by
    have hslash := isAbsolute_ofText_iff (s := path)
    unfold Disk.absolute Path.normal Path.join Disk.way
    by_cases hc : path.head? = some '/'
    · rw [if_pos (hslash.2 hc), if_pos hc, hslash.2 hc]
      rfl
    · rw [if_neg (fun habs => hc (hslash.1 habs)), if_neg hc, List.filter_append, hhome]
      rfl
  obtain ⟨p, hp, hfile⟩ := exists_locate_of_isFile h
  refine ⟨p, .of_locate hp, hfile, ?_⟩
  rw [habsolute]
  exact (foldlM_step_names ⟨rfl, by simp [Disk.top]⟩ (locate_eq_ok hp).2.2).2

theorem Disk.Holds.not_dropLast {names : List Text} (hd : d.IsReal) (h : d.Holds names) : ¬ d.Holds names.dropLast := by
  obtain ⟨q, hq, hfile, rfl⟩ := h
  rintro ⟨r, hr, hrfile, hnames⟩
  cases hq with
  | top => cases hfile
  | @child p entries n e hp hentry he =>
    rw [List.reverse_cons, List.dropLast_concat] at hnames
    obtain rfl := hr.unique hd hp (List.reverse_injective hnames)
    rw [hentry] at hrfile
    cases hrfile

/-! ## Texts of paths -/

theorem leadingSlashes_replicate {k : Nat} {s : Text} (hk : k = 1 ∨ k = 2) (hs : s.head? ≠ some '/') :
    Path.leadingSlashes (List.replicate k '/' ++ s) = k := by
  have hwhile : (List.replicate k '/' ++ s).takeWhile (· = '/') = List.replicate k '/' := by
    rw [List.takeWhile_append_of_pos fun c hc => by simp [List.eq_of_mem_replicate hc]]
    have hnone : s.takeWhile (· = '/') = [] := by
      cases s with
      | nil => rfl
      | cons c s => exact List.takeWhile_cons_of_neg (by simpa using hs)
    rw [hnone, List.append_nil]
  unfold Path.leadingSlashes
  rw [hwhile, List.length_replicate]
  rcases hk with rfl | rfl <;> rfl

theorem Path.IsRead.head?_joinWith {p : Path} (hread : p.IsRead) : (Text.joinWith ['/'] p.names).head? ≠ some '/' := by
  cases hp : p.names with
  | nil => simp [Text.joinWith]
  | cons n rest =>
    have hn := hread n (hp ▸ List.mem_cons_self ..)
    obtain ⟨c, n, rfl⟩ := List.exists_cons_of_ne_nil hn.1
    have hc : c ≠ '/' := fun h => hn.2.2 (h ▸ List.mem_cons_self ..)
    cases rest with
    | nil => simpa [Text.joinWith_singleton] using hc
    | cons m rest =>
      rw [Text.joinWith_cons ['/'] _ (by simp)]
      simpa using hc

/-- **A path is read again from its text**, slashes and names. -/
theorem ofText_text {p : Path} (hread : p.IsRead) (hnames : p.names ≠ []) (hk : p.slashes = 1 ∨ p.slashes = 2) :
    Path.ofText p.text = p := by
  have htext : p.text = List.replicate p.slashes '/' ++ Text.joinWith ['/'] p.names := by
    rw [Path.text, if_neg (by simp [hnames])]
  unfold Path.ofText
  rw [filter_splitAt_text hread, htext, leadingSlashes_replicate hk hread.head?_joinWith]

theorem exists_text_concat (k : Nat) (names : List Text) : ∃ front : Text, (∀ c ∈ front.getLast?, c = '/') ∧
    ∀ n, (⟨k, names ++ [n]⟩ : Path).text = front ++ n := by
  have htext : ∀ n, (⟨k, names ++ [n]⟩ : Path).text = List.replicate k '/' ++ Text.joinWith ['/'] (names ++ [n]) := by
    intro n
    rw [Path.text, if_neg (by simp)]
  by_cases hone : names = []
  · refine ⟨List.replicate k '/', fun c hc => List.eq_of_mem_replicate (List.mem_of_getLast? hc), fun n => ?_⟩
    rw [htext, hone, List.nil_append, Text.joinWith_singleton]
  · refine ⟨List.replicate k '/' ++ (Text.joinWith ['/'] names ++ ['/']), by simp, fun n => ?_⟩
    rw [htext, Text.joinWith_append ['/'] hone (by simp), Text.joinWith_singleton]
    simp only [List.append_assoc]

theorem Path.dropLast_append_name {p : Path} (hnames : p.names ≠ []) : p.names.dropLast ++ [p.name] = p.names := by
  rw [Path.name, List.getLast?_eq_some_getLast hnames]
  exact List.dropLast_append_getLast hnames

/-- **The text of a path ends as its last name does**, up to the slash before it. -/
theorem suffix_text_iff {p : Path} {e : Text} (hnames : p.names ≠ []) (he : '/' ∉ e) : e <:+ p.text ↔ e <:+ p.name := by
  obtain ⟨front, hfront, hall⟩ := exists_text_concat p.slashes p.names.dropLast
  have htext : p.text = front ++ p.name := by
    rw [← hall, Path.dropLast_append_name hnames]
  rw [htext]
  constructor
  · intro h
    by_cases hlen : e.length ≤ p.name.length
    · exact List.suffix_of_suffix_length_le h (List.suffix_append _ _) hlen
    · -- otherwise the slash before the name is in the ending
      obtain ⟨rest, rfl⟩ := List.suffix_of_suffix_length_le (List.suffix_append _ _) h (by omega)
      have hrest : rest <:+ front := by
        obtain ⟨start, hstart⟩ := h
        rw [← List.append_assoc] at hstart
        exact ⟨start, List.append_cancel_right hstart⟩
      have hne : rest ≠ [] := by
        rintro rfl
        simp at hlen
      obtain ⟨start, rfl⟩ := hrest
      have hslash := hfront (rest.getLast hne) (by
        rw [List.getLast?_append_of_ne_nil _ hne, List.getLast?_eq_some_getLast hne]
        rfl)
      exact absurd (List.mem_append_left _ (hslash ▸ List.getLast_mem hne)) he
  · exact fun h => h.trans (List.suffix_append _ _)

theorem absolute_slashes (d : Disk) (path : Text) : (d.absolute path).slashes = 1 ∨ (d.absolute path).slashes = 2 := by
  change (d.homePath.join (.ofText path)).slashes = 1 ∨ (d.homePath.join (.ofText path)).slashes = 2
  unfold Path.join
  split
  · rename_i habs
    have hne : (Path.ofText path).slashes ≠ 0 := by simpa [Path.isAbsolute] using habs
    change Path.leadingSlashes path = 1 ∨ Path.leadingSlashes path = 2
    change Path.leadingSlashes path ≠ 0 at hne
    unfold Path.leadingSlashes at hne ⊢
    dsimp only at hne ⊢
    split
    · exact .inl rfl
    · rename_i hfew
      rw [if_neg hfew] at hne
      omega
  · exact .inl rfl

end File
end ViewAtlas
