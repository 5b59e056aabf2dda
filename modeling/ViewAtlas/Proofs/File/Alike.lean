import Mathlib.Data.List.Forall2
import ViewAtlas.File.Glob
/-!
# Disks that differ in what their files hold

Two disks are alike when they have the same folders and files at the same names, and what a file of the one holds is
related to what that of the other holds.  Paths and globs then lead to places that are alike, and it is the same paths
at which there are files and folders: only `Disk.read` can tell the disks apart.
-/
namespace ViewAtlas
namespace File

section

variable {ε α β α' β' : Type}

/-- **Results that are related**, or one and the same failure. -/
inductive Related (r : α → β → Prop) : Except ε α → Except ε β → Prop
  | ok {a : α} {b : β} (h : r a b) : Related r (.ok a) (.ok b)
  | error (e : ε) : Related r (.error e) (.error e)

theorem Related.bind {r : α → β → Prop} {r' : α' → β' → Prop} {x : Except ε α} {y : Except ε β} {f : α → Except ε α'}
    {g : β → Except ε β'} (h : Related r x y) (hfg : ∀ a b, r a b → Related r' (f a) (g b)) :
    Related r' (x >>= f) (y >>= g) := by
  cases h with
  | ok h => exact hfg _ _ h
  | error e => exact .error e

end

section

variable (R : List UInt8 → List UInt8 → Prop)

mutual

/-- **Entries that are alike**: the same folders and files, and related octets. -/
def Entry.Alike : Entry → Entry → Prop
  | .file a, .file b => R a b
  | .folder entries, .folder entries' => AreAlike entries entries'
  | _, _ => False

def AreAlike : List (Text × Entry) → List (Text × Entry) → Prop
  | [], [] => True
  | (n, e) :: rest, (n', e') :: rest' => n = n' ∧ e.Alike e' ∧ AreAlike rest rest'
  | _, _ => False

end

/-- **Places that are alike**, with the folders that hold them. -/
structure Place.Alike (p q : Place) : Prop where
  names : p.names = q.names
  entry : p.entry.Alike R q.entry
  outer : List.Forall₂ (Entry.Alike R) p.outer q.outer

/-- **Disks that are alike**, with one working folder. -/
structure Disk.Alike (d d' : Disk) : Prop where
  entries : AreAlike R d.entries d'.entries
  home : d.home = d'.home

end

variable {R : List UInt8 → List UInt8 → Prop} {d d' : Disk} {p q : Place}

/-! ## Entries -/

theorem Entry.Alike.isFile {e e' : Entry} (h : e.Alike R e') : e.isFile = e'.isFile := by
  cases e <;> cases e'
  case file.file => rfl
  case folder.folder => rfl
  all_goals simp [Entry.Alike] at h

theorem Entry.Alike.isFolder {e e' : Entry} (h : e.Alike R e') : e.isFolder = e'.isFolder := by
  cases e <;> cases e'
  case file.file => rfl
  case folder.folder => rfl
  all_goals simp [Entry.Alike] at h

theorem AreAlike.get? {n : Text} : ∀ {entries entries' : List (Text × Entry)}, AreAlike R entries entries' →
    Option.Rel (Entry.Alike R) (Table.get? n entries) (Table.get? n entries')
  | [], [], _ => .none
  | [], _ :: _, h => by simp [AreAlike] at h
  | _ :: _, [], h => by simp [AreAlike] at h
  | (m, e) :: rest, (m', e') :: rest', h => by
    obtain ⟨rfl, he, hrest⟩ := by simpa only [AreAlike] using h
    unfold Table.get?
    split
    · exact .some he
    · exact AreAlike.get? hrest

/-! ## From places to places -/

theorem Place.Alike.step (h : p.Alike R q) (n : Text) : Related (Place.Alike R) (p.step n) (q.step n) := by
  obtain ⟨names, entry, outer⟩ := p
  obtain ⟨names', entry', outer'⟩ := q
  obtain ⟨hnames, hentry, houter⟩ := h
  cases hnames
  unfold Place.step
  cases entry <;> cases entry'
  case file.file => exact .error _
  case folder.folder entries entries' =>
    dsimp only at hentry houter ⊢
    split
    · exact .ok ⟨rfl, hentry, houter⟩
    · split
      · cases houter with
        | nil => exact .ok ⟨rfl, hentry, .nil⟩
        | cons he houter => exact .ok ⟨rfl, he, houter⟩
      · split
        · exact .error _
        · have hget := AreAlike.get? (n := n) (by simpa only [Entry.Alike] using hentry)
          cases he : Table.get? n entries <;> cases he' : Table.get? n entries' <;> rw [he, he'] at hget <;> cases hget
          · exact .error _
          case some hee => exact .ok ⟨rfl, hee, .cons hentry houter⟩
  all_goals simp [Entry.Alike] at hentry

theorem Place.Alike.steps : ∀ {names : List Text} {p q : Place}, p.Alike R q →
    Related (Place.Alike R) (names.foldlM Place.step p) (names.foldlM Place.step q)
  | [], _, _, h => .ok h
  | n :: names, p, q, h => by
    rw [List.foldlM_cons, List.foldlM_cons]
    exact (h.step n).bind fun _ _ h => h.steps

theorem Disk.Alike.top (h : d.Alike R d') : d.top.Alike R d'.top :=
  ⟨rfl, by simpa only [Disk.top, Entry.Alike] using h.entries, .nil⟩

theorem Disk.Alike.locate (h : d.Alike R d') (path : Text) : Related (Place.Alike R) (d.locate path) (d'.locate path) := by
  unfold Disk.locate
  rw [h.home]
  split
  · exact .error _
  · split
    · exact .error _
    · split
      · exact .error _
      · exact h.top.steps

mutual

theorem Entry.Alike.places : ∀ {e e' : Entry} {names : List Text} {outer outer' : List Entry}, e.Alike R e' →
    List.Forall₂ (Entry.Alike R) outer outer' →
      List.Forall₂ (Place.Alike R) (e.places names outer) (e'.places names outer')
  | .file _, .file _, names, outer, outer', he, ho => .cons ⟨rfl, he, ho⟩ .nil
  | .file _, .folder _, _, _, _, he, _ => by simp [Entry.Alike] at he
  | .folder _, .file _, _, _, _, he, _ => by simp [Entry.Alike] at he
  | .folder entries, .folder entries', names, outer, outer', he, ho => by
    rw [Entry.places, Entry.places]
    exact .cons ⟨rfl, he, ho⟩ (AreAlike.placesIn (by simpa only [Entry.Alike] using he) (.cons he ho))

theorem AreAlike.placesIn : ∀ {entries entries' : List (Text × Entry)} {names : List Text} {outer outer' : List Entry},
    AreAlike R entries entries' → List.Forall₂ (Entry.Alike R) outer outer' →
      List.Forall₂ (Place.Alike R) (placesIn names outer entries) (File.placesIn names outer' entries')
  | [], [], _, _, _, _, _ => .nil
  | [], _ :: _, _, _, _, h, _ => by simp [AreAlike] at h
  | _ :: _, [], _, _, _, h, _ => by simp [AreAlike] at h
  | (n, e) :: rest, (n', e') :: rest', names, outer, outer', h, ho => by
    obtain ⟨rfl, he, hrest⟩ := by simpa only [AreAlike] using h
    rw [File.placesIn, File.placesIn]
    exact List.rel_append (he.places ho) (hrest.placesIn ho)

end

theorem Place.Alike.within (h : p.Alike R q) : List.Forall₂ (Place.Alike R) p.within q.within := by
  unfold Place.within
  rw [h.names]
  exact h.entry.places h.outer

theorem AreAlike.map {names : List Text} {outer outer' : List Entry} (ho : List.Forall₂ (Entry.Alike R) outer outer') :
    ∀ {entries entries' : List (Text × Entry)}, AreAlike R entries entries' →
      List.Forall₂ (Place.Alike R) (entries.map fun e => ⟨e.1 :: names, e.2, outer⟩)
        (entries'.map fun e => ⟨e.1 :: names, e.2, outer'⟩)
  | [], [], _ => .nil
  | [], _ :: _, h => by simp [AreAlike] at h
  | _ :: _, [], h => by simp [AreAlike] at h
  | (n, e) :: rest, (n', e') :: rest', h => by
    obtain ⟨rfl, he, hrest⟩ := by simpa only [AreAlike] using h
    exact .cons ⟨rfl, he, ho⟩ (AreAlike.map ho hrest)

theorem Place.Alike.children (h : p.Alike R q) : List.Forall₂ (Place.Alike R) p.children q.children := by
  obtain ⟨names, entry, outer⟩ := p
  obtain ⟨names', entry', outer'⟩ := q
  obtain ⟨hnames, hentry, houter⟩ := h
  cases hnames
  unfold Place.children
  cases entry <;> cases entry'
  case file.file => exact .nil
  case folder.folder entries entries' =>
    exact AreAlike.map (.cons hentry houter) (by simpa only [Entry.Alike] using hentry)
  all_goals simp [Entry.Alike] at hentry

theorem filter_alike {f : Place → Bool} (hf : ∀ {p q : Place}, p.Alike R q → f p = f q) {ps qs : List Place}
    (h : List.Forall₂ (Place.Alike R) ps qs) : List.Forall₂ (Place.Alike R) (ps.filter f) (qs.filter f) :=
  List.rel_filter (fun a b hab => by
    change f a = true ↔ f b = true
    rw [hf hab]) h

theorem Place.Alike.selectParts : ∀ {parts : List GlobPart} {p q : Place}, p.Alike R q →
    List.Forall₂ (Place.Alike R) (p.selectParts parts) (q.selectParts parts)
  | [], _, _, h => .cons h .nil
  | .folders :: parts, p, q, h => by
    rw [Place.selectParts, Place.selectParts]
    exact List.rel_flatMap (filter_alike (fun hab => hab.entry.isFolder) h.within) fun _ _ hab => hab.selectParts
  | .name n :: parts, p, q, h => by
    rw [Place.selectParts, Place.selectParts]
    have hstep := h.step n
    generalize p.step n = x at hstep ⊢
    generalize q.step n = y at hstep ⊢
    cases hstep with
    | ok hpq => exact hpq.selectParts
    | error e => exact .nil
  | .wild items :: parts, p, q, h => by
    rw [Place.selectParts, Place.selectParts]
    refine List.rel_flatMap (filter_alike (fun hab => ?_) h.children) fun _ _ hab => hab.selectParts
    rw [hab.names]

theorem Place.Alike.select (h : p.Alike R q) (g : Glob) : List.Forall₂ (Place.Alike R) (p.select g) (q.select g) := by
  refine filter_alike (fun hab => ?_) h.selectParts
  rw [hab.entry.isFolder]

theorem map_files_alike {γ : Type} {f : Place → γ} (hf : ∀ {p q : Place}, p.names = q.names → f p = f q)
    {ps qs : List Place} (h : List.Forall₂ (Place.Alike R) ps qs) :
    (ps.filter (·.entry.isFile)).map f = (qs.filter (·.entry.isFile)).map f := by
  rw [← List.forall₂_eq_eq_eq]
  exact List.rel_map (fun a b hab => hf hab.names) (filter_alike (fun hab => hab.entry.isFile) h)

/-! ## What the disks have in common -/

theorem Disk.Alike.isFile (h : d.Alike R d') (path : Text) : d.isFile path = d'.isFile path := by
  have hlocate := h.locate path
  unfold Disk.isFile
  generalize d.locate path = x at hlocate ⊢
  generalize d'.locate path = y at hlocate ⊢
  cases hlocate with
  | ok hpq => exact hpq.entry.isFile
  | error e => rfl

theorem Disk.Alike.isFolder (h : d.Alike R d') (path : Text) : d.isFolder path = d'.isFolder path := by
  have hlocate := h.locate path
  unfold Disk.isFolder
  generalize d.locate path = x at hlocate ⊢
  generalize d'.locate path = y at hlocate ⊢
  cases hlocate with
  | ok hpq => exact hpq.entry.isFolder
  | error e => rfl

theorem Disk.Alike.isTooLong (h : d.Alike R d') (path : Text) : d.isTooLong path = d'.isTooLong path := by
  have hlocate := h.locate path
  unfold Disk.isTooLong
  generalize d.locate path = x at hlocate ⊢
  generalize d'.locate path = y at hlocate ⊢
  cases hlocate <;> rfl

theorem Place.Alike.spell {p q p' q' : Place} (h : p.Alike R q) (h' : p'.Alike R q') (path : Path) :
    p.spell path p' = q.spell path q' := by
  unfold Place.spell
  rw [h.names, h'.names]

theorem any_alike {f g : Place → Bool} (hfg : ∀ {p q : Place}, p.Alike R q → f p = g q) {ps qs : List Place}
    (h : List.Forall₂ (Place.Alike R) ps qs) : ps.any f = qs.any g := by
  induction h with
  | nil => rfl
  | cons hpq _ ih => rw [List.any_cons, List.any_cons, hfg hpq, ih]

theorem Disk.Alike.overruns (h : d.Alike R d') (foldersOnly : Bool) :
    ∀ {parts : List GlobPart} {p q : Place} (path : Path),
    p.Alike R q → d.overruns foldersOnly parts path p = d'.overruns foldersOnly parts path q
  | [], p, q, path, hpq => by rw [Disk.overruns, Disk.overruns, hpq.entry.isFolder, h.isTooLong]
  | .folders :: parts, p, q, path, hpq => by
    rw [Disk.overruns, Disk.overruns, hpq.entry.isFolder, h.isTooLong]
    refine congrArg _ (congrArg _ (any_alike (fun hab => ?_) (filter_alike (fun hab => hab.entry.isFolder) hpq.within)))
    rw [hpq.spell hab, h.overruns foldersOnly _ hab]
  | .name n :: parts, p, q, path, hpq => by
    rw [Disk.overruns, Disk.overruns, hpq.entry.isFolder, h.isTooLong]
    dsimp only
    rw [h.isTooLong]
    have hstep := hpq.step n
    generalize p.step n = x at hstep ⊢
    generalize q.step n = y at hstep ⊢
    cases hstep with
    | ok hab =>
      dsimp only
      rw [h.overruns foldersOnly _ hab]
    | error e => rfl
  | .wild items :: parts, p, q, path, hpq => by
    rw [Disk.overruns, Disk.overruns, hpq.entry.isFolder, h.isTooLong]
    refine congrArg _ (congrArg _ (any_alike (fun hab => ?_) (filter_alike (fun hab => ?_) hpq.children)))
    · rw [hpq.spell hab, h.overruns foldersOnly _ hab]
    · rw [hab.names]

theorem Disk.Alike.absolute (h : d.Alike R d') (path : Text) : d.absolute path = d'.absolute path := by
  unfold Disk.absolute Disk.homePath
  rw [h.home]

theorem Disk.Alike.filePaths (h : d.Alike R d') : d.filePaths = d'.filePaths := by
  unfold Disk.filePaths
  rw [List.flatMap_def, List.flatMap_def]
  refine congrArg List.flatten (map_files_alike (fun hnames => ?_) h.top.within)
  unfold Place.path
  rw [hnames]

def textOf (octets : List UInt8) : Except Unread Text :=
  match Text.Utf8.decode octets with
  | .ok s => .ok (Text.unifyLineEnds s)
  | .error fault => .error (.notUtf8 fault)

/-- **What the disks can differ in**: the texts that related octets are read as. -/
theorem Disk.Alike.read (h : d.Alike R d') (path : Text) :
    d.read path = d'.read path ∨ ∃ a b, R a b ∧ d.read path = textOf a ∧ d'.read path = textOf b := by
  have hlocate := h.locate path
  unfold Disk.read
  generalize d.locate path = x at hlocate ⊢
  generalize d'.locate path = y at hlocate ⊢
  cases hlocate with
  | error e => exact .inl rfl
  | @ok p q hpq =>
    have hentry := hpq.entry
    dsimp only
    generalize p.entry = e at hentry ⊢
    generalize q.entry = e' at hentry ⊢
    cases e <;> cases e'
    case file.file a b => exact .inr ⟨a, b, by simpa only [Entry.Alike] using hentry, rfl, rfl⟩
    case folder.folder => exact .inl rfl
    all_goals simp [Entry.Alike] at hentry

end File
end ViewAtlas
