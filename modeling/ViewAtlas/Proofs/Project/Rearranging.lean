import ViewAtlas.Project.Selection
import ViewAtlas.Proofs.File.Alike
import ViewAtlas.Proofs.Project.Sources
/-!
# Configurations whose entries are rearranged

The entries of `files`, `include` and `exclude` can stand in another order, or more than once.  On disks that differ by
that alone (`Reorders`) every configuration resolves to settings that differ by that alone (`resolve_reordered`), and
settings that do so select the same files (`selected_same`).
-/
namespace ViewAtlas
namespace Project

open File (Disk Path Glob Related)
open Json (Value)

/-- **The same entries**, in any order and number.  Entries that are no texts stay where they are. -/
structure SameEntries (l l' : List Value) : Prop where
  members : ∀ v, v ∈ l ↔ v ∈ l'
  texts : l = l' ∨ ∀ v ∈ l, ∃ t, v = .text t

/-- **One value, or two lists of the same entries.** -/
inductive Rearranged : Value → Value → Prop
  | same (v : Value) : Rearranged v v
  | list {l l' : List Value} (h : SameEntries l l') : Rearranged (.list l) (.list l')

/-- **Configurations that differ in the arrangement of their entries.** -/
structure SameConfiguration (v w : Value) : Prop where
  bases : v.field "extends" = w.field "extends"
  files : Rearranged (v.field "files") (w.field "files")
  includes : Rearranged (v.field "include") (w.field "include")
  excludes : Rearranged (v.field "exclude") (w.field "exclude")

/-- **What a file may hold instead**: the same, or a configuration with its entries rearranged. -/
inductive Reorders : List UInt8 → List UInt8 → Prop
  | same (octets : List UInt8) : Reorders octets octets
  | configuration {a b : List UInt8} {s t : Text} {fields fields' : List (Text × Value)} (ha : File.textOf a = .ok s)
      (hs : Json.readRelaxed s = .ok (.record fields)) (hb : File.textOf b = .ok t)
      (ht : Json.readRelaxed t = .ok (.record fields')) (h : SameConfiguration (.record fields) (.record fields')) :
      Reorders a b

variable {d d' : Disk}

/-! ## Results -/

theorem related_refl {ε α : Type} {r : α → α → Prop} (hr : ∀ a, r a a) (x : Except ε α) : Related r x x := by
  cases x with
  | ok a => exact .ok (hr a)
  | error e => exact .error e

theorem related_andThen {ε α β α' β' : Type} {r : α → β → Prop} {r' : α' → β' → Prop} {x : Noted ε α} {y : Noted ε β}
    {f : α → Noted ε α'} {g : β → Noted ε β'} (h : Related r x.result y.result)
    (hfg : ∀ a b, r a b → Related r' (f a).result (g b).result) :
    Related r' (x.andThen f).result (y.andThen g).result := by
  obtain ⟨n, x⟩ := x
  obtain ⟨m, y⟩ := y
  cases h with
  | ok h => exact hfg _ _ h
  | error e => exact .error e

theorem related_foldlM {ε α β β' : Type} {r : β → β' → Prop} {f : β → α → Noted ε β} {g : β' → α → Noted ε β'}
    (hfg : ∀ a b b', r b b' → Related r (f b a).result (g b' a).result) : ∀ {l : List α} {b : β} {b' : β'}, r b b' →
      Related r (l.foldlM f b).result (l.foldlM g b').result
  | [], _, _, h => .ok h
  | a :: l, b, b', h => by
    rw [List.foldlM_cons, List.foldlM_cons]
    exact related_andThen (hfg a b b' h) fun _ _ h => related_foldlM hfg h

theorem result_foldlM {ε α β : Type} {f : β → α → Noted ε β} {g : β → α → Except ε β}
    (hfg : ∀ b a, (f b a).result = g b a) : ∀ (l : List α) (b : β), (l.foldlM f b).result = l.foldlM g b
  | [], _ => rfl
  | a :: l, b => by
    rw [List.foldlM_cons, List.foldlM_cons, ← hfg b a, Noted.bind_eq_andThen]
    unfold Noted.andThen
    cases (f b a).result with
    | ok x => exact result_foldlM hfg l x
    | error e => rfl

/-! ## Settings -/

theorem SameEntries.refl (l : List Value) : SameEntries l l := ⟨fun _ => Iff.rfl, .inl rfl⟩

theorem SameConfiguration.refl (v : Value) : SameConfiguration v v := ⟨rfl, .same _, .same _, .same _⟩

/-- **A setting with its entries rearranged.** -/
structure Setting.Same (s t : Setting) : Prop where
  values : SameEntries s.values t.values
  folder : s.folder = t.folder

/-- **Settings with their entries rearranged.** -/
structure Settings.Same (s t : Settings) : Prop where
  files : Option.Rel Setting.Same s.files t.files
  includes : Option.Rel Setting.Same s.includes t.includes
  excludes : Option.Rel Setting.Same s.excludes t.excludes

theorem Settings.same_none : Settings.none.Same Settings.none := ⟨.none, .none, .none⟩

theorem Settings.Same.before {s s' t t' : Settings} (hs : s.Same s') (ht : t.Same t') :
    (s.before t).Same (s'.before t') := by
  have hor : ∀ {a a' b b' : Option Setting}, Option.Rel Setting.Same a a' → Option.Rel Setting.Same b b' →
      Option.Rel Setting.Same (a <|> b) (a' <|> b') := by
    intro a a' b b' ha hb
    cases ha with
    | none => exact hb
    | some h => exact .some h
  exact ⟨hor hs.files ht.files, hor hs.includes ht.includes, hor hs.excludes ht.excludes⟩

theorem load_reordered (h : d.Alike Reorders d') (path : Text) :
    Related SameConfiguration (load d path) (load d' path) := by
  rcases h.read path with hread | ⟨a, b, hab, ha, hb⟩
  · unfold load
    rw [hread]
    exact related_refl .refl _
  · unfold load
    rw [ha, hb]
    cases hab with
    | same => exact related_refl .refl _
    | configuration hs hrecord ht hrecord' hsame =>
      simp only [hs, hrecord, ht, hrecord']
      exact .ok hsame

theorem baseNames_same {v w : Value} (h : SameConfiguration v w) : baseNames v = baseNames w := by
  unfold baseNames
  rw [h.bases]

theorem ownSetting_same {folder : Path} {v w : Value} {name : String} (h : Rearranged (v.field name) (w.field name)) :
    Related (Option.Rel Setting.Same) (ownSetting folder v name) (ownSetting folder w name) := by
  have hrefl : ∀ x : Option Setting, Option.Rel Setting.Same x x := by
    rintro (_ | x)
    · exact .none
    · exact .some ⟨.refl _, rfl⟩
  unfold ownSetting
  generalize v.field name = a at h ⊢
  generalize w.field name = b at h ⊢
  cases h with
  | same => exact related_refl hrefl _
  | list h => exact .ok (.some ⟨h, rfl⟩)

theorem ownSettings_same {folder : Path} {v w : Value} (h : SameConfiguration v w) :
    Related Settings.Same (ownSettings folder v) (ownSettings folder w) :=
  (ownSetting_same h.files).bind fun _ _ hfiles => (ownSetting_same h.includes).bind fun _ _ hincludes =>
    (ownSetting_same h.excludes).bind fun _ _ hexcludes => .ok ⟨hfiles, hincludes, hexcludes⟩

theorem findFile_alike {R : List UInt8 → List UInt8 → Prop} (h : d.Alike R d') : findFile d = findFile d' := by
  funext p
  rw [findFile, findFile, h.isTooLong, h.isFile]

theorem basePath?_alike {R : List UInt8 → List UInt8 → Prop} (h : d.Alike R d') (folder : Path) (name : Text) :
    basePath? d folder name = basePath? d' folder name := by
  rw [basePath?, basePath?, findFile_alike h]

theorem resolve_reordered (h : d.Alike Reorders d') (chain : List Path) (path : Path) :
    Related Settings.Same (resolve d chain path).result (resolve d' chain path).result := by
  rw [resolve, resolve]
  by_cases hc : path ∈ chain
  · rw [dif_pos hc, dif_pos hc]
    exact .error _
  · rw [dif_neg hc, dif_neg hc]
    refine related_andThen (load_reordered h path.text) fun v w hvw => ?_
    have hfiles := h.filePaths
    by_cases hp : path ∈ d.filePaths
    · rw [dif_pos hp, dif_pos (hfiles ▸ hp), baseNames_same hvw]
      refine related_andThen (related_refl (fun _ => rfl) _) fun names names' hnames => ?_
      cases hnames
      refine related_andThen (related_foldlM ?_ Settings.same_none) fun inherited inherited' hinherited =>
        related_andThen (ownSettings_same hvw) fun own own' hown => .ok (hown.before hinherited)
      intro name settings settings' hsettings
      split
      · rename_i name
        rw [basePath?_alike h path.folder name]
        split
        · exact .error _
        · exact .ok hsettings
        · exact related_andThen (resolve_reordered h (chain ++ [path]) _) fun s s' hs => .ok (hs.before hsettings)
      · exact .error _
    · rw [dif_neg hp, dif_neg (hfiles ▸ hp)]
      exact .ok Settings.same_none
termination_by remaining d chain
decreasing_by exact remaining_append hp hc

/-! ## Collections -/

section Collections

variable {ε α β : Type} {f : α → Except ε (List β)}

/-- What each item of a list gives, one after another. -/
def collect (f : α → Except ε (List β)) (l : List α) (start : List β) : Except ε (List β) :=
  l.foldlM (fun found a => f a >>= fun b => .ok (found ++ b)) start

theorem mem_collect : ∀ {l : List α} {start found : List β}, collect f l start = .ok found →
    (∀ a ∈ l, ∃ b, f a = .ok b) ∧ ∀ x, x ∈ found ↔ x ∈ start ∨ ∃ a ∈ l, ∃ b, f a = .ok b ∧ x ∈ b
  | [], start, found, h => by
    cases h
    simp
  | a :: l, start, found, h => by
    rw [collect, List.foldlM_cons] at h
    cases hb : f a with
    | error e => simp [hb, bind, Except.bind] at h
    | ok b =>
      rw [hb] at h
      change collect f l (start ++ b) = .ok found at h
      obtain ⟨hall, hmem⟩ := mem_collect h
      refine ⟨List.forall_mem_cons.2 ⟨⟨b, hb⟩, hall⟩, fun x => ?_⟩
      rw [hmem, List.mem_append, or_assoc]
      simp [hb]

theorem collect_ok : ∀ {l : List α} (start : List β), (∀ a ∈ l, ∃ b, f a = .ok b) → ∃ found, collect f l start = .ok found
  | [], start, _ => ⟨start, rfl⟩
  | a :: l, start, h => by
    obtain ⟨b, hb⟩ := h a (List.mem_cons_self ..)
    obtain ⟨found, hfound⟩ := collect_ok (start ++ b) fun a ha => h a (List.mem_cons_of_mem _ ha)
    refine ⟨found, ?_⟩
    rw [collect, List.foldlM_cons, hb]
    exact hfound

theorem collect_same {l l' : List α} (h : ∀ a, a ∈ l ↔ a ∈ l') {found : List β} (hfound : collect f l [] = .ok found) :
    ∃ found', collect f l' [] = .ok found' ∧ ∀ x, x ∈ found ↔ x ∈ found' := by
  obtain ⟨hall, hmem⟩ := mem_collect hfound
  obtain ⟨found', hfound'⟩ := collect_ok [] fun a ha => hall a ((h a).2 ha)
  refine ⟨found', hfound', fun x => ?_⟩
  rw [hmem, (mem_collect hfound').2]
  simp only [h]

end Collections

/-! ## Selections -/

def listedBy (d : Disk) (folder : Path) (v : Value) : Except Failure (List Path) :=
  entryText v >>= fun name =>
    findFile d (folder.join (.ofText name)).normal >>= fun isThere =>
      .ok (if isThere then [(folder.join (.ofText name)).normal] else [])

theorem result_listed (d : Disk) (s : Setting) : (listed d s).result = collect (listedBy d s.folder) s.values [] := by
  refine result_foldlM (fun paths v => ?_) _ _
  unfold listedBy
  cases entryText v with
  | error e => rfl
  | ok name =>
    rw [Noted.bind_eq_andThen, Noted.result_andThen (show (Noted.ofExcept (.ok name)).result = .ok name from rfl)]
    dsimp only [bind, Except.bind]
    cases findFile d (s.folder.join (.ofText name)).normal with
    | error e => rfl
    | ok isThere =>
      cases isThere with
      | true => rfl
      | false => exact congrArg Except.ok (List.append_nil paths).symm

/-- The files that an entry includes and others do not exclude. -/
def includedBy (d : Disk) (folder : Path) (excludes : Setting) (v : Value) : Except Failure (List Path) :=
  entryText v >>= fun pattern => expand d folder pattern >>= fun found =>
    found.filterM fun p => do return !(← isExcluded excludes.folder p excludes.values)

theorem included_eq (d : Disk) (includes excludes : Setting) :
    included d includes excludes = collect (includedBy d includes.folder excludes) includes.values [] := by
  unfold included collect includedBy
  simp only [bind_assoc]
  rfl

/-- Whether an entry that is a text is a pattern for what is seen from a folder. -/
def hides (relative : Text) : Value → Bool
  | .text t => isUnder relative t
  | _ => false

theorem isExcluded_texts {folder p : Path} {l : List Value} (h : ∀ v ∈ l, ∃ t, v = .text t) :
    isExcluded folder p l = .ok (l.any (hides (folder.normal.relative p.normal).text)) := by
  have hfrom : ∀ (l : List Value) (found : Bool), (∀ v ∈ l, ∃ t, v = .text t) →
      l.foldlM (fun found v => if found then .ok true else do
          return isUnder (folder.normal.relative p.normal).text (← entryText v)) found =
        (.ok (found || l.any (hides (folder.normal.relative p.normal).text)) : Except Failure Bool) := by
    intro l
    induction l with
    | nil =>
      intro found _
      rw [List.any_nil, Bool.or_false]
      rfl
    | cons v l ih =>
      intro found h
      obtain ⟨⟨t, rfl⟩, hrest⟩ := List.forall_mem_cons.1 h
      rw [List.foldlM_cons, List.any_cons, ← Bool.or_assoc]
      cases found with
      | true => exact ih true hrest
      | false => exact ih _ hrest
  exact hfrom l false h

theorem isExcluded_same {l l' : List Value} (h : SameEntries l l') (folder p : Path) :
    isExcluded folder p l = isExcluded folder p l' := by
  rcases h.texts with rfl | htexts
  · rfl
  · rw [isExcluded_texts htexts, isExcluded_texts fun v hv => htexts v ((h.members v).2 hv)]
    refine congrArg Except.ok (Bool.eq_iff_iff.2 ?_)
    simp only [List.any_eq_true, h.members]

theorem filesFrom_alike {R : List UInt8 → List UInt8 → Prop} {start : Path} {ps qs : List File.Place}
    (h : List.Forall₂ (File.Place.Alike R) ps qs) : filesFrom start ps = filesFrom start qs := by
  refine File.map_files_alike (fun hnames => ?_) h
  unfold File.Place.path
  rw [hnames]

theorem globbed_alike {R : List UInt8 → List UInt8 → Prop} (h : d.Alike R d') (folder : Path) (pattern : Text) :
    globbed d folder pattern = globbed d' folder pattern := by
  unfold globbed
  rw [h.isTooLong]
  cases Glob.ofText pattern with
  | error fault => rfl
  | ok g =>
    have hlocate := h.locate folder.text
    dsimp only
    generalize d.locate folder.text = x at hlocate ⊢
    generalize d'.locate folder.text = y at hlocate ⊢
    cases hlocate with
    | ok hpq =>
      dsimp only
      rw [h.overruns g.foldersOnly folder hpq, filesFrom_alike (hpq.select g)]
    | error e => rfl

theorem expand_alike {R : List UInt8 → List UInt8 → Prop} (h : d.Alike R d') (folder : Path) (pattern : Text) :
    expand d folder pattern = expand d' folder pattern := by
  have hlong := h.isTooLong (folder.join (.ofText pattern)).text
  have hkind := h.isFolder (folder.join (.ofText pattern)).text
  cases hshort : d.isTooLong (folder.join (.ofText pattern)).text with
  | true => rw [expand_tooLong hshort, expand_tooLong (hlong ▸ hshort)]
  | false =>
    cases hfolder : d.isFolder (folder.join (.ofText pattern)).text with
    | false =>
      rw [expand_globbed hshort hfolder, expand_globbed (hlong ▸ hshort) (hkind ▸ hfolder), globbed_alike h]
    | true =>
      obtain ⟨p, hp, hpfolder⟩ := isFolder_iff.1 hfolder
      obtain ⟨q, hq, hqfolder⟩ := isFolder_iff.1 (hkind ▸ hfolder)
      have hpq : p.Alike R q := by
        have hlocate := h.locate (folder.join (.ofText pattern)).text
        rw [hp, hq] at hlocate
        cases hlocate with
        | ok hpq => exact hpq
      have hwithin : (p.within.any fun r => d.isTooLong (p.spell (folder.join (.ofText pattern)) r).text) =
          q.within.any fun r => d'.isTooLong (q.spell (folder.join (.ofText pattern)) r).text :=
        File.any_alike (fun hab => by rw [hpq.spell hab, h.isTooLong]) hpq.within
      rw [expand_folder hp hpfolder, expand_folder hq hqfolder, hwithin, filesFrom_alike hpq.within]

def includesOf (root : Path) (s : Settings) : Option Setting :=
  match s.includes with
  | some i => some i
  | none => if (s.files.getD ⟨[], root⟩).values.isEmpty then some (everything root) else none

def chosen (d : Disk) (root : Path) (s : Settings) : Except Failure (List Path) :=
  match includesOf root s with
  | some i => collect (includedBy d i.folder (s.excludes.getD ⟨[], root⟩)) i.values []
  | none => .ok []

theorem selected_eq (d : Disk) (root : Path) (s : Settings) : (selected d root s).result =
    (listed d (s.files.getD ⟨[], root⟩)).result >>= fun names => chosen d root s >>= fun found => .ok (names ++ found) := by
  have hsome : ∀ (names : List Path) (i : Setting),
      ((Noted.ofExcept (included d i (s.excludes.getD ⟨[], root⟩))).andThen fun found =>
        (Noted.done (names ++ found) : Noted Failure _)).result =
      included d i (s.excludes.getD ⟨[], root⟩) >>= fun found => .ok (names ++ found) := by
    intro names i
    cases included d i (s.excludes.getD ⟨[], root⟩) <;> rfl
  unfold selected chosen includesOf
  simp only [← included_eq]
  cases hnames : (listed d (s.files.getD ⟨[], root⟩)).result with
  | error e =>
    simp only [Noted.bind_eq_andThen, Noted.andThen, hnames]
    rfl
  | ok names =>
    rw [Noted.bind_eq_andThen, Noted.result_andThen hnames]
    change _ = (_ >>= fun found => Except.ok (names ++ found))
    cases s.includes with
    | some i => exact hsome names i
    | none =>
      cases (s.files.getD ⟨[], root⟩).values.isEmpty with
      | true => exact hsome names _
      | false => exact congrArg Except.ok (List.append_nil names).symm

theorem same_getD {root : Path} {a b : Option Setting} (h : Option.Rel Setting.Same a b) :
    (a.getD ⟨[], root⟩).Same (b.getD ⟨[], root⟩) := by
  cases h with
  | none => exact ⟨.refl _, rfl⟩
  | some h => exact h

theorem includesOf_same {root : Path} {s s' : Settings} (hs : s.Same s') :
    Option.Rel Setting.Same (includesOf root s) (includesOf root s') := by
  have hempty : (s.files.getD ⟨[], root⟩).values.isEmpty = (s'.files.getD ⟨[], root⟩).values.isEmpty := by
    rw [Bool.eq_iff_iff, List.isEmpty_iff, List.isEmpty_iff, List.eq_nil_iff_forall_not_mem,
      List.eq_nil_iff_forall_not_mem]
    simp only [(same_getD hs.files).values.members]
  have hincludes := hs.includes
  unfold includesOf
  rw [hempty]
  generalize s.includes = a at hincludes ⊢
  generalize s'.includes = b at hincludes ⊢
  cases hincludes with
  | some h => exact .some h
  | none =>
    dsimp only
    split
    · exact .some ⟨.refl _, rfl⟩
    · exact .none

theorem selected_same {R : List UInt8 → List UInt8 → Prop} (h : d.Alike R d') {root : Path} {s s' : Settings}
    (hs : s.Same s') {paths : List Path} (hpaths : (selected d root s).result = .ok paths) :
    ∃ paths', (selected d' root s').result = .ok paths' ∧ ∀ p, p ∈ paths ↔ p ∈ paths' := by
  have hfiles : (s.files.getD ⟨[], root⟩).Same (s'.files.getD ⟨[], root⟩) := same_getD hs.files
  have hexcludes : (s.excludes.getD ⟨[], root⟩).Same (s'.excludes.getD ⟨[], root⟩) := same_getD hs.excludes
  rw [selected_eq] at hpaths
  obtain ⟨names, hnames, hpaths⟩ := bind_ok_iff.1 hpaths
  obtain ⟨found, hfound, hpaths⟩ := bind_ok_iff.1 hpaths
  cases hpaths
  have hlisted : listedBy d (s.files.getD ⟨[], root⟩).folder = listedBy d' (s'.files.getD ⟨[], root⟩).folder := by
    unfold listedBy
    simp only [findFile_alike h, hfiles.folder]
  rw [result_listed, hlisted] at hnames
  obtain ⟨names', hnames', hsamenames⟩ := collect_same hfiles.values.members hnames
  have hchosen : ∃ found', chosen d' root s' = .ok found' ∧ ∀ p, p ∈ found ↔ p ∈ found' := by
    have hincludes : Option.Rel Setting.Same (includesOf root s) (includesOf root s') := includesOf_same hs
    unfold chosen at hfound ⊢
    generalize includesOf root s = a at hincludes hfound
    generalize includesOf root s' = b at hincludes
    cases hincludes with
    | none => exact ⟨found, hfound, fun _ => Iff.rfl⟩
    | @some i i' hi =>
      have hincluded : includedBy d i.folder (s.excludes.getD ⟨[], root⟩) =
          includedBy d' i'.folder (s'.excludes.getD ⟨[], root⟩) := by
        unfold includedBy
        simp only [expand_alike h, hi.folder, hexcludes.folder, isExcluded_same hexcludes.values]
      dsimp only at hfound ⊢
      rw [hincluded] at hfound
      exact collect_same hi.values.members hfound
  obtain ⟨found', hfound', hsamefound⟩ := hchosen
  refine ⟨names' ++ found', ?_, fun p => ?_⟩
  · rw [selected_eq, result_listed]
    exact bind_ok_iff.2 ⟨names', hnames', bind_ok_iff.2 ⟨found', hfound', rfl⟩⟩
  · rw [List.mem_append, List.mem_append, hsamenames, hsamefound]

end Project
end ViewAtlas
