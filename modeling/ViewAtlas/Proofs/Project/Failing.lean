import ViewAtlas.CommandLine.Run
import ViewAtlas.Proofs.File.Finding
import ViewAtlas.Proofs.Project.Loading
import ViewAtlas.Proofs.Project.Rearranging
/-!
# How reading a project fails

When the settings of all configurations that are reached are of the right kind, a project is read, or its failure is
reported, but for three mistakes: a whole number with too many digits in one of them (`resolve_error`), a pattern in
effect that names no folder and writes no glob (`selected_error`), and a path to be looked up that is too long (in both).
The program ends with a word on every failure that is reported (`ends_of_isReported`).
-/
namespace ViewAtlas
namespace Project

open File (Disk Path Place Glob)
open Json (Value)

variable {d : Disk}

/-! ## Failures of runs -/

theorem result_andThen_error {ε α β : Type} {a : Noted ε α} {f : α → Noted ε β} {e : ε}
    (h : (a.andThen f).result = .error e) : a.result = .error e ∨ ∃ x, a.result = .ok x ∧ (f x).result = .error e := by
  obtain ⟨n, r⟩ := a
  cases r with
  | ok x => exact .inr ⟨x, rfl, h⟩
  | error e' =>
    cases h
    exact .inl rfl

theorem result_foldlM_error {ε α β : Type} {f : β → α → Noted ε β} {e : ε} : ∀ {l : List α} {b : β},
    (l.foldlM f b).result = .error e → ∃ a ∈ l, ∃ b, (f b a).result = .error e
  | [], _, h => nomatch h
  | a :: l, b, h => by
    rw [List.foldlM_cons] at h
    rcases result_andThen_error h with h | ⟨x, -, h⟩
    · exact ⟨a, List.mem_cons_self .., b, h⟩
    · obtain ⟨a', ha', hstep⟩ := result_foldlM_error h
      exact ⟨a', List.mem_cons_of_mem _ ha', hstep⟩

theorem foldlM_keeps_of_mem {ε α β : Type} {f : β → α → Noted ε β} {P : β → Prop} : ∀ {l : List α} {b c : β},
    (∀ a ∈ l, ∀ b b', P b → (f b a).result = .ok b' → P b') → P b → (l.foldlM f b).result = .ok c → P c
  | [], _, _, _, hb, h => by
    cases h
    exact hb
  | a :: l, b, c, hstep, hb, h => by
    obtain ⟨x, hx, hl⟩ := Noted.result_foldlM_cons.1 h
    exact foldlM_keeps_of_mem (fun a ha => hstep a (List.mem_cons_of_mem _ ha))
      (hstep a (List.mem_cons_self ..) b x hb hx) hl

theorem bind_error {ε α β : Type} {a : Except ε α} {f : α → Except ε β} {e : ε} (h : a >>= f = .error e) :
    a = .error e ∨ ∃ x, a = .ok x ∧ f x = .error e := by
  cases a with
  | ok x => exact .inr ⟨x, rfl, h⟩
  | error e' =>
    cases h
    exact .inl rfl

theorem collect_error {ε α β : Type} {f : α → Except ε (List β)} {e : ε} : ∀ {l : List α} {start : List β},
    collect f l start = .error e → ∃ a ∈ l, f a = .error e
  | [], _, h => nomatch h
  | a :: l, start, h => by
    rw [collect, List.foldlM_cons] at h
    rcases bind_error h with h | ⟨x, -, h⟩
    · rcases bind_error h with h | ⟨b, -, h⟩
      · exact ⟨a, List.mem_cons_self .., h⟩
      · cases h
    · obtain ⟨a', ha', h⟩ := collect_error h
      exact ⟨a', List.mem_cons_of_mem _ ha', h⟩

/-! ## Configurations of the right kind -/

def IsTexts (v : Value) : Prop := v = .null ∨ ∃ l, v = .list l ∧ ∀ x ∈ l, ∃ t, x = .text t

/-- **A configuration whose settings are of the right kind.** -/
structure IsWellTyped (v : Value) : Prop where
  bases : (∃ t, v.field "extends" = .text t) ∨ IsTexts (v.field "extends")
  files : IsTexts (v.field "files")
  includes : IsTexts (v.field "include")
  excludes : IsTexts (v.field "exclude")

/-- **One configuration extends another**: it names it, and the other is found by the name. -/
def Extends (d : Disk) (p q : Path) : Prop :=
  ∃ v names t, load d p.text = .ok v ∧ baseNames v = .ok names ∧ .text t ∈ names ∧ basePath? d p.folder t = .ok (some q)

abbrev Reaches (d : Disk) : Path → Path → Prop := Relation.ReflTransGen (Extends d)

def AreWellTyped (d : Disk) (path : Path) : Prop := ∀ q, Reaches d path q → ∀ v, load d q.text = .ok v → IsWellTyped v

theorem AreWellTyped.of_extends {p q : Path} (h : AreWellTyped d p) (hpq : Extends d p q) : AreWellTyped d q :=
  fun r hr => h r (.head hpq hr)

theorem IsWellTyped.baseNames {v : Value} (h : IsWellTyped v) :
    ∃ names, Project.baseNames v = .ok names ∧ ∀ n ∈ names, ∃ t, n = .text t := by
  unfold Project.baseNames
  rcases h.bases with ⟨t, ht⟩ | hnone | ⟨l, hl, htexts⟩
  · rw [ht]
    refine ⟨_, rfl, fun n hn => ?_⟩
    split at hn
    · cases hn
    · exact ⟨t, List.mem_singleton.1 hn⟩
  · rw [hnone]
    exact ⟨[], rfl, fun _ h => nomatch h⟩
  · rw [hl]
    cases l with
    | nil => exact ⟨[], rfl, fun _ h => nomatch h⟩
    | cons x l => exact ⟨x :: l, rfl, htexts⟩

def Setting.IsTexts (s : Setting) : Prop := ∀ v ∈ s.values, ∃ t, v = .text t

structure Settings.AreTexts (s : Settings) : Prop where
  files : ∀ x ∈ s.files, x.IsTexts
  includes : ∀ x ∈ s.includes, x.IsTexts
  excludes : ∀ x ∈ s.excludes, x.IsTexts

theorem none_areTexts : Settings.none.AreTexts :=
  ⟨fun _ h => (nomatch h), fun _ h => (nomatch h), fun _ h => (nomatch h)⟩

theorem Settings.AreTexts.before {s t : Settings} (hs : s.AreTexts) (ht : t.AreTexts) : (s.before t).AreTexts := by
  have hor : ∀ {a b : Option Setting}, (∀ x ∈ a, x.IsTexts) → (∀ x ∈ b, x.IsTexts) → ∀ x ∈ (a <|> b), x.IsTexts := by
    intro a b ha hb
    cases a with
    | none => exact hb
    | some x => exact ha
  exact ⟨hor hs.files ht.files, hor hs.includes ht.includes, hor hs.excludes ht.excludes⟩

theorem ownSetting_texts (folder : Path) {v : Value} {name : String} (h : IsTexts (v.field name)) :
    ∃ x, ownSetting folder v name = .ok x ∧ ∀ y ∈ x, y.IsTexts := by
  unfold ownSetting
  rcases h with h | ⟨l, hl, htexts⟩
  · rw [h]
    exact ⟨none, rfl, fun _ h => nomatch h⟩
  · rw [hl]
    refine ⟨some ⟨l, folder⟩, rfl, fun y hy => ?_⟩
    cases hy
    exact htexts

theorem IsWellTyped.ownSettings {v : Value} (h : IsWellTyped v) (folder : Path) :
    ∃ s, Project.ownSettings folder v = .ok s ∧ s.AreTexts := by
  obtain ⟨files, hfiles, h1⟩ := ownSetting_texts folder h.files
  obtain ⟨includes, hincludes, h2⟩ := ownSetting_texts folder h.includes
  obtain ⟨excludes, hexcludes, h3⟩ := ownSetting_texts folder h.excludes
  refine ⟨⟨files, includes, excludes⟩, ?_, h1, h2, h3⟩
  unfold Project.ownSettings
  rw [hfiles, hincludes, hexcludes]
  rfl

/-! ## Paths without NUL -/

def HasNoNul (p : Path) : Prop := ∀ n ∈ p.names, '\x00' ∉ n

theorem step_ne_nul {p : Place} {n : Text} : p.step n ≠ .error .nul := by
  unfold Place.step
  split
  · simp
  · split
    · simp
    · split
      · split <;> simp
      · split
        · simp
        · split <;> simp

theorem mem_of_locate {path : Text} (h : d.locate path = .error .nul) : '\x00' ∈ path := by
  have hsteps : ∀ {names : List Text} {p : Place}, names.foldlM Place.step p ≠ .error .nul := by
    intro names
    induction names with
    | nil => exact fun h => nomatch h
    | cons n names ih =>
      intro p h
      rw [List.foldlM_cons] at h
      rcases bind_error h with h | ⟨q, -, h⟩
      · exact step_ne_nul h
      · exact ih h
  unfold Disk.locate at h
  split at h
  · rename_i hnul
    simpa using hnul
  · split at h
    · cases h
    · split at h
      · cases h
      · exact absurd h hsteps

theorem notMem_of_isFile {path : Text} (h : d.isFile path = true) : '\x00' ∉ path := by
  intro hnul
  unfold Disk.isFile Disk.locate at h
  rw [if_pos (by simpa using hnul)] at h
  cases h

theorem HasNoNul.text {p : Path} (h : HasNoNul p) : '\x00' ∉ p.text := by
  unfold Path.text
  split
  · simp
  · rw [List.mem_append, not_or]
    exact ⟨fun hc => absurd (List.eq_of_mem_replicate hc) (by decide), File.notMem_joinWith (by decide) h⟩

theorem hasNoNul_of_text {p : Path} (h : '\x00' ∉ p.text) : HasNoNul p := by
  intro n hn hc
  refine h ?_
  unfold Path.text
  split
  · rename_i hempty
    rw [hempty.2] at hn
    cases hn
  · exact List.mem_append_right _ (Text.mem_joinWith ['/'] hn hc)

theorem HasNoNul.normal {p : Path} (h : HasNoNul p) : HasNoNul p.normal := by
  intro n hn
  rcases File.mem_collapse hn with hn | hn | hn
  · cases hn
  · exact h n hn
  · rw [hn]
    decide

theorem HasNoNul.base {folder p : Path} {name : Text} (h : basePath? d folder name = .ok (some p)) : HasNoNul p := by
  obtain ⟨q, -, hfile, rfl⟩ := basePath?_eq_some h
  exact (hasNoNul_of_text (notMem_of_isFile hfile)).normal

theorem HasNoNul.absolute {path : Text} (hhome : ∀ n ∈ d.home, '\x00' ∉ n) (h : '\x00' ∉ path) :
    HasNoNul (d.absolute path) := by
  have hpath : HasNoNul (.ofText path) := by
    intro n hn hc
    have hall := Text.mem_joinWith ['/'] (List.mem_filter.1 hn).1 hc
    rw [Text.joinWith_splitAt] at hall
    exact h hall
  refine HasNoNul.normal ?_
  unfold Path.join
  split
  · exact hpath
  · intro n hn
    rcases List.mem_append.1 hn with hn | hn
    · exact hhome n hn
    · exact hpath n hn

/-! ## Failures of configurations -/

/-- **A configuration that is not loaded is reported**, unless a whole number in it has too many digits. -/
theorem load_error {path : Text} {e : Failure} (hnul : '\x00' ∉ path) (h : load d path = .error e) :
    e.isReported = true ∨ ∃ digits, e = .longNumber digits := by
  unfold load at h
  split at h
  · rename_i hread
    refine absurd (mem_of_locate (d := d) ?_) hnul
    unfold Disk.read at hread
    split at hread
    · rename_i why hwhy
      cases hread
      exact hwhy
    · split at hread
      · cases hread
      · split at hread <;> cases hread
  · cases h
    exact .inl rfl
  · cases h
    exact .inl rfl
  · cases h
    exact .inl rfl
  · split at h
    · cases h
    · cases h
    · cases h
      exact .inl rfl
    · cases h
      exact .inr ⟨_, rfl⟩

def IsLong (d : Disk) (path : Path) (e : Failure) : Prop :=
  ∃ q digits, Reaches d path q ∧ load d q.text = .error (.longNumber digits) ∧ e = .longNumber digits

/-- **A configuration that is reached names a base that cannot be looked up.** -/
def MeetsTooLong (d : Disk) (path : Path) : Prop :=
  ∃ q v names t, Reaches d path q ∧ load d q.text = .ok v ∧ baseNames v = .ok names ∧ .text t ∈ names ∧
    IsTooLongFor d q.folder t

theorem MeetsTooLong.of_reaches {p q : Path} (hpq : Reaches d p q) (h : MeetsTooLong d q) : MeetsTooLong d p := by
  obtain ⟨r, v, names, t, hqr, hr⟩ := h
  exact ⟨r, v, names, t, hpq.trans hqr, hr⟩

/-- **How resolving fails**: with a failure that is reported, for a whole number with too many digits, or for a base that
cannot be looked up. -/
theorem resolve_error {chain : List Path} {path : Path} {e : Failure} (hnul : HasNoNul path) (ht : AreWellTyped d path)
    (h : (resolve d chain path).result = .error e) :
    e.isReported = true ∨ IsLong d path e ∨ (e = .tooLong ∧ MeetsTooLong d path) := by
  rw [resolve] at h
  by_cases hc : path ∈ chain
  · rw [dif_pos hc] at h
    cases h
    exact .inl rfl
  · rw [dif_neg hc] at h
    rcases result_andThen_error h with hload | ⟨config, hload, h⟩
    · rcases load_error hnul.text hload with hreported | ⟨digits, rfl⟩
      · exact .inl hreported
      · exact .inr (.inl ⟨path, digits, .refl, hload, rfl⟩)
    · have hconfig := ht path .refl config hload
      by_cases hp : path ∈ d.filePaths
      · rw [dif_pos hp] at h
        obtain ⟨names, hnames, htexts⟩ := hconfig.baseNames
        obtain ⟨own, hown, -⟩ := hconfig.ownSettings path.folder
        rcases result_andThen_error h with h | ⟨names', hnames', h⟩
        · rw [hnames] at h
          cases h
        rw [hnames] at hnames'
        cases hnames'
        rcases result_andThen_error h with h | ⟨inherited, -, h⟩
        · obtain ⟨name, hname, settings, h⟩ := result_foldlM_error h
          obtain ⟨t, rfl⟩ := htexts name hname
          dsimp only at h
          split at h
          · rename_i why hwhy
            cases h
            obtain ⟨rfl, hlong⟩ := basePath?_eq_error_iff.1 hwhy
            exact .inr (.inr ⟨rfl, path, config, names, t, .refl, hload, hnames, hname, hlong⟩)
          · cases h
          · rename_i base hbase
            have hextends : Extends d path base := ⟨config, names, t, hload, hnames, hname, hbase⟩
            rcases result_andThen_error h with h | ⟨s, -, h⟩
            · rcases resolve_error (.base hbase) (ht.of_extends hextends) h with hreported | hlong | ⟨rfl, hmeets⟩
              · exact .inl hreported
              · obtain ⟨q, digits, hq, hlong⟩ := hlong
                exact .inr (.inl ⟨q, digits, .head hextends hq, hlong⟩)
              · exact .inr (.inr ⟨rfl, hmeets.of_reaches (.single hextends)⟩)
            · cases h
        · rw [hown] at h
          cases h
      · rw [dif_neg hp] at h
        cases h
termination_by remaining d chain
decreasing_by exact remaining_append hp hc

theorem resolve_areTexts {chain : List Path} {path : Path} {s : Settings} (ht : AreWellTyped d path)
    (h : (resolve d chain path).result = .ok s) : s.AreTexts := by
  rw [resolve] at h
  by_cases hc : path ∈ chain
  · rw [dif_pos hc] at h
    cases h
  · rw [dif_neg hc] at h
    obtain ⟨config, hload, h⟩ := Noted.result_andThen_ok_iff.1 h
    have hconfig := ht path .refl config hload
    by_cases hp : path ∈ d.filePaths
    · rw [dif_pos hp] at h
      obtain ⟨names, hnames, h⟩ := Noted.result_andThen_ok_iff.1 h
      obtain ⟨inherited, hinherited, h⟩ := Noted.result_andThen_ok_iff.1 h
      obtain ⟨own, hown, h⟩ := Noted.result_andThen_ok_iff.1 h
      cases h
      obtain ⟨own', hown', htexts⟩ := hconfig.ownSettings path.folder
      have hsame : own' = own := Except.ok.inj (hown'.symm.trans hown)
      subst hsame
      refine htexts.before (foldlM_keeps_of_mem ?_ none_areTexts hinherited)
      intro name hname settings settings' hsettings hstep
      split at hstep
      · rename_i t
        split at hstep
        · cases hstep
        · obtain ⟨-, -, hstep⟩ := Noted.result_andThen_ok_iff.1 hstep
          cases hstep
          exact hsettings
        · rename_i base hbase
          obtain ⟨u, hu, hstep⟩ := Noted.result_andThen_ok_iff.1 hstep
          cases hstep
          exact (resolve_areTexts (ht.of_extends ⟨config, names, t, hload, hnames, hname, hbase⟩) hu).before hsettings
      · cases hstep
    · rw [dif_neg hp] at h
      cases h
      exact none_areTexts
termination_by remaining d chain
decreasing_by exact remaining_append hp hc

/-! ## Failures of selections -/

/-- **A pattern in effect that names no folder and writes no glob.** -/
def IsBadPattern (d : Disk) (root : Path) (s : Settings) (e : Failure) : Prop :=
  ∃ i pattern fault, includesOf root s = some i ∧ .text pattern ∈ i.values ∧ Glob.ofText pattern = .error fault ∧
    d.isFolder (i.folder.join (.ofText pattern)).text = false ∧ e = .badPattern fault

/-- **A pattern that cannot be looked up**: the path that it names is too long, or that of the folder that it starts from,
or one along its way. -/
inductive IsTooLongPattern (d : Disk) (folder : Path) (pattern : Text) : Prop
  | named (h : d.isTooLong (folder.join (.ofText pattern)).text = true)
  | within {p q : Place} (hp : d.locate (folder.join (.ofText pattern)).text = .ok p) (hfolder : p.entry.isFolder = true)
      (hq : q ∈ p.within) (h : d.isTooLong (p.spell (folder.join (.ofText pattern)) q).text = true)
  | start (h : d.isTooLong folder.text = true)
  | along {g : Glob} {p : Place} (hg : Glob.ofText pattern = .ok g) (hp : d.locate folder.text = .ok p)
      (h : d.overruns g.foldersOnly g.parts folder p = true)

/-- **An entry in effect that cannot be looked up**: a file that is listed, or a pattern. -/
def IsTooLongEntry (d : Disk) (root : Path) (s : Settings) (e : Failure) : Prop :=
  e = .tooLong ∧
    ((∃ x t, s.files = some x ∧ .text t ∈ x.values ∧ d.isTooLong (x.folder.join (.ofText t)).normal.text = true) ∨
      ∃ i pattern, includesOf root s = some i ∧ .text pattern ∈ i.values ∧ IsTooLongPattern d i.folder pattern)

theorem expand_error {folder : Path} {pattern : Text} {e : Failure} (h : expand d folder pattern = .error e) :
    (∃ fault, Glob.ofText pattern = .error fault ∧ d.isFolder (folder.join (.ofText pattern)).text = false ∧
      e = .badPattern fault) ∨ (e = .tooLong ∧ IsTooLongPattern d folder pattern) := by
  cases hshort : d.isTooLong (folder.join (.ofText pattern)).text with
  | true =>
    rw [expand_tooLong hshort] at h
    cases h
    exact .inr ⟨rfl, .named hshort⟩
  | false =>
    cases hdir : d.isFolder (folder.join (.ofText pattern)).text with
    | true =>
      obtain ⟨p, hp, hfolder⟩ := isFolder_iff.1 hdir
      rw [expand_folder hp hfolder] at h
      split at h
      · rename_i hany
        cases h
        obtain ⟨q, hq, hlong⟩ := List.any_eq_true.1 hany
        exact .inr ⟨rfl, .within hp hfolder hq hlong⟩
      · cases h
    | false =>
      rw [expand_globbed hshort hdir, globbed] at h
      split at h
      · rename_i fault hfault
        cases h
        exact .inl ⟨fault, hfault, rfl, rfl⟩
      · rename_i g hg
        split at h
        · rename_i hlong
          cases h
          exact .inr ⟨rfl, .start hlong⟩
        · split at h
          · rename_i p hp
            split at h
            · rename_i hruns
              cases h
              exact .inr ⟨rfl, .along hg hp hruns⟩
            · cases h
          · cases h

theorem filterM_ok {ε α : Type} {f : α → Except ε Bool} (hf : ∀ a, ∃ b, f a = .ok b) (l : List α) :
    ∃ kept, l.filterM f = .ok kept := by
  have hall : ∀ (l acc : List α), ∃ kept, l.filterAuxM f acc = .ok kept := by
    intro l
    induction l with
    | nil => exact fun acc => ⟨acc, rfl⟩
    | cons a l ih =>
      intro acc
      obtain ⟨b, hb⟩ := hf a
      obtain ⟨kept, hkept⟩ := ih (cond b (a :: acc) acc)
      exact ⟨kept, by rw [List.filterAuxM, hb]; exact hkept⟩
  obtain ⟨kept, hkept⟩ := hall l []
  exact ⟨kept.reverse, by rw [List.filterM, hkept]; rfl⟩

/-- **How selecting fails**, when all entries are texts: for a pattern that names no folder and writes no glob, or for an
entry that cannot be looked up. -/
theorem selected_error {root : Path} {s : Settings} {e : Failure} (hs : s.AreTexts)
    (h : (selected d root s).result = .error e) : IsBadPattern d root s e ∨ IsTooLongEntry d root s e := by
  have hgiven : ∀ {a : Option Setting}, (∀ x ∈ a, x.IsTexts) → (a.getD ⟨[], root⟩).IsTexts := by
    intro a ha
    cases a with
    | none => exact fun _ h => nomatch h
    | some x => exact ha x rfl
  rw [selected_eq, result_listed] at h
  rcases bind_error h with h | ⟨names, -, h⟩
  · obtain ⟨v, hv, h⟩ := collect_error h
    obtain ⟨t, rfl⟩ := hgiven hs.files v hv
    rcases bind_error h with h | ⟨name, hname, h⟩
    · cases h
    cases hname
    rcases bind_error h with h | ⟨isThere, -, h⟩
    · obtain ⟨hlong, rfl⟩ := findFile_eq_error h
      cases hfiles : s.files with
      | none =>
        rw [hfiles] at hv
        cases hv
      | some x =>
        rw [hfiles] at hv hlong
        exact .inr ⟨rfl, .inl ⟨x, t, hfiles, hv, hlong⟩⟩
    · cases h
  rcases bind_error h with h | ⟨found, -, h⟩
  case inr => cases h
  unfold chosen at h
  split at h
  case h_2 => cases h
  rename_i i hi
  have hitexts : i.IsTexts := by
    unfold includesOf at hi
    split at hi
    · rename_i j hj
      cases hi
      exact hs.includes i hj
    · split at hi
      · cases hi
        intro v hv
        exact ⟨_, List.mem_singleton.1 hv⟩
      · cases hi
  obtain ⟨v, hv, h⟩ := collect_error h
  obtain ⟨pattern, rfl⟩ := hitexts v hv
  rcases bind_error h with h | ⟨t, ht, h⟩
  · cases h
  cases ht
  rcases bind_error h with h | ⟨expanded, -, h⟩
  · rcases expand_error h with ⟨fault, hfault, hfolder, he⟩ | ⟨he, hlong⟩
    · exact .inl ⟨i, pattern, fault, hi, hv, hfault, hfolder, he⟩
    · exact .inr ⟨he, .inr ⟨i, pattern, hi, hv, hlong⟩⟩
  · -- patterns that are texts exclude or do not, and never fail
    obtain ⟨kept, hkept⟩ := filterM_ok (f := fun p => do
      return !(← isExcluded (s.excludes.getD ⟨[], root⟩).folder p (s.excludes.getD ⟨[], root⟩).values)) (fun p => by
        rw [isExcluded_texts (hgiven hs.excludes)]
        exact ⟨_, rfl⟩) expanded
    rw [hkept] at h
    cases h

/-! ## Failures of reading -/

theorem routesOf_error {o : Atlas.Options} {folder : Path} {e : Atlas.Failure}
    (h : (Atlas.routesOf d o folder).result = .error e) : e.isReported = true := by
  unfold Atlas.routesOf at h
  dsimp only at h
  split at h
  · rcases result_andThen_error h with h | ⟨-, -, h⟩ <;> cases h
    rfl
  · rcases result_andThen_error h with h | ⟨source, -, h⟩
    · -- what is malformed is reported, whatever it is
      generalize Script.Source.load d (File.joinTexts folder.text o.routesFile) = x at h
      cases x <;> cases h
      rfl
    · rcases result_andThen_error h with h | ⟨-, -, h⟩ <;> cases h

theorem ends_of_isReported {time : Text} {verbose : Bool} {r : CommandLine.Reading} {e : Failure}
    (h : (read d (CommandLine.optionsOf r).followImports ((r.operands.getD []).headD [])).result = .error e)
    (he : e.isReported = true) :
    (CommandLine.analyze d time verbose r).ending = .ok 1 ∧
      ∃ why shown,
        (CommandLine.analyze d time verbose r).messages = shown ++ CommandLine.line ("Error: ".toList ++ why) := by
  have hfound : ∃ why, (Atlas.analyze d (CommandLine.optionsOf r) ((r.operands.getD []).headD [])).result = .error why ∧
      why.isReported = true := by
    unfold Atlas.analyze
    rw [Noted.bind_eq_andThen]
    cases hroutes :
        (Atlas.routesOf d (CommandLine.optionsOf r) (Atlas.folderOf d ((r.operands.getD []).headD []))).result with
    | error why =>
      refine ⟨why, ?_, routesOf_error hroutes⟩
      unfold Noted.andThen
      rw [hroutes]
    | ok routes =>
      refine ⟨.unreadProject e, ?_, he⟩
      rw [Noted.result_andThen hroutes, Noted.bind_eq_andThen]
      unfold Noted.andThen Noted.mapFailure
      rw [h]
      rfl
  unfold CommandLine.analyze
  dsimp only
  split
  · exact ⟨rfl, _, [], rfl⟩
  · obtain ⟨why, hwhy, hreported⟩ := hfound
    rw [hwhy]
    dsimp only
    rw [if_pos hreported]
    exact ⟨rfl, _, _, rfl⟩

/-- **How reading a project fails.**  When the settings of all configurations that are reached are of the right kind, the
project is read, or the failure is one that is reported, or it is one of three mistakes: a whole number with too many
digits in one of the configurations, a pattern in effect that names no folder and writes no glob, or a path that is too
long to be looked up, for a base, a file that is listed or a pattern.  The program ends with a word on every failure that
is reported. -/
theorem read_error (d : Disk) (followImports : Bool) (c : Text) (hhome : ∀ n ∈ d.home, '\x00' ∉ n)
    (ht : AreWellTyped d (d.absolute c)) :
    ((∃ p, (read d followImports c).result = .ok p) ∨ ∃ e, (read d followImports c).result = .error e ∧
      (e.isReported = true ∨ IsLong d (d.absolute c) e ∨ (e = .tooLong ∧ MeetsTooLong d (d.absolute c)) ∨
        ∃ s, (resolve d [] (d.absolute c)).result = .ok s ∧
          (IsBadPattern d (d.absolute c).folder s e ∨ IsTooLongEntry d (d.absolute c).folder s e))) ∧
    ∀ time verbose (r : CommandLine.Reading) e, (r.operands.getD []).headD [] = c →
      (CommandLine.optionsOf r).followImports = followImports → (read d followImports c).result = .error e →
        e.isReported = true → (CommandLine.analyze d time verbose r).ending = .ok 1 ∧
          ∃ why shown,
            (CommandLine.analyze d time verbose r).messages = shown ++ CommandLine.line ("Error: ".toList ++ why) := by
  refine ⟨?_, ?_⟩
  · rw [read_eq]
    by_cases hc : d.isFile c = true
    case neg =>
      rw [if_neg hc]
      exact .inr ⟨_, rfl, .inl rfl⟩
    rw [if_pos hc]
    have hnul := HasNoNul.absolute hhome (notMem_of_isFile hc)
    cases hg : (gathered d (d.absolute c)).result with
    | ok sources => exact .inl ⟨_, Noted.result_andThen hg _⟩
    | error e =>
      refine .inr ⟨e, ?_, ?_⟩
      · unfold Noted.andThen
        rw [hg]
      · rcases result_andThen_error hg with h | ⟨s, hs, h⟩
        · exact (resolve_error hnul ht h).imp_right fun h => h.imp_right .inl
        · rcases result_andThen_error h with h | ⟨paths, -, h⟩
          · exact .inr (.inr (.inr ⟨s, hs, selected_error (resolve_areTexts ht hs) h⟩))
          · cases h
  · rintro time verbose r e rfl rfl h he
    exact ends_of_isReported h he

/-! ## Configurations with one pattern -/

theorem areWellTyped_of_load {path : Path} {name : String} {texts : List Text} (hname : name.toList ≠ "extends".toList)
    (h : load d path.text = .ok (.record [(name.toList, .list (texts.map .text))])) : AreWellTyped d path := by
  have hfield : ∀ n : String, (Value.record [(name.toList, .list (texts.map .text))]).field n =
      if name.toList = n.toList then .list (texts.map .text) else .null := by
    intro n
    simp only [Value.field, Table.get?]
    split <;> rfl
  have htexts : ∀ n : String, IsTexts ((Value.record [(name.toList, .list (texts.map .text))]).field n) := by
    intro n
    rw [hfield]
    split
    · refine .inr ⟨_, rfl, fun x hx => ?_⟩
      obtain ⟨t, -, rfl⟩ := List.mem_map.1 hx
      exact ⟨t, rfl⟩
    · exact .inl rfl
  have hself : ∀ q, Reaches d path q → q = path := by
    intro q hq
    induction hq with
    | refl => rfl
    | tail _ hlast ih =>
      obtain ⟨v, names, t, hv, hnames, ht, -⟩ := hlast
      rw [ih, h] at hv
      cases hv
      have hnone : baseNames (.record [(name.toList, .list (texts.map .text))]) = .ok [] := by
        unfold baseNames
        rw [hfield, if_neg hname]
        rfl
      rw [hnone] at hnames
      cases hnames
      cases ht
  intro q hq v hv
  rw [hself q hq, h] at hv
  cases hv
  exact ⟨.inr (htexts _), htexts _, htexts _, htexts _⟩

def including (pattern : String) : List UInt8 :=
  Text.Utf8.encode ("\x7b\"include\":[\"".toList ++ pattern.toList ++ "\"]\x7d".toList)

def alone (configuration : List UInt8) : Disk := ⟨[("p".toList, .folder [("t.json".toList, .file configuration)])], []⟩

theorem areWellTyped_alone {octets : List UInt8} {texts : List Text}
    (h : onlySetting? octets = some ("include".toList, texts)) :
    AreWellTyped (alone octets) ⟨1, ["p".toList, "t.json".toList]⟩ := by
  have hplace : (alone octets).locate (⟨1, ["p".toList, "t.json".toList]⟩ : Path).text = .ok
      ⟨["t.json".toList, "p".toList], .file octets,
        [.folder [("t.json".toList, .file octets)], .folder (alone octets).entries]⟩ := rfl
  exact areWellTyped_of_load (by decide) (load_onlySetting hplace rfl h)

theorem read_error_glued :
    let d := alone (including "src/**.ts")
    AreWellTyped d (d.absolute "/p/t.json".toList) ∧
      ((∃ p, (read d true "/p/t.json".toList).result = .ok p) ∨ ∃ e, (read d true "/p/t.json".toList).result = .error e ∧
        (e.isReported = true ∨ IsLong d (d.absolute "/p/t.json".toList) e ∨
          (e = .tooLong ∧ MeetsTooLong d (d.absolute "/p/t.json".toList)) ∨
            ∃ s, (resolve d [] (d.absolute "/p/t.json".toList)).result = .ok s ∧
              (IsBadPattern d (d.absolute "/p/t.json".toList).folder s e ∨
                IsTooLongEntry d (d.absolute "/p/t.json".toList).folder s e))) := by
  intro d
  have hpath : d.absolute "/p/t.json".toList = ⟨1, ["p".toList, "t.json".toList]⟩ := by decide +kernel
  have honly : onlySetting? (including "src/**.ts") = some ("include".toList, ["src/**.ts".toList]) := by decide +kernel
  have ht : AreWellTyped d (d.absolute "/p/t.json".toList) := by
    rw [hpath]
    exact areWellTyped_alone honly
  exact ⟨ht, (read_error d true "/p/t.json".toList (fun _ h => nomatch h) ht).1⟩

/-- A configuration that states one setting. -/
def stating (name : Text) (texts : List Text) : List UInt8 :=
  Text.Utf8.encode (Json.print .compact (.record [(name, .list (texts.map .text))]))

theorem load_stating (name : Text) (texts : List Text) :
    load (alone (stating name texts)) (⟨1, ["p".toList, "t.json".toList]⟩ : Path).text =
      .ok (.record [(name, .list (texts.map .text))]) := by
  have hplain : Json.Plain (.record [(name, .list (texts.map .text))]) := by
    refine .record (by simp) fun f hf => ?_
    rw [List.mem_singleton.1 hf]
    refine .list fun v hv => ?_
    obtain ⟨t, -, rfl⟩ := List.mem_map.1 hv
    exact .text t
  exact load_print (p := ⟨["t.json".toList, "p".toList], .file (stating name texts),
    [.folder [("t.json".toList, .file (stating name texts))], .folder (alone (stating name texts)).entries]⟩) rfl hplain rfl

theorem resolve_of_include {path : Path} {pattern : Text} (hp : path ∈ d.filePaths)
    (hload : load d path.text = .ok (.record [("include".toList, .list [.text pattern])])) :
    resolve d [] path = .done ⟨none, some ⟨[.text pattern], path.folder⟩, none⟩ := by
  rw [resolve, dif_neg (by simp), hload]
  change (if _hp : path ∈ d.filePaths then _ else _) = _
  rw [dif_pos hp]
  rfl

theorem read_of_include {octets : List UInt8} {pattern : Text} {e : Failure}
    (hload : load (alone octets) (⟨1, ["p".toList, "t.json".toList]⟩ : Path).text =
      .ok (.record [("include".toList, .list [.text pattern])]))
    (hselected : (selected (alone octets) ⟨1, ["p".toList]⟩
      ⟨none, some ⟨[.text pattern], ⟨1, ["p".toList]⟩⟩, none⟩).result = .error e) :
    (read (alone octets) true "/p/t.json".toList).result = .error e := by
  have hfile : (alone octets).isFile "/p/t.json".toList = true := rfl
  have hpath : (alone octets).absolute "/p/t.json".toList = ⟨1, ["p".toList, "t.json".toList]⟩ := rfl
  have hlisted : (⟨1, ["p".toList, "t.json".toList]⟩ : Path) ∈ (alone octets).filePaths := List.mem_cons_self ..
  rw [read_eq, if_pos hfile, hpath, gathered, resolve_of_include hlisted hload]
  unfold Noted.andThen
  dsimp only [Noted.done]
  rw [show (⟨1, ["p".toList, "t.json".toList]⟩ : Path).folder = ⟨1, ["p".toList]⟩ from rfl, hselected]

def tooLongName : Text := List.replicate (File.mostNameOctets + 1) 'a'

/-- **Three patterns that are texts, and no failure is reported**: stars glued to something else, a path from the outermost
folder, and a name that is too long. -/
theorem read_error_not :
    let glued := alone (including "src/**.ts")
    let absolute := alone (including "/src/*.ts")
    let long := alone (stating "include".toList [tooLongName])
    (AreWellTyped glued ⟨1, ["p".toList, "t.json".toList]⟩ ∧
      (read glued true "/p/t.json".toList).result = .error (.badPattern .gluedStars)) ∧
    (AreWellTyped absolute ⟨1, ["p".toList, "t.json".toList]⟩ ∧
      (read absolute true "/p/t.json".toList).result = .error (.badPattern .absolute)) ∧
    (AreWellTyped long ⟨1, ["p".toList, "t.json".toList]⟩ ∧
      (read long true "/p/t.json".toList).result = .error .tooLong) ∧
    (∀ fault, (Failure.badPattern fault).isReported = false) ∧ Failure.tooLong.isReported = false := by
  intro glued absolute long
  have hload : ∀ {octets : List UInt8} {pattern : Text}, onlySetting? octets = some ("include".toList, [pattern]) →
      load (alone octets) (⟨1, ["p".toList, "t.json".toList]⟩ : Path).text =
        .ok (.record [("include".toList, .list [.text pattern])]) := by
    intro octets pattern honly
    exact load_onlySetting (p := ⟨["t.json".toList, "p".toList], .file octets,
      [.folder [("t.json".toList, .file octets)], .folder (alone octets).entries]⟩) rfl rfl honly
  have hglued : onlySetting? (including "src/**.ts") = some ("include".toList, ["src/**.ts".toList]) := by
    decide +kernel
  have habsolute : onlySetting? (including "/src/*.ts") = some ("include".toList, ["/src/*.ts".toList]) := by
    decide +kernel
  refine ⟨⟨areWellTyped_alone hglued, ?_⟩, ⟨areWellTyped_alone habsolute, ?_⟩,
    ⟨areWellTyped_of_load (by decide) (load_stating "include".toList [tooLongName]), ?_⟩, fun _ => rfl, rfl⟩
  · exact read_of_include (hload hglued) (by decide +kernel)
  · exact read_of_include (hload habsolute) (by decide +kernel)
  · exact read_of_include (load_stating "include".toList [tooLongName]) (by decide +kernel)

end Project
end ViewAtlas
