import ViewAtlas.Project.Selection
import ViewAtlas.Proofs.File.Places
/-!
# What a pattern excludes

A pattern includes files as a glob, name by name, and excludes them as a wildcard pattern for whole paths, or as the
name of a folder.  The second reading is `Hides`.  It agrees with the first where no star can take a slash and no `**`
is left without a folder (`excludes_iff_covers`).
-/
namespace ViewAtlas
namespace Project

open File (Disk Path Place Glob GlobPart IsLiteral)

/-- **The names that a pattern excludes**: those that it stands for when its wildcards take slashes, and those below
the folder that it names literally. -/
def Hides (pattern names : List Text) : Prop :=
  File.SpansRuns pattern names ∨ (pattern <+: names ∧ pattern ≠ names)

/-! ## The reading of an exclusion -/

theorem isPrefixOf_joinWith_iff {pattern names : List Text} (hp : pattern ≠ []) (hn : names ≠ [])
    (hpslash : ∀ n ∈ pattern, '/' ∉ n) (hnslash : ∀ n ∈ names, '/' ∉ n) :
    (Text.joinWith ['/'] pattern ++ ['/']).isPrefixOf (Text.joinWith ['/'] names) = true ↔
      pattern <+: names ∧ pattern ≠ names := by
  rw [List.isPrefixOf_iff_prefix]
  constructor
  · rintro ⟨rest, h⟩
    rw [List.append_assoc, List.singleton_append] at h
    obtain ⟨l₁, l₂, h₁, h₂, rfl, hjoin, -⟩ := Text.joinWith_eq_append_cons hn hnslash h.symm
    have heq : l₁ = pattern := by
      rw [← Text.splitAt_joinWith h₁ fun n hn => hnslash n (List.mem_append_left _ hn), hjoin,
        Text.splitAt_joinWith hp hpslash]
    subst heq
    exact ⟨List.prefix_append _ _, fun h => h₂ (List.self_eq_append_right.1 h)⟩
  · rintro ⟨⟨rest, rfl⟩, hne⟩
    have hrest : rest ≠ [] := by
      rintro rfl
      exact hne (List.append_nil _).symm
    rw [Text.joinWith_append ['/'] hp hrest, ← List.append_assoc]
    exact List.prefix_append _ _

theorem isUnder_iff {pattern : Text} {names : List Text} (hrelative : (Path.ofText pattern).isAbsolute = false)
    (hdown : Path.up ∉ (Path.ofText pattern).names) (hsome : (Path.ofText pattern).names ≠ []) (hset : '[' ∉ pattern)
    (hn : names ≠ []) (hslash : ∀ n ∈ names, '/' ∉ n) :
    isUnder (⟨0, names⟩ : Path).text pattern = true ↔ Hides (Path.ofText pattern).names names := by
  have hread := File.ofText_isRead pattern
  have hsets : ∀ n ∈ (Path.ofText pattern).names, '[' ∉ n := fun n hn hc => by
    have hmem := (List.mem_filter.1 hn).1
    have hall := Text.mem_joinWith ['/'] hmem hc
    rw [Text.joinWith_splitAt] at hall
    exact hset hall
  have hpattern : (Path.ofText pattern).normal.text = Text.joinWith ['/'] (Path.ofText pattern).names := by
    have hslashes : (Path.ofText pattern).slashes = 0 := by simpa [Path.isAbsolute] using hrelative
    rw [Path.normal, File.collapse_plain _ _ _ hdown, Path.text, hslashes, List.reverse_nil, List.nil_append,
      if_neg (by simp [hsome])]
    rfl
  have hnames : (⟨0, names⟩ : Path).text = Text.joinWith ['/'] names := by
    rw [Path.text, if_neg (by simp [hn])]
    rfl
  unfold isUnder Hides
  dsimp only
  rw [hpattern, hnames, Bool.or_eq_true, File.isLike_joinWith_iff hsome hn hsets hslash,
    isPrefixOf_joinWith_iff hsome hn (fun n hn => (hread n hn).2.2) hslash]

theorem relative_append (a b : Path) (names : List Text) (h : b.names = a.names ++ names) :
    a.relative b = ⟨0, names⟩ := by
  have hapart : ∀ l : List Text, Path.apart l (l ++ names) = ([], names) := by
    intro l
    induction l with
    | nil => cases names <;> rfl
    | cons n l ih => simpa [Path.apart] using ih
  unfold Path.relative
  rw [h, hapart]
  rfl

theorem isExcluded_eq_isUnder {folder p : Path} {names : List Text}
    (h : p.normal.names = folder.normal.names ++ names) (pattern : Text) :
    isExcluded folder p [.text pattern] = .ok (isUnder (⟨0, names⟩ : Path).text pattern) := by
  unfold isExcluded
  dsimp only
  rw [relative_append _ _ _ h]
  rfl

theorem normal_join {folder : Path} {names : List Text} (h : Path.up ∉ names) :
    (folder.join ⟨0, names⟩).normal.names = folder.normal.names ++ names := by
  unfold Path.join
  rw [if_neg (by simp [Path.isAbsolute])]
  exact File.collapse_append _ h _ _

/-! ## Where the two readings agree -/

/-- The parts that the names of a pattern make. -/
abbrev Reads (pattern : List Text) (parts : List GlobPart) : Prop :=
  List.Forall₂ (fun n p => Glob.partOf n = .ok p) pattern parts

theorem reads_ofText {pattern : Text} {g : Glob} (h : Glob.ofText pattern = .ok g) :
    (Path.ofText pattern).isAbsolute = false ∧ Reads (Path.ofText pattern).names g.parts := by
  have hmapM : ∀ (names : List Text) (parts : List GlobPart), names.mapM Glob.partOf = .ok parts → Reads names parts := by
    intro names
    induction names with
    | nil =>
      intro parts h
      cases h
      exact .nil
    | cons n names ih =>
      intro parts h
      rw [List.mapM_cons] at h
      cases hn : Glob.partOf n with
      | error e => simp [hn, bind, Except.bind] at h
      | ok p =>
        cases hs : names.mapM Glob.partOf with
        | error e => simp [hn, hs, bind, Except.bind] at h
        | ok rest =>
          simp only [hn, hs, bind, Except.bind, pure, Except.pure, Except.ok.injEq] at h
          rw [← h]
          exact .cons hn (ih rest hs)
  unfold Glob.ofText at h
  dsimp only at h
  cases habs : (Path.ofText pattern).isAbsolute with
  | true => simp [habs, throw, throwThe, MonadExceptOf.throw, bind, Except.bind] at h
  | false =>
    refine ⟨rfl, ?_⟩
    cases hs : (Path.ofText pattern).names.mapM Glob.partOf with
    | error e => simp [habs, hs, bind, Except.bind] at h
    | ok parts =>
      simp only [habs, hs, bind, Except.bind, pure, Except.pure, if_false, Bool.false_eq_true, Except.ok.injEq] at h
      rw [← h]
      exact hmapM _ _ hs

/-- **What a glob leads to, with a folder at least for each `**`, its pattern excludes.** -/
theorem spansRuns_of_takes {pattern : List Text} {parts : List GlobPart} {runs : List (List Text)}
    (hparts : Reads pattern parts) (hruns : List.Forall₂ GlobPart.Takes parts runs) (hsome : [] ∉ runs) :
    File.SpansRuns pattern runs.flatten := by
  induction hparts generalizing runs with
  | nil =>
    cases hruns
    exact ⟨[], rfl, .nil⟩
  | cons hp _ ih =>
    obtain ⟨run, rest, htakes, hrest, rfl⟩ := List.forall₂_cons_left_iff.1 hruns
    rw [List.mem_cons, not_or] at hsome
    exact File.spansRuns_cons_iff.2
      ⟨run, rest.flatten, rfl, Ne.symm hsome.1, Glob.isLike_of_takes hp (Ne.symm hsome.1) htakes, ih hrest hsome.2⟩

theorem exists_runs_of_reaches : ∀ {parts : List GlobPart} {names : List Text}, Glob.reaches parts names = true →
    ∃ runs, runs.flatten = names ∧ List.Forall₂ GlobPart.Takes parts runs
  | [], names, h => by
    rw [Glob.reaches_nil_iff.1 h]
    exact ⟨[], rfl, .nil⟩
  | p :: parts, names, h => by
    obtain ⟨run, rest, rfl, htakes, hrest⟩ := Glob.reaches_cons_iff.1 h
    obtain ⟨runs, rfl, hruns⟩ := exists_runs_of_reaches hrest
    exact ⟨run :: runs, rfl, .cons htakes hruns⟩

theorem length_of_takes {parts : List GlobPart} {runs : List (List Text)} (hruns : List.Forall₂ GlobPart.Takes parts runs)
    (hone : .folders ∉ parts) : [] ∉ runs ∧ runs.flatten.length = parts.length := by
  induction hruns with
  | nil => exact ⟨by simp, rfl⟩
  | cons htakes _ ih =>
    rw [List.mem_cons, not_or] at hone
    obtain ⟨hsome, hlen⟩ := ih hone.2
    obtain ⟨m, rfl⟩ := Glob.takes_ne_folders (Ne.symm hone.1) htakes
    exact ⟨by simp [hsome], by simp [hlen]⟩

theorem length_le_of_spansRuns : ∀ {pattern names : List Text}, File.SpansRuns pattern names →
    pattern.length ≤ names.length
  | [], _, _ => Nat.zero_le _
  | n :: pattern, names, h => by
    obtain ⟨run, rest, rfl, hrun, -, hrest⟩ := File.spansRuns_cons_iff.1 h
    have hle := length_le_of_spansRuns hrest
    have hpos := List.length_pos_iff.2 hrun
    rw [List.length_append, List.length_cons]
    omega

/-- **With no more names than the pattern has, nothing is taken over a slash.** -/
theorem reaches_of_spansRuns {pattern : List Text} {parts : List GlobPart} (hparts : Reads pattern parts) :
    ∀ {names : List Text}, names.length ≤ pattern.length → File.SpansRuns pattern names →
      Glob.reaches parts names = true := by
  induction hparts with
  | nil =>
    intro names _ h
    rw [File.spansRuns_nil_iff.1 h]
    rfl
  | cons hp _ ih =>
    intro names hlen h
    obtain ⟨run, rest, rfl, hrun, hlike, hrest⟩ := File.spansRuns_cons_iff.1 h
    have hle := length_le_of_spansRuns hrest
    rw [List.length_append, List.length_cons] at hlen
    cases run with
    | nil => exact absurd rfl hrun
    | cons m run =>
      have hnil : run = [] := by
        rw [← List.length_eq_zero_iff]
        rw [List.length_cons] at hlen
        omega
      subst hnil
      rw [List.length_singleton] at hlen
      rw [Text.joinWith_singleton] at hlike
      exact Glob.reaches_cons_iff.2
        ⟨[m], rest, rfl, (Glob.takes_singleton_iff hp).2 hlike, ih (by omega) hrest⟩

theorem hides_of_selects {pattern names : List Text} {g : Glob} (hparts : Reads pattern g.parts)
    (hone : .folders ∉ g.parts) (h : g.selects names = true) : Hides pattern names := by
  simp only [Glob.selects, Bool.and_eq_true] at h
  obtain ⟨runs, rfl, hruns⟩ := exists_runs_of_reaches h.2
  exact .inl (spansRuns_of_takes hparts hruns (length_of_takes hruns hone).1)

/-- **On names no deeper than a pattern without `**` the two readings agree.** -/
theorem hides_iff_covers_of_length_le {pattern names : List Text} {g : Glob} (hparts : Reads pattern g.parts)
    (hfiles : g.foldersOnly = false) (hone : .folders ∉ g.parts) (hlen : names.length ≤ pattern.length) :
    Hides pattern names ↔ g.covers names = true := by
  rw [Glob.covers_iff]
  constructor
  · rintro (h | ⟨hbegin, hne⟩)
    · have hreach := reaches_of_spansRuns hparts hlen h
      have hlast : g.parts.getLast? ≠ some .folders := fun h => hone (List.mem_of_getLast? h)
      left
      simp [Glob.selects, hfiles, hreach, hlast]
    · exact absurd (hbegin.eq_of_length_le hlen) hne
  · rintro (h | ⟨folder, hbegin, hne, hreach⟩)
    · exact hides_of_selects hparts hone h
    · obtain ⟨runs, rfl, hruns⟩ := exists_runs_of_reaches hreach
      have hcount := (length_of_takes hruns hone).2
      rw [← hparts.length_eq] at hcount
      exact absurd (hbegin.eq_of_length_le (by omega)) hne

/-! ## Patterns that end with stars -/

/-- Names that are stars alone; the last one may be `**`. -/
inductive AreStars : List Text → Prop where
  | nil : AreStars []
  | folders : AreStars [['*', '*']]
  | cons {pattern : List Text} (h : AreStars pattern) : AreStars (['*'] :: pattern)

/-- **A pattern that is literal but for its end**: after literal names at most one that ends with a star, and then
stars alone. -/
inductive IsOpenEnded : List Text → Prop where
  | stars {pattern : List Text} (h : AreStars pattern) : IsOpenEnded pattern
  | stem {n : Text} {pattern : List Text} (hn : IsLiteral n) (h : AreStars pattern) :
    IsOpenEnded ((n ++ ['*']) :: pattern)
  | literal {n : Text} {pattern : List Text} (hn : IsLiteral n) (h : IsOpenEnded pattern) : IsOpenEnded (n :: pattern)

theorem hides_nil (names : List Text) : Hides [] names := by
  by_cases h : names = []
  · exact .inl (File.spansRuns_nil_iff.2 h)
  · exact .inr ⟨List.nil_prefix, Ne.symm h⟩

theorem hides_literal_iff {n : Text} {pattern names : List Text} (hn : IsLiteral n) (hslash : '/' ∉ n) :
    Hides (n :: pattern) names ↔ ∃ rest, names = n :: rest ∧ Hides pattern rest := by
  constructor
  · rintro (h | ⟨⟨rest, rfl⟩, hne⟩)
    · obtain ⟨run, rest, rfl, hrun, hlike, hrest⟩ := File.spansRuns_cons_iff.1 h
      have hjoin := (File.isLike_literal hn).1 hlike
      cases run with
      | nil => exact absurd rfl hrun
      | cons m ms =>
        cases ms with
        | nil =>
          rw [Text.joinWith_singleton] at hjoin
          exact ⟨rest, by rw [hjoin]; rfl, .inl hrest⟩
        | cons k ms =>
          rw [Text.joinWith_cons ['/'] m (by simp)] at hjoin
          exact absurd (by simp [← hjoin]) hslash
    · exact ⟨pattern ++ rest, rfl, .inr ⟨List.prefix_append _ _, fun h => hne (by rw [List.cons_append, ← h])⟩⟩
  · rintro ⟨rest, rfl, h | ⟨hbegin, hne⟩⟩
    · refine .inl (File.spansRuns_cons_iff.2 ⟨[n], rest, rfl, by simp, ?_, h⟩)
      rw [Text.joinWith_singleton]
      exact (File.isLike_literal hn).2 rfl
    · exact .inr ⟨(List.prefix_cons_inj n).2 hbegin, fun h => hne (List.cons.inj h).2⟩

theorem prefix_joinWith (m : Text) (ms : List Text) : m <+: Text.joinWith ['/'] (m :: ms) := by
  cases ms with
  | nil => rw [Text.joinWith_singleton]
  | cons k ms =>
    rw [Text.joinWith_cons ['/'] m (by simp)]
    exact List.prefix_append _ _

/-- A text without slashes with which joined names begin, the first of them begins with. -/
theorem prefix_of_prefix_joinWith {n m : Text} {ms : List Text} (hslash : '/' ∉ n)
    (h : n <+: Text.joinWith ['/'] (m :: ms)) : n <+: m := by
  cases ms with
  | nil => rwa [Text.joinWith_singleton] at h
  | cons k ms =>
    rw [Text.joinWith_cons ['/'] m (by simp), List.singleton_append] at h
    by_cases hlen : n.length ≤ m.length
    · exact List.prefix_of_prefix_length_le h (List.prefix_append _ _) hlen
    · have hm : m ++ ['/'] <+: n := by
        have hjoined : m ++ ['/'] <+: m ++ '/' :: Text.joinWith ['/'] (k :: ms) :=
          ⟨Text.joinWith ['/'] (k :: ms), by rw [List.append_assoc, List.singleton_append]⟩
        refine List.prefix_of_prefix_length_le hjoined h ?_
        rw [List.length_append, List.length_singleton]
        omega
      exact absurd (hm.subset (by simp)) hslash

theorem isLike_of_areStars {n : Text} {pattern : List Text} (h : AreStars pattern) (hn : n ∈ pattern) (s : Text) :
    File.isLike n s = true := by
  induction h with
  | nil => cases hn
  | folders =>
    rw [List.mem_singleton.1 hn]
    exact File.isLike_stars s
  | cons _ ih =>
    rcases List.mem_cons.1 hn with rfl | hn
    · exact (File.isLike_star (n := []) (fun _ h => by cases h)).2 List.nil_prefix
    · exact ih hn

theorem spansRuns_of_areStars {pattern : List Text} (h : AreStars pattern) :
    ∀ {names : List Text}, pattern ≠ [] → pattern.length ≤ names.length → File.SpansRuns pattern names := by
  induction h with
  | nil => exact fun hne => absurd rfl hne
  | folders =>
    intro names _ hlen
    have hne : names ≠ [] := by
      rintro rfl
      simp at hlen
    exact File.spansRuns_cons_iff.2
      ⟨names, [], List.append_nil names, hne, File.isLike_stars _, File.spansRuns_nil_iff.2 rfl⟩
  | @cons pattern h ih =>
    intro names _ hlen
    have hstar : ∀ s, File.isLike ['*'] s = true := isLike_of_areStars h.cons (List.mem_cons_self ..)
    cases names with
    | nil => simp at hlen
    | cons m rest =>
      by_cases hnil : pattern = []
      · subst hnil
        exact File.spansRuns_cons_iff.2
          ⟨m :: rest, [], List.append_nil _, by simp, hstar _, File.spansRuns_nil_iff.2 rfl⟩
      · exact File.spansRuns_cons_iff.2
          ⟨[m], rest, rfl, by simp, hstar _, ih hnil (by simpa using hlen)⟩

theorem length_le_of_hides {pattern names : List Text} (h : Hides pattern names) : pattern.length ≤ names.length := by
  rcases h with h | ⟨h, -⟩
  · exact length_le_of_spansRuns h
  · exact h.length_le

theorem hides_stars_iff {pattern names : List Text} (h : AreStars pattern) :
    Hides pattern names ↔ pattern.length ≤ names.length := by
  refine ⟨length_le_of_hides, fun hlen => ?_⟩
  by_cases hnil : pattern = []
  · rw [hnil]
    exact hides_nil names
  · exact .inl (spansRuns_of_areStars h hnil hlen)

theorem hides_stem_iff {n : Text} {pattern names : List Text} (hn : IsLiteral n) (hslash : '/' ∉ n)
    (h : AreStars pattern) : Hides ((n ++ ['*']) :: pattern) names ↔
      ∃ m rest, names = m :: rest ∧ File.isLike (n ++ ['*']) m = true ∧ pattern.length ≤ rest.length := by
  simp only [File.isLike_star hn]
  constructor
  · rintro (h | ⟨⟨rest, rfl⟩, -⟩)
    · obtain ⟨run, rest, rfl, hrun, hlike, hrest⟩ := File.spansRuns_cons_iff.1 h
      cases run with
      | nil => exact absurd rfl hrun
      | cons m ms =>
        refine ⟨m, ms ++ rest, rfl, prefix_of_prefix_joinWith hslash ((File.isLike_star hn).1 hlike), ?_⟩
        have hle := length_le_of_spansRuns hrest
        rw [List.length_append]
        omega
    · exact ⟨n ++ ['*'], pattern ++ rest, rfl, List.prefix_append _ _, by simp⟩
  · rintro ⟨m, rest, rfl, hbegin, hlen⟩
    left
    by_cases hnil : pattern = []
    · subst hnil
      -- the one star takes all that is left
      refine File.spansRuns_cons_iff.2 ⟨m :: rest, [], List.append_nil _, by simp, ?_, File.spansRuns_nil_iff.2 rfl⟩
      exact (File.isLike_star hn).2 (hbegin.trans (prefix_joinWith m rest))
    · refine File.spansRuns_cons_iff.2 ⟨[m], rest, rfl, by simp, ?_, spansRuns_of_areStars h hnil hlen⟩
      rw [Text.joinWith_singleton]
      exact (File.isLike_star hn).2 hbegin

theorem covers_nil (names : List Text) : (⟨[], false⟩ : Glob).covers names = true := by
  rw [Glob.covers_iff]
  by_cases h : names = []
  · left
    rw [h]
    rfl
  · exact .inr ⟨[], List.nil_prefix, Ne.symm h, rfl⟩

theorem covers_folders_iff {names : List Text} : (⟨[.folders], false⟩ : Glob).covers names = true ↔ names ≠ [] := by
  rw [Glob.covers_iff]
  constructor
  · rintro (h | ⟨folder, hbegin, hne, -⟩) rfl
    · simp [Glob.selects] at h
    · exact hne (List.prefix_nil.1 hbegin)
  · intro h
    exact .inr ⟨[], List.nil_prefix, Ne.symm h, by decide⟩

theorem covers_cons_iff {p : GlobPart} {parts : List GlobPart} {names : List Text} (hp : p ≠ .folders) :
    (⟨p :: parts, false⟩ : Glob).covers names = true ↔
      ∃ m rest, names = m :: rest ∧ p.Takes [m] ∧ (⟨parts, false⟩ : Glob).covers rest = true := by
  have hlast : (p :: parts).getLast? = some .folders ↔ parts.getLast? = some .folders := by
    cases parts with
    | nil => simp [hp]
    | cons q parts => simp
  simp only [Glob.covers_iff, Glob.selects, Bool.not_false, Bool.true_and, Bool.and_eq_true, bne_iff_ne, ne_eq, hlast]
  constructor
  · rintro (⟨hl, h⟩ | ⟨folder, hbegin, hne, h⟩)
    · obtain ⟨run, rest, rfl, htakes, hrest⟩ := Glob.reaches_cons_iff.1 h
      obtain ⟨m, rfl⟩ := Glob.takes_ne_folders hp htakes
      exact ⟨m, rest, rfl, htakes, .inl ⟨hl, hrest⟩⟩
    · obtain ⟨run, rest, rfl, htakes, hrest⟩ := Glob.reaches_cons_iff.1 h
      obtain ⟨m, rfl⟩ := Glob.takes_ne_folders hp htakes
      obtain ⟨more, rfl⟩ := hbegin
      exact ⟨m, rest ++ more, rfl, htakes, .inr ⟨rest, List.prefix_append _ _, fun h => hne (by simp [← h]), hrest⟩⟩
  · rintro ⟨m, rest, rfl, htakes, ⟨hl, h⟩ | ⟨folder, hbegin, hne, h⟩⟩
    · exact .inl ⟨hl, Glob.reaches_cons_iff.2 ⟨[m], rest, rfl, htakes, h⟩⟩
    · exact .inr ⟨m :: folder, (List.prefix_cons_inj m).2 hbegin, fun h => hne (List.cons.inj h).2,
        Glob.reaches_cons_iff.2 ⟨[m], folder, rfl, htakes, h⟩⟩

theorem ne_folders_of_partOf {n : Text} {p : GlobPart} (hp : Glob.partOf n = .ok p) (hn : n ≠ ['*', '*']) :
    p ≠ .folders := by
  rintro rfl
  rcases Glob.partOf_ok_iff.1 hp with ⟨h, -⟩ | ⟨-, -, ⟨-, h⟩ | ⟨-, h⟩⟩
  · exact hn h
  · cases h
  · cases h

theorem covers_stars_iff {pattern : List Text} (h : AreStars pattern) : ∀ {parts : List GlobPart} {names : List Text},
    Reads pattern parts → ((⟨parts, false⟩ : Glob).covers names = true ↔ pattern.length ≤ names.length) := by
  induction h with
  | nil =>
    intro parts names hparts
    cases hparts
    simp [covers_nil]
  | folders =>
    intro parts names hparts
    obtain ⟨p, rest, hp, hrest, rfl⟩ := List.forall₂_cons_left_iff.1 hparts
    cases hrest
    rcases Glob.partOf_ok_iff.1 hp with ⟨-, rfl⟩ | ⟨hne, -⟩
    · rw [covers_folders_iff, List.length_singleton, Nat.succ_le_iff, List.length_pos_iff]
    · exact absurd rfl hne
  | @cons pattern h ih =>
    intro parts names hparts
    obtain ⟨p, rest, hp, hrest, rfl⟩ := List.forall₂_cons_left_iff.1 hparts
    rw [covers_cons_iff (ne_folders_of_partOf hp (by decide))]
    constructor
    · rintro ⟨m, rest, rfl, -, hcovers⟩
      exact Nat.succ_le_succ ((ih hrest).1 hcovers)
    · intro hlen
      cases names with
      | nil => simp at hlen
      | cons m names =>
        have hstar := isLike_of_areStars h.cons (List.mem_cons_self ..) m
        exact ⟨m, names, rfl, (Glob.takes_singleton_iff hp).2 hstar, (ih hrest).2 (by simpa using hlen)⟩

/-- **For a pattern that is literal but for its end the two readings agree** on every file. -/
theorem hides_iff_covers_of_isOpenEnded {pattern : List Text} (h : IsOpenEnded pattern) :
    ∀ {parts : List GlobPart} {names : List Text}, Reads pattern parts → (∀ n ∈ pattern, '/' ∉ n) →
      (Hides pattern names ↔ (⟨parts, false⟩ : Glob).covers names = true) := by
  induction h with
  | stars h =>
    intro parts names hparts _
    rw [hides_stars_iff h, covers_stars_iff h hparts]
  | @stem n pattern hn h =>
    intro parts names hparts hslash
    obtain ⟨p, rest, hp, hrest, rfl⟩ := List.forall₂_cons_left_iff.1 hparts
    have hstem : '/' ∉ n := fun hc => hslash _ (List.mem_cons_self ..) (List.mem_append_left _ hc)
    have hne : n ++ ['*'] ≠ ['*', '*'] := by
      intro heq
      have hstar : n = ['*'] := (List.append_left_inj ['*']).1 (heq : n ++ ['*'] = ['*'] ++ ['*'])
      exact (hn '*' (by simp [hstar])).1 rfl
    rw [hides_stem_iff hn hstem h, covers_cons_iff (ne_folders_of_partOf hp hne)]
    simp only [Glob.takes_singleton_iff hp, covers_stars_iff h hrest]
  | @literal n pattern hn h ih =>
    intro parts names hparts hslash
    obtain ⟨p, rest, hp, hrest, rfl⟩ := List.forall₂_cons_left_iff.1 hparts
    have hne : n ≠ ['*', '*'] := by
      rintro rfl
      exact (hn '*' (by simp)).1 rfl
    rw [hides_literal_iff hn (hslash n (List.mem_cons_self ..)), covers_cons_iff (ne_folders_of_partOf hp hne)]
    simp only [Glob.takes_singleton_iff hp, File.isLike_literal hn,
      ih hrest fun n hn => hslash n (List.mem_cons_of_mem _ hn)]
    constructor
    · rintro ⟨rest, rfl, h⟩
      exact ⟨n, rest, rfl, rfl, h⟩
    · rintro ⟨_, rest, rfl, rfl, h⟩
      exact ⟨rest, rfl, h⟩

/-! ## Inclusion and exclusion by one pattern -/

/-- Whether a pattern excludes the path with these names below a folder. -/
def Excludes (folder : Path) (pattern : Text) (names : List Text) : Prop :=
  isExcluded folder (folder.join ⟨0, names⟩) [.text pattern] = .ok true

instance (folder : Path) (pattern : Text) (names : List Text) : Decidable (Excludes folder pattern names) :=
  inferInstanceAs (Decidable (_ = _))

/-- **The names of a path below a folder.** -/
structure AreBelow (names : List Text) : Prop where
  some : names ≠ []
  down : Path.up ∉ names
  apart : ∀ n ∈ names, '/' ∉ n

/-- **A pattern that writes a glob of names, stars and question marks**, below the folder that it starts from. -/
structure Writes (pattern : Text) (g : Glob) : Prop where
  glob : Glob.ofText pattern = .ok g
  noSets : '[' ∉ pattern
  some : (Path.ofText pattern).names ≠ []
  down : Path.up ∉ (Path.ofText pattern).names

section Writes

variable {d : Disk} {folder p : Path} {pattern : Text} {names : List Text} {g : Glob}

theorem isExcluded_iff_hides (hw : Writes pattern g) (hn : AreBelow names)
    (h : p.normal.names = folder.normal.names ++ names) :
    isExcluded folder p [.text pattern] = .ok true ↔ Hides (Path.ofText pattern).names names := by
  rw [isExcluded_eq_isUnder h, Except.ok.injEq,
    isUnder_iff (reads_ofText hw.glob).1 hw.down hw.some hw.noSets hn.some hn.apart]

theorem excludes_iff_hides (hw : Writes pattern g) (hn : AreBelow names) :
    Excludes folder pattern names ↔ Hides (Path.ofText pattern).names names :=
  isExcluded_iff_hides hw hn (normal_join hn.down)

theorem mem_of_reads {pattern : List Text} {parts : List GlobPart} (h : Reads pattern parts) {n : Text}
    (hn : .name n ∈ parts) : n ∈ pattern := by
  induction h with
  | nil => cases hn
  | @cons m p pattern parts hp _ ih =>
    rcases List.mem_cons.1 hn with rfl | hn
    · rcases Glob.partOf_ok_iff.1 hp with ⟨-, h⟩ | ⟨-, -, ⟨-, h⟩ | ⟨-, h⟩⟩ <;> cases h
      exact List.mem_cons_self ..
    · exact List.mem_cons_of_mem _ (ih hn)

theorem isPlain_of_mem_parts (hw : Writes pattern g) {n : Text} (hn : .name n ∈ g.parts) : File.IsPlain n := by
  have hmem := mem_of_reads (reads_ofText hw.glob).2 hn
  have hread := File.ofText_isRead pattern n hmem
  exact ⟨hread.1, hread.2.1, fun h => hw.down (h ▸ hmem)⟩

def globbed (d : Disk) (folder : Path) (pattern : Text) : Except Failure (List Path) :=
  match Glob.ofText pattern with
  | .error fault => .error (.badPattern fault)
  | .ok g =>
    if d.isTooLong folder.text then .error .tooLong
    else
      match d.locate folder.text with
      | .ok p =>
        if d.overruns g.foldersOnly g.parts folder p then .error .tooLong else .ok (filesFrom folder (p.select g))
      | .error _ => .ok []

theorem isFolder_iff {path : Text} : d.isFolder path = true ↔ ∃ p, d.locate path = .ok p ∧ p.entry.isFolder = true := by
  unfold Disk.isFolder
  cases d.locate path <;> simp

theorem expand_tooLong (h : d.isTooLong (folder.join (.ofText pattern)).text = true) :
    expand d folder pattern = .error .tooLong := by
  unfold expand
  rw [if_pos h]
  rfl

theorem expand_folder {p : Place} (hp : d.locate (folder.join (.ofText pattern)).text = .ok p)
    (hfolder : p.entry.isFolder = true) :
    expand d folder pattern =
      if p.within.any fun q => d.isTooLong (p.spell (folder.join (.ofText pattern)) q).text then .error .tooLong
      else .ok (filesFrom (folder.join (.ofText pattern)) p.within) := by
  have hshort := File.isTooLong_of_locate hp
  simp only [expand, hshort, hp, hfolder, Bool.false_eq_true, if_true, if_false]
  split <;> rfl

/-- The name of a pattern is passed over, whether nothing stands there or a file. -/
theorem expand_globbed (hshort : d.isTooLong (folder.join (.ofText pattern)).text = false)
    (h : d.isFolder (folder.join (.ofText pattern)).text = false) :
    expand d folder pattern = globbed d folder pattern := by
  have hfile : ∀ p, d.locate (folder.join (.ofText pattern)).text = .ok p → p.entry.isFolder = false := by
    intro p hp
    rwa [Disk.isFolder, hp] at h
  unfold expand
  cases hp : d.locate (folder.join (.ofText pattern)).text
  case' ok p => simp only [hshort, hp, hfile p hp, Bool.false_eq_true, if_false]
  case' error => simp only [hshort, hp, Bool.false_eq_true, if_false]
  all_goals
    unfold globbed
    cases Glob.ofText pattern
    case error => rfl
    case ok g =>
      dsimp only
      split
      · rfl
      · cases d.locate folder.text
        case error => rfl
        case ok =>
          dsimp only
          split <;> rfl

theorem globbed_ok {paths : List Path} (h : globbed d folder pattern = .ok paths) :
    ∃ g, Glob.ofText pattern = .ok g ∧ ((∃ p, d.locate folder.text = .ok p ∧
      d.overruns g.foldersOnly g.parts folder p = false ∧ paths = filesFrom folder (p.select g)) ∨ paths = []) := by
  unfold globbed at h
  split at h
  · cases h
  · rename_i g hg
    refine ⟨g, hg, ?_⟩
    split at h
    · cases h
    · split at h
      · rename_i p hp
        split at h
        · cases h
        · rename_i hruns
          cases h
          exact .inl ⟨p, hp, by simpa using hruns, rfl⟩
      · cases h
        exact .inr rfl

/-- **What a pattern includes** lies in the folder that it names, or is what it leads to as a glob. -/
theorem mem_expand {paths : List Path} {q : Path} (h : expand d folder pattern = .ok paths)
    (hq : q ∈ paths) :
    (∃ p, d.locate (folder.join (.ofText pattern)).text = .ok p ∧ p.entry.isFolder = true ∧
        ∃ r ∈ p.within, r.entry.isFile = true ∧ d.isTooLong (p.spell (folder.join (.ofText pattern)) r).text = false ∧
          { r.path with slashes := (folder.join (.ofText pattern)).slashes } = q) ∨
      ∃ g p, Glob.ofText pattern = .ok g ∧ d.locate folder.text = .ok p ∧
        d.overruns g.foldersOnly g.parts folder p = false ∧
          ∃ r ∈ p.select g, r.entry.isFile = true ∧ { r.path with slashes := folder.slashes } = q := by
  have hfiles : ∀ (start : Path) (places : List Place), q ∈ filesFrom start places →
      ∃ r ∈ places, r.entry.isFile = true ∧ { r.path with slashes := start.slashes } = q := by
    intro start places hq
    obtain ⟨r, hr, rfl⟩ := List.mem_map.1 hq
    exact ⟨r, (List.mem_filter.1 hr).1, (List.mem_filter.1 hr).2, rfl⟩
  cases hshort : d.isTooLong (folder.join (.ofText pattern)).text with
  | true =>
    rw [expand_tooLong hshort] at h
    cases h
  | false =>
    cases hdir : d.isFolder (folder.join (.ofText pattern)).text with
    | true =>
      obtain ⟨p, hp, hfolder⟩ := isFolder_iff.1 hdir
      rw [expand_folder hp hfolder] at h
      split at h
      · cases h
      · rename_i hall
        cases h
        obtain ⟨r, hr, hfile, hq⟩ := hfiles _ _ hq
        exact .inl ⟨p, hp, hfolder, r, hr, hfile, by simpa using List.any_eq_false.1 (by simpa using hall) r hr, hq⟩
    | false =>
      rw [expand_globbed hshort hdir] at h
      obtain ⟨g, hg, ⟨p, hp, hruns, rfl⟩ | rfl⟩ := globbed_ok h
      · exact .inr ⟨g, p, hg, hp, hruns, hfiles _ _ hq⟩
      · cases hq

theorem isExcluded_of_mem_expand {paths : List Path} {q : Path} (hw : Writes pattern g) (hroot : folder.isAbsolute = true)
    (hread : folder.IsRead) (hone : .folders ∉ g.parts.dropLast) (hexpand : expand d folder pattern = .ok paths)
    (hq : q ∈ paths) (hdown : Path.up ∉ q.names) (hslash : ∀ n ∈ q.names, '/' ∉ n) :
    isExcluded folder q [.text pattern] = .ok true := by
  obtain ⟨hrelative, hparts⟩ := reads_ofText hw.glob
  have hzero : (Path.ofText pattern).slashes = 0 := by simpa [Path.isAbsolute] using hrelative
  -- all that is left to say of a path is what leads to it from the folder
  have hbelow : ∀ names, q.names = folder.normal.names ++ names → Hides (Path.ofText pattern).names names →
      isExcluded folder q [.text pattern] = .ok true := by
    intro names hnames hhides
    rw [hnames, List.mem_append, not_or] at hdown
    rw [hnames] at hslash
    have hsome : names ≠ [] := by
      rintro rfl
      exact hw.some (List.length_eq_zero_iff.1 (Nat.le_zero.1 (length_le_of_hides hhides)))
    refine (isExcluded_iff_hides hw ⟨hsome, hdown.2, fun n hn => hslash n (List.mem_append_right _ hn)⟩ ?_).2 hhides
    rw [Path.normal, File.collapse_plain _ _ _ (by rwa [hnames, List.mem_append, not_or]), hnames]
    rfl
  rcases mem_expand hexpand hq with
    ⟨place, hplace, hfolder, r, hr, hfile, -, rfl⟩ | ⟨g', place, hg, hplace, -, r, hr, hfile, rfl⟩
  · have hjoin : folder.join (.ofText pattern) = folder.join ⟨0, (Path.ofText pattern).names⟩ := by rw [← hzero]
    have habs : (folder.join (.ofText pattern)).isAbsolute = true := by
      rw [Path.join, if_neg (by simp [hrelative])]
      exact hroot
    have hnames := File.locate_names habs (hread.join (File.ofText_isRead pattern)) hplace
    rw [hjoin, normal_join hw.down] at hnames
    obtain ⟨below, hbelownames, hsame⟩ := File.mem_within hr
    refine hbelow ((Path.ofText pattern).names ++ below) ?_ (.inr ⟨List.prefix_append _ _, fun h => ?_⟩)
    · change r.names.reverse = _
      rw [hbelownames, List.reverse_append, List.reverse_reverse, hnames, List.append_assoc]
    · -- nothing but the folder itself has its names
      have hentry := hsame (List.self_eq_append_right.1 h)
      rw [hentry] at hfile
      cases he : place.entry <;> simp [he, File.Entry.isFile, File.Entry.isFolder] at hfile hfolder
  · have heq : g' = g := by
      rw [hw.glob] at hg
      exact (Except.ok.inj hg).symm
    subst heq
    have hnames := File.locate_names hroot hread hplace
    have hnotfolder : r.entry.isFolder ≠ true := by
      cases he : r.entry <;> simp [he, File.Entry.isFile, File.Entry.isFolder] at hfile ⊢
    obtain ⟨hselect, hkind⟩ := List.mem_filter.1 hr
    have hfiles : g'.foldersOnly = false := by simpa [hnotfolder] using hkind
    obtain ⟨below, hbelownames, hreach, hlast⟩ := File.mem_selectParts (fun n hn => isPlain_of_mem_parts hw hn) hselect
    have hone' : .folders ∉ g'.parts := by
      intro hmem
      have hne := List.ne_nil_of_mem hmem
      rw [← List.dropLast_append_getLast hne, List.mem_append, List.mem_singleton] at hmem
      rcases hmem with hmem | hmem
      · exact hone hmem
      · exact hnotfolder (hlast (by rw [List.getLast?_eq_some_getLast hne, hmem]))
    refine hbelow below ?_ (hides_of_selects hparts hone' ?_)
    · change r.names.reverse = _
      rw [hbelownames, List.reverse_append, List.reverse_reverse, hnames]
    · have hl : g'.parts.getLast? ≠ some .folders := fun h => hnotfolder (hlast h)
      simp [Glob.selects, hfiles, hl, hreach]

/-- **How far exclusion reads a pattern as inclusion does.**  A pattern excludes the names that it stands for over
slashes, and those below the folder that it names literally.  It excludes what its glob leads to with a folder at least for
each `**`; and exactly the files that its glob leads to or to a folder of which, for names no deeper than a pattern
without `**`, and for a pattern that is literal but for its end.  Files that it includes it excludes, unless a `**`
stands before its end. -/
theorem excludes_iff_covers (folder : Path) (pattern : Text) (g : Glob) (hw : Writes pattern g) :
    (∀ names, AreBelow names →
      (Excludes folder pattern names ↔ Hides (Path.ofText pattern).names names) ∧
      (∀ runs, runs.flatten = names → List.Forall₂ GlobPart.Takes g.parts runs → [] ∉ runs →
        Excludes folder pattern names) ∧
      (g.foldersOnly = false →
        (.folders ∉ g.parts ∧ names.length ≤ (Path.ofText pattern).names.length) ∨
          IsOpenEnded (Path.ofText pattern).names →
        (Excludes folder pattern names ↔ g.covers names = true))) ∧
    (∀ d paths q, folder.isAbsolute = true → folder.IsRead → .folders ∉ g.parts.dropLast →
      expand d folder pattern = .ok paths → q ∈ paths → Path.up ∉ q.names → (∀ n ∈ q.names, '/' ∉ n) →
        isExcluded folder q [.text pattern] = .ok true) := by
  have hparts := (reads_ofText hw.glob).2
  constructor
  · intro names hn
    rw [excludes_iff_hides hw hn]
    refine ⟨Iff.rfl, fun runs hruns htakes hsome => ?_, fun hfiles hform => ?_⟩
    · rw [← hruns]
      exact .inl (spansRuns_of_takes hparts htakes hsome)
    · rcases hform with ⟨hone, hlen⟩ | hopen
      · exact hides_iff_covers_of_length_le hparts hfiles hone hlen
      · have hslash : ∀ n ∈ (Path.ofText pattern).names, '/' ∉ n := fun n hn => (File.ofText_isRead pattern n hn).2.2
        obtain ⟨parts, foldersOnly⟩ := g
        cases hfiles
        exact hides_iff_covers_of_isOpenEnded hopen hparts hslash
  · intro d paths q hroot hread hone hexpand hq hdown hslash
    exact isExcluded_of_mem_expand hw hroot hread hone hexpand hq hdown hslash

end Writes

/-- Whether the glob of a pattern leads to a file or to a folder that it lies in. -/
def isCovered (pattern : String) (names : List String) : Bool :=
  match Glob.ofText pattern.toList with
  | .ok g => g.covers (names.map String.toList)
  | .error _ => false

theorem excludes_iff_covers_start :
    (Excludes ⟨1, ["p".toList]⟩ "src/a*".toList ["src".toList, "app".toList, "x.ts".toList] ↔
      (⟨[.name "src".toList, .wild [.char 'a', .anyText]], false⟩ : Glob).covers
        ["src".toList, "app".toList, "x.ts".toList] = true) := by
  have hw : Writes "src/a*".toList ⟨[.name "src".toList, .wild [.char 'a', .anyText]], false⟩ :=
    ⟨by decide +kernel, by decide, by decide, by decide⟩
  have hn : AreBelow ["src".toList, "app".toList, "x.ts".toList] := ⟨by decide, by decide, by decide⟩
  have hopen : IsOpenEnded (Path.ofText "src/a*".toList).names :=
    .literal (n := "src".toList) (by decide) (.stem (n := ['a']) (by decide) .nil)
  exact ((excludes_iff_covers ⟨1, ["p".toList]⟩ _ _ hw).1 _ hn).2.2 rfl (.inr hopen)

/-- A star takes a slash, `**` wants a folder, and a question mark ends what is excluded. -/
theorem excludes_iff_covers_not :
    (Excludes ⟨1, ["p".toList]⟩ "src/*.ts".toList ["src".toList, "sub".toList, "a.ts".toList] ∧
      isCovered "src/*.ts" ["src", "sub", "a.ts"] = false) ∧
    (¬ Excludes ⟨1, ["p".toList]⟩ "**/*.ts".toList ["a.ts".toList] ∧ isCovered "**/*.ts" ["a.ts"] = true) ∧
    (¬ Excludes ⟨1, ["p".toList]⟩ "src/a?".toList ["src".toList, "ab".toList, "c.ts".toList] ∧
      isCovered "src/a?" ["src", "ab", "c.ts"] = true) := by
  decide +kernel

end Project
end ViewAtlas
