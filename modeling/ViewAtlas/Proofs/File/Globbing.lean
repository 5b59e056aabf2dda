import Mathlib.Data.List.Forall2
import Mathlib.Data.List.Infix
import ViewAtlas.File.Glob
/-!
# What wildcards and globs stand for

A glob is read name by name: a part stands for one name, but `**` for a run of names, of any length (`GlobPart.Takes`).
A wildcard pattern for a whole path is read character by character, and its stars and question marks take slashes
too: each piece of it between slashes stands for a run of names that is not empty (`isLike_joinWith_iff`).
-/
namespace ViewAtlas
namespace File

/-! ## Wildcards -/

namespace Wildcard

theorem mem_suffixes : ∀ {s t : Text}, t ∈ suffixes s ↔ t <:+ s
  | [], t => by rw [suffixes, List.mem_singleton, List.suffix_nil]
  | c :: s, t => by rw [suffixes, List.mem_cons, mem_suffixes, List.suffix_cons_iff]

theorem accepts_anyText_iff {ps : List Wildcard} {s : Text} :
    accepts (.anyText :: ps) s = true ↔ ∃ a b, s = a ++ b ∧ accepts ps b = true := by
  rw [accepts, List.any_eq_true]
  constructor
  · rintro ⟨b, hb, h⟩
    obtain ⟨a, rfl⟩ := mem_suffixes.1 hb
    exact ⟨a, b, rfl, h⟩
  · rintro ⟨a, b, rfl, h⟩
    exact ⟨b, mem_suffixes.2 (List.suffix_append a b), h⟩

theorem accepts_anyText (s : Text) : accepts [.anyText] s = true :=
  accepts_anyText_iff.2 ⟨s, [], (List.append_nil s).symm, rfl⟩

theorem accepts_cons_iff {p : Wildcard} {ps : List Wildcard} {s : Text} (hp : p ≠ .anyText) :
    accepts (p :: ps) s = true ↔ ∃ c t, s = c :: t ∧ p.takes c = true ∧ accepts ps t = true := by
  cases p <;> first | exact absurd rfl hp | (cases s <;> simp [accepts])

theorem accepts_append_iff : ∀ {ps qs : List Wildcard} {s : Text},
    accepts (ps ++ qs) s = true ↔ ∃ a b, s = a ++ b ∧ accepts ps a = true ∧ accepts qs b = true
  | [], qs, s => by simp [accepts]
  | p :: ps, qs, s => by
    rw [List.cons_append]
    by_cases hp : p = .anyText
    · subst hp
      simp only [accepts_anyText_iff, accepts_append_iff]
      constructor
      · rintro ⟨x, _, rfl, a, b, rfl, ha, hb⟩
        exact ⟨x ++ a, b, by rw [List.append_assoc], ⟨x, a, rfl, ha⟩, hb⟩
      · rintro ⟨_, b, rfl, ⟨x, a, rfl, ha⟩, hb⟩
        exact ⟨x, a ++ b, by rw [List.append_assoc], a, b, rfl, ha, hb⟩
    · simp only [accepts_cons_iff hp, accepts_append_iff]
      constructor
      · rintro ⟨c, _, rfl, hc, a, b, rfl, ha, hb⟩
        exact ⟨c :: a, b, rfl, ⟨c, a, rfl, hc, ha⟩, hb⟩
      · rintro ⟨_, b, rfl, ⟨c, a, rfl, hc, ha⟩, hb⟩
        exact ⟨c, a ++ b, rfl, hc, a, b, rfl, ha, hb⟩

theorem parse_append : ∀ {a : Text}, '[' ∉ a → ∀ b, parse (a ++ b) = parse a ++ parse b
  | [], _, b => by rw [List.nil_append, parse, List.nil_append]
  | c :: a, h, b => by
    rw [List.mem_cons, not_or] at h
    have ih := parse_append h.2 b
    rw [List.cons_append, parse, parse, ih, if_neg (Ne.symm h.1), if_neg (Ne.symm h.1)]
    split
    · rfl
    · split <;> rfl

theorem parse_of_literal : ∀ {a : Text}, (∀ c ∈ a, c ≠ '*' ∧ c ≠ '?' ∧ c ≠ '[') → parse a = a.map .char
  | [], _ => by rw [parse, List.map_nil]
  | c :: a, h => by
    obtain ⟨h1, h2, h3⟩ := h c (List.mem_cons_self ..)
    rw [parse, if_neg h1, if_neg h2, if_neg h3, parse_of_literal fun c hc => h c (List.mem_cons_of_mem _ hc),
      List.map_cons]

theorem accepts_map_char_iff : ∀ {a s : Text}, accepts (a.map .char) s = true ↔ s = a
  | [], s => by simp [accepts]
  | c :: a, s => by
    rw [List.map_cons, accepts_cons_iff (by simp)]
    simp only [accepts_map_char_iff, takes, decide_eq_true_eq]
    constructor
    · rintro ⟨_, _, rfl, rfl, rfl⟩
      rfl
    · rintro rfl
      exact ⟨c, a, rfl, rfl, rfl⟩

end Wildcard

def IsLiteral (n : Text) : Prop := ∀ c ∈ n, c ≠ '*' ∧ c ≠ '?' ∧ c ≠ '['

instance (n : Text) : Decidable (IsLiteral n) := List.decidableBAll (fun c => c ≠ '*' ∧ c ≠ '?' ∧ c ≠ '[') n

theorem isLike_literal {n s : Text} (h : IsLiteral n) : isLike n s = true ↔ s = n := by
  rw [isLike, Wildcard.parse_of_literal h, Wildcard.accepts_map_char_iff]

theorem isLike_star {n s : Text} (h : IsLiteral n) : isLike (n ++ ['*']) s = true ↔ n <+: s := by
  have hset : '[' ∉ n := fun hm => (h _ hm).2.2 rfl
  have hstar : Wildcard.parse ['*'] = [.anyText] := by rw [Wildcard.parse, if_pos rfl, Wildcard.parse]
  rw [isLike, Wildcard.parse_append hset, hstar, Wildcard.accepts_append_iff, Wildcard.parse_of_literal h]
  simp only [Wildcard.accepts_map_char_iff, Wildcard.accepts_anyText, and_true]
  constructor
  · rintro ⟨_, b, rfl, rfl⟩
    exact List.prefix_append _ _
  · rintro ⟨b, rfl⟩
    exact ⟨n, b, rfl, rfl⟩

theorem isLike_stars (s : Text) : isLike ['*', '*'] s = true := by
  have hstars : Wildcard.parse ['*', '*'] = [.anyText, .anyText] := by
    rw [Wildcard.parse, if_pos rfl, Wildcard.parse, if_pos rfl, Wildcard.parse]
  rw [isLike, hstars]
  exact Wildcard.accepts_anyText_iff.2 ⟨[], s, rfl, Wildcard.accepts_anyText s⟩

theorem isLike_append_cons_iff {n p s : Text} (hn : '[' ∉ n) :
    isLike (n ++ '/' :: p) s = true ↔ ∃ a b, s = a ++ '/' :: b ∧ isLike n a = true ∧ isLike p b = true := by
  have hslash : Wildcard.parse ('/' :: p) = .char '/' :: Wildcard.parse p := by
    rw [Wildcard.parse, if_neg (by decide), if_neg (by decide), if_neg (by decide)]
  rw [isLike, Wildcard.parse_append hn, hslash, Wildcard.accepts_append_iff]
  simp only [Wildcard.accepts_cons_iff (p := .char '/') (by simp), Wildcard.takes, decide_eq_true_eq]
  constructor
  · rintro ⟨a, _, rfl, ha, _, b, rfl, rfl, hb⟩
    exact ⟨a, b, rfl, ha, hb⟩
  · rintro ⟨a, b, rfl, ha, hb⟩
    exact ⟨a, '/' :: b, rfl, ha, '/', b, rfl, rfl, hb⟩

/-! ## Runs of names -/

/-- **A pattern read over slashes**: each of its names stands for a run of names, joined again by slashes. -/
def SpansRuns (pattern names : List Text) : Prop :=
  ∃ runs : List (List Text), runs.flatten = names ∧
    List.Forall₂ (fun n run => run ≠ [] ∧ isLike n (Text.joinWith ['/'] run) = true) pattern runs

theorem spansRuns_cons_iff {n : Text} {pattern names : List Text} :
    SpansRuns (n :: pattern) names ↔
      ∃ run rest, run ++ rest = names ∧ run ≠ [] ∧ isLike n (Text.joinWith ['/'] run) = true ∧
        SpansRuns pattern rest := by
  unfold SpansRuns
  constructor
  · rintro ⟨runs, rfl, h⟩
    obtain ⟨run, runs, ⟨hrun, hlike⟩, htail, rfl⟩ := List.forall₂_cons_left_iff.1 h
    exact ⟨run, runs.flatten, rfl, hrun, hlike, runs, rfl, htail⟩
  · rintro ⟨run, _, rfl, hrun, hlike, runs, rfl, htail⟩
    exact ⟨run :: runs, rfl, .cons ⟨hrun, hlike⟩ htail⟩

theorem spansRuns_nil_iff {names : List Text} : SpansRuns [] names ↔ names = [] := by
  unfold SpansRuns
  constructor
  · rintro ⟨runs, rfl, h⟩
    rw [List.forall₂_nil_left_iff.1 h]
    rfl
  · rintro rfl
    exact ⟨[], rfl, .nil⟩

/-- **A wildcard pattern for a path stands for runs of names**, one for each of its own names. -/
theorem isLike_joinWith_iff : ∀ {pattern names : List Text}, pattern ≠ [] → names ≠ [] → (∀ n ∈ pattern, '[' ∉ n) →
    (∀ n ∈ names, '/' ∉ n) →
      (isLike (Text.joinWith ['/'] pattern) (Text.joinWith ['/'] names) = true ↔ SpansRuns pattern names)
  | [], _, h, _, _, _ => absurd rfl h
  | [n], names, _, hnames, _, _ => by
    simp only [Text.joinWith_singleton, spansRuns_cons_iff, spansRuns_nil_iff]
    constructor
    · intro h
      exact ⟨names, [], List.append_nil names, hnames, h, rfl⟩
    · rintro ⟨run, _, rfl, -, h, rfl⟩
      rwa [List.append_nil]
  | n :: m :: pattern, names, _, hnames, hset, hslash => by
    have hn : '[' ∉ n := hset n (List.mem_cons_self ..)
    have ih : ∀ {rest : List Text}, rest ≠ [] → (∀ n ∈ rest, '/' ∉ n) →
        (isLike (Text.joinWith ['/'] (m :: pattern)) (Text.joinWith ['/'] rest) = true ↔ SpansRuns (m :: pattern) rest) :=
      fun hrest hs => isLike_joinWith_iff (by simp) hrest (fun n hn => hset n (List.mem_cons_of_mem _ hn)) hs
    rw [Text.joinWith_cons ['/'] n (by simp), List.singleton_append, isLike_append_cons_iff hn, spansRuns_cons_iff]
    constructor
    · rintro ⟨a, b, hab, ha, hb⟩
      obtain ⟨run, rest, hrun, hrest, rfl, rfl, rfl⟩ := Text.joinWith_eq_append_cons hnames hslash hab
      exact ⟨run, rest, rfl, hrun, ha, (ih hrest fun n hn => hslash n (List.mem_append_right _ hn)).1 hb⟩
    · rintro ⟨run, rest, rfl, hrun, ha, hb⟩
      have hrest : rest ≠ [] := by
        rintro rfl
        obtain ⟨run', rest', hnil, hrun', -⟩ := spansRuns_cons_iff.1 hb
        exact hrun' (List.append_eq_nil_iff.1 hnil).1
      refine ⟨_, _, Text.joinWith_append ['/'] hrun hrest, ha, ?_⟩
      exact (ih hrest fun n hn => hslash n (List.mem_append_right _ hn)).2 hb

/-! ## Names that a glob leads to -/

/-- **The run of names that a part stands for.** -/
def GlobPart.Takes : GlobPart → List Text → Prop
  | .folders, _ => True
  | .name n, run => run = [n]
  | .wild items, run => ∃ m, run = [m] ∧ Wildcard.accepts items m = true

/-- **Whether the parts of a glob lead down these names**: `**` down any number of them, any other part down one. -/
def Glob.reaches : List GlobPart → List Text → Bool
  | [], names => names.isEmpty
  | .folders :: parts, names => names.tails.any (reaches parts)
  | .name n :: parts, m :: names => m = n && reaches parts names
  | .wild items :: parts, m :: names => Wildcard.accepts items m && reaches parts names
  | _ :: _, [] => false

/-- Whether a glob leads to the file of these names; `**` leads to folders alone. -/
def Glob.selects (g : Glob) (names : List Text) : Bool :=
  !g.foldersOnly && g.parts.getLast? != some .folders && reaches g.parts names

/-- **Whether a glob leads to the file of these names or to a folder that it lies in.** -/
def Glob.covers (g : Glob) (names : List Text) : Bool :=
  g.selects names || names.inits.any fun folder => folder != names && reaches g.parts folder

namespace Glob

theorem reaches_nil_iff {names : List Text} : reaches [] names = true ↔ names = [] := by
  rw [reaches, List.isEmpty_iff]

theorem reaches_cons_iff {p : GlobPart} {parts : List GlobPart} {names : List Text} :
    reaches (p :: parts) names = true ↔ ∃ run rest, run ++ rest = names ∧ p.Takes run ∧ reaches parts rest = true := by
  cases p with
  | folders =>
    rw [reaches, List.any_eq_true]
    constructor
    · rintro ⟨rest, hrest, h⟩
      obtain ⟨run, rfl⟩ := (List.mem_tails ..).1 hrest
      exact ⟨run, rest, rfl, trivial, h⟩
    · rintro ⟨run, rest, rfl, -, h⟩
      exact ⟨rest, (List.mem_tails ..).2 (List.suffix_append run rest), h⟩
  | name n =>
    constructor
    · intro h
      cases names with
      | nil => simp [reaches] at h
      | cons m names =>
        simp only [reaches, Bool.and_eq_true, decide_eq_true_eq] at h
        exact ⟨[m], names, rfl, by rw [h.1]; rfl, h.2⟩
    · rintro ⟨_, rest, rfl, rfl, h⟩
      simp [reaches, h]
  | wild items =>
    constructor
    · intro h
      cases names with
      | nil => simp [reaches] at h
      | cons m names =>
        simp only [reaches, Bool.and_eq_true] at h
        exact ⟨[m], names, rfl, ⟨m, rfl, h.1⟩, h.2⟩
    · rintro ⟨_, rest, rfl, ⟨m, rfl, hm⟩, h⟩
      simp [reaches, hm, h]

theorem covers_iff {g : Glob} {names : List Text} : g.covers names = true ↔
    g.selects names = true ∨ ∃ folder, folder <+: names ∧ folder ≠ names ∧ reaches g.parts folder = true := by
  simp only [covers, Bool.or_eq_true, List.any_eq_true, List.mem_inits, Bool.and_eq_true, bne_iff_ne]

theorem partOf_ok_iff {n : Text} {p : GlobPart} : partOf n = .ok p ↔
    (n = ['*', '*'] ∧ p = .folders) ∨
      (n ≠ ['*', '*'] ∧ Text.hasPiece ['*', '*'] n = false ∧
        (((n.any fun c => c = '*' || c = '?' || c = '[') = true ∧ p = .wild (Wildcard.parse n)) ∨
          ((n.any fun c => c = '*' || c = '?' || c = '[') = false ∧ p = .name n))) := by
  unfold partOf
  split
  · rename_i h
    simp only [h, Except.ok.injEq, eq_comm, true_and, ne_eq, not_true, false_and, or_false]
  · rename_i h
    split
    · rename_i hp
      simp [h, hp]
    · rename_i hp
      split
      · rename_i hs
        simp [h, hp, hs, eq_comm]
      · rename_i hs
        simp [h, hp, hs, eq_comm]

theorem isLiteral_of_any {n : Text} (h : (n.any fun c => c = '*' || c = '?' || c = '[') = false) : IsLiteral n := by
  intro c hc
  have hany := List.any_eq_false.1 h c hc
  simpa [not_or, and_assoc] using hany

/-- **A run that is not empty and that a part stands for, a wildcard pattern over slashes stands for too.** -/
theorem isLike_of_takes {n : Text} {p : GlobPart} {run : List Text} (hp : partOf n = .ok p) (hrun : run ≠ [])
    (h : p.Takes run) : isLike n (Text.joinWith ['/'] run) = true := by
  rcases partOf_ok_iff.1 hp with ⟨rfl, rfl⟩ | ⟨-, -, ⟨-, rfl⟩ | ⟨hlit, rfl⟩⟩
  · exact isLike_stars _
  · obtain ⟨m, rfl, hm⟩ := h
    rwa [Text.joinWith_singleton]
  · cases h
    rw [Text.joinWith_singleton]
    exact (isLike_literal (isLiteral_of_any hlit)).2 rfl

theorem takes_singleton_iff {n m : Text} {p : GlobPart} (hp : partOf n = .ok p) :
    p.Takes [m] ↔ isLike n m = true := by
  rcases partOf_ok_iff.1 hp with ⟨rfl, rfl⟩ | ⟨-, -, ⟨-, rfl⟩ | ⟨hlit, rfl⟩⟩
  · exact ⟨fun _ => isLike_stars m, fun _ => trivial⟩
  · simp [GlobPart.Takes, isLike]
  · rw [isLike_literal (isLiteral_of_any hlit)]
    simp [GlobPart.Takes]

theorem takes_ne_folders {p : GlobPart} {run : List Text} (hp : p ≠ .folders) (h : p.Takes run) : ∃ m, run = [m] := by
  cases p with
  | folders => exact absurd rfl hp
  | name n => exact ⟨n, h⟩
  | wild items => exact h.imp fun _ h => h.1

end Glob

end File
end ViewAtlas
