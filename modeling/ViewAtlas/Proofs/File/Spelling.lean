import Mathlib.Data.List.Forall2
import ViewAtlas.Proofs.File.Finding
/-!
# Spellings of places

An absolute path leads to the place that its names lead to, whether it starts with one slash or with two, as long as it
is not too long (`Respells.locate`), and so does what is made of it.  So a place has two spellings without `..`, and every
absolute path to it, however it is written, is one of them once `..` is taken away (`spells_normal`).  A path without `..`
at which there is a file is listed among those of the files (`Path.IsNormal.mem_filePaths`).
-/
namespace ViewAtlas
namespace File

variable {d : Disk} {p q : Path} {a : Place}

/-! ## Paths that differ in their slashes -/

/-- A path that is absolute, and as a text gives it. -/
def Path.IsProper (p : Path) : Prop := (p.slashes = 1 ∨ p.slashes = 2) ∧ p.IsRead

namespace Path.IsProper

theorem ne_zero (h : p.IsProper) : p.slashes ≠ 0 := by
  rcases h.1 with h | h <;> simp [h]

theorem join (h : p.IsProper) (s : Text) : (p.join (.ofText s)).IsProper := by
  refine ⟨?_, h.2.join (ofText_isRead s)⟩
  unfold Path.join
  split
  · rename_i habs
    exact leadingSlashes_of_head (isAbsolute_ofText_iff.1 habs)
  · exact h.1

theorem text_eq (h : p.IsProper) : p.text = List.replicate p.slashes '/' ++ Text.joinWith ['/'] p.names := by
  simp [Path.text, h.ne_zero]

theorem ofText_append (h : p.IsProper) (s : Text) : (Path.ofText (p.text ++ s)).IsProper := by
  refine ⟨leadingSlashes_of_head ?_, ofText_isRead _⟩
  rw [h.text_eq]
  rcases h.1 with hk | hk <;> simp [hk, List.replicate_succ]

end Path.IsProper

theorem leadingSlashes_append (h : p.IsProper) {s : Text} (hs : s.head? ≠ some '/') :
    Path.leadingSlashes (p.text ++ s) = p.slashes := by
  rw [h.text_eq, List.append_assoc]
  refine leadingSlashes_replicate h.1 ?_
  have hhead := h.2.head?_joinWith
  rw [List.head?_append]
  cases hc : (Text.joinWith ['/'] p.names).head? with
  | none => exact hs
  | some c =>
    rw [hc] at hhead
    exact hhead

/-- **Absolute paths with the same names**, the second after no more slashes than the first. -/
structure Respells (p q : Path) : Prop where
  left : p.IsProper
  right : q.IsProper
  names : p.names = q.names
  shorter : q.slashes ≤ p.slashes

namespace Respells

/-- **How many slashes an absolute path starts with does not matter to where it leads**, unless it is too long. -/
theorem locate (h : Respells p q) (hshort : d.isTooLong p.text = false) : d.locate q.text = d.locate p.text := by
  obtain ⟨j, names⟩ := p
  obtain ⟨k, names'⟩ := q
  obtain rfl : names = names' := h.names
  have hj : j ≠ 0 := h.left.ne_zero
  have hk : k ≠ 0 := h.right.ne_zero
  have hslash : ∀ n ∈ names, '/' ∉ n := fun n hn => (h.left.2 n hn).2.2
  by_cases hnul : ∀ n ∈ names, '\x00' ∉ n
  · have hle : Text.octets (⟨k, names⟩ : Path).text ≤ Text.octets (⟨j, names⟩ : Path).text :=
      octets_text_le hk h.shorter (List.Sublist.refl names)
    rw [locate_absolute hk hslash hnul]
    rw [Disk.isTooLong] at hshort
    rw [locate_absolute hj hslash hnul] at hshort ⊢
    by_cases hlong : mostPathOctets < Text.octets (⟨j, names⟩ : Path).text
    · rw [if_pos hlong] at hshort
      cases hshort
    · rw [if_neg hlong, if_neg (by omega)]
  · have hall : ∀ {k : Nat}, k ≠ 0 → d.locate (⟨k, names⟩ : Path).text = .error .nul := by
      intro k hk
      obtain ⟨n, hn, hmem⟩ : ∃ n ∈ names, '\x00' ∈ n := by simpa using hnul
      have htext : '\x00' ∈ (⟨k, names⟩ : Path).text := by
        rw [text_absolute hk]
        exact List.mem_append_right _ (Text.mem_joinWith ['/'] hn hmem)
      rw [Disk.locate, if_pos (by simpa using htext)]
    rw [hall hk, hall hj]

theorem join (h : Respells p q) (s : Text) : Respells (p.join (.ofText s)) (q.join (.ofText s)) := by
  refine ⟨h.left.join s, h.right.join s, ?_, ?_⟩
  all_goals unfold Path.join; split
  · rfl
  · rw [h.names]
  · exact Nat.le_refl _
  · exact h.shorter

theorem ofText_append (h : Respells p q) {s : Text} (hs : s.head? ≠ some '/') :
    Respells (.ofText (p.text ++ s)) (.ofText (q.text ++ s)) := by
  have hnames : ∀ (k : Nat) (t : Text), (Path.ofText (List.replicate k '/' ++ t)).names = (Path.ofText t).names := by
    intro k t
    unfold Path.ofText
    rw [splitAt_replicate, List.filter_append]
    simp
  refine ⟨h.left.ofText_append s, h.right.ofText_append s, ?_, ?_⟩
  · rw [h.left.text_eq, h.right.text_eq, List.append_assoc, List.append_assoc, hnames, hnames, h.names]
  · change Path.leadingSlashes _ ≤ Path.leadingSlashes _
    rw [leadingSlashes_append h.left hs, leadingSlashes_append h.right hs]
    exact h.shorter

theorem folder (h : Respells p q) : Respells p.folder q.folder :=
  ⟨⟨h.left.1, h.left.2.folder⟩, ⟨h.right.1, h.right.2.folder⟩, congrArg List.dropLast h.names, h.shorter⟩

theorem upward (h : Respells p q) : List.Forall₂ Respells p.upward q.upward := by
  have hall : ∀ n, Respells ⟨p.slashes, p.names.take (p.names.length - n)⟩ ⟨q.slashes, q.names.take (q.names.length - n)⟩ :=
    fun n => ⟨⟨h.left.1, fun m hm => h.left.2 m (List.mem_of_mem_take hm)⟩,
      ⟨h.right.1, fun m hm => h.right.2 m (List.mem_of_mem_take hm)⟩, by rw [h.names], h.shorter⟩
  unfold Path.upward
  rw [← h.names, List.forall₂_map_left_iff, List.forall₂_map_right_iff, List.forall₂_same]
  intro n _
  have hn := hall n
  rwa [← h.names] at hn

end Respells

/-! ## Normal paths -/

/-- **A normal path**: absolute, as a text gives it, and without `..`. -/
structure Path.IsNormal (p : Path) : Prop where
  proper : p.IsProper
  down : Path.up ∉ p.names

theorem Path.IsProper.normal (h : p.IsProper) : p.normal.IsNormal :=
  ⟨⟨h.1, h.2.normal⟩, up_notMem_normal (Path.isAbsolute_of_slashes h.1)⟩

theorem Path.IsNormal.withNames (h : p.IsNormal) {names : List Text}
    (hnames : ∀ n ∈ names, n ∈ p.names ∨ isName n = true) : (⟨p.slashes, names⟩ : Path).IsNormal := by
  constructor
  case proper =>
    refine ⟨h.proper.1, fun n hn => ?_⟩
    rcases hnames n hn with hmem | hname
    · exact h.proper.2 n hmem
    · obtain ⟨hplain, hslash⟩ := isName_iff.1 hname
      exact ⟨hplain.1, hplain.2.1, hslash⟩
  case down =>
    intro hup
    rcases hnames _ hup with hmem | hname
    · exact h.down hmem
    · exact (isPlain_of_isName hname).2.2 rfl

/-! ## Spellings -/

/-- **A path spells a place**: the names that lead to it, after one slash or two. -/
def Spells (p : Path) (a : Place) : Prop := (p.slashes = 1 ∨ p.slashes = 2) ∧ p.names = a.names.reverse

theorem spells_path (a : Place) : Spells a.path a := ⟨.inl rfl, rfl⟩

theorem Spells.isProper (hd : d.IsReal) (ha : d.Has a) (h : Spells p a) : p.IsProper := by
  refine ⟨h.1, fun n hn => (ha.isNamed hd.named).isRead n ?_⟩
  rwa [h.2] at hn

theorem Spells.respells_path (hd : d.IsReal) (ha : d.Has a) (hp : Spells p a) : Respells p a.path := by
  refine ⟨hp.isProper hd ha, (spells_path a).isProper hd ha, hp.2, ?_⟩
  change 1 ≤ p.slashes
  rcases hp.1 with h | h <;> omega

/-- A place has two spellings at most. -/
theorem Spells.two {p₀ p₁ p₂ : Path} (h₀ : Spells p₀ a) (h₁ : Spells p₁ a) (h₂ : Spells p₂ a) :
    p₀ = p₁ ∨ p₁ = p₂ ∨ p₀ = p₂ := by
  obtain ⟨k₀, n₀⟩ := p₀
  obtain ⟨k₁, n₁⟩ := p₁
  obtain ⟨k₂, n₂⟩ := p₂
  obtain ⟨hk₀, rfl⟩ := h₀
  obtain ⟨hk₁, rfl⟩ := h₁
  obtain ⟨hk₂, rfl⟩ := h₂
  simp only [Path.mk.injEq, and_true]
  dsimp only at hk₀ hk₁ hk₂
  omega

theorem spells_normal (hslashes : p.slashes = 1 ∨ p.slashes = 2) (hread : p.IsRead) (h : d.locate p.text = .ok a) :
    Spells p.normal a :=
  ⟨hslashes, (locate_names (Path.isAbsolute_of_slashes hslashes) hread h).symm⟩

/-- **The path without `..` leads where the path does.** -/
theorem locate_normal (hd : d.IsReal) (hp : p.IsProper) (h : d.locate p.text = .ok a) :
    d.locate p.normal.text = .ok a := by
  have habs := Path.isAbsolute_of_slashes hp.1
  have hspelled := locate_spelled hd habs hp.2 h
  rwa [locate_names habs hp.2 h] at hspelled

theorem spells_absolute (hd : d.IsReal) {c : Text} (h : d.locate (d.absolute c).text = .ok a) :
    Spells (d.absolute c) a := by
  have hslashes := absolute_slashes d c
  have habs : (d.homePath.join (.ofText c)).isAbsolute = true := Path.isAbsolute_of_slashes hslashes
  have hnormal : (d.absolute c).normal = d.absolute c := normal_eq_self (up_notMem_normal habs)
  exact hnormal ▸ spells_normal hslashes (absolute_isRead hd.named c) h

/-! ## Lists of files -/

theorem entry_mem_placesIn {n : Text} {e : Entry} : ∀ {inner : List (Text × Entry)} {names : List Text}
    {outer : List Entry}, (n, e) ∈ inner → (⟨n :: names, e, outer⟩ : Place) ∈ placesIn names outer inner
  | (m, f) :: inner, names, outer, h => by
    have hself : ∀ names, (⟨names, f, outer⟩ : Place) ∈ f.places names outer := by
      intro names
      cases f <;> simp [Entry.places]
    rw [placesIn, List.mem_append]
    rcases List.mem_cons.1 h with heq | h
    · cases heq
      exact .inl (hself _)
    · exact .inr (entry_mem_placesIn h)

mutual

theorem child_mem_places {n : Text} {e : Entry} {entries : List (Text × Entry)} (he : (n, e) ∈ entries) :
    ∀ {top : Entry} {names : List Text} {outer : List Entry}, a.entry = .folder entries → a ∈ top.places names outer →
      (⟨n :: a.names, e, a.entry :: a.outer⟩ : Place) ∈ top.places names outer
  | .file octets, names, outer, ha, h => by
    rw [Entry.places, List.mem_singleton] at h
    subst h
    cases ha
  | .folder inner, names, outer, ha, h => by
    rw [Entry.places, List.mem_cons] at h ⊢
    rcases h with rfl | h
    · cases ha
      exact .inr (entry_mem_placesIn he)
    · exact .inr (child_mem_placesIn he ha h)

theorem child_mem_placesIn {n : Text} {e : Entry} {entries : List (Text × Entry)} (he : (n, e) ∈ entries) :
    ∀ {inner : List (Text × Entry)} {names : List Text} {outer : List Entry}, a.entry = .folder entries →
      a ∈ placesIn names outer inner → (⟨n :: a.names, e, a.entry :: a.outer⟩ : Place) ∈ placesIn names outer inner
  | [], _, _, _, h => by simp [placesIn] at h
  | (m, f) :: inner, names, outer, ha, h => by
    rw [placesIn, List.mem_append] at h ⊢
    exact h.imp (child_mem_places he ha) (child_mem_placesIn he ha)

end

/-- **Every place of a disk is in the listing** from its outermost place. -/
theorem Disk.Has.mem_within (ha : d.Has a) : a ∈ d.top.within := by
  induction ha with
  | top =>
    simp [Place.within, Disk.top, Entry.places]
  | child _ hentry he ih => exact child_mem_places he hentry ih

theorem Spells.mem_filePaths (ha : d.Has a) (hfile : a.entry.isFile = true) (h : Spells p a) : p ∈ d.filePaths := by
  refine List.mem_flatMap.2 ⟨a, List.mem_filter.2 ⟨ha.mem_within, hfile⟩, ?_⟩
  obtain ⟨k, names⟩ := p
  obtain ⟨hk, hnames⟩ := h
  dsimp only at hk hnames
  rcases hk with rfl | rfl <;> simp [Place.path, hnames]

/-- **A normal path is listed where there is a file at it.** -/
theorem Path.IsNormal.mem_filePaths (h : p.IsNormal) (hfile : d.isFile p.text = true) : p ∈ d.filePaths := by
  obtain ⟨a, ha, hfile⟩ := exists_locate_of_isFile hfile
  have hspells := spells_normal h.proper.1 h.proper.2 ha
  rw [normal_eq_self h.down] at hspells
  exact hspells.mem_filePaths (.of_locate ha) hfile

end File
end ViewAtlas
