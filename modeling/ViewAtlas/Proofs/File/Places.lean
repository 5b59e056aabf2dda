import ViewAtlas.Proofs.File.Globbing
/-!
# Where places lie

The names of a place say how it was reached: a place within another has more names behind those of the other
(`mem_within`), what a glob leads to has names that the glob leads down (`mem_selectParts`), and what a path leads to has
the names of the normal path (`locate_names`).
-/
namespace ViewAtlas
namespace File

/-! ## Within a place -/

mutual

theorem Entry.mem_places : ∀ {e : Entry} {names : List Text} {outer : List Entry} {q : Place},
    q ∈ e.places names outer → ∃ below, q.names = below.reverse ++ names ∧ (below = [] → q.entry = e)
  | .file octets, names, outer, q, h => by
    rw [Entry.places, List.mem_singleton] at h
    subst h
    exact ⟨[], rfl, fun _ => rfl⟩
  | .folder entries, names, outer, q, h => by
    rw [Entry.places, List.mem_cons] at h
    rcases h with rfl | h
    · exact ⟨[], rfl, fun _ => rfl⟩
    · obtain ⟨below, hne, hnames⟩ := mem_placesIn h
      exact ⟨below, hnames, fun h => absurd h hne⟩

theorem mem_placesIn : ∀ {entries : List (Text × Entry)} {names : List Text} {outer : List Entry} {q : Place},
    q ∈ placesIn names outer entries → ∃ below, below ≠ [] ∧ q.names = below.reverse ++ names
  | [], _, _, _, h => by simp [placesIn] at h
  | (name, e) :: rest, names, outer, q, h => by
    rw [placesIn, List.mem_append] at h
    rcases h with h | h
    · obtain ⟨below, hnames, -⟩ := Entry.mem_places h
      exact ⟨name :: below, by simp, by rw [hnames, List.reverse_cons, List.append_assoc, List.singleton_append]⟩
    · exact mem_placesIn h

end

theorem mem_within {p q : Place} (h : q ∈ p.within) :
    ∃ below, q.names = below.reverse ++ p.names ∧ (below = [] → q.entry = p.entry) := Entry.mem_places h

/-! ## Steps -/

def IsPlain (n : Text) : Prop := n ≠ [] ∧ n ≠ ['.'] ∧ n ≠ Path.up

/-- **All that one step can do**: stay, go up where there is a way up, or go down to an entry with a name that fits. -/
inductive Place.Leads (p : Place) (n : Text) : Place → Prop
  | stay (hn : n = [] ∨ n = ['.']) : Leads p n p
  | top (hn : n = Path.up) (houter : p.outer = []) : Leads p n p
  | up {e : Entry} {outer : List Entry} (hn : n = Path.up) (houter : p.outer = e :: outer) :
      Leads p n ⟨p.names.drop 1, e, outer⟩
  | down {entries : List (Text × Entry)} {e : Entry} (hn : IsPlain n) (hfits : Text.octets n ≤ mostNameOctets)
      (hentry : p.entry = .folder entries) (he : Table.get? n entries = some e) :
      Leads p n ⟨n :: p.names, e, p.entry :: p.outer⟩

theorem Place.leads_of_step {p q : Place} {n : Text} (h : p.step n = .ok q) : p.Leads n q := by
  unfold Place.step at h
  split at h
  · cases h
  · rename_i entries hentry
    split at h
    · rename_i hstay
      cases h
      exact .stay hstay
    · rename_i hgo
      rw [not_or] at hgo
      split at h
      · rename_i hup
        split at h
        · rename_i houter
          cases h
          exact .top hup houter
        · rename_i e outer houter
          cases h
          exact .up hup houter
      · rename_i hup
        split at h
        · cases h
        · rename_i hfits
          split at h
          · rename_i e he
            cases h
            exact .down ⟨hgo.1, hgo.2, hup⟩ (Nat.not_lt.1 hfits) hentry he
          · cases h

/-- **What every step preserves, a way of many steps does.** -/
theorem steps_keep {P : Place → Prop} (hstep : ∀ {p q : Place} {n : Text}, P p → p.Leads n q → P q) :
    ∀ {names : List Text} {p q : Place}, P p → names.foldlM Place.step p = .ok q → P q
  | [], _, _, hp, h => by
    cases h
    exact hp
  | n :: names, p, q, hp, h => by
    rw [List.foldlM_cons] at h
    cases hr : p.step n with
    | error e =>
      rw [hr] at h
      cases h
    | ok r =>
      rw [hr] at h
      exact steps_keep hstep (hstep hp (Place.leads_of_step hr)) h

/-- The names that a path text leads along from the outermost folder. -/
def Disk.way (d : Disk) (path : Text) : List Text :=
  if path.head? = some '/' then Text.splitAt '/' path else d.home ++ Text.splitAt '/' path

theorem locate_eq_ok {d : Disk} {path : Text} {p : Place} (h : d.locate path = .ok p) :
    '\x00' ∉ path ∧ Text.octets path ≤ mostPathOctets ∧ (d.way path).foldlM Place.step d.top = .ok p := by
  unfold Disk.locate at h
  split at h
  · cases h
  · rename_i hnul
    split at h
    · cases h
    · rename_i hfits
      split at h
      · cases h
      · exact ⟨by simpa using hnul, Nat.not_lt.1 hfits, h⟩

theorem isTooLong_of_locate {d : Disk} {path : Text} {p : Place} (h : d.locate path = .ok p) :
    d.isTooLong path = false := by
  rw [Disk.isTooLong, h]

theorem locate_keep {P : Place → Prop} {d : Disk} {path : Text} {p : Place} (htop : P d.top)
    (hstep : ∀ {p q : Place} {n : Text}, P p → p.Leads n q → P q) (h : d.locate path = .ok p) : P p :=
  steps_keep hstep htop (locate_eq_ok h).2.2

theorem step_plain {p q : Place} {n : Text} (hn : IsPlain n) (h : p.step n = .ok q) : q.names = n :: p.names := by
  cases Place.leads_of_step h with
  | stay hstay => exact absurd hstay (not_or.2 ⟨hn.1, hn.2.1⟩)
  | top hup => exact absurd hup hn.2.2
  | up hup => exact absurd hup hn.2.2
  | down => rfl

/-! ## Along a glob -/

theorem mem_children {p q : Place} (h : q ∈ p.children) : q.names = q.names.headD [] :: p.names := by
  unfold Place.children at h
  split at h
  · cases h
  · obtain ⟨e, -, rfl⟩ := List.mem_map.1 h
    rfl

/-- **What the parts of a glob lead to has names that they lead down**; it is a folder when the last part is `**`. -/
theorem mem_selectParts : ∀ {parts : List GlobPart} {p q : Place}, (∀ n, .name n ∈ parts → IsPlain n) →
    q ∈ p.selectParts parts → ∃ names, q.names = names.reverse ++ p.names ∧ Glob.reaches parts names = true ∧
      (parts.getLast? = some .folders → q.entry.isFolder = true)
  | [], p, q, _, h => by
    rw [Place.selectParts, List.mem_singleton] at h
    subst h
    exact ⟨[], rfl, rfl, fun h => by cases h⟩
  | .folders :: parts, p, q, hplain, h => by
    rw [Place.selectParts, List.mem_flatMap] at h
    obtain ⟨r, hr, hq⟩ := h
    rw [List.mem_filter] at hr
    obtain ⟨below, hbelow, -⟩ := mem_within hr.1
    obtain ⟨names, hnames, hreach, hlast⟩ := mem_selectParts (fun n hn => hplain n (List.mem_cons_of_mem _ hn)) hq
    refine ⟨below ++ names, ?_, ?_, fun h => ?_⟩
    · rw [hnames, hbelow, List.reverse_append, List.append_assoc]
    · exact Glob.reaches_cons_iff.2 ⟨below, names, rfl, trivial, hreach⟩
    · cases parts with
      | nil =>
        rw [Place.selectParts, List.mem_singleton] at hq
        rw [hq]
        exact hr.2
      | cons p parts => exact hlast h
  | .name n :: parts, p, q, hplain, h => by
    rw [Place.selectParts] at h
    split at h
    · rename_i r hr
      obtain ⟨names, hnames, hreach, hlast⟩ := mem_selectParts (fun n hn => hplain n (List.mem_cons_of_mem _ hn)) h
      refine ⟨n :: names, ?_, ?_, fun h => ?_⟩
      · rw [hnames, step_plain (hplain n (List.mem_cons_self ..)) hr, List.reverse_cons, List.append_assoc,
          List.singleton_append]
      · exact Glob.reaches_cons_iff.2 ⟨[n], names, rfl, rfl, hreach⟩
      · cases parts with
        | nil => cases h
        | cons p parts => exact hlast h
    · cases h
  | .wild items :: parts, p, q, hplain, h => by
    rw [Place.selectParts, List.mem_flatMap] at h
    obtain ⟨r, hr, hq⟩ := h
    rw [List.mem_filter] at hr
    obtain ⟨names, hnames, hreach, hlast⟩ := mem_selectParts (fun n hn => hplain n (List.mem_cons_of_mem _ hn)) hq
    refine ⟨r.names.headD [] :: names, ?_, ?_, fun h => ?_⟩
    · rw [hnames, List.reverse_cons, List.append_assoc, List.singleton_append]
      rw [← mem_children hr.1]
    · exact Glob.reaches_cons_iff.2 ⟨[r.names.headD []], names, rfl, ⟨_, rfl, hr.2⟩, hreach⟩
    · cases parts with
      | nil => cases h
      | cons p parts => exact hlast h

/-! ## Along a path -/

/-- A place that knows the folders that hold it, and is named after the way down to it. -/
structure Place.IsNested (p : Place) : Prop where
  outer : p.outer.length = p.names.length
  down : Path.up ∉ p.names

theorem collapse_cons_plain {isAbsolute : Bool} {kept : List Text} {n : Text} (hn : n ≠ Path.up) (rest : List Text) :
    Path.collapse isAbsolute kept (n :: rest) = Path.collapse isAbsolute (n :: kept) rest := by
  simp only [Path.collapse, if_neg hn]

theorem collapse_plain (isAbsolute : Bool) : ∀ (names kept : List Text), Path.up ∉ names →
    Path.collapse isAbsolute kept names = kept.reverse ++ names
  | [], kept, _ => by rw [Path.collapse, List.append_nil]
  | n :: names, kept, h => by
    rw [List.mem_cons, not_or] at h
    rw [collapse_cons_plain (Ne.symm h.1), collapse_plain isAbsolute names (n :: kept) h.2, List.reverse_cons,
      List.append_assoc, List.singleton_append]

theorem collapse_append (isAbsolute : Bool) {names : List Text} (h : Path.up ∉ names) (start kept : List Text) :
    Path.collapse isAbsolute kept (start ++ names) = Path.collapse isAbsolute kept start ++ names := by
  fun_induction Path.collapse isAbsolute kept start with
  | case1 kept => rw [List.nil_append, collapse_plain isAbsolute names kept h]
  | case2 rest hroot ih => simpa [Path.collapse, hroot] using ih
  | case3 rest hroot ih => simpa [Path.collapse, hroot] using ih
  | case4 rest ks ih => simpa [Path.collapse] using ih
  | case5 rest k ks hk ih => simpa [Path.collapse, hk] using ih
  | case6 kept n rest hn ih =>
    rw [List.cons_append, collapse_cons_plain hn]
    exact ih

theorem up_notMem_collapse : ∀ {names kept : List Text}, Path.up ∉ kept → Path.up ∉ Path.collapse true kept names
  | [], kept, h => by rwa [Path.collapse, List.mem_reverse]
  | n :: names, kept, h => by
    by_cases hn : n = Path.up
    · subst hn
      cases kept with
      | nil =>
        simp only [Path.collapse, if_true]
        exact up_notMem_collapse h
      | cons k ks =>
        rw [List.mem_cons, not_or] at h
        simp only [Path.collapse, if_true, if_neg (Ne.symm h.1)]
        exact up_notMem_collapse h.2
    · rw [collapse_cons_plain hn]
      exact up_notMem_collapse (by simp [Ne.symm hn, h])

theorem up_notMem_normal {p : Path} (h : p.isAbsolute = true) : Path.up ∉ p.normal.names := by
  rw [Path.normal, h]
  exact up_notMem_collapse (by simp)

theorem normal_eq_self {p : Path} (h : Path.up ∉ p.names) : p.normal = p := by
  rw [Path.normal, collapse_plain _ _ _ h]
  rfl

/-- **A step leads where the path without `..` says.** -/
theorem step_names {p q : Place} {n : Text} (hp : p.IsNested) (h : p.step n = .ok q) (rest : List Text) :
    q.IsNested ∧ Path.collapse true p.names (([n].filter fun n => n ≠ [] && n ≠ ['.']) ++ rest) =
      Path.collapse true q.names rest := by
  cases Place.leads_of_step h with
  | stay hn =>
    refine ⟨hp, ?_⟩
    rcases hn with rfl | rfl <;> simp
  | top hn houter =>
    subst hn
    have hnames : p.names = [] := by simpa [houter] using hp.outer.symm
    refine ⟨hp, ?_⟩
    rw [hnames]
    simp [Path.up, Path.collapse]
  | @up e outer hn houter =>
    subst hn
    obtain ⟨hlen, hdown⟩ := hp
    rw [houter] at hlen
    obtain ⟨k, ks, hnames⟩ := List.exists_cons_of_length_pos (Nat.lt_of_lt_of_eq (Nat.succ_pos _) hlen)
    rw [hnames] at hlen hdown ⊢
    rw [List.mem_cons, not_or] at hdown
    refine ⟨⟨by simpa using hlen, hdown.2⟩, ?_⟩
    have hkept : ([Path.up].filter fun n => n ≠ [] && n ≠ ['.']) = [Path.up] := by decide
    rw [hkept]
    simp [Path.collapse, Ne.symm hdown.1]
  | down hn =>
    have hkept : ([n].filter fun n => n ≠ [] && n ≠ ['.']) = [n] := by simp [hn.1, hn.2.1]
    rw [hkept]
    refine ⟨⟨by simp [hp.outer], ?_⟩, collapse_cons_plain hn.2.2 rest⟩
    rw [List.mem_cons, not_or]
    exact ⟨Ne.symm hn.2.2, hp.down⟩

theorem foldlM_step_names : ∀ {names : List Text} {p q : Place}, p.IsNested → names.foldlM Place.step p = .ok q →
    q.IsNested ∧ q.names.reverse = Path.collapse true p.names (names.filter fun n => n ≠ [] && n ≠ ['.'])
  | [], p, q, hp, h => by
    cases h
    exact ⟨hp, by rw [List.filter_nil, Path.collapse]⟩
  | n :: names, p, q, hp, h => by
    rw [List.foldlM_cons] at h
    cases hr : p.step n with
    | error e =>
      rw [hr] at h
      cases h
    | ok r =>
      rw [hr] at h
      obtain ⟨hnested, hstep⟩ := step_names hp hr (names.filter fun n => n ≠ [] && n ≠ ['.'])
      obtain ⟨hq, hnames⟩ := foldlM_step_names hnested h
      refine ⟨hq, ?_⟩
      rw [hnames, ← hstep, ← List.filter_append, List.singleton_append]

/-- A path whose names are as a text gives them. -/
def Path.IsRead (p : Path) : Prop := ∀ n ∈ p.names, n ≠ [] ∧ n ≠ ['.'] ∧ '/' ∉ n

theorem ofText_isRead (s : Text) : (Path.ofText s).IsRead := by
  intro n hn
  obtain ⟨hmem, hkept⟩ := List.mem_filter.1 hn
  simp only [Bool.and_eq_true, decide_eq_true_eq] at hkept
  exact ⟨hkept.1, hkept.2, Text.notMem_of_mem_splitAt hmem⟩

theorem Path.IsRead.join {p q : Path} (hp : p.IsRead) (hq : q.IsRead) : (p.join q).IsRead := by
  unfold Path.join
  split
  · exact hq
  · intro n hn
    rcases List.mem_append.1 hn with hn | hn
    · exact hp n hn
    · exact hq n hn

theorem filter_splitAt_text {p : Path} (hp : p.IsRead) :
    ((Text.splitAt '/' p.text).filter fun n => n ≠ [] && n ≠ ['.']) = p.names := by
  have hkeep : (p.names.filter fun n => n ≠ [] && n ≠ ['.']) = p.names :=
    List.filter_eq_self.2 fun n hn => by simp [(hp n hn).1, (hp n hn).2.1]
  have hslashes : ∀ (k : Nat) (s : Text), ((Text.splitAt '/' (List.replicate k '/' ++ s)).filter
      fun n => n ≠ [] && n ≠ ['.']) = (Text.splitAt '/' s).filter fun n => n ≠ [] && n ≠ ['.'] := by
    intro k s
    induction k with
    | zero => rfl
    | succ k ih =>
      rw [List.replicate_succ, List.cons_append, Text.splitAt, if_pos rfl, List.filter_cons_of_neg (by simp)]
      exact ih
  unfold Path.text
  split
  · rename_i h
    rw [h.2]
    rfl
  · rw [hslashes]
    by_cases hnil : p.names = []
    · rw [hnil]
      rfl
    · rw [Text.splitAt_joinWith hnil fun n hn => (hp n hn).2.2, hkeep]

theorem Path.head?_text {p : Path} (h : p.isAbsolute = true) : p.text.head? = some '/' := by
  have hslashes : p.slashes ≠ 0 := by simpa [Path.isAbsolute] using h
  obtain ⟨k, hk⟩ := Nat.exists_eq_succ_of_ne_zero hslashes
  simp [Path.text, hk, List.replicate_succ]

/-- **What an absolute path leads to is named as the path without `..` is.** -/
theorem locate_names {d : Disk} {p : Path} {q : Place} (hroot : p.isAbsolute = true) (hp : p.IsRead)
    (h : d.locate p.text = .ok q) : q.names.reverse = p.normal.names := by
  obtain ⟨-, -, hsteps⟩ := locate_eq_ok h
  rw [Disk.way, if_pos (Path.head?_text hroot)] at hsteps
  have htop : d.top.IsNested := ⟨rfl, by simp [Disk.top]⟩
  rw [(foldlM_step_names htop hsteps).2, filter_splitAt_text hp, Path.normal, hroot]
  rfl

end File
end ViewAtlas
