import ViewAtlas.Proofs.Project.Extending
/-!
# How settings are inherited

For each setting by itself, a configuration has what it states, or else what the last of the configurations that it
extends has, as far as there is one (`Nearest`).  The folder is that of the configuration that states the setting.  A
base that is not found leaves the others as they are, with a warning (`Warns`).  Unless a configuration is circular, or
meets a base that cannot be looked up, this is what resolving it gives (`settings_inherited`).
-/
namespace ViewAtlas
namespace Project

open File (Disk Path)
open Json (Value)

variable {d : Disk} {chain : List Path} {path p q : Path} {v : Value}

inductive SettingName where
  | files
  | includes
  | excludes

namespace SettingName

def field : SettingName → String
  | files => "files"
  | includes => "include"
  | excludes => "exclude"

def of : SettingName → Settings → Option Setting
  | files, s => s.files
  | includes, s => s.includes
  | excludes, s => s.excludes

variable {k : SettingName}

theorem of_before (s u : Settings) : k.of (s.before u) = (k.of s <|> k.of u) := by cases k <;> rfl

theorem of_none : k.of Settings.none = none := by cases k <;> rfl

theorem isTexts (k : SettingName) (h : IsWellTyped v) : IsTexts (v.field k.field) := by
  cases k
  case files => exact h.files
  case includes => exact h.includes
  case excludes => exact h.excludes

end SettingName

variable {k : SettingName}

/-- **What a configuration has for a setting**: its own, or else that of the last base that has one, or else nothing. -/
inductive Nearest (d : Disk) (k : SettingName) : Path → Option Setting → Prop
  | own {p : Path} {v : Value} {values : List Value} (hload : load d p.text = .ok v)
      (hown : v.field k.field = .list values) : Nearest d k p (some ⟨values, p.folder⟩)
  | base {p q : Path} {v : Value} {before after : List Path} {x : Setting} (hload : load d p.text = .ok v)
      (hown : v.field k.field = .null) (hbases : basesOf d p v = before ++ q :: after) (hq : Nearest d k q (some x))
      (hafter : ∀ r ∈ after, Nearest d k r none) : Nearest d k p (some x)
  | nothing {p : Path} {v : Value} (hload : load d p.text = .ok v) (hown : v.field k.field = .null)
      (hbases : ∀ r ∈ basesOf d p v, Nearest d k r none) : Nearest d k p none

/-- **The warnings of a configuration** for the names that it extends: one for a name by which nothing is found, and for
any other name those of the configuration that is found. -/
inductive Warns (d : Disk) : Path → List Text → List Notice → Prop
  | done {p : Path} : Warns d p [] []
  | skipped {p : Path} {t : Text} {ts : List Text} {ns : List Notice} (hnone : basePath? d p.folder t = .ok none)
      (hrest : Warns d p ts ns) : Warns d p (t :: ts) (.baseUnresolved t p.text :: ns)
  | followed {p q : Path} {v : Value} {t : Text} {ts : List Text} {ms ns : List Notice}
      (hsome : basePath? d p.folder t = .ok (some q)) (hload : load d q.text = .ok v) (hq : Warns d q (baseTexts v) ms)
      (hrest : Warns d p ts ns) : Warns d p (t :: ts) (ms ++ ns)

/-! ## One answer -/

theorem divided_cases {α : Type} {a b a' b' : List α} {x x' : α} (h : a ++ x :: b = a' ++ x' :: b') :
    (x = x' ∧ b = b') ∨ x' ∈ b ∨ x ∈ b' := by
  rcases List.append_eq_append_iff.1 h with ⟨m, rfl, hm⟩ | ⟨m, rfl, hm⟩
  · cases m with
    | nil =>
      obtain ⟨rfl, rfl⟩ := List.cons.inj hm
      exact .inl ⟨rfl, rfl⟩
    | cons y m =>
      obtain ⟨-, rfl⟩ := List.cons.inj hm
      exact .inr (.inl (by simp))
  · cases m with
    | nil =>
      obtain ⟨rfl, rfl⟩ := List.cons.inj hm
      exact .inl ⟨rfl, rfl⟩
    | cons y m =>
      obtain ⟨-, rfl⟩ := List.cons.inj hm
      exact .inr (.inr (by simp))

theorem Nearest.unique {x : Option Setting} (h : Nearest d k p x) : ∀ {y : Option Setting}, Nearest d k p y → y = x := by
  induction h with
  | own hload hown =>
    intro y hy
    cases hy with
    | own hload' hown' =>
      cases hload.symm.trans hload'
      cases hown.symm.trans hown'
      rfl
    | base hload' hown' | nothing hload' hown' =>
      cases hload.symm.trans hload'
      cases hown.symm.trans hown'
  | base hload hown hbases hq hafter ihq ihafter =>
    intro y hy
    cases hy with
    | own hload' hown' =>
      cases hload.symm.trans hload'
      cases hown.symm.trans hown'
    | base hload' hown' hbases' hq' hafter' =>
      cases hload.symm.trans hload'
      rcases divided_cases (hbases.symm.trans hbases') with ⟨rfl, -⟩ | hbehind | hbehind
      · exact ihq hq'
      · exact absurd (ihafter _ hbehind hq') (by simp)
      · exact absurd (ihq (hafter' _ hbehind)) (by simp)
    | nothing hload' hown' hbases' =>
      cases hload.symm.trans hload'
      exact absurd (ihq (hbases' _ (hbases ▸ by simp))) (by simp)
  | nothing hload hown hbases ih =>
    intro y hy
    cases hy with
    | own hload' hown' =>
      cases hload.symm.trans hload'
      cases hown.symm.trans hown'
    | base hload' hown' hbases' hq' =>
      cases hload.symm.trans hload'
      exact absurd (ih _ (hbases' ▸ by simp) hq') (by simp)
    | nothing => rfl

/-! ## Bases one after the other -/

def LastHas (d : Disk) (k : SettingName) (bases : List Path) : Option Setting → Prop
  | none => ∀ r ∈ bases, Nearest d k r none
  | some x => ∃ before q after, bases = before ++ q :: after ∧ Nearest d k q (some x) ∧ ∀ r ∈ after, Nearest d k r none

theorem LastHas.concat {bases : List Path} {x y : Option Setting} (h : LastHas d k bases x) (hq : Nearest d k q y) :
    LastHas d k (bases ++ [q]) (y <|> x) := by
  cases y with
  | some y => exact ⟨bases, q, [], rfl, hq, fun _ h => nomatch h⟩
  | none =>
    cases x with
    | none =>
      intro r hr
      rcases List.mem_append.1 hr with hr | hr
      · exact h r hr
      · rwa [List.mem_singleton.1 hr]
    | some x =>
      obtain ⟨before, r, after, rfl, hr, hafter⟩ := h
      refine ⟨before, r, after ++ [q], by simp, hr, fun s hs => ?_⟩
      rcases List.mem_append.1 hs with hs | hs
      · exact hafter s hs
      · rwa [List.mem_singleton.1 hs]

theorem LastHas.nearest {x : Option Setting} (h : LastHas d k (basesOf d p v) x) (hload : load d p.text = .ok v)
    (hown : v.field k.field = .null) : Nearest d k p x := by
  cases x with
  | none => exact .nothing hload hown h
  | some x =>
    obtain ⟨before, q, after, hbases, hq, hafter⟩ := h
    exact .base hload hown hbases hq hafter

theorem notices_andThen {ε α β : Type} {a : Noted ε α} {x : α} (h : a.result = .ok x) (f : α → Noted ε β) :
    (a.andThen f).notices = a.notices ++ (f x).notices := by
  unfold Noted.andThen
  rw [h]

theorem of_ownSettings {folder : Path} {own : Settings} (htyped : IsWellTyped v)
    (hown : ownSettings folder v = .ok own) :
    (v.field k.field = .null ∧ k.of own = none) ∨
      ∃ values, v.field k.field = .list values ∧ k.of own = some ⟨values, folder⟩ := by
  have hone : ∀ k : SettingName, ownSetting folder v k.field = .ok (k.of own) := by
    obtain ⟨files, hfiles, h⟩ := bind_ok_iff.1 hown
    obtain ⟨includes, hincludes, h⟩ := bind_ok_iff.1 h
    obtain ⟨excludes, hexcludes, h⟩ := bind_ok_iff.1 h
    cases h
    rintro (_ | _ | _)
    · exact hfiles
    · exact hincludes
    · exact hexcludes
  have h := hone k
  unfold ownSetting at h
  rcases k.isTexts htyped with hnull | ⟨values, hvalues, -⟩
  · rw [hnull] at h
    exact .inl ⟨hnull, (Except.ok.inj h).symm⟩
  · rw [hvalues] at h
    exact .inr ⟨values, hvalues, (Except.ok.inj h).symm⟩

/-- **One base after the other**: each that is found comes before those so far, each that is not leaves a warning. -/
theorem foldlM_inherits {c : Settings} : ∀ {ts : List Text} {bases : List Path} {b : Settings},
    (∀ t ∈ ts, ∀ q u, basePath? d path.folder t = .ok (some q) → (resolve d (chain ++ [path]) q).result = .ok u →
      (∀ k : SettingName, Nearest d k q (k.of u)) ∧
        ∃ v, load d q.text = .ok v ∧ Warns d q (baseTexts v) (resolve d (chain ++ [path]) q).notices) →
    (∀ k : SettingName, LastHas d k bases (k.of b)) →
    (ts.foldlM (extendBy d chain path) b).result = .ok c →
      (∀ k : SettingName, LastHas d k (bases ++ ts.filterMap (foundBase? d path)) (k.of c)) ∧
        Warns d path ts (ts.foldlM (extendBy d chain path) b).notices
  | [], bases, b, _, hb, h => by
    cases h
    exact ⟨fun k => by simpa using hb k, .done⟩
  | t :: ts, bases, b, hbase, hb, h => by
    have hrest : ∀ t ∈ ts, _ := fun t ht => hbase t (List.mem_cons_of_mem _ ht)
    obtain ⟨x, hx, h⟩ := Noted.result_foldlM_cons.1 h
    have hnotices : ((t :: ts).foldlM (extendBy d chain path) b).notices =
        (extendBy d chain path b t).notices ++ (ts.foldlM (extendBy d chain path) x).notices := notices_andThen hx _
    rw [hnotices]
    rcases hq : basePath? d path.folder t with why | _ | q
    · rw [extendBy, hq] at hx
      cases hx
    · have hfound : foundBase? d path t = none := by rw [foundBase?, hq]
      have hstep : extendBy d chain path b t = ⟨[.baseUnresolved t path.text], .ok b⟩ := by
        rw [extendBy, hq]
        rfl
      rw [hstep] at hx ⊢
      cases hx
      obtain ⟨hc, hw⟩ := foldlM_inherits hrest hb h
      rw [List.filterMap_cons_none hfound]
      exact ⟨hc, .skipped hq hw⟩
    · have hfound : foundBase? d path t = some q := by rw [foundBase?, hq]
      rw [extendBy, hq] at hx ⊢
      obtain ⟨u, hu, hx⟩ := Noted.result_andThen_ok_iff.1 hx
      cases hx
      obtain ⟨hnear, w, hw, hwarns⟩ := hbase t (List.mem_cons_self ..) q u hq hu
      have hlast : ∀ k : SettingName, LastHas d k (bases ++ [q]) (k.of (u.before b)) := fun k => by
        rw [k.of_before]
        exact (hb k).concat (hnear k)
      obtain ⟨hc, hns⟩ := foldlM_inherits hrest hlast h
      rw [List.filterMap_cons_some hfound, notices_andThen hu]
      refine ⟨fun k => by simpa using hc k, ?_⟩
      change Warns d path (t :: ts) (_ ++ [] ++ _)
      rw [List.append_nil]
      exact .followed hq hw hwarns hns

/-- **What resolving gives is inherited**, whichever chain led to the configuration. -/
theorem resolve_inherits (hd : d.IsReal) {chain : List Path} {path : Path} {s : Settings} (hp : IsFound d path)
    (hall : AllLoad d path) (h : (resolve d chain path).result = .ok s) :
    (∀ k : SettingName, Nearest d k path (k.of s)) ∧
      ∃ v, load d path.text = .ok v ∧ Warns d path (baseTexts v) (resolve d chain path).notices := by
  by_cases hc : path ∈ chain
  · rw [resolve, dif_pos hc] at h
    cases h
  · obtain ⟨v, hload, htyped⟩ := hall path .refl
    obtain ⟨own, hown, -⟩ := htyped.ownSettings path.folder
    have hfile := hp.mem_filePaths
    rw [resolve_eq hc hfile hload htyped hown] at h ⊢
    obtain ⟨inherited, hinherited, h⟩ := Noted.result_andThen_ok_iff.1 h
    cases h
    have hbase : ∀ t ∈ baseTexts v, ∀ q u, basePath? d path.folder t = .ok (some q) →
        (resolve d (chain ++ [path]) q).result = .ok u → (∀ k : SettingName, Nearest d k q (k.of u)) ∧
          ∃ v, load d q.text = .ok v ∧ Warns d q (baseTexts v) (resolve d (chain ++ [path]) q).notices := by
      intro t ht q u hq hu
      have hextends := (extends_iff hload htyped).2 ⟨t, ht, hq⟩
      exact resolve_inherits hd (hp.of_extends hd hextends) (hall.of_extends hextends) hu
    have hnone : ∀ k : SettingName, LastHas d k [] (k.of Settings.none) := fun k => by
      rw [k.of_none]
      exact List.forall_mem_nil _
    obtain ⟨hlast, hwarns⟩ := foldlM_inherits hbase hnone hinherited
    refine ⟨fun k => ?_, v, hload, ?_⟩
    · rw [k.of_before]
      rcases of_ownSettings (k := k) htyped hown with ⟨hnull, hnothing⟩ | ⟨values, hvalues, hsome⟩
      · rw [hnothing]
        exact (hlast k).nearest hload hnull
      · rw [hsome]
        exact .own hload hvalues
    · rw [notices_andThen hinherited]
      simpa [Noted.done] using hwarns
termination_by remaining d chain
decreasing_by exact remaining_append hfile hc

/-- **How settings are inherited.**  When all configurations that are reached are loaded, with settings of the right kind,
and none is extended in a circle, the settings are resolved, unless a base is met that cannot be looked up.  Each of them is
the nearest one that is stated, with the folder of the configuration that states it, and each name by which nothing is
found leaves one warning. -/
theorem settings_inherited (hd : d.IsReal) (c : Text) (hall : AllLoad d (d.absolute c))
    (hnone : ¬ IsCircular d (d.absolute c)) :
    (¬ MeetsTooLong d (d.absolute c) → ∃ s, (settings d c).result = .ok s ∧
      (∀ (k : SettingName) x, Nearest d k (d.absolute c) x ↔ x = k.of s) ∧
        ∃ v, load d (d.absolute c).text = .ok v ∧ Warns d (d.absolute c) (baseTexts v) (settings d c).notices) ∧
    (MeetsTooLong d (d.absolute c) → (settings d c).result = .error .tooLong) := by
  obtain ⟨v, hload, -⟩ := hall _ .refl
  have hp := isFound_absolute hd hload
  constructor
  · intro hshort
    obtain ⟨s, hs⟩ := (resolve_ok_iff hd hp hall).2 ⟨hnone, hshort⟩
    obtain ⟨hnear, hwarns⟩ := resolve_inherits hd hp hall hs
    refine ⟨s, hs, fun k x => ⟨fun hx => (hnear k).unique hx, ?_⟩, hwarns⟩
    rintro rfl
    exact hnear k
  · intro hmeets
    cases h : (settings d c).result with
    | ok s => exact absurd hmeets ((resolve_ok_iff hd hp hall).1 ⟨s, h⟩).2
    | error e =>
      rcases resolve_error_cases hd hp hall (.singleton _) h with ⟨front, q, -, hq, hfront, hprefix⟩ | ⟨rfl, -⟩
      · exact absurd (isCircular_of_isChain hfront hq hprefix) hnone
      · rfl

/-- A disk on which a configuration extends two that extend the same third one, and one that is missing. -/
def diamond : Disk where
  entries :=
    [("p".toList, .folder
      [("t.json".toList, file "\x7b\"extends\":[\"./base\",\"missing\",\"../p/./other.json\"],\"files\":null,\"include\":[\"a\"]\x7d"),
        ("base.json".toList, file "\x7b\"extends\":\"../q/deep\",\"files\":[\"x\"],\"exclude\":[]\x7d"),
        ("other.json".toList, file "\x7b\"extends\":\"../q/deep\"\x7d")]),
      ("q".toList, .folder [("deep.json".toList, file "\x7b\"files\":[\"y\"],\"exclude\":[\"z\"]\x7d")])]
  home := []
where
  file (s : String) : File.Entry := .file (Text.Utf8.encode s.toList)

def diamondPaths : List Path :=
  [["p", "t.json"], ["p", "base.json"], ["p", "other.json"], ["q", "deep.json"]].map fun names =>
    ⟨1, names.map String.toList⟩

theorem settings_inherited_diamond :
    let path := diamond.absolute "/p/t.json".toList
    diamond.IsReal ∧ AllLoad diamond path ∧ ¬ IsCircular diamond path ∧
      ∃ s, (settings diamond "/p/t.json".toList).result = .ok s ∧
        (∀ (k : SettingName) x, Nearest diamond k path x ↔ x = k.of s) ∧
          ∃ v, load diamond path.text = .ok v ∧
            Warns diamond path (baseTexts v) (settings diamond "/p/t.json".toList).notices := by
  intro path
  have hd : diamond.IsReal := ⟨by decide, by decide, by decide⟩
  have hpaths : descends diamond diamondPaths = true := by
    unfold diamond diamond.file
    -- evaluation is slow in taking the characters of a literal, so they are taken first
    repeat rw [String.toList_ofList]
    decide +kernel
  have hpath : path ∈ diamondPaths := by decide +kernel
  obtain ⟨hall, hnone, hshort⟩ := of_descends hpaths hpath
  exact ⟨hd, hall, hnone, (settings_inherited hd _ hall hnone).1 hshort⟩

/-- **A base whose name is too long is not left out with a warning**: there are no settings at all. -/
theorem settings_inherited_overlong :
    let path := overlong.absolute "/p/t.json".toList
    overlong.IsReal ∧ AllLoad overlong path ∧ ¬ IsCircular overlong path ∧
      (settings overlong "/p/t.json".toList).result = .error .tooLong := by
  intro path
  have hpath : path = overlongPath := by decide +kernel
  refine ⟨⟨by decide, by decide, by decide⟩, hpath ▸ allLoad_overlong, ?_, ?_⟩
  · rw [hpath]
    rintro ⟨q, hq, hcircle⟩
    rcases Relation.ReflTransGen.cases_head hq with rfl | ⟨r, hr, -⟩
    · obtain ⟨r, hr, -⟩ := Relation.TransGen.head'_iff.1 hcircle
      exact not_extends_overlong r hr
    · exact not_extends_overlong r hr
  · change (resolve overlong [] path).result = .error .tooLong
    rw [hpath]
    exact resolve_overlong

end Project
end ViewAtlas
