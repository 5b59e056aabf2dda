import ViewAtlas.Proofs.File.Spelling
import ViewAtlas.Proofs.Project.Failing
/-!
# Configurations that extend others

A configuration names what it extends, and each name is looked up on the disk (`extends_iff`).  Where all configurations
that are reached are loaded with settings of the right kind, one that is new to the chain is resolved by extending what
its bases say with what it says itself (`resolve_eq`).  That fails for a chain that comes back to itself and for a base
that cannot be looked up, and for nothing else (`resolve_error_cases`); where it does not fail, neither is met
(`resolve_ok_iff`).
-/
namespace ViewAtlas
namespace Project

open File (Disk Path Place Spells)
open Json (Value)

variable {d : Disk} {chain : List Path} {path p q : Path} {v : Value}

/-! ## The names of bases -/

/-- The names of what a configuration extends, in order. -/
def baseTexts (v : Value) : List Text :=
  match v.field "extends" with
  | .text t => if t = [] then [] else [t]
  | .list l => l.filterMap textOf?
  | _ => []

theorem map_filterMap_textOf? : ∀ {l : List Value}, (∀ x ∈ l, ∃ t, x = .text t) → (l.filterMap textOf?).map .text = l
  | [], _ => rfl
  | x :: l, h => by
    obtain ⟨⟨t, rfl⟩, hl⟩ := List.forall_mem_cons.1 h
    rw [List.filterMap_cons_some (show textOf? (.text t) = some t from rfl), List.map_cons, map_filterMap_textOf? hl]

theorem IsWellTyped.baseNames_eq (h : IsWellTyped v) : Project.baseNames v = .ok ((baseTexts v).map .text) := by
  unfold Project.baseNames baseTexts
  rcases h.bases with ⟨t, ht⟩ | hnone | ⟨l, hl, htexts⟩
  · rw [ht]
    dsimp only
    split <;> rfl
  · rw [hnone]
    rfl
  · rw [hl]
    dsimp only
    rw [map_filterMap_textOf? htexts]
    cases l <;> rfl

theorem extends_iff (hload : load d p.text = .ok v) (htyped : IsWellTyped v) :
    Extends d p q ↔ ∃ t ∈ baseTexts v, basePath? d p.folder t = .ok (some q) := by
  constructor
  · rintro ⟨v', names, t, hv', hnames, ht, hq⟩
    cases hload.symm.trans hv'
    cases htyped.baseNames_eq.symm.trans hnames
    obtain ⟨t', ht', heq⟩ := List.mem_map.1 ht
    cases heq
    exact ⟨t, ht', hq⟩
  · rintro ⟨t, ht, hq⟩
    exact ⟨v, _, t, hload, htyped.baseNames_eq, List.mem_map.2 ⟨t, ht, rfl⟩, hq⟩

theorem MeetsTooLong.of_mem {t : Text} (hload : load d p.text = .ok v) (htyped : IsWellTyped v) (ht : t ∈ baseTexts v)
    (hlong : IsTooLongFor d p.folder t) : MeetsTooLong d p :=
  ⟨p, v, _, t, .refl, hload, htyped.baseNames_eq, List.mem_map.2 ⟨t, ht, rfl⟩, hlong⟩

/-- The configuration that is found by a name, if one is. -/
def foundBase? (d : Disk) (p : Path) (t : Text) : Option Path :=
  match basePath? d p.folder t with
  | .ok q => q
  | .error _ => none

/-- The configurations that one extends, in order. -/
def basesOf (d : Disk) (p : Path) (v : Value) : List Path := (baseTexts v).filterMap (foundBase? d p)

/-! ## Where bases are found -/

/-- **The path spells a file of the disk**, and leads to it. -/
def IsFound (d : Disk) (p : Path) : Prop := ∃ a, d.locate p.text = .ok a ∧ a.entry.isFile = true ∧ Spells p a

theorem IsFound.mem_filePaths (h : IsFound d p) : p ∈ d.filePaths := by
  obtain ⟨a, ha, hfile, hp⟩ := h
  exact hp.mem_filePaths (.of_locate ha) hfile

theorem IsFound.folder (hd : d.IsReal) (h : IsFound d p) : p.folder.IsProper := by
  obtain ⟨a, ha, -, hp⟩ := h
  have hproper := hp.isProper hd (.of_locate ha)
  exact ⟨hproper.1, hproper.2.folder⟩

theorem isFound_of_basePath? (hd : d.IsReal) {folder : Path} {t : Text} (hfolder : folder.IsProper)
    (h : basePath? d folder t = .ok (some q)) : IsFound d q := by
  obtain ⟨c, hc, hfile, rfl⟩ := basePath?_eq_some h
  have hproper := isProper_of_mem_basePaths hfolder hc
  obtain ⟨a, ha, hfile⟩ := File.exists_locate_of_isFile hfile
  exact ⟨a, File.locate_normal hd hproper ha, hfile, File.spells_normal hproper.1 hproper.2 ha⟩

theorem IsFound.of_extends (hd : d.IsReal) (h : IsFound d p) (hpq : Extends d p q) : IsFound d q := by
  obtain ⟨_, _, t, _, _, _, hq⟩ := hpq
  exact isFound_of_basePath? hd (h.folder hd) hq

theorem exists_file_of_load {path : Text} (h : load d path = .ok v) :
    ∃ a, d.locate path = .ok a ∧ a.entry.isFile = true := by
  have hread : ∃ s, d.read path = .ok s := by
    cases hr : d.read path with
    | ok s => exact ⟨s, rfl⟩
    | error why =>
      unfold load at h
      rw [hr] at h
      rcases why with (_ | _ | _ | _) | _ | _ <;> cases h
  obtain ⟨s, hs⟩ := hread
  unfold Disk.read at hs
  split at hs
  · cases hs
  · rename_i a ha
    split at hs
    · cases hs
    · rename_i octets hoctets
      exact ⟨a, ha, by rw [hoctets]; rfl⟩

theorem isFound_absolute (hd : d.IsReal) {c : Text} (h : load d (d.absolute c).text = .ok v) :
    IsFound d (d.absolute c) := by
  obtain ⟨a, ha, hfile⟩ := exists_file_of_load h
  exact ⟨a, ha, hfile, File.spells_absolute hd ha⟩

/-! ## How a configuration is resolved -/

/-- **All configurations that are reached are loaded**, with settings of the right kind. -/
def AllLoad (d : Disk) (p : Path) : Prop := ∀ q, Reaches d p q → ∃ v, load d q.text = .ok v ∧ IsWellTyped v

theorem AllLoad.of_extends (h : AllLoad d p) (hpq : Extends d p q) : AllLoad d q := fun r hr => h r (.head hpq hr)

def extendBy (d : Disk) (chain : List Path) (path : Path) (s : Settings) (t : Text) : Noted Failure Settings :=
  match basePath? d path.folder t with
  | .error why => .fail why
  | .ok none => (Noted.note (.baseUnresolved t path.text)).andThen fun _ => .done s
  | .ok (some base) => (resolve d (chain ++ [path]) base).andThen fun u => .done (u.before s)

/-- **How a configuration is resolved** that is not in the chain: its bases one after the other, then its own settings
before theirs. -/
theorem resolve_eq (hnew : path ∉ chain) (hp : path ∈ d.filePaths) (hload : load d path.text = .ok v)
    (htyped : IsWellTyped v) {own : Settings} (hown : ownSettings path.folder v = .ok own) :
    resolve d chain path =
      ((baseTexts v).foldlM (extendBy d chain path) Settings.none).andThen fun s => .done (own.before s) := by
  rw [resolve, dif_neg hnew, hload]
  change (if _hp : path ∈ d.filePaths then _ else _) = _
  rw [dif_pos hp, htyped.baseNames_eq, hown]
  change Noted.andThen (((baseTexts v).map Value.text).foldlM _ Settings.none) _ = _
  rw [List.foldlM_map]
  rfl

theorem resolve_of_isTooLongFor (hnew : path ∉ chain) (hp : path ∈ d.filePaths) (hload : load d path.text = .ok v)
    (htyped : IsWellTyped v) {t : Text} {ts : List Text} (hnames : baseTexts v = t :: ts)
    (hlong : IsTooLongFor d path.folder t) : (resolve d chain path).result = .error .tooLong := by
  obtain ⟨own, hown, -⟩ := htyped.ownSettings path.folder
  have hstep : extendBy d chain path Settings.none t = .fail .tooLong := by
    rw [extendBy, basePath?_eq_error_iff.2 ⟨rfl, hlong⟩]
  rw [resolve_eq hnew hp hload htyped hown, hnames, List.foldlM_cons, hstep]
  rfl

theorem result_step_ok {ε α β : Type} {f : β → α → Noted ε β} {a : α} : ∀ {l : List α} {b c : β}, a ∈ l →
    (l.foldlM f b).result = .ok c → ∃ x y, (f x a).result = .ok y
  | e :: l, b, c, ha, h => by
    obtain ⟨x, hx, hl⟩ := Noted.result_foldlM_cons.1 h
    rcases List.mem_cons.1 ha with rfl | ha
    · exact ⟨b, x, hx⟩
    · exact result_step_ok ha hl

/-! ## Circles -/

/-- **A configuration is circular** when one that it reaches leads back to itself. -/
def IsCircular (d : Disk) (p : Path) : Prop := ∃ q, Reaches d p q ∧ Relation.TransGen (Extends d) q q

theorem transGen_of_isChain {α : Type} {R : α → α → Prop} : ∀ {l : List α} {a b : α},
    (a :: (l ++ [b])).IsChain R → Relation.TransGen R a b
  | [], _, _, h => .single (List.isChain_cons_cons.1 h).1
  | _ :: _, _, _, h => .head (List.isChain_cons_cons.1 h).1 (transGen_of_isChain (List.isChain_cons_cons.1 h).2)

theorem isCircular_of_isChain {front : List Path} (h : (front ++ [q]).IsChain (Extends d)) (hq : q ∈ front)
    (hp : [p] <+: front ++ [q]) : IsCircular d p := by
  obtain ⟨l, m, rfl⟩ := List.append_of_mem hq
  rw [List.append_assoc, List.cons_append] at h hp
  refine ⟨q, ?_, transGen_of_isChain (List.isChain_append.1 h).2.1⟩
  cases l with
  | nil =>
    obtain ⟨_, heq⟩ := hp
    rw [(List.cons.inj heq).1]
  | cons r l =>
    obtain ⟨_, heq⟩ := hp
    obtain rfl : p = r := (List.cons.inj heq).1
    have hsplit : p :: l ++ q :: (m ++ [q]) = (p :: (l ++ [q])) ++ (m ++ [q]) := by simp
    rw [hsplit] at h
    exact (transGen_of_isChain (List.isChain_append.1 h).1).to_reflTransGen

/-- **The two ways in which resolving fails** are a chain of extended configurations that comes back to one of them, which
the failure tells, and a base that cannot be looked up. -/
theorem resolve_error_cases (hd : d.IsReal) {chain : List Path} {path : Path} {e : Failure} (hp : IsFound d path)
    (hall : AllLoad d path) (hchain : (chain ++ [path]).IsChain (Extends d))
    (h : (resolve d chain path).result = .error e) :
    (∃ front q, e = .circular ((front ++ [q]).map Path.text) ∧ q ∈ front ∧ (front ++ [q]).IsChain (Extends d) ∧
      chain ++ [path] <+: front ++ [q]) ∨ (e = .tooLong ∧ MeetsTooLong d path) := by
  by_cases hc : path ∈ chain
  · rw [resolve, dif_pos hc] at h
    cases h
    exact .inl ⟨chain, path, rfl, hc, hchain, List.prefix_refl _⟩
  · -- the settings of the configuration itself are of the right kind, so a base has failed
    obtain ⟨v, hload, htyped⟩ := hall path .refl
    obtain ⟨own, hown, -⟩ := htyped.ownSettings path.folder
    have hfile := hp.mem_filePaths
    rw [resolve_eq hc hfile hload htyped hown] at h
    rcases result_andThen_error h with h | ⟨_, -, h⟩
    · obtain ⟨t, ht, s, h⟩ := result_foldlM_error h
      unfold extendBy at h
      split at h
      · rename_i why hwhy
        cases h
        obtain ⟨rfl, hlong⟩ := basePath?_eq_error_iff.1 hwhy
        exact .inr ⟨rfl, .of_mem hload htyped ht hlong⟩
      · cases h
      · rename_i base hbase
        have hextends := (extends_iff hload htyped).2 ⟨t, ht, hbase⟩
        rcases result_andThen_error h with h | ⟨_, -, h⟩
        · have hlonger : (chain ++ [path] ++ [base]).IsChain (Extends d) := by
            refine List.isChain_append.2 ⟨hchain, .singleton _, ?_⟩
            simpa using hextends
          rcases resolve_error_cases hd (hp.of_extends hd hextends) (hall.of_extends hextends) hlonger h with
            ⟨front, q, he, hq, hfront, hprefix⟩ | ⟨he, hmeets⟩
          · exact .inl ⟨front, q, he, hq, hfront, (List.prefix_append _ _).trans hprefix⟩
          · exact .inr ⟨he, hmeets.of_reaches (.single hextends)⟩
        · cases h
    · cases h
termination_by remaining d chain
decreasing_by exact remaining_append hfile hc

theorem extendBy_ok_of_resolve_ok {s : Settings} {t : Text} (hp : IsFound d p) (hload : load d p.text = .ok v)
    (htyped : IsWellTyped v) (h : (resolve d chain p).result = .ok s) (ht : t ∈ baseTexts v) :
    p ∉ chain ∧ ∃ x y, (extendBy d chain p x t).result = .ok y := by
  by_cases hc : p ∈ chain
  · rw [resolve, dif_pos hc] at h
    cases h
  · obtain ⟨own, hown, -⟩ := htyped.ownSettings p.folder
    rw [resolve_eq hc hp.mem_filePaths hload htyped hown] at h
    obtain ⟨x, hx, -⟩ := Noted.result_andThen_ok_iff.1 h
    exact ⟨hc, result_step_ok ht hx⟩

theorem resolve_ok_of_extends {s : Settings} (hp : IsFound d p) (hall : AllLoad d p)
    (h : (resolve d chain p).result = .ok s) (hpq : Extends d p q) :
    p ∉ chain ∧ ∃ u, (resolve d (chain ++ [p]) q).result = .ok u := by
  obtain ⟨v, hload, htyped⟩ := hall p .refl
  obtain ⟨t, ht, hbase⟩ := (extends_iff hload htyped).1 hpq
  obtain ⟨hc, x, y, hstep⟩ := extendBy_ok_of_resolve_ok hp hload htyped h ht
  unfold extendBy at hstep
  rw [hbase] at hstep
  obtain ⟨u, hu, -⟩ := Noted.result_andThen_ok_iff.1 hstep
  exact ⟨hc, u, hu⟩

theorem resolve_ok_of_reaches (hd : d.IsReal) (hpq : Reaches d p q) : ∀ {chain : List Path} {s : Settings},
    IsFound d p → AllLoad d p → (resolve d chain p).result = .ok s →
      IsFound d q ∧ AllLoad d q ∧ ∃ chain' u, chain ⊆ chain' ∧ (resolve d chain' q).result = .ok u := by
  induction hpq using Relation.ReflTransGen.head_induction_on with
  | refl => exact fun hp hall h => ⟨hp, hall, _, _, List.Subset.refl _, h⟩
  | head hstep _ ih =>
    intro chain s hp hall h
    obtain ⟨-, u, hu⟩ := resolve_ok_of_extends hp hall h hstep
    obtain ⟨hfound, hload, chain', w, hsub, hw⟩ := ih (hp.of_extends hd hstep) (hall.of_extends hstep) hu
    exact ⟨hfound, hload, chain', w, List.Subset.trans (List.subset_append_left _ _) hsub, hw⟩

theorem not_isCircular_of_resolve_ok (hd : d.IsReal) {s : Settings} (hp : IsFound d p) (hall : AllLoad d p)
    (h : (resolve d chain p).result = .ok s) : ¬ IsCircular d p := by
  rintro ⟨q, hpq, hcircle⟩
  obtain ⟨hfound, hload, chain', u, -, hu⟩ := resolve_ok_of_reaches hd hpq hp hall h
  obtain ⟨r, hqr, hrq⟩ := Relation.TransGen.head'_iff.1 hcircle
  obtain ⟨-, w, hw⟩ := resolve_ok_of_extends hfound hload hu hqr
  obtain ⟨-, -, chain'', x, hsub, hx⟩ :=
    resolve_ok_of_reaches hd hrq (hfound.of_extends hd hqr) (hload.of_extends hqr) hw
  -- the second time around, `q` stands in the chain already
  have hmem : q ∈ chain'' := hsub (by simp)
  rw [resolve, dif_pos hmem] at hx
  cases hx

theorem not_meetsTooLong_of_resolve_ok (hd : d.IsReal) {s : Settings} (hp : IsFound d p) (hall : AllLoad d p)
    (h : (resolve d chain p).result = .ok s) : ¬ MeetsTooLong d p := by
  rintro ⟨q, v, names, t, hpq, hload, hnames, ht, hlong⟩
  obtain ⟨hfound, hloads, chain', u, -, hu⟩ := resolve_ok_of_reaches hd hpq hp hall h
  obtain ⟨v', hload', htyped⟩ := hloads q .refl
  cases hload.symm.trans hload'
  cases htyped.baseNames_eq.symm.trans hnames
  obtain ⟨t', ht', heq⟩ := List.mem_map.1 ht
  cases heq
  obtain ⟨-, x, y, hstep⟩ := extendBy_ok_of_resolve_ok hfound hload htyped hu ht'
  rw [extendBy, basePath?_eq_error_iff.2 ⟨rfl, hlong⟩] at hstep
  cases hstep

/-- **A configuration is resolved** unless it is circular or meets a base that cannot be looked up. -/
theorem resolve_ok_iff (hd : d.IsReal) (hp : IsFound d p) (hall : AllLoad d p) :
    (∃ s, (resolve d [] p).result = .ok s) ↔ ¬ IsCircular d p ∧ ¬ MeetsTooLong d p := by
  constructor
  · rintro ⟨s, h⟩
    exact ⟨not_isCircular_of_resolve_ok hd hp hall h, not_meetsTooLong_of_resolve_ok hd hp hall h⟩
  · rintro ⟨hnone, hshort⟩
    cases h : (resolve d [] p).result with
    | ok s => exact ⟨s, rfl⟩
    | error e =>
      rcases resolve_error_cases hd hp hall (.singleton _) h with ⟨front, q, -, hq, hfront, hprefix⟩ | ⟨-, hmeets⟩
      · exact absurd (isCircular_of_isChain hfront hq hprefix) hnone
      · exact absurd hmeets hshort

/-! ## Configurations that are looked at -/

def areTexts : Value → Bool
  | .null => true
  | .list l => l.all fun x => (textOf? x).isSome
  | _ => false

theorem isTexts_of_areTexts (h : areTexts v = true) : IsTexts v := by
  cases v with
  | null => exact .inl rfl
  | list l =>
    refine .inr ⟨l, rfl, fun x hx => ?_⟩
    have hsome := List.all_eq_true.1 h x hx
    cases x with
    | text t => exact ⟨t, rfl⟩
    | _ => cases hsome
  | _ => cases h

def hasRightKind (v : Value) : Bool :=
  ((textOf? (v.field "extends")).isSome || areTexts (v.field "extends")) && areTexts (v.field "files") &&
    areTexts (v.field "include") && areTexts (v.field "exclude")

theorem isWellTyped_of_hasRightKind (h : hasRightKind v = true) : IsWellTyped v := by
  simp only [hasRightKind, Bool.and_eq_true, Bool.or_eq_true] at h
  obtain ⟨⟨⟨hbases, hfiles⟩, hincludes⟩, hexcludes⟩ := h
  refine ⟨hbases.imp (fun htext => ?_) isTexts_of_areTexts, isTexts_of_areTexts hfiles, isTexts_of_areTexts hincludes,
    isTexts_of_areTexts hexcludes⟩
  cases hv : v.field "extends" with
  | text t => exact ⟨t, rfl⟩
  | _ =>
    rw [hv] at htext
    cases htext

/-- Whether a configuration is loaded, and all that it extends can be looked up and is among some paths. -/
def leadsInto (d : Disk) (paths : List Path) (p : Path) : Bool :=
  match load d p.text with
  | .ok v => hasRightKind v && (baseTexts v).all fun t =>
      match basePath? d p.folder t with
      | .ok found => found.all paths.contains
      | .error _ => false
  | .error _ => false

theorem of_leadsInto {paths : List Path} (h : leadsInto d paths p = true) :
    (∃ v, load d p.text = .ok v ∧ IsWellTyped v) ∧ ∀ q, Extends d p q → q ∈ paths := by
  unfold leadsInto at h
  split at h
  · rename_i v hload
    rw [Bool.and_eq_true] at h
    have htyped := isWellTyped_of_hasRightKind h.1
    refine ⟨⟨v, hload, htyped⟩, fun q hq => ?_⟩
    obtain ⟨t, ht, hbase⟩ := (extends_iff hload htyped).1 hq
    have hall := List.all_eq_true.1 h.2 t ht
    rw [hbase] at hall
    simpa using hall
  · cases h

theorem not_isTooLongFor_of_leadsInto {paths : List Path} {names : List Value} {t : Text}
    (h : leadsInto d paths p = true) (hload : load d p.text = .ok v) (hnames : baseNames v = .ok names)
    (ht : .text t ∈ names) : ¬ IsTooLongFor d p.folder t := by
  intro hlong
  rw [leadsInto, hload, Bool.and_eq_true] at h
  cases (isWellTyped_of_hasRightKind h.1).baseNames_eq.symm.trans hnames
  obtain ⟨t', ht', heq⟩ := List.mem_map.1 ht
  cases heq
  have hall := List.all_eq_true.1 h.2 t ht'
  rw [basePath?_eq_error_iff.2 ⟨rfl, hlong⟩] at hall
  cases hall

/-- **Where all that some paths extend is among them**, all is loaded and no base is met that cannot be looked up. -/
theorem of_all_leadsInto {paths : List Path} (h : paths.all (leadsInto d paths) = true) (hp : p ∈ paths) :
    AllLoad d p ∧ ¬ MeetsTooLong d p := by
  have hreaches : ∀ q, Reaches d p q → leadsInto d paths q = true := by
    intro q hpq
    refine List.all_eq_true.1 h q ?_
    induction hpq with
    | refl => exact hp
    | tail _ hstep ih => exact (of_leadsInto (List.all_eq_true.1 h _ ih)).2 _ hstep
  refine ⟨fun q hpq => (of_leadsInto (hreaches q hpq)).1, ?_⟩
  rintro ⟨q, v, names, t, hpq, hload, hnames, ht, hlong⟩
  exact not_isTooLongFor_of_leadsInto (hreaches q hpq) hload hnames ht hlong

def descends (d : Disk) : List Path → Bool
  | [] => true
  | p :: rest => leadsInto d rest p && descends d rest

/-- **Where bases stand behind what extends them**, all is loaded, nothing is circular, and no base is met that cannot be
looked up. -/
theorem of_descends : ∀ {paths : List Path} {p : Path}, descends d paths = true → p ∈ paths →
    AllLoad d p ∧ ¬ IsCircular d p ∧ ¬ MeetsTooLong d p
  | p :: rest, q, h, hq => by
    rw [descends, Bool.and_eq_true] at h
    rcases List.mem_cons.1 hq with rfl | hq
    case inr => exact of_descends h.2 hq
    obtain ⟨hload, hbases⟩ := of_leadsInto h.1
    refine ⟨?_, ?_, ?_⟩
    · intro r hr
      rcases Relation.ReflTransGen.cases_head hr with rfl | ⟨s, hs, hsr⟩
      · exact hload
      · exact (of_descends h.2 (hbases s hs)).1 r hsr
    · rintro ⟨r, hr, hcircle⟩
      rcases Relation.ReflTransGen.cases_head hr with rfl | ⟨s, hs, hsr⟩
      · obtain ⟨s, hs, hsr⟩ := Relation.TransGen.head'_iff.1 hcircle
        exact (of_descends h.2 (hbases s hs)).2.1 ⟨q, hsr, hcircle⟩
      · exact (of_descends h.2 (hbases s hs)).2.1 ⟨r, hsr, hcircle⟩
    · rintro ⟨r, v, names, t, hr, hv, hnames, ht, hlong⟩
      rcases Relation.ReflTransGen.cases_head hr with rfl | ⟨s, hs, hsr⟩
      · exact not_isTooLongFor_of_leadsInto h.1 hv hnames ht hlong
      · exact (of_descends h.2 (hbases s hs)).2.2 ⟨r, v, names, t, hsr, hv, hnames, ht, hlong⟩

/-! ## A base that cannot be looked up -/

def tooLongBase : Text := "./".toList ++ tooLongName

/-- A disk with one configuration, which extends another by a name that is too long. -/
def overlong : Disk := alone (stating "extends".toList [tooLongBase])

def overlongPath : Path := ⟨1, ["p".toList, "t.json".toList]⟩

theorem load_overlong :
    load overlong overlongPath.text = .ok (.record [("extends".toList, .list ([tooLongBase].map .text))]) :=
  load_stating "extends".toList [tooLongBase]

theorem isWellTyped_overlong : IsWellTyped (.record [("extends".toList, .list ([tooLongBase].map .text))]) :=
  ⟨.inr (.inr ⟨_, rfl, fun _ hx => ⟨tooLongBase, List.mem_singleton.1 hx⟩⟩), .inl rfl, .inl rfl, .inl rfl⟩

theorem isTooLongFor_overlong : IsTooLongFor overlong overlongPath.folder tooLongBase :=
  ⟨[], overlongPath.folder.join (.ofText tooLongBase), _, rfl, by decide +kernel, fun _ h => nomatch h⟩

theorem not_extends_overlong (q : Path) : ¬ Extends overlong overlongPath q := by
  intro hq
  obtain ⟨t, ht, hbase⟩ := (extends_iff load_overlong isWellTyped_overlong).1 hq
  obtain rfl := List.mem_singleton.1 ht
  rw [basePath?_eq_error_iff.2 ⟨rfl, isTooLongFor_overlong⟩] at hbase
  cases hbase

theorem allLoad_overlong : AllLoad overlong overlongPath := by
  intro q hq
  rcases Relation.ReflTransGen.cases_head hq with rfl | ⟨r, hr, -⟩
  · exact ⟨_, load_overlong, isWellTyped_overlong⟩
  · exact absurd hr (not_extends_overlong r)

theorem resolve_overlong : (resolve overlong [] overlongPath).result = .error .tooLong :=
  resolve_of_isTooLongFor (by simp) (by decide +kernel) load_overlong isWellTyped_overlong rfl isTooLongFor_overlong

end Project
end ViewAtlas
