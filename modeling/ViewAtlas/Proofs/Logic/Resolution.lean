import ViewAtlas.Proofs.Logic.StaticRoutes
import ViewAtlas.Proofs.Text.LowerCase
/-!
# What a call is resolved to

A call that navigates leads to the first route that takes its arguments, with these as its data, or nowhere; any other
call leads to the back end or nowhere, without data (`resolveCall_reaches`).  So a target tells how much data goes with it.
The word of the back end is looked for in lower case.  That finds it whatever its case is, but not where a capital sigma
stands: its lower case hangs on its neighbours (`resolveCall_sigma`).
-/
namespace ViewAtlas
namespace Logic

open Script (Tree)

/-- **What a navigation states**: its one argument is an array, the base is its first element without quotes and one
leading slash, and the parameters are the others. -/
def States (t : Tree) (base : Text) (params : List Text) : Prop :=
  ∃ array first rest, t.callArguments = [array] ∧ array.kind = .array ∧ array.children = first :: rest ∧
    base = Route.withoutSlash (Script.stripQuotes first.text) ∧ params = rest.map Tree.text

/-- **A call that leads to a route**: the first one that takes what the call states. -/
def Reaches (s : Setting) (t : Tree) (c : Call) : Prop :=
  ∃ base params before route after, States t base params ∧ s.routes = before ++ route :: after ∧
    Route.Takes s.static base params route ∧ (∀ r ∈ before, ¬ Route.Takes s.static base params r) ∧
    c.called = '/' :: route ∧ c.data = params

/-- **A call that leads nowhere**: no route takes what it states. -/
def Misses (s : Setting) (t : Tree) (c : Call) : Prop :=
  (∀ base params, States t base params → ∀ r ∈ s.routes, ¬ Route.Takes s.static base params r) ∧
    c.called = [] ∧ c.data = []

section
variable {s : Setting} {t : Tree}

theorem States.unique {base base' : Text} {params params' : List Text} (h : States t base params)
    (h' : States t base' params') : base = base' ∧ params = params' := by
  obtain ⟨array, first, rest, hargs, -, hchildren, rfl, rfl⟩ := h
  obtain ⟨array', first', rest', hargs', -, hchildren', rfl, rfl⟩ := h'
  obtain rfl := List.singleton_inj.1 (hargs.symm.trans hargs')
  obtain ⟨rfl, rfl⟩ := List.cons.inj (hchildren.symm.trans hchildren')
  exact ⟨rfl, rfl⟩

theorem navigationTarget_eq (s : Setting) (t : Tree) :
    (∃ base params, States t (Route.withoutSlash base) params ∧
        navigationTarget s t.callArguments = Route.resolve s.static s.routes base params) ∨
      (∀ base params, ¬ States t base params) ∧ (navigationTarget s t.callArguments).1 = .unknown := by
  unfold navigationTarget
  split
  · rename_i array hargs
    split
    · rename_i hnil
      refine .inr ⟨?_, rfl⟩
      rintro base params ⟨array', first, rest, hargs', hkind, hchildren, -, -⟩
      obtain rfl := List.singleton_inj.1 (hargs.symm.trans hargs')
      rw [Tree.elements, if_pos hkind, hchildren] at hnil
      cases hnil
    · rename_i first rest hcons
      unfold Tree.elements at hcons
      split at hcons
      · rename_i hkind
        exact .inl ⟨_, _, ⟨array, first, rest, hargs, hkind, hcons, rfl, rfl⟩, rfl⟩
      · cases hcons
  · rename_i hargs
    refine .inr ⟨?_, rfl⟩
    rintro base params ⟨array, first, rest, hargs', -⟩
    exact hargs array hargs'

theorem navigationTarget_reaches {c : Call} (hcalled : c.called = (navigationTarget s t.callArguments).1.called)
    (hdata : c.data = (navigationTarget s t.callArguments).1.data) : Reaches s t c ∨ Misses s t c := by
  rcases navigationTarget_eq s t with ⟨base, params, hstates, htarget⟩ | ⟨hnone, htarget⟩
  · rw [htarget] at hcalled hdata
    rcases Route.resolve_takes s.static s.routes base params with
      ⟨before, route, after, hroutes, htakes, hfirst, hresolve⟩ | ⟨hno, hresolve⟩
    · rw [hresolve] at hcalled hdata
      exact .inl ⟨_, params, before, route, after, hstates, hroutes, htakes, hfirst, hcalled, hdata⟩
    · rw [hresolve] at hcalled hdata
      refine .inr ⟨fun base' params' hstates' => ?_, hcalled, hdata⟩
      obtain ⟨rfl, rfl⟩ := hstates.unique hstates'
      exact hno
  · rw [htarget] at hcalled hdata
    exact .inr ⟨fun base params hstates => absurd hstates (hnone base params), hcalled, hdata⟩

theorem resolveCall_caller (s : Setting) (t : Tree) : (resolveCall s t).1.caller = t.callee := by
  unfold resolveCall
  dsimp only
  split
  · rfl
  · split <;> rfl

theorem resolveCall_navigation (h : s.words.navigation <:+: t.callee) :
    Reaches s t (resolveCall s t).1 ∨ Misses s t (resolveCall s t).1 := by
  have hnav : s.words.isNavigation t.callee = true := Text.hasPiece_iff.2 h
  unfold resolveCall
  dsimp only
  rw [if_pos hnav]
  exact navigationTarget_reaches rfl rfl

theorem resolveCall_other (h : ¬ s.words.navigation <:+: t.callee) :
    (resolveCall s t).1 = ⟨t.callee, if s.words.isBackend t.callee then backendRoute else [], []⟩ := by
  have hnav : ¬ s.words.isNavigation t.callee = true := fun hn => h (Text.hasPiece_iff.1 hn)
  unfold resolveCall
  dsimp only
  rw [if_neg hnav]
  split <;> rfl

end

/-- **What a resolved call says.**  It has the text of its callee, and as much data as its target has parameter
segments.  A navigation leads to the first route that takes it, with what it states as data, or nowhere.  Any other call
has no data, and leads to the back end just when the lower case of its callee holds that of the word for it, else
nowhere; where the callee is put into lower case character by character, that is when the callee holds the word but for
case. -/
theorem resolveCall_reaches (s : Setting) (t : Tree) :
    (resolveCall s t).1.caller = t.callee ∧
    (resolveCall s t).1.data.length = (Text.splitAt '/' (resolveCall s t).1.called).countP (·.head? = some ':') ∧
    (s.words.navigation <:+: t.callee → Reaches s t (resolveCall s t).1 ∨ Misses s t (resolveCall s t).1) ∧
    (¬ s.words.navigation <:+: t.callee → (resolveCall s t).1.data = [] ∧
      ((resolveCall s t).1.called = backendRoute ∨ (resolveCall s t).1.called = []) ∧
      ((resolveCall s t).1.called = backendRoute ↔ Text.lower s.words.backend <:+: Text.lower t.callee) ∧
      (Text.CasedApart t.callee →
        ((resolveCall s t).1.called = backendRoute ↔ Text.HoldsUncased s.words.backend t.callee))) ∧
    ∀ u, (resolveCall s u).1.caller = (resolveCall s t).1.caller →
      (resolveCall s u).1.called = (resolveCall s t).1.called →
        (resolveCall s u).1.data.length = (resolveCall s t).1.data.length := by
  refine ⟨resolveCall_caller s t, ?_, resolveCall_navigation, fun h => ?_, fun u _ hcalled => ?_⟩
  · rw [resolveCall_data, List.countP_eq_length_filter]
    rfl
  · have hback : s.words.isBackend t.callee = true ↔ Text.lower s.words.backend <:+: Text.lower t.callee :=
      Text.hasPiece_iff
    have hlower : (resolveCall s t).1.called = backendRoute ↔
        Text.lower s.words.backend <:+: Text.lower t.callee := by
      rw [resolveCall_other h, ← hback]
      dsimp only
      split
      · rename_i hb
        exact ⟨fun _ => hb, fun _ => rfl⟩
      · rename_i hb
        exact ⟨fun hc => absurd hc (by decide), fun hb' => absurd hb' hb⟩
    refine ⟨by rw [resolveCall_other h], ?_, hlower, fun hcase => hlower.trans (Text.lower_infix_iff hcase)⟩
    rw [resolveCall_other h]
    dsimp only
    split
    · exact .inl rfl
    · exact .inr rfl
  · rw [resolveCall_data, resolveCall_data, hcalled]

/-- A call of a function without arguments. -/
def plainCall (callee : String) : Tree :=
  .node .part .call [] [.node .callee .member callee.toList [], .node .arguments .arguments [] []]

theorem resolveCall_reaches_moving :
    let s : Setting := ⟨movingRoutes, .default, true⟩
    (s.words.navigation <:+: (navigation ["'/h'", "1"]).callee ∧
      (Reaches s (navigation ["'/h'", "1"]) (resolveCall s (navigation ["'/h'", "1"])).1 ∨
        Misses s (navigation ["'/h'", "1"]) (resolveCall s (navigation ["'/h'", "1"])).1) ∧
      (resolveCall s (navigation ["'/h'", "1"])).1.called = "/h/:i".toList) ∧
    ¬ s.words.navigation <:+: (plainCall "this.itemSERVICE.save").callee ∧
      Text.CasedApart (plainCall "this.itemSERVICE.save").callee ∧
      (resolveCall s (plainCall "this.itemSERVICE.save")).1.called = backendRoute ∧
      Text.HoldsUncased s.words.backend (plainCall "this.itemSERVICE.save").callee := by
  have hnav : Words.default.navigation <:+: (navigation ["'/h'", "1"]).callee := by decide +kernel
  have hother : ¬ Words.default.navigation <:+: (plainCall "this.itemSERVICE.save").callee := by decide +kernel
  have hcase : Text.CasedApart (plainCall "this.itemSERVICE.save").callee := by decide +kernel
  have hcalled : (resolveCall ⟨movingRoutes, .default, true⟩ (plainCall "this.itemSERVICE.save")).1.called =
      backendRoute := by decide +kernel
  exact ⟨⟨hnav, (resolveCall_reaches _ _).2.2.1 hnav, by decide +kernel⟩, hother, hcase, hcalled,
    (((resolveCall_reaches _ _).2.2.2.1 hother).2.2.2 hcase).1 hcalled⟩

/-- **A capital sigma hides the word of the back end**, even where the callee holds the word as it is: in lower case the
word ends in a final sigma, the callee has a plain one there. -/
theorem resolveCall_sigma : ¬ ∀ (s : Setting) (t : Tree), ¬ s.words.navigation <:+: t.callee →
    s.words.backend <:+: t.callee → (resolveCall s t).1.called = backendRoute := by
  intro h
  have hcalled := h ⟨[], ⟨"navigate".toList, "ΟΔΟΣ".toList⟩, false⟩ (plainCall "this.ΟΔΟΣ.save") (by decide +kernel)
    (by decide +kernel)
  exact absurd hcalled (by decide +kernel)

end Logic
end ViewAtlas
