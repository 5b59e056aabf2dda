import ViewAtlas.Route.Navigation
/-!
# Which route takes a navigation

A route matches a navigation just when it takes it (`match?_of_takes`, `match?_eq_some`), and says then where it leads:
to its own path, with the parameters.  So a navigation leads to the first route that takes it, or nowhere when none does
(`resolve_takes`), and a target tells how many parameters go with it (`resolve_data`).
-/
namespace ViewAtlas
namespace Route

theorem parameterSegments_slash (route : Text) : parameterSegments ('/' :: route) = parameterSegments route := by
  unfold parameterSegments
  rw [Text.splitAt, if_pos rfl, List.filter_cons_of_neg (by simp)]

/-- **A route that takes a navigation** to a base with parameters: it begins with the base, and has as many parameter
segments as there are parameters, at least one; with static routes, it may also have none and be the base itself, when
there are no parameters. -/
def Takes (static : Bool) (base : Text) (params : List Text) (route : Text) : Prop :=
  base <+: route ∧
    (parameterSegments route ≠ [] ∧ params.length = (parameterSegments route).length ∨
      static = true ∧ parameterSegments route = [] ∧ params = [] ∧ route = base)

section
variable {static : Bool} {base route : Text} {params : List Text} {t : Target × List Notice}

theorem match?_of_takes (h : Takes static (withoutSlash base) params route) :
    ∃ notices, match? static base params route = some (⟨'/' :: route, params⟩, notices) ∧
      ∀ n ∈ notices, n.level = .debug := by
  obtain ⟨hstart, ⟨hsome, hlen⟩ | ⟨rfl, hnone, rfl, rfl⟩⟩ := h
  · have hprefix := List.isPrefixOf_iff_prefix.2 hstart
    exact ⟨[.targetResolved base params route], by simp [match?, hprefix, hsome, hlen], by simp [Notice.level]⟩
  · have hprefix := List.isPrefixOf_iff_prefix.2 (List.prefix_refl (withoutSlash base))
    exact ⟨[], by simp [match?, hprefix, hnone], by simp⟩

theorem match?_eq_none (h : ¬ Takes static (withoutSlash base) params route) :
    match? static base params route = none := by
  unfold match?
  dsimp only
  split
  · rfl
  · rename_i hstart
    rw [Bool.not_eq_true', Bool.not_eq_false, List.isPrefixOf_iff_prefix] at hstart
    rw [if_neg fun hseg => h ⟨hstart, .inl hseg⟩, if_neg]
    simp only [Bool.and_eq_true, List.isEmpty_iff, beq_iff_eq]
    rintro ⟨⟨⟨hstatic, hnone⟩, hparams⟩, hroute⟩
    exact h ⟨hstart, .inr ⟨hstatic, hnone, hparams, hroute⟩⟩

theorem match?_eq_some (h : match? static base params route = some t) :
    Takes static (withoutSlash base) params route ∧ t.1 = ⟨'/' :: route, params⟩ ∧ ∀ n ∈ t.2, n.level = .debug := by
  by_cases htakes : Takes static (withoutSlash base) params route
  · obtain ⟨notices, hmatch, hlevel⟩ := match?_of_takes htakes
    obtain rfl := Option.some.inj (h.symm.trans hmatch)
    exact ⟨htakes, rfl, hlevel⟩
  · rw [match?_eq_none htakes] at h
    cases h

end

section
variable (static : Bool) (routes : List Text) (base : Text) (params : List Text)

/-- **A navigation leads to the first route that takes it**, with its parameters, or nowhere when none does. -/
theorem resolve_takes :
    (∃ before route after, routes = before ++ route :: after ∧ Takes static (withoutSlash base) params route ∧
        (∀ r ∈ before, ¬ Takes static (withoutSlash base) params r) ∧
        (resolve static routes base params).1 = ⟨'/' :: route, params⟩) ∨
      (∀ r ∈ routes, ¬ Takes static (withoutSlash base) params r) ∧
        (resolve static routes base params).1 = .unknown := by
  have hnone : ∀ r, match? static base params r = none → ¬ Takes static (withoutSlash base) params r := fun r hr h => by
    obtain ⟨notices, hsome, -⟩ := match?_of_takes h
    rw [hr] at hsome
    cases hsome
  unfold resolve
  cases hfind : routes.findSome? (match? static base params) with
  | none => exact .inr ⟨fun r hr => hnone r (List.findSome?_eq_none_iff.1 hfind r hr), rfl⟩
  | some t =>
    obtain ⟨before, route, after, hroutes, hroute, hbefore⟩ := List.findSome?_eq_some_iff.1 hfind
    obtain ⟨htakes, htarget, -⟩ := match?_eq_some hroute
    exact .inl ⟨before, route, after, hroutes, htakes, fun r hr => hnone r (hbefore r hr), htarget⟩

theorem resolve_called : (resolve static routes base params).1.called = [] ∨
    ∃ r ∈ routes, (resolve static routes base params).1.called = '/' :: r := by
  rcases resolve_takes static routes base params with ⟨before, r, after, rfl, -, -, htarget⟩ | ⟨-, htarget⟩
  · exact .inr ⟨r, by simp, by rw [htarget]⟩
  · exact .inl (by rw [htarget]; rfl)

theorem resolve_data : (resolve static routes base params).1.data.length =
    (parameterSegments (resolve static routes base params).1.called).length := by
  rcases resolve_takes static routes base params with ⟨before, r, after, -, ⟨-, htakes⟩, -, htarget⟩ | ⟨-, htarget⟩
  · rw [htarget, parameterSegments_slash]
    rcases htakes with ⟨-, hlen⟩ | ⟨-, hnone, hparams, -⟩
    · exact hlen
    · rw [hnone, hparams]
  · rw [htarget]
    rfl

theorem level_resolve : ∀ n ∈ (resolve static routes base params).2, n.level = .debug := by
  unfold resolve
  cases h : routes.findSome? (match? static base params) with
  | none => exact fun _ hn => nomatch hn
  | some t =>
    obtain ⟨r, -, ht⟩ := List.exists_of_findSome?_eq_some h
    exact (match?_eq_some ht).2.2

end

end Route
end ViewAtlas
