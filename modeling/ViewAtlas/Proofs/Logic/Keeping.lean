import Mathlib.Data.List.MinMax
import ViewAtlas.Logic.Call
import ViewAtlas.Proofs.Script.Order
import ViewAtlas.Proofs.Script.Properties
/-!
# Which calls of a handler are kept

The table of a handler's calls has each key where it came first (`keys_keepAll`), and for it the first one of the calls
with the most data (`get?_keepAll`).  What came before adds nothing when it comes again (`keepAll_again`), so neither do
repeated statements.  `handlerCalls_firstLongest` says this of the calls of a body in document order.
-/
namespace ViewAtlas
namespace Logic

open Script (Tree Kind Role)

/-! ## The table of calls -/

def keepAll (calls : List Call) : Table Call := calls.foldl keep []

theorem keepAll_append (calls more : List Call) : keepAll (calls ++ more) = more.foldl keep (keepAll calls) :=
  List.foldl_append

theorem keepAll_concat (calls : List Call) (c : Call) : keepAll (calls ++ [c]) = keep (keepAll calls) c :=
  keepAll_append calls [c]

theorem keep_of_le {kept : Table Call} {c d : Call} (hget : kept.get? c.key = some d)
    (hlen : c.data.length ≤ d.data.length) : keep kept c = kept := by
  simp only [keep, hget, if_neg (Nat.not_lt.2 hlen)]

theorem keys_keep (kept : Table Call) (c : Call) :
    (keep kept c).keys = if c.key ∈ kept.keys then kept.keys else kept.keys ++ [c.key] := by
  have hset := Table.keys_set kept c.key c
  unfold keep
  cases hget : kept.get? c.key with
  | none => exact hset
  | some d =>
    have hmem : c.key ∈ kept.keys := by
      by_contra h
      rw [Table.get?_eq_none_iff.2 h] at hget
      cases hget
    rw [if_pos hmem] at hset ⊢
    dsimp only
    split
    · exact hset
    · rfl

/-- **Each key stands where it came first.** -/
theorem keys_keepAll (calls : List Call) : (keepAll calls).keys = (calls.map Call.key).eraseDups := by
  induction calls using List.reverseRecOn with
  | nil => rfl
  | append_singleton calls c ih =>
    rw [keepAll_concat, keys_keep, ih, List.map_append, List.map_singleton, eraseDups_concat]

theorem get?_keep_of_ne {kept : Table Call} {c : Call} {key : Text} (h : c.key ≠ key) :
    (keep kept c).get? key = kept.get? key := by
  unfold keep
  split
  · rw [Table.get?_set, if_neg h]
  · split
    · rw [Table.get?_set, if_neg h]
    · rfl

/-- **A key has the first one of its calls with the most data.** -/
theorem get?_keepAll (calls : List Call) (key : Text) :
    (keepAll calls).get? key = (calls.filter (·.key = key)).argmax (·.data.length) := by
  induction calls using List.reverseRecOn with
  | nil => rfl
  | append_singleton calls c ih =>
    rw [keepAll_concat, List.filter_append]
    by_cases hkey : c.key = key
    · subst hkey
      have hown : [c].filter (·.key = c.key) = [c] := List.filter_eq_self.2 (by simp)
      rw [hown, List.argmax_concat, ← ih]
      unfold keep
      cases hget : (keepAll calls).get? c.key with
      | none => rw [Table.get?_set, if_pos rfl]
      | some d =>
        dsimp only
        split
        · rw [Table.get?_set, if_pos rfl]
        · exact hget
    · have hother : [c].filter (·.key = key) = [] := List.filter_eq_nil_iff.2 (by simpa using hkey)
      rw [get?_keep_of_ne hkey, hother, List.append_nil, ih]

theorem nodup_keys_keepAll (calls : List Call) : (keepAll calls).keys.Nodup := by
  rw [keys_keepAll]
  exact nodup_eraseDups _

theorem mem_keepAll {calls : List Call} {e : Text × Call} (h : e ∈ keepAll calls) :
    e.1 = e.2.key ∧ (calls.filter (·.key = e.2.key)).argmax (·.data.length) = some e.2 := by
  have hget := Table.get?_of_mem (nodup_keys_keepAll calls) h
  rw [get?_keepAll] at hget
  have hkey : e.2.key = e.1 := by simpa using (List.mem_filter.1 (List.argmax_mem hget)).2
  exact ⟨hkey.symm, hkey ▸ hget⟩

theorem map_key_keepAll (calls : List Call) :
    ((keepAll calls).map (·.2)).map Call.key = (calls.map Call.key).eraseDups := by
  rw [List.map_map, ← keys_keepAll, Table.keys]
  exact List.map_congr_left fun e he => (mem_keepAll he).1.symm

/-! ## Saying again -/

theorem keep_keepAll_of_mem {calls : List Call} {c : Call} (h : c ∈ calls) :
    keep (keepAll calls) c = keepAll calls := by
  have hmem : c ∈ calls.filter (·.key = c.key) := List.mem_filter.2 ⟨h, decide_eq_true rfl⟩
  cases hget : (keepAll calls).get? c.key with
  | none =>
    rw [get?_keepAll, List.argmax_eq_none] at hget
    rw [hget] at hmem
    cases hmem
  | some d =>
    -- what is kept has the most data of all calls of its key, and this call is one of them
    have hfirst := hget
    rw [get?_keepAll] at hfirst
    exact keep_of_le hget (List.le_of_mem_argmax (f := fun e : Call => e.data.length) hmem hfirst)

theorem foldl_keep_of_mem {calls : List Call} : ∀ {again : List Call}, (∀ c ∈ again, c ∈ calls) →
    again.foldl keep (keepAll calls) = keepAll calls
  | [], _ => rfl
  | c :: again, h => by
    rw [List.foldl_cons, keep_keepAll_of_mem (h c (List.mem_cons_self ..))]
    exact foldl_keep_of_mem fun d hd => h d (List.mem_cons_of_mem _ hd)

theorem keepAll_again {calls again : List Call} (h : ∀ c ∈ again, c ∈ calls) (after : List Call) :
    keepAll (calls ++ (again ++ after)) = keepAll (calls ++ after) := by
  rw [← List.append_assoc, keepAll_append, keepAll_append calls again, foldl_keep_of_mem h, keepAll_append]

/-- **A list with repetitions of another**: some entries stand once more, each somewhere behind itself. -/
inductive Repeats {α : Type} (l : List α) : List α → Prop where
  | once : Repeats l l
  | again {before between after : List α} {a : α} (h : Repeats l (before ++ a :: (between ++ after))) :
      Repeats l (before ++ a :: (between ++ a :: after))

theorem Repeats.append {α : Type} {l : List α} {more : List α} (h : ∀ a ∈ more, a ∈ l) : Repeats l (l ++ more) := by
  induction more using List.reverseRecOn with
  | nil => rw [List.append_nil]; exact .once
  | append_singleton more a ih =>
    obtain ⟨before, between, hl⟩ := List.append_of_mem (h a (by simp))
    have hfirst : l ++ more = before ++ a :: ((between ++ more) ++ []) := by simp [hl]
    have hagain : l ++ (more ++ [a]) = before ++ a :: ((between ++ more) ++ [a]) := by simp [hl]
    rw [hagain]
    refine .again ?_
    rw [← hfirst]
    exact ih fun b hb => h b (List.mem_append_left _ hb)

theorem Repeats.replicate {α : Type} (l : List α) (n : Nat) : Repeats l (List.replicate (n + 1) l).flatten := by
  rw [List.replicate_succ, List.flatten_cons]
  refine .append fun a ha => ?_
  obtain ⟨m, hm, ha⟩ := List.mem_flatten.1 ha
  rwa [List.eq_of_mem_replicate hm] at ha

/-! ## The calls of a handler -/

def resolvedCalls (s : Setting) (body : Tree) : List Call := body.calls.map fun t => (resolveCall s t).1

variable (s : Setting)

theorem handlerCalls_eq (body : Tree) : (handlerCalls s body).1 = (keepAll (resolvedCalls s body)).map (·.2) := by
  rw [handlerCalls, List.map_map]
  rfl

theorem resolvedCalls_block (role : Role) (text : Text) (statements : List Tree) :
    resolvedCalls s (.node role .block text statements) = statements.flatMap (resolvedCalls s) := by
  rw [resolvedCalls, Tree.calls_node Kind.noConfusion, List.map_flatMap]
  rfl

theorem mem_resolvedCalls {body : Tree} {c : Call} (h : c ∈ (handlerCalls s body).1) : c ∈ resolvedCalls s body := by
  rw [handlerCalls_eq] at h
  obtain ⟨e, he, rfl⟩ := List.mem_map.1 h
  exact List.mem_of_mem_filter (List.argmax_mem (mem_keepAll he).2)

/-- **Statements that are repeated add no calls.** -/
theorem keepAll_repeats {statements said : List Tree} (h : Repeats statements said) :
    keepAll (said.flatMap (resolvedCalls s)) = keepAll (statements.flatMap (resolvedCalls s)) := by
  induction h with
  | once => rfl
  | @again before between after t _ ih =>
    have hmem : ∀ c ∈ resolvedCalls s t, c ∈ (before ++ t :: between).flatMap (resolvedCalls s) := fun c hc =>
      List.mem_flatMap.2 ⟨t, by simp, hc⟩
    have hagain := keepAll_again hmem (after.flatMap (resolvedCalls s))
    rw [← ih]
    simpa using hagain

/-- **Of a handler's calls, each key is kept once, with the first one of its calls with the most data.**  The keys are
those of all calls in the body, it among them, and stand in the order in which they come first in the document.
Repeated statements change nothing, be they some of the statements or all of them over again. -/
theorem handlerCalls_firstLongest (body : Tree) :
    body.InDocumentOrder .call body.calls ∧
    ((handlerCalls s body).1.map Call.key).Nodup ∧
    (handlerCalls s body).1.map Call.key = ((body.calls.map fun t => (resolveCall s t).1).map Call.key).eraseDups ∧
    (∀ c ∈ (handlerCalls s body).1,
      ((body.calls.map fun t => (resolveCall s t).1).filter (·.key = c.key)).argmax (·.data.length) = some c) ∧
    ∀ role text statements, body = .node role .block text statements → ∀ text',
      (∀ said, Repeats statements said →
        (handlerCalls s (.node role .block text' said)).1 = (handlerCalls s body).1) ∧
      ∀ n, (handlerCalls s (.node role .block text' (List.replicate (n + 1) statements).flatten)).1 =
        (handlerCalls s body).1 := by
  have hkeys := map_key_keepAll (resolvedCalls s body)
  rw [← handlerCalls_eq] at hkeys
  refine ⟨Tree.ofKind_inDocumentOrder .call body, ?_, hkeys, fun c hc => ?_, ?_⟩
  · rw [hkeys]
    exact nodup_eraseDups _
  · rw [handlerCalls_eq] at hc
    obtain ⟨e, he, rfl⟩ := List.mem_map.1 hc
    exact (mem_keepAll he).2
  · rintro role text statements rfl text'
    have hsaid : ∀ said, Repeats statements said → (handlerCalls s (.node role .block text' said)).1 =
        (handlerCalls s (.node role .block text statements)).1 := fun said h => by
      rw [handlerCalls_eq, handlerCalls_eq, resolvedCalls_block, resolvedCalls_block, keepAll_repeats s h]
    exact ⟨hsaid, fun n => hsaid _ (.replicate statements n)⟩

def navigation (elements : List String) : Tree :=
  .node .part .call [] [.node .callee .member "r.navigate".toList [],
    .node .arguments .arguments [] [.node .part .array [] (elements.map fun e => .node .part .string e.toList [])]]

def logging : Tree :=
  .node .part .call [] [.node .callee .member "this.log".toList [],
    .node .arguments .arguments [] [navigation ["'h'", "1"]]]

def bodyOf (statements : List Tree) : Tree := .node .body .block [] statements

theorem handlerCalls_firstLongest_logging :
    let s : Setting := ⟨["h/:i".toList], .default, true⟩
    let statements := [logging, navigation ["'x'"]]
    (handlerCalls s (bodyOf statements)).1 =
        [⟨"this.log".toList, [], []⟩, ⟨"r.navigate".toList, "/h/:i".toList, ["1".toList]⟩,
          ⟨"r.navigate".toList, [], []⟩] ∧
      Repeats statements [logging, navigation ["'x'"], logging] ∧
      (handlerCalls s (bodyOf [logging, navigation ["'x'"], logging])).1 = (handlerCalls s (bodyOf statements)).1 := by
  have hrun : (handlerCalls ⟨["h/:i".toList], .default, true⟩ (bodyOf [logging, navigation ["'x'"]])).1 =
      [⟨"this.log".toList, [], []⟩, ⟨"r.navigate".toList, "/h/:i".toList, ["1".toList]⟩,
        ⟨"r.navigate".toList, [], []⟩] := by decide +kernel
  have hsaid : Repeats [logging, navigation ["'x'"]] [logging, navigation ["'x'"], logging] :=
    .append fun _ h => List.mem_cons.2 (.inl (List.mem_singleton.1 h))
  obtain ⟨-, -, -, -, hrepeat⟩ := handlerCalls_firstLongest ⟨["h/:i".toList], .default, true⟩
    (bodyOf [logging, navigation ["'x'"]])
  exact ⟨hrun, hsaid, (hrepeat .body [] _ rfl []).1 _ hsaid⟩

end Logic
end ViewAtlas
