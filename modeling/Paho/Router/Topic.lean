import Mathlib.Data.List.Basic

/-!
# Topic matching

`match` and its helpers (`paho/router.go`; the `routercontext` package repeats them verbatim).
A Go string is a `String`, `strings.Split(s, "/")` splits its characters with `List.splitOn`,
and a slice expression `s[low:]` past the end of `s`, a runtime panic in Go, is `none`.

`match_levels` reads `match` on a route without the shared-subscription prefix as a comparison
of levels, `match_shared` compares a shared route with the route it shares, and `match_eq_none`
says exactly when `match` panics. `routeSplit` tests the prefix `$share` with no `/`, so it also
drops two levels of a route such as `$shared/a/b` (`match_share_prefix_exceptions`).
-/

namespace Paho

/-- `strings.Split(s, "/")`. -/
def split (s : String) : List String :=
  (s.data.splitOn '/').map String.mk

/-- `strings.HasPrefix(s, prefix)`. -/
def hasPrefix (s pre : String) : Bool :=
  pre.data.isPrefixOf s.data

/-- The slice expression `s[low:]`, `none` when `low > len(s)`. -/
def sliceFrom {α : Type} (s : List α) (low : Nat) : Option (List α) :=
  if low ≤ s.length then some (s.drop low) else none

def matchDeep : List String → List String → Bool
  | [], topic => topic.length == 0
  | r :: _, [] => r == "#"
  | r :: route, t :: topic =>
      if r == "#" then true
      else if r == "+" || r == t then matchDeep route topic
      else false

def routeSplit (route : String) : Option (List String) :=
  if route.length = 0 then some []
  else if hasPrefix route "$share" then sliceFrom (split route) 2
  else some (split route)

def topicSplit (topic : String) : List String :=
  if topic.length = 0 then [] else split topic

def routeIncludesTopic (route topic : String) : Option Bool :=
  (routeSplit route).map fun levels => matchDeep levels (topicSplit topic)

/-- `match`: `route == topic || routeIncludesTopic(route, topic)`. -/
def «match» (route topic : String) : Option Bool :=
  if route = topic then some true else routeIncludesTopic route topic

/-! ## Splitting -/

private theorem no_separator {l : List Char} (noSlash : '/' ∉ l) : ∀ x ∈ l, ¬ (x == '/') = true :=
  fun _ member equal => noSlash (beq_iff_eq.mp equal ▸ member)

theorem split_of_not_mem {s : String} (noSlash : '/' ∉ s.data) : split s = [s] := by
  rw [split, List.splitOn, List.splitOnP_eq_single _ _ (no_separator noSlash)]
  rfl

theorem split_append {s rest : String} (noSlash : '/' ∉ s.data) :
    split (s ++ "/" ++ rest) = s :: split rest := by
  have : (s ++ "/" ++ rest).data = s.data ++ '/' :: rest.data := by simp
  rw [split, this, List.splitOn, List.splitOnP_first _ _ (no_separator noSlash) _ (by simp)]
  rfl

theorem two_le_length_splitOn {l : List Char} (slash : '/' ∈ l) : 2 ≤ (l.splitOn '/').length := by
  induction l with
  | nil => simp at slash
  | cons x xs ih =>
      rw [List.splitOn, List.splitOnP_cons]
      by_cases here : x = '/'
      · have := List.length_pos_of_ne_nil (List.splitOnP_ne_nil (· == '/') xs)
        simp [here]
        omega
      · simpa [here] using ih (by simpa [Ne.symm here] using slash)

theorem two_le_length_split {s : String} (slash : '/' ∈ s.data) : 2 ≤ (split s).length := by
  simpa [split] using two_le_length_splitOn slash

theorem topicSplit_of_ne {topic : String} (nonempty : topic ≠ "") : topicSplit topic = split topic := by
  have nonzero : topic.length ≠ 0 := fun zero => nonempty (String.ext (List.length_eq_zero.mp zero))
  rw [topicSplit, if_neg nonzero]

theorem routeSplit_of_not_hasPrefix {route : String} (unshared : hasPrefix route "$share" = false) :
    routeSplit route = some (topicSplit route) := by
  unfold routeSplit topicSplit
  split <;> simp_all

/-! ## Levels -/

/-- The first `#` level of `route` is at most `|topic|` deep, each level before it `+` or the topic's. -/
def HashMatch (route topic : List String) : Prop :=
  ∃ i, route[i]? = some "#" ∧ (∀ j < i, route[j]? ≠ some "#") ∧ i ≤ topic.length ∧
    ∀ j < i, route[j]? = some "+" ∨ route[j]? = topic[j]?

/-- `route` has no `#` level and as many levels as `topic`, each `+` or the topic's. -/
def ExactMatch (route topic : List String) : Prop :=
  "#" ∉ route ∧ route.length = topic.length ∧
    ∀ j < route.length, route[j]? = some "+" ∨ route[j]? = topic[j]?

theorem not_hashMatch_nil (topic : List String) : ¬ HashMatch [] topic := by
  rintro ⟨i, found, -⟩
  simp at found

theorem hashMatch_hash (route topic : List String) : HashMatch ("#" :: route) topic :=
  ⟨0, by simp, fun _ h => absurd h (Nat.not_lt_zero _), Nat.zero_le _,
    fun _ h => absurd h (Nat.not_lt_zero _)⟩

theorem not_hashMatch_cons_nil {r : String} (route : List String) (notHash : r ≠ "#") :
    ¬ HashMatch (r :: route) [] := by
  rintro ⟨i, found, -, bound, -⟩
  obtain rfl : i = 0 := Nat.le_zero.mp bound
  exact notHash (by simpa using found)

theorem hashMatch_cons_cons {r t : String} {route topic : List String} (notHash : r ≠ "#") :
    HashMatch (r :: route) (t :: topic) ↔ (r = "+" ∨ r = t) ∧ HashMatch route topic := by
  constructor
  · rintro ⟨_ | i, found, first, bound, levels⟩
    · exact absurd (by simpa using found) notHash
    · rw [Nat.forall_lt_succ_left] at first levels
      simp only [List.getElem?_cons_succ, List.getElem?_cons_zero, List.length_cons,
        Option.some.injEq] at found first bound levels
      exact ⟨levels.1, i, found, first.2, by omega, levels.2⟩
  · rintro ⟨head, i, found, first, bound, levels⟩
    refine ⟨i + 1, by simpa using found, Nat.forall_lt_succ_left.mpr ⟨by simpa using notHash,
      by simpa using first⟩, by simpa using bound, Nat.forall_lt_succ_left.mpr ⟨by simpa using head,
      by simpa using levels⟩⟩

theorem exactMatch_nil (topic : List String) : ExactMatch [] topic ↔ topic = [] := by
  simp [ExactMatch, eq_comm]

theorem not_exactMatch_cons_nil (r : String) (route : List String) : ¬ ExactMatch (r :: route) [] :=
  fun ⟨_, lengths, _⟩ => by simp at lengths

theorem exactMatch_cons_cons {r t : String} {route topic : List String} (notHash : r ≠ "#") :
    ExactMatch (r :: route) (t :: topic) ↔ (r = "+" ∨ r = t) ∧ ExactMatch route topic := by
  simp only [ExactMatch, List.mem_cons, not_or, List.length_cons, Nat.add_right_cancel_iff,
    Nat.forall_lt_succ_left, List.getElem?_cons_zero, List.getElem?_cons_succ, Option.some.injEq]
  constructor
  · rintro ⟨⟨-, noHash⟩, lengths, head, levels⟩
    exact ⟨head, noHash, lengths, levels⟩
  · rintro ⟨head, noHash, lengths, levels⟩
    exact ⟨⟨Ne.symm notHash, noHash⟩, lengths, head, levels⟩

/-- `matchDeep` compares levels: `#` ends the comparison, and each level before is `+` or the topic's. -/
theorem matchDeep_iff (route topic : List String) :
    matchDeep route topic = true ↔ HashMatch route topic ∨ ExactMatch route topic := by
  induction route generalizing topic with
  | nil => simp [matchDeep, not_hashMatch_nil, exactMatch_nil]
  | cons r route ih =>
      by_cases hash : r = "#"
      · subst hash
        cases topic <;> simp [matchDeep, hashMatch_hash]
      · cases topic with
        | nil => simp [matchDeep, hash, not_hashMatch_cons_nil route hash, not_exactMatch_cons_nil]
        | cons t topic =>
            rw [hashMatch_cons_cons hash, exactMatch_cons_cons hash, ← and_or_left, ← ih]
            simp [matchDeep, hash]

theorem matchDeep_self (levels : List String) : matchDeep levels levels = true := by
  induction levels with
  | nil => rfl
  | cons r levels ih => simp [matchDeep, ih]

/-! ## `match` -/

/-- On a route without the `$share` prefix, `match` never panics and compares levels. -/
theorem match_levels (route topic : String) (unshared : hasPrefix route "$share" = false) :
    Paho.match route topic = some (matchDeep (topicSplit route) (topicSplit topic)) ∧
      (matchDeep (topicSplit route) (topicSplit topic) = true ↔
        HashMatch (topicSplit route) (topicSplit topic) ∨
          ExactMatch (topicSplit route) (topicSplit topic)) := by
  refine ⟨?_, matchDeep_iff _ _⟩
  rw [Paho.match, routeIncludesTopic, routeSplit_of_not_hasPrefix unshared]
  split
  · subst route
    rw [matchDeep_self]
  · rfl

theorem match_levels_wildcard :
    hasPrefix "sensors/+/status" "$share" = false ∧
      Paho.match "sensors/+/status" "sensors/temp/status" =
        some (matchDeep (topicSplit "sensors/+/status") (topicSplit "sensors/temp/status")) ∧
      (matchDeep (topicSplit "sensors/+/status") (topicSplit "sensors/temp/status") = true ↔
        HashMatch (topicSplit "sensors/+/status") (topicSplit "sensors/temp/status") ∨
          ExactMatch (topicSplit "sensors/+/status") (topicSplit "sensors/temp/status")) :=
  ⟨by decide, match_levels _ _ (by decide)⟩

/-! ## Shared routes -/

theorem length_ne_zero_of_hasPrefix {route : String} (prefixed : hasPrefix route "$share" = true) :
    route.length ≠ 0 := by
  simp only [hasPrefix, List.isPrefixOf_iff_prefix] at prefixed
  have longer : ("$share" : String).data.length ≤ route.data.length := prefixed.length_le
  have six : ("$share" : String).data.length = 6 := rfl
  change route.data.length ≠ 0
  omega

theorem routeSplit_of_hasPrefix {route : String} (prefixed : hasPrefix route "$share" = true)
    (slash : '/' ∈ route.data) : routeSplit route = some ((split route).drop 2) := by
  rw [routeSplit, if_neg (length_ne_zero_of_hasPrefix prefixed), if_pos prefixed, sliceFrom,
    if_pos (two_le_length_split slash)]

/-- A route with the characters `$share` first and a `/` is matched by its levels from the third on. -/
theorem match_prefixed {route topic : String} (prefixed : hasPrefix route "$share" = true)
    (slash : '/' ∈ route.data) (other : topic ≠ route) :
    Paho.match route topic = some (matchDeep ((split route).drop 2) (topicSplit topic)) := by
  rw [Paho.match, if_neg (Ne.symm other), routeIncludesTopic, routeSplit_of_hasPrefix prefixed slash]
  rfl

theorem match_filter {filter topic : String} (nonempty : filter ≠ "")
    (unshared : hasPrefix filter "$share" = false) :
    Paho.match filter topic = some (matchDeep (split filter) (topicSplit topic)) := by
  rw [(match_levels filter topic unshared).1, topicSplit_of_ne nonempty]

/-- A shared route `$share/<group>/<filter>` matches every topic but its own string as `filter` does. -/
theorem match_shared (group filter topic : String) (noSlash : '/' ∉ group.data) (nonempty : filter ≠ "")
    (unshared : hasPrefix filter "$share" = false) (other : topic ≠ "$share/" ++ group ++ "/" ++ filter) :
    Paho.match ("$share/" ++ group ++ "/" ++ filter) topic = Paho.match filter topic := by
  have levels : split ("$share/" ++ group ++ "/" ++ filter) = "$share" :: group :: split filter := by
    rw [show "$share/" ++ group ++ "/" ++ filter = "$share" ++ "/" ++ (group ++ "/" ++ filter) by
      simp [String.ext_iff]]
    rw [split_append (by decide), split_append noSlash]
  have prefixed : hasPrefix ("$share/" ++ group ++ "/" ++ filter) "$share" = true := by
    simp [hasPrefix, List.isPrefixOf_iff_prefix]
  rw [match_prefixed prefixed (by simp) other, levels, match_filter nonempty unshared]
  rfl

theorem match_shared_group :
    ('/' ∉ "g".data ∧ "a/+" ≠ "" ∧ hasPrefix "a/+" "$share" = false ∧
        "a/b" ≠ "$share/" ++ "g" ++ "/" ++ "a/+") ∧
      Paho.match ("$share/" ++ "g" ++ "/" ++ "a/+") "a/b" = Paho.match "a/+" "a/b" :=
  ⟨⟨by decide, by decide, by decide, by decide⟩, match_shared "g" "a/+" "a/b" (by decide) (by decide) (by decide) (by decide)⟩

/-- `$share/g/a` matches `$share/g/a` where `a` does not, and `$shared/a/b` matches `b`. -/
theorem match_share_prefix_exceptions :
    Paho.match "$share/g/a" "$share/g/a" = some true ∧ Paho.match "a" "$share/g/a" = some false ∧
      Paho.match "$shared/a/b" "b" = some true ∧
      matchDeep (split "$shared/a/b") (topicSplit "b") = false := by
  decide

/-- `match` panics exactly on a route other than the topic with the `$share` prefix and no `/`. -/
theorem match_eq_none (route topic : String) :
    Paho.match route topic = none ↔
      route ≠ topic ∧ hasPrefix route "$share" = true ∧ '/' ∉ route.data := by
  by_cases same : route = topic
  · simp [Paho.match, same]
  by_cases prefixed : hasPrefix route "$share" = true
  · by_cases slash : '/' ∈ route.data
    · simp [match_prefixed prefixed slash (Ne.symm same), slash]
    · simp only [Paho.match, if_neg same, routeIncludesTopic, routeSplit,
        if_neg (length_ne_zero_of_hasPrefix prefixed), if_pos prefixed, sliceFrom,
        split_of_not_mem slash]
      simp [same, prefixed, slash]
  · simp only [Bool.not_eq_true] at prefixed
    simp [(match_levels route topic prefixed).1, prefixed]

end Paho
