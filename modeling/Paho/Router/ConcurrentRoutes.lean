import Paho.Router.Alias

/-!
# Concurrent `Route` calls and the alias map

`Route` holds only `RLock`, so goroutines can be in its alias step at once. The step makes two
operations on the shared alias map, the write `r.aliases[*pb.Properties.TopicAlias] = pb.Topic`
when the publish has a topic and then the read, and here each goroutine makes them one at a time,
interleaved in any order with the others' (each map operation atomic, so every interleaving here
is one Go can run). Back to back they are `resolveTopic`; over every interleaving each topic
matched is `Matchable` (`sound_run`), but another goroutine's write can fall between a
goroutine's write and its read, and then a publish to `x` is matched with another's topic.
-/

namespace Paho

/-- Where a goroutine is in the alias step of `Route`: before the write, before the read, or done. -/
inductive AliasPhase
  | write
  | read (topicAlias : UInt16)
  | matched (topic : String)
  deriving DecidableEq

/-- Goroutines in the alias step of `Route`: the alias map, and each goroutine's publish and phase. -/
structure AliasSteps where
  aliases : AList fun _ : UInt16 => String
  routes : List (Packets.Publish × AliasPhase)

namespace AliasSteps

def init (aliases : AList fun _ : UInt16 => String) (pbs : List Packets.Publish) : AliasSteps :=
  ⟨aliases, pbs.map fun pb => (pb, .write)⟩

/-- Goroutine `g` makes its next operation of the alias step (`paho/router.go` 107-121). -/
def step (s : AliasSteps) (g : Nat) : Option AliasSteps :=
  match s.routes[g]? with
  | some (pb, .write) =>
      match pb.properties with
      | none => none
      | some properties =>
          match properties.topicAlias with
          | none => some ⟨s.aliases, s.routes.set g (pb, .matched (publishFromPacketPublish pb).topic)⟩
          | some topicAlias =>
              some ⟨if pb.topic ≠ "" then s.aliases.insert topicAlias pb.topic else s.aliases,
                s.routes.set g (pb, .read topicAlias)⟩
  | some (pb, .read topicAlias) =>
      some ⟨s.aliases, s.routes.set g (pb, .matched ((s.aliases.lookup topicAlias).getD ""))⟩
  | _ => none

def run (s : AliasSteps) : List Nat → Option AliasSteps
  | [] => some s
  | g :: schedule => (s.step g).bind fun s => s.run schedule

theorem run_cons (s : AliasSteps) (g : Nat) (schedule : List Nat) :
    s.run (g :: schedule) = (s.step g).bind fun s => s.run schedule := rfl

/-- The three operations a goroutine can make. -/
theorem step_eq_some {s s' : AliasSteps} {g : Nat} :
    s.step g = some s' ↔
      (∃ pb, s.routes[g]? = some (pb, .write) ∧ pb.properties ≠ none ∧ pb.topicAlias = none ∧
        s' = ⟨s.aliases, s.routes.set g (pb, .matched pb.topic)⟩) ∨
      (∃ pb a, s.routes[g]? = some (pb, .write) ∧ pb.topicAlias = some a ∧
        s' = ⟨if pb.topic ≠ "" then s.aliases.insert a pb.topic else s.aliases,
          s.routes.set g (pb, .read a)⟩) ∨
      (∃ pb a, s.routes[g]? = some (pb, .read a) ∧
        s' = ⟨s.aliases, s.routes.set g (pb, .matched ((s.aliases.lookup a).getD ""))⟩) := by
  unfold step
  split
  · rename_i pb at_g
    cases present : pb.properties with
    | none => simp [at_g, Packets.Publish.topicAlias, present]
    | some properties =>
        cases carries : properties.topicAlias <;>
          simp [at_g, Packets.Publish.topicAlias, present, carries, publishFromPacketPublish, eq_comm]
  · rename_i pb a at_g
    simp [at_g, and_assoc]
    exact eq_comm
  · rename_i idle read
    simp only [reduceCtorEq, false_iff, not_or, not_exists, not_and]
    refine ⟨fun pb at_g => ?_, fun pb a at_g => ?_, fun pb a at_g => ?_⟩ <;>
      simp_all

/-! ## Back to back -/

/-- Made back to back, a goroutine's operations are `resolveTopic`. -/
theorem aliasSteps_resolveTopic (s : AliasSteps) {g : Nat} {pb : Packets.Publish}
    {properties : Packets.Properties} (at_g : s.routes[g]? = some (pb, .write))
    (present : pb.properties = some properties) :
    ∃ aliases topic, resolveTopic s.aliases pb (publishFromPacketPublish pb) = some (aliases, topic) ∧
      s.run (g :: if pb.topicAlias.isSome then [g] else []) =
        some ⟨aliases, s.routes.set g (pb, .matched topic)⟩ := by
  have carried : pb.topicAlias = properties.topicAlias := by
    simp [Packets.Publish.topicAlias, present]
  rw [carried]
  cases carries : properties.topicAlias with
  | none =>
      simp only [resolveTopic, present, carries]
      refine ⟨_, _, rfl, ?_⟩
      simp [run, step, at_g, present, carries]
  | some topicAlias =>
      simp only [resolveTopic, present, carries]
      refine ⟨_, _, rfl, ?_⟩
      have at_g' : (s.routes.set g (pb, .read topicAlias))[g]? = some (pb, .read topicAlias) := by
        simp [List.getElem?_set, (List.getElem?_eq_some_iff.mp at_g).1]
      simp [run, step, at_g, present, carries, at_g', List.set_set]

/-! ## Every interleaving -/

def WrittenBy (pbs : List Packets.Publish) (topicAlias : UInt16) (topic : String) : Prop :=
  ∃ pb ∈ pbs, aliasWrite pb = some (topicAlias, topic)

/-- The topics a goroutine routing `pb` among goroutines routing `pbs` from `start` can match. -/
def Matchable (start : AList fun _ : UInt16 => String) (pbs : List Packets.Publish)
    (pb : Packets.Publish) (topic : String) : Prop :=
  match pb.topicAlias with
  | none => topic = pb.topic
  | some topicAlias =>
      if pb.topic ≠ "" then WrittenBy pbs topicAlias topic
      else topic = "" ∨ start.lookup topicAlias = some topic ∨ WrittenBy pbs topicAlias topic

/-- What holds at every point of every interleaving of goroutines routing `pbs` from `start`. -/
structure Sound (start : AList fun _ : UInt16 => String) (pbs : List Packets.Publish)
    (s : AliasSteps) : Prop where
  publishes : s.routes.map Prod.fst = pbs
  cache : ∀ (a : UInt16) (t : String), s.aliases.lookup a = some t → start.lookup a = some t ∨ WrittenBy pbs a t
  reading : ∀ (g : Nat) (pb : Packets.Publish) (a : UInt16), s.routes[g]? = some (pb, .read a) →
    pb.topicAlias = some a ∧ (pb.topic ≠ "" → ∃ t, s.aliases.lookup a = some t ∧ WrittenBy pbs a t)
  matched : ∀ (g : Nat) (pb : Packets.Publish) (t : String), s.routes[g]? = some (pb, .matched t) →
    Matchable start pbs pb t

theorem sound_init (start : AList fun _ : UInt16 => String) (pbs : List Packets.Publish) :
    Sound start pbs (init start pbs) where
  publishes := by simp [init, Function.comp_def]
  cache _ _ held := .inl held
  reading g pb a at_g := by simp [init] at at_g
  matched g pb t at_g := by simp [init] at at_g

theorem mem_of_routes {start : AList fun _ : UInt16 => String} {pbs : List Packets.Publish}
    {s : AliasSteps} (sound : Sound start pbs s) {g : Nat} {pb : Packets.Publish}
    {phase : AliasPhase} (at_g : s.routes[g]? = some (pb, phase)) : pb ∈ pbs := by
  rw [← sound.publishes]
  exact List.mem_map.mpr ⟨_, List.getElem?_mem at_g, rfl⟩

theorem getElem?_set_phase (routes : List (Packets.Publish × AliasPhase)) {g g' : Nat}
    {pb pb' : Packets.Publish} {phase phase' phase'' : AliasPhase} (at_g : routes[g]? = some (pb, phase))
    (at_g' : (routes.set g (pb, phase'))[g']? = some (pb', phase'')) :
    g' = g ∧ pb' = pb ∧ phase'' = phase' ∨ g' ≠ g ∧ routes[g']? = some (pb', phase'') := by
  by_cases same : g' = g
  · subst same
    simp [List.getElem?_set, (List.getElem?_eq_some_iff.mp at_g).1] at at_g'
    exact .inl ⟨rfl, at_g'.1.symm, at_g'.2.symm⟩
  · exact .inr ⟨same, by rwa [List.getElem?_set_ne (Ne.symm same)] at at_g'⟩

theorem publishes_set (routes : List (Packets.Publish × AliasPhase)) {g : Nat}
    {pb : Packets.Publish} {phase phase' : AliasPhase} (at_g : routes[g]? = some (pb, phase)) :
    (routes.set g (pb, phase')).map Prod.fst = routes.map Prod.fst := by
  apply List.ext_getElem?
  intro g'
  by_cases same : g' = g
  · subst same
    obtain ⟨bound, found⟩ := List.getElem?_eq_some_iff.mp at_g
    simp [List.getElem?_set, bound, found]
  · simp [List.getElem?_set_ne (Ne.symm same)]

variable {start : AList fun _ : UInt16 => String} {pbs : List Packets.Publish}

theorem sound_set {s : AliasSteps} (sound : Sound start pbs s) {g : Nat} {pb : Packets.Publish}
    {phase : AliasPhase} (at_g : s.routes[g]? = some (pb, phase))
    (aliases : AList fun _ : UInt16 => String) (phase' : AliasPhase)
    (cache : ∀ a t, aliases.lookup a = some t → start.lookup a = some t ∨ WrittenBy pbs a t)
    (kept : ∀ a t, s.aliases.lookup a = some t → WrittenBy pbs a t →
      ∃ t', aliases.lookup a = some t' ∧ WrittenBy pbs a t')
    (reading : ∀ a, phase' = .read a → pb.topicAlias = some a ∧
      (pb.topic ≠ "" → ∃ t, aliases.lookup a = some t ∧ WrittenBy pbs a t))
    (matched : ∀ t, phase' = .matched t → Matchable start pbs pb t) :
    Sound start pbs ⟨aliases, s.routes.set g (pb, phase')⟩ where
  publishes := (publishes_set _ at_g).trans sound.publishes
  cache := cache
  reading g' pb' a at_g' := by
    rcases getElem?_set_phase _ at_g at_g' with ⟨-, rfl, rfl⟩ | ⟨-, at_g'⟩
    · exact reading a rfl
    · obtain ⟨carries, found⟩ := sound.reading g' pb' a at_g'
      refine ⟨carries, fun named => ?_⟩
      obtain ⟨t, held, written⟩ := found named
      exact kept a t held written
  matched g' pb' t at_g' := by
    rcases getElem?_set_phase _ at_g at_g' with ⟨-, rfl, rfl⟩ | ⟨-, at_g'⟩
    · exact matched t rfl
    · exact sound.matched g' pb' t at_g'

theorem sound_step {s s' : AliasSteps} {g : Nat} (sound : Sound start pbs s)
    (stepped : s.step g = some s') : Sound start pbs s' := by
  have same : ∀ a t, s.aliases.lookup a = some t → WrittenBy pbs a t →
      ∃ t', s.aliases.lookup a = some t' ∧ WrittenBy pbs a t' := fun a t held written =>
    ⟨t, held, written⟩
  rcases step_eq_some.mp stepped with ⟨pb, at_g, -, unaliased, rfl⟩ |
      ⟨pb, a, at_g, carries, rfl⟩ | ⟨pb, a, at_g, rfl⟩
  · -- `topic = m.Topic`, for a publish with no alias
    refine sound_set sound at_g _ _ sound.cache same (fun _ reads => by cases reads) ?_
    rintro t ⟨⟩
    simp [Matchable, unaliased]
  · -- the write
    have written : pb.topic ≠ "" → WrittenBy pbs a pb.topic := fun named =>
      ⟨pb, mem_of_routes sound at_g, by simp [aliasWrite, named, carries]⟩
    have lookup : ∀ a', (if pb.topic ≠ "" then s.aliases.insert a pb.topic else s.aliases).lookup a' =
        if pb.topic ≠ "" ∧ a' = a then some pb.topic else s.aliases.lookup a' := by
      intro a'
      by_cases same : a' = a
      · subst same
        by_cases named : pb.topic ≠ "" <;> simp [named, AList.lookup_insert]
      · by_cases named : pb.topic ≠ "" <;> simp [named, same, AList.lookup_insert_ne same]
    refine sound_set sound at_g _ _ (fun a' t held => ?_) (fun a' t held found => ?_) ?_
      (fun _ reads => by cases reads)
    · rw [lookup] at held
      split_ifs at held with fresh
      · cases held
        exact .inr (fresh.2 ▸ written fresh.1)
      · exact sound.cache a' t held
    · rw [lookup]
      split_ifs with fresh
      · exact ⟨pb.topic, rfl, fresh.2 ▸ written fresh.1⟩
      · exact ⟨t, held, found⟩
    · rintro a' ⟨⟩
      exact ⟨carries, fun named => ⟨_, by simp [lookup, named], written named⟩⟩
  · -- the read
    obtain ⟨carries, found⟩ := sound.reading g pb a at_g
    refine sound_set sound at_g _ _ sound.cache same (fun _ reads => by cases reads) ?_
    rintro t ⟨⟩
    simp only [Matchable, carries]
    split_ifs with named
    · obtain ⟨t, held, written⟩ := found named
      rw [held]
      exact written
    · cases held : s.aliases.lookup a with
      | none => exact .inl rfl
      | some t => exact .inr (sound.cache a t held)

/-- Every interleaving keeps `Sound`. -/
theorem sound_run {s s' : AliasSteps} (sound : Sound start pbs s) (schedule : List Nat)
    (ran : s.run schedule = some s') : Sound start pbs s' := by
  induction schedule generalizing s with
  | nil =>
      cases ran
      exact sound
  | cons g schedule ih =>
      rw [run_cons] at ran
      cases stepped : s.step g with
      | none => simp [stepped] at ran
      | some s'' =>
          rw [stepped, Option.some_bind] at ran
          exact ih (sound_step sound stepped) ran

end AliasSteps

/-- Goroutines in the alias step at once: back to back it is `resolveTopic`, interleaved it misroutes. -/
theorem interleaved_alias_steps :
    (∀ (s : AliasSteps) (g : Nat) (pb : Packets.Publish) (properties : Packets.Properties),
      s.routes[g]? = some (pb, .write) → pb.properties = some properties →
      ∃ aliases topic,
        resolveTopic s.aliases pb (publishFromPacketPublish pb) = some (aliases, topic) ∧
        s.run (g :: if pb.topicAlias.isSome then [g] else []) =
          some ⟨aliases, s.routes.set g (pb, .matched topic)⟩) ∧
    (∀ (start : AList fun _ : UInt16 => String) (pbs : List Packets.Publish)
        (schedule : List Nat) (s : AliasSteps) (g : Nat) (pb : Packets.Publish) (topic : String),
      (AliasSteps.init start pbs).run schedule = some s → s.routes[g]? = some (pb, .matched topic) →
      AliasSteps.Matchable start pbs pb topic ∧
        ∀ a, pb.topicAlias = some a → pb.topic ≠ "" →
          (∀ pb' ∈ pbs, ∀ t, aliasWrite pb' = some (a, t) → t = pb.topic) → topic = pb.topic) ∧
    ((AliasSteps.init ∅ [⟨"x", some ⟨some 1⟩⟩, ⟨"y", some ⟨some 1⟩⟩]).run [0, 1, 0, 1]).map
        AliasSteps.routes =
      some [(⟨"x", some ⟨some 1⟩⟩, .matched "y"), (⟨"y", some ⟨some 1⟩⟩, .matched "y")] := by
  refine ⟨fun s g pb properties at_g present => AliasSteps.aliasSteps_resolveTopic s at_g present,
    fun start pbs schedule s g pb topic ran at_g => ?_, rfl⟩
  have matchable := (AliasSteps.sound_run (AliasSteps.sound_init start pbs) schedule ran).matched
    g pb topic at_g
  refine ⟨matchable, fun a carries named only => ?_⟩
  simp only [AliasSteps.Matchable, carries, named, ne_eq, not_false_eq_true, if_true] at matchable
  obtain ⟨pb', member, writes⟩ := matchable
  exact only pb' member topic writes

/-- Goroutine 0 writes `x` for alias 1, goroutine 1 writes `y`, and goroutine 0 reads `y`. -/
theorem interleaved_alias_steps_misrouted :
    (AliasSteps.init ∅ [⟨"x", some ⟨some 1⟩⟩, ⟨"y", some ⟨some 1⟩⟩]).run [0, 1, 0, 1] =
        some ⟨((∅ : AList fun _ : UInt16 => String).insert 1 "x").insert 1 "y",
          [(⟨"x", some ⟨some 1⟩⟩, .matched "y"), (⟨"y", some ⟨some 1⟩⟩, .matched "y")]⟩ ∧
      AliasSteps.Matchable ∅ [⟨"x", some ⟨some 1⟩⟩, ⟨"y", some ⟨some 1⟩⟩] ⟨"x", some ⟨some 1⟩⟩ "y" :=
  have ran : (AliasSteps.init ∅ [⟨"x", some ⟨some 1⟩⟩, ⟨"y", some ⟨some 1⟩⟩]).run [0, 1, 0, 1] =
      some ⟨((∅ : AList fun _ : UInt16 => String).insert 1 "x").insert 1 "y",
        [(⟨"x", some ⟨some 1⟩⟩, .matched "y"), (⟨"y", some ⟨some 1⟩⟩, .matched "y")]⟩ := rfl
  ⟨ran, (interleaved_alias_steps.2.1 _ _ _ _ 0 _ _ ran rfl).1⟩

end Paho
