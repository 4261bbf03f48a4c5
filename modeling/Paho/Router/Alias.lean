import Paho.Router.Routers

/-!
# Topic aliases

`Route` keeps a cache from topic alias to topic: a publish that carries an alias and a topic
writes the pair, and one that carries an alias and an empty topic is matched with the topic the
cache holds. In terms of the run alone, the cache after any run is the last-writer-wins fold of
the pairs written (`exec_aliases`), and `Route` matches a publish with `effectiveTopic`
(`route_effective_topic`). The message passed to the handlers is converted from the packet
alone, so it keeps the packet's topic, which is not the topic matched for an alias-only publish.
-/

namespace Paho
variable {H M : Type}

/-! ## The writes of a run -/

/-- The pair `Route` writes to the alias cache for `pb`, when it carries an alias and a topic. -/
def aliasWrite (pb : Packets.Publish) : Option (UInt16 × String) :=
  if pb.topic ≠ "" then pb.topicAlias.map fun topicAlias => (topicAlias, pb.topic) else none

/-- The pairs written by the publishes `ops` routes, in routing order. -/
def aliasWrites (ops : List (Op H M)) : List (UInt16 × String) :=
  ops.filterMap fun
    | .route pb _ => aliasWrite pb
    | _ => none

/-- The last-writer-wins fold of the pairs written by `ops`. -/
def aliasCache (ops : List (Op H M)) : AList (fun _ : UInt16 => String) :=
  (aliasWrites ops).foldl (fun aliases write => aliases.insert write.1 write.2) ∅

/-- The topic `Route` matches `pb` with after `ops`: the cached one for an alias-only publish. -/
def effectiveTopic (ops : List (Op H M)) (pb : Packets.Publish) : String :=
  match pb.topicAlias with
  | some topicAlias =>
      if pb.topic = "" then ((aliasWrites ops).reverse.lookup topicAlias).getD "" else pb.topic
  | none => pb.topic

theorem aliasWrites_append (ops : List (Op H M)) (op : Op H M) :
    aliasWrites (ops ++ [op]) = aliasWrites ops ++ aliasWrites [op] :=
  List.filterMap_append _ _ _

theorem aliasWrites_route (pb : Packets.Publish) (order : List (Σ _ : String, List H)) :
    aliasWrites [(.route pb order : Op H M)] = (aliasWrite pb).toList := by
  simp only [aliasWrites, List.filterMap_cons, List.filterMap_nil]
  cases aliasWrite pb <;> rfl

theorem lookup_foldl_insert (writes : List (UInt16 × String))
    (aliases : AList fun _ : UInt16 => String) (a : UInt16) :
    (writes.foldl (fun aliases write => aliases.insert write.1 write.2) aliases).lookup a =
      (writes.reverse.lookup a).or (aliases.lookup a) := by
  induction writes generalizing aliases with
  | nil => rfl
  | cons write writes ih =>
      obtain ⟨k, v⟩ := write
      rw [List.foldl_cons, ih, List.reverse_cons, List.lookup_append, Option.or_assoc]
      congr 1
      by_cases same : a = k
      · subst same
        simp
      · simp [AList.lookup_insert_ne same, List.lookup_cons, beq_false_of_ne same]

theorem lookup_aliasCache (ops : List (Op H M)) (a : UInt16) :
    (aliasCache ops).lookup a = (aliasWrites ops).reverse.lookup a := by
  rw [aliasCache, lookup_foldl_insert]
  cases (aliasWrites ops).reverse.lookup a <;> rfl

/-! ## The cache a run leaves -/

theorem resolveTopic_eq (aliases : AList fun _ : UInt16 => String) (pb : Packets.Publish)
    (properties : Packets.Properties) (present : pb.properties = some properties) :
    resolveTopic aliases pb (publishFromPacketPublish pb) =
      some ((aliasWrite pb).elim aliases fun write => aliases.insert write.1 write.2,
        match pb.topicAlias with
        | some topicAlias => if pb.topic = "" then (aliases.lookup topicAlias).getD "" else pb.topic
        | none => pb.topic) := by
  have carried : pb.topicAlias = properties.topicAlias := by
    simp [Packets.Publish.topicAlias, present]
  unfold resolveTopic aliasWrite
  simp only [present, carried]
  cases properties.topicAlias with
  | none => simp [publishFromPacketPublish]
  | some topicAlias => by_cases empty : pb.topic = "" <;> simp [empty, AList.lookup_insert]

theorem afterRoute_aliases (r : Registry H) (pb : Packets.Publish) :
    (r.afterRoute pb).aliases =
      (aliasWrite pb).elim r.aliases fun write => r.aliases.insert write.1 write.2 := by
  cases present : pb.properties with
  | none => simp [Registry.afterRoute, (resolveTopic_eq_none _ _ _).mpr present, aliasWrite,
      Packets.Publish.topicAlias, present]
  | some properties => simp [Registry.afterRoute, resolveTopic_eq _ _ _ present]

/-- After any run, the alias cache is the last-writer-wins fold of the pairs routed publishes wrote. -/
theorem exec_aliases (ops : List (Op H M)) : (Registry.empty.exec ops).aliases = aliasCache ops := by
  induction ops using List.reverseRecOn with
  | nil => rfl
  | append_singleton ops op ih =>
      rw [Registry.exec_append, aliasCache, aliasWrites_append, List.foldl_append, ← aliasCache, ← ih]
      cases op with
      | route pb order =>
          rw [Registry.step, afterRoute_aliases, aliasWrites_route]
          cases aliasWrite pb <;> rfl
      | _ => rfl

theorem route_effective_topic (ops : List (Op H M)) (matcher : String → String → Option Bool)
    (wrap : H → H) (pb : Packets.Publish) (order : List (Σ _ : String, List H))
    (present : pb.properties ≠ none) :
    ((Registry.empty.exec ops).route matcher wrap pb order).2 =
      (Registry.empty.exec ops).deliver matcher wrap (effectiveTopic ops pb)
        (publishFromPacketPublish pb) order := by
  obtain ⟨properties, carried⟩ := Option.ne_none_iff_exists'.mp present
  simp only [Registry.route, resolveTopic_eq _ _ _ carried, exec_aliases, lookup_aliasCache,
    effectiveTopic]

theorem effectiveTopic_of_topic (ops : List (Op H M)) (pb : Packets.Publish)
    (own : pb.topicAlias = none ∨ pb.topic ≠ "") : effectiveTopic ops pb = pb.topic := by
  unfold effectiveTopic
  rcases own with unaliased | named
  · rw [unaliased]
  · split
    · rw [if_neg named]
    · rfl

theorem route_call_topic (ops : List (Op H M)) (matcher : String → String → Option Bool)
    (wrap : H → H) (pb : Packets.Publish) (order : List (Σ _ : String, List H))
    (calls : List (Call H)) (routed : ((Registry.empty.exec ops).route matcher wrap pb order).2 = some calls) :
    ∀ c ∈ calls, c.publish = publishFromPacketPublish pb ∧ c.publish.topic = pb.topic ∧
      (pb.topicAlias = none ∨ pb.topic ≠ "" → c.publish.topic = effectiveTopic ops pb) := by
  intro c made
  have passed := (route_calls _ matcher wrap pb order calls routed c made).2
  refine ⟨passed, by rw [passed]; rfl, fun own => ?_⟩
  rw [passed, effectiveTopic_of_topic ops pb own]
  rfl

/-! ## The three routers -/

/-- For each router after any run, `Route` matches with `effectiveTopic`. -/
theorem route_resolves_alias {H : Type} :
    (∀ ops : List (Op H Empty), (newStandardRouter.exec ops).aliases = aliasCache ops) ∧
    (∀ (ops : List (Op H Empty)) (pb : Packets.Publish) (order : List (Σ _ : String, List H)),
      pb.properties ≠ none →
      ((newStandardRouter.exec ops).route pb order).2 =
        (newStandardRouter.exec ops).deliver Paho.match id (effectiveTopic ops pb)
          (publishFromPacketPublish pb) order) ∧
    (∀ ops : List (Op H (H → H)), (newStandardContextRouter.exec ops).aliases = aliasCache ops) ∧
    (∀ (ops : List (Op H (H → H))) (pb : Packets.Publish) (order : List (Σ _ : String, List H)),
      pb.properties ≠ none →
      ((newStandardContextRouter.exec ops).route pb order).2 =
        (newStandardContextRouter.exec ops).deliver Paho.match
          (newStandardContextRouter.exec ops).wrapHandler (effectiveTopic ops pb)
          (publishFromPacketPublish pb) order) ∧
    (∀ ops : List (Op H (List (H → H))), (RouterContext.newRouter.exec ops).aliases = aliasCache ops) ∧
    (∀ (ops : List (Op H (List (H → H)))) (pb : Packets.Publish)
        (order : List (Σ _ : String, List H)),
      pb.properties ≠ none →
      ((RouterContext.newRouter.exec ops).route pb order).2 =
        (RouterContext.newRouter.exec ops).deliver RouterContext.match
          (RouterContext.newRouter.exec ops).wrapHandler (effectiveTopic ops pb)
          (publishFromPacketPublish pb) order) := by
  refine ⟨fun ops => ?_, fun ops pb order present => ?_, fun ops => ?_,
    fun ops pb order present => ?_, fun ops => ?_, fun ops pb order present => ?_⟩
  · rw [StandardRouter.exec_toRegistry]
    exact exec_aliases ops
  · rw [StandardRouter.exec_route, route_effective_topic ops _ _ pb order present,
      StandardRouter.exec_toRegistry]
    rfl
  · rw [StandardContextRouter.exec_toRegistry]
    exact exec_aliases ops
  · rw [StandardContextRouter.exec_route, route_effective_topic ops _ _ pb order present,
      StandardContextRouter.exec_toRegistry, funext (StandardContextRouter.exec_wrapHandler ops)]
    rfl
  · rw [RouterContext.Router.exec_toRegistry]
    exact exec_aliases ops
  · rw [RouterContext.Router.exec_route, route_effective_topic ops _ _ pb order present,
      RouterContext.Router.exec_toRegistry, funext (RouterContext.Router.exec_wrapHandler ops)]
    rfl

theorem route_resolves_alias_only :
    (⟨"", some ⟨some 1⟩⟩ : Packets.Publish).properties ≠ none ∧
      effectiveTopic [(.route ⟨"x/y", some ⟨some 1⟩⟩ [] : Op String Empty)] ⟨"", some ⟨some 1⟩⟩ =
        "x/y" ∧
      ((newStandardRouter.exec [(.route ⟨"x/y", some ⟨some 1⟩⟩ [] : Op String Empty)]).route
          ⟨"", some ⟨some 1⟩⟩ []).2 =
        (newStandardRouter.exec [(.route ⟨"x/y", some ⟨some 1⟩⟩ [] : Op String Empty)]).deliver
          Paho.match id
          (effectiveTopic [(.route ⟨"x/y", some ⟨some 1⟩⟩ [] : Op String Empty)] ⟨"", some ⟨some 1⟩⟩)
          (publishFromPacketPublish ⟨"", some ⟨some 1⟩⟩) [] :=
  ⟨Option.some_ne_none _, rfl, route_resolves_alias.2.1 _ _ _ (Option.some_ne_none _)⟩

/-- An alias-only publish is matched with `x/y` and reaches the handler with the empty topic. -/
theorem route_alias_only_passes_empty_topic :
    [(⟨"x/y", ["h"]⟩ : Σ _ : String, List String)].Perm
        (newStandardRouter.exec [(.registerHandler "x/y" "h" : Op String Empty),
          .route ⟨"x/y", some ⟨some 1⟩⟩ [⟨"x/y", ["h"]⟩]]).subscriptions.entries ∧
      effectiveTopic [(.registerHandler "x/y" "h" : Op String Empty),
          .route ⟨"x/y", some ⟨some 1⟩⟩ [⟨"x/y", ["h"]⟩]] ⟨"", some ⟨some 1⟩⟩ = "x/y" ∧
      ((newStandardRouter.exec [(.registerHandler "x/y" "h" : Op String Empty),
          .route ⟨"x/y", some ⟨some 1⟩⟩ [⟨"x/y", ["h"]⟩]]).route
        ⟨"", some ⟨some 1⟩⟩ [⟨"x/y", ["h"]⟩]).2 = some [⟨"h", ⟨""⟩⟩] :=
  ⟨List.Perm.refl _, rfl, rfl⟩

/-- For each router after any run, every handler `Route` calls receives the packet's topic. -/
theorem route_passes_packet_topic {H : Type} :
    (∀ (ops : List (Op H Empty)) (pb : Packets.Publish) (order : List (Σ _ : String, List H))
        (calls : List (Call H)),
      ((newStandardRouter.exec ops).route pb order).2 = some calls →
      ∀ c ∈ calls, c.publish = publishFromPacketPublish pb ∧ c.publish.topic = pb.topic ∧
        (pb.topicAlias = none ∨ pb.topic ≠ "" → c.publish.topic = effectiveTopic ops pb)) ∧
    (∀ (ops : List (Op H (H → H))) (pb : Packets.Publish) (order : List (Σ _ : String, List H))
        (calls : List (Call H)),
      ((newStandardContextRouter.exec ops).route pb order).2 = some calls →
      ∀ c ∈ calls, c.publish = publishFromPacketPublish pb ∧ c.publish.topic = pb.topic ∧
        (pb.topicAlias = none ∨ pb.topic ≠ "" → c.publish.topic = effectiveTopic ops pb)) ∧
    (∀ (ops : List (Op H (List (H → H)))) (pb : Packets.Publish)
        (order : List (Σ _ : String, List H)) (calls : List (Call H)),
      ((RouterContext.newRouter.exec ops).route pb order).2 = some calls →
      ∀ c ∈ calls, c.publish = publishFromPacketPublish pb ∧ c.publish.topic = pb.topic ∧
        (pb.topicAlias = none ∨ pb.topic ≠ "" → c.publish.topic = effectiveTopic ops pb)) := by
  refine ⟨fun ops pb order calls routed => ?_, fun ops pb order calls routed => ?_,
    fun ops pb order calls routed => ?_⟩
  · rw [StandardRouter.exec_route] at routed
    exact route_call_topic ops _ _ pb order calls routed
  · rw [StandardContextRouter.exec_route] at routed
    exact route_call_topic ops _ _ pb order calls routed
  · rw [RouterContext.Router.exec_route] at routed
    exact route_call_topic ops _ _ pb order calls routed

theorem route_passes_packet_topic_named :
    ((newStandardRouter.exec [(.registerHandler "x/y" "h" : Op String Empty)]).route
        ⟨"x/y", some ⟨some 1⟩⟩ [⟨"x/y", ["h"]⟩]).2 = some [⟨"h", ⟨"x/y"⟩⟩] ∧
      ∀ c ∈ [(⟨"h", ⟨"x/y"⟩⟩ : Call String)],
        c.publish = publishFromPacketPublish ⟨"x/y", some ⟨some 1⟩⟩ ∧ c.publish.topic = "x/y" ∧
          ((⟨"x/y", some ⟨some 1⟩⟩ : Packets.Publish).topicAlias = none ∨ "x/y" ≠ "" →
            c.publish.topic = effectiveTopic [(.registerHandler "x/y" "h" : Op String Empty)]
              ⟨"x/y", some ⟨some 1⟩⟩) :=
  ⟨rfl, route_passes_packet_topic.1 _ _ [⟨"x/y", ["h"]⟩] _ rfl⟩

end Paho
