/-
  Redelivery.Proofs.Topology.Context
  ──────────────────────────────────
  **The chains of a configuration pass, and the chains in force after it.**

  A pass builds one chain for each topic, in order, and no two for one topic
  (`Context.Sound`).  Once the context is registered, the chain in force for
  each of these topics is the one that was built; the nodes with a topic are
  those of its chains, one of each name.
-/
import Redelivery.Proofs.Topology.Shape
import Redelivery.Wiring.Application

namespace Redelivery

/-! ## §1. Built chains. -/

/-- The nodes are those of the source topic, and the first one consumes it. -/
structure Chain.Sound (chain : Chain) : Prop where
  sources : ∀ d ∈ chain.destinations, d.source = chain.source
  begins : ∃ d ∈ chain.destinations, d.hasTopic = true ∧ d.name = chain.source

theorem Chain.sound_of_buildNodes {source : String} {levels : List Level} {naming : Naming}
    {built : List Destination} (h : buildNodes source levels naming = .ok built)
    (policy : Policy) : Chain.Sound ⟨source, built, policy⟩ := by
  obtain ⟨main, inner, terminal, suffixes, _, _, hmain, _, _, _, rfl, _⟩ := of_buildNodes h
  refine ⟨fun _ hd => source_of_mem_nodes hd, Destination.ofLevel source source main, ?_, ?_, rfl⟩
  · exact List.mem_cons_self
  · show (!(main.role == .noOps)) = true
    rw [hmain]
    rfl

/-- One chain for each source topic. -/
structure Context.Sound (c : Context) : Prop where
  sources : (c.chains.map Chain.source).Nodup
  chains : ∀ chain ∈ c.chains, chain.Sound

theorem Context.sound_empty : Context.Sound {} := ⟨List.nodup_nil, fun _ h => by cases h⟩

/-- **What a topic adds**: its chain, if there was none. -/
theorem Context.process_eq_ok_iff {c c' : Context} {source : String} {levels : List Level}
    {naming : Naming} {policy : Policy} :
    c.process source levels naming policy = .ok c' ↔
      source ∉ c.chains.map Chain.source
        ∧ ∃ built, buildNodes source levels naming = .ok built
          ∧ c' = ⟨c.chains ++ [⟨source, built, policy⟩]⟩ := by
  have hany : (c.chains.any fun other => other.source == source) = true
      ↔ source ∈ c.chains.map Chain.source := by
    simp only [List.any_eq_true, beq_iff_eq, List.mem_map]
  unfold process
  cases hbuilt : buildNodes source levels naming with
  | error fault =>
      constructor
      · intro h
        cases h
      · rintro ⟨_, built, hok, _⟩
        cases hok
  | ok built =>
      show (c.add ⟨source, built, policy⟩).mapError Interruption.reported = .ok c' ↔ _
      unfold add
      rw [← hany]
      split
      · rename_i hold
        exact ⟨nofun, fun h => absurd hold h.1⟩
      · rename_i hfresh
        constructor
        · rintro ⟨⟩
          exact ⟨hfresh, built, rfl, rfl⟩
        · rintro ⟨_, _, ⟨⟩, rfl⟩
          rfl

/-- **What some topics add**: a chain for each, if there was none for any. -/
theorem Context.foldlM_process_eq_ok_iff {levels : List Level} {naming : Naming} {policy : Policy}
    {topics : List String} {c c' : Context} :
    topics.foldlM (fun context topic => context.process topic levels naming policy) c = .ok c' ↔
      topics.Nodup ∧ (∀ topic ∈ topics, topic ∉ c.chains.map Chain.source)
        ∧ ∃ chains, chains.map Chain.source = topics
          ∧ (∀ chain ∈ chains, buildNodes chain.source levels naming = .ok chain.destinations
            ∧ chain.policy = policy)
          ∧ c' = ⟨c.chains ++ chains⟩ := by
  -- the context that the pass has come to is the accumulator
  induction topics generalizing c with
  | nil =>
      constructor
      · rintro ⟨⟩
        exact ⟨List.nodup_nil, by simp, [], rfl, by simp, by simp⟩
      · rintro ⟨_, _, chains, hsources, _, rfl⟩
        rw [List.map_eq_nil_iff.1 hsources, List.append_nil]
        rfl
  | cons topic rest ih =>
      rw [List.foldlM_cons, List.nodup_cons]
      constructor
      · intro hok
        cases hstep : c.process topic levels naming policy with
        | error fault =>
            rw [hstep] at hok
            cases hok
        | ok next =>
            rw [hstep] at hok
            obtain ⟨hfresh, built, hbuilt, rfl⟩ := process_eq_ok_iff.1 hstep
            obtain ⟨hnodup, hrest, chains, hsources, hbuilds, rfl⟩ := ih.1 hok
            simp only [List.map_append, List.mem_append, not_or] at hrest
            refine ⟨⟨fun hmem => (hrest topic hmem).2 (by simp), hnodup⟩, ?_,
              ⟨topic, built, policy⟩ :: chains, by rw [List.map_cons, hsources], ?_, ?_⟩
            · exact List.forall_mem_cons.2 ⟨hfresh, fun t ht => (hrest t ht).1⟩
            · exact List.forall_mem_cons.2 ⟨⟨hbuilt, rfl⟩, hbuilds⟩
            · rw [List.append_assoc, List.singleton_append]
      · rintro ⟨⟨hnot, hnodup⟩, hfresh, chains, hsources, hbuilds, rfl⟩
        obtain ⟨chain, chains, rfl, rfl, rfl⟩ := List.map_eq_cons_iff.1 hsources
        obtain ⟨⟨hbuilt, rfl⟩, hbuilds⟩ := List.forall_mem_cons.1 hbuilds
        obtain ⟨hnew, hfresh⟩ := List.forall_mem_cons.1 hfresh
        have hstep : c.process chain.source levels naming chain.policy
            = .ok ⟨c.chains ++ [chain]⟩ :=
          process_eq_ok_iff.2 ⟨hnew, chain.destinations, hbuilt, rfl⟩
        rw [hstep]
        refine ih.2 ⟨hnodup, fun t ht hmem => ?_, chains, rfl, hbuilds, ?_⟩
        · rw [List.map_append, List.mem_append] at hmem
          rcases hmem with hold | hnew
          · exact hfresh t ht hold
          · rw [List.map_singleton, List.mem_singleton] at hnew
            exact hnot (hnew ▸ ht)
        · rw [List.append_assoc, List.singleton_append]

/-- A topic breaks the pass down where its chain breaks down. -/
theorem Context.process_eq_overflow_iff {c : Context} {source : String} {levels : List Level}
    {naming : Naming} {policy : Policy} :
    c.process source levels naming policy = .error .overflow
      ↔ buildNodes source levels naming = .error .overflow := by
  unfold process
  cases buildNodes source levels naming with
  | error interruption =>
      constructor
      · rintro ⟨⟩
        rfl
      · rintro ⟨⟩
        rfl
  | ok built =>
      show (c.add ⟨source, built, policy⟩).mapError Interruption.reported = .error .overflow ↔ _
      unfold add
      split
      · exact ⟨nofun, nofun⟩
      · exact ⟨nofun, nofun⟩

/-- A topic adds its chain to sound ones. -/
theorem Context.Sound.process {c c' : Context} (h : c.Sound) {source : String}
    {levels : List Level} {naming : Naming} {policy : Policy}
    (hok : c.process source levels naming policy = .ok c') : c'.Sound := by
  obtain ⟨hfresh, built, hbuilt, rfl⟩ := Context.process_eq_ok_iff.1 hok
  refine ⟨?_, fun chain hchain => ?_⟩
  · rw [List.map_append, List.nodup_append]
    refine ⟨h.sources, List.pairwise_singleton _ _, fun a ha b hb hab => ?_⟩
    rw [List.map_singleton, List.mem_singleton] at hb
    rw [hab, hb] at ha
    exact hfresh ha
  · rcases List.mem_append.1 hchain with hold | hnew
    · exact h.chains chain hold
    · rw [List.mem_singleton.1 hnew]
      exact Chain.sound_of_buildNodes hbuilt policy

/-- **What a pass gives**: a chain for each topic, built from levels of the same delays. -/
theorem Configuration.buildTopology_eq_ok_iff {c : Configuration} {topics : List String}
    {draws : Draws} {context : Context} :
    c.buildTopology topics draws = .ok context ↔
      c.validate = .ok () ∧ topics ≠ [] ∧ topics.Nodup
        ∧ ∃ delays, c.backoff.generate c.maxAttempts draws = .ok delays
          ∧ context.chains.map Chain.source = topics
          ∧ ∀ chain ∈ context.chains,
            buildNodes chain.source (c.levels delays) c.naming = .ok chain.destinations
              ∧ chain.policy = c.policy := by
  unfold buildTopology
  cases c.validate with
  | error fault => simp
  | ok u =>
      by_cases htopics : topics = []
      · simp [htopics]
      · simp only [List.isEmpty_iff, if_neg htopics]
        cases c.backoff.generate c.maxAttempts draws with
        | error fault => simp
        | ok delays =>
            rw [Context.foldlM_process_eq_ok_iff]
            constructor
            · rintro ⟨hnodup, _, chains, hsources, hbuilds, rfl⟩
              exact ⟨trivial, htopics, hnodup, delays, rfl, hsources, hbuilds⟩
            · rintro ⟨_, _, hnodup, _, ⟨⟩, hsources, hbuilds⟩
              exact ⟨hnodup, by simp, context.chains, hsources, hbuilds, rfl⟩

/-- **A pass builds one chain for each topic.** -/
theorem Configuration.of_buildTopology {c : Configuration} {topics : List String} {draws : Draws}
    {context : Context} (h : c.buildTopology topics draws = .ok context) :
    context.Sound ∧ context.chains.map Chain.source = topics := by
  obtain ⟨_, _, hnodup, _, _, hsources, hbuilds⟩ := buildTopology_eq_ok_iff.1 h
  refine ⟨⟨?_, fun chain hchain => ?_⟩, hsources⟩
  · rw [hsources]
    exact hnodup
  · exact Chain.sound_of_buildNodes (hbuilds chain hchain).1 chain.policy

/-! ## §2. Chains in force. -/

namespace Registry

theorem chain?_put (r : Registry) (chain : Chain) (source : String) :
    (r.put chain).chain? source
      = if source = chain.source then some chain else r.chain? source := by
  unfold put chain?
  rw [List.find?_append, List.find?_filter]
  by_cases hsource : source = chain.source
  · subst hsource
    -- the old chain of the topic is taken out before the new one is put in
    have hnone : r.chains.find? (fun c => decide ((c.source != chain.source) = true ∧
        (c.source == chain.source) = true)) = none := by
      rw [List.find?_eq_none]
      intro c _ hboth
      rw [decide_eq_true_eq, bne_iff_ne, beq_iff_eq] at hboth
      exact hboth.1 hboth.2
    rw [hnone, if_pos rfl, List.find?_cons, beq_self_eq_true]
    rfl
  · have hkept : r.chains.find? (fun c => decide ((c.source != chain.source) = true ∧
        (c.source == source) = true)) = r.chains.find? fun c => c.source == source := by
      congr 1
      funext c
      rw [Bool.eq_iff_iff, decide_eq_true_eq]
      constructor
      · exact fun hboth => hboth.2
      · intro hc
        refine ⟨bne_iff_ne.2 fun heq => hsource ?_, hc⟩
        rw [← heq, beq_iff_eq.1 hc]
    rw [hkept, if_neg hsource, List.find?_cons, beq_false_of_ne fun h => hsource h.symm,
      List.find?_nil, Option.or_none]

/-- **The chains of a context are in force once it is registered.** -/
theorem chain?_register (r : Registry) (c : Context)
    (hsources : (c.chains.map Chain.source).Nodup) {chain : Chain} (hchain : chain ∈ c.chains) :
    (r.register c).chain? chain.source = some chain := by
  unfold register
  -- induction on the chains that are left to put in force: the chain is among them, or it is in force
  -- and none of them has its topic
  have hfold : ∀ (chains : List Chain) (r : Registry), (chains.map Chain.source).Nodup →
      (chain ∈ chains ∨ (chain.source ∉ chains.map Chain.source
        ∧ r.chain? chain.source = some chain)) →
      (chains.foldl put r).chain? chain.source = some chain := by
    intro chains
    induction chains with
    | nil =>
        rintro r _ (hmem | ⟨_, hr⟩)
        · cases hmem
        · exact hr
    | cons first rest ih =>
        intro r hnodup hor
        rw [List.map_cons, List.nodup_cons] at hnodup
        apply ih (r.put first) hnodup.2
        rcases hor with hmem | ⟨hnot, hr⟩
        · rcases List.mem_cons.1 hmem with rfl | hmem
          · refine Or.inr ⟨hnodup.1, ?_⟩
            rw [chain?_put, if_pos rfl]
          · exact Or.inl hmem
        · rw [List.map_cons, List.mem_cons, not_or] at hnot
          refine Or.inr ⟨hnot.2, ?_⟩
          rw [chain?_put, if_neg hnot.1]
          exact hr
  exact hfold c.chains r hsources (Or.inl hchain)

end Registry

/-! ## §3. Nodes with a topic. -/

/-- `kept` has one node for each name in `l` that is not among `seen`. -/
structure Thinned (seen : List String) (l kept : List Destination) : Prop where
  names : (kept.map Destination.name).Nodup
  sound : ∀ d ∈ kept, d ∈ l ∧ d.name ∉ seen
  complete : ∀ d ∈ l, d.name ∉ seen → ∃ d' ∈ kept, d'.name = d.name

namespace Thinned

variable {seen : List String} {first : Destination} {rest kept : List Destination}

theorem skip (h : Thinned seen rest kept) (hseen : first.name ∈ seen) :
    Thinned seen (first :: rest) kept where
  names := h.names
  sound := fun d hd => ⟨List.mem_cons_of_mem first (h.sound d hd).1, (h.sound d hd).2⟩
  complete := by
    intro d hd hnot
    rcases List.mem_cons.1 hd with rfl | hd
    · exact absurd hseen hnot
    · exact h.complete d hd hnot

theorem keep (h : Thinned (first.name :: seen) rest kept) (hfresh : first.name ∉ seen) :
    Thinned seen (first :: rest) (first :: kept) where
  names := by
    rw [List.map_cons, List.nodup_cons]
    refine ⟨fun hmem => ?_, h.names⟩
    obtain ⟨d, hd, hname⟩ := List.mem_map.1 hmem
    apply (h.sound d hd).2
    rw [hname]
    exact List.mem_cons_self
  sound := by
    intro d hd
    rcases List.mem_cons.1 hd with rfl | hd
    · exact ⟨List.mem_cons_self, hfresh⟩
    · obtain ⟨hmem, hnot⟩ := h.sound d hd
      exact ⟨List.mem_cons_of_mem first hmem, fun hseen => hnot (List.mem_cons_of_mem _ hseen)⟩
  complete := by
    intro d hd hnot
    -- a node with the name of the first one is stood for by it
    by_cases hname : d.name = first.name
    · exact ⟨first, List.mem_cons_self, hname.symm⟩
    · have hrest : d ∈ rest := by
        rcases List.mem_cons.1 hd with rfl | hd
        · exact absurd rfl hname
        · exact hd
      have hnew : d.name ∉ first.name :: seen := by
        rw [List.mem_cons, not_or]
        exact ⟨hname, hnot⟩
      obtain ⟨d', hd', heq⟩ := h.complete d hrest hnew
      exact ⟨d', List.mem_cons_of_mem first hd', heq⟩

end Thinned

theorem thinned_distinctNames_go (l : List Destination) :
    ∀ seen : List String, Thinned seen l (Context.distinctNames.go seen l) := by
  induction l with
  | nil =>
      intro seen
      exact ⟨List.nodup_nil, fun d hd => (by cases hd), fun d hd => (by cases hd)⟩
  | cons first rest ih =>
      intro seen
      unfold Context.distinctNames.go
      by_cases hseen : seen.contains first.name = true
      · rw [if_pos hseen]
        exact (ih seen).skip (List.contains_iff_mem.1 hseen)
      · rw [if_neg hseen]
        exact (ih (first.name :: seen)).keep fun hmem => hseen (List.contains_iff_mem.2 hmem)

/-- The nodes with a topic have distinct names. -/
theorem Context.nodup_topicNodes (c : Context) : (c.topicNodes.map Destination.name).Nodup :=
  (thinned_distinctNames_go _ []).names

theorem Context.of_mem_topicNodes {c : Context} {d : Destination} (hd : d ∈ c.topicNodes) :
    d.hasTopic = true ∧ ∃ chain ∈ c.chains, d ∈ chain.destinations := by
  have hmem := ((thinned_distinctNames_go _ []).sound d hd).1
  obtain ⟨hflat, htopic⟩ := List.mem_filter.1 hmem
  exact ⟨htopic, List.mem_flatMap.1 hflat⟩

/-- Every topic of a chain has its node. -/
theorem Context.exists_topicNode {c : Context} {chain : Chain} (hchain : chain ∈ c.chains)
    {d : Destination} (hd : d ∈ chain.destinations) (htopic : d.hasTopic = true) :
    ∃ d' ∈ c.topicNodes, d'.name = d.name := by
  have hmem : d ∈ (c.chains.flatMap Chain.destinations).filter Destination.hasTopic :=
    List.mem_filter.2 ⟨List.mem_flatMap.2 ⟨chain, hchain, hd⟩, htopic⟩
  exact (thinned_distinctNames_go _ []).complete d hmem List.not_mem_nil

end Redelivery
