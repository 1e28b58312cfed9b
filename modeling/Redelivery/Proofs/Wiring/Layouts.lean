/-
  Redelivery.Proofs.Wiring.Layouts
  ────────────────────────────────
  **Which layout a created topic gets.**

  The layouts of source topics are asked for by the main nodes among those
  that stand for a topic.  A main node stands for its topic unless an earlier
  chain has a node there; where it does not, nothing is known about the source
  topic, and the topics of its chain are made as if it did not exist:

      layout of a created topic  =  inheriting (layout? source)    main node kept
                                    inheriting none                main node dropped
-/
import Redelivery.Proofs.Bus.Creation
import Redelivery.Proofs.Wiring.Nodes

namespace Redelivery

/-! ## §1. What is known about source topics. -/

/-- The source topics of the main nodes among some nodes. -/
def mainsOf (nodes : List Destination) : List String :=
  (nodes.filter Destination.isMain).map Destination.source

/-- The layout of the topics behind a main topic: what the configuration says, else the layout of the
main topic, else one partition and the replication that the broker prefers. -/
def AutoCreate.inheriting (ac : AutoCreate) (main : Option Layout) : Layout where
  partitions := (ac.partitions.or (main.map Layout.partitions)).getD 1
  replication := (ac.replication.or (main.map Layout.replication)).getD (-1)

/-- What is found out about the layout of a source topic. -/
def Broker.inherited? (b : Broker) (nodes : List Destination) (source : String) : Option Layout :=
  if source ∈ mainsOf nodes then b.layout? source else none

/-- What the broker is asked to create for some nodes. -/
def AutoCreate.requestsOn (ac : AutoCreate) (b : Broker) (nodes : List Destination) :
    List TopicRequest :=
  nodes.map fun d => ⟨d.name, ac.inheriting (b.inherited? nodes d.source)⟩

/-- An answer about one topic, before what is known about others. -/
theorem lookup_answer (first name : String) (layout : Option Layout) (others : KnownLayouts) :
    (layout.toList.map (first, ·) ++ others).lookup name
      = if name = first then layout.or (others.lookup name) else others.lookup name := by
  cases layout with
  | none =>
      show others.lookup name = _
      rw [Option.none_or, ite_self]
  | some l =>
      show List.lookup name ((first, l) :: others) = _
      rw [List.lookup_cons]
      by_cases hname : name = first
      · rw [if_pos hname, beq_iff_eq.2 hname]
        rfl
      · rw [if_neg hname, beq_false_of_ne hname]

/-- **The answers about some topics are their layouts.** -/
theorem Admin.of_layouts {b : Broker} : ∀ {names : List String} {a a' : Admin}
    {known : KnownLayouts}, a.layouts b names = (.ok known, a') →
      (∀ name, known.lookup name = if name ∈ names then b.layout? name else none)
        ∧ (names ≠ [] → a'.describeFailures = 0)
        ∧ (a.describeFailures = 0 → a'.describeFailures = 0) := by
  intro names
  induction names with
  | nil =>
      intro a a' known h
      cases h
      exact ⟨fun _ => rfl, fun h => absurd rfl h, id⟩
  | cons first rest ih =>
      intro a a' known h
      unfold layouts at h
      cases hfirst : a.describeRetrying b first maxRetries with
      | mk answer a₁ =>
          rw [hfirst] at h
          cases answer with
          | error e => cases h
          | ok layout =>
              obtain ⟨rfl, hnone⟩ := of_describeRetrying maxRetries hfirst
              simp only at h
              cases hrest : a₁.layouts b rest with
              | mk answer a₂ =>
                  rw [hrest] at h
                  cases answer with
                  | error e => cases h
                  | ok others =>
                      cases h
                      obtain ⟨hknown, _, hkeeps⟩ := ih hrest
                      refine ⟨fun name => ?_, fun _ => hkeeps hnone, fun _ => hkeeps hnone⟩
                      rw [lookup_answer, hknown]
                      by_cases hname : name = first
                      · subst hname
                        rw [if_pos rfl, if_pos List.mem_cons_self]
                        split
                        · exact Option.or_self
                        · exact Option.or_none
                      · rw [if_neg hname]
                        simp [hname]

/-- Without failures all layouts are found out. -/
theorem Admin.layouts_of_no_failure {b : Broker} (names : List String) : ∀ {a : Admin},
    (names ≠ [] → a.describeFailures = 0) → ∃ known a', a.layouts b names = (.ok known, a')
      ∧ a'.createFailures = a.createFailures := by
  induction names with
  | nil => exact fun _ => ⟨[], _, rfl, rfl⟩
  | cons first rest ih =>
      intro a h
      have hnone := h (List.cons_ne_nil first rest)
      obtain ⟨known, a', hrest, hsame⟩ :=
        ih (a := { a with describeCalls := a.describeCalls + 1 }) fun _ => hnone
      unfold layouts
      rw [describeRetrying_of_no_failure hnone]
      simp only [hrest]
      exact ⟨_, _, rfl, hsame⟩

/-! ## §2. Topics that a declaration creates. -/

/-- With the answers of the broker, what is asked for is what the main topics have. -/
theorem AutoCreate.requests_eq (ac : AutoCreate) {b : Broker} {nodes : List Destination}
    {known : KnownLayouts}
    (hknown : ∀ name, known.lookup name = if name ∈ mainsOf nodes then b.layout? name else none) :
    ac.requests known nodes = ac.requestsOn b nodes := by
  apply List.map_congr_left
  intro d _
  show TopicRequest.mk d.name (ac.inheriting (known.lookup d.source)) = _
  rw [hknown]
  rfl

/-- **What a provision that succeeds does.** -/
theorem Platform.of_provision {p p' : Platform} {ac : AutoCreate} {nodes : List Destination}
    (h : p.provision ac nodes = (.ok (), p')) :
    p.broker.createIfAbsent (ac.requestsOn p.broker nodes) = (.ok (), p'.broker)
      ∧ p'.toSystem = { p.toSystem with broker := p'.broker }
      ∧ p'.admin.createFailures = 0
      ∧ (mainsOf nodes ≠ [] → p'.admin.describeFailures = 0) := by
  unfold provision at h
  cases hlayouts : p.admin.layouts p.broker ((nodes.filter Destination.isMain).map
      Destination.source) with
  | mk answer admin =>
      cases answer with
      | error e =>
          simp only [hlayouts] at h
          cases h
      | ok known =>
          obtain ⟨hknown, hdescribed, _⟩ := Admin.of_layouts hlayouts
          simp only [hlayouts, ac.requests_eq hknown] at h
          cases hcreated : admin.createRetrying p.broker (ac.requestsOn p.broker nodes)
              Admin.maxRetries with
          | mk answer rest =>
              obtain ⟨admin', broker⟩ := rest
              rw [hcreated] at h
              cases h
              obtain ⟨hok, hnone, hsame⟩ := Admin.of_createRetrying Admin.maxRetries hcreated
              exact ⟨hok, rfl, hnone, fun hmains => hsame.trans (hdescribed hmains)⟩

/-- **The topics after a provision**: those from before, and one for each name among the nodes that
had none. -/
theorem Platform.log?_of_provision {p p' : Platform} {ac : AutoCreate} {nodes : List Destination}
    (h : p.provision ac nodes = (.ok (), p')) (name : String) :
    p'.broker.log? name = (p.broker.log? name).or
      ((nodes.find? fun d => d.name == name).map fun d =>
        { name := d.name, layout := ac.inheriting (p.broker.inherited? nodes d.source) }) := by
  obtain ⟨hcreated, _⟩ := of_provision h
  have hlog := Broker.log?_createIfAbsent _ p.broker (congrArg Prod.fst hcreated) name
  rw [hcreated] at hlog
  refine hlog.trans ?_
  unfold AutoCreate.requestsOn
  rw [List.find?_map, Option.map_map]
  rfl

/-- **What a declaration with auto-creation does.** -/
theorem Platform.of_declareTopology_creating {p p' : Platform} {conf : Configuration}
    {topics : List String} {draws : Draws} {nodes : List Destination}
    (enabled : conf.autoCreate.enabled = true)
    (declared : p.declareTopology conf topics draws = (.ok nodes, p')) :
    ∃ context q, conf.buildTopology topics draws = .ok context ∧ nodes = context.topicNodes
      ∧ p.provision conf.autoCreate nodes = (.ok (), q)
      ∧ p' = { q with registry := p.registry.register context } := by
  unfold declareTopology at declared
  cases hbuild : conf.buildTopology topics draws with
  | error fault =>
      rw [hbuild] at declared
      cases declared
  | ok context =>
      rw [hbuild] at declared
      simp only [if_pos enabled] at declared
      cases hprovision : p.provision conf.autoCreate context.topicNodes with
      | mk answer q =>
          have hregistry := (p.prepared_provision conf.autoCreate context.topicNodes).2
          rw [hprovision] at declared hregistry
          cases answer with
          | error e => cases declared
          | ok u =>
              cases declared
              refine ⟨context, q, rfl, rfl, hprovision, ?_⟩
              rw [← hregistry]

/-! ## §3. Main nodes that stand for their topics. -/

/-- Among nodes of distinct names each is found by its name. -/
theorem find?_name_of_mem {nodes : List Destination} (hnames : (nodes.map Destination.name).Nodup)
    {d : Destination} (hd : d ∈ nodes) : nodes.find? (fun n => n.name == d.name) = some d := by
  cases hfound : nodes.find? fun n => n.name == d.name with
  | none => exact absurd (beq_self_eq_true d.name) (List.find?_eq_none.1 hfound d hd)
  | some first =>
      have hname := List.find?_some hfound
      rw [beq_iff_eq] at hname
      rw [List.inj_on_of_nodup_map hnames (List.mem_of_find?_eq_some hfound) hd hname]

/-- A regular chain has one main node. -/
theorem Chain.Regular.eq_main {chain : Chain} {main terminal d : Destination}
    {retries : List Destination} (h : chain.Regular main retries terminal)
    (hd : d ∈ chain.destinations) (hmain : d.isMain = true) : d = main := by
  have hrole : d.role = .main := beq_iff_eq.1 hmain
  rw [h.nodes, List.cons_append, List.mem_cons, List.mem_append, List.mem_singleton] at hd
  rcases hd with rfl | hd | rfl
  · rfl
  · rw [h.retry_roles d hd] at hrole
    cases hrole
  · have hterminal := h.terminal_role
    rw [hrole] at hterminal
    cases hterminal

/-- **The layout of a source topic is asked for exactly if no chain before its own has a node there.** -/
theorem Context.Sound.mem_mainsOf_iff {context : Context} (h : context.Sound) {registry : Registry}
    (hforce : ∀ chain ∈ context.chains, registry.chain? chain.source = some chain)
    {before after : List Chain} {chain : Chain} (hsplit : context.chains = before ++ chain :: after)
    {main terminal : Destination} {retries : List Destination}
    (hregular : chain.Regular main retries terminal) :
    chain.source ∈ mainsOf context.topicNodes
      ↔ ∀ v ∈ before.map Chain.source, ¬registry.Reaches v chain.source := by
  have hchain : chain ∈ context.chains := by
    rw [hsplit]
    simp
  have hmain : main ∈ chain.destinations := by
    rw [hregular.nodes]
    simp
  have htopic : main.hasTopic = true := by
    unfold Destination.hasTopic Destination.isNoOps
    rw [hregular.main_role]
    rfl
  have hstands := h.findSome?_eq_iff hforce hsplit (hregular.nodeOn?_name hmain htopic)
  rw [← context.find?_topicNodes, hregular.main_name] at hstands
  rw [← hstands]
  unfold mainsOf
  constructor
  · intro hmem
    obtain ⟨d, hd, hsource⟩ := List.mem_map.1 hmem
    obtain ⟨hd, hisMain⟩ := List.mem_filter.1 hd
    -- a main node of that source topic is the one of this chain
    obtain ⟨_, other, hother, hin⟩ := Context.of_mem_topicNodes hd
    have hsame : other = chain := by
      apply List.inj_on_of_nodup_map h.sources hother hchain
      rw [← (h.chains other hother).sources d hin, hsource]
    rw [hsame] at hin
    have hdmain := hregular.eq_main hin hisMain
    subst hdmain
    rw [← hregular.main_name]
    exact find?_name_of_mem context.nodup_topicNodes hd
  · intro hfound
    have hisMain : main.isMain = true := beq_iff_eq.2 hregular.main_role
    exact List.mem_map.2 ⟨main,
      List.mem_filter.2 ⟨List.mem_of_find?_eq_some hfound, hisMain⟩, hregular.sources main (by simp)⟩

/-! ## §4. The layout of a created topic. -/

/-- A created topic that is on the chain of one source topic alone gets the layout that is inherited
from that source topic. -/
theorem Platform.layout?_of_provision {p p' : Platform} {ac : AutoCreate} {context : Context}
    (hsound : context.Sound) {registry : Registry}
    (hforce : ∀ chain ∈ context.chains, registry.chain? chain.source = some chain)
    (h : p.provision ac context.topicNodes = (.ok (), p')) {chain : Chain}
    (hchain : chain ∈ context.chains) {name : String} (reaches : registry.Reaches chain.source name)
    (sole : ∀ v ∈ context.chains.map Chain.source, registry.Reaches v name → v = chain.source)
    (created : p.broker.hasTopic name = false) :
    p'.broker.layout? name
      = some (ac.inheriting (p.broker.inherited? context.topicNodes chain.source)) := by
  obtain ⟨own, hown, d, hd, htopic, rfl⟩ := reaches
  rw [hforce chain hchain] at hown
  cases hown
  have hnone : p.broker.log? d.name = none := by
    rw [Option.eq_none_iff_forall_ne_some]
    intro log hlog
    rw [(Broker.hasTopic_iff_log? d.name).2 ⟨log, hlog⟩] at created
    cases created
  -- the node that stands for the topic is on the chain of the source topic as well
  obtain ⟨first, hfirst, hname⟩ := Context.exists_topicNode hchain hd htopic
  have hfound := find?_name_of_mem context.nodup_topicNodes hfirst
  obtain ⟨htopic', other, hother, hin⟩ := Context.of_mem_topicNodes hfirst
  have hsame := sole other.source (List.mem_map_of_mem hother)
    ⟨other, hforce other hother, first, hin, htopic', hname⟩
  have hsource : first.source = chain.source :=
    ((hsound.chains other hother).sources first hin).trans hsame
  have hlog := log?_of_provision h d.name
  rw [← hname, hfound, hname, hnone, Option.none_or] at hlog
  unfold Broker.layout?
  rw [hlog, ← hsource]
  rfl

/-- **A created topic inherits the layout of its main topic unless the main node is dropped.**  For a
topic that a declaration creates, and that is on the chain of one source topic of the list alone: its
layout is what the configuration says, else that of the source topic before the call, else one
partition and the replication that the broker prefers.  This fails for the chains of source topics
that an earlier chain of the list has a node on: their topics are made as if the source topic did not
exist, so they have the layout of the rule only if the two happen to be the same. -/
theorem created_topics_inherit_unless_main_dropped {p p' : Platform} {conf : Configuration}
    {topics : List String} {draws : Draws} {nodes : List Destination}
    (enabled : conf.autoCreate.enabled = true)
    (declared : p.declareTopology conf topics draws = (.ok nodes, p')) {earlier later : List String}
    {source name : String} (listed : topics = earlier ++ source :: later)
    (reaches : p'.registry.Reaches source name)
    (sole : ∀ v ∈ topics, p'.registry.Reaches v name → v = source)
    (created : p.broker.hasTopic name = false) :
    ((∀ v ∈ earlier, ¬p'.registry.Reaches v source) →
        p'.broker.layout? name = some (conf.autoCreate.inheriting (p.broker.layout? source)))
      ∧ ((∃ v ∈ earlier, p'.registry.Reaches v source) →
        p'.broker.layout? name = some (conf.autoCreate.inheriting none))
      ∧ (p'.broker.layout? name = some (conf.autoCreate.inheriting (p.broker.layout? source))
        ↔ (∀ v ∈ earlier, ¬p'.registry.Reaches v source)
          ∨ conf.autoCreate.inheriting (p.broker.layout? source)
            = conf.autoCreate.inheriting none) := by
  obtain ⟨context, q, hbuild, rfl, hprovision, rfl⟩ :=
    Platform.of_declareTopology_creating enabled declared
  obtain ⟨hsound, hsources⟩ := Configuration.of_buildTopology hbuild
  have hforce : ∀ chain ∈ context.chains,
      (p.registry.register context).chain? chain.source = some chain :=
    fun chain hchain => p.registry.chain?_register context hsound.sources hchain
  -- the chains stand in the order of their source topics
  obtain ⟨before, rest, hsplit, rfl, hrest⟩ := List.map_eq_append_iff.1 (hsources.trans listed)
  obtain ⟨chain, after, rfl, rfl, rfl⟩ := List.map_eq_cons_iff.1 hrest
  have hchain : chain ∈ context.chains := by
    rw [hsplit]
    simp
  obtain ⟨main, retries, terminal, hregular⟩ := Configuration.regular_of_buildTopology hbuild hchain
  have hmains := hsound.mem_mainsOf_iff hforce hsplit hregular
  have hlayout := Platform.layout?_of_provision hsound hforce hprovision hchain reaches
    (hsources ▸ sole) created
  by_cases hmem : chain.source ∈ mainsOf context.topicNodes
  · have hfree := hmains.1 hmem
    rw [Broker.inherited?, if_pos hmem] at hlayout
    exact ⟨fun _ => hlayout, fun ⟨v, hv, htaken⟩ => absurd htaken (hfree v hv),
      fun _ => Or.inl hfree, fun _ => hlayout⟩
  · have htaken : ¬∀ v ∈ before.map Chain.source,
        ¬(p.registry.register context).Reaches v chain.source := fun hfree => hmem (hmains.2 hfree)
    rw [Broker.inherited?, if_neg hmem] at hlayout
    refine ⟨fun hfree => absurd hfree htaken, fun _ => hlayout, ?_⟩
    rw [hlayout, Option.some.injEq]
    exact ⟨fun heq => Or.inr heq.symm, fun h => h.elim (fun hfree => absurd hfree htaken) Eq.symm⟩

namespace Orders

/-- Both source topics exist, with layouts of their own. -/
def laidOut : Platform :=
  { broker := { topics := [{ name := "orders", layout := ⟨4, 2⟩ },
      { name := "orders-retry", layout := ⟨3, 2⟩ }] } }

/-- The platform with the chains of both topics, the second of which is on the chain of the first. -/
def laidOutBoth : Platform :=
  (laidOut.declareTopology configuration ["orders", "orders-retry"] application.draws).2

end Orders

open Orders in
/-- The dead letters of the first topic have its four partitions; those of the second, whose topic
has three, have one. -/
theorem created_topics_inherit_unless_main_dropped_of_both :
    laidOutBoth.broker.layout? "orders-dlt" = some ⟨4, 2⟩
      ∧ laidOutBoth.broker.layout? "orders-retry-dlt" = some ⟨1, -1⟩ := by
  obtain ⟨nodes, declared⟩ : ∃ nodes, laidOut.declareTopology configuration
      ["orders", "orders-retry"] application.draws = (.ok nodes, laidOutBoth) :=
    ⟨_, Prod.ext (by decide +kernel) rfl⟩
  obtain ⟨hinherits, _⟩ :=
    @created_topics_inherit_unless_main_dropped laidOut laidOutBoth configuration _ _ _ rfl declared
      [] _ "orders" "orders-dlt" rfl (by decide +kernel) (by decide +kernel) (by decide +kernel)
  obtain ⟨_, hdropped, _⟩ :=
    @created_topics_inherit_unless_main_dropped laidOut laidOutBoth configuration _ _ _ rfl declared
      ["orders"] [] "orders-retry" "orders-retry-dlt" rfl (by decide +kernel) (by decide +kernel)
      (by decide +kernel)
  have hfirst := hinherits (by decide)
  have hsecond := hdropped ⟨"orders", List.mem_singleton_self _, by decide +kernel⟩
  exact ⟨hfirst.trans (by decide +kernel), hsecond.trans (by decide)⟩

end Redelivery
