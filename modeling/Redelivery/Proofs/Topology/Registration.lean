/-
  Redelivery.Proofs.Topology.Registration
  ───────────────────────────────────────
  **What the registry holds, whatever was processed and registered before.**

  Contexts are filled and registered in any order, and some attempts to add a
  chain fail.  Every chain in force is regular: main, retries with growing
  delays, terminal.  It was built by one of the calls, and it is the chain of
  the latest context that has one for its source topic:

      registry.chain? source = registered.findSome? (·.chain? source)

  so a context without the source topic changes no decision about it.
-/
import Mathlib.Data.List.Induction
import Mathlib.Logic.Function.Basic
import Redelivery.Proofs.Topology.Context
import Redelivery.Proofs.Topology.Delays
import Redelivery.Routing

namespace Redelivery

/-! ## §1. Regular chains. -/

/-- The shape of a chain, its plain ends, and its delays. -/
structure Chain.Regular (chain : Chain) (main : Destination) (retries : List Destination)
    (terminal : Destination) : Prop extends Shaped chain.source main retries terminal where
  nodes : chain.destinations = main :: retries ++ [terminal]
  terminal_plain : terminal.reusable = false
  growing : (retries.map Destination.delay).Pairwise (· ≤ ·)
  fitting : ∀ d ∈ chain.destinations, d.delay ≤ longestDelay

/-- **Every chain that is built is regular**, and where neighbours of one delay share a node, its
delays grow strictly. -/
theorem regular_of_buildNodes {source : String} {levels : List Level} {naming : Naming}
    {built : List Destination} (h : buildNodes source levels naming = .ok built)
    (policy : Policy) :
    ∃ main retries terminal, Chain.Regular ⟨source, built, policy⟩ main retries terminal
      ∧ (naming.reuse = .single → (retries.map Destination.delay).Pairwise (· < ·)) := by
  obtain ⟨hdelays, hlongest⟩ := delays_of_checkLevels (checkLevels_of_buildNodes h)
  obtain ⟨main, inner, terminal, suffixes, rfl, _, hmain, hinner, hterminal, hlength, rfl,
    hnames, _⟩ := of_buildNodes h
  rw [innerLevels_eq] at hdelays
  have hmem := (gathered_retryRuns naming.reuse inner).level_mem
  have hretries : (retryNodes source (retryRuns naming.reuse inner) suffixes).map Destination.delay
      = (retryRuns naming.reuse inner).map fun run => run.level.delay :=
    map_retryNodes _ _ hlength fun run _ name => run.toDestination_delay source name
  refine ⟨_, _, _, ⟨shaped_of_nodes hmain (fun run hrun => hinner _ (hmem run hrun)) hterminal
    hnames, rfl, rfl, ?_, ?_⟩, ?_⟩
  · rw [hretries]
    exact delays_of_retryRuns hdelays
  · intro d hd
    have hd : d ∈ _ :: retryNodes source (retryRuns naming.reuse inner) suffixes ++ [_] := hd
    rw [List.cons_append, List.mem_cons, List.mem_append, List.mem_singleton] at hd
    -- the delay of a node is the delay of one of the levels
    rcases hd with rfl | hd | rfl
    · exact hlongest main (by simp)
    · obtain ⟨run, hrun, name, rfl⟩ := mem_retryNodes hd
      rw [run.toDestination_delay source name]
      exact hlongest run.level (by simp [hmem run hrun])
    · exact hlongest terminal (by simp)
  · intro hsingle
    rw [hretries, hsingle]
    exact strict_of_retryRuns hdelays

/-- A chain has one main node, one list of retry nodes and one terminal node. -/
theorem Chain.Regular.retries_eq {chain : Chain} {main main' terminal terminal' : Destination}
    {retries retries' : List Destination} (h : chain.Regular main retries terminal)
    (h' : chain.Regular main' retries' terminal') : retries' = retries := by
  have hnodes := h'.nodes.symm.trans h.nodes
  simp only [List.cons_append, List.cons.injEq] at hnodes
  exact (List.append_inj' hnodes.2 rfl).1

/-! ## §2. Looking up and registering. -/

/-- The chain of a source topic in a context. -/
def Context.chain? (c : Context) (source : String) : Option Chain :=
  c.chains.find? fun chain => chain.source == source

theorem Context.source_of_chain? {c : Context} {source : String} {chain : Chain}
    (h : c.chain? source = some chain) : chain ∈ c.chains ∧ chain.source = source := by
  unfold chain? at h
  have hsource := List.find?_some h
  exact ⟨List.mem_of_find?_eq_some h, beq_iff_eq.1 hsource⟩

/-- A context has no chain for a source that none of its chains has. -/
theorem Context.chain?_eq_none {c : Context} {source : String} :
    c.chain? source = none ↔ source ∉ c.chains.map Chain.source := by
  unfold chain?
  rw [List.find?_eq_none]
  simp only [List.mem_map, not_exists, not_and, beq_iff_eq]

namespace Registry

variable {r r' : Registry} {source : String}

/-- A source topic that a context does not have keeps its chain. -/
theorem chain?_register_of_not_mem {c : Context} (h : source ∉ c.chains.map Chain.source) :
    (r.register c).chain? source = r.chain? source := by
  unfold register
  -- induction on the chains that are left to put in force, none of which has this source topic
  generalize c.chains = chains at h
  induction chains generalizing r with
  | nil => rfl
  | cons first rest ih =>
      rw [List.map_cons, List.mem_cons, not_or] at h
      rw [List.foldl_cons, ih h.2, chain?_put, if_neg h.1]

/-- **Registering a context**: its chains come first. -/
theorem chain?_register_eq {c : Context} (hsources : (c.chains.map Chain.source).Nodup) :
    (r.register c).chain? source = (c.chain? source).or (r.chain? source) := by
  cases hchain : c.chain? source with
  | none => exact chain?_register_of_not_mem (Context.chain?_eq_none.1 hchain)
  | some chain =>
      obtain ⟨hmem, rfl⟩ := Context.source_of_chain? hchain
      exact r.chain?_register c hsources hmem

/-- A decision about a source topic looks at its chain alone. -/
theorem resolve_congr (h : r.chain? source = r'.chain? source) (current : String)
    (attempt : UInt32) (f : Failure) (first : Option Int64) (now : Int64) :
    r.resolve source current attempt f first now
      = r'.resolve source current attempt f first now := by
  unfold resolve
  rw [h]

end Registry

/-! ## §3. Contexts that are filled and registered. -/

/-- A registry, and the contexts that are being filled, by number. -/
structure Planning where
  contexts : Nat → Context := fun _ => {}
  registry : Registry := {}
  /-- What has been registered, the latest first. -/
  registered : List Context := []

namespace Planning

/-- Build the chain of a source topic and add it to a context, which a failure leaves as it is. -/
def process (p : Planning) (i : Nat) (source : String) (levels : List Level) (naming : Naming)
    (policy : Policy) : Except (Interruption ConfigurationFault) Unit × Planning :=
  match (p.contexts i).process source levels naming policy with
  | .error interruption => (.error interruption, p)
  | .ok context => (.ok (), { p with contexts := Function.update p.contexts i context })

/-- Put the chains of a context in force; the context is used up. -/
def register (p : Planning) (i : Nat) : Planning where
  contexts := Function.update p.contexts i {}
  registry := p.registry.register (p.contexts i)
  registered := p.contexts i :: p.registered

/-- What can be asked for. -/
inductive Call where
  | process (context : Nat) (source : String) (levels : List Level) (naming : Naming)
      (policy : Policy)
  | register (context : Nat)

/-- The state after a call. -/
def after (p : Planning) : Call → Planning
  | .process i source levels naming policy => (p.process i source levels naming policy).2
  | .register i => p.register i

/-- The state after some calls, from nothing. -/
def run (calls : List Call) : Planning := calls.foldl after {}

theorem run_concat (calls : List Call) (call : Call) :
    run (calls ++ [call]) = (run calls).after call := by
  unfold run
  simp

end Planning

/-! ## §4. What every call keeps. -/

/-- One of the calls built the chain. -/
def Chain.BuiltBy (chain : Chain) (calls : List Planning.Call) : Prop :=
  ∃ i levels naming, .process i chain.source levels naming chain.policy ∈ calls
    ∧ buildNodes chain.source levels naming = .ok chain.destinations

theorem Chain.BuiltBy.concat {chain : Chain} {calls : List Planning.Call}
    (h : chain.BuiltBy calls) (call : Planning.Call) : chain.BuiltBy (calls ++ [call]) := by
  obtain ⟨i, levels, naming, hmem, hbuilt⟩ := h
  exact ⟨i, levels, naming, List.mem_append_left [call] hmem, hbuilt⟩

/-- A context with one chain for each source topic, all of them built by some of the calls. -/
structure Context.Filled (c : Context) (calls : List Planning.Call) : Prop extends c.Sound where
  built : ∀ chain ∈ c.chains, chain.BuiltBy calls

theorem Context.filled_empty (calls : List Planning.Call) : Context.Filled {} calls :=
  ⟨Context.sound_empty, fun _ h => by cases h⟩

/-- Further calls leave a context filled. -/
theorem Context.Filled.concat {c : Context} {calls : List Planning.Call} (h : c.Filled calls)
    (call : Planning.Call) : c.Filled (calls ++ [call]) :=
  ⟨h.toSound, fun chain hchain => (h.built chain hchain).concat call⟩

/-- A chain that is added was built by the call that adds it. -/
theorem Context.Filled.process {c c' : Context} {calls : List Planning.Call} (h : c.Filled calls)
    {source : String} {levels : List Level} {naming : Naming} {policy : Policy}
    (hok : c.process source levels naming policy = .ok c') (i : Nat) :
    c'.Filled (calls ++ [.process i source levels naming policy]) := by
  refine ⟨h.toSound.process hok, fun chain hchain => ?_⟩
  obtain ⟨_, built, hbuilt, rfl⟩ := Context.process_eq_ok_iff.1 hok
  -- the chain was there before, or it is the one that is added
  rcases List.mem_append.1 hchain with hold | hnew
  · exact (h.built chain hold).concat _
  · rw [List.mem_singleton.1 hnew]
    exact ⟨i, levels, naming, by simp, hbuilt⟩

namespace Planning

/-- All contexts are filled by the calls so far, and the registry has the chains of those that were
registered, the latest first. -/
structure Sound (p : Planning) (calls : List Call) : Prop where
  contexts : ∀ i, (p.contexts i).Filled calls
  registered : ∀ c ∈ p.registered, c.Filled calls
  found : ∀ source, p.registry.chain? source = p.registered.findSome? (·.chain? source)

variable {p : Planning} {calls : List Call}

theorem sound_empty : Sound {} [] where
  contexts := fun _ => Context.filled_empty []
  registered := by simp
  found := fun _ => rfl

/-- One context is exchanged. -/
theorem Sound.filled_update (h : p.Sound calls) (call : Call) (i : Nat) {c : Context}
    (hc : c.Filled (calls ++ [call])) (j : Nat) :
    (Function.update p.contexts i c j).Filled (calls ++ [call]) := by
  by_cases hij : j = i
  · rw [hij, Function.update_self]
    exact hc
  · rw [Function.update_of_ne hij]
    exact (h.contexts j).concat call

/-- A context that is filled further stays sound, whether or not the call succeeds. -/
theorem Sound.process (h : p.Sound calls) (i : Nat) (source : String) (levels : List Level)
    (naming : Naming) (policy : Policy) :
    (p.process i source levels naming policy).2.Sound
      (calls ++ [.process i source levels naming policy]) := by
  have hregistered := fun c hc => (h.registered c hc).concat (.process i source levels naming policy)
  unfold Planning.process
  cases hprocess : (p.contexts i).process source levels naming policy with
  | error fault => exact ⟨fun j => (h.contexts j).concat _, hregistered, h.found⟩
  | ok context =>
      exact ⟨h.filled_update _ i ((h.contexts i).process hprocess i), hregistered, h.found⟩

theorem Sound.register (h : p.Sound calls) (i : Nat) :
    (p.register i).Sound (calls ++ [.register i]) where
  contexts := h.filled_update _ i (Context.filled_empty _)
  registered := by
    intro c hc
    rcases List.mem_cons.1 hc with rfl | hc
    · exact (h.contexts i).concat _
    · exact (h.registered c hc).concat _
  found := by
    intro source
    show (p.registry.register (p.contexts i)).chain? source
      = (p.contexts i :: p.registered).findSome? (·.chain? source)
    rw [Registry.chain?_register_eq (h.contexts i).sources, List.findSome?_cons, h.found]
    cases (p.contexts i).chain? source <;> rfl

/-- **What a call keeps.** -/
theorem Sound.after (h : p.Sound calls) (call : Call) : (p.after call).Sound (calls ++ [call]) := by
  cases call with
  | process i source levels naming policy => exact h.process i source levels naming policy
  | register i => exact h.register i

/-- **Whatever was called before, the contexts and the registry are sound.** -/
theorem sound_run (calls : List Call) : (run calls).Sound calls := by
  -- induction on the calls, the latest last
  induction calls using List.reverseRecOn with
  | nil => exact sound_empty
  | append_singleton calls call ih =>
      rw [run_concat]
      exact ih.after call

/-- The chain in force for a source topic is one of a registered context. -/
theorem Sound.of_chain? (h : p.Sound calls) {source : String} {chain : Chain}
    (hchain : p.registry.chain? source = some chain) :
    chain.source = source ∧ chain.BuiltBy calls := by
  rw [h.found] at hchain
  obtain ⟨c, hc, hfound⟩ := List.exists_of_findSome?_eq_some hchain
  obtain ⟨hmem, hsource⟩ := Context.source_of_chain? hfound
  exact ⟨hsource, (h.registered c hc).built chain hmem⟩

/-- **The chains in force are regular.** -/
theorem regular_of_chain? {source : String} {chain : Chain}
    (hchain : (run calls).registry.chain? source = some chain) :
    ∃ main retries terminal, chain.Regular main retries terminal := by
  obtain ⟨_, _, levels, naming, _, hbuilt⟩ := (sound_run calls).of_chain? hchain
  obtain ⟨main, retries, terminal, hregular, _⟩ := regular_of_buildNodes hbuilt chain.policy
  exact ⟨main, retries, terminal, hregular⟩

/-- **What the registry holds**, after any calls.  The chain of a source topic is one that was built
for it: the main node of that name, retry nodes, and one terminal node, with distinct names and with
delays that grow and fit, strictly where neighbours of one delay share a node; only retry nodes are
reusable.  It is the one of the latest registered context that has one.  A call that fails changes
nothing, no context has two chains of one source topic, and registering a context without the source
topic changes neither its chain nor any decision about it. -/
theorem registry_holds (calls : List Call) :
    (∀ source chain, (run calls).registry.chain? source = some chain →
      chain.source = source ∧ chain.BuiltBy calls
      ∧ ∃ main retries terminal, chain.destinations = main :: retries ++ [terminal]
        ∧ main.role = .main ∧ main.name = source ∧ (∀ d ∈ retries, d.role = .retry)
        ∧ (terminal.role = .deadLetter ∨ terminal.role = .noOps)
        ∧ (chain.destinations.map Destination.name).Nodup
        ∧ (∀ d ∈ chain.destinations, d.source = source)
        ∧ (retries.map Destination.delay).Pairwise (· ≤ ·)
        ∧ (∀ levels naming, buildNodes source levels naming = .ok chain.destinations →
            naming.reuse = .single → (retries.map Destination.delay).Pairwise (· < ·))
        ∧ (∀ d ∈ retries, d.delay.toNat ≤ 2 ^ 63 - 1)
        ∧ ∀ d ∈ chain.destinations, d.reusable = true → d.role = .retry)
    ∧ (∀ i source levels naming policy fault,
        ((run calls).process i source levels naming policy).1 = .error fault →
          ((run calls).process i source levels naming policy).2 = run calls)
    ∧ (∀ i, (((run calls).contexts i).chains.map Chain.source).Nodup)
    ∧ (∀ source, (run calls).registry.chain? source
        = (run calls).registered.findSome? (·.chain? source))
    ∧ ∀ i source, source ∉ ((run calls).contexts i).chains.map Chain.source →
        ((run calls).register i).registry.chain? source = (run calls).registry.chain? source
        ∧ ∀ current attempt f first now,
          ((run calls).register i).registry.resolve source current attempt f first now
            = (run calls).registry.resolve source current attempt f first now := by
  have hsound := sound_run calls
  refine ⟨?_, ?_, fun i => (hsound.contexts i).sources, hsound.found, ?_⟩
  · intro source chain hchain
    obtain ⟨rfl, hbuiltBy⟩ := hsound.of_chain? hchain
    obtain ⟨main, retries, terminal, hregular⟩ := regular_of_chain? hchain
    refine ⟨rfl, hbuiltBy, main, retries, terminal, hregular.nodes, hregular.main_role,
      hregular.main_name, hregular.retry_roles, ?_, ?_, ?_, hregular.growing, ?_, ?_, ?_⟩
    · have hterminal := hregular.terminal_role
      cases hrole : terminal.role <;> simp_all [Role.isTerminal]
    · rw [hregular.nodes]
      exact hregular.names
    · rw [hregular.nodes]
      exact hregular.sources
    · intro levels naming hbuilt hsingle
      -- the nodes have one main node, one terminal node and one list of retry nodes
      obtain ⟨main', retries', terminal', hregular', hstrict⟩ :=
        regular_of_buildNodes hbuilt chain.policy
      rw [← hregular.retries_eq hregular']
      exact hstrict hsingle
    · intro d hd
      have hfits := hregular.fitting d (by rw [hregular.nodes]; simp [hd])
      exact UInt64.le_iff_toNat_le.1 hfits
    · intro d hd hreusable
      rw [hregular.nodes, List.cons_append, List.mem_cons, List.mem_append,
        List.mem_singleton] at hd
      rcases hd with rfl | hd | rfl
      · rw [hregular.main_plain] at hreusable
        cases hreusable
      · exact hregular.retry_roles d hd
      · rw [hregular.terminal_plain] at hreusable
        cases hreusable
  · intro i source levels naming policy fault hfault
    unfold Planning.process at hfault ⊢
    cases hprocess : ((run calls).contexts i).process source levels naming policy with
    | error fault => rfl
    | ok context =>
        rw [hprocess] at hfault
        cases hfault
  · intro i source hnot
    have hsame : ((run calls).register i).registry.chain? source
        = (run calls).registry.chain? source := Registry.chain?_register_of_not_mem hnot
    exact ⟨hsame, fun current attempt f first now =>
      Registry.resolve_congr hsame current attempt f first now⟩

/-- The levels of a chain whose first two delays are the same. -/
def levels : List Level := Level.forChain [10, 10, 20] 1 true true

/-- Its nodes, if levels of one delay share a node. -/
def sharing : List Destination :=
  (buildNodes "orders" levels { reuse := .single }).toOption.getD []

/-- The chain is built and put in force. -/
def building : List Call := [.process 0 "orders" levels { reuse := .single } {}, .register 0]

/-- The two retry nodes that are left have growing delays. -/
theorem registry_holds_of_sharing :
    ∃ main retries terminal, sharing = main :: retries ++ [terminal] ∧ retries.length = 2
      ∧ (retries.map Destination.delay).Pairwise (· < ·) := by
  have hchain : (run building).registry.chain? "orders" = some ⟨"orders", sharing, {}⟩ := by
    decide +kernel
  have hbuilt : buildNodes "orders" levels { reuse := .single } = .ok sharing := by decide +kernel
  obtain ⟨_, _, main, retries, terminal, hnodes, _, _, _, _, _, _, _, hstrict, _⟩ :=
    (registry_holds building).1 "orders" _ hchain
  refine ⟨main, retries, terminal, hnodes, ?_, hstrict _ _ hbuilt rfl⟩
  have hlength : sharing.length = 4 := by decide +kernel
  have hnodes : sharing = main :: retries ++ [terminal] := hnodes
  rw [hnodes] at hlength
  simpa using hlength

end Planning

/-! ## §5. The chains of a pass. -/

/-- **The chains of a pass are regular.** -/
theorem Configuration.regular_of_buildTopology {c : Configuration} {topics : List String}
    {draws : Draws} {context : Context} (h : c.buildTopology topics draws = .ok context)
    {chain : Chain} (hchain : chain ∈ context.chains) :
    ∃ main retries terminal, chain.Regular main retries terminal := by
  obtain ⟨_, _, _, _, _, _, hbuilds⟩ := buildTopology_eq_ok_iff.1 h
  obtain ⟨main, retries, terminal, hregular, _⟩ :=
    regular_of_buildNodes (hbuilds chain hchain).1 chain.policy
  exact ⟨main, retries, terminal, hregular⟩

end Redelivery
