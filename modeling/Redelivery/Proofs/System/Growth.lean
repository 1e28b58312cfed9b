/-
  Redelivery.Proofs.System.Growth
  ───────────────────────────────
  **The broker of a system only grows.**

  Whoever takes a step, and whatever the step asks of the broker, logs grow
  at their ends, topics keep their layouts, and no group goes back.  So a
  topic that exists once exists for good.
-/
import Redelivery.Proofs.Bus.Traffic
import Redelivery.Proofs.System.Paths

namespace Redelivery

namespace Broker

variable {b b' : Broker}

/-- A topic that exists keeps its layout, and so it still exists. -/
theorem Grows.hasTopic (h : b.Grows b') {topic : String} (htopic : b.hasTopic topic = true) :
    b'.hasTopic topic = true := by
  obtain ⟨log, hlog⟩ := (hasTopic_iff_log? topic).1 htopic
  have hlayout := h.layout topic log.layout (congrArg (Option.map TopicLog.layout) hlog)
  obtain ⟨log', hlog', _⟩ := Option.map_eq_some_iff.1 hlayout
  exact (hasTopic_iff_log? topic).2 ⟨log', hlog'⟩

theorem grows_failNext (b : Broker) (count : Nat) : b.Grows (b.failNext count) where
  records := fun _ => List.prefix_rfl
  layout := fun _ _ h => h
  committed := fun _ _ c h => ⟨c, h, Int64.le_refl c⟩

end Broker

namespace System

variable {s s' t : System} {i : Nat} {c c' : Consumer} {a : Action} {choice : Choice}

/-! ## §1. What consumers do to the broker. -/

/-- To give a source up changes no log. -/
theorem grows_givenUp (b : Broker) (σ : Source) : b.Grows (σ.givenUp b) := by
  cases σ with
  | subscription id => exact b.grows_close id
  | feed events commits => exact .refl b

theorem grows_brokerAt (b : Broker) (σ : Source) (p : Phase) : b.Grows (σ.brokerAt p b) := by
  unfold Source.brokerAt
  split
  · exact grows_givenUp b σ
  · exact .refl b

/-- What a source gives leaves every log as it is. -/
theorem grows_of_gives {now since : Nat} {b b' : Broker} {σ σ' : Source} {polled : Polled}
    (gives : σ.Gives now since b polled b' σ') : b.Grows b' := by
  cases gives with
  | @inbox id r b' received =>
      have hgrows := b.grows_receive id
      rw [received] at hgrows
      exact hgrows
  | event ready => exact .refl b

/-- A commit changes no log, whoever takes it. -/
theorem grows_of_takes {b b' : Broker} {r : Record} {ok : Bool} {σ σ' : Source}
    (takes : σ.Takes b r ok b' σ') : b.Grows b' := by
  cases takes with
  | offset id => exact b.grows_commit _ _ _
  | told events ok rest => exact .refl b
  | silent events => exact .refl b

/-- A delivery publishes copies, or it leaves the broker alone. -/
theorem grows_of_move {consumer : Option Nat} {l : Listener} {h : Handler} {r : Record}
    {stage stage' : Stage} {d d' : Delivery}
    (move : Delivery.Move consumer l h r choice stage d stage' d') :
    stage.broker.Grows stage'.broker := by
  have hpublish : ∀ {out answer broker},
      stage.broker.publish out stage.clock.wall = (answer, broker) → stage.broker.Grows broker := by
    intro out answer broker heq
    have hgrows := Broker.grows_publish stage.broker out stage.clock.wall
    rw [heq] at hgrows
    exact hgrows
  cases move with
  | called attempt => cases h <;> exact .refl _
  | published due answer => exact hpublish answer
  | refused due answer left => exact hpublish answer
  | gaveUp due answer left => exact hpublish answer
  | _ => exact .refl _

/-- What a consumer does only adds to the broker. -/
theorem Advance.grows {b : Broker} {x : Scheduler} {entries : List JournalEntry}
    (advance : s.Advance i c a b x c' entries) : s.broker.Grows b := by
  cases advance with
  | noticed told waits => exact grows_givenUp s.broker c.source
  | polled choice phase gives => exact grows_of_gives gives
  | cancelled choice phase outcome => exact grows_givenUp s.broker c.source
  | moved phase move left plain uncommitted => exact grows_of_move move
  | concluded choice phase => exact grows_brokerAt s.broker c.source _
  | brokeDown choice phase => exact grows_givenUp s.broker c.source
  | committed choice phase takes => exact grows_of_takes takes
  | _ => exact .refl _

/-! ## §2. Every step. -/

/-- **No step takes anything back from the broker.** -/
theorem grows_of_step (h : s.step? a = some s') : s.broker.Grows s'.broker := by
  cases Effect.of_step h with
  | published r => exact s.broker.grows_publish r s.clock.wall
  | failing count => exact s.broker.grows_failNext count
  | created name layout => exact s.broker.grows_createTopic name layout
  | started l handler group ok =>
      rw [of_start ok]
      exact s.broker.grows_subscribe l.node.name group
  | advanced here advance => exact advance.grows
  -- chains, consumers of events, handles, the scheduler and time are none of the broker's business
  | _ => exact .refl _

end System

end Redelivery
