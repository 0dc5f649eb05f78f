import Mathlib.Data.List.TakeWhile
import Mathlib.Logic.Relation
import Mathlib.Tactic
import Collector.Proofs.Heartbeat.Path

/-!
# The steps of a reporter

A reporter of `harvest-heartbeat` publishes heartbeats at every tick until it is
cancelled, whatever cannot be published on the way.  What it has done tells how far it is
(`Reporter.Told`), and which heartbeats of which tick it has attempted (`Reporter.Tried`);
and what was published tells what the coordination service holds and what the writer has
taken (`Reporter.Kept`).

Main statements:

* `Reporter.Told.step`, `Reporter.Tried.step`, `Reporter.Kept.step`: what one step does.
* `Reporter.account_of_reaches`: what there is to say of a reporter wherever it stands.
* `Reporter.exists_step_attempt`, `Reporter.exists_step`: a reporter is never stuck, and may
  fail to publish whatever it publishes.
-/

namespace Collector.Reporter

/-! ## What moves tell -/

namespace Move

/-- The tick that a move is, if it is one. -/
def tick? : Move → Option Tick
  | tick t => some t
  | _ => none

/-- The heartbeat that a move attempts to publish. -/
def attempt? : Move → Option Heartbeat
  | attempt h _ => some h
  | _ => none

/-- The heartbeat that a move publishes. -/
def published? : Move → Option Heartbeat
  | attempt h none => some h
  | _ => none

/-- Whether a move cancels the reporter. -/
def isCancel : Move → Bool
  | cancel => true
  | _ => false

/-- Whether a move is a tick, or an attempt to publish. -/
def isWork : Move → Bool
  | tick _ | attempt _ _ => true
  | _ => false

end Move

/-- The ticks among moves. -/
def ticks (moves : List Move) : List Tick := moves.filterMap Move.tick?

/-- The heartbeats that were to be published, one for each attempt. -/
def attempted (moves : List Move) : List Heartbeat := moves.filterMap Move.attempt?

/-- The heartbeats that were published. -/
def published (moves : List Move) : List Heartbeat := moves.filterMap Move.published?

/-- What the reporter does by itself. -/
def acts (moves : List Move) : List Move := moves.filter fun m => !m.isCancel

/-- The heartbeats that were to be published before the next tick comes. -/
def round (moves : List Move) : List Heartbeat :=
  attempted (moves.takeWhile fun m => m.tick?.isNone)

/-- The heartbeats of the last tick that a reporter has still to attempt. -/
def Stage.left : Stage → List Heartbeat
  | publishing left => left
  | _ => []

section Moves

variable (moves more : List Move)

@[simp] theorem ticks_append : ticks (moves ++ more) = ticks moves ++ ticks more :=
  List.filterMap_append

@[simp] theorem attempted_append :
    attempted (moves ++ more) = attempted moves ++ attempted more := List.filterMap_append

@[simp] theorem published_append :
    published (moves ++ more) = published moves ++ published more := List.filterMap_append

@[simp] theorem acts_append : acts (moves ++ more) = acts moves ++ acts more :=
  List.filter_append _ _

variable {moves more}

theorem mem_published {h : Heartbeat} : h ∈ published moves ↔ .attempt h none ∈ moves := by
  rw [published, List.mem_filterMap]
  constructor
  · rintro ⟨m, hm, hh⟩
    match m, hh with
    | .attempt _ none, rfl => exact hm
  · exact fun h => ⟨_, h, rfl⟩

theorem attempted_of_published {h : Heartbeat} (hmem : h ∈ published moves) :
    h ∈ attempted moves := by
  rw [attempted, List.mem_filterMap]
  exact ⟨_, mem_published.1 hmem, rfl⟩

theorem ticks_eq_nil_iff : ticks moves = [] ↔ ∀ m ∈ moves, m.tick? = none :=
  List.filterMap_eq_nil_iff

/-- A move belongs to the round unless a tick came before. -/
theorem round_concat (m : Move) :
    round (moves ++ [m]) = round moves ++ if ticks moves = [] then round [m] else [] := by
  rw [round, round]
  by_cases hnone : ticks moves = []
  · have hall : ∀ m ∈ moves, m.tick?.isNone = true := by
      intro m hm
      rw [ticks_eq_nil_iff.1 hnone m hm]
      rfl
    rw [if_pos hnone, List.takeWhile_append_of_pos hall, attempted_append,
      List.takeWhile_eq_self_iff.2 hall, round]
  · have hshort : (moves.takeWhile fun m => m.tick?.isNone).length ≠ moves.length := by
      intro hlength
      refine hnone (ticks_eq_nil_iff.2 fun m hm => ?_)
      have hall := List.takeWhile_eq_self_iff.1 ((List.takeWhile_prefix _).eq_of_length hlength)
      simpa using hall m hm
    rw [if_neg hnone, List.takeWhile_append, if_neg hshort, List.append_nil]

end Moves

/-! ## How far it is -/

variable {config : HeartbeatConfig} {machine : Heartbeat.Machine} {c : Coordination}
  {s t r : Reporting} {stage : Stage} {cancelled : Bool} {did body : List Move}

/-- How a reporter begins. -/
def opening : Transport → List Move
  | .coordination => [.enter]
  | .eventLog => [.ask none, .start]

/-- What a reporter has done by itself, by its stage: a writer is made and started before
everything else, and stopped behind everything else. -/
inductive Told (config : HeartbeatConfig) (cancelled : Bool) : List Move → Stage → Prop
  /-- A reporter that has not begun has done nothing. -/
  | fresh : Told config cancelled [] .fresh
  /-- A reporter that was cancelled before it began has refused to begin. -/
  | refused (hcancelled : cancelled = true) :
      Told config cancelled [.refuse] (.finished (.error .canceled))
  /-- A reporter that got no writer has asked for one and ended. -/
  | denied (e : ClientError) (htransport : config.transport = .eventLog) :
      Told config cancelled [.ask (some e)] (.finished (.error (writerFailed e)))
  /-- A reporter that got a writer has asked for it and not started it yet. -/
  | starting (htransport : config.transport = .eventLog) :
      Told config cancelled [.ask none] .starting
  /-- A reporter that publishes has begun, and made nothing but ticks and attempts since. -/
  | publishing {body : List Move} (left : List Heartbeat) (hbody : ∀ m ∈ body, m.isWork = true) :
      Told config cancelled (opening config.transport ++ body) (.publishing left)
  /-- A reporter that was cancelled while it published has stopped behind everything else. -/
  | stopped {body : List Move} (hbody : ∀ m ∈ body, m.isWork = true)
      (hcancelled : cancelled = true) :
      Told config cancelled (opening config.transport ++ body ++ [.leave]) (.finished (.ok ()))

/-- A cancellation does not change what was done. -/
theorem Told.cancel (h : Told config cancelled did stage) : Told config true did stage := by
  cases h with
  | fresh => exact .fresh
  | refused _ => exact .refused rfl
  | denied e htransport => exact .denied e htransport
  | starting htransport => exact .starting htransport
  | publishing left hbody => exact .publishing left hbody
  | stopped hbody _ => exact .stopped hbody rfl

theorem Told.of_fresh (h : Told config cancelled did .fresh) : did = [] := by
  cases h
  rfl

theorem Told.of_starting (h : Told config cancelled did .starting) :
    did = [.ask none] ∧ config.transport = .eventLog := by
  cases h with
  | starting htransport => exact ⟨rfl, htransport⟩

theorem Told.of_publishing {left : List Heartbeat}
    (h : Told config cancelled did (.publishing left)) :
    ∃ body, did = opening config.transport ++ body ∧ ∀ m ∈ body, m.isWork = true := by
  cases h with
  | publishing _ hbody => exact ⟨_, rfl, hbody⟩

/-- A reporter that has just begun has made the moves of the beginning and no others. -/
theorem told_opening (config : HeartbeatConfig) (cancelled : Bool) :
    Told config cancelled (opening config.transport) (.publishing []) := by
  have hnone : ∀ m ∈ ([] : List Move), m.isWork = true := nofun
  simpa using @Told.publishing config cancelled [] [] hnone

/-- A reporter that publishes may make another tick or another attempt. -/
theorem Told.work {left : List Heartbeat} (h : Told config cancelled did (.publishing left))
    {m : Move} (hm : m.isWork = true) (left' : List Heartbeat) :
    Told config cancelled (did ++ [m]) (.publishing left') := by
  obtain ⟨body, rfl, hbody⟩ := h.of_publishing
  rw [List.append_assoc]
  refine .publishing left' fun m' hm' => ?_
  rcases List.mem_append.1 hm' with hm' | hm'
  · exact hbody m' hm'
  · rwa [List.mem_singleton.1 hm']

theorem moves_of_publish {h : Heartbeat} (hpublish : publish config s h = .ok r) :
    r.moves = s.moves ∧ r.cancelled = s.cancelled := by
  unfold publish at hpublish
  split at hpublish
  · cases hnode : publishNode config.root s.coordination h with
    | error e =>
      rw [hnode] at hpublish
      cases hpublish
    | ok c =>
      rw [hnode] at hpublish
      cases hpublish
      exact ⟨rfl, rfl⟩
  · cases hpublish
    exact ⟨rfl, rfl⟩

theorem Told.step (h : Told config s.cancelled (acts s.moves) s.stage)
    (hstep : Step config machine s t) : Told config t.cancelled (acts t.moves) t.stage := by
  cases hstep with
  | cancel =>
    simp only [Reporting.after, acts_append]
    exact (List.append_nil (acts s.moves)).symm ▸ h.cancel
  | refuse hstage hcancelled =>
    rw [hstage] at h
    simp only [Reporting.after, acts_append, h.of_fresh]
    exact .refused hcancelled
  | enter hstage _ htransport =>
    rw [hstage] at h
    simp only [Reporting.after, acts_append, h.of_fresh]
    have hopening := told_opening config s.cancelled
    rwa [htransport] at hopening
  | denied e hstage _ htransport =>
    rw [hstage] at h
    simp only [Reporting.after, acts_append, h.of_fresh]
    exact .denied e htransport
  | ask hstage _ htransport =>
    rw [hstage] at h
    simp only [Reporting.after, acts_append, h.of_fresh]
    exact .starting htransport
  | start hstage =>
    rw [hstage] at h
    obtain ⟨hdid, htransport⟩ := h.of_starting
    simp only [Reporting.after, acts_append, hdid]
    have hopening := told_opening config s.cancelled
    rwa [htransport] at hopening
  | tick tick hstage =>
    rw [hstage] at h
    simp only [Reporting.after, acts_append]
    exact h.work rfl _
  | succeed hstage hpublish =>
    rw [hstage] at h
    obtain ⟨hmoves, hcancelled⟩ := moves_of_publish hpublish
    simp only [Reporting.after, acts_append, hmoves, hcancelled]
    exact h.work rfl _
  | fail e hstage =>
    rw [hstage] at h
    simp only [Reporting.after, acts_append]
    exact h.work rfl _
  | leave hstage hcancelled =>
    rw [hstage] at h
    obtain ⟨body, hdid, hbody⟩ := h.of_publishing
    simp only [Reporting.after, acts_append, hdid]
    exact .stopped hbody hcancelled

/-! ## What it has attempted -/

/-- What was attempted, if some heartbeats are left: those of all ticks, each of them once. -/
structure Tried (config : HeartbeatConfig) (machine : Heartbeat.Machine) (moves : List Move)
    (left : List Heartbeat) : Prop where
  /-- All attempts together, and what is left, are the heartbeats of all ticks. -/
  all : attempted moves ++ left = (ticks moves).flatMap (Tick.beats machine config.host)
  /-- The attempts behind a tick are the heartbeats of that tick; what is left belongs to the last
  one. -/
  each : ∀ before t after, moves = before ++ .tick t :: after →
    round after ++ (if ticks after = [] then left else []) = t.beats machine config.host

section Tried

variable {moves : List Move} {left : List Heartbeat} {m : Move}

/-- A tick is the last move, or it came before that. -/
theorem concat_eq_append_tick {before after : List Move} {tick : Tick}
    (h : moves ++ [m] = before ++ .tick tick :: after) :
    (after = [] ∧ m = .tick tick) ∨
      ∃ earlier, after = earlier ++ [m] ∧ moves = before ++ .tick tick :: earlier := by
  rcases List.eq_nil_or_concat after with rfl | ⟨earlier, last, rfl⟩
  · exact .inl ⟨rfl, List.singleton_inj.1 (List.append_inj' h rfl).2⟩
  · rw [List.concat_eq_append, ← List.cons_append, ← List.append_assoc] at h
    obtain ⟨hmoves, hlast⟩ := List.append_inj' h rfl
    cases hlast
    exact .inr ⟨earlier, List.concat_eq_append, hmoves⟩

theorem tried_nil : Tried config machine [] [] := by
  refine ⟨rfl, fun before t after h => ?_⟩
  simp at h

/-- A tick comes when nothing is left. -/
theorem Tried.tick (h : Tried config machine moves []) (t : Tick) :
    Tried config machine (moves ++ [.tick t]) (t.beats machine config.host) := by
  refine ⟨?_, fun before t' after hmoves => ?_⟩
  · have hall := h.all
    rw [List.append_nil] at hall
    rw [attempted_append, ticks_append, List.flatMap_append, ← hall]
    simp [attempted, ticks, Move.attempt?, Move.tick?]
  · rcases concat_eq_append_tick hmoves with ⟨rfl, ht⟩ | ⟨earlier, rfl, hearlier⟩
    · cases ht
      rfl
    · have heach := h.each before t' earlier hearlier
      have hsome : ticks (earlier ++ [.tick t]) ≠ [] := by simp [ticks, Move.tick?]
      rw [round_concat, if_neg hsome, show round [.tick t] = [] from rfl, ite_self, List.append_nil,
        List.append_nil, ← heach, ite_self, List.append_nil]

/-- The first one of those that are left is attempted, well or not. -/
theorem Tried.attempt {b : Heartbeat} (h : Tried config machine moves (b :: left))
    (failure : Option ClientError) :
    Tried config machine (moves ++ [.attempt b failure]) left := by
  refine ⟨?_, fun before t after hmoves => ?_⟩
  · have hall := h.all
    rw [attempted_append, ticks_append, List.flatMap_append, ← hall]
    simp [attempted, ticks, Move.attempt?, Move.tick?]
  · rcases concat_eq_append_tick hmoves with ⟨-, ht⟩ | ⟨earlier, rfl, hearlier⟩
    · cases ht
    · have heach := h.each before t earlier hearlier
      have hticks : ticks (earlier ++ [.attempt b failure]) = ticks earlier := by
        simp [ticks, Move.tick?]
      rw [round_concat, hticks, ← heach, show round [.attempt b failure] = [b] from rfl]
      split_ifs <;> simp

/-- A move that is neither a tick nor an attempt makes no difference to what was attempted. -/
theorem Tried.other (h : Tried config machine moves left) (htick : m.tick? = none)
    (hattempt : m.attempt? = none) : Tried config machine (moves ++ [m]) left := by
  have hticks : ∀ earlier, ticks (earlier ++ [m]) = ticks earlier := by simp [ticks, htick]
  have hattempted : ∀ earlier, attempted (earlier ++ [m]) = attempted earlier := by
    simp [attempted, hattempt]
  refine ⟨?_, fun before t after hmoves => ?_⟩
  · rw [hticks, hattempted]
    exact h.all
  · rcases concat_eq_append_tick hmoves with ⟨-, rfl⟩ | ⟨earlier, rfl, hearlier⟩
    · cases htick
    · have hround : round [m] = [] := by simp [round, htick, attempted, hattempt]
      rw [round_concat, hticks, hround, ite_self, List.append_nil]
      exact h.each before t earlier hearlier

theorem Tried.step (h : Tried config machine s.moves s.stage.left)
    (hstep : Step config machine s t) : Tried config machine t.moves t.stage.left := by
  cases hstep with
  | cancel => exact h.other rfl rfl
  | refuse hstage | enter hstage | denied _ hstage | ask hstage | start hstage | leave hstage =>
    rw [hstage] at h
    exact h.other rfl rfl
  | tick tick hstage =>
    rw [hstage] at h
    exact h.tick tick
  | succeed hstage hpublish =>
    rw [hstage, ← (moves_of_publish hpublish).1] at h
    exact h.attempt none
  | fail e hstage =>
    rw [hstage] at h
    exact h.attempt (some e)

end Tried

/-! ## What was published -/

/-- What the last one of the heartbeats that have this path leaves there. -/
def nodeAt? (root path : String) (beats : List Heartbeat) : Option CoordinationNode :=
  (beats.reverse.find? fun b => path = Heartbeat.nodePath root b.host b.app).map
    fun b => ⟨b.encode, true⟩

/-- What the coordination service holds, and what the writer has taken. -/
structure Kept (config : HeartbeatConfig) (c : Coordination) (s : Reporting) : Prop where
  /-- A node holds the last heartbeat that was published there. -/
  nodes : config.transport = .coordination → s.written = [] ∧ s.coordination.closed = c.closed ∧
    ∀ path, s.coordination.get? path =
      (nodeAt? config.root path (published s.moves)).or (c.get? path)
  /-- Each heartbeat that was published is in an envelope. -/
  messages : config.transport = .eventLog → s.coordination = c ∧
    s.written = (published s.moves).map envelope

theorem nodeAt?_concat (root path : String) (beats : List Heartbeat) (b : Heartbeat) :
    nodeAt? root path (beats ++ [b]) =
      if path = Heartbeat.nodePath root b.host b.app then some ⟨b.encode, true⟩
      else nodeAt? root path beats := by
  unfold nodeAt?
  rw [List.reverse_append, List.reverse_singleton, List.singleton_append, List.find?_cons]
  split_ifs with hpath <;> simp [hpath]

theorem closed_of_publishNode {root : String} {c c' : Coordination} {b : Heartbeat}
    (h : publishNode root c b = .ok c') : c'.closed = c.closed := by
  unfold publishNode Coordination.create at h
  split at h
  · cases h
  · cases h
    rfl

theorem Kept.succeed {b : Heartbeat} (h : Kept config c s) (hpublish : publish config s b = .ok r)
    (stage : Stage) : Kept config c (r.after (.attempt b none) stage) := by
  have hpublished : published (s.moves ++ [.attempt b none]) = published s.moves ++ [b] := by
    simp [published, Move.published?]
  unfold publish at hpublish
  split at hpublish
  · rename_i htransport
    cases hnode : publishNode config.root s.coordination b with
    | error e =>
      rw [hnode] at hpublish
      cases hpublish
    | ok c' =>
      rw [hnode] at hpublish
      cases hpublish
      refine ⟨fun _ => ?_, fun h' => absurd (htransport.symm.trans h') nofun⟩
      obtain ⟨hwritten, hclosed, hnodes⟩ := h.nodes htransport
      refine ⟨hwritten, (closed_of_publishNode hnode).trans hclosed, fun path => ?_⟩
      simp only [Reporting.after, hpublished, nodeAt?_concat]
      rw [Heartbeat.get?_of_publishNode hnode]
      split_ifs
      · rfl
      · exact hnodes path
  · rename_i htransport
    cases hpublish
    refine ⟨fun h' => absurd (htransport.symm.trans h') nofun, fun _ => ?_⟩
    obtain ⟨hcoordination, hwritten⟩ := h.messages htransport
    refine ⟨hcoordination, ?_⟩
    simp only [Reporting.after, hpublished, List.map_append, hwritten]
    rfl

/-- A move by which nothing is published. -/
theorem Kept.other (h : Kept config c s) {m : Move} (hm : m.published? = none)
    (hmoves : t.moves = s.moves ++ [m]) (hcoordination : t.coordination = s.coordination)
    (hwritten : t.written = s.written) : Kept config c t := by
  have hpublished : published t.moves = published s.moves := by
    rw [hmoves]
    simp [published, hm]
  refine ⟨?_, ?_⟩
  · rw [hpublished, hcoordination, hwritten]
    exact h.nodes
  · rw [hpublished, hcoordination, hwritten]
    exact h.messages

theorem Kept.step (h : Kept config c s) (hstep : Step config machine s t) : Kept config c t := by
  cases hstep with
  | succeed hstage hpublish => exact h.succeed hpublish _
  | cancel | refuse _ _ | enter _ _ _ | denied _ _ _ _ | ask _ _ _ | start _ | tick _ _
  | fail _ _ | leave _ _ => exact h.other rfl rfl rfl rfl

/-! ## What there is to say -/

/-- Any number of steps of a reporter. -/
abbrev Reaches (config : HeartbeatConfig) (machine : Heartbeat.Machine) (s t : Reporting) : Prop :=
  Relation.ReflTransGen (Step config machine) s t

/-- What there is to say of a reporter. -/
structure Account (config : HeartbeatConfig) (machine : Heartbeat.Machine) (c : Coordination)
    (s : Reporting) : Prop where
  /-- The reporter is cancelled exactly if a cancellation was among its moves. -/
  cancelled : s.cancelled = true ↔ .cancel ∈ s.moves
  /-- What the reporter has done by itself tells how far it is. -/
  told : Told config s.cancelled (acts s.moves) s.stage
  /-- The reporter has attempted the heartbeats of its ticks, but for those that are left. -/
  tried : Tried config machine s.moves s.stage.left
  /-- What was published is what the nodes and the messages show. -/
  kept : Kept config c s

theorem Account.step (h : Account config machine c s) (hstep : Step config machine s t) :
    Account config machine c t := by
  refine ⟨?_, h.told.step hstep, h.tried.step hstep, h.kept.step hstep⟩
  have hcancelled := h.cancelled
  cases hstep with
  | cancel => simp [Reporting.after]
  | succeed hstage hpublish =>
    obtain ⟨hmoves, hsame⟩ := moves_of_publish hpublish
    simpa [Reporting.after, hmoves, hsame] using hcancelled
  | refuse _ _ | enter _ _ _ | denied _ _ _ _ | ask _ _ _ | start _ | tick _ _ | fail _ _
  | leave _ _ => simpa [Reporting.after] using hcancelled

theorem account_begin (config : HeartbeatConfig) (machine : Heartbeat.Machine) (c : Coordination) :
    Account config machine c { coordination := c } := by
  refine ⟨by simp, .fresh, tried_nil, ?_, ?_⟩
  · exact fun _ => ⟨rfl, rfl, fun _ => rfl⟩
  · exact fun _ => ⟨rfl, rfl⟩

/-- What there is to say of a reporter wherever it stands. -/
theorem account_of_reaches (h : Reaches config machine { coordination := c } s) :
    Account config machine c s := by
  induction h with
  | refl => exact account_begin config machine c
  | tail _ hstep ih => exact ih.step hstep

/-! ## Going on -/

/-- Whatever heartbeat comes next may fail to be published, and may be published as long as the
coordination service is open if it is needed. -/
theorem exists_step_attempt (machine : Heartbeat.Machine) {b : Heartbeat} {left : List Heartbeat}
    (hstage : s.stage = .publishing (b :: left)) (failure : Option ClientError)
    (hopen : failure = none → config.transport = .coordination → s.coordination.closed = false) :
    ∃ t, Step config machine s t ∧ t.stage = .publishing left ∧
      t.moves = s.moves ++ [.attempt b failure] := by
  cases failure with
  | some e => exact ⟨_, .fail e hstage, rfl, rfl⟩
  | none =>
    obtain ⟨r, hpublish⟩ : ∃ r, publish config s b = .ok r := by
      unfold publish
      split
      · rename_i htransport
        obtain ⟨c', hc'⟩ := Heartbeat.exists_publishNode (hopen rfl htransport) config.root b
        rw [hc']
        exact ⟨_, rfl⟩
      · exact ⟨_, rfl⟩
    refine ⟨_, .succeed hstage hpublish, rfl, ?_⟩
    simp only [Reporting.after, (moves_of_publish hpublish).1]

/-- A reporter that has not ended goes on, or waits for a tick or to be cancelled. -/
theorem exists_step (config : HeartbeatConfig) (machine : Heartbeat.Machine) (s : Reporting) :
    (∃ result, s.stage = .finished result) ∨ s.stage = .publishing [] ∨
      ∃ t m, Step config machine s t ∧ t.moves = s.moves ++ [m] ∧ m ≠ .cancel := by
  cases hstage : s.stage with
  | finished result => exact .inl ⟨result, rfl⟩
  | fresh =>
    refine .inr (.inr ?_)
    cases hcancelled : s.cancelled with
    | true => exact ⟨_, _, .refuse hstage hcancelled, rfl, nofun⟩
    | false =>
      cases htransport : config.transport with
      | coordination => exact ⟨_, _, .enter hstage hcancelled htransport, rfl, nofun⟩
      | eventLog => exact ⟨_, _, .ask hstage hcancelled htransport, rfl, nofun⟩
  | starting => exact .inr (.inr ⟨_, _, .start hstage, rfl, nofun⟩)
  | publishing left =>
    cases left with
    | nil => exact .inr (.inl rfl)
    | cons b left => exact .inr (.inr ⟨_, _, .fail .closed hstage, rfl, nofun⟩)

end Collector.Reporter
