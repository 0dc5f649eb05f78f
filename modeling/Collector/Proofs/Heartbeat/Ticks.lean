import Collector.Proofs.Heartbeat.Codec
import Collector.Proofs.Heartbeat.Steps
import Collector.Proofs.Text.ByteOrder

/-!
# Ticks

At each tick of a reporter of `harvest-heartbeat` one heartbeat is attempted for every
application that is served by then, in the order of the bytes of their names, and whatever
cannot be published makes no difference for the others.  The nodes are those of the
applications that were published, each with the last heartbeat that was; the writer has
taken an envelope for each heartbeat that was published.

Main statements:

* `Reporter.Tick.ordered`: applications are in the order of the bytes of their names.
* `Reporter.Account.nodes_iff`: what the coordination service holds.
* `Reporter.reported_of_reaches`: what is true of a reporter wherever it stands.
-/

namespace Collector.Reporter

variable {config : HeartbeatConfig} {machine : Heartbeat.Machine} {c : Coordination}
  {s : Reporting}

/-! ## The heartbeats of a tick -/

/-- The envelope of a heartbeat has one record, and tells whose it is. -/
theorem envelope_spec (b : Heartbeat) : (envelope b).records = [b.encode] ∧
    (envelope b).meta? Setting.host = some b.host ∧
      (envelope b).meta? Setting.app = some b.app := by
  have hne : Setting.host ≠ Setting.app := by decide
  refine ⟨rfl, ?_, ?_⟩
  · simp [envelope, Envelope.withMeta, Envelope.meta?, KeyMap.get?_insert, hne]
  · simp [envelope, Envelope.withMeta, Envelope.meta?]

theorem Tick.apps_beats (t : Tick) (host : String) :
    (t.beats machine host).map Heartbeat.app = t.served.keys := by
  simp [Tick.beats, Heartbeat.ofApps, Function.comp_def]

/-- Applications are in the order of the bytes of their names. -/
theorem Tick.ordered (t : Tick) : (t.served.keys.map bytesOf).Pairwise (· < ·) := by
  rw [List.pairwise_map, KeyMap.keys, List.pairwise_map]
  exact t.served.sorted.imp fun h => bytesOf_lt_iff.2 h

theorem Tick.of_mem_beats {t : Tick} {host : String} {b : Heartbeat}
    (hb : b ∈ t.beats machine host) :
    b.host = host ∧ b.cpuCount = machine.cpuCount ∧ b.timestamp = t.timestamp := by
  obtain ⟨app, -, rfl⟩ := List.mem_map.1 hb
  exact ⟨rfl, rfl, rfl⟩

/-- A heartbeat is that of a tick. -/
theorem Account.mem_published (h : Account config machine c s) {b : Heartbeat}
    (hb : b ∈ published s.moves) : ∃ t : Tick, b ∈ t.beats machine config.host := by
  have hmem : b ∈ attempted s.moves ++ s.stage.left :=
    List.mem_append_left _ (attempted_of_published hb)
  rw [h.tried.all] at hmem
  obtain ⟨t, -, ht⟩ := List.mem_flatMap.1 hmem
  exact ⟨t, ht⟩

/-- A heartbeat that was published is read back from its payload. -/
theorem Account.decode?_encode (h : Account config machine c s)
    (hcpus : machine.cpuCount < Nat.pow 2 Heartbeat.cpuWidth) {b : Heartbeat}
    (hb : b ∈ published s.moves) : b.host = config.host ∧ Heartbeat.decode? b.encode = some b := by
  obtain ⟨t, ht⟩ := h.mem_published hb
  obtain ⟨hhost, hcount, htime⟩ := Tick.of_mem_beats ht
  have hfits : b.Fits := ⟨hcount ▸ hcpus, htime ▸ t.fits⟩
  exact ⟨hhost, Heartbeat.decode?_eq_some_iff.2 ⟨_, b.element_encode, Heartbeat.writes_tree hfits⟩⟩

/-! ## Nodes -/

/-- The heartbeat is the last one of its application. -/
def Latest (beats : List Heartbeat) (b : Heartbeat) : Prop :=
  ∃ earlier later, beats = earlier ++ b :: later ∧ ∀ b' ∈ later, b'.app ≠ b.app

/-- What is found from the end on. -/
theorem find?_reverse_eq_some_iff {beats : List Heartbeat} {p : Heartbeat → Bool} {b : Heartbeat} :
    beats.reverse.find? p = some b ↔
      p b = true ∧ ∃ earlier later, beats = earlier ++ b :: later ∧ ∀ b' ∈ later, p b' = false := by
  rw [List.find?_eq_some_iff_append]
  refine and_congr_right fun _ => ⟨?_, ?_⟩
  · rintro ⟨later, earlier, heq, hlater⟩
    refine ⟨earlier.reverse, later.reverse, ?_, fun b' hb' => ?_⟩
    · rw [List.reverse_eq_iff] at heq
      simpa using heq
    · simpa using hlater b' (List.mem_reverse.1 hb')
  · rintro ⟨earlier, later, rfl, hlater⟩
    refine ⟨later.reverse, earlier.reverse, by simp, fun b' hb' => ?_⟩
    rw [hlater b' (List.mem_reverse.1 hb')]
    rfl

theorem latest_iff_find? {beats : List Heartbeat} {app : String} {b : Heartbeat} :
    Latest beats b ∧ b.app = app ↔ beats.reverse.find? (fun b' => b'.app = app) = some b := by
  rw [find?_reverse_eq_some_iff, decide_eq_true_eq, and_comm]
  refine and_congr_right ?_
  rintro rfl
  simp [Latest]

/-- An application that was published has one heartbeat that is the last one. -/
theorem existsUnique_latest {beats : List Heartbeat} {b : Heartbeat} (hb : b ∈ beats) :
    ∃! b', Latest beats b' ∧ b'.app = b.app := by
  simp only [latest_iff_find?]
  cases hfound : beats.reverse.find? fun b' => b'.app = b.app with
  | none =>
    have hnone := List.find?_eq_none.1 hfound b (List.mem_reverse.2 hb)
    simp at hnone
  | some b' => exact ⟨b', rfl, fun _ h => (Option.some.inj h).symm⟩

/-- What the coordination service holds: the last heartbeat of each application that was
published, and what was there before at all other paths. -/
theorem Account.nodes_iff (h : Account config machine c s)
    (htransport : config.transport = .coordination) (path : String) (node : CoordinationNode) :
    s.coordination.get? path = some node ↔
      (∃ b, Latest (published s.moves) b ∧
        path = Heartbeat.nodePath config.root config.host b.app ∧ node = ⟨b.encode, true⟩) ∨
      (∀ b ∈ published s.moves, path ≠ Heartbeat.nodePath config.root config.host b.app) ∧
        c.get? path = some node := by
  have hhost : ∀ b ∈ published s.moves, b.host = config.host := by
    intro b hb
    obtain ⟨t, ht⟩ := h.mem_published hb
    exact (Tick.of_mem_beats ht).1
  obtain ⟨-, -, hnodes⟩ := h.kept.nodes htransport
  rw [hnodes path, nodeAt?]
  cases hfound : (published s.moves).reverse.find?
      fun b => path = Heartbeat.nodePath config.root b.host b.app with
  | none =>
    have hnone : ∀ b ∈ published s.moves,
        path ≠ Heartbeat.nodePath config.root config.host b.app := by
      intro b hb
      rw [← hhost b hb]
      simpa using List.find?_eq_none.1 hfound b (List.mem_reverse.2 hb)
    rw [Option.map_none, Option.none_or]
    constructor
    · exact fun hc => .inr ⟨hnone, hc⟩
    · rintro (⟨b, ⟨earlier, later, heq, -⟩, hpath, -⟩ | ⟨-, hc⟩)
      · exact absurd hpath (hnone b (heq ▸ by simp))
      · exact hc
  | some b =>
    have hb : b ∈ published s.moves := List.mem_reverse.1 (List.mem_of_find?_eq_some hfound)
    obtain ⟨hpath, earlier, later, heq, hlater⟩ := find?_reverse_eq_some_iff.1 hfound
    rw [decide_eq_true_eq, hhost b hb] at hpath
    have hlatest : Latest (published s.moves) b := by
      refine ⟨earlier, later, heq, fun b' hb' happ => ?_⟩
      have hother := hlater b' hb'
      rw [hhost b' (heq ▸ by simp [hb']), happ, hpath] at hother
      simp at hother
    rw [Option.map_some, Option.some_or, Option.some.injEq]
    constructor
    · rintro rfl
      exact .inl ⟨b, hlatest, hpath, rfl⟩
    · rintro (⟨b', hlatest', hpath', rfl⟩ | ⟨hnone, -⟩)
      · -- both are the last one of one application
        have happ : b'.app = b.app := by
          rw [hpath, Heartbeat.nodePath_inj_app] at hpath'
          exact hpath'.symm
        rw [(existsUnique_latest hb).unique ⟨hlatest, rfl⟩ ⟨hlatest', happ⟩]
      · exact absurd hpath (hnone b hb)

/-! ## Reports -/

/-- What is true of a reporter that began with a coordination service. -/
structure Reported (config : HeartbeatConfig) (machine : Heartbeat.Machine) (c : Coordination)
    (s : Reporting) : Prop where
  /-- The reporter has begun before it ticks, with a writer that is made and started if it needs
  one, and nothing comes behind its end, at which the writer is stopped. -/
  told : Told config s.cancelled (acts s.moves) s.stage
  /-- The reporter is cancelled exactly if a cancellation was among its moves. -/
  cancelled : s.cancelled = true ↔ .cancel ∈ s.moves
  /-- The reporter ends if it is cancelled or gets no writer, and for no other reason. -/
  ends : ∀ result, s.stage = .finished result →
    .cancel ∈ s.moves ∨ ∃ e, acts s.moves = [.ask (some e)]
  /-- Until the reporter has ended it goes on, or it waits for a tick or to be cancelled. -/
  onward : (∃ result, s.stage = .finished result) ∨ s.stage = .publishing [] ∨
    ∃ t m, Step config machine s t ∧ t.moves = s.moves ++ [m] ∧ m ≠ .cancel
  /-- The heartbeats of a tick are attempted in their order, and each of them once: all of them
  if another tick comes or none is left, whichever of them were published. -/
  each : ∀ before t after, s.moves = before ++ .tick t :: after →
    round after <+: t.beats machine config.host ∧
      (ticks after ≠ [] ∨ s.stage.left = [] → round after = t.beats machine config.host)
  /-- Nothing but the heartbeats of ticks is attempted. -/
  all : attempted s.moves ++ s.stage.left = (ticks s.moves).flatMap (Tick.beats machine config.host)
  /-- The next heartbeat may or may not be published; the others are left in any case. -/
  either : ∀ b left, s.stage = .publishing (b :: left) → ∀ failure,
    (failure = none → config.transport = .coordination → c.closed = false) →
      ∃ t, Step config machine s t ∧ t.stage = .publishing left ∧
        t.moves = s.moves ++ [.attempt b failure]
  /-- A heartbeat that was published is that of this worker, and is read back from its payload. -/
  payload : ∀ b ∈ published s.moves,
    b.host = config.host ∧ Heartbeat.decode? b.encode = some b
  /-- An application that was published has one heartbeat that is the last one. -/
  latest : ∀ b ∈ published s.moves, ∃! b', Latest (published s.moves) b' ∧ b'.app = b.app
  /-- The node of an application that was published holds its last heartbeat, and all other nodes
  are those that were there before. -/
  nodes : config.transport = .coordination → s.written = [] ∧ ∀ path node,
    s.coordination.get? path = some node ↔
      (∃ b, Latest (published s.moves) b ∧
        path = Heartbeat.nodePath config.root config.host b.app ∧ node = ⟨b.encode, true⟩) ∨
      (∀ b ∈ published s.moves, path ≠ Heartbeat.nodePath config.root config.host b.app) ∧
        c.get? path = some node
  /-- The writer has taken one envelope for each heartbeat that was published. -/
  messages : config.transport = .eventLog → s.coordination = c ∧
    s.written = (published s.moves).map envelope

theorem Told.ends {cancelled : Bool} {did : List Move} {result : Except Exit Unit}
    (h : Told config cancelled did (.finished result)) :
    cancelled = true ∨ ∃ e, did = [.ask (some e)] := by
  cases h with
  | refused hcancelled => exact .inl hcancelled
  | denied e _ => exact .inr ⟨e, rfl⟩
  | stopped _ hcancelled => exact .inl hcancelled

/-- What is true of a reporter wherever it stands. -/
theorem reported_of_reaches (hcpus : machine.cpuCount < Nat.pow 2 Heartbeat.cpuWidth)
    (h : Reaches config machine { coordination := c } s) : Reported config machine c s := by
  have haccount := account_of_reaches h
  have htold := haccount.told
  refine ⟨htold, haccount.cancelled, ?_, exists_step config machine s, ?_, haccount.tried.all, ?_,
    fun _ => haccount.decode?_encode hcpus, fun _ => existsUnique_latest, ?_,
    haccount.kept.messages⟩
  · intro result hstage
    rw [hstage] at htold
    exact htold.ends.imp_left haccount.cancelled.1
  · intro before t after hmoves
    have heach := haccount.tried.each before t after hmoves
    refine ⟨⟨_, heach⟩, fun hnone => ?_⟩
    rw [← heach]
    rcases hnone with hsome | hleft
    · rw [if_neg hsome, List.append_nil]
    · rw [hleft, ite_self, List.append_nil]
  · intro b left hstage failure hopen
    refine exists_step_attempt machine hstage failure fun hfailure htransport => ?_
    rw [(haccount.kept.nodes htransport).2.1]
    exact hopen hfailure htransport
  · exact fun htransport => ⟨(haccount.kept.nodes htransport).1, haccount.nodes_iff htransport⟩

end Collector.Reporter
