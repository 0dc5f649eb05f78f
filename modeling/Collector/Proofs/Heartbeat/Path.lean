import Mathlib.Tactic
import Collector.Heartbeat.Reporter
import Collector.Service.Config

/-!
# Where heartbeats meet

The node that `harvest-heartbeat` keeps for a worker and an application is named by the
two of them with a mark in between, and the mark may be part of their names as well.  So
two workers have one node if the name of one of them goes on, behind the mark, with what
the other's application begins with (`Heartbeat.Meet`); the later heartbeat then replaces
the earlier one.  The applications of one worker never meet.

Main statements:

* `Heartbeat.nodePath_eq_iff`: who has the same node.
* `Heartbeat.exists_publishNode`, `Heartbeat.get?_of_publishNode`: what a heartbeat replaces.
* `Heartbeat.nodes_apart`, `Heartbeat.nodes_meet`: both together, and two workers that meet.
-/

namespace Collector.Heartbeat

open Reporter (publishNode publishAll)

variable {root h a h' a' : String}

/-! ## Names with a mark in between -/

/-- The second host is the first one, the mark, and what the first application begins with. -/
def Shifts (h a h' a' : String) : Prop := ∃ m, h' = h ++ "!" ++ m ∧ a = m ++ "!" ++ a'

/-- The two pairs of a host and an application have one node. -/
def Meet (h a h' a' : String) : Prop :=
  h = h' ∧ a = a' ∨ Shifts h a h' a' ∨ Shifts h' a' h a

theorem shifts_of_toList {m : List Char} (hhost : h'.toList = h.toList ++ '!' :: m)
    (happ : a.toList = m ++ '!' :: a'.toList) : Shifts h a h' a' := by
  refine ⟨String.ofList m, ?_, ?_⟩
  · rw [← String.toList_inj, hhost]
    simp
  · rw [← String.toList_inj, happ]
    simp

/-- Two names are the same if they are cut at the same mark, or at two different ones. -/
theorem marked_eq_iff : h ++ "!" ++ a = h' ++ "!" ++ a' ↔ Meet h a h' a' := by
  constructor
  · intro heq
    have hlist : h.toList ++ '!' :: a.toList = h'.toList ++ '!' :: a'.toList := by
      simpa using congrArg String.toList heq
    rcases List.append_eq_append_iff.1 hlist with ⟨between, hhost, happ⟩ | ⟨between, hhost, happ⟩
    · cases between with
      | nil => exact .inl ⟨String.toList_inj.1 (by simpa using hhost.symm),
          String.toList_inj.1 (by simpa using happ)⟩
      | cons mark m =>
        obtain ⟨rfl, hrest⟩ := List.cons_eq_cons.1 happ
        exact .inr (.inl (shifts_of_toList hhost hrest))
    · cases between with
      | nil => exact .inl ⟨String.toList_inj.1 (by simpa using hhost),
          String.toList_inj.1 (by simpa using happ.symm)⟩
      | cons mark m =>
        obtain ⟨rfl, hrest⟩ := List.cons_eq_cons.1 happ
        exact .inr (.inr (shifts_of_toList hhost hrest))
  · rintro (⟨rfl, rfl⟩ | ⟨m, rfl, rfl⟩ | ⟨m, rfl, rfl⟩)
    · rfl
    · simp only [String.append_assoc]
    · simp only [String.append_assoc]

/-- Two workers with applications have the same node exactly in these cases. -/
theorem nodePath_eq_iff : nodePath root h a = nodePath root h' a' ↔ Meet h a h' a' := by
  rw [← marked_eq_iff]
  simp only [nodePath, String.append_assoc, String.append_right_inj]

theorem Shifts.ne_host (hshifts : Shifts h a h' a') : h ≠ h' := by
  obtain ⟨m, rfl, -⟩ := hshifts
  intro heq
  have hlength := congrArg (fun s : String => s.toList.length) heq
  simp at hlength

theorem Shifts.ne_app (hshifts : Shifts h a h' a') : a ≠ a' := by
  obtain ⟨m, -, rfl⟩ := hshifts
  intro heq
  have hlength := congrArg (fun s : String => s.toList.length) heq
  simp at hlength
  omega

theorem Shifts.marked (hshifts : Shifts h a h' a') : '!' ∈ h'.toList ∧ '!' ∈ a.toList := by
  obtain ⟨m, rfl, rfl⟩ := hshifts
  simp

/-- Different applications of one host have different nodes. -/
theorem nodePath_inj_app : nodePath root h a = nodePath root h a' ↔ a = a' := by
  rw [nodePath_eq_iff]
  constructor
  · rintro (⟨-, heq⟩ | hshifts | hshifts)
    · exact heq
    · exact absurd rfl hshifts.ne_host
    · exact absurd rfl hshifts.ne_host
  · rintro rfl
    exact .inl ⟨rfl, rfl⟩

/-! ## What a heartbeat replaces -/

variable {c c' : Coordination} {b : Heartbeat}

/-- A heartbeat is published as long as the coordination service is open. -/
theorem exists_publishNode (hopen : c.closed = false) (root : String) (b : Heartbeat) :
    ∃ c', publishNode root c b = .ok c' := by
  simp [publishNode, Coordination.create, hopen]

/-- A heartbeat takes the place of what its node held, and leaves all other nodes alone. -/
theorem get?_of_publishNode (hpublish : publishNode root c b = .ok c') (path : String) :
    c'.get? path = if path = nodePath root b.host b.app then some ⟨b.encode, true⟩
      else c.get? path := by
  unfold publishNode Coordination.create at hpublish
  split at hpublish
  · cases hpublish
  · cases hpublish
    exact KeyMap.get?_insert _ _ _ path

/-- **Nodes.**  Two pairs of a host and an application have one node if they meet.  Pairs of
which both hosts, or both applications, are without a mark do not meet unless they are the
same, nor do pairs of one host, or of one application.  And a heartbeat that is published leaves
the node of any pair alone that it does not meet, and replaces what it holds otherwise. -/
theorem nodes_apart (root : String) :
    (∀ h a h' a', nodePath root h a = nodePath root h' a' ↔ Meet h a h' a') ∧
    (∀ h a h' a', '!' ∉ h.toList ∧ '!' ∉ h'.toList ∨ '!' ∉ a.toList ∧ '!' ∉ a'.toList ∨
        h = h' ∨ a = a' → (Meet h a h' a' ↔ h = h' ∧ a = a')) ∧
    ∀ (c : Coordination) (b : Heartbeat), c.closed = false →
      ∃ c', publishNode root c b = .ok c' ∧ ∀ h a,
        (¬ Meet h a b.host b.app → c'.get? (nodePath root h a) = c.get? (nodePath root h a)) ∧
        (Meet h a b.host b.app → c'.get? (nodePath root h a) = some ⟨b.encode, true⟩) := by
  refine ⟨fun h a h' a' => nodePath_eq_iff, fun h a h' a' hplain => ?_, fun c b hopen => ?_⟩
  · refine ⟨?_, .inl⟩
    rintro (heq | hshifts | hshifts)
    · exact heq
    · obtain ⟨hhost, happ⟩ := hshifts.marked
      rcases hplain with ⟨-, hnone⟩ | ⟨hnone, -⟩ | heq | heq
      · exact absurd hhost hnone
      · exact absurd happ hnone
      · exact absurd heq hshifts.ne_host
      · exact absurd heq hshifts.ne_app
    · obtain ⟨hhost, happ⟩ := hshifts.marked
      rcases hplain with ⟨hnone, -⟩ | ⟨-, hnone⟩ | heq | heq
      · exact absurd hhost hnone
      · exact absurd happ hnone
      · exact absurd heq.symm hshifts.ne_host
      · exact absurd heq.symm hshifts.ne_app
  · obtain ⟨c', hpublish⟩ := exists_publishNode hopen root b
    refine ⟨c', hpublish, fun h a => ?_⟩
    rw [get?_of_publishNode hpublish, ← @nodePath_eq_iff root]
    exact ⟨fun happart => if_neg happart, fun hmeet => if_pos hmeet⟩

/-- Two workers have an application with a mark in its name: each of them keeps its node. -/
theorem nodes_apart_marked_app :
    ∃ c, publishNode "/h/" {} ⟨"web1", "linux", "a!b", 4, 1⟩ = .ok c ∧
      ∃ c', publishNode "/h/" c ⟨"web2", "linux", "a!b", 4, 2⟩ = .ok c' ∧
        c'.get? (nodePath "/h/" "web1" "a!b") =
          some ⟨encode ⟨"web1", "linux", "a!b", 4, 1⟩, true⟩ := by
  obtain ⟨-, happart, hpublish⟩ := nodes_apart "/h/"
  obtain ⟨c, hfirst, heach⟩ := hpublish {} ⟨"web1", "linux", "a!b", 4, 1⟩ rfl
  have hopen : c.closed = false := by
    cases hfirst
    rfl
  obtain ⟨c', hsecond, hreplaces⟩ := hpublish c ⟨"web2", "linux", "a!b", 4, 2⟩ hopen
  have hmeet : ¬ Meet "web1" "a!b" "web2" "a!b" := by
    rw [happart "web1" "a!b" "web2" "a!b" (.inl (by decide))]
    decide
  refine ⟨c, hfirst, c', hsecond, ?_⟩
  rw [(hreplaces "web1" "a!b").1 hmeet]
  exact (heach "web1" "a!b").2 (.inl ⟨rfl, rfl⟩)

/-- Two workers that the settings allow, `a` and `a!b`, have one node for their applications
`b!c` and `c`, and the heartbeat of the second one replaces that of the first. -/
theorem nodes_meet :
    let first : Heartbeat := ⟨"a", "linux", "b!c", 4, 1⟩
    let second : Heartbeat := ⟨"a!b", "linux", "c", 4, 2⟩
    (∀ host ∈ [first.host, second.host],
      ({ host := some host } : ServiceConfig).validate = .ok () ∧
        ({ host } : HeartbeatConfig).validate = .ok ()) ∧
    (first.host ≠ second.host ∧ first.app ≠ second.app) ∧
    nodePath "/h" first.host first.app = nodePath "/h" second.host second.app ∧
    (publishAll (publishNode "/h") {} [first, second]).nodes.entries =
      [("/h/a!b!c", ⟨second.encode, true⟩)] := by
  decide +kernel

end Collector.Heartbeat
