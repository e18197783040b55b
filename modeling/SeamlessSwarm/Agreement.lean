import SeamlessSwarm.Election

/-! Two nodes that hear the same announcements, each with an iteration order and
clears of its own, and whether they report the same leader. -/
namespace SeamlessSwarm

def TimedCall.announces (c : TimedCall) : Bool :=
  match c.call with
  | .observePeer _ => true
  | .observeLeader _ _ => true
  | _ => false

def announcements (calls : List TimedCall) : List TimedCall := calls.filter TimedCall.announces

/-- Two nodes have heard the same announcements, and neither claims to lead. -/
structure SameSight (a b : String) (h k : History) : Prop where
  same : announcements h.calls = announcements k.calls
  first : claims a h.calls = []
  second : claims b k.calls = []

def AgreeOnLeader (a b : String) (h k : History) (now : Nat) : Prop :=
  ∀ rows rows', ((election a h.calls).rehash rows).currentLeader now =
    ((election b k.calls).rehash rows').currentLeader now

/-- It has claimed to lead since the last clear, and was heard less than ten seconds ago. -/
def LiveClaimant (h : History) (now : Nat) (id : String) : Prop :=
  claims id (sinceClear h.calls) ≠ [] ∧ ∃ t ∈ heard id h.calls, now - t < peerTimeout

theorem claims_of_announcements (id : String) (calls : List TimedCall) :
    claims id (announcements calls) = claims id calls := by
  unfold claims announcements
  rw [List.filterMap_filter]
  apply List.filterMap_congr
  intro c _
  obtain ⟨time, call⟩ := c
  cases call <;> rfl

theorem same_claims {h k : History} (same : announcements h.calls = announcements k.calls)
    (id : String) : claims id h.calls = claims id k.calls := by
  rw [← claims_of_announcements id h.calls, same, claims_of_announcements]

theorem claimant_ne {a id : String} {h : History} (silent : claims a h.calls = []) {now : Nat}
    (live : LiveClaimant h now id) : id ≠ a := by
  rintro rfl
  have part := (sinceClear_suffix h.calls).sublist.filterMap (·.claimFrom id)
  exact live.1 (List.sublist_nil.mp (silent ▸ part))

section Observer
variable {a : String} {h : History} {now : Nat}

theorem reports_claimant_iff (silent : claims a h.calls = []) (id addr : String) :
    (∃ rows, ((election a h.calls).rehash rows).currentLeader now = some (id, addr)) ↔
      LiveClaimant h now id ∧ (claims id h.calls).getLast?.map Prod.snd = some addr := by
  rw [reported_iff]
  constructor
  · rintro ⟨_, ⟨claimed, ends⟩, recent⟩
    refine ⟨⟨?_, (heard_recent_iff id h now).mpr recent⟩, ?_⟩
    · exact List.ne_nil_of_mem (List.mem_of_getLast? ends)
    · rw [claims_last ends]
      rfl
  · rintro ⟨live, base⟩
    have ends := List.getLast?_eq_some_getLast live.1
    rw [claims_last ends] at base
    cases base
    exact ⟨claimant_ne silent live, ⟨_, ends⟩, (heard_recent_iff id h now).mp live.2⟩

theorem reports_some_claimant (silent : claims a h.calls = []) {id : String}
    (live : LiveClaimant h now id) (rows : List PeerInfo) :
    ((election a h.calls).rehash rows).currentLeader now ≠ none :=
  (reports_iff a h now rows).mpr ⟨id, claimant_ne silent live, live.1, live.2⟩

theorem claimant_address {id : String} (live : LiveClaimant h now id) :
    ∃ addr, (claims id h.calls).getLast?.map Prod.snd = some addr := by
  have ends := List.getLast?_eq_some_getLast live.1
  exact ⟨_, congrArg (Option.map Prod.snd) (claims_last ends)⟩

end Observer

theorem AgreeOnLeader.symm {a b : String} {h k : History} {now : Nat}
    (agree : AgreeOnLeader a b h k now) :
    AgreeOnLeader b a k h now :=
  fun rows rows' => (agree rows' rows).symm

theorem agreed_report {a b : String} {h k : History} {now : Nat} (sight : SameSight a b h k)
    (agree : AgreeOnLeader a b h k now) {id : String} (live : LiveClaimant h now id)
    (rows : List PeerInfo) :
    ∃ addr, ((election b k.calls).rehash rows).currentLeader now = some (id, addr) := by
  obtain ⟨addr, base⟩ := claimant_address live
  obtain ⟨order, reported⟩ := (reports_claimant_iff sight.first id addr).mpr ⟨live, base⟩
  exact ⟨addr, (agree order rows).symm.trans reported⟩

theorem SameSight.symm {a b : String} {h k : History} (sight : SameSight a b h k) :
    SameSight b a k h :=
  ⟨sight.same.symm, sight.second, sight.first⟩

/-- Two nodes report the same leader, whatever their iteration orders, exactly
when they see the same live claimants and no two of them. -/
theorem agree_on_leader_iff_one_live_claimant (a b : String) (h k : History) (now : Nat)
    (sight : SameSight a b h k) :
    AgreeOnLeader a b h k now ↔
      (∀ id, LiveClaimant h now id ↔ LiveClaimant k now id) ∧
        ∀ id id', LiveClaimant h now id → LiveClaimant h now id' → id = id' := by
  constructor
  · intro agree
    have carried {a b : String} {h k : History} (sight : SameSight a b h k)
        (agree : AgreeOnLeader a b h k now) {id : String} (live : LiveClaimant h now id) :
        LiveClaimant k now id := by
      obtain ⟨addr, reported⟩ := agreed_report sight agree live []
      exact ((reports_claimant_iff sight.second id addr).mp ⟨[], reported⟩).1
    refine ⟨fun id => ⟨carried sight agree, carried sight.symm agree.symm⟩, ?_⟩
    intro id id' live live'
    obtain ⟨addr, reported⟩ := agreed_report sight agree live []
    obtain ⟨addr', reported'⟩ := agreed_report sight agree live' []
    rw [reported] at reported'
    exact congrArg Prod.fst (Option.some.inj reported')
  · rintro ⟨shared, one⟩ rows rows'
    cases first : ((election a h.calls).rehash rows).currentLeader now with
    | none =>
      have nobody : ∀ id, ¬ LiveClaimant k now id := fun id live =>
        reports_some_claimant sight.first ((shared id).mpr live) rows first
      cases second : ((election b k.calls).rehash rows').currentLeader now with
      | none => rfl
      | some leader =>
        have live := (reports_claimant_iff sight.second leader.1 leader.2).mp ⟨rows', second⟩
        exact absurd live.1 (nobody leader.1)
    | some leader =>
      obtain ⟨live, base⟩ := (reports_claimant_iff sight.first leader.1 leader.2).mp ⟨rows, first⟩
      obtain ⟨leader', second⟩ := Option.ne_none_iff_exists'.mp
        (reports_some_claimant sight.second ((shared leader.1).mp live) rows')
      obtain ⟨live', base'⟩ :=
        (reports_claimant_iff sight.second leader'.1 leader'.2).mp ⟨rows', second⟩
      have same : leader.1 = leader'.1 := one _ _ live ((shared leader'.1).mpr live')
      rw [← same_claims sight.same, ← same, base] at base'
      rw [second, ← Prod.ext same (Option.some.inj base')]

section Example

private def quiet : History where
  calls := [⟨0, .observeLeader "a" "10.0.0.1"⟩, ⟨1, .observePeer "b"⟩]
  ordered := by decide

/-- A handover: the old and the new leader have both announced themselves lately. -/
private def rivals : History where
  calls := [⟨0, .observeLeader "a" "10.0.0.1"⟩, ⟨1, .observeLeader "b" "10.0.0.2"⟩]
  ordered := by decide

theorem one_claimant_agreed : AgreeOnLeader "c" "d" quiet quiet 5 := by
  apply (agree_on_leader_iff_one_live_claimant "c" "d" quiet quiet 5 ⟨rfl, rfl, rfl⟩).mpr
  refine ⟨fun id => Iff.rfl, ?_⟩
  have only (id : String) (live : LiveClaimant quiet 5 id) : id = "a" := by
    by_contra other
    apply live.1
    simp [claims, sinceClear, quiet, Trace.run, TimedCall.claimFrom, Ne.symm other]
  intro id id' live live'
  rw [only id live, only id' live']

theorem handover_is_not_agreed :
    SameSight "c" "d" rivals rivals ∧ ¬ AgreeOnLeader "c" "d" rivals rivals 5 := by
  refine ⟨⟨rfl, rfl, rfl⟩, ?_⟩
  intro agree
  have apart := agree [⟨"a", 0, true, some "10.0.0.1"⟩, ⟨"b", 1, true, some "10.0.0.2"⟩]
    [⟨"b", 1, true, some "10.0.0.2"⟩, ⟨"a", 0, true, some "10.0.0.1"⟩]
  revert apart
  decide +kernel

end Example

end SeamlessSwarm
