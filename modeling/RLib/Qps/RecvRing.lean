import RLib.Qps.RecvSweep

namespace RLib.Qps

open Run Ring

variable {N : Nat} [NeZero N]

/-- A QP whose entries have just all been posted. -/
def Lane.new (entries : RecvEntries N) : Lane N :=
  { entries := entries, rq := (window entries.header N).map entries.wqe }

theorem Lane.create_ready {entries : RecvEntries N} (ready : entries.Ready) :
    Lane.create entries = some (Lane.new entries) := by
  rw [Lane.create, postRecvs_all ready]
  rfl

theorem Lane.new_fit {entries : RecvEntries N} (ready : entries.Ready) (distinct : Function.Injective entries.buffer) :
    Fit (Lane.new entries) := by
  refine ⟨ready, ?_, nofun, distinct⟩
  intro w member
  obtain ⟨a, _, rfl⟩ := List.mem_map.mp member
  exact (ready a).wqe_addr

theorem Lane.new_balanced (entries : RecvEntries N) {s : Receivers N} {i : Nat} (none : own i s.cq = []) :
    Balanced s i (Lane.new entries) := by
  refine ⟨?_, ?_⟩
  · rw [none, Lane.idle_polled rfl]
    exact List.map_map
  · rw [none, Lane.idle_unread rfl]
    rfl

theorem sweepStep_lanes {s t : Receivers N} {e : SweepEvent} (fitting : Fitting s) (happens : s.sweepStep e = some t) :
    t.lanes.length = s.lanes.length := by
  cases e with
  | arrive i msg =>
    obtain ⟨lane, w, rest, _, _, rfl⟩ := arrive_step happens
    exact List.length_set
  | begin i count =>
    obtain ⟨lane, _, _, _, _, rfl⟩ := begin_step happens
    exact List.length_set
  | deliver i =>
    obtain ⟨lane, seen, total, wc, _, _, _, _, rfl⟩ := deliver_step fitting happens
    exact List.length_set
  | finish i =>
    obtain ⟨lane, total, _, _, rfl⟩ := finish_step fitting happens
    exact List.length_set

theorem alone_pollsOwn {s t : Receivers N} {e : SweepEvent} (fitting : Fitting s) (alone : s.lanes.length = 1)
    (happens : s.sweepStep e = some t) : s.PollsOwn e := by
  cases e with
  | begin i count =>
    obtain ⟨lane, found, _⟩ := begin_step happens
    have bound := (List.getElem?_eq_some_iff.mp found).1
    intro c member
    have known := fitting.known c (List.mem_of_mem_take member)
    omega
  | _ => trivial

/-- The promise for the only QP on its CQ. -/
def Receivers.AloneKept (s : Receivers N) : Prop := ∃ lane, s.lanes = [lane] ∧ BuffersKept s 0 lane

theorem Receivers.aloneKept_iff {s : Receivers N} : s.AloneKept ↔ s.lanes.length = 1 ∧ s.Kept := by
  constructor
  · intro ⟨lane, alone, kept⟩
    refine ⟨by rw [alone, List.length_singleton], ?_⟩
    intro i l found
    obtain ⟨bound, same⟩ := List.getElem?_eq_some_iff.mp found
    simp only [alone, List.length_singleton, Nat.lt_one_iff] at bound
    subst i
    simp only [alone, List.getElem_cons_zero] at same
    exact same ▸ kept
  · intro ⟨alone, kept⟩
    obtain ⟨lane, only⟩ := List.length_eq_one_iff.mp alone
    exact ⟨lane, only, kept 0 lane (by rw [only, List.getElem?_cons_zero])⟩

def twoEntries : RecvEntries 2 :=
  ((RecvEntriesFactoryv2.create 2 (⟨4096, 8192, 5⟩ : SimpleAllocator) 16).1.toOption).getD .new

end RLib.Qps
