import RLib.Benchs.Outstanding

namespace RLib.Benchs

open Proto Qps Reaping

/-- The `op` of `or_bench`, made ready before the loop. -/
def orOp (testBuf : U64) (lkey : U32) : Op where
  wr := { opcode := 4 }
  sges := [⟨testBuf, 8, lkey⟩]

def orPost (testBuf : U64) (lkey : U32) (remoteAttr : RegAttr) (accepts : Nat) (drawn : U64) (flags : U32)
    (rc : SendRC) : IOCode × SendRC :=
  let index := drawn % 10000
  let op := orOp testBuf lkey
  let op := { op with wr := { op.wr with remoteAddr := remoteAttr.buf + 8 * index, rkey := remoteAttr.key } }
  rc.execute accepts op flags 0

theorem orPost_posts (testBuf : U64) (lkey : U32) (remoteAttr : RegAttr) (accepts : Nat) (drawn : U64) (flags : U32)
    (rc : SendRC) : PostsChain 1 accepts flags rc (orPost testBuf lkey remoteAttr accepts drawn flags rc) :=
  ⟨_, [], _, rfl, SendRC.countSignaled_queue _ _, rfl, by simp, rfl⟩

/-- `worker_fn` of `or_bench`. -/
def orBench (testBuf : U64) (lkey : U32) (remoteAttr : RegAttr) (orFactor : Int) : Bench U64 where
  dbFactor := 1
  orFactor := orFactor
  post := orPost testBuf lkey remoteAttr
  someChain := Nat.one_pos
  posts := orPost_posts testBuf lkey remoteAttr

inductive OpType where
  | RDMA_READ | RDMA_WRITE | ATOMIC_CAS | ATOMIC_FAA
deriving DecidableEq

def OpType.opcode : OpType → U32
  | .RDMA_READ => 4
  | .RDMA_WRITE => 0
  | .ATOMIC_CAS => 5
  | .ATOMIC_FAA => 6

/-- The `BenchOp`s of `db_bench` as they are made ready before the loop. -/
def dbOp (type : OpType) (testBuf : U64) (lkey : U32) (remoteAttr : RegAttr) (i : Fin 10) : SendWr where
  wrId := BitVec.ofNat 64 i
  opcode := type.opcode
  sgList := [⟨testBuf, 8, lkey⟩]
  remoteAddr := remoteAttr.buf
  rkey := remoteAttr.key

/-- `BenchOp::refresh`, which also draws what an atomic compares, swaps or adds. -/
def refresh (type : OpType) (testBuf : U64) (remoteAttr : RegAttr) (drawn : U64 × U64) (wr : SendWr) : SendWr :=
  let ra := remoteAttr.buf + 8 * (drawn.1 % 10000)
  let la := testBuf + 8 * (drawn.2 % 1000)
  match type with
  | .RDMA_READ => { wr with remoteAddr := ra }
  | _ => { wr with remoteAddr := ra, sgList := wr.sgList.map fun sge => { sge with addr := la } }

/-- The chain that `ops[0]` leads, with the flags on its last request. -/
def dbPost (type : OpType) (testBuf : U64) (lkey : U32) (remoteAttr : RegAttr) (accepts : Nat)
    (drawn : Fin 10 → U64 × U64) (flags : U32) (rc : SendRC) : IOCode × SendRC :=
  let ops := fun i => refresh type testBuf remoteAttr (drawn i) (dbOp type testBuf lkey remoteAttr i)
  let last := { ops 9 with sendFlags := flags }
  rc.executeBatch accepts { wr := ops 0, next := [ops 1, ops 2, ops 3, ops 4, ops 5, ops 6, ops 7, ops 8, last] }

theorem refresh_signaled (type : OpType) (testBuf : U64) (lkey : U32) (remoteAttr : RegAttr) (drawn : U64 × U64)
    (i : Fin 10) : (refresh type testBuf remoteAttr drawn (dbOp type testBuf lkey remoteAttr i)).signaled = false := by
  have plain : signaled 0 = false := by decide
  cases type with
  | _ => exact plain

theorem dbPost_posts (type : OpType) (testBuf : U64) (lkey : U32) (remoteAttr : RegAttr) (accepts : Nat)
    (drawn : Fin 10 → U64 × U64) (flags : U32) (rc : SendRC) :
    PostsChain 10 accepts flags rc (dbPost type testBuf lkey remoteAttr accepts drawn flags rc) := by
  let ops := fun i => refresh type testBuf remoteAttr (drawn i) (dbOp type testBuf lkey remoteAttr i)
  refine ⟨_, [ops 0, ops 1, ops 2, ops 3, ops 4, ops 5, ops 6, ops 7, ops 8], _, rfl,
    SendRC.countSignaled_queue _ _, rfl, ?_, rfl⟩
  intro wr member
  simp only [List.mem_cons, List.not_mem_nil, or_false] at member
  rcases member with rfl | rfl | rfl | rfl | rfl | rfl | rfl | rfl | rfl
  all_goals exact refresh_signaled _ _ _ _ _ _

/-- The loop of `worker_fn` of `db_bench`. -/
def dbBench (type : OpType) (testBuf : U64) (lkey : U32) (remoteAttr : RegAttr) (orFactor : Int) :
    Bench (Fin 10 → U64 × U64) where
  dbFactor := 10
  orFactor := orFactor
  post := dbPost type testBuf lkey remoteAttr
  someChain := by decide
  posts := dbPost_posts type testBuf lkey remoteAttr

/-- `RDMA_ASSERT(db_factor < FLAGS_or_factor && (FLAGS_or_factor % db_factor == 0))` comes before the loop. -/
def dbStart (orFactor : Int) (maxSendSz : U32) : Worker :=
  if 10 < orFactor ∧ orFactor.tmod 10 = 0 then .start maxSendSz else { Worker.start maxSendSz with phase := .aborted }

theorem orPeriod : period 1 (kRcMaxSendSz.toInt.tdiv 2) = 64 := by decide

theorem dbPeriod : period 10 (kRcMaxSendSz.toInt.tdiv 2) = 7 := by decide

/-- The worker of `or_bench` can post any number of requests a pass. -/
theorem orBench_safe_iff (testBuf : U64) (lkey : U32) (remoteAttr : RegAttr) (orFactor : Int) :
    (∀ es, Run.Throughout (Worker.step (orBench testBuf lkey remoteAttr orFactor)) Worker.Safe
      (Worker.start kRcMaxSendSz) es) ↔ 0 < orFactor ∧ orFactor < 2 ^ 31 := by
  have chains : (orBench testBuf lkey remoteAttr orFactor).chains = orFactor.toNat := by
    simp [Bench.chains, orBench]
  have fits (some : 0 < orFactor) :
      ((orBench testBuf lkey remoteAttr orFactor).pace kRcMaxSendSz some).peak ≤ 128 := by
    simp only [Pace.peak, Bench.pace, chains]
    change (if _ ≤ period 1 _ then _ else min _ (2 * period 1 _)) ≤ _
    rw [orPeriod]
    split
    · omega
    · omega
  rw [Bench.safe_runs _ 0]
  constructor
  · rintro ⟨some, int, _⟩
    rw [chains] at int
    change 1 * orFactor.toNat < _ at int
    exact ⟨some, by omega⟩
  · rintro ⟨some, int⟩
    refine ⟨some, ?_, ?_⟩
    · rw [chains]
      change 1 * orFactor.toNat < _
      omega
    · change 1 * _ ≤ 128
      rw [Nat.one_mul]
      exact fits some

/-- The worker of `db_bench` overruns the send queue with 70 requests a pass, and with more than 120. -/
theorem dbBench_safe_iff (type : OpType) (testBuf : U64) (lkey : U32) (remoteAttr : RegAttr) (orFactor : Int) :
    (∀ es, Run.Throughout (Worker.step (dbBench type testBuf lkey remoteAttr orFactor)) Worker.Safe
      (dbStart orFactor kRcMaxSendSz) es) ↔
      10 ∣ orFactor ∧ (20 ≤ orFactor ∧ orFactor ≤ 60 ∨ 80 ≤ orFactor ∧ orFactor ≤ 120) := by
  unfold dbStart
  split
  · rename_i asserted
    obtain ⟨more, whole⟩ := asserted
    have divides : 10 ∣ orFactor := Int.dvd_of_tmod_eq_zero whole
    obtain ⟨c, rfl⟩ := divides
    have chains : (dbBench type testBuf lkey remoteAttr (10 * c)).chains = c.toNat := by
      change ((10 * c + 10 - 1) / 10).toNat = _
      congr 1
      omega
    have some : 0 < 10 * c := by omega
    have peak : ((dbBench type testBuf lkey remoteAttr (10 * c)).pace kRcMaxSendSz some).peak =
        if c.toNat ≤ 7 then 2 * c.toNat - 1 else min c.toNat 14 := by
      simp only [Pace.peak, Bench.pace, chains]
      change (if _ ≤ period 10 _ then _ else min _ (2 * period 10 _)) = _
      rw [dbPeriod]
    rw [Bench.safe_runs _ fun _ => (0, 0)]
    constructor
    · rintro ⟨_, _, fits⟩
      rw [peak] at fits
      change 10 * _ ≤ 128 at fits
      refine ⟨⟨c, rfl⟩, ?_⟩
      split at fits
      · omega
      · omega
    · rintro ⟨_, sizes⟩
      refine ⟨some, ?_, ?_⟩
      · rw [chains]
        change 10 * c.toNat < _
        omega
      · rw [peak]
        change 10 * _ ≤ 128
        split
        · omega
        · omega
  · rename_i refused
    refine iff_of_false ?_ ?_
    · intro throughout
      exact (throughout []).goesOn rfl
    · rintro ⟨divides, sizes⟩
      exact refused ⟨by omega, Int.tmod_eq_zero_of_dvd divides⟩

end RLib.Benchs
