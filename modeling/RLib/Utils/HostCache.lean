import RLib.Common
import RLib.Foundation.Map
import RLib.Foundation.Run
import Mathlib.Data.List.DropRight

namespace RLib

open Run

/-- `Timer`, on a steady clock of nanoseconds. -/
structure Timer where
  startTime : Int
deriving DecidableEq

/-- `passed_sec()` at `now`: `duration_cast` drops what is not a whole second. -/
def Timer.passedSec (t : Timer) (now : Int) : Int := (now - t.startTime).tdiv (10 ^ 9)

namespace IPNameHelper

def npos : U64 := BitVec.allOnes 64

/-- A `std::string`; every position in it is below `npos`. -/
structure StdString where
  chars : ByteBuffer
  fits : chars.length < 2 ^ 64 - 1
deriving DecidableEq

def findFirstNotOf (s : ByteBuffer) (c : U8) : U64 := (s.findIdx? (· ≠ c)).elim npos (BitVec.ofNat 64)

def findLastNotOf (s : ByteBuffer) (c : U8) : U64 :=
  (s.reverse.findIdx? (· ≠ c)).elim npos fun i => BitVec.ofNat 64 (s.length - 1 - i)

/-- `erase(pos, n)`: at most the characters that there are. -/
def erase (s : ByteBuffer) (pos n : U64) : ByteBuffer := s.take pos.toNat ++ s.drop (pos.toNat + n.toNat)

def trimHost (host : ByteBuffer) : ByteBuffer :=
  let trimedHost := erase host 0 (findFirstNotOf host 32)
  erase trimedHost (findLastNotOf trimedHost 32 + 1) npos

/-- What `getaddrinfo` is handed, the `c_str()` of a name. -/
def cStr (name : ByteBuffer) : ByteBuffer := name.takeWhile (· ≠ 0)

/-- How the resolver answers: `getaddrinfo` fails, with the text of `errno`, or finds addresses, and `getnameinfo` turns
    each into a text or fails. -/
inductive Lookup where
  | failed (error : ByteBuffer)
  | found (addresses : List (Option ByteBuffer))
deriving DecidableEq

/-- `ip` after the loop over the addresses; a `getnameinfo` that fails leaves it as it is. -/
def numericHost (addresses : List (Option ByteBuffer)) : ByteBuffer := addresses.foldl (fun ip text => text.getD ip) []

abbrev IpCache := Finmap (fun _ : ByteBuffer => ByteBuffer × Timer)

/-- `std::map::insert`. -/
def IpCache.insertNew (ipCache : IpCache) (name : ByteBuffer) (entry : ByteBuffer × Timer) : IpCache :=
  if name ∈ ipCache then ipCache else ipCache.insert name entry

/-- A call of `host2ip`, with the clock when it looks into the cache, how the resolver answers if it is asked, and the
    clock after that. -/
structure HostCall where
  host : StdString
  now : Int
  lookup : Lookup
  answered : Int
deriving DecidableEq

def cacheLeaseSec : Int := 10

/-- The first part of `host2ip`: an entry within its lease is served, another one goes. -/
def IpCache.served (ipCache : IpCache) (trimedHost : ByteBuffer) (now : Int) : Option ByteBuffer × IpCache :=
  match ipCache.lookup trimedHost with
  | some (ip, timer) =>
    if timer.passedSec now < cacheLeaseSec then (some ip, ipCache) else (none, ipCache.erase trimedHost)
  | none => (none, ipCache)

def notFound : ByteBuffer := [110, 111, 116, 32, 102, 111, 117, 110, 100]

/-- The second part: the ip is really looked for. -/
def IpCache.resolved (ipCache : IpCache) (trimedHost : ByteBuffer) (lookup : Lookup) (answered : Int) :
    Result ByteBuffer × IpCache :=
  match lookup with
  | .failed error => (⟨.Err, error⟩, ipCache)
  | .found addresses =>
    let res := numericHost addresses
    if res ≠ [] then (⟨.Ok, res⟩, ipCache.insertNew trimedHost (res, ⟨answered⟩)) else (⟨.Err, notFound⟩, ipCache)

def IpCache.host2ip (ipCache : IpCache) (call : HostCall) : Result ByteBuffer × IpCache :=
  let trimedHost := trimHost call.host.chars
  match ipCache.served trimedHost call.now with
  | (some ip, ipCache) => (⟨.Ok, ip⟩, ipCache)
  | (none, ipCache) => ipCache.resolved trimedHost call.lookup call.answered

structure Answer where
  name : ByteBuffer
  lookup : Lookup
  time : Int
deriving DecidableEq

def Answer.Gives (a : Answer) (ip : ByteBuffer) : Prop := ∃ addresses, a.lookup = .found addresses ∧ some ip ∈ addresses

/-- `host2ip` is called again and again; `answers` are those the resolver has given. -/
structure HostRun where
  ipCache : IpCache := ∅
  answers : List Answer := []
  clock : Int

namespace HostRun

def asks (s : HostRun) (call : HostCall) : Bool := (s.ipCache.served (trimHost call.host.chars) call.now).1.isNone

def answer (call : HostCall) : Answer := ⟨cStr (trimHost call.host.chars), call.lookup, call.answered⟩

/-- One call; the clock does not go back. -/
def step (s : HostRun) (call : HostCall) : Option HostRun :=
  if s.clock ≤ call.now ∧ call.now ≤ call.answered then
    some {
      ipCache := (s.ipCache.host2ip call).2
      answers := if s.asks call then s.answers ++ [answer call] else s.answers
      clock := call.answered }
  else none

end HostRun

/-- The name without the spaces before and behind it. -/
def strip (host : ByteBuffer) : ByteBuffer := (host.dropWhile (· = 32)).rdropWhile (· = 32)

section Trim

theorem erase_front {s : ByteBuffer} (fits : s.length < 2 ^ 64 - 1) :
    erase s 0 (findFirstNotOf s 32) = s.dropWhile (· = 32) := by
  change s.drop (0 + (findFirstNotOf s 32).toNat) = _
  rw [Nat.zero_add, findFirstNotOf, List.dropWhile_eq_drop_findIdx_not]
  cases found : s.findIdx? (· ≠ 32) with
  | none =>
    have nowhere := List.findIdx?_eq_none_iff_findIdx_eq.mp found
    simp only [decide_not] at nowhere
    rw [nowhere, List.drop_length]
    exact List.drop_eq_nil_of_le (Nat.le_of_lt fits)
  | some i =>
    obtain ⟨inside, first⟩ := List.findIdx?_eq_some_iff_findIdx_eq.mp found
    simp only [decide_not] at first
    rw [first, Option.elim_some, BitVec.toNat_ofNat, Nat.mod_eq_of_lt (by omega)]

theorem erase_back {s : ByteBuffer} (fits : s.length < 2 ^ 64 - 1) :
    erase s (findLastNotOf s 32 + 1) npos = s.rdropWhile (· = 32) := by
  have rest (pos : U64) : s.drop (pos.toNat + npos.toNat) = [] :=
    List.drop_eq_nil_of_le (Nat.le_trans (Nat.le_of_lt fits) (Nat.le_add_left _ _))
  rw [erase, rest, List.append_nil, findLastNotOf, List.rdropWhile, List.dropWhile_eq_drop_findIdx_not]
  cases found : s.reverse.findIdx? (· ≠ 32) with
  | none =>
    have nowhere := List.findIdx?_eq_none_iff_findIdx_eq.mp found
    simp only [decide_not] at nowhere
    rw [nowhere, List.drop_length, Option.elim_none]
    exact List.take_zero (l := s)
  | some i =>
    obtain ⟨inside, first⟩ := List.findIdx?_eq_some_iff_findIdx_eq.mp found
    simp only [decide_not] at first
    rw [List.length_reverse] at inside
    have last : (BitVec.ofNat 64 (s.length - 1 - i) + 1).toNat = s.length - i := by
      rw [BitVec.toNat_add, BitVec.toNat_ofNat]
      change ((s.length - 1 - i) % 2 ^ 64 + 1) % 2 ^ 64 = _
      omega
    rw [first, List.reverse_drop, List.reverse_reverse, Option.elim_some, last, List.length_reverse]

theorem trimHost_eq {host : ByteBuffer} (fits : host.length < 2 ^ 64 - 1) : trimHost host = strip host := by
  have shorter : (host.dropWhile (· = 32)).length ≤ host.length := (List.dropWhile_suffix _).length_le
  rw [trimHost, erase_front fits, erase_back (Nat.lt_of_le_of_lt shorter fits), strip]

theorem strip_strip (host : ByteBuffer) : strip (strip host) = strip host := by
  have isPrefix : strip host <+: host.dropWhile (· = 32) := List.rdropWhile_prefix _ _
  have front : (strip host).dropWhile (· = 32) = strip host := by
    rw [List.dropWhile_eq_self_iff]
    intro nonempty
    rw [isPrefix.getElem nonempty]
    exact List.dropWhile_get_zero_not _ host (Nat.lt_of_lt_of_le nonempty isPrefix.length_le)
  conv_lhs => rw [strip]
  rw [front]
  exact List.rdropWhile_idempotent _ _

end Trim

theorem passedSec_lt (t : Timer) (now : Int) : t.passedSec now < cacheLeaseSec ↔ now < t.startTime + 10 * 10 ^ 9 := by
  change (now - t.startTime).tdiv (10 ^ 9) < 10 ↔ _
  by_cases later : t.startTime ≤ now
  · rw [Int.tdiv_eq_ediv_of_nonneg (by omega)]
    omega
  · have before : (now - t.startTime).tdiv (10 ^ 9) ≤ (0 : Int).tdiv (10 ^ 9) :=
      Int.tdiv_le_tdiv (by decide) (by omega)
    rw [Int.zero_tdiv] at before
    omega

theorem numericHost_mem {addresses : List (Option ByteBuffer)} (nonempty : numericHost addresses ≠ []) :
    some (numericHost addresses) ∈ addresses := by
  have last (ip : ByteBuffer) : addresses.foldl (fun ip text => text.getD ip) ip = ip ∨
      some (addresses.foldl (fun ip text => text.getD ip) ip) ∈ addresses := by
    clear nonempty
    induction addresses generalizing ip with
    | nil => exact .inl rfl
    | cons text rest ih =>
      rcases ih (text.getD ip) with unchanged | member
      · rw [List.foldl_cons, unchanged]
        cases text with
        | none => exact .inl rfl
        | some text => exact .inr List.mem_cons_self
      · exact .inr (List.mem_cons_of_mem _ member)
  exact (last []).resolve_left nonempty

namespace IpCache

variable (ipCache : IpCache) (name : ByteBuffer)

theorem served_within {ip : ByteBuffer} {timer : Timer} {now : Int} (entry : ipCache.lookup name = some (ip, timer))
    (within : now < timer.startTime + 10 * 10 ^ 9) : ipCache.served name now = (some ip, ipCache) := by
  rw [served, entry]
  exact if_pos ((passedSec_lt timer now).mpr within)

theorem served_cases (now : Int) :
    (∃ ip timer, ipCache.lookup name = some (ip, timer) ∧ now < timer.startTime + 10 * 10 ^ 9 ∧
        ipCache.served name now = (some ip, ipCache)) ∨
      ipCache.served name now = (none, ipCache.erase name) := by
  cases entry : ipCache.lookup name with
  | none =>
    right
    rw [served, entry, Map.erase_absent (Finmap.lookup_eq_none.mp entry)]
  | some entered =>
    obtain ⟨ip, timer⟩ := entered
    by_cases within : now < timer.startTime + 10 * 10 ^ 9
    · exact .inl ⟨ip, timer, rfl, within, served_within ipCache name entry within⟩
    · right
      rw [served, entry]
      exact if_neg (fun passed => within ((passedSec_lt timer now).mp passed))

theorem resolved_cases (absent : name ∉ ipCache) (lookup : Lookup) (answered : Int) :
    (∃ addresses, lookup = .found addresses ∧ numericHost addresses ≠ [] ∧
        ipCache.resolved name lookup answered = (⟨.Ok, numericHost addresses⟩,
          ipCache.insert name (numericHost addresses, ⟨answered⟩))) ∨
      ∃ error, ipCache.resolved name lookup answered = (⟨.Err, error⟩, ipCache) := by
  cases lookup with
  | failed error => exact .inr ⟨error, rfl⟩
  | found addresses =>
    by_cases nonempty : numericHost addresses ≠ []
    · refine .inl ⟨addresses, rfl, nonempty, (if_pos nonempty).trans ?_⟩
      rw [insertNew, if_neg absent]
    · exact .inr ⟨notFound, if_neg nonempty⟩

end IpCache

namespace HostRun

/-- What a call does: it is served from an entry within its lease; or the resolver is asked, and its answer becomes the
    entry of the name, or there is none afterwards. -/
inductive Does (s t : HostRun) (call : HostCall) : Prop
  | served {ip : ByteBuffer} {timer : Timer} (entry : s.ipCache.lookup (strip call.host.chars) = some (ip, timer))
      (within : call.now < timer.startTime + 10 * 10 ^ 9) (result : (s.ipCache.host2ip call).1 = ⟨.Ok, ip⟩)
      (cache : t.ipCache = s.ipCache) (answers : t.answers = s.answers)
  | found {addresses : List (Option ByteBuffer)} (lookup : call.lookup = .found addresses)
      (nonempty : numericHost addresses ≠ []) (result : (s.ipCache.host2ip call).1 = ⟨.Ok, numericHost addresses⟩)
      (cache : t.ipCache = (s.ipCache.erase (strip call.host.chars)).insert (strip call.host.chars)
        (numericHost addresses, ⟨call.answered⟩))
      (answers : t.answers = s.answers ++ [answer call])
  | failed {error : ByteBuffer} (result : (s.ipCache.host2ip call).1 = ⟨.Err, error⟩)
      (cache : t.ipCache = s.ipCache.erase (strip call.host.chars)) (answers : t.answers = s.answers ++ [answer call])

theorem step_clock {s t : HostRun} {call : HostCall} (happens : s.step call = some t) :
    s.clock ≤ call.now ∧ call.now ≤ call.answered ∧ t.clock = call.answered := by
  rw [step] at happens
  split at happens
  · rename_i clock
    cases happens
    exact ⟨clock.1, clock.2, rfl⟩
  · cases happens

theorem step_does {s t : HostRun} {call : HostCall} (happens : s.step call = some t) : Does s t call := by
  rw [step] at happens
  split at happens
  · cases happens
    have answers (asked : s.asks call = true) :
        (if s.asks call then s.answers ++ [answer call] else s.answers) = s.answers ++ [answer call] := if_pos asked
    rcases s.ipCache.served_cases (strip call.host.chars) call.now with ⟨ip, timer, entry, within, served⟩ | unserved
    · have result : s.ipCache.host2ip call = (⟨.Ok, ip⟩, s.ipCache) := by
        simp only [IpCache.host2ip, trimHost_eq call.host.fits, served]
      have unasked : ¬s.asks call := by
        simp only [asks, trimHost_eq call.host.fits, served, Option.isNone_some, Bool.false_eq_true, not_false_eq_true]
      exact .served entry within (congrArg Prod.fst result) (congrArg Prod.snd result) (if_neg unasked)
    · have result : s.ipCache.host2ip call = IpCache.resolved (s.ipCache.erase (strip call.host.chars))
          (strip call.host.chars) call.lookup call.answered := by
        simp only [IpCache.host2ip, trimHost_eq call.host.fits, unserved]
      have asked : s.asks call := by
        simp only [asks, trimHost_eq call.host.fits, unserved, Option.isNone_none]
      rcases IpCache.resolved_cases _ (strip call.host.chars) (Finmap.notMem_erase_self (s := s.ipCache)) call.lookup
        call.answered with ⟨addresses, found, nonempty, resolved⟩ | ⟨error, resolved⟩
      · rw [← result] at resolved
        exact .found found nonempty (congrArg Prod.fst resolved) (congrArg Prod.snd resolved) (answers asked)
      · rw [← result] at resolved
        exact .failed (congrArg Prod.fst resolved) (congrArg Prod.snd resolved) (answers asked)
  · cases happens

structure Backed (s : HostRun) (name ip : ByteBuffer) (timer : Timer) : Prop where
  trimed : strip name = name
  nonempty : ip ≠ []
  given : ∃ a ∈ s.answers, a.name = cStr name ∧ a.Gives ip ∧ a.time = timer.startTime

structure Valid (s : HostRun) : Prop where
  past : ∀ a ∈ s.answers, a.time ≤ s.clock
  backed : ∀ name ip timer, s.ipCache.lookup name = some (ip, timer) → s.Backed name ip timer

theorem Backed.mono {s t : HostRun} {name ip : ByteBuffer} {timer : Timer} (backed : s.Backed name ip timer)
    (more : ∀ a ∈ s.answers, a ∈ t.answers) : t.Backed name ip timer := by
  obtain ⟨trimed, nonempty, a, member, given⟩ := backed
  exact ⟨trimed, nonempty, a, more a member, given⟩

theorem answer_backed {t : HostRun} {call : HostCall} {addresses : List (Option ByteBuffer)}
    (member : answer call ∈ t.answers) (found : call.lookup = .found addresses)
    (nonempty : numericHost addresses ≠ []) :
    t.Backed (strip call.host.chars) (numericHost addresses) ⟨call.answered⟩ where
  trimed := strip_strip call.host.chars
  nonempty := nonempty
  given := by
    refine ⟨answer call, member, ?_, ⟨addresses, found, numericHost_mem nonempty⟩, rfl⟩
    rw [answer, trimHost_eq call.host.fits]

theorem Valid.past_next {s t : HostRun} {call : HostCall} (valid : s.Valid) (happens : s.step call = some t)
    (answers : t.answers = s.answers ++ [answer call]) : ∀ a ∈ t.answers, a.time ≤ t.clock := by
  obtain ⟨before, after, clock⟩ := step_clock happens
  rw [answers]
  intro a member
  rcases List.mem_append.mp member with earlier | now
  · have past := valid.past a earlier
    omega
  · rw [List.mem_singleton.mp now]
    exact clock.ge

theorem Valid.backed_erase {s t : HostRun} (valid : s.Valid) (more : ∀ a ∈ s.answers, a ∈ t.answers)
    {name other ip : ByteBuffer} {timer : Timer} (entry : (s.ipCache.erase other).lookup name = some (ip, timer)) :
    t.Backed name ip timer := by
  rw [Map.lookup_erase] at entry
  split at entry
  · cases entry
  · exact (valid.backed name ip timer entry).mono more

theorem Valid.step {s t : HostRun} {call : HostCall} (valid : s.Valid) (happens : s.step call = some t) : t.Valid := by
  cases step_does happens with
  | served _ _ _ cache answers =>
    obtain ⟨before, after, clock⟩ := step_clock happens
    constructor
    · rw [answers]
      intro a member
      have past := valid.past a member
      omega
    · rw [cache]
      intro name ip timer entry
      exact (valid.backed name ip timer entry).mono (fun a member => answers ▸ member)
  | found lookup nonempty _ cache answers =>
    have more : ∀ a ∈ s.answers ++ [answer call], a ∈ t.answers := fun a member => answers ▸ member
    refine ⟨valid.past_next happens answers, ?_⟩
    rw [cache]
    intro name ip timer entry
    rw [Map.lookup_insert] at entry
    split at entry
    · rename_i same
      subst name
      cases entry
      exact answer_backed (more _ (List.mem_append_right _ List.mem_cons_self)) lookup nonempty
    · exact valid.backed_erase (fun a member => more a (List.mem_append_left _ member)) entry
  | failed _ cache answers =>
    have more : ∀ a ∈ s.answers ++ [answer call], a ∈ t.answers := fun a member => answers ▸ member
    refine ⟨valid.past_next happens answers, ?_⟩
    rw [cache]
    intro name ip timer entry
    exact valid.backed_erase (fun a member => more a (List.mem_append_left _ member)) entry

/-- An answer less than ten seconds before a call, to its name without the spaces. -/
structure Recent (call : HostCall) (ip : ByteBuffer) (a : Answer) : Prop where
  name : a.name = cStr (strip call.host.chars)
  gives : a.Gives ip
  before : a.time ≤ call.now
  recent : call.now < a.time + 10 * 10 ^ 9

structure Fresh (s : HostRun) : Prop where
  /-- What the next call serves is recent, or the resolver answers so in the call. -/
  returned : ∀ call t, s.step call = some t → ∀ ip, (s.ipCache.host2ip call).1 = ⟨.Ok, ip⟩ → ip ≠ [] ∧
    ((∃ a ∈ s.answers, Recent call ip a) ∨
      ∃ a, t.answers = s.answers ++ [a] ∧ a.name = cStr (strip call.host.chars) ∧ a.Gives ip)
  /-- A resolution that fails or is empty leaves no entry. -/
  absent : ∀ call t, s.step call = some t → (s.ipCache.host2ip call).1.code ≠ .Ok →
    strip call.host.chars ∉ t.ipCache
  /-- What is served is the entry of the name, and so it is for each call whose name trims to the same. -/
  shared : ∀ call t, s.step call = some t → ∀ ip, (s.ipCache.host2ip call).1 = ⟨.Ok, ip⟩ →
    ∃ timer, t.ipCache.lookup (strip call.host.chars) = some (ip, timer) ∧
      ∀ call', strip call'.host.chars = strip call.host.chars → call'.now < timer.startTime + 10 * 10 ^ 9 →
        t.ipCache.host2ip call' = (⟨.Ok, ip⟩, t.ipCache)
  single : ∀ e ∈ s.ipCache.entries, ∀ e' ∈ s.ipCache.entries, strip e.1 = strip e'.1 → e = e'

theorem host2ip_within {ipCache : IpCache} {call : HostCall} {ip : ByteBuffer} {timer : Timer}
    (entry : ipCache.lookup (strip call.host.chars) = some (ip, timer))
    (within : call.now < timer.startTime + 10 * 10 ^ 9) : ipCache.host2ip call = (⟨.Ok, ip⟩, ipCache) := by
  simp only [IpCache.host2ip, trimHost_eq call.host.fits, ipCache.served_within _ entry within]

theorem Valid.returned {s t : HostRun} {call : HostCall} (valid : s.Valid) (happens : s.step call = some t)
    {ip : ByteBuffer} (ok : (s.ipCache.host2ip call).1 = ⟨.Ok, ip⟩) : ip ≠ [] ∧
      ((∃ a ∈ s.answers, Recent call ip a) ∨
        ∃ a, t.answers = s.answers ++ [a] ∧ a.name = cStr (strip call.host.chars) ∧ a.Gives ip) := by
  cases step_does happens with
  | served entry within result =>
    cases result.symm.trans ok
    obtain ⟨_, nonempty, a, member, name, gives, time⟩ := valid.backed _ _ _ entry
    have clock := (step_clock happens).1
    have past := valid.past a member
    exact ⟨nonempty, .inl ⟨a, member, name, gives, by omega, by omega⟩⟩
  | found lookup nonempty result _ answers =>
    cases result.symm.trans ok
    refine ⟨nonempty, .inr ⟨answer call, answers, ?_, _, lookup, numericHost_mem nonempty⟩⟩
    rw [answer, trimHost_eq call.host.fits]
  | failed result => cases result.symm.trans ok

theorem absent_of_err {s t : HostRun} {call : HostCall} (happens : s.step call = some t)
    (err : (s.ipCache.host2ip call).1.code ≠ .Ok) : strip call.host.chars ∉ t.ipCache := by
  cases step_does happens with
  | served _ _ result => exact absurd (congrArg Result.code result) err
  | found _ _ result => exact absurd (congrArg Result.code result) err
  | failed _ cache =>
    rw [cache]
    exact Finmap.notMem_erase_self

theorem entry_of_ok {s t : HostRun} {call : HostCall} (happens : s.step call = some t) {ip : ByteBuffer}
    (ok : (s.ipCache.host2ip call).1 = ⟨.Ok, ip⟩) :
    ∃ timer, t.ipCache.lookup (strip call.host.chars) = some (ip, timer) := by
  cases step_does happens with
  | @served _ timer entry _ result cache =>
    cases result.symm.trans ok
    exact ⟨timer, cache ▸ entry⟩
  | found _ _ result cache =>
    cases result.symm.trans ok
    rw [cache]
    exact ⟨_, Finmap.lookup_insert _⟩
  | failed result => cases result.symm.trans ok

theorem Valid.single {s : HostRun} (valid : s.Valid) :
    ∀ e ∈ s.ipCache.entries, ∀ e' ∈ s.ipCache.entries, strip e.1 = strip e'.1 → e = e' := by
  rintro ⟨name, ip, timer⟩ member ⟨name', ip', timer'⟩ member' same
  have entry := Finmap.lookup_eq_some_iff.mpr member
  have entry' := Finmap.lookup_eq_some_iff.mpr member'
  change strip name = strip name' at same
  rw [(valid.backed name ip timer entry).trimed, (valid.backed name' ip' timer' entry').trimed] at same
  subst name'
  cases entry.symm.trans entry'
  rfl

theorem Valid.fresh {s : HostRun} (valid : s.Valid) : s.Fresh where
  returned _ _ happens _ ok := valid.returned happens ok
  absent _ _ happens err := absent_of_err happens err
  shared call t happens ip ok := by
    obtain ⟨timer, entry⟩ := entry_of_ok happens ok
    refine ⟨timer, entry, ?_⟩
    intro call' same within
    rw [← same] at entry
    exact host2ip_within entry within
  single := valid.single

/-- Through every sequence of calls, whatever the resolver answers. -/
theorem host2ip_fresh (clock : Int) (calls : List HostCall) : Throughout step Fresh { clock := clock } calls := by
  have preserved : Preserves step Valid := fun _ _ _ valid happens => valid.step happens
  refine preserved.throughout (fun _ valid => valid.fresh) ⟨?_, ?_⟩ calls
  · intro a member
    cases member
  · intro name ip timer entry
    cases entry

/-- The host `a`, a NUL and `b`: the resolver is asked for `a`, and what it answers is returned and kept for the whole
    name. -/
theorem host2ip_cut_at_nul : ∃ (call : HostCall) (t : HostRun), ({ clock := 0 } : HostRun).step call = some t ∧
    (IpCache.host2ip ∅ call).1 = ⟨.Ok, [49]⟩ ∧ t.answers = [⟨[97], .found [some [49]], 0⟩] ∧
    strip call.host.chars = [97, 0, 98] ∧ ∀ a ∈ t.answers, a.name ≠ strip call.host.chars := by
  refine ⟨⟨⟨[97, 0, 98], by decide⟩, 0, .found [some [49]], 0⟩, _, rfl, rfl, rfl, rfl, ?_⟩
  intro a member
  rw [List.mem_singleton.mp member]
  decide

end HostRun

end IPNameHelper

end RLib
