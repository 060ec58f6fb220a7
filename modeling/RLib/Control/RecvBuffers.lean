import RLib.Control.Creates
import RLib.Control.Host
import RLib.Foundation.Extent

namespace RLib

open Bootstrap Proto Qps RCtrl RecvManager Run

def Sge.extent (e : Sge) : Extent := ⟨e.addr.toNat, e.length.toNat⟩

namespace Qps

namespace SimpleAllocator

/-- What the allocator has left of its buffer. -/
def extent (a : SimpleAllocator) : Extent := ⟨a.buf.toNat, a.totalMem.toNat⟩

/-- The buffer ends inside the address space. -/
def Fits (a : SimpleAllocator) : Prop := a.extent.stop < 2 ^ 64

structure Later (a later : SimpleAllocator) : Prop where
  within : later.extent.Within a.extent
  fits : a.Fits → later.Fits
  key : later.key = a.key

theorem Later.refl (a : SimpleAllocator) : Later a a := ⟨.refl _, id, rfl⟩

theorem Later.trans {a b c : SimpleAllocator} (first : Later a b) (second : Later b c) : Later a c :=
  ⟨second.within.trans first.within, fun fits => second.fits (first.fits fits), second.key.trans first.key⟩

/-- `alloc_one` cuts the buffer it hands out off the front of what is left. -/
theorem allocOne_cases {a : SimpleAllocator} (fits : a.Fits) (sz : U32) :
    AbsRecvAllocator.allocOne a sz = (none, a) ∨
      ∃ a' : SimpleAllocator, AbsRecvAllocator.allocOne a sz = (some (a.buf, a.key), a') ∧ Later a a' ∧
        sz.toNat ≤ a.extent.len ∧ a'.extent = a.extent.rest sz.toNat := by
  by_cases short : a.totalMem < sz
  · exact .inl (if_pos short)
  · rw [BitVec.not_lt, BitVec.le_def] at short
    have bound := sz.isLt
    have extent : SimpleAllocator.extent { a with buf := a.buf + sz.setWidth 64, totalMem := a.totalMem - sz } =
        a.extent.rest sz.toNat := by
      simp only [Fits, SimpleAllocator.extent, Extent.stop] at fits
      simp only [SimpleAllocator.extent, Extent.rest, BitVec.toNat_add, BitVec.toNat_setWidth, BitVec.toNat_sub,
        Extent.mk.injEq]
      have := a.totalMem.isLt
      omega
    refine .inr ⟨_, if_neg (by rwa [BitVec.not_lt, BitVec.le_def]), ⟨?_, ?_, rfl⟩, short, extent⟩
    · rw [extent]
      exact Extent.rest_within short
    · intro fits
      have within := Extent.rest_within (show sz.toNat ≤ a.extent.len from short)
      rw [Fits, extent]
      exact Nat.lt_of_le_of_lt within.2 fits

end SimpleAllocator

namespace RecvEntries

variable {N : Nat} [NeZero N]

theorem place_sges (ret : RecvEntries N) (i j : Fin N) (recvBuf : U64 × U32) (sz : U32) :
    (ret.place i recvBuf sz).sges j = if j = i then ⟨recvBuf.1, sz, recvBuf.2⟩ else ret.sges j :=
  Function.update_apply _ _ _ _

/-- What the loop built for the entries of `rest`: buffers cut out of what the allocator had. -/
structure CutFrom (rest : List (Fin N)) (ret r : RecvEntries N) (a later : SimpleAllocator) : Prop where
  outside : ∀ i, i ∉ rest → r.sges i = ret.sges i
  within : ∀ i ∈ rest, (r.sges i).extent.Within a.extent
  left : ∀ i ∈ rest, (r.sges i).extent.Apart later.extent
  apart : ∀ i ∈ rest, ∀ j ∈ rest, i ≠ j → (r.sges i).extent.Apart (r.sges j).extent
  key : ∀ i ∈ rest, (r.sges i).lkey = a.key

theorem CutFrom.cons {i : Fin N} {rest : List (Fin N)} {sz : U32} {ret r : RecvEntries N} {a a' last : SimpleAllocator}
    (new : i ∉ rest) (later : SimpleAllocator.Later a a') (room : sz.toNat ≤ a.extent.len)
    (extent : a'.extent = a.extent.rest sz.toNat) (later' : SimpleAllocator.Later a' last)
    (cuts : CutFrom rest (ret.place i (a.buf, a.key) sz) r a' last) : CutFrom (i :: rest) ret r a last := by
  obtain ⟨outside, within, left, apart, key⟩ := cuts
  have own : r.sges i = ⟨a.buf, sz, a.key⟩ := by
    rw [outside i new, place_sges, if_pos rfl]
  have front : (r.sges i).extent = a.extent.front sz.toNat := by rw [own]; rfl
  have behind : (r.sges i).extent.Apart a'.extent := by
    rw [front, extent]
    exact a.extent.front_apart_rest sz.toNat
  refine ⟨?_, ?_, ?_, ?_, ?_⟩
  · intro j elsewhere
    rw [List.mem_cons, not_or] at elsewhere
    rw [outside j elsewhere.2, place_sges, if_neg elsewhere.1]
  · intro j member
    rcases List.mem_cons.mp member with rfl | member
    · rw [front]
      exact Extent.front_within room
    · exact (within j member).trans later.within
  · intro j member
    rcases List.mem_cons.mp member with rfl | member
    · exact behind.mono (.refl _) later'.within
    · exact left j member
  · intro j member k member' other
    rcases List.mem_cons.mp member with rfl | first
    · have second := (List.mem_cons.mp member').resolve_left (Ne.symm other)
      exact behind.mono (.refl _) (within k second)
    · rcases List.mem_cons.mp member' with rfl | second
      · exact (behind.mono (.refl _) (within j first)).symm
      · exact apart j first k second other
  · intro j member
    rcases List.mem_cons.mp member with rfl | member
    · rw [own]
    · rw [key j member, later.key]

theorem fill_cuts {sz : U32} {rest : List (Fin N)} (nodup : rest.Nodup) (ret : RecvEntries N) {a : SimpleAllocator}
    (fits : a.Fits) :
    SimpleAllocator.Later a (fill sz rest ret a).2 ∧
      ∀ r, (fill sz rest ret a).1 = .ok r → CutFrom rest ret r a (fill sz rest ret a).2 := by
  induction rest generalizing ret a with
  | nil =>
    refine ⟨.refl a, ?_⟩
    intro r built
    cases built
    exact ⟨fun _ _ => rfl, nofun, nofun, nofun, nofun⟩
  | cons i rest ih =>
    obtain ⟨new, nodup⟩ := List.nodup_cons.mp nodup
    rw [fill]
    rcases SimpleAllocator.allocOne_cases fits sz with short | ⟨a', taken, later, room, extent⟩
    · rw [short]
      refine ⟨.refl a, ?_⟩
      intro r built
      cases built
    · rw [taken]
      obtain ⟨later', cuts⟩ := ih nodup (ret.place i (a.buf, a.key) sz) (later.fits fits)
      exact ⟨later.trans later', fun r built => (cuts r built).cons new later room extent later'⟩

theorem Ready.wqe_sge {r : RecvEntries N} (ready : r.Ready) (i : Fin N) : (r.wqe i).sge = r.sges i := by
  rw [wqe, (ready i).own]

end RecvEntries

theorem postRecvs_wqe {N : Nat} [NeZero N] {σ : Type} {r r' : RecvEntries N} (ready : r.Ready)
    {ibvPostRecv : List RecvWqe → Option σ} {device : Option σ}
    (posted : postRecvs r N ibvPostRecv = .ok (device, r')) : r'.wqe = r.wqe := by
  rw [postRecvs_all ready] at posted
  split at posted
  · cases posted
    exact r.setNext_wqe _ _
  · cases posted
    rfl

end Qps

variable {R : Nat} [NeZero R]

/-- The receive buffers of all entries, and what the allocators have left. -/
def Server.parcel (s : Server SimpleAllocator R) : (Ptr × Fin R) ⊕ Ptr → Option Extent
  | .inl (p, i) => (s.entries p).map (fun r => (r.wqe i).sge.extent)
  | .inr a => some (s.allocators a).extent

/-- The buffers of all entries were cut out of the buffers the allocators had at first. -/
structure Cut (initial : Ptr → SimpleAllocator) (s : Server SimpleAllocator R) : Prop where
  separate : Extent.Separate s.parcel
  left : ∀ a, SimpleAllocator.Later (initial a) (s.allocators a)
  fits : ∀ a, (s.allocators a).Fits
  inside : ∀ p r i, s.entries p = some r → ∃ a, (r.wqe i).sge.extent.Within (initial a).extent ∧
    (r.wqe i).sge.lkey = (initial a).key
  new : ∀ p, s.fresh ≤ p → s.entries p = none
  old : ∀ name p, s.regRecvEntries.query name = some p → p < s.fresh
  single : ∀ name name' p, s.regRecvEntries.query name = some p → s.regRecvEntries.query name' = some p → name = name'

namespace Cut

variable {initial : Ptr → SimpleAllocator} {s s' : Server SimpleAllocator R}

theorem quiet (cut : Cut initial s) (entries : s'.entries = s.entries) (allocators : s'.allocators = s.allocators)
    (registered : s'.regRecvEntries = s.regRecvEntries) (fresh : s.fresh ≤ s'.fresh) : Cut initial s' := by
  have parcel : s'.parcel = s.parcel := by
    funext k
    rcases k with ⟨p, i⟩ | a
    · simp only [Server.parcel, entries]
    · simp only [Server.parcel, allocators]
  refine ⟨?_, ?_, ?_, ?_, ?_, ?_, ?_⟩
  · rw [parcel]
    exact cut.separate
  · rw [allocators]
    exact cut.left
  · rw [allocators]
    exact cut.fits
  · rw [entries]
    exact cut.inside
  · rw [entries]
    exact fun p new => cut.new p (Nat.le_trans fresh new)
  · rw [registered]
    exact fun name p found => Nat.lt_of_lt_of_le (cut.old name p found) fresh
  · rw [registered]
    exact cut.single

theorem spent (cut : Cut initial s) {a : Ptr} {later : SimpleAllocator}
    (spends : SimpleAllocator.Later (s.allocators a) later) :
    Cut initial { s with allocators := Function.update s.allocators a later } := by
  have gives : ∀ b, SimpleAllocator.Later (s.allocators b) (Function.update s.allocators a later b) := by
    intro b
    rw [Function.update_apply]
    split
    · rename_i same
      rwa [same]
    · exact .refl _
  refine ⟨?_, ?_, ?_, cut.inside, cut.new, cut.old, cut.single⟩
  · apply cut.separate.refine id
    · rintro (⟨p, i⟩ | b) e there
      · exact ⟨e, there, .refl e⟩
      · cases there
        exact ⟨_, rfl, (gives b).within⟩
    · exact fun k k' e e' _ _ other same => absurd same other
  · exact fun b => (cut.left b).trans (gives b)
  · exact fun b => (gives b).fits (cut.fits b)

end Cut

/-- `s'` is `s` with new entries, which were built with the allocator at `a` and registered. -/
structure Builds (s s' : Server SimpleAllocator R) (a : Ptr) (later : SimpleAllocator) (r r' : RecvEntries R)
    (name : Name) (key : U64) : Prop where
  spends : SimpleAllocator.Later (s.allocators a) later
  cuts : RecvEntries.CutFrom (List.finRange R) .new r (s.allocators a) later
  sge : ∀ i, (r'.wqe i).sge = r.sges i
  allocators : s'.allocators = Function.update s.allocators a later
  registered : s'.regRecvEntries = { store := s.regRecvEntries.store.insert name (s.fresh, key) }
  fresh : s'.fresh = s.fresh + 1
  entries : s'.entries = Function.update s.entries s.fresh (some r')

namespace Builds

/-- The buffers of the entries at `p` come out of what the allocator at `a` had left, all else stays or shrinks. -/
def parent {ι : Type} (p a : Ptr) : (Ptr × ι) ⊕ Ptr → (Ptr × ι) ⊕ Ptr
  | .inl (q, i) => if q = p then .inr a else .inl (q, i)
  | .inr b => .inr b

theorem parent_new {ι : Type} (p a : Ptr) (i : ι) : parent p a (.inl (p, i)) = .inr a := if_pos rfl

theorem parent_old {ι : Type} {p a q : Ptr} (other : q ≠ p) (i : ι) : parent p a (.inl (q, i)) = .inl (q, i) :=
  if_neg other

variable {s s' : Server SimpleAllocator R} {a : Ptr} {later : SimpleAllocator} {r r' : RecvEntries R} {name : Name}
  {key : U64}

theorem parcel_new (builds : Builds s s' a later r r' name key) (i : Fin R) :
    s'.parcel (.inl (s.fresh, i)) = some (r.sges i).extent := by
  rw [Server.parcel, builds.entries, Function.update_self, Option.map_some, builds.sge]

theorem parcel_old (builds : Builds s s' a later r r' name key) {p : Ptr} (other : p ≠ s.fresh) (i : Fin R) :
    s'.parcel (.inl (p, i)) = s.parcel (.inl (p, i)) := by
  rw [Server.parcel, builds.entries, Function.update_of_ne other, Server.parcel]

theorem parcel_rest (builds : Builds s s' a later r r' name key) (b : Ptr) :
    s'.parcel (.inr b) = some (Function.update s.allocators a later b).extent := by
  rw [Server.parcel, builds.allocators]

theorem within (builds : Builds s s' a later r r' name key) {k : (Ptr × Fin R) ⊕ Ptr} {e : Extent}
    (there : s'.parcel k = some e) : ∃ e', s.parcel (parent s.fresh a k) = some e' ∧ e.Within e' := by
  rcases k with ⟨p, i⟩ | b
  · by_cases here : p = s.fresh
    · subst p
      cases (builds.parcel_new i).symm.trans there
      exact ⟨_, by rw [parent_new, Server.parcel], builds.cuts.within i (List.mem_finRange i)⟩
    · rw [builds.parcel_old here i] at there
      exact ⟨e, by rw [parent_old here i, there], .refl e⟩
  · cases (builds.parcel_rest b).symm.trans there
    refine ⟨_, rfl, ?_⟩
    rw [Function.update_apply]
    split
    · rename_i here
      rw [here]
      exact builds.spends.within
    · exact .refl _

theorem apart_rest (builds : Builds s s' a later r r' name key) {p : Ptr} {i : Fin R} {b : Ptr} {e e' : Extent}
    (there : s'.parcel (.inl (p, i)) = some e) (there' : s'.parcel (.inr b) = some e')
    (family : parent s.fresh a (.inl (p, i)) = .inr b) : e.Apart e' := by
  by_cases here : p = s.fresh
  · subst p
    rw [parent_new] at family
    cases family
    cases (builds.parcel_new i).symm.trans there
    cases (builds.parcel_rest a).symm.trans there'
    rw [Function.update_self]
    exact builds.cuts.left i (List.mem_finRange i)
  · rw [parent_old here i] at family
    cases family

theorem siblings (builds : Builds s s' a later r r' name key) {k k' : (Ptr × Fin R) ⊕ Ptr} {e e' : Extent}
    (there : s'.parcel k = some e) (there' : s'.parcel k' = some e') (other : k ≠ k')
    (family : parent s.fresh a k = parent s.fresh a k') : e.Apart e' := by
  rcases k with ⟨p, i⟩ | b
  · rcases k' with ⟨q, j⟩ | c
    · by_cases here : p = s.fresh
      · subst p
        by_cases here' : q = s.fresh
        · subst q
          have apart : i ≠ j := by
            rintro rfl
            exact other rfl
          cases (builds.parcel_new i).symm.trans there
          cases (builds.parcel_new j).symm.trans there'
          exact builds.cuts.apart i (List.mem_finRange i) j (List.mem_finRange j) apart
        · rw [parent_new, parent_old here' j] at family
          cases family
      · by_cases here' : q = s.fresh
        · subst q
          rw [parent_new, parent_old here i] at family
          cases family
        · rw [parent_old here i, parent_old here' j] at family
          exact absurd family other
    · exact builds.apart_rest there there' family
  · rcases k' with ⟨q, j⟩ | c
    · exact (builds.apart_rest there' there family.symm).symm
    · exact absurd family other

end Builds

namespace Cut

variable {initial : Ptr → SimpleAllocator} {s s' : Server SimpleAllocator R} {a : Ptr} {later : SimpleAllocator}
  {r r' : RecvEntries R} {name : Name} {key : U64}

theorem inside_new (cut : Cut initial s) (builds : Builds s s' a later r r' name key) (i : Fin R) :
    (r'.wqe i).sge.extent.Within (initial a).extent ∧ (r'.wqe i).sge.lkey = (initial a).key := by
  have left := cut.left a
  rw [builds.sge]
  refine ⟨(builds.cuts.within i (List.mem_finRange i)).trans left.within, ?_⟩
  rw [builds.cuts.key i (List.mem_finRange i), left.key]

theorem build (cut : Cut initial s) (builds : Builds s s' a later r r' name key) : Cut initial s' := by
  have spent := cut.spent builds.spends
  refine ⟨?_, builds.allocators ▸ spent.left, builds.allocators ▸ spent.fits, ?_, ?_, ?_, ?_⟩
  · exact cut.separate.refine (Builds.parent s.fresh a) (fun _ _ => builds.within) (fun _ _ _ _ => builds.siblings)
  · intro p q i there
    rw [builds.entries] at there
    by_cases here : p = s.fresh
    · subst p
      rw [Function.update_self] at there
      cases there
      exact ⟨a, cut.inside_new builds i⟩
    · rw [Function.update_of_ne here] at there
      exact cut.inside p q i there
  · intro p new
    rw [builds.fresh] at new
    have apart : p ≠ s.fresh := Nat.ne_of_gt new
    rw [builds.entries, Function.update_of_ne apart]
    exact cut.new p (Nat.le_of_succ_le new)
  · rw [builds.registered, builds.fresh]
    exact fun n p => Factory.insert_old cut.old
  · rw [builds.registered]
    exact fun n n' p => Factory.insert_single cut.old cut.single

end Cut

def Server.entriesOf {A : Type} (s : Server A R) (name : Name) : Option (RecvEntries R) :=
  (s.regRecvEntries.query name).bind s.entries

/-- The buffers of all registered entries are apart from each other and from what the allocators still have, and
    each lies in the buffer that some allocator had at first and carries its key. -/
structure BuffersApart (initial : Ptr → SimpleAllocator) (s : Server SimpleAllocator R) : Prop where
  apart : ∀ name name' r r' i j, s.entriesOf name = some r → s.entriesOf name' = some r' → (name, i) ≠ (name', j) →
    (r.wqe i).sge.extent.Apart (r'.wqe j).sge.extent
  unspent : ∀ name r i a, s.entriesOf name = some r → (r.wqe i).sge.extent.Apart (s.allocators a).extent
  inside : ∀ name r i, s.entriesOf name = some r → ∃ a, (r.wqe i).sge.extent.Within (initial a).extent ∧
    (r.wqe i).sge.lkey = (initial a).key

namespace Cut

variable {initial : Ptr → SimpleAllocator} {s : Server SimpleAllocator R}

theorem buffersApart (cut : Cut initial s) : BuffersApart initial s := by
  have parcel : ∀ {p r} i, s.entries p = some r → s.parcel (.inl (p, i)) = some (r.wqe i).sge.extent := by
    intro p r i there
    rw [Server.parcel, there, Option.map_some]
  refine ⟨?_, ?_, ?_⟩
  · intro name name' r r' i j held held' other
    obtain ⟨p, found, there⟩ := Option.bind_eq_some_iff.mp held
    obtain ⟨q, found', there'⟩ := Option.bind_eq_some_iff.mp held'
    apply cut.separate _ _ _ _ (parcel i there) (parcel j there')
    intro same
    cases same
    exact other (by rw [cut.single name name' p found found'])
  · intro name r i a held
    obtain ⟨p, found, there⟩ := Option.bind_eq_some_iff.mp held
    exact cut.separate _ _ _ _ (parcel i there) (show s.parcel (.inr a) = _ from rfl) nofun
  · intro name r i held
    obtain ⟨p, found, there⟩ := Option.bind_eq_some_iff.mp held
    exact cut.inside p r i there

theorem create (cut : Cut initial s) (a : Ptr) (msgSz : U32) :
    SimpleAllocator.Later (s.allocators a) (RecvEntriesFactoryv2.create R (s.allocators a) msgSz).2 ∧
      ∀ r, (RecvEntriesFactoryv2.create R (s.allocators a) msgSz).1 = .ok r →
        RecvEntries.CutFrom (List.finRange R) .new r (s.allocators a)
          (RecvEntriesFactoryv2.create R (s.allocators a) msgSz).2 :=
  RecvEntries.fill_cuts (List.nodup_finRange R) .new (cut.fits a)

theorem armRecv (cut : Cut initial s) (req : RCReq) (p : Ptr) : Cut initial (armRecv req p s).2 := by
  unfold RecvManager.armRecv
  cases req.nameRecvString with
  | error exit => exact cut
  | ok nameRecv =>
    simp only
    cases s.regRecvCqs.query nameRecv with
    | none => exact cut
    | some common =>
      simp only
      obtain ⟨later, cuts⟩ := cut.create common.allocator (req.maxRecvSz.setWidth 32)
      rcases created : RecvEntriesFactoryv2.create R (s.allocators common.allocator) (req.maxRecvSz.setWidth 32) with
        ⟨exit | r, allocator⟩
      · rw [created] at later
        exact cut.spent later
      · rw [created] at later cuts
        obtain ⟨ready, _⟩ := RecvEntriesFactoryv2.create_ready (congrArg Prod.fst created)
        simp only
        cases req.nameString with
        | error exit => exact cut
        | ok name =>
          simp only
          by_cases present : name ∈ s.regRecvEntries.store
          · rw [s.regRecvEntries.reg_present s.env.entriesKey s.fresh present]
            exact cut
          · rw [s.regRecvEntries.reg_absent s.env.entriesKey s.fresh present]
            simp only
            unfold postAll
            split
            · exact cut.build ⟨later, cuts r rfl, ready.wqe_sge, rfl, rfl, rfl, rfl⟩
            · split
              · exact cut.build ⟨later, cuts r rfl, ready.wqe_sge, rfl, rfl, rfl, rfl⟩
              · rename_i posted
                have sge := postRecvs_wqe ready posted ▸ ready.wqe_sge
                exact cut.build ⟨later, cuts r rfl, sge, rfl, rfl, rfl, Function.update_idem _ _ _⟩
              · rename_i posted
                have sge := postRecvs_wqe ready posted ▸ ready.wqe_sge
                exact cut.build ⟨later, cuts r rfl, sge, rfl, rfl, rfl, Function.update_idem _ _ _⟩

theorem afterCreate (cut : Cut initial s) {req : RCReq} {nic : RNic} {recvCq : Option Ptr}
    {rest : Ptr × U64 → Server SimpleAllocator R → Except Exit ByteBuffer × Server SimpleAllocator R}
    (goesOn : ∀ a s', Cut initial s' → Cut initial (rest a s').2) :
    Cut initial (orWrongArg (createAndConnect req nic recvCq s) rest).2 := by
  have creates := createAndConnect_creates req nic recvCq s
  generalize createAndConnect req nic recvCq s = outcome at creates
  cases creates with
  | refused refused => exact cut.quiet rfl rfl rfl (Nat.le_refl _)
  | unreadable madeQp unreadable => exact cut.quiet rfl rfl rfl (Nat.le_refl _)
  | taken makes present => exact cut.quiet rfl rfl rfl (Nat.le_refl _)
  | aborted makes absent failed => exact cut.quiet rfl rfl rfl (Nat.le_succ _)
  | stranded makes absent queried incomplete => exact cut.quiet rfl rfl rfl (Nat.le_succ _)
  | undone makes absent queried complete failed same => exact cut.quiet rfl rfl rfl (Nat.le_succ _)
  | connected makes absent queried complete steps same unposted =>
    exact goesOn _ _ (cut.quiet rfl rfl rfl (Nat.le_succ _))

theorem serve (cut : Cut initial s) (op : ControlOp) (parameter : ByteBuffer) :
    Cut initial (Host.serveControl op parameter s).server := by
  rw [Host.serveControl_eq, Host.settle_server]
  cases op with
  | CreateRC =>
    rcases handleCreate_cases createRc parameter s with ⟨req, nic, _, handled⟩ | ⟨_, reply, handled, _⟩
    · simp only [rcHandler, handled]
      exact cut.afterCreate (fun _ _ cut' => cut')
    · simp only [rcHandler, handled]
      exact cut
  | CreateRCM =>
    rcases handleCreate_cases createMsgRc parameter s with ⟨req, nic, _, handled⟩ | ⟨_, reply, handled, _⟩
    · simp only [msgRcHandler, handled, createMsgRc]
      cases recvCqOf req s with
      | error e => exact cut
      | ok recvCq =>
        apply cut.afterCreate
        intro a s' cut'
        have armed := cut'.armRecv req a.1
        simp only
        generalize RecvManager.armRecv req a.1 s' = outcome at armed
        rcases outcome with ⟨e | _, s''⟩
        · exact armed
        · exact armed
    · simp only [msgRcHandler, handled]
      exact cut
  | DeleteRC =>
    have deletes := deleteRc_deletes parameter s
    generalize deleteRc parameter s = outcome at deletes
    cases deletes with
    | deleted parsed named found => exact cut.quiet rfl rfl rfl (Nat.le_refl _)
    | _ => exact cut

theorem step {h h' : Host SimpleAllocator R} {e : HostEvent} (cut : Cut initial h.server)
    (happens : h.step e = some h') : Cut initial h'.server := by
  unfold Host.step at happens
  split at happens
  · cases happens
  · cases e with
    | request env op parameter =>
      cases happens
      have cut' : Cut initial { h.server with env := env } := cut.quiet rfl rfl rfl (Nat.le_refl _)
      exact cut'.serve op parameter
    | openCq cqe =>
      cases happens
      exact cut.quiet rfl rfl rfl (Nat.le_refl _)
    | regChannel key name common =>
      simp only at happens
      split at happens
      · cases happens
        exact cut.quiet rfl rfl rfl (Nat.le_refl _)
      · cases happens

end Cut

/-- Whatever the clients ask for, no two receive buffers of the server ever share a byte. -/
theorem Host.recvBuffers_apart (s : Server SimpleAllocator R)
    (apart : ∀ a b, a ≠ b → (s.allocators a).extent.Apart (s.allocators b).extent) (fits : ∀ a, (s.allocators a).Fits)
    (registered : s.regRecvEntries.store = ∅) (entries : s.entries = fun _ => none) (events : List HostEvent) :
    Throughout Host.step (fun h => BuffersApart s.allocators h.server) { server := s } events := by
  have start : Cut s.allocators s := by
    have none' : ∀ name p, s.regRecvEntries.query name ≠ some p := by
      intro name p found
      rw [Factory.query, registered] at found
      cases found
    refine ⟨?_, fun a => .refl _, fits, ?_, fun p _ => by rw [entries], ?_, ?_⟩
    · rintro (⟨p, i⟩ | a) (⟨q, j⟩ | b) e e' there there' other
      · simp only [Server.parcel, entries, Option.map_none, reduceCtorEq] at there
      · simp only [Server.parcel, entries, Option.map_none, reduceCtorEq] at there
      · simp only [Server.parcel, entries, Option.map_none, reduceCtorEq] at there'
      · cases there
        cases there'
        exact apart a b (fun same => other (congrArg Sum.inr same))
    · intro p r i there
      rw [entries] at there
      cases there
    · exact fun name p found => absurd found (none' name p)
    · exact fun name _ p found => absurd found (none' name p)
  have preserved : Preserves Host.step (fun h : Host SimpleAllocator R => Cut s.allocators h.server) :=
    fun _ _ _ cut happens => cut.step happens
  exact preserved.throughout (fun _ cut => cut.buffersApart) start events

def Host.oneAllocator : Server SimpleAllocator 1 :=
  { oneNic with allocators := fun a => if a = 0 then ⟨4096, 8192, 5⟩ else ⟨0, 0, 0⟩ }

theorem Host.recvBuffers_apart_oneAllocator :
    Throughout Host.step (fun h => BuffersApart oneAllocator.allocators h.server) { server := oneAllocator }
      [.openCq 16, .regChannel .first [99] ⟨0, 0⟩,
        .request oneNic.env .CreateRCM (dump RCReq.format channelRequest),
        .request oneNic.env .CreateRCM (dump RCReq.format { channelRequest with name := nameField 114 })] := by
  apply Host.recvBuffers_apart
  · intro a b other
    simp only [oneAllocator, SimpleAllocator.extent, Extent.Apart, Extent.stop]
    by_cases first : a = 0 <;> by_cases second : b = 0 <;> simp_all
  · intro a
    by_cases first : a = 0 <;>
      simp [oneAllocator, SimpleAllocator.Fits, SimpleAllocator.extent, Extent.stop, first]
  · rfl
  · rfl

end RLib
