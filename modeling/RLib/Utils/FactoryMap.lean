import RLib.Foundation.Run
import RLib.Utils.AbsFactory
import Mathlib.Data.Set.Card

namespace RLib

/-- Names mapped to values with the keys that remove them. -/
abbrev KeyedMap (K V : Type) := K → Option (V × U64)

namespace Factory

/-- The calls on a factory. `key` is what a successful registration draws, and `created` what `V::create` gives. -/
inductive Call (K V : Type) where
  | reg (key : AuthKey) (k : K) (v : V)
  | query (k : K)
  | queryOrDefault (k : K) (default : V)
  | dereg (id : K) (key : U64)
  | createThenReg (key : AuthKey) (k : K) (created : Option V)
  | regEntries
deriving DecidableEq

inductive Answer (V : Type) where
  | key (drawn : Option U64)
  | found (v : Option V)
  | value (v : V)
  | made (entry : Option (V × U64))
  | entries (n : Nat)
deriving DecidableEq

end Factory

open Factory

variable {K V : Type} [DecidableEq K]

namespace KeyedMap

def reg (m : KeyedMap K V) (key : U64) (k : K) (v : V) : Option U64 × KeyedMap K V :=
  match m k with
  | some _ => (none, m)
  | none => (some key, Function.update m k (some (v, key)))

def dereg (m : KeyedMap K V) (id : K) (key : U64) : Option V × KeyedMap K V :=
  match m id with
  | some (v, k) => if k = key then (some v, Function.update m id none) else (none, m)
  | none => (none, m)

noncomputable def call (m : KeyedMap K V) : Call K V → Answer V × KeyedMap K V
  | .reg key k v => (.key (m.reg key.value k v).1, (m.reg key.value k v).2)
  | .query k => (.found ((m k).map Prod.fst), m)
  | .queryOrDefault k default => (.value (((m k).map Prod.fst).getD default), m)
  | .dereg id key => (.found (m.dereg id key).1, (m.dereg id key).2)
  | .createThenReg _ _ none => (.made none, m)
  | .createThenReg key k (some v) => (.made ((m.reg key.value k v).1.map (v, ·)), (m.reg key.value k v).2)
  | .regEntries => (.entries {k | (m k).isSome}.ncard, m)

end KeyedMap

namespace Factory

def call (f : Factory K V) : Call K V → Except Exit (Answer V) × Factory K V
  | .reg key k v => (.ok (.key (f.reg key k v).1), (f.reg key k v).2)
  | .query k => (.ok (.found (f.query k)), f)
  | .queryOrDefault k default => (.value <$> f.queryOrDefault k default, f)
  | .dereg id key => (.ok (.found (f.dereg id key).1), (f.dereg id key).2)
  | .createThenReg key k created => (.ok (.made (f.createThenReg key k created).1), (f.createThenReg key k created).2)
  | .regEntries => (.ok (.entries f.regEntries.toNat), f)

def keyedMap (f : Factory K V) : KeyedMap K V := fun k => f.store.lookup k

/-- The name to look up is there, and the entries can be counted in 32 bits. -/
def Answerable (f : Factory K V) : Call K V → Prop
  | .queryOrDefault k _ => k ∈ f.store
  | .regEntries => f.store.keys.card < 2 ^ 32
  | _ => True

theorem keyedMap_insert (f : Factory K V) (k : K) (entry : V × U64) :
    keyedMap { store := f.store.insert k entry } = Function.update f.keyedMap k (some entry) := by
  funext n
  rw [keyedMap, Map.lookup_insert, Function.update_apply, keyedMap]

theorem keyedMap_erase (f : Factory K V) (k : K) :
    keyedMap { store := f.store.erase k } = Function.update f.keyedMap k none := by
  funext n
  rw [keyedMap, Map.lookup_erase, Function.update_apply, keyedMap]

theorem keyedMap_none (f : Factory K V) (k : K) : f.keyedMap k = none ↔ k ∉ f.store := Finmap.lookup_eq_none

theorem keyedMap_card (f : Factory K V) : {k | (f.keyedMap k).isSome}.ncard = f.store.keys.card := by
  have domain : {k | (f.keyedMap k).isSome} = (f.store.keys : Set K) := by
    ext k
    rw [Set.mem_ofPred_eq, keyedMap, Finmap.lookup_isSome, Finset.mem_coe, Finmap.mem_keys]
  rw [domain, Set.ncard_coe_finset]

theorem reg_refines (f : Factory K V) (key : AuthKey) (k : K) (v : V) :
    f.keyedMap.reg key.value k v = ((f.reg key k v).1, (f.reg key k v).2.keyedMap) := by
  unfold KeyedMap.reg
  cases entry : f.keyedMap k with
  | none =>
    rw [reg_absent f key v ((f.keyedMap_none k).mp entry), keyedMap_insert]
  | some _ =>
    rw [reg_present f key v (Finmap.mem_of_lookup_eq_some entry)]

theorem dereg_refines (f : Factory K V) (id : K) (key : U64) :
    f.keyedMap.dereg id key = ((f.dereg id key).1, (f.dereg id key).2.keyedMap) := by
  unfold KeyedMap.dereg
  rcases f.dereg_cases id key with ⟨v, found, removed⟩ | ⟨absent, kept⟩
  · have entry : f.keyedMap id = some (v, key) := found
    rw [entry, removed, keyedMap_erase]
    exact if_pos rfl
  · rw [kept]
    cases entry : f.keyedMap id with
    | none => rfl
    | some found =>
      obtain ⟨v, k⟩ := found
      refine if_neg ?_
      rintro rfl
      exact absent v entry

theorem createThenReg_some (f : Factory K V) (key : AuthKey) (k : K) (v : V) :
    f.createThenReg key k (some v) = ((f.reg key k v).1.map (v, ·), (f.reg key k v).2) := by
  rw [createThenReg]
  by_cases present : k ∈ f.store
  · rw [reg_present f key v present]
    rfl
  · rw [reg_absent f key v present]
    rfl

theorem call_commutes (f : Factory K V) (c : Call K V) : (f.call c).2.keyedMap = (f.keyedMap.call c).2 := by
  cases c with
  | reg key k v => rw [KeyedMap.call, reg_refines, call]
  | query k => rfl
  | queryOrDefault k default => rfl
  | dereg id key => rw [KeyedMap.call, dereg_refines, call]
  | createThenReg key k created =>
    cases created with
    | none => rfl
    | some v => rw [KeyedMap.call, reg_refines, call, createThenReg_some]
  | regEntries => rfl

theorem queryOrDefault_iff (f : Factory K V) (k : K) (default : V) :
    (Answer.value <$> f.queryOrDefault k default : Except Exit (Answer V)) =
        .ok (.value (((f.keyedMap k).map Prod.fst).getD default)) ↔
      k ∈ f.store := by
  rw [queryOrDefault, query, keyedMap, ← Finmap.lookup_isSome]
  cases f.store.lookup k with
  | none =>
    constructor
    · intro same
      cases same
    · intro present
      cases present
  | some entry => exact iff_of_true rfl rfl

theorem regEntries_iff (f : Factory K V) :
    f.regEntries.toNat = {k | (f.keyedMap k).isSome}.ncard ↔ f.store.keys.card < 2 ^ 32 := by
  rw [keyedMap_card, regEntries, BitVec.toNat_ofNat, Nat.mod_eq_iff_lt (by decide)]

theorem call_agrees (f : Factory K V) (c : Call K V) : (f.call c).1 = .ok (f.keyedMap.call c).1 ↔ f.Answerable c := by
  cases c with
  | reg key k v => exact iff_of_true (by rw [KeyedMap.call, reg_refines, call]) trivial
  | query k => exact iff_of_true rfl trivial
  | queryOrDefault k default => exact f.queryOrDefault_iff k default
  | dereg id key => exact iff_of_true (by rw [KeyedMap.call, dereg_refines, call]) trivial
  | createThenReg key k created =>
    cases created with
    | none => exact iff_of_true rfl trivial
    | some v => exact iff_of_true (by rw [KeyedMap.call, reg_refines, call, createThenReg_some]) trivial
  | regEntries =>
    rw [call, KeyedMap.call, Except.ok.injEq, Answer.entries.injEq]
    exact f.regEntries_iff

/-- A factory answers as the map does exactly as long as no call asks for the default or for too great a count. -/
theorem refines_iff (f : Factory K V) (calls : List (Call K V)) :
    Run.trace call f calls = (Run.trace KeyedMap.call f.keyedMap calls).map .ok ↔
      Run.Along (fun f c => some (f.call c).2) Answerable f calls :=
  Run.trace_eq_iff call_commutes call_agrees f calls

/-- In an empty factory the default is asked for, and `value` throws instead. -/
theorem default_unreturned :
    queryOrDefault ({} : Factory U64 Nat) 73 1 = .error .exception ∧
      Run.trace call ({} : Factory U64 Nat) [.queryOrDefault 73 1] ≠
        (Run.trace KeyedMap.call (keyedMap ({} : Factory U64 Nat)) [.queryOrDefault 73 1]).map .ok := by
  constructor
  · rfl
  · intro same
    cases same

end Factory

end RLib
