import RLib.Common
import RLib.Foundation.Map

namespace RLib

/-- What `generate_key` returns: the first nonzero value of `rand()`. -/
structure AuthKey where
  value : U64
  nonzero : value ≠ 0
deriving DecidableEq

namespace AuthKey

def first : AuthKey := ⟨1, by decide⟩
def second : AuthKey := ⟨2, by decide⟩
def third : AuthKey := ⟨3, by decide⟩

end AuthKey

/-- `Factory<K, V>`: names mapped to a value and the key that deletes it. -/
structure Factory (K V : Type) where
  store : Finmap (fun _ : K => V × U64) := ∅

namespace Factory

variable {K V : Type}

@[ext] theorem ext {f g : Factory K V} (same : f.store = g.store) : f = g := by
  cases f
  cases g
  cases same
  rfl

variable [DecidableEq K]

/-- `reg`, where a successful one draws `key`. -/
def reg (f : Factory K V) (key : AuthKey) (k : K) (v : V) : Option U64 × Factory K V :=
  if k ∈ f.store then (none, f) else (some key.value, { store := f.store.insert k (v, key.value) })

def query (f : Factory K V) (k : K) : Option V := (f.store.lookup k).map Prod.fst

def dereg (f : Factory K V) (id : K) (k : U64) : Option V × Factory K V :=
  match f.store.lookup id with
  | some (v, key) => if key = k then (some v, { store := f.store.erase id }) else (none, f)
  | none => (none, f)

/-- `query_or_default`; with the `;` behind its `if` it returns the value without looking whether there is one. -/
def queryOrDefault (f : Factory K V) (k : K) (_def : V) : Except Exit V := value (f.query k)

/-- `create_then_reg`, where `created` is what `V::create` gave. -/
def createThenReg (f : Factory K V) (key : AuthKey) (k : K) (created : Option V) : Option (V × U64) × Factory K V :=
  match created with
  | none => (none, f)
  | some v =>
    match f.reg key k v with
    | (some key, f) => (some (v, key), f)
    | (none, f) => (none, f)

/-- `reg_entries`, a `usize`. -/
def regEntries (f : Factory K V) : U32 := BitVec.ofNat 32 f.store.keys.card

theorem query_isSome (f : Factory K V) (k : K) : (f.query k).isSome ↔ k ∈ f.store := by
  rw [query, Option.isSome_map, Finmap.lookup_isSome]

theorem query_none (f : Factory K V) (k : K) : f.query k = none ↔ k ∉ f.store := by
  rw [query, Option.map_eq_none_iff, Finmap.lookup_eq_none]

theorem reg_present (f : Factory K V) (key : AuthKey) {k : K} (v : V) (present : k ∈ f.store) :
    f.reg key k v = (none, f) := if_pos present

theorem reg_absent (f : Factory K V) (key : AuthKey) {k : K} (v : V) (absent : k ∉ f.store) :
    f.reg key k v = (some key.value, { store := f.store.insert k (v, key.value) }) := if_neg absent

theorem query_insert (f : Factory K V) (k n : K) (v : V) (key : U64) :
    Factory.query { store := f.store.insert k (v, key) } n = if n = k then some v else f.query n := by
  rw [query, Map.lookup_insert, apply_ite (Option.map Prod.fst)]
  rfl

theorem query_reg {f : Factory K V} {key : AuthKey} {k n : K} {v w : V} (found : (f.reg key k v).2.query n = some w) :
    w = v ∨ f.query n = some w := by
  by_cases present : k ∈ f.store
  · rw [f.reg_present key v present] at found
    exact .inr found
  · rw [f.reg_absent key v present, query_insert] at found
    split at found
    · exact .inl (Option.some.inj found).symm
    · exact .inr found

theorem insert_old {f : Factory K Nat} {fresh : Nat} (old : ∀ k p, f.query k = some p → p < fresh) {k n : K} {key : U64}
    {p : Nat} (found : Factory.query { store := f.store.insert k (fresh, key) } n = some p) : p < fresh + 1 := by
  rw [query_insert] at found
  split at found
  · cases found
    exact Nat.lt_succ_self _
  · exact Nat.lt_succ_of_lt (old n p found)

theorem insert_single {f : Factory K Nat} {fresh : Nat} (old : ∀ k p, f.query k = some p → p < fresh)
    (single : ∀ k k' p, f.query k = some p → f.query k' = some p → k = k') {k n n' : K} {key : U64} {p : Nat}
    (found : Factory.query { store := f.store.insert k (fresh, key) } n = some p)
    (found' : Factory.query { store := f.store.insert k (fresh, key) } n' = some p) : n = n' := by
  rw [query_insert] at found found'
  split at found
  · rename_i here
    cases found
    split at found'
    · rename_i here'
      exact here.trans here'.symm
    · exact absurd (old n' fresh found') (Nat.lt_irrefl _)
  · split at found'
    · cases found'
      exact absurd (old n fresh found) (Nat.lt_irrefl _)
    · exact single n n' p found found'

theorem query_erase (f : Factory K V) (k n : K) :
    Factory.query { store := f.store.erase k } n = if n = k then none else f.query n := by
  rw [query, Map.lookup_erase, apply_ite (Option.map Prod.fst)]
  rfl

theorem dereg_insert (f : Factory K V) (k : K) (v : V) (key : U64) (absent : k ∉ f.store) :
    Factory.dereg { store := f.store.insert k (v, key) } k key = (some v, f) := by
  rw [dereg, Finmap.lookup_insert]
  simp only [↓reduceIte, Prod.mk.injEq, true_and]
  exact Factory.ext (Map.erase_insert absent (v, key))

theorem dereg_cases (f : Factory K V) (id : K) (k : U64) :
    (∃ v, f.store.lookup id = some (v, k) ∧ f.dereg id k = (some v, { store := f.store.erase id })) ∨
      (∀ v, f.store.lookup id ≠ some (v, k)) ∧ f.dereg id k = (none, f) := by
  rw [dereg]
  cases found : f.store.lookup id with
  | none => exact .inr ⟨nofun, rfl⟩
  | some entry =>
    obtain ⟨v, key⟩ := entry
    by_cases right : key = k
    · subst key
      exact .inl ⟨v, rfl, if_pos rfl⟩
    · refine .inr ⟨?_, if_neg right⟩
      intro w same
      cases same
      exact right rfl

/-- No key is the zero that replies to queries carry. -/
def KeysNonzero (f : Factory K V) : Prop := ∀ n v k, f.store.lookup n = some (v, k) → k ≠ 0

theorem KeysNonzero.dereg {f : Factory K V} (nonzero : f.KeysNonzero) (id : K) (key : U64) :
    (f.dereg id key).2.KeysNonzero := by
  rcases f.dereg_cases id key with ⟨w, _, removed⟩ | ⟨_, unchanged⟩
  · rw [removed]
    intro n v k found
    by_cases same : n = id
    · subst n
      rw [Finmap.lookup_erase] at found
      cases found
    · rw [Finmap.lookup_erase_ne same] at found
      exact nonzero n v k found
  · rw [unchanged]
    exact nonzero

theorem KeysNonzero.insert {f : Factory K V} (nonzero : f.KeysNonzero) (id : K) (w : V) {key : U64} (drawn : key ≠ 0) :
    KeysNonzero { store := f.store.insert id (w, key) } := by
  intro n v k found
  by_cases same : n = id
  · subst n
    rw [Finmap.lookup_insert] at found
    cases found
    exact drawn
  · rw [Finmap.lookup_insert_of_ne _ same] at found
    exact nonzero n v k found

/-- The same names with the same values, and the same keys but for the names in `old`. -/
structure AgreeBut (old : Set K) (f g : Factory K V) : Prop where
  values : ∀ n, g.query n = f.query n
  keys : ∀ n, n ∉ old → g.store.lookup n = f.store.lookup n

namespace AgreeBut

variable {old : Set K} {f g : Factory K V}

theorem mem_iff (agree : AgreeBut old f g) (n : K) : n ∈ g.store ↔ n ∈ f.store := by
  rw [← query_isSome, ← query_isSome, agree.values]

theorem insert (agree : AgreeBut old f g) (n : K) (v : V) (key : U64) :
    AgreeBut old { store := f.store.insert n (v, key) } { store := g.store.insert n (v, key) } := by
  refine ⟨?_, ?_⟩
  · intro m
    rw [query_insert, query_insert, agree.values]
  · intro m new
    by_cases same : m = n
    · subst m
      rw [Finmap.lookup_insert, Finmap.lookup_insert]
    · rw [Finmap.lookup_insert_of_ne _ same, Finmap.lookup_insert_of_ne _ same, agree.keys m new]

theorem erase (agree : AgreeBut old f g) (n : K) :
    AgreeBut old { store := f.store.erase n } { store := g.store.erase n } := by
  refine ⟨?_, ?_⟩
  · intro m
    rw [query_erase, query_erase, agree.values]
  · intro m new
    by_cases same : m = n
    · subst m
      rw [Finmap.lookup_erase, Finmap.lookup_erase]
    · rw [Finmap.lookup_erase_ne same, Finmap.lookup_erase_ne same, agree.keys m new]

theorem dereg (agree : AgreeBut old f g) {n : K} (same : g.store.lookup n = f.store.lookup n) (key : U64) :
    (g.dereg n key).1 = (f.dereg n key).1 ∧ AgreeBut old (f.dereg n key).2 (g.dereg n key).2 := by
  unfold Factory.dereg
  rw [same]
  cases f.store.lookup n with
  | none => exact ⟨rfl, agree⟩
  | some entry =>
    simp only
    split
    · exact ⟨rfl, agree.erase n⟩
    · exact ⟨rfl, agree⟩

end AgreeBut

end Factory

end RLib
