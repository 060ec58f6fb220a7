import RLib.Control.Fetch

namespace RLib

open Bytes Bootstrap Proto Qps RCtrl ConnectManager

variable {A : Type} {R : Nat} [NeZero R]

section Handler

theorem Proto.cString_front {name : ByteBuffer} (terminated : 0 ∈ name) (rest : ByteBuffer) :
    cString (name ++ rest) = .ok (readName name) := by
  rw [cString, if_pos (List.mem_append_left _ terminated), List.takeWhile_append, if_neg]
  · rfl
  · intro whole
    exact readName_nul terminated ((List.takeWhile_prefix _).eq_of_length whole)

theorem Proto.DelRCReq.nameString_terminated {req : DelRCReq} (terminated : 0 ∈ req.name.toList) :
    req.nameString = .ok (readName req.name.toList) :=
  cString_front terminated _

theorem RCtrl.deleteRc_cases {b : ByteBuffer} {req : DelRCReq} (parsed : dedump DelRCReq.format b = some req)
    (terminated : 0 ∈ req.name.toList) (s : Server A R) :
    (∃ p, s.registeredQps.store.lookup (readName req.name.toList) = some (p, req.key) ∧
      deleteRc b s = (.ok (RCReply.bare .Ok),
        drop { s with registeredQps := { store := s.registeredQps.store.erase (readName req.name.toList) } } p)) ∨
    (∀ p, s.registeredQps.store.lookup (readName req.name.toList) ≠ some (p, req.key)) ∧
      deleteRc b s = (.ok (RCReply.bare .WrongArg), s) := by
  have readable := DelRCReq.nameString_terminated terminated
  have deletes := deleteRc_deletes b s
  generalize deleteRc b s = outcome at deletes
  cases deletes with
  | unparsed failed => cases parsed.symm.trans failed
  | unreadable parsed' failed =>
    cases parsed.symm.trans parsed'
    cases readable.symm.trans failed
  | unknown parsed' named absent =>
    cases parsed.symm.trans parsed'
    cases readable.symm.trans named
    exact .inr ⟨absent, rfl⟩
  | @deleted _ _ p parsed' named found =>
    cases parsed.symm.trans parsed'
    cases readable.symm.trans named
    exact .inl ⟨p, found, rfl⟩

/-- `delete_rc` tells apart a name with its key, a name with another key and a name that is not there, and removes
    just the entry of the first. -/
structure RCtrl.DeleteDistinguishes (req : DelRCReq) (name : Name) (b : ByteBuffer) (s : Server A R) : Prop where
  ok : (deleteRc b s).1 = .ok (RCReply.bare .Ok) ↔ ∃ p, s.registeredQps.store.lookup name = some (p, req.key)
  removes : (∃ p, s.registeredQps.store.lookup name = some (p, req.key)) →
    (deleteRc b s).2.registeredQps.store = s.registeredQps.store.erase name
  authErr : (deleteRc b s).1 = .ok (RCReply.bare .AuthErr) ↔
    ∃ p key, s.registeredQps.store.lookup name = some (p, key) ∧ key ≠ req.key
  wrongArg : (deleteRc b s).1 = .ok (RCReply.bare .WrongArg) ↔ name ∉ s.registeredQps.store
  keeps : (¬∃ p, s.registeredQps.store.lookup name = some (p, req.key)) → (deleteRc b s).2 = s

/-- `delete_rc` tells the three cases apart unless the name is there with another key. -/
theorem RCtrl.deleteDistinguishes_iff {b : ByteBuffer} {req : DelRCReq} (parsed : dedump DelRCReq.format b = some req)
    (terminated : 0 ∈ req.name.toList) (s : Server A R) :
    DeleteDistinguishes req (readName req.name.toList) b s ↔
      ¬∃ p key, s.registeredQps.store.lookup (readName req.name.toList) = some (p, key) ∧ key ≠ req.key := by
  rcases deleteRc_cases parsed terminated s with ⟨p, found, deleted⟩ | ⟨absent, refused⟩
  · have sameKey :
        ¬∃ p key, s.registeredQps.store.lookup (readName req.name.toList) = some (p, key) ∧ key ≠ req.key := by
      intro ⟨q, key, other, differs⟩
      cases found.symm.trans other
      exact differs rfl
    refine iff_of_true ?_ sameKey
    constructor
    · rw [deleted]
      exact iff_of_true rfl ⟨p, found⟩
    · rw [deleted]
      exact fun _ => rfl
    · rw [deleted]
      exact iff_of_false (RCReply.bare_ne (by decide)) sameKey
    · rw [deleted]
      exact iff_of_false (RCReply.bare_ne (by decide)) (not_not_intro (Finmap.mem_of_lookup_eq_some found))
    · exact fun missing => absurd ⟨p, found⟩ missing
  · have missing : ¬∃ p, s.registeredQps.store.lookup (readName req.name.toList) = some (p, req.key) :=
      fun ⟨p, found⟩ => absent p found
    constructor
    · intro distinguishes otherKey
      have answered := distinguishes.authErr.mpr otherKey
      rw [refused] at answered
      exact RCReply.bare_ne (by decide) answered
    · intro noOtherKey
      have unregistered : readName req.name.toList ∉ s.registeredQps.store := by
        intro registered
        obtain ⟨⟨p, key⟩, found⟩ := Finmap.mem_iff.mp registered
        by_cases same : key = req.key
        · rw [same] at found
          exact absent p found
        · exact noOtherKey ⟨p, key, found, same⟩
      constructor
      · rw [refused]
        exact iff_of_false (RCReply.bare_ne (by decide)) missing
      · exact fun found => absurd found missing
      · rw [refused]
        exact iff_of_false (RCReply.bare_ne (by decide)) noOtherKey
      · rw [refused]
        exact iff_of_true rfl unregistered
      · rw [refused]
        exact fun _ => rfl

theorem published_lookup : published.registeredQps.store.lookup [113] = some (0, 1) := Finmap.lookup_singleton_eq

theorem RCtrl.deleteDistinguishes_published :
    DeleteDistinguishes ⟨nameField [113], 1⟩ [113] (dump DelRCReq.format ⟨nameField [113], 1⟩) published := by
  apply (deleteDistinguishes_iff (dedump_self _ _) (by decide) published).mpr
  intro ⟨p, key, found, differs⟩
  cases published_lookup.symm.trans found
  exact differs rfl

/-- The QP "q" is there, but with key 1. -/
theorem RCtrl.otherKey_wrongArg :
    (deleteRc (dump DelRCReq.format ⟨nameField [113], 2⟩) published).1 = .ok (RCReply.bare .WrongArg) ∧
      ¬DeleteDistinguishes ⟨nameField [113], 2⟩ [113] (dump DelRCReq.format ⟨nameField [113], 2⟩) published := by
  have refused : (deleteRc (dump DelRCReq.format ⟨nameField [113], 2⟩) published).1 = .ok (RCReply.bare .WrongArg) := by
    rcases deleteRc_cases (dedump_self DelRCReq.format ⟨nameField [113], 2⟩) (by decide) published with
      ⟨p, found, _⟩ | ⟨_, refused⟩
    · cases published_lookup.symm.trans found
    · rw [refused]
  refine ⟨refused, ?_⟩
  intro distinguishes
  have answered := distinguishes.authErr.mpr ⟨0, 1, published_lookup, by decide⟩
  rw [refused] at answered
  exact RCReply.bare_ne (by decide) answered

end Handler

section Client

variable {ω : Type} (growth : StringGrowth) (net : Network ω) (name : ByteBuffer) (key : U64)

def DeleteRefused (cm : ConnectManager ω) : Prop :=
  ∃ res after, cm.call growth net DeleteRC (dump DelRCReq.format ⟨nameField name, key⟩) = (.ok res, after) ∧
    res.code ≠ .Ok

/-- The call goes out, and this is what `receive_reply` gives for it. -/
def DeleteReplied (cm : ConnectManager ω) (resReply : Result ByteBuffer) : Prop :=
  cm.Replied growth net DeleteRC (dump DelRCReq.format ⟨nameField name, key⟩) resReply

/-- A reply that decodes as an `RCReply` with this status. -/
def Tells (resReply : Result ByteBuffer) (status : U8) : Prop :=
  resReply.code = .Ok ∧ ∃ r, dedump RCReply.format resReply.desc = some r ∧ r.status = status

/-- `delete_remote_rc` returns, and what it returns is `Ok` exactly when the server's reply says so. -/
def DeleteFaithful (cm : ConnectManager ω) : Prop :=
  ∃ res, (deleteRemoteRc growth net name key cm).1 = .ok (some res) ∧
    (res.code = .Ok ↔ name.length ≤ kMaxQPNameLen ∧
      ∃ resReply, DeleteReplied growth net name key cm resReply ∧ Tells resReply CallbackStatus.Ok.byte)

/-- The request is not sent, or a reply to it has a status that is looked at. -/
def DeleteAnswered (cm : ConnectManager ω) : Prop :=
  kMaxQPNameLen < name.length ∨ DeleteRefused growth net name key cm ∨
    ∃ resReply, DeleteReplied growth net name key cm resReply ∧
      ∃ status ∈ [CallbackStatus.Ok, CallbackStatus.WrongArg, CallbackStatus.AuthErr], Tells resReply status.byte

theorem Tells.unique {resReply : Result ByteBuffer} {status status' : U8} (told : Tells resReply status)
    (told' : Tells resReply status') : status = status' := by
  obtain ⟨_, r, decoded, same⟩ := told
  obtain ⟨_, r', decoded', same'⟩ := told'
  cases decoded.symm.trans decoded'
  exact same.symm.trans same'

theorem deleteReplied_cases (resReply : Result ByteBuffer) :
    (∃ res, deleteReplied resReply = some res ∧ (res.code = .Ok ↔ Tells resReply CallbackStatus.Ok.byte) ∧
      ∃ status ∈ [CallbackStatus.Ok, CallbackStatus.WrongArg, CallbackStatus.AuthErr], Tells resReply status.byte) ∨
    deleteReplied resReply = none ∧
      ¬∃ status ∈ [CallbackStatus.Ok, CallbackStatus.WrongArg, CallbackStatus.AuthErr], Tells resReply status.byte := by
  unfold deleteReplied
  by_cases ok : resReply.code = .Ok
  · rw [if_pos ok]
    cases decoded : dedump RCReply.format resReply.desc with
    | none =>
      refine .inr ⟨rfl, ?_⟩
      intro ⟨status, _, _, r, present, _⟩
      cases decoded.symm.trans present
    | some r =>
      have told : Tells resReply r.status := ⟨ok, r, decoded, rfl⟩
      simp only
      by_cases isOk : r.status = CallbackStatus.Ok.byte
      · rw [if_pos isOk]
        rw [isOk] at told
        exact .inl ⟨_, rfl, iff_of_true rfl told, .Ok, by decide, told⟩
      · have notOk : ¬Tells resReply CallbackStatus.Ok.byte := fun other => isOk (told.unique other)
        rw [if_neg isOk]
        by_cases isWrongArg : r.status = CallbackStatus.WrongArg.byte
        · rw [if_pos isWrongArg]
          rw [isWrongArg] at told
          exact .inl ⟨_, rfl, iff_of_false (by decide) notOk, .WrongArg, by decide, told⟩
        · rw [if_neg isWrongArg]
          by_cases isAuthErr : r.status = CallbackStatus.AuthErr.byte
          · rw [if_pos isAuthErr]
            rw [isAuthErr] at told
            exact .inl ⟨_, rfl, iff_of_false (by decide) notOk, .AuthErr, by decide, told⟩
          · rw [if_neg isAuthErr]
            refine .inr ⟨rfl, ?_⟩
            intro ⟨status, listed, other⟩
            have same := told.unique other
            rcases List.mem_cons.mp listed with rfl | listed
            · exact isOk same
            · rcases List.mem_cons.mp listed with rfl | listed
              · exact isWrongArg same
              · rw [List.mem_singleton.mp listed] at same
                exact isAuthErr same
  · rw [if_neg ok]
    exact .inr ⟨rfl, fun ⟨_, _, told⟩ => ok told.1⟩

variable {growth net name key} {cm after : ConnectManager ω} {res : Result ByteBuffer}

theorem deleteRefused_iff
    (called : cm.call growth net DeleteRC (dump DelRCReq.format ⟨nameField name, key⟩) = (.ok res, after)) :
    DeleteRefused growth net name key cm ↔ res.code ≠ .Ok := by
  constructor
  · intro ⟨_, _, same, refused⟩
    cases called.symm.trans same
    exact refused
  · exact fun refused => ⟨res, after, called, refused⟩

theorem deleteReplied_iff
    (called : cm.call growth net DeleteRC (dump DelRCReq.format ⟨nameField name, key⟩) = (.ok res, after))
    (resReply : Result ByteBuffer) :
    DeleteReplied growth net name key cm resReply ↔ res.code = .Ok ∧ after.receiveReply.1 = .ok resReply := by
  constructor
  · intro ⟨_, _, same, replied⟩
    cases called.symm.trans same
    exact replied
  · exact fun replied => ⟨res, after, called, replied⟩

theorem DeleteReplied.sent {resReply : Result ByteBuffer} (given : DeleteReplied growth net name key cm resReply) :
    ¬DeleteRefused growth net name key cm := by
  obtain ⟨res, sent, called, ok, _⟩ := given
  exact fun refused => (deleteRefused_iff called).mp refused ok

theorem deleteRemoteRc_sent (short : name.length ≤ kMaxQPNameLen)
    (called : cm.call growth net DeleteRC (dump DelRCReq.format ⟨nameField name, key⟩) = (.ok res, after))
    (ok : res.code = .Ok) :
    (deleteRemoteRc growth net name key cm).1 = after.receiveReply.1.map deleteReplied := by
  rw [deleteRemoteRc, if_neg (Nat.not_lt.mpr short), called]
  simp only [if_neg (not_not_intro ok)]
  rcases after.receiveReply with ⟨e | resReply, later⟩
  · rfl
  · rfl

theorem deleteRemoteRc_replied (short : name.length ≤ kMaxQPNameLen) {resReply : Result ByteBuffer}
    (given : DeleteReplied growth net name key cm resReply) :
    (deleteRemoteRc growth net name key cm).1 = .ok (deleteReplied resReply) := by
  obtain ⟨res, sent, called, ok, received⟩ := given
  rw [deleteRemoteRc_sent short called ok, received]
  rfl

theorem deleteRemoteRc_unsent (kept : kMaxQPNameLen < name.length ∨ DeleteRefused growth net name key cm) :
    ∃ res, (deleteRemoteRc growth net name key cm).1 = .ok (some res) ∧ res.code ≠ .Ok := by
  by_cases long : kMaxQPNameLen < name.length
  · exact ⟨⟨.Err, errNameToLong⟩, congrArg Prod.fst (if_pos long), by decide⟩
  · obtain ⟨res, after, called, refused⟩ := kept.resolve_left long
    refine ⟨res, ?_, refused⟩
    rw [deleteRemoteRc, if_neg long, called]
    dsimp only
    rw [if_pos refused]

theorem deleteFaithful_sent (short : name.length ≤ kMaxQPNameLen)
    (called : cm.call growth net DeleteRC (dump DelRCReq.format ⟨nameField name, key⟩) = (.ok res, after))
    (ok : res.code = .Ok) :
    DeleteFaithful growth net name key cm ↔ ∃ resReply, DeleteReplied growth net name key cm resReply ∧
      ∃ status ∈ [CallbackStatus.Ok, CallbackStatus.WrongArg, CallbackStatus.AuthErr], Tells resReply status.byte := by
  simp only [DeleteFaithful, deleteRemoteRc_sent short called ok, short, true_and, deleteReplied_iff called, ok]
  cases after.receiveReply.1 with
  | error e =>
    apply iff_of_false
    · intro ⟨_, returned, _⟩
      cases returned
    · intro ⟨_, given, _⟩
      cases given
  | ok resReply =>
    rcases deleteReplied_cases resReply with ⟨res', returned, code, told⟩ | ⟨nothing, untold⟩
    · refine iff_of_true ⟨res', congrArg Except.ok returned, ?_⟩ ⟨resReply, rfl, told⟩
      rw [code]
      constructor
      · exact fun tells => ⟨resReply, rfl, tells⟩
      · intro ⟨_, same, tells⟩
        cases same
        exact tells
    · apply iff_of_false
      · intro ⟨_, returned, _⟩
        injection returned with returned
        cases nothing.symm.trans returned
      · intro ⟨_, same, told⟩
        cases same
        exact untold told

theorem deleteFaithful_iff (growth : StringGrowth) (net : Network ω) (name : ByteBuffer) (key : U64)
    (cm : ConnectManager ω) : DeleteFaithful growth net name key cm ↔ DeleteAnswered growth net name key cm := by
  unfold DeleteAnswered
  rw [← or_assoc]
  by_cases kept : kMaxQPNameLen < name.length ∨ DeleteRefused growth net name key cm
  · obtain ⟨res, returned, notOk⟩ := deleteRemoteRc_unsent kept
    refine iff_of_true ⟨res, returned, iff_of_false notOk ?_⟩ (.inl kept)
    intro ⟨short, resReply, given, _⟩
    exact kept.elim (Nat.not_lt.mpr short) given.sent
  rw [or_iff_right kept]
  obtain ⟨notLong, sent⟩ := not_or.mp kept
  cases called : cm.call growth net DeleteRC (dump DelRCReq.format ⟨nameField name, key⟩) with
  | mk outcome after =>
    cases outcome with
    | error e =>
      apply iff_of_false
      · intro ⟨_, returned, _⟩
        rw [deleteRemoteRc, if_neg notLong, called] at returned
        cases returned
      · intro ⟨_, ⟨_, _, same, _⟩, _⟩
        cases called.symm.trans same
    | ok res =>
      have ok : res.code = .Ok := not_not.mp (fun refused => sent ((deleteRefused_iff called).mpr refused))
      exact deleteFaithful_sent (Nat.not_lt.mp notLong) called ok

end Client

section Server

variable {ω : Type} {growth : StringGrowth} {net : Network ω} {cm : ConnectManager ω}
  {handlers : RegisteredHandlers (Server A R)} {s s' : Server A R} {name : ByteBuffer} {key : U64}

theorem readName_nameField (short : name.length ≤ kMaxQPNameLen) :
    0 ∈ (nameField name).toList ∧ readName (nameField name).toList = readName name := by
  obtain ⟨rest, same⟩ := nameField_terminated short
  have terminated : 0 ∈ name ++ 0 :: rest := List.mem_append_right _ List.mem_cons_self
  rw [same]
  refine ⟨terminated, ?_⟩
  have front := cString_front terminated []
  rw [List.append_nil, cString_terminated] at front
  injection front with front
  exact front.symm

/-- The server's part in a call of `delete_remote_rc`: it has none where nothing is sent to it, and else the reply that
    the client takes is its answer. -/
inductive DeleteServed (growth : StringGrowth) (net : Network ω) (handlers : RegisteredHandlers (Server A R))
    (name : ByteBuffer) (key : U64) (cm : ConnectManager ω) (s s' : Server A R) : Prop
  | unsent (kept : kMaxQPNameLen < name.length ∨ DeleteRefused growth net name key cm) (same : s' = s)
  | answered (short : name.length ≤ kMaxQPNameLen)
      (own : cm.Answered growth net DeleteRC (dump DelRCReq.format ⟨nameField name, key⟩) handlers s s')

/-- `delete_remote_rc` returns, and returns `Ok` exactly when the server removed what was registered under the name
    and the key. -/
def DeleteRemoves (growth : StringGrowth) (net : Network ω) (name : ByteBuffer) (key : U64) (cm : ConnectManager ω)
    (s s' : Server A R) : Prop :=
  ∃ res, (deleteRemoteRc growth net name key cm).1 = .ok (some res) ∧
    (res.code = .Ok ↔ (∃ p, s.registeredQps.store.lookup name = some (p, key)) ∧ name ∉ s'.registeredQps.store)

/-- The request is sent, and the server reads the name up to a NUL and finds the key under what it read. -/
def DeletesCut (growth : StringGrowth) (net : Network ω) (name : ByteBuffer) (key : U64) (cm : ConnectManager ω)
    (s : Server A R) : Prop :=
  name.length ≤ kMaxQPNameLen ∧ ¬DeleteRefused growth net name key cm ∧ 0 ∈ name ∧
    ∃ p, s.registeredQps.store.lookup (readName name) = some (p, key)

theorem deleteRemoteRc_answered (registered : handlers DeleteRC = some deleteRc) (short : name.length ≤ kMaxQPNameLen)
    (own : cm.Answered growth net DeleteRC (dump DelRCReq.format ⟨nameField name, key⟩) handlers s s') :
    ∃ res, (deleteRemoteRc growth net name key cm).1 = .ok (some res) ∧
      ((res.code = .Ok ∧ (∃ p, s.registeredQps.store.lookup (readName name) = some (p, key)) ∧
          s'.registeredQps.store = s.registeredQps.store.erase (readName name)) ∨
        (res.code ≠ .Ok ∧ (∀ p, s.registeredQps.store.lookup (readName name) ≠ some (p, key)) ∧ s' = s)) := by
  obtain ⟨reply, given, outcome⟩ := own
  obtain ⟨terminated, read⟩ := readName_nameField short
  have handled := deleteRc_cases (dedump_self DelRCReq.format ⟨nameField name, key⟩) terminated s
  rw [read] at handled
  rw [RPCFactory.callOne, registered] at outcome
  rw [deleteRemoteRc_replied short given]
  rcases handled with ⟨p, found, deleted⟩ | ⟨absent, refused⟩
  · cases deleted.symm.trans outcome
    rw [deleteReplied, if_pos rfl, RCReply.bare, dedump_self]
    exact ⟨_, rfl, .inl ⟨rfl, ⟨p, found⟩, rfl⟩⟩
  · cases refused.symm.trans outcome
    rw [deleteReplied, if_pos rfl, RCReply.bare, dedump_self]
    exact ⟨_, rfl, .inr ⟨by decide, absent, rfl⟩⟩

theorem deleteRemoves_iff (registered : handlers DeleteRC = some deleteRc)
    (served : DeleteServed growth net handlers name key cm s s') :
    DeleteRemoves growth net name key cm s s' ↔ ¬DeletesCut growth net name key cm s := by
  cases served with
  | unsent kept same =>
    subst same
    obtain ⟨res, returned, notOk⟩ := deleteRemoteRc_unsent kept
    apply iff_of_true
    · refine ⟨res, returned, iff_of_false notOk ?_⟩
      intro ⟨⟨p, found⟩, removed⟩
      exact removed (Finmap.mem_of_lookup_eq_some found)
    · intro ⟨short, sent, _⟩
      exact kept.elim (Nat.not_lt.mpr short) sent
  | answered short own =>
    obtain ⟨reply, given, answer⟩ := own
    have sent : ¬DeleteRefused growth net name key cm := DeleteReplied.sent given
    obtain ⟨res, returned, outcome⟩ := deleteRemoteRc_answered registered short ⟨reply, given, answer⟩
    have unfolded : DeleteRemoves growth net name key cm s s' ↔
        (res.code = .Ok ↔ (∃ p, s.registeredQps.store.lookup name = some (p, key)) ∧
          name ∉ s'.registeredQps.store) := by
      constructor
      · intro ⟨_, same, removes⟩
        cases returned.symm.trans same
        exact removes
      · exact fun removes => ⟨res, returned, removes⟩
    rw [unfolded]
    rcases outcome with ⟨ok, ⟨p, found⟩, erased⟩ | ⟨notOk, absent, same⟩
    · rw [iff_true_left ok, erased]
      by_cases nul : 0 ∈ name
      · apply iff_of_false
        · intro ⟨⟨q, other⟩, removed⟩
          have apart : name ≠ readName name := fun same => readName_nul nul same.symm
          have stays := Finmap.lookup_erase_ne (s := s.registeredQps.store) apart
          exact removed (Finmap.mem_of_lookup_eq_some (stays.trans other))
        · exact not_not_intro ⟨short, sent, nul, p, found⟩
      · rw [readName_free nul] at found ⊢
        exact iff_of_true ⟨⟨p, found⟩, Finmap.notMem_erase_self⟩ (fun cut => nul cut.2.2.1)
    · rw [same]
      refine iff_of_true (iff_of_false notOk ?_) (fun ⟨_, _, _, p, found⟩ => absent p found)
      intro ⟨⟨p, found⟩, removed⟩
      exact removed (Finmap.mem_of_lookup_eq_some found)

end Server

/-- Over any network `delete_remote_rc` is faithful to the reply exactly when there is one to look at or the request
    was not sent; and, where the reply is the server's answer, to its registry unless it reads the name only up to a
    NUL. -/
theorem delete_remote_iff (growth : StringGrowth) (name : ByteBuffer) (key : U64) {ω : Type} (net : Network ω)
    (cm : ConnectManager ω) :
    (DeleteFaithful growth net name key cm ↔ DeleteAnswered growth net name key cm) ∧
    (∀ (handlers : RegisteredHandlers (Server A R)) (s s' : Server A R), handlers DeleteRC = some deleteRc →
      DeleteServed growth net handlers name key cm s s' →
        (DeleteRemoves growth net name key cm s s' ↔ ¬DeletesCut growth net name key cm s)) :=
  ⟨deleteFaithful_iff growth net name key cm, fun _ _ _ registered served => deleteRemoves_iff registered served⟩

def besidePublished : ConnectManager (ServerEnd (Server SimpleAllocator 1)) where
  peer := { channel := RecvChannel.create, server := published }

def unpublished : Server SimpleAllocator 1 := (deleteRc (dump DelRCReq.format ⟨nameField [113], 1⟩) published).2

theorem published_served :
    DeleteServed libstdcxx (exactlyOnce libstdcxx RecvManager.handlers) RecvManager.handlers [113] 1 besidePublished
      published unpublished := by
  obtain ⟨p, found, deleted⟩ | ⟨absent, _⟩ :=
    deleteRc_cases (dedump_self DelRCReq.format ⟨nameField [113], 1⟩) (by decide) published
  · have outcome : deleteRc (dump DelRCReq.format ⟨nameField [113], 1⟩) published =
        (.ok (RCReply.bare .Ok), unpublished) := Prod.ext (by rw [deleted]) rfl
    exact .answered (by decide) (exactlyOnce_answered libstdcxx RecvManager.handlers ⟨rfl, rfl⟩ rfl (by decide)
      (by rw [dump_length]; decide) outcome (by rw [RCReply.bare, dump_length]; decide))
  · exact absurd published_lookup (absent 0)

theorem delete_remote_published :
    DeleteRemoves libstdcxx (exactlyOnce libstdcxx RecvManager.handlers) [113] 1 besidePublished published
      unpublished := by
  apply ((delete_remote_iff libstdcxx [113] 1 _ besidePublished).2 RecvManager.handlers published unpublished rfl
    published_served).mpr
  exact fun cut => absurd cut.2.2.1 (by decide)

def silence : Network Unit := fun _ peer => (⟨.Ok, []⟩, [], peer)

/-- When no reply comes `delete_remote_rc` runs off its end. -/
theorem lost_reply_returns_nothing :
    (deleteRemoteRc libstdcxx silence [113] 1 ⟨{}, [], ()⟩).1 = .ok none ∧
      ¬DeleteFaithful libstdcxx silence [113] 1 ⟨{}, [], ()⟩ := by
  have called : (⟨{}, [], ()⟩ : ConnectManager Unit).call libstdcxx silence DeleteRC
      (dump DelRCReq.format ⟨nameField [113], 1⟩) = (.ok ⟨.Ok, []⟩, ⟨{}, [], ()⟩) := by
    rw [call, call_sends _ _ _ _ _ (by rw [dump_length]; decide)]
    rfl
  have nothing : (deleteRemoteRc libstdcxx silence [113] 1 ⟨{}, [], ()⟩).1 = .ok none := by
    rw [deleteRemoteRc, if_neg (by decide), called]
    rfl
  refine ⟨nothing, ?_⟩
  rintro ⟨_, returned, _⟩
  cases nothing.symm.trans returned

end RLib
